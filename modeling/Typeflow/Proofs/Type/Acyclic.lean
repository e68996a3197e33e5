import Typeflow.Type.Hierarchy
import Mathlib.Data.List.Perm.Subperm
import Mathlib.Logic.Relation

set_option autoImplicit false

namespace Typeflow

open Relation

-- A cycle can be reached from here.
def ReachesCycle (step : DeclId → DeclId → Prop) (n : DeclId) : Prop := ∃ m, ReflTransGen step n m ∧ TransGen step m m

theorem reaches_cycle_iff_step (step : DeclId → DeclId → Prop) (n : DeclId) :
    ReachesCycle step n ↔ ∃ m, step n m ∧ ReachesCycle step m := by
  constructor
  · rintro ⟨k, path, cycle⟩
    cases path using ReflTransGen.head_induction_on with
    | refl =>
      obtain ⟨m, first, back⟩ := TransGen.head'_iff.mp cycle
      exact ⟨m, first, _, back, cycle⟩
    | head first later => exact ⟨_, first, k, later, cycle⟩
  · rintro ⟨m, first, k, path, cycle⟩
    exact ⟨k, path.head first, cycle⟩

theorem reaches_no_cycle_iff (step : DeclId → DeclId → Prop) (nodes : List DeclId) (closed : ∀ n m, step n m → m ∈ nodes) :
    (∀ n ∈ nodes, ¬ ReachesCycle step n) ↔ ∀ n ∈ nodes, ¬ TransGen step n n := by
  constructor
  · exact fun none n declared cycle => none n declared ⟨n, .refl, cycle⟩
  · rintro acyclic n declared ⟨m, path, cycle⟩
    obtain ⟨k, _, back⟩ := TransGen.tail'_iff.mp cycle
    exact acyclic m (closed k m back) cycle

-- The classes seen all lead to where the walk stands, and no more of them can be different than there are.
theorem loops_iff (base? : DeclId → Option DeclId) (nodes : List DeclId) (declared : ∀ n m, base? n = some m → n ∈ nodes)
    (fuel : Nat) (seen : List DeclId) (id : DeclId) (enough : nodes.length < fuel + seen.length) (distinct : seen.Nodup)
    (known : seen ⊆ nodes) (path : ∀ s ∈ seen, TransGen (fun n m => base? n = some m) s id) :
    loops base? fuel seen id = true ↔ ReachesCycle (fun n m => base? n = some m) id := by
  induction fuel generalizing seen id with
  | zero =>
    have fewer := (distinct.subperm known).length_le
    omega
  | succ fuel ih =>
    rw [loops, reaches_cycle_iff_step]
    cases base : base? id with
    | none => simp
    | some super =>
      by_cases again : id ∈ seen
      · have cycle : ReachesCycle (fun n m => base? n = some m) id := ⟨id, .refl, path id again⟩
        rw [reaches_cycle_iff_step, base] at cycle
        simpa [again] using cycle
      · have walked := ih (id :: seen) super (by simp only [List.length_cons]; omega) (List.nodup_cons.mpr ⟨again, distinct⟩)
          (List.cons_subset.mpr ⟨declared id super base, known⟩)
          (List.forall_mem_cons.mpr ⟨.single base, fun s member => (path s member).tail base⟩)
        simp [again, walked]

namespace Marks

theorem set_same (marks : Marks) (id : DeclId) (mark : Mark) : marks.set id mark id = some mark := by
  simp [set]

theorem set_other (marks : Marks) (id other : DeclId) (mark : Mark) (different : other ≠ id) :
    marks.set id mark other = marks other := by
  simp [set, different]

-- Where the search is done, everything above is done too and no cycle was passed.
structure Sound (bases : DeclId → List DeclId) (marks : Marks) : Prop where
  closed : ∀ n, marks n = some .done → ∀ m ∈ bases n, marks m = some .done
  acyclic : ∀ n, marks n = some .done → ¬ TransGen (fun n m => m ∈ bases n) n n

theorem Sound.reaches {bases : DeclId → List DeclId} {marks : Marks} (sound : marks.Sound bases) (n m : DeclId)
    (done : marks n = some .done) (path : ReflTransGen (fun n m => m ∈ bases n) n m) : marks m = some .done := by
  induction path with
  | refl => exact done
  | tail _ last ih => exact sound.closed _ ih _ last

-- A search that finds nothing takes no mark back and leaves nothing half visited.
structure Grows (before after : Marks) : Prop where
  kept : ∀ n mark, before n = some mark → after n = some mark
  visiting : ∀ n, after n = some .visiting → before n = some .visiting

theorem Grows.refl (marks : Marks) : marks.Grows marks := ⟨fun _ _ marked => marked, fun _ marked => marked⟩

theorem Grows.trans {before between after : Marks} (first : before.Grows between) (second : between.Grows after) :
    before.Grows after where
  kept n mark marked := second.kept n mark (first.kept n mark marked)
  visiting n marked := first.visiting n (second.visiting n marked)

def unmarked (nodes : List DeclId) (marks : Marks) : Nat := nodes.countP fun n => (marks n).isNone

theorem Grows.unmarked_le {before after : Marks} (grows : before.Grows after) (nodes : List DeclId) :
    after.unmarked nodes ≤ before.unmarked nodes := by
  refine List.countP_mono_left fun n _ unmarked => ?_
  cases marked : before n with
  | none => rfl
  | some mark => simp [grows.kept n mark marked] at unmarked

theorem unmarked_set_lt (marks : Marks) (nodes : List DeclId) (id : DeclId) (listed : id ∈ nodes) (fresh : marks id = none)
    (mark : Mark) : (marks.set id mark).unmarked nodes < marks.unmarked nodes := by
  induction nodes with
  | nil => cases listed
  | cons n rest ih =>
    have rest_le : (marks.set id mark).unmarked rest ≤ marks.unmarked rest := by
      refine List.countP_mono_left fun m _ unmarked => ?_
      by_cases same : m = id
      · rw [same, fresh]
        rfl
      · rwa [set_other marks id m mark same] at unmarked
    unfold unmarked at ih rest_le ⊢
    rw [List.countP_cons, List.countP_cons]
    by_cases same : n = id
    · rw [same, fresh, set_same]
      simpa using Nat.lt_succ_of_le rest_le
    · rw [set_other marks id n mark same]
      have later := ih ((List.mem_cons.mp listed).resolve_left (Ne.symm same))
      omega

end Marks

section

variable (bases : DeclId → List DeclId)

-- A search of `ids` names one that leads to a cycle, or it is done with all of them.
def Searched (marks : Marks) (ids : List DeclId) : Option DeclId × Marks → Prop
  | (some id, _) => id ∈ ids ∧ ReachesCycle (fun n m => m ∈ bases n) id
  | (none, after) => after.Sound bases ∧ marks.Grows after ∧ ∀ id ∈ ids, after id = some .done

theorem first_cyclic_cons (visit : DeclId → StateM Marks Bool) (id : DeclId) (rest : List DeclId) (marks : Marks) :
    firstCyclic visit (id :: rest) marks =
      match visit id marks with
      | (true, after) => (some id, after)
      | (false, after) => firstCyclic visit rest after := by
  rw [firstCyclic]
  change (match visit id marks with | (found, after) => (if found then _ else _ : StateM Marks _) after) = _
  rcases visit id marks with ⟨_ | _, after⟩ <;> rfl

theorem cyclic_succ (fuel : Nat) (id : DeclId) (marks : Marks) :
    cyclic bases (fuel + 1) id marks =
      match marks id with
      | some .visiting => (true, marks)
      | some .done => (false, marks)
      | none =>
        match firstCyclic (cyclic bases fuel) (bases id) (marks.set id .visiting) with
        | (some _, after) => (true, after)
        | (none, after) => (false, after.set id .done) := by
  rw [cyclic]
  change (match marks id with | some .visiting => _ | some .done => _ | none => _ : StateM Marks Bool) marks = _
  rcases marks id with _ | _ | _
  · change (match firstCyclic (cyclic bases fuel) (bases id) (marks.set id .visiting) with
      | (found, after) => (if found.isSome then _ else _ : StateM Marks Bool) after) = _
    rcases firstCyclic (cyclic bases fuel) (bases id) (marks.set id .visiting) with ⟨_ | _, after⟩ <;> rfl
  · rfl
  · rfl

variable {bases : DeclId → List DeclId} {nodes : List DeclId}

-- Nothing is being visited that does not lead here, and there is fuel for all that is left to visit.
structure Ready (bases : DeclId → List DeclId) (nodes : List DeclId) (fuel : Nat) (marks : Marks) (id : DeclId) : Prop where
  listed : id ∈ nodes
  path : ∀ n, marks n = some .visiting → TransGen (fun n m => m ∈ bases n) n id
  enough : marks.unmarked nodes < fuel

theorem Ready.grows {fuel : Nat} {before after : Marks} {id : DeclId} (ready : Ready bases nodes fuel before id)
    (grows : before.Grows after) : Ready bases nodes fuel after id where
  listed := ready.listed
  path n visiting := ready.path n (grows.visiting n visiting)
  enough := Nat.lt_of_le_of_lt (grows.unmarked_le nodes) ready.enough

def Visited (bases : DeclId → List DeclId) (marks : Marks) (id : DeclId) : Bool × Marks → Prop
  | (true, _) => ReachesCycle (fun n m => m ∈ bases n) id
  | (false, after) => after.Sound bases ∧ marks.Grows after ∧ after id = some .done

theorem first_cyclic_searched (fuel : Nat) (visit : DeclId → StateM Marks Bool)
    (visits : ∀ id marks, marks.Sound bases → Ready bases nodes fuel marks id → Visited bases marks id (visit id marks))
    (ids : List DeclId) (marks : Marks) (sound : marks.Sound bases) (ready : ∀ id ∈ ids, Ready bases nodes fuel marks id) :
    Searched bases marks ids (firstCyclic visit ids marks) := by
  induction ids generalizing marks with
  | nil => exact ⟨sound, .refl marks, nofun⟩
  | cons id rest ih =>
    have visited := visits id marks sound (ready id List.mem_cons_self)
    rw [first_cyclic_cons]
    rcases ran : visit id marks with ⟨_ | _, between⟩ <;> rw [ran] at visited
    · obtain ⟨sound', grows, done⟩ := visited
      have later := ih between sound' fun other member => (ready other (List.mem_cons_of_mem id member)).grows grows
      dsimp only
      generalize firstCyclic visit rest between = result at later ⊢
      rcases result with ⟨_ | found, after⟩
      · obtain ⟨sound'', grows', others⟩ := later
        exact ⟨sound'', grows.trans grows', List.forall_mem_cons.mpr ⟨grows'.kept id .done done, others⟩⟩
      · exact ⟨List.mem_cons_of_mem id later.1, later.2⟩
    · exact ⟨List.mem_cons_self, visited⟩

theorem sound_set_visiting (marks : Marks) (id : DeclId) (sound : marks.Sound bases) (fresh : marks id = none) :
    (marks.set id .visiting).Sound bases := by
  have done_iff : ∀ n, marks.set id .visiting n = some .done ↔ marks n = some .done := by
    intro n
    by_cases same : n = id
    · simp [same, fresh, Marks.set_same]
    · rw [Marks.set_other marks id n _ same]
  constructor
  · intro n done m base
    exact (done_iff m).mpr (sound.closed n ((done_iff n).mp done) m base)
  · exact fun n done => sound.acyclic n ((done_iff n).mp done)

-- Everything above `id` is done, and `id` itself was still being visited then.
theorem sound_set_done (marks : Marks) (id : DeclId) (sound : marks.Sound bases) (visiting : marks id = some .visiting)
    (above : ∀ m ∈ bases id, marks m = some .done) : (marks.set id .done).Sound bases := by
  have other : ∀ n, marks n = some .done → n ≠ id := by
    rintro n done rfl
    rw [visiting] at done
    cases done
  have done_iff : ∀ n, marks.set id .done n = some .done ↔ n = id ∨ marks n = some .done := by
    intro n
    by_cases same : n = id
    · simp [same, Marks.set_same]
    · simp [same, Marks.set_other]
  constructor
  · intro n done m base
    rw [done_iff] at done ⊢
    rcases done with rfl | done
    · exact .inr (above m base)
    · exact .inr (sound.closed n done m base)
  · intro n done cycle
    rcases (done_iff n).mp done with rfl | done
    · obtain ⟨m, base, back⟩ := TransGen.head'_iff.mp cycle
      exact other n (sound.reaches m n (above m base) back) rfl
    · exact sound.acyclic n done cycle

theorem cyclic_visited (closed : ∀ n m, m ∈ bases n → m ∈ nodes) (fuel : Nat) (id : DeclId) (marks : Marks)
    (sound : marks.Sound bases) (ready : Ready bases nodes fuel marks id) :
    Visited bases marks id (cyclic bases fuel id marks) := by
  induction fuel generalizing id marks with
  | zero => exact absurd ready.enough (Nat.not_lt_zero _)
  | succ fuel ih =>
    rw [cyclic_succ]
    cases marked : marks id with
    | some mark =>
      cases mark with
      | visiting => exact ⟨id, .refl, ready.path id marked⟩
      | done => exact ⟨sound, .refl marks, marked⟩
    | none =>
      have begun := sound_set_visiting marks id sound marked
      have fewer := marks.unmarked_set_lt nodes id ready.listed marked .visiting
      have above : ∀ m ∈ bases id, Ready bases nodes fuel (marks.set id .visiting) m := by
        intro m base
        refine ⟨closed id m base, fun n visiting => ?_, by have := ready.enough; omega⟩
        by_cases same : n = id
        · exact same ▸ .single base
        · rw [Marks.set_other marks id n _ same] at visiting
          exact (ready.path n visiting).tail base
      have searched := first_cyclic_searched fuel (cyclic bases fuel) (fun id marks => ih id marks) (bases id) _ begun above
      dsimp only
      generalize firstCyclic (cyclic bases fuel) (bases id) (marks.set id .visiting) = result at searched ⊢
      rcases result with ⟨_ | found, after⟩
      · obtain ⟨sound', grows, done⟩ := searched
        have still := grows.kept id .visiting (marks.set_same id .visiting)
        refine ⟨sound_set_done after id sound' still done, ?_, after.set_same id .done⟩
        constructor
        · intro n mark before
          have different : n ≠ id := by
            rintro rfl
            rw [marked] at before
            cases before
          rw [Marks.set_other after id n _ different]
          apply grows.kept
          rwa [Marks.set_other marks id n _ different]
        · intro n visiting
          have different : n ≠ id := by
            rintro rfl
            rw [Marks.set_same] at visiting
            cases visiting
          rw [Marks.set_other after id n _ different] at visiting
          have before := grows.visiting n visiting
          rwa [Marks.set_other marks id n _ different] at before
      · obtain ⟨base, cycle⟩ := searched
        exact (reaches_cycle_iff_step _ id).mpr ⟨found, base, cycle⟩

-- With no marks at first, the search finds the first root that leads to a cycle if any does.
theorem search_none_iff (closed : ∀ n m, m ∈ bases n → m ∈ nodes) :
    (firstCyclic (cyclic bases (nodes.length + 1)) nodes fun _ => none).1 = none ↔
      ∀ n ∈ nodes, ¬ TransGen (fun n m => m ∈ bases n) n n := by
  have sound : Marks.Sound bases fun _ => none := ⟨nofun, nofun⟩
  have ready : ∀ id ∈ nodes, Ready bases nodes (nodes.length + 1) (fun _ => none) id :=
    fun id listed => ⟨listed, nofun, Nat.lt_succ_of_le List.countP_le_length⟩
  have searched := first_cyclic_searched _ _ (cyclic_visited closed (nodes.length + 1)) nodes _ sound ready
  rw [← reaches_no_cycle_iff _ nodes closed]
  generalize (firstCyclic (cyclic bases (nodes.length + 1)) nodes fun _ => none) = result at searched ⊢
  rcases result with ⟨_ | id, after⟩
  · obtain ⟨sound', _, done⟩ := searched
    refine iff_of_true rfl fun n listed => ?_
    rintro ⟨m, path, cycle⟩
    exact sound'.acyclic m (sound'.reaches n m (done n listed) path) cycle
  · exact iff_of_false nofun fun none => none id searched.1 searched.2

end

end Typeflow
