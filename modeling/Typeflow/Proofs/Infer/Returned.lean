import Typeflow.Proofs.Document.Built
import Typeflow.Proofs.Document.Cycles
import Typeflow.Proofs.Infer.Moves
import Typeflow.Proofs.Type.Assignability

set_option autoImplicit false

namespace Typeflow.Infer

open Declarations

section

variable (ds : Declarations)

-- The pairs without a common type, in the order in which they are met.
def clashesFrom : Ty → List Ty → List (Ty × Ty)
  | _, [] => []
  | t, u :: rest => (if (commonType? ds t u).isNone then [(t, u)] else []) ++ clashesFrom (common ds t u) rest

def clashes : List Ty → List (Ty × Ty)
  | [] => []
  | t :: rest => clashesFrom ds t rest

theorem joined_snoc (found : List Ty) (t : Ty) (some : found ≠ []) : joined ds (found ++ [t]) = common ds (joined ds found) t := by
  cases found with
  | nil => exact absurd rfl some
  | cons u rest => simp [joined]

theorem common_any_left (t : Ty) (known : t.isUnknown = false) : common ds .any t = t := by
  unfold common commonType?
  split
  next same =>
    cases t with
    | any => rfl
    | _ => simp [Ty.equal] at same
  next => simp [(assignable_any ds t known).2]

theorem common_any_right (t : Ty) (known : t.isUnknown = false) : common ds t .any = .any := by
  unfold common commonType?
  split
  next same =>
    cases t with
    | any => rfl
    | _ => simp [Ty.equal] at same
  next => simp [(assignable_any ds t known).1]

theorem common_type_cases (t u c : Ty) (found : commonType? ds t u = some c) :
    c = t ∧ t.equal u ∨ c = u ∧ ds.assignable t u ∨ c = t ∧ ds.assignable u t := by
  unfold commonType? at found
  split at found
  next same =>
    cases found
    exact .inl ⟨rfl, same⟩
  next =>
    split at found
    next flows =>
      cases found
      exact .inr (.inl ⟨rfl, flows⟩)
    next =>
      split at found
      next flows =>
        cases found
        exact .inr (.inr ⟨rfl, flows⟩)
      next => cases found

theorem joined_member (found : List Ty) (some : found ≠ []) : joined ds found ∈ found ∨ joined ds found = .any := by
  induction found using List.reverseRecOn with
  | nil => exact absurd rfl some
  | append_singleton earlier t ih =>
    by_cases first : earlier = []
    · simp [first, joined]
    · rw [joined_snoc ds earlier t first, common]
      cases found : commonType? ds (joined ds earlier) t with
      | none => exact .inr rfl
      | some c =>
        rcases common_type_cases ds _ t c found with ⟨rfl, _⟩ | ⟨rfl, _⟩ | ⟨rfl, _⟩
        · simpa using (ih first).imp_left .inl
        · simp
        · simpa using (ih first).imp_left .inl

-- No hole, and no lambda with `any` as a part.
def Plain (t : Ty) : Prop := t = .any ∨ t.definite

theorem plain_comparable (t : Ty) (plain : Plain t) : t.comparable := by
  rcases plain with rfl | definite
  · rfl
  · exact definite_comparable t definite

theorem plain_known (t : Ty) (plain : Plain t) : t.isUnknown = false := comparable_known t (plain_comparable t plain)

theorem joined_plain (found : List Ty) (some : found ≠ []) (plain : ∀ t ∈ found, Plain t) : Plain (joined ds found) := by
  rcases joined_member ds found some with member | any
  · exact plain _ member
  · exact .inl any

section

variable (bounded : ∀ t, ds.Bounded (ds.height + 1) t)

include bounded

theorem common_type_upper (t u c : Ty) (left : t.isUnknown = false) (right : u.isUnknown = false)
    (found : commonType? ds t u = some c) : ds.assignable t c ∧ ds.assignable u c := by
  rcases common_type_cases ds t u c found with ⟨rfl, same⟩ | ⟨rfl, flows⟩ | ⟨rfl, flows⟩
  · exact ⟨assignable_refl ds bounded c left, assignable_of_equal ds u c right (equal_symm c u ▸ same)⟩
  · exact ⟨flows, assignable_refl ds bounded c right⟩
  · exact ⟨assignable_refl ds bounded c left, flows⟩

-- Joining one more type keeps covered what is covered, unless the types joined to `any` before.
theorem join_covers (t u v : Ty) (isT : t.definite) (isU : Plain u) (isV : Plain v) (covered : ds.assignable v t) :
    ds.assignable v (common ds t u) ∧ ds.assignable u (common ds t u) := by
  have knownT := (definite_known t isT).1
  have knownU := plain_known u isU
  have knownV := plain_known v isV
  unfold common
  cases found : commonType? ds t u with
  | none => exact ⟨(assignable_any ds v knownV).1, (assignable_any ds u knownU).1⟩
  | some c =>
    obtain ⟨left, right⟩ := common_type_upper ds bounded t u c knownT knownU found
    have isC : c.comparable := by
      rcases common_type_cases ds t u c found with ⟨rfl, _⟩ | ⟨rfl, _⟩ | ⟨rfl, _⟩
      · exact definite_comparable c isT
      · exact plain_comparable c isU
      · exact definite_comparable c isT
    exact ⟨assignable_through ds bounded v t c (plain_comparable v isV) isT isC covered left, right⟩

theorem joined_covers (found : List Ty) (plain : ∀ t ∈ found, Plain t) :
    ∃ earlier later, found = earlier ++ later ∧ (earlier = [] ∨ later ≠ [] ∧ joined ds earlier = .any) ∧
      ∀ t ∈ later, ds.assignable t (joined ds found) := by
  induction found using List.reverseRecOn with
  | nil => exact ⟨[], [], rfl, .inl rfl, fun _ member => absurd member List.not_mem_nil⟩
  | append_singleton found t ih =>
    obtain ⟨plain, isT⟩ := List.forall_mem_append.mp plain
    have isT := isT t List.mem_cons_self
    have known := plain_known t isT
    by_cases first : found = []
    · refine ⟨[], [t], by simp [first], .inl rfl, ?_⟩
      simpa [first, joined] using assignable_refl ds bounded t known
    · rw [joined_snoc ds found t first]
      by_cases any : joined ds found = .any
      · -- the join starts afresh with the last type
        refine ⟨found, [t], rfl, .inr ⟨List.cons_ne_nil _ _, any⟩, ?_⟩
        rw [any, common_any_left ds t known]
        simpa using assignable_refl ds bounded t known
      · obtain ⟨earlier, later, rfl, start, covered⟩ := ih plain
        have isJoined := (joined_plain ds _ first plain).resolve_left any
        have isLater := (List.forall_mem_append.mp plain).2
        have last := (join_covers ds bounded _ t _ isJoined isT (.inr isJoined)
          (assignable_refl ds bounded _ (definite_known _ isJoined).1)).2
        refine ⟨earlier, later ++ [t], by simp, start.imp_right fun fresh => ⟨by simp, fresh.2⟩, ?_⟩
        refine List.forall_mem_append.mpr ⟨fun v member => ?_, by simpa using last⟩
        exact (join_covers ds bounded _ t v isJoined isT (isLater v member) (covered v member)).1

end

theorem clashes_from_append (t : Ty) (found more : List Ty) :
    clashesFrom ds t (found ++ more) = clashesFrom ds t found ++ clashesFrom ds (found.foldl (common ds) t) more := by
  induction found generalizing t with
  | nil => simp [clashesFrom]
  | cons u rest ih => simp [clashesFrom, ih]

theorem joined_definite (found : List Ty) (some : found ≠ []) (definite : ∀ t ∈ found, t.definite)
    (noClash : clashes ds found = []) : (joined ds found).definite := by
  induction found using List.reverseRecOn with
  | nil => exact absurd rfl some
  | append_singleton earlier t ih =>
    obtain ⟨definite, isT⟩ := List.forall_mem_append.mp definite
    have isT := isT t List.mem_cons_self
    cases earlier with
    | nil => exact isT
    | cons u rest =>
      rw [List.cons_append, clashes, clashes_from_append, List.append_eq_nil_iff] at noClash
      have isJoined := ih (List.cons_ne_nil _ _) definite noClash.1
      have last := noClash.2
      rw [joined_snoc ds _ t (List.cons_ne_nil _ _), common]
      cases found : commonType? ds (joined ds (u :: rest)) t with
      | none =>
        rw [joined] at found
        simp [clashesFrom, found] at last
      | some c => rcases common_type_cases ds _ t c found with ⟨rfl, _⟩ | ⟨rfl, _⟩ | ⟨rfl, _⟩ <;> assumption

theorem joined_known (found : List Ty) (known : ∀ t ∈ found, t.isUnknown = false) : (joined ds found).isUnknown = false := by
  by_cases none : found = []
  · rw [none]
    rfl
  · rcases joined_member ds found none with member | any
    · exact known _ member
    · rw [any]
      rfl

theorem joined_any_iff (found : List Ty) (known : ∀ t ∈ found, t.isUnknown = false) :
    joined ds found = .any ↔ ∃ earlier t, found = earlier ++ [t] ∧
      (t = .any ∨ earlier ≠ [] ∧ commonType? ds (joined ds earlier) t = none) := by
  induction found using List.reverseRecOn with
  | nil => simp [joined]
  | append_singleton earlier t _ =>
    obtain ⟨knownEarlier, knownLast⟩ := List.forall_mem_append.mp known
    have knownLast := knownLast t List.mem_cons_self
    have last : (∃ earlier' t', earlier ++ [t] = earlier' ++ [t'] ∧
        (t' = .any ∨ earlier' ≠ [] ∧ commonType? ds (joined ds earlier') t' = none)) ↔
          t = .any ∨ earlier ≠ [] ∧ commonType? ds (joined ds earlier) t = none := by
      simp
    rw [last]
    by_cases first : earlier = []
    · simp [first, joined]
    · rw [joined_snoc ds earlier t first, common]
      cases found : commonType? ds (joined ds earlier) t with
      | none => simp [first]
      | some c =>
        have same : common ds (joined ds earlier) t = c := by rw [common, found, Option.getD_some]
        rw [Option.getD_some]
        constructor
        · rintro rfl
          left
          rcases common_type_cases ds _ t .any found with ⟨any, _⟩ | ⟨any, _⟩ | ⟨any, _⟩
          · rw [← common_any_left ds t knownLast, any, same, ← any]
          · exact any.symm
          · rw [← common_any_left ds t knownLast, any, same, ← any]
        · rintro (rfl | ⟨_, nothing⟩)
          · rw [← same, common_any_right ds _ (joined_known ds earlier knownEarlier)]
          · cases nothing

end

theorem ran_through (x : InferM Unit) (p : Progress) (through : (x p).1.toOption.isSome) : x p = (.ok (), (x p).2) := by
  rcases ran : x p with ⟨_ | done, q⟩
  · simp [ran, Except.toOption] at through
  · rfl

theorem set_actual_ran {e : Expr} {t : Ty} {p q : Progress} (ran : setActual e t p = (.ok (), q)) :
    p.notes.actual e.id = .unknown ∧ q = { p with notes := p.notes.setActual e.id t } := by
  obtain ⟨current, _, read, ran⟩ := bind_ran ran
  cases read
  cases current : p.notes.actual e.id with
  | unknown =>
    rw [current] at ran
    cases ran
    exact ⟨rfl, rfl⟩
  | _ =>
    rw [current] at ran
    cases ran

-- One warning for each clash.
def clashWarnings (location : Option Location) (pairs : List (Ty × Ty)) : Bag :=
  pairs.map fun pair => ⟨.warning, .noCommonType pair.1 pair.2, location⟩

section

variable (ctx : Context)

theorem common_type_run (location : Option Location) (t u : Ty) (p : Progress) :
    commonType ctx location t u p = (.ok (common ctx.declarations t u), { p with
      bag := p.bag ++ clashWarnings location (if (commonType? ctx.declarations t u).isNone then [(t, u)] else []) }) := by
  unfold commonType common
  cases commonType? ctx.declarations t u with
  | none => rfl
  | some c => simp [clashWarnings]; rfl

theorem return_type_run (e : Expr) (t : Ty) (found : List Ty) (p : Progress) (known : t.isUnknown = false)
    (knownAll : ∀ u ∈ found, u.isUnknown = false) :
    returnType ctx e t found p = (.ok (found.foldl (common ctx.declarations) t),
      { p with bag := p.bag ++ clashWarnings e.location (clashesFrom ctx.declarations t found) }) := by
  induction found generalizing t p with
  | nil =>
    cases t with
    | unknown => cases known
    | _ => simp [returnType, clashesFrom, clashWarnings, Ty.orElse]; rfl
  | cons u rest ih =>
    obtain ⟨knownFirst, knownRest⟩ := List.forall_mem_cons.mp knownAll
    have knownCommon : (common ctx.declarations t u).isUnknown = false := by
      unfold common
      cases found : commonType? ctx.declarations t u with
      | none => rfl
      | some c => rcases common_type_cases _ t u c found with ⟨rfl, _⟩ | ⟨rfl, _⟩ | ⟨rfl, _⟩ <;> assumption
    rw [returnType, bind_run, common_type_run]
    · simp only [ih _ _ knownCommon knownRest, clashesFrom, clashWarnings, List.map_append, List.append_assoc,
        List.foldl_cons]
    · rintro rfl
      cases known

theorem finish_lambda_run (s : Site) (params : List Local) (body : Block) (found : List Ty) (p q : Progress)
    (knownAll : ∀ t ∈ found, t.isUnknown = false)
    (ran : finishLambda ctx (.lambda s params .unknown body) params .unknown found p = (.ok (), q)) :
    q.bag = p.bag ++ clashWarnings s.location (clashes ctx.declarations found) ∧ p.notes.actual s.id = .unknown ∧
      q.notes = p.notes.setActual s.id
        (.lambda (params.map fun l => (l.name, p.notes.ofLocal l.id)) (joined ctx.declarations found)) := by
  have result : resultType ctx (.lambda s params .unknown body) .unknown found p = (.ok (joined ctx.declarations found),
      { p with bag := p.bag ++ clashWarnings s.location (clashes ctx.declarations found) }) := by
    cases found with
    | nil => simp [resultType, returnType, joined, clashes, clashWarnings, Ty.isUnknown, Ty.orElse]; rfl
    | cons t rest =>
      obtain ⟨known, knownRest⟩ := List.forall_mem_cons.mp knownAll
      exact return_type_run ctx _ t rest p known knownRest
  obtain ⟨_, _, first, ran⟩ := bind_ran ran
  cases result.symm.trans first
  obtain ⟨untyped, rfl⟩ := set_actual_ran ran
  exact ⟨rfl, untyped, rfl⟩

end

-- Where the computation comes through, the expression has a type.
def Types {α : Type} (e : Expr) (x : InferM α) : Prop := ∀ p a q, x p = (.ok a, q) → q.notes.actual e.id ≠ .unknown

theorem Types.bind {α β : Type} {e : Expr} {x : InferM α} {f : α → InferM β} (second : ∀ a, Types e (f a)) : Types e (x >>= f) := by
  intro p b r ran
  obtain ⟨a, q, _, ran⟩ := bind_ran ran
  exact second a q b r ran

section

variable {ctx : Context} {chain : Chain}

theorem dispatch_types (e : Expr) : Types e (dispatch ctx chain e) := by
  refine .bind fun _ p _ q ran => ?_
  change (if (p.notes.actual e.id).isUnknown then throw (.leftUntyped e.kind e.location) else pure () : InferM Unit) p = _ at ran
  split at ran
  next => cases ran
  next typed =>
    cases ran
    exact fun unknown => typed ((is_unknown_iff _).mpr unknown)

theorem finish_lambda_types (e : Expr) (params : List Local) (returns : Ty) (found : List Ty) :
    Types e (finishLambda ctx e params returns found) := by
  refine .bind fun result => .bind fun known p _ q ran => ?_
  obtain ⟨_, rfl⟩ := set_actual_ran ran
  have typed : (p.notes.setActual e.id (.lambda (params.map fun l => (l.name, known.ofLocal l.id)) result)).actual e.id =
      .lambda (params.map fun l => (l.name, known.ofLocal l.id)) result := updated_same _ _ _
  exact fun unknown => nomatch typed.symm.trans unknown

end

-- The types found so far are those of what was collected, and every expression that the pass is done with has one.
structure Gathered (n : Node) (done todo : List Step) (found : List Ty) (notes : Annotations) : Prop where
  found : found = (collectsOf done).map fun e => notes.actual e.id
  collected : ∀ e ∈ collectsOf done, notes.actual e.id ≠ .unknown
  visited : ∀ e, .expr e ∈ partsOf done → notes.actual e.id ≠ .unknown
  own : ∀ e, n = .expr e → todo = [] → notes.actual e.id ≠ .unknown

-- Types that are noted stay, so that what was gathered before a step is there after it.
theorem Gathered.keep {n : Node} {done todo : List Step} {s : Step} {found : List Ty} {notes later : Annotations}
    (gathered : Gathered n done (s :: todo) found notes) (kept : Retains notes.actual later.actual) :
    found = (collectsOf done).map (fun e => later.actual e.id) ∧
      (∀ e ∈ collectsOf done, later.actual e.id ≠ .unknown) ∧
      ∀ e, .expr e ∈ partsOf done → later.actual e.id ≠ .unknown := by
  refine ⟨gathered.found.trans (List.map_congr_left fun e member => ?_), fun e member => ?_, fun e member => ?_⟩
  · exact (kept e.id (gathered.collected e member)).symm
  · rw [kept e.id (gathered.collected e member)]
    exact gathered.collected e member
  · rw [kept e.id (gathered.visited e member)]
    exact gathered.visited e member

section

variable {allowed : Problem → Prop} {ctx : Context} {chain : Chain}

def Gives (n : Node) (found : List Ty) (notes : Annotations) : Prop :=
  found = n.handed.map (fun e => notes.actual e.id) ∧ (∀ e ∈ n.handed, notes.actual e.id ≠ .unknown) ∧
    ∀ e, n = .expr e → notes.actual e.id ≠ .unknown

theorem step_gathers (wanted : Ty) (n : Node) (done todo : List Step) (s : Step) (found found' : List Ty) (p q : Progress)
    (split : plan wanted n = done ++ s :: todo) (gathered : Gathered n done (s :: todo) found p.notes)
    (moves : Moves allowed p (s.run ctx chain found)) (ran : s.run ctx chain found p = (.ok found', q))
    (parts : ∀ c ∈ s.parts, ∀ type p found q, inferPart ctx chain type c p = (.ok found, q) → Gives c found q.notes) :
    Gathered n (done ++ [s]) todo found' q.notes := by
  obtain ⟨fits, isLast⟩ := plan_fits wanted n done todo s split
  rw [Moves, ran] at moves
  obtain ⟨same, collected, visited⟩ := gathered.keep (moves_fill moves).actual
  have own : s.isLast = false → ∀ e, n = .expr e → todo = [] → q.notes.actual e.id ≠ .unknown := by
    rintro notLast e rfl none
    exact absurd ((isLast rfl).mp none) (by simp [notLast])
  cases s with
  | visit type part =>
    obtain ⟨_, _, read, ran⟩ := bind_ran ran
    cases read
    obtain ⟨more, r, ran, ret⟩ := bind_ran ran
    cases ret
    obtain ⟨given, known, typed⟩ := parts part List.mem_cons_self _ p more q ran
    refine ⟨?_, ?_, fun e member => ?_, own rfl⟩
    · rw [collects_of_snoc, List.map_append, ← same, given]
      rfl
    · rw [collects_of_snoc]
      exact List.forall_mem_append.mpr ⟨collected, known⟩
    · rw [parts_of_snoc, List.mem_append, Step.parts, List.mem_singleton] at member
      exact member.elim (visited e) fun here => typed e here.symm
  | collect e =>
    cases ran
    refine ⟨?_, ?_, by simpa [Step.parts] using visited, own rfl⟩
    · rw [collects_of_snoc, List.map_append, ← same]
      rfl
    · rw [collects_of_snoc]
      exact List.forall_mem_append.mpr ⟨collected, List.forall_mem_singleton.mpr (visited e fits)⟩
  | finish e params returns =>
    obtain ⟨_, r, ran, ret⟩ := bind_ran ran
    cases ret
    refine ⟨by simpa [collects_of_snoc, Step.collects] using same, by simpa [collects_of_snoc, Step.collects] using collected,
      by simpa [Step.parts] using visited, ?_⟩
    obtain ⟨s, body, rfl, rfl, _⟩ := fits
    rintro _ ⟨⟩ _
    exact finish_lambda_types _ params returns _ p () q ran
  | act action =>
    obtain ⟨_, r, ran, ret⟩ := bind_ran ran
    cases ret
    refine ⟨by simpa [collects_of_snoc, Step.collects] using same, by simpa [collects_of_snoc, Step.collects] using collected,
      by simpa [Step.parts] using visited, ?_⟩
    cases action with
    | dispatch e =>
      obtain ⟨rfl, _⟩ := fits
      rintro _ ⟨⟩ _
      exact dispatch_types e p () q ran
    | claim | suggest | suggestArgs | default | adopt | element | demand | register => exact own rfl

def gatheringWalk (steady : Steady allowed ctx chain) : Walk (movesLogic allowed) ctx ctx chain chain where
  Before _ _ _ := True
  Between n _ _ done todo found p := Gathered n done todo found p.notes
  After n _ _ found p := Gives n found p.notes
  skip e _ p _ typed := ⟨rfl, nofun, by rintro _ ⟨⟩; exact typed⟩
  enter n wanted p _ _ := by
    refine ⟨rfl, nofun, nofun, ?_⟩
    rintro e rfl none
    exact absurd none (plan_of_expr wanted e)
  step n wanted _ done s todo found p split gathered parts := by
    have moves := step_moves (p := p) steady s (plan_fits wanted n done todo s split).1 found
      fun c member type q => (parts c member type q trivial).1
    refine ⟨moves, fun found' q ran => step_gathers wanted n done todo s found found' p q split gathered moves ran ?_⟩
    exact fun c member type p found q => (parts c member type p trivial).2 found q
  leave n wanted _ found p gathered := by
    have same := gathered.found
    have typed := gathered.collected
    rw [plan_collects] at same typed
    cases n with
    | stmt | block => exact ⟨same, typed, nofun⟩
    | expr e => exact ⟨rfl, nofun, fun e here => gathered.own e here rfl⟩
    | function | file => exact ⟨rfl, nofun, nofun⟩

theorem infer_block_collects (steady : Steady allowed ctx chain) (wanted : Ty) (b : Block) (p q : Progress) (found : List Ty)
    (ran : inferBlock ctx chain wanted b p = (.ok found, q)) :
    found = b.returned.map (fun e => q.notes.actual e.id) ∧ ∀ e ∈ b.returned, q.notes.actual e.id ≠ .unknown := by
  obtain ⟨same, typed, _⟩ := ((gatheringWalk steady).part (.block b) (by simp) wanted p trivial).2 found q ran
  exact ⟨same, typed⟩

end

theorem lambda_ran {allowed : Problem → Prop} {ctx : Context} {chain : Chain} (steady : Steady allowed ctx chain) (s : Site)
    (params : List Local) (body : Block) (p q : Progress) (untyped : p.notes.actual s.id = .unknown)
    (ran : inferExpr ctx chain (.lambda s params .unknown body) p = (.ok (), q)) :
    ∃ start mid found,
      inferBlock ctx chain (wantedReturn .unknown (start.notes.expected s.id)) body start = (.ok found, mid) ∧
      (∀ t ∈ found, t.isUnknown = false) ∧ found = body.returned.map (fun e => q.notes.actual e.id) ∧
      q.notes.actual s.id =
        .lambda (params.map fun l => (l.name, q.notes.ofLocal l.id)) (joined ctx.declarations found) ∧
      q.bag = mid.bag ++ clashWarnings s.location (clashes ctx.declarations found) := by
  rw [inferExpr, unless_typed_enters _ untyped] at ran
  obtain ⟨_, _, _, ran⟩ := bind_ran ran
  obtain ⟨_, start, _, ran⟩ := bind_ran ran
  obtain ⟨found, mid, ranBody, ran⟩ := bind_ran (x := inferBlock ctx chain (wantedReturn .unknown (start.notes.expected s.id)) body) ran
  obtain ⟨rfl, typed⟩ := infer_block_collects steady _ body start mid found ranBody
  have known : ∀ t ∈ body.returned.map (fun e => mid.notes.actual e.id), t.isUnknown = false := by
    intro t member
    obtain ⟨e, returned, rfl⟩ := List.mem_map.mp member
    exact Bool.eq_false_iff.mpr fun unknown => typed e returned ((is_unknown_iff _).mp unknown)
  obtain ⟨bag, untyped, notes⟩ := finish_lambda_run ctx s params body _ mid q known ran
  have kept : ∀ e ∈ body.returned, q.notes.actual e.id = mid.notes.actual e.id := by
    intro e member
    rw [notes]
    exact updated_other _ _ _ _ fun same => typed e member (same ▸ untyped)
  refine ⟨start, mid, _, ranBody, known, (List.map_congr_left kept).symm, ?_, bag⟩
  rw [notes]
  exact updated_same _ _ _

-- Without a clash nothing joins to `any`, so that the whole list is covered.
theorem joined_covers_all (ds : Declarations) (bounded : ∀ t, ds.Bounded (ds.height + 1) t) (found : List Ty)
    (definite : ∀ t ∈ found, t.definite) (noClash : clashes ds found = []) : ∀ t ∈ found, ds.assignable t (joined ds found) := by
  obtain ⟨earlier, later, rfl, start, covered⟩ := joined_covers ds bounded found fun t member => .inr (definite t member)
  cases earlier with
  | nil => exact covered
  | cons u rest =>
    rw [List.cons_append, clashes, clashes_from_append, List.append_eq_nil_iff] at noClash
    have isJoined := joined_definite ds (u :: rest) (List.cons_ne_nil _ _) (List.forall_mem_append.mp definite).1 noClash.1
    rw [(start.resolve_left (List.cons_ne_nil _ _)).2] at isJoined
    cases isJoined

open Document in
theorem lambda_result_covers (unit : UnitDoc) (u : Built) (built : build unit = .ok u) (ctx : Context)
    (declared : ctx.declarations = u.file.declarations) (strategies : List Strategy) (s : Site) (params : List Local)
    (body : Block) (p q : Progress) (untyped : p.notes.actual s.id = .unknown)
    (ran : inferExpr ctx (strategies.map Strategy.plugin) (.lambda s params .unknown body) p = (.ok (), q)) :
    ∃ start mid found result,
      inferBlock ctx (strategies.map Strategy.plugin) (wantedReturn .unknown (start.notes.expected s.id)) body start =
        (.ok found, mid) ∧
      found = body.returned.map (fun e => q.notes.actual e.id) ∧
      q.notes.actual s.id = .lambda (params.map fun l => (l.name, q.notes.ofLocal l.id)) result ∧
      q.bag = mid.bag ++ clashWarnings s.location (clashes ctx.declarations found) ∧
      ((∀ t ∈ found, t.definite) → clashes ctx.declarations found = [] → ∀ t ∈ found, ctx.declarations.assignable t result) ∧
      ((∀ t ∈ found, Plain t) → ∃ earlier later, found = earlier ++ later ∧
        (earlier = [] ∨ later ≠ [] ∧ joined ctx.declarations earlier = .any) ∧
        ∀ t ∈ later, ctx.declarations.assignable t result) ∧
      (result = .any ↔ ∃ earlier t, found = earlier ++ [t] ∧
        (t = .any ∨ earlier ≠ [] ∧ commonType? ctx.declarations (joined ctx.declarations earlier) t = none)) := by
  have bounded := built_bounded unit u built
  rw [← declared] at bounded
  have steady := strategies_steady ctx strategies
  obtain ⟨start, mid, found, ranBody, known, same, typed, bag⟩ := lambda_ran steady s params body p q untyped ran
  refine ⟨start, mid, found, joined ctx.declarations found, ranBody, same, typed, bag, ?_, ?_, ?_⟩
  · exact joined_covers_all _ bounded found
  · exact joined_covers _ bounded found
  · exact joined_any_iff _ found known

open Document in
-- Dogs and cats are animals, birds are not.
def zoo : UnitDoc where
  path := "zoo.json"
  literals := ⟨"", "", "", "", ""⟩
  classes := [⟨"Animal", [], "", [], []⟩, ⟨"Dog", [], "Animal", [], []⟩, ⟨"Cat", [], "Animal", [], []⟩, ⟨"Bird", [], "", [], []⟩]
  interfaces := []
  enums := []
  functions := []
  main := []

-- A lambda that returns one local after the other, and the locals that it returns.
def tour (count : Nat) : Expr :=
  .lambda ⟨0, none⟩ [] .unknown (.mk ⟨1, none⟩ ((List.range count).map fun i =>
    .ret ⟨2 + 2 * i, none⟩ (some (.localRef ⟨3 + 2 * i, none⟩ ⟨i, .letBound, "visitor"⟩))))

def visitors (classes : List String) : Progress :=
  ⟨{ Annotations.empty with ofLocal := fun i => ((classes[i]?).map fun name => Ty.cls ⟨name, 0⟩ []).getD .unknown }, [], []⟩

open Document in
theorem animals_cover_dogs_and_cats :
    ∃ u q result, build zoo = .ok u ∧
      inferExpr (.ofFile u.file .empty) Chain.default (tour 3) (visitors ["Dog", "Animal", "Cat"]) = (.ok (), q) ∧
      q.notes.actual 0 = .lambda [] result ∧
      ∀ t ∈ [q.notes.actual 3, q.notes.actual 5, q.notes.actual 7], u.file.declarations.assignable t result := by
  obtain ⟨u, built, computed⟩ := built_check zoo (fun u =>
    let r := inferExpr (.ofFile u.file .empty) Chain.default (tour 3) (visitors ["Dog", "Animal", "Cat"])
    let found := [r.2.notes.actual 3, r.2.notes.actual 5, r.2.notes.actual 7]
    r.1.toOption.isSome && found.all Ty.definite && (clashes u.file.declarations found).isEmpty) (by decide +kernel)
  simp only [Bool.and_eq_true, List.all_eq_true, List.isEmpty_iff] at computed
  obtain ⟨⟨through, definite⟩, noClash⟩ := computed
  have ran := ran_through _ _ through
  obtain ⟨_, _, found, result, _, same, typed, _, covers, _⟩ := lambda_result_covers zoo u built (.ofFile u.file .empty) rfl
    Strategy.all ⟨0, none⟩ [] _ _ _ rfl ran
  rw [same] at covers
  exact ⟨u, _, result, built, ran, typed, covers definite noClash⟩

-- The type of the lambda, the types that it returns, what is reported, and whether all is covered.
def toured (file : SourceFile) (classes : List String) : Option (String × List String × List String × Bool) :=
  match inferExpr (.ofFile file .empty) Chain.default (tour classes.length) (visitors classes) with
  | (.ok (), q) =>
    let found := (List.range classes.length).map fun i => q.notes.actual (3 + 2 * i)
    match q.notes.actual 0 with
    | .lambda params result => some ((Ty.lambda params result).text, found.map Ty.text, q.bag.map Diagnostic.message,
        found.all (file.declarations.assignable · result))
    | _ => none
  | _ => none

open Document in
-- After a clash the next type counts alone: birds hide the dogs and cats before them.
theorem birds_hide_dogs_and_cats :
    ∃ u, build zoo = .ok u ∧ toured u.file ["Dog", "Cat", "Bird"] = some ("() => Bird", ["Dog", "Cat", "Bird"],
      ["Could not determine a common type for Dog and Cat, using AnyType instead"], false) := by
  obtain ⟨u, built, computed⟩ := built_check zoo (fun u => toured u.file ["Dog", "Cat", "Bird"] = some ("() => Bird",
    ["Dog", "Cat", "Bird"], ["Could not determine a common type for Dog and Cat, using AnyType instead"], false)) (by decide +kernel)
  exact ⟨u, built, of_decide_eq_true computed⟩

end Typeflow.Infer
