import Typeflow.Proofs.Free
import Typeflow.Proofs.Infer.Derivation

set_option autoImplicit false

namespace Typeflow.Infer

-- The plugin of a strategy, but for references to locals without a type.
def Strategy.watched (otherwise : Context → Expr → InferM Bool) (s : Strategy) : Plugin where
  name := s.name
  claims := s.claims
  infer ctx e :=
    match e with
    | .localRef _ target => do
      if (← localType target).isUnknown then otherwise ctx e
      else s.infer ctx e
    | _ => s.infer ctx e

-- All that a node refers to and does not bind has a type by now.
def Grounded (n : Node) (p : Progress) : Prop := ∀ l, Free l n → p.notes.ofLocal l.id ≠ .unknown

namespace Grounded

variable {n : Node} {ids : List NodeId} {p q : Progress}

theorem after (grounded : Grounded n p) (advance : Advance ids p q) : Grounded n q := by
  intro l free
  rw [advance.locals l.id (grounded l free)]
  exact grounded l free

theorem child (grounded : Grounded n p) (c : Node) (notBlock : ∀ b, n ≠ .block b) (member : c ∈ n.children)
    (opened : ∀ l ∈ n.opens c, p.notes.ofLocal l.id ≠ .unknown) : Grounded c p := by
  intro l free
  by_cases bound : l ∈ n.opens c
  · exact opened l bound
  · exact grounded l (free.of_child n c notBlock member bound)

end Grounded

section

variable {α β : Type} {p : Progress} {x y : InferM α} {f g : α → InferM β}

theorem same_bind (same : x p = y p) (rest : ∀ a q, f a q = g a q) : (x >>= f) p = (y >>= g) p := by
  rw [bind_run, bind_run, same]
  rcases y p with ⟨_ | a, q⟩
  · rfl
  · exact rest a q

theorem notes_same {f g : Annotations → InferM β} (same : f p.notes p = g p.notes p) : (notes >>= f) p = (notes >>= g) p := same

end

section

variable {ctx : Context} {strategies : List Strategy} {otherwise : Context → Expr → InferM Bool}

theorem watched_infer (s : Strategy) (e : Expr) (p : Progress)
    (typed : ∀ site target, e = .localRef site target → p.notes.ofLocal target.id ≠ .unknown) :
    (s.watched otherwise).infer ctx e p = s.infer ctx e p := by
  cases e with
  | localRef site target =>
    change (if (p.notes.ofLocal target.id).isUnknown then otherwise ctx (.localRef site target)
      else s.infer ctx (.localRef site target)) p = _
    rw [if_neg fun unknown => typed site target rfl ((is_unknown_iff _).mp unknown)]
  | _ => rfl

theorem chain_same (e : Expr) (p : Progress)
    (typed : ∀ site target, e = .localRef site target → p.notes.ofLocal target.id ≠ .unknown) :
    Chain.infer (strategies.map (Strategy.watched otherwise)) ctx e p =
      Chain.infer (strategies.map Strategy.plugin) ctx e p := by
  have watched : Chain.lookup? (strategies.map (Strategy.watched otherwise)) e =
      (strategies.find? fun s => s.claims e.kind).map (Strategy.watched otherwise) := List.find?_map ..
  have plain : Chain.lookup? (strategies.map Strategy.plugin) e =
      (strategies.find? fun s => s.claims e.kind).map Strategy.plugin := List.find?_map ..
  rw [Chain.infer, Chain.infer, watched, plain]
  cases strategies.find? fun s => s.claims e.kind with
  | none => rfl
  | some s => exact same_bind (watched_infer s e p typed) fun _ _ => rfl

theorem dispatch_same (e : Expr) (p : Progress)
    (typed : ∀ site target, e = .localRef site target → p.notes.ofLocal target.id ≠ .unknown) :
    dispatch ctx (strategies.map (Strategy.watched otherwise)) e p = dispatch ctx (strategies.map Strategy.plugin) e p :=
  same_bind (chain_same e p typed) fun _ _ => rfl

-- Only two actions ask a plugin, and neither meets a reference to a local without a type.
theorem action_same {n : Node} {wanted : Ty} {done todo : List Step} (action : Action) (fits : action.Fits wanted n done todo)
    (p : Progress) (typed : ∀ site target, n = .expr (.localRef site target) → p.notes.ofLocal target.id ≠ .unknown) :
    action.run ctx (strategies.map (Strategy.watched otherwise)) p = action.run ctx (strategies.map Strategy.plugin) p := by
  cases action with
  | claim e =>
    obtain ⟨rfl, _⟩ := fits
    exact chain_same e p fun site target ref => typed site target (by rw [ref])
  | dispatch e =>
    obtain ⟨rfl, _⟩ := fits
    exact dispatch_same e p fun site target ref => typed site target (by rw [ref])
  | suggest | suggestArgs | default | adopt | element | demand | register => rfl

end

-- What a node refers to has a type when it is met. In a block, where one statement declares what the
-- next ones refer to, this is only so of the statements that are still to come.
structure Settled (ctx : Context) (n : Node) (wanted : Ty) (start : Progress) (done todo : List Step) (found : List Ty)
    (p : Progress) : Prop where
  midway : Midway ctx n wanted start done todo found p
  grounded : (∀ b, n ≠ .block b) → Grounded n start
  following : ∀ b, n = .block b → ∀ l, FreeIn l (partsOf todo) → p.notes.ofLocal l.id ≠ .unknown

section

variable {ctx : Context} {strategies : List Strategy} {otherwise : Context → Expr → InferM Bool} {n : Node} {wanted : Ty}
  {start p q : Progress} {done todo : List Step} {s : Step} {found : List Ty}

namespace Settled

theorem enter (pending : Pending [n] p) (noted : wanted.Noted) (grounded : Grounded n p) :
    Settled ctx n wanted p [] (plan wanted n) [] p where
  midway := .enter pending noted
  grounded _ := grounded
  following := by
    rintro b rfl l free
    have free : FreeIn l (partsOf (visitAll wanted (Node.block b).children)) := free
    rw [parts_of_visits] at free
    exact grounded l ((free_block_iff l b).mpr free)

-- Before the body of a node is met, all that the node binds has a type.
theorem part {type : Annotations → Ty} {c : Node} (settled : Settled ctx n wanted start done (.visit type c :: todo) found p)
    (split : plan wanted n = done ++ .visit type c :: todo) : Grounded c p := by
  have child := plan_child wanted n c done todo _ split List.mem_cons_self
  by_cases isBlock : ∃ b, n = .block b
  · obtain ⟨b, isBlock⟩ := isBlock
    exact fun l free => settled.following b isBlock l ((free_in_cons l c _).mpr (.inl free))
  · have notBlock : ∀ b, n ≠ .block b := fun b same => isBlock ⟨b, same⟩
    refine ((settled.grounded notBlock).after settled.midway.advance).child c notBlock child fun l opened => ?_
    cases c with
    | block b =>
      have unbound := (plan_fits wanted n done todo _ split).1.2 b rfl
      have binds := plan_binds wanted n
      rw [split, bindsOf, List.flatMap_append, List.flatMap_cons, ← bindsOf, ← bindsOf, unbound] at binds
      refine settled.midway.bound l ?_
      rw [← List.append_nil (bindsOf done)]
      exact binds ▸ opened
    | _ => cases opened

theorem next {found' : List Ty} {ids : List NodeId} (settled : Settled ctx n wanted start done (s :: todo) found p)
    (advance : Advance ids p q) (midway : Midway ctx n wanted start (done ++ [s]) todo found' q) :
    Settled ctx n wanted start (done ++ [s]) todo found' q where
  midway := midway
  grounded := settled.grounded
  following b isBlock l free := by
    have kept : p.notes.ofLocal l.id ≠ .unknown → q.notes.ofLocal l.id ≠ .unknown := fun known => by
      rw [advance.locals l.id known]
      exact known
    cases s with
    | visit type c =>
      by_cases declared : l ∈ c.declares
      · -- what the statement declares has a type after it
        have derived := midway.derived c (by simp [Step.parts])
        refine (derived c (mem_nodes_self c)).binders l ?_
        cases c with
        | stmt s =>
          cases s with
          | declare => exact declared
          | _ => cases declared
        | _ => cases declared
      · exact kept (settled.following b isBlock l ((free_in_cons l c _).mpr (.inr ⟨declared, free⟩)))
    | collect | finish | act => exact kept (settled.following b isBlock l free)

end Settled

theorem step_same (split : plan wanted n = done ++ s :: todo)
    (settled : Settled ctx n wanted start done (s :: todo) found p)
    (parts : ∀ c ∈ s.parts, ∀ type q, Pending [c] q → type.Noted → Grounded c q →
      inferPart ctx (strategies.map (Strategy.watched otherwise)) type c q =
        inferPart ctx (strategies.map Strategy.plugin) type c q) :
    s.run ctx (strategies.map (Strategy.watched otherwise)) found p = s.run ctx (strategies.map Strategy.plugin) found p := by
  have fits := (plan_fits wanted n done todo s split).1
  cases s with
  | visit type c =>
    have pending : Pending (c :: partsOf todo) p := settled.midway.pending
    have own := settled.midway.met.whole n List.mem_cons_self n (mem_nodes_self n)
    have noted := wanted_noted fits.1 settled.midway.noted own pending.sound
    refine notes_same (same_bind ?_ fun _ _ => rfl)
    exact parts c List.mem_cons_self (type p.notes) p pending.head noted (settled.part split)
  | collect | finish => rfl
  | act action =>
    refine same_bind (action_same action fits p ?_) fun _ _ => rfl
    rintro site target rfl
    exact (settled.grounded nofun).after settled.midway.advance target (.ref site)

def watchedWalk (strategies : List Strategy) (otherwise : Context → Expr → InferM Bool) (whole : ctx.Whole) :
    Walk sameLogic ctx ctx (strategies.map (Strategy.watched otherwise)) (strategies.map Strategy.plugin) where
  Before n wanted p := Pending [n] p ∧ wanted.Noted ∧ Grounded n p
  Between := Settled ctx
  After _ _ _ _ _ := True
  skip _ _ _ _ _ := trivial
  enter _ _ _ before _ := .enter before.1 before.2.1 before.2.2
  step n wanted start done s todo found p split settled parts := by
    refine ⟨step_same split settled fun c member type q pending noted grounded =>
      (parts c member type q ⟨pending, noted, grounded⟩).1, fun found' q ran => ?_⟩
    have runs : Runs (strategies.map Strategy.plugin) _ _ _ _ := step_runs whole split settled.midway fun c member type q pending noted =>
      infer_part_runs whole c (child_not_file n c (plan_child wanted n c done todo s split member)) type noted q pending
    rw [Runs, ran] at runs
    exact settled.next runs.1 runs.2.2
  leave _ _ _ _ _ _ := trivial

theorem infer_file_same (whole : ctx.Whole) (p : Progress) (pending : Pending [.file ctx.file] p)
    (closed : ∀ l, ¬ Free l (.file ctx.file)) :
    inferFile ctx (strategies.map (Strategy.watched otherwise)) p = inferFile ctx (strategies.map Strategy.plugin) p := by
  have grounded : Grounded (.file ctx.file) p := fun l free => (closed l free).elim
  exact ((watchedWalk strategies otherwise whole).file rfl p ⟨pending, .inl rfl, grounded⟩).1

end

end Typeflow.Infer
