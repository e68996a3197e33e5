import Typeflow.Proofs.Narrow.Recast
import Typeflow.Proofs.Narrow.Steps
import Typeflow.Proofs.Parents
import Mathlib.Data.List.Forall2

set_option autoImplicit false

namespace Typeflow.Narrow

structure Agrees (f : Fact) (t : Test) : Prop where
  id : f.test.id = t.id
  check : f.check = t.check
  path : f.subject.path = t.operand.path

-- Facts found in the innermost scope. Outside of all scopes none are kept.
def extended : List (List Fact) → List Fact → List (List Fact)
  | [], _ => []
  | found :: outer, more => (found ++ more) :: outer

theorem extended_nil (scopes : List (List Fact)) : extended scopes [] = scopes := by
  cases scopes <;> simp [extended]

theorem extended_append (scopes : List (List Fact)) (more rest : List Fact) :
    extended (extended scopes more) rest = extended scopes (more ++ rest) := by
  cases scopes <;> simp [extended]

structure Clean (p : Progress) : Prop where
  noFault : p.fault = none
  untyped : ∀ id, p.fresh ≤ id → p.notes.actual id = .unknown

-- What a part of a run with nodes `ids` may change. It leaves the tests `left` behind.
structure Ran (ids : List NodeId) (left : List Test) (p q : Progress) : Prop where
  scopes : ∃ found, List.Forall₂ Agrees found left ∧ q.scopes = extended p.scopes found
  fresh : p.fresh ≤ q.fresh
  parents : ∀ id, id ∉ ids → id < p.fresh → q.parents.parent? id = p.parents.parent? id
  expected : q.notes.expected = p.notes.expected
  ofLocal : q.notes.ofLocal = p.notes.ofLocal
  actual : ∀ id, id < p.fresh → q.notes.actual id = p.notes.actual id
  clean : Clean p → Clean q
  untyped : (∀ id, p.notes.actual id = .unknown) → ∀ id, q.notes.actual id = .unknown

namespace Ran

theorem refl (ids : List NodeId) (p : Progress) : Ran ids [] p p where
  scopes := ⟨[], .nil, (extended_nil p.scopes).symm⟩
  fresh := Nat.le_refl _
  parents _ _ _ := rfl
  expected := rfl
  ofLocal := rfl
  actual _ _ := rfl
  clean := id
  untyped := id

theorem trans {ids ids' : List NodeId} {left left' : List Test} {p q r : Progress} (first : Ran ids left p q)
    (second : Ran ids' left' q r) : Ran (ids ++ ids') (left ++ left') p r where
  scopes := by
    obtain ⟨found, agree, scopes⟩ := first.scopes
    obtain ⟨more, agree', scopes'⟩ := second.scopes
    exact ⟨found ++ more, List.rel_append agree agree', by rw [scopes', scopes, extended_append]⟩
  fresh := Nat.le_trans first.fresh second.fresh
  parents id outside old := by
    rw [List.mem_append, not_or] at outside
    rw [second.parents id outside.2 (Nat.lt_of_lt_of_le old first.fresh), first.parents id outside.1 old]
  expected := second.expected.trans first.expected
  ofLocal := second.ofLocal.trans first.ofLocal
  actual id old := by rw [second.actual id (Nat.lt_of_lt_of_le old first.fresh), first.actual id old]
  clean := second.clean ∘ first.clean
  untyped := second.untyped ∘ first.untyped

theorem weaken {ids ids' : List NodeId} {left : List Test} {p q : Progress} (ran : Ran ids left p q)
    (within : ids ⊆ ids') : Ran ids' left p q :=
  { ran with parents := fun id outside => ran.parents id fun inside => outside (within inside) }

theorem around {ids : List NodeId} {left : List Test} {p q : Progress} (ran : Ran ids left p.entered q) :
    Ran ids [] p q.left := by
  obtain ⟨found, _, scopes⟩ := ran.scopes
  have closed : q.left = { q with scopes := p.scopes } := by
    simp [Progress.left, scopes, Progress.entered, extended]
  rw [closed]
  exact ⟨⟨[], .nil, (extended_nil p.scopes).symm⟩, ran.fresh, ran.parents, ran.expected, ran.ofLocal, ran.actual,
    fun before => have clean := ran.clean ⟨before.noFault, before.untyped⟩; ⟨clean.noFault, clean.untyped⟩, ran.untyped⟩

theorem learned (p : Progress) (test subject : Expr) (check : Ty) (t : Test)
    (agrees : Agrees ⟨test, subject, check, []⟩ t) : Ran [] [t] p (p.learned test subject check) := by
  have scopes : (p.learned test subject check).scopes = extended p.scopes [⟨test, subject, check, []⟩] := by
    cases stack : p.scopes <;> simp [Progress.learned, stack, extended]
  have fault : (p.learned test subject check).fault = p.fault := by
    cases stack : p.scopes <;> simp [Progress.learned, stack]
  refine ⟨⟨_, .cons agrees .nil, scopes⟩, ?_, ?_, ?_, ?_, ?_, fun clean => ⟨?_, ?_⟩, ?_⟩
  · rw [learned_fresh]
  · intro id _ _
    rw [learned_parents]
  · rw [learned_notes]
  · rw [learned_notes]
  · intro id _
    rw [learned_notes]
  · rw [fault, clean.noFault]
  · rw [learned_fresh, learned_notes]
    exact clean.untyped
  · rw [learned_notes]
    exact id

theorem wrapped (p : Progress) (fact : Fact) (e cast : Expr) (next : cast.id = p.fresh) :
    Ran [e.id] [] p (p.wrapped fact e cast) := by
  have parents : ∀ id, id ∉ [e.id] → id < p.fresh → (p.parents.wrap e.id cast.id).parent? id = p.parents.parent? id := by
    intro id other old
    exact Parents.parent_wrap _ _ _ _ (fun same => other (List.mem_singleton.mpr same))
      (Nat.ne_of_lt (next ▸ old))
  have scopes : ∃ found, List.Forall₂ Agrees found [] ∧ p.scopes = extended p.scopes found :=
    ⟨[], .nil, (extended_nil p.scopes).symm⟩
  by_cases plain : (p.notes.actual e.id).isUnknown
  · rw [Progress.wrapped, if_pos plain]
    exact ⟨scopes, Nat.le_succ _, parents, rfl, rfl, fun _ _ => rfl,
      fun clean => ⟨clean.noFault, fun id new => clean.untyped id (Nat.le_of_succ_le new)⟩, id⟩
  rw [Progress.wrapped, if_neg plain]
  have known : p.notes.actual e.id ≠ .unknown := fun unknown => plain (by rw [unknown]; rfl)
  by_cases untyped : p.notes.actual cast.id = .unknown
  · have typed : p.typed cast.id fact.check = { p with notes := p.notes.setActual cast.id fact.check } := by
      simp [Progress.typed, untyped]
    rw [typed]
    refine ⟨scopes, Nat.le_succ _, parents, rfl, rfl, fun id old => updated_other _ _ _ _ (Nat.ne_of_lt (next ▸ old)),
      fun clean => ⟨clean.noFault, fun id new => ?_⟩, fun empty => absurd (empty e.id) known⟩
    exact (updated_other _ _ _ _ (Nat.ne_of_gt (next ▸ new))).trans (clean.untyped id (Nat.le_of_succ_le new))
  · have typed : p.typed cast.id fact.check = p.failing (.alreadyTyped (p.notes.actual cast.id) fact.check) := by
      unfold Progress.typed
      split
      · contradiction
      · rfl
    rw [typed]
    exact ⟨scopes, Nat.le_succ _, parents, rfl, rfl, fun _ _ => rfl,
      fun clean => absurd (clean.untyped cast.id (Nat.le_of_eq next.symm)) untyped, fun empty => absurd (empty e.id) known⟩

theorem active {ids : List NodeId} {left known : List Test} {p q : Progress} (ran : Ran ids left p q)
    (kept : p.scopes ≠ [] ∨ left = []) (agree : List.Forall₂ Agrees p.active known) :
    List.Forall₂ Agrees q.active (known ++ left) := by
  obtain ⟨found, more, scopes⟩ := ran.scopes
  rcases kept with inside | rfl
  · cases stack : p.scopes with
    | nil => exact (inside stack).elim
    | cons top outer =>
      have grown : q.active = p.active ++ found := by
        simp [Progress.active, scopes, stack, extended]
      rw [grown]
      exact List.rel_append agree more
  · cases more
    rw [List.append_nil, Progress.active, scopes, extended_nil]
    exact agree

theorem depth {ids : List NodeId} {left : List Test} {p q : Progress} (ran : Ran ids left p q) :
    q.scopes.length = p.scopes.length := by
  obtain ⟨found, _, scopes⟩ := ran.scopes
  rw [scopes]
  cases p.scopes <;> rfl

theorem inside {ids : List NodeId} {left : List Test} {p q : Progress} (ran : Ran ids left p q)
    (inside : p.scopes ≠ []) : q.scopes ≠ [] := by
  rw [← List.length_pos_iff] at inside ⊢
  rwa [ran.depth]

end Ran

-- An expression needs a scope around it, or its tests are forgotten. Statements open one for every expression they
-- have, so that nothing is asked of the blocks of functions and of the block that an alternative is.
def Sheltered (n : Node) (p : Progress) : Prop := p.scopes ≠ [] ∨ n.expr? = none

theorem Sheltered.still {n : Node} {p q : Progress} (sheltered : Sheltered n p) (depth : q.scopes.length = p.scopes.length) :
    Sheltered n q := by
  refine sheltered.imp_left fun inside => ?_
  rw [← List.length_pos_iff] at inside ⊢
  rwa [depth]

-- The computation does in the run `p` what `y` does to the tree and the next free number.
structure Simulates {α : Type} (ids : List NodeId) (left : List Test) (p : Progress) (x : NarrowM α)
    (y : StateM NodeId α) : Prop where
  value : (x p).1 = (y p.fresh).1
  fresh : (x p).2.fresh = (y p.fresh).2
  ran : Ran ids left p (x p).2

namespace Simulates

theorem of_eq {α : Type} {ids : List NodeId} {left : List Test} {p : Progress} {x : NarrowM α} {y : StateM NodeId α}
    (a : α) (q : Progress) (run : x p = (a, q)) (placed : y p.fresh = (a, q.fresh)) (ran : Ran ids left p q) :
    Simulates ids left p x y :=
  ⟨by rw [run, placed], by rw [run, placed], by rwa [run]⟩

theorem map {α β : Type} {ids : List NodeId} {left : List Test} {p : Progress} {x : NarrowM α} {y : StateM NodeId α}
    (first : Simulates ids left p x y) (f : α → β) :
    Simulates ids left p (do let a ← x; return f a) (do let a ← y; return f a) :=
  ⟨congrArg f first.value, first.fresh, first.ran⟩

end Simulates

theorem find_agrees (e out : Expr) (path : out.path = e.path) (facts : List Fact) (known : List Test)
    (agree : List.Forall₂ Agrees facts known) :
    Option.Rel Agrees (facts.find? fun f => out.sameValue f.subject) (known.find? fun t => e.sameValue t.operand) := by
  induction agree with
  | nil => exact .none
  | @cons f t facts known head _ ih =>
    rw [List.find?_cons, List.find?_cons, same_value_congr out e f.subject t.operand path head.path]
    cases e.sameValue t.operand with
    | true => exact .some head
    | false => exact ih

theorem settle_eq (node? : NodeId → Option Node) (out : Expr) (p : Progress) :
    settle node? out p = if isTarget node? p.parents out.id then (out, p) else
      match p.active.find? fun f => out.sameValue f.subject with
      | none => (out, p)
      | some fact => (castFor fact out p.fresh, p.wrapped fact out (castFor fact out p.fresh)) := by
  change (if isTarget node? p.parents out.id then pure out else
      match p.active.find? fun f => out.sameValue f.subject with
      | none => pure out
      | some fact => wrap fact out : NarrowM Expr) p = _
  by_cases left : isTarget node? p.parents out.id
  · rw [if_pos left, if_pos left]
    rfl
  · rw [if_neg left, if_neg left]
    cases p.active.find? fun f => out.sameValue f.subject <;> rfl

theorem settle_simulates (node? : NodeId → Option Node) (target : NodeId → Bool) (choice : Expr → Option Test)
    (known : List Test) (p : Progress) (e out : Expr) (agree : List.Forall₂ Agrees p.active known)
    (targets : isTarget node? p.parents e.id = target e.id) (decided : choice e = chosen target known e)
    (path : out.path = e.path) (site : out.site = e.site) :
    Simulates [e.id] [] p (settle node? out) (place choice e out) := by
  have sameId : out.id = e.id := congrArg Site.id site
  have settled := settle_eq node? out p
  rw [sameId, targets] at settled
  rw [chosen] at decided
  cases isLeft : target e.id with
  | true =>
    rw [isLeft, if_pos rfl] at settled decided
    exact .of_eq out p settled (place_none choice e out _ decided) (.refl _ p)
  | false =>
    rw [isLeft, if_neg Bool.false_ne_true] at settled decided
    have found := find_agrees e out path p.active known agree
    generalize (p.active.find? fun f => out.sameValue f.subject) = fact? at settled found
    generalize (known.find? fun t => e.sameValue t.operand) = test? at decided found
    cases found with
    | none => exact .of_eq out p settled (place_none choice e out _ decided) (.refl _ p)
    | @some fact t agrees =>
      have cast : castFor fact out p.fresh = .cast ⟨p.fresh, e.location⟩ out t.check (some t.id) := by
        rw [castFor, ← agrees.check, ← agrees.id, Expr.location, Expr.location, site]
      have ran : Ran [e.id] [] p (p.wrapped fact out (castFor fact out p.fresh)) :=
        sameId ▸ Ran.wrapped p fact out (castFor fact out p.fresh) rfl
      refine .of_eq _ _ settled ?_ ran
      rw [place_some choice e out _ t decided, wrapped_fresh, cast]

end Typeflow.Narrow
