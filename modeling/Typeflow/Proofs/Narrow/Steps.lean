import Typeflow.Narrow.Pass

set_option autoImplicit false

namespace Typeflow.Narrow

variable (p : Progress)

theorem left_eq : ∃ fault, p.left = { p with scopes := p.scopes.tail, fault := fault } := by
  cases stack : p.scopes with
  | nil => exact ⟨(p.failing .notEntered).fault, by simp [Progress.left, stack, Progress.failing]⟩
  | cons => exact ⟨p.fault, by simp [Progress.left, stack]⟩

@[simp] theorem left_fresh : p.left.fresh = p.fresh := by
  obtain ⟨_, left⟩ := left_eq p
  rw [left]

@[simp] theorem left_scopes : p.left.scopes = p.scopes.tail := by
  obtain ⟨_, left⟩ := left_eq p
  rw [left]

@[simp] theorem left_parents : p.left.parents = p.parents := by
  obtain ⟨_, left⟩ := left_eq p
  rw [left]

@[simp] theorem left_notes : p.left.notes = p.notes := by
  obtain ⟨_, left⟩ := left_eq p
  rw [left]

@[simp] theorem left_casts : p.left.casts = p.casts := by
  obtain ⟨_, left⟩ := left_eq p
  rw [left]

theorem left_active : p.left.active ⊆ p.active := by
  obtain ⟨_, left⟩ := left_eq p
  rw [left, Progress.active, Progress.active]
  cases p.scopes <;> simp

section

variable (test subject : Expr) (check : Ty)

@[simp] theorem learned_fresh : (p.learned test subject check).fresh = p.fresh := by
  cases stack : p.scopes <;> simp [Progress.learned, stack]

@[simp] theorem learned_parents : (p.learned test subject check).parents = p.parents := by
  cases stack : p.scopes <;> simp [Progress.learned, stack]

@[simp] theorem learned_notes : (p.learned test subject check).notes = p.notes := by
  cases stack : p.scopes <;> simp [Progress.learned, stack]

@[simp] theorem learned_casts : (p.learned test subject check).casts = p.casts := by
  cases stack : p.scopes <;> simp [Progress.learned, stack]

theorem learned_active : (p.learned test subject check).active ⊆ p.active ++ [⟨test, subject, check, []⟩] := by
  cases stack : p.scopes <;> simp [Progress.learned, stack, Progress.active]

end

section

variable (fact : Fact) (e cast : Expr)

-- A type that the cast has before is a fault, and then it keeps it. Nothing else depends on types.
theorem wrapped_eq : ∃ actual fault, p.wrapped fact e cast =
    { p with
      fresh := p.fresh + 1
      casts := p.casts ++ [(fact.test.id, cast)]
      parents := p.parents.wrap e.id cast.id
      notes := { p.notes with
        actual := actual
        implicitCasts := updated p.notes.implicitCasts fact.test.id (p.notes.implicitCasts fact.test.id ++ [cast.id]) }
      fault := fault } := by
  unfold Progress.wrapped
  split
  · exact ⟨_, _, rfl⟩
  · unfold Progress.typed
    split <;> exact ⟨_, _, rfl⟩

@[simp] theorem wrapped_fresh : (p.wrapped fact e cast).fresh = p.fresh + 1 := by
  obtain ⟨_, _, wrapped⟩ := wrapped_eq p fact e cast
  rw [wrapped]

@[simp] theorem wrapped_scopes : (p.wrapped fact e cast).scopes = p.scopes := by
  obtain ⟨_, _, wrapped⟩ := wrapped_eq p fact e cast
  rw [wrapped]

@[simp] theorem wrapped_active : (p.wrapped fact e cast).active = p.active := by
  rw [Progress.active, wrapped_scopes, Progress.active]

@[simp] theorem wrapped_facts : (p.wrapped fact e cast).facts = p.facts := by
  obtain ⟨_, _, wrapped⟩ := wrapped_eq p fact e cast
  rw [wrapped]

@[simp] theorem wrapped_casts : (p.wrapped fact e cast).casts = p.casts ++ [(fact.test.id, cast)] := by
  obtain ⟨_, _, wrapped⟩ := wrapped_eq p fact e cast
  rw [wrapped]

@[simp] theorem wrapped_parents : (p.wrapped fact e cast).parents = p.parents.wrap e.id cast.id := by
  obtain ⟨_, _, wrapped⟩ := wrapped_eq p fact e cast
  rw [wrapped]

theorem wrapped_implicit : (p.wrapped fact e cast).notes.implicitCasts =
    updated p.notes.implicitCasts fact.test.id (p.notes.implicitCasts fact.test.id ++ [cast.id]) := by
  obtain ⟨_, _, wrapped⟩ := wrapped_eq p fact e cast
  rw [wrapped]

theorem wrapped_typed (known : p.notes.actual e.id ≠ .unknown) (untyped : p.notes.actual cast.id = .unknown) :
    (p.wrapped fact e cast).notes.actual cast.id = fact.check := by
  have typed : p.typed cast.id fact.check = { p with notes := p.notes.setActual cast.id fact.check } := by
    rw [Progress.typed, untyped]
  have plain : ¬ (p.notes.actual e.id).isUnknown := by
    cases type : p.notes.actual e.id with
    | unknown => exact absurd type known
    | _ => exact Bool.false_ne_true
  rw [Progress.wrapped, if_neg plain, typed]
  exact updated_same _ _ _

end

end Typeflow.Narrow
