import Typeflow.Narrow.SameValue

set_option autoImplicit false

namespace Typeflow

inductive Path where
  | local (target : Local)
  | field (owner : DeclId) (name : String)
  | this
  | static
  | property (object : Path) (name : String)
deriving DecidableEq

def Expr.path : Expr → Option Path
  | .cast _ operand _ (some _) => operand.path
  | .property _ object name => object.path.map (.property · name)
  | .localRef _ target => some (.local target)
  | .fieldRef _ _ target => some (.field target.owner target.name)
  | .thisRef .. => some .this
  | .staticRef .. => some .static
  | _ => none

theorem path_unwrapped (e : Expr) : e.unwrapped.path = e.path := by
  fun_induction Expr.unwrapped e with
  | case1 s operand target origin ih => rw [ih, Expr.path]
  | case2 e other => rfl

def Path.Formed : Path → Expr → Prop
  | .local target, e => ∃ s, e = .localRef s target
  | .field owner name, e => ∃ s object target, e = .fieldRef s object target ∧ target.owner = owner ∧ target.name = name
  | .this, e => ∃ s decl, e = .thisRef s decl
  | .static, e => ∃ s decl, e = .staticRef s decl
  | .property p name, e => ∃ s object, e = .property s object name ∧ object.path = some p

theorem unwrapped_formed (e : Expr) (p : Path) (path : e.path = some p) : p.Formed e.unwrapped := by
  fun_induction Expr.unwrapped e with
  | case1 s operand target origin ih => exact ih (by simpa only [Expr.path] using path)
  | case2 e other =>
    cases e with
    | cast s operand target origin =>
      cases origin with
      | none => cases path
      | some origin => exact absurd rfl (other s operand target origin)
    | property s object name =>
      obtain ⟨q, below, rfl⟩ := Option.map_eq_some_iff.mp path
      exact ⟨s, object, rfl, below⟩
    | localRef s target => cases path; exact ⟨s, rfl⟩
    | fieldRef s object target => cases path; exact ⟨s, object, target, rfl, rfl, rfl⟩
    | thisRef s decl => cases path; exact ⟨s, decl, rfl⟩
    | staticRef s decl => cases path; exact ⟨s, decl, rfl⟩
    | _ => cases path

theorem same_value_iff (a b : Expr) : a.sameValue b ↔ ∃ p, a.path = some p ∧ b.path = some p := by
  fun_induction Expr.sameValue a b with
  | case1 s a target origin b ih => simpa only [Expr.path] using ih
  | case2 s a name b s' b' other same ih =>
    rw [← path_unwrapped b, same]
    simp only [Expr.path, Bool.and_eq_true, beq_iff_eq, ih, Option.map_eq_some_iff]
    constructor
    · rintro ⟨rfl, p, left, right⟩
      exact ⟨.property p name, ⟨p, left, rfl⟩, p, right, rfl⟩
    · rintro ⟨_, ⟨p, left, rfl⟩, q, right, equal⟩
      cases equal
      exact ⟨rfl, p, left, right⟩
  | case3 s a name b other =>
    refine ⟨nofun, ?_⟩
    rintro ⟨p, left, right⟩
    obtain ⟨q, _, rfl⟩ := Option.map_eq_some_iff.mp left
    obtain ⟨s', object, formed, _⟩ := unwrapped_formed b _ right
    exact (other s' object name formed).elim
  | case4 s target b s' other same =>
    rw [← path_unwrapped b, same, beq_iff_eq]
    refine ⟨?_, ?_⟩
    · rintro rfl
      exact ⟨_, rfl, rfl⟩
    · rintro ⟨p, left, right⟩
      cases left
      cases right
      rfl
  | case5 s target b other =>
    refine ⟨nofun, ?_⟩
    rintro ⟨p, left, right⟩
    cases left
    obtain ⟨s', formed⟩ := unwrapped_formed b _ right
    exact (other s' target formed).elim
  | case6 s object target b s' object' other same =>
    rw [← path_unwrapped b, same, FieldRef.same, Bool.and_eq_true, beq_iff_eq, beq_iff_eq]
    refine ⟨?_, ?_⟩
    · rintro ⟨owner, name⟩
      exact ⟨_, rfl, by rw [Expr.path, owner, name]⟩
    · rintro ⟨p, left, right⟩
      cases left
      have equal := Path.field.inj (Option.some.inj right)
      exact ⟨equal.1.symm, equal.2.symm⟩
  | case7 s object target b other =>
    refine ⟨nofun, ?_⟩
    rintro ⟨p, left, right⟩
    cases left
    obtain ⟨s', object', target', formed, _⟩ := unwrapped_formed b _ right
    exact (other s' object' target' formed).elim
  | case8 s decl b s' decl' same =>
    rw [← path_unwrapped b, same]
    simp [Expr.path]
  | case9 s decl b other =>
    refine ⟨nofun, ?_⟩
    rintro ⟨p, left, right⟩
    cases left
    obtain ⟨s', decl', formed⟩ := unwrapped_formed b _ right
    exact (other s' decl' formed).elim
  | case10 s decl b s' decl' same =>
    rw [← path_unwrapped b, same]
    simp [Expr.path]
  | case11 s decl b other =>
    refine ⟨nofun, ?_⟩
    rintro ⟨p, left, right⟩
    cases left
    obtain ⟨s', decl', formed⟩ := unwrapped_formed b _ right
    exact (other s' decl' formed).elim
  | case12 a b noCast noProperty noLocal noField noThis noStatic =>
    refine ⟨nofun, ?_⟩
    rintro ⟨p, left, _⟩
    cases a with
    | cast s operand target origin =>
      cases origin with
      | none => cases left
      | some origin => exact (noCast _ _ _ _ rfl).elim
    | property => exact (noProperty _ _ _ rfl).elim
    | localRef => exact (noLocal _ _ rfl).elim
    | fieldRef => exact (noField _ _ _ rfl).elim
    | thisRef => exact (noThis _ _ rfl).elim
    | staticRef => exact (noStatic _ _ rfl).elim
    | _ => cases left

theorem same_value_congr (a a' b b' : Expr) (left : a.path = a'.path) (right : b.path = b'.path) :
    a.sameValue b = a'.sameValue b' := by
  rw [Bool.eq_iff_iff, same_value_iff, same_value_iff, left, right]

end Typeflow
