import Typeflow.Proofs.Infer.Returned
import Typeflow.Proofs.Infer.Strategies

set_option autoImplicit false

namespace Typeflow.Infer

open Declarations

section

variable (ds : Declarations) (a b : Ty)

theorem clash_iff : commonType? ds a b = none ↔ ¬ a.equal b ∧ ¬ ds.assignable a b ∧ ¬ ds.assignable b a := by
  unfold commonType?
  split
  next same => simp [same]
  next differ =>
    split
    next flows => simp [flows]
    next stays =>
      split
      next flows => simp [flows]
      next stays' => simp [differ, stays, stays']

theorem clash_either_order : commonType? ds a b = none ↔ commonType? ds b a = none := by
  rw [clash_iff, clash_iff, equal_symm b a, and_comm (a := ¬ ds.assignable a b)]

-- Where both ways are open the second type is taken, whichever it is.
theorem common_of_flows (differ : ¬ a.equal b) (flows : ds.assignable a b) : common ds a b = b := by
  rw [common, commonType?, if_neg differ, if_pos flows, Option.getD_some]

theorem common_of_flows_back (stays : ¬ ds.assignable a b) (flows : ds.assignable b a) : common ds a b = a := by
  rw [common, commonType?, if_neg stays, if_pos flows, ite_self, Option.getD_some]

theorem common_orders_iff :
    (common ds a b).equal (common ds b a) ↔ a.equal b ∨ ¬ (ds.assignable a b ∧ ds.assignable b a) := by
  by_cases same : a.equal b
  · have left : common ds a b = a := by rw [common, commonType?, if_pos same, Option.getD_some]
    have right : common ds b a = b := by rw [common, commonType?, if_pos (equal_symm a b ▸ same), Option.getD_some]
    simp [left, right, same]
  have differ : ¬ b.equal a := by rwa [equal_symm]
  by_cases flows : ds.assignable a b
  · by_cases back : ds.assignable b a
    · rw [common_of_flows ds a b same flows, common_of_flows ds b a differ back]
      simp [same, differ, flows, back]
    · rw [common_of_flows ds a b same flows, common_of_flows_back ds b a back flows]
      simp [Ty.equal_refl, back]
  · by_cases back : ds.assignable b a
    · rw [common_of_flows_back ds a b flows back, common_of_flows ds b a differ back]
      simp [Ty.equal_refl, flows]
    · have clash := (clash_iff ds a b).mpr ⟨same, flows, back⟩
      rw [common, common, clash, (clash_either_order ds a b).mp clash]
      simp [Ty.equal, flows]

theorem clash_warnings_nil_iff (location : Option Location) :
    clashWarnings location (if (commonType? ds a b).isNone then [(a, b)] else []) = [] ↔ commonType? ds a b ≠ none := by
  cases commonType? ds a b <;> simp [clashWarnings]

theorem common_upper (bounded : ∀ t, ds.Bounded (ds.height + 1) t) (knownA : a.isUnknown = false) (knownB : b.isUnknown = false) :
    ds.assignable a (common ds a b) ∧ ds.assignable b (common ds a b) := by
  cases found : commonType? ds a b with
  | none =>
    rw [common, found]
    exact ⟨(assignable_any ds a knownA).1, (assignable_any ds b knownB).1⟩
  | some c =>
    rw [common, found]
    exact common_type_upper ds bounded a b c knownA knownB found

theorem common_known (knownA : a ≠ .unknown) (knownB : b ≠ .unknown) : common ds a b ≠ .unknown := by
  cases found : commonType? ds a b with
  | none =>
    rw [common, found]
    simp
  | some c =>
    rw [common, found, Option.getD_some]
    rcases common_type_cases ds a b c found with ⟨rfl, _⟩ | ⟨rfl, _⟩ | ⟨rfl, _⟩ <;> assumption

end

-- The branches have their types, and the conditional has none yet.
theorem conditional_run (ctx : Context) (s : Site) (condition whenTrue whenFalse : Expr) (p : Progress) (a b : Ty)
    (typed : p.notes.actual whenTrue.id = a) (typed' : p.notes.actual whenFalse.id = b) (knownA : a ≠ .unknown)
    (knownB : b ≠ .unknown) (untyped : p.notes.actual s.id = .unknown) :
    Strategy.operators.infer ctx (.conditional s condition whenTrue whenFalse) p =
      (.ok true, { p with
        notes := p.notes.setActual s.id (common ctx.declarations a b)
        bag := p.bag ++ clashWarnings s.location (if (commonType? ctx.declarations a b).isNone then [(a, b)] else []) }) := by
  have read : actual whenTrue p = (.ok a, p) := by
    rw [← typed]
    rfl
  have read' : actual whenFalse p = (.ok b, p) := by
    rw [← typed']
    rfl
  change inferConditional ctx (.conditional s condition whenTrue whenFalse) whenTrue whenFalse p = _
  rw [inferConditional, bind_run, read]
  simp only [bind_run, read']
  rw [common_type_run]
  exact set_known_run _ (common_known ctx.declarations a b knownA knownB) untyped

open Document in
theorem common_type_in_either_order (unit : UnitDoc) (u : Built) (built : build unit = .ok u) (ctx : Context)
    (declared : ctx.declarations = u.file.declarations) (p : Progress) (s : Site) (a b : Ty) (knownA : a.isUnknown = false)
    (knownB : b.isUnknown = false) :
    ∃ c c' warned warned',
      commonType ctx s.location a b p = (.ok c, { p with bag := p.bag ++ warned }) ∧
      commonType ctx s.location b a p = (.ok c', { p with bag := p.bag ++ warned' }) ∧
      ctx.declarations.assignable a c ∧ ctx.declarations.assignable b c ∧
      (warned = [] ↔ warned' = []) ∧
      (c.equal c' ↔ a.equal b ∨ ¬ (ctx.declarations.assignable a b ∧ ctx.declarations.assignable b a)) ∧
      (¬ a.equal b → ctx.declarations.assignable a b → ctx.declarations.assignable b a → c = b ∧ c' = a) ∧
      (a.comparable → b.comparable → (ctx.declarations.assignable a b ∧ ctx.declarations.assignable b a ↔ a.agrees b)) ∧
      ∀ condition x y, p.notes.actual x.id = a → p.notes.actual y.id = b → p.notes.actual s.id = .unknown →
        Strategy.operators.infer ctx (.conditional s condition x y) p =
          (.ok true, { p with notes := p.notes.setActual s.id c, bag := p.bag ++ warned }) ∧
        Strategy.operators.infer ctx (.conditional s condition y x) p =
          (.ok true, { p with notes := p.notes.setActual s.id c', bag := p.bag ++ warned' }) := by
  have bounded : ∀ t, ctx.declarations.Bounded (ctx.declarations.height + 1) t := by
    rw [declared]
    exact built_bounded unit u built
  have upper := common_upper ctx.declarations a b bounded knownA knownB
  have ran := common_type_run ctx s.location a b p
  have ran' := common_type_run ctx s.location b a p
  refine ⟨_, _, _, _, ran, ran', upper.1, upper.2, ?_, common_orders_iff _ a b, ?_,
    assignable_both_iff _ bounded a b, ?_⟩
  · rw [clash_warnings_nil_iff, clash_warnings_nil_iff]
    exact not_congr (clash_either_order ctx.declarations a b)
  · intro differ flows back
    exact ⟨common_of_flows _ a b differ flows, common_of_flows _ b a (by rwa [equal_symm]) back⟩
  · have isA : a ≠ .unknown := fun unknown => by simp [unknown, Ty.isUnknown] at knownA
    have isB : b ≠ .unknown := fun unknown => by simp [unknown, Ty.isUnknown] at knownB
    intro condition x y typed typed' untyped
    exact ⟨conditional_run ctx s condition x y p a b typed typed' isA isB untyped,
      conditional_run ctx s condition y x p b a typed' typed isB isA untyped⟩

-- Two branches that have their types, and nothing else has.
def yes : Expr := .localRef ⟨1, none⟩ ⟨0, .letBound, "yes"⟩

def no : Expr := .localRef ⟨2, none⟩ ⟨1, .letBound, "no"⟩

def branches (a b : Ty) : Progress := ⟨(Annotations.empty.setActual 1 a).setActual 2 b, [], []⟩

def choice (whenTrue whenFalse : Expr) : Expr := .conditional ⟨0, none⟩ (.localRef ⟨3, none⟩ ⟨2, .letBound, "flag"⟩) whenTrue whenFalse

def animal : Ty := .cls ⟨"Animal", 0⟩ []

def dog : Ty := .cls ⟨"Dog", 0⟩ []

def anyGuest : Ty := .lambda [("guest", animal)] dog

def dogGuest : Ty := .lambda [("guest", dog)] animal

open Document in
theorem lambdas_on_animals_in_either_order :
    ∃ u c c', build zoo = .ok u ∧
      Strategy.operators.infer (.ofFile u.file .empty) (choice yes no) (branches anyGuest dogGuest) = (.ok true, c) ∧
      Strategy.operators.infer (.ofFile u.file .empty) (choice no yes) (branches anyGuest dogGuest) = (.ok true, c') ∧
      (c.notes.actual 0).equal (c'.notes.actual 0) ∧
      u.file.declarations.assignable anyGuest (c.notes.actual 0) ∧
      u.file.declarations.assignable dogGuest (c.notes.actual 0) := by
  obtain ⟨u, built, computed⟩ := built_check zoo (fun u =>
    !u.file.declarations.assignable dogGuest anyGuest) (by decide +kernel)
  obtain ⟨c, c', warned, warned', _, _, left, right, _, orders, _, _, conditional⟩ := common_type_in_either_order zoo u built
    (.ofFile u.file .empty) rfl (branches anyGuest dogGuest) ⟨0, none⟩ anyGuest dogGuest rfl rfl
  obtain ⟨first, second⟩ := conditional (.localRef ⟨3, none⟩ ⟨2, .letBound, "flag"⟩) yes no rfl rfl rfl
  have oneWay : ¬ u.file.declarations.assignable dogGuest anyGuest := by simpa using computed
  have same : c.equal c' := orders.mpr (.inr fun both => oneWay both.2)
  exact ⟨u, _, _, built, first, second, same, left, right⟩

open Document in
theorem dog_and_any_in_either_order :
    ∃ u, build zoo = .ok u ∧
      let first := Strategy.operators.infer (.ofFile u.file .empty) (choice yes no) (branches .any dog)
      let second := Strategy.operators.infer (.ofFile u.file .empty) (choice no yes) (branches .any dog)
      (first.2.notes.actual 0).text = "Dog" ∧ (second.2.notes.actual 0).text = "any" ∧
      (first.2.notes.actual 0).equal (second.2.notes.actual 0) = false ∧
      (common u.file.declarations .any dog).equal (common u.file.declarations dog .any) = false := by
  obtain ⟨u, built, computed⟩ := built_check zoo (fun u =>
    let first := Strategy.operators.infer (.ofFile u.file .empty) (choice yes no) (branches .any dog)
    let second := Strategy.operators.infer (.ofFile u.file .empty) (choice no yes) (branches .any dog)
    (first.2.notes.actual 0).text = "Dog" ∧ (second.2.notes.actual 0).text = "any" ∧
      (first.2.notes.actual 0).equal (second.2.notes.actual 0) = false ∧
      (common u.file.declarations .any dog).equal (common u.file.declarations dog .any) = false) (by decide +kernel)
  exact ⟨u, built, of_decide_eq_true computed⟩

end Typeflow.Infer
