import Typeflow.Proofs.SameValue
import Mathlib.Data.Finset.Dedup
import Mathlib.Data.Fintype.EquivFin

set_option autoImplicit false

namespace Typeflow

-- A moment of a run. Fields belong to the class that declares them, so that an object can have two of
-- one name; which of them a property means, the object decides. Calls, operators, literals and written
-- casts yield whatever they yield at that moment.
structure Moment (V : Type) where
  ofLocal : Local → V
  receiver : V
  classObject : DeclId → V
  declarer : V → String → DeclId
  field : V → DeclId → String → V
  other : Expr → V

def Moment.value {V : Type} (m : Moment V) : Expr → V
  | .cast _ operand _ (some _) => m.value operand
  | .property _ object name => m.field (m.value object) (m.declarer (m.value object) name) name
  | .localRef _ target => m.ofLocal target
  | .fieldRef _ none target => m.field m.receiver target.owner target.name
  | .fieldRef _ (some object) target => m.field (m.value object) target.owner target.name
  | .thisRef .. => m.receiver
  | .staticRef _ decl => m.classObject decl
  | e => m.other e

-- Where a value is read from, whatever the moment.
inductive Place where
  | local (target : Local)
  | receiver
  | classObject (decl : DeclId)
  | field (object : Place) (owner : DeclId) (name : String)
  | property (object : Place) (name : String)
  | other (e : Expr)

def Expr.place : Expr → Place
  | .cast _ operand _ (some _) => operand.place
  | .property _ object name => .property object.place name
  | .localRef _ target => .local target
  | .fieldRef _ none target => .field .receiver target.owner target.name
  | .fieldRef _ (some object) target => .field object.place target.owner target.name
  | .thisRef .. => .receiver
  | .staticRef _ decl => .classObject decl
  | e => .other e

namespace Moment

def read {V : Type} (m : Moment V) : Place → V
  | .local target => m.ofLocal target
  | .receiver => m.receiver
  | .classObject decl => m.classObject decl
  | .field object owner name => m.field (m.read object) owner name
  | .property object name => m.field (m.read object) (m.declarer (m.read object) name) name
  | .other e => m.other e

theorem value_eq_read {V : Type} (m : Moment V) (e : Expr) : m.value e = m.read e.place := by
  fun_induction Expr.place e with
  | case1 s operand target origin ih => rw [value, ih]
  | case2 s object name ih => rw [value, read, ih]
  | case3 s target => rfl
  | case4 s target => rfl
  | case5 s object target ih => rw [value, read, ih]
  | case6 s decl => rfl
  | case7 s decl => rfl
  | case8 e noCast noProperty noLocal noReceiver noField noThis noStatic =>
    cases e with
    | cast s operand target origin =>
      cases origin with
      | none => rfl
      | some origin => exact (noCast _ _ _ _ rfl).elim
    | property => exact (noProperty _ _ _ rfl).elim
    | localRef => exact (noLocal _ _ rfl).elim
    | fieldRef s object target =>
      cases object with
      | none => exact (noReceiver _ _ rfl).elim
      | some object => exact (noField _ _ _ rfl).elim
    | thisRef => exact (noThis _ _ rfl).elim
    | staticRef => exact (noStatic _ _ rfl).elim
    | _ => rfl

end Moment

namespace Place

def owners : Place → List DeclId
  | .field object owner _ => owner :: object.owners
  | .property object _ => object.owners
  | _ => []

-- A moment that keeps all places apart: values are places. A property has to mean some declared
-- field, and it means that of a class which no field reference at hand names.
def free (fresh : DeclId) : Moment Place where
  ofLocal := .local
  receiver := .receiver
  classObject := .classObject
  declarer := fun _ _ => fresh
  field := .field
  other := .other

theorem read_free_inj (fresh : DeclId) (p q : Place) (left : fresh ∉ p.owners) (right : fresh ∉ q.owners)
    (same : (free fresh).read p = (free fresh).read q) : p = q := by
  induction p generalizing q with
  | «local» | receiver | classObject | other => cases q <;> cases same; rfl
  | field object owner name ih =>
    rw [owners, List.mem_cons, not_or] at left
    cases q with
    | field object' owner' name' =>
      rw [owners, List.mem_cons, not_or] at right
      obtain ⟨objects, rfl, rfl⟩ := Place.field.inj same
      rw [ih object' left.2 right.2 objects]
    | property object' name' => exact absurd (Place.field.inj same).2.1.symm left.1
    | _ => cases same
  | property object name ih =>
    cases q with
    | field object' owner' name' =>
      rw [owners, List.mem_cons, not_or] at right
      exact absurd (Place.field.inj same).2.1 right.1
    | property object' name' =>
      obtain ⟨objects, _, rfl⟩ := Place.field.inj same
      rw [ih object' left right objects]
    | _ => cases same

theorem fresh_exists (used : List DeclId) : ∃ fresh, fresh ∉ used := by
  have infinite : Infinite DeclId :=
    .of_injective (fun later => (⟨"", later⟩ : DeclId)) fun _ _ same => congrArg DeclId.later same
  obtain ⟨fresh, unused⟩ := Infinite.exists_notMem_finset used.toFinset
  exact ⟨fresh, fun member => unused (List.mem_toFinset.mpr member)⟩

end Place

theorem value_eq_iff_place (a b : Expr) :
    (∀ (V : Type) (m : Moment V), m.value a = m.value b) ↔ a.place = b.place := by
  constructor
  · intro always
    obtain ⟨fresh, unused⟩ := Place.fresh_exists (a.place.owners ++ b.place.owners)
    rw [List.mem_append, not_or] at unused
    apply Place.read_free_inj fresh _ _ unused.1 unused.2
    rw [← Moment.value_eq_read, ← Moment.value_eq_read]
    exact always Place (Place.free fresh)
  · intro same V m
    rw [m.value_eq_read, m.value_eq_read, same]

-- What an expression is left with when the properties at its end and the casts of narrowing are gone.
def Expr.root : Expr → Expr
  | .cast _ operand _ (some _) => operand.root
  | .property _ object _ => object.root
  | e => e

def Expr.objectPlace : Option Expr → Place
  | none => .receiver
  | some object => object.place

-- The parts of two roots that `sameValue` does not look at.
def Anchored : Expr → Expr → Prop
  | .fieldRef _ object _, .fieldRef _ object' _ => Expr.objectPlace object = Expr.objectPlace object'
  | .staticRef _ decl, .staticRef _ decl' => decl = decl'
  | _, _ => True

theorem place_unwrapped (e : Expr) : e.unwrapped.place = e.place := by
  fun_induction Expr.unwrapped e with
  | case1 s operand target origin ih => rw [ih, Expr.place]
  | case2 e other => rfl

theorem root_unwrapped (e : Expr) : e.unwrapped.root = e.root := by
  fun_induction Expr.unwrapped e with
  | case1 s operand target origin ih => rw [ih, Expr.root]
  | case2 e other => rfl

theorem place_field_ref (s : Site) (object : Option Expr) (target : FieldRef) :
    (Expr.fieldRef s object target).place = .field (Expr.objectPlace object) target.owner target.name := by
  cases object <;> rfl

theorem same_path_places (p : Path) (a b : Expr) (left : a.path = some p) (right : b.path = some p) :
    a.place = b.place ↔ Anchored a.root b.root := by
  have formed := unwrapped_formed a p left
  have formed' := unwrapped_formed b p right
  rw [← place_unwrapped a, ← place_unwrapped b, ← root_unwrapped a, ← root_unwrapped b]
  -- a path is a root with properties after it, and these are the same in both
  induction p generalizing a b with
  | property p name ih =>
    obtain ⟨s, object, shape, below⟩ := formed
    obtain ⟨s', object', shape', below'⟩ := formed'
    have objects := ih object object' below below' (unwrapped_formed object p below) (unwrapped_formed object' p below')
    rw [place_unwrapped, place_unwrapped, root_unwrapped, root_unwrapped] at objects
    rw [shape, shape']
    simp only [Expr.place, Expr.root, Place.property.injEq, and_true]
    exact objects
  | «local» target =>
    obtain ⟨s, shape⟩ := formed
    obtain ⟨s', shape'⟩ := formed'
    simp [shape, shape', Expr.place, Expr.root, Anchored]
  | field owner name =>
    obtain ⟨s, object, target, shape, rfl, rfl⟩ := formed
    obtain ⟨s', object', target', shape', owner, name⟩ := formed'
    rw [shape, shape', place_field_ref, place_field_ref, owner, name]
    simp [Expr.root, Anchored]
  | this =>
    obtain ⟨s, decl, shape⟩ := formed
    obtain ⟨s', decl', shape'⟩ := formed'
    simp [shape, shape', Expr.place, Expr.root, Anchored]
  | static =>
    obtain ⟨s, decl, shape⟩ := formed
    obtain ⟨s', decl', shape'⟩ := formed'
    simp [shape, shape', Expr.place, Expr.root, Anchored]

theorem same_value_evaluates_alike_iff (a b : Expr) (same : a.sameValue b) :
    (∀ (V : Type) (m : Moment V), m.value a = m.value b) ↔ Anchored a.root b.root := by
  obtain ⟨p, left, right⟩ := (same_value_iff a b).mp same
  rw [value_eq_iff_place, same_path_places p a b left right]

private def spot (id : NodeId) : Site := ⟨id, none⟩

private def letBound (id : LocalId) (name : String) : Local := ⟨id, .letBound, name⟩

private def content : FieldRef := ⟨⟨"Box", 0⟩, "content", .any⟩

-- `box.content.size`, where narrowing has cast `box.content` in the one and `box` in the other.
theorem cast_chain_evaluates_alike :
    let a := Expr.property (spot 0)
      (.cast (spot 1) (.fieldRef (spot 2) (some (.localRef (spot 3) (letBound 0 "box"))) content) .any (some 9)) "size"
    let b := Expr.property (spot 4)
      (.fieldRef (spot 5) (some (.cast (spot 6) (.localRef (spot 7) (letBound 0 "box")) .any (some 9))) content) "size"
    a.sameValue b = true ∧ ∀ (V : Type) (m : Moment V), m.value a = m.value b := by
  intro a b
  have same : a.sameValue b = true := by decide +kernel
  exact ⟨same, (same_value_evaluates_alike_iff a b same).mpr rfl⟩

theorem contents_of_two_boxes_differ :
    let a := Expr.fieldRef (spot 0) (some (.localRef (spot 1) (letBound 0 "left"))) content
    let b := Expr.fieldRef (spot 2) (some (.localRef (spot 3) (letBound 1 "right"))) content
    let c := Expr.staticRef (spot 4) ⟨"Box", 0⟩
    let d := Expr.staticRef (spot 5) ⟨"Crate", 0⟩
    a.sameValue b = true ∧ c.sameValue d = true ∧
      ∃ m : Moment Place, m.value a ≠ m.value b ∧ m.value c ≠ m.value d := by
  intro a b c d
  have same : a.sameValue b = true := by decide +kernel
  have classes : c.sameValue d = true := by decide +kernel
  refine ⟨same, classes, Place.free ⟨"Box", 0⟩, ?_, ?_⟩
  · intro equal
    cases equal
  · intro equal
    have names : (⟨"Box", 0⟩ : DeclId) = ⟨"Crate", 0⟩ := Place.classObject.inj equal
    exact absurd names (by decide)

end Typeflow
