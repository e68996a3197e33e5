import Typeflow.Proofs.Type.Equality

set_option autoImplicit false

namespace Typeflow

-- The two have the same names, and each name stands for equal types.
def Bindings.Equal (b b' : Bindings) : Prop := ∀ name, Option.Rel (fun t u => t.equal u) (b.lookup name) (b'.lookup name)

theorem Bindings.Equal.value {b b' : Bindings} (same : b.Equal b') (name : String) : (b.value name).equal (b'.value name) := by
  have found := same name
  rw [Bindings.value, Bindings.value]
  generalize b.lookup name = t, b'.lookup name = u at found
  cases found with
  | none => exact Ty.equal_refl _
  | some equal => exact equal

namespace Ty

theorem equal_equivalence : Equivalence fun a b : Ty => (a.equal b : Prop) where
  refl := equal_refl
  symm {a b} same := by rwa [Declarations.equal_symm b a]
  trans {a b c} := equal_trans a b c

theorem equal_congr (a a' b b' : Ty) (left : a.equal a') (right : b.equal b') : a.equal b = a'.equal b' := by
  have back := equal_equivalence.symm left
  have back' := equal_equivalence.symm right
  rw [Bool.eq_iff_iff]
  exact ⟨fun same => equal_trans a' a b' back (equal_trans a b b' same right),
    fun same => equal_trans a a' b left (equal_trans a' b' b same back')⟩

theorem equal_any (a b : Ty) (same : a.equal b) : a.isAny = b.isAny := by
  cases a <;> cases b <;> simp_all [equal, isAny]

theorem equal_void (a b : Ty) (same : a.equal b) : a.isVoid = b.isVoid := by
  cases a <;> cases b <;> simp_all [equal, isVoid]

theorem equal_lambda (ps : List (String × Ty)) (r b : Ty) (same : (lambda ps r).equal b) :
    ∃ qs s, b = .lambda qs s ∧ equalParams ps qs ∧ r.equal s := by
  cases b with
  | lambda qs s =>
    rw [equal, Bool.and_eq_true] at same
    exact ⟨qs, s, rfl, same⟩
  | _ => simp [equal] at same

theorem substitute_equal (b b' : Bindings) (values : b.Equal b') (t u : Ty) (same : t.equal u) :
    (t.substitute b).equal (u.substitute b') := by
  rw [substitute_equal_iff b b' t u same]
  exact fun name _ => values.value name

end Ty

namespace Declarations

open Ty

section

variable (ds : Declarations)

theorem supertypes_equal (t u : Ty) (same : t.equal u) :
    List.Forall₂ (fun super super' => super.equal super') (ds.supertypes t) (ds.supertypes u) := by
  rw [supertypes, supertypes, declared_supers_equal ds t u same, List.forall₂_map_left_iff, List.forall₂_map_right_iff,
    List.forall₂_same]
  exact fun named _ => seen_from_equal ds t u named same

theorem find_some_related {α β : Type} {R : Ty → Ty → Prop} {S : α → β → Prop} (f : Ty → Option α) (g : Ty → Option β)
    (each : ∀ t u, R t u → Option.Rel S (f t) (g u)) (ts us : List Ty) (related : List.Forall₂ R ts us) :
    Option.Rel S (ts.findSome? f) (us.findSome? g) := by
  induction related with
  | nil => exact .none
  | @cons t u ts us head _ ih =>
    have first := each t u head
    rw [List.findSome?_cons, List.findSome?_cons]
    generalize f t = found, g u = found' at first
    cases first with
    | none => exact ih
    | some related => exact .some related

-- A search goes up two hierarchies of equal types in step, so it stops at the same height in both.
theorem search_related {α β : Type} {S : α → β → Prop} (f : Ty → Option α) (g : Ty → Option β)
    (each : ∀ t u, t.equal u → Option.Rel S (f t) (g u)) (t u : Ty) (same : t.equal u) :
    Option.Rel S (ds.search f t) (ds.search g u) := by
  rw [search, search]
  generalize ds.height = height
  induction height generalizing t u with
  | zero => exact each t u same
  | succ height ih =>
    have here := each t u same
    have above := find_some_related (ds.searchWithin f height) (ds.searchWithin g height) ih _ _ (supertypes_equal ds t u same)
    rw [searchWithin, searchWithin]
    generalize f t = found, g u = found' at here
    cases here with
    | none => exact above
    | some related => exact .some related

-- The same field of the same declaration, seen from equal types.
structure Member.Equal (m m' : Member) : Prop where
  owner : m.owner.equal m'.owner
  field : m.field = m'.field
  type : m.type.equal m'.type

theorem own_field_equal (t u : Ty) (same : t.equal u) (name : String) : ds.ownField? t name = ds.ownField? u name := by
  cases t <;> cases u <;> simp only [equal, Bool.false_eq_true] at same
  case cls | iface =>
    rw [Bool.and_eq_true, beq_iff_eq] at same
    obtain ⟨rfl, _⟩ := same
    rfl
  all_goals rfl

theorem member_of_equal (name : String) (t u : Ty) (same : t.equal u) :
    Option.Rel Member.Equal (ds.memberOf? name t) (ds.memberOf? name u) := by
  rw [memberOf?, memberOf?, own_field_equal ds t u same]
  cases ds.ownField? u name with
  | none => exact .none
  | some f => exact .some ⟨same, rfl, seen_from_equal ds t u f.type same⟩

theorem member_equal (name : String) (t u : Ty) (same : t.equal u) :
    Option.Rel Member.Equal (ds.member? t name) (ds.member? u name) :=
  search_related ds _ _ (member_of_equal ds name) t u same

theorem reaches_congr (a a' b b' : Ty) (left : a.equal a') (right : b.equal b') : ds.reaches a b = ds.reaches a' b' := by
  have hits : ∀ t u : Ty, t.equal u → Option.Rel (fun _ _ : Ty => True) (if t.equal b then some t else none)
      (if u.equal b' then some u else none) := by
    intro t u same
    rw [equal_congr t u b b' same right]
    by_cases hit : u.equal b'
    · simp [hit]
    · simp [hit]
  have found := search_related ds _ _ hits a a' left
  rw [reaches, reaches]
  generalize ds.search _ a = t, ds.search _ a' = u at found
  cases found <;> rfl

-- A search asks the type itself first, at any height.
theorem reaches_of_equal (src dst : Ty) (same : src.equal dst) : ds.reaches src dst := by
  rw [reaches, search]
  cases ds.height with
  | zero => simp [searchWithin, same]
  | succ height => simp [searchWithin, same]

theorem flows_congr (a a' b b' : Ty) (left : a.equal a') (right : b.equal b') : ds.flowsTo a b = ds.flowsTo a' b' := by
  rw [flowsTo, flowsTo, equal_known a a' left, equal_known b b' right, equal_any a a' left, equal_any b b' right,
    reaches_congr ds a a' b b' left right]

mutual

theorem fits_congr (v : Variance) (a a' b b' : Ty) (left : a.equal a') (right : b.equal b') : ds.fits v a b = ds.fits v a' b' := by
  by_cases lambdas : ∀ ps r qs s, a = .lambda ps r → b ≠ .lambda qs s
  · have lambdas' : ∀ ps r qs s, a' = .lambda ps r → b' ≠ .lambda qs s := by
      rintro ps r qs s rfl rfl
      obtain ⟨ps', r', shape, _⟩ := equal_lambda ps r a (equal_equivalence.symm left)
      obtain ⟨qs', s', shape', _⟩ := equal_lambda qs s b (equal_equivalence.symm right)
      exact lambdas ps' r' qs' s' shape shape'
    rw [fits_other ds v a b lambdas, fits_other ds v a' b' lambdas']
    cases v with
    | covariant => exact flows_congr ds a a' b b' left right
    | contravariant => exact flows_congr ds b b' a a' right left
  · push Not at lambdas
    obtain ⟨ps, r, qs, s, rfl, rfl⟩ := lambdas
    obtain ⟨ps', r', rfl, params, result⟩ := equal_lambda ps r a' left
    obtain ⟨qs', s', rfl, params', result'⟩ := equal_lambda qs s b' right
    rw [fits_lambda, fits_lambda, equal_congr _ _ _ _ left right, fits_params_congr v.flip ps ps' qs qs' params params',
      fits_congr v r r' s s' result result']
    cases v with
    | covariant => rw [equal_void s s' result']
    | contravariant => rw [equal_void r r' result]

theorem fits_params_congr (v : Variance) (ps ps' qs qs' : List (String × Ty)) (left : equalParams ps ps') (right : equalParams qs qs') :
    ds.fitsParams v ps qs = ds.fitsParams v ps' qs' := by
  match ps, ps', qs, qs' with
  | [], [], [], [] => rfl
  | [], [], _ :: _, _ :: _ => rfl
  | _ :: _, _ :: _, [], [] => rfl
  | (_, a) :: ps, (_, a') :: ps', (_, b) :: qs, (_, b') :: qs' =>
    rw [equalParams, Bool.and_eq_true] at left right
    rw [fitsParams, fitsParams, fits_congr v a a' b b' left.1 right.1, fits_params_congr v ps ps' qs qs' left.2 right.2]

end

theorem assignable_of_equal (a b : Ty) (known : a.isUnknown = false) (same : a.equal b) : ds.assignable a b := by
  by_cases lambdas : ∀ ps r qs s, a = .lambda ps r → b ≠ .lambda qs s
  · have known' : b.isUnknown = false := by rw [← equal_known a b same, known]
    rw [assignable_other ds a b lambdas, flowsTo, known, known', reaches_of_equal ds a b same]
    simp
  · push Not at lambdas
    obtain ⟨ps, r, qs, s, rfl, rfl⟩ := lambdas
    rw [assignable_lambda, same]
    simp

end

theorem type_equality_congruence (ds : Declarations) :
    (Equivalence fun a b : Ty => (a.equal b : Prop)) ∧
      ∀ a a' : Ty, a.equal a' →
        (∀ s s' : Bindings, s.Equal s' → (a.substitute s).equal (a'.substitute s')) ∧
        List.Forall₂ (fun super super' => super.equal super') (ds.supertypes a) (ds.supertypes a') ∧
        (∀ name, Option.Rel Member.Equal (ds.member? a name) (ds.member? a' name)) ∧
        ∀ b b' : Ty, b.equal b' → ds.assignable a b = ds.assignable a' b' := by
  refine ⟨equal_equivalence, fun a a' same => ⟨fun s s' values => ?_, supertypes_equal ds a a' same, fun name => ?_, ?_⟩⟩
  · exact substitute_equal s s' values a a' same
  · exact member_equal ds name a a' same
  · exact fun b b' same' => fits_congr ds .covariant a a' b b' same same'

-- `interface Stock<T> { pick: (item: T) => void }`, `class Shelf<T> implements Stock<T> { first: T }`
def shelves : Declarations where
  classes := [⟨⟨"Shelf", 0⟩, ["T"], none, [⟨⟨"Stock", 0⟩, [.generic "T"]⟩], [⟨"first", .generic "T"⟩]⟩]
  interfaces := [⟨⟨"Stock", 0⟩, ["T"], [], [⟨"pick", .lambda [("item", .generic "T")] .void⟩]⟩]
  enumerations := []

-- A shelf of lambdas, and a stock of them. The type of their parameter is not there.
def shelf (param : String) : Ty := .cls ⟨"Shelf", 0⟩ [.lambda [(param, .unknown)] .any]

def stock (param : String) : Ty := .iface ⟨"Stock", 0⟩ [.lambda [(param, .unknown)] .any]

theorem shelves_alike_under_any_name :
    (shelf "x").equal (shelf "y") ∧
      ((shelf "x").substitute [("T", stock "x")]).equal ((shelf "y").substitute [("T", stock "y")]) ∧
      List.Forall₂ (fun super super' => super.equal super') (shelves.supertypes (shelf "x")) (shelves.supertypes (shelf "y")) ∧
      (shelves.member? (shelf "x") "pick").isSome ∧
      Option.Rel Member.Equal (shelves.member? (shelf "x") "pick") (shelves.member? (shelf "y") "pick") ∧
      shelves.assignable (shelf "x") (stock "u") ∧
      shelves.assignable (shelf "x") (stock "u") = shelves.assignable (shelf "y") (stock "v") := by
  have same : (shelf "x").equal (shelf "y") := by decide
  have values : Bindings.Equal [("T", stock "x")] [("T", stock "y")] := by
    intro name
    by_cases here : name = "T"
    · subst here
      exact .some (by decide)
    · have other : (name == "T") = false := beq_eq_false_iff_ne.mpr here
      simp [List.lookup_cons, other]
  obtain ⟨replaced, above, fields, flows⟩ := (type_equality_congruence shelves).2 (shelf "x") (shelf "y") same
  exact ⟨same, replaced _ _ values, above, by decide, fields "pick", by decide, flows (stock "u") (stock "v") (by decide)⟩

end Declarations

end Typeflow
