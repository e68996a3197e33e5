import Typeflow.Proofs.Type.Termination

set_option autoImplicit false

namespace Typeflow

namespace Ty

mutual

theorem equal_refl (t : Ty) : t.equal t := by
  cases t with
  | unknown | any | void => rfl
  | generic name => simp [equal]
  | cls d args => simp [equal, equal_all_refl args]
  | iface d args => simp [equal, equal_all_refl args]
  | enumeration d => simp [equal]
  | lambda params result => simp [equal, equal_params_refl params, equal_refl result]

theorem equal_all_refl (types : List Ty) : equalAll types types := by
  cases types with
  | nil => rfl
  | cons t rest => simp [equalAll, equal_refl t, equal_all_refl rest]

theorem equal_params_refl (params : List (String × Ty)) : equalParams params params := by
  match params with
  | [] => rfl
  | (_, t) :: rest => simp [equalParams, equal_refl t, equal_params_refl rest]

end

mutual

theorem equal_trans (a b c : Ty) (first : a.equal b) (second : b.equal c) : a.equal c := by
  -- types of two kinds are never equal, so that one case is left for each kind
  cases a <;> cases b <;> simp only [equal, Bool.false_eq_true] at first <;>
    cases c <;> simp only [equal, Bool.false_eq_true] at second
  case unknown | any | void => rfl
  case generic l m n => simp_all [equal]
  case enumeration d e f => simp_all [equal]
  case cls d as e bs f cs =>
    rw [Bool.and_eq_true, beq_iff_eq] at first second
    rw [equal, first.1, second.1, equal_all_trans as bs cs first.2 second.2]
    simp
  case iface d as e bs f cs =>
    rw [Bool.and_eq_true, beq_iff_eq] at first second
    rw [equal, first.1, second.1, equal_all_trans as bs cs first.2 second.2]
    simp
  case lambda ps r qs s us v =>
    rw [Bool.and_eq_true] at first second
    rw [equal, equal_params_trans ps qs us first.1 second.1, equal_trans r s v first.2 second.2]
    rfl

theorem equal_all_trans (as bs cs : List Ty) (first : equalAll as bs) (second : equalAll bs cs) : equalAll as cs := by
  match as, bs, cs with
  | [], [], [] => rfl
  | a :: as, b :: bs, c :: cs =>
    rw [equalAll, Bool.and_eq_true] at first second
    rw [equalAll, equal_trans a b c first.1 second.1, equal_all_trans as bs cs first.2 second.2]
    rfl

theorem equal_params_trans (ps qs us : List (String × Ty)) (first : equalParams ps qs) (second : equalParams qs us) :
    equalParams ps us := by
  match ps, qs, us with
  | [], [], [] => rfl
  | (_, a) :: ps, (_, b) :: qs, (_, c) :: us =>
    rw [equalParams, Bool.and_eq_true] at first second
    rw [equalParams, equal_trans a b c first.1 second.1, equal_params_trans ps qs us first.2 second.2]
    rfl

end

mutual

def generics : Ty → List String
  | .generic name => [name]
  | .cls _ args => genericsAll args
  | .iface _ args => genericsAll args
  | .lambda params result => genericsParams params ++ result.generics
  | _ => []

def genericsAll : List Ty → List String
  | [] => []
  | t :: rest => t.generics ++ genericsAll rest

def genericsParams : List (String × Ty) → List String
  | [] => []
  | (_, t) :: rest => t.generics ++ genericsParams rest

end

end Ty

def Bindings.value (b : Bindings) (name : String) : Ty := (b.lookup name).getD (.generic name)

namespace Ty

section

variable (b b' : Bindings)

mutual

theorem substitute_equal_iff (t u : Ty) (same : t.equal u) :
    (t.substitute b).equal (u.substitute b') ↔ ∀ name ∈ t.generics, (b.value name).equal (b'.value name) := by
  cases t <;> cases u <;> simp only [equal, Bool.false_eq_true] at same
  case unknown | any | void => simp [substitute, equal, generics]
  case enumeration d e => simp [substitute, generics, equal, same]
  case generic m n =>
    obtain rfl := beq_iff_eq.mp same
    simp [substitute, generics, Bindings.value]
  case cls d as e bs =>
    rw [Bool.and_eq_true] at same
    rw [substitute, substitute, equal, generics, ← substitute_all_equal_iff as bs same.2]
    simp [same.1]
  case iface d as e bs =>
    rw [Bool.and_eq_true] at same
    rw [substitute, substitute, equal, generics, ← substitute_all_equal_iff as bs same.2]
    simp [same.1]
  case lambda ps r qs s =>
    rw [Bool.and_eq_true] at same
    rw [substitute, substitute, equal, generics, List.forall_mem_append, Bool.and_eq_true,
      substitute_params_equal_iff ps qs same.1, substitute_equal_iff r s same.2]

theorem substitute_all_equal_iff (as bs : List Ty) (same : equalAll as bs) :
    equalAll (substituteAll b as) (substituteAll b' bs) ↔
      ∀ name ∈ genericsAll as, (b.value name).equal (b'.value name) := by
  match as, bs with
  | [], [] => simp [substituteAll, equalAll, genericsAll]
  | a :: as, c :: cs =>
    rw [equalAll, Bool.and_eq_true] at same
    rw [substituteAll, substituteAll, equalAll, genericsAll, List.forall_mem_append, Bool.and_eq_true,
      substitute_equal_iff a c same.1, substitute_all_equal_iff as cs same.2]

theorem substitute_params_equal_iff (ps qs : List (String × Ty)) (same : equalParams ps qs) :
    equalParams (substituteParams b ps) (substituteParams b' qs) ↔
      ∀ name ∈ genericsParams ps, (b.value name).equal (b'.value name) := by
  match ps, qs with
  | [], [] => simp [substituteParams, equalParams, genericsParams]
  | (_, a) :: ps, (_, c) :: qs =>
    rw [equalParams, Bool.and_eq_true] at same
    rw [substituteParams, substituteParams, equalParams, genericsParams, List.forall_mem_append, Bool.and_eq_true,
      substitute_equal_iff a c same.1, substitute_params_equal_iff ps qs same.2]

end

end

theorem equal_all_iff (as bs : List Ty) : equalAll as bs ↔ List.Forall₂ (fun a b => a.equal b) as bs := by
  induction as generalizing bs with
  | nil => cases bs <;> simp [equalAll]
  | cons a as ih => cases bs <;> simp [equalAll, ih]

theorem equal_params_iff (ps qs : List (String × Ty)) :
    equalParams ps qs ↔ List.Forall₂ (fun p q => p.2.equal q.2) ps qs := by
  induction ps generalizing qs with
  | nil => cases qs <;> simp [equalParams]
  | cons p ps ih => cases qs <;> simp [equalParams, ih]

theorem equal_known (a b : Ty) (same : a.equal b) : a.isUnknown = b.isUnknown := by
  cases a <;> cases b <;> simp_all [equal, isUnknown]

end Ty

namespace Declarations

open Ty

theorem lookup_equal (b b' : Bindings) (same : List.Forall₂ (fun x y => x.1 = y.1 ∧ x.2.equal y.2) b b') (name : String) :
    (b.value name).equal (b'.value name) := by
  induction same with
  | nil => exact equal_refl _
  | @cons x y b b' head tail ih =>
    obtain ⟨m, t⟩ := x
    obtain ⟨n, u⟩ := y
    obtain ⟨rfl, equal⟩ := head
    by_cases here : name = m
    · simpa [Bindings.value, List.lookup_cons, here] using equal
    · have other : (name == m) = false := beq_eq_false_iff_ne.mpr here
      simpa [Bindings.value, List.lookup_cons, other] using ih

theorem of_args_equal (params : List String) (as bs : List Ty) (same : equalAll as bs) :
    List.Forall₂ (fun x y => x.1 = y.1 ∧ x.2.equal y.2) (params.zip as) (params.zip bs) := by
  rw [equal_all_iff] at same
  induction same generalizing params with
  | nil => simp
  | cons head tail ih =>
    cases params with
    | nil => exact .nil
    | cons param params => exact .cons ⟨rfl, head⟩ (ih params)

theorem bindings_equal (ds : Declarations) (t u : Ty) (same : t.equal u) (name : String) :
    ((ds.bindings t).value name).equal ((ds.bindings u).value name) := by
  apply lookup_equal
  -- the bindings are listed from the last argument to the first
  apply List.rel_reverse
  cases t <;> cases u <;> simp only [equal, Bool.false_eq_true] at same
  case cls d as e bs | iface d as e bs =>
    rw [Bool.and_eq_true, beq_iff_eq] at same
    obtain ⟨rfl, args⟩ := same
    exact of_args_equal _ as bs args
  all_goals exact of_args_equal _ [] [] rfl

theorem declared_supers_equal (ds : Declarations) (t u : Ty) (same : t.equal u) : ds.declaredSupers t = ds.declaredSupers u := by
  cases t <;> cases u <;> simp only [equal, Bool.false_eq_true] at same
  case cls | iface =>
    rw [Bool.and_eq_true, beq_iff_eq] at same
    obtain ⟨rfl, _⟩ := same
    rfl
  all_goals rfl

theorem seen_from_equal (ds : Declarations) (t u named : Ty) (same : t.equal u) :
    (named.substitute (ds.bindings t)).equal (named.substitute (ds.bindings u)) := by
  rw [substitute_equal_iff _ _ named named (equal_refl named)]
  exact fun name _ => bindings_equal ds t u same name

theorem supertype_equal (ds : Declarations) (t u super : Ty) (same : t.equal u) (above : super ∈ ds.supertypes t) :
    ∃ super' ∈ ds.supertypes u, super.equal super' := by
  obtain ⟨named, declared, rfl⟩ := List.mem_map.mp above
  rw [declared_supers_equal ds t u same] at declared
  exact ⟨named.substitute (ds.bindings u), List.mem_map_of_mem declared, seen_from_equal ds t u named same⟩

end Declarations

end Typeflow
