import Typeflow.Proofs.Type.Ancestors
import Typeflow.Proofs.Type.Hierarchy
import Typeflow.Type.Assignable

set_option autoImplicit false

namespace Typeflow

open Relation

def Returns {α : Type} (run : Nat → Option α) (answer : α) : Prop := ∃ enough, ∀ depth ≥ enough, run depth = some answer

namespace Declarations

-- What stands above a class or an interface by their declarations, whatever the arguments are.
inductive Above (ds : Declarations) : Ty → Ty → Prop
  | base (d : DeclId) (args args' : List Ty) (c : Class) (a : Applied) (found : ds.class? d = some c)
      (base : c.base = some a) : Above ds (.cls a.decl args') (.cls d args)
  | implemented (d : DeclId) (args args' : List Ty) (c : Class) (a : Applied) (found : ds.class? d = some c)
      (listed : a ∈ c.interfaces) : Above ds (.iface a.decl args') (.cls d args)
  | refined (d : DeclId) (args args' : List Ty) (i : Interface) (a : Applied) (found : ds.interface? d = some i)
      (listed : a ∈ i.bases) : Above ds (.iface a.decl args') (.iface d args)

theorem supertypes_above (ds : Declarations) (t super : Ty) (member : super ∈ ds.supertypes t) : ds.Above super t := by
  obtain ⟨named, declared, rfl⟩ := List.mem_map.mp member
  cases ds.declared_supers_named t named declared with
  | base d args c a found base => exact .base d args _ c a found base
  | implemented d args c a found listed => exact .implemented d args _ c a found listed
  | refined d args i a found listed => exact .refined d args _ i a found listed

def Bounded (ds : Declarations) : Nat → Ty → Prop
  | 0, _ => False
  | bound + 1, t => ∀ super ∈ ds.supertypes t, ds.Bounded bound super

theorem Bounded.mono {ds : Declarations} {t : Ty} {bound bound' : Nat} (bounded : ds.Bounded bound t) (le : bound ≤ bound') :
    ds.Bounded bound' t := by
  induction bound generalizing t bound' with
  | zero => cases bounded
  | succ bound ih =>
    obtain ⟨more, rfl⟩ : ∃ more, bound' = more + 1 := ⟨bound' - 1, by omega⟩
    exact fun super above => ih (bounded super above) (by omega)

section

variable (ds : Declarations)

variable (linked : ds.Linked) (interfaces : ∀ i ∈ ds.interfaces, ¬ TransGen ds.Refines i.id i.id)
  (classes : ∀ c ∈ ds.classes, ¬ TransGen ds.Extends c.id c.id)

include linked interfaces

theorem interface_bounded (round : Nat) (d : DeclId) (args : List Ty)
    (late : (descendants ds.Refines (ds.interfaces.map Interface.id) d).card < round) : ds.Bounded round (.iface d args) := by
  induction round generalizing d args with
  | zero => cases late
  | succ round ih =>
    intro super member
    cases supertypes_above ds _ super member with
    | refined _ _ args' i a found listed =>
      obtain ⟨known, rfl⟩ := found_id Interface.id ds.interfaces d i found
      have first : ds.Refines i.id a.decl := ⟨i, known, rfl, a, listed, rfl⟩
      have fewer := descendants_lt ds.Refines _ (List.forall_mem_map.mpr interfaces) i.id a.decl
        (refines_declared ds linked _ _ first) first
      exact ih a.decl args' (by omega)

theorem declared_interface_bounded (d : DeclId) (args : List Ty) (declared : d ∈ ds.interfaces.map Interface.id) :
    ds.Bounded ds.interfaces.length (.iface d args) := by
  have few := descendants_lt_length ds.Refines _ (List.forall_mem_map.mpr interfaces) d declared
  rw [List.length_map] at few
  exact interface_bounded ds linked interfaces ds.interfaces.length d args few

include classes

theorem class_bounded (round : Nat) (d : DeclId) (args : List Ty)
    (late : (descendants ds.Extends (ds.classes.map Class.id) d).card < round) :
    ds.Bounded (ds.interfaces.length + round) (.cls d args) := by
  induction round generalizing d args with
  | zero => cases late
  | succ round ih =>
    intro super member
    cases supertypes_above ds _ super member with
    | base _ _ args' c a found base =>
      obtain ⟨known, rfl⟩ := found_id Class.id ds.classes d c found
      have first : ds.Extends c.id a.decl := ⟨c, known, rfl, a, base, rfl⟩
      have fewer := descendants_lt ds.Extends _ (List.forall_mem_map.mpr classes) c.id a.decl
        (extends_declared ds linked _ _ first).2 first
      exact ih a.decl args' (by omega)
    | implemented _ _ args' c a found listed =>
      -- from here on the chain has interfaces only
      have declared := linked.interfaces c (found_id Class.id ds.classes d c found).1 a listed
      exact (declared_interface_bounded ds linked interfaces a.decl args' declared).mono (Nat.le_add_right _ round)

theorem type_bounded (t : Ty) : ds.Bounded (ds.height + 1) t := by
  intro super member
  have above := supertypes_above ds t super member
  have start : ds.Bounded ds.height t := by
    -- only what is declared has anything above it
    cases above with
    | base d args _ c _ found _ | implemented d args _ c _ found _ =>
      obtain ⟨listed, rfl⟩ := found_id Class.id ds.classes d c found
      have few := descendants_lt_length ds.Extends _ (List.forall_mem_map.mpr classes) c.id (List.mem_map_of_mem listed)
      rw [List.length_map] at few
      exact (class_bounded ds linked interfaces classes ds.classes.length c.id args few).mono (by unfold height; omega)
    | refined d args _ i _ found _ =>
      obtain ⟨listed, rfl⟩ := found_id Interface.id ds.interfaces d i found
      have bounded := declared_interface_bounded ds linked interfaces i.id args (List.mem_map_of_mem listed)
      exact bounded.mono (Nat.le_add_left _ _)
  exact (start.mono (Nat.le_succ ds.height)) super member

end

section

variable (ds : Declarations)

theorem ancestors_within_higher (height : Nat) (t : Ty) (bounded : ds.Bounded (height + 1) t) :
    ds.ancestorsWithin (height + 1) t = ds.ancestorsWithin height t := by
  induction height generalizing t with
  | zero =>
    have top : ds.supertypes t = [] := List.eq_nil_iff_forall_not_mem.mpr bounded
    simp [ancestorsWithin, top]
  | succ height ih =>
    have same := List.flatMap_congr fun super above => ih super (bounded super above)
    rw [ancestorsWithin, same, ancestorsWithin]

theorem search_unfold {α : Type} (f : Ty → Option α) (t : Ty) (bounded : ds.Bounded (ds.height + 1) t) :
    ds.search f t = (f t).or ((ds.supertypes t).findSome? (ds.search f)) := by
  have higher : ds.search f t = ds.searchWithin f (ds.height + 1) t := by
    rw [search_eq, search_within_eq, ancestors_within_higher ds ds.height t bounded, ancestors]
  rw [higher, searchWithin]
  cases f t <;> rfl

end

theorem super_nominal (ds : Declarations) (t super : Ty) (above : ds.Above super t) :
    super.isUnknown = false ∧ super.isAny = false ∧ ∀ ps r, super ≠ .lambda ps r := by
  cases above <;> exact ⟨rfl, rfl, nofun⟩

theorem reaches_unfold (ds : Declarations) (src dst : Ty) (bounded : ds.Bounded (ds.height + 1) src) :
    ds.reaches src dst = (src.equal dst || (ds.supertypes src).any (ds.reaches · dst)) := by
  have higher : ((ds.supertypes src).findSome? (ds.search fun t => if t.equal dst then some t else none)).isSome =
      (ds.supertypes src).any (ds.reaches · dst) := by
    rw [Bool.eq_iff_iff, List.findSome?_isSome_iff, List.any_eq_true]
    rfl
  rw [reaches, search_unfold ds _ src bounded, Option.isSome_or, higher]
  cases src.equal dst <;> rfl

mutual

theorem equal_symm (a b : Ty) : a.equal b = b.equal a := by
  cases a <;> cases b <;> simp only [Ty.equal]
  case generic.generic m n => exact BEq.comm
  case cls.cls d as e bs => rw [equal_all_symm as bs, BEq.comm]
  case iface.iface d as e bs => rw [equal_all_symm as bs, BEq.comm]
  case enumeration.enumeration d e => exact BEq.comm
  case lambda.lambda ps r qs s => rw [equal_params_symm ps qs, equal_symm r s]

theorem equal_all_symm (as bs : List Ty) : Ty.equalAll as bs = Ty.equalAll bs as := by
  cases as <;> cases bs <;> simp only [Ty.equalAll]
  case cons.cons a as b bs => rw [equal_symm a b, equal_all_symm as bs]

theorem equal_params_symm (ps qs : List (String × Ty)) : Ty.equalParams ps qs = Ty.equalParams qs ps := by
  match ps, qs with
  | [], [] => rfl
  | [], _ :: _ => rfl
  | _ :: _, [] => rfl
  | (_, a) :: ps, (_, b) :: qs => rw [Ty.equalParams, Ty.equalParams, equal_symm a b, equal_params_symm ps qs]

end

theorem fits_other (ds : Declarations) (v : Variance) (a b : Ty) (other : ∀ ps r qs s, a = .lambda ps r → b ≠ .lambda qs s) :
    ds.fits v a b = match v with
      | .covariant => ds.flowsTo a b
      | .contravariant => ds.flowsTo b a := by
  rw [fits.eq_def]
  split
  next ps r qs s => exact absurd rfl (other ps r qs s rfl)
  next => rfl

theorem fits_lambda (ds : Declarations) (v : Variance) (ps qs : List (String × Ty)) (r s : Ty) :
    ds.fits v (.lambda ps r) (.lambda qs s) = ((Ty.lambda ps r).equal (.lambda qs s) ||
      (ds.fitsParams v.flip ps qs && ((match v with
        | .covariant => s
        | .contravariant => r).isVoid || ds.fits v r s))) :=
  fits.eq_def ds v (.lambda ps r) (.lambda qs s)

mutual

theorem fits_flip (ds : Declarations) (v : Variance) (a b : Ty) : ds.fits v.flip a b = ds.fits v b a := by
  by_cases lambdas : ∀ ps r qs s, a = .lambda ps r → b ≠ .lambda qs s
  · rw [fits_other ds _ a b lambdas, fits_other ds _ b a fun qs s ps r right left => lambdas ps r qs s left right]
    cases v <;> rfl
  · push Not at lambdas
    obtain ⟨ps, r, qs, s, rfl, rfl⟩ := lambdas
    rw [fits_lambda, fits_lambda, fits_params_flip ds v.flip ps qs, fits_flip ds v r s, equal_symm]
    cases v <;> rfl

theorem fits_params_flip (ds : Declarations) (v : Variance) (ps qs : List (String × Ty)) :
    ds.fitsParams v.flip ps qs = ds.fitsParams v qs ps := by
  match ps, qs with
  | [], [] => rfl
  | [], _ :: _ => rfl
  | _ :: _, [] => rfl
  | (_, a) :: ps, (_, b) :: qs => rw [fitsParams, fitsParams, fits_flip ds v a b, fits_params_flip ds v ps qs]

end

theorem fits_params_all (ds : Declarations) (ps qs : List (String × Ty)) : ds.fitsParams .contravariant ps qs =
    (ps.length == qs.length && (ps.zip qs).all fun pair => ds.assignable pair.2.2 pair.1.2) := by
  induction ps generalizing qs with
  | nil => cases qs <;> rfl
  | cons p ps ih =>
    cases qs with
    | nil => rfl
    | cons q qs =>
      have first : ds.fits .contravariant p.2 q.2 = ds.assignable q.2 p.2 := fits_flip ds .covariant p.2 q.2
      rw [fitsParams, ih, first, List.zip_cons_cons, List.all_cons, Bool.and_left_comm]
      simp

theorem assignable_lambda (ds : Declarations) (ps qs : List (String × Ty)) (r s : Ty) :
    ds.assignable (.lambda ps r) (.lambda qs s) = ((Ty.lambda ps r).equal (.lambda qs s) ||
      ((ps.length == qs.length && (ps.zip qs).all fun pair => ds.assignable pair.2.2 pair.1.2) &&
        (s.isVoid || ds.assignable r s))) := by
  rw [assignable, fits_lambda, Variance.flip, fits_params_all]
  rfl

theorem assignable_other (ds : Declarations) (src dst : Ty) (other : ∀ ps r qs s, src = .lambda ps r → dst ≠ .lambda qs s) :
    ds.assignable src dst = ds.flowsTo src dst := fits_other ds .covariant src dst other

theorem param_smaller (params : List (String × Ty)) (result : Ty) (param : String × Ty) (member : param ∈ params) :
    sizeOf param.2 < sizeOf (Ty.lambda params result) := by
  have listed := List.sizeOf_lt_of_mem member
  obtain ⟨name, type⟩ := param
  simp only [Prod.mk.sizeOf_spec] at listed
  simp only [Ty.lambda.sizeOf_spec]
  omega

end Declarations

end Typeflow
