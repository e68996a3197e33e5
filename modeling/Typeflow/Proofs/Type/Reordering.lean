import Typeflow.Proofs.Type.Termination
import Mathlib.Data.List.Perm.Basic

set_option autoImplicit false

namespace Typeflow

theorem find_perm {α : Type} (key : α → DeclId) (xs ys : List α) (perm : xs.Perm ys) (distinct : (xs.map key).Nodup) (id : DeclId) :
    xs.find? (key · == id) = ys.find? (key · == id) := by
  cases found : ys.find? (key · == id) with
  | some y =>
    obtain ⟨listed, rfl⟩ := found_id key ys id y found
    exact find_declared key xs distinct y (perm.mem_iff.mpr listed)
  | none =>
    rw [List.find?_eq_none] at found ⊢
    exact fun x listed => found x (perm.mem_iff.mp listed)

namespace Declarations

-- The same declarations under the same names.
structure Alike (ds ds' : Declarations) : Prop where
  classes : ds.class? = ds'.class?
  interfaces : ds.interface? = ds'.interface?
  enumerations : ds.enumeration? = ds'.enumeration?
  height : ds.height = ds'.height

structure Reordered (ds ds' : Declarations) : Prop where
  classes : ds.classes.Perm ds'.classes
  interfaces : ds.interfaces.Perm ds'.interfaces
  enumerations : ds.enumerations.Perm ds'.enumerations
  classIds : (ds.classes.map Class.id).Nodup
  interfaceIds : (ds.interfaces.map Interface.id).Nodup
  enumerationIds : (ds.enumerations.map Enumeration.id).Nodup

theorem Reordered.alike {ds ds' : Declarations} (reordered : Reordered ds ds') : Alike ds ds' where
  classes := funext (find_perm Class.id _ _ reordered.classes reordered.classIds)
  interfaces := funext (find_perm Interface.id _ _ reordered.interfaces reordered.interfaceIds)
  enumerations := funext (find_perm Enumeration.id _ _ reordered.enumerations reordered.enumerationIds)
  height := by rw [height, height, reordered.classes.length_eq, reordered.interfaces.length_eq]

namespace Alike

variable {ds ds' : Declarations} (alike : Alike ds ds')

include alike

theorem bindings (t : Ty) : ds.bindings t = ds'.bindings t := by
  have params : ds.typeParams t = ds'.typeParams t := by
    cases t <;> simp [typeParams, alike.classes, alike.interfaces]
  rw [Declarations.bindings, params, Declarations.bindings]

theorem supertypes (t : Ty) : ds.supertypes t = ds'.supertypes t := by
  have declared : ds.declaredSupers t = ds'.declaredSupers t := by
    cases t <;> simp [declaredSupers, alike.classes, alike.interfaces]
  rw [Declarations.supertypes, declared, alike.bindings, Declarations.supertypes]

-- The height counts declarations, so the search goes as deep in both.
theorem search {α : Type} (f : Ty → Option α) (t : Ty) : ds.search f t = ds'.search f t := by
  have within : ∀ height, ds.searchWithin f height = ds'.searchWithin f height := by
    intro height
    induction height with
    | zero => rfl
    | succ height ih =>
      funext t
      rw [searchWithin, searchWithin, alike.supertypes, ih]
  rw [Declarations.search, within, alike.height, Declarations.search]

theorem member (t : Ty) (name : String) : ds.member? t name = ds'.member? t name := by
  have own : ds.memberOf? name = ds'.memberOf? name := by
    funext owner
    have fields : ds.ownFields owner = ds'.ownFields owner := by
      cases owner <;> simp [ownFields, alike.classes, alike.interfaces]
    simp only [memberOf?, ownField?, fields, alike.bindings]
  rw [member?, own, alike.search, member?]

theorem self_type (id : DeclId) : ds.selfType id = ds'.selfType id := by
  rw [Declarations.selfType, alike.classes, Declarations.selfType]

theorem flows_to (src dst : Ty) : ds.flowsTo src dst = ds'.flowsTo src dst := by
  rw [Declarations.flowsTo, reaches, alike.search, ← reaches, Declarations.flowsTo]

end Alike

mutual

theorem fits_alike {ds ds' : Declarations} (alike : Alike ds ds') (v : Variance) (a b : Ty) : ds.fits v a b = ds'.fits v a b := by
  by_cases lambdas : ∀ ps r qs s, a = .lambda ps r → b ≠ .lambda qs s
  · rw [fits_other ds v a b lambdas, fits_other ds' v a b lambdas]
    cases v <;> exact alike.flows_to _ _
  · push Not at lambdas
    obtain ⟨ps, r, qs, s, rfl, rfl⟩ := lambdas
    rw [fits_lambda, fits_lambda, fits_params_alike alike v.flip ps qs, fits_alike alike v r s]

theorem fits_params_alike {ds ds' : Declarations} (alike : Alike ds ds') (v : Variance) (ps qs : List (String × Ty)) :
    ds.fitsParams v ps qs = ds'.fitsParams v ps qs := by
  match ps, qs with
  | [], [] => rfl
  | [], _ :: _ => rfl
  | _ :: _, [] => rfl
  | (_, a) :: ps, (_, b) :: qs => rw [fitsParams, fitsParams, fits_alike alike v a b, fits_params_alike alike v ps qs]

end

theorem Alike.assignable {ds ds' : Declarations} (alike : Alike ds ds') (src dst : Ty) :
    ds.assignable src dst = ds'.assignable src dst := fits_alike alike .covariant src dst

end Declarations

end Typeflow
