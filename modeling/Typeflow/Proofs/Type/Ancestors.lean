import Typeflow.Type.Declarations

set_option autoImplicit false

namespace Typeflow.Declarations

-- The declaration of the first type names the second as a supertype.
inductive Names (ds : Declarations) : Ty → Ty → Prop
  | base (d : DeclId) (args : List Ty) (c : Class) (a : Applied) (found : ds.class? d = some c)
      (base : c.base = some a) : Names ds (.cls d args) a.cls
  | implemented (d : DeclId) (args : List Ty) (c : Class) (a : Applied) (found : ds.class? d = some c)
      (listed : a ∈ c.interfaces) : Names ds (.cls d args) a.iface
  | refined (d : DeclId) (args : List Ty) (i : Interface) (a : Applied) (found : ds.interface? d = some i)
      (listed : a ∈ i.bases) : Names ds (.iface d args) a.iface

theorem declared_supers_named (ds : Declarations) (t named : Ty) (declared : named ∈ ds.declaredSupers t) :
    ds.Names t named := by
  cases t with
  | cls d args =>
    rw [declaredSupers] at declared
    cases found : ds.class? d with
    | none => simp [found] at declared
    | some c =>
      simp only [found, List.mem_append, Option.mem_toList, Option.map_eq_some_iff, List.mem_map] at declared
      rcases declared with ⟨a, base, rfl⟩ | ⟨a, listed, rfl⟩
      · exact .base d args c a found base
      · exact .implemented d args c a found listed
  | iface d args =>
    rw [declaredSupers] at declared
    cases found : ds.interface? d with
    | none => simp [found] at declared
    | some i =>
      simp only [found, List.mem_map] at declared
      obtain ⟨a, listed, rfl⟩ := declared
      exact .refined d args i a found listed
  | _ => simp [declaredSupers] at declared

theorem find_some_flat_map {α β γ : Type} (f : β → Option γ) (g : α → List β) (xs : List α) :
    (xs.flatMap g).findSome? f = xs.findSome? fun x => (g x).findSome? f := by
  induction xs with
  | nil => rfl
  | cons x rest ih =>
    rw [List.flatMap_cons, List.findSome?_append, ih, List.findSome?_cons]
    cases (g x).findSome? f <;> rfl

theorem search_within_eq {α : Type} (ds : Declarations) (f : Ty → Option α) (height : Nat)
    (t : Ty) : ds.searchWithin f height t = (ds.ancestorsWithin height t).findSome? f := by
  induction height generalizing t with
  | zero =>
    rw [searchWithin, ancestorsWithin, List.findSome?_cons]
    cases f t <;> rfl
  | succ height ih =>
    rw [searchWithin, ancestorsWithin, List.findSome?_cons, find_some_flat_map, ← funext ih]
    cases f t <;> rfl

theorem search_eq {α : Type} (ds : Declarations) (f : Ty → Option α) (t : Ty) :
    ds.search f t = (ds.ancestors t).findSome? f :=
  ds.search_within_eq f ds.height t

end Typeflow.Declarations
