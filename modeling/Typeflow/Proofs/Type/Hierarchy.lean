import Typeflow.Proofs.Type.Acyclic
import Mathlib.Data.Finset.Card

set_option autoImplicit false

namespace Typeflow

open Relation

section

variable (step : DeclId → DeclId → Prop) (nodes : List DeclId)

open Classical in
noncomputable def descendants (n : DeclId) : Finset DeclId :=
  nodes.toFinset.filter fun m => TransGen step n m

theorem mem_descendants (n m : DeclId) : m ∈ descendants step nodes n ↔ m ∈ nodes ∧ TransGen step n m := by
  simp [descendants]

variable (acyclic : ∀ n ∈ nodes, ¬ TransGen step n n)

include acyclic

theorem descendants_lt (n m : DeclId) (declared : m ∈ nodes) (first : step n m) :
    (descendants step nodes m).card < (descendants step nodes n).card := by
  apply Finset.card_lt_card
  rw [Finset.ssubset_iff_of_subset]
  · refine ⟨m, (mem_descendants _ _ _ _).mpr ⟨declared, .single first⟩, fun again => ?_⟩
    exact acyclic m declared ((mem_descendants _ _ _ _).mp again).2
  · intro k below
    obtain ⟨known, path⟩ := (mem_descendants _ _ _ _).mp below
    exact (mem_descendants _ _ _ _).mpr ⟨known, path.head first⟩

theorem descendants_lt_length (n : DeclId) (declared : n ∈ nodes) : (descendants step nodes n).card < nodes.length := by
  have proper : descendants step nodes n ⊂ nodes.toFinset := by
    rw [Finset.ssubset_iff_of_subset]
    · exact ⟨n, List.mem_toFinset.mpr declared, fun again => acyclic n declared ((mem_descendants _ _ _ _).mp again).2⟩
    · intro k below
      exact List.mem_toFinset.mpr ((mem_descendants _ _ _ _).mp below).1
  exact Nat.lt_of_lt_of_le (Finset.card_lt_card proper) nodes.toFinset_card_le

end

theorem found_id {α : Type} (id : α → DeclId) (xs : List α) (n : DeclId) (a : α) (found : xs.find? (id · == n) = some a) :
    a ∈ xs ∧ id a = n :=
  ⟨List.mem_of_find?_eq_some found, by simpa using List.find?_some found⟩

theorem find_declared {α : Type} (id : α → DeclId) (xs : List α) (distinct : (xs.map id).Nodup) (a : α) (member : a ∈ xs) :
    xs.find? (id · == id a) = some a := by
  have isFound : (xs.find? (id · == id a)).isSome := by
    rw [List.find?_isSome]
    exact ⟨a, member, beq_self_eq_true (id a)⟩
  obtain ⟨b, found⟩ := Option.isSome_iff_exists.mp isFound
  obtain ⟨listed, same⟩ := found_id id xs (id a) b found
  rw [found, List.inj_on_of_nodup_map distinct listed member same]

namespace Declarations

-- No two declarations of a kind are confused, and every base and interface is declared.
structure Linked (ds : Declarations) : Prop where
  classIds : (ds.classes.map Class.id).Nodup
  interfaceIds : (ds.interfaces.map Interface.id).Nodup
  base : ∀ c ∈ ds.classes, ∀ a, c.base = some a → a.decl ∈ ds.classes.map Class.id
  interfaces : ∀ c ∈ ds.classes, ∀ a ∈ c.interfaces, a.decl ∈ ds.interfaces.map Interface.id
  bases : ∀ i ∈ ds.interfaces, ∀ a ∈ i.bases, a.decl ∈ ds.interfaces.map Interface.id

def Extends (ds : Declarations) (sub super : DeclId) : Prop :=
  ∃ c ∈ ds.classes, c.id = sub ∧ ∃ a, c.base = some a ∧ a.decl = super

def Refines (ds : Declarations) (sub super : DeclId) : Prop :=
  ∃ i ∈ ds.interfaces, i.id = sub ∧ ∃ a ∈ i.bases, a.decl = super

section

variable (ds : Declarations) (linked : ds.Linked)

include linked

theorem base_class_iff (n m : DeclId) : ds.baseClass? n = some m ↔ ds.Extends n m := by
  unfold baseClass? class?
  constructor
  · intro step
    obtain ⟨a, base, rfl⟩ := Option.map_eq_some_iff.mp step
    obtain ⟨c, found, base⟩ := Option.bind_eq_some_iff.mp base
    obtain ⟨member, same⟩ := found_id Class.id ds.classes n c found
    exact ⟨c, member, same, a, base, rfl⟩
  · rintro ⟨c, member, rfl, a, base, rfl⟩
    rw [find_declared Class.id ds.classes linked.classIds c member, Option.bind_some, base]
    rfl

theorem mem_base_interfaces_iff (n m : DeclId) : m ∈ ds.baseInterfaces n ↔ ds.Refines n m := by
  unfold baseInterfaces interface?
  constructor
  · intro step
    obtain ⟨a, base, rfl⟩ := List.mem_map.mp step
    cases found : ds.interfaces.find? (·.id == n) with
    | none => simp [found] at base
    | some i =>
      obtain ⟨member, same⟩ := found_id Interface.id ds.interfaces n i found
      exact ⟨i, member, same, a, by simpa [found] using base, rfl⟩
  · rintro ⟨i, member, rfl, a, base, rfl⟩
    rw [find_declared Interface.id ds.interfaces linked.interfaceIds i member]
    exact List.mem_map.mpr ⟨a, base, rfl⟩

theorem extends_declared (n m : DeclId) (step : ds.Extends n m) :
    n ∈ ds.classes.map Class.id ∧ m ∈ ds.classes.map Class.id := by
  obtain ⟨c, member, rfl, a, base, rfl⟩ := step
  exact ⟨List.mem_map_of_mem member, linked.base c member a base⟩

theorem refines_declared (n m : DeclId) (step : ds.Refines n m) : m ∈ ds.interfaces.map Interface.id := by
  obtain ⟨i, member, _, a, base, rfl⟩ := step
  exact linked.bases i member a base

theorem cyclic_class_none_iff : ds.cyclicClass? = none ↔ ∀ c ∈ ds.classes, ¬ TransGen ds.Extends c.id c.id := by
  have steps : (fun n m => ds.baseClass? n = some m) = ds.Extends := by
    ext n m
    exact base_class_iff ds linked n m
  have walks : ∀ n, loops ds.baseClass? (ds.classes.length + 1) [] n = true ↔ ReachesCycle ds.Extends n := by
    intro n
    rw [← steps]
    refine loops_iff _ (ds.classes.map Class.id) (fun n m base => ?_) _ [] n (by simp) List.nodup_nil (List.nil_subset _) nofun
    exact (extends_declared ds linked n m ((base_class_iff ds linked n m).mp base)).1
  rw [cyclicClass?, List.find?_eq_none]
  simp only [walks]
  rw [reaches_no_cycle_iff _ _ fun n m step => (extends_declared ds linked n m step).2, List.forall_mem_map]

theorem cyclic_interface_none_iff : ds.cyclicInterface? = none ↔ ∀ i ∈ ds.interfaces, ¬ TransGen ds.Refines i.id i.id := by
  have steps : (fun n m => m ∈ ds.baseInterfaces n) = ds.Refines := by
    ext n m
    exact mem_base_interfaces_iff ds linked n m
  have closed : ∀ n m, m ∈ ds.baseInterfaces n → m ∈ ds.interfaces.map Interface.id :=
    fun n m base => refines_declared ds linked n m ((mem_base_interfaces_iff ds linked n m).mp base)
  have search := search_none_iff closed
  rw [steps, List.length_map, List.forall_mem_map] at search
  exact search

end

end Declarations

end Typeflow
