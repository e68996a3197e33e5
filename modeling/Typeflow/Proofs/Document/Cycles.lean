import Typeflow.Proofs.Document.Built
import Typeflow.Proofs.Document.Spelling
import Typeflow.Proofs.Type.Termination

set_option autoImplicit false

namespace Typeflow.Document

open Relation

theorem decl_ids_later (names : List String) (id : DeclId) (member : id ∈ declIds names) : id.later < names.count id.name := by
  induction names with
  | nil => cases member
  | cons name rest ih =>
    rcases List.mem_cons.mp member with rfl | inner
    · simp
    · have fewer := ih inner
      have le : rest.count id.name ≤ (name :: rest).count id.name := List.count_le_count_cons
      omega

theorem decl_ids_nodup (names : List String) : (declIds names).Nodup := by
  induction names with
  | nil => exact List.nodup_nil
  | cons name rest ih =>
    refine List.nodup_cons.mpr ⟨fun again => ?_, ih⟩
    exact Nat.lt_irrefl _ (decl_ids_later rest _ again)

theorem decl_ids_length (names : List String) : (declIds names).length = names.length := by
  induction names with
  | nil => rfl
  | cons name rest ih => rw [declIds, List.length_cons, List.length_cons, ih]

theorem outline_class_ids (unit : UnitDoc) : (outline unit).classes.map Class.id = declIds (unit.classes.map ClassDoc.name) := by
  rw [outline, List.map_map]
  exact List.map_fst_zip (by simp [decl_ids_length])

theorem outline_interface_ids (unit : UnitDoc) :
    (outline unit).interfaces.map Interface.id = declIds (unit.interfaces.map InterfaceDoc.name) := by
  rw [outline, List.map_map]
  exact List.map_fst_zip (by simp [decl_ids_length])

theorem type_of_spelt (ds : Declarations) (generics : List String) (src : String) (t : Ty) (known : t ≠ .unknown)
    (read : typeOf ds generics src = .ok t) : Ty.Spelt Text.encode (Refers ds generics) t := by
  unfold typeOf at read
  split at read
  · cases read
    exact absurd rfl known
  · split at read
    next found =>
      cases read
      exact Ty.parse_spelt (resolver_names ds generics) src t found
    next => cases read
    next => cases read

theorem reads_spelt (ds : Declarations) (generics : List String) (t : Ty) (reads : Reads ds generics t) :
    Ty.Spelt Text.encode (Refers ds generics) t := by
  obtain ⟨known, src, read⟩ := reads
  exact type_of_spelt ds generics src t known read

theorem reads_class (ds : Declarations) (generics : List String) (a : Applied) (reads : Reads ds generics a.cls) :
    a.decl ∈ ds.classes.map Class.id := by
  cases reads_spelt ds generics _ reads with
  | named _ _ _ _ _ known _ =>
    obtain ⟨_, c, found, same, _⟩ := known
    exact List.mem_map.mpr ⟨c, List.mem_of_find?_eq_some found, same⟩

theorem reads_interface (ds : Declarations) (generics : List String) (a : Applied) (reads : Reads ds generics a.iface) :
    a.decl ∈ ds.interfaces.map Interface.id := by
  cases reads_spelt ds generics _ reads with
  | named _ _ _ _ _ known _ =>
    obtain ⟨_, _, i, found, same, _⟩ := known
    exact List.mem_map.mpr ⟨i, List.mem_of_find?_eq_some found, same⟩

def linkedDeclarations (unit : UnitDoc) : Except BuildError Declarations := do
  let names := outline unit
  let classes ← unit.classes.mapM (classBody names)
  let interfaces ← unit.interfaces.mapM (interfaceBody names)
  return { names with
    classes := names.classes.map (Class.fill classes)
    interfaces := names.interfaces.map (Interface.fill interfaces) }

theorem declarations_of_eq (unit : UnitDoc) :
    declarationsOf unit = linkedDeclarations unit >>= fun ds => (checkCycles ds).map fun _ => ds := by
  unfold declarationsOf linkedDeclarations
  dsimp only
  cases unit.classes.mapM (classBody (outline unit)) with
  | error e => rfl
  | ok classes =>
    cases unit.interfaces.mapM (interfaceBody (outline unit)) with
    | error e => rfl
    | ok interfaces => rfl

theorem linked_declarations_linked (unit : UnitDoc) (ds : Declarations) (made : linkedDeclarations unit = .ok ds) :
    ds.Linked := by
  obtain ⟨classes, readClasses, made⟩ := bind_ok _ _ _ made
  obtain ⟨interfaces, readInterfaces, made⟩ := bind_ok _ _ _ made
  cases made
  have classIds : ((outline unit).classes.map (Class.fill classes)).map Class.id = (outline unit).classes.map Class.id := by
    rw [List.map_map]
    exact List.map_congr_left fun c _ => (class_fill_id classes c).1
  have interfaceIds : ((outline unit).interfaces.map (Interface.fill interfaces)).map Interface.id =
      (outline unit).interfaces.map Interface.id := by
    rw [List.map_map]
    exact List.map_congr_left fun i _ => (interface_fill_id interfaces i).1
  constructor
  · rw [classIds, outline_class_ids]
    exact decl_ids_nodup _
  · rw [interfaceIds, outline_interface_ids]
    exact decl_ids_nodup _
  · intro c member a base
    have reads := ((named_types_iff _ _ _ _).mp (filled_class_reads unit classes readClasses c member)).1 a base
    obtain ⟨doc, _, _, reads⟩ := reads
    rw [classIds]
    exact reads_class _ _ a reads
  · intro c member a listed
    have reads := ((named_types_iff _ _ _ _).mp (filled_class_reads unit classes readClasses c member)).2.1 a listed
    obtain ⟨doc, _, _, reads⟩ := reads
    rw [interfaceIds]
    exact reads_interface _ _ a reads
  · intro i member a listed
    have reads := ((named_types_iff _ _ _ _).mp (filled_interface_reads unit interfaces readInterfaces i member)).2.1 a listed
    obtain ⟨doc, _, _, reads⟩ := reads
    rw [interfaceIds]
    exact reads_interface _ _ a reads

theorem check_cycles_ok_iff (ds : Declarations) :
    checkCycles ds = .ok () ↔ ds.cyclicClass? = none ∧ ds.cyclicInterface? = none := by
  unfold checkCycles
  cases ds.cyclicClass? <;> cases ds.cyclicInterface? <;> simp

theorem checked_bounded (ds : Declarations) (linked : ds.Linked) (checked : checkCycles ds = .ok ()) (t : Ty) :
    ds.Bounded (ds.height + 1) t := by
  obtain ⟨classes, interfaces⟩ := (check_cycles_ok_iff ds).mp checked
  rw [ds.cyclic_class_none_iff linked] at classes
  rw [ds.cyclic_interface_none_iff linked] at interfaces
  exact ds.type_bounded linked interfaces classes t

theorem build_declarations (unit : UnitDoc) (u : Built) (built : build unit = .ok u) :
    declarationsOf unit = .ok u.file.declarations := by
  obtain ⟨ds, literals, fs, mid, main, supply, declared, _, _, _, rfl⟩ := (build_ok_iff unit u).mp built
  exact declared

theorem declarations_of_checked (unit : UnitDoc) (ds : Declarations) (declared : declarationsOf unit = .ok ds) :
    linkedDeclarations unit = .ok ds ∧ checkCycles ds = .ok () := by
  rw [declarations_of_eq] at declared
  obtain ⟨made, linked, checked⟩ := bind_ok _ _ _ declared
  cases ran : checkCycles made with
  | error e =>
    rw [ran] at checked
    cases checked
  | ok done =>
    rw [ran] at checked
    cases checked
    exact ⟨linked, ran⟩

theorem built_bounded (unit : UnitDoc) (u : Built) (built : build unit = .ok u) (t : Ty) :
    u.file.declarations.Bounded (u.file.declarations.height + 1) t := by
  obtain ⟨made, checked⟩ := declarations_of_checked unit _ (build_declarations unit u built)
  exact checked_bounded _ (linked_declarations_linked unit _ made) checked t

end Typeflow.Document
