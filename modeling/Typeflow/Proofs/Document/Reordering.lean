import Typeflow.Proofs.Document.Cycles
import Typeflow.Proofs.Type.Reordering

set_option autoImplicit false

namespace Typeflow.Document

theorem map_m_iff {α β ε : Type} (f : α → Except ε β) (xs : List α) (ys : List β) :
    xs.mapM f = .ok ys ↔ List.Forall₂ (fun x y => f x = .ok y) xs ys := by
  induction xs generalizing ys with
  | nil =>
    rw [List.forall₂_nil_left_iff, List.mapM_nil]
    exact ⟨fun made => by cases made; rfl, fun none => by rw [none]; rfl⟩
  | cons x rest ih =>
    rw [List.mapM_cons, List.forall₂_cons_left_iff]
    constructor
    · intro made
      obtain ⟨y, first, made⟩ := bind_ok _ _ _ made
      obtain ⟨more, others, made⟩ := bind_ok _ _ _ made
      cases made
      exact ⟨y, more, first, (ih more).mp others, rfl⟩
    · rintro ⟨y, more, first, others, rfl⟩
      exact bind_of_ok first (bind_of_ok ((ih more).mpr others) rfl)

theorem map_m_perm {α β ε : Type} (f : α → Except ε β) (xs ys : List α) (perm : xs.Perm ys) (as : List β)
    (made : xs.mapM f = .ok as) : ∃ bs, ys.mapM f = .ok bs ∧ as.Perm bs := by
  obtain ⟨bs, each, perm'⟩ := List.perm_comp_forall₂ perm.symm ((map_m_iff f xs as).mp made)
  exact ⟨bs, (map_m_iff f ys bs).mpr each, perm'.symm⟩

theorem map_m_names {α β ε : Type} (f : α → Except ε β) (name : α → String) (name' : β → String)
    (kept : ∀ x y, f x = .ok y → name x = name' y) (xs : List α) (ys : List β) (made : xs.mapM f = .ok ys) :
    xs.map name = ys.map name' := by
  rw [← List.forall₂_eq_eq_eq, List.forall₂_map_left_iff, List.forall₂_map_right_iff]
  exact ((map_m_iff f xs ys).mp made).imp kept

-- Where names are distinct, the entries of a name are one or none, and these have no order.
theorem filter_perm {β : Type} (name : β → String) (xs ys : List β) (perm : xs.Perm ys) (distinct : (xs.map name).Nodup)
    (n : String) : xs.filter (name · == n) = ys.filter (name · == n) := by
  have apart : xs.Pairwise fun x y => name x ≠ name y := List.pairwise_map.mp distinct
  have apart' : ys.Pairwise fun x y => name x ≠ name y := List.pairwise_map.mp ((perm.map name).nodup_iff.mp distinct)
  refine (perm.filter _).eq_of_pairwise (fun x y listed listed' differ _ => ?_) (apart.filter _) (apart'.filter _)
  have left : name x = n := by simpa using (List.mem_filter.mp listed).2
  have right : name y = n := by simpa using (List.mem_filter.mp listed').2
  exact absurd (left.trans right.symm) differ

structure Reordered (unit unit' : UnitDoc) : Prop where
  path : unit'.path = unit.path
  literals : unit'.literals = unit.literals
  functions : unit'.functions = unit.functions
  main : unit'.main = unit.main
  classes : unit.classes.Perm unit'.classes
  interfaces : unit.interfaces.Perm unit'.interfaces
  enums : unit.enums.Perm unit'.enums
  classNames : (unit.classes.map ClassDoc.name).Nodup
  interfaceNames : (unit.interfaces.map InterfaceDoc.name).Nodup
  enumNames : (unit.enums.map EnumDoc.name).Nodup

theorem Reordered.symm {unit unit' : UnitDoc} (reordered : Reordered unit unit') : Reordered unit' unit where
  path := reordered.path.symm
  literals := reordered.literals.symm
  functions := reordered.functions.symm
  main := reordered.main.symm
  classes := reordered.classes.symm
  interfaces := reordered.interfaces.symm
  enums := reordered.enums.symm
  classNames := (reordered.classes.map _).nodup_iff.mp reordered.classNames
  interfaceNames := (reordered.interfaces.map _).nodup_iff.mp reordered.interfaceNames
  enumNames := (reordered.enums.map _).nodup_iff.mp reordered.enumNames

theorem decl_ids_distinct (names : List String) (distinct : names.Nodup) : declIds names = names.map (⟨·, 0⟩) := by
  induction names with
  | nil => rfl
  | cons name rest ih =>
    obtain ⟨new, distinct⟩ := List.nodup_cons.mp distinct
    rw [declIds, ih distinct, List.count_eq_zero_of_not_mem new, List.map_cons]

theorem numbered_distinct {α β : Type} (name : α → String) (make : DeclId × α → β) (docs : List α)
    (distinct : (docs.map name).Nodup) :
    ((declIds (docs.map name)).zip docs).map make = docs.map fun doc => make (⟨name doc, 0⟩, doc) := by
  rw [decl_ids_distinct _ distinct, List.map_map]
  induction docs with
  | nil => rfl
  | cons doc rest ih => simp [ih (List.nodup_cons.mp distinct).2]

theorem outline_enumeration_ids (unit : UnitDoc) :
    (outline unit).enumerations.map Enumeration.id = declIds (unit.enums.map EnumDoc.name) := by
  rw [outline, List.map_map]
  exact List.map_fst_zip (by simp [decl_ids_length])

theorem outline_reordered {unit unit' : UnitDoc} (reordered : Reordered unit unit') :
    Declarations.Reordered (outline unit) (outline unit') := by
  have reordered' := reordered.symm
  constructor
  · rw [outline, outline, numbered_distinct _ _ _ reordered.classNames, numbered_distinct _ _ _ reordered'.classNames]
    exact reordered.classes.map _
  · rw [outline, outline, numbered_distinct _ _ _ reordered.interfaceNames, numbered_distinct _ _ _ reordered'.interfaceNames]
    exact reordered.interfaces.map _
  · rw [outline, outline, numbered_distinct _ _ _ reordered.enumNames, numbered_distinct _ _ _ reordered'.enumNames]
    exact reordered.enums.map _
  · rw [outline_class_ids]
    exact decl_ids_nodup _
  · rw [outline_interface_ids]
    exact decl_ids_nodup _
  · rw [outline_enumeration_ids]
    exact decl_ids_nodup _

section

variable {ds ds' : Declarations} (alike : ds.Alike ds')

include alike

theorem type_of_alike : typeOf ds = typeOf ds' := by
  funext generics src
  have resolve : (resolver ds generics : Ty.Resolver NameError) = resolver ds' generics := by
    funext bytes args
    unfold resolver resolveName
    simp only [Declarations.classNamed?, Declarations.interfaceNamed?, Declarations.enumerationNamed?, alike.classes,
      alike.interfaces, alike.enumerations]
  rw [typeOf, resolve, typeOf]

theorem class_body_alike : classBody ds = classBody ds' := by
  funext c
  simp only [classBody, baseOf, interfacesOf, fieldsOf, type_of_alike alike]

theorem interface_body_alike : interfaceBody ds = interfaceBody ds' := by
  funext i
  simp only [interfaceBody, interfacesOf, fieldsOf, type_of_alike alike]

end

theorem linked_reordered {unit unit' : UnitDoc} (reordered : Reordered unit unit') (ds : Declarations)
    (made : linkedDeclarations unit = .ok ds) : ∃ ds', linkedDeclarations unit' = .ok ds' ∧ ds.Reordered ds' := by
  have linked := linked_declarations_linked unit ds made
  have outlines := outline_reordered reordered
  obtain ⟨classes, readClasses, made⟩ := bind_ok _ _ _ made
  obtain ⟨interfaces, readInterfaces, made⟩ := bind_ok _ _ _ made
  cases made
  obtain ⟨classes', readClasses', permClasses⟩ := map_m_perm _ _ _ reordered.classes classes readClasses
  obtain ⟨interfaces', readInterfaces', permInterfaces⟩ := map_m_perm _ _ _ reordered.interfaces interfaces readInterfaces
  -- the bodies come in another order too, and each declaration takes the one body of its name
  have classNames := map_m_names _ _ _ (fun c b read => (class_body_reads _ c b read).1) _ _ readClasses ▸ reordered.classNames
  have interfaceNames := map_m_names _ _ _ (fun i b read => (interface_body_reads _ i b read).1) _ _ readInterfaces ▸
    reordered.interfaceNames
  have fill : Class.fill classes = Class.fill classes' := by
    funext c
    rw [Class.fill, filter_perm ClassBody.name _ _ permClasses classNames, Class.fill]
  have fill' : Interface.fill interfaces = Interface.fill interfaces' := by
    funext i
    rw [Interface.fill, filter_perm InterfaceBody.name _ _ permInterfaces interfaceNames, Interface.fill]
  rw [class_body_alike outlines.alike] at readClasses'
  rw [interface_body_alike outlines.alike] at readInterfaces'
  refine ⟨{ outline unit' with
    classes := (outline unit').classes.map (Class.fill classes)
    interfaces := (outline unit').interfaces.map (Interface.fill interfaces) }, ?_, ?_⟩
  · rw [linkedDeclarations, readClasses', readInterfaces', fill, fill']
    rfl
  · exact ⟨outlines.classes.map _, outlines.interfaces.map _, outlines.enumerations, linked.classIds, linked.interfaceIds,
      outlines.enumerationIds⟩

theorem check_cycles_reordered {ds ds' : Declarations} (reordered : ds.Reordered ds') (linked : ds.Linked) (linked' : ds'.Linked)
    (checked : checkCycles ds = .ok ()) : checkCycles ds' = .ok () := by
  -- the search may meet declarations in another order, but it fails only where there is a cycle
  have extends_ : ds'.Extends = ds.Extends := by
    funext sub super
    simp only [Declarations.Extends, reordered.classes.mem_iff]
  have refines : ds'.Refines = ds.Refines := by
    funext sub super
    simp only [Declarations.Refines, reordered.interfaces.mem_iff]
  rw [check_cycles_ok_iff, ds.cyclic_class_none_iff linked, ds.cyclic_interface_none_iff linked] at checked
  rw [check_cycles_ok_iff, ds'.cyclic_class_none_iff linked', ds'.cyclic_interface_none_iff linked', extends_, refines]
  exact ⟨fun c listed => checked.1 c (reordered.classes.mem_iff.mpr listed),
    fun i listed => checked.2 i (reordered.interfaces.mem_iff.mpr listed)⟩

theorem declarations_reordered {unit unit' : UnitDoc} (reordered : Reordered unit unit') (ds : Declarations)
    (declared : declarationsOf unit = .ok ds) : ∃ ds', declarationsOf unit' = .ok ds' ∧ ds.Alike ds' := by
  obtain ⟨made, checked⟩ := declarations_of_checked unit ds declared
  obtain ⟨ds', made', same⟩ := linked_reordered reordered ds made
  have checked' := check_cycles_reordered same (linked_declarations_linked unit ds made)
    (linked_declarations_linked unit' ds' made') checked
  refine ⟨ds', ?_, same.alike⟩
  rw [declarations_of_eq, made']
  change (checkCycles ds').map (fun _ => ds') = .ok ds'
  rw [checked']
  rfl

section

variable {ds ds' : Declarations} {path : String}

theorem site_alike (ds ds' : Declarations) : siteAt ⟨path, ds⟩ = siteAt ⟨path, ds'⟩ := rfl

theorem type_text_alike (alike : ds.Alike ds') : typeText ⟨path, ds⟩ = typeText ⟨path, ds'⟩ := by
  funext src
  rw [typeText, type_of_alike alike, typeText]

theorem class_of_alike (alike : ds.Alike ds') : classOf ⟨path, ds⟩ = classOf ⟨path, ds'⟩ := by
  funext name
  rw [classOf, Declarations.classNamed?, alike.classes, ← Declarations.classNamed?, classOf]

theorem params_alike (alike : ds.Alike ds') (ps : List ParamDoc) (scope : Scope) :
    params ⟨path, ds⟩ scope ps = params ⟨path, ds'⟩ scope ps := by
  induction ps generalizing scope with
  | nil => rfl
  | cons p rest ih => simp only [params, type_text_alike alike, ih]

mutual

theorem expr_alike (alike : ds.Alike ds') (e : ExprDoc) (scope : Scope) : expr ⟨path, ds⟩ scope e = expr ⟨path, ds'⟩ scope e := by
  cases e with
  | string | number | boolean | null | ref => simp only [expr, site_alike ds ds']
  | array _ items => simp only [expr, site_alike ds ds', exprs_alike alike items]
  | map _ items => simp only [expr, site_alike ds ds', entries_alike alike items]
  | lambda _ ps returns body =>
    simp only [expr, site_alike ds ds', params_alike alike, type_text_alike alike, stmts_alike alike body]
  | arrow _ ps returns value =>
    simp only [expr, site_alike ds ds', params_alike alike, type_text_alike alike, expr_alike alike value]
  | instanceOf _ operand | cast _ operand =>
    simp only [expr, site_alike ds ds', operand_alike alike operand, type_text_alike alike]
  | unary _ _ operand | property _ operand => simp only [expr, site_alike ds ds', operand_alike alike operand]
  | binary _ _ left right => simp only [expr, site_alike ds ds', operand_alike alike left, operand_alike alike right]
  | conditional _ condition whenTrue whenFalse =>
    simp only [expr, site_alike ds ds', operand_alike alike condition, operand_alike alike whenTrue, operand_alike alike whenFalse]
  | call _ callee args => simp only [expr, site_alike ds ds', operand_alike alike callee, exprs_alike alike args]
  | field _ _ _ object =>
    cases object with
    | none => simp only [expr, site_alike ds ds', class_of_alike alike]
    | some object => simp only [expr, site_alike ds ds', class_of_alike alike, expr_alike alike object]
  | this | static => simp only [expr, site_alike ds ds', class_of_alike alike]
  | unrecognized => rfl

theorem operand_alike (alike : ds.Alike ds') (e : Option ExprDoc) (scope : Scope) :
    operandOf ⟨path, ds⟩ scope e = operandOf ⟨path, ds'⟩ scope e := by
  cases e with
  | none => rfl
  | some e => rw [operandOf, operandOf, expr_alike alike e scope]

theorem exprs_alike (alike : ds.Alike ds') (items : List (Option ExprDoc)) (scope : Scope) :
    exprs ⟨path, ds⟩ scope items = exprs ⟨path, ds'⟩ scope items := by
  cases items with
  | nil => rfl
  | cons e rest => rw [exprs, exprs, operand_alike alike e scope, exprs_alike alike rest scope]

theorem entries_alike (alike : ds.Alike ds') (items : List (String × Option ExprDoc)) (scope : Scope) :
    entries ⟨path, ds⟩ scope items = entries ⟨path, ds'⟩ scope items := by
  match items with
  | [] => rfl
  | (_, e) :: rest => rw [entries, entries, operand_alike alike e scope, entries_alike alike rest scope]

theorem stmts_alike (alike : ds.Alike ds') (statements : List StmtDoc) (scope : Scope) (index : Nat) :
    stmts ⟨path, ds⟩ scope index statements = stmts ⟨path, ds'⟩ scope index statements := by
  cases statements with
  | nil => rfl
  | cons s rest => simp only [stmts, stmt_alike alike s, stmts_alike alike rest]

theorem stmt_alike (alike : ds.Alike ds') (s : StmtDoc) (scope : Scope) : stmt ⟨path, ds⟩ scope s = stmt ⟨path, ds'⟩ scope s := by
  cases s with
  | expression _ value => simp only [stmt, site_alike ds ds', operand_alike alike value]
  | declare _ _ type init =>
    cases init with
    | none => simp only [stmt, site_alike ds ds', type_text_alike alike]
    | some init => simp only [stmt, site_alike ds ds', type_text_alike alike, expr_alike alike init]
  | ret _ value =>
    cases value with
    | none => simp only [stmt, site_alike ds ds']
    | some value => simp only [stmt, site_alike ds ds', expr_alike alike value]
  | branch _ condition body alternative =>
    cases alternative with
    | none => simp only [stmt, site_alike ds ds', operand_alike alike condition, stmts_alike alike body]
    | some alternative =>
      simp only [stmt, site_alike ds ds', operand_alike alike condition, stmts_alike alike body, stmts_alike alike alternative]
  | loop _ condition body => simp only [stmt, site_alike ds ds', operand_alike alike condition, stmts_alike alike body]
  | foreach _ _ type items body =>
    simp only [stmt, site_alike ds ds', operand_alike alike items, type_text_alike alike, stmts_alike alike body]
  | unrecognized => rfl

end

theorem functions_alike (alike : ds.Alike ds') (fs : List FunctionDoc) : functions ⟨path, ds⟩ fs = functions ⟨path, ds'⟩ fs := by
  induction fs with
  | nil => rfl
  | cons f rest ih =>
    have first : function ⟨path, ds⟩ f = function ⟨path, ds'⟩ f := by
      simp only [function, site_alike ds ds', params_alike alike, type_text_alike alike, stmts_alike alike f.body]
    rw [functions, functions, first, ih]

theorem main_alike (alike : ds.Alike ds') (body : List StmtDoc) : mainBlock ⟨path, ds⟩ body = mainBlock ⟨path, ds'⟩ body := by
  simp only [mainBlock, stmts_alike alike body]

theorem literal_types_alike (alike : ds.Alike ds') (names : LiteralNames) : literalTypes ds names = literalTypes ds' names := by
  simp only [literalTypes, literalClass, Declarations.classNamed?, alike.classes]

end

theorem build_reordered {unit unit' : UnitDoc} (reordered : Reordered unit unit') (u : Built) (built : build unit = .ok u) :
    ∃ ds, build unit' = .ok { u with file := { u.file with declarations := ds } } ∧ u.file.declarations.Alike ds := by
  obtain ⟨ds, literals, fs, mid, main, supply, declared, named, ranFunctions, ranMain, rfl⟩ := (build_ok_iff unit u).mp built
  obtain ⟨ds', declared', alike⟩ := declarations_reordered reordered ds declared
  refine ⟨ds', ?_, alike⟩
  rw [literal_types_alike alike] at named
  rw [functions_alike alike] at ranFunctions
  rw [main_alike alike] at ranMain
  -- sites and locals are numbered along functions and main, so the numbers are those of the first build
  rw [build_ok_iff, reordered.path, reordered.literals, reordered.functions, reordered.main]
  exact ⟨ds', literals, fs, mid, main, supply, declared', named, ranFunctions, ranMain, rfl⟩

end Typeflow.Document
