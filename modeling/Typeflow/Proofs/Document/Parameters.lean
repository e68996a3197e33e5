import Typeflow.Proofs.Document.Reordering
import Typeflow.Proofs.Type.Substitution

set_option autoImplicit false

namespace Typeflow.Document

open Declarations

theorem spelt_generics (ds : Declarations) (generics : List String) (t : Ty) (spelt : Ty.Spelt Text.encode (Refers ds generics) t) :
    t.generics ⊆ generics := by
  induction spelt with
  | any | void => simp [Ty.generics]
  | named t name printed identifier other known args ih =>
    cases t with
    | generic param => exact List.cons_subset.mpr ⟨known, List.nil_subset _⟩
    | cls d args | iface d args =>
      simp only [Ty.generics_cls, Ty.generics_iface]
      intro param occurs
      obtain ⟨t, member, inside⟩ := List.mem_flatMap.mp occurs
      exact ih t member inside
    | lambda => cases printed
    | unknown | any | void | enumeration => simp [Ty.generics]
  | lambda params result names types returned ih ihResult =>
    rw [Ty.generics_lambda, List.append_subset]
    refine ⟨fun param occurs => ?_, ihResult⟩
    obtain ⟨p, member, inside⟩ := List.mem_flatMap.mp occurs
    exact ih p member inside

theorem reads_generics (ds : Declarations) (generics : List String) (t : Ty) (reads : Reads ds generics t) :
    t.generics ⊆ generics :=
  spelt_generics ds generics t (reads_spelt ds generics t reads)

-- With distinct names each declaration is filled in from the entry that its parameters come from.
theorem built_confined (unit : UnitDoc) (u : Built) (built : build unit = .ok u)
    (classNames : (unit.classes.map ClassDoc.name).Nodup) (interfaceNames : (unit.interfaces.map InterfaceDoc.name).Nodup) :
    u.file.declarations.Confined := by
  obtain ⟨made, _⟩ := declarations_of_checked unit _ (build_declarations unit u built)
  generalize u.file.declarations = ds at made
  obtain ⟨classes, readClasses, made⟩ := bind_ok _ _ _ made
  obtain ⟨interfaces, readInterfaces, made⟩ := bind_ok _ _ _ made
  cases made
  constructor
  · intro c member t named
    obtain ⟨doc', isDoc', name', reads⟩ := filled_class_reads unit classes readClasses c member t named
    obtain ⟨start, listed, rfl⟩ := List.mem_map.mp member
    rw [outline, numbered_distinct _ _ _ classNames] at listed
    obtain ⟨doc, isDoc, rfl⟩ := List.mem_map.mp listed
    rw [(class_fill_id classes _).1] at name'
    rw [(class_fill_id classes _).2]
    obtain rfl : doc' = doc := List.inj_on_of_nodup_map classNames isDoc' isDoc name'
    exact reads_generics _ _ t reads
  · intro i member t named
    obtain ⟨doc', isDoc', name', reads⟩ := filled_interface_reads unit interfaces readInterfaces i member t named
    obtain ⟨start, listed, rfl⟩ := List.mem_map.mp member
    rw [outline, numbered_distinct _ _ _ interfaceNames] at listed
    obtain ⟨doc, isDoc, rfl⟩ := List.mem_map.mp listed
    rw [(interface_fill_id interfaces _).1] at name'
    rw [(interface_fill_id interfaces _).2]
    obtain rfl : doc' = doc := List.inj_on_of_nodup_map interfaceNames isDoc' isDoc name'
    exact reads_generics _ _ t reads

-- Every type flows into itself. What flows through a type that is not `any`, nor a lambda with
-- `any` as a part, flows directly; and two such types that flow into each other are equal.
theorem assignability_partial_order (unit : UnitDoc) (u : Built) (built : build unit = .ok u) :
    (∀ t : Ty, t.whole → u.file.declarations.assignable t t) ∧
    (∀ a m c : Ty, a.whole → m.definite → c.whole → u.file.declarations.assignable a m →
      u.file.declarations.assignable m c → u.file.declarations.assignable a c) ∧
    ∀ a b : Ty, a.definite → b.definite → u.file.declarations.assignable a b → u.file.declarations.assignable b a → a.equal b := by
  have bounded := built_bounded unit u built
  refine ⟨fun t whole => ?_, fun a m c isA isM isC first second => ?_, fun a b isA isB first second => ?_⟩
  · exact assignable_refl _ bounded t (comparable_known t (whole_comparable t whole))
  · exact assignable_through _ bounded a m c (whole_comparable a isA) isM (whole_comparable c isC) first second
  · exact assignable_antisymm _ bounded a b isA isB first second

-- `Pair` hands its parameters on in the other order, and the names of parameters clash all the way up.
def pairs : UnitDoc where
  path := "pairs.json"
  literals := ⟨"", "", "", "", ""⟩
  classes := [
    ⟨"Text", [], "", [], []⟩,
    ⟨"Box", ["A"], "", [], [⟨"item", "A"⟩]⟩,
    ⟨"Pair", ["A", "B"], "Swapped<Box<B>, A>", [], []⟩,
    ⟨"Swapped", ["A", "B"], "Box<B>", ["Converter<B, A>"], []⟩]
  interfaces := [⟨"Converter", ["B", "A"], [], [⟨"convert", "(from: B) => A"⟩]⟩]
  enums := []
  functions := []
  main := []

def textType : Ty := .cls ⟨"Text", 0⟩ []

def boxOf (t : Ty) : Ty := .cls ⟨"Box", 0⟩ [t]

def pairOf (a b : Ty) : Ty := .cls ⟨"Pair", 0⟩ [a, b]

theorem text_pairs_ordered :
    ∃ u, build pairs = .ok u ∧
      u.file.declarations.assignable (pairOf .any .void) (pairOf .any .void) ∧
      u.file.declarations.assignable (.lambda [("x", .any)] textType) (.lambda [("y", pairOf textType .any)] .void) ∧
      (Ty.lambda [("x", pairOf textType .any)] .void).equal (.lambda [("y", pairOf textType .any)] .void) := by
  obtain ⟨u, built, computed⟩ := built_check pairs (fun u =>
    u.file.declarations.assignable (.lambda [("x", .any)] textType) (.lambda [("z", boxOf textType)] textType) &&
    u.file.declarations.assignable (.lambda [("z", boxOf textType)] textType) (.lambda [("y", pairOf textType .any)] .void) &&
    u.file.declarations.assignable (.lambda [("x", pairOf textType .any)] .void) (.lambda [("y", pairOf textType .any)] .void) &&
    u.file.declarations.assignable (.lambda [("y", pairOf textType .any)] .void) (.lambda [("x", pairOf textType .any)] .void))
    (by decide +kernel)
  simp only [Bool.and_eq_true] at computed
  obtain ⟨⟨⟨first, second⟩, there⟩, back⟩ := computed
  obtain ⟨refl, trans, antisymm⟩ := assignability_partial_order pairs u built
  exact ⟨u, built, refl _ rfl, trans _ _ _ rfl rfl rfl first second, antisymm _ _ rfl rfl there back⟩

theorem lookups_commute_with_substitution (unit : UnitDoc) (u : Built) (built : build unit = .ok u)
    (classNames : (unit.classes.map ClassDoc.name).Nodup) (interfaceNames : (unit.interfaces.map InterfaceDoc.name).Nodup)
    (saturated : u.file.declarations.saturated) (t : Ty) (notParam : ∀ name, t ≠ .generic name)
    (applied : t.saturated u.file.declarations) (s : Bindings) (name : String) :
    u.file.declarations.supertypes (t.substitute s) = (u.file.declarations.supertypes t).map (Ty.substitute s) ∧
    u.file.declarations.member? (t.substitute s) name = (u.file.declarations.member? t name).map (fun found =>
      ⟨found.owner.substitute s, found.field, found.type.substitute s⟩) ∧
    (t.generics = [] → ∀ found, u.file.declarations.member? t name = some found → found.type.generics = []) := by
  have bounded := built_bounded unit u built
  have confined := built_confined unit u built classNames interfaceNames
  have full := saturated_full _ t applied
  refine ⟨?_, ?_, fun closed found member => ?_⟩
  · exact supertypes_substitute _ confined s t notParam full
  · exact member_substitute _ confined saturated bounded s t notParam full name
  · exact member_closed _ confined saturated bounded t notParam full closed name found member

-- Each parameter is replaced by something with the other in it.
def crossed : Bindings := [("A", .generic "B"), ("B", .lambda [] (.generic "A"))]

theorem conversion_of_pairs_substituted :
    ∃ u found found', build pairs = .ok u ∧
      u.file.declarations.member? (pairOf (.generic "A") (.generic "B")) "convert" = some found ∧
      found.type.text = "(from: A) => Box<B>" ∧
      u.file.declarations.member? (pairOf (.generic "B") (.lambda [] (.generic "A"))) "convert" =
        some ⟨found.owner.substitute crossed, found.field, found.type.substitute crossed⟩ ∧
      (found.type.substitute crossed).text = "(from: B) => Box<() => A>" ∧
      u.file.declarations.supertypes (pairOf (.generic "B") (.lambda [] (.generic "A"))) =
        (u.file.declarations.supertypes (pairOf (.generic "A") (.generic "B"))).map (Ty.substitute crossed) ∧
      u.file.declarations.member? (pairOf textType .any) "convert" = some found' ∧ found'.type.generics = [] := by
  obtain ⟨u, built, computed⟩ := built_check pairs (fun u =>
    u.file.declarations.saturated && (pairOf (.generic "A") (.generic "B")).saturated u.file.declarations &&
    (pairOf textType .any).saturated u.file.declarations &&
    ((u.file.declarations.member? (pairOf (.generic "A") (.generic "B")) "convert").map fun found =>
      (found.type.text, (found.type.substitute crossed).text)) == some ("(from: A) => Box<B>", "(from: B) => Box<() => A>") &&
    (u.file.declarations.member? (pairOf textType .any) "convert").isSome) (by decide +kernel)
  simp only [Bool.and_eq_true, beq_iff_eq, Option.map_eq_some_iff, Option.isSome_iff_exists] at computed
  obtain ⟨⟨⟨⟨saturated, applied⟩, applied'⟩, found, member, texts⟩, found', member'⟩ := computed
  obtain ⟨supers, lookup, _⟩ := lookups_commute_with_substitution pairs u built (by decide) (by decide) saturated
    (pairOf (.generic "A") (.generic "B")) nofun applied crossed "convert"
  obtain ⟨_, _, closed⟩ := lookups_commute_with_substitution pairs u built (by decide) (by decide) saturated
    (pairOf textType .any) nofun applied' crossed "convert"
  rw [member] at lookup
  exact ⟨u, found, found', built, member, congrArg Prod.fst texts, lookup, congrArg Prod.snd texts, supers, member',
    closed rfl found' member'⟩

theorem assignability_instantiates (unit : UnitDoc) (u : Built) (built : build unit = .ok u)
    (classNames : (unit.classes.map ClassDoc.name).Nodup) (interfaceNames : (unit.interfaces.map InterfaceDoc.name).Nodup)
    (saturated : u.file.declarations.saturated) (a b : Ty) (isA : a.saturated u.file.declarations)
    (isB : b.saturated u.file.declarations) (s : Bindings) (values : ∀ name, s.lookup name ≠ some .unknown)
    (flows : u.file.declarations.assignable a b) :
    u.file.declarations.assignable (a.substitute s) (b.substitute s) := by
  have bounded := built_bounded unit u built
  have confined := built_confined unit u built classNames interfaceNames
  exact assignable_substitute _ confined saturated bounded s values a b isA isB flows

-- A lambda that takes a converter and gives a text, and one that takes a pair and gives nothing.
def takesConverter : Ty := .lambda [("by", .iface ⟨"Converter", 0⟩ [.generic "A", boxOf (.generic "B")])] textType

def takesPair : Ty := .lambda [("of", pairOf (.generic "A") (.generic "B"))] .void

theorem converter_for_pairs_instantiated :
    ∃ u, build pairs = .ok u ∧ u.file.declarations.assignable takesConverter takesPair ∧
      (takesConverter.substitute crossed).text = "(by: Converter<B, Box<() => A>>) => Text" ∧
      (takesPair.substitute crossed).text = "(of: Pair<B, () => A>) => void" ∧
      u.file.declarations.assignable (takesConverter.substitute crossed) (takesPair.substitute crossed) := by
  obtain ⟨u, built, computed⟩ := built_check pairs (fun u =>
    u.file.declarations.saturated && takesConverter.saturated u.file.declarations && takesPair.saturated u.file.declarations &&
    u.file.declarations.assignable takesConverter takesPair) (by decide +kernel)
  simp only [Bool.and_eq_true] at computed
  obtain ⟨⟨⟨saturated, isA⟩, isB⟩, flows⟩ := computed
  have values : ∀ name, crossed.lookup name ≠ some .unknown := by
    intro name found
    obtain ⟨before, after, split, _⟩ := List.lookup_eq_some_iff.mp found
    have listed : (name, Ty.unknown) ∈ crossed := split ▸ List.mem_append_right before List.mem_cons_self
    simp [crossed] at listed
  exact ⟨u, built, flows, by decide +kernel, by decide +kernel,
    assignability_instantiates pairs u built (by decide) (by decide) saturated _ _ isA isB crossed values flows⟩

end Typeflow.Document
