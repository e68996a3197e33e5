import Typeflow.Proofs.Type.Hierarchy
import Typeflow.Proofs.Type.Printing

set_option autoImplicit false

namespace Typeflow.Document

open Text Declarations

section

variable {Label : Type}

-- Arguments are left out, or there is one for each parameter.
def Takes (params : List String) (args : List (Ty Label)) : Prop := args = [] ∨ args.length = params.length

-- The name of the type stands for it: no type parameter or declaration of a kind that comes first
-- has the name, and the arguments are as many as the declaration takes.
def Refers (ds : Declarations) (generics : List String) : Ty Label → Prop
  | .generic name => name ∈ generics
  | .cls d args => d.name ∉ generics ∧ ∃ c, ds.classNamed? d.name = some c ∧ c.id = d ∧ Takes c.typeParams args
  | .iface d args => d.name ∉ generics ∧ ds.classNamed? d.name = none ∧
    ∃ i, ds.interfaceNamed? d.name = some i ∧ i.id = d ∧ Takes i.typeParams args
  | .enumeration d => d.name ∉ generics ∧ ds.classNamed? d.name = none ∧ ds.interfaceNamed? d.name = none ∧
    ∃ e, ds.enumerationNamed? d.name = some e ∧ e.id = d
  | _ => False

theorem check_arity_ok (name : String) (params : List String) (args : List (Ty Label)) (t u : Ty Label) :
    checkArity name params args t = .ok u ↔ Takes params args ∧ t = u := by
  have decided : (args.isEmpty || args.length == params.length) = true ↔ Takes params args := by
    simp [Takes]
  unfold checkArity
  split
  next few => simp [decided.mp few]
  next many => simp [mt decided.mpr many]

theorem resolver_encode (ds : Declarations) (generics : List String) (name : String) (args : List (Ty Label)) :
    resolver ds generics (encode name) args = resolveName ds generics name args := by
  rw [resolver, text_encode]

theorem refers_resolves (ds : Declarations) (generics : List String) (t : Ty Label) (name : String) (printed : t.name? = some name)
    (known : Refers ds generics t) : resolveName ds generics name (typeArgs t) = .ok t := by
  cases t <;> cases printed
  case generic => simp [resolveName, typeArgs, show name ∈ generics from known]
  case cls d args =>
    obtain ⟨free, c, found, rfl, takes⟩ := known
    simp only [resolveName, List.contains_iff_mem, if_neg free, found]
    exact (check_arity_ok _ _ _ _ _).mpr ⟨takes, rfl⟩
  case iface d args =>
    obtain ⟨free, noClass, i, found, rfl, takes⟩ := known
    simp only [resolveName, List.contains_iff_mem, if_neg free, noClass, found]
    exact (check_arity_ok _ _ _ _ _).mpr ⟨takes, rfl⟩
  case enumeration d =>
    obtain ⟨free, noClass, noInterface, e, found, rfl⟩ := known
    simp only [resolveName, List.contains_iff_mem, if_neg free, noClass, noInterface, found]

theorem resolved_refers (ds : Declarations) (generics : List String) (name : String) (args : List (Ty Label)) (t : Ty Label)
    (resolved : resolveName ds generics name args = .ok t) :
    t.name? = some name ∧ Refers ds generics t ∧ ∀ a ∈ typeArgs t, a ∈ args := by
  unfold resolveName at resolved
  split at resolved
  next generic =>
    split at resolved
    · cases resolved
      exact ⟨rfl, List.contains_iff_mem.mp generic, nofun⟩
    · cases resolved
  next notGeneric =>
    have free : name ∉ generics := fun member => notGeneric (List.contains_iff_mem.mpr member)
    split at resolved
    next c found =>
      obtain ⟨takes, rfl⟩ := (check_arity_ok _ _ _ _ _).mp resolved
      obtain rfl : c.id.name = name := congrArg DeclId.name (found_id Class.id ds.classes ⟨name, 0⟩ c found).2
      exact ⟨rfl, ⟨free, c, found, rfl, takes⟩, fun a member => member⟩
    next noClass =>
      split at resolved
      next i found =>
        obtain ⟨takes, rfl⟩ := (check_arity_ok _ _ _ _ _).mp resolved
        obtain rfl : i.id.name = name := congrArg DeclId.name (found_id Interface.id ds.interfaces ⟨name, 0⟩ i found).2
        exact ⟨rfl, ⟨free, noClass, i, found, rfl, takes⟩, fun a member => member⟩
      next noInterface =>
        split at resolved
        next e found =>
          cases resolved
          obtain rfl : e.id.name = name :=
            congrArg DeclId.name (found_id Enumeration.id ds.enumerations ⟨name, 0⟩ e found).2
          exact ⟨rfl, ⟨free, noClass, noInterface, e, found, rfl⟩, nofun⟩
        next => cases resolved

theorem resolver_names (ds : Declarations) (generics : List String) :
    (resolver ds generics).Names (Refers ds generics : Ty Label → Prop) where
  answers t name printed known := by
    rw [resolver_encode]
    exact refers_resolves ds generics t name printed known
  named bytes args t resolved := by
    unfold resolver at resolved
    split at resolved
    next name read => exact ⟨name, encode_of_text bytes name read, resolved_refers ds generics name args t resolved⟩
    next => cases resolved

end

-- Reading undoes printing for every type that can be written down, and every type that was read
-- can be. Labels that are no text are kept as the bytes that were read.
theorem printed_types_read_back (ds : Declarations) (generics : List String) :
    (∀ t, Ty.Spelt encode (Refers ds generics) t → Ty.parse (some (resolver ds generics)) t.text = .ok t) ∧
    (∀ src t, Ty.parse (some (resolver ds generics)) src = .ok t →
      Ty.Spelt encode (Refers ds generics) t ∧ Ty.parse (some (resolver ds generics)) t.text = .ok t) ∧
    (∀ t : Ty Bytes, Ty.Spelt id (Refers ds generics) t →
      Ty.parseBytes (Ty.maker id) (some (resolver ds generics)) (t.written id) = .ok t) ∧
    ∀ (src : Bytes) (t : Ty Bytes), Ty.parseBytes (Ty.maker id) (some (resolver ds generics)) src = .ok t →
      Ty.Spelt id (Refers ds generics) t ∧ Ty.parseBytes (Ty.maker id) (some (resolver ds generics)) (t.written id) = .ok t := by
  have back : ∀ t : Ty Bytes, Ty.Spelt id (Refers ds generics) t →
      Ty.parseBytes (Ty.maker id) (some (resolver ds generics)) (t.written id) = .ok t :=
    fun t spelt => Ty.parse_written_back (fun _ => rfl) (resolver_names ds generics) t spelt
  refine ⟨fun t spelt => Ty.parse_printed (resolver_names ds generics) t spelt, ?_, back, ?_⟩
  · intro src t parsed
    have spelt := Ty.parse_spelt (resolver_names ds generics) src t parsed
    exact ⟨spelt, Ty.parse_printed (resolver_names ds generics) t spelt⟩
  · intro src t parsed
    have kept : ∀ bytes : Bytes, True → id (id bytes) = bytes := fun _ _ => rfl
    have spelt := Ty.parse_bytes_spelt Ty.bytes_cuttable kept (resolver_names ds generics) src trivial t parsed
    exact ⟨spelt, back t spelt⟩

-- `class Map<K, V>`, `interface List<T>` and `enum Color`
def mapListColor : Declarations where
  classes := [⟨⟨"Map", 0⟩, ["K", "V"], none, [], []⟩]
  interfaces := [⟨⟨"List", 0⟩, ["T"], [], []⟩]
  enumerations := [⟨⟨"Color", 0⟩, ["red"]⟩]

def mapFromLambdas : Ty :=
  .cls ⟨"Map", 0⟩ [
    .lambda [("f", .lambda [] (.generic "T")), ("c", .enumeration ⟨"Color", 0⟩)] (.iface ⟨"List", 0⟩ [.any]),
    .void]

-- `(ÿ: T, þ: T) => void` in Latin-1
def byteLambda : Ty Bytes := .lambda [([0xFF], .generic "T"), ([0xFE], .generic "T")] .void

theorem map_from_lambdas_reads_back :
    mapFromLambdas.text = "Map<(f: () => T, c: Color) => List<any>, void>" ∧
    Ty.Spelt encode (Refers mapListColor ["T"]) mapFromLambdas ∧
    Ty.parse (some (resolver mapListColor ["T"])) "Map<(f: () => T, c: Color) => List<any>, void>" = .ok mapFromLambdas ∧
    (∃ t, Ty.parse (some (resolver mapListColor ["T"])) "List<(x :T)=> Map < any<void>,Color<T> > >" = .ok t ∧
      Ty.parse (some (resolver mapListColor ["T"])) t.text = .ok t) ∧
    (byteLambda.written id = 0x28 :: 0xFF :: (encode ": T, " ++ 0xFE :: encode ": T) => void") ∧
      Ty.parseBytes (Ty.maker id) (some (resolver mapListColor ["T"])) (byteLambda.written id) = .ok byteLambda) := by
  obtain ⟨back, again, bytesBack, _⟩ := printed_types_read_back mapListColor ["T"]
  have text : mapFromLambdas.text = "Map<(f: () => T, c: Color) => List<any>, void>" := by decide +kernel
  have generic : Ty.Spelt encode (Refers mapListColor ["T"]) (.generic "T") :=
    .named _ "T" rfl (by decide +kernel) (by decide) List.mem_cons_self (List.forall_mem_nil _)
  have color : Ty.Spelt encode (Refers mapListColor ["T"]) (.enumeration ⟨"Color", 0⟩) :=
    .named _ "Color" rfl (by decide +kernel) (by decide) ⟨by decide, rfl, rfl, _, rfl, rfl⟩ (List.forall_mem_nil _)
  have list : Ty.Spelt encode (Refers mapListColor ["T"]) (.iface ⟨"List", 0⟩ [.any]) :=
    .named _ "List" rfl (by decide +kernel) (by decide) ⟨by decide, rfl, _, rfl, rfl, .inr rfl⟩
      (List.forall_mem_singleton.mpr .any)
  have lambda : Ty.Spelt encode (Refers mapListColor ["T"])
      (.lambda [("f", .lambda [] (.generic "T")), ("c", .enumeration ⟨"Color", 0⟩)] (.iface ⟨"List", 0⟩ [.any])) := by
    refine .lambda _ _ (by decide +kernel) (List.forall_mem_cons.mpr ⟨?_, List.forall_mem_singleton.mpr color⟩) list
    exact .lambda [] _ (List.forall_mem_nil _) (List.forall_mem_nil _) generic
  have spelt : Ty.Spelt encode (Refers mapListColor ["T"]) mapFromLambdas :=
    .named _ "Map" rfl (by decide +kernel) (by decide) ⟨by decide, _, rfl, rfl, .inr rfl⟩
      (List.forall_mem_cons.mpr ⟨lambda, List.forall_mem_singleton.mpr .void⟩)
  have labelled : Ty.Spelt id (Refers mapListColor ["T"]) byteLambda := by
    have generic : Ty.Spelt (id : Bytes → Bytes) (Refers mapListColor ["T"]) (.generic "T") :=
      .named _ "T" rfl (by decide +kernel) (by decide) List.mem_cons_self (List.forall_mem_nil _)
    refine .lambda _ _ (by decide +kernel) (List.forall_mem_cons.mpr ⟨generic, List.forall_mem_singleton.mpr generic⟩) .void
  refine ⟨text, spelt, text ▸ back mapFromLambdas spelt, ?_, by decide +kernel, bytesBack byteLambda labelled⟩
  have reads : (Ty.parse (some (resolver mapListColor ["T"])) "List<(x :T)=> Map < any<void>,Color<T> > >").toBool = true := by
    decide +kernel
  cases parsed : Ty.parse (some (resolver mapListColor ["T"])) "List<(x :T)=> Map < any<void>,Color<T> > >" with
  | error e =>
    rw [parsed] at reads
    cases reads
  | ok t => exact ⟨t, rfl, (again _ t parsed).2⟩

end Typeflow.Document
