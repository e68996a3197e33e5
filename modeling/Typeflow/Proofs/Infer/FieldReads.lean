import Typeflow.Proofs.Infer.Derivation
import Typeflow.Proofs.Type.Equality

set_option autoImplicit false

namespace Typeflow.Infer

open Declarations

theorem member_declared (ds : Declarations) (t : Ty) (name : String) (found : Member)
    (member : ds.member? t name = some found) :
    ds.ownField? found.owner name = some found.field ∧ found.type = found.field.type.substitute (ds.bindings found.owner) := by
  rw [member?, search_eq] at member
  obtain ⟨_, owner, _, _, owned, _⟩ := List.findSome?_eq_some_iff.mp member
  obtain ⟨field, own, rfl⟩ := Option.map_eq_some_iff.mp owned
  exact ⟨own, rfl⟩

theorem own_field_of_class (ds : Declarations) (d : DeclId) (args : List Ty) (name : String) (field : Field)
    (own : ds.ownField? (.cls d args) name = some field) :
    ∃ c, ds.class? d = some c ∧ c.fields.find? (·.name == name) = some field := by
  rw [ownField?, ownFields] at own
  cases found : ds.class? d with
  | none => simp [found] at own
  | some c => exact ⟨c, rfl, by simpa [found] using own⟩

theorem set_type_run (e : Expr) (t : Ty) (p : Progress) (whole : t.whole) (untyped : p.notes.actual e.id = .unknown) :
    setType e t p = (.ok true, { p with notes := p.notes.setActual e.id t }) :=
  set_known_run t (whole_known t whole) untyped

open Document in
theorem field_reads_agree_iff (unit : UnitDoc) (u : Built) (built : build unit = .ok u) (ctx : Context)
    (declared : ctx.declarations = u.file.declarations) (p : Progress) (sound : Sound p.notes) (object : Expr) (d : DeclId)
    (args : List Ty) (typed : p.notes.actual object.id = .cls d args) (name : String) (found : Member)
    (member : ctx.declarations.member? (.cls d args) name = some found) (owner : DeclId) (ownerArgs : List Ty)
    (onClass : found.owner = .cls owner ownerArgs) (s s' : Site) (untyped : p.notes.actual s.id = .unknown)
    (untyped' : p.notes.actual s'.id = .unknown) :
    ∃ c resolved, ctx.declarations.class? owner = some c ∧ c.fields.find? (·.name == name) = some found.field ∧
      Strategy.references.infer ctx (.fieldRef s (some object) ⟨owner, name, found.field.type⟩) p =
        (.ok true, { p with notes := p.notes.setActual s.id resolved }) ∧
      Strategy.members.infer ctx (.property s' object name) p =
        (.ok true, { p with notes := p.notes.setActual s'.id found.type }) ∧
      (resolved.equal found.type ↔ ∀ param ∈ found.field.type.generics,
        ((ctx.declarations.bindings (.cls d args)).value param).equal
          ((ctx.declarations.bindings (.cls owner ownerArgs)).value param)) := by
  have declaredWhole : ctx.declarations.Whole := declared ▸ (build_sound unit u built).declared
  have objectWhole : (Ty.cls d args).whole := typed ▸ noted_known _ (sound.actual object.id) (by rw [typed]; exact nofun)
  obtain ⟨own, type⟩ := member_declared _ _ name found member
  have fieldWhole := own_field_whole _ declaredWhole found.owner found.field (List.mem_of_find?_eq_some own)
  rw [onClass] at own type
  obtain ⟨c, isClass, listed⟩ := own_field_of_class _ owner ownerArgs name found.field own
  refine ⟨c, found.field.type.substitute (ctx.declarations.bindings (.cls d args)), isClass, listed, ?_, ?_, ?_⟩
  · change setType (.fieldRef s (some object) _) (fieldType ctx.declarations _ (p.notes.actual object.id)) p = _
    rw [typed]
    exact set_type_run _ _ p (substitute_whole _ (bindings_whole _ _ objectWhole) _ fieldWhole) untyped
  · have foundWhole := member_whole _ declaredWhole _ name found objectWhole member
    have read : actual object p = (.ok (.cls d args), p) := by
      rw [← typed]
      rfl
    change inferProperty ctx (.property s' object name) object name p = _
    rw [inferProperty, bind_run, read]
    simp only [member]
    exact set_type_run _ _ p foundWhole untyped'
  · rw [type]
    exact Ty.substitute_equal_iff _ _ _ _ (Ty.equal_refl _)

open Document in
-- `Stack<T>` and `Crate<U>` both inherit the field of `Box<T>`, under the same and under
-- another name for its type.
def boxes : UnitDoc where
  path := "boxes.json"
  literals := ⟨"", "", "", "", ""⟩
  classes := [
    ⟨"Box", ["T"], "", [], [⟨"item", "T"⟩]⟩,
    ⟨"Stack", ["T"], "Box<T>", [], []⟩,
    ⟨"Crate", ["U"], "Box<U>", [], []⟩,
    ⟨"Text", [], "", [], []⟩]
  interfaces := []
  enums := []
  functions := []
  main := []

def ofText (name : String) : Ty := .cls ⟨name, 0⟩ [.cls ⟨"Text", 0⟩ []]

def container : Expr := .localRef ⟨0, none⟩ ⟨0, .letBound, "container"⟩

def containing (t : Ty) : Progress := ⟨Annotations.empty.setActual 0 t, [], []⟩

theorem containing_sound (t : Ty) (whole : t.whole) : Sound (containing t).notes := by
  refine ⟨fun id => ?_, fun id => .inl rfl, fun id => .inl rfl⟩
  exact updated_noted _ _ _ (fun _ => .inl rfl) (.inr whole) id

open Document in
theorem stack_field_reads_agree :
    ∃ u found resolved, build boxes = .ok u ∧
      Strategy.references.infer (.ofFile u.file .empty) (.fieldRef ⟨1, none⟩ (some container) ⟨⟨"Box", 0⟩, "item", .generic "T"⟩)
        (containing (ofText "Stack")) =
          (.ok true, { containing (ofText "Stack") with notes := (containing (ofText "Stack")).notes.setActual 1 resolved }) ∧
      Strategy.members.infer (.ofFile u.file .empty) (.property ⟨2, none⟩ container "item") (containing (ofText "Stack")) =
        (.ok true, { containing (ofText "Stack") with notes := (containing (ofText "Stack")).notes.setActual 2 found }) ∧
      resolved.equal found := by
  obtain ⟨u, built, computed⟩ := built_check boxes (fun u =>
    (u.file.declarations.member? (ofText "Stack") "item").any fun found => found.owner.equal (ofText "Box") &&
      found.field.type.equal (.generic "T") && found.field.type.generics.all fun param =>
        ((u.file.declarations.bindings (ofText "Stack")).value param).equal
          ((u.file.declarations.bindings found.owner).value param)) (by decide +kernel)
  cases member : u.file.declarations.member? (ofText "Stack") "item" with
  | none =>
    rw [member] at computed
    cases computed
  | some found =>
    simp only [member, Option.any_some, Bool.and_eq_true, List.all_eq_true] at computed
    obtain ⟨⟨onBox, isParam⟩, agree⟩ := computed
    obtain ⟨owner, ⟨_, declared⟩, type⟩ := found
    cases owner with
    | cls d args =>
      cases declared with
      | generic param =>
        obtain rfl : d = ⟨"Box", 0⟩ := by simpa using (Bool.and_eq_true_iff.mp onBox).1
        obtain rfl : param = "T" := by simpa [Ty.equal] using isParam
        obtain ⟨_, resolved, _, _, byField, byName, iff⟩ := field_reads_agree_iff boxes u built (.ofFile u.file .empty) rfl
          (containing (ofText "Stack")) (containing_sound _ rfl) container _ _ rfl "item" _ member _ args rfl ⟨1, none⟩ ⟨2, none⟩ rfl rfl
        exact ⟨u, type, resolved, built, byField, byName, iff.mpr agree⟩
      | _ => simp [Ty.equal] at isParam
    | _ => simp [Ty.equal, ofText] at onBox

-- The type of the container's item, read through a resolved reference and read by name.
def itemByField (file : SourceFile) (t : Ty) : Ty :=
  let e := Expr.fieldRef ⟨1, none⟩ (some container) ⟨⟨"Box", 0⟩, "item", .generic "T"⟩
  (Strategy.references.infer (.ofFile file .empty) e (containing t)).2.notes.actual 1

def itemByName (file : SourceFile) (t : Ty) : Ty :=
  (Strategy.members.infer (.ofFile file .empty) (.property ⟨2, none⟩ container "item") (containing t)).2.notes.actual 2

open Document in
-- Read by name the item of a `Crate<Text>` is a `Text`; the resolved reference leaves it a `T`.
theorem crate_field_reads_differ :
    ∃ u found, build boxes = .ok u ∧ u.file.declarations.member? (ofText "Crate") "item" = some found ∧
      found.owner.text = "Box<Text>" ∧ found.field.name = "item" ∧ found.field.type.text = "T" ∧
      (itemByField u.file (ofText "Crate")).text = "T" ∧ (itemByName u.file (ofText "Crate")).text = "Text" ∧
      (itemByField u.file (ofText "Crate")).equal (itemByName u.file (ofText "Crate")) = false := by
  obtain ⟨u, built, computed⟩ := built_check boxes (fun u =>
    (u.file.declarations.member? (ofText "Crate") "item").map (fun found =>
      (found.owner.text, found.field.name, found.field.type.text,
        (itemByField u.file (ofText "Crate")).text, (itemByName u.file (ofText "Crate")).text,
        (itemByField u.file (ofText "Crate")).equal (itemByName u.file (ofText "Crate")))) =
      some ("Box<Text>", "item", "T", "T", "Text", false)) (by decide +kernel)
  obtain ⟨found, member, texts⟩ := Option.map_eq_some_iff.mp (of_decide_eq_true computed)
  simp only [Prod.mk.injEq] at texts
  exact ⟨u, found, built, member, texts⟩

end Typeflow.Infer
