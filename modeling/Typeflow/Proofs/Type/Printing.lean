import Typeflow.Proofs.Text.Utf8
import Typeflow.Proofs.Type.Parsing

set_option autoImplicit false

namespace Typeflow.Ty

open Text Declarations

-- What the reader takes for one name.
def Identifier (name : Bytes) : Prop := name ≠ [] ∧ ∀ b ∈ name, isNameByte b

instance (name : Bytes) : Decidable (Identifier name) := inferInstanceAs (Decidable (_ ∧ _))

def Identifier.written {name : Bytes} (identifier : Identifier name) : Name := ⟨name, identifier.1, identifier.2⟩

section

variable {Label : Type}

-- The name that a type is printed with, before its arguments.
def name? : Ty Label → Option String
  | .generic name => some name
  | .cls d _ => some d.name
  | .iface d _ => some d.name
  | .enumeration d => some d.name
  | _ => none

-- A type that can be written down, where `refers` holds of a named type if its name stands for it.
inductive Spelt (spell : Label → Bytes) (refers : Ty Label → Prop) : Ty Label → Prop
  | any : Spelt spell refers .any
  | void : Spelt spell refers .void
  | named (t : Ty Label) (name : String) (printed : t.name? = some name) (identifier : Identifier (encode name))
      (other : name ≠ "any" ∧ name ≠ "void") (known : refers t) (args : ∀ a ∈ typeArgs t, Spelt spell refers a) :
      Spelt spell refers t
  | lambda (params : List (Label × Ty Label)) (result : Ty Label) (identifiers : ∀ param ∈ params, Identifier (spell param.1))
      (types : ∀ param ∈ params, Spelt spell refers param.2) (returned : Spelt spell refers result) :
      Spelt spell refers (.lambda params result)

variable (spell : Label → Bytes)

mutual

-- The printed form of a type whose labels need not be text.
def written : Ty Label → Bytes
  | .unknown => encode "?"
  | .any => encode "any"
  | .void => encode "void"
  | .generic name => encode name
  | .cls d args => encode d.name ++ argsWritten args
  | .iface d args => encode d.name ++ argsWritten args
  | .enumeration d => encode d.name
  | .lambda params result => encode "(" ++ paramsWritten params ++ encode ") => " ++ written result

def argsWritten : List (Ty Label) → Bytes
  | [] => []
  | a :: rest => encode "<" ++ written a ++ moreArgsWritten rest ++ encode ">"

def moreArgsWritten : List (Ty Label) → Bytes
  | [] => []
  | a :: rest => encode ", " ++ written a ++ moreArgsWritten rest

def paramsWritten : List (Label × Ty Label) → Bytes
  | [] => []
  | (name, t) :: rest => spell name ++ encode ": " ++ written t ++ moreParamsWritten rest

def moreParamsWritten : List (Label × Ty Label) → Bytes
  | [] => []
  | (name, t) :: rest => encode ", " ++ spell name ++ encode ": " ++ written t ++ moreParamsWritten rest

end

end

mutual

theorem encode_printed (t : Ty) : encode t.text = t.written encode := by
  cases t with
  | cls d args | iface d args => rw [text, written, encode_append, encode_args_printed args]
  | lambda params result =>
    rw [text, written, encode_append, encode_append, encode_append, encode_params_printed params, encode_printed result]
  | _ => rfl

theorem encode_args_printed (args : List Ty) : encode (argsText args) = argsWritten encode args := by
  cases args with
  | nil => rfl
  | cons a rest =>
    rw [argsText, argsWritten, encode_append, encode_append, encode_append, encode_printed a, encode_more_args_printed rest]

theorem encode_more_args_printed (args : List Ty) : encode (moreArgsText args) = moreArgsWritten encode args := by
  cases args with
  | nil => rfl
  | cons a rest =>
    rw [moreArgsText, moreArgsWritten, encode_append, encode_append, encode_printed a, encode_more_args_printed rest]

theorem encode_params_printed (params : List (String × Ty)) : encode (paramsText params) = paramsWritten encode params := by
  match params with
  | [] => rfl
  | (name, t) :: rest =>
    rw [paramsText, paramsWritten, encode_append, encode_append, encode_append, encode_printed t, encode_more_params_printed rest]

theorem encode_more_params_printed (params : List (String × Ty)) :
    encode (moreParamsText params) = moreParamsWritten encode params := by
  match params with
  | [] => rfl
  | (name, t) :: rest =>
    rw [moreParamsText, moreParamsWritten, encode_append, encode_append, encode_append, encode_append, encode_printed t,
      encode_more_params_printed rest]

end

theorem named_text (t : Ty) (name : String) (printed : t.name? = some name) : t.text = name ++ argsText (typeArgs t) := by
  cases t <;> cases printed <;> simp [text, typeArgs, argsText]

section

variable {Label ε : Type} {spell : Label → Bytes} {label : Bytes → Label} {resolve : Resolver ε (Ty Label)}

theorem named_written (t : Ty Label) (name : String) (printed : t.name? = some name) :
    t.written spell = encode name ++ argsWritten spell (typeArgs t) := by
  cases t <;> cases printed <;> simp [written, typeArgs, argsWritten]

-- A named type is what its own name means, and a name means only types of that name.
structure Resolver.Names (resolve : Resolver ε (Ty Label)) (refers : Ty Label → Prop) : Prop where
  answers : ∀ t name, t.name? = some name → refers t → resolve (encode name) (typeArgs t) = .ok t
  named : ∀ bytes args t, resolve bytes args = .ok t →
    ∃ name, encode name = bytes ∧ t.name? = some name ∧ refers t ∧ ∀ a ∈ typeArgs t, a ∈ args

-- The type has a derivation whose text is its printed form after `gap` spaces.
def Printed (spell : Label → Bytes) (label : Bytes → Label) (resolve : Resolver ε (Ty Label)) (t : Ty Label) : Prop :=
  ∀ gap, ∃ d : TypeSyntax, d.text = spaces gap ++ t.written spell ∧ d.meaning (maker label) resolve = .ok t

theorem encode_comma : encode ", " = 0x2C :: spaces 1 := rfl

theorem encode_colon : encode ": " = 0x3A :: spaces 1 := rfl

theorem encode_arrow : encode ") => " = 0x29 :: (spaces 1 ++ 0x3D :: 0x3E :: spaces 1) := rfl

theorem encode_open : encode "(" = [0x28] := rfl

theorem encode_less : encode "<" = [0x3C] := rfl

theorem encode_greater : encode ">" = [0x3E] := rfl

theorem spaces_none : spaces 0 = [] := rfl

theorem args_printed (first : Ty Label) (others : List (Ty Label))
    (printed : ∀ a ∈ first :: others, Printed spell label resolve a) (gap : Nat) :
    ∃ d : ArgsSyntax, d.text = spaces gap ++ (first.written spell ++ (moreArgsWritten spell others ++ [0x3E])) ∧
      d.meaning (maker label) resolve = .ok (first :: others) := by
  obtain ⟨d, text, means⟩ := printed first List.mem_cons_self gap
  induction others generalizing first gap d with
  | nil =>
    refine ⟨.last d 0, ?_, ?_⟩
    · simp [ArgsSyntax.text, text, moreArgsWritten, mark_greater, spaces_none]
    · rw [ArgsSyntax.meaning, means]
      rfl
  | cons second others ih =>
    have after : ∀ a ∈ second :: others, Printed spell label resolve a :=
      fun a member => printed a (List.mem_cons_of_mem first member)
    obtain ⟨d', text', means'⟩ := after second List.mem_cons_self 1
    obtain ⟨more, written, meant⟩ := ih second after 1 d' text' means'
    refine ⟨.more d 0 more, ?_, ?_⟩
    · simp [ArgsSyntax.text, text, written, moreArgsWritten, mark_comma, encode_comma, spaces_none]
    · rw [ArgsSyntax.meaning, means, meant]
      rfl

theorem params_printed (first : Label × Ty Label) (others : List (Label × Ty Label))
    (identifiers : ∀ param ∈ first :: others, Identifier (spell param.1))
    (printed : ∀ param ∈ first :: others, Printed spell label resolve param.2) (gap : Nat) :
    ∃ d : ParamsSyntax,
      d.text = spaces gap ++
        (spell first.1 ++ 0x3A :: (spaces 1 ++ (first.2.written spell ++ (moreParamsWritten spell others ++ [0x29])))) ∧
      d.meaning (maker label) resolve = .ok ((first :: others).map fun param => (spell param.1, param.2)) := by
  have identifier := identifiers first List.mem_cons_self
  obtain ⟨d, text, means⟩ := printed first List.mem_cons_self 1
  induction others generalizing first gap d with
  | nil =>
    refine ⟨.last gap identifier.written 0 d 0, ?_, ?_⟩
    · simp [ParamsSyntax.text, text, moreParamsWritten, mark_colon, mark_close, spaces_none, Identifier.written]
    · rw [ParamsSyntax.meaning, means, Identifier.written]
      rfl
  | cons second others ih =>
    have after : ∀ param ∈ second :: others, Printed spell label resolve param.2 :=
      fun param member => printed param (List.mem_cons_of_mem _ member)
    have identifiers' : ∀ param ∈ second :: others, Identifier (spell param.1) :=
      fun param member => identifiers param (List.mem_cons_of_mem _ member)
    obtain ⟨d', text', means'⟩ := after second List.mem_cons_self 1
    obtain ⟨more, written, meant⟩ :=
      ih second identifiers' after 1 (identifiers' second List.mem_cons_self) d' text' means'
    refine ⟨.more gap identifier.written 0 d 0 more, ?_, ?_⟩
    · simp [ParamsSyntax.text, text, written, moreParamsWritten, mark_colon, mark_comma, encode_comma, encode_colon,
        spaces_none, Identifier.written]
    · rw [ParamsSyntax.meaning, means, meant, Identifier.written]
      rfl

theorem maker_lambda (back : ∀ l, label (spell l) = l) (params : List (Label × Ty Label)) (result : Ty Label) :
    (maker label).lambda (params.map fun param => (spell param.1, param.2)) result = .lambda params result := by
  simp [maker, Function.comp_def, back]

theorem lambda_printed (back : ∀ l, label (spell l) = l) (params : List (Label × Ty Label)) (result : Ty Label)
    (identifiers : ∀ param ∈ params, Identifier (spell param.1))
    (printed : ∀ param ∈ params, Printed spell label resolve param.2) (returned : Printed spell label resolve result) :
    Printed spell label resolve (.lambda params result) := by
  intro gap
  obtain ⟨d, text, means⟩ := returned 1
  cases params with
  | nil =>
    refine ⟨.thunk gap 0 1 d, ?_, ?_⟩
    · simp [TypeSyntax.text, written, paramsWritten, encode_open, encode_arrow, text, mark_open, mark_close, mark_arrow,
        spaces_none]
    · rw [TypeSyntax.meaning, means]
      rfl
  | cons first others =>
    obtain ⟨more, listed, meant⟩ := params_printed first others identifiers printed 0
    refine ⟨.lambda gap more 1 d, ?_, ?_⟩
    · simp [TypeSyntax.text, written, paramsWritten, encode_open, encode_arrow, encode_colon, text, listed, mark_open,
        mark_arrow, spaces_none]
    · rw [TypeSyntax.meaning, meant, means, ← maker_lambda back]
      rfl

theorem named_printed (t : Ty Label) (name : String) (printed : t.name? = some name) (identifier : Identifier (encode name))
    (other : name ≠ "any" ∧ name ≠ "void") (known : resolve (encode name) (typeArgs t) = .ok t)
    (args : ∀ a ∈ typeArgs t, Printed spell label resolve a) : Printed spell label resolve t := by
  intro gap
  have means : identifier.written.meaning (maker label) resolve (typeArgs t) = .ok t := by
    rw [Identifier.written, Name.meaning, if_neg fun same => other.1 (encode_inj _ _ same),
      if_neg fun same => other.2 (encode_inj _ _ same)]
    exact known
  rw [named_written t name printed]
  cases applied : typeArgs t with
  | nil =>
    -- no brackets are printed around no arguments
    rw [applied] at means
    refine ⟨.name gap identifier.written, ?_, means⟩
    simp [TypeSyntax.text, argsWritten, Identifier.written]
  | cons first others =>
    rw [applied] at means args
    obtain ⟨d, text, meant⟩ := args_printed first others args 0
    refine ⟨.applied gap identifier.written 0 d, ?_, ?_⟩
    · simp [TypeSyntax.text, argsWritten, encode_less, encode_greater, text, mark_less, spaces_none, Identifier.written]
    · rw [TypeSyntax.meaning, meant]
      exact means

theorem spelt_printed {refers : Ty Label → Prop} (back : ∀ l, label (spell l) = l) (names : resolve.Names refers)
    (t : Ty Label) (spelt : Spelt spell refers t) : Printed spell label resolve t := by
  induction spelt with
  | any => exact fun gap => ⟨.name gap ⟨encode "any", by decide, by decide +kernel⟩, rfl, rfl⟩
  | void => exact fun gap => ⟨.name gap ⟨encode "void", by decide, by decide +kernel⟩, rfl, rfl⟩
  | named t name printed identifier other known _ ih =>
    exact named_printed t name printed identifier other (names.answers t name printed known) ih
  | lambda params result identifiers _ _ ih returned => exact lambda_printed back params result identifiers ih returned

theorem parse_written_back {refers : Ty Label → Prop} (back : ∀ l, label (spell l) = l) (names : resolve.Names refers)
    (t : Ty Label) (spelt : Spelt spell refers t) :
    parseBytes (maker label) (some resolve) (t.written spell) = .ok t := by
  obtain ⟨d, text, means⟩ := spelt_printed back names t spelt 0
  have read : parseBytes (maker label) (some resolve) (Sentence.mk d 0).text = .ok t := parse_written ⟨d, 0⟩ t means
  rw [Sentence.text, text] at read
  simpa [spaces_none] using read

end

theorem parse_printed {ε : Type} {resolve : Resolver ε} {refers : Ty → Prop} (names : resolve.Names refers) (t : Ty)
    (spelt : Spelt encode refers t) : parse (some resolve) t.text = .ok t := by
  rw [parse, encode_printed]
  exact parse_written_back lossy_encode names t spelt

theorem ascii_spaces (gap : Nat) : ∀ b ∈ spaces gap, b < 0x80 := by
  intro b member
  rw [List.eq_of_mem_replicate member]
  decide

theorem starts_ascii (gap : Nat) (b : UInt8) (rest : Bytes) (ascii : b < 0x80) : StartsAscii (spaces gap ++ b :: rest) := by
  cases gap with
  | zero =>
    intro c first
    cases first
    exact ascii
  | succ gap =>
    intro c first
    cases first
    decide

-- Texts whose parts before and after an ASCII character are such texts again.
structure Cuttable (formed : Bytes → Prop) : Prop where
  split : ∀ before after, formed (before ++ after) → StartsAscii after → formed before ∧ formed after
  after : ∀ before after, (∀ b ∈ before, b < 0x80) → formed (before ++ after) → formed after

theorem well_formed_cuttable : Cuttable WellFormed := ⟨well_formed_split, well_formed_after⟩

theorem bytes_cuttable : Cuttable fun _ => True := ⟨fun _ _ _ _ => ⟨trivial, trivial⟩, fun _ _ _ _ => trivial⟩

section

variable {formed : Bytes → Prop} (cut : Cuttable formed)

include cut

theorem Cuttable.after_mark (gap : Nat) (b : UInt8) (rest : Bytes) (ascii : b < 0x80) (whole : formed (spaces gap ++ b :: rest)) :
    formed rest := by
  refine cut.after (spaces gap ++ [b]) rest ?_ (by simpa using whole)
  simp only [List.mem_append, List.mem_singleton]
  rintro c (space | rfl)
  · exact ascii_spaces gap c space
  · exact ascii

theorem Cuttable.name (gap : Nat) (name : Name) (rest : Bytes) (whole : formed (spaces gap ++ (name.bytes ++ rest)))
    (ascii : StartsAscii rest) : formed name.bytes :=
  (cut.split _ rest (cut.after _ _ (ascii_spaces gap) whole) ascii).1

-- A mark ends a name, and what comes after it is text again.
theorem Cuttable.marked_name (gap : Nat) (name : Name) (before : Nat) (b : UInt8) (rest : Bytes) (ascii : b < 0x80)
    (whole : formed (spaces gap ++ (name.bytes ++ (spaces before ++ b :: rest)))) : formed name.bytes ∧ formed rest := by
  have marks := starts_ascii before b rest ascii
  refine ⟨cut.name gap name _ whole marks, cut.after_mark before b rest ascii ?_⟩
  exact (cut.split (spaces gap ++ name.bytes) _ (by simpa using whole) marks).2

end

section

variable {Label ε : Type} {spell : Label → Bytes} {label : Bytes → Label} {resolve : Resolver ε (Ty Label)}
  {refers : Ty Label → Prop} {formed : Bytes → Prop}

theorem name_spelt (names : resolve.Names refers) (name : Name) (args : List (Ty Label))
    (spelt : ∀ a ∈ args, Spelt spell refers a) (t : Ty Label) (means : name.meaning (maker label) resolve args = .ok t) :
    Spelt spell refers t := by
  unfold Name.meaning at means
  split at means
  · cases means
    exact .any
  · split at means
    · cases means
      exact .void
    · next notAny notVoid =>
      obtain ⟨s, bytes, printed, known, among⟩ := names.named name.bytes args t means
      refine .named t s printed ?_ ⟨?_, ?_⟩ known fun a member => spelt a (among a member)
      · rw [bytes]
        exact ⟨name.nonempty, name.allowed⟩
      · rintro rfl
        exact notAny bytes.symm
      · rintro rfl
        exact notVoid bytes.symm

theorem label_spelt (kept : ∀ bytes, formed bytes → spell (label bytes) = bytes) (name : Name) (whole : formed name.bytes) :
    Identifier (spell (label name.bytes)) := by
  rw [kept name.bytes whole]
  exact ⟨name.nonempty, name.allowed⟩

mutual

theorem type_spelt (cut : Cuttable formed) (kept : ∀ bytes, formed bytes → spell (label bytes) = bytes)
    (names : resolve.Names refers) (d : TypeSyntax) (rest : Bytes) (whole : formed (d.text ++ rest)) (ascii : StartsAscii rest)
    (t : Ty Label) (means : d.meaning (maker label) resolve = .ok t) : Spelt spell refers t := by
  cases d with
  | name gap name => exact name_spelt names name [] nofun t means
  | applied gap name opening args =>
    rw [applied_text] at whole
    have inside := (cut.marked_name gap name opening 0x3C _ (by decide) whole).2
    obtain ⟨found, meant, means⟩ := Document.bind_ok _ _ _ means
    exact name_spelt names name found (args_spelt cut kept names args rest inside found meant) t means
  | thunk opening closing arrow result =>
    rw [thunk_text] at whole
    have inside := cut.after_mark closing _ _ (by decide) (cut.after_mark opening _ _ (by decide) whole)
    have after := cut.after_mark 0 _ _ (by decide) (cut.after_mark arrow _ _ (by decide) inside)
    obtain ⟨u, meant, means⟩ := Document.bind_ok _ _ _ means
    cases means
    exact .lambda [] u nofun nofun (type_spelt cut kept names result rest after ascii u meant)
  | lambda opening params arrow result =>
    rw [lambda_text] at whole
    have inside := cut.after_mark opening _ _ (by decide) whole
    have arrows := (cut.split _ _ inside (starts_ascii arrow _ _ (by decide))).2
    have after := cut.after_mark 0 _ _ (by decide) (cut.after_mark arrow _ _ (by decide) arrows)
    obtain ⟨found, meant, means⟩ := Document.bind_ok _ _ _ means
    obtain ⟨u, meant', means⟩ := Document.bind_ok _ _ _ means
    cases means
    have spelt := params_spelt cut kept names params _ inside found meant
    refine .lambda _ u ?_ ?_ (type_spelt cut kept names result rest after ascii u meant')
    · exact List.forall_mem_map.mpr fun param member => (spelt param member).1
    · exact List.forall_mem_map.mpr fun param member => (spelt param member).2

theorem args_spelt (cut : Cuttable formed) (kept : ∀ bytes, formed bytes → spell (label bytes) = bytes)
    (names : resolve.Names refers) (d : ArgsSyntax) (rest : Bytes) (whole : formed (d.text ++ rest))
    (args : List (Ty Label)) (means : d.meaning (maker label) resolve = .ok args) : ∀ a ∈ args, Spelt spell refers a := by
  cases d with
  | last arg closing =>
    rw [last_arg_text] at whole
    obtain ⟨t, meant, means⟩ := Document.bind_ok _ _ _ means
    cases means
    exact List.forall_mem_singleton.mpr (type_spelt cut kept names arg _ whole (starts_ascii _ _ _ (by decide)) t meant)
  | more arg comma others =>
    rw [more_args_text] at whole
    have separated := starts_ascii comma 0x2C (others.text ++ rest) (by decide)
    have after := cut.after_mark comma _ _ (by decide) (cut.split _ _ whole separated).2
    obtain ⟨t, meant, means⟩ := Document.bind_ok _ _ _ means
    obtain ⟨found, meant', means⟩ := Document.bind_ok _ _ _ means
    cases means
    exact List.forall_mem_cons.mpr ⟨type_spelt cut kept names arg _ whole separated t meant,
      args_spelt cut kept names others rest after found meant'⟩

theorem params_spelt (cut : Cuttable formed) (kept : ∀ bytes, formed bytes → spell (label bytes) = bytes)
    (names : resolve.Names refers) (d : ParamsSyntax) (rest : Bytes) (whole : formed (d.text ++ rest))
    (params : List (Bytes × Ty Label)) (means : d.meaning (maker label) resolve = .ok params) :
    ∀ param ∈ params, Identifier (spell (label param.1)) ∧ Spelt spell refers param.2 := by
  cases d with
  | last gap name colon type closing =>
    rw [last_param_text] at whole
    obtain ⟨named, typed⟩ := cut.marked_name gap name colon 0x3A _ (by decide) whole
    obtain ⟨t, meant, means⟩ := Document.bind_ok _ _ _ means
    cases means
    exact List.forall_mem_singleton.mpr
      ⟨label_spelt kept name named, type_spelt cut kept names type _ typed (starts_ascii _ _ _ (by decide)) t meant⟩
  | more gap name colon type comma others =>
    rw [more_params_text] at whole
    obtain ⟨named, typed⟩ := cut.marked_name gap name colon 0x3A _ (by decide) whole
    have separated := starts_ascii comma 0x2C (others.text ++ rest) (by decide)
    have after := cut.after_mark comma _ _ (by decide) (cut.split _ _ typed separated).2
    obtain ⟨t, meant, means⟩ := Document.bind_ok _ _ _ means
    obtain ⟨found, meant', means⟩ := Document.bind_ok _ _ _ means
    cases means
    exact List.forall_mem_cons.mpr
      ⟨⟨label_spelt kept name named, type_spelt cut kept names type _ typed separated t meant⟩,
        params_spelt cut kept names others rest after found meant'⟩

end

theorem parse_bytes_spelt (cut : Cuttable formed) (kept : ∀ bytes, formed bytes → spell (label bytes) = bytes)
    (names : resolve.Names refers) (bytes : Bytes) (whole : formed bytes) (t : Ty Label)
    (parsed : parseBytes (maker label) (some resolve) bytes = .ok t) : Spelt spell refers t := by
  obtain ⟨s, rfl, means⟩ := parse_ok bytes t parsed
  refine type_spelt cut kept names s.type (spaces s.trailing) whole (fun b first => ?_) t means
  exact ascii_spaces s.trailing b (List.mem_of_mem_head? first)

end

theorem parse_spelt {ε : Type} {resolve : Resolver ε} {refers : Ty → Prop} (names : resolve.Names refers) (src : String) (t : Ty)
    (parsed : parse (some resolve) src = .ok t) : Spelt encode refers t := by
  have kept : ∀ bytes, WellFormed bytes → encode (lossy bytes) = bytes := by
    rintro bytes ⟨s, rfl⟩
    rw [lossy_encode]
  exact parse_bytes_spelt well_formed_cuttable kept names (encode src) ⟨src, rfl⟩ t parsed

end Typeflow.Ty
