import Typeflow.Infer.Strategy
import Typeflow.Proofs.Type.Printing

set_option autoImplicit false

namespace Typeflow.Format

open Text Ty Infer Declarations

def isDigitByte (b : UInt8) : Bool := 0x30 ≤ b && b ≤ 0x39

-- letters, digits, underscores and dollar signs, and all that is not ASCII
def isWordByte (b : UInt8) : Bool :=
  0x80 ≤ b || (0x41 ≤ b && b ≤ 0x5A) || (0x61 ≤ b && b ≤ 0x7A) || isDigitByte b || b == 0x5F || b == 0x24

def IsWord (text : String) : Prop := encode text ≠ [] ∧ ∀ b ∈ encode text, isWordByte b

-- by going through the text, not through all bytes
instance (text : String) : Decidable (IsWord text) := @instDecidableAnd _ _ inferInstance (List.decidableBAll _ _)

theorem IsWord.first {text : String} (word : IsWord text) : ∃ b rest, encode text = b :: rest ∧ isWordByte b := by
  cases bytes : encode text with
  | nil => exact absurd bytes word.1
  | cons b rest => exact ⟨b, rest, rfl, word.2 b (bytes ▸ List.mem_cons_self)⟩

theorem word_unique {s t : String} (word : IsWord s) (word' : IsWord t) {us vs : Bytes} (stops : Stops isWordByte us)
    (stops' : Stops isWordByte vs) (same : encode s ++ us = encode t ++ vs) : s = t ∧ us = vs := by
  obtain ⟨bytes, rest⟩ := run_unique isWordByte _ _ us vs word.2 word'.2 stops stops' same
  exact ⟨encode_inj s t bytes, rest⟩

theorem word_or_byte {s : String} (word : IsWord s) {b : UInt8} (other : isWordByte b = false) {us vs : Bytes} :
    encode s ++ us ≠ b :: vs := by
  obtain ⟨c, rest, bytes, allowed⟩ := word.first
  rw [bytes]
  intro same
  obtain ⟨rfl, _⟩ := List.cons.inj same
  exact Bool.false_ne_true (other.symm.trans allowed)

@[ext] structure Word where
  text : String
  word : IsWord text

theorem Word.unique {w w' : Word} {us vs : Bytes} (stops : Stops isWordByte us) (stops' : Stops isWordByte vs)
    (same : encode w.text ++ us = encode w'.text ++ vs) : w = w' ∧ us = vs := by
  obtain ⟨texts, after⟩ := word_unique w.word w'.word stops stops' same
  exact ⟨Word.ext texts, after⟩

-- numbers start with a digit and names do not
def Word.isNumber (w : Word) : Bool := (encode w.text).head?.any isDigitByte

inductive Sign where
  | not
  | minus
  | plus
deriving DecidableEq

def Sign.text : Sign → String
  | .not => "!"
  | .minus => "-"
  | .plus => "+"

@[ext] structure Op where
  text : String
  known : (binaryRule? text).isSome
deriving DecidableEq

def operators : List String :=
  ["=", "&&", "||", "==", "!=", "===", "!==", "<", ">", "<=", ">=", "+", "-", "*", "/", "%"]

theorem Op.mem_operators (op : Op) : op.text ∈ operators := by
  have known := op.known
  unfold binaryRule? at known
  split at known <;> simp_all [operators]

theorem Op.ne_of_unknown (op : Op) {mark : String} (unknown : mark ∉ operators) : op.text ≠ mark :=
  fun same => unknown (same ▸ op.mem_operators)

-- a mark with a blank on each side
def spaced (mark : String) (rest : Bytes) : Bytes := 0x20 :: (encode mark ++ 0x20 :: rest)

def Solid (mark : String) : Prop := ∀ b ∈ encode mark, !isSpaceByte b

instance (mark : String) : Decidable (Solid mark) := List.decidableBAll _ _

theorem Op.solid (op : Op) : Solid op.text :=
  (by decide : ∀ mark ∈ operators, Solid mark) op.text op.mem_operators

theorem spaced_inj {mark : String} {us vs : Bytes} (same : spaced mark us = spaced mark vs) : us = vs :=
  (List.cons.inj (List.append_cancel_left (List.cons.inj same).2)).2

theorem spaced_unique {m n : String} (solid : Solid m) (solid' : Solid n) {us vs : Bytes}
    (same : spaced m us = spaced n vs) : m = n ∧ us = vs := by
  have blank : ∀ ws : Bytes, Stops (fun b => !isSpaceByte b) (0x20 :: ws) := by
    intro ws b first
    cases first
    rfl
  obtain ⟨marks, rest⟩ := run_unique (fun b => !isSpaceByte b) _ _ _ _ solid solid' (blank us) (blank vs) (List.cons.inj same).2
  exact ⟨encode_inj m n marks, (List.cons.inj rest).2⟩

inductive Legible : Ty → Prop
  | hole : Legible .unknown
  | any : Legible .any
  | void : Legible .void
  | named (t : Ty) (name : String) (printed : t.name? = some name) (word : IsWord name)
      (args : ∀ a ∈ typeArgs t, Legible a) : Legible t
  | lambda (params : List (String × Ty)) (result : Ty) (words : ∀ param ∈ params, IsWord param.1)
      (types : ∀ param ∈ params, Legible param.2) (returned : Legible result) : Legible (.lambda params result)

def IsType (text : String) : Prop := ∃ t, Legible t ∧ t.text = text

-- what would make a longer type of a name
def continues (b : UInt8) : Bool := isWordByte b || b == 0x3C

theorem stops_word {us : Bytes} (stops : Stops continues us) : Stops isWordByte us :=
  fun b first => (Bool.or_eq_false_iff.mp (stops b first)).1

theorem stops_byte {p : UInt8 → Bool} {b : UInt8} (other : p b = false) (us : Bytes) : Stops p (b :: us) := by
  intro c first
  cases first
  exact other

-- No other text of the class is in the place of this one.
def Delimited (Class : String → Prop) (text : String) : Prop :=
  ∀ other, Class other → ∀ us vs, Stops continues us → Stops continues vs → encode text ++ us = encode other ++ vs →
    text = other ∧ us = vs

-- each text with a comma before it
def commas : List String → String
  | [] => ""
  | s :: rest => ", " ++ s ++ commas rest

section

variable {us vs : Bytes}

theorem commas_stop (texts : List String) {close : UInt8} (closing : continues close = false) :
    Stops continues (encode (commas texts) ++ close :: us) := by
  cases texts with
  | nil => exact stops_byte closing us
  | cons s rest =>
    rw [commas, encode_append, encode_append, encode_comma]
    exact stops_byte rfl _

theorem commas_unique {Class : String → Prop} {close : UInt8} (closing : continues close = false) (apart : close ≠ 0x2C)
    (xs ys : List String) (delimited : ∀ x ∈ xs, Delimited Class x) (members : ∀ y ∈ ys, Class y)
    (same : encode (commas xs) ++ close :: us = encode (commas ys) ++ close :: vs) : xs = ys ∧ us = vs := by
  induction xs generalizing ys with
  | nil =>
    cases ys with
    | nil => exact ⟨rfl, (List.cons.inj same).2⟩
    | cons y ys =>
      rw [commas, commas, encode_append, encode_append, encode_comma] at same
      exact absurd (List.cons.inj same).1 apart
  | cons x xs ih =>
    cases ys with
    | nil =>
      rw [commas, commas, encode_append, encode_append, encode_comma] at same
      exact absurd (List.cons.inj same).1.symm apart
    | cons y ys =>
      simp only [commas, encode_append, List.append_assoc] at same
      obtain ⟨first, more⟩ := delimited x List.mem_cons_self y (members y List.mem_cons_self) _ _ (commas_stop xs closing)
        (commas_stop ys closing) (List.append_cancel_left same)
      obtain ⟨others, after⟩ := ih ys (fun z member => delimited z (List.mem_cons_of_mem x member))
        (fun z member => members z (List.mem_cons_of_mem y member)) more
      exact ⟨by rw [first, others], after⟩

theorem more_args_commas (args : List Ty) : moreArgsText args = commas (args.map Ty.text) := by
  induction args with
  | nil => rfl
  | cons a rest ih => rw [moreArgsText, ih, List.map_cons, commas]

def paramText (param : String × Ty) : String := param.1 ++ ": " ++ param.2.text

theorem more_params_commas (params : List (String × Ty)) : moreParamsText params = commas (params.map paramText) := by
  induction params with
  | nil => rfl
  | cons param rest ih =>
    rw [moreParamsText, ih, List.map_cons, commas, paramText]
    simp only [String.append_assoc]

theorem encode_lambda (params : List (String × Ty)) (result : Ty) : encode (Ty.lambda params result).text =
    0x28 :: (encode (Ty.paramsText params) ++ 0x29 :: (spaces 1 ++ 0x3D :: 0x3E :: (spaces 1 ++ encode result.text))) := by
  rw [text, encode_append, encode_append, encode_append, encode_open, encode_arrow]
  simp only [List.append_assoc, List.cons_append, List.nil_append]

theorem encode_args (first : Ty) (others : List Ty) : encode (argsText (first :: others)) =
    0x3C :: (encode first.text ++ (encode (moreArgsText others) ++ [0x3E])) := by
  rw [argsText, encode_append, encode_append, encode_append, encode_less, encode_greater]
  simp only [List.append_assoc, List.cons_append, List.nil_append]

theorem args_stop (args : List Ty) (stops : Stops continues us) : Stops isWordByte (encode (argsText args) ++ us) := by
  cases args with
  | nil => exact stops_word stops
  | cons a rest =>
    rw [encode_args]
    exact stops_byte rfl _

theorem args_text_unique (args args' : List Ty) (delimited : ∀ a ∈ args, Delimited IsType a.text) (legible : ∀ a ∈ args', Legible a)
    (stops : Stops continues us) (stops' : Stops continues vs)
    (same : encode (argsText args) ++ us = encode (argsText args') ++ vs) : argsText args = argsText args' ∧ us = vs := by
  cases args with
  | nil =>
    cases args' with
    | nil => exact ⟨rfl, same⟩
    | cons b rest' =>
      rw [encode_args] at same
      rw [show us = 0x3C :: _ from same] at stops
      cases stops 0x3C rfl
  | cons a rest =>
    cases args' with
    | nil =>
      rw [encode_args] at same
      rw [show vs = 0x3C :: _ from same.symm] at stops'
      cases stops' 0x3C rfl
    | cons b rest' =>
      simp only [encode_args, List.cons_append, List.append_assoc, more_args_commas] at same
      obtain ⟨first, more⟩ := delimited a List.mem_cons_self b.text ⟨b, legible b List.mem_cons_self, rfl⟩ _ _
        (commas_stop _ rfl) (commas_stop _ rfl) (List.cons.inj same).2
      obtain ⟨others, after⟩ := commas_unique rfl (by decide) _ _
        (List.forall_mem_map.mpr fun c member => delimited c (List.mem_cons_of_mem a member))
        (List.forall_mem_map.mpr fun c member => ⟨c, legible c (List.mem_cons_of_mem b member), rfl⟩) more
      exact ⟨by rw [argsText, argsText, more_args_commas, more_args_commas, first, others], after⟩

def IsParam (text : String) : Prop := ∃ param : String × Ty, IsWord param.1 ∧ Legible param.2 ∧ paramText param = text

theorem param_delimited (param : String × Ty) (word : IsWord param.1) (delimited : Delimited IsType param.2.text) :
    Delimited IsParam (paramText param) := by
  rintro _ ⟨param', word', legible, rfl⟩ us vs stops stops' same
  simp only [paramText, encode_append, encode_colon, List.append_assoc, List.cons_append] at same
  obtain ⟨name, typed⟩ := word_unique word word' (stops_byte rfl _) (stops_byte rfl _) same
  obtain ⟨type, after⟩ := delimited _ ⟨param'.2, legible, rfl⟩ us vs stops stops'
    (List.append_cancel_left (List.cons.inj typed).2)
  exact ⟨by rw [paramText, paramText, name, type], after⟩

theorem params_text (first : String × Ty) (others : List (String × Ty)) :
    Ty.paramsText (first :: others) = paramText first ++ commas (others.map paramText) := by
  rw [Ty.paramsText, more_params_commas, paramText]

theorem params_open (first : String × Ty) (others : List (String × Ty)) (word : IsWord first.1) :
    encode (Ty.paramsText (first :: others)) ++ us ≠ 0x29 :: vs := by
  simp only [params_text, paramText, encode_append, List.append_assoc]
  exact word_or_byte word rfl

theorem params_text_unique (params params' : List (String × Ty)) (words : ∀ param ∈ params, IsWord param.1)
    (delimited : ∀ param ∈ params, Delimited IsType param.2.text)
    (legible : ∀ param ∈ params', IsWord param.1 ∧ Legible param.2)
    (same : encode (Ty.paramsText params) ++ 0x29 :: us = encode (Ty.paramsText params') ++ 0x29 :: vs) :
    Ty.paramsText params = Ty.paramsText params' ∧ us = vs := by
  have each : ∀ param ∈ params, Delimited IsParam (paramText param) :=
    fun param member => param_delimited param (words param member) (delimited param member)
  have every : ∀ param ∈ params', IsParam (paramText param) :=
    fun param member => ⟨param, (legible param member).1, (legible param member).2, rfl⟩
  match params, params' with
  | [], [] => exact ⟨rfl, (List.cons.inj same).2⟩
  | [], first :: others => exact absurd same.symm (params_open first others (legible first List.mem_cons_self).1)
  | first :: others, [] => exact absurd same (params_open first others (words first List.mem_cons_self))
  | first :: others, first' :: others' =>
    simp only [params_text, encode_append, List.append_assoc] at same
    obtain ⟨head, more⟩ := each first List.mem_cons_self _ (every first' List.mem_cons_self) _ _ (commas_stop _ rfl)
      (commas_stop _ rfl) same
    obtain ⟨tail, after⟩ := commas_unique rfl (by decide) _ _
      (List.forall_mem_map.mpr fun param member => each param (List.mem_cons_of_mem first member))
      (List.forall_mem_map.mpr fun param member => every param (List.mem_cons_of_mem first' member)) more
    exact ⟨by rw [params_text, params_text, head, tail], after⟩

-- a hole, a name with arguments, or a lambda
theorem Legible.form {t : Ty} (legible : Legible t) :
    t.text = "?" ∨
      (∃ name args, IsWord name ∧ (∀ a ∈ args, Legible a) ∧ t.text = name ++ argsText args) ∨
      ∃ params result, (∀ param ∈ params, IsWord param.1 ∧ Legible param.2) ∧ Legible result ∧ t = .lambda params result := by
  cases legible with
  | hole => exact .inl rfl
  | any => exact .inr (.inl ⟨"any", [], by decide, by simp, rfl⟩)
  | void => exact .inr (.inl ⟨"void", [], by decide, by simp, rfl⟩)
  | named _ name printed word args => exact .inr (.inl ⟨name, typeArgs t, word, args, named_text t name printed⟩)
  | lambda params result words types returned =>
    exact .inr (.inr ⟨params, result, fun param member => ⟨words param member, types param member⟩, returned, rfl⟩)

theorem hole_delimited : Delimited IsType "?" := by
  rintro _ ⟨t, legible, rfl⟩ us vs stops stops' same
  obtain hole | ⟨name, args, word, _, text⟩ | ⟨params, result, _, _, rfl⟩ := legible.form
  · rw [hole] at same ⊢
    exact ⟨rfl, (List.cons.inj same).2⟩
  · rw [text, encode_append, List.append_assoc] at same
    exact absurd same.symm (word_or_byte word rfl)
  · rw [encode_lambda] at same
    cases (List.cons.inj same).1

theorem named_delimited (name : String) (args : List Ty) (word : IsWord name)
    (delimited : ∀ a ∈ args, Delimited IsType a.text) : Delimited IsType (name ++ argsText args) := by
  rintro _ ⟨t, legible, rfl⟩ us vs stops stops' same
  rw [encode_append, List.append_assoc] at same
  obtain hole | ⟨name', args', word', legible', text⟩ | ⟨params, result, _, _, rfl⟩ := legible.form
  · rw [hole] at same
    exact absurd same (word_or_byte word rfl)
  · rw [text, encode_append, List.append_assoc] at same
    obtain ⟨names, more⟩ := word_unique word word' (args_stop args stops) (args_stop args' stops') same
    obtain ⟨texts, after⟩ := args_text_unique args args' delimited legible' stops stops' more
    exact ⟨by rw [text, names, texts], after⟩
  · rw [encode_lambda] at same
    exact absurd same (word_or_byte word rfl)

theorem lambda_delimited (params : List (String × Ty)) (result : Ty) (words : ∀ param ∈ params, IsWord param.1)
    (delimited : ∀ param ∈ params, Delimited IsType param.2.text) (returned : Delimited IsType result.text) :
    Delimited IsType (Ty.lambda params result).text := by
  rintro _ ⟨t, legible, rfl⟩ us vs stops stops' same
  obtain hole | ⟨name, args, word, _, text⟩ | ⟨params', result', legible', returned', rfl⟩ := legible.form
  · rw [hole, encode_lambda] at same
    cases (List.cons.inj same).1
  · rw [text, encode_lambda, encode_append, List.append_assoc] at same
    exact absurd same.symm (word_or_byte word rfl)
  · simp only [encode_lambda, List.cons_append, List.append_assoc] at same
    obtain ⟨names, more⟩ := params_text_unique params params' words delimited legible' (List.cons.inj same).2
    have arrow := List.append_cancel_left more
    obtain ⟨results, after⟩ := returned _ ⟨result', returned', rfl⟩ us vs stops stops'
      (List.append_cancel_left (List.cons.inj (List.cons.inj arrow).2).2)
    exact ⟨by rw [Ty.text, Ty.text, names, results], after⟩

end

theorem type_delimited (t : Ty) (legible : Legible t) : Delimited IsType t.text := by
  induction legible with
  | hole => exact hole_delimited
  | any => exact named_delimited "any" [] (by decide) (by simp)
  | void => exact named_delimited "void" [] (by decide) (by simp)
  | named t name printed word args ih =>
    rw [named_text t name printed]
    exact named_delimited name (typeArgs t) word ih
  | lambda params result words types returned ih ih' => exact lambda_delimited params result words ih ih'

@[ext] structure TypeText where
  text : String
  printed : IsType text

theorem TypeText.unique {t t' : TypeText} {us vs : Bytes} (stops : Stops continues us) (stops' : Stops continues vs)
    (same : encode t.text ++ us = encode t'.text ++ vs) : t = t' ∧ us = vs := by
  obtain ⟨type, legible, text⟩ := t.printed
  obtain ⟨texts, after⟩ := (text ▸ type_delimited type legible) _ t'.printed us vs stops stops' same
  exact ⟨TypeText.ext texts, after⟩

end Typeflow.Format
