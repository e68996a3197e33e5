import Typeflow.Type.Parser
import Mathlib.Data.List.TakeWhile

set_option autoImplicit false

namespace Typeflow.Ty

open Text

-- T ::= name | name '<' T (',' T)* '>' | '(' [name ':' T (',' name ':' T)*] ')' '=>' T, with
-- spaces before every token and after the last one.
structure Name where
  bytes : Bytes
  nonempty : bytes ≠ []
  allowed : ∀ b ∈ bytes, isNameByte b

mutual

-- Numbers count the spaces before a token: `opening`, `closing`, `comma`, `colon` and `arrow`
-- say which, and `gap` stands before a name.
inductive TypeSyntax where
  | name (gap : Nat) (name : Name)
  | applied (gap : Nat) (name : Name) (opening : Nat) (args : ArgsSyntax)
  | thunk (opening closing arrow : Nat) (result : TypeSyntax)
  | lambda (opening : Nat) (params : ParamsSyntax) (arrow : Nat) (result : TypeSyntax)

inductive ArgsSyntax where
  | last (arg : TypeSyntax) (closing : Nat)
  | more (arg : TypeSyntax) (comma : Nat) (others : ArgsSyntax)

inductive ParamsSyntax where
  | last (gap : Nat) (name : Name) (colon : Nat) (type : TypeSyntax) (closing : Nat)
  | more (gap : Nat) (name : Name) (colon : Nat) (type : TypeSyntax) (comma : Nat) (others : ParamsSyntax)

end

def spaces (n : Nat) : Bytes := List.replicate n 0x20

def mark (gap : Nat) (token : String) : Bytes := spaces gap ++ encode token

mutual

def TypeSyntax.text : TypeSyntax → Bytes
  | .name gap name => spaces gap ++ name.bytes
  | .applied gap name opening args => spaces gap ++ name.bytes ++ mark opening "<" ++ args.text
  | .thunk opening closing arrow result => mark opening "(" ++ mark closing ")" ++ mark arrow "=>" ++ result.text
  | .lambda opening params arrow result => mark opening "(" ++ params.text ++ mark arrow "=>" ++ result.text

def ArgsSyntax.text : ArgsSyntax → Bytes
  | .last arg closing => arg.text ++ mark closing ">"
  | .more arg comma others => arg.text ++ mark comma "," ++ others.text

def ParamsSyntax.text : ParamsSyntax → Bytes
  | .last gap name colon type closing => spaces gap ++ name.bytes ++ mark colon ":" ++ type.text ++ mark closing ")"
  | .more gap name colon type comma others =>
    spaces gap ++ name.bytes ++ mark colon ":" ++ type.text ++ mark comma "," ++ others.text

end

structure Sentence where
  type : TypeSyntax
  trailing : Nat

def Sentence.text (s : Sentence) : Bytes := s.type.text ++ spaces s.trailing

section

variable {ε τ : Type} (make : Maker τ) (resolve : Resolver ε τ)

-- The built-in types ignore their arguments.
def Name.meaning (name : Name) (args : List τ) : Except ε τ :=
  if name.bytes = encode "any" then .ok make.any
  else if name.bytes = encode "void" then .ok make.void
  else resolve name.bytes args

mutual

def TypeSyntax.meaning : TypeSyntax → Except ε τ
  | .name _ name => name.meaning make resolve []
  | .applied _ name _ args => do
    let args ← args.meaning
    name.meaning make resolve args
  | .thunk _ _ _ result => do
    let result ← result.meaning
    return make.lambda [] result
  | .lambda _ params _ result => do
    let params ← params.meaning
    let result ← result.meaning
    return make.lambda params result

def ArgsSyntax.meaning : ArgsSyntax → Except ε (List τ)
  | .last arg _ => do
    let arg ← arg.meaning
    return [arg]
  | .more arg _ others => do
    let arg ← arg.meaning
    let others ← others.meaning
    return arg :: others

def ParamsSyntax.meaning : ParamsSyntax → Except ε (List (Bytes × τ))
  | .last _ name _ type _ => do
    let type ← type.meaning
    return [(name.bytes, type)]
  | .more _ name _ type _ others => do
    let type ← type.meaning
    let others ← others.meaning
    return (name.bytes, type) :: others

end

def Sentence.meaning (s : Sentence) : Except ε τ := s.type.meaning make resolve

end

section

variable {gap gap' : Nat} {b b' : UInt8} {us vs : Bytes}

theorem mark_open (gap : Nat) : mark gap "(" = spaces gap ++ [0x28] := rfl

theorem mark_close (gap : Nat) : mark gap ")" = spaces gap ++ [0x29] := rfl

theorem mark_comma (gap : Nat) : mark gap "," = spaces gap ++ [0x2C] := rfl

theorem mark_colon (gap : Nat) : mark gap ":" = spaces gap ++ [0x3A] := rfl

theorem mark_less (gap : Nat) : mark gap "<" = spaces gap ++ [0x3C] := rfl

theorem mark_greater (gap : Nat) : mark gap ">" = spaces gap ++ [0x3E] := rfl

theorem mark_arrow (gap : Nat) : mark gap "=>" = spaces gap ++ [0x3D, 0x3E] := rfl

def Stops (p : UInt8 → Bool) (bytes : Bytes) : Prop := ∀ b ∈ bytes.head?, p b = false

theorem take_run (p : UInt8 → Bool) (xs us : Bytes) (all : ∀ b ∈ xs, p b) (stops : Stops p us) :
    (xs ++ us).takeWhile p = xs ∧ (xs ++ us).dropWhile p = us := by
  rw [List.takeWhile_append_of_pos all, List.dropWhile_append_of_pos all]
  cases us with
  | nil => simp
  | cons b rest => simp [stops b rfl]

theorem run_unique (p : UInt8 → Bool) (xs ys us vs : Bytes) (left : ∀ b ∈ xs, p b) (right : ∀ b ∈ ys, p b)
    (stops : Stops p us) (stops' : Stops p vs) (same : xs ++ us = ys ++ vs) : xs = ys ∧ us = vs := by
  have first := take_run p xs us left stops
  have second := take_run p ys vs right stops'
  rw [same] at first
  exact ⟨first.1.symm.trans second.1, first.2.symm.trans second.2⟩

theorem spaces_are_spaces (n : Nat) : ∀ b ∈ spaces n, isSpaceByte b := by
  intro b member
  rw [List.eq_of_mem_replicate member]
  rfl

theorem solid_stops (solid : b ≠ 0x20) (us : Bytes) : Stops isSpaceByte (b :: us) := by
  intro c first
  cases first
  simpa [isSpaceByte] using solid

theorem name_byte_solid (name : isNameByte b) : b ≠ 0x20 := by
  rintro rfl
  exact absurd name (by decide)

theorem Name.first (name : Name) : ∃ b rest, name.bytes = b :: rest ∧ isNameByte b := by
  cases bytes : name.bytes with
  | nil => exact absurd bytes name.nonempty
  | cons b rest => exact ⟨b, rest, rfl, name.allowed b (bytes ▸ List.mem_cons_self)⟩

theorem Name.solid (name : Name) (us : Bytes) : Stops isSpaceByte (name.bytes ++ us) := by
  obtain ⟨b, rest, bytes, allowed⟩ := name.first
  rw [bytes]
  exact solid_stops (name_byte_solid allowed) _

theorem spaces_unique (solid : Stops isSpaceByte us) (solid' : Stops isSpaceByte vs)
    (same : spaces gap ++ us = spaces gap' ++ vs) : gap = gap' ∧ us = vs := by
  obtain ⟨gaps, rest⟩ := run_unique isSpaceByte _ _ us vs (spaces_are_spaces gap) (spaces_are_spaces gap') solid solid' same
  refine ⟨?_, rest⟩
  simpa [spaces] using congrArg List.length gaps

theorem byte_unique (solid : b ≠ 0x20) (solid' : b' ≠ 0x20) (same : spaces gap ++ b :: us = spaces gap' ++ b' :: vs) :
    gap = gap' ∧ b = b' ∧ us = vs := by
  obtain ⟨gaps, rest⟩ := spaces_unique (solid_stops solid us) (solid_stops solid' vs) same
  exact ⟨gaps, List.cons.inj rest⟩

theorem name_unique (name name' : Name) (stops : Stops isNameByte us) (stops' : Stops isNameByte vs)
    (same : spaces gap ++ (name.bytes ++ us) = spaces gap' ++ (name'.bytes ++ vs)) : gap = gap' ∧ name = name' ∧ us = vs := by
  obtain ⟨gaps, rest⟩ := spaces_unique (name.solid us) (name'.solid vs) same
  obtain ⟨bytes, rest⟩ := run_unique isNameByte _ _ us vs name.allowed name'.allowed stops stops' rest
  refine ⟨gaps, ?_, rest⟩
  cases name
  cases name'
  cases bytes
  rfl

theorem name_or_byte (name : Name) (solid : b ≠ 0x20) (other : isNameByte b = false) :
    spaces gap ++ (name.bytes ++ us) ≠ spaces gap' ++ b :: vs := by
  intro same
  obtain ⟨_, rest⟩ := spaces_unique (name.solid us) (solid_stops solid vs) same
  obtain ⟨c, more, bytes, allowed⟩ := name.first
  rw [bytes] at rest
  obtain ⟨rfl, _⟩ := List.cons.inj rest
  exact Bool.false_ne_true (other.symm.trans allowed)

theorem spaces_add (m n : Nat) : spaces (m + n) = spaces m ++ spaces n := List.replicate_append_replicate.symm

theorem skip_spaces (gap : Nat) (us : Bytes) : skipSpaces (spaces gap ++ us) = skipSpaces us :=
  List.dropWhile_append_of_pos (spaces_are_spaces gap)

theorem skip_solid (solid : Stops isSpaceByte us) : skipSpaces us = us := by
  cases us with
  | nil => rfl
  | cons b rest => simp [skipSpaces, solid b rfl]

-- What follows a type: neither more of a name nor arguments of it.
def Ends (rest : Bytes) : Prop := ∀ b ∈ (skipSpaces rest).head?, isNameByte b = false ∧ b ≠ 0x3C

theorem ends_byte (gap : Nat) (us : Bytes) (solid : b ≠ 0x20) (other : isNameByte b = false) (notLess : b ≠ 0x3C) :
    Ends (spaces gap ++ b :: us) := by
  intro c first
  rw [skip_spaces, skip_solid (solid_stops solid us)] at first
  cases first
  exact ⟨other, notLess⟩

theorem ends_spaces (gap : Nat) : Ends (spaces gap) := by
  intro b first
  rw [← List.append_nil (spaces gap), skip_spaces] at first
  cases first

theorem ends_greater (gap : Nat) (us : Bytes) : Ends (spaces gap ++ 0x3E :: us) :=
  ends_byte gap us (by decide) (by decide) (by decide)

theorem ends_comma (gap : Nat) (us : Bytes) : Ends (spaces gap ++ 0x2C :: us) :=
  ends_byte gap us (by decide) (by decide) (by decide)

theorem ends_close (gap : Nat) (us : Bytes) : Ends (spaces gap ++ 0x29 :: us) :=
  ends_byte gap us (by decide) (by decide) (by decide)

theorem spaced_stops (gap : Nat) (us : Bytes) (stops : Stops isNameByte us) : Stops isNameByte (spaces gap ++ us) := by
  cases gap with
  | zero => exact stops
  | succ n =>
    intro b first
    cases first
    rfl

theorem byte_stops (us : Bytes) (other : isNameByte b = false) : Stops isNameByte (b :: us) := by
  intro c first
  cases first
  exact other

theorem Ends.stops {rest : Bytes} (ends : Ends rest) : Stops isNameByte rest := by
  intro b first
  cases rest with
  | nil => cases first
  | cons c more =>
    cases first
    by_cases space : isSpaceByte b
    · have : b = 0x20 := by simpa [isSpaceByte] using space
      rw [this]
      rfl
    · have solid : Stops isSpaceByte (b :: more) := fun c first => by cases first; simpa using space
      exact (ends b (by rw [skip_solid solid]; rfl)).1

theorem Ends.not_less {rest : Bytes} (ends : Ends rest) : rest ≠ spaces gap ++ 0x3C :: us := by
  rintro rfl
  refine (ends 0x3C ?_).2 rfl
  rw [skip_spaces, skip_solid (solid_stops (by decide) us)]
  rfl

end

section

variable (gap opening closing comma colon arrow : Nat) (name : Name) (type result : TypeSyntax) (rest : Bytes)

theorem name_text : (TypeSyntax.name gap name).text ++ rest = spaces gap ++ (name.bytes ++ rest) := by
  simp [TypeSyntax.text]

theorem applied_text (args : ArgsSyntax) : (TypeSyntax.applied gap name opening args).text ++ rest =
    spaces gap ++ (name.bytes ++ (spaces opening ++ 0x3C :: (args.text ++ rest))) := by
  simp [TypeSyntax.text, mark_less]

theorem thunk_text : (TypeSyntax.thunk opening closing arrow result).text ++ rest =
    spaces opening ++ 0x28 :: (spaces closing ++ 0x29 :: (spaces arrow ++ 0x3D :: 0x3E :: (result.text ++ rest))) := by
  simp [TypeSyntax.text, mark_open, mark_close, mark_arrow]

theorem lambda_text (params : ParamsSyntax) : (TypeSyntax.lambda opening params arrow result).text ++ rest =
    spaces opening ++ 0x28 :: (params.text ++ (spaces arrow ++ 0x3D :: 0x3E :: (result.text ++ rest))) := by
  simp [TypeSyntax.text, mark_open, mark_arrow]

theorem last_arg_text : (ArgsSyntax.last type closing).text ++ rest = type.text ++ (spaces closing ++ 0x3E :: rest) := by
  simp [ArgsSyntax.text, mark_greater]

theorem more_args_text (others : ArgsSyntax) : (ArgsSyntax.more type comma others).text ++ rest =
    type.text ++ (spaces comma ++ 0x2C :: (others.text ++ rest)) := by
  simp [ArgsSyntax.text, mark_comma]

theorem last_param_text : (ParamsSyntax.last gap name colon type closing).text ++ rest =
    spaces gap ++ (name.bytes ++ (spaces colon ++ 0x3A :: (type.text ++ (spaces closing ++ 0x29 :: rest)))) := by
  simp [ParamsSyntax.text, mark_colon, mark_close]

theorem more_params_text (others : ParamsSyntax) : (ParamsSyntax.more gap name colon type comma others).text ++ rest =
    spaces gap ++ (name.bytes ++ (spaces colon ++ 0x3A :: (type.text ++ (spaces comma ++ 0x2C :: (others.text ++ rest))))) := by
  simp [ParamsSyntax.text, mark_colon, mark_comma]

end

def TypeSyntax.isNamed : TypeSyntax → Bool
  | .name .. => true
  | .applied .. => true
  | _ => false

theorem TypeSyntax.first (d : TypeSyntax) (rest : Bytes) :
    ∃ gap b us, d.text ++ rest = spaces gap ++ b :: us ∧ b ≠ 0x20 ∧ isNameByte b = d.isNamed := by
  cases d with
  | name gap name =>
    obtain ⟨b, more, bytes, allowed⟩ := name.first
    exact ⟨gap, b, _, by rw [name_text, bytes]; rfl, name_byte_solid allowed, allowed⟩
  | applied gap name opening args =>
    obtain ⟨b, more, bytes, allowed⟩ := name.first
    exact ⟨gap, b, _, by rw [applied_text, bytes]; rfl, name_byte_solid allowed, allowed⟩
  | thunk opening closing arrow result => exact ⟨opening, 0x28, _, thunk_text .., by decide, rfl⟩
  | lambda opening params arrow result => exact ⟨opening, 0x28, _, lambda_text .., by decide, rfl⟩

theorem same_first (d d' : TypeSyntax) (rest rest' : Bytes) (same : d.text ++ rest = d'.text ++ rest') :
    d.isNamed = d'.isNamed := by
  obtain ⟨gap, b, us, text, solid, named⟩ := d.first rest
  obtain ⟨gap', b', vs, text', solid', named'⟩ := d'.first rest'
  rw [text, text'] at same
  obtain ⟨_, rfl, _⟩ := byte_unique solid solid' same
  exact named.symm.trans named'

theorem ParamsSyntax.first (d : ParamsSyntax) (rest : Bytes) :
    ∃ gap name us, d.text ++ rest = spaces gap ++ (Name.bytes name ++ us) := by
  cases d with
  | last gap name colon type closing => exact ⟨gap, name, _, last_param_text ..⟩
  | more gap name colon type comma others => exact ⟨gap, name, _, more_params_text ..⟩

mutual

theorem type_unique (d d' : TypeSyntax) (rest rest' : Bytes) (ends : Ends rest) (ends' : Ends rest')
    (same : d.text ++ rest = d'.text ++ rest') : d = d' ∧ rest = rest' := by
  have first := same_first d d' rest rest' same
  match d, d' with
  | .name gap name, .name gap' name' =>
    rw [name_text, name_text] at same
    obtain ⟨rfl, rfl, rfl⟩ := name_unique name name' ends.stops ends'.stops same
    exact ⟨rfl, rfl⟩
  | .name gap name, .applied gap' name' opening args =>
    rw [name_text, applied_text] at same
    obtain ⟨_, _, more⟩ := name_unique name name' ends.stops (spaced_stops _ _ (byte_stops _ rfl)) same
    exact absurd more ends.not_less
  | .applied gap name opening args, .name gap' name' =>
    rw [name_text, applied_text] at same
    obtain ⟨_, _, more⟩ := name_unique name name' (spaced_stops _ _ (byte_stops _ rfl)) ends'.stops same
    exact absurd more.symm ends'.not_less
  | .applied gap name opening args, .applied gap' name' opening' args' =>
    rw [applied_text, applied_text] at same
    obtain ⟨rfl, rfl, more⟩ :=
      name_unique name name' (spaced_stops _ _ (byte_stops _ rfl)) (spaced_stops _ _ (byte_stops _ rfl)) same
    obtain ⟨rfl, _, more⟩ := byte_unique (by decide) (by decide) more
    obtain ⟨rfl, rfl⟩ := args_unique args args' rest rest' more
    exact ⟨rfl, rfl⟩
  | .thunk opening closing arrow result, .thunk opening' closing' arrow' result' =>
    rw [thunk_text, thunk_text] at same
    obtain ⟨rfl, _, more⟩ := byte_unique (by decide) (by decide) same
    obtain ⟨rfl, _, more⟩ := byte_unique (by decide) (by decide) more
    obtain ⟨rfl, _, more⟩ := byte_unique (by decide) (by decide) more
    obtain ⟨rfl, rfl⟩ := type_unique result result' rest rest' ends ends' (List.cons.inj more).2
    exact ⟨rfl, rfl⟩
  | .thunk opening closing arrow result, .lambda opening' params arrow' result' =>
    -- a parenthesis that closes at once, against a parameter
    rw [thunk_text, lambda_text] at same
    obtain ⟨_, _, more⟩ := byte_unique (by decide) (by decide) same
    obtain ⟨gap, name, us, text⟩ := params.first (spaces arrow' ++ 0x3D :: 0x3E :: (result'.text ++ rest'))
    rw [text] at more
    exact absurd more.symm (name_or_byte name (by decide) (by decide))
  | .lambda opening params arrow result, .thunk opening' closing arrow' result' =>
    rw [thunk_text, lambda_text] at same
    obtain ⟨_, _, more⟩ := byte_unique (by decide) (by decide) same
    obtain ⟨gap, name, us, text⟩ := params.first (spaces arrow ++ 0x3D :: 0x3E :: (result.text ++ rest))
    rw [text] at more
    exact absurd more (name_or_byte name (by decide) (by decide))
  | .lambda opening params arrow result, .lambda opening' params' arrow' result' =>
    rw [lambda_text, lambda_text] at same
    obtain ⟨rfl, _, more⟩ := byte_unique (by decide) (by decide) same
    obtain ⟨rfl, after⟩ := params_unique params params' _ _ more
    obtain ⟨rfl, _, written⟩ := byte_unique (by decide) (by decide) after
    obtain ⟨rfl, rfl⟩ := type_unique result result' rest rest' ends ends' (List.cons.inj written).2
    exact ⟨rfl, rfl⟩
  | .name .., .thunk .. | .name .., .lambda .. | .applied .., .thunk .. | .applied .., .lambda .. => cases first
  | .thunk .., .name .. | .thunk .., .applied .. | .lambda .., .name .. | .lambda .., .applied .. => cases first

theorem args_unique (d d' : ArgsSyntax) (rest rest' : Bytes) (same : d.text ++ rest = d'.text ++ rest') :
    d = d' ∧ rest = rest' := by
  match d, d' with
  | .last arg closing, .last arg' closing' =>
    rw [last_arg_text, last_arg_text] at same
    obtain ⟨rfl, more⟩ := type_unique arg arg' _ _ (ends_greater _ _) (ends_greater _ _) same
    obtain ⟨rfl, _, rfl⟩ := byte_unique (by decide) (by decide) more
    exact ⟨rfl, rfl⟩
  | .last arg closing, .more arg' comma others =>
    rw [last_arg_text, more_args_text] at same
    obtain ⟨_, more⟩ := type_unique arg arg' _ _ (ends_greater _ _) (ends_comma _ _) same
    obtain ⟨_, wrong, _⟩ := byte_unique (by decide) (by decide) more
    cases wrong
  | .more arg comma others, .last arg' closing =>
    rw [last_arg_text, more_args_text] at same
    obtain ⟨_, more⟩ := type_unique arg arg' _ _ (ends_comma _ _) (ends_greater _ _) same
    obtain ⟨_, wrong, _⟩ := byte_unique (by decide) (by decide) more
    cases wrong
  | .more arg comma others, .more arg' comma' others' =>
    rw [more_args_text, more_args_text] at same
    obtain ⟨rfl, more⟩ := type_unique arg arg' _ _ (ends_comma _ _) (ends_comma _ _) same
    obtain ⟨rfl, _, more⟩ := byte_unique (by decide) (by decide) more
    obtain ⟨rfl, rfl⟩ := args_unique others others' rest rest' more
    exact ⟨rfl, rfl⟩

theorem params_unique (d d' : ParamsSyntax) (rest rest' : Bytes) (same : d.text ++ rest = d'.text ++ rest') :
    d = d' ∧ rest = rest' := by
  -- the colon ends the name
  have colon : ∀ gap us, Stops isNameByte (spaces gap ++ 0x3A :: us) := fun _ _ => spaced_stops _ _ (byte_stops _ rfl)
  match d, d' with
  | .last gap name before type closing, .last gap' name' before' type' closing' =>
    rw [last_param_text, last_param_text] at same
    obtain ⟨rfl, rfl, more⟩ := name_unique name name' (colon _ _) (colon _ _) same
    obtain ⟨rfl, _, more⟩ := byte_unique (by decide) (by decide) more
    obtain ⟨rfl, after⟩ := type_unique type type' _ _ (ends_close _ _) (ends_close _ _) more
    obtain ⟨rfl, _, rfl⟩ := byte_unique (by decide) (by decide) after
    exact ⟨rfl, rfl⟩
  | .last gap name before type closing, .more gap' name' before' type' comma others =>
    rw [last_param_text, more_params_text] at same
    obtain ⟨_, _, more⟩ := name_unique name name' (colon _ _) (colon _ _) same
    obtain ⟨_, _, more⟩ := byte_unique (by decide) (by decide) more
    obtain ⟨_, more⟩ := type_unique type type' _ _ (ends_close _ _) (ends_comma _ _) more
    obtain ⟨_, wrong, _⟩ := byte_unique (by decide) (by decide) more
    cases wrong
  | .more gap name before type comma others, .last gap' name' before' type' closing =>
    rw [last_param_text, more_params_text] at same
    obtain ⟨_, _, more⟩ := name_unique name name' (colon _ _) (colon _ _) same
    obtain ⟨_, _, more⟩ := byte_unique (by decide) (by decide) more
    obtain ⟨_, more⟩ := type_unique type type' _ _ (ends_comma _ _) (ends_close _ _) more
    obtain ⟨_, wrong, _⟩ := byte_unique (by decide) (by decide) more
    cases wrong
  | .more gap name before type comma others, .more gap' name' before' type' comma' others' =>
    rw [more_params_text, more_params_text] at same
    obtain ⟨rfl, rfl, more⟩ := name_unique name name' (colon _ _) (colon _ _) same
    obtain ⟨rfl, _, more⟩ := byte_unique (by decide) (by decide) more
    obtain ⟨rfl, after⟩ := type_unique type type' _ _ (ends_comma _ _) (ends_comma _ _) more
    obtain ⟨rfl, _, later⟩ := byte_unique (by decide) (by decide) after
    obtain ⟨rfl, rfl⟩ := params_unique others others' rest rest' later
    exact ⟨rfl, rfl⟩

end

theorem sentence_unique (s s' : Sentence) (same : s.text = s'.text) : s = s' := by
  obtain ⟨type, trailing⟩ := s
  obtain ⟨type', trailing'⟩ := s'
  obtain ⟨rfl, rest⟩ := type_unique type type' _ _ (ends_spaces _) (ends_spaces _) same
  have length := congrArg List.length rest
  simp only [spaces, List.length_replicate] at length
  rw [length]

end Typeflow.Ty
