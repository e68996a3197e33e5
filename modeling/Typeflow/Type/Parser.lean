import Typeflow.Text.Quoted
import Typeflow.Type.Basic

set_option autoImplicit false

namespace Typeflow.Ty

open Text

inductive Malformed where
  | unexpected
  | expected (token : String)
  | expectedName
  | noResolver (name : Bytes)
deriving DecidableEq

inductive ParseError (ε : Type) where
  | malformed (why : Malformed) (rest : Bytes)
  | unresolved (why : ε)

-- What a reader makes types of. The names of parameters come as they are written.
structure Maker (τ : Type) where
  any : τ
  void : τ
  lambda : List (Bytes × τ) → τ → τ

-- Turns a name and its arguments into a type.
abbrev Resolver (ε : Type) (τ : Type := Ty) := Bytes → List τ → Except ε τ

def isSpaceByte (b : UInt8) : Bool := b == 0x20

-- A byte counts as the Latin-1 character of its number.
def isLetterByte (b : UInt8) : Bool :=
  (0x41 ≤ b && b ≤ 0x5A) || (0x61 ≤ b && b ≤ 0x7A) || b == 0xAA || b == 0xB5 || b == 0xBA ||
    (0xC0 ≤ b && b != 0xD7 && b != 0xF7)

def isNameByte (b : UInt8) : Bool := isLetterByte b || (0x30 ≤ b && b ≤ 0x39) || b == 0x5F

def skipSpaces (bytes : Bytes) : Bytes := bytes.dropWhile isSpaceByte

def accept? (token : String) (bytes : Bytes) : Option Bytes :=
  if (encode token).isPrefixOf (skipSpaces bytes) then
    some ((skipSpaces bytes).drop (encode token).length)
  else none

section

variable {ε : Type}

def expect (token : String) (bytes : Bytes) : Except (ParseError ε) Bytes :=
  match accept? token bytes with
  | some rest => .ok rest
  | none => .error (.malformed (.expected token) (skipSpaces bytes))

def readName (bytes : Bytes) : Except (ParseError ε) (Bytes × Bytes) :=
  match (skipSpaces bytes).span isNameByte with
  | ([], rest) => .error (.malformed .expectedName rest)
  | (name, rest) => .ok (name, rest)

end

section

variable {ε τ : Type} (make : Maker τ) (resolve : Option (Resolver ε τ))

-- `rest` is what follows the arguments.
def ofName (name : Bytes) (args : List τ) (rest : Bytes) : Except (ParseError ε) (τ × Bytes) :=
  if name == encode "any" then .ok (make.any, rest)
  else if name == encode "void" then .ok (make.void, rest)
  else
    match resolve with
    | none => .error (.malformed (.noResolver name) rest)
    | some resolve =>
      match resolve name args with
      | .ok t => .ok (t, rest)
      | .error why => .error (.unresolved why)

mutual

-- Every recursive call comes after at least half a token, so twice the number of bytes is fuel enough.
def readType : Nat → Bytes → Except (ParseError ε) (τ × Bytes)
  | 0, bytes => .error (.malformed .expectedName (skipSpaces bytes))
  | fuel + 1, bytes =>
    match accept? "(" bytes with
    | some rest =>
      match accept? ")" rest with
      | some rest => readResult fuel [] rest
      | none =>
        match readParams fuel rest with
        | .error e => .error e
        | .ok (params, rest) => readResult fuel params rest
    | none =>
      match readName bytes with
      | .error e => .error e
      | .ok (name, rest) =>
        match accept? "<" rest with
        | none => ofName make resolve name [] (skipSpaces rest)
        | some rest =>
          match readArgs fuel rest with
          | .error e => .error e
          | .ok (args, rest) => ofName make resolve name args rest

-- The result type of a lambda, after its parameters.
def readResult (fuel : Nat) (params : List (Bytes × τ)) (bytes : Bytes) : Except (ParseError ε) (τ × Bytes) :=
  match fuel with
  | 0 => .error (.malformed .expectedName (skipSpaces bytes))
  | fuel + 1 =>
    match expect "=>" bytes with
    | .error e => .error e
    | .ok rest =>
      match readType fuel rest with
      | .error e => .error e
      | .ok (result, rest) => .ok (make.lambda params result, rest)

-- One or more arguments and the closing bracket.
def readArgs : Nat → Bytes → Except (ParseError ε) (List τ × Bytes)
  | 0, bytes => .error (.malformed .expectedName (skipSpaces bytes))
  | fuel + 1, bytes =>
    match readType fuel bytes with
    | .error e => .error e
    | .ok (arg, rest) =>
      match accept? ">" rest with
      | some rest => .ok ([arg], rest)
      | none =>
        match expect "," rest with
        | .error e => .error e
        | .ok rest =>
          match readArgs fuel rest with
          | .error e => .error e
          | .ok (args, rest) => .ok (arg :: args, rest)

-- One or more parameters and the closing parenthesis.
def readParams : Nat → Bytes → Except (ParseError ε) (List (Bytes × τ) × Bytes)
  | 0, bytes => .error (.malformed .expectedName (skipSpaces bytes))
  | fuel + 1, bytes =>
    match readName bytes with
    | .error e => .error e
    | .ok (name, rest) =>
      match expect ":" rest with
      | .error e => .error e
      | .ok rest =>
        match readType fuel rest with
        | .error e => .error e
        | .ok (t, rest) =>
          match accept? ")" rest with
          | some rest => .ok ([(name, t)], rest)
          | none =>
            match expect "," rest with
            | .error e => .error e
            | .ok rest =>
              match readParams fuel rest with
              | .error e => .error e
              | .ok (params, rest) => .ok ((name, t) :: params, rest)

end

-- Reads a type that fills the whole text.
def parseBytes (bytes : Bytes) : Except (ParseError ε) τ :=
  match readType make resolve (2 * bytes.length + 2) bytes with
  | .error e => .error e
  | .ok (t, rest) =>
    match skipSpaces rest with
    | [] => .ok t
    | rest => .error (.malformed .unexpected rest)

end

def maker {Label : Type} (label : Bytes → Label) : Maker (Ty Label) where
  any := .any
  void := .void
  lambda params result := .lambda (params.map fun param => (label param.1, param.2)) result

-- In a text that is well-formed as a whole, so is every name.
def parse {ε : Type} (resolve : Option (Resolver ε)) (src : String) : Except (ParseError ε) Ty :=
  parseBytes (maker lossy) resolve (encode src)

def Malformed.message (rest : Bytes) : Malformed → String
  | .unexpected => "unexpected " ++ quoteBytes rest
  | .expected token => "expected " ++ quote token
  | .expectedName => "expected a name"
  | .noResolver name => "no resolver for " ++ lossy name

-- Errors point at the number of bytes read before them.
def Malformed.report (src : String) (rest : Bytes) (why : Malformed) : String :=
  "type " ++ quote src ++ " at offset " ++ toString ((encode src).length - rest.length) ++ ": " ++
    why.message rest

end Typeflow.Ty
