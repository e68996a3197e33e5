set_option autoImplicit false

namespace Typeflow.Text

abbrev Bytes := List UInt8

def encode (s : String) : Bytes := s.toList.flatMap String.utf8EncodeChar

inductive Piece where
  | char (c : Char)
  | stray (b : UInt8)
deriving DecidableEq

def isTail (b : UInt8) : Bool := 0x80 ≤ b && b ≤ 0xBF

def secondRange (lead : UInt8) : UInt8 × UInt8 :=
  if lead == 0xE0 then (0xA0, 0xBF)
  else if lead == 0xED then (0x80, 0x9F)
  else if lead == 0xF0 then (0x90, 0xBF)
  else if lead == 0xF4 then (0x80, 0x8F)
  else (0x80, 0xBF)

def tailBits (b : UInt8) : Nat := b.toNat - 0x80

def leading? (lead : UInt8) (rest : Bytes) : Option (Char × Nat) :=
  if lead < 0x80 then some (Char.ofNat lead.toNat, 0)
  else if lead < 0xC2 then none
  else if lead < 0xE0 then
    match rest with
    | b :: _ =>
      if isTail b then some (Char.ofNat ((lead.toNat - 0xC0) * 64 + tailBits b), 1) else none
    | [] => none
  else if lead < 0xF0 then
    match rest with
    | b :: c :: _ =>
      let (low, high) := secondRange lead
      if low ≤ b && b ≤ high && isTail c then
        some (Char.ofNat (((lead.toNat - 0xE0) * 64 + tailBits b) * 64 + tailBits c), 2)
      else none
    | _ => none
  else if lead < 0xF5 then
    match rest with
    | b :: c :: d :: _ =>
      let (low, high) := secondRange lead
      if low ≤ b && b ≤ high && isTail c && isTail d then
        some (Char.ofNat ((((lead.toNat - 0xF0) * 64 + tailBits b) * 64 + tailBits c) * 64
          + tailBits d), 3)
      else none
    | _ => none
  else none

-- Decodes after `skip` bytes that the last character already took.
def decodeAfter (skip : Nat) : Bytes → List Piece
  | [] => []
  | lead :: rest =>
    match skip with
    | n + 1 => decodeAfter n rest
    | 0 =>
      match leading? lead rest with
      | some (c, extra) => .char c :: decodeAfter extra rest
      | none => .stray lead :: decodeAfter 0 rest

def decode (bytes : Bytes) : List Piece := decodeAfter 0 bytes

def Piece.char? : Piece → Option Char
  | .char c => some c
  | .stray _ => none

def text? (bytes : Bytes) : Option String :=
  ((decode bytes).mapM Piece.char?).map String.ofList

-- The replacement character stands for each byte that belongs to no character.
def Piece.shown : Piece → Char
  | .char c => c
  | .stray _ => '�'

def lossy (bytes : Bytes) : String := String.ofList ((decode bytes).map Piece.shown)

end Typeflow.Text
