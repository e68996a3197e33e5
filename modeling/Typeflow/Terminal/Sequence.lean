import Typeflow.Text.Utf8

set_option autoImplicit false

namespace Typeflow.Terminal

open Text (Bytes)

inductive Mode where
  | ground
  | escape
  | escapeIntermediate
  | control
  | controlIntermediate
  | deviceEntry
  | deviceParameters
  | deviceIntermediate
  | deviceString
  | commandString
  | messageString
deriving DecidableEq

inductive Effect where
  | shown
  | executed
  | hidden
  | lead
deriving DecidableEq

def escapeByte : UInt8 := 0x1B

def cancels (b : UInt8) : Bool := b == 0x18 || b == 0x1A

def endsString (b : UInt8) : Bool := b == 0x9C

def isIntermediate (b : UInt8) : Bool := 0x20 ≤ b && b ≤ 0x2F

def isParameter (b : UInt8) : Bool := 0x30 ≤ b && b ≤ 0x3F

def stepHigh (b : UInt8) : Effect × Mode :=
  if b == 0x90 then (.hidden, .deviceEntry)
  else if b == 0x98 || b == 0x9E || b == 0x9F then (.hidden, .messageString)
  else if b == 0x9B then (.hidden, .control)
  else if b == 0x9D then (.hidden, .commandString)
  else if b ≤ 0x9C then (.executed, .ground)
  else if 0xC2 ≤ b && b ≤ 0xF4 then (.lead, .ground)
  else (.hidden, .ground)

def stepEscape (b : UInt8) : Effect × Mode :=
  if isIntermediate b then (.hidden, .escapeIntermediate)
  else if b == 0x50 then (.hidden, .deviceEntry)
  else if b == 0x58 || b == 0x5E || b == 0x5F then (.hidden, .messageString)
  else if b == 0x5B then (.hidden, .control)
  else if b == 0x5D then (.hidden, .commandString)
  else (.hidden, .ground)

def stepControl (mode : Mode) (b : UInt8) : Effect × Mode :=
  match mode with
  | .deviceEntry => (.hidden, if 0x08 ≤ b && b ≤ 0x0D then .deviceString else .deviceEntry)
  | .deviceParameters => (.hidden, mode)
  | .deviceIntermediate => (.hidden, mode)
  | _ => (.executed, mode)

def stepPrintable (mode : Mode) (b : UInt8) : Effect × Mode :=
  match mode with
  | .ground => (.shown, .ground)
  | .escape => stepEscape b
  | .escapeIntermediate => (.hidden, if isIntermediate b then mode else .ground)
  | .control =>
    (.hidden,
      if isIntermediate b then .controlIntermediate else if isParameter b then mode else .ground)
  | .controlIntermediate => (.hidden, if isIntermediate b then mode else .ground)
  | .deviceIntermediate => (.hidden, if isIntermediate b then mode else .deviceString)
  | _ =>
    (.hidden,
      if isIntermediate b then .deviceIntermediate
      else if isParameter b then .deviceParameters
      else .deviceString)

def stepOutside (mode : Mode) (b : UInt8) : Effect × Mode :=
  if 0x80 ≤ b then stepHigh b
  else if cancels b then (.executed, .ground)
  else if b == escapeByte then (.hidden, if mode = .deviceEntry then .deviceString else .escape)
  else if b < 0x20 then stepControl mode b
  else if b == 0x7F then (if mode = .ground then .executed else .hidden, mode)
  else stepPrintable mode b

def stepInside (mode : Mode) (b : UInt8) : Effect × Mode :=
  if cancels b || endsString b then (.hidden, .ground)
  else if b == escapeByte then (.hidden, .escape)
  else (.hidden, mode)

def step (mode : Mode) (b : UInt8) : Effect × Mode :=
  match mode with
  | .deviceString => stepInside mode b
  | .commandString => if b == 0x07 then (.hidden, .ground) else stepInside mode b
  | .messageString => if 0x80 ≤ b && !endsString b then stepHigh b else stepInside mode b
  | _ => stepOutside mode b

def tailCount (lead : UInt8) : Nat := if lead < 0xE0 then 1 else if lead < 0xF0 then 2 else 3

-- The bytes that are no part of a sequence. The next `tail` bytes belong to a character.
def plainBytes (mode : Mode) (tail : Nat) : Bytes → Bytes
  | [] => []
  | b :: rest =>
    match tail with
    | n + 1 => b :: plainBytes mode n rest
    | 0 =>
      match step mode b with
      | (.hidden, next) => plainBytes next 0 rest
      | (.lead, next) => b :: plainBytes next (tailCount b) rest
      | (_, next) => b :: plainBytes next 0 rest

def plain (s : String) : String := Text.lossy (plainBytes .ground 0 (Text.encode s))

end Typeflow.Terminal
