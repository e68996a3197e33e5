set_option autoImplicit false

namespace Typeflow

-- Numbers keep the digits they were written with, and objects keep their members in order,
-- repeated keys included.
inductive Json where
  | null
  | bool (b : Bool)
  | number (digits : String)
  | string (s : String)
  | array (items : List Json)
  | object (members : List (String × Json))

namespace Json

def isSpace (c : Char) : Bool := c == ' ' || c == '\t' || c == '\n' || c == '\r'

def skipSpaces (cs : List Char) : List Char := cs.dropWhile isSpace

def hexValue? (c : Char) : Option Nat :=
  if c.isDigit then some (c.toNat - 0x30)
  else if 'a' ≤ c && c ≤ 'f' then some (c.toNat - 0x61 + 10)
  else if 'A' ≤ c && c ≤ 'F' then some (c.toNat - 0x41 + 10)
  else none

def hexQuad? (a b c d : Char) : Option Nat := do
  let a ← hexValue? a
  let b ← hexValue? b
  let c ← hexValue? c
  let d ← hexValue? d
  return ((a * 16 + b) * 16 + c) * 16 + d

def isHighSurrogate (n : Nat) : Bool := 0xD800 ≤ n && n < 0xDC00

def isLowSurrogate (n : Nat) : Bool := 0xDC00 ≤ n && n < 0xE000

-- The character of a code unit; half of a pair becomes the replacement character.
def unitChar (n : Nat) : Char :=
  if isHighSurrogate n || isLowSurrogate n then '�' else Char.ofNat n

def pairChar (high low : Nat) : Char :=
  Char.ofNat (0x10000 + (high - 0xD800) * 0x400 + (low - 0xDC00))

def shortEscape? : Char → Option Char
  | '"' => some '"'
  | '\\' => some '\\'
  | '/' => some '/'
  | 'b' => some '\x08'
  | 'f' => some '\x0c'
  | 'n' => some '\n'
  | 'r' => some '\r'
  | 't' => some '\t'
  | _ => none

def readString : List Char → Option (List Char × List Char)
  | [] => none
  | '"' :: rest => some ([], rest)
  | '\\' :: 'u' :: a :: b :: c :: d :: rest =>
    match hexQuad? a b c d with
    | none => none
    | some n =>
      match rest with
      | '\\' :: 'u' :: e :: f :: g :: h :: later =>
        match hexQuad? e f g h with
        | none => none
        | some m =>
          if isHighSurrogate n && isLowSurrogate m then
            (readString later).map fun (cs, r) => (pairChar n m :: cs, r)
          else
            (readString ('\\' :: 'u' :: e :: f :: g :: h :: later)).map
              fun (cs, r) => (unitChar n :: cs, r)
      | rest => (readString rest).map fun (cs, r) => (unitChar n :: cs, r)
  | '\\' :: c :: rest =>
    match shortEscape? c with
    | none => none
    | some c => (readString rest).map fun (cs, r) => (c :: cs, r)
  | c :: rest =>
    if c == '\\' || c.toNat < 0x20 then none
    else (readString rest).map fun (cs, r) => (c :: cs, r)
termination_by cs => cs.length

def readDigits (cs : List Char) : Option (List Char × List Char) :=
  match cs.span Char.isDigit with
  | ([], _) => none
  | (ds, rest) => some (ds, rest)

def readInteger : List Char → Option (List Char × List Char)
  | '0' :: rest => some (['0'], rest)
  | cs => readDigits cs

def readFraction : List Char → Option (List Char × List Char)
  | '.' :: rest => (readDigits rest).map fun (ds, r) => ('.' :: ds, r)
  | cs => some ([], cs)

def readExponent : List Char → Option (List Char × List Char)
  | c :: rest =>
    if c == 'e' || c == 'E' then
      match rest with
      | '+' :: rest => (readDigits rest).map fun (ds, r) => (c :: '+' :: ds, r)
      | '-' :: rest => (readDigits rest).map fun (ds, r) => (c :: '-' :: ds, r)
      | rest => (readDigits rest).map fun (ds, r) => (c :: ds, r)
    else some ([], c :: rest)
  | [] => some ([], [])

def readUnsigned (cs : List Char) : Option (List Char × List Char) := do
  let (whole, rest) ← readInteger cs
  let (fraction, rest) ← readFraction rest
  let (power, rest) ← readExponent rest
  return (whole ++ fraction ++ power, rest)

def readNumber : List Char → Option (List Char × List Char)
  | '-' :: rest => (readUnsigned rest).map fun (ds, r) => ('-' :: ds, r)
  | cs => readUnsigned cs

mutual

def readValue : Nat → List Char → Option (Json × List Char)
  | 0, _ => none
  | fuel + 1, cs =>
    match skipSpaces cs with
    | 'n' :: 'u' :: 'l' :: 'l' :: rest => some (.null, rest)
    | 't' :: 'r' :: 'u' :: 'e' :: rest => some (.bool true, rest)
    | 'f' :: 'a' :: 'l' :: 's' :: 'e' :: rest => some (.bool false, rest)
    | '"' :: rest => (readString rest).map fun (s, r) => (.string (String.ofList s), r)
    | '[' :: rest =>
      match skipSpaces rest with
      | ']' :: rest => some (.array [], rest)
      | rest => (readItems fuel rest).map fun (items, r) => (.array items, r)
    | '\x7b' :: rest =>
      match skipSpaces rest with
      | '\x7d' :: rest => some (.object [], rest)
      | rest => (readMembers fuel rest).map fun (members, r) => (.object members, r)
    | cs => (readNumber cs).map fun (ds, r) => (.number (String.ofList ds), r)

def readItems : Nat → List Char → Option (List Json × List Char)
  | 0, _ => none
  | fuel + 1, cs =>
    match readValue fuel cs with
    | none => none
    | some (item, rest) =>
      match skipSpaces rest with
      | ']' :: rest => some ([item], rest)
      | ',' :: rest => (readItems fuel rest).map fun (items, r) => (item :: items, r)
      | _ => none

def readMembers : Nat → List Char → Option (List (String × Json) × List Char)
  | 0, _ => none
  | fuel + 1, cs =>
    match skipSpaces cs with
    | '"' :: rest =>
      match readString rest with
      | none => none
      | some (key, rest) =>
        match skipSpaces rest with
        | ':' :: rest =>
          match readValue fuel rest with
          | none => none
          | some (value, rest) =>
            match skipSpaces rest with
            | '\x7d' :: rest => some ([(String.ofList key, value)], rest)
            | ',' :: rest =>
              (readMembers fuel rest).map fun (members, r) =>
                ((String.ofList key, value) :: members, r)
            | _ => none
        | _ => none
    | _ => none

end

mutual

def depth : Json → Nat
  | .array items => depthOfItems items + 1
  | .object members => depthOfMembers members + 1
  | _ => 0

def depthOfItems : List Json → Nat
  | [] => 0
  | j :: rest => max j.depth (depthOfItems rest)

def depthOfMembers : List (String × Json) → Nat
  | [] => 0
  | (_, j) :: rest => max j.depth (depthOfMembers rest)

end

def depthLimit : Nat := 10000

def parse? (text : String) : Option Json :=
  let cs := text.toList
  match readValue (2 * cs.length + 2) cs with
  | some (j, _) => if j.depth ≤ depthLimit then some j else none
  | none => none

def get? (j : Json) (key : String) : Option Json :=
  match j with
  | .object members => members.reverse.lookup key
  | _ => none

def sortedByKey (members : List (String × String)) : List (String × String) :=
  (members.map Prod.fst).eraseDups.mergeSort (fun a b => a ≤ b) |>.map fun key =>
    (key, (members.lookup key).getD "")

mutual

-- A value as messages show it: no quotes, lists in brackets, objects with sorted keys.
def described : Json → String
  | .null => "<nil>"
  | .bool true => "true"
  | .bool false => "false"
  | .number digits => digits
  | .string s => s
  | .array items => "[" ++ " ".intercalate (describedItems items) ++ "]"
  | .object members =>
    "map[" ++ " ".intercalate ((sortedByKey (describedMembers members).reverse).map
      fun (key, value) => key ++ ":" ++ value) ++ "]"

def describedItems : List Json → List String
  | [] => []
  | j :: rest => described j :: describedItems rest

def describedMembers : List (String × Json) → List (String × String)
  | [] => []
  | (key, j) :: rest => (key, described j) :: describedMembers rest

end

end Json

end Typeflow
