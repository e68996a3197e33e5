import Typeflow.Toml.Scalar

set_option autoImplicit false

namespace Typeflow.Toml

def isControl (c : Char) : Bool := (c.toNat < 0x20 && !isWhite c) || c.toNat == 0x7F

-- No control characters, and a carriage return only before a line feed.
def isPlain : List Char → Bool
  | [] => true
  | '\r' :: '\n' :: rest => isPlain rest
  | c :: rest => c != '\r' && !isControl c && isPlain rest

def skipGaps (cs : List Char) : List Char := cs.dropWhile isGap

def skipVoid (inComment : Bool) : List Char → List Char
  | [] => []
  | c :: rest =>
    if isNewline c then skipVoid false rest
    else if inComment then skipVoid true rest
    else if isGap c then skipVoid false rest
    else if c == '#' then skipVoid true rest
    else c :: rest

def readName (cs : List Char) : Option (String × List Char) :=
  match cs with
  | '"' :: rest => (readBasic rest).map fun (name, later) => (String.ofList name, later)
  | '\'' :: rest => (readLiteral rest).map fun (name, later) => (String.ofList name, later)
  | cs =>
    match cs.span isBare with
    | ([], _) => none
    | (name, later) => some (String.ofList name, later)

def readKey : Nat → List Char → Option (Key × List Char)
  | 0, _ => none
  | fuel + 1, cs => do
    let (name, rest) ← readName (skipGaps cs)
    match skipGaps rest with
    | '.' :: rest =>
      let (names, rest) ← readKey fuel rest
      return (name :: names, rest)
    | rest => return ([name], rest)

def readWord : List Char → Option (Value × List Char)
  | 't' :: 'r' :: 'u' :: 'e' :: rest => some (.boolean true, rest)
  | 'f' :: 'a' :: 'l' :: 's' :: 'e' :: rest => some (.boolean false, rest)
  | cs =>
    match (dropSign cs).2 with
    | 'i' :: 'n' :: 'f' :: rest => some (.float, rest)
    | 'n' :: 'a' :: 'n' :: rest => some (.float, rest)
    | _ => none

def readScalar (cs : List Char) : Option (Value × List Char) :=
  match readWord cs with
  | some found => some found
  | none =>
    match cs with
    | '"' :: _ => (readText cs).map fun (s, rest) => (.text s, rest)
    | '\'' :: _ => (readText cs).map fun (s, rest) => (.text s, rest)
    | cs => readNumeric cs

mutual

def readValue : Nat → List Char → Option (Value × List Char)
  | 0, _ => none
  | fuel + 1, cs =>
    match skipGaps cs with
    | '[' :: rest => (readItems fuel rest).map fun (items, later) => (.array items, later)
    | '\x7b' :: rest => (readEntries fuel rest).map fun (entries, later) => (.inline entries, later)
    | cs => readScalar cs

def readItems : Nat → List Char → Option (List Value × List Char)
  | 0, _ => none
  | fuel + 1, cs =>
    match skipVoid false cs with
    | ']' :: rest => some ([], rest)
    | cs => do
      let (item, rest) ← readValue fuel cs
      match skipVoid false rest with
      | ',' :: rest =>
        let (items, rest) ← readItems fuel rest
        return (item :: items, rest)
      | ']' :: rest => return ([item], rest)
      | _ => none

def readEntries : Nat → List Char → Option (List (Key × Value) × List Char)
  | 0, _ => none
  | fuel + 1, cs =>
    match skipVoid false cs with
    | '\x7d' :: rest => some ([], rest)
    | cs => do
      let (key, rest) ← readKey fuel cs
      let '=' :: rest := rest | none
      let (value, rest) ← readValue fuel rest
      match skipVoid false rest with
      | ',' :: rest =>
        let (entries, rest) ← readEntries fuel rest
        return ((key, value) :: entries, rest)
      | '\x7d' :: rest => return ([(key, value)], rest)
      | _ => none

end

def readLine (fuel : Nat) : List Char → Option (Line × List Char)
  | '[' :: '[' :: cs => do
    let (key, rest) ← readKey fuel cs
    let ']' :: ']' :: rest := rest | none
    return (.element key, rest)
  | '[' :: cs => do
    let (key, rest) ← readKey fuel cs
    let ']' :: rest := rest | none
    return (.header key, rest)
  | cs => do
    let (key, rest) ← readKey fuel cs
    let '=' :: rest := rest | none
    let (value, rest) ← readValue fuel rest
    return (.entry key value, rest)

def atLineEnd (cs : List Char) : Bool :=
  match skipGaps cs with
  | [] => true
  | c :: _ => isNewline c || c == '#'

def readLines : Nat → List Char → Option (List Line)
  | 0, _ => none
  | fuel + 1, cs =>
    match skipVoid false cs with
    | [] => some []
    | cs => do
      let (line, rest) ← readLine fuel cs
      if atLineEnd rest then return line :: (← readLines fuel rest) else none

def lines? (text : String) : Option (List Line) :=
  let cs :=
    match text.toList with
    | '\ufeff' :: rest => rest
    | cs => cs
  if isPlain cs then readLines (cs.length + 2) cs else none

end Typeflow.Toml
