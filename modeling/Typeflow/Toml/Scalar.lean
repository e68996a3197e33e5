import Typeflow.Toml.Basic

set_option autoImplicit false

namespace Typeflow.Toml

def isNewline (c : Char) : Bool := c == '\n' || c == '\r'

def isGap (c : Char) : Bool := c == ' ' || c == '\t'

def isWhite (c : Char) : Bool := isGap c || isNewline c

def hexDigit? (c : Char) : Option Nat :=
  if c.isDigit then some (c.toNat - 0x30)
  else if 'a' ≤ c && c ≤ 'f' then some (c.toNat - 0x61 + 10)
  else if 'A' ≤ c && c ≤ 'F' then some (c.toNat - 0x41 + 10)
  else none

def codeChar? (digits : List Char) : Option Char := do
  let code ← digits.foldlM (fun n d => (hexDigit? d).map (16 * n + ·)) 0
  if code.isValidChar then some (Char.ofNat code) else none

def shortEscape? : Char → Option Char
  | 'b' => some '\x08'
  | 't' => some '\t'
  | 'n' => some '\n'
  | 'f' => some '\x0c'
  | 'r' => some '\r'
  | 'e' => some '\x1b'
  | '"' => some '"'
  | '\\' => some '\\'
  | _ => none

def readBasic : List Char → Option (List Char × List Char)
  | [] => none
  | '"' :: rest => some ([], rest)
  | '\\' :: 'x' :: a :: b :: rest => do
    let c ← codeChar? [a, b]
    let (cs, later) ← readBasic rest
    return (c :: cs, later)
  | '\\' :: 'u' :: a :: b :: c :: d :: rest => do
    let c ← codeChar? [a, b, c, d]
    let (cs, later) ← readBasic rest
    return (c :: cs, later)
  | '\\' :: 'U' :: a :: b :: c :: d :: e :: f :: g :: h :: rest => do
    let c ← codeChar? [a, b, c, d, e, f, g, h]
    let (cs, later) ← readBasic rest
    return (c :: cs, later)
  | '\\' :: c :: rest => do
    let c ← shortEscape? c
    let (cs, later) ← readBasic rest
    return (c :: cs, later)
  | c :: rest =>
    if c == '\\' || isNewline c then none
    else do
      let (cs, later) ← readBasic rest
      return (c :: cs, later)

def readLiteral : List Char → Option (List Char × List Char)
  | [] => none
  | '\'' :: rest => some ([], rest)
  | c :: rest =>
    if isNewline c then none
    else do
      let (cs, later) ← readLiteral rest
      return (c :: cs, later)

def endsLine (cs : List Char) : Bool := (cs.takeWhile isWhite).contains '\n'

-- What follows the closing quotes, after the first of them. A fourth quote means that the first
-- one belongs to the string.
def closing? : List Char → Option (List Char)
  | '"' :: '"' :: '"' :: _ => none
  | '"' :: '"' :: rest => some rest
  | _ => none

def startsTriple : List Char → Bool
  | '"' :: '"' :: '"' :: _ => true
  | _ => false

-- A string in three double quotes, after the opening ones. `spare` is how many more quotes may
-- stand in front of the closing ones: two in general, three after an escaped backslash. A
-- backslash at the end of a line takes away the white space up to the next visible character,
-- which is what `joining` says.
def readBasicLines (spare : Nat) (joining : Bool) : List Char → Option (List Char × List Char)
  | [] => none
  | '"' :: rest =>
    match closing? rest with
    | some later => some ([], later)
    | none =>
      if spare == 0 && startsTriple rest then none
      else do
        let (cs, later) ← readBasicLines (spare - 1) false rest
        return ('"' :: cs, later)
  | '\\' :: 'x' :: a :: b :: rest => do
    let c ← codeChar? [a, b]
    let (cs, later) ← readBasicLines 2 false rest
    return (c :: cs, later)
  | '\\' :: 'u' :: a :: b :: c :: d :: rest => do
    let c ← codeChar? [a, b, c, d]
    let (cs, later) ← readBasicLines 2 false rest
    return (c :: cs, later)
  | '\\' :: 'U' :: a :: b :: c :: d :: e :: f :: g :: h :: rest => do
    let c ← codeChar? [a, b, c, d, e, f, g, h]
    let (cs, later) ← readBasicLines 2 false rest
    return (c :: cs, later)
  | '\\' :: c :: rest =>
    if endsLine (c :: rest) then readBasicLines 2 true rest
    else do
      let c ← shortEscape? c
      let (cs, later) ← readBasicLines (if c == '\\' then 3 else 2) false rest
      return (c :: cs, later)
  | c :: rest =>
    if c == '\\' then none
    else if joining && isWhite c then readBasicLines 2 true rest
    else do
      let (cs, later) ← readBasicLines 2 false rest
      return (c :: cs, later)

def readLiteralLines : List Char → Option (List Char × List Char)
  | [] => none
  | '\'' :: '\'' :: '\'' :: '\'' :: '\'' :: '\'' :: _ => none
  | '\'' :: '\'' :: '\'' :: '\'' :: '\'' :: rest => some (['\'', '\''], rest)
  | '\'' :: '\'' :: '\'' :: '\'' :: rest => some (['\''], rest)
  | '\'' :: '\'' :: '\'' :: rest => some ([], rest)
  | c :: rest => do
    let (cs, later) ← readLiteralLines rest
    return (c :: cs, later)

def skipBreak : List Char → List Char
  | '\r' :: '\n' :: rest => rest
  | '\n' :: rest => rest
  | cs => cs

def readText : List Char → Option (String × List Char)
  | '"' :: '"' :: '"' :: rest =>
    (readBasicLines 2 false (skipBreak rest)).map fun (cs, later) => (String.ofList cs, later)
  | '"' :: rest => (readBasic rest).map fun (cs, later) => (String.ofList cs, later)
  | '\'' :: '\'' :: '\'' :: rest =>
    (readLiteralLines (skipBreak rest)).map fun (cs, later) => (String.ofList cs, later)
  | '\'' :: rest => (readLiteral rest).map fun (cs, later) => (String.ofList cs, later)
  | _ => none

def isHex (c : Char) : Bool := (hexDigit? c).isSome

-- Every underscore stands between digits, and the last character is a digit.
def grouped (afterDigit : Bool) : List Char → Bool
  | [] => afterDigit
  | c :: cs => if c == '_' then afterDigit && grouped false cs else grouped (isHex c) cs

def numeral (base : Nat) (digits : List Char) : Nat :=
  digits.foldl (fun n d => (hexDigit? d).elim n (base * n + ·)) 0

def fits64 (n : Int) : Bool := Int64.minValue.toInt ≤ n && n ≤ Int64.maxValue.toInt

def integer? (n : Int) : Option Value := if fits64 n then some (.integer n) else none

def noLeadingZero : List Char → Bool
  | '0' :: _ :: _ => false
  | _ => true

def isDigitOrBar (c : Char) : Bool := c.isDigit || c == '_'

def readBased (base : Nat) (isOne : Char → Bool) (cs : List Char) : Option (Value × List Char) :=
  let (digits, rest) := cs.span fun c => isOne c || c == '_'
  if grouped false digits then (integer? (numeral base digits)).map (·, rest) else none

def isFloatChar (c : Char) : Bool :=
  isDigitOrBar c || c == '.' || c == '-' || c == '+' || c == 'e' || c == 'E'

def dropSign : List Char → Bool × List Char
  | '-' :: rest => (true, rest)
  | '+' :: rest => (false, rest)
  | cs => (false, cs)

-- Whether `mantissa * 10 ^ power` is below what rounds to infinity in double precision.
def isFinite (mantissa : Nat) (digits : Nat) (power : Int) : Bool :=
  let magnitude := power + digits
  if mantissa == 0 || magnitude ≤ 308 then true
  else if 310 < magnitude then false
  else
    let bound := Nat.pow 2 1024 - Nat.pow 2 970
    match power with
    | .ofNat p => mantissa * Nat.pow 10 p < bound
    | .negSucc p => mantissa < bound * Nat.pow 10 (p + 1)

def exponent? : List Char → Option Int
  | [] => some 0
  | c :: rest =>
    if c == 'e' || c == 'E' then
      let (negative, digits) := dropSign rest
      if digits.all isDigitOrBar && grouped false digits then
        let n : Int := numeral 10 digits
        some (if negative then -n else n)
      else none
    else none

def fraction? : List Char → Option (List Char × List Char)
  | '.' :: rest =>
    let (digits, later) := rest.span isDigitOrBar
    if grouped false digits then some (digits, later) else none
  | cs => some ([], cs)

def isFloat (cs : List Char) : Bool :=
  let (whole, rest) := cs.span isDigitOrBar
  if grouped false whole && noLeadingZero whole then
    match fraction? rest with
    | none => false
    | some (fraction, rest) =>
      match exponent? rest with
      | none => false
      | some power =>
        let places := (fraction.filter Char.isDigit).length
        let digits := (whole ++ fraction).filter Char.isDigit
        let significant := (digits.dropWhile (· == '0')).length
        isFinite (numeral 10 digits) significant (power - places)
  else false

def decimal? (negative : Bool) (digits : List Char) : Option Value :=
  if grouped false digits && noLeadingZero digits then
    let n : Int := numeral 10 digits
    integer? (if negative then -n else n)
  else none

def startsFloat : List Char → Bool
  | c :: _ => c == '.' || c == 'e' || c == 'E'
  | [] => false

def readDecimal (negative : Bool) (cs : List Char) : Option (Value × List Char) :=
  let (whole, rest) := cs.span isDigitOrBar
  if startsFloat rest then
    let (token, rest) := cs.span isFloatChar
    if isFloat token then some (.float, rest) else none
  else (decimal? negative whole).map (·, rest)

def isMomentChar (c : Char) : Bool :=
  c.isDigit || c == '-' || c == ':' || c == 'T' || c == 't' || c == ' ' || c == '.' || c == 'Z' ||
    c == 'z' || c == '+'

def twoDigits? : List Char → Option (Nat × List Char)
  | a :: b :: rest => if a.isDigit && b.isDigit then some (numeral 10 [a, b], rest) else none
  | _ => none

def isLeapYear (y : Nat) : Bool := y % 4 == 0 && (y % 100 != 0 || y % 400 == 0)

def daysOf (year month : Nat) : Nat :=
  if month == 2 then if isLeapYear year then 29 else 28
  else if month == 4 || month == 6 || month == 9 || month == 11 then 30
  else 31

def date? (cs : List Char) : Option (List Char) := do
  let (century, cs) ← twoDigits? cs
  let (year, cs) ← twoDigits? cs
  let '-' :: cs := cs | none
  let (month, cs) ← twoDigits? cs
  let '-' :: cs := cs | none
  let (day, cs) ← twoDigits? cs
  if 1 ≤ month && month ≤ 12 && 1 ≤ day && day ≤ daysOf (100 * century + year) month then some cs
  else none

-- Seconds may have a fraction; without a digit after it, a point is not part of the time.
def skipFraction : List Char → List Char
  | '.' :: c :: rest => if c.isDigit then rest.dropWhile Char.isDigit else '.' :: c :: rest
  | cs => cs

def time? (cs : List Char) : Option (List Char) := do
  let (hour, cs) ← twoDigits? cs
  let ':' :: cs := cs | none
  let (minute, cs) ← twoDigits? cs
  if 24 ≤ hour || 60 ≤ minute then none
  else
    match cs with
    | ':' :: cs => do
      let (second, cs) ← twoDigits? cs
      if 60 ≤ second then none else some (skipFraction cs)
    | cs => some cs

-- An offset from universal time may be as long as a day.
def isOffset : List Char → Bool
  | [] => true
  | ['z'] => true
  | ['Z'] => true
  | c :: h₁ :: h₂ :: ':' :: m₁ :: m₂ :: [] =>
    (c == '+' || c == '-') && [h₁, h₂, m₁, m₂].all Char.isDigit &&
      numeral 10 [h₁, h₂] ≤ 24 && numeral 10 [m₁, m₂] ≤ 60
  | _ => false

def isMoment (cs : List Char) : Bool :=
  match time? cs with
  | some rest => rest.isEmpty
  | none =>
    match date? cs with
    | none => false
    | some [] => true
    | some (c :: rest) =>
      (c == 'T' || c == 't' || c == ' ') &&
        match time? rest with
        | some rest => isOffset rest
        | none => false

def readMoment (cs : List Char) : Option (Value × List Char) :=
  let (token, rest) := cs.span isMomentChar
  let token := (token.reverse.dropWhile (· == ' ')).reverse
  if isMoment token then some (.moment, rest) else none

def readNumeric : List Char → Option (Value × List Char)
  | '0' :: 'x' :: rest => readBased 16 isHex rest
  | '0' :: 'o' :: rest => readBased 8 (fun c => '0' ≤ c && c ≤ '7') rest
  | '0' :: 'b' :: rest => readBased 2 (fun c => c == '0' || c == '1') rest
  | '+' :: rest => readDecimal false rest
  | '-' :: rest => readDecimal true rest
  | cs =>
    match cs.dropWhile Char.isDigit with
    | '-' :: _ => readMoment cs
    | ':' :: _ => readMoment cs
    | _ => readDecimal false cs

end Typeflow.Toml
