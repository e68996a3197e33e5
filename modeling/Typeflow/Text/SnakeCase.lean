set_option autoImplicit false

namespace Typeflow.Text

def isBlank (c : Char) : Bool :=
  let n := c.toNat
  (9 ≤ n && n ≤ 13) || n == 0x20 || n == 0x85 || n == 0xA0 || n == 0x1680 ||
    (0x2000 ≤ n && n ≤ 0x200A) || n == 0x2028 || n == 0x2029 || n == 0x202F || n == 0x205F ||
    n == 0x3000

def trimBlanks (cs : List Char) : List Char :=
  ((cs.dropWhile isBlank).reverse.dropWhile isBlank).reverse

def isSeparator (c : Char) : Bool := c == ' ' || c == '_' || c == '-' || c == '.'

-- What `c` is written as between its neighbours. Separators are looked at only where the case
-- does not change.
def snakeChar (before : Option Char) (c : Char) (after : Option Char) : List Char :=
  let low := c.toLower
  let next := after.getD ' '
  if c.isUpper && next.isLower then
    if (before.getD ' ').isUpper then ['_', low] else [low]
  else if (c.isUpper || c.isLower) && next.isDigit || c.isLower && next.isUpper ||
      c.isDigit && (next.isUpper || next.isLower) then
    [low, '_']
  else if isSeparator c then ['_']
  else [low]

def snakeFrom (before : Option Char) : List Char → List Char
  | [] => []
  | c :: rest => snakeChar before c rest.head? ++ snakeFrom (some c) rest

def snakeCase (name : String) : String :=
  String.ofList (snakeFrom none (trimBlanks name.toList))

end Typeflow.Text
