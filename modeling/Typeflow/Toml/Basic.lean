import Typeflow.Text.Quoted

set_option autoImplicit false

namespace Typeflow.Toml

abbrev Key := List String

-- A value as it was written. Of floats and dates only the kind is kept.
inductive Value where
  | text (s : String)
  | integer (n : Int)
  | float
  | boolean (b : Bool)
  | moment
  | array (items : List Value)
  | inline (entries : List (Key × Value))

inductive Line where
  | header (key : Key)
  | element (key : Key)
  | entry (key : Key) (value : Value)

def isBare (c : Char) : Bool := c.isAlphanum || c == '_' || c == '-'

def escapedKeyChar (c : Char) : List Char :=
  match c with
  | '"' => ['\\', '"']
  | '\\' => ['\\', '\\']
  | '\x08' => ['\\', 'b']
  | '\t' => ['\\', 't']
  | '\n' => ['\\', 'n']
  | '\x0c' => ['\\', 'f']
  | '\r' => ['\\', 'r']
  | c => if c.toNat < 0x20 || c.toNat == 0x7F then '\\' :: 'u' :: Text.hex 4 c.toNat else [c]

def nameText (name : String) : String :=
  if !name.isEmpty && name.toList.all isBare then name
  else String.ofList ('"' :: name.toList.flatMap escapedKeyChar ++ ['"'])

def Key.text (key : Key) : String := ".".intercalate (key.map nameText)

end Typeflow.Toml
