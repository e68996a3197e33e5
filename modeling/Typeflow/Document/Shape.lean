import Typeflow.Json
import Typeflow.Text.Folded

set_option autoImplicit false

namespace Typeflow.Document

inductive Record where
  | unit
  | literals
  | field
  | cls
  | interface
  | enumeration
  | param
  | function
  | stmt
  | expr
  | entry

inductive Shape where
  | text
  | whole
  | free
  | record (r : Record)
  | optional (r : Record)
  | list (item : Shape)

def Record.members : Record → List (String × Shape)
  | .unit =>
    [("path", .text), ("literals", .record .literals), ("classes", .list (.record .cls)),
      ("interfaces", .list (.record .interface)), ("enums", .list (.record .enumeration)),
      ("functions", .list (.record .function)), ("main", .list (.record .stmt))]
  | .literals =>
    [("array", .text), ("map", .text), ("string", .text), ("numeric", .text), ("boolean", .text)]
  | .field => [("name", .text), ("type", .text)]
  | .cls =>
    [("name", .text), ("typeparams", .list .text), ("base", .text), ("interfaces", .list .text),
      ("fields", .list (.record .field))]
  | .interface =>
    [("name", .text), ("typeparams", .list .text), ("bases", .list .text),
      ("fields", .list (.record .field))]
  | .enumeration => [("name", .text), ("values", .list .text)]
  | .param => [("name", .text), ("type", .text)]
  | .function =>
    [("name", .text), ("params", .list (.record .param)), ("returns", .text),
      ("body", .list (.record .stmt)), ("line", .whole), ("col", .whole)]
  | .stmt =>
    [("kind", .text), ("name", .text), ("type", .text), ("expr", .optional .expr),
      ("cond", .optional .expr), ("items", .optional .expr), ("then", .list (.record .stmt)),
      ("else", .list (.record .stmt)), ("body", .list (.record .stmt)), ("line", .whole),
      ("col", .whole)]
  | .expr =>
    [("kind", .text), ("value", .free), ("name", .text), ("type", .text), ("class", .text),
      ("op", .text), ("expr", .optional .expr), ("left", .optional .expr),
      ("right", .optional .expr), ("operand", .optional .expr), ("object", .optional .expr),
      ("callee", .optional .expr), ("cond", .optional .expr), ("then", .optional .expr),
      ("else", .optional .expr), ("items", .list (.optional .expr)),
      ("entries", .list (.record .entry)), ("args", .list (.optional .expr)),
      ("params", .list (.record .param)), ("returns", .text), ("body", .list (.record .stmt)),
      ("line", .whole), ("col", .whole)]
  | .entry => [("key", .text), ("value", .optional .expr)]

inductive Conformed where
  | absent
  | text (s : String)
  | whole (n : Int)
  | free (j : Json)
  | record (members : List (String × Conformed))
  -- `hidden` are the elements after `items` that earlier values of the list had.
  | list (items hidden : List Conformed)

def digitsValue (ds : List Char) : Nat := ds.foldl (fun n d => 10 * n + (d.toNat - 0x30)) 0

def wholeNumber? (digits : String) : Option Int :=
  let value? : Option Int :=
    match digits.toList with
    | '-' :: ds => if ds.all Char.isDigit then some (-(digitsValue ds : Int)) else none
    | ds => if ds.all Char.isDigit then some (digitsValue ds : Int) else none
  value?.filter fun n => Int64.minValue.toInt ≤ n && n ≤ Int64.maxValue.toInt

def setMember (key : String) (value : Conformed) : List (String × Conformed) →
    List (String × Conformed)
  | [] => [(key, value)]
  | (k, v) :: rest => if k == key then (k, value) :: rest else (k, v) :: setMember key value rest

def Conformed.members : Conformed → List (String × Conformed)
  | .record members => members
  | _ => []

def Conformed.items : Conformed → List Conformed
  | .list items _ => items
  | _ => []

def Conformed.slots : Conformed → List Conformed
  | .list items hidden => items ++ hidden
  | _ => []

-- A list of new items in the place of one with `slots`. An empty list starts afresh.
def Conformed.listOver (slots : List Conformed) : List Conformed → Conformed
  | [] => .list [] []
  | item :: rest => .list (item :: rest) (slots.drop (rest.length + 1))

mutual

-- `old` is the value that the same place had before. Null leaves a member as it was, and a
-- repeated key goes on from the value before it.
def conform? (shape : Shape) (old : Conformed) : Json → Option Conformed
  | .null =>
    match shape with
    | .free => some .absent
    | .optional _ => some .absent
    | .list _ => some .absent
    | _ => some old
  | .bool b =>
    match shape with
    | .free => some (.free (.bool b))
    | _ => none
  | .number digits =>
    match shape with
    | .free => some (.free (.number digits))
    | .whole => (wholeNumber? digits).map .whole
    | _ => none
  | .string s =>
    match shape with
    | .free => some (.free (.string s))
    | .text => some (.text s)
    | _ => none
  | .array items =>
    match shape with
    | .free => some (.free (.array items))
    | .list item => (conformItems? item old.slots items).map (Conformed.listOver old.slots)
    | _ => none
  | .object members =>
    match shape with
    | .free => some (.free (.object members))
    | .record r => (conformMembers? r old.members members).map .record
    | .optional r => (conformMembers? r old.members members).map .record
    | _ => none

def conformItems? (item : Shape) (old : List Conformed) : List Json → Option (List Conformed)
  | [] => some []
  | j :: rest => do
    let first ← conform? item (old.head?.getD .absent) j
    let others ← conformItems? item old.tail rest
    return first :: others

def conformMembers? (r : Record) (old : List (String × Conformed)) :
    List (String × Json) → Option (List (String × Conformed))
  | [] => some old
  | (key, j) :: rest => do
    let shape ← r.members.lookup (Text.folded key)
    let value ← conform? shape ((old.lookup (Text.folded key)).getD .absent) j
    conformMembers? r (setMember (Text.folded key) value old) rest

end

end Typeflow.Document
