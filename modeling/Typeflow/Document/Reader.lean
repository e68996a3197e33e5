import Typeflow.Document.Basic
import Typeflow.Document.Shape

set_option autoImplicit false

namespace Typeflow.Document

namespace Conformed

def get (members : List (String × Conformed)) (key : String) : Conformed :=
  (members.lookup key).getD .absent

def getText (members : List (String × Conformed)) (key : String) : String :=
  match get members key with
  | .text s => s
  | _ => ""

def getWhole (members : List (String × Conformed)) (key : String) : Int :=
  match get members key with
  | .whole n => n
  | _ => 0

def getFree (members : List (String × Conformed)) (key : String) : Json :=
  match get members key with
  | .free j => j
  | _ => .null

def getList (members : List (String × Conformed)) (key : String) : List Conformed :=
  (get members key).items

-- An empty list is given, null is not.
def isGiven (members : List (String × Conformed)) (key : String) : Bool :=
  match get members key with
  | .absent => false
  | _ => true

def getTexts (members : List (String × Conformed)) (key : String) : List String :=
  (getList members key).map fun
    | .text s => s
    | _ => ""

theorem size_of_lookup_lt (members : List (String × Conformed)) (key : String) (c : Conformed)
    (found : members.lookup key = some c) : sizeOf c < sizeOf members := by
  induction members with
  | nil => simp at found
  | cons entry rest ih =>
    obtain ⟨k, v⟩ := entry
    rw [List.lookup_cons] at found
    simp only [List.cons.sizeOf_spec, Prod.mk.sizeOf_spec]
    split at found
    · cases found
      omega
    · have := ih found
      omega

theorem size_of_get_lt (members : List (String × Conformed)) (key : String) :
    sizeOf (get members key) < 1 + sizeOf members := by
  unfold get
  cases found : members.lookup key with
  | none =>
    rw [Option.getD_none, Conformed.absent.sizeOf_spec]
    cases members with
    | nil => decide
    | cons entry rest =>
      rw [List.cons.sizeOf_spec]
      omega
  | some c =>
    have := size_of_lookup_lt members key c found
    rw [Option.getD_some]
    omega

theorem size_of_items_le (c : Conformed) : sizeOf c.items ≤ sizeOf c := by
  cases c with
  | list items hidden =>
    rw [Conformed.list.sizeOf_spec, Conformed.items]
    omega
  | _ =>
    simp only [Conformed.items, List.nil.sizeOf_spec, Conformed.absent.sizeOf_spec,
      Conformed.text.sizeOf_spec, Conformed.whole.sizeOf_spec, Conformed.free.sizeOf_spec,
      Conformed.record.sizeOf_spec, Nat.le_refl, Nat.le_add_right]

theorem size_of_get_list_lt (members : List (String × Conformed)) (key : String) :
    sizeOf (getList members key) < 1 + sizeOf members :=
  Nat.lt_of_le_of_lt (size_of_items_le _) (size_of_get_lt members key)

end Conformed

open Conformed

def position (members : List (String × Conformed)) : Position :=
  ⟨getWhole members "line", getWhole members "col"⟩

def readParam (c : Conformed) : ParamDoc :=
  ⟨getText c.members "name", getText c.members "type"⟩

def readParams (members : List (String × Conformed)) : List ParamDoc :=
  (getList members "params").map readParam

mutual

def readExpr? : Conformed → Option ExprDoc
  | .record m =>
    let pos := position m
    some <|
      match getText m "kind" with
      | "string" => .string pos (getFree m "value")
      | "number" => .number pos (getFree m "value")
      | "bool" => .boolean pos (getFree m "value")
      | "null" => .null pos
      | "array" => .array pos (readExprs (getList m "items"))
      | "map" => .map pos (readEntries (getList m "entries"))
      | "lambda" =>
        match readExpr? (get m "expr"), isGiven m "body" with
        | some value, false => .arrow pos (readParams m) (getText m "returns") value
        | _, _ => .lambda pos (readParams m) (getText m "returns") (readStmts (getList m "body"))
      | "instanceof" => .instanceOf pos (readExpr? (get m "expr")) (getText m "type")
      | "cast" => .cast pos (readExpr? (get m "expr")) (getText m "type")
      | "binary" =>
        .binary pos (getText m "op") (readExpr? (get m "left")) (readExpr? (get m "right"))
      | "unary" => .unary pos (getText m "op") (readExpr? (get m "operand"))
      | "conditional" =>
        .conditional pos (readExpr? (get m "cond")) (readExpr? (get m "then"))
          (readExpr? (get m "else"))
      | "prop" => .property pos (readExpr? (get m "object")) (getText m "name")
      | "call" => .call pos (readExpr? (get m "callee")) (readExprs (getList m "args"))
      | "ref" => .ref pos (getText m "name")
      | "field" =>
        .field pos (getText m "class") (getText m "name") (readExpr? (get m "object"))
      | "this" => .this pos (getText m "class")
      | "static" => .static pos (getText m "class")
      | kind => .unrecognized kind
  | _ => none
termination_by c => sizeOf c
decreasing_by
  all_goals simp_wf
  all_goals first
    | exact size_of_get_lt _ _
    | exact size_of_get_list_lt _ _

def readExprs : List Conformed → List (Option ExprDoc)
  | [] => []
  | c :: rest => readExpr? c :: readExprs rest
termination_by cs => sizeOf cs

def readEntries : List Conformed → List (String × Option ExprDoc)
  | [] => []
  | .record m :: rest => (getText m "key", readExpr? (get m "value")) :: readEntries rest
  | _ :: rest => ("", none) :: readEntries rest
termination_by cs => sizeOf cs
decreasing_by
  · have := size_of_get_lt m "value"
    simp only [List.cons.sizeOf_spec, Conformed.record.sizeOf_spec]
    omega
  all_goals
    simp only [List.cons.sizeOf_spec]
    omega

def readStmts : List Conformed → List StmtDoc
  | [] => []
  | .record m :: rest => readStmt m :: readStmts rest
  | _ :: rest => .unrecognized "" :: readStmts rest
termination_by cs => sizeOf cs

def readStmt (m : List (String × Conformed)) : StmtDoc :=
  let pos := position m
  match getText m "kind" with
  | "expr" => .expression pos (readExpr? (get m "expr"))
  | "var" => .declare pos (getText m "name") (getText m "type") (readExpr? (get m "expr"))
  | "return" => .ret pos (readExpr? (get m "expr"))
  | "if" =>
    .branch pos (readExpr? (get m "cond")) (readStmts (getList m "then"))
      (if isGiven m "else" then some (readStmts (getList m "else")) else none)
  | "while" => .loop pos (readExpr? (get m "cond")) (readStmts (getList m "body"))
  | "foreach" =>
    .foreach pos (getText m "name") (getText m "type") (readExpr? (get m "items"))
      (readStmts (getList m "body"))
  | kind => .unrecognized kind
termination_by 1 + sizeOf m
decreasing_by
  all_goals first
    | exact size_of_get_lt _ _
    | exact size_of_get_list_lt _ _

end

def readField (c : Conformed) : FieldDoc :=
  ⟨getText c.members "name", getText c.members "type"⟩

def readClass (c : Conformed) : ClassDoc :=
  let m := c.members
  ⟨getText m "name", getTexts m "typeparams", getText m "base", getTexts m "interfaces",
    (getList m "fields").map readField⟩

def readInterface (c : Conformed) : InterfaceDoc :=
  let m := c.members
  ⟨getText m "name", getTexts m "typeparams", getTexts m "bases",
    (getList m "fields").map readField⟩

def readEnum (c : Conformed) : EnumDoc := ⟨getText c.members "name", getTexts c.members "values"⟩

def readFunction (c : Conformed) : FunctionDoc :=
  let m := c.members
  ⟨position m, getText m "name", readParams m, getText m "returns", readStmts (getList m "body")⟩

def readLiterals (c : Conformed) : LiteralNames :=
  let m := c.members
  ⟨getText m "array", getText m "map", getText m "string", getText m "numeric",
    getText m "boolean"⟩

def readUnit (path : String) (c : Conformed) : UnitDoc :=
  let m := c.members
  { path := if getText m "path" = "" then path else getText m "path"
    literals := readLiterals (get m "literals")
    classes := (getList m "classes").map readClass
    interfaces := (getList m "interfaces").map readInterface
    enums := (getList m "enums").map readEnum
    functions := (getList m "functions").map readFunction
    main := readStmts (getList m "main") }

def ofJson? (path : String) (j : Json) : Option UnitDoc :=
  (conform? (.record .unit) .absent j).map (readUnit path)

end Typeflow.Document
