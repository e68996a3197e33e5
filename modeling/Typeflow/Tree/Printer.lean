import Typeflow.Text.Quoted
import Typeflow.Tree.Annotations
import Typeflow.Tree.Node

set_option autoImplicit false

namespace Typeflow

open Text

def Literal.text : Literal → String
  | .string value => quote value
  | .numeric digits => digits
  | .boolean true => "true"
  | .boolean false => "false"
  | .null => "null"

def newline (indent : Nat) : String := "\n" ++ String.ofList (List.replicate indent '\t')

-- Under another operator, conditionals and binary expressions need parentheses, and assignments
-- need them always.
def needsParens (op : String) : Expr → Bool
  | .conditional .. => true
  | .binary _ inner _ _ => inner != op || isAssignment inner
  | _ => false

def parenthesized (yes : Bool) (s : String) : String := if yes then "(" ++ s ++ ")" else s

def typeSuffix : Ty → String
  | .unknown => ""
  | t => ": " ++ t.text

section

variable (types : LocalId → Ty)

def Local.text (l : Local) : String := l.name ++ typeSuffix (types l.id)

def paramsText (params : List Local) : String := ", ".intercalate (params.map (Local.text types))

mutual

def Expr.text (indent : Nat) : Expr → String
  | .literal _ value => value.text
  | .array _ items => "[" ++ exprsText indent items ++ "]"
  | .map _ [] => "\x7b\x7d"
  | .map _ (entry :: rest) => "\x7b " ++ entriesText indent (entry :: rest) ++ " \x7d"
  | .lambda _ params _ body =>
    "(" ++ paramsText types params ++ ") => " ++
      match body with
      | .mk _ [.ret _ (some value)] => value.text indent
      | .mk s statements => (Block.mk s statements).text indent
  | .instanceOf _ operand check =>
    parenthesized (needsParens "instanceof" operand) (operand.text indent) ++ " instanceof " ++
      check.text
  | .cast _ operand target _ => "(<" ++ target.text ++ ">" ++ operand.text indent ++ ")"
  | .binary _ op left right =>
    parenthesized (needsParens op left) (left.text indent) ++ " " ++ op ++ " " ++
      parenthesized (needsParens op right) (right.text indent)
  | .unary _ op operand => op ++ parenthesized (needsParens op operand) (operand.text indent)
  | .conditional _ condition whenTrue whenFalse =>
    parenthesized (needsParens "?" condition) (condition.text indent) ++ " ? " ++
      parenthesized (needsParens "?" whenTrue) (whenTrue.text indent) ++ " : " ++
      parenthesized (needsParens "?" whenFalse) (whenFalse.text indent)
  | .property _ object name =>
    parenthesized (needsParens "." object) (object.text indent) ++ "." ++ name
  | .call _ callee args =>
    parenthesized (needsParens "()" callee) (callee.text indent) ++ "(" ++
      exprsText indent args ++ ")"
  | .localRef _ target => target.name
  | .fieldRef _ none target => "this." ++ target.name
  | .fieldRef _ (some object) target =>
    parenthesized (needsParens "." object) (object.text indent) ++ "." ++ target.name
  | .thisRef .. => "this"
  | .staticRef _ decl => decl.name

def exprsText (indent : Nat) : List Expr → String
  | [] => ""
  | [e] => e.text indent
  | e :: rest => e.text indent ++ ", " ++ exprsText indent rest

def entriesText (indent : Nat) : List (String × Expr) → String
  | [] => ""
  | [(key, e)] => key ++ ": " ++ e.text indent
  | (key, e) :: rest => key ++ ": " ++ e.text indent ++ ", " ++ entriesText indent rest

def Block.text (indent : Nat) : Block → String
  | .mk _ [] => "\x7b\x7d"
  | .mk _ (s :: rest) =>
    "\x7b" ++ linesText (indent + 1) (s :: rest) ++ newline indent ++ "\x7d"

def linesText (indent : Nat) : List Stmt → String
  | [] => ""
  | s :: rest => newline indent ++ s.text indent ++ linesText indent rest

def Stmt.text (indent : Nat) : Stmt → String
  | .expression _ value => value.text indent ++ ";"
  | .declare _ target none => "let " ++ target.text types ++ ";"
  | .declare _ target (some init) => "let " ++ target.text types ++ " = " ++ init.text indent ++ ";"
  | .ret _ none => "return;"
  | .ret _ (some value) => "return " ++ value.text indent ++ ";"
  | .branch _ condition body none => "if (" ++ condition.text indent ++ ") " ++ body.text indent
  | .branch _ condition body (some alternative) =>
    "if (" ++ condition.text indent ++ ") " ++ body.text indent ++ " else " ++
      alternative.text indent
  | .loop _ condition body => "while (" ++ condition.text indent ++ ") " ++ body.text indent
  | .foreach _ target items body =>
    "for (const " ++ target.name ++ " of " ++ items.text indent ++ ") " ++ body.text indent

end

def Function.text (f : Function) : String :=
  "function " ++ f.name ++ "(" ++ paramsText types f.params ++ ")" ++ typeSuffix f.returns ++ " " ++
    f.body.text types 0

def SourceFile.text (f : SourceFile) : String :=
  "\n".intercalate (f.functions.map fun fn => fn.text types ++ "\n") ++
    match f.main with
    | none => ""
    | some main =>
      (if f.functions.isEmpty then "" else "\n") ++
        String.join (main.statements.map fun s => s.text types 0 ++ "\n")

def Node.text : Node → String
  | .file f => f.text types
  | .function f => f.text types
  | .block b => b.text types 0
  | .stmt s => s.text types 0
  | .expr e => e.text types 0

end

end Typeflow
