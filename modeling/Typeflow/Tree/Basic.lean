import Typeflow.Type.Declarations

set_option autoImplicit false

namespace Typeflow

structure Location where
  file : String
  line : Int
  column : Int
deriving DecidableEq

def Location.text (l : Location) : String :=
  if l.file.isEmpty then toString l.line ++ ":" ++ toString l.column
  else l.file ++ ":" ++ toString l.line ++ ":" ++ toString l.column

def locationText : Option Location → String
  | some l => l.text
  | none => "<unknown>"

abbrev NodeId := Nat

structure Site where
  id : NodeId
  location : Option Location
deriving DecidableEq

inductive LocalKind where
  | letBound
  | parameter
  | loopVariable
deriving DecidableEq

abbrev LocalId := Nat

structure Local where
  id : LocalId
  kind : LocalKind
  name : String
deriving DecidableEq

-- A field that a reference was resolved to. Of several fields of one name a class means its
-- first, so the class and the name identify it.
structure FieldRef where
  owner : DeclId
  name : String
  type : Ty

def FieldRef.same (f g : FieldRef) : Bool := f.owner == g.owner && f.name == g.name

inductive Literal where
  | string (value : String)
  | numeric (digits : String)
  | boolean (value : Bool)
  | null
deriving DecidableEq

mutual

inductive Expr where
  | literal (site : Site) (value : Literal)
  | array (site : Site) (items : List Expr)
  | map (site : Site) (entries : List (String × Expr))
  -- A hole as result type means that none was declared.
  | lambda (site : Site) (params : List Local) (returns : Ty) (body : Block)
  | instanceOf (site : Site) (operand : Expr) (check : Ty)
  -- The origin is the test on whose behalf narrowing made the cast.
  | cast (site : Site) (operand : Expr) (target : Ty) (origin : Option NodeId)
  | binary (site : Site) (op : String) (left right : Expr)
  | unary (site : Site) (op : String) (operand : Expr)
  | conditional (site : Site) (condition whenTrue whenFalse : Expr)
  | property (site : Site) (object : Expr) (name : String)
  | call (site : Site) (callee : Expr) (args : List Expr)
  | localRef (site : Site) (target : Local)
  | fieldRef (site : Site) (object : Option Expr) (target : FieldRef)
  | thisRef (site : Site) (decl : DeclId)
  | staticRef (site : Site) (decl : DeclId)

inductive Block where
  | mk (site : Site) (statements : List Stmt)

inductive Stmt where
  | expression (site : Site) (value : Expr)
  | declare (site : Site) (target : Local) (init : Option Expr)
  | ret (site : Site) (value : Option Expr)
  | branch (site : Site) (condition : Expr) (body : Block) (alternative : Option Block)
  | loop (site : Site) (condition : Expr) (body : Block)
  | foreach (site : Site) (target : Local) (items : Expr) (body : Block)

end

structure Function where
  site : Site
  name : String
  params : List Local
  returns : Ty
  body : Block

structure LiteralTypes where
  array : Option DeclId
  map : Option DeclId
  string : Option DeclId
  numeric : Option DeclId
  boolean : Option DeclId

structure SourceFile where
  site : Site
  path : String
  declarations : Declarations
  literals : LiteralTypes
  functions : List Function
  main : Option Block

def Expr.site : Expr → Site
  | .literal s _ => s
  | .array s _ => s
  | .map s _ => s
  | .lambda s _ _ _ => s
  | .instanceOf s _ _ => s
  | .cast s _ _ _ => s
  | .binary s _ _ _ => s
  | .unary s _ _ => s
  | .conditional s _ _ _ => s
  | .property s _ _ => s
  | .call s _ _ => s
  | .localRef s _ => s
  | .fieldRef s _ _ => s
  | .thisRef s _ => s
  | .staticRef s _ => s

def Expr.id (e : Expr) : NodeId := e.site.id

def Expr.location (e : Expr) : Option Location := e.site.location

def Block.site : Block → Site
  | .mk s _ => s

def Block.statements : Block → List Stmt
  | .mk _ ss => ss

def Stmt.site : Stmt → Site
  | .expression s _ => s
  | .declare s _ _ => s
  | .ret s _ => s
  | .branch s _ _ _ => s
  | .loop s _ _ => s
  | .foreach s _ _ _ => s

def isAssignment (op : String) : Bool := op == "="

def Expr.isReference : Expr → Bool
  | .localRef .. => true
  | .fieldRef .. => true
  | .thisRef .. => true
  | .staticRef .. => true
  | _ => false

def Expr.isContainerLiteral : Expr → Bool
  | .array .. => true
  | .map .. => true
  | _ => false

def Expr.unwrapped : Expr → Expr
  | .cast _ operand _ (some _) => operand.unwrapped
  | e => e

end Typeflow
