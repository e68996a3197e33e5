import Typeflow.Tree.Node

set_option autoImplicit false

namespace Typeflow

section

variable (newer : NodeId → Option Node)

def newerExpr (e : Expr) : Expr :=
  match newer e.id with
  | some (.expr e) => e
  | _ => e

def newerStmt (s : Stmt) : Stmt :=
  match newer s.site.id with
  | some (.stmt s) => s
  | _ => s

def newerBlock (b : Block) : Block :=
  match newer b.site.id with
  | some (.block b) => b
  | _ => b

mutual

def Expr.refresh : Expr → Expr
  | .literal s value => newerExpr newer (.literal s value)
  | .array s items => newerExpr newer (.array s (refreshExprs items))
  | .map s entries => newerExpr newer (.map s (refreshEntries entries))
  | .lambda s params returns body => newerExpr newer (.lambda s params returns body.refresh)
  | .instanceOf s operand check => newerExpr newer (.instanceOf s operand.refresh check)
  | .cast s operand target origin => newerExpr newer (.cast s operand.refresh target origin)
  | .binary s op left right => newerExpr newer (.binary s op left.refresh right.refresh)
  | .unary s op operand => newerExpr newer (.unary s op operand.refresh)
  | .conditional s condition whenTrue whenFalse =>
    newerExpr newer (.conditional s condition.refresh whenTrue.refresh whenFalse.refresh)
  | .property s object name => newerExpr newer (.property s object.refresh name)
  | .call s callee args => newerExpr newer (.call s callee.refresh (refreshExprs args))
  | .localRef s target => newerExpr newer (.localRef s target)
  | .fieldRef s none target => newerExpr newer (.fieldRef s none target)
  | .fieldRef s (some object) target => newerExpr newer (.fieldRef s (some object.refresh) target)
  | .thisRef s decl => newerExpr newer (.thisRef s decl)
  | .staticRef s decl => newerExpr newer (.staticRef s decl)

def refreshExprs : List Expr → List Expr
  | [] => []
  | e :: rest => e.refresh :: refreshExprs rest

def refreshEntries : List (String × Expr) → List (String × Expr)
  | [] => []
  | (key, e) :: rest => (key, e.refresh) :: refreshEntries rest

def Block.refresh : Block → Block
  | .mk s statements => newerBlock newer (.mk s (refreshStmts statements))

def refreshStmts : List Stmt → List Stmt
  | [] => []
  | s :: rest => s.refresh :: refreshStmts rest

def Stmt.refresh : Stmt → Stmt
  | .expression s value => newerStmt newer (.expression s value.refresh)
  | .declare s target none => newerStmt newer (.declare s target none)
  | .declare s target (some init) => newerStmt newer (.declare s target (some init.refresh))
  | .ret s none => newerStmt newer (.ret s none)
  | .ret s (some value) => newerStmt newer (.ret s (some value.refresh))
  | .branch s condition body none =>
    newerStmt newer (.branch s condition.refresh body.refresh none)
  | .branch s condition body (some alternative) =>
    newerStmt newer (.branch s condition.refresh body.refresh (some alternative.refresh))
  | .loop s condition body => newerStmt newer (.loop s condition.refresh body.refresh)
  | .foreach s target items body =>
    newerStmt newer (.foreach s target items.refresh body.refresh)

end

def SourceFile.refresh (f : SourceFile) : SourceFile :=
  { f with
    functions := f.functions.map fun fn => { fn with body := fn.body.refresh newer }
    main := f.main.map fun b => b.refresh newer }

end

end Typeflow
