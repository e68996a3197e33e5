import Typeflow.Tree.Basic

set_option autoImplicit false

namespace Typeflow

structure Visitor (m : Type → Type) where
  expr : Expr → m Expr
  block : Block → m Unit

namespace Visitor

variable {m : Type → Type} [Monad m] (v : Visitor m)

def exprs : List Expr → m (List Expr)
  | [] => return []
  | e :: rest => do
    let e ← v.expr e
    let rest ← exprs rest
    return e :: rest

def entries : List (String × Expr) → m (List (String × Expr))
  | [] => return []
  | (key, e) :: rest => do
    let e ← v.expr e
    let rest ← entries rest
    return (key, e) :: rest

def optional : Option Expr → m (Option Expr)
  | none => return none
  | some e => do
    let e ← v.expr e
    return some e

def optionalBlock : Option Block → m Unit
  | none => return ()
  | some b => v.block b

def children : Expr → m Expr
  | .literal s value => return .literal s value
  | .array s items => do
    let items ← v.exprs items
    return .array s items
  | .map s entries => do
    let entries ← v.entries entries
    return .map s entries
  | .lambda s params returns body => do
    v.block body
    return .lambda s params returns body
  | .instanceOf s operand check => do
    let operand ← v.expr operand
    return .instanceOf s operand check
  | .cast s operand target origin => do
    let operand ← v.expr operand
    return .cast s operand target origin
  | .binary s op left right => do
    let left ← v.expr left
    let right ← v.expr right
    return .binary s op left right
  | .unary s op operand => do
    let operand ← v.expr operand
    return .unary s op operand
  | .conditional s condition whenTrue whenFalse => do
    let condition ← v.expr condition
    let whenTrue ← v.expr whenTrue
    let whenFalse ← v.expr whenFalse
    return .conditional s condition whenTrue whenFalse
  | .property s object name => do
    let object ← v.expr object
    return .property s object name
  | .call s callee args => do
    let callee ← v.expr callee
    let args ← v.exprs args
    return .call s callee args
  | .localRef s target => return .localRef s target
  | .fieldRef s object target => do
    let object ← v.optional object
    return .fieldRef s object target
  | .thisRef s decl => return .thisRef s decl
  | .staticRef s decl => return .staticRef s decl

def statement : Stmt → m Stmt
  | .expression s value => do
    let value ← v.expr value
    return .expression s value
  | .declare s target init => do
    let init ← v.optional init
    return .declare s target init
  | .ret s value => do
    let value ← v.optional value
    return .ret s value
  | .branch s condition body alternative => do
    let condition ← v.expr condition
    v.block body
    v.optionalBlock alternative
    return .branch s condition body alternative
  | .loop s condition body => do
    let condition ← v.expr condition
    v.block body
    return .loop s condition body
  | .foreach s target items body => do
    let items ← v.expr items
    v.block body
    return .foreach s target items body

end Visitor

end Typeflow
