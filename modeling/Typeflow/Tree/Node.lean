import Typeflow.Tree.Basic

set_option autoImplicit false

namespace Typeflow

inductive Kind where
  | sourceFile
  | function
  | block
  | expressionStatement
  | variableDeclaration
  | ret
  | branch
  | loop
  | foreach
  | stringLiteral
  | numericLiteral
  | booleanLiteral
  | nullLiteral
  | arrayLiteral
  | mapLiteral
  | lambda
  | instanceOf
  | cast
  | binary
  | unary
  | conditional
  | propertyAccess
  | call
  | variableRef
  | parameterRef
  | foreachVariableRef
  | instanceFieldRef
  | thisRef
  | staticThisRef
deriving DecidableEq

def Kind.name : Kind → String
  | .sourceFile => "SourceFile"
  | .function => "Function"
  | .block => "Block"
  | .expressionStatement => "ExpressionStatement"
  | .variableDeclaration => "VariableDeclaration"
  | .ret => "Return"
  | .branch => "If"
  | .loop => "While"
  | .foreach => "Foreach"
  | .stringLiteral => "StringLiteral"
  | .numericLiteral => "NumericLiteral"
  | .booleanLiteral => "BooleanLiteral"
  | .nullLiteral => "NullLiteral"
  | .arrayLiteral => "ArrayLiteral"
  | .mapLiteral => "MapLiteral"
  | .lambda => "Lambda"
  | .instanceOf => "InstanceOf"
  | .cast => "Cast"
  | .binary => "Binary"
  | .unary => "Unary"
  | .conditional => "Conditional"
  | .propertyAccess => "PropertyAccess"
  | .call => "Call"
  | .variableRef => "VariableRef"
  | .parameterRef => "ParameterRef"
  | .foreachVariableRef => "ForeachVariableRef"
  | .instanceFieldRef => "InstanceFieldRef"
  | .thisRef => "ThisRef"
  | .staticThisRef => "StaticThisRef"

def Kind.all : List Kind :=
  [.sourceFile, .function, .block, .expressionStatement, .variableDeclaration, .ret, .branch, .loop,
    .foreach, .stringLiteral, .numericLiteral, .booleanLiteral, .nullLiteral, .arrayLiteral,
    .mapLiteral, .lambda, .instanceOf, .cast, .binary, .unary, .conditional, .propertyAccess, .call,
    .variableRef, .parameterRef, .foreachVariableRef, .instanceFieldRef, .thisRef, .staticThisRef]

def Literal.kind : Literal → Kind
  | .string _ => .stringLiteral
  | .numeric _ => .numericLiteral
  | .boolean _ => .booleanLiteral
  | .null => .nullLiteral

def LocalKind.refKind : LocalKind → Kind
  | .letBound => .variableRef
  | .parameter => .parameterRef
  | .loopVariable => .foreachVariableRef

def Expr.kind : Expr → Kind
  | .literal _ value => value.kind
  | .array .. => .arrayLiteral
  | .map .. => .mapLiteral
  | .lambda .. => .lambda
  | .instanceOf .. => .instanceOf
  | .cast .. => .cast
  | .binary .. => .binary
  | .unary .. => .unary
  | .conditional .. => .conditional
  | .property .. => .propertyAccess
  | .call .. => .call
  | .localRef _ target => target.kind.refKind
  | .fieldRef .. => .instanceFieldRef
  | .thisRef .. => .thisRef
  | .staticRef .. => .staticThisRef

def Stmt.kind : Stmt → Kind
  | .expression .. => .expressionStatement
  | .declare .. => .variableDeclaration
  | .ret .. => .ret
  | .branch .. => .branch
  | .loop .. => .loop
  | .foreach .. => .foreach

inductive Node where
  | file (f : SourceFile)
  | function (f : Function)
  | block (b : Block)
  | stmt (s : Stmt)
  | expr (e : Expr)

namespace Node

def site : Node → Site
  | .file f => f.site
  | .function f => f.site
  | .block b => b.site
  | .stmt s => s.site
  | .expr e => e.site

def id (n : Node) : NodeId := n.site.id

def kind : Node → Kind
  | .file _ => .sourceFile
  | .function _ => .function
  | .block _ => .block
  | .stmt s => s.kind
  | .expr e => e.kind

def expr? : Node → Option Expr
  | .expr e => some e
  | _ => none

end Node

def Expr.children : Expr → List Node
  | .literal .. => []
  | .array _ items => items.map .expr
  | .map _ entries => entries.map fun entry => .expr entry.2
  | .lambda _ _ _ body => [.block body]
  | .instanceOf _ operand _ => [.expr operand]
  | .cast _ operand _ _ => [.expr operand]
  | .binary _ _ left right => [.expr left, .expr right]
  | .unary _ _ operand => [.expr operand]
  | .conditional _ condition whenTrue whenFalse =>
    [.expr condition, .expr whenTrue, .expr whenFalse]
  | .property _ object _ => [.expr object]
  | .call _ callee args => .expr callee :: args.map .expr
  | .localRef .. => []
  | .fieldRef _ object _ => object.toList.map .expr
  | .thisRef .. => []
  | .staticRef .. => []

def Stmt.children : Stmt → List Node
  | .expression _ value => [.expr value]
  | .declare _ _ init => init.toList.map .expr
  | .ret _ value => value.toList.map .expr
  | .branch _ condition body alternative =>
    .expr condition :: .block body :: alternative.toList.map .block
  | .loop _ condition body => [.expr condition, .block body]
  | .foreach _ _ items body => [.expr items, .block body]

def Node.children : Node → List Node
  | .file f => f.functions.map .function ++ f.main.toList.map .block
  | .function f => [.block f.body]
  | .block b => b.statements.map .stmt
  | .stmt s => s.children
  | .expr e => e.children

section

variable (skip : Node → Bool)

-- `n` and what is below it; nodes to be skipped stand without their descendants.
def visit (n : Node) (below : List Node) : List Node := n :: if skip n then [] else below

mutual

def Expr.walk : Expr → List Node
  | .literal s value => [.expr (.literal s value)]
  | .array s items => visit skip (.expr (.array s items)) (walkExprs items)
  | .map s entries => visit skip (.expr (.map s entries)) (walkEntries entries)
  | .lambda s params returns body =>
    visit skip (.expr (.lambda s params returns body)) body.walk
  | .instanceOf s operand check => visit skip (.expr (.instanceOf s operand check)) operand.walk
  | .cast s operand target origin =>
    visit skip (.expr (.cast s operand target origin)) operand.walk
  | .binary s op left right => visit skip (.expr (.binary s op left right)) (left.walk ++ right.walk)
  | .unary s op operand => visit skip (.expr (.unary s op operand)) operand.walk
  | .conditional s condition whenTrue whenFalse =>
    visit skip (.expr (.conditional s condition whenTrue whenFalse))
      (condition.walk ++ whenTrue.walk ++ whenFalse.walk)
  | .property s object name => visit skip (.expr (.property s object name)) object.walk
  | .call s callee args => visit skip (.expr (.call s callee args)) (callee.walk ++ walkExprs args)
  | .localRef s target => [.expr (.localRef s target)]
  | .fieldRef s none target => [.expr (.fieldRef s none target)]
  | .fieldRef s (some object) target =>
    visit skip (.expr (.fieldRef s (some object) target)) object.walk
  | .thisRef s decl => [.expr (.thisRef s decl)]
  | .staticRef s decl => [.expr (.staticRef s decl)]

def walkExprs : List Expr → List Node
  | [] => []
  | e :: rest => e.walk ++ walkExprs rest

def walkEntries : List (String × Expr) → List Node
  | [] => []
  | (_, e) :: rest => e.walk ++ walkEntries rest

def Block.walk : Block → List Node
  | .mk s statements => visit skip (.block (.mk s statements)) (walkStmts statements)

def walkStmts : List Stmt → List Node
  | [] => []
  | s :: rest => s.walk ++ walkStmts rest

def Stmt.walk : Stmt → List Node
  | .expression s value => visit skip (.stmt (.expression s value)) value.walk
  | .declare s target none => [.stmt (.declare s target none)]
  | .declare s target (some init) => visit skip (.stmt (.declare s target (some init))) init.walk
  | .ret s none => [.stmt (.ret s none)]
  | .ret s (some value) => visit skip (.stmt (.ret s (some value))) value.walk
  | .branch s condition body none =>
    visit skip (.stmt (.branch s condition body none)) (condition.walk ++ body.walk)
  | .branch s condition body (some alternative) =>
    visit skip (.stmt (.branch s condition body (some alternative)))
      (condition.walk ++ body.walk ++ alternative.walk)
  | .loop s condition body =>
    visit skip (.stmt (.loop s condition body)) (condition.walk ++ body.walk)
  | .foreach s target items body =>
    visit skip (.stmt (.foreach s target items body)) (items.walk ++ body.walk)

end

def Function.walk (f : Function) : List Node := visit skip (.function f) (f.body.walk skip)

def SourceFile.walk (f : SourceFile) : List Node :=
  visit skip (.file f) (f.functions.flatMap (Function.walk skip) ++
    f.main.toList.flatMap (Block.walk skip))

def Node.walk : Node → List Node
  | .file f => f.walk skip
  | .function f => f.walk skip
  | .block b => b.walk skip
  | .stmt s => s.walk skip
  | .expr e => e.walk skip

end

def Node.nodes (n : Node) : List Node := n.walk fun _ => false

def SourceFile.nodes (f : SourceFile) : List Node := (Node.file f).nodes

def Node.find? (n : Node) (id : NodeId) : Option Node := n.nodes.find? (·.id == id)

end Typeflow
