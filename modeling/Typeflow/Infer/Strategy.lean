import Typeflow.Infer.Expectation

set_option autoImplicit false

namespace Typeflow.Infer

inductive Strategy where
  | literals
  | containerLiterals
  | lambdaParams
  | references
  | members
  | casts
  | operators
  | calls
deriving DecidableEq

namespace Strategy

def all : List Strategy :=
  [.literals, .containerLiterals, .lambdaParams, .references, .members, .casts, .operators, .calls]

def name : Strategy → String
  | .literals => "Literals"
  | .containerLiterals => "ContainerLiterals"
  | .lambdaParams => "LambdaParams"
  | .references => "References"
  | .members => "Members"
  | .casts => "Casts"
  | .operators => "Operators"
  | .calls => "Calls"

-- The kinds of expression that a strategy says it can infer.
def kinds : Strategy → List Kind
  | .literals => [.stringLiteral, .numericLiteral, .booleanLiteral, .nullLiteral]
  | .containerLiterals => [.arrayLiteral, .mapLiteral]
  | .lambdaParams => [.lambda]
  | .references => [.variableRef, .parameterRef, .foreachVariableRef, .instanceFieldRef, .thisRef, .staticThisRef]
  | .members => [.propertyAccess]
  | .casts => [.cast, .instanceOf]
  | .operators => [.unary, .binary, .conditional]
  | .calls => [.call]

def claims (s : Strategy) (kind : Kind) : Bool := s.kinds.contains kind

end Strategy

def setType (e : Expr) : Ty → InferM Bool
  | .unknown => return false
  | t => do
    setActual e t
    return true

def setLiteralType (ctx : Context) (e : Expr) (decl : Option DeclId) (what : String) :
    InferM Bool :=
  match decl with
  | some decl => setType e (.cls decl [])
  | none => fatal e.location (.noLiteralType what ctx.file.path)

def setString (ctx : Context) (e : Expr) : InferM Bool :=
  setLiteralType ctx e ctx.literals.string "string"

def setNumeric (ctx : Context) (e : Expr) : InferM Bool :=
  setLiteralType ctx e ctx.literals.numeric "numeric"

def setBoolean (ctx : Context) (e : Expr) : InferM Bool :=
  setLiteralType ctx e ctx.literals.boolean "boolean"

def inferLiteral (ctx : Context) (e : Expr) : Literal → InferM Bool
  | .string _ => setString ctx e
  | .numeric _ => setNumeric ctx e
  | .boolean _ => setBoolean ctx e
  | .null => setType e .any

def distinctTypes (types : List Ty) : List Ty :=
  types.foldl (fun seen t => if seen.any (·.equal t) then seen else seen ++ [t]) []

def soleArg? (decl : DeclId) : Ty → Option Ty
  | .cls d [arg] => if d = decl then some arg else none
  | _ => none

def elementType (c : Container) (decl : DeclId) (expected : Ty) (items : List Ty) :
    Ty × Option Problem :=
  match distinctTypes items with
  | [] =>
    if expected.isUnknown then (.any, some (.emptyLiteral c))
    else ((soleArg? decl expected).getD .any, none)
  | [t] => (t, none)
  | types => if expected.isAny then (.any, none) else (.any, some (.mixedLiteral c types))

def inferContainer (ctx : Context) (e : Expr) (c : Container) (decl : Option DeclId)
    (what : String) (items : List Expr) : InferM Bool := do
  let wanted ← propagate ctx e
  match decl with
  | none => fatal e.location (.noLiteralType what ctx.file.path)
  | some decl =>
    let known := (← notes).actual
    let (t, problem) := elementType c decl wanted (items.map fun item => known item.id)
    match problem with
    | some problem => warn e.location problem
    | none => pure ()
    setType e (.cls decl [t])

def matchParams (ctx : Context) (e : Expr) : List Local → List (String × Ty) → InferM Unit
  | l :: rest, (_, wanted) :: others => do
    let declared ← localType l
    if declared.isUnknown then setLocal l wanted
    else if !ctx.declarations.assignable declared wanted then
      fatal e.location (.lambdaParameter declared wanted)
    matchParams ctx e rest others
  | _, _ => return ()

def inferLambdaParams (ctx : Context) (e : Expr) (params : List Local) : InferM Bool := do
  match ← propagate ctx e with
  | .unknown => return true
  | .lambda wanted _ =>
    if wanted.length != params.length then
      fatal e.location (.lambdaArity params.length wanted.length)
    matchParams ctx e params wanted
    return true
  | t => fatal e.location (.notLambda t)

def untypedLocal (l : Local) : Problem :=
  match l.kind with
  | .letBound => .variableBeforeType l.name
  | .parameter => .parameterWithoutType l.name
  | .loopVariable => .loopVariableWithoutType l.name

def inferLocalRef (e : Expr) (target : Local) : InferM Bool := do
  match ← localType target with
  | .unknown => fatal e.location (untypedLocal target)
  | t => setType e t

def fieldType (ds : Declarations) (field : FieldRef) (object : Ty) : Ty :=
  field.type.substitute (ds.bindings object)

def inferFieldRef (ctx : Context) (e : Expr) (object : Option Expr) (target : FieldRef) :
    InferM Bool := do
  match object with
  | none => setType e target.type
  | some object => setType e (fieldType ctx.declarations target (← actual object))

def inferProperty (ctx : Context) (e object : Expr) (name : String) : InferM Bool := do
  match ← actual object with
  | .any => setType e .any
  | t =>
    match ctx.declarations.member? t name with
    | some found => setType e found.type
    | none => fatal e.location (.noProperty name t)

inductive BinaryRule where
  | assignment
  | boolean
  | addition
  | arithmetic
deriving DecidableEq

def binaryRule? : String → Option BinaryRule
  | "=" => some .assignment
  | "&&" => some .boolean
  | "||" => some .boolean
  | "==" => some .boolean
  | "!=" => some .boolean
  | "===" => some .boolean
  | "!==" => some .boolean
  | "<" => some .boolean
  | ">" => some .boolean
  | "<=" => some .boolean
  | ">=" => some .boolean
  | "+" => some .addition
  | "-" => some .arithmetic
  | "*" => some .arithmetic
  | "/" => some .arithmetic
  | "%" => some .arithmetic
  | _ => none

def isClass (decl : Option DeclId) : Ty → Bool
  | .cls d _ => decl == some d
  | _ => false

def inferBinary (ctx : Context) (e : Expr) (op : String) (left right : Expr) : InferM Bool := do
  match binaryRule? op with
  | some .assignment => setType e (← actual left)
  | some .boolean => setBoolean ctx e
  | some .addition =>
    let l ← actual left
    let r ← actual right
    if isClass ctx.literals.string l || isClass ctx.literals.string r then setString ctx e
    else setNumeric ctx e
  | some .arithmetic => setNumeric ctx e
  | none => fatal e.location (.unknownBinary op)

def inferUnary (ctx : Context) (e : Expr) : String → InferM Bool
  | "!" => setBoolean ctx e
  | "-" => setNumeric ctx e
  | "+" => setNumeric ctx e
  | op => fatal e.location (.unknownUnary op)

def inferConditional (ctx : Context) (e whenTrue whenFalse : Expr) : InferM Bool := do
  let a ← actual whenTrue
  let b ← actual whenFalse
  setType e (← commonType ctx e.location a b)

def inferCall (e callee : Expr) (args : List Expr) : InferM Bool := do
  match ← actual callee with
  | .any => setType e .any
  | .lambda params result =>
    if params.length != args.length then
      fatal e.location (.callArity params.length args.length)
    setType e (result.orElse .void)
  | t => fatal e.location (.notCallable t)

def Strategy.infer (s : Strategy) (ctx : Context) (e : Expr) : InferM Bool :=
  match s, e with
  | .literals, .literal _ value => inferLiteral ctx e value
  | .containerLiterals, .array _ items =>
    inferContainer ctx e .array ctx.literals.array "array" items
  | .containerLiterals, .map _ entries =>
    inferContainer ctx e .map ctx.literals.map "map" (entries.map Prod.snd)
  | .lambdaParams, .lambda _ params _ _ => inferLambdaParams ctx e params
  | .references, .localRef _ target => inferLocalRef e target
  | .references, .fieldRef _ object target => inferFieldRef ctx e object target
  | .references, .thisRef _ decl => setType e (ctx.declarations.selfType decl)
  | .references, .staticRef _ decl => setType e (ctx.declarations.selfType decl)
  | .members, .property _ object name => inferProperty ctx e object name
  | .casts, .cast _ _ target _ => setType e target
  | .casts, .instanceOf .. => setBoolean ctx e
  | .operators, .unary _ op _ => inferUnary ctx e op
  | .operators, .binary _ op left right => inferBinary ctx e op left right
  | .operators, .conditional _ _ whenTrue whenFalse => inferConditional ctx e whenTrue whenFalse
  | .calls, .call _ callee args => inferCall e callee args
  | _, _ => return false

end Typeflow.Infer
