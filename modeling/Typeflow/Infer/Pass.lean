import Typeflow.Infer.Chain

set_option autoImplicit false

namespace Typeflow.Infer

def unlessTyped (e : Expr) (step : InferM Unit) : InferM Unit := do
  if (← actual e).isUnknown then step

section

variable (ctx : Context) (chain : Chain)

def dispatch (e : Expr) : InferM Unit := do
  chain.infer ctx e
  if (← actual e).isUnknown then throw (.leftUntyped e.kind e.location)

def suggestArgs (callee : Ty) (args : List Expr) : InferM Unit :=
  match callee with
  | .lambda params _ =>
    if params.length = args.length then
      (params.zip args).forM fun (param, arg) => suggest arg param.2
    else return ()
  | _ => return ()

def defaultLocal (location : Option Location) (problem : Problem) (l : Local) : InferM Unit := do
  if (← localType l).isUnknown then
    warn location problem
    setLocal l .any

def defaultParams (e : Expr) (params : List Local) : InferM Unit :=
  params.forM fun l => defaultLocal e.location (.untypedLambdaParameter l.name) l

-- The type that a lambda expects of what it returns: the declared one, or the one that its
-- surroundings expect, where that is not void.
def wantedReturn (returns wanted : Ty) : Ty :=
  returns.orElse <|
    match wanted with
    | .lambda _ result => if result.isVoid then .unknown else result
    | _ => .unknown

def returnType (e : Expr) : Ty → List Ty → InferM Ty
  | t, [] => return t.orElse .void
  | .unknown, found :: rest => returnType e found rest
  | t, found :: rest => do
    let t ← commonType ctx e.location t found
    returnType e t rest

-- The declared result type counts, whatever is returned.
def resultType (e : Expr) (returns : Ty) (found : List Ty) : InferM Ty :=
  if returns.isUnknown then returnType ctx e .unknown found else return returns

def finishLambda (e : Expr) (params : List Local) (returns : Ty) (found : List Ty) :
    InferM Unit := do
  let result ← resultType ctx e returns found
  let known := (← notes).ofLocal
  setActual e (.lambda (params.map fun l => (l.name, known l.id)) result)

def loopVariableType (location : Option Location) (items : Ty) : InferM Ty :=
  match ctx.literals.array.bind fun decl => soleArg? decl items with
  | some t => return t
  | none => do
    warn location (.untypedElement items)
    return .any

mutual

-- Lambdas are dispatched before their body, so that their parameters have types when the body
-- refers to them. All other expressions come after their parts.
def inferExpr : Expr → InferM Unit
  | .literal s value => unlessTyped (.literal s value) <| dispatch ctx chain (.literal s value)
  | .array s items => unlessTyped (.array s items) do
    inferExprs items
    dispatch ctx chain (.array s items)
  | .map s entries => unlessTyped (.map s entries) do
    inferEntries entries
    dispatch ctx chain (.map s entries)
  | .lambda s params returns body => unlessTyped (.lambda s params returns body) do
    let e := Expr.lambda s params returns body
    chain.infer ctx e
    defaultParams e params
    let found ← inferBlock (wantedReturn returns (← expected e)) body
    finishLambda ctx e params returns found
  | .instanceOf s operand check => unlessTyped (.instanceOf s operand check) do
    inferExpr operand
    dispatch ctx chain (.instanceOf s operand check)
  | .cast s operand target origin => unlessTyped (.cast s operand target origin) do
    inferExpr operand
    dispatch ctx chain (.cast s operand target origin)
  | .binary s op left right => unlessTyped (.binary s op left right) do
    inferExpr left
    inferExpr right
    dispatch ctx chain (.binary s op left right)
  | .unary s op operand => unlessTyped (.unary s op operand) do
    inferExpr operand
    dispatch ctx chain (.unary s op operand)
  | .conditional s condition whenTrue whenFalse =>
    unlessTyped (.conditional s condition whenTrue whenFalse) do
      inferExpr condition
      -- a container literal takes its expected type from the other branch
      if whenTrue.isContainerLiteral && !whenFalse.isContainerLiteral then
        inferExpr whenFalse
        inferExpr whenTrue
      else
        inferExpr whenTrue
        inferExpr whenFalse
      dispatch ctx chain (.conditional s condition whenTrue whenFalse)
  | .property s object name => unlessTyped (.property s object name) do
    inferExpr object
    dispatch ctx chain (.property s object name)
  | .call s callee args => unlessTyped (.call s callee args) do
    inferExpr callee
    suggestArgs (← actual callee) args
    inferExprs args
    dispatch ctx chain (.call s callee args)
  | .localRef s target => unlessTyped (.localRef s target) <| dispatch ctx chain (.localRef s target)
  | .fieldRef s none target =>
    unlessTyped (.fieldRef s none target) <| dispatch ctx chain (.fieldRef s none target)
  | .fieldRef s (some object) target => unlessTyped (.fieldRef s (some object) target) do
    inferExpr object
    dispatch ctx chain (.fieldRef s (some object) target)
  | .thisRef s decl => unlessTyped (.thisRef s decl) <| dispatch ctx chain (.thisRef s decl)
  | .staticRef s decl => unlessTyped (.staticRef s decl) <| dispatch ctx chain (.staticRef s decl)

def inferExprs : List Expr → InferM Unit
  | [] => return ()
  | e :: rest => do
    inferExpr e
    inferExprs rest

def inferEntries : List (String × Expr) → InferM Unit
  | [] => return ()
  | (_, e) :: rest => do
    inferExpr e
    inferEntries rest

def inferBlock (wanted : Ty) : Block → InferM (List Ty)
  | .mk _ statements => inferStmts wanted statements

def inferStmts (wanted : Ty) : List Stmt → InferM (List Ty)
  | [] => return []
  | s :: rest => do
    let found ← inferStmt wanted s
    let more ← inferStmts wanted rest
    return found ++ more

def inferStmt (wanted : Ty) : Stmt → InferM (List Ty)
  | .expression _ value => do
    inferExpr value
    return []
  | .declare s target none => do
    defaultLocal s.location (.untypedVariable target.name) target
    return []
  | .declare _ target (some init) => do
    suggest init (← localType target)
    inferExpr init
    if (← localType target).isUnknown then setLocal target (← actual init)
    return []
  | .ret _ none => return []
  | .ret _ (some value) => do
    suggest value wanted
    inferExpr value
    return [← actual value]
  | .branch _ condition body none => do
    inferExpr condition
    inferBlock wanted body
  | .branch _ condition body (some alternative) => do
    inferExpr condition
    let found ← inferBlock wanted body
    let more ← inferBlock wanted alternative
    return found ++ more
  | .loop _ condition body => do
    inferExpr condition
    inferBlock wanted body
  | .foreach s target items body => do
    inferExpr items
    if (← localType target).isUnknown then
      setLocal target (← loopVariableType ctx s.location (← actual items))
    inferBlock wanted body

end

def inferFunction (f : Function) : InferM Unit := do
  let known := (← notes).ofLocal
  match f.params.find? fun l => (known l.id).isUnknown with
  | some l => fatal f.site.location (.untypedParameter l.name f.name)
  | none =>
    let _ ← inferBlock ctx chain f.returns f.body

def inferFile : InferM Unit := do
  let file := ctx.file
  if file.literals.array.isNone || file.literals.map.isNone then
    fatal file.site.location (.noContainerTypes file.path)
  file.functions.forM (inferFunction ctx chain)
  match file.main with
  | none => return ()
  | some main =>
    let _ ← inferBlock ctx chain .unknown main

end

def Context.ofFile (file : SourceFile) (parents : Parents) : Context :=
  let nodes := file.nodes
  ⟨file, parents, fun id => nodes.find? (·.id == id)⟩

end Typeflow.Infer
