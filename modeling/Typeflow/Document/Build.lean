import Typeflow.Document.Declare
import Typeflow.Document.Reader
import Typeflow.Tree.Annotations

set_option autoImplicit false

namespace Typeflow.Document

structure Supply where
  node : NodeId
  next : LocalId
  types : LocalId → Ty

abbrev Build := StateT Supply (Except BuildError)

abbrev Scope := List Local

def Scope.find? (scope : Scope) (name : String) : Option Local :=
  List.find? (fun l => l.name == name) scope

structure Surroundings where
  path : String
  declarations : Declarations

def fail {α : Type} (e : BuildError) : Build α := throw e

def labelled {α : Type} (part : Part) (x : Build α) : Build α := fun s => inside part (x s)

section

variable (env : Surroundings)

def locationOf (pos : Position) : Option Location :=
  if pos.line = 0 then none else some ⟨env.path, pos.line, pos.column⟩

def freshSite (location : Option Location) : Build Site := do
  let s ← get
  set { s with node := s.node + 1 }
  return ⟨s.node, location⟩

def siteAt (pos : Position) : Build Site := freshSite (locationOf env pos)

def freshLocal (kind : LocalKind) (name : String) (type : Ty) : Build Local := do
  let s ← get
  set { s with next := s.next + 1, types := updated s.types s.next type }
  return ⟨s.next, kind, name⟩

def typeText (src : String) : Build Ty := liftM (typeOf env.declarations [] src)

def params : Scope → List ParamDoc → Build (List Local × Scope)
  | scope, [] => return ([], scope)
  | scope, p :: rest => do
    let t ← labelled (.parameter p.name) (typeText env p.type)
    let l ← freshLocal .parameter p.name t
    let (others, scope) ← params (l :: scope) rest
    return (l :: others, scope)

def literal (value : Json) (read : Json → Option Literal) (refuse : Json → BuildError) :
    Build Literal :=
  match read value with
  | some l => return l
  | none => fail (refuse value)

def stringLiteral? : Json → Option Literal
  | .string s => some (.string s)
  | _ => none

-- A number may also be written as a string.
def numericLiteral? : Json → Option Literal
  | .number digits => some (.numeric digits)
  | .string s => some (.numeric s)
  | _ => none

def booleanLiteral? : Json → Option Literal
  | .bool b => some (.boolean b)
  | _ => none

def classOf (name : String) : Build Class :=
  match env.declarations.classNamed? name with
  | some c => return c
  | none => fail (.unknownClass name)

def fieldOf (c : Class) (name : String) : Build FieldRef :=
  match c.fields.find? (·.name == name) with
  | some f => return ⟨c.id, name, f.type⟩
  | none => fail (.noSuchField c.id.name name)

mutual

def expr (scope : Scope) : ExprDoc → Build Expr
  | .string pos value => do
    let site ← siteAt env pos
    return .literal site (← literal value stringLiteral? .notString)
  | .number pos value => do
    let site ← siteAt env pos
    return .literal site (← literal value numericLiteral? .notNumber)
  | .boolean pos value => do
    let site ← siteAt env pos
    return .literal site (← literal value booleanLiteral? .notBoolean)
  | .null pos => do
    let site ← siteAt env pos
    return .literal site .null
  | .array pos items => do
    let site ← siteAt env pos
    let items ← exprs scope items
    return .array site items
  | .map pos items => do
    let site ← siteAt env pos
    let items ← entries scope items
    return .map site items
  | .lambda pos ps returns body => do
    let site ← siteAt env pos
    let (ps, inner) ← params env scope ps
    let returns ← typeText env returns
    let block ← siteAt env pos
    let statements ← stmts inner 0 body
    return .lambda site ps returns (.mk block statements)
  | .arrow pos ps returns value => do
    let site ← siteAt env pos
    let (ps, inner) ← params env scope ps
    let returns ← typeText env returns
    let block ← siteAt env pos
    let ret ← siteAt env pos
    let value ← expr inner value
    return .lambda site ps returns (.mk block [.ret ret (some value)])
  | .instanceOf pos operand type => do
    let site ← siteAt env pos
    let operand ← operandOf scope operand
    match ← typeText env type with
    | .unknown => fail .untypedTest
    | t => return .instanceOf site operand t
  | .cast pos operand type => do
    let site ← siteAt env pos
    let operand ← operandOf scope operand
    match ← typeText env type with
    | .unknown => fail .untypedCast
    | t => return .cast site operand t none
  | .binary pos op left right => do
    let site ← siteAt env pos
    let left ← operandOf scope left
    let right ← operandOf scope right
    return .binary site op left right
  | .unary pos op operand => do
    let site ← siteAt env pos
    let operand ← operandOf scope operand
    return .unary site op operand
  | .conditional pos condition whenTrue whenFalse => do
    let site ← siteAt env pos
    let condition ← operandOf scope condition
    let whenTrue ← operandOf scope whenTrue
    let whenFalse ← operandOf scope whenFalse
    return .conditional site condition whenTrue whenFalse
  | .property pos object name => do
    let site ← siteAt env pos
    let object ← operandOf scope object
    return .property site object name
  | .call pos callee args => do
    let site ← siteAt env pos
    let callee ← operandOf scope callee
    let args ← exprs scope args
    return .call site callee args
  | .ref pos name => do
    let site ← siteAt env pos
    match scope.find? name with
    | some l => return .localRef site l
    | none => fail (.undefined name)
  | .field pos cls name none => do
    let site ← siteAt env pos
    let target ← fieldOf (← classOf env cls) name
    return .fieldRef site none target
  | .field pos cls name (some object) => do
    let site ← siteAt env pos
    let target ← fieldOf (← classOf env cls) name
    let object ← expr scope object
    return .fieldRef site (some object) target
  | .this pos cls => do
    let site ← siteAt env pos
    return .thisRef site (← classOf env cls).id
  | .static pos cls => do
    let site ← siteAt env pos
    return .staticRef site (← classOf env cls).id
  | .unrecognized kind => fail (.unknownExpression kind)

def operandOf (scope : Scope) : Option ExprDoc → Build Expr
  | none => fail .missingExpression
  | some e => expr scope e

def exprs (scope : Scope) : List (Option ExprDoc) → Build (List Expr)
  | [] => return []
  | e :: rest => do
    let e ← operandOf scope e
    let rest ← exprs scope rest
    return e :: rest

def entries (scope : Scope) : List (String × Option ExprDoc) → Build (List (String × Expr))
  | [] => return []
  | (key, e) :: rest => do
    let e ← labelled (.entry key) (operandOf scope e)
    let rest ← entries scope rest
    return (key, e) :: rest

-- The statements of a block from the given index on. A variable is in force after the statement
-- that declares it, up to the end of the block.
def stmts (scope : Scope) (index : Nat) : List StmtDoc → Build (List Stmt)
  | [] => return []
  | s :: rest => do
    let (s, scope) ← labelled (.statement index) (stmt scope s)
    let rest ← stmts scope (index + 1) rest
    return s :: rest

def stmt (scope : Scope) : StmtDoc → Build (Stmt × Scope)
  | .expression pos value => do
    let site ← siteAt env pos
    let value ← operandOf scope value
    return (.expression site value, scope)
  | .declare pos name type none => do
    let site ← siteAt env pos
    let t ← typeText env type
    let l ← freshLocal .letBound name t
    return (.declare site l none, l :: scope)
  | .declare pos name type (some init) => do
    let site ← siteAt env pos
    let t ← typeText env type
    let init ← expr scope init
    let l ← freshLocal .letBound name t
    return (.declare site l (some init), l :: scope)
  | .ret pos none => do
    let site ← siteAt env pos
    return (.ret site none, scope)
  | .ret pos (some value) => do
    let site ← siteAt env pos
    let value ← expr scope value
    return (.ret site (some value), scope)
  | .branch pos condition body none => do
    let site ← siteAt env pos
    let condition ← operandOf scope condition
    let block ← freshSite none
    let body ← stmts scope 0 body
    return (.branch site condition (.mk block body) none, scope)
  | .branch pos condition body (some alternative) => do
    let site ← siteAt env pos
    let condition ← operandOf scope condition
    let block ← freshSite none
    let body ← stmts scope 0 body
    let other ← freshSite none
    let alternative ← stmts scope 0 alternative
    return (.branch site condition (.mk block body) (some (.mk other alternative)), scope)
  | .loop pos condition body => do
    let site ← siteAt env pos
    let condition ← operandOf scope condition
    let block ← freshSite none
    let body ← stmts scope 0 body
    return (.loop site condition (.mk block body), scope)
  | .foreach pos name type items body => do
    let site ← siteAt env pos
    let items ← operandOf scope items
    let t ← typeText env type
    let l ← freshLocal .loopVariable name t
    let block ← freshSite none
    let body ← stmts (l :: scope) 0 body
    return (.foreach site l items (.mk block body), scope)
  | .unrecognized kind => fail (.unknownStatement kind)

end

def function (f : FunctionDoc) : Build Function :=
  labelled (.function f.name) do
    let site ← siteAt env f.pos
    let (ps, scope) ← params env [] f.params
    let returns ← typeText env f.returns
    let block ← siteAt env f.pos
    let statements ← stmts env scope 0 f.body
    return ⟨site, f.name, ps, returns, .mk block statements⟩

def functions : List FunctionDoc → Build (List Function)
  | [] => return []
  | f :: rest => do
    let f ← function env f
    let rest ← functions rest
    return f :: rest

def mainBlock (body : List StmtDoc) : Build Block :=
  labelled .main do
    let block ← freshSite none
    let statements ← stmts env [] 0 body
    return .mk block statements

end

def literalClass (ds : Declarations) (name : String) : Except BuildError (Option DeclId) :=
  if name = "" then .ok none
  else
    match ds.classNamed? name with
    | some c => .ok (some c.id)
    | none => .error (.undeclaredLiteral name)

def literalTypes (ds : Declarations) (names : LiteralNames) : Except BuildError LiteralTypes := do
  return {
    array := ← literalClass ds names.array
    map := ← literalClass ds names.map
    string := ← literalClass ds names.string
    numeric := ← literalClass ds names.numeric
    boolean := ← literalClass ds names.boolean }

structure Built where
  file : SourceFile
  annotations : Annotations
  fresh : NodeId

def build (unit : UnitDoc) : Except BuildError Built := do
  let ds ← declarationsOf unit
  let literals ← literalTypes ds unit.literals
  let env : Surroundings := ⟨unit.path, ds⟩
  let tree : Build SourceFile := do
    let site ← freshSite none
    let functions ← functions env unit.functions
    let main ← mainBlock env unit.main
    return ⟨site, unit.path, ds, literals, functions, some main⟩
  let (file, supply) ← tree.run ⟨0, 0, fun _ => .unknown⟩
  return ⟨file, { Annotations.empty with ofLocal := supply.types }, supply.node⟩

inductive LoadError where
  | shape
  | build (path : String) (why : BuildError)

def LoadError.message (path : String) : LoadError → String
  | .shape => "decoding " ++ path
  | .build path why => "building " ++ path ++ ": " ++ why.message

def load (path : String) (j : Option Json) : Except LoadError Built :=
  match j.bind (ofJson? path) with
  | none => .error .shape
  | some unit => (build unit).mapError (.build unit.path)

end Typeflow.Document
