import Typeflow.Narrow.SameValue
import Typeflow.Trace
import Typeflow.Tree.Parents

set_option autoImplicit false

namespace Typeflow.Narrow

-- A test holds from where it stands to the end of the innermost scope around it. The condition
-- and the body of a branch or loop share a scope, so do the condition and the first branch of a
-- conditional. Every other statement, and every other expression apart from `&&` and tests, is
-- a scope of its own.
structure Fact where
  test : Expr
  subject : Expr
  check : Ty
  casts : List Expr

inductive Fault where
  | notEntered
  | leftOpen (count : Nat)
  | alreadyTyped (current new : Ty)

def Fault.message : Fault → String
  | .notEntered => "exit without enter: unbalanced narrowing scopes"
  | .leftOpen count => toString count ++ " scope(s) left open: unbalanced narrowing scopes"
  | .alreadyTyped current new =>
    "current " ++ current.described ++ ", new " ++ new.described ++
      ": expression already has an actual type"

structure Progress where
  fresh : NodeId
  -- The scopes that are open, the innermost first, each with the facts that were found in it.
  scopes : List (List Fact)
  facts : List Fact
  casts : List (NodeId × Expr)
  parents : Parents
  notes : Annotations
  trace : Trace
  fault : Option Fault

namespace Progress

def failing (p : Progress) (why : Fault) : Progress := { p with fault := p.fault <|> some why }

def entered (p : Progress) : Progress := { p with scopes := [] :: p.scopes }

def left (p : Progress) : Progress :=
  match p.scopes with
  | [] => p.failing .notEntered
  | _ :: outer => { p with scopes := outer }

-- Outside of any scope nothing depends on a test.
def learned (p : Progress) (test subject : Expr) (check : Ty) : Progress :=
  match p.scopes with
  | [] => p
  | found :: outer =>
    let fact : Fact := ⟨test, subject, check, []⟩
    { p with
      scopes := (found ++ [fact]) :: outer
      facts := p.facts ++ [fact]
      trace := p.trace ++ [.narrowing subject p.notes.ofLocal check p.scopes.length] }

def active (p : Progress) : List Fact := p.scopes.reverse.flatten

def typed (p : Progress) (id : NodeId) (t : Ty) : Progress :=
  match p.notes.actual id with
  | .unknown => { p with notes := p.notes.setActual id t }
  | current => p.failing (.alreadyTyped current t)

-- A cast takes the place of `e`. It has a type if `e` has one.
def wrapped (p : Progress) (fact : Fact) (e cast : Expr) : Progress :=
  let p := if (p.notes.actual e.id).isUnknown then p else p.typed cast.id fact.check
  { p with
    fresh := p.fresh + 1
    casts := p.casts ++ [(fact.test.id, cast)]
    parents := p.parents.wrap e.id cast.id
    notes := p.notes.addImplicitCast fact.test.id cast.id }

def outcome (p : Progress) : Option Fault :=
  p.fault <|> if p.scopes.isEmpty then none else some (.leftOpen p.scopes.length)

end Progress

abbrev NarrowM := StateM Progress

def inScope {α : Type} (body : NarrowM α) : NarrowM α := do
  modify Progress.entered
  let result ← body
  modify Progress.left
  return result

def learn (test subject : Expr) (check : Ty) : NarrowM Unit :=
  modify fun p => p.learned test subject check

def castFor (fact : Fact) (e : Expr) (id : NodeId) : Expr :=
  .cast ⟨id, e.location⟩ e fact.check (some fact.test.id)

def wrap (fact : Fact) (e : Expr) : NarrowM Expr := do
  let cast := castFor fact e (← get).fresh
  modify fun p => p.wrapped fact e cast
  return cast

section

-- The nodes under their numbers, as they were before the pass.
variable (node? : NodeId → Option Node)

def isTarget (parents : Parents) (id : NodeId) : Bool :=
  match (parents.parent? id).bind node? with
  | some (.expr (.binary _ op left _)) => isAssignment op && left.id == id
  | _ => false

-- Casts an expression that the earliest active fact is about. Targets of assignments keep their
-- declared type.
def settle (e : Expr) : NarrowM Expr := do
  let p ← get
  if isTarget node? p.parents e.id then return e
  else
    match p.active.find? fun f => e.sameValue f.subject with
    | none => return e
    | some fact => wrap fact e

mutual

def narrowExpr : Expr → NarrowM Expr
  | .instanceOf s operand check => do
    let operand ← narrowExpr operand
    learn (.instanceOf s operand check) operand check
    return .instanceOf s operand check
  | .binary s op left right =>
    if op = "&&" then do
      let left ← narrowExpr left
      let right ← narrowExpr right
      return .binary s op left right
    else do
      let (left, right) ← inScope do
        let left ← narrowExpr left
        let right ← narrowExpr right
        return (left, right)
      settle node? (.binary s op left right)
  | .conditional s condition whenTrue whenFalse => do
    let (condition, whenTrue) ← inScope do
      let condition ← narrowExpr condition
      let whenTrue ← narrowExpr whenTrue
      return (condition, whenTrue)
    let whenFalse ← narrowExpr whenFalse
    return .conditional s condition whenTrue whenFalse
  | .literal s value => settle node? (.literal s value)
  | .array s items => do
    let items ← inScope <| narrowExprs items
    settle node? (.array s items)
  | .map s entries => do
    let entries ← inScope <| narrowEntries entries
    settle node? (.map s entries)
  | .lambda s params returns body => do
    let body ← inScope <| narrowBlock body
    settle node? (.lambda s params returns body)
  | .cast s operand target origin => do
    let operand ← inScope <| narrowExpr operand
    settle node? (.cast s operand target origin)
  | .unary s op operand => do
    let operand ← inScope <| narrowExpr operand
    settle node? (.unary s op operand)
  | .property s object name => do
    let object ← inScope <| narrowExpr object
    settle node? (.property s object name)
  | .call s callee args => do
    let (callee, args) ← inScope do
      let callee ← narrowExpr callee
      let args ← narrowExprs args
      return (callee, args)
    settle node? (.call s callee args)
  | .localRef s target => settle node? (.localRef s target)
  | .fieldRef s none target => settle node? (.fieldRef s none target)
  | .fieldRef s (some object) target => do
    let object ← inScope <| narrowExpr object
    settle node? (.fieldRef s (some object) target)
  | .thisRef s decl => settle node? (.thisRef s decl)
  | .staticRef s decl => settle node? (.staticRef s decl)

def narrowExprs : List Expr → NarrowM (List Expr)
  | [] => return []
  | e :: rest => do
    let e ← narrowExpr e
    let rest ← narrowExprs rest
    return e :: rest

def narrowEntries : List (String × Expr) → NarrowM (List (String × Expr))
  | [] => return []
  | (key, e) :: rest => do
    let e ← narrowExpr e
    let rest ← narrowEntries rest
    return (key, e) :: rest

def narrowBlock : Block → NarrowM Block
  | .mk s statements => do
    let statements ← narrowStmts statements
    return .mk s statements

def narrowStmts : List Stmt → NarrowM (List Stmt)
  | [] => return []
  | s :: rest => do
    let s ← narrowStmt s
    let rest ← narrowStmts rest
    return s :: rest

def narrowStmt : Stmt → NarrowM Stmt
  | .expression s value => do
    let value ← inScope <| narrowExpr value
    return .expression s value
  | .declare s target none => return .declare s target none
  | .declare s target (some init) => do
    let init ← inScope <| narrowExpr init
    return .declare s target (some init)
  | .ret s none => return .ret s none
  | .ret s (some value) => do
    let value ← inScope <| narrowExpr value
    return .ret s (some value)
  | .branch s condition body none => do
    let (condition, body) ← inScope do
      let condition ← narrowExpr condition
      let body ← narrowBlock body
      return (condition, body)
    return .branch s condition body none
  | .branch s condition body (some alternative) => do
    let (condition, body) ← inScope do
      let condition ← narrowExpr condition
      let body ← narrowBlock body
      return (condition, body)
    -- a test that holds says nothing about the other branch
    let alternative ← narrowBlock alternative
    return .branch s condition body (some alternative)
  | .loop s condition body => do
    let (condition, body) ← inScope do
      let condition ← narrowExpr condition
      let body ← narrowBlock body
      return (condition, body)
    return .loop s condition body
  | .foreach s target items body => do
    let (items, body) ← inScope do
      let items ← narrowExpr items
      let body ← narrowBlock body
      return (items, body)
    return .foreach s target items body

end

def narrowFunctions : List Function → NarrowM (List Function)
  | [] => return []
  | f :: rest => do
    let body ← narrowBlock node? f.body
    let rest ← narrowFunctions rest
    return { f with body := body } :: rest

def narrowFile (file : SourceFile) : NarrowM SourceFile := do
  let functions ← narrowFunctions node? file.functions
  match file.main with
  | none => return { file with functions := functions }
  | some main =>
    let main ← narrowBlock node? main
    return { file with functions := functions, main := some main }

end

def start (fresh : NodeId) (parents : Parents) (notes : Annotations) : Progress :=
  ⟨fresh, [], [], [], parents, notes, [], none⟩

def Progress.findings (p : Progress) : List Fact :=
  p.facts.map fun f =>
    { f with casts := (p.casts.filter (·.1 == f.test.id)).map Prod.snd }

def castCount (facts : List Fact) : Nat := facts.foldl (fun count f => count + f.casts.length) 0

end Typeflow.Narrow
