import Typeflow.Compile
import Typeflow.Tree.Refresh
import Typeflow.Tree.Visitor

set_option autoImplicit false

namespace Typeflow

-- Expressions that are made on the way stand beside the file and share nodes with it. A change
-- to a node shows wherever the node occurs.
structure Session where
  file : SourceFile
  detached : List Expr
  parents : Parents
  notes : Annotations
  bag : Bag
  chain : Infer.Chain
  fresh : NodeId
  mentioned : List NodeId

abbrev Explore := StateM Session

namespace Session

def start (chain : Infer.Chain) (u : Document.Built) : Session where
  file := u.file
  detached := []
  parents := Parents.link (.file u.file)
  notes := u.annotations
  bag := []
  chain := chain
  fresh := u.fresh
  mentioned := u.file.nodes.map Node.id

def node? (s : Session) (id : NodeId) : Option Node :=
  (Node.file s.file).find? id <|> s.detached.findSome? fun e => (Node.expr e).find? id

def mentioned? (s : Session) (number : Nat) : Option Node :=
  (s.mentioned[number]?).bind s.node?

def mention (id : NodeId) : Explore Nat := do
  let s ← get
  match s.mentioned.idxOf? id with
  | some number => return number
  | none =>
    set { s with mentioned := s.mentioned ++ [id] }
    return s.mentioned.length

def mentionAll : List NodeId → Explore (List Nat)
  | [] => return []
  | id :: rest => do
    let number ← mention id
    let others ← mentionAll rest
    return number :: others

def types (s : Session) : LocalId → Ty := s.notes.ofLocal

def context (s : Session) : Infer.Context := ⟨s.file, s.parents, s.node?⟩

-- Takes over the newer versions of nodes that occur below `root`.
def takeOver (root : Node) : Explore Unit :=
  modify fun s =>
    let nodes := root.nodes
    let newer := fun id => nodes.find? (·.id == id)
    { s with
      file := s.file.refresh newer
      detached := s.detached.map fun e => e.refresh newer }

def detach (e : Expr) : Explore Unit := modify fun s => { s with detached := s.detached ++ [e] }

def freshSite (location : Option Location) : Explore Site := do
  let s ← get
  set { s with fresh := s.fresh + 1 }
  return ⟨s.fresh, location⟩

def newCast (e : Expr) (target : Ty) : Explore Expr := do
  return .cast (← freshSite none) e target none

def castOf (e : Expr) (target : Ty) : Explore Expr := do
  let cast ← newCast e target
  detach cast
  return cast

-- A cast on behalf of a test, which takes the expression's place in the parent table.
def wrapFor (test : NodeId) (check : Ty) (e : Expr) : Explore Expr := do
  let cast := Expr.cast (← freshSite e.location) e check (some test)
  modify fun s => { s with parents := s.parents.wrap e.id cast.id }
  detach cast
  return cast

structure Replaced where
  exprs : List (NodeId × NodeId)
  blocks : List NodeId

def castingVisitor (target : Ty) : Visitor (StateT Replaced Explore) where
  expr e := do
    let cast ← liftM (newCast e target)
    modify fun r => { r with exprs := r.exprs ++ [(e.id, cast.id)] }
    return cast
  block b := modify fun r => { r with blocks := r.blocks ++ [b.site.id] }

def castChildren (n : Node) (target : Ty) : Explore (Option (Node × Replaced)) := do
  match n with
  | .expr e =>
    let (e, replaced) ← ((castingVisitor target).children e).run ⟨[], []⟩
    takeOver (.expr e)
    return some (.expr e, replaced)
  | .stmt st =>
    let (st, replaced) ← ((castingVisitor target).statement st).run ⟨[], []⟩
    takeOver (.stmt st)
    return some (.stmt st, replaced)
  | _ => return none

def infer {α : Type} (step : Infer.InferM α) :
    Explore (Except Infer.Failure α) := do
  let s ← get
  let (outcome, p) := step.run.run ⟨s.notes, s.bag, []⟩
  set { s with notes := p.notes, bag := p.bag }
  return outcome

def inferFile (ownTable : Bool) (chain : Infer.Chain) : Explore (Except Infer.Failure Unit) := do
  let s ← get
  let parents := if ownTable then Parents.link (.file s.file) else s.parents
  let ctx := { s.context with parents := parents }
  infer (Infer.inferFile ctx chain)

def narrow {α : Type} (ownTable : Option Node)
    (pass : (NodeId → Option Node) → Narrow.NarrowM α) :
    Explore (α × List Narrow.Fact) := do
  let s ← get
  let parents := (ownTable.map Parents.link).getD s.parents
  let (out, p) := (pass s.node?).run (Narrow.start s.fresh parents s.notes)
  set { s with
    fresh := p.fresh
    notes := p.notes
    parents := if ownTable.isSome then s.parents else p.parents }
  return (out, p.findings)

def narrowFile (ownTable : Bool) : Explore (List Narrow.Fact) := do
  let s ← get
  let root := if ownTable then some (Node.file s.file) else none
  let (file, facts) ← narrow root fun node? => Narrow.narrowFile node? s.file
  modify fun s => { s with file := file }
  takeOver (.file file)
  return facts

def narrowExpr (ownTable : Bool) (e : Expr) : Explore (Expr × List Narrow.Fact) := do
  let root := if ownTable then some (Node.expr e) else none
  let (out, facts) ← narrow root fun node? => Narrow.narrowExpr node? e
  takeOver (.expr out)
  detach out
  return (out, facts)

def isTarget (s : Session) (e : Expr) : Bool := Narrow.isTarget s.node? s.parents e.id

def report (d : Diagnostic) : Explore Unit := modify fun s => { s with bag := s.bag ++ [d] }

end Session

end Typeflow
