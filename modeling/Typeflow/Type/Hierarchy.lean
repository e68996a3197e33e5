import Typeflow.Type.Declarations

set_option autoImplicit false

namespace Typeflow

-- Walks from base to base with the classes seen so far, and says whether it comes to one of them again.
-- A walk that sees no class twice is no longer than the list of classes, which bounds the fuel.
def loops (base? : DeclId → Option DeclId) : Nat → List DeclId → DeclId → Bool
  | 0, _, _ => true
  | fuel + 1, seen, id =>
    match base? id with
    | none => false
    | some base => seen.contains id || loops base? fuel (id :: seen) base

inductive Mark where
  | visiting
  | done
deriving DecidableEq

-- What a search knows of each interface; nothing before it first comes there.
abbrev Marks := DeclId → Option Mark

def Marks.set (marks : Marks) (id : DeclId) (mark : Mark) : Marks :=
  fun other => if other == id then some mark else marks other

-- The marks that one visit leaves are those that the next one finds.
def firstCyclic (cyclic : DeclId → StateM Marks Bool) : List DeclId → StateM Marks (Option DeclId)
  | [] => return none
  | id :: rest => do
    if ← cyclic id then return some id
    firstCyclic cyclic rest

-- Whether a search in depth comes back to an interface that it is still visiting. The interfaces it is
-- visiting are all different, so their number bounds the fuel.
def cyclic (bases : DeclId → List DeclId) : Nat → DeclId → StateM Marks Bool
  | 0, _ => return true
  | fuel + 1, id => do
    match (← get) id with
    | some .visiting => return true
    | some .done => return false
    | none =>
      modify (·.set id .visiting)
      if (← firstCyclic (cyclic bases fuel) (bases id)).isSome then return true
      modify (·.set id .done)
      return false

namespace Declarations

def baseClass? (ds : Declarations) (id : DeclId) : Option DeclId :=
  ((ds.class? id).bind Class.base).map Applied.decl

def baseInterfaces (ds : Declarations) (id : DeclId) : List DeclId :=
  ((ds.interface? id).map Interface.bases).getD [] |>.map Applied.decl

-- The first class whose chain of base classes does not end.
def cyclicClass? (ds : Declarations) : Option DeclId :=
  (ds.classes.map Class.id).find? (loops ds.baseClass? (ds.classes.length + 1) [])

-- The first interface from which the search finds a cycle.
def cyclicInterface? (ds : Declarations) : Option DeclId :=
  (firstCyclic (cyclic ds.baseInterfaces (ds.interfaces.length + 1)) (ds.interfaces.map Interface.id) fun _ => none).1

end Declarations

end Typeflow
