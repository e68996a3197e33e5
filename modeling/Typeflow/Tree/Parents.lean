import Typeflow.Tree.Node

set_option autoImplicit false

namespace Typeflow

structure Parents where
  links : List (NodeId × NodeId)

namespace Parents

def empty : Parents := ⟨[]⟩

def parent? (p : Parents) (child : NodeId) : Option NodeId := p.links.lookup child

def size (p : Parents) : Nat := p.links.length

def setLink (child parent : NodeId) : List (NodeId × NodeId) → List (NodeId × NodeId)
  | [] => [(child, parent)]
  | (c, q) :: rest =>
    if c == child then (c, parent) :: rest else (c, q) :: setLink child parent rest

def set (p : Parents) (child parent : NodeId) : Parents := ⟨setLink child parent p.links⟩

def link (root : Node) : Parents :=
  root.nodes.foldl (fun p n => n.children.foldl (fun p c => p.set c.id n.id) p) empty

-- Records that `wrapper` took the place of `old`, which is now below it.
def wrap (p : Parents) (old wrapper : NodeId) : Parents :=
  (match p.parent? old with
    | some parent => p.set wrapper parent
    | none => p).set old wrapper

end Parents

end Typeflow
