import Typeflow.Proofs.SameValue
import Typeflow.Proofs.Tree

set_option autoImplicit false

namespace Typeflow

structure Test where
  site : Site
  operand : Expr
  check : Ty

def Test.expr (t : Test) : Expr := .instanceOf t.site t.operand t.check

def Test.id (t : Test) : NodeId := t.site.id

namespace Node

-- The children whose tests count as tests of whatever the node is part of.
def transparent : Node → List Node
  | .expr (.binary _ op left right) => if op = "&&" then [.expr left, .expr right] else []
  | .expr (.instanceOf _ operand _) => [.expr operand]
  | .expr (.conditional _ _ _ whenFalse) => [.expr whenFalse]
  | _ => []

def scope : Node → List Node
  | .expr (.binary _ op left right) => if op = "&&" then [] else [.expr left, .expr right]
  | .expr (.instanceOf ..) => []
  | .expr (.conditional _ condition whenTrue _) => [.expr condition, .expr whenTrue]
  | .expr e => e.children
  | .stmt (.branch _ condition body _) => [.expr condition, .block body]
  | .stmt s => s.children
  | _ => []

end Node

-- Climbing from the expression reaches the node through transparent children only.
inductive Climbs (e : Expr) : Node → Prop
  | here : Climbs e (.expr e)
  | up (n c : Node) (child : c ∈ n.transparent) (below : Climbs e c) : Climbs e n

def Home (h : Node) (e : Expr) : Prop := ∃ c ∈ h.scope, Climbs e c

def Active (root : Node) (test e : Expr) : Prop :=
  ∃ h ∈ root.nodes, Home h test ∧ [test, e].Sublist (h.scope.flatMap Node.visits)

def AssignmentTarget (root : Node) (e : Expr) : Prop :=
  ∃ s op right, .expr (.binary s op e right) ∈ root.nodes ∧ isAssignment op

def Expr.isProperty : Expr → Bool
  | .property .. => true
  | _ => false

-- The scope rules: a reference or property access that is no target of an assignment is cast on
-- behalf of the earliest test of the same value that holds there.
structure Prescribed (root : Node) (e : Expr) (t : Test) : Prop where
  form : e.isReference || e.isProperty
  notTarget : ¬ AssignmentTarget root e
  active : Active root t.expr e
  same : e.sameValue t.operand
  earliest : ∀ u : Test, Active root u.expr e → e.sameValue u.operand → u = t ∨ [t.expr, u.expr].Sublist root.visits

end Typeflow
