import Typeflow.Infer.Basic

set_option autoImplicit false

namespace Typeflow.Infer

-- A rule says nothing about most parents. Where it applies it may still yield a hole, when the
-- type it relies on is not known.
structure ExpectationRule where
  name : String
  expects? : Annotations → Expr → Node → Option Ty

def castRule : ExpectationRule where
  name := "cast"
  expects? _ _
    | .expr (.cast _ _ target _) => some target
    | _ => none

def assignmentRule : ExpectationRule where
  name := "assignment"
  expects? notes e
    | .expr (.binary _ op left right) =>
      if isAssignment op && right.id == e.id then some (notes.actual left.id) else none
    | _ => none

def conditionalRule : ExpectationRule where
  name := "conditional"
  expects? notes e
    | .expr (.conditional _ _ whenTrue whenFalse) =>
      if whenTrue.id == e.id then some (notes.actual whenFalse.id)
      else if whenFalse.id == e.id then some (notes.actual whenTrue.id)
      else none
    | _ => none

def expectationRules : List ExpectationRule := [castRule, assignmentRule, conditionalRule]

def expectedFrom? (notes : Annotations) (e : Expr) (parent : Node) : Option Ty :=
  expectationRules.findSome? fun rule => rule.expects? notes e parent

-- The expected type of an expression. Where none is noted yet, the parent is asked and its
-- answer is noted.
def propagate (ctx : Context) (e : Expr) : InferM Ty := do
  match ← expected e with
  | .unknown =>
    match (ctx.parents.parent? e.id).bind ctx.node? with
    | none => return .unknown
    | some parent =>
      let t := (expectedFrom? (← notes) e parent).getD .unknown
      suggest e t
      return t
  | t => return t

end Typeflow.Infer
