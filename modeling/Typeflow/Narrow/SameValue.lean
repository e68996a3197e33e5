import Typeflow.Tree.Basic

set_option autoImplicit false

namespace Typeflow

-- Any two mentions of `this` are the same value, and so are any two of the class itself. Calls,
-- operators, literals and written casts are never the same, whatever they look like.
def Expr.sameValue : Expr → Expr → Bool
  | .cast _ a _ (some _), b => a.sameValue b
  | .property _ a name, b =>
    match b.unwrapped with
    | .property _ b other => name == other && a.sameValue b
    | _ => false
  | .localRef _ target, b =>
    match b.unwrapped with
    | .localRef _ other => target == other
    | _ => false
  | .fieldRef _ _ target, b =>
    match b.unwrapped with
    | .fieldRef _ _ other => target.same other
    | _ => false
  | .thisRef .., b =>
    match b.unwrapped with
    | .thisRef .. => true
    | _ => false
  | .staticRef .., b =>
    match b.unwrapped with
    | .staticRef .. => true
    | _ => false
  | _, _ => false

end Typeflow
