import Typeflow.Tree.Printer

set_option autoImplicit false

namespace Typeflow

inductive Event where
  | linked (nodes : Nat)
  | narrowing (subject : Expr) (types : LocalId → Ty) (check : Ty) (depth : Nat)
  | narrowed (facts casts : Nat)
  | inferred (plugin : String) (subject : Expr) (types : LocalId → Ty) (type : Ty)
  | diagnostics

abbrev Trace := List Event

def Ty.recorded : Ty → String
  | .unknown => "<nil>"
  | t => t.text

def Event.text (path : String) : Event → String
  | .linked nodes => "linked parents unit=" ++ path ++ " nodes=" ++ toString nodes
  | .narrowing subject types check depth =>
    "narrowing unit=" ++ path ++ " file=" ++ path ++ " pass=narrow expr=" ++ subject.text types 0 ++
      " to=" ++ check.recorded ++ " depth=" ++ toString depth
  | .narrowed facts casts =>
    "narrowed unit=" ++ path ++ " facts=" ++ toString facts ++ " casts=" ++ toString casts
  | .inferred plugin subject types type =>
    "inferred unit=" ++ path ++ " file=" ++ path ++ " pass=infer plugin=" ++ plugin ++ " expr=" ++
      subject.text types 0 ++ " type=" ++ type.recorded
  | .diagnostics => "diagnostics unit=" ++ path

end Typeflow
