set_option autoImplicit false

namespace Typeflow

-- A declaration is known by its name and by how many later declarations of its kind take the
-- same name, so that zero is the one that the name stands for.
structure DeclId where
  name : String
  later : Nat
deriving DecidableEq

-- Labels name the parameters of lambdas. A hole `unknown` stands for a type that is not there,
-- at any depth.
inductive Ty (Label : Type := String) where
  | unknown
  | any
  | void
  | generic (name : String)
  | cls (decl : DeclId) (args : List (Ty Label))
  | iface (decl : DeclId) (args : List (Ty Label))
  | enumeration (decl : DeclId)
  | lambda (params : List (Label × Ty Label)) (result : Ty Label)

instance : Inhabited Ty := ⟨.unknown⟩

namespace Ty

mutual

-- Structural equality. Parameter names are no part of a type, and holes equal only holes.
def equal : Ty → Ty → Bool
  | .unknown, .unknown => true
  | .any, .any => true
  | .void, .void => true
  | .generic m, .generic n => m == n
  | .cls d as, .cls e bs => d == e && equalAll as bs
  | .iface d as, .iface e bs => d == e && equalAll as bs
  | .enumeration d, .enumeration e => d == e
  | .lambda ps r, .lambda qs s => equalParams ps qs && equal r s
  | _, _ => false

def equalAll : List Ty → List Ty → Bool
  | [], [] => true
  | a :: as, b :: bs => equal a b && equalAll as bs
  | _, _ => false

def equalParams : List (String × Ty) → List (String × Ty) → Bool
  | [], [] => true
  | (_, a) :: as, (_, b) :: bs => equal a b && equalParams as bs
  | _, _ => false

end

mutual

def text : Ty → String
  | .unknown => "?"
  | .any => "any"
  | .void => "void"
  | .generic name => name
  | .cls d args => d.name ++ argsText args
  | .iface d args => d.name ++ argsText args
  | .enumeration d => d.name
  | .lambda params result => "(" ++ paramsText params ++ ") => " ++ text result

def argsText : List Ty → String
  | [] => ""
  | a :: rest => "<" ++ text a ++ moreArgsText rest ++ ">"

def moreArgsText : List Ty → String
  | [] => ""
  | a :: rest => ", " ++ text a ++ moreArgsText rest

def paramsText : List (String × Ty) → String
  | [] => ""
  | (name, t) :: rest => name ++ ": " ++ text t ++ moreParamsText rest

def moreParamsText : List (String × Ty) → String
  | [] => ""
  | (name, t) :: rest => ", " ++ name ++ ": " ++ text t ++ moreParamsText rest

end

def isUnknown : Ty → Bool
  | .unknown => true
  | _ => false

def isAny : Ty → Bool
  | .any => true
  | _ => false

def isVoid : Ty → Bool
  | .void => true
  | _ => false

def orElse : Ty → Ty → Ty
  | .unknown, t => t
  | t, _ => t

def described : Ty → String
  | .unknown => "%!s(<nil>)"
  | t => t.text

def ofParams (params : List Ty) (result : Ty) : Ty :=
  .lambda (params.mapIdx fun i t => ("p" ++ toString i, t)) result

end Ty

end Typeflow
