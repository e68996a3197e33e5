import Typeflow.Terminal.Paint
import Typeflow.Tree.Basic

set_option autoImplicit false

namespace Typeflow

inductive Severity where
  | warning
  | error
  | other (level : Int)
deriving DecidableEq

def Severity.text : Severity → String
  | .warning => "warning"
  | .error => "error"
  | .other level => "severity(" ++ toString level ++ ")"

inductive Container where
  | array
  | map
deriving DecidableEq

def Container.text : Container → String
  | .array => "ArrayLiteral"
  | .map => "MapLiteral"

def Container.article : Container → String
  | .array => "an"
  | .map => "a"

inductive Problem where
  | untypedVariable (name : String)
  | untypedElement (t : Ty)
  | untypedLambdaParameter (name : String)
  | emptyLiteral (c : Container)
  | mixedLiteral (c : Container) (types : List Ty)
  | noCommonType (a b : Ty)
  | noContainerTypes (path : String)
  | untypedParameter (param function : String)
  | noLiteralType (what path : String)
  | notLambda (t : Ty)
  | lambdaArity (declared wanted : Nat)
  | lambdaParameter (declared wanted : Ty)
  | variableBeforeType (name : String)
  | parameterWithoutType (name : String)
  | loopVariableWithoutType (name : String)
  | noProperty (name : String) (t : Ty)
  | unknownUnary (op : String)
  | unknownBinary (op : String)
  | notCallable (t : Ty)
  | callArity (wanted given : Nat)
  | stated (message : String)

def Problem.message : Problem → String
  | .untypedVariable name =>
    "Could not determine the type of variable " ++ name ++ ", using AnyType instead"
  | .untypedElement t =>
    "Could not determine the element type of " ++ t.described ++ ", using AnyType instead"
  | .untypedLambdaParameter name =>
    "Could not determine the type of lambda parameter " ++ name ++ ", using AnyType instead"
  | .emptyLiteral c =>
    "Could not determine the type of an empty " ++ c.text ++ ", using AnyType instead"
  | .mixedLiteral c types =>
    "Could not determine the type of " ++ c.article ++ " " ++ c.text ++
      "! Multiple types were found: " ++ ", ".intercalate (types.map Ty.text) ++
      ", using AnyType instead"
  | .noCommonType a b =>
    "Could not determine a common type for " ++ a.described ++ " and " ++ b.described ++
      ", using AnyType instead"
  | .noContainerTypes path => path ++ " does not provide the array and map literal types"
  | .untypedParameter param function => "parameter " ++ param ++ " of " ++ function ++ " has no type"
  | .noLiteralType what path => "no " ++ what ++ " literal type is registered for " ++ path
  | .notLambda t => "Expected LambdaType as Lambda's type, got " ++ t.described ++ "!"
  | .lambdaArity declared wanted =>
    "Expected " ++ toString declared ++ " parameters for lambda, but got " ++ toString wanted ++ "!"
  | .lambdaParameter declared wanted =>
    "Parameter type " ++ declared.described ++ " cannot be assigned to " ++ wanted.described ++ "."
  | .variableBeforeType name => "variable " ++ name ++ " is used before its type is known"
  | .parameterWithoutType name => "parameter " ++ name ++ " has no type"
  | .loopVariableWithoutType name => "loop variable " ++ name ++ " has no type"
  | .noProperty name t => "property " ++ name ++ " does not exist on type " ++ t.described
  | .unknownUnary op => "unknown unary operator " ++ op
  | .unknownBinary op => "unknown binary operator " ++ op
  | .notCallable t => t.described ++ " is not callable"
  | .callArity wanted given =>
    "expected " ++ toString wanted ++ " arguments, but got " ++ toString given
  | .stated message => message

structure Diagnostic where
  severity : Severity
  problem : Problem
  location : Option Location

namespace Diagnostic

def message (d : Diagnostic) : String := d.problem.message

def text (d : Diagnostic) : String :=
  match d.location with
  | none => d.severity.text ++ ": " ++ d.message
  | some l => l.text ++ ": " ++ d.severity.text ++ ": " ++ d.message

def colouredText (d : Diagnostic) : String :=
  (match d.location with
    | none => ""
    | some l => Terminal.paint "38;5;241" l.text ++ ": ") ++
  (match d.severity with
    | .error => Terminal.paint "1;38;5;196" "error:"
    | _ => Terminal.paint "1;38;5;214" "warning:") ++
  " " ++ d.message

def render (colour : Bool) (ds : List Diagnostic) : String :=
  String.join (ds.map fun d => (if colour then d.colouredText else d.text) ++ "\n")

end Diagnostic

abbrev Bag := List Diagnostic

namespace Bag

def warnings (b : Bag) : List Diagnostic := b.filter (·.severity == .warning)

def errors (b : Bag) : List Diagnostic := b.filter (·.severity == .error)

def summary (b : Bag) : String :=
  toString b.warnings.length ++ " warning(s), " ++ toString b.errors.length ++ " error(s)"

end Bag

end Typeflow
