import Typeflow.Json
import Typeflow.Type.Parser

set_option autoImplicit false

namespace Typeflow.Document

open Text

inductive NameError where
  | unknown (name : Bytes)
  | takesNoArguments (name : String)
  | arity (name : String) (expected given : Nat)

def NameError.message : NameError → String
  | .unknown name => "unknown type " ++ lossy name
  | .takesNoArguments name => "type parameter " ++ name ++ " takes no arguments"
  | .arity name expected given =>
    name ++ " expects " ++ toString expected ++ " type arguments, got " ++ toString given

inductive Part where
  | cls (name : String)
  | interface (name : String)
  | field (name : String)
  | function (name : String)
  | main
  | statement (index : Nat)
  | parameter (name : String)
  | entry (key : String)

def Part.text : Part → String
  | .cls name => "class " ++ name
  | .interface name => "interface " ++ name
  | .field name => "field " ++ name
  | .function name => "function " ++ name
  | .main => "main"
  | .statement index => "statement " ++ toString index
  | .parameter name => "parameter " ++ name
  | .entry key => "entry " ++ key

inductive BuildError where
  | within (part : Part) (inner : BuildError)
  | malformedType (src : String) (why : Ty.Malformed) (rest : Bytes)
  | unresolvedName (why : NameError)
  | baseNotClass (t : Ty)
  | baseNotInterface (t : Ty)
  | notInterface (t : Ty)
  | untypedField (name : String)
  | inheritanceCycle (part : Part)
  | undeclaredLiteral (name : String)
  | missingExpression
  | notString (value : Json)
  | notNumber (value : Json)
  | notBoolean (value : Json)
  | untypedTest
  | untypedCast
  | unknownClass (name : String)
  | noSuchField (cls name : String)
  | undefined (name : String)
  | unknownStatement (kind : String)
  | unknownExpression (kind : String)

def BuildError.message : BuildError → String
  | .within part inner => part.text ++ ": " ++ inner.message
  | .malformedType src why rest => why.report src rest
  | .unresolvedName why => why.message
  | .baseNotClass t => "base " ++ t.described ++ " is not a class"
  | .baseNotInterface t => "base " ++ t.described ++ " is not an interface"
  | .notInterface t => t.described ++ " is not an interface"
  | .untypedField name => "field " ++ name ++ " has no type"
  | .inheritanceCycle part => part.text ++ ": inheritance cycle"
  | .undeclaredLiteral name => "literal class " ++ name ++ " is not declared"
  | .missingExpression => "missing expression"
  | .notString value => "string literal value " ++ value.described ++ " is not a string"
  | .notNumber value => "numeric literal value " ++ value.described ++ " is not a number"
  | .notBoolean value => "boolean literal value " ++ value.described ++ " is not a bool"
  | .untypedTest => "instanceof without a type"
  | .untypedCast => "cast without a type"
  | .unknownClass name => "unknown class " ++ quote name
  | .noSuchField cls name => "class " ++ cls ++ " has no field " ++ name
  | .undefined name => "undefined: " ++ name
  | .unknownStatement kind => "unknown statement kind " ++ quote kind
  | .unknownExpression kind => "unknown expression kind " ++ quote kind

def inside {α : Type} (part : Part) (x : Except BuildError α) : Except BuildError α :=
  x.mapError (.within part)

end Typeflow.Document
