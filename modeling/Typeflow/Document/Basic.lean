import Typeflow.Json

set_option autoImplicit false

namespace Typeflow.Document

-- Line zero means no position.
structure Position where
  line : Int
  column : Int

structure ParamDoc where
  name : String
  type : String

mutual

inductive ExprDoc where
  | string (pos : Position) (value : Json)
  | number (pos : Position) (value : Json)
  | boolean (pos : Position) (value : Json)
  | null (pos : Position)
  | array (pos : Position) (items : List (Option ExprDoc))
  | map (pos : Position) (entries : List (String × Option ExprDoc))
  | lambda (pos : Position) (params : List ParamDoc) (returns : String) (body : List StmtDoc)
  | arrow (pos : Position) (params : List ParamDoc) (returns : String) (value : ExprDoc)
  | instanceOf (pos : Position) (operand : Option ExprDoc) (type : String)
  | cast (pos : Position) (operand : Option ExprDoc) (type : String)
  | binary (pos : Position) (op : String) (left right : Option ExprDoc)
  | unary (pos : Position) (op : String) (operand : Option ExprDoc)
  | conditional (pos : Position) (condition whenTrue whenFalse : Option ExprDoc)
  | property (pos : Position) (object : Option ExprDoc) (name : String)
  | call (pos : Position) (callee : Option ExprDoc) (args : List (Option ExprDoc))
  | ref (pos : Position) (name : String)
  | field (pos : Position) (cls name : String) (object : Option ExprDoc)
  | this (pos : Position) (cls : String)
  | static (pos : Position) (cls : String)
  | unrecognized (kind : String)

inductive StmtDoc where
  | expression (pos : Position) (value : Option ExprDoc)
  | declare (pos : Position) (name type : String) (init : Option ExprDoc)
  | ret (pos : Position) (value : Option ExprDoc)
  | branch (pos : Position) (condition : Option ExprDoc) (body : List StmtDoc)
    (alternative : Option (List StmtDoc))
  | loop (pos : Position) (condition : Option ExprDoc) (body : List StmtDoc)
  | foreach (pos : Position) (name type : String) (items : Option ExprDoc) (body : List StmtDoc)
  | unrecognized (kind : String)

end

structure FieldDoc where
  name : String
  type : String

structure ClassDoc where
  name : String
  typeParams : List String
  base : String
  interfaces : List String
  fields : List FieldDoc

structure InterfaceDoc where
  name : String
  typeParams : List String
  bases : List String
  fields : List FieldDoc

structure EnumDoc where
  name : String
  values : List String

structure FunctionDoc where
  pos : Position
  name : String
  params : List ParamDoc
  returns : String
  body : List StmtDoc

-- Names of the classes that literals are typed with; an empty name means none.
structure LiteralNames where
  array : String
  map : String
  string : String
  numeric : String
  boolean : String

structure UnitDoc where
  path : String
  literals : LiteralNames
  classes : List ClassDoc
  interfaces : List InterfaceDoc
  enums : List EnumDoc
  functions : List FunctionDoc
  main : List StmtDoc

end Typeflow.Document
