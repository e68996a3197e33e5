import Typeflow.Document.Basic
import Typeflow.Document.Error
import Typeflow.Type.Hierarchy

set_option autoImplicit false

namespace Typeflow.Document

open Text

-- Each name with the number of times it comes again.
def declIds : List String → List DeclId
  | [] => []
  | name :: rest => ⟨name, rest.count name⟩ :: declIds rest

def outline (unit : UnitDoc) : Declarations where
  classes := ((declIds (unit.classes.map ClassDoc.name)).zip unit.classes).map
    fun (id, c) => ⟨id, c.typeParams, none, [], []⟩
  interfaces := ((declIds (unit.interfaces.map InterfaceDoc.name)).zip unit.interfaces).map
    fun (id, i) => ⟨id, i.typeParams, [], []⟩
  enumerations := ((declIds (unit.enums.map EnumDoc.name)).zip unit.enums).map
    fun (id, e) => ⟨id, e.values⟩

section

variable {Label : Type}

-- Arguments, where there are any, must be as many as the declaration has parameters.
def checkArity (name : String) (params : List String) (args : List (Ty Label)) (t : Ty Label) :
    Except NameError (Ty Label) :=
  if args.isEmpty || args.length == params.length then .ok t
  else .error (.arity name params.length args.length)

-- Type parameters come before classes, these before interfaces, and these before enumerations.
def resolveName (ds : Declarations) (generics : List String) (name : String) (args : List (Ty Label)) :
    Except NameError (Ty Label) :=
  if generics.contains name then
    if args.isEmpty then .ok (.generic name) else .error (.takesNoArguments name)
  else
    match ds.classNamed? name with
    | some c => checkArity name c.typeParams args (.cls c.id args)
    | none =>
      match ds.interfaceNamed? name with
      | some i => checkArity name i.typeParams args (.iface i.id args)
      | none =>
        match ds.enumerationNamed? name with
        | some e => .ok (.enumeration e.id)
        | none => .error (.unknown (encode name))

def resolver (ds : Declarations) (generics : List String) : Ty.Resolver NameError (Ty Label) :=
  fun bytes args =>
    match text? bytes with
    | some name => resolveName ds generics name args
    | none => .error (.unknown bytes)

end

def typeOf (ds : Declarations) (generics : List String) (src : String) : Except BuildError Ty :=
  if src = "" then .ok .unknown
  else
    match Ty.parse (some (resolver ds generics)) src with
    | .ok t => .ok t
    | .error (.malformed why rest) => .error (.malformedType src why rest)
    | .error (.unresolved why) => .error (.unresolvedName why)

def fieldsOf (ds : Declarations) (generics : List String) (fields : List FieldDoc) :
    Except BuildError (List Field) :=
  fields.mapM fun f => do
    match ← inside (.field f.name) (typeOf ds generics f.type) with
    | .unknown => .error (.untypedField f.name)
    | t => .ok ⟨f.name, t⟩

structure ClassBody where
  name : String
  base : Option Applied
  interfaces : List Applied
  fields : List Field

structure InterfaceBody where
  name : String
  bases : List Applied
  fields : List Field

def baseOf (ds : Declarations) (c : ClassDoc) : Except BuildError (Option Applied) :=
  if c.base = "" then .ok none
  else do
    match ← typeOf ds c.typeParams c.base with
    | .cls d args => .ok (some ⟨d, args⟩)
    | t => .error (.baseNotClass t)

def interfacesOf (ds : Declarations) (generics : List String) (refuse : Ty → BuildError)
    (names : List String) : Except BuildError (List Applied) :=
  names.mapM fun name => do
    match ← typeOf ds generics name with
    | .iface d args => .ok ⟨d, args⟩
    | t => .error (refuse t)

def classBody (ds : Declarations) (c : ClassDoc) : Except BuildError ClassBody :=
  inside (.cls c.name) do
    let base ← baseOf ds c
    let interfaces ← interfacesOf ds c.typeParams .notInterface c.interfaces
    let fields ← fieldsOf ds c.typeParams c.fields
    return ⟨c.name, base, interfaces, fields⟩

def interfaceBody (ds : Declarations) (i : InterfaceDoc) : Except BuildError InterfaceBody :=
  inside (.interface i.name) do
    let bases ← interfacesOf ds i.typeParams .baseNotInterface i.bases
    let fields ← fieldsOf ds i.typeParams i.fields
    return ⟨i.name, bases, fields⟩

-- The last base and the last fields count, interfaces add up.
def Class.fill (bodies : List ClassBody) (c : Class) : Class :=
  if c.id.later = 0 then
    (bodies.filter (·.name == c.id.name)).foldl
      (fun c b => { c with
        base := b.base <|> c.base
        interfaces := c.interfaces ++ b.interfaces
        fields := b.fields }) c
  else c

def Interface.fill (bodies : List InterfaceBody) (i : Interface) : Interface :=
  if i.id.later = 0 then
    (bodies.filter (·.name == i.id.name)).foldl
      (fun i b => { i with bases := i.bases ++ b.bases, fields := b.fields }) i
  else i

def checkCycles (ds : Declarations) : Except BuildError Unit :=
  match ds.cyclicClass? with
  | some id => .error (.inheritanceCycle (.cls id.name))
  | none =>
    match ds.cyclicInterface? with
    | some id => .error (.inheritanceCycle (.interface id.name))
    | none => .ok ()

def declarationsOf (unit : UnitDoc) : Except BuildError Declarations := do
  let names := outline unit
  let classes ← unit.classes.mapM (classBody names)
  let interfaces ← unit.interfaces.mapM (interfaceBody names)
  let ds : Declarations :=
    { names with
      classes := names.classes.map (Class.fill classes)
      interfaces := names.interfaces.map (Interface.fill interfaces) }
  checkCycles ds
  return ds

end Typeflow.Document
