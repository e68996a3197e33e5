import Typeflow.Type.Basic

set_option autoImplicit false

namespace Typeflow

structure Field where
  name : String
  type : Ty

structure Applied where
  decl : DeclId
  args : List Ty

structure Class where
  id : DeclId
  typeParams : List String
  base : Option Applied
  interfaces : List Applied
  fields : List Field

structure Interface where
  id : DeclId
  typeParams : List String
  bases : List Applied
  fields : List Field

structure Enumeration where
  id : DeclId
  values : List String

structure Declarations where
  classes : List Class
  interfaces : List Interface
  enumerations : List Enumeration

def Applied.cls (a : Applied) : Ty := .cls a.decl a.args

def Applied.iface (a : Applied) : Ty := .iface a.decl a.args

-- Type parameters and the arguments they stand for; the first entry of a name counts.
abbrev Bindings := List (String × Ty)

namespace Bindings

-- Parameters without an argument stay free, and of two parameters of one name the later one
-- counts.
def ofArgs (params : List String) (args : List Ty) : Bindings := (params.zip args).reverse

def names (b : Bindings) : List String := (b.map Prod.fst).eraseDups

end Bindings

namespace Ty

mutual

def substitute (b : Bindings) : Ty → Ty
  | .generic name => (b.lookup name).getD (.generic name)
  | .cls d args => .cls d (substituteAll b args)
  | .iface d args => .iface d (substituteAll b args)
  | .lambda params result => .lambda (substituteParams b params) (substitute b result)
  | .unknown => .unknown
  | .any => .any
  | .void => .void
  | .enumeration d => .enumeration d

def substituteAll (b : Bindings) : List Ty → List Ty
  | [] => []
  | t :: rest => substitute b t :: substituteAll b rest

def substituteParams (b : Bindings) : List (String × Ty) → List (String × Ty)
  | [] => []
  | (name, t) :: rest => (name, substitute b t) :: substituteParams b rest

end

end Ty

namespace Declarations

def empty : Declarations := ⟨[], [], []⟩

def class? (ds : Declarations) (id : DeclId) : Option Class := ds.classes.find? (·.id == id)

def interface? (ds : Declarations) (id : DeclId) : Option Interface :=
  ds.interfaces.find? (·.id == id)

def enumeration? (ds : Declarations) (id : DeclId) : Option Enumeration :=
  ds.enumerations.find? (·.id == id)

def classNamed? (ds : Declarations) (name : String) : Option Class := ds.class? ⟨name, 0⟩

def interfaceNamed? (ds : Declarations) (name : String) : Option Interface :=
  ds.interface? ⟨name, 0⟩

def enumerationNamed? (ds : Declarations) (name : String) : Option Enumeration :=
  ds.enumeration? ⟨name, 0⟩

def typeParams (ds : Declarations) : Ty → List String
  | .cls d _ => ((ds.class? d).map Class.typeParams).getD []
  | .iface d _ => ((ds.interface? d).map Interface.typeParams).getD []
  | _ => []

def typeArgs {Label : Type} : Ty Label → List (Ty Label)
  | .cls _ args => args
  | .iface _ args => args
  | _ => []

def bindings (ds : Declarations) (t : Ty) : Bindings :=
  Bindings.ofArgs (ds.typeParams t) (typeArgs t)

def declaredSupers (ds : Declarations) : Ty → List Ty
  | .cls d _ =>
    match ds.class? d with
    | some c => (c.base.map Applied.cls).toList ++ c.interfaces.map Applied.iface
    | none => []
  | .iface d _ =>
    match ds.interface? d with
    | some i => i.bases.map Applied.iface
    | none => []
  | _ => []

def supertypes (ds : Declarations) (t : Ty) : List Ty :=
  (ds.declaredSupers t).map (Ty.substitute (ds.bindings t))

def ancestorsWithin (ds : Declarations) : Nat → Ty → List Ty
  | 0, t => [t]
  | height + 1, t => t :: (ds.supertypes t).flatMap (ds.ancestorsWithin height)

-- No chain of supertypes is longer than the number of declarations.
def height (ds : Declarations) : Nat := ds.classes.length + ds.interfaces.length

def ancestors (ds : Declarations) (t : Ty) : List Ty := ds.ancestorsWithin ds.height t

-- The first answer of `f` on `t` and the types above it. The search stops there, so that a
-- hierarchy with many ways to one type is not walked along all of them.
def searchWithin {α : Type} (ds : Declarations) (f : Ty → Option α) : Nat → Ty → Option α
  | 0, t => f t
  | height + 1, t =>
    match f t with
    | some found => some found
    | none => (ds.supertypes t).findSome? (ds.searchWithin f height)

def search {α : Type} (ds : Declarations) (f : Ty → Option α) (t : Ty) : Option α :=
  ds.searchWithin f ds.height t

def ownFields (ds : Declarations) : Ty → List Field
  | .cls d _ => ((ds.class? d).map Class.fields).getD []
  | .iface d _ => ((ds.interface? d).map Interface.fields).getD []
  | _ => []

def ownField? (ds : Declarations) (t : Ty) (name : String) : Option Field :=
  (ds.ownFields t).find? (·.name == name)

structure Member where
  owner : Ty
  field : Field
  type : Ty

def memberOf? (ds : Declarations) (name : String) (owner : Ty) : Option Member :=
  (ds.ownField? owner name).map fun f => ⟨owner, f, f.type.substitute (ds.bindings owner)⟩

def member? (ds : Declarations) (t : Ty) (name : String) : Option Member :=
  ds.search (ds.memberOf? name) t

def selfType (ds : Declarations) (id : DeclId) : Ty :=
  .cls id (((ds.class? id).map Class.typeParams).getD [] |>.map Ty.generic)

def named? (ds : Declarations) (name : String) (args : List Ty) : Option Ty :=
  match ds.classNamed? name with
  | some c => some (.cls c.id args)
  | none =>
    match ds.interfaceNamed? name with
    | some i => some (.iface i.id args)
    | none => (ds.enumerationNamed? name).map fun e => .enumeration e.id

end Declarations

end Typeflow
