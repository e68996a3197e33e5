import Typeflow.Diagnostic
import Typeflow.Trace
import Typeflow.Tree.Parents
import Typeflow.Type.Assignable

set_option autoImplicit false

namespace Typeflow.Infer

structure Context where
  file : SourceFile
  parents : Parents
  node? : NodeId → Option Node

def Context.declarations (ctx : Context) : Declarations := ctx.file.declarations

def Context.literals (ctx : Context) : LiteralTypes := ctx.file.literals

-- Progress survives a failure, so that everything found until then can still be reported.
structure Progress where
  notes : Annotations
  bag : Bag
  trace : Trace

inductive Failure where
  | fatal (d : Diagnostic)
  | unclaimed (kind : Kind) (location : Option Location)
  | pluginFailed (plugin : String) (kind : Kind) (location : Option Location)
  | alreadyTyped (current new : Ty)
  | leftUntyped (kind : Kind) (location : Option Location)

def placeText (kind : Kind) (location : Option Location) : String :=
  "*ast." ++ kind.name ++ " at " ++ locationText location

def Failure.message : Failure → String
  | .fatal d => d.text
  | .unclaimed kind location =>
    placeText kind location ++ ": no inference plugin claimed expression"
  | .pluginFailed plugin kind location =>
    plugin ++ " on " ++ placeText kind location ++ ": inference plugin failed"
  | .alreadyTyped current new =>
    "current " ++ current.described ++ ", new " ++ new.described ++
      ": expression already has an actual type"
  | .leftUntyped kind location => placeText kind location ++ " was claimed but left untyped"

abbrev InferM := ExceptT Failure (StateM Progress)

def notes : InferM Annotations := return (← get).notes

def modifyNotes (f : Annotations → Annotations) : InferM Unit :=
  modify fun p => { p with notes := f p.notes }

def actual (e : Expr) : InferM Ty := return (← notes).actual e.id

def expected (e : Expr) : InferM Ty := return (← notes).expected e.id

def localType (l : Local) : InferM Ty := return (← notes).ofLocal l.id

def setExpected (e : Expr) (t : Ty) : InferM Unit := modifyNotes (·.setExpected e.id t)

def setLocal (l : Local) (t : Ty) : InferM Unit := modifyNotes (·.setLocal l.id t)

def setActual (e : Expr) (t : Ty) : InferM Unit := do
  match ← actual e with
  | .unknown => modifyNotes (·.setActual e.id t)
  | current => throw (.alreadyTyped current t)

def suggest (e : Expr) (t : Ty) : InferM Unit := do
  if (← expected e).isUnknown && !t.isUnknown then setExpected e t

def report (d : Diagnostic) : InferM Unit := modify fun p => { p with bag := p.bag ++ [d] }

def warn (location : Option Location) (problem : Problem) : InferM Unit :=
  report ⟨.warning, problem, location⟩

def fatal {α : Type} (location : Option Location) (problem : Problem) : InferM α := do
  report ⟨.error, problem, location⟩
  throw (.fatal ⟨.error, problem, location⟩)

def record (e : Event) : InferM Unit := modify fun p => { p with trace := p.trace ++ [e] }

def commonType? (ds : Declarations) (a b : Ty) : Option Ty :=
  if a.equal b then some a
  else if ds.assignable a b then some b
  else if ds.assignable b a then some a
  else none

def commonType (ctx : Context) (location : Option Location) (a b : Ty) : InferM Ty :=
  match commonType? ctx.declarations a b with
  | some t => return t
  | none => do
    warn location (.noCommonType a b)
    return .any

end Typeflow.Infer
