import Typeflow.Infer.Strategy
import Typeflow.Text.Quoted

set_option autoImplicit false

namespace Typeflow.Infer

structure Plugin where
  name : String
  claims : Kind → Bool
  infer : Context → Expr → InferM Bool

-- The name of a plugin in a configuration.
def Plugin.configName (spelling : String → String) (p : Plugin) : String := spelling p.name

def Strategy.plugin (s : Strategy) : Plugin := ⟨s.name, s.claims, s.infer⟩

-- A plugin that gives every expression of the listed kinds the same type, unless it is a hole,
-- and the same answer.
def Plugin.fixed (name : String) (kinds : List Kind) (t : Ty) (answer : Bool) : Plugin where
  name := name
  claims kind := kinds.contains kind
  infer _ e := do
    if !t.isUnknown then setActual e t
    return answer

abbrev Chain := List Plugin

namespace Chain

def default : Chain := Strategy.all.map Strategy.plugin

-- The last plugin of a configuration name.
def named? (spelling : String → String) (chain : Chain) (name : String) : Option Plugin :=
  chain.reverse.find? fun p => p.configName spelling == spelling name

def only (spelling : String → String) (chain : Chain) (names : List String) : Except String Chain :=
  names.mapM fun name =>
    match chain.named? spelling name with
    | some p => .ok p
    | none => .error name

def lookup? (chain : Chain) (e : Expr) : Option Plugin := chain.find? fun p => p.claims e.kind

def infer (chain : Chain) (ctx : Context) (e : Expr) : InferM Unit := do
  match chain.lookup? e with
  | none => throw (.unclaimed e.kind e.location)
  | some p =>
    if ← p.infer ctx e then
      record (.inferred p.name e (← notes).ofLocal (← actual e))
    else throw (.pluginFailed p.name e.kind e.location)

end Chain

def unknownPluginMessage (name : String) : String :=
  "unknown inference plugin " ++ Text.quote name

end Typeflow.Infer
