import Typeflow.Config
import Typeflow.Files.Disk
import Typeflow.Text.Folded
import Typeflow.Toml.Document

set_option autoImplicit false

namespace Typeflow

inductive ConfigError where
  | unreachable (path : String) (why : Unreachable)
  | directory (path : String)
  | malformed (path : String)
  | unknownKey (path : String) (key : Toml.Key)
  | unknownPlugin (path name : String)
  -- It cannot be said whether the file is there.
  | uncertain (path : String) (why : Unreachable)

def ConfigError.message : ConfigError → String
  | .unreachable path why => "parsing " ++ path ++ ": open " ++ path ++ ": " ++ why.message
  | .directory path => "parsing " ++ path ++ ": read " ++ path ++ ": is a directory"
  | .malformed path => "parsing " ++ path
  | .unknownKey path key => path ++ ": unknown key " ++ key.text
  | .unknownPlugin path name => path ++ ": " ++ Infer.unknownPluginMessage name
  | .uncertain path why => "looking for " ++ path ++ ": stat " ++ path ++ ": " ++ why.message

namespace Config

open Toml (Tree Table Key)

def texts? : List Tree → Option (List String)
  | [] => some []
  | .leaf (.text s) :: rest => (texts? rest).map (s :: ·)
  | _ => none

structure Settings where
  config : Config := {}
  used : List Key := []

def Settings.take (s : Settings) (key : Key) (change : Config → Config) : Settings :=
  ⟨change s.config, key :: s.used⟩

def takeInference (table : String) (s : Settings) : String × Tree → Option Settings
  | (name, t) =>
    match Text.folded name, t with
    | "plugins", .array items =>
      (texts? items).map fun names => s.take [table, name] ({ · with plugins := names })
    | "plugins", _ => none
    | "warnings_as_errors", .leaf (.boolean b) =>
      some (s.take [table, name] ({ · with warningsAsErrors := b }))
    | "warnings_as_errors", _ => none
    | _, _ => some s

def takeNarrowing (table : String) (s : Settings) : String × Tree → Option Settings
  | (name, t) =>
    match Text.folded name, t with
    | "enabled", .leaf (.boolean b) => some (s.take [table, name] ({ · with enabled := some b }))
    | "enabled", _ => none
    | "before_inference", .leaf (.boolean b) =>
      some (s.take [table, name] ({ · with beforeInference := b }))
    | "before_inference", _ => none
    | _, _ => some s

def takeSetting (s : Settings) : String × Tree → Option Settings
  | (name, t) =>
    match Text.folded name, t with
    | "inference", .table entries => entries.foldlM (takeInference name) (s.take [name] id)
    | "inference", _ => none
    | "narrowing", .table entries => entries.foldlM (takeNarrowing name) (s.take [name] id)
    | "narrowing", _ => none
    | "jobs", .leaf (.integer n) => some (s.take [name] ({ · with jobs := n }))
    | "jobs", _ => none
    | _, _ => some s

def ofTable? (t : Table) : Option Settings := t.foldlM takeSetting {}

def ofText (path text : String) : Except ConfigError Config :=
  match (Toml.Document.ofText? text).bind fun d => (ofTable? d.root).map (·, d.keys) with
  | none => .error (.malformed path)
  | some (settings, keys) =>
    match keys.find? fun key => !settings.used.contains key with
    | some key => .error (.unknownKey path key)
    | none =>
      match settings.config.chain with
      | .error name => .error (.unknownPlugin path name)
      | .ok _ => .ok { settings.config with path := path }

def fileName : String := "oneinfer.toml"

section Search

variable {m : Type → Type} [Monad m] (disk : Disk m)

def load (path : String) : ExceptT ConfigError m Config := do
  match ← (disk.read path : m _) with
  | .error (.unreachable why) => throw (.unreachable path why)
  | .error .directory => throw (.directory path)
  | .ok text => ExceptT.mk (pure (ofText path text))

-- The file in the first of the directories that has one. A checkout ends the search.
def search : List String → ExceptT ConfigError m (Option Config)
  | [] => return none
  | dir :: above => do
    let path := Path.join dir fileName
    match ← (disk.stat path : m _) with
    | .ok _ => return some (← load disk path)
    | .error .missing =>
      match ← (disk.stat (Path.join dir ".git") : m _) with
      | .ok _ => return none
      | .error _ => search above
    | .error why => throw (.uncertain path why)

def inputDirectory (input : String) : m String := do
  match ← disk.stat input with
  | .ok .file => return Path.parent input
  | _ => return input

-- An explicit path wins. A relative one that does not exist is tried next to the input.
def resolve (explicit input : String) : ExceptT ConfigError m Config := do
  let dir ← (inputDirectory disk input : m _)
  if explicit.isEmpty then
    return (← search disk (Path.upward (Path.absolute disk.home dir))).getD {}
  else if Path.isAbsolute explicit then load disk explicit
  else
    match ← (disk.stat explicit : m _) with
    | .error .missing => load disk (Path.join dir explicit)
    | _ => load disk explicit

end Search

end Config

end Typeflow
