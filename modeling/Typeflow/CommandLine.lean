import Typeflow.CommandLine.Arguments
import Typeflow.Compile
import Typeflow.Config.File

set_option autoImplicit false

namespace Typeflow.CommandLine

inductive Failure where
  | usage (why : UsageError)
  | config (why : ConfigError)
  | inaccessible (path : String) (why : Unreachable)
  | unlisted (path : String) (why : Unreachable)
  | unreadable (path : String) (why : Unreadable)
  | loading (path : String) (why : Document.LoadError)
  | compiling (why : CompileError)
  | narrowing (path : String) (why : Narrow.Fault)

def Failure.message : Failure → String
  | .usage why => why.message
  | .config why => why.message
  | .inaccessible path why => "accessing " ++ path ++ ": stat " ++ path ++ ": " ++ why.message
  | .unlisted path why => "reading directory " ++ path ++ ": open " ++ path ++ ": " ++ why.message
  | .unreadable path (.unreachable why) => "open " ++ path ++ ": " ++ why.message
  | .unreadable path .directory => "decoding " ++ path ++ ": read " ++ path ++ ": is a directory"
  | .loading path why => Document.LoadError.message path why
  | .compiling why => why.message
  | .narrowing path why => "narrowing " ++ path ++ ": " ++ why.message

def failureOf? (r : Result) : Option Failure :=
  r.failure.map .compiling <|> r.fault.map (.narrowing r.file.path)

structure Outcome where
  exitCode : Nat := 0
  stdout : String := ""
  stderr : String := ""

-- The reason is shown without control sequences, whatever the names in it hold.
def Outcome.fail (o : Outcome) (why : Failure) : Outcome :=
  { o with exitCode := 1, stderr := o.stderr ++ Terminal.plain (why.message ++ "\n") }

def Command.printsUnits : Command → Bool
  | .check => false
  | .narrow => true

def report (command : Command) (color : Bool) (o : Outcome) (r : Result) : Outcome :=
  let printed :=
    if command.printsUnits && !r.failed then "// " ++ r.file.path ++ "\n" ++ r.program ++ "\n"
    else ""
  { o with
    stdout := o.stdout ++ printed
    stderr := o.stderr ++ Diagnostic.render color r.bag }

def reportAll (command : Command) (color : Bool) (results : List Result) : Outcome :=
  let o := results.foldl (report command color) {}
  match results.findSome? failureOf? with
  | some why => o.fail why
  | none => o

section Run

variable {m : Type → Type} [Monad m] (disk : Disk m)

def unitEnding : String := ".json"

def unitFiles (path : String) : ExceptT Failure m (List String) := do
  match ← (disk.stat path : m _) with
  | .error why => throw (.inaccessible path why)
  | .ok .file => return [path]
  | .ok .directory =>
    match ← (disk.list path : m _) with
    | .error why => throw (.unlisted path why)
    | .ok entries =>
      return entries.filterMap fun (name, entry) =>
        if entry == .file && name.endsWith unitEnding then some (Path.join path name) else none

def loadUnit (path : String) : ExceptT Failure m Document.Built := do
  match ← (disk.read path : m _) with
  | .error why => throw (.unreadable path why)
  | .ok text =>
    match Document.load path (Json.parse? text) with
    | .error why => throw (.loading path why)
    | .ok unit => return unit

def runCommand (command : Command) (options : Options) (first : String) (others : List String) :
    ExceptT Failure m Outcome := do
  let config ← (Config.resolve disk options.config first).adapt .config
  let files ← (first :: others).mapM (unitFiles disk)
  let units ← files.flatten.mapM (loadUnit disk)
  return reportAll command options.color (compileAll config units)

def usage : String :=
  programName ++ " check|narrow [--config file] [--no-color] path...\n"

def run (defaults : Options) (args : List String) : m Outcome := do
  match Request.ofArguments defaults args with
  | .error why => return Outcome.fail {} (.usage why)
  | .ok .help => return { stdout := usage }
  | .ok (.run command options first others) =>
    match ← runCommand disk command options first others with
    | .ok o => return o
    | .error why => return Outcome.fail {} why

end Run

end Typeflow.CommandLine
