import Typeflow.Text.Folded
import Typeflow.Text.Quoted

set_option autoImplicit false

namespace Typeflow.CommandLine

def programName : String := "oneinfer"

inductive Command where
  | check
  | narrow

def Command.name : Command → String
  | .check => "check"
  | .narrow => "narrow"

def Command.ofName? (name : String) : Option Command :=
  [Command.check, .narrow].find? (·.name == name)

inductive Flag where
  | config
  | noColor
  | debug
  | help
  | version

namespace Flag

def ofCommands : List Flag := [.config, .noColor, .debug, .help]

def ofProgram : List Flag := ofCommands ++ [.version]

def name : Flag → String
  | .config => "config"
  | .noColor => "no-color"
  | .debug => "debug"
  | .help => "help"
  | .version => "version"

def letter? : Flag → Option Char
  | .config => some 'c'
  | .noColor => none
  | .debug => some 'd'
  | .help => some 'h'
  | .version => some 'v'

def isSwitch : Flag → Bool
  | .config => false
  | _ => true

def shown (f : Flag) : String :=
  match f.letter? with
  | some c => String.ofList ['-', c] ++ ", --" ++ f.name
  | none => "--" ++ f.name

def named? (flags : List Flag) (name : String) : Option Flag := flags.find? (·.name == name)

def lettered? (flags : List Flag) (c : Char) : Option Flag := flags.find? (·.letter? == some c)

end Flag

structure Options where
  config : String := ""
  color : Bool := true
  debug : Bool := false
  help : Bool := false
  version : Bool := false

inductive UsageError where
  | unknownCommand (name : String) (similar : List String)
  | badSyntax (arg : String)
  | unknownFlag (name : String)
  | unknownLetter (c : Char) (group : String)
  | missingValue (name : String)
  | missingLetterValue (c : Char) (group : String)
  | notBoolean (flag : Flag) (value : String)
  | noPaths

def isAscii (c : Char) : Bool := c.toNat < 0x80

-- A letter in a message. It is a byte, and the first byte of its code stands for one beyond
-- ASCII.
def quotedLetter (c : Char) : String :=
  if !isAscii c then "'\u00c3'"
  else if c == '\'' then "'\\''"
  else if c == '"' then "'\"'"
  else String.ofList ('\'' :: Text.quotedChar c ++ ['\''])

def UsageError.message : UsageError → String
  | .unknownCommand name similar =>
    "unknown command " ++ Text.quote name ++ " for " ++ Text.quote programName ++
      if similar.isEmpty then ""
      else "\n\nDid you mean this?\n" ++ String.join (similar.map fun s => "\t" ++ s ++ "\n")
  | .badSyntax arg => "bad flag syntax: " ++ arg
  | .unknownFlag name => "unknown flag: --" ++ name
  | .unknownLetter c group => "unknown shorthand flag: " ++ quotedLetter c ++ " in -" ++ group
  | .missingValue name => "flag needs an argument: --" ++ name
  | .missingLetterValue c group => "flag needs an argument: " ++ quotedLetter c ++ " in -" ++ group
  | .notBoolean flag value =>
    "invalid argument " ++ Text.quote value ++ " for " ++ Text.quote flag.shown ++
      " flag: strconv.ParseBool: parsing " ++ Text.quote value ++ ": invalid syntax"
  | .noPaths => "requires at least 1 arg(s), only received 0"

def boolean? (s : String) : Option Bool :=
  if ["1", "t", "T", "TRUE", "true", "True"].contains s then some true
  else if ["0", "f", "F", "FALSE", "false", "False"].contains s then some false
  else none

def Options.set (o : Options) (flag : Flag) (value : String) : Except UsageError Options :=
  match flag with
  | .config => .ok { o with config := value }
  | flag =>
    match boolean? value with
    | none => .error (.notBoolean flag value)
    | some b =>
      match flag with
      | .noColor => .ok { o with color := !b }
      | .debug => .ok { o with debug := b }
      | .version => .ok { o with version := b }
      | _ => .ok { o with help := b }

def splitAtEquals : List Char → List Char × Option (List Char)
  | [] => ([], none)
  | c :: cs =>
    if c == '=' then ([], some cs)
    else
      let (name, value) := splitAtEquals cs
      (c :: name, value)

structure Taken where
  options : Options
  rest : List String

def takeLong (flags : List Flag) (o : Options) (body : List Char) (rest : List String) :
    Except UsageError Taken :=
  let (name, value?) := splitAtEquals body
  let name := String.ofList name
  match body.head?, Flag.named? flags name with
  | some '-', _ => .error (.badSyntax ("--" ++ String.ofList body))
  | some '=', _ => .error (.badSyntax ("--" ++ String.ofList body))
  | _, none => .error (.unknownFlag name)
  | _, some flag =>
    match value?, flag.isSwitch, rest with
    | some value, _, _ => (o.set flag (String.ofList value)).map (⟨·, rest⟩)
    | none, true, _ => (o.set flag "true").map (⟨·, rest⟩)
    | none, false, value :: rest => (o.set flag value).map (⟨·, rest⟩)
    | none, false, [] => .error (.missingValue name)

def isTestFlag : List Char → Bool
  | 't' :: 'e' :: 's' :: 't' :: '.' :: _ => true
  | _ => false

def takeLetters (flags : List Flag) (o : Options) (rest : List String) :
    List Char → Except UsageError Taken
  | [] => .ok ⟨o, rest⟩
  | c :: more =>
    if isTestFlag (c :: more) then .ok ⟨o, rest⟩
    else
      match Flag.lettered? flags c with
      | none => .error (.unknownLetter c (String.ofList (c :: more)))
      | some flag =>
        match more, flag.isSwitch, rest with
        | '=' :: v :: vs, _, _ => (o.set flag (String.ofList (v :: vs))).map (⟨·, rest⟩)
        | more, true, _ =>
          match o.set flag "true" with
          | .ok o => takeLetters flags o rest more
          | .error why => .error why
        | v :: vs, false, _ => (o.set flag (String.ofList (v :: vs))).map (⟨·, rest⟩)
        | [], false, value :: rest => (o.set flag value).map (⟨·, rest⟩)
        | [], false, [] => .error (.missingLetterValue c (String.ofList [c]))

-- Flags and paths; two hyphens alone end the flags. Every argument costs one unit of fuel.
def readArguments (flags : List Flag) (o : Options) :
    Nat → List String → Except UsageError (Options × List String)
  | _, [] => .ok (o, [])
  | 0, _ => .ok (o, [])
  | fuel + 1, arg :: rest =>
    match arg.toList with
    | ['-', '-'] => .ok (o, rest)
    | '-' :: '-' :: body => do
      let taken ← takeLong flags o body rest
      readArguments flags taken.options fuel taken.rest
    | '-' :: c :: cs => do
      let taken ← takeLetters flags o rest (c :: cs)
      readArguments flags taken.options fuel taken.rest
    | _ => do
      let (o, paths) ← readArguments flags o fuel rest
      return (o, arg :: paths)

-- Whether the argument is a flag that takes the next argument for its value, or, before the
-- command is known, an unknown flag that might. A letter beyond ASCII is no single letter.
def takesNext (arg : String) : Bool :=
  let isSwitch (flag : Option Flag) : Bool :=
    match flag with
    | some .noColor => true
    | some .debug => true
    | _ => false
  if arg.toList.contains '=' then false
  else
    match arg.toList with
    | '-' :: '-' :: name => !isSwitch (Flag.named? Flag.ofCommands (String.ofList name))
    | ['-', c] => isAscii c && !isSwitch (Flag.lettered? Flag.ofCommands c)
    | _ => false

def isFlagLike (arg : String) : Bool := arg.toList.head? == some '-'

def splitCommand : List String → Option (String × List String)
  | [] => none
  | arg :: rest =>
    if arg == "--" then none
    else if takesNext arg then
      match rest with
      | value :: next :: more =>
        (splitCommand (next :: more)).map fun (name, others) => (name, arg :: value :: others)
      | _ => none
    else if arg.isEmpty || isFlagLike arg then
      (splitCommand rest).map fun (name, others) => (name, arg :: others)
    else some (arg, rest)

def distanceRow (c : UInt8) (left : Nat) : Text.Bytes → List Nat → List Nat
  | d :: ds, diagonal :: above :: more =>
    let here := if c == d then diagonal else 1 + min diagonal (min above left)
    here :: distanceRow c here ds (above :: more)
  | _, _ => []

def distanceFrom (t : Text.Bytes) : Text.Bytes → List Nat → List Nat
  | [], row => row
  | c :: cs, row =>
    let first := row.headD 0 + 1
    distanceFrom t cs (first :: distanceRow c first t row)

def editDistance (s t : Text.Bytes) : Nat :=
  (distanceFrom t s (List.range (t.length + 1))).getLastD 0

def similarCommands (typed : String) : List String :=
  let low := typed.toList.flatMap Text.loweredBytes
  ["check", "narrow", "completion"].filter fun name =>
    editDistance low (Text.encode name) ≤ 2 || low.isPrefixOf (Text.encode name)

inductive Request where
  | help
  | run (command : Command) (options : Options) (first : String) (others : List String)

-- What the arguments ask for; `defaults` holds where no flag says otherwise. Without a command
-- there is only help to ask for.
def Request.ofArguments (defaults : Options) (args : List String) :
    Except UsageError Request :=
  match splitCommand args with
  | none => do
    let _ ← readArguments Flag.ofProgram defaults args.length args
    return .help
  | some ("help", _) => .ok .help
  | some (name, others) =>
    match Command.ofName? name with
    | none => .error (.unknownCommand name (similarCommands name))
    | some command => do
      let (options, paths) ← readArguments Flag.ofCommands defaults others.length others
      if options.help then return .help
      else
        match paths with
        | [] => throw .noPaths
        | first :: rest => return .run command options first rest

end Typeflow.CommandLine
