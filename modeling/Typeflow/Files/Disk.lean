import Typeflow.Files.Path

set_option autoImplicit false

namespace Typeflow

inductive Entry where
  | file
  | directory
deriving DecidableEq

inductive Unreachable where
  | missing
  | throughFile
  | tooLong
  | invalid
  | other (why : String)
deriving DecidableEq

def Unreachable.message : Unreachable → String
  | .missing => "no such file or directory"
  | .throughFile => "not a directory"
  | .tooLong => "file name too long"
  | .invalid => "invalid argument"
  | .other why => why

inductive Unreadable where
  | unreachable (why : Unreachable)
  | directory

structure Disk (m : Type → Type) where
  home : String
  stat : String → m (Except Unreachable Entry)
  read : String → m (Except Unreadable String)
  list : String → m (Except Unreachable (List (String × Entry)))

-- Files and directories by the names that lead to them from the root. The directories that lead
-- to a file need not be listed.
structure FileTree where
  files : List (List String × String)
  directories : List (List String)

namespace FileTree

def isDirectory (t : FileTree) (place : List String) : Bool :=
  place.isEmpty || t.directories.any place.isPrefixOf ||
    t.files.any fun (file, _) => place.isPrefixOf file && place != file

def entry? (t : FileTree) (place : List String) : Option Entry :=
  if t.isDirectory place then some .directory
  else if (t.files.lookup place).isSome then some .file
  else none

def stat (t : FileTree) (place : List String) : Except Unreachable Entry :=
  match t.entry? place with
  | some e => .ok e
  | none => .error .missing

def step (place : List String) (name : String) : List String :=
  if name == "" || name == "." then place
  else if name == ".." then place.dropLast
  else place ++ [name]

def nameLimit : Nat := 255

def pathLimit : Nat := 4095

-- Where names lead from a place. Every name but the last one must lead to a directory.
def locate (t : FileTree) (place : List String) : List String → Except Unreachable (List String)
  | [] => .ok place
  | name :: rest =>
    match t.entry? place with
    | some .directory =>
      if nameLimit < name.utf8ByteSize then .error .tooLong else t.locate (step place name) rest
    | some .file => .error .throughFile
    | none => .error .missing

def resolve (t : FileTree) (home path : String) : Except Unreachable (List String) :=
  if path.toList.contains '\x00' then .error .invalid
  else if path.isEmpty then .error .missing
  else if pathLimit < path.utf8ByteSize then .error .tooLong
  else if Path.isAbsolute path then t.locate [] (Path.names path)
  else t.locate (Path.tidyNames home) (Path.names path)

def read (t : FileTree) (place : List String) : Except Unreadable String :=
  match t.entry? place with
  | none => .error (.unreachable .missing)
  | some .directory => .error .directory
  | some .file => .ok ((t.files.lookup place).getD "")

def nameBelow? (place far : List String) : Option String :=
  if place.isPrefixOf far then far[place.length]? else none

def namesIn (t : FileTree) (place : List String) : List String :=
  let found := (t.files.map (·.1) ++ t.directories).filterMap (nameBelow? place)
  found.eraseDups.mergeSort fun a b => a ≤ b

def list (t : FileTree) (place : List String) : List (String × Entry) :=
  (t.namesIn place).filterMap fun name => (t.entry? (place ++ [name])).map (name, ·)

def disk (t : FileTree) (home : String) : Disk Id where
  home := home
  stat path := (t.resolve home path).bind t.stat
  read path := ((t.resolve home path).mapError Unreadable.unreachable).bind t.read
  list path := (t.resolve home path).map t.list

end FileTree

end Typeflow
