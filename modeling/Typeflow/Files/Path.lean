set_option autoImplicit false

namespace Typeflow.Path

def splitAtSlashes : List Char → List (List Char)
  | [] => [[]]
  | c :: cs =>
    if c == '/' then [] :: splitAtSlashes cs
    else
      match splitAtSlashes cs with
      | name :: names => (c :: name) :: names
      | [] => [[c]]

def names (path : String) : List String := (splitAtSlashes path.toList).map String.ofList

def isAbsolute (path : String) : Bool := path.toList.head? == some '/'

-- Adds a name to a tidy path. Above the root there is only the root.
def addName (absolute : Bool) (path : List String) (name : String) : List String :=
  if name == "" || name == "." then path
  else if name == ".." then
    if path.isEmpty || path.getLast? == some ".." then if absolute then path else path ++ [name]
    else path.dropLast
  else path ++ [name]

def tidyNames (path : String) : List String :=
  (names path).foldl (addName (isAbsolute path)) []

def ofNames (absolute : Bool) (ns : List String) : String :=
  if absolute then "/" ++ "/".intercalate ns
  else if ns.isEmpty then "."
  else "/".intercalate ns

def clean (path : String) : String := ofNames (isAbsolute path) (tidyNames path)

def join (dir path : String) : String :=
  if dir.isEmpty then if path.isEmpty then "" else clean path
  else clean (dir ++ "/" ++ path)

def parent (path : String) : String :=
  clean (String.ofList (path.toList.reverse.dropWhile (· != '/')).reverse)

def absolute (home path : String) : String :=
  if isAbsolute path then clean path else join home path

def upward (dir : String) : List String :=
  let ns := tidyNames dir
  (List.range (ns.length + 1)).reverse.map fun n => ofNames true (ns.take n)

end Typeflow.Path
