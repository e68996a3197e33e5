import Typeflow.Toml.Reader

set_option autoImplicit false

namespace Typeflow.Toml

inductive Tree where
  | leaf (value : Value)
  | array (items : List Tree)
  | table (entries : List (String × Tree))
  | tables (elements : List (List (String × Tree)))

abbrev Table := List (String × Tree)

namespace Table

def put (name : String) (t : Tree) : Table → Table
  | [] => [(name, t)]
  | (k, old) :: rest => if k == name then (k, t) :: rest else (k, old) :: put name t rest

-- The table under a key; an array of tables stands for its last element.
def find? : Key → Table → Option Table
  | [], t => some t
  | name :: rest, t =>
    match t.lookup name with
    | some (.table entries) => find? rest entries
    | some (.tables elements) => elements.getLast?.bind (find? rest)
    | _ => none

def modify (f : Table → Table) : Key → Table → Table
  | [], t => f t
  | name :: rest, t =>
    match t.lookup name with
    | some (.table entries) => put name (.table (modify f rest entries)) t
    | some (.tables elements) =>
      match elements.getLast? with
      | some last => put name (.tables (elements.dropLast ++ [modify f rest last])) t
      | none => t
    | _ => t

-- Sets a dotted key. What its front names must be tables, or not be there yet.
def assign? (t : Tree) : List String → String → Table → Option Table
  | [], name, entries => some (put name t entries)
  | front :: rest, name, entries =>
    match entries.lookup front with
    | none => (assign? t rest name []).map fun inner => put front (.table inner) entries
    | some (.table inner) =>
      (assign? t rest name inner).map fun inner => put front (.table inner) entries
    | some _ => none

end Table

-- A table may be implied by a longer key before it is given a header of its own. Apart from
-- that no key is defined twice.
structure Document where
  root : Table := []
  implied : List Key := []
  arrays : List Key := []
  keys : List Key := []

abbrev Define := StateT Document Option

namespace Document

def imply (key : Key) : Define Unit := modify fun d => { d with implied := key :: d.implied }

def note (key : Key) : Define Unit := modify fun d => { d with keys := d.keys ++ [key] }

-- Where the kind of a value is marked: at its own key, but an empty name leaves the mark to the
-- table that it is in.
def markedKey (context : Key) (name : String) : Key :=
  if name.isEmpty && !context.isEmpty then context else context ++ [name]

def markArray (key : Key) (isArray : Bool) : Define Unit :=
  modify fun d =>
    let others := d.arrays.filter (· != key)
    { d with arrays := if isArray then key :: others else others }

-- Gives a name of a table its value. One that is there must only have been implied, and stays
-- as it is, unless it is an array.
def give (context : Key) (name : String) (t : Tree) : Define Unit := do
  let d ← get
  let key := context ++ [name]
  let some entries := d.root.find? context | failure
  match entries.lookup name with
  | none => set { d with root := d.root.modify (Table.put name t) context }
  | some _ =>
    if d.implied.contains key then
      let root :=
        if d.arrays.contains key then d.root.modify (Table.put name t) context else d.root
      set { d with root := root, implied := d.implied.filter (· != key) }
    else failure

def enter (done : Key) : List String → Define Unit
  | [] => return ()
  | name :: rest => do
    let d ← get
    let some entries := d.root.find? done | failure
    match entries.lookup name with
    | none =>
      set { d with
        root := d.root.modify (Table.put name (.table [])) done
        implied := (done ++ [name]) :: d.implied }
    | some (.leaf _) => failure
    | some (.array _) => failure
    | some _ => pure ()
    enter (done ++ [name]) rest

def splitLast : Key → Option (Key × String)
  | [] => none
  | [name] => some ([], name)
  | name :: rest => (splitLast rest).map fun (front, last) => (name :: front, last)

def addElement (context : Key) (name : String) : Define Unit := do
  let d ← get
  let some entries := d.root.find? context | failure
  let elements ←
    match entries.lookup name with
    | none => pure []
    | some (.tables elements) => pure elements
    | some _ => failure
  set { d with root := d.root.modify (Table.put name (.tables (elements ++ [[]]))) context }

def start (key : Key) (isElement : Bool) : Define Unit := do
  let some (context, name) := splitLast key | failure
  enter [] context
  if isElement then addElement context name else give context name (.table [])

def dotted (context : Key) : List String → Define Key
  | [] => return context
  | name :: rest => do
    let key := context ++ [name]
    imply key
    start key false
    dotted key rest

def isArray : Value → Bool
  | .array _ => true
  | _ => false

mutual

-- Defines what a value holds under the name that it is for, and gives the value itself.
def expand (context : Key) (name : String) (inArray : Bool) : Value → Define Tree
  | .array items => do
    markArray (markedKey context name) true
    return .array (← expandItems context name items)
  | .inline entries => do
    let key := context ++ [name]
    imply key
    start key inArray
    return .table (← assignAll key [] entries)
  | value => return .leaf value

def expandItems (context : Key) (name : String) : List Value → Define (List Tree)
  | [] => return []
  | item :: rest => do
    let first ← expand context name true item
    return first :: (← expandItems context name rest)

-- Assigns the entries of the table under `context`. The result is the table that they make by
-- themselves, on top of `own`.
def assignAll (context : Key) (own : Table) : List (Key × Value) → Define Table
  | [] => return own
  | (key, value) :: rest => do
    let some (front, name) := splitLast key | failure
    let inner ← dotted context front
    note (inner ++ [name])
    let t ← expand inner name false value
    give inner name t
    markArray (markedKey inner name) (isArray value)
    let some own := own.assign? t front name | failure
    assignAll context own rest

end

def addLine (context : Key) : Line → Define Key
  | .header key => do
    start key false
    markArray key false
    note key
    return key
  | .element key => do
    start key true
    markArray key false
    note key
    return key
  | .entry key value => do
    let _ ← assignAll context [] [(key, value)]
    return context

def addLines (context : Key) : List Line → Define Unit
  | [] => return ()
  | line :: rest => do addLines (← addLine context line) rest

def ofText? (text : String) : Option Document := do
  let lines ← lines? text
  let ((), d) ← (addLines [] lines).run {}
  return d

end Document

end Typeflow.Toml
