import Typeflow.Terminal.Sequence
import Typeflow.Text.Cluster
import Typeflow.Text.Columns

set_option autoImplicit false

namespace Typeflow.Terminal

def stepChar (mode : Mode) (c : Char) : Mode :=
  (String.utf8EncodeChar c).foldl (fun mode b => (step mode b).2) mode

def charEffect (mode : Mode) (c : Char) : Effect :=
  match String.utf8EncodeChar c with
  | b :: _ => (step mode b).1
  | [] => .hidden

-- The columns that are taken after `skip` more characters of the last cluster.
def columnsFrom (mode : Mode) (skip : Nat) : List Char → Nat
  | [] => 0
  | c :: rest =>
    match skip with
    | n + 1 => columnsFrom mode n rest
    | 0 =>
      match charEffect mode c with
      | .lead =>
        let more := (Text.ClusterEnd.ofChar c).following rest
        Text.clusterColumns c (rest.take more) + columnsFrom .ground more rest
      | .shown => 1 + columnsFrom (stepChar mode c) 0 rest
      | _ => columnsFrom (stepChar mode c) 0 rest

def columns (line : String) : Nat := columnsFrom .ground 0 line.toList

-- The lines of a text. A tab is as wide as four spaces, and a line may end in a carriage
-- return.
def linesOf : List Char → List (List Char)
  | [] => [[]]
  | '\r' :: '\n' :: rest => [] :: linesOf rest
  | '\n' :: rest => [] :: linesOf rest
  | c :: rest =>
    let shown := if c == '\t' then [' ', ' ', ' ', ' '] else [c]
    match linesOf rest with
    | line :: lines => (shown ++ line) :: lines
    | [] => [shown]

def paintLine (colour : String) (line : List Char) : String :=
  "\x1b[" ++ colour ++ "m" ++ String.ofList line ++ "\x1b[m"

def padTo (width : Nat) (line : String) : String :=
  line ++ String.ofList (List.replicate (width - columns line) ' ')

def paint (colour s : String) : String :=
  let lines := (linesOf s.toList).map (paintLine colour)
  "\n".intercalate (lines.map (padTo ((lines.map columns).foldl max 0)))

end Typeflow.Terminal
