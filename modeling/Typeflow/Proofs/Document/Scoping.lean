import Typeflow.Proofs.Document.Built

set_option autoImplicit false

namespace Typeflow.Document

-- Which part to take at each level, from the top down.
abbrev Route := List Nat

section

variable {α : Type} (parts : α → List α)

def descend : α → Route → Option α
  | a, [] => some a
  | a, i :: rest => (parts a)[i]?.bind fun part => descend part rest

theorem descend_append (a : α) (p q : Route) :
    descend parts a (p ++ q) = (descend parts a p).bind fun b => descend parts b q := by
  induction p generalizing a with
  | nil => rfl
  | cons i rest ih =>
    rw [List.cons_append, descend, descend]
    cases (parts a)[i]? with
    | none => rfl
    | some part => exact ih part

theorem descend_lost {a : α} {p : Route} (lost : descend parts a p = none) (q : Route) : descend parts a (p ++ q) = none := by
  rw [descend_append, lost, Option.bind_none]

theorem descend_snoc {a b : α} {p : Route} (here : descend parts a p = some b) (i : Nat) :
    descend parts a (p ++ [i]) = (parts b)[i]? := by
  rw [descend_append, here, Option.bind_some, descend]
  cases (parts b)[i]? <;> rfl

end

inductive Piece where
  | unit (doc : UnitDoc)
  | function (doc : FunctionDoc)
  | block (body : List StmtDoc)
  | stmt (doc : StmtDoc)
  | expr (doc : ExprDoc)

-- The expressions directly below; `none` is one that is missing.
def ExprDoc.operands : ExprDoc → List (Option ExprDoc)
  | .array _ items => items
  | .map _ entries => entries.map Prod.snd
  | .instanceOf _ operand _ => [operand]
  | .cast _ operand _ => [operand]
  | .binary _ _ left right => [left, right]
  | .unary _ _ operand => [operand]
  | .conditional _ condition whenTrue whenFalse => [condition, whenTrue, whenFalse]
  | .property _ object _ => [object]
  | .call _ callee args => callee :: args
  | .field _ _ _ object => object.toList.map some
  | _ => []

def ExprDoc.bodies : ExprDoc → List (List StmtDoc)
  | .lambda _ _ _ body => [body]
  | .arrow pos _ _ value => [[.ret pos (some value)]]
  | _ => []

def StmtDoc.operands : StmtDoc → List (Option ExprDoc)
  | .expression _ value => [value]
  | .declare _ _ _ init => init.toList.map some
  | .ret _ value => value.toList.map some
  | .branch _ condition _ _ => [condition]
  | .loop _ condition _ => [condition]
  | .foreach _ _ _ items _ => [items]
  | .unrecognized _ => []

def StmtDoc.bodies : StmtDoc → List (List StmtDoc)
  | .branch _ _ body alternative => body :: alternative.toList
  | .loop _ _ body => [body]
  | .foreach _ _ _ _ body => [body]
  | _ => []

def Piece.operands : Piece → List (Option ExprDoc)
  | .stmt doc => doc.operands
  | .expr doc => doc.operands
  | _ => []

def Piece.parts : Piece → List Piece
  | .unit doc => doc.functions.map .function ++ [.block doc.main]
  | .function doc => [.block doc.body]
  | .block body => body.map .stmt
  | .stmt doc => (doc.operands.filterMap id).map .expr ++ doc.bodies.map .block
  | .expr doc => (doc.operands.filterMap id).map .expr ++ doc.bodies.map .block

def Piece.at? (root : Piece) (p : Route) : Option Piece := descend Piece.parts root p

def StmtDoc.declared? : StmtDoc → Option (LocalKind × String)
  | .declare _ name _ _ => some (.letBound, name)
  | _ => none

def ParamDoc.heading (p : ParamDoc) : LocalKind × String := (.parameter, p.name)

-- What a scope declares, in this order. A block has a slot for each of its statements, which is
-- empty for those that declare nothing.
def Piece.slots : Piece → List (Option (LocalKind × String))
  | .function doc => doc.params.map fun p => some p.heading
  | .block body => body.map StmtDoc.declared?
  | .stmt (.foreach _ name _ _ _) => [some (.loopVariable, name)]
  | .expr (.lambda _ params _ _) => params.map fun p => some p.heading
  | .expr (.arrow _ params _ _) => params.map fun p => some p.heading
  | _ => []

-- How many slots are filled when the part with number `i` is reached. In a block these are the
-- earlier statements, so that a variable is not in force in its own initializer; of all other
-- scopes only the body sees anything.
def Piece.reach (piece : Piece) (i : Nat) : Nat :=
  match piece, piece.parts[i]? with
  | .block _, _ => i
  | _, some (.block _) => piece.slots.length
  | _, _ => 0

@[ext] structure Declaration where
  scope : Route
  rank : Nat
deriving DecidableEq

def Piece.declared? (root : Piece) (d : Declaration) : Option (LocalKind × String) :=
  (root.at? d.scope).bind fun piece => piece.slots[d.rank]?.join

def InForce (root : Piece) (d : Declaration) (p : Route) : Prop :=
  ∃ scope i rest, root.at? d.scope = some scope ∧ p = d.scope ++ i :: rest ∧ d.rank < scope.reach i

-- All scopes in force at one point lie on the route to it, so that the length tells which is inside.
def Declaration.Behind (d' d : Declaration) : Prop :=
  d'.scope.length < d.scope.length ∨ d'.scope = d.scope ∧ d'.rank ≤ d.rank

structure Denotes (root : Piece) (p : Route) (name : String) (d : Declaration) : Prop where
  named : ∃ kind, root.declared? d = some (kind, name)
  inForce : InForce root d p
  closest : ∀ d' kind, root.declared? d' = some (kind, name) → InForce root d' p → d'.Behind d

theorem in_force_below {root : Piece} {d : Declaration} {p : Route} (inForce : InForce root d p) : d.scope <+: p := by
  obtain ⟨_, i, rest, _, rfl, _⟩ := inForce
  exact ⟨i :: rest, rfl⟩

theorem not_in_force_nil (root : Piece) (d : Declaration) : ¬ InForce root d [] := by
  rintro ⟨_, i, rest, _, split, _⟩
  simp at split

theorem in_force_snoc_iff {root piece : Piece} {p : Route} (here : root.at? p = some piece) (d : Declaration) (i : Nat) :
    InForce root d (p ++ [i]) ↔ InForce root d p ∨ d.scope = p ∧ d.rank < piece.reach i := by
  constructor
  · rintro ⟨scope, j, rest, found, split, below⟩
    cases rest using List.reverseRecOn with
    | nil =>
      obtain ⟨rfl, same⟩ := List.append_inj' split rfl
      cases same
      cases here.symm.trans found
      exact .inr ⟨rfl, below⟩
    | append_singleton rest last =>
      rw [← List.cons_append, ← List.append_assoc] at split
      obtain ⟨rfl, _⟩ := List.append_inj' split rfl
      exact .inl ⟨scope, j, rest, found, rfl, below⟩
  · rintro (⟨scope, j, rest, found, rfl, below⟩ | ⟨rfl, below⟩)
    · exact ⟨scope, j, rest ++ [i], found, by simp, below⟩
    · exact ⟨piece, i, [], here, rfl, below⟩

theorem in_force_shorter {root : Piece} {d : Declaration} {p : Route} (inForce : InForce root d p) : d.scope.length < p.length := by
  obtain ⟨_, i, rest, _, rfl, _⟩ := inForce
  simp

end Typeflow.Document

namespace Typeflow

open Document

def Local.heading (l : Local) : LocalKind × String := (l.kind, l.name)

def Stmt.declared? : Stmt → Option Local
  | .declare _ target _ => some target
  | _ => none

def Node.slots : Node → List (Option Local)
  | .function f => f.params.map some
  | .block b => b.statements.map Stmt.declared?
  | .stmt (.foreach _ target _ _) => [some target]
  | .expr (.lambda _ params _ _) => params.map some
  | _ => []

def Node.at? (root : Node) (p : Route) : Option Node := descend Node.children root p

def Node.declared? (root : Node) (d : Declaration) : Option Local :=
  (root.at? d.scope).bind fun n => n.slots[d.rank]?.join

end Typeflow

namespace Typeflow.Document

-- What is in the first slots, the latest first.
def opened {β : Type} (slots : List (Option β)) (count : Nat) : List β := ((slots.take count).filterMap id).reverse

section

variable {β : Type}

theorem opened_succ (slots : List (Option β)) (count : Nat) :
    opened slots (count + 1) = slots[count]?.join.toList ++ opened slots count := by
  rw [opened, List.take_add_one, List.filterMap_append, List.reverse_append, opened]
  rcases slots[count]? with _ | _ | l <;> rfl

theorem opened_cons (slot : Option β) (slots : List (Option β)) (count : Nat) :
    opened (slot :: slots) (count + 1) = opened slots count ++ slot.toList := by
  cases slot <;> simp [opened]

theorem opened_filled (items : List β) : opened (items.map some) (items.map some).length = items.reverse := by
  rw [opened, List.take_length, List.filterMap_map]
  simp

theorem mem_opened (slots : List (Option β)) (count r : Nat) (b : β) (slot : slots[r]? = some (some b)) (within : r < count) :
    b ∈ opened slots count := by
  rw [opened, List.mem_reverse, List.mem_filterMap]
  refine ⟨some b, ?_, rfl⟩
  rw [List.mem_iff_getElem?]
  exact ⟨r, by rw [List.getElem?_take_of_lt within, slot]⟩

end

theorem find_cons_slot (slot : Option Local) (scope : Scope) (name : String) :
    Scope.find? (slot.toList ++ scope) name = if slot.any (·.name == name) then slot else scope.find? name := by
  cases slot with
  | none => rfl
  | some l => by_cases same : l.name = name <;> simp [Scope.find?, same]

theorem opened_find_some (slots : List (Option Local)) (count : Nat) (name : String) (l : Local)
    (found : Scope.find? (opened slots count) name = some l) :
    l.name = name ∧ ∃ r < count, slots[r]? = some (some l) ∧
      ∀ r' l', slots[r']? = some (some l') → l'.name = name → r' < count → r' ≤ r := by
  induction count with
  | zero => simp [opened, Scope.find?] at found
  | succ count ih =>
    rw [opened_succ, find_cons_slot] at found
    split at found
    next hit =>
      have slot := Option.join_eq_some_iff.mp found
      rw [found, Option.any_some, beq_iff_eq] at hit
      exact ⟨hit, count, Nat.lt_succ_self _, slot, fun r' l' _ _ below => Nat.le_of_lt_succ below⟩
    next miss =>
      obtain ⟨named, r, below, slot, latest⟩ := ih found
      refine ⟨named, r, Nat.lt_succ_of_lt below, slot, fun r' l' other same within => ?_⟩
      rcases Nat.lt_succ_iff_lt_or_eq.mp within with earlier | rfl
      · exact latest r' l' other same earlier
      · simp [other, same] at miss

theorem opened_find_none (slots : List (Option Local)) (count : Nat) (name : String)
    (missing : Scope.find? (opened slots count) name = none) (r : Nat) (l : Local) (slot : slots[r]? = some (some l))
    (within : r < count) : l.name ≠ name := by
  induction count with
  | zero => cases within
  | succ count ih =>
    rw [opened_succ, find_cons_slot] at missing
    split at missing
    next hit => simp [missing] at hit
    next miss =>
      rcases Nat.lt_succ_iff_lt_or_eq.mp within with earlier | rfl
      · exact ih missing earlier
      · intro same
        simp [slot, same] at miss

structure Resolves (root : Piece) (tree : Node) (p : Route) (scope : Scope) : Prop where
  found : ∀ name l, scope.find? name = some l → ∃ d, Denotes root p name d ∧ tree.declared? d = some l
  missing : ∀ name, scope.find? name = none → ∀ d kind, root.declared? d = some (kind, name) → ¬ InForce root d p

theorem resolves_root (root : Piece) (tree : Node) : Resolves root tree [] [] :=
  ⟨nofun, fun _ _ d _ _ => not_in_force_nil root d⟩

section

variable {root piece : Piece} {tree n : Node} {p : Route} {scope : Scope}

theorem slot_declared (here : root.at? p = some piece) (there : tree.at? p = some n)
    (same : n.slots.map (Option.map Local.heading) = piece.slots) (r : Nat) :
    root.declared? ⟨p, r⟩ = (tree.declared? ⟨p, r⟩).map Local.heading := by
  rw [Piece.declared?, here, Node.declared?, there, Option.bind_some, Option.bind_some, ← same, List.getElem?_map]
  rcases n.slots[r]? with _ | _ | l <;> rfl

theorem Resolves.step (resolves : Resolves root tree p scope) (here : root.at? p = some piece) (there : tree.at? p = some n)
    (same : n.slots.map (Option.map Local.heading) = piece.slots) (i : Nat) :
    Resolves root tree (p ++ [i]) (opened n.slots (piece.reach i) ++ scope) := by
  have slot : ∀ r l, n.slots[r]? = some (some l) → tree.declared? ⟨p, r⟩ = some l := by
    intro r l filled
    rw [Node.declared?, there, Option.bind_some, filled, Option.join_some]
  have filled : ∀ r kind name, root.declared? ⟨p, r⟩ = some (kind, name) → ∃ l, n.slots[r]? = some (some l) ∧ l.name = name := by
    intro r kind name declared
    rw [slot_declared here there same, Node.declared?, there, Option.bind_some] at declared
    obtain ⟨l, found, heading⟩ := Option.map_eq_some_iff.mp declared
    exact ⟨l, Option.join_eq_some_iff.mp found, congrArg Prod.snd heading⟩
  constructor
  · intro name l found
    rw [Scope.find?, List.find?_append, Option.or_eq_some_iff] at found
    rcases found with found | ⟨miss, found⟩
    · obtain ⟨named, r, below, entry, latest⟩ := opened_find_some n.slots _ name l found
      refine ⟨⟨p, r⟩, ⟨⟨l.kind, ?_⟩, (in_force_snoc_iff here _ i).mpr (.inr ⟨rfl, below⟩), ?_⟩, slot r l entry⟩
      · rw [slot_declared here there same, slot r l entry, Option.map_some, Local.heading, named]
      · -- what is in force further out lies behind, and so do the earlier slots of this scope
        intro d' kind declared inForce
        rcases (in_force_snoc_iff here d' i).mp inForce with outer | ⟨own, within⟩
        · exact .inl (in_force_shorter outer)
        · obtain ⟨scope', r'⟩ := d'
          cases own
          obtain ⟨l', entry', named'⟩ := filled r' kind name declared
          exact .inr ⟨rfl, latest r' l' entry' named' within⟩
    · obtain ⟨d, denotes, declared⟩ := resolves.found name l found
      refine ⟨d, ⟨denotes.named, (in_force_snoc_iff here d i).mpr (.inl denotes.inForce), ?_⟩, declared⟩
      intro d' kind declared' inForce
      rcases (in_force_snoc_iff here d' i).mp inForce with outer | ⟨own, within⟩
      · exact denotes.closest d' kind declared' outer
      · obtain ⟨scope', r'⟩ := d'
        cases own
        obtain ⟨l', entry', named'⟩ := filled r' kind name declared'
        exact absurd named' (opened_find_none n.slots _ name miss r' l' entry' within)
  · intro name missing d kind declared inForce
    rw [Scope.find?, List.find?_append, Option.or_eq_none_iff] at missing
    rcases (in_force_snoc_iff here d i).mp inForce with outer | ⟨own, within⟩
    · exact resolves.missing name missing.2 d kind declared outer
    · obtain ⟨scope', r'⟩ := d
      cases own
      obtain ⟨l', entry', named'⟩ := filled r' kind name declared
      exact opened_find_none n.slots _ name missing.1 r' l' entry' within named'

end

end Typeflow.Document
