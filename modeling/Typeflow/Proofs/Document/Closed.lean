import Typeflow.Proofs.Document.Outcome
import Typeflow.Proofs.Free

set_option autoImplicit false

namespace Typeflow.Document

theorem mem_of_opened {β : Type} {slots : List (Option β)} {count : Nat} {b : β} (member : b ∈ opened slots count) :
    some b ∈ slots.take count := by
  rw [opened, List.mem_reverse, List.mem_filterMap] at member
  obtain ⟨slot, listed, rfl⟩ := member
  exact listed

theorem slots_bind (n : Node) (notBlock : n.isBlock = false) (l : Local) (slot : some l ∈ n.slots) : l ∈ n.binders := by
  cases n with
  | file => cases slot
  | function f => simpa [Node.slots, Node.binders] using slot
  | block => cases notBlock
  | stmt s =>
    cases s with
    | foreach => simpa [Node.slots, Node.binders] using slot
    | _ => cases slot
  | expr e =>
    cases e with
    | lambda => simpa [Node.slots, Node.binders] using slot
    | _ => cases slot

theorem declared_before (statements : List Stmt) (before after : List Node) (c : Node) (l : Local)
    (split : statements.map Node.stmt = before ++ c :: after)
    (slot : some l ∈ (statements.map Stmt.declared?).take before.length) : l ∈ before.flatMap Node.declares := by
  have earlier : before = (statements.take before.length).map Node.stmt := by
    rw [List.map_take, split, List.take_left']
    rfl
  rw [← List.map_take] at slot
  obtain ⟨s, member, declared⟩ := List.mem_map.mp slot
  rw [earlier, List.mem_flatMap]
  refine ⟨.stmt s, List.mem_map_of_mem member, ?_⟩
  cases s with
  | declare =>
    cases declared
    exact List.mem_cons_self
  | _ => cases declared

-- What a part of the document sees of the scope it stands in is bound there in the tree.
theorem opened_bound {ds : Declarations} {piece part : Piece} {n c : Node} {before after : List Node}
    (formed : Formed ds piece n) (inner : Formed ds part c) (split : n.children = before ++ c :: after)
    (here : piece.parts[before.length]? = some part)
    (l : Local) (member : l ∈ opened n.slots (piece.reach before.length)) :
    l ∈ n.opens c ∨ l ∈ before.flatMap Node.declares := by
  have slot := mem_of_opened member
  unfold Piece.reach at slot
  rw [here] at slot
  cases piece with
  | block body =>
    cases n with
    | block b => exact .inr (declared_before b.statements before after c l split slot)
    | _ => cases formed.block
  | _ =>
    cases part with
    | block body =>
      cases c with
      | block b => exact .inl (slots_bind n formed.block l (List.mem_of_mem_take slot))
      | _ => cases inner.block
    | _ => simp at slot

theorem elaborated_covers {ds : Declarations} {scope : Scope} {piece : Piece} {n : Node} (made : Elaborates ds scope piece n)
    (l : Local) (free : Free l n) : l ∈ scope := by
  induction made with
  | mk scope piece n sound formed refers slots lengths parts ih =>
    cases free with
    | ref s =>
      obtain ⟨name, _, found⟩ := Option.map_eq_some_iff.mp refers.symm
      exact List.mem_of_find?_eq_some found
    | part _ before c after split inner unbound undeclared =>
      have there : n.children[before.length]? = some c := by simp [split]
      obtain ⟨part, here⟩ := part_exists lengths there
      rcases List.mem_append.mp (ih _ part c here there inner) with own | outer
      · cases parts _ part c here there with
        | mk _ _ _ _ inner =>
          exact ((opened_bound formed inner split here l own).elim unbound undeclared).elim
      · exact outer

theorem build_closed (unit : UnitDoc) (u : Built) (built : build unit = .ok u) (l : Local) : ¬ Free l (.file u.file) := by
  obtain ⟨_, _, _, _, _, _, bound⟩ := built_bound unit u built
  intro free
  cases elaborated_covers (List.forall₂_cons.mp bound.elaborated).1 l free

end Typeflow.Document
