import Typeflow.Proofs.Narrow.Recast
import Typeflow.Proofs.Type.Whole

set_option autoImplicit false

namespace Typeflow

-- The nodes `ns` became `outs`, and on the way the numbers from `n` up to `n'` were given away.
structure Renumbered (n n' : NodeId) (ns outs : List Node) : Prop where
  next : n ≤ n'
  ids : (outs.flatMap Node.ids).Perm (ns.flatMap Node.ids ++ List.range' n (n' - n))
  whole : (∀ c ∈ ns, ∀ m ∈ c.nodes, m.Whole) → ∀ c ∈ outs, ∀ m ∈ c.nodes, m.Whole

namespace Renumbered

variable {n n' n'' : NodeId} {ns ns' outs outs' : List Node}

theorem nil (n : NodeId) : Renumbered n n [] [] :=
  ⟨Nat.le_refl n, by simp, fun _ _ member => absurd member List.not_mem_nil⟩

theorem append (first : Renumbered n n' ns outs) (second : Renumbered n' n'' ns' outs') :
    Renumbered n n'' (ns ++ ns') (outs ++ outs') := by
  have numbers : List.range' n (n' - n) ++ List.range' n' (n'' - n') = List.range' n (n'' - n) := by
    obtain ⟨k, rfl⟩ := Nat.exists_eq_add_of_le first.next
    obtain ⟨k', rfl⟩ := Nat.exists_eq_add_of_le second.next
    rw [Nat.add_sub_cancel_left, Nat.add_sub_cancel_left, Nat.add_assoc, Nat.add_sub_cancel_left, List.range'_append_1]
  refine ⟨Nat.le_trans first.next second.next, ?_, fun whole => ?_⟩
  · rw [List.flatMap_append, List.flatMap_append, ← numbers]
    refine (first.ids.append second.ids).trans ?_
    rw [List.append_assoc, List.append_assoc]
    exact (List.perm_append_comm_assoc _ _ _).append_left _
  · rw [List.forall_mem_append] at whole ⊢
    exact ⟨first.whole whole.1, second.whole whole.2⟩

theorem node (a b : Node) (parts : Renumbered n n' a.children b.children) (id : b.id = a.id)
    (own : a.Whole → b.Whole) : Renumbered n n' [a] [b] := by
  refine ⟨parts.next, ?_, fun whole => List.forall_mem_singleton.mpr fun m below => ?_⟩
  · rw [List.flatMap_singleton, List.flatMap_singleton, ids_eq, ids_eq, id]
    exact parts.ids.cons _
  · have whole := List.forall_mem_singleton.mp whole
    rcases (mem_nodes_iff b m).mp below with rfl | ⟨c, child, below⟩
    · exact own (whole a (mem_nodes_self a))
    · exact parts.whole (fun c child m below => whole m (mem_nodes_child a c m child below)) c child m below

end Renumbered

def Checked (choice : Expr → Option Test) : Prop := ∀ e t, choice e = some t → t.check.whole

section

variable {choice : Expr → Option Test}

theorem place_renumbered (checks : Checked choice) {n n' : NodeId} (e out : Expr) (parts : Renumbered n n' [.expr e] [.expr out]) :
    Renumbered n (place choice e out n').2 [.expr e] [.expr (place choice e out n').1] := by
  cases decided : choice e with
  | none =>
    rw [place_none choice e out n' decided]
    exact parts
  | some t =>
    rw [place_some choice e out n' t decided]
    have numbers : List.range' n (n' + 1 - n) = List.range' n (n' - n) ++ [n'] := by
      rw [Nat.sub_add_comm parts.next, List.range'_concat, Nat.one_mul, Nat.add_sub_cancel' parts.next]
    refine ⟨Nat.le_succ_of_le parts.next, ?_, fun whole => List.forall_mem_singleton.mpr fun m below => ?_⟩
    · -- the cast is entered before its operand but numbered after everything in it
      have ids : (Node.expr (.cast ⟨n', e.location⟩ out t.check (some t.id))).ids = n' :: [Node.expr out].flatMap Node.ids :=
        ids_eq _
      rw [List.flatMap_singleton, ids, numbers, ← List.append_assoc]
      exact (parts.ids.cons n').trans (List.perm_append_singleton n' _).symm
    · rcases (mem_nodes_iff _ m).mp below with rfl | ⟨c, child, below⟩
      · exact checks e t decided
      · exact parts.whole whole c child m below

theorem whole_of_outline (m n : Node) (outline : m.outline = n.outline) (whole : n.Whole) : m.Whole := by
  have own : ∀ n : Node, n.outline.Whole ↔ n.Whole := by
    intro n
    cases n with
    | expr e => cases e <;> rfl
    | _ => rfl
  rw [← own m, outline, own n]
  exact whole

def renumbersTour (checks : Checked choice) : Tour (recasting choice) (recastNode choice) where
  Before _ _ := True
  Inside _ k done outs q := Renumbered k q done outs
  Outside n k done outs q := Renumbered k q (n.scope ++ done) outs
  After n k out q := Renumbered k q [n] [out]
  enter _ k _ := .nil k
  inside _ _ _ _ _ _ _ _ now := ⟨trivial, now.append⟩
  leave n _ _ _ now := by
    rw [List.append_nil]
    exact now
  outside _ _ _ _ _ _ _ _ now := by
    refine ⟨trivial, fun after => ?_⟩
    rw [← List.append_assoc]
    exact now.append after
  close n k m q now outline := by
    rw [scope_outside] at now
    have rebuilt : Renumbered k q [n] [m] := .node n m now (id_of_outline m n outline) (whole_of_outline m n outline)
    rcases expr_of_outline m n outline with ⟨out, e, rfl, rfl⟩ | ⟨other, _⟩
    · exact place_renumbered checks e out rebuilt
    · rw [close_other choice n m other]
      exact rebuilt

theorem recast_file (checks : Checked choice) (file : SourceFile) (n : NodeId) :
    Renumbered n (file.recast choice n).2 [.file file] [.file (file.recast choice n).1] :=
  (renumbersTour checks).node (recast_keeps choice) (.file file) n trivial

end

end Typeflow
