import Typeflow.Proofs.Narrow.Nodes
import Typeflow.Proofs.Narrow.Simulation

set_option autoImplicit false

namespace Typeflow.Narrow

-- Going through the nodes `ns` in the state `p` makes `outs` of them and ends in the state `q`.
inductive Rewrites : Progress → Progress → List Node → List Node → Prop
  | nil (p : Progress) : Rewrites p p [] []
  | append {p q r : Progress} {ns ns' outs outs' : List Node} (first : Rewrites p q ns outs)
      (second : Rewrites q r ns' outs') : Rewrites p r (ns ++ ns') (outs ++ outs')
  | scope {p q : Progress} {ns outs : List Node} (body : Rewrites p.entered q ns outs) : Rewrites p q.left ns outs
  | node {p q : Progress} (a b : Node) (parts : Rewrites p q a.children b.children) (outline : b.outline = a.outline) :
      Rewrites p q [a] [b]
  | test {p q : Progress} (n : Node) (s : Site) (operand : Expr) (check : Ty)
      (rebuilt : Rewrites p q [n] [.expr (.instanceOf s operand check)])
      (outline : (Node.expr (.instanceOf s operand check)).outline = n.outline) :
      Rewrites p (q.learned (.instanceOf s operand check) operand check) [n] [.expr (.instanceOf s operand check)]
  | cast {p q : Progress} (e out : Expr) (fact : Fact) (rebuilt : Rewrites p q [.expr e] [.expr out])
      (outline : (Node.expr out).outline = (Node.expr e).outline) (active : fact ∈ q.active) :
      Rewrites p (q.wrapped fact out (castFor fact out q.fresh)) [.expr e] [.expr (castFor fact out q.fresh)]

theorem Rewrites.ran {p q : Progress} {ns outs : List Node} (run : Rewrites p q ns outs) :
    ∃ left, Ran (ns.flatMap Node.ids) left p q := by
  induction run with
  | nil p => exact ⟨[], .refl _ p⟩
  | append first second ih ih' =>
    obtain ⟨left, ran⟩ := ih
    obtain ⟨left', ran'⟩ := ih'
    rw [List.flatMap_append]
    exact ⟨left ++ left', ran.trans ran'⟩
  | scope body ih =>
    obtain ⟨left, ran⟩ := ih
    exact ⟨[], ran.around⟩
  | node a b parts outline ih =>
    obtain ⟨left, ran⟩ := ih
    exact ⟨left, ran.weaken (by simpa using children_within a)⟩
  | test n s operand check rebuilt outline ih =>
    obtain ⟨left, ran⟩ := ih
    have learned := ran.trans (Ran.learned _ (.instanceOf s operand check) operand check ⟨s, operand, check⟩ ⟨rfl, rfl, rfl⟩)
    exact ⟨_, learned.weaken (by simp)⟩
  | @cast p q e out fact rebuilt outline active ih =>
    obtain ⟨left, ran⟩ := ih
    have own : out.id = e.id := id_of_outline (.expr out) (.expr e) outline
    have wrapped := ran.trans (Ran.wrapped q fact out (castFor fact out q.fresh) rfl)
    rw [own, List.flatMap_singleton] at wrapped
    have inside : e.id ∈ (Node.expr e).ids := mem_ids_self (.expr e)
    exact ⟨_, wrapped.weaken (by simpa using inside)⟩

theorem Rewrites.fresh_le {p q : Progress} {ns outs : List Node} (run : Rewrites p q ns outs) : p.fresh ≤ q.fresh := by
  obtain ⟨_, ran⟩ := run.ran
  exact ran.fresh

theorem between_iff (a b c i : Nat) (first : a ≤ b) (second : b ≤ c) : a ≤ i ∧ i < c ↔ a ≤ i ∧ i < b ∨ b ≤ i ∧ i < c := by
  omega

theorem cast_nodes (fact : Fact) (e : Expr) (id : NodeId) :
    (Node.expr (castFor fact e id)).nodes = .expr (castFor fact e id) :: (Node.expr e).nodes := by
  rw [nodes_eq]
  simp [castFor, Node.children, Expr.children]

theorem cast_ids (fact : Fact) (e : Expr) (id : NodeId) : (Node.expr (castFor fact e id)).ids = id :: (Node.expr e).ids := by
  rw [Node.ids, cast_nodes]
  rfl

theorem Rewrites.mem_ids {p q : Progress} {ns outs : List Node} (run : Rewrites p q ns outs) (id : NodeId) :
    id ∈ outs.flatMap Node.ids ↔ id ∈ ns.flatMap Node.ids ∨ p.fresh ≤ id ∧ id < q.fresh := by
  induction run with
  | nil p => simp
  | @append p q r ns ns' outs outs' first second ih ih' =>
    rw [List.flatMap_append, List.flatMap_append, List.mem_append, List.mem_append, ih, ih',
      between_iff p.fresh q.fresh r.fresh id first.fresh_le second.fresh_le]
    exact or_or_or_comm
  | scope body ih => rwa [left_fresh]
  | node a b parts outline ih =>
    rw [List.flatMap_singleton, List.flatMap_singleton, ids_eq, ids_eq a, List.mem_cons, List.mem_cons, ih,
      id_of_outline b a outline, or_assoc]
  | test n s operand check rebuilt outline ih => rwa [learned_fresh]
  | @cast p q e out fact rebuilt outline active ih =>
    rw [List.flatMap_singleton] at ih ⊢
    have last : q.fresh ≤ id ∧ id < q.fresh + 1 ↔ id = q.fresh := by
      rw [Nat.lt_succ_iff, and_comm, ← Nat.le_antisymm_iff]
    rw [cast_ids, wrapped_fresh, List.mem_cons, ih,
      between_iff p.fresh q.fresh (q.fresh + 1) id rebuilt.fresh_le (Nat.le_succ _), last, or_comm, or_assoc]

section

variable {node? : NodeId → Option Node}

theorem settle_rewrites {p q : Progress} (e out : Expr)
    (parts : Rewrites p q (Node.expr e).children (Node.expr out).children)
    (outline : (Node.expr out).outline = (Node.expr e).outline) :
    Rewrites p (settle node? out q).2 [.expr e] [.expr (settle node? out q).1] := by
  rw [settle_eq]
  by_cases target : isTarget node? q.parents out.id
  · rw [if_pos target]
    exact .node _ _ parts outline
  · rw [if_neg target]
    cases found : q.active.find? fun f => out.sameValue f.subject with
    | none => exact .node _ _ parts outline
    | some fact => exact .cast e out fact (.node _ _ parts outline) outline (List.mem_of_find?_eq_some found)

theorem close_rewrites {p q : Progress} (n m : Node) (parts : Rewrites p q n.children m.children)
    (outline : m.outline = n.outline) : Rewrites p (closeNode node? m q).2 [n] [(closeNode node? m q).1] := by
  rcases expr_of_outline m n outline with ⟨out, e, rfl, rfl⟩ | ⟨other, _⟩
  · cases closing node? out with
    | test s operand check isTest =>
      subst isTest
      exact .test _ s operand check (.node _ _ parts outline) outline
    | kept _ _ closed =>
      rw [closeNode, closed]
      exact .node _ _ parts outline
    | settled _ _ closed =>
      rw [closeNode, closed]
      exact settle_rewrites e out parts outline
  · rw [close_node_other node? m other]
    exact .node n m parts outline

def rewritesTour (node? : NodeId → Option Node) : Tour (narrowing node?) (narrowNode node?) where
  Before _ _ := True
  Inside _ p done outs q := Rewrites p.entered q done outs
  Outside n p done outs q := Rewrites p q (n.scope ++ done) outs
  After n p out q := Rewrites p q [n] [out]
  enter _ p _ := .nil p.entered
  inside _ _ _ _ _ _ _ _ now := ⟨trivial, now.append⟩
  leave n p outs q now := by
    rw [List.append_nil]
    exact now.scope
  outside n p done c todo outs q _ now := by
    refine ⟨trivial, fun after => ?_⟩
    rw [← List.append_assoc]
    exact now.append after
  close n p m q now outline := by
    rw [scope_outside] at now
    exact close_rewrites n m now outline

theorem narrow_node_rewrites (n : Node) (p : Progress) :
    Rewrites p (narrowNode node? n p).2 [n] [(narrowNode node? n p).1] :=
  (rewritesTour node?).node (narrow_keeps node?) n p trivial

theorem narrow_expr_rewrites (e : Expr) (p : Progress) :
    Rewrites p (narrowExpr node? e p).2 [.expr e] [.expr (narrowExpr node? e p).1] :=
  narrow_node_rewrites (.expr e) p

theorem narrow_file_rewrites (file : SourceFile) (p : Progress) :
    Rewrites p (narrowFile node? file p).2 [.file file] [.file (narrowFile node? file p).1] :=
  narrow_node_rewrites (.file file) p

end

end Typeflow.Narrow
