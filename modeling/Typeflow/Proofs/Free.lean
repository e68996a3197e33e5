import Typeflow.Proofs.Infer.Rules

set_option autoImplicit false

namespace Typeflow

def Node.opens (n c : Node) : List Local :=
  match c with
  | .block _ => n.binders
  | _ => []

def Node.declares : Node → List Local
  | .stmt (.declare _ target _) => [target]
  | _ => []

inductive Free (l : Local) : Node → Prop
  | ref (s : Site) : Free l (.expr (.localRef s l))
  -- declarations bind for what comes after them, so it matters what stands before the child
  | part (n : Node) (before : List Node) (c : Node) (after : List Node) (split : n.children = before ++ c :: after)
      (inner : Free l c) (unbound : l ∉ n.opens c) (undeclared : l ∉ before.flatMap Node.declares) : Free l n

theorem children_declare_nothing (n c : Node) (notBlock : ∀ b, n ≠ .block b) (child : c ∈ n.children) : c.declares = [] := by
  have notStmt : ∀ s, c ≠ .stmt s := by
    rintro s rfl
    cases n with
    | file f => simp [Node.children] at child
    | function f => simp [Node.children] at child
    | block b => exact notBlock b rfl
    | stmt s => cases s <;> simp [Node.children, Stmt.children] at child
    | expr e => cases e <;> simp [Node.children, Expr.children] at child
  cases c with
  | stmt s => exact (notStmt s rfl).elim
  | _ => rfl

theorem Free.of_child {l : Local} (n c : Node) (notBlock : ∀ b, n ≠ .block b) (child : c ∈ n.children)
    (unbound : l ∉ n.opens c) (inner : Free l c) : Free l n := by
  obtain ⟨before, after, split⟩ := List.append_of_mem child
  refine .part n before c after split inner unbound fun declared => ?_
  obtain ⟨m, member, binds⟩ := List.mem_flatMap.mp declared
  rw [children_declare_nothing n m notBlock (split ▸ List.mem_append_left _ member)] at binds
  cases binds

theorem Free.cases {l : Local} {n : Node} (free : Free l n) :
    (∃ s, n = .expr (.localRef s l)) ∨ ∃ c ∈ n.children, Free l c ∧ l ∉ n.opens c := by
  cases free with
  | ref s => exact .inl ⟨s, rfl⟩
  | part _ before c after split inner unbound undeclared =>
    exact .inr ⟨c, split ▸ List.mem_append_right _ List.mem_cons_self, inner, unbound⟩

def FreeIn (l : Local) (ns : List Node) : Prop :=
  ∃ before c after, ns = before ++ c :: after ∧ Free l c ∧ l ∉ before.flatMap Node.declares

theorem free_block_iff (l : Local) (b : Block) : Free l (.block b) ↔ FreeIn l (b.statements.map .stmt) := by
  have opens : ∀ c, (Node.block b).opens c = [] := by
    intro c
    cases c <;> rfl
  constructor
  · intro free
    cases free with
    | part _ before c after split inner unbound undeclared => exact ⟨before, c, after, split, inner, undeclared⟩
  · rintro ⟨before, c, after, split, inner, undeclared⟩
    exact .part _ before c after split inner (by simp [opens]) undeclared

theorem free_in_cons (l : Local) (n : Node) (rest : List Node) :
    FreeIn l (n :: rest) ↔ Free l n ∨ l ∉ n.declares ∧ FreeIn l rest := by
  constructor
  · rintro ⟨before, c, after, split, inner, undeclared⟩
    cases before with
    | nil =>
      cases split
      exact .inl inner
    | cons first before =>
      cases split
      rw [List.flatMap_cons, List.mem_append, not_or] at undeclared
      exact .inr ⟨undeclared.1, before, c, after, rfl, inner, undeclared.2⟩
  · rintro (here | ⟨undeclared, before, c, after, rfl, inner, earlier⟩)
    · exact ⟨[], n, rest, rfl, here, List.not_mem_nil⟩
    · refine ⟨n :: before, c, after, rfl, inner, ?_⟩
      rw [List.flatMap_cons, List.mem_append, not_or]
      exact ⟨undeclared, earlier⟩

end Typeflow
