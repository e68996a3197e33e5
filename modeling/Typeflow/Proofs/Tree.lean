import Typeflow.Tree.Parents
import Mathlib.Data.List.Flatten
import Mathlib.Data.List.Nodup
import Mathlib.Data.List.Pairwise
import Mathlib.Data.List.Sublists

set_option autoImplicit false

namespace Typeflow

theorem walk_exprs_eq (skip : Node → Bool) (items : List Expr) :
    walkExprs skip items = items.flatMap (Expr.walk skip) := by
  induction items with
  | nil => rfl
  | cons e rest ih => rw [walkExprs, ih, List.flatMap_cons]

theorem walk_entries_eq (skip : Node → Bool) (entries : List (String × Expr)) :
    walkEntries skip entries = entries.flatMap fun entry => entry.2.walk skip := by
  induction entries with
  | nil => rfl
  | cons entry rest ih => rw [walkEntries, ih, List.flatMap_cons]

theorem walk_stmts_eq (skip : Node → Bool) (statements : List Stmt) :
    walkStmts skip statements = statements.flatMap (Stmt.walk skip) := by
  induction statements with
  | nil => rfl
  | cons s rest ih => rw [walkStmts, ih, List.flatMap_cons]

theorem nodes_eq (n : Node) : n.nodes = n :: n.children.flatMap Node.nodes := by
  cases n with
  | file f =>
    simp only [Node.nodes, Node.walk, SourceFile.walk, visit, Node.children, List.flatMap_append, List.flatMap_map]
    rfl
  | function f => simp [Node.nodes, Node.walk, Function.walk, visit, Node.children]
  | block b =>
    cases b
    simp only [Node.nodes, Node.walk, Block.walk, visit, Node.children, Block.statements, walk_stmts_eq, List.flatMap_map]
    rfl
  | stmt s =>
    cases s with
    | expression s value => simp [Node.nodes, Node.walk, Stmt.walk, visit, Node.children, Stmt.children]
    | declare s target init =>
      cases init <;> simp [Node.nodes, Node.walk, Stmt.walk, visit, Node.children, Stmt.children]
    | ret s value => cases value <;> simp [Node.nodes, Node.walk, Stmt.walk, visit, Node.children, Stmt.children]
    | branch s condition body alternative =>
      cases alternative <;> simp [Node.nodes, Node.walk, Stmt.walk, visit, Node.children, Stmt.children]
    | loop s condition body => simp [Node.nodes, Node.walk, Stmt.walk, visit, Node.children, Stmt.children]
    | foreach s target items body => simp [Node.nodes, Node.walk, Stmt.walk, visit, Node.children, Stmt.children]
  | expr e =>
    cases e with
    | array s items =>
      simp only [Node.nodes, Node.walk, Expr.walk, visit, Node.children, Expr.children, walk_exprs_eq, List.flatMap_map]
      rfl
    | map s entries =>
      simp only [Node.nodes, Node.walk, Expr.walk, visit, Node.children, Expr.children, walk_entries_eq, List.flatMap_map]
      rfl
    | call s callee args =>
      simp only [Node.nodes, Node.walk, Expr.walk, visit, Node.children, Expr.children, walk_exprs_eq,
        List.flatMap_cons, List.flatMap_map]
      rfl
    | fieldRef s object target =>
      cases object <;> simp [Node.nodes, Node.walk, Expr.walk, visit, Node.children, Expr.children]
    | _ => simp [Node.nodes, Node.walk, Expr.walk, visit, Node.children, Expr.children]

theorem child_smaller (n c : Node) (child : c ∈ n.children) : c.nodes.length < n.nodes.length := by
  obtain ⟨before, after, split⟩ := List.append_of_mem child
  rw [nodes_eq n, split]
  simp only [List.length_cons, List.flatMap_append, List.flatMap_cons, List.length_append]
  omega

theorem node_induction {P : Node → Prop} (step : ∀ n, (∀ c ∈ n.children, P c) → P n) (n : Node) : P n :=
  step n fun c _ => node_induction step c
termination_by n.nodes.length
decreasing_by exact child_smaller n c ‹_›

def Node.visits (n : Node) : List Expr :=
  (n.children.attach.flatMap fun c => c.1.visits) ++ n.expr?.toList
termination_by n.nodes.length
decreasing_by exact child_smaller n c.1 c.2

theorem visits_eq (n : Node) : n.visits = n.children.flatMap Node.visits ++ n.expr?.toList := by
  rw [Node.visits, List.flatMap_subtype (fun _ _ => rfl), List.unattach_attach]

theorem mem_nodes_self (n : Node) : n ∈ n.nodes := by
  rw [nodes_eq]
  exact List.mem_cons_self

theorem mem_nodes_iff (n m : Node) : m ∈ n.nodes ↔ m = n ∨ ∃ c ∈ n.children, m ∈ c.nodes := by
  rw [nodes_eq, List.mem_cons, List.mem_flatMap]

theorem mem_nodes_child (n c m : Node) (child : c ∈ n.children) (below : m ∈ c.nodes) : m ∈ n.nodes :=
  (mem_nodes_iff n m).mpr (.inr ⟨c, child, below⟩)

theorem mem_nodes_trans (n m k : Node) (first : m ∈ n.nodes) (second : k ∈ m.nodes) : k ∈ n.nodes := by
  induction n using node_induction with
  | step n ih =>
    rcases (mem_nodes_iff n m).mp first with rfl | ⟨c, child, below⟩
    · exact second
    · exact mem_nodes_child n c k child (ih c child below)

theorem nodes_sublist (n m : Node) (below : m ∈ n.nodes) : m.nodes.Sublist n.nodes := by
  induction n using node_induction with
  | step n ih =>
    rcases (mem_nodes_iff n m).mp below with rfl | ⟨c, child, below⟩
    · exact .refl _
    · rw [nodes_eq n]
      obtain ⟨before, after, split⟩ := List.append_of_mem child
      rw [split, List.flatMap_append, List.flatMap_cons]
      exact (ih c child below).trans
        (((List.sublist_append_left _ _).trans (List.sublist_append_right _ _)).trans (List.sublist_cons_self _ _))

theorem not_below_child (n c : Node) (child : c ∈ n.children) : n ∉ c.nodes := fun below =>
  Nat.not_le_of_lt (child_smaller n c child) (nodes_sublist c n below).length_le

theorem mem_visits_iff (n : Node) (e : Expr) : e ∈ n.visits ↔ .expr e ∈ n.nodes := by
  induction n using node_induction with
  | step n ih =>
    rw [visits_eq, mem_nodes_iff, List.mem_append, List.mem_flatMap]
    constructor
    · rintro (⟨c, child, below⟩ | here)
      · exact .inr ⟨c, child, (ih c child).mp below⟩
      · cases n <;> simp_all [Node.expr?]
    · rintro (rfl | ⟨c, child, below⟩)
      · exact .inr (by simp [Node.expr?])
      · exact .inl ⟨c, child, (ih c child).mpr below⟩

theorem visits_perm (n : Node) : n.visits.Perm (n.nodes.filterMap Node.expr?) := by
  induction n using node_induction with
  | step n ih =>
    rw [visits_eq, nodes_eq, ← List.singleton_append, List.filterMap_append, List.filterMap_flatMap]
    have own : n.expr?.toList = [n].filterMap Node.expr? := by cases n <;> rfl
    rw [own]
    exact List.perm_append_comm.trans (.append_left _ (List.Perm.flatMap_left _ ih))

def Node.ids (n : Node) : List NodeId := n.nodes.map Node.id

theorem ids_eq (n : Node) : n.ids = n.id :: n.children.flatMap Node.ids := by
  rw [Node.ids, nodes_eq, List.map_cons, List.map_flatMap]
  rfl

theorem mem_ids_of_mem_nodes (n m : Node) (below : m ∈ n.nodes) : m.id ∈ n.ids :=
  List.mem_map_of_mem below

theorem mem_ids_self (n : Node) : n.id ∈ n.ids := mem_ids_of_mem_nodes n n (mem_nodes_self n)

def Node.Distinct (n : Node) : Prop := n.ids.Nodup

theorem eq_of_same_id (n a b : Node) (distinct : n.Distinct) (left : a ∈ n.nodes) (right : b ∈ n.nodes)
    (same : a.id = b.id) : a = b :=
  List.inj_on_of_nodup_map distinct left right same

theorem visits_nodup (n : Node) (distinct : n.Distinct) : n.visits.Nodup := by
  rw [(visits_perm n).nodup_iff]
  refine List.Nodup.filterMap ?_ (List.Nodup.of_map Node.id distinct)
  intro a b e left right
  cases a <;> cases b <;> simp_all [Node.expr?]

theorem distinct_children (n : Node) (distinct : n.Distinct) : (n.children.flatMap Node.ids).Nodup := by
  rw [Node.Distinct, ids_eq] at distinct
  exact distinct.of_cons

theorem distinct_child (n c : Node) (distinct : n.Distinct) (child : c ∈ n.children) : c.Distinct :=
  (List.nodup_flatMap.mp (distinct_children n distinct)).1 c child

theorem children_nodup (n : Node) (distinct : n.Distinct) : n.children.Nodup := by
  have below : n.children.Sublist (n.children.flatMap Node.nodes) := by
    rw [← List.flatMap_singleton' n.children, List.flatMap_assoc]
    exact List.Sublist.flatMap_right _ fun c _ => by simp [mem_nodes_self]
  have nodes : (n.children.flatMap Node.nodes).Nodup := by
    refine List.Nodup.of_map Node.id ?_
    rw [List.map_flatMap]
    exact distinct_children n distinct
  exact below.nodup nodes

theorem children_disjoint (n c d m : Node) (distinct : n.Distinct) (left : c ∈ n.children) (right : d ∈ n.children)
    (belowLeft : m ∈ c.nodes) (belowRight : m ∈ d.nodes) : c = d := by
  by_contra different
  have : Std.Symm (Function.onFun List.Disjoint Node.ids) := ⟨fun _ _ apart _ left right => apart right left⟩
  have apart := (List.nodup_flatMap.mp (distinct_children n distinct)).2.forall left right different
  exact apart (mem_ids_of_mem_nodes c m belowLeft) (mem_ids_of_mem_nodes d m belowRight)

theorem child_within (n c : Node) (child : c ∈ n.children) : c.ids ⊆ n.children.flatMap Node.ids :=
  fun _ member => List.mem_flatMap.mpr ⟨c, child, member⟩

theorem children_within (n : Node) : n.children.flatMap Node.ids ⊆ n.ids := by
  rw [ids_eq]
  exact List.subset_cons_self _ _

theorem child_ids (n c : Node) (child : c ∈ n.children) : c.ids ⊆ n.ids :=
  List.Subset.trans (child_within n c child) (children_within n)

def Node.implicit : Node → Bool
  | .expr (.cast _ _ _ (some _)) => true
  | _ => false

theorem distinct_below (n m : Node) (distinct : n.Distinct) (below : m ∈ n.nodes) : m.Distinct := by
  induction n using node_induction with
  | step n ih =>
    rcases (mem_nodes_iff n m).mp below with rfl | ⟨c, child, below⟩
    · exact distinct
    · exact ih c child (distinct_child n c distinct child) below

end Typeflow
