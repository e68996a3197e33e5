import Typeflow.Proofs.Narrow.Placement
import Typeflow.Proofs.Narrow.Rewriting

set_option autoImplicit false

namespace Typeflow

section

variable (made : NodeId → Bool)

mutual

def Expr.strip : Expr → Expr
  | .literal s value => .literal s value
  | .array s items => .array s (stripExprs items)
  | .map s entries => .map s (stripEntries entries)
  | .lambda s params returns body => .lambda s params returns body.strip
  | .instanceOf s operand check => .instanceOf s operand.strip check
  | .cast s operand target origin =>
    if origin.isSome && made s.id then operand.strip else .cast s operand.strip target origin
  | .binary s op left right => .binary s op left.strip right.strip
  | .unary s op operand => .unary s op operand.strip
  | .conditional s condition whenTrue whenFalse => .conditional s condition.strip whenTrue.strip whenFalse.strip
  | .property s object name => .property s object.strip name
  | .call s callee args => .call s callee.strip (stripExprs args)
  | .localRef s target => .localRef s target
  | .fieldRef s none target => .fieldRef s none target
  | .fieldRef s (some object) target => .fieldRef s (some object.strip) target
  | .thisRef s decl => .thisRef s decl
  | .staticRef s decl => .staticRef s decl

def stripExprs : List Expr → List Expr
  | [] => []
  | e :: rest => e.strip :: stripExprs rest

def stripEntries : List (String × Expr) → List (String × Expr)
  | [] => []
  | (key, e) :: rest => (key, e.strip) :: stripEntries rest

def Block.strip : Block → Block
  | .mk s statements => .mk s (stripStmts statements)

def stripStmts : List Stmt → List Stmt
  | [] => []
  | s :: rest => s.strip :: stripStmts rest

def Stmt.strip : Stmt → Stmt
  | .expression s value => .expression s value.strip
  | .declare s target none => .declare s target none
  | .declare s target (some init) => .declare s target (some init.strip)
  | .ret s none => .ret s none
  | .ret s (some value) => .ret s (some value.strip)
  | .branch s condition body none => .branch s condition.strip body.strip none
  | .branch s condition body (some alternative) =>
    .branch s condition.strip body.strip (some alternative.strip)
  | .loop s condition body => .loop s condition.strip body.strip
  | .foreach s target items body => .foreach s target items.strip body.strip

end

def Function.strip (f : Function) : Function := { f with body := f.body.strip made }

def SourceFile.strip (f : SourceFile) : SourceFile :=
  { f with functions := f.functions.map (Function.strip made), main := f.main.map (Block.strip made) }

def Node.strip : Node → Node
  | .file f => .file (f.strip made)
  | .function f => .function (f.strip made)
  | .block b => .block (b.strip made)
  | .stmt s => .stmt (s.strip made)
  | .expr e => .expr (e.strip made)

theorem strip_exprs_eq (items : List Expr) : stripExprs made items = items.map (Expr.strip made) := by
  induction items with
  | nil => rfl
  | cons e rest ih => rw [stripExprs, ih, List.map_cons]

theorem strip_entries_eq (entries : List (String × Expr)) :
    stripEntries made entries = entries.map fun entry => (entry.1, entry.2.strip made) := by
  induction entries with
  | nil => rfl
  | cons entry rest ih => rw [stripEntries, ih, List.map_cons]

theorem strip_stmts_eq (statements : List Stmt) : stripStmts made statements = statements.map (Stmt.strip made) := by
  induction statements with
  | nil => rfl
  | cons s rest ih => rw [stripStmts, ih, List.map_cons]

theorem strip_kept (n : Node) (kept : made n.id = false) :
    (n.strip made).outline = n.outline ∧ (n.strip made).children = n.children.map (Node.strip made) := by
  cases n with
  | file f =>
    refine ⟨rfl, ?_⟩
    cases main : f.main <;> simp [Node.strip, SourceFile.strip, Node.children, main, Function.comp_def]
  | function f => exact ⟨rfl, rfl⟩
  | block b =>
    obtain ⟨s, statements⟩ := b
    refine ⟨rfl, ?_⟩
    simp [Node.strip, Block.strip, Node.children, Block.statements, strip_stmts_eq, Function.comp_def]
  | stmt s =>
    cases s with
    | declare s target init => cases init <;> exact ⟨rfl, rfl⟩
    | ret s value => cases value <;> exact ⟨rfl, rfl⟩
    | branch s condition body alternative => cases alternative <;> exact ⟨rfl, rfl⟩
    | _ => exact ⟨rfl, rfl⟩
  | expr e =>
    cases e with
    | array s items =>
      refine ⟨rfl, ?_⟩
      simp [Node.strip, Expr.strip, Node.children, Expr.children, strip_exprs_eq, Function.comp_def]
    | map s entries =>
      rw [Node.strip, Expr.strip, strip_entries_eq]
      exact ⟨outline_of_keys s (by simp [Function.comp_def]), by simp [Node.children, Expr.children, Node.strip]⟩
    | call s callee args =>
      refine ⟨rfl, ?_⟩
      simp [Node.strip, Expr.strip, Node.children, Expr.children, strip_exprs_eq, Function.comp_def]
    | fieldRef s object target => cases object <;> exact ⟨rfl, rfl⟩
    | cast s operand target origin =>
      have stays : made s.id = false := kept
      rw [Node.strip, Expr.strip, stays, Bool.and_false, if_neg Bool.false_ne_true]
      exact ⟨rfl, rfl⟩
    | _ => exact ⟨rfl, rfl⟩

end

namespace Narrow

theorem strip_rewritten {made : NodeId → Bool} {p q : Progress} {ns outs : List Node} (run : Rewrites p q ns outs)
    (old : ∀ id ∈ ns.flatMap Node.ids, made id = false) (new : ∀ id, p.fresh ≤ id → made id = true) :
    outs.map (Node.strip made) = ns := by
  induction run with
  | nil p => rfl
  | append first second ih ih' =>
    rw [List.flatMap_append] at old
    rw [List.map_append, ih (fun id member => old id (List.mem_append_left _ member)) new,
      ih' (fun id member => old id (List.mem_append_right _ member))
        (fun id above => new id (Nat.le_trans first.fresh_le above))]
  | scope body ih => exact ih old new
  | node a b parts outline ih =>
    rw [List.flatMap_singleton] at old
    have kept : made b.id = false := by
      rw [id_of_outline b a outline]
      exact old _ (mem_ids_self a)
    obtain ⟨same, stripped⟩ := strip_kept made b kept
    have children := ih (fun id member => old id (children_within a member)) new
    rw [List.map_singleton, eq_of_outline _ _ (same.trans outline) (stripped.trans children)]
  | test n s operand check rebuilt outline ih => exact ih old new
  | @cast p q e out fact rebuilt outline active ih =>
    have inserted : made q.fresh = true := new q.fresh rebuilt.fresh_le
    -- the cast goes, and what it was put around is left
    have unwrapped : (castFor fact out q.fresh).strip made = out.strip made := by
      rw [castFor, Expr.strip, inserted]
      rfl
    rw [List.map_singleton, Node.strip, unwrapped]
    exact ih old new

theorem cast_operands {p q : Progress} {ns outs : List Node} (run : Rewrites p q ns outs)
    (explicit : ∀ n ∈ ns.flatMap Node.nodes, n.implicit = false) :
    ∀ n ∈ outs.flatMap Node.nodes, n.implicit = true → ∀ c ∈ n.children, c.implicit = false := by
  induction run with
  | nil p => simp
  | append first second ih ih' =>
    rw [List.flatMap_append] at explicit ⊢
    intro n member
    rcases List.mem_append.mp member with early | late
    · exact ih (fun m inside => explicit m (List.mem_append_left _ inside)) n early
    · exact ih' (fun m inside => explicit m (List.mem_append_right _ inside)) n late
  | scope body ih => exact ih explicit
  | node a b parts outline ih =>
    rw [List.flatMap_singleton] at explicit ⊢
    rw [nodes_eq a] at explicit
    rw [nodes_eq b]
    intro n member implicit
    rcases List.mem_cons.mp member with rfl | below
    · have plain := explicit a List.mem_cons_self
      rw [← implicit_of_outline n a outline, implicit] at plain
      cases plain
    · exact ih (fun m inside => explicit m (List.mem_cons_of_mem _ inside)) n below implicit
  | test n s operand check rebuilt outline ih => exact ih explicit
  | @cast p q e out fact rebuilt outline active ih =>
    simp only [List.flatMap_singleton] at explicit ih
    rw [List.flatMap_singleton, cast_nodes]
    intro n member implicit
    rcases List.mem_cons.mp member with rfl | below
    · intro c child
      have same : c = .expr out := List.mem_singleton.mp child
      rw [same, implicit_of_outline _ _ outline]
      exact explicit _ (mem_nodes_self (.expr e))
    · exact ih explicit n below implicit

theorem narrowing_only_inserts_casts (node? : NodeId → Option Node) (file : SourceFile) (fresh : NodeId)
    (parents : Parents) (notes : Annotations) (below : ∀ id ∈ (Node.file file).ids, id < fresh) :
    let run := narrowFile node? file (start fresh parents notes)
    run.1.strip (fun id => id ∉ (Node.file file).ids) = file ∧
      (∀ id ∈ (Node.file file).ids,
        run.2.notes.expected id = notes.expected id ∧ run.2.notes.actual id = notes.actual id) ∧
      run.2.notes.ofLocal = notes.ofLocal ∧
      ((∀ n ∈ (Node.file file).nodes, n.implicit = false) →
        ∀ n ∈ (Node.file run.1).nodes, n.implicit = true → ∀ c ∈ n.children, c.implicit = false) := by
  intro run
  have rewrites : Rewrites (start fresh parents notes) run.2 [.file file] [.file run.1] := narrow_file_rewrites file _
  obtain ⟨left, ran⟩ := rewrites.ran
  have stripped : [Node.file run.1].map (Node.strip fun id => id ∉ (Node.file file).ids) = [.file file] := by
    apply strip_rewritten rewrites
    · simp
    · intro id above
      simpa using fun member => Nat.not_lt_of_le above (below id member)
  refine ⟨?_, fun id member => ⟨by rw [ran.expected]; rfl, ran.actual id (below id member)⟩, ran.ofLocal, ?_⟩
  · simpa [Node.strip] using stripped
  · intro explicit
    simpa using cast_operands rewrites (by simpa using explicit)

theorem guarded_use_strips :
    (∀ id ∈ (Node.file guardedUse).ids, id < 10) ∧
      let run := narrowFile (Node.file guardedUse).find? guardedUse (start 10 (Parents.link (.file guardedUse)) .empty)
      (∃ n ∈ (Node.file run.1).nodes, n.implicit = true) ∧
      run.1.strip (fun id => id ∉ (Node.file guardedUse).ids) = guardedUse ∧
      (∀ n ∈ (Node.file run.1).nodes, n.implicit = true → ∀ c ∈ n.children, c.implicit = false) := by
  have below : ∀ id ∈ (Node.file guardedUse).ids, id < 10 := by decide +kernel
  obtain ⟨stripped, _, _, operands⟩ := narrowing_only_inserts_casts (Node.file guardedUse).find? guardedUse 10
    (Parents.link (.file guardedUse)) .empty below
  exact ⟨below, by decide +kernel, stripped, operands (by decide +kernel)⟩

end Narrow

end Typeflow
