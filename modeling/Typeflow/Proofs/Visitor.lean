import Typeflow.Session
import Typeflow.Proofs.Outline

set_option autoImplicit false

namespace Typeflow

def Node.IsRebuilt : Node → Prop
  | .stmt _ | .expr _ => True
  | _ => False

def Node.IsHanded : Node → Prop
  | .block _ | .expr _ => True
  | _ => False

theorem children_handed (n : Node) (rebuilt : n.IsRebuilt) : ∀ c ∈ n.children, c.IsHanded := by
  cases n with
  | stmt s => cases s <;> simp [Node.children, Stmt.children, Node.IsHanded]
  | expr e =>
    cases e with
    | map s entries => exact List.forall_mem_map.mpr fun _ _ => trivial
    | _ => simp [Node.children, Expr.children, Node.IsHanded]
  | _ => exact rebuilt.elim

namespace Visitor

variable {m : Type → Type} [Monad m]

def part (v : Visitor m) : Node → m Node
  | .expr e => do
    let out ← v.expr e
    return .expr out
  | .block b => do
    v.block b
    return .block b
  | n => return n

def node (v : Visitor m) : Node → m Node
  | .expr e => do
    let out ← v.children e
    return .expr out
  | .stmt s => do
    let out ← v.statement s
    return .stmt out
  | n => return n

def recorded (v : Visitor m) : Visitor (StateT (List Node) m) where
  expr e := do
    modify (· ++ [.expr e])
    v.expr e
  block b := do
    modify (· ++ [.block b])
    v.block b

variable [LawfulMonad m] (v : Visitor m)

theorem part_expr (e : Expr) : v.part (.expr e) = .expr <$> v.expr e := bind_pure_comp _ _

theorem part_block (b : Block) : v.part (.block b) = (fun _ => .block b) <$> v.block b := bind_pure_comp _ _

theorem parts_exprs (items : List Expr) : items.mapM (v.part ∘ .expr) = List.map .expr <$> v.exprs items := by
  induction items with
  | nil => simp [exprs]
  | cons e rest ih => simp [exprs, part_expr, ih]

theorem parts_optional (e : Option Expr) :
    e.toList.mapM (v.part ∘ .expr) = (fun out => out.toList.map .expr) <$> v.optional e := by
  cases e with
  | none => simp [optional]
  | some e => simp [optional, part_expr]

-- What the values become says nothing of the keys, so both are followed at once.
theorem parts_entries (entries : List (String × Expr)) :
    (fun out => (out.map Prod.fst, out.map fun entry => Node.expr entry.2)) <$> v.entries entries =
      (fun parts => (entries.map Prod.fst, parts)) <$> entries.mapM (v.part ∘ fun entry => .expr entry.2) := by
  induction entries with
  | nil => simp [Visitor.entries]
  | cons entry rest ih =>
    obtain ⟨key, e⟩ := entry
    have grown (out : Expr) := congrArg (Functor.map fun row => (key :: row.1, Node.expr out :: row.2)) ih
    simpa [Visitor.entries, part_expr] using congrArg (v.expr e >>= ·) (funext grown)

theorem children_follow (e : Expr) :
    (fun out => (out.outline, out.children)) <$> v.children e =
      (fun parts => (e.outline, parts)) <$> e.children.mapM v.part := by
  cases e with
  | array s items => simp [children, Expr.children, Expr.outline, parts_exprs]
  | map s entries =>
    have keyed := congrArg (Functor.map fun row => (Expr.map s (row.1.map fun key => (key, blankExpr)), row.2))
      (v.parts_entries entries)
    simpa [children, Expr.children, Expr.outline, Function.comp_def] using keyed
  | call s callee args => simp [children, Expr.children, Expr.outline, parts_exprs, part_expr]
  | fieldRef s object target => simp [children, Expr.children, Expr.outline, parts_optional]
  | _ => simp [children, Expr.children, Expr.outline, part_expr, part_block]

theorem statement_follow (s : Stmt) :
    (fun out => (out.outline, out.children)) <$> v.statement s =
      (fun parts => (s.outline, parts)) <$> s.children.mapM v.part := by
  cases s with
  | declare | ret => simp [statement, Stmt.children, Stmt.outline, parts_optional]
  | branch s condition body alternative =>
    cases alternative <;> simp [statement, optionalBlock, Stmt.children, Stmt.outline, part_expr, part_block]
  | _ => simp [statement, Stmt.children, Stmt.outline, part_expr, part_block]

theorem node_follow (n : Node) (rebuilt : n.IsRebuilt) :
    (fun out => (out.outline, out.children)) <$> v.node n =
      (fun parts => (n.outline, parts)) <$> n.children.mapM v.part := by
  cases n with
  | stmt s =>
    simpa [node, Node.outline, Node.children] using
      congrArg (Functor.map fun row => (Node.stmt row.1, row.2)) (v.statement_follow s)
  | expr e =>
    simpa [node, Node.outline, Node.children] using
      congrArg (Functor.map fun row => (Node.expr row.1, row.2)) (v.children_follow e)
  | _ => exact rebuilt.elim

theorem part_recorded (c : Node) (handed : c.IsHanded) (seen : List Node) :
    (v.recorded.part c).run seen = (fun out => (out, seen ++ [c])) <$> v.part c := by
  cases c with
  | expr e => simp [part, recorded]
  | block b => simp [part, recorded]
  | _ => exact handed.elim

theorem parts_recorded (ns : List Node) (handed : ∀ c ∈ ns, c.IsHanded) (seen : List Node) :
    (ns.mapM v.recorded.part).run seen = (fun parts => (parts, seen ++ ns)) <$> ns.mapM v.part := by
  induction ns generalizing seen with
  | nil => simp
  | cons c rest ih =>
    obtain ⟨first, others⟩ := List.forall_mem_cons.mp handed
    simp [part_recorded v c first, ih others]

theorem node_recorded (n : Node) (rebuilt : n.IsRebuilt) (seen : List Node) :
    (v.recorded.node n).run seen = (fun out => (out, seen ++ n.children)) <$> v.node n := by
  have followed := congrArg (StateT.run · seen) (v.recorded.node_follow n rebuilt)
  have plain := congrArg (Functor.map fun row => (row, seen ++ n.children)) (v.node_follow n rebuilt)
  have : Nonempty (Node × List Node) := ⟨(n, seen)⟩
  -- outline and children tell the results apart, and on these both sides agree
  refine (map_inj_right_of_nonempty (f := fun run => ((run.1.outline, run.1.children), run.2)) ?_).mp ?_
  · rintro ⟨a, _⟩ ⟨b, _⟩ same
    obtain ⟨⟨outline, children⟩, rfl⟩ : ((_ ∧ _) ∧ _) := by simpa using same
    rw [eq_of_outline a b outline children]
  · simp only [StateT.run_map, parts_recorded v n.children (children_handed n rebuilt), Functor.map_map] at followed plain ⊢
    exact followed.trans plain.symm

-- Whatever the callbacks do, they are handed the children, each once and in order. What they
-- give for expressions, and the blocks as they are, become the children, and nothing else of
-- the node changes.
theorem rebuilding_follows_children (n : Node) (rebuilt : n.IsRebuilt) :
    (∀ seen, (v.recorded.node n).run seen = do
      let out ← v.node n
      return (out, seen ++ n.children)) ∧
    (do
      let out ← v.node n
      return (out.outline, out.children)) =
    (do
      let parts ← n.children.mapM v.part
      return (n.outline, parts)) ∧
    ∀ out : Node, out.outline = n.outline → out.children = n.children → out = n := by
  refine ⟨fun seen => ?_, ?_, fun out => eq_of_outline out n⟩
  · rw [bind_pure_comp]
    exact v.node_recorded n rebuilt seen
  · rw [bind_pure_comp, bind_pure_comp]
    exact v.node_follow n rebuilt

-- `if (box instanceof Crate) {} else {}`
def boxTest : Expr := .instanceOf ⟨2, none⟩ (.localRef ⟨1, none⟩ ⟨0, .letBound, "box"⟩) (.cls ⟨"Crate", 0⟩ [])

def whenCrate : Block := .mk ⟨3, none⟩ []

def otherwise : Block := .mk ⟨4, none⟩ []

def boxBranch : Node := .stmt (.branch ⟨5, none⟩ boxTest whenCrate (some otherwise))

def crateCasts : Visitor (StateT Session.Replaced Explore) := Session.castingVisitor (.cls ⟨"Crate", 0⟩ [])

theorem casting_follows_branch :
    boxBranch.IsRebuilt ∧
    (crateCasts.recorded.node boxBranch).run [] = (do
      let out ← crateCasts.node boxBranch
      return (out, [.expr boxTest, .block whenCrate, .block otherwise])) ∧
    (do
      let out ← crateCasts.node boxBranch
      return (out.outline, out.children)) =
    (do
      let cast ← crateCasts.expr boxTest
      crateCasts.block whenCrate
      crateCasts.block otherwise
      return (boxBranch.outline, [.expr cast, .block whenCrate, .block otherwise])) := by
  obtain ⟨record, followed, _⟩ := rebuilding_follows_children crateCasts boxBranch trivial
  have children : boxBranch.children = [.expr boxTest, .block whenCrate, .block otherwise] := rfl
  refine ⟨trivial, record [], ?_⟩
  rw [followed, children]
  simp [part_expr, part_block]

end Visitor

end Typeflow
