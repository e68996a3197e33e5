import Typeflow.Proofs.Infer.Moves
import Typeflow.Proofs.Tree

set_option autoImplicit false

namespace Typeflow.Infer

-- The full run `y` goes in small steps, and `x` either does the same or stops on its way, at an
-- expression that it misses a plugin for.
structure Follows {α : Type} (missed : Expr → Prop) (p : Progress) (x y : InferM α) : Prop where
  moves : Moves (fun _ => True) p y
  outcome : x p = y p ∨ ∃ e q, missed e ∧ x p = (.error (.unclaimed e.kind e.location), q) ∧
    Relation.ReflTransGen (Move fun _ => True) q (y p).2

section

variable {α β : Type} {missed : Expr → Prop} {p : Progress}

theorem Follows.same {y : InferM α} (moves : Moves (fun _ => True) p y) : Follows missed p y y :=
  ⟨moves, .inl rfl⟩

theorem Follows.bind {x y : InferM α} {f g : α → InferM β} (first : Follows missed p x y)
    (second : ∀ a q, y p = (.ok a, q) → Follows missed q (f a) (g a)) : Follows missed p (x >>= f) (y >>= g) := by
  refine ⟨first.moves.bind fun a q ran => (second a q ran).moves, ?_⟩
  rcases first.outcome with same | ⟨e, q, missing, stopped, more⟩
  · rw [bind_run, bind_run, same]
    rcases ran : y p with ⟨why | a, q⟩
    · exact .inl rfl
    · exact (second a q ran).outcome
  · -- `x` has stopped, and whatever `y` still does goes in steps
    refine .inr ⟨e, q, missing, by rw [bind_run, stopped], more.trans ?_⟩
    rw [bind_run]
    rcases ran : y p with ⟨why | a, r⟩
    · exact .refl
    · exact (second a r ran).moves

theorem follows_actual (e : Expr) {f g : Ty → InferM α}
    (rest : Follows missed p (f (p.notes.actual e.id)) (g (p.notes.actual e.id))) :
    Follows missed p (actual e >>= f) (actual e >>= g) := ⟨rest.moves, rest.outcome⟩

theorem follows_notes {f g : Annotations → InferM α} (rest : Follows missed p (f p.notes) (g p.notes)) :
    Follows missed p (notes >>= f) (notes >>= g) := ⟨rest.moves, rest.outcome⟩

end

def followsLogic (missed : Expr → Prop) : Logic where
  Holds := Follows missed
  ret _ a := .same (moves_pure a)
  seq := .bind
  guard {p e _ _} follows := by
    refine follows_actual e ?_
    split
    next untyped => exact follows ((is_unknown_iff _).mp untyped)
    next => exact .same (moves_pure ())

-- What two chains must do with the expressions of a tree for their runs over the tree to be in step.
def InStep (missed : Expr → Prop) (ctx : Context) (root : Node) (chain full : Chain) : Prop :=
  ∀ e, .expr e ∈ root.nodes → ∀ p, Follows missed p (chain.infer ctx e) (full.infer ctx e)

theorem below_child {root n c : Node} (below : n ∈ root.nodes) (child : c ∈ n.children) : c ∈ root.nodes :=
  mem_nodes_trans root n c below (mem_nodes_child n c c child (mem_nodes_self c))

section

variable {missed : Expr → Prop} {ctx : Context} {root : Node} {chain full : Chain}

theorem dispatch_follows (inStep : InStep missed ctx root chain full) (e : Expr) (below : .expr e ∈ root.nodes)
    (p : Progress) : Follows missed p (dispatch ctx chain e) (dispatch ctx full e) := by
  refine (inStep e below p).bind fun _ q _ => follows_actual e ?_
  split
  · exact .same (moves_throw _)
  · exact .same (moves_pure ())

-- Only two actions ask a plugin. The others are those of any chain, and of the empty one at that.
theorem action_follows (inStep : InStep missed ctx root chain full) {wanted : Ty} {n : Node} (below : n ∈ root.nodes)
    {done todo : List Step} (action : Action) (fits : action.Fits wanted n done todo) (p : Progress) :
    Follows missed p (action.run ctx chain) (action.run ctx full) := by
  have steady : Steady (fun _ => True) ctx [] := ⟨fun _ _ => trivial, nofun⟩
  cases action with
  | claim e =>
    obtain ⟨rfl, _⟩ := fits
    exact inStep e below p
  | dispatch e =>
    obtain ⟨rfl, _⟩ := fits
    exact dispatch_follows inStep e below p
  | suggest | suggestArgs | default | adopt | element | demand | register => exact .same (action_moves steady _ fits)

theorem step_follows (inStep : InStep missed ctx root chain full) {wanted : Ty} {n : Node} (below : n ∈ root.nodes)
    {done todo : List Step} (s : Step) (fits : s.Fits wanted n done todo) (found : List Ty) (p : Progress)
    (parts : ∀ c ∈ s.parts, ∀ type q, Follows missed q (inferPart ctx chain type c) (inferPart ctx full type c)) :
    Follows missed p (s.run ctx chain found) (s.run ctx full found) := by
  cases s with
  | visit type part =>
    exact follows_notes ((parts part List.mem_cons_self _ p).bind fun _ _ _ => .same (moves_pure _))
  | collect e => exact .same (moves_actual e _ (moves_pure _))
  | finish e params returns =>
    exact .same ((finish_lambda_moves (fun _ _ => trivial) e params returns found).seq fun _ _ => moves_pure _)
  | act action => exact (action_follows inStep below action fits p).bind fun _ _ _ => .same (moves_pure _)

def followsWalk (inStep : InStep missed ctx root chain full) : Walk (followsLogic missed) ctx ctx chain full where
  Before n _ _ := n ∈ root.nodes
  Between n _ _ _ _ _ _ := n ∈ root.nodes
  After _ _ _ _ _ := True
  skip _ _ _ _ _ := trivial
  enter _ _ _ below _ := below
  step n wanted _ done s todo found p split below parts := by
    have inside : ∀ c ∈ s.parts, c ∈ root.nodes := fun c member => below_child below (plan_child wanted n c done todo s split member)
    refine ⟨step_follows inStep below s (plan_fits wanted n done todo s split).1 found p ?_, fun _ _ _ => below⟩
    exact fun c member type q => (parts c member type q (inside c member)).1
  leave _ _ _ _ _ _ := trivial

theorem infer_file_follows (inStep : InStep missed ctx (.file ctx.file) chain full) (p : Progress) :
    Follows missed p (inferFile ctx chain) (inferFile ctx full) :=
  ((followsWalk inStep).file rfl p (mem_nodes_self _)).1

end

end Typeflow.Infer
