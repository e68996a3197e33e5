import Typeflow.Proofs.Document.Closed
import Typeflow.Proofs.Infer.Moves
import Typeflow.Proofs.Infer.Watched
import Typeflow.Proofs.Narrow.Rewriting
import Typeflow.Proofs.Stage

set_option autoImplicit false

namespace Typeflow

theorem binders_of_outline (a b : Node) (same : a.outline = b.outline) : a.binders = b.binders := by
  have own : ∀ n : Node, n.outline.binders = n.binders := by
    intro n
    cases n with
    | stmt s => cases s <;> rfl
    | expr e => cases e <;> rfl
    | _ => rfl
  rw [← own a, same, own]

theorem declares_of_outline (a b : Node) (same : a.outline = b.outline) : a.declares = b.declares := by
  have own : ∀ n : Node, n.outline.declares = n.declares := by
    intro n
    cases n with
    | stmt s => cases s <;> rfl
    | _ => rfl
  rw [← own a, same, own]

theorem opens_of_outline (m a b : Node) (same : a.outline = b.outline) : m.opens a = m.opens b := by
  have own : ∀ n : Node, m.opens n.outline = m.opens n := by
    intro n
    cases n <;> rfl
  rw [← own a, same, own]

theorem opens_of_binders (a b c : Node) (same : a.binders = b.binders) : a.opens c = b.opens c := by
  cases c with
  | block body => exact same
  | _ => rfl

theorem ref_of_outline (n : Node) (s : Site) (l : Local) (same : n.outline = .expr (.localRef s l)) :
    n = .expr (.localRef s l) := by
  cases n with
  | expr e =>
    cases e with
    | localRef => exact same
    | _ => cases same
  | _ => cases same

namespace Narrow

structure Reflects (n out : Node) : Prop where
  free : ∀ l, Free l out → Free l n
  declares : out.declares = n.declares
  opens : ∀ m : Node, m.opens out = m.opens n

theorem reflects_split {ns before after : List Node} {c : Node} (row : List.Forall₂ Reflects ns (before ++ c :: after)) :
    ∃ before' c' after', ns = before' ++ c' :: after' ∧ Reflects c' c ∧
      before'.flatMap Node.declares = before.flatMap Node.declares := by
  induction before generalizing ns with
  | nil =>
    cases row with
    | @cons n _ rest _ here later => exact ⟨[], n, rest, rfl, here, rfl⟩
  | cons first before ih =>
    cases row with
    | @cons n _ rest _ here later =>
      obtain ⟨before', c', after', rfl, reflects, same⟩ := ih later
      refine ⟨n :: before', c', after', rfl, reflects, ?_⟩
      rw [List.flatMap_cons, List.flatMap_cons, here.declares, same]

theorem Reflects.node (a b : Node) (parts : List.Forall₂ Reflects a.children b.children) (outline : b.outline = a.outline) :
    Reflects a b where
  free l free := by
    cases free with
    | ref s => rw [ref_of_outline a s l outline.symm]; exact .ref s
    | part _ before c after split inner unbound undeclared =>
      rw [split] at parts
      obtain ⟨before', c', after', split', reflects, same⟩ := reflects_split parts
      refine .part a before' c' after' split' (reflects.free l inner) ?_ (same ▸ undeclared)
      rw [← reflects.opens, opens_of_binders a b c (binders_of_outline a b outline.symm)]
      exact unbound
  declares := declares_of_outline b a outline
  opens m := opens_of_outline m b a outline

theorem rewrites_reflect {p q : Progress} {ns outs : List Node} (run : Rewrites p q ns outs) : List.Forall₂ Reflects ns outs := by
  induction run with
  | nil p => exact .nil
  | append first second ih ih' => exact List.rel_append ih ih'
  | scope body ih => exact ih
  | node a b parts outline ih => exact .cons (.node a b ih outline) .nil
  | test n s operand check rebuilt outline ih => exact ih
  | @cast p q e out fact rebuilt outline active ih =>
    obtain ⟨reflects, _⟩ := List.forall₂_cons.mp ih
    refine .cons ⟨fun l free => ?_, rfl, fun m => rfl⟩ .nil
    rcases free.cases with ⟨s, same⟩ | ⟨c, child, inner, _⟩
    · cases same
    · rw [List.mem_singleton.mp child] at inner
      exact reflects.free l inner

end Narrow

theorem prepared_closed (config : Config) (unit : Document.UnitDoc) (u : Document.Built) (built : Document.build unit = .ok u)
    (l : Local) : ¬ Free l (.file ((Stage.start u).prepared config).file) := by
  have closed := Document.build_closed unit u built l
  rw [Stage.prepared]
  split
  · rw [Stage.narrow_eq, (Stage.narrowed_fields _ _ _).1]
    have reflects := Narrow.rewrites_reflect (Stage.start u).rewriting_rewrites
    exact fun free => closed ((List.forall₂_cons.mp reflects).1.free l free)
  · exact closed

namespace Infer

theorem watched_steady (ctx : Context) (strategies : List Strategy) :
    Steady (fun problem => problem.isEarlyUse = false) ctx
      (strategies.map (Strategy.watched fun _ _ => pure false)) := by
  refine ⟨fun _ usual => usual, fun plugin listed e p => ?_⟩
  obtain ⟨s, _, rfl⟩ := List.mem_map.mp listed
  by_cases typed : ∀ site target, e = .localRef site target → p.notes.ofLocal target.id ≠ .unknown
  · rw [Moves, watched_infer s e p typed]
    exact strategy_moves (fun _ usual => usual) ctx e p s fun site target same => .inr (typed site target same)
  · obtain ⟨site, target, rfl, unknown⟩ : ∃ site target, e = .localRef site target ∧ p.notes.ofLocal target.id = .unknown := by
      simpa using typed
    refine moves_local_type target _ ?_
    rw [unknown]
    exact moves_pure false

end Infer

theorem inference_watched (otherwise : Infer.Context → Expr → Infer.InferM Bool) (strategies : List Infer.Strategy) (st : Stage)
    (prepared : st.Prepared) (closed : ∀ l, ¬ Free l (.file st.file)) :
    st.inference (strategies.map (Infer.Strategy.watched otherwise)) = st.inference (strategies.map Infer.Strategy.plugin) := by
  have context := Infer.context_whole st.file st.parents prepared.declared prepared.whole
  have pending := Infer.file_pending st.file ⟨st.notes, st.bag, st.trace⟩ prepared.whole prepared.distinct prepared.sound
    prepared.untyped
  exact Infer.infer_file_same context _ pending closed

theorem run_passes_reported (config : Config) (chain : Infer.Chain) (u : Document.Built) (d : Diagnostic)
    (reported : d ∈ (runPasses config chain u).bag) :
    d ∈ ((Stage.start u).prepared config).bag ∨ d ∈ (((Stage.start u).prepared config).inference chain).2.bag := by
  rcases run_passes_cases config chain u with ⟨_, same⟩ | ⟨why, _, same⟩ | ⟨_, _, ⟨_, same⟩ | ⟨_, same⟩⟩
  · exact .inl (by rwa [same] at reported)
  · exact .inr (by rwa [same] at reported)
  · rw [same, Stage.result, Stage.concluded_bag] at reported
    exact .inr reported
  · rw [same, finish_bag, Stage.concluded_bag] at reported
    exact .inr reported

open Infer in
theorem locals_typed_before_use (unit : Document.UnitDoc) (u : Document.Built) (built : Document.build unit = .ok u)
    (config : Config) (strategies : List Strategy) :
    let result := runPasses config (strategies.map Strategy.plugin) u
    (∀ otherwise, runPasses config (strategies.map (Strategy.watched otherwise)) u = result) ∧
      (∀ d ∈ result.bag, d.problem.isEarlyUse = false) ∧
      ∀ d, result.failure = some (.inference (.fatal d)) → d.problem.isEarlyUse = false := by
  intro result
  have sound := Document.build_sound unit u built
  have ready := Stage.prepared_prepared config u sound
  have same := fun otherwise => inference_watched otherwise strategies _ ready (prepared_closed config unit u built)
  have watched : ∀ otherwise, runPasses config (strategies.map (Strategy.watched otherwise)) u = result := by
    intro otherwise
    rw [runPasses, Stage.infer_eq, same otherwise, ← Stage.infer_eq]
    rfl
  have usual : ∀ d ∈ result.bag, d.problem.isEarlyUse = false := by
    intro d reported
    rw [← watched fun _ _ => pure false] at reported
    rcases run_passes_reported config _ u d reported with early | late
    · rw [ready.bag] at early
      cases early
    · rcases moves_reported (infer_file_moves (watched_steady _ strategies)) d late with early | usual
      · rw [ready.bag] at early
        cases early
      · exact usual
  refine ⟨watched, usual, fun d failed => usual d ?_⟩
  -- an error that ends inference is the last thing that was reported
  rcases run_passes_cases config (strategies.map Strategy.plugin) u with ⟨_, same⟩ | ⟨why, outcome, same⟩ | ⟨_, _, last⟩
  · rw [show result = _ from same] at failed
    cases failed
  · rw [show result = _ from same] at failed ⊢
    cases failed
    exact Stage.inference_fatal strategies _ ready d outcome
  · rcases last with ⟨_, same⟩ | ⟨_, same⟩
    · rw [show result = _ from same] at failed
      cases failed
    · rw [show result = _ from same, finish_eq] at failed
      split at failed <;> cases failed

open Infer in
theorem add_to_items_typed_before_use :
    ∃ u, Document.build addToItems = .ok u ∧
      (Node.file u.file).nodes.any (fun n => n.kind == .parameterRef) ∧
      let result := runPasses { beforeInference := true } (Strategy.all.map Strategy.plugin) u
      (∀ otherwise, runPasses { beforeInference := true } (Strategy.all.map (Strategy.watched otherwise)) u = result) ∧
        (∀ d ∈ result.bag, d.problem.isEarlyUse = false) ∧
        ∀ d, result.failure = some (.inference (.fatal d)) → d.problem.isEarlyUse = false := by
  have builds : (match Document.build addToItems with
      | .ok u => (Node.file u.file).nodes.any fun n => n.kind == .parameterRef
      | .error _ => false) = true := by
    decide +kernel
  split at builds
  next u built => exact ⟨u, built, builds, locals_typed_before_use addToItems u built _ Strategy.all⟩
  next => cases builds

end Typeflow
