import Typeflow.Proofs.Infer.Lockstep
import Typeflow.Proofs.Stage

set_option autoImplicit false

namespace Typeflow

-- The name stands for the plugin of the strategy.
def Infer.Strategy.Called (spelling : String → String) (s : Infer.Strategy) (name : String) : Prop :=
  spelling name = s.plugin.configName spelling

namespace Infer

section

variable {spelling : String → String} (apart : Strategy.ToldApart spelling)

include apart

theorem named_known (s : Strategy) (name : String) (called : s.Called spelling name) :
    Chain.default.named? spelling name = some s.plugin := by
  have found : (Chain.default.named? spelling name).isSome := by
    rw [Chain.named?, List.find?_isSome]
    refine ⟨s.plugin, List.mem_reverse.mpr (List.mem_map_of_mem (strategy_listed s)), ?_⟩
    simp [← show spelling name = s.plugin.configName spelling from called]
  obtain ⟨plugin, named⟩ := Option.isSome_iff_exists.mp found
  obtain ⟨s', rfl, called'⟩ := named_strategy name plugin named
  rw [named, apart s' s (called'.trans called)]

-- Known names, in any order and however often, give the plugins of just those strategies.
theorem only_known (names : List String) (known : ∀ name ∈ names, ∃ s : Strategy, s.Called spelling name) :
    ∃ strategies : List Strategy, Chain.default.only spelling names = .ok (strategies.map Strategy.plugin) ∧
      ∀ s, s ∈ strategies ↔ ∃ name ∈ names, s.Called spelling name := by
  induction names with
  | nil => exact ⟨[], rfl, by simp⟩
  | cons name rest ih =>
    obtain ⟨⟨s, called⟩, later⟩ := List.forall_mem_cons.mp known
    obtain ⟨strategies, found, listed⟩ := ih later
    refine ⟨s :: strategies, ?_, fun s' => ?_⟩
    · rw [Chain.only] at found ⊢
      rw [List.mapM_cons, named_known apart s name called, found]
      rfl
    · rw [List.mem_cons, listed]
      constructor
      · rintro (rfl | ⟨other, member, called'⟩)
        · exact ⟨name, List.mem_cons_self, called⟩
        · exact ⟨other, List.mem_cons_of_mem _ member, called'⟩
      · rintro ⟨other, member, called'⟩
        rcases List.mem_cons.mp member with rfl | member
        · exact .inl (apart s' s (called'.symm.trans called))
        · exact .inr ⟨other, member, called'⟩

end

theorem lookup_strategies (strategies : List Strategy) (e : Expr) (s : Strategy) (claims : s.claims e.kind) :
    Chain.lookup? (strategies.map Strategy.plugin) e = if s ∈ strategies then some s.plugin else none := by
  have found : Chain.lookup? (strategies.map Strategy.plugin) e =
      (strategies.find? fun s' => s'.claims e.kind).map Strategy.plugin := List.find?_map ..
  rw [found]
  by_cases listed : s ∈ strategies
  · have somebody : (strategies.find? fun s' => s'.claims e.kind).isSome := by
      rw [List.find?_isSome]
      exact ⟨s, listed, claims⟩
    obtain ⟨s', first⟩ := Option.isSome_iff_exists.mp somebody
    have claims' : s'.claims e.kind := by simpa using List.find?_some first
    rw [first, (claims_iff s e.kind claims s').mp claims', if_pos listed]
    rfl
  · have nobody : (strategies.find? fun s' => s'.claims e.kind) = none := by
      rw [List.find?_eq_none]
      intro s' member claims'
      exact listed ((claims_iff s e.kind claims s').mp claims' ▸ member)
    rw [nobody, if_neg listed]
    rfl

def Missed (root : Node) (strategies : List Strategy) (e : Expr) : Prop :=
  .expr e ∈ root.nodes ∧ ∃ s, s ∉ strategies ∧ ∀ s' : Strategy, s'.claims e.kind ↔ s' = s

theorem strategies_in_step (ctx : Context) (root : Node) (strategies : List Strategy) :
    InStep (Missed root strategies) ctx root (strategies.map Strategy.plugin) Chain.default := by
  intro e below p
  have moves : Moves (fun _ => True) p (Chain.infer Chain.default ctx e) := chain_moves (strategies_steady ctx _) e
  obtain ⟨s, claims⟩ := every_expression_claimed e
  have full : Chain.lookup? Chain.default e = some s.plugin := by
    rw [Chain.default, lookup_strategies _ e s claims, if_pos (strategy_listed s)]
  refine ⟨moves, ?_⟩
  by_cases listed : s ∈ strategies
  · left
    rw [Chain.infer, Chain.infer, full, lookup_strategies _ e s claims, if_pos listed]
  · right
    refine ⟨e, p, ⟨below, s, listed, claims_iff s e.kind claims⟩, ?_, moves⟩
    rw [Chain.infer, lookup_strategies _ e s claims, if_neg listed]
    rfl

end Infer

theorem run_passes_congr (config : Config) (chain chain' : Infer.Chain) (u : Document.Built)
    (same : ((Stage.start u).prepared config).inference chain = ((Stage.start u).prepared config).inference chain') :
    runPasses config chain u = runPasses config chain' u := by
  rw [runPasses, Stage.infer_eq, same, ← Stage.infer_eq]
  rfl

theorem run_passes_bag (config : Config) (chain : Infer.Chain) (u : Document.Built)
    (ready : ((Stage.start u).prepared config).fault = none) :
    (runPasses config chain u).bag = (((Stage.start u).prepared config).inference chain).2.bag := by
  rcases run_passes_cases config chain u with ⟨fault, _⟩ | ⟨why, _, same⟩ | ⟨_, _, ⟨_, same⟩ | ⟨_, same⟩⟩
  · exact absurd ready fault
  · rw [same]
    rfl
  · rw [same, Stage.result, Stage.concluded_bag]
    rfl
  · rw [same, finish_bag, Stage.concluded_bag]
    rfl

theorem run_passes_stopped (config : Config) (chain : Infer.Chain) (u : Document.Built) (why : Infer.Failure)
    (ready : ((Stage.start u).prepared config).fault = none)
    (stopped : (((Stage.start u).prepared config).inference chain).1 = .error why) :
    (runPasses config chain u).failure = some (.inference why) ∧
      (runPasses config chain u).file = ((Stage.start u).prepared config).file := by
  rcases run_passes_cases config chain u with ⟨fault, _⟩ | ⟨why', failed, same⟩ | ⟨passed, _⟩
  · exact absurd ready fault
  · rw [stopped] at failed
    cases failed
    rw [same]
    exact ⟨rfl, rfl⟩
  · rw [stopped] at passed
    cases passed

-- A unit fails where no plugin of the list, but one that was left out, infers an expression of
-- it. Until then everything was as with all plugins.
structure Unserved (config : Config) (result standard : Result) (e : Expr) : Prop where
  inUnit : .expr e ∈ (Node.file result.file).nodes
  failure : result.failure = some (.inference (.unclaimed e.kind e.location))
  omitted : ∃ s : Infer.Strategy, config.Omits Text.snakeCase s ∧ ∀ s' : Infer.Strategy, s'.claims e.kind ↔ s' = s
  reported : result.bag <+: standard.bag

theorem run_passes_selected (config : Config) (strategies : List Infer.Strategy) (u : Document.Built)
    (omitted : ∀ s, s ∉ strategies → config.Omits Text.snakeCase s) :
    runPasses config (strategies.map Infer.Strategy.plugin) u = runPasses config Infer.Chain.default u ∨
      ∃ e, Unserved config (runPasses config (strategies.map Infer.Strategy.plugin) u)
        (runPasses config Infer.Chain.default u) e := by
  let st := (Stage.start u).prepared config
  cases ready : st.fault with
  | some why =>
    -- nothing is inferred after a fault
    left
    rw [runPasses, runPasses]
    simp only [show ((Stage.start u).prepared config).fault = some why from ready, Option.isSome_some, if_true]
  | none =>
    have inStep := Infer.strategies_in_step (.ofFile st.file st.parents) (.file st.file) strategies
    rcases (Infer.infer_file_follows inStep ⟨st.notes, st.bag, st.trace⟩).outcome with
      same | ⟨e, q, ⟨below, s, missing, only⟩, stopped, more⟩
    · exact .inl (run_passes_congr config _ _ u same)
    · right
      have failed : st.inference (strategies.map Infer.Strategy.plugin) = (.error (.unclaimed e.kind e.location), q) := stopped
      obtain ⟨failure, file⟩ := run_passes_stopped config _ u _ ready (congrArg Prod.fst failed)
      refine ⟨e, file ▸ below, failure, ⟨s, omitted s missing, only⟩, ?_⟩
      rw [run_passes_bag config _ u ready, run_passes_bag config _ u ready, failed]
      exact (Infer.moves_fill more).bag

theorem plugin_list_changes_no_result (u : Document.Built) (config : Config) (canceled : Bool)
    (known : ∀ name ∈ config.plugins, ∃ s : Infer.Strategy, s.Called Text.snakeCase name) :
    let result := compile config canceled u
    let standard := compile { config with plugins := [] } canceled u
    ((∀ s : Infer.Strategy, ∃ name ∈ config.plugins, s.Called Text.snakeCase name) → result = standard) ∧
      (result = standard ∨ ∃ e, Unserved config result standard e) := by
  intro result standard
  have selected : result = standard ∨ ∃ e, Unserved config result standard e := by
    cases canceled with
    | true => exact .inl rfl
    | false =>
      by_cases empty : config.plugins = []
      · left
        change compile config false u = compile { config with plugins := [] } false u
        rw [← empty]
      · obtain ⟨strategies, found, listed⟩ := Infer.only_known Infer.snake_case_tells_apart config.plugins known
        have chain : config.chain = .ok (strategies.map Infer.Strategy.plugin) := by
          rw [Config.chain, if_neg (by simpa using empty), found]
        have given : result = runPasses config (strategies.map Infer.Strategy.plugin) u := by
          change compile config false u = _
          rw [compile, chain]
          rfl
        rw [given]
        refine run_passes_selected config strategies u fun s missing => ⟨empty, fun name member called => ?_⟩
        exact missing ((listed s).mpr ⟨name, member, called⟩)
  refine ⟨fun all => selected.resolve_right ?_, selected⟩
  -- no plugin was left out, so that there is none to miss
  rintro ⟨e, unserved⟩
  obtain ⟨s, omitted, _⟩ := unserved.omitted
  obtain ⟨name, member, called⟩ := all s
  exact omitted.2 name member called

open Infer in
theorem plugin_lists_for_add_to_items :
    let reversed : Config := { plugins := ["calls", "Operators", "casts", "members", "references", "lambdaParams",
      "calls", "container_literals", "literals"] }
    let withoutCalls : Config := { plugins := ["operators", "references", "literals", "lambda_params",
      "container_literals"] }
    ∃ u, Document.build addToItems = .ok u ∧
      compile reversed false u = compile {} false u ∧
      (compile withoutCalls false u).failure.map CompileError.message =
        some "*ast.Call at <unknown>: no inference plugin claimed expression" ∧
      ∃ e, Unserved withoutCalls (compile withoutCalls false u) (compile {} false u) e := by
  intro reversed withoutCalls
  have known : ∀ name ∈ reversed.plugins ++ withoutCalls.plugins, ∃ s ∈ Strategy.all,
      Text.snakeCase name = s.plugin.configName Text.snakeCase := by
    decide +kernel
  have all : ∀ s ∈ Strategy.all, ∃ name ∈ reversed.plugins, Text.snakeCase name = s.plugin.configName Text.snakeCase := by
    decide +kernel
  have stops : (match Document.build addToItems with
      | .ok u => ((compile withoutCalls false u).failure.map CompileError.message,
          (compile {} false u).failure.map CompileError.message)
      | .error _ => (none, none)) = (some "*ast.Call at <unknown>: no inference plugin claimed expression", none) := by
    decide +kernel
  rw [List.forall_mem_append] at known
  split at stops
  next u built =>
    obtain ⟨message, passes⟩ := Prod.mk.inj stops
    have same := plugin_list_changes_no_result u reversed false fun name member => (known.1 name member).imp fun _ => And.right
    have other := plugin_list_changes_no_result u withoutCalls false fun name member =>
      (known.2 name member).imp fun _ => And.right
    refine ⟨u, built, same.1 fun s => all s (strategy_listed s), message, other.2.resolve_left fun equal => ?_⟩
    rw [show compile withoutCalls false u = compile {} false u from equal, passes] at message
    cases message
  next => cases stops

end Typeflow
