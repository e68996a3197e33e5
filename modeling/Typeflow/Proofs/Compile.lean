import Typeflow.Compile
import Typeflow.Proofs.Infer.Derivation
import Typeflow.Proofs.Narrow.Numbering
import Typeflow.Proofs.Narrow.Placement

set_option autoImplicit false

namespace Typeflow

-- The configuration lists plugins, and the strategy is not one of them.
def Config.Omits (spelling : String → String) (config : Config) (s : Infer.Strategy) : Prop :=
  config.plugins ≠ [] ∧ ∀ name ∈ config.plugins, spelling name ≠ s.plugin.configName spelling

namespace Infer

-- No two strategies have the same name in configurations.
def Strategy.ToldApart (spelling : String → String) : Prop :=
  ∀ s s' : Strategy, s.plugin.configName spelling = s'.plugin.configName spelling → s = s'

theorem snake_case_tells_apart : Strategy.ToldApart Text.snakeCase := by
  have all : ∀ s ∈ Strategy.all, ∀ s' ∈ Strategy.all,
      s.plugin.configName Text.snakeCase = s'.plugin.configName Text.snakeCase → s = s' := by
    decide +kernel
  exact fun s s' => all s (strategy_listed s) s' (strategy_listed s')

section

variable {spelling : String → String}

theorem named_strategy (name : String) (plugin : Plugin) (found : Chain.default.named? spelling name = some plugin) :
    ∃ s : Strategy, plugin = s.plugin ∧ s.plugin.configName spelling = spelling name := by
  obtain ⟨s, _, rfl⟩ := List.mem_map.mp (List.mem_reverse.mp (List.mem_of_find?_eq_some found))
  exact ⟨s, rfl, by simpa using List.find?_some found⟩

-- The plugins of a list of names are strategies, and every strategy that is named is among them.
theorem only_strategies (apart : Strategy.ToldApart spelling) (names : List String) (chain : Chain)
    (found : Chain.default.only spelling names = .ok chain) :
    ∃ strategies : List Strategy, chain = strategies.map Strategy.plugin ∧
      ∀ s : Strategy, ∀ name ∈ names, spelling name = s.plugin.configName spelling → s ∈ strategies := by
  induction names generalizing chain with
  | nil =>
    cases found
    exact ⟨[], rfl, fun _ _ member => absurd member List.not_mem_nil⟩
  | cons name rest ih =>
    rw [Chain.only, List.mapM_cons] at found
    obtain ⟨plugin, first, found⟩ := Document.bind_ok _ _ _ found
    obtain ⟨others, more, found⟩ := Document.bind_ok _ _ _ found
    cases found
    obtain ⟨strategies, rfl, all⟩ := ih others more
    split at first
    next plugin' named =>
      cases first
      obtain ⟨s, rfl, called⟩ := named_strategy name plugin named
      refine ⟨s :: strategies, rfl, fun s' => List.forall_mem_cons.mpr ⟨fun same => ?_, fun other listed same => ?_⟩⟩
      · exact apart s' s (same.symm.trans called.symm) ▸ List.mem_cons_self
      · exact List.mem_cons_of_mem s (all s' other listed same)
    next => cases first

theorem only_unknown (names : List String) (name : String) (missing : Chain.default.only spelling names = .error name) :
    name ∈ names ∧ Chain.default.named? spelling name = none := by
  induction names with
  | nil => cases missing
  | cons first rest ih =>
    rw [Chain.only, List.mapM_cons] at missing
    cases named : Chain.default.named? spelling first with
    | none =>
      rw [named] at missing
      cases missing
      exact ⟨List.mem_cons_self, named⟩
    | some plugin =>
      rw [named] at missing
      cases more : Chain.default.only spelling rest with
      | error other =>
        rw [Chain.only] at more
        simp only [more] at missing
        cases missing
        obtain ⟨listed, unknown⟩ := ih more
        exact ⟨List.mem_cons_of_mem first listed, unknown⟩
      | ok others =>
        rw [Chain.only] at more
        simp only [more] at missing
        cases missing

end

theorem config_chain_strategies (config : Config) (chain : Chain) (found : config.chain = .ok chain) :
    ∃ strategies : List Strategy, chain = strategies.map Strategy.plugin ∧
      ∀ s : Strategy, s ∉ strategies → config.Omits Text.snakeCase s := by
  rw [Config.chain] at found
  split at found
  next =>
    cases found
    exact ⟨Strategy.all, rfl, fun s missing => absurd (strategy_listed s) missing⟩
  next named =>
    obtain ⟨strategies, rfl, all⟩ := only_strategies snake_case_tells_apart config.plugins chain found
    refine ⟨strategies, rfl, fun s missing => ⟨fun empty => named (by rw [empty]; rfl), fun name listed same => ?_⟩⟩
    exact missing (all s name listed same)

theorem config_chain_unknown (config : Config) (name : String) (missing : config.chain = .error name) :
    name ∈ config.plugins ∧ Chain.default.named? Text.snakeCase name = none := by
  rw [Config.chain] at missing
  split at missing
  next => cases missing
  next => exact only_unknown config.plugins name missing

end Infer

theorem choice_checked (root : Node) (whole : ∀ n ∈ root.nodes, n.Whole) : Checked (Narrow.choiceOf root) := by
  intro e t decided
  rw [Narrow.choiceOf, Narrow.choiceFrom] at decided
  split at decided
  next entered =>
    obtain ⟨more, grown, listed⟩ := known_grows _ _ _ _ entered.choose_spec
    rw [chosen] at decided
    split at decided
    next => cases decided
    next =>
      have member : t ∈ more := by simpa [grown] using List.mem_of_find?_eq_some decided
      have visited : t.expr ∈ root.visits := listed.subset (List.mem_map_of_mem member)
      exact whole _ ((mem_visits_iff root t.expr).mp visited)
  next => cases decided

namespace Stage

structure Fit (st : Stage) : Prop where
  parents : st.parents = .link (.file st.file)
  distinct : (Node.file st.file).Distinct
  below : ∀ id ∈ (Node.file st.file).ids, id < st.fresh
  untyped : ∀ id, st.fresh ≤ id → st.notes.actual id = .unknown

structure Narrows (st st' : Stage) : Prop where
  file : st'.file = (st.file.recast (Narrow.choiceOf (.file st.file)) st.fresh).1
  bag : st'.bag = st.bag
  fault : st'.fault = st.fault
  facts : st'.facts.isSome
  expected : st'.notes.expected = st.notes.expected
  ofLocal : st'.notes.ofLocal = st.notes.ofLocal
  untyped : (∀ id, st.notes.actual id = .unknown) → ∀ id, st'.notes.actual id = .unknown

theorem narrow_narrows (st : Stage) (fit : st.Fit) : st.Narrows st.narrow := by
  let out := Narrow.narrowFile (Node.file st.file).find? st.file (Narrow.start st.fresh st.parents st.notes)
  have narrowed : st.narrow = st.narrowed out.1 out.2 := rfl
  have run := Narrow.narrow_file_simulates st.file st.fresh st.notes fit.distinct fit.below
  rw [← fit.parents] at run
  have clean := run.ran.clean ⟨rfl, fit.untyped⟩
  have finished : out.2.outcome = none := by
    obtain ⟨_, _, scopes⟩ := run.ran.scopes
    rw [Narrow.Progress.outcome, clean.noFault, scopes]
    rfl
  rw [narrowed, Stage.narrowed, finished]
  exact ⟨run.value, rfl, rfl, rfl, run.ran.expected, run.ran.ofLocal, run.ran.untyped⟩

structure Prepared (st : Stage) : Prop where
  declared : st.file.declarations.Whole
  whole : ∀ n ∈ (Node.file st.file).nodes, n.Whole
  distinct : (Node.file st.file).Distinct
  sound : Infer.Sound st.notes
  untyped : ∀ id, st.notes.actual id = .unknown
  bag : st.bag = []
  fault : st.fault = none

theorem Narrows.prepared {st st' : Stage} (narrows : st.Narrows st') (prepared : st.Prepared)
    (below : ∀ id ∈ (Node.file st.file).ids, id < st.fresh) : st'.Prepared := by
  have cast := recast_file (choice_checked (.file st.file) prepared.whole) st.file st.fresh
  have untyped := narrows.untyped prepared.untyped
  rw [← narrows.file] at cast
  refine ⟨?_, ?_, ?_, ?_, untyped, narrows.bag.trans prepared.bag, narrows.fault.trans prepared.fault⟩
  · rw [narrows.file]
    exact prepared.declared
  · exact List.forall_mem_singleton.mp (cast.whole (List.forall_mem_singleton.mpr prepared.whole))
  · -- old numbers are below the first free one, those of casts are not
    have ids := cast.ids
    rw [List.flatMap_singleton, List.flatMap_singleton] at ids
    refine ids.nodup_iff.mpr (List.nodup_append.mpr ⟨prepared.distinct, List.nodup_range', fun id old id' new same => ?_⟩)
    exact absurd (below id old) (Nat.not_lt.mpr (same ▸ (List.mem_range'_1.mp new).1))
  · refine ⟨fun id => .inl (untyped id), ?_, ?_⟩
    · rw [narrows.expected]
      exact prepared.sound.expected
    · rw [narrows.ofLocal]
      exact prepared.sound.locals

theorem start_fit (u : Document.Built) (sound : u.Sound) : (start u).Fit :=
  ⟨rfl, sound.distinct, sound.below, fun id _ => sound.actual id⟩

theorem start_prepared (u : Document.Built) (sound : u.Sound) : (start u).Prepared :=
  ⟨sound.declared, sound.whole, sound.distinct, Infer.built_notes_sound u sound, sound.actual, rfl, rfl⟩

theorem prepared_prepared (config : Config) (u : Document.Built) (sound : u.Sound) : ((start u).prepared config).Prepared := by
  rw [prepared]
  split
  · exact (narrow_narrows _ (start_fit u sound)).prepared (start_prepared u sound) sound.below
  · exact start_prepared u sound

theorem infer_outcome (strategies : List Infer.Strategy) (st : Stage) (prepared : st.Prepared) :
    (∃ q, st.infer (strategies.map Infer.Strategy.plugin) =
        (none, { st with notes := q.notes, bag := q.bag, trace := q.trace }) ∧
      Infer.Advance (Node.file st.file).ids ⟨st.notes, st.bag, st.trace⟩ q) ∨
    ∃ why q, st.infer (strategies.map Infer.Strategy.plugin) =
        (some why, { st with notes := q.notes, bag := q.bag, trace := q.trace }) ∧
      Infer.Stops (strategies.map Infer.Strategy.plugin) ⟨st.notes, st.bag, st.trace⟩ q why := by
  have runs := Infer.infer_unit_runs st.file st.parents strategies ⟨st.notes, st.bag, st.trace⟩ prepared.declared
    prepared.whole prepared.distinct prepared.sound prepared.untyped
  rw [infer]
  rcases runs.outcome with ⟨_, q, ran, advance, _, _⟩ | ⟨why, q, ran, stops⟩
  · exact .inl ⟨q, by rw [show (Infer.inferFile _ _).run.run _ = _ from ran], advance⟩
  · exact .inr ⟨why, q, by rw [show (Infer.inferFile _ _).run.run _ = _ from ran], stops⟩

structure Concluded (config : Config) (st : Stage) : Prop where
  warnings : ∀ d ∈ st.bag, Infer.Warning d
  fault : st.fault = none
  facts : st.facts.isSome = config.narrowing

theorem concluded_concluded (config : Config) (u : Document.Built) (sound : u.Sound) (q : Infer.Progress)
    (advance : Infer.Advance (Node.file ((start u).prepared config).file).ids
      ⟨((start u).prepared config).notes, ((start u).prepared config).bag, ((start u).prepared config).trace⟩ q) :
    Concluded config
      ({ (start u).prepared config with notes := q.notes, bag := q.bag, trace := q.trace }.concluded config) := by
  have ready := prepared_prepared config u sound
  obtain ⟨more, bag, warnings⟩ := advance.bag
  rw [ready.bag, List.nil_append] at bag
  rw [concluded]
  split
  next last =>
    -- narrowing comes last, so inference saw the unit as it was built and its parent table still fits
    have first : (start u).prepared config = start u := by
      rw [prepared, if_neg (by simp_all)]
    rw [first] at advance ⊢
    have fit : Fit { start u with notes := q.notes, bag := q.bag, trace := q.trace } :=
      ⟨rfl, sound.distinct, sound.below, fun id new =>
        (advance.actual id fun old => Nat.not_lt.mpr new (sound.below id old)).trans (sound.actual id)⟩
    have narrows := narrow_narrows _ fit
    refine ⟨?_, narrows.fault, ?_⟩
    · rw [narrows.bag]
      exact bag ▸ warnings
    · rw [narrows.facts]
      simp_all
  next notLast =>
    refine ⟨bag ▸ warnings, ready.fault, ?_⟩
    change ((start u).prepared config).facts.isSome = config.narrowing
    rw [prepared]
    split
    · rw [(narrow_narrows _ (start_fit u sound)).facts]
      simp_all
    · have off : config.narrowing = false := by
        cases narrowing : config.narrowing with
        | false => rfl
        | true => simp_all
      rw [off]
      rfl

end Stage

-- The failures that a compilation may end with, and what each of them takes.
inductive Expected (config : Config) (canceled : Bool) : CompileError → Prop
  | canceled (stopped : canceled = true) : Expected config canceled .canceled
  | unknownPlugin (name : String) (listed : name ∈ config.plugins)
      (unknown : Infer.Chain.default.named? Text.snakeCase name = none) : Expected config canceled (.unknownPlugin name)
  | fatal (d : Diagnostic) : Expected config canceled (.inference (.fatal d))
  | unclaimed (kind : Kind) (location : Option Location) (s : Infer.Strategy) (claims : s.claims kind)
      (omitted : config.Omits Text.snakeCase s) : Expected config canceled (.inference (.unclaimed kind location))
  | warningsAsErrors (path : String) (count : Nat) : Expected config canceled (.warningsAsErrors path count)

def Completes (config : Config) (canceled : Bool) (u : Document.Built) : Prop :=
  canceled = false ∧ ∃ chain st, config.chain = .ok chain ∧ ((Stage.start u).prepared config).fault = none ∧
    ((Stage.start u).prepared config).infer chain = (none, st) ∧ (st.concluded config).fault = none

def CompileError.isStrict : CompileError → Bool
  | .warningsAsErrors .. => true
  | _ => false

structure Classified (config : Config) (canceled : Bool) (u : Document.Built) (r : Result) : Prop where
  fault : r.fault = none
  failure : ∀ why, r.failure = some why → Expected config canceled why
  types : ∀ d ∈ r.bag, d.problem.Whole
  fatal : ∀ d, r.failure = some (.inference (.fatal d)) → d.severity = .error ∧
    r.failure.map CompileError.message = some d.text ∧
    ∃ warnings, r.bag = warnings ++ [d] ∧ ∀ w ∈ warnings, w.severity = .warning
  warnings : (∀ d, r.failure ≠ some (.inference (.fatal d))) → ∀ w ∈ r.bag, w.severity = .warning
  completes : r.failure.all CompileError.isStrict ↔ Completes config canceled u
  strict : ∀ path count, r.failure = some (.warningsAsErrors path count) ↔ Completes config canceled u ∧
    config.warningsAsErrors ∧ 0 < r.bag.warnings.length ∧ path = r.file.path ∧ count = r.bag.warnings.length
  narrowing : r.facts.isSome ↔ config.narrowing ∧ r.failure.all CompileError.isStrict

theorem incomplete_classified (config : Config) (canceled : Bool) (u : Document.Built) (r : Result) (why : CompileError)
    (incomplete : ¬ Completes config canceled u) (failed : r.failure = some why) (expected : Expected config canceled why)
    (fault : r.fault = none) (facts : r.facts = none) (notStrict : why.isStrict = false)
    (types : ∀ d ∈ r.bag, d.problem.Whole)
    (fatal : ∀ d, why = .inference (.fatal d) → d.severity = .error ∧
      ∃ warnings, r.bag = warnings ++ [d] ∧ ∀ w ∈ warnings, w.severity = .warning)
    (warnings : (∀ d, why ≠ .inference (.fatal d)) → ∀ w ∈ r.bag, w.severity = .warning) :
    Classified config canceled u r where
  fault := fault
  failure other also := by
    cases failed.symm.trans also
    exact expected
  types := types
  fatal d also := by
    cases failed.symm.trans also
    obtain ⟨error, last⟩ := fatal d rfl
    exact ⟨error, by rw [failed]; rfl, last⟩
  warnings other := warnings fun d same => other d (same ▸ failed)
  completes := by simp [failed, notStrict, incomplete]
  strict path count := by
    refine ⟨fun also => ?_, fun ⟨complete, _⟩ => absurd complete incomplete⟩
    cases failed.symm.trans also
    cases notStrict
  narrowing := by simp [failed, facts, notStrict]

theorem failed_classified (config : Config) (u : Document.Built) (strategies : List Infer.Strategy) (st : Stage)
    (p q : Infer.Progress) (why : Infer.Failure) (incomplete : ¬ Completes config false u)
    (omitted : ∀ s, s ∉ strategies → config.Omits Text.snakeCase s) (fault : st.fault = none) (facts : st.facts = none)
    (before : p.bag = []) (after : st.bag = q.bag)
    (stops : Infer.Stops (strategies.map Infer.Strategy.plugin) p q why) :
    Classified config false u (st.result (some (.inference why))) := by
  cases stops with
  | fatal d more bag warnings error whole =>
    rw [before, List.nil_append] at bag
    have last : st.bag = more ++ [d] := after.trans bag
    refine incomplete_classified config false u _ _ incomplete rfl (.fatal d) fault facts rfl ?_ ?_ ?_
    · rw [Stage.result, last]
      exact List.forall_mem_append.mpr ⟨fun w member => (warnings w member).whole, List.forall_mem_singleton.mpr whole⟩
    · rintro _ ⟨⟩
      exact ⟨error, more, last, fun w member => (warnings w member).severity⟩
    · exact fun other => absurd rfl (other d)
  | unclaimed e more bag warnings nobody =>
    -- some strategy claims every expression, so it must be one that is not in the chain
    rw [before, List.nil_append] at bag
    have reported : ∀ w ∈ st.bag, Infer.Warning w := (after.trans bag) ▸ warnings
    obtain ⟨s, claims⟩ := Infer.every_expression_claimed e
    have missing : s ∉ strategies := by
      intro listed
      have refused : s.claims e.kind = false := nobody s.plugin (List.mem_map_of_mem listed)
      exact Bool.false_ne_true (refused.symm.trans claims)
    refine incomplete_classified config false u _ _ incomplete rfl (.unclaimed _ _ s claims (omitted s missing)) fault facts
      rfl (fun w member => (reported w member).whole) (fun d same => ?_) fun _ w member => (reported w member).severity
    cases same

theorem finish_eq (config : Config) (st : Stage) : st.finish config = (st.record .diagnostics).result
    (if config.warningsAsErrors ∧ 0 < st.bag.warnings.length then
      some (.warningsAsErrors st.file.path st.bag.warnings.length) else none) := by
  have same : (config.warningsAsErrors && decide (0 < st.bag.warnings.length)) ↔
      config.warningsAsErrors ∧ 0 < st.bag.warnings.length := by
    rw [Bool.and_eq_true, decide_eq_true_iff]
  by_cases strict : config.warningsAsErrors ∧ 0 < st.bag.warnings.length
  · rw [if_pos strict]
    exact if_pos (same.mpr strict)
  · rw [if_neg strict]
    exact if_neg fun also => strict (same.mp also)

theorem finish_classified (config : Config) (u : Document.Built) (st : Stage) (concluded : st.Concluded config)
    (complete : Completes config false u) : Classified config false u (st.finish config) := by
  have narrowing : st.facts.isSome ↔ config.narrowing := Bool.eq_iff_iff.mp concluded.facts
  rw [finish_eq]
  by_cases strict : config.warningsAsErrors ∧ 0 < st.bag.warnings.length
  · rw [if_pos strict]
    refine ⟨concluded.fault, ?_, fun w member => (concluded.warnings w member).whole, ?_,
      fun _ w member => (concluded.warnings w member).severity, iff_of_true rfl complete, fun path count => ⟨?_, ?_⟩,
      narrowing.trans (and_iff_left rfl).symm⟩
    · rintro _ ⟨⟩
      exact .warningsAsErrors _ _
    · rintro _ ⟨⟩
    · rintro ⟨⟩
      exact ⟨complete, strict.1, strict.2, rfl, rfl⟩
    · rintro ⟨_, _, _, rfl, rfl⟩
      rfl
  · rw [if_neg strict]
    refine ⟨concluded.fault, ?_, fun w member => (concluded.warnings w member).whole, ?_,
      fun _ w member => (concluded.warnings w member).severity, iff_of_true rfl complete, fun path count => ⟨?_, ?_⟩,
      narrowing.trans (and_iff_left rfl).symm⟩
    · rintro _ ⟨⟩
    · rintro _ ⟨⟩
    · rintro ⟨⟩
    · rintro ⟨_, wanted, reported, _⟩
      exact absurd ⟨wanted, reported⟩ strict

theorem run_passes_classified (config : Config) (u : Document.Built) (sound : u.Sound) (chain : Infer.Chain)
    (configured : config.chain = .ok chain) : Classified config false u (runPasses config chain u) := by
  obtain ⟨strategies, rfl, omitted⟩ := Infer.config_chain_strategies config chain configured
  have ready := Stage.prepared_prepared config u sound
  rw [runPasses]
  simp only [ready.fault, Option.isSome_none, Bool.false_eq_true, if_false]
  rcases Stage.infer_outcome strategies _ ready with ⟨q, ran, advance⟩ | ⟨why, q, ran, stops⟩
  · have concluded := Stage.concluded_concluded config u sound q advance
    rw [ran]
    simp only [concluded.fault, Option.isSome_none, Bool.false_eq_true, if_false]
    exact finish_classified config u _ concluded ⟨rfl, _, _, configured, ready.fault, ran, concluded.fault⟩
  · have incomplete : ¬ Completes config false u := by
      rintro ⟨_, chain, st, same, _, through, _⟩
      cases configured.symm.trans same
      rw [ran] at through
      cases through
    rw [ran]
    exact failed_classified config u strategies _ _ q why incomplete omitted ready.fault rfl ready.bag rfl stops

theorem untouched_classified (config : Config) (canceled : Bool) (u : Document.Built) (why : CompileError)
    (incomplete : ¬ Completes config canceled u) (expected : Expected config canceled why)
    (early : ∀ failure, why ≠ .inference failure) (notStrict : why.isStrict = false) :
    Classified config canceled u (.untouched u why) :=
  incomplete_classified config canceled u _ why incomplete rfl expected rfl rfl notStrict
    (fun _ member => absurd member List.not_mem_nil) (fun _ same => absurd same (early _))
    fun _ _ member => absurd member List.not_mem_nil

theorem compile_classified (unit : Document.UnitDoc) (u : Document.Built) (built : Document.build unit = .ok u)
    (config : Config) (canceled : Bool) : Classified config canceled u (compile config canceled u) := by
  have sound := Document.build_sound unit u built
  rw [compile]
  cases canceled with
  | true =>
    have incomplete : ¬ Completes config true u := fun complete => Bool.noConfusion complete.1
    exact untouched_classified config true u .canceled incomplete (.canceled rfl) (fun _ same => by cases same) rfl
  | false =>
    rw [if_neg Bool.false_ne_true]
    split
    next name missing =>
      have incomplete : ¬ Completes config false u := by
        rintro ⟨_, chain, _, configured, _⟩
        cases missing.symm.trans configured
      obtain ⟨listed, unknown⟩ := Infer.config_chain_unknown config name missing
      exact untouched_classified config false u (.unknownPlugin name) incomplete (.unknownPlugin name listed unknown)
        (fun _ same => by cases same) rfl
    next chain configured => exact run_passes_classified config u sound chain configured

theorem compile_add_to_items :
    ∃ u, Document.build Infer.addToItems = .ok u ∧
      (compile { warningsAsErrors := true, beforeInference := true } false u).failure.map CompileError.message =
        some "add.json: 1 warning(s): warnings treated as errors" ∧
      Classified { warningsAsErrors := true, beforeInference := true } false u
        (compile { warningsAsErrors := true, beforeInference := true } false u) := by
  have strict : (match Document.build Infer.addToItems with
      | .ok u => (compile { warningsAsErrors := true, beforeInference := true } false u).failure.map CompileError.message
      | .error _ => none) = some "add.json: 1 warning(s): warnings treated as errors" := by
    decide +kernel
  split at strict
  next u built => exact ⟨u, built, strict, compile_classified Infer.addToItems u built _ false⟩
  next => cases strict

end Typeflow
