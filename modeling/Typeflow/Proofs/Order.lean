import Typeflow.Proofs.Infer.Moves
import Typeflow.Proofs.Narrow.Blind
import Typeflow.Proofs.Narrow.Table
import Typeflow.Proofs.Stage

set_option autoImplicit false

namespace Typeflow

namespace Narrow

theorem rewrites_implicit {p q : Progress} {ns outs : List Node} (run : Rewrites p q ns outs) :
    ∃ more, q.casts = p.casts ++ more ∧ ∀ test, q.notes.implicitCasts test =
      p.notes.implicitCasts test ++ (more.filter (·.1 == test)).map (·.2.id) := by
  induction run with
  | nil p => exact ⟨[], by simp, by simp⟩
  | append first second ih ih' =>
    obtain ⟨more, casts, implicit⟩ := ih
    obtain ⟨rest, casts', implicit'⟩ := ih'
    refine ⟨more ++ rest, by rw [casts', casts, List.append_assoc], fun test => ?_⟩
    rw [implicit', implicit, List.filter_append, List.map_append, List.append_assoc]
  | scope body ih =>
    rw [left_casts, left_notes]
    exact ih
  | node a b parts outline ih => exact ih
  | test n s operand check rebuilt outline ih =>
    rw [learned_casts, learned_notes]
    exact ih
  | @cast p q e out fact rebuilt outline active ih =>
    obtain ⟨more, casts, implicit⟩ := ih
    refine ⟨more ++ [(fact.test.id, castFor fact out q.fresh)], by rw [wrapped_casts, casts, List.append_assoc], fun test => ?_⟩
    rw [wrapped_implicit, List.filter_append, List.map_append, ← List.append_assoc, ← implicit]
    by_cases same : test = fact.test.id
    · rw [same, updated_same]
      simp
    · rw [updated_other _ _ _ _ same]
      simp [Ne.symm same]

theorem rewrites_counterpart {p q : Progress} {ns outs : List Node} (run : Rewrites p q ns outs) :
    ∀ n ∈ ns.flatMap Node.nodes, ∃ m ∈ outs.flatMap Node.nodes, m.outline = n.outline := by
  induction run with
  | nil p => simp
  | append first second ih ih' =>
    rw [List.flatMap_append, List.flatMap_append]
    intro n member
    rcases List.mem_append.mp member with early | late
    · obtain ⟨m, inside, outline⟩ := ih n early
      exact ⟨m, List.mem_append_left _ inside, outline⟩
    · obtain ⟨m, inside, outline⟩ := ih' n late
      exact ⟨m, List.mem_append_right _ inside, outline⟩
  | scope body ih => exact ih
  | node a b parts outline ih =>
    rw [List.flatMap_singleton, List.flatMap_singleton, nodes_eq, nodes_eq b]
    intro n member
    rcases List.mem_cons.mp member with rfl | below
    · exact ⟨b, List.mem_cons_self, outline⟩
    · obtain ⟨m, inside, outline⟩ := ih n below
      exact ⟨m, List.mem_cons_of_mem _ inside, outline⟩
  | test n s operand check rebuilt outline ih => exact ih
  | @cast p q e out fact rebuilt outline active ih =>
    simp only [List.flatMap_singleton] at ih ⊢
    rw [cast_nodes]
    intro n member
    obtain ⟨m, inside, outline⟩ := ih n member
    exact ⟨m, List.mem_cons_of_mem _ inside, outline⟩

theorem rewrites_tests (T : NodeId → Ty → Prop) {p q : Progress} {ns outs : List Node} (run : Rewrites p q ns outs)
    (explicit : ∀ n ∈ ns.flatMap Node.nodes, n.implicit = false)
    (tests : ∀ s operand check, .expr (.instanceOf s operand check) ∈ ns.flatMap Node.nodes → T s.id check)
    (active : ∀ f ∈ p.active, T f.test.id f.check) :
    (∀ f ∈ q.active, T f.test.id f.check) ∧
      ∀ s operand target origin, .expr (.cast s operand target (some origin)) ∈ outs.flatMap Node.nodes → T origin target := by
  induction run with
  | nil p => exact ⟨active, by simp⟩
  | append first second ih ih' =>
    rw [List.flatMap_append] at explicit tests ⊢
    obtain ⟨active, casts⟩ := ih (fun n member => explicit n (List.mem_append_left _ member))
      (fun s operand check member => tests s operand check (List.mem_append_left _ member)) active
    obtain ⟨active, casts'⟩ := ih' (fun n member => explicit n (List.mem_append_right _ member))
      (fun s operand check member => tests s operand check (List.mem_append_right _ member)) active
    refine ⟨active, fun s operand target origin member => ?_⟩
    rcases List.mem_append.mp member with early | late
    · exact casts s operand target origin early
    · exact casts' s operand target origin late
  | @scope p q ns outs body ih =>
    have entered : p.entered.active = p.active := by simp [Progress.active, Progress.entered]
    obtain ⟨active, casts⟩ := ih explicit tests (entered ▸ active)
    exact ⟨fun f member => active f (left_active q member), casts⟩
  | node a b parts outline ih =>
    rw [List.flatMap_singleton, nodes_eq] at explicit tests
    rw [List.flatMap_singleton, nodes_eq b]
    obtain ⟨active, casts⟩ := ih (fun n member => explicit n (List.mem_cons_of_mem _ member))
      (fun s operand check member => tests s operand check (List.mem_cons_of_mem _ member)) active
    refine ⟨active, fun s operand target origin member => ?_⟩
    rcases List.mem_cons.mp member with rfl | below
    · -- a cast that is made again would have been there before
      have plain := explicit a List.mem_cons_self
      rw [← implicit_of_outline _ a outline] at plain
      cases plain
    · exact casts s operand target origin below
  | @test p q n s operand check rebuilt outline ih =>
    obtain ⟨active, casts⟩ := ih explicit tests active
    refine ⟨fun f member => ?_, casts⟩
    rcases List.mem_append.mp (learned_active q _ _ _ member) with old | new
    · exact active f old
    · rw [List.mem_singleton.mp new]
      obtain ⟨former, rfl⟩ := test_of_outline n s operand check outline
      exact tests s former check (by simpa using mem_nodes_self _)
  | @cast p q e out fact rebuilt outline held ih =>
    obtain ⟨active, casts⟩ := ih explicit tests active
    rw [wrapped_active]
    refine ⟨active, fun s operand target origin member => ?_⟩
    rw [List.flatMap_singleton, cast_nodes] at member
    rcases List.mem_cons.mp member with same | below
    · cases same
      exact active fact held
    · exact casts s operand target origin (by simpa using below)

theorem rewrites_typed {p q : Progress} {ns outs : List Node} (run : Rewrites p q ns outs)
    (explicit : ∀ n ∈ ns.flatMap Node.nodes, n.implicit = false) (below : ∀ id ∈ ns.flatMap Node.ids, id < p.fresh)
    (known : ∀ e, .expr e ∈ ns.flatMap Node.nodes → p.notes.actual e.id ≠ .unknown) (clean : Clean p) :
    ∀ s operand target origin, .expr (.cast s operand target (some origin)) ∈ outs.flatMap Node.nodes →
      q.notes.actual s.id = target := by
  induction run with
  | nil p => simp
  | @append p q r ns ns' outs outs' first second ih ih' =>
    obtain ⟨_, ran⟩ := first.ran
    obtain ⟨_, ran'⟩ := second.ran
    rw [List.flatMap_append] at explicit below known ⊢
    have old : ∀ e, .expr e ∈ ns'.flatMap Node.nodes → e.id < p.fresh := fun e member =>
      below e.id (List.mem_append_right _ (listed_id ns' (.expr e) member))
    have casts := ih (fun n member => explicit n (List.mem_append_left _ member))
      (fun id member => below id (List.mem_append_left _ member)) (fun e member => known e (List.mem_append_left _ member)) clean
    have casts' := ih' (fun n member => explicit n (List.mem_append_right _ member))
      (fun id member => Nat.lt_of_lt_of_le (below id (List.mem_append_right _ member)) first.fresh_le)
      (fun e member => by rw [ran.actual e.id (old e member)]; exact known e (List.mem_append_right _ member)) (ran.clean clean)
    intro s operand target origin member
    rcases List.mem_append.mp member with early | late
    · have made : s.id < q.fresh := by
        rcases (first.mem_ids s.id).mp (listed_id outs _ early) with former | ⟨_, new⟩
        · exact Nat.lt_of_lt_of_le (below s.id (List.mem_append_left _ former)) first.fresh_le
        · exact new
      -- the rest of the run gives types to nodes of its own only
      rw [ran'.actual s.id made]
      exact casts s operand target origin early
    · exact casts' s operand target origin late
  | scope body ih =>
    rw [left_notes]
    exact ih explicit below known ⟨clean.noFault, clean.untyped⟩
  | node a b parts outline ih =>
    rw [List.flatMap_singleton] at explicit below known ⊢
    rw [nodes_eq] at explicit known
    rw [nodes_eq b]
    intro s operand target origin member
    rcases List.mem_cons.mp member with rfl | inner
    · have plain := explicit a List.mem_cons_self
      rw [← implicit_of_outline _ a outline] at plain
      cases plain
    · exact ih (fun n member => explicit n (List.mem_cons_of_mem _ member)) (fun id member => below id (children_within a member))
        (fun e member => known e (List.mem_cons_of_mem _ member)) clean s operand target origin inner
  | test n s operand check rebuilt outline ih =>
    rw [learned_notes]
    exact ih explicit below known clean
  | @cast p q e out fact rebuilt outline active ih =>
    obtain ⟨_, ran⟩ := rebuilt.ran
    have own : out.id = e.id := id_of_outline (.expr out) (.expr e) outline
    have listed : .expr e ∈ [Node.expr e].flatMap Node.nodes := by simpa using mem_nodes_self (.expr e)
    have old : e.id < p.fresh := below e.id (listed_id [.expr e] (.expr e) listed)
    have casts := ih explicit below known clean
    rw [List.flatMap_singleton] at casts ⊢
    rw [cast_nodes]
    intro s operand target origin member
    rcases List.mem_cons.mp member with same | inner
    · cases same
      refine wrapped_typed q fact out (castFor fact out q.fresh) ?_ ((ran.clean clean).untyped _ (Nat.le_refl _))
      rw [own, ran.actual e.id old]
      exact known e listed
    · have made : s.id < q.fresh := by
        have inside : .expr (.cast s operand target (some origin)) ∈ [Node.expr out].flatMap Node.nodes := by simpa using inner
        rcases (rebuilt.mem_ids s.id).mp (listed_id [.expr out] _ inside) with former | ⟨_, new⟩
        · exact Nat.lt_of_lt_of_le (below s.id former) rebuilt.fresh_le
        · exact new
      rw [(Ran.wrapped q fact out (castFor fact out q.fresh) rfl).actual s.id made]
      exact casts s operand target origin inner

end Narrow

namespace Stage

theorem rewriting_alike {st st' : Stage} (file : st.file = st'.file) (fresh : st.fresh = st'.fresh)
    (parents : st.parents = st'.parents) :
    st.rewriting.1 = st'.rewriting.1 ∧ Narrow.Alike st.rewriting.2 st'.rewriting.2 := by
  rw [rewriting, rewriting, ← file]
  exact Narrow.narrow_file_blind _ st.file ⟨fresh, rfl, rfl, rfl, parents⟩

theorem rewriting_implicit (st : Stage) (test : NodeId) : st.rewriting.2.notes.implicitCasts test =
    st.notes.implicitCasts test ++ (st.rewriting.2.casts.filter (·.1 == test)).map (·.2.id) := by
  obtain ⟨more, casts, implicit⟩ := Narrow.rewrites_implicit st.rewriting_rewrites
  rw [casts, implicit]
  rfl

theorem rewriting_tests (st : Stage) (explicit : ∀ n ∈ (Node.file st.file).nodes, n.implicit = false) :
    ∀ s operand target origin, .expr (.cast s operand target (some origin)) ∈ (Node.file st.rewriting.1).nodes →
      ∃ site tested, site.id = origin ∧ .expr (.instanceOf site tested target) ∈ (Node.file st.rewriting.1).nodes := by
  have kept := Narrow.rewrites_counterpart st.rewriting_rewrites
  have tests := Narrow.rewrites_tests (fun id check => ∃ site tested, site.id = id ∧
    .expr (.instanceOf site tested check) ∈ (Node.file st.rewriting.1).nodes) st.rewriting_rewrites
  simp only [List.flatMap_singleton] at kept tests
  refine (tests explicit (fun s operand check listed => ?_) (List.forall_mem_nil _)).2
  obtain ⟨m, listed', outline⟩ := kept _ listed
  obtain ⟨tested, rfl⟩ := test_of_outline m s operand check outline.symm
  exact ⟨s, tested, rfl, listed'⟩

theorem inference_keeps_casts (strategies : List Infer.Strategy) (st : Stage) :
    (st.inference (strategies.map Infer.Strategy.plugin)).2.notes.implicitCasts = st.notes.implicitCasts := by
  exact (Infer.infer_file_fills _ strategies _).implicitCasts

theorem inference_completed (strategies : List Infer.Strategy) (st : Stage) (prepared : st.Prepared)
    (through : (st.inference (strategies.map Infer.Strategy.plugin)).1 = .ok ()) :
    let q := (st.inference (strategies.map Infer.Strategy.plugin)).2
    Infer.Advance (Node.file st.file).ids ⟨st.notes, st.bag, st.trace⟩ q ∧
      Infer.Derivation (.ofFile st.file st.parents) q.notes (.file st.file) := by
  rcases (inference_runs strategies st prepared).outcome with ⟨_, q, ran, advance, _, derived⟩ | ⟨why, q, ran, _⟩
  · rw [inference, ran]
    exact ⟨advance, derived⟩
  · rw [inference, ran] at through
    cases through

end Stage

namespace Result

structure Completed (r : Result) : Prop where
  fault : r.fault = none
  failure : r.failure.all CompileError.isStrict

instance (r : Result) : Decidable r.Completed :=
  decidable_of_iff (r.fault.isNone ∧ r.failure.all CompileError.isStrict)
    ⟨fun ⟨fault, failure⟩ => ⟨Option.isNone_iff_eq_none.mp fault, failure⟩,
      fun ⟨fault, failure⟩ => ⟨Option.isNone_iff_eq_none.mpr fault, failure⟩⟩

def CastsTyped (r : Result) : Prop := ∀ s operand target origin,
  .expr (.cast s operand target (some origin)) ∈ (Node.file r.file).nodes → r.notes.actual s.id = target ∧
    ∃ site tested, site.id = origin ∧ .expr (.instanceOf site tested target) ∈ (Node.file r.file).nodes

structure Agrees (r r' : Result) : Prop where
  file : r.file = r'.file
  parents : r.parents = r'.parents
  facts : r.facts = r'.facts
  implicitCasts : r.notes.implicitCasts = r'.notes.implicitCasts

end Result

theorem run_passes_completed (config : Config) (chain : Infer.Chain) (u : Document.Built)
    (completed : (runPasses config chain u).Completed) :
    let st := (Stage.start u).prepared config
    let st' := (st.inferred (st.inference chain).2).concluded config
    (st.inference chain).1 = .ok () ∧ st.fault = none ∧ st'.fault = none ∧ runPasses config chain u = st'.finish config := by
  intro st st'
  have fault := completed.fault
  have failure := completed.failure
  rcases run_passes_cases config chain u with ⟨stuck, same⟩ | ⟨why, _, same⟩ | ⟨through, clean, ⟨stuck, same⟩ | ⟨clean', same⟩⟩
  · rw [same] at fault
    exact absurd fault stuck
  · rw [same] at failure
    cases failure
  · rw [same] at fault
    exact absurd fault stuck
  · exact ⟨through, clean, clean', same⟩

theorem narrowed_last (config : Config) (chain : Infer.Chain) (u : Document.Built) (on : config.narrowing = true)
    (last : config.beforeInference = false) (completed : (runPasses config chain u).Completed) :
    let st := (Stage.start u).inferred ((Stage.start u).inference chain).2
    ((Stage.start u).inference chain).1 = .ok () ∧ (runPasses config chain u).file = st.rewriting.1 ∧
      (runPasses config chain u).parents = some st.rewriting.2.parents ∧
      (runPasses config chain u).facts = some st.rewriting.2.findings ∧
      (runPasses config chain u).notes = st.rewriting.2.notes := by
  obtain ⟨through, _, fault, same⟩ := run_passes_completed config chain u completed
  have first : (Stage.start u).prepared config = .start u := by
    rw [Stage.prepared, if_neg (by simp [last])]
  rw [first] at through fault same
  have narrow : ∀ st : Stage, st.concluded config = st.narrowed st.rewriting.1 st.rewriting.2 := by
    intro st
    rw [Stage.concluded, if_pos (by simp [on, last]), Stage.narrow_eq]
  rw [narrow] at fault same
  rw [same, finish_eq]
  obtain ⟨file, parents, notes, _⟩ := Stage.narrowed_fields _ _ _
  exact ⟨through, file, congrArg some parents, Stage.narrowed_facts _ _ _ fault, notes⟩

theorem narrowed_first (config : Config) (chain : Infer.Chain) (u : Document.Built) (on : config.narrowing = true)
    (first : config.beforeInference = true) (completed : (runPasses config chain u).Completed) :
    let st := Stage.start u
    (st.narrow.inference chain).1 = .ok () ∧ (runPasses config chain u).file = st.rewriting.1 ∧
      (runPasses config chain u).parents = some st.rewriting.2.parents ∧
      (runPasses config chain u).facts = some st.rewriting.2.findings ∧
      (runPasses config chain u).notes = (st.narrow.inference chain).2.notes := by
  intro st
  obtain ⟨through, fault, _, same⟩ := run_passes_completed config chain u completed
  have narrow : st.prepared config = st.narrow := by
    rw [Stage.prepared, if_pos (by simp [on, first])]
  rw [narrow] at through fault same
  have last : ∀ st : Stage, st.concluded config = st := by
    intro st
    rw [Stage.concluded, if_neg (by simp [first])]
  rw [last] at same
  rw [same, finish_eq]
  obtain ⟨file, parents, _, _⟩ := Stage.narrowed_fields st st.rewriting.1 st.rewriting.2
  exact ⟨through, file, congrArg some parents, Stage.narrowed_facts st _ _ fault, rfl⟩

theorem narrowed_last_typed (u : Document.Built) (sound : u.Sound) (strategies : List Infer.Strategy)
    (through : ((Stage.start u).inference (strategies.map Infer.Strategy.plugin)).1 = .ok ()) :
    let st := (Stage.start u).inferred ((Stage.start u).inference (strategies.map Infer.Strategy.plugin)).2
    ∀ s operand target origin, .expr (.cast s operand target (some origin)) ∈ (Node.file st.rewriting.1).nodes →
      st.rewriting.2.notes.actual s.id = target := by
  intro st
  obtain ⟨advance, derived⟩ := Stage.inference_completed strategies _ (Stage.start_prepared u sound) through
  -- inference has no business with numbers that are still free
  have untyped : ∀ id, u.fresh ≤ id → st.notes.actual id = .unknown := by
    intro id new
    rw [← sound.actual id]
    exact advance.actual id fun old => Nat.not_lt.mpr new (sound.below id old)
  have typed := Narrow.rewrites_typed st.rewriting_rewrites
  simp only [List.flatMap_singleton] at typed
  exact typed sound.explicit sound.below (fun e listed => (derived _ listed).known e rfl) ⟨rfl, untyped⟩

theorem narrowed_first_typed (u : Document.Built) (sound : u.Sound) (strategies : List Infer.Strategy)
    (through : ((Stage.start u).narrow.inference (strategies.map Infer.Strategy.plugin)).1 = .ok ()) :
    ∀ s operand target origin, .expr (.cast s operand target origin) ∈ (Node.file (Stage.start u).narrow.file).nodes →
      ((Stage.start u).narrow.inference (strategies.map Infer.Strategy.plugin)).2.notes.actual s.id = target := by
  intro s operand target origin listed
  have ready := (Stage.narrow_narrows _ (Stage.start_fit u sound)).prepared (Stage.start_prepared u sound) sound.below
  obtain ⟨_, derived⟩ := Stage.inference_completed strategies _ ready through
  exact (derived _ listed).rule _ rfl

theorem pass_orders_agree (unit : Document.UnitDoc) (u : Document.Built) (built : Document.build unit = .ok u)
    (config : Config) (on : config.narrowing = true) (strategies : List Infer.Strategy)
    (late : (runPasses { config with beforeInference := false } (strategies.map Infer.Strategy.plugin) u).Completed)
    (early : (runPasses { config with beforeInference := true } (strategies.map Infer.Strategy.plugin) u).Completed) :
    let last := runPasses { config with beforeInference := false } (strategies.map Infer.Strategy.plugin) u
    let first := runPasses { config with beforeInference := true } (strategies.map Infer.Strategy.plugin) u
    last.Agrees first ∧ last.facts.isSome ∧ last.CastsTyped ∧ first.CastsTyped := by
  intro last first
  have sound := Document.build_sound unit u built
  obtain ⟨through, file, parents, facts, notes⟩ := narrowed_last { config with beforeInference := false } _ u on rfl late
  obtain ⟨through', file', parents', facts', notes'⟩ := narrowed_first { config with beforeInference := true } _ u on rfl early
  let st := Stage.start u
  let st' := st.inferred (st.inference (strategies.map Infer.Strategy.plugin)).2
  -- inference changes nothing that narrowing looks at
  obtain ⟨sameFile, alike⟩ : st'.rewriting.1 = st.rewriting.1 ∧ Narrow.Alike st'.rewriting.2 st.rewriting.2 :=
    Stage.rewriting_alike rfl rfl rfl
  have sameFacts : st'.rewriting.2.findings = st.rewriting.2.findings := by
    rw [Narrow.Progress.findings, Narrow.Progress.findings, alike.facts, alike.casts]
  have sameCasts : last.notes.implicitCasts = first.notes.implicitCasts := by
    funext test
    have narrowed : st.narrow.notes = st.rewriting.2.notes := (Stage.narrowed_fields st _ _).2.2.1
    rw [show last.notes = _ from notes, show first.notes = _ from notes', Stage.rewriting_implicit, alike.casts,
      Stage.inference_keeps_casts, narrowed, Stage.rewriting_implicit]
    exact congrArg (fun casts => casts test ++ _) (Stage.inference_keeps_casts strategies st)
  refine ⟨⟨?_, ?_, ?_, sameCasts⟩, ?_, ?_, ?_⟩
  · rw [file, file']
    exact sameFile
  · rw [parents, parents']
    exact congrArg some alike.parents
  · rw [facts, facts']
    exact congrArg some sameFacts
  · rw [facts]
    rfl
  · intro s operand target origin listed
    rw [show last.file = _ from file] at listed ⊢
    rw [show last.notes = _ from notes]
    exact ⟨narrowed_last_typed u sound strategies through s operand target origin listed,
      Stage.rewriting_tests st' sound.explicit s operand target origin listed⟩
  · intro s operand target origin listed
    rw [show first.file = _ from file'] at listed ⊢
    rw [show first.notes = _ from notes']
    have listed' : .expr (.cast s operand target (some origin)) ∈ (Node.file st.narrow.file).nodes := by
      rw [Stage.narrow_eq, (Stage.narrowed_fields st _ _).1]
      exact listed
    exact ⟨narrowed_first_typed u sound strategies through' s operand target (some origin) listed',
      Stage.rewriting_tests st sound.explicit s operand target origin listed⟩

theorem guarded_size_in_both_orders :
    ∃ u, Document.build Narrow.guardedSize = .ok u ∧
      let last := runPasses {} (Infer.Strategy.all.map Infer.Strategy.plugin) u
      let first := runPasses { beforeInference := true } (Infer.Strategy.all.map Infer.Strategy.plugin) u
      (last.Completed ∧ first.Completed ∧ last.casts = 1) ∧
        last.Agrees first ∧ last.facts.isSome ∧ last.CastsTyped ∧ first.CastsTyped := by
  have completes : (match Document.build Narrow.guardedSize with
      | .ok u =>
        let last := runPasses {} (Infer.Strategy.all.map Infer.Strategy.plugin) u
        let first := runPasses { beforeInference := true } (Infer.Strategy.all.map Infer.Strategy.plugin) u
        decide (last.Completed ∧ first.Completed ∧ last.casts = 1)
      | .error _ => false) = true := by
    decide +kernel
  split at completes
  next u built =>
    have all := of_decide_eq_true completes
    exact ⟨u, built, all, pass_orders_agree Narrow.guardedSize u built {} rfl Infer.Strategy.all all.1 all.2.1⟩
  next => cases completes

end Typeflow
