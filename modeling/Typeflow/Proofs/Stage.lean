import Typeflow.Proofs.Compile
import Typeflow.Proofs.Infer.Moves
import Typeflow.Proofs.Narrow.Rewriting

set_option autoImplicit false

namespace Typeflow

namespace Stage

def rewriting (st : Stage) : SourceFile × Narrow.Progress :=
  Narrow.narrowFile (Node.file st.file).find? st.file (Narrow.start st.fresh st.parents st.notes)

def inference (chain : Infer.Chain) (st : Stage) : Except Infer.Failure Unit × Infer.Progress :=
  Infer.inferFile (.ofFile st.file st.parents) chain ⟨st.notes, st.bag, st.trace⟩

def inferred (st : Stage) (q : Infer.Progress) : Stage := { st with notes := q.notes, bag := q.bag, trace := q.trace }

theorem narrow_eq (st : Stage) : st.narrow = st.narrowed st.rewriting.1 st.rewriting.2 := rfl

theorem rewriting_rewrites (st : Stage) :
    Narrow.Rewrites (Narrow.start st.fresh st.parents st.notes) st.rewriting.2 [.file st.file] [.file st.rewriting.1] :=
  Narrow.narrow_file_rewrites st.file _

theorem narrowed_fields (st : Stage) (file : SourceFile) (p : Narrow.Progress) :
    (st.narrowed file p).file = file ∧ (st.narrowed file p).parents = p.parents ∧
      (st.narrowed file p).notes = p.notes ∧ (st.narrowed file p).bag = st.bag := by
  rw [narrowed]
  dsimp only
  split <;> exact ⟨rfl, rfl, rfl, rfl⟩

theorem narrowed_facts (st : Stage) (file : SourceFile) (p : Narrow.Progress) (fault : (st.narrowed file p).fault = none) :
    (st.narrowed file p).facts = some p.findings := by
  rw [narrowed] at fault ⊢
  dsimp only at fault ⊢
  split at fault
  next => cases fault
  next => rfl

theorem infer_eq (chain : Infer.Chain) (st : Stage) : st.infer chain =
    ((match (st.inference chain).1 with
      | .ok () => none
      | .error why => some why), st.inferred (st.inference chain).2) := by
  change (match st.inference chain with | (outcome, q) => (match outcome with
    | .ok () => (none, st.inferred q)
    | .error why => (some why, st.inferred q))) = _
  rcases st.inference chain with ⟨_ | _, q⟩ <;> rfl

theorem inference_runs (strategies : List Infer.Strategy) (st : Stage) (prepared : st.Prepared) :
    Infer.Runs (strategies.map Infer.Strategy.plugin) (Node.file st.file).ids ⟨st.notes, st.bag, st.trace⟩
      (Infer.inferFile (.ofFile st.file st.parents) (strategies.map Infer.Strategy.plugin))
      fun _ q => Infer.Derivation (.ofFile st.file st.parents) q.notes (.file st.file) :=
  Infer.infer_unit_runs st.file st.parents strategies _ prepared.declared prepared.whole prepared.distinct prepared.sound
    prepared.untyped

theorem inference_fatal (strategies : List Infer.Strategy) (st : Stage) (prepared : st.Prepared) (d : Diagnostic)
    (failed : (st.inference (strategies.map Infer.Strategy.plugin)).1 = .error (.fatal d)) :
    d ∈ (st.inference (strategies.map Infer.Strategy.plugin)).2.bag := by
  rcases (inference_runs strategies st prepared).outcome with ⟨_, q, ran, _⟩ | ⟨why, q, ran, stops⟩
  · rw [inference, ran] at failed
    cases failed
  · rw [inference, ran] at failed ⊢
    cases failed
    cases stops with
    | fatal _ more bag => rw [bag]; exact List.mem_append_right _ List.mem_cons_self

theorem concluded_bag (config : Config) (st : Stage) : (st.concluded config).bag = st.bag := by
  rw [concluded]
  split
  · exact (narrowed_fields st _ _).2.2.2
  · rfl

end Stage

theorem finish_bag (config : Config) (st : Stage) : (st.finish config).bag = st.bag := by
  rw [finish_eq]
  rfl

theorem run_passes_cases (config : Config) (chain : Infer.Chain) (u : Document.Built) :
    let st := (Stage.start u).prepared config
    let st' := (st.inferred (st.inference chain).2).concluded config
    (st.fault ≠ none ∧ runPasses config chain u = st.result none) ∨
      (∃ why, (st.inference chain).1 = .error why ∧ runPasses config chain u =
        { st.inferred (st.inference chain).2 with facts := none }.result (some (.inference why))) ∨
      ((st.inference chain).1 = .ok () ∧ st.fault = none ∧
        (st'.fault ≠ none ∧ runPasses config chain u = st'.result none ∨
          st'.fault = none ∧ runPasses config chain u = st'.finish config)) := by
  intro st st'
  rw [runPasses, Stage.infer_eq]
  cases fault : st.fault with
  | some why => exact .inl ⟨Option.some_ne_none why, rfl⟩
  | none =>
    refine .inr ?_
    cases outcome : (st.inference chain).1 with
    | error why => exact .inl ⟨why, rfl, rfl⟩
    | ok =>
      refine .inr ⟨rfl, rfl, ?_⟩
      cases fault' : st'.fault with
      | some why => exact .inl ⟨Option.some_ne_none why, if_pos (congrArg Option.isSome fault')⟩
      | none =>
        have quiet : st'.fault.isSome = false := congrArg Option.isSome fault'
        exact .inr ⟨rfl, if_neg (Bool.eq_false_iff.mp quiet)⟩

-- Nothing is said of the outcome, so this holds at every point where inference may fail.
theorem inference_only_fills_holes (strategies : List Infer.Strategy) :
    (∀ ctx p, Infer.Fills p (Infer.inferFile ctx (strategies.map Infer.Strategy.plugin) p).2) ∧
      ∀ st : Stage, ∃ q, Infer.Fills ⟨st.notes, st.bag, st.trace⟩ q ∧
        (st.infer (strategies.map Infer.Strategy.plugin)).2 =
          { st with notes := q.notes, bag := q.bag, trace := q.trace } := by
  constructor
  · intro ctx p
    exact Infer.infer_file_fills ctx strategies p
  · intro st
    refine ⟨(st.inference (strategies.map Infer.Strategy.plugin)).2, Infer.infer_file_fills _ strategies _, ?_⟩
    rw [Stage.infer_eq]
    rfl

open Document in
-- `let box: Box; let seen: any = box; let copy = box; copy.size;`
def copiedBox : UnitDoc :=
  let nowhere : Position := ⟨0, 0⟩
  let ref (name : String) : ExprDoc := .ref nowhere name
  let cls (name : String) (params : List String) : ClassDoc := ⟨name, params, "", [], []⟩
  { path := "copy.json"
    literals := ⟨"List", "Dict", "Text", "Number", "Flag"⟩
    classes := [cls "List" ["T"], cls "Dict" ["T"], cls "Text" [], cls "Number" [], cls "Flag" [], cls "Box" []]
    interfaces := []
    enums := []
    functions := []
    main := [.declare nowhere "box" "Box" none, .declare nowhere "seen" "any" (some (ref "box")),
      .declare nowhere "copy" "" (some (ref "box")), .expression nowhere (some (.property nowhere (some (ref "copy")) "size"))] }

def Stage.localTexts (st : Stage) : List String := (List.range 3).map fun id => (st.notes.ofLocal id).text

open Document in
theorem copied_box_filled :
    ∃ u, build copiedBox = .ok u ∧
      let earlier : Bag := [⟨.warning, .untypedVariable "other", none⟩]
      let st := { Stage.start u with bag := earlier }
      let st' := (st.infer Infer.Chain.default).2
      (st.infer Infer.Chain.default).1.map Infer.Failure.message = some "error: property size does not exist on type Box" ∧
        st'.file = st.file ∧ st'.parents = st.parents ∧ earlier <+: st'.bag ∧ st'.notes.ofLocal 1 = st.notes.ofLocal 1 ∧
        st.localTexts = ["Box", "any", "?"] ∧ st'.localTexts = ["Box", "any", "Box"] := by
  obtain ⟨u, built, computed⟩ := built_check copiedBox (fun u =>
    let st := { Stage.start u with bag := [⟨.warning, .untypedVariable "other", none⟩] }
    let (failure, st') := st.infer Infer.Chain.default
    failure.map Infer.Failure.message = some "error: property size does not exist on type Box" &&
      !(st.notes.ofLocal 1).isUnknown &&
      st.localTexts = ["Box", "any", "?"] && st'.localTexts = ["Box", "any", "Box"]) (by decide +kernel)
  simp only [Bool.and_eq_true, Bool.not_eq_true', decide_eq_true_eq] at computed
  obtain ⟨⟨⟨failed, declared⟩, before⟩, after⟩ := computed
  obtain ⟨q, fills, same⟩ := (inference_only_fills_holes Infer.Strategy.all).2
    { Stage.start u with bag := [⟨.warning, .untypedVariable "other", none⟩] }
  have typed : (Stage.start u).notes.ofLocal 1 ≠ .unknown := by
    intro unknown
    rw [unknown] at declared
    cases declared
  have kept := fills.locals 1 typed
  refine ⟨u, built, failed, ?_⟩
  rw [Infer.Chain.default] at after ⊢
  rw [same] at after ⊢
  exact ⟨rfl, rfl, fills.bag, kept, before, after⟩

end Typeflow
