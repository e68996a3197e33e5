import Typeflow.Proofs.Document.Outcome
import Typeflow.Proofs.Infer.Typing

set_option autoImplicit false

namespace Typeflow.Infer

theorem context_whole (file : SourceFile) (parents : Parents) (declared : file.declarations.Whole)
    (whole : ∀ n ∈ (Node.file file).nodes, n.Whole) : (Context.ofFile file parents).Whole := by
  refine ⟨declared, fun id n found => whole n ?_⟩
  have found : (Node.file file).nodes.find? (·.id == id) = some n := found
  exact List.mem_of_find?_eq_some found

theorem file_pending (file : SourceFile) (p : Progress) (whole : ∀ n ∈ (Node.file file).nodes, n.Whole)
    (distinct : (Node.file file).Distinct) (sound : Sound p.notes) (untyped : ∀ id, p.notes.actual id = .unknown) :
    Pending [.file file] p := by
  refine ⟨sound, List.forall_mem_singleton.mpr whole, ?_, fun id _ => untyped id⟩
  rw [List.flatMap_singleton]
  exact distinct

theorem infer_unit_runs (file : SourceFile) (parents : Parents) (strategies : List Strategy) (p : Progress)
    (declared : file.declarations.Whole) (whole : ∀ n ∈ (Node.file file).nodes, n.Whole)
    (distinct : (Node.file file).Distinct) (sound : Sound p.notes) (untyped : ∀ id, p.notes.actual id = .unknown) :
    Runs (strategies.map Strategy.plugin) (Node.file file).ids p
      (inferFile (.ofFile file parents) (strategies.map Strategy.plugin))
      fun _ q => Derivation (.ofFile file parents) q.notes (.file file) := by
  have context := context_whole file parents declared whole
  exact infer_file_runs context (file_pending file p whole distinct sound untyped)

open Document in
theorem built_notes_sound (u : Built) (sound : u.Sound) : Sound u.annotations :=
  ⟨fun id => .inl (sound.actual id), fun id => .inl (sound.expected id), sound.locals⟩

open Document in
theorem inference_leaves_derivation (unit : UnitDoc) (u : Built) (built : build unit = .ok u) (parents : Parents)
    (strategies : List Strategy) (bag : Bag) (trace : Trace) (q : Progress)
    (completed : inferFile (.ofFile u.file parents) (strategies.map Strategy.plugin) ⟨u.annotations, bag, trace⟩ = (.ok (), q)) :
    Derivation (.ofFile u.file parents) q.notes (.file u.file) := by
  have sound := build_sound unit u built
  have runs := infer_unit_runs u.file parents strategies ⟨u.annotations, bag, trace⟩ sound.declared sound.whole
    sound.distinct (built_notes_sound u sound) sound.actual
  rcases runs.outcome with ⟨_, r, ran, _, _, derived⟩ | ⟨why, r, ran, _⟩
  · rw [completed] at ran
    cases ran
    exact derived
  · rw [completed] at ran
    cases ran

open Document in
-- `let add = n => n + 1; foreach (item in [1, 2]) { add(item); }`
def addToItems : UnitDoc :=
  let nowhere : Position := ⟨0, 0⟩
  let ref (name : String) : ExprDoc := .ref nowhere name
  let number (text : String) : ExprDoc := .number nowhere (.number text)
  let add : ExprDoc := .arrow nowhere [⟨"n", ""⟩] "" (.binary nowhere "+" (some (ref "n")) (some (number "1")))
  let use : StmtDoc := .expression nowhere (some (.call nowhere (some (ref "add")) [some (ref "item")]))
  let cls (name : String) (params : List String) : ClassDoc := ⟨name, params, "", [], []⟩
  { path := "add.json"
    literals := ⟨"List", "Dict", "Text", "Number", "Flag"⟩
    classes := [cls "List" ["T"], cls "Dict" ["T"], cls "Text" [], cls "Number" [], cls "Flag" []]
    interfaces := []
    enums := []
    functions := []
    main := [.declare nowhere "add" "" (some add),
      .foreach nowhere "item" "" (some (.array nowhere [some (number "1"), some (number "2")])) [use]] }

open Document in
theorem inference_of_add_to_items :
    ∃ u q, build addToItems = .ok u ∧
      inferFile (.ofFile u.file (.link (.file u.file))) (Strategy.all.map Strategy.plugin) ⟨u.annotations, [], []⟩ =
        (.ok (), q) ∧
      Derivation (.ofFile u.file (.link (.file u.file))) q.notes (.file u.file) := by
  have completes : (match build addToItems with
      | .ok u => (inferFile (.ofFile u.file (.link (.file u.file))) (Strategy.all.map Strategy.plugin)
          ⟨u.annotations, [], []⟩).1.toBool
      | .error _ => false) = true := by
    decide +kernel
  split at completes
  next u built =>
    cases ran : inferFile (.ofFile u.file (.link (.file u.file))) (Strategy.all.map Strategy.plugin)
        ⟨u.annotations, [], []⟩ with
    | mk outcome q =>
      cases outcome with
      | ok => exact ⟨u, q, built, ran, inference_leaves_derivation addToItems u built _ Strategy.all [] [] q ran⟩
      | error why =>
        rw [ran] at completes
        cases completes
  next => cases completes

end Typeflow.Infer
