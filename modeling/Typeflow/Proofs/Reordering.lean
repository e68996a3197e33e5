import Typeflow.Proofs.Document.Reordering
import Typeflow.Proofs.Infer.Reordering
import Typeflow.Proofs.Stage

set_option autoImplicit false

namespace Typeflow

def SourceFile.redeclared (file : SourceFile) (ds : Declarations) : SourceFile := { file with declarations := ds }

def Stage.redeclared (st : Stage) (ds : Declarations) : Stage := { st with file := st.file.redeclared ds }

def Result.redeclared (r : Result) (ds : Declarations) : Result := { r with file := r.file.redeclared ds }

-- The tree below the file knows nothing of declarations.
theorem nodes_redeclared (file : SourceFile) (ds : Declarations) : ∃ below, (Node.file file).nodes = .file file :: below ∧
    (Node.file (file.redeclared ds)).nodes = .file (file.redeclared ds) :: below :=
  ⟨_, nodes_eq _, nodes_eq _⟩

theorem link_redeclared (file : SourceFile) (ds : Declarations) :
    Parents.link (.file (file.redeclared ds)) = Parents.link (.file file) := by
  obtain ⟨below, nodes, nodes'⟩ := nodes_redeclared file ds
  rw [Parents.link, Parents.link, nodes, nodes']
  rfl

theorem find_redeclared (file : SourceFile) (ds : Declarations) (id : NodeId) :
    (Node.file (file.redeclared ds)).find? id = (Node.file file).find? id ∨
      (Node.file file).find? id = some (.file file) ∧ (Node.file (file.redeclared ds)).find? id = some (.file (file.redeclared ds)) := by
  obtain ⟨below, nodes, nodes'⟩ := nodes_redeclared file ds
  have number : (Node.file (file.redeclared ds)).id = (Node.file file).id := rfl
  rw [Node.find?, Node.find?, nodes, nodes']
  by_cases here : (Node.file file).id = id
  · right
    simp [here, number]
  · left
    simp [here, number]

theorem context_redeclared (file : SourceFile) (ds : Declarations) (parents : Parents) (alike : file.declarations.Alike ds) :
    (Infer.Context.ofFile file parents).Alike (.ofFile (file.redeclared ds) parents) where
  file := rfl
  declarations := alike
  parents := rfl
  expectations := by
    intro id notes e
    -- the one node that differs is the file, and a file expects nothing of its parts
    rcases find_redeclared file ds id with same | ⟨left, right⟩
    · exact congrArg (Option.map _) same.symm
    · change ((Node.file file).find? id).map _ = ((Node.file (file.redeclared ds)).find? id).map _
      rw [left, right]
      rfl

namespace Narrow

theorem settle_redeclared (file : SourceFile) (ds : Declarations) :
    settle (Node.file (file.redeclared ds)).find? = settle (Node.file file).find? := by
  have target : isTarget (Node.file (file.redeclared ds)).find? = isTarget (Node.file file).find? := by
    funext parents id
    unfold isTarget
    cases parents.parent? id with
    | none => rfl
    | some parent =>
      -- below a file there are functions and a block, and neither is the target of an assignment
      rcases find_redeclared file ds parent with same | ⟨left, right⟩
      · rw [Option.bind_some, Option.bind_some, same]
      · rw [Option.bind_some, Option.bind_some, left, right]
  funext e
  rw [settle, target, settle]

-- Narrowing looks into the tree at one place only, where it settles an expression.
theorem narrow_file_same {node? node?' : NodeId → Option Node} (settles : settle node? = settle node?') (file : SourceFile)
    (p : Progress) : narrowFile node? file p = narrowFile node?' file p := by
  have closes : closeNode node?' = closeNode node? := by
    funext n
    cases n with
    | expr e => cases e <;> simp only [closeNode, closeExpr, settles]
    | _ => rfl
  have keeps : (narrowing node?).Keeps (narrowNode node?') := by
    rw [narrowing, ← closes]
    exact narrow_keeps node?'
  have same := (narrow_keeps node?).together keeps Eq (fun _ _ => congrArg _) (fun _ _ => congrArg _)
    (fun _ _ _ _ related => by rw [related]; exact ⟨rfl, rfl⟩) (.file file) p p rfl
  exact Prod.ext (Node.file.inj same.1) same.2

theorem narrow_file_redeclared (file : SourceFile) (ds : Declarations) (p : Progress) :
    narrowFile (Node.file (file.redeclared ds)).find? (file.redeclared ds) p =
      ((narrowFile (Node.file file).find? file p).1.redeclared ds, (narrowFile (Node.file file).find? file p).2) := by
  rw [narrow_file_same (settle_redeclared file ds)]
  obtain ⟨site, path, declared, literals, functions, main⟩ := file
  cases main <;> rfl

theorem narrow_file_declarations (node? : NodeId → Option Node) (file : SourceFile) (p : Progress) :
    (narrowFile node? file p).1.declarations = file.declarations := by
  rw [narrowFile]
  cases file.main <;> rfl

end Narrow

namespace Stage

variable (st : Stage) (ds : Declarations)

theorem start_redeclared (u : Document.Built) :
    start { u with file := u.file.redeclared ds } = (start u).redeclared ds := by
  rw [start, link_redeclared, start]
  rfl

theorem narrow_redeclared : (st.redeclared ds).narrow = st.narrow.redeclared ds := by
  rw [narrow_eq, narrow_eq]
  have same : (st.redeclared ds).rewriting = (st.rewriting.1.redeclared ds, st.rewriting.2) :=
    Narrow.narrow_file_redeclared st.file ds _
  rw [same, narrowed, narrowed]
  cases st.rewriting.2.outcome <;> rfl

theorem narrow_declarations : st.narrow.file.declarations = st.file.declarations := by
  rw [narrow_eq, (narrowed_fields st _ _).1]
  exact Narrow.narrow_file_declarations _ st.file _

theorem prepared_redeclared (config : Config) : (st.redeclared ds).prepared config = (st.prepared config).redeclared ds := by
  rw [prepared, prepared, narrow_redeclared]
  split <;> rfl

theorem concluded_redeclared (config : Config) : (st.redeclared ds).concluded config = (st.concluded config).redeclared ds := by
  rw [concluded, concluded, narrow_redeclared]
  split <;> rfl

theorem prepared_declarations (config : Config) : (st.prepared config).file.declarations = st.file.declarations := by
  rw [prepared]
  split
  · exact narrow_declarations st
  · rfl

theorem infer_redeclared (strategies : List Infer.Strategy) (alike : st.file.declarations.Alike ds) :
    (st.redeclared ds).infer (strategies.map Infer.Strategy.plugin) =
      ((st.infer (strategies.map Infer.Strategy.plugin)).1, (st.infer (strategies.map Infer.Strategy.plugin)).2.redeclared ds) := by
  have contexts := context_redeclared st.file ds st.parents alike
  have same : (st.redeclared ds).inference (strategies.map Infer.Strategy.plugin) =
      st.inference (strategies.map Infer.Strategy.plugin) := by
    rw [inference, inference, Infer.infer_file_alike contexts (funext (Infer.chain_alike contexts strategies))]
    rfl
  rw [infer_eq, infer_eq, same]
  rfl

theorem finish_redeclared (config : Config) : (st.redeclared ds).finish config = (st.finish config).redeclared ds := by
  rw [finish_eq, finish_eq]
  rfl

end Stage

theorem run_passes_redeclared (config : Config) (strategies : List Infer.Strategy) (u : Document.Built) (ds : Declarations)
    (alike : u.file.declarations.Alike ds) :
    runPasses config (strategies.map Infer.Strategy.plugin) { u with file := u.file.redeclared ds } =
      (runPasses config (strategies.map Infer.Strategy.plugin) u).redeclared ds := by
  -- narrowing before inference rewrites the functions, and inference still finds the declarations of the unit
  have alike : ((Stage.start u).prepared config).file.declarations.Alike ds := by
    rw [Stage.prepared_declarations]
    exact alike
  rw [runPasses, runPasses, Stage.start_redeclared, Stage.prepared_redeclared, Stage.infer_redeclared _ ds strategies alike]
  generalize (Stage.start u).prepared config = st
  have fault : ∀ st : Stage, (st.redeclared ds).fault = st.fault := fun _ => rfl
  rcases st.infer (strategies.map Infer.Strategy.plugin) with ⟨_ | why, after⟩
  · simp only [Stage.concluded_redeclared, Stage.finish_redeclared, fault]
    split
    · rfl
    · split <;> rfl
  · simp only [fault]
    split <;> rfl

theorem compile_redeclared (config : Config) (canceled : Bool) (u : Document.Built) (ds : Declarations)
    (alike : u.file.declarations.Alike ds) :
    compile config canceled { u with file := u.file.redeclared ds } = (compile config canceled u).redeclared ds := by
  rw [compile, compile]
  split
  · rfl
  · split
    next => rfl
    next chain found =>
      -- a plugin of any kind could tell the order of declarations, but a configuration names strategies only
      obtain ⟨strategies, rfl, _⟩ := Infer.config_chain_strategies config chain found
      exact run_passes_redeclared config strategies u ds alike

open Document in
theorem declaration_order_irrelevant (unit unit' : UnitDoc) (reordered : Reordered unit unit') :
    ((∃ u, build unit = .ok u) ↔ ∃ u, build unit' = .ok u) ∧
      ∀ u u', build unit = .ok u → build unit' = .ok u' → ∀ config canceled,
        let r := compile config canceled u
        let r' := compile config canceled u'
        r'.program = r.program ∧ r'.diagnostics = r.diagnostics ∧ r'.summary = r.summary ∧ r'.failure = r.failure ∧
          r'.fault = r.fault ∧ r'.facts = r.facts ∧ r'.notes = r.notes := by
  refine ⟨⟨?_, ?_⟩, ?_⟩
  · rintro ⟨u, built⟩
    obtain ⟨ds, built', _⟩ := build_reordered reordered u built
    exact ⟨_, built'⟩
  · rintro ⟨u, built⟩
    obtain ⟨ds, built', _⟩ := build_reordered reordered.symm u built
    exact ⟨_, built'⟩
  · intro u u' built built' config canceled
    obtain ⟨ds, again, alike⟩ := build_reordered reordered u built
    cases built'.symm.trans again
    have same := compile_redeclared config canceled u ds alike
    rw [SourceFile.redeclared] at same
    rw [same]
    exact ⟨rfl, rfl, rfl, rfl, rfl, rfl, rfl⟩

open Document in
-- function inspect(box: Box<List<Text>>) { if (box instanceof Crate<Text>) { box.name; box.item; } }
def warehouse : UnitDoc :=
  let nowhere : Position := ⟨0, 0⟩
  let box : ExprDoc := .ref nowhere "box"
  let use (name : String) : StmtDoc := .expression nowhere (some (.property nowhere (some box) name))
  let test : ExprDoc := .instanceOf nowhere (some box) "Crate<Text>"
  { path := "warehouse.json"
    literals := ⟨"List", "Dict", "Text", "Number", "Flag"⟩
    classes := [⟨"List", ["T"], "", [], []⟩, ⟨"Dict", ["T"], "", [], []⟩, ⟨"Text", [], "", [], []⟩, ⟨"Number", [], "", [], []⟩,
      ⟨"Flag", [], "", [], []⟩, ⟨"Crate", ["U"], "Box<List<U>>", ["Labelled"], [⟨"next", "Crate<Crate<U>>"⟩]⟩,
      ⟨"Box", ["T"], "", [], [⟨"item", "T"⟩]⟩]
    interfaces := [⟨"Labelled", [], ["Named"], [⟨"colour", "Colour"⟩]⟩, ⟨"Named", [], [], [⟨"name", "Text"⟩]⟩]
    enums := [⟨"Colour", ["red", "blue"]⟩, ⟨"Size", ["small"]⟩]
    functions := [⟨nowhere, "inspect", [⟨"box", "Box<List<Text>>"⟩], "", [.branch nowhere (some test) [use "name", use "item"] none]⟩]
    main := [] }

open Document in
def reversed (unit : UnitDoc) : UnitDoc :=
  { unit with classes := unit.classes.reverse, interfaces := unit.interfaces.reverse, enums := unit.enums.reverse }

open Document in
theorem warehouse_compiles_in_either_order :
    Reordered warehouse (reversed warehouse) ∧ ∃ u u', build warehouse = .ok u ∧ build (reversed warehouse) = .ok u' ∧
      let r := compile { beforeInference := true } false u
      let r' := compile { beforeInference := true } false u'
      (r.casts = 2 ∧ r.failed = false) ∧ r'.program = r.program ∧ r'.diagnostics = r.diagnostics ∧ r'.summary = r.summary ∧
        r'.failure = r.failure ∧ r'.fault = r.fault ∧ r'.facts = r.facts ∧ r'.notes = r.notes := by
  have reordered : Reordered warehouse (reversed warehouse) :=
    ⟨rfl, rfl, rfl, rfl, (List.reverse_perm _).symm, (List.reverse_perm _).symm, (List.reverse_perm _).symm,
      by decide +kernel, by decide +kernel, by decide +kernel⟩
  obtain ⟨u, built, computed⟩ := built_check warehouse (fun u =>
    let r := compile { beforeInference := true } false u
    decide (r.casts = 2 ∧ r.failed = false)) (by decide +kernel)
  obtain ⟨accepted, same⟩ := declaration_order_irrelevant warehouse (reversed warehouse) reordered
  obtain ⟨u', built'⟩ := accepted.mp ⟨u, built⟩
  exact ⟨reordered, u, u', built, built', of_decide_eq_true computed, same u u' built built' _ false⟩

end Typeflow
