import Typeflow.Proofs.Narrow.Placement

set_option autoImplicit false

namespace Typeflow

def Expr.isPlain : Expr → Bool
  | .instanceOf .. => false
  | .binary _ op _ _ => op != "&&"
  | .conditional .. => false
  | _ => true

-- Evaluation of a condition to a truth value, with the outcomes of the tests on the way. A test
-- and a plain expression may yield anything.
inductive Evaluates : Expr → Bool → List (NodeId × Bool) → Prop
  | plain (e : Expr) (value : Bool) (plain : e.isPlain) : Evaluates e value []
  | test (s : Site) (operand : Expr) (check : Ty) (value outcome : Bool) (log : List (NodeId × Bool))
      (subject : Evaluates operand value log) : Evaluates (.instanceOf s operand check) outcome (log ++ [(s.id, outcome)])
  | stop (s : Site) (left right : Expr) (log : List (NodeId × Bool)) (first : Evaluates left false log) :
      Evaluates (.binary s "&&" left right) false log
  | both (s : Site) (left right : Expr) (value : Bool) (log log' : List (NodeId × Bool)) (first : Evaluates left true log)
      (second : Evaluates right value log') : Evaluates (.binary s "&&" left right) value (log ++ log')
  | whenTrue (s : Site) (condition whenTrue whenFalse : Expr) (value : Bool) (log log' : List (NodeId × Bool))
      (decided : Evaluates condition true log) (taken : Evaluates whenTrue value log') :
      Evaluates (.conditional s condition whenTrue whenFalse) value (log ++ log')
  | whenFalse (s : Site) (condition whenTrue whenFalse : Expr) (value : Bool) (log log' : List (NodeId × Bool))
      (decided : Evaluates condition false log) (taken : Evaluates whenFalse value log') :
      Evaluates (.conditional s condition whenTrue whenFalse) value (log ++ log')

inductive Conjunct (e : Expr) : Expr → Prop
  | whole : Conjunct e e
  | left (s : Site) (left right : Expr) (inner : Conjunct e left) : Conjunct e (.binary s "&&" left right)
  | right (s : Site) (left right : Expr) (inner : Conjunct e right) : Conjunct e (.binary s "&&" left right)

theorem log_within (e : Expr) (value : Bool) (log : List (NodeId × Bool)) (evaluates : Evaluates e value log) :
    ∀ entry ∈ log, entry.1 ∈ (Node.expr e).ids := by
  induction evaluates with
  | plain => exact fun _ member => absurd member List.not_mem_nil
  | test s operand check value outcome log _ ih =>
    refine List.forall_mem_append.mpr ⟨fun entry member => ?_, List.forall_mem_singleton.mpr ?_⟩
    · exact child_ids _ (.expr operand) List.mem_cons_self (ih entry member)
    · exact mem_ids_of_mem_nodes _ _ (mem_nodes_self _)
  | stop s left right log _ ih => exact fun entry member => child_ids _ (.expr left) List.mem_cons_self (ih entry member)
  | both s left right value log log' _ _ first second =>
    exact List.forall_mem_append.mpr ⟨fun entry member => child_ids _ (.expr left) List.mem_cons_self (first entry member),
      fun entry member => child_ids _ (.expr right) (List.mem_cons_of_mem _ List.mem_cons_self) (second entry member)⟩
  | whenTrue s condition whenTrue whenFalse value log log' _ _ first second =>
    exact List.forall_mem_append.mpr ⟨fun entry member => child_ids _ (.expr condition) List.mem_cons_self (first entry member),
      fun entry member => child_ids _ (.expr whenTrue) (List.mem_cons_of_mem _ List.mem_cons_self) (second entry member)⟩
  | whenFalse s condition whenTrue whenFalse value log log' _ _ first second =>
    exact List.forall_mem_append.mpr ⟨fun entry member => child_ids _ (.expr condition) List.mem_cons_self (first entry member),
      fun entry member => child_ids _ (.expr whenFalse) (List.mem_cons_of_mem _ (List.mem_cons_of_mem _ List.mem_cons_self))
        (second entry member)⟩

theorem evaluates_any (e : Expr) (value : Bool) : ∃ log, Evaluates e value log := by
  match e with
  | .instanceOf s operand check =>
    obtain ⟨log, subject⟩ := evaluates_any operand true
    exact ⟨_, .test s operand check true value log subject⟩
  | .binary s op left right =>
    by_cases and : op = "&&"
    · subst and
      obtain ⟨log, first⟩ := evaluates_any left true
      obtain ⟨log', second⟩ := evaluates_any right value
      exact ⟨_, .both s left right value log log' first second⟩
    · exact ⟨[], .plain _ value (by simpa [Expr.isPlain] using and)⟩
  | .conditional s condition whenTrue whenFalse =>
    obtain ⟨log, decided⟩ := evaluates_any condition true
    obtain ⟨log', taken⟩ := evaluates_any whenTrue value
    exact ⟨_, .whenTrue s condition whenTrue whenFalse value log log' decided taken⟩
  | .literal .. | .array .. | .map .. | .lambda .. | .cast .. | .unary .. | .property .. | .call .. | .localRef ..
  | .fieldRef .. | .thisRef .. | .staticRef .. => exact ⟨[], .plain _ value rfl⟩

theorem conjunct_succeeds (t : Test) (e : Expr) (conjunct : Conjunct t.expr e) (log : List (NodeId × Bool))
    (evaluates : Evaluates e true log) : (t.id, true) ∈ log := by
  induction conjunct generalizing log with
  | whole =>
    cases evaluates with
    | plain _ _ plain => cases plain
    | test => exact List.mem_append_right _ List.mem_cons_self
  | left s left right _ ih =>
    cases evaluates with
    | plain _ _ plain => cases plain
    | both _ _ _ _ log log' first second => exact List.mem_append_left _ (ih log first)
  | right s left right _ ih =>
    cases evaluates with
    | plain _ _ plain => cases plain
    | both _ _ _ _ log log' first second => exact List.mem_append_right _ (ih log' second)

theorem siblings_apart (n c d : Node) (distinct : n.Distinct) (pair : [c, d].Sublist n.children) : c.ids.Disjoint d.ids := by
  have ids := (pair.flatMap Node.ids).nodup (distinct_children n distinct)
  rw [List.flatMap_cons, List.flatMap_singleton] at ids
  exact fun id left right => (List.nodup_append.mp ids).2.2 id left id right rfl

theorem export_below (t : Test) (e : Expr) (exported : t ∈ e.exports) : t.id ∈ (Node.expr e).ids := by
  have visited : t.expr ∈ (Node.expr e).visits := (exports_sublist (.expr e)).subset (List.mem_map_of_mem exported)
  exact mem_ids_of_mem_nodes _ _ ((mem_visits_iff (.expr e) t.expr).mp visited)

-- A test that is left behind may be passed over or fail. Unless it is a conjunct, the condition
-- may be true all the same.
theorem exported_may_miss (t : Test) (e : Expr) (distinct : (Node.expr e).Distinct) (exported : t ∈ e.exports) :
    ∃ value log, Evaluates e value log ∧ (t.id, true) ∉ log ∧ (¬ Conjunct t.expr e → value = true) := by
  have unseen : ∀ part value log, Evaluates part value log → t.id ∉ (Node.expr part).ids → (t.id, true) ∉ log :=
    fun part value log evaluates absent member => absent (log_within part value log evaluates _ member)
  match e with
  | .instanceOf s operand check =>
    have isOperand : .expr operand ∈ (Node.expr (.instanceOf s operand check)).children := List.mem_cons_self
    have own : s.id ∉ (Node.expr operand).ids := by
      rw [Node.Distinct, ids_eq] at distinct
      exact fun inner => (List.nodup_cons.mp distinct).1 (child_within _ _ isOperand inner)
    rcases List.mem_append.mp exported with inner | last
    · obtain ⟨value, log, subject, missing, _⟩ :=
        exported_may_miss t operand (distinct_child _ _ distinct isOperand) inner
      have other : t.id ≠ s.id := fun same => own (same ▸ export_below t operand inner)
      refine ⟨true, _, .test s operand check value true log subject, ?_, fun _ => rfl⟩
      simp [missing, other]
    · obtain rfl := List.mem_singleton.mp last
      obtain ⟨log, subject⟩ := evaluates_any operand true
      refine ⟨false, _, .test s operand check true false log subject, ?_, fun other => absurd .whole other⟩
      simpa [Test.id] using unseen operand true log subject own
  | .binary s op left right =>
    by_cases and : op = "&&"
    · subst and
      have apart : (Node.expr left).ids.Disjoint (Node.expr right).ids := siblings_apart _ _ _ distinct (List.Sublist.refl _)
      rcases List.mem_append.mp exported with inLeft | inRight
      · obtain ⟨value, log, first, missing, strict⟩ :=
          exported_may_miss t left (distinct_child _ _ distinct List.mem_cons_self) inLeft
        -- whatever the left side came to without the test decides whether the right side is looked at
        cases value with
        | false =>
          refine ⟨false, log, .stop s left right log first, missing, fun other => ?_⟩
          exact strict fun conjunct => other (.left s left right conjunct)
        | true =>
          obtain ⟨log', second⟩ := evaluates_any right true
          have later := unseen right true log' second (apart (export_below t left inLeft))
          exact ⟨true, _, .both s left right true log log' first second, by simp [missing, later], fun _ => rfl⟩
      · have absent : t.id ∉ (Node.expr left).ids := fun member => apart member (export_below t right inRight)
        by_cases conjunct : Conjunct t.expr right
        · obtain ⟨log, first⟩ := evaluates_any left false
          exact ⟨false, log, .stop s left right log first, unseen left false log first absent,
            fun other => absurd (.right s left right conjunct) other⟩
        · obtain ⟨value, log', second, missing, strict⟩ :=
            exported_may_miss t right (distinct_child _ _ distinct (List.mem_cons_of_mem _ List.mem_cons_self)) inRight
          obtain rfl := strict conjunct
          obtain ⟨log, first⟩ := evaluates_any left true
          have earlier := unseen left true log first absent
          exact ⟨true, _, .both s left right true log log' first second, by simp [missing, earlier], fun _ => rfl⟩
    · simp [Expr.exports, and] at exported
  | .conditional s condition whenTrue whenFalse =>
    have inner := export_below t whenFalse exported
    have first : t.id ∉ (Node.expr condition).ids := fun member =>
      siblings_apart _ _ _ distinct ((List.sublist_cons_self _ _).cons_cons _) member inner
    have second : t.id ∉ (Node.expr whenTrue).ids := fun member =>
      siblings_apart _ _ _ distinct (List.sublist_cons_self _ _) member inner
    obtain ⟨log, decided⟩ := evaluates_any condition true
    obtain ⟨log', taken⟩ := evaluates_any whenTrue true
    refine ⟨true, _, .whenTrue s condition whenTrue whenFalse true log log' decided taken, ?_, fun _ => rfl⟩
    simp [unseen condition true log decided first, unseen whenTrue true log' taken second]
  | .literal .. | .array .. | .map .. | .lambda .. | .cast .. | .unary .. | .property .. | .call .. | .localRef ..
  | .fieldRef .. | .thisRef .. | .staticRef .. => cases exported

theorem export_implied_iff (t : Test) (e : Expr) (distinct : (Node.expr e).Distinct) (exported : t ∈ e.exports) :
    (∀ log, Evaluates e true log → (t.id, true) ∈ log) ↔ Conjunct t.expr e := by
  refine ⟨fun implied => ?_, fun conjunct log evaluates => conjunct_succeeds t e conjunct log evaluates⟩
  by_contra other
  obtain ⟨value, log, evaluates, missing, strict⟩ := exported_may_miss t e distinct exported
  obtain rfl := strict other
  exact missing (implied log evaluates)

namespace Narrow

-- A node with a condition, the part that the condition guards, and the parts that it does not.
inductive Guards : Node → Expr → Node → List Node → Prop
  | branch (s : Site) (condition : Expr) (body : Block) (alternative : Option Block) :
      Guards (.stmt (.branch s condition body alternative)) condition (.block body) (alternative.toList.map .block)
  | loop (s : Site) (condition : Expr) (body : Block) : Guards (.stmt (.loop s condition body)) condition (.block body) []
  | conditional (s : Site) (condition whenTrue whenFalse : Expr) :
      Guards (.expr (.conditional s condition whenTrue whenFalse)) condition (.expr whenTrue) [.expr whenFalse]

section

variable (node? : NodeId → Option Node)

def pass : Node → Progress → Progress
  | .file f, p => (narrowFile node? f p).2
  | .function f, p => (narrowBlock node? f.body p).2
  | .block b, p => (narrowBlock node? b p).2
  | .stmt s, p => (narrowStmt node? s p).2
  | .expr e, p => (narrowExpr node? e p).2

def behind (condition : Expr) (p : Progress) : Progress := pass node? (.expr condition) p.entered

theorem pass_guard (n part : Node) (condition : Expr) (others : List Node) (guards : Guards n condition part others)
    (p : Progress) :
    pass node? n p = others.foldl (fun q m => pass node? m q) (pass node? part (behind node? condition p)).left := by
  cases guards with
  | branch s condition body alternative => cases alternative <;> rfl
  | loop => rfl
  | conditional => rfl

theorem behind_exports (condition : Expr) (p : Progress) (distinct : (Node.expr condition).Distinct)
    (below : ∀ id ∈ (Node.expr condition).ids, id < p.fresh) (fact : Fact)
    (active : fact ∈ (behind node? condition p).active) (new : fact ∉ p.active) :
    ∃ t ∈ condition.exports, fact.test.id = t.id := by
  -- the facts at hand stand for tests that were left behind earlier
  let known : List Test := p.active.map fun f => ⟨⟨f.test.id, none⟩, f.subject, f.check⟩
  have agree : List.Forall₂ Agrees p.active known := by
    rw [List.forall₂_map_right_iff, List.forall₂_same]
    exact fun f _ => ⟨rfl, rfl, rfl⟩
  have ready := (ready_from node? known (.expr condition) p agree distinct below).entered
  have run := narrow_node_simulates (.expr condition) ⟨⟨known, ready⟩, .inl (List.cons_ne_nil _ _)⟩
  obtain ⟨found, left, scopes⟩ : ∃ found, List.Forall₂ Agrees found condition.exports ∧
      (narrowExpr node? condition p.entered).2.scopes = extended p.entered.scopes found := run.ran.scopes
  have grown : (behind node? condition p).active = p.active ++ found := by
    rw [behind, pass, Progress.active, scopes]
    simp [Progress.entered, extended, Progress.active]
  have numbers : found.map (fun f => f.test.id) = condition.exports.map Test.id := by
    rw [← List.forall₂_eq_eq_eq, List.forall₂_map_left_iff, List.forall₂_map_right_iff]
    exact left.imp fun _ _ agrees => agrees.id
  rw [grown] at active
  have added := (List.mem_append.mp active).resolve_left new
  have member : fact.test.id ∈ condition.exports.map Test.id := numbers ▸ List.mem_map_of_mem added
  obtain ⟨t, exported, same⟩ := List.mem_map.mp member
  exact ⟨t, exported, same.symm⟩

end

theorem guard_implies_iff_conjunct (node? : NodeId → Option Node) (n part : Node) (condition : Expr) (others : List Node)
    (guards : Guards n condition part others) (distinct : (Node.expr condition).Distinct) (p : Progress)
    (below : ∀ id ∈ (Node.expr condition).ids, id < p.fresh) (t : Test)
    (inside : .expr t.expr ∈ (Node.expr condition).nodes) (fact : Fact)
    (active : fact ∈ (behind node? condition p).active) (new : fact ∉ p.active) (same : fact.test.id = t.id) :
    pass node? n p = others.foldl (fun q m => pass node? m q) (pass node? part (behind node? condition p)).left ∧
      ((∀ log, Evaluates condition true log → (t.id, true) ∈ log) ↔ Conjunct t.expr condition) := by
  refine ⟨pass_guard node? n part condition others guards p, export_implied_iff t condition distinct ?_⟩
  obtain ⟨u, exported, found⟩ := behind_exports node? condition p distinct below fact active new
  have visited := (exports_sublist (.expr condition)).subset (List.mem_map_of_mem exported)
  have equal : Node.expr u.expr = Node.expr t.expr :=
    eq_of_same_id (.expr condition) _ _ distinct ((mem_visits_iff _ _).mp visited) inside (found.symm.trans same)
  obtain ⟨s, operand, check⟩ := u
  cases equal
  exact exported

def useOfX (id : NodeId) : Expr := .localRef ⟨id, none⟩ ⟨1, .letBound, "x"⟩

def boxTest : Test := ⟨⟨4, none⟩, useOfX 5, .cls ⟨"Box", 0⟩ []⟩

-- `flag ? flag : x instanceof Box`
def leakyCondition : Expr :=
  let flag (id : NodeId) : Expr := .localRef ⟨id, none⟩ ⟨0, .letBound, "flag"⟩
  .conditional ⟨1, none⟩ (flag 2) (flag 3) boxTest.expr

theorem leaky_condition_implied_iff :
    ∃ p fact, fact ∈ (behind (fun _ => none) leakyCondition p).active ∧ fact ∉ p.active ∧ fact.test.id = boxTest.id ∧
      ((∀ log, Evaluates leakyCondition true log → (boxTest.id, true) ∈ log) ↔ Conjunct boxTest.expr leakyCondition) := by
  let p := start 6 .empty .empty
  let fact : Fact := ⟨boxTest.expr, boxTest.operand, boxTest.check, []⟩
  have distinct : (Node.expr leakyCondition).Distinct := by
    rw [Node.Distinct]
    decide +kernel
  have below : ∀ id ∈ (Node.expr leakyCondition).ids, id < 6 := by decide +kernel
  have inside : .expr boxTest.expr ∈ (Node.expr leakyCondition).nodes :=
    mem_nodes_child _ (.expr boxTest.expr) _ (List.mem_cons_of_mem _ (List.mem_cons_of_mem _ List.mem_cons_self))
      (mem_nodes_self _)
  have found : (behind (fun _ => none) leakyCondition p).active = [fact] := rfl
  have active : fact ∈ (behind (fun _ => none) leakyCondition p).active := found ▸ List.mem_singleton_self fact
  have new : fact ∉ p.active := List.not_mem_nil
  have guards := Guards.loop ⟨0, none⟩ leakyCondition (.mk ⟨6, none⟩ [])
  have settled := guard_implies_iff_conjunct (fun _ => none) _ _ leakyCondition [] guards distinct p below boxTest inside
    fact active new rfl
  exact ⟨p, fact, active, new, rfl, settled.2⟩

theorem leaky_branch_casts_untested :
    (narrowStmt (fun _ => none) (.branch ⟨0, none⟩ leakyCondition (.mk ⟨6, none⟩ [.expression ⟨7, none⟩ (useOfX 8)]) none)
        (start 9 .empty .empty)).1 =
      .branch ⟨0, none⟩ leakyCondition (.mk ⟨6, none⟩
        [.expression ⟨7, none⟩ (.cast ⟨9, none⟩ (useOfX 8) boxTest.check (some boxTest.id))]) none ∧
      ∃ log, Evaluates leakyCondition true log ∧ (boxTest.id, true) ∉ log :=
  ⟨rfl, _, .whenTrue _ _ _ _ _ _ _ (.plain _ true rfl) (.plain _ true rfl), List.not_mem_nil⟩

end Narrow

end Typeflow
