import Typeflow.Proofs.Order

set_option autoImplicit false

namespace Typeflow

def Expr.test? : Expr → Option Test
  | .instanceOf s operand check => some ⟨s, operand, check⟩
  | _ => none

-- the test on whose behalf narrowing made the expression, if it is such a cast
def Expr.origin? : Expr → Option NodeId
  | .cast _ _ _ origin => origin
  | _ => none

def Node.tests (n : Node) : List Test := n.visits.filterMap Expr.test?

def Node.castsFor (n : Node) (test : NodeId) : List Expr := n.visits.filter (·.origin? == some test)

def Test.heading (t : Test) : Site × Ty := (t.site, t.check)

theorem implicit_eq (e : Expr) : (Node.expr e).implicit = e.origin?.isSome := by
  cases e with
  | cast s operand target origin => cases origin <;> rfl
  | _ => rfl

theorem tests_eq (n : Node) : n.tests = n.children.flatMap Node.tests ++ n.ownTest := by
  have own : n.expr?.toList.filterMap Expr.test? = n.ownTest := by
    cases n with
    | expr e => cases e <;> rfl
    | _ => rfl
  rw [Node.tests, visits_eq, List.filterMap_append, own, List.filterMap_flatMap]
  rfl

theorem heading_of_outline (a b : Node) (same : a.outline = b.outline) :
    a.ownTest.map Test.heading = b.ownTest.map Test.heading := by
  have own : ∀ n : Node, n.outline.ownTest.map Test.heading = n.ownTest.map Test.heading := by
    intro n
    cases n with
    | expr e => cases e <;> rfl
    | _ => rfl
  rw [← own a, same, own]

theorem mem_tests_iff (n : Node) (t : Test) : t ∈ n.tests ↔ .expr t.expr ∈ n.nodes := by
  rw [Node.tests, List.mem_filterMap, ← mem_visits_iff]
  constructor
  · rintro ⟨e, visited, test⟩
    cases e with
    | instanceOf s operand check =>
      cases test
      exact visited
    | _ => cases test
  · exact fun visited => ⟨t.expr, visited, rfl⟩

theorem visit_ids_nodup (n : Node) (distinct : n.Distinct) : (n.visits.map Expr.id).Nodup := by
  rw [((visits_perm n).map Expr.id).nodup_iff]
  have within : ((n.nodes.filterMap Node.expr?).map Expr.id).Sublist n.ids := by
    rw [Node.ids]
    induction n.nodes with
    | nil => exact List.nil_sublist _
    | cons m rest ih => cases m with
      | expr e => exact ih.cons_cons e.id
      | _ => exact ih.cons _
  exact within.nodup distinct

theorem test_ids_nodup (n : Node) (distinct : n.Distinct) : (n.tests.map Test.id).Nodup := by
  have within : (n.tests.map Test.id).Sublist (n.visits.map Expr.id) := by
    rw [Node.tests]
    induction n.visits with
    | nil => exact List.nil_sublist _
    | cons e rest ih => cases e with
      | instanceOf s operand check => exact ih.cons_cons s.id
      | _ => exact ih.cons _
  exact within.nodup (visit_ids_nodup n distinct)

namespace Narrow

def factOf (t : Test) : Fact := ⟨t.expr, t.operand, t.check, []⟩

@[simp] theorem left_facts (p : Progress) : p.left.facts = p.facts := by
  obtain ⟨_, left⟩ := left_eq p
  rw [left]

theorem learned_facts (p : Progress) (t : Test) (inside : p.scopes ≠ []) :
    (p.learned t.expr t.operand t.check).facts = p.facts ++ [factOf t] := by
  cases stack : p.scopes with
  | nil => exact (inside stack).elim
  | cons found outer =>
    rw [Progress.learned, stack]
    rfl

theorem wrapped_untyped (p : Progress) (fact : Fact) (e cast : Expr) (unknown : (p.notes.actual e.id).isUnknown) :
    (p.wrapped fact e cast).notes.actual = p.notes.actual := by
  rw [Progress.wrapped, if_pos unknown]
  rfl

theorem cast_visits (fact : Fact) (e : Expr) (id : NodeId) :
    (Node.expr (castFor fact e id)).visits = (Node.expr e).visits ++ [castFor fact e id] := by
  rw [visits_eq]
  simp [castFor, Node.children, Expr.children, Node.expr?]

theorem cast_tests (fact : Fact) (e : Expr) (id : NodeId) : (Node.expr (castFor fact e id)).tests = (Node.expr e).tests := by
  rw [tests_eq]
  simp [castFor, Node.children, Expr.children, Node.ownTest]

-- From `p` to `q` the tests among `outs` became facts, in the order in which they are evaluated.
def Recorded (p q : Progress) (outs : List Node) : Prop := q.facts = p.facts ++ (outs.flatMap Node.tests).map factOf

namespace Recorded

variable {p q r : Progress} {outs outs' : List Node}

theorem nil (p : Progress) : Recorded p p [] := by simp [Recorded]

theorem append (first : Recorded p q outs) (second : Recorded q r outs') : Recorded p r (outs ++ outs') := by
  rw [Recorded, second, first, List.flatMap_append, List.map_append, List.append_assoc]

theorem scope (body : Recorded p.entered q outs) : Recorded p q.left outs := by
  rw [Recorded, left_facts, body]
  rfl

theorem node (b : Node) (plain : b.ownTest = []) (parts : Recorded p q b.children) : Recorded p q [b] := by
  rw [Recorded, List.flatMap_singleton, tests_eq, plain, List.append_nil]
  exact parts

theorem test (s : Site) (operand : Expr) (check : Ty) (inside : q.scopes ≠ []) (part : Recorded p q [.expr operand]) :
    Recorded p (q.learned (.instanceOf s operand check) operand check) [.expr (.instanceOf s operand check)] := by
  have learned : (q.learned (.instanceOf s operand check) operand check).facts = q.facts ++ [factOf ⟨s, operand, check⟩] :=
    learned_facts q ⟨s, operand, check⟩ inside
  have same : (Node.expr (.instanceOf s operand check)).tests = (Node.expr operand).tests ++ [⟨s, operand, check⟩] := by
    rw [tests_eq]
    simp [Node.children, Expr.children, Node.ownTest]
  rw [Recorded, learned, part, List.flatMap_singleton, List.flatMap_singleton, same, List.map_append, List.append_assoc]
  rfl

theorem settle (node? : NodeId → Option Node) (out : Expr) (rebuilt : Recorded p q [.expr out]) :
    Recorded p (settle node? out q).2 [.expr (Narrow.settle node? out q).1] := by
  rw [settle_eq]
  by_cases target : isTarget node? q.parents out.id
  · rw [if_pos target]
    exact rebuilt
  · rw [if_neg target]
    cases q.active.find? fun f => out.sameValue f.subject with
    | none => exact rebuilt
    | some fact =>
      rw [Recorded, wrapped_facts, List.flatMap_singleton, cast_tests, ← List.flatMap_singleton Node.tests]
      exact rebuilt

end Recorded

section

variable (node? : NodeId → Option Node)

theorem close_records {p q : Progress} (n m : Node) (sheltered : Sheltered n q) (parts : Recorded p q m.children)
    (outline : m.outline = n.outline) : Recorded p (closeNode node? m q).2 [(closeNode node? m q).1] := by
  rcases expr_of_outline m n outline with ⟨out, e, rfl, rfl⟩ | ⟨other, _⟩
  · have inside : q.scopes ≠ [] := sheltered.resolve_right (Option.some_ne_none e)
    cases closing node? out with
    | test s operand check isTest =>
      subst isTest
      exact .test s operand check inside parts
    | kept plain _ closed =>
      rw [closeNode, closed]
      exact .node _ plain parts
    | settled plain _ closed =>
      rw [closeNode, closed]
      exact .settle node? out (.node _ plain parts)
  · rw [close_node_other node? m other]
    exact .node m (own_test_plain m other) parts

theorem narrow_node_depth (n : Node) (p : Progress) : (narrowNode node? n p).2.scopes.length = p.scopes.length := by
  obtain ⟨_, ran⟩ := (narrow_node_rewrites n p).ran
  exact ran.depth

def recordsTour : Tour (narrowing node?) (narrowNode node?) where
  Before := Sheltered
  Inside n p _ outs q := Sheltered n p ∧ q.scopes.length = p.scopes.length + 1 ∧ Recorded p.entered q outs
  Outside n p _ outs q := Sheltered n p ∧ q.scopes.length = p.scopes.length ∧ Recorded p q outs
  After _ p out q := Recorded p q [out]
  enter n p sheltered := ⟨sheltered, rfl, .nil p.entered⟩
  inside n p done c todo outs q _ now := by
    obtain ⟨sheltered, depth, recorded⟩ := now
    have inside : q.scopes ≠ [] := List.ne_nil_of_length_eq_add_one depth
    exact ⟨.inl inside, fun after => ⟨sheltered, (narrow_node_depth node? c q).trans depth, recorded.append after⟩⟩
  leave n p outs q now := by
    obtain ⟨sheltered, depth, recorded⟩ := now
    refine ⟨sheltered, ?_, recorded.scope⟩
    change q.left.scopes.length = _
    rw [left_scopes, List.length_tail, depth, Nat.add_sub_cancel]
  outside n p done c todo outs q split now := by
    obtain ⟨sheltered, depth, recorded⟩ := now
    have member : c ∈ n.outside := by rw [split]; exact List.mem_append_right _ List.mem_cons_self
    have before : Sheltered c q := (sheltered.still depth).imp_right fun plain => outside_plain n c plain member
    exact ⟨before, fun after => ⟨sheltered, (narrow_node_depth node? c q).trans depth, recorded.append after⟩⟩
  close n p m q now outline := close_records node? n m (now.1.still now.2.1) now.2.2 outline

theorem narrow_file_records (file : SourceFile) (p : Progress) :
    Recorded p (narrowFile node? file p).2 [.file (narrowFile node? file p).1] :=
  (recordsTour node?).node (narrow_keeps node?) (.file file) p (.inr rfl)

end

theorem rewrites_headings {p q : Progress} {ns outs : List Node} (run : Rewrites p q ns outs) :
    (outs.flatMap Node.tests).map Test.heading = (ns.flatMap Node.tests).map Test.heading := by
  induction run with
  | nil p => rfl
  | append first second ih ih' => rw [List.flatMap_append, List.flatMap_append, List.map_append, List.map_append, ih, ih']
  | scope body ih => exact ih
  | node a b parts outline ih =>
    rw [List.flatMap_singleton, List.flatMap_singleton, tests_eq, tests_eq a, List.map_append, List.map_append, ih,
      heading_of_outline b a outline]
  | test n s operand check rebuilt outline ih => exact ih
  | cast e out fact rebuilt outline active ih =>
    rw [List.flatMap_singleton, List.flatMap_singleton] at ih ⊢
    rw [cast_tests, ih]

-- an implicit cast as it is listed when it is made, with the number of its test
def attributed? (e : Expr) : Option (NodeId × Expr) := e.origin?.map (·, e)

theorem rewrites_casts {p q : Progress} {ns outs : List Node} (run : Rewrites p q ns outs)
    (explicit : ∀ n ∈ ns.flatMap Node.nodes, n.implicit = false) :
    q.casts = p.casts ++ (outs.flatMap Node.visits).filterMap attributed? := by
  induction run with
  | nil p => simp
  | append first second ih ih' =>
    rw [List.flatMap_append] at explicit ⊢
    rw [ih' fun n member => explicit n (List.mem_append_right _ member),
      ih fun n member => explicit n (List.mem_append_left _ member), List.filterMap_append, List.append_assoc]
  | scope body ih =>
    rw [left_casts, ih explicit]
    rfl
  | node a b parts outline ih =>
    rw [List.flatMap_singleton, nodes_eq] at explicit
    have plain : b.implicit = false := by
      rw [implicit_of_outline b a outline]
      exact explicit a List.mem_cons_self
    have own : b.expr?.toList.filterMap attributed? = [] := by
      cases b with
      | expr e =>
        rw [implicit_eq, Option.isSome_eq_false_iff, Option.isNone_iff_eq_none] at plain
        simp [Node.expr?, attributed?, plain]
      | _ => rfl
    rw [ih fun n member => explicit n (List.mem_cons_of_mem _ member), List.flatMap_singleton, visits_eq,
      List.filterMap_append, own, List.append_nil]
  | test n s operand check rebuilt outline ih =>
    rw [learned_casts]
    exact ih explicit
  | @cast p q e out fact rebuilt outline active ih =>
    rw [wrapped_casts, ih explicit, List.flatMap_singleton, List.flatMap_singleton, cast_visits, List.filterMap_append,
      List.append_assoc]
    rfl

-- Casts were numbered as they were made.
structure Numbered (p : Progress) : Prop where
  rising : (p.casts.map (·.2.id)).Pairwise (· < ·)
  below : ∀ id ∈ p.casts.map (·.2.id), id < p.fresh

theorem rewrites_numbered {p q : Progress} {ns outs : List Node} (run : Rewrites p q ns outs) (numbered : Numbered p) :
    Numbered q := by
  induction run with
  | nil p => exact numbered
  | append first second ih ih' => exact ih' (ih numbered)
  | scope body ih =>
    obtain ⟨rising, below⟩ := ih ⟨numbered.rising, numbered.below⟩
    exact ⟨by rwa [left_casts], by rwa [left_casts, left_fresh]⟩
  | node a b parts outline ih => exact ih numbered
  | test n s operand check rebuilt outline ih =>
    obtain ⟨rising, below⟩ := ih numbered
    exact ⟨by rwa [learned_casts], by rwa [learned_casts, learned_fresh]⟩
  | @cast p q e out fact rebuilt outline active ih =>
    obtain ⟨rising, below⟩ := ih numbered
    have number : (castFor fact out q.fresh).id = q.fresh := rfl
    refine ⟨?_, ?_⟩
    · rw [wrapped_casts, List.map_append, List.pairwise_append]
      refine ⟨rising, List.pairwise_singleton _ _, fun id made new last => ?_⟩
      rw [List.mem_singleton.mp last]
      exact below id made
    · rw [wrapped_casts, wrapped_fresh, List.map_append, List.forall_mem_append]
      exact ⟨fun id made => Nat.lt_succ_of_lt (below id made), by simp [number]⟩

theorem rewrites_below {p q : Progress} {ns outs : List Node} (run : Rewrites p q ns outs)
    (below : ∀ id ∈ ns.flatMap Node.ids, id < p.fresh) : ∀ id ∈ outs.flatMap Node.ids, id < q.fresh := by
  intro id member
  rcases (run.mem_ids id).mp member with old | ⟨_, new⟩
  · exact Nat.lt_of_lt_of_le (below id old) run.fresh_le
  · exact new

structure Attached (notes : Annotations) (s : Site) (operand : Expr) (target : Ty) : Prop where
  location : s.location = operand.location
  type : notes.actual s.id = if (notes.actual operand.id).isUnknown then .unknown else target

theorem Attached.kept {notes notes' : Annotations} {s : Site} {operand : Expr} {target : Ty}
    (attached : Attached notes s operand target) (own : notes'.actual s.id = notes.actual s.id)
    (inner : notes'.actual operand.id = notes.actual operand.id) : Attached notes' s operand target :=
  ⟨attached.location, by rw [own, inner, attached.type]⟩

theorem operand_listed (ns : List Node) (s : Site) (operand : Expr) (target : Ty) (origin : Option NodeId)
    (listed : .expr (.cast s operand target origin) ∈ ns.flatMap Node.nodes) : operand.id ∈ ns.flatMap Node.ids :=
  child_listed ns _ (.expr operand) listed List.mem_cons_self

theorem rewrites_attached {p q : Progress} {ns outs : List Node} (run : Rewrites p q ns outs)
    (explicit : ∀ n ∈ ns.flatMap Node.nodes, n.implicit = false) (below : ∀ id ∈ ns.flatMap Node.ids, id < p.fresh)
    (clean : Clean p) :
    ∀ s operand target origin, .expr (.cast s operand target (some origin)) ∈ outs.flatMap Node.nodes →
      Attached q.notes s operand target := by
  induction run with
  | nil p => simp
  | @append p q r ns ns' outs outs' first second ih ih' =>
    obtain ⟨_, ran⟩ := first.ran
    obtain ⟨_, ran'⟩ := second.ran
    rw [List.flatMap_append] at explicit below ⊢
    have before : ∀ id ∈ ns.flatMap Node.ids, id < p.fresh := fun id member => below id (List.mem_append_left _ member)
    intro s operand target origin member
    rcases List.mem_append.mp member with early | late
    · have attached := ih (fun n member => explicit n (List.mem_append_left _ member)) before clean s operand target origin early
      -- the rest of the run gives types to nodes of its own only
      have made := rewrites_below first before
      exact attached.kept (ran'.actual s.id (made _ (listed_id outs _ early)))
        (ran'.actual operand.id (made _ (operand_listed outs s operand target _ early)))
    · exact ih' (fun n member => explicit n (List.mem_append_right _ member))
        (fun id member => Nat.lt_of_lt_of_le (below id (List.mem_append_right _ member)) first.fresh_le) (ran.clean clean)
        s operand target origin late
  | scope body ih =>
    rw [left_notes]
    exact ih explicit below ⟨clean.noFault, clean.untyped⟩
  | node a b parts outline ih =>
    rw [List.flatMap_singleton] at explicit below ⊢
    rw [nodes_eq] at explicit
    rw [nodes_eq b]
    intro s operand target origin member
    rcases List.mem_cons.mp member with rfl | inner
    · have plain := explicit a List.mem_cons_self
      rw [← implicit_of_outline _ a outline] at plain
      cases plain
    · exact ih (fun n member => explicit n (List.mem_cons_of_mem _ member))
        (fun id member => below id (children_within a member)) clean s operand target origin inner
  | test n s operand check rebuilt outline ih =>
    rw [learned_notes]
    exact ih explicit below clean
  | @cast p q e out fact rebuilt outline active ih =>
    obtain ⟨_, ran⟩ := rebuilt.ran
    have made := rewrites_below rebuilt below
    have kept := (Ran.wrapped q fact out (castFor fact out q.fresh) rfl).actual
    have inner : out.id < q.fresh := made out.id (listed_id [.expr out] (.expr out) (by simpa using mem_nodes_self (.expr out)))
    have free := (ran.clean clean).untyped q.fresh (Nat.le_refl _)
    intro s operand target origin member
    rw [List.flatMap_singleton, cast_nodes] at member
    rcases List.mem_cons.mp member with same | old
    · cases same
      refine ⟨rfl, ?_⟩
      rw [kept out.id inner]
      by_cases unknown : (q.notes.actual out.id).isUnknown
      · rw [if_pos unknown, wrapped_untyped q _ out _ unknown]
        exact free
      · rw [if_neg unknown]
        exact wrapped_typed q fact out _ (fun none => unknown (by rw [none]; rfl)) free
    · have listed : .expr (.cast s operand target (some origin)) ∈ [Node.expr out].flatMap Node.nodes := by simpa using old
      have attached := ih explicit below clean s operand target origin listed
      exact attached.kept (kept s.id (made _ (listed_id _ _ listed)))
        (kept operand.id (made _ (operand_listed _ s operand target _ listed)))

theorem rewrites_origins {p q : Progress} {root out : Node} (run : Rewrites p q [root] [out]) (outside : p.scopes = [])
    (explicit : ∀ n ∈ root.nodes, n.implicit = false) (whole : ∀ t ∈ root.tests, t.check ≠ .unknown) :
    ∀ s operand target origin, .expr (.cast s operand target (some origin)) ∈ out.nodes →
      origin ∈ root.tests.map Test.id ∧ target ≠ .unknown := by
  have tests := rewrites_tests (fun id check => id ∈ root.tests.map Test.id ∧ check ≠ .unknown) run
  simp only [List.flatMap_singleton] at tests
  refine (tests explicit (fun s operand check listed => ?_) (by simp [Progress.active, outside])).2
  have member : (⟨s, operand, check⟩ : Test) ∈ root.tests := (mem_tests_iff root _).mpr listed
  exact ⟨List.mem_map_of_mem member, whole _ member⟩

-- Each item is listed under its own key, and the keys are distinct.
theorem shares_perm {α : Type} (key : α → Option NodeId) (keys : List NodeId) (nodup : keys.Nodup) (items : List α) :
    (keys.flatMap fun k => items.filter (key · == some k)).Perm (items.filter fun a => (key a).any (· ∈ keys)) := by
  induction keys with
  | nil => simp
  | cons k keys ih =>
    obtain ⟨new, nodup⟩ := List.nodup_cons.mp nodup
    have own : items.filter (key · == some k) =
        (items.filter fun a => (key a).any (· ∈ k :: keys)).filter (key · == some k) := by
      rw [List.filter_filter]
      refine List.filter_congr fun a _ => ?_
      by_cases same : key a = some k <;> simp [same]
    have others : (items.filter fun a => (key a).any (· ∈ keys)) =
        (items.filter fun a => (key a).any (· ∈ k :: keys)).filter fun a => !(key a == some k) := by
      rw [List.filter_filter]
      refine List.filter_congr fun a _ => ?_
      cases key a with
      | none => rfl
      | some other => by_cases same : other = k <;> simp [same, new]
    rw [List.flatMap_cons, own]
    refine (List.Perm.append_left _ (ih nodup)).trans ?_
    rw [others]
    exact List.filter_append_perm _ _

theorem shares_length {α : Type} (key : α → Option NodeId) (keys : List NodeId) (nodup : keys.Nodup) (items : List α)
    (covered : ∀ a ∈ items, ∀ k, key a = some k → k ∈ keys) :
    (keys.flatMap fun k => items.filter (key · == some k)).length = (items.filter fun a => (key a).isSome).length := by
  rw [(shares_perm key keys nodup items).length_eq]
  congr 1
  refine List.filter_congr fun a member => ?_
  cases found : key a with
  | none => rfl
  | some k => simp [covered a member k found]

theorem cast_count_eq (facts : List Fact) : castCount facts = (facts.flatMap Fact.casts).length := by
  suffices count : ∀ start, facts.foldl (fun count f => count + f.casts.length) start = start + (facts.flatMap Fact.casts).length by
    rw [castCount, count, Nat.zero_add]
  induction facts with
  | nil => simp
  | cons f rest ih =>
    intro start
    rw [List.foldl_cons, ih, List.flatMap_cons, List.length_append, Nat.add_assoc]

theorem implicit_count (n : Node) : (n.visits.filter fun e => e.origin?.isSome).length = n.nodes.countP Node.implicit := by
  rw [← List.countP_eq_length_filter, (visits_perm n).countP_eq, List.countP_filterMap]
  refine List.countP_congr fun m _ => ?_
  cases m with
  | expr e => simp [Node.expr?, implicit_eq]
  | _ => simp [Node.expr?, Node.implicit]

theorem attributed_share (es : List Expr) (test : NodeId) :
    ((es.filterMap attributed?).filter (·.1 == test)).map Prod.snd = es.filter (·.origin? == some test) := by
  induction es with
  | nil => rfl
  | cons e rest ih =>
    cases origin : e.origin? with
    | none => simp [attributed?, origin, ih]
    | some made =>
      by_cases same : made = test
      · simp [attributed?, origin, same, ih]
      · simp [attributed?, origin, same, ih]

structure Accounted (root out : Node) (facts : List Fact) (notes : Annotations) : Prop where
  -- A fact for each test of the tree, in the order of evaluation, with the casts of the tree
  -- that are made for it.
  each : facts = out.tests.map fun t => ⟨t.expr, t.operand, t.check, out.castsFor t.id⟩
  tests : out.tests.map Test.heading = root.tests.map Test.heading
  distinct : (facts.map (·.test.id)).Nodup
  noted : ∀ f ∈ facts, notes.implicitCasts f.test.id = f.casts.map Expr.id
  nodup : ∀ f ∈ facts, f.casts.Nodup
  attached : ∀ s operand target origin, .expr (.cast s operand target (some origin)) ∈ out.nodes →
    s.location = operand.location ∧ (notes.actual s.id ≠ .unknown ↔ notes.actual operand.id ≠ .unknown)
  count : castCount facts = out.nodes.countP Node.implicit

-- Nothing was narrowed yet: no test has casts, and numbers that no node has are without types.
structure Unnarrowed (fresh : NodeId) (notes : Annotations) : Prop where
  casts : ∀ id, notes.implicitCasts id = []
  untyped : ∀ id, fresh ≤ id → notes.actual id = .unknown

theorem rewrites_accounted {fresh : NodeId} {parents : Parents} {notes : Annotations} {q : Progress} {root out : Node}
    (run : Rewrites (start fresh parents notes) q [root] [out]) (recorded : Recorded (start fresh parents notes) q [out])
    (distinct : root.Distinct) (below : ∀ id ∈ root.ids, id < fresh) (explicit : ∀ n ∈ root.nodes, n.implicit = false)
    (whole : ∀ t ∈ root.tests, t.check ≠ .unknown) (unnarrowed : Unnarrowed fresh notes) :
    Accounted root out q.findings q.notes := by
  have headings : out.tests.map Test.heading = root.tests.map Test.heading := by simpa using rewrites_headings run
  have made : q.casts = out.visits.filterMap attributed? := by
    simpa [start] using rewrites_casts run (by simpa using explicit)
  have shares : ∀ test, (q.casts.filter (·.1 == test)).map Prod.snd = out.castsFor test := by
    intro test
    rw [made, attributed_share]
    rfl
  have each : q.findings = out.tests.map fun t => ⟨t.expr, t.operand, t.check, out.castsFor t.id⟩ := by
    have facts : q.facts = out.tests.map factOf := by simpa [Recorded, start] using recorded
    rw [Progress.findings, facts, List.map_map]
    refine List.map_congr_left fun t _ => ?_
    rw [← shares]
    rfl
  have ids : out.tests.map Test.id = root.tests.map Test.id := by
    have same := congrArg (List.map fun heading => heading.1.id) headings
    rwa [List.map_map, List.map_map] at same
  have casts : ∀ f ∈ q.findings, f.casts = (q.casts.filter (·.1 == f.test.id)).map Prod.snd := by
    intro f member
    obtain ⟨_, _, rfl⟩ := List.mem_map.mp member
    rfl
  have numbered : Numbered q := rewrites_numbered run ⟨.nil, by simp [start]⟩
  have origins := rewrites_origins run rfl explicit whole
  refine ⟨each, headings, ?_, fun f member => ?_, fun f member => ?_, ?_, ?_⟩
  · have same : q.findings.map (·.test.id) = root.tests.map Test.id := by
      rw [each, List.map_map, ← ids]
      rfl
    rw [same]
    exact test_ids_nodup root distinct
  · obtain ⟨more, listed, implicit⟩ := rewrites_implicit run
    obtain rfl : q.casts = more := listed
    rw [implicit, casts f member, List.map_map]
    exact congrArg (· ++ _) (unnarrowed.casts f.test.id)
  · -- a later cast has a higher number, so that none is listed twice
    have within : (f.casts.map Expr.id).Sublist (q.casts.map (·.2.id)) := by
      rw [casts f member, List.map_map]
      exact List.filter_sublist.map _
    exact .of_map Expr.id (within.nodup (numbered.rising.imp Nat.ne_of_lt))
  · intro s operand target origin listed
    have attached := rewrites_attached run (by simpa using explicit) (by simpa [start] using below) ⟨rfl, unnarrowed.untyped⟩
      s operand target origin (by simpa using listed)
    refine ⟨attached.location, ?_⟩
    rw [attached.type, not_iff_not]
    cases q.notes.actual operand.id <;> simp [Ty.isUnknown, (origins s operand target origin listed).2]
  · have covered : ∀ e ∈ out.visits, ∀ test, e.origin? = some test → test ∈ out.tests.map Test.id := by
      intro e visited test made
      rw [ids]
      cases e with
      | cast s operand target origin =>
        cases made
        exact (origins s operand target test ((mem_visits_iff out _).mp visited)).1
      | _ => cases made
    have nodup : (out.tests.map Test.id).Nodup := ids ▸ test_ids_nodup root distinct
    rw [cast_count_eq, each, ← implicit_count, ← shares_length Expr.origin? _ nodup out.visits covered, List.flatMap_map,
      List.flatMap_map]
    rfl

open Document in
theorem facts_and_casts_accounted (unit : UnitDoc) (u : Built) (built : build unit = .ok u) :
    Unnarrowed u.fresh u.annotations ∧
      (∀ strategies : List Infer.Strategy,
        let inference := (Stage.start u).inference (strategies.map Infer.Strategy.plugin)
        inference.1 = .ok () → Unnarrowed u.fresh inference.2.notes) ∧
      ∀ (node? : NodeId → Option Node) (parents : Parents) (notes : Annotations), Unnarrowed u.fresh notes →
        let run := narrowFile node? u.file (start u.fresh parents notes)
        run.2.outcome = none ∧ Accounted (.file u.file) (.file run.1) run.2.findings run.2.notes := by
  have sound := build_sound unit u built
  have untouched : ∀ id, u.annotations.implicitCasts id = [] := by
    obtain ⟨_, _, _, _, _, _, _, _, _, _, rfl⟩ := (build_ok_iff unit u).mp built
    exact fun _ => rfl
  refine ⟨⟨untouched, fun id _ => sound.actual id⟩, ?_, ?_⟩
  · intro strategies inference through
    have kept := Stage.inference_keeps_casts strategies (Stage.start u)
    have advance := (Stage.inference_completed strategies _ (Stage.start_prepared u sound) through).1
    refine ⟨fun id => (congrFun kept id).trans (untouched id), fun id above => ?_⟩
    rw [advance.actual id fun member => Nat.not_lt_of_le above (sound.below id member)]
    exact sound.actual id
  · intro node? parents notes unnarrowed run
    have rewrites : Rewrites (start u.fresh parents notes) run.2 [.file u.file] [.file run.1] := narrow_file_rewrites u.file _
    have recorded : Recorded (start u.fresh parents notes) run.2 [.file run.1] := narrow_file_records node? u.file _
    have whole : ∀ t ∈ (Node.file u.file).tests, t.check ≠ .unknown := by
      intro t member unknown
      have known : t.check.whole := sound.whole _ ((mem_tests_iff _ t).mp member)
      rw [unknown] at known
      cases known
    refine ⟨?_, rewrites_accounted rewrites recorded sound.distinct sound.below sound.explicit whole unnarrowed⟩
    obtain ⟨_, ran⟩ := rewrites.ran
    obtain ⟨_, _, scopes⟩ := ran.scopes
    have clean := ran.clean ⟨rfl, unnarrowed.untyped⟩
    rw [Progress.outcome, clean.noFault, scopes]
    rfl

open Document in
-- `let x: any; if (x instanceof Box && x instanceof Bag) { x; } else { () => x instanceof Bag ?
-- x : null; }`
def testsInBothBranches : UnitDoc :=
  let nowhere : Position := ⟨0, 0⟩
  let x : Option ExprDoc := some (.ref nowhere "x")
  let test (name : String) : Option ExprDoc := some (.instanceOf nowhere x name)
  let choice : ExprDoc := .conditional nowhere (test "Bag") x (some (.null nowhere))
  let cls (name : String) (params : List String) : ClassDoc := ⟨name, params, "", [], []⟩
  { path := "tests.json"
    literals := ⟨"List", "Dict", "Text", "Number", "Flag"⟩
    classes := [cls "List" ["T"], cls "Dict" ["T"], cls "Text" [], cls "Number" [], cls "Flag" [], cls "Box" [], cls "Bag" []]
    interfaces := []
    enums := []
    functions := []
    main := [.declare nowhere "x" "any" none,
      .branch nowhere (some (.binary nowhere "&&" (test "Box") (test "Bag"))) [.expression nowhere x]
        (some [.expression nowhere (some (.arrow nowhere [] "" choice))])] }

open Document in
theorem tests_in_both_branches_accounted :
    ∃ u, build testsInBothBranches = .ok u ∧
      let inference := (Stage.start u).inference (Infer.Strategy.all.map Infer.Strategy.plugin)
      let run := narrowFile (Node.file u.file).find? u.file (start u.fresh (.link (.file u.file)) inference.2.notes)
      Unnarrowed u.fresh inference.2.notes ∧ run.2.outcome = none ∧
        run.2.findings.map (fun f => (f.check.text, f.casts.length)) = [("Box", 2), ("Bag", 0), ("Bag", 1)] ∧
        (Node.file run.1).nodes.countP Node.implicit = 3 ∧
        Accounted (.file u.file) (.file run.1) run.2.findings run.2.notes := by
  obtain ⟨u, built, computed⟩ := built_check testsInBothBranches (fun u =>
    let inference := (Stage.start u).inference (Infer.Strategy.all.map Infer.Strategy.plugin)
    let run := narrowFile (Node.file u.file).find? u.file (start u.fresh (.link (.file u.file)) inference.2.notes)
    inference.1.isOk && run.2.findings.map (fun f => (f.check.text, f.casts.length)) = [("Box", 2), ("Bag", 0), ("Bag", 1)])
    (by decide +kernel)
  simp only [Bool.and_eq_true, decide_eq_true_eq] at computed
  obtain ⟨through, found⟩ := computed
  obtain ⟨_, inferred, narrowed⟩ := facts_and_casts_accounted testsInBothBranches u built
  have through : ((Stage.start u).inference (Infer.Strategy.all.map Infer.Strategy.plugin)).1 = .ok () := by
    cases outcome : ((Stage.start u).inference (Infer.Strategy.all.map Infer.Strategy.plugin)).1 with
    | ok => rfl
    | error why =>
      rw [outcome] at through
      cases through
  have unnarrowed := inferred Infer.Strategy.all through
  obtain ⟨clean, accounted⟩ := narrowed (Node.file u.file).find? (.link (.file u.file)) _ unnarrowed
  refine ⟨u, built, unnarrowed, clean, found, ?_, accounted⟩
  have total := congrArg (List.foldl (fun count entry => count + entry.2) 0) found
  rw [List.foldl_map] at total
  rw [← accounted.count]
  exact total

end Narrow

end Typeflow
