import Typeflow.Proofs.Narrow.Nodes
import Typeflow.Proofs.Narrow.Simulation

set_option autoImplicit false

namespace Typeflow.Narrow

section

variable (node? : NodeId → Option Node) (target : NodeId → Bool) (choice : Expr → Option Test)

-- The run `p` is about to look at the nodes one after another, and their casts are chosen by
-- the tests that are known then.
structure Ready (known : List Test) (ns : List Node) (p : Progress) : Prop where
  agree : List.Forall₂ Agrees p.active known
  targets : ∀ id ∈ ns.flatMap Node.ids, isTarget node? p.parents id = target id
  distinct : (ns.flatMap Node.ids).Nodup
  below : ∀ id ∈ ns.flatMap Node.ids, id < p.fresh
  decided : ∀ before c after found e, ns = before ++ c :: after →
    Known (known ++ before.flatMap Node.exports) c found (.expr e) → choice e = chosen target found e

variable {node? target choice} {known : List Test} {p q : Progress}

namespace Ready

theorem own {e : Expr} (ready : Ready node? target choice known [.expr e] p) : choice e = chosen target known e :=
  ready.decided [] (.expr e) [] known e rfl (by simpa using Known.here known (.expr e))

theorem entered {ns : List Node} (ready : Ready node? target choice known ns p) :
    Ready node? target choice known ns p.entered :=
  ⟨by simpa [Progress.active, Progress.entered] using ready.agree, ready.targets, ready.distinct, ready.below, ready.decided⟩

theorem group {n : Node} {g : List Node} (ready : Ready node? target choice known [n] p) (group : g ∈ n.groups) :
    Ready node? target choice known g p := by
  have within : (g.flatMap Node.ids).Sublist ([n].flatMap Node.ids) := by
    rw [List.flatMap_singleton, ids_eq]
    exact ((group_sublist n g group).flatMap Node.ids).trans (List.sublist_cons_self _ _)
  refine ⟨ready.agree, fun id member => ready.targets id (within.subset member), within.nodup ready.distinct,
    fun id member => ready.below id (within.subset member), ?_⟩
  rintro before c after found e rfl entered
  refine ready.decided [] n [] found e rfl ?_
  rw [List.flatMap_nil, List.append_nil]
  exact .inside known found n c (.expr e) before after group entered

-- After the first parts of a group it is the turn of the next one.
theorem next {g done todo : List Node} {c : Node} {ids : List NodeId} (ready : Ready node? target choice known g p)
    (split : g = done ++ c :: todo) (ran : Ran ids (done.flatMap Node.exports) p q)
    (kept : p.scopes ≠ [] ∨ done.flatMap Node.exports = []) (apart : ids.Disjoint c.ids) :
    Ready node? target choice (known ++ done.flatMap Node.exports) [c] q := by
  subst split
  have listed : ∀ id ∈ [c].flatMap Node.ids, id ∈ (done ++ c :: todo).flatMap Node.ids := by
    intro id member
    rw [List.flatMap_singleton] at member
    exact List.mem_flatMap.mpr ⟨c, by simp, member⟩
  have within : ([c].flatMap Node.ids).Sublist ((done ++ c :: todo).flatMap Node.ids) :=
    (List.singleton_sublist.mpr (by simp)).flatMap Node.ids
  refine ⟨ran.active kept ready.agree, fun id member => ?_, within.nodup ready.distinct,
    fun id member => Nat.lt_of_lt_of_le (ready.below id (listed id member)) ran.fresh, ?_⟩
  · have outside : id ∉ ids := fun inside => apart inside (by simpa using member)
    rw [← ready.targets id (listed id member), isTarget, isTarget, ran.parents id outside (ready.below id (listed id member))]
  · intro before c' after found e same entered
    obtain ⟨rfl, rfl, rfl⟩ : before = [] ∧ c' = c ∧ after = [] := by
      cases before <;> simp_all
    exact ready.decided done c' todo found e rfl (by simpa using entered)

theorem apart {n c : Node} {before after : List Node} (ready : Ready node? target choice known [n] p)
    (split : n.children = before ++ c :: after) : (before.flatMap Node.ids).Disjoint c.ids := by
  have distinct := ready.distinct
  rw [List.flatMap_singleton, ids_eq, split, List.flatMap_append, List.flatMap_cons] at distinct
  intro id left right
  exact (List.nodup_append.mp distinct.of_cons).2.2 id left id (List.mem_append_left _ right) rfl

end Ready

theorem chosen_none (e : Expr) (found : List Test) (path : e.path = none) : chosen target found e = none := by
  have differs : ∀ t ∈ found, ¬ e.sameValue t.operand = true := by
    intro t _ same
    obtain ⟨q, left, _⟩ := (same_value_iff e t.operand).mp same
    rw [path] at left
    cases left
  rw [chosen, List.find?_eq_none.mpr differs, ite_self]

theorem place_kept {e : Expr} (ready : Ready node? target choice known [.expr e] p) (path : e.path = none) (out : Expr) :
    place choice e out = pure out :=
  funext fun n => place_none choice e out n (ready.own.trans (chosen_none e known path))

theorem plain_of_outline (m n : Node) (outline : m.outline = n.outline) (plain : m.ownTest = []) : n.ownTest = [] := by
  cases n with
  | expr e =>
    cases e with
    | instanceOf s operand check =>
      obtain ⟨former, rfl⟩ := test_of_outline m s operand check outline.symm
      cases plain
    | _ => rfl
  | _ => rfl

theorem quiet_of_outline (e out : Expr) (outline : (Node.expr out).outline = (Node.expr e).outline)
    (quiet : (Node.expr out).transparent = []) : (Node.expr e).transparent = [] := by
  cases e with
  | instanceOf | conditional =>
    cases out <;> cases outline
    cases quiet
  | binary s op left right =>
    cases out <;> cases outline
    by_cases and : op = "&&" <;> simp_all [Node.transparent]
  | _ => rfl

theorem settle_own {e out : Expr} (ready : Ready node? target choice known [.expr e] p)
    (ran : Ran ((Node.expr e).children.flatMap Node.ids) [] p q) (path : out.path = e.path) (site : out.site = e.site) :
    Simulates [e.id] [] q (settle node? out) (place choice e out) := by
  have distinct := ready.distinct
  rw [List.flatMap_singleton, ids_eq, List.nodup_cons] at distinct
  have member : e.id ∈ [Node.expr e].flatMap Node.ids := by
    rw [List.flatMap_singleton, ids_eq]
    exact List.mem_cons_self
  refine settle_simulates node? target choice known q e out ?_ ?_ ready.own path site
  · simpa using ran.active (.inr rfl) ready.agree
  · rw [← ready.targets e.id member, isTarget, isTarget, ran.parents e.id distinct.1 (ready.below e.id member)]

theorem close_expr_simulates (e out : Expr) (ready : Ready node? target choice known [.expr e] p)
    (outline : (Node.expr out).outline = (Node.expr e).outline)
    (parts : (Node.expr out).children.map Node.path? = (Node.expr e).children.map Node.path?)
    (ran : Ran ((Node.expr e).children.flatMap Node.ids) ((Node.expr e).outside.flatMap Node.exports) p q) :
    Simulates [e.id] (Node.expr e).ownTest q (closeExpr node? out) (place choice e out) := by
  have path : out.path = e.path := path_of_outline _ _ outline parts
  cases closing node? out with
  | test s operand check isTest =>
    subst isTest
    obtain ⟨former, same⟩ := test_of_outline (.expr e) s operand check outline
    cases same
    have agrees : Agrees ⟨.instanceOf s operand check, operand, check, []⟩ ⟨s, former, check⟩ :=
      ⟨rfl, rfl, (List.cons.inj parts).1⟩
    rw [place_kept ready rfl]
    exact ⟨rfl, learned_fresh .., (Ran.learned q (.instanceOf s operand check) operand check _ agrees).weaken (List.nil_subset _)⟩
  | kept plain noPath closed =>
    rw [plain_of_outline (.expr out) (.expr e) outline plain, closed, place_kept ready (path.symm.trans noPath)]
    exact ⟨rfl, rfl, .refl _ q⟩
  | settled plain quiet closed =>
    have none : (Node.expr e).outside.flatMap Node.exports = [] :=
      congrArg (List.flatMap Node.exports) (quiet_of_outline e out outline quiet)
    rw [plain_of_outline (.expr out) (.expr e) outline plain, closed]
    exact settle_own ready (none ▸ ran) path (site_of_outline _ _ outline)

theorem close_simulates (n m : Node) (ready : Ready node? target choice known [n] p) (outline : m.outline = n.outline)
    (parts : m.children.map Node.path? = n.children.map Node.path?)
    (ran : Ran (n.children.flatMap Node.ids) (n.outside.flatMap Node.exports) p q) :
    Simulates [n.id] n.ownTest q (closeNode node? m) ((recasting choice).close n m) := by
  rcases expr_of_outline m n outline with ⟨out, e, rfl, rfl⟩ | ⟨other, plain⟩
  · exact (close_expr_simulates e out ready outline parts ran).map Node.expr
  · rw [close_other choice n m other, close_node_other node? m other, own_test_plain n plain]
    exact ⟨rfl, rfl, .refl _ q⟩

variable (node? target choice)

structure Met (n : Node) (p : Progress) : Prop where
  ready : ∃ known, Ready node? target choice known [n] p
  sheltered : Sheltered n p

variable {node? target choice}

theorem Met.inside {n c : Node} {done todo : List Node} (met : Met node? target choice n p)
    (split : n.scope = done ++ c :: todo) (ran : Ran (done.flatMap Node.ids) (done.flatMap Node.exports) p.entered q) : Met node? target choice c q := by
  obtain ⟨known, ready⟩ := met.ready
  have children : n.children = done ++ c :: (todo ++ n.outside) := by
    rw [← scope_outside, split, List.append_assoc, List.cons_append]
  have entered : p.entered.scopes ≠ [] := List.cons_ne_nil _ _
  have group := (ready.group (scope_group n c (by simp [split]))).entered
  exact ⟨⟨_, group.next split ran (.inl entered) (ready.apart children)⟩, .inl (ran.inside entered)⟩

theorem Met.outside {n c : Node} {done todo : List Node} (met : Met node? target choice n p)
    (split : n.outside = done ++ c :: todo) (ran : Ran ((n.scope ++ done).flatMap Node.ids) (done.flatMap Node.exports) p q) : Met node? target choice c q := by
  obtain ⟨known, ready⟩ := met.ready
  have children : n.children = (n.scope ++ done) ++ c :: todo := by
    rw [← scope_outside, split, List.append_assoc]
  have plain : n.expr? = none → ∀ b ∈ done ++ c :: todo, b.expr? = none := fun other b member =>
    outside_plain n b other (split ▸ member)
  have kept : p.scopes ≠ [] ∨ done.flatMap Node.exports = [] := met.sheltered.imp_right fun other =>
    List.flatMap_eq_nil_iff.mpr fun b member => exports_plain b (plain other b (List.mem_append_left _ member))
  have sheltered : Sheltered c p := met.sheltered.imp_right fun other => plain other c (by simp)
  have group := ready.group (outside_group n c (by simp [split]))
  exact ⟨⟨_, group.next split ran kept (ready.apart children)⟩, sheltered.still ran.depth⟩

-- Narrowing goes along with placing the chosen casts, part by part.
def simulatesTour : Tour (narrowing node?) (narrowNode node?) where
  Before := Met node? target choice
  Inside n p done outs q := Met node? target choice n p ∧
    walkAll (recastNode choice) done p.fresh = (outs, q.fresh) ∧
    Ran (done.flatMap Node.ids) (done.flatMap Node.exports) p.entered q
  Outside n p done outs q := Met node? target choice n p ∧
    walkAll (recastNode choice) (n.scope ++ done) p.fresh = (outs, q.fresh) ∧
    Ran ((n.scope ++ done).flatMap Node.ids) (done.flatMap Node.exports) p q
  After n p out q := recastNode choice n p.fresh = (out, q.fresh) ∧ Ran n.ids n.exports p q
  enter n p met := ⟨met, rfl, .refl _ _⟩
  inside n p done c todo outs q split now := by
    obtain ⟨met, placed, ran⟩ := now
    refine ⟨met.inside split ran, fun after => ⟨met, ?_, ?_⟩⟩
    · rw [walk_all_append, placed]
      exact congrArg (fun run : Node × NodeId => (outs ++ [run.1], run.2)) after.1
    · simpa using ran.trans after.2
  leave n p outs q now := by
    obtain ⟨met, placed, ran⟩ := now
    refine ⟨met, ?_, ?_⟩
    · rw [List.append_nil, placed]
      exact congrArg (Prod.mk outs) (left_fresh q).symm
    · rw [List.append_nil]
      exact ran.around
  outside n p done c todo outs q split now := by
    obtain ⟨met, placed, ran⟩ := now
    refine ⟨met.outside split ran, fun after => ⟨met, ?_, ?_⟩⟩
    · rw [← List.append_assoc, walk_all_append, placed]
      exact congrArg (fun run : Node × NodeId => (outs ++ [run.1], run.2)) after.1
    · simpa using ran.trans after.2
  close n p m q now outline := by
    obtain ⟨⟨⟨known, ready⟩, _⟩, placed, ran⟩ := now
    rw [scope_outside] at placed ran
    have parts : m.children.map Node.path? = n.children.map Node.path? := by
      rw [← recast_paths choice n.children p.fresh, placed]
    have closed := close_simulates n m ready outline parts ran
    refine ⟨?_, ?_⟩
    · rw [recast_rebuilt choice n m p.fresh q.fresh outline placed]
      exact (Prod.ext closed.value closed.fresh).symm
    · rw [← outside_exports]
      refine (ran.trans closed.ran).weaken ?_
      rw [ids_eq]
      simp

theorem narrow_node_simulates (n : Node) (met : Met node? target choice n p) :
    Simulates n.ids n.exports p (narrowNode node? n) (recastNode choice n) := by
  obtain ⟨placed, ran⟩ := simulatesTour.node (narrow_keeps node?) n p met
  exact .of_eq _ _ rfl placed ran

theorem narrow_file_simulated (file : SourceFile) (ready : Ready node? target choice known [.file file] p) :
    Simulates (Node.file file).ids [] p (narrowFile node? file) (file.recast choice) := by
  have simulated := narrow_node_simulates (.file file) ⟨⟨known, ready⟩, .inr rfl⟩
  exact ⟨Node.file.inj simulated.value, simulated.fresh, simulated.ran⟩

end

end Typeflow.Narrow
