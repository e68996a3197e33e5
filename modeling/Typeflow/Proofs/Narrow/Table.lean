import Typeflow.Proofs.Document.Outcome
import Typeflow.Proofs.Narrow.Placement
import Typeflow.Proofs.Narrow.Rewriting

set_option autoImplicit false

namespace Typeflow.Narrow

theorem rewrites_keys {p q : Progress} {ns outs : List Node} (run : Rewrites p q ns outs) (nodup : p.parents.keys.Nodup) :
    q.parents.keys.Nodup := by
  induction run with
  | nil p => exact nodup
  | append first second ih ih' => exact ih' (ih nodup)
  | scope body ih =>
    rw [left_parents]
    exact ih nodup
  | node a b parts outline ih => exact ih nodup
  | test n s operand check rebuilt outline ih =>
    rw [learned_parents]
    exact ih nodup
  | cast e out fact rebuilt outline active ih =>
    rw [wrapped_parents]
    exact Parents.keys_wrap _ _ _ (ih nodup)

-- The nodes at and below `ns` have numbers of their own, and the table knows the parents of
-- those below. Numbers that are still free have no entry.
structure Charted (p : Progress) (ns : List Node) : Prop where
  distinct : (ns.flatMap Node.ids).Nodup
  below : ∀ id ∈ ns.flatMap Node.ids, id < p.fresh
  linked : ∀ n ∈ ns.flatMap Node.nodes, ∀ c ∈ n.children, p.parents.parent? c.id = some n.id
  free : ∀ id, p.fresh ≤ id → p.parents.parent? id = none

structure Recharted (p q : Progress) (ns outs : List Node) : Prop where
  charted : Charted q outs
  -- Whatever stands in the place of a node has its parent.
  tops : outs.map (fun out => q.parents.parent? out.id) = ns.map fun n => p.parents.parent? n.id
  casts : ∀ n ∈ outs.flatMap Node.nodes, p.fresh ≤ n.id → ∃ s operand target origin,
    n = .expr (.cast s operand target (some origin)) ∧ operand.id ∈ ns.flatMap Node.ids ∧
      q.parents.parent? n.id = p.parents.parent? operand.id

theorem listed_id (ns : List Node) (n : Node) (inside : n ∈ ns.flatMap Node.nodes) : n.id ∈ ns.flatMap Node.ids := by
  obtain ⟨root, member, below⟩ := List.mem_flatMap.mp inside
  exact List.mem_flatMap.mpr ⟨root, member, mem_ids_of_mem_nodes root n below⟩

theorem child_listed (ns : List Node) (n c : Node) (inside : n ∈ ns.flatMap Node.nodes) (child : c ∈ n.children) :
    c.id ∈ ns.flatMap Node.ids := by
  obtain ⟨root, member, below⟩ := List.mem_flatMap.mp inside
  have deeper := mem_nodes_trans root n c below (mem_nodes_child n c c child (mem_nodes_self c))
  exact listed_id ns c (List.mem_flatMap.mpr ⟨root, member, deeper⟩)

namespace Charted

variable {p q : Progress} {ns ns' outs : List Node}

theorem front (charted : Charted p (ns ++ ns')) : Charted p ns where
  distinct := by
    have distinct := charted.distinct
    rw [List.flatMap_append] at distinct
    exact (List.nodup_append.mp distinct).1
  below id member := charted.below id (by simp only [List.flatMap_append, List.mem_append, member, true_or])
  linked n inside := charted.linked n (by simp only [List.flatMap_append, List.mem_append, inside, true_or])
  free := charted.free

theorem children {a : Node} (charted : Charted p [a]) : Charted p a.children := by
  obtain ⟨distinct, below, linked, free⟩ := charted
  rw [List.flatMap_singleton] at distinct below linked
  rw [nodes_eq] at linked
  exact ⟨distinct_children a distinct, fun id member => below id (children_within a member),
    fun n inside => linked n (List.mem_cons_of_mem _ inside), free⟩

theorem apart (charted : Charted p (ns ++ ns')) (id : NodeId) (late : id ∈ ns'.flatMap Node.ids) : id ∉ ns.flatMap Node.ids := by
  have distinct := charted.distinct
  rw [List.flatMap_append] at distinct
  exact fun early => (List.nodup_append.mp distinct).2.2 id early id late rfl

theorem back (charted : Charted p (ns ++ ns')) (run : Rewrites p q ns outs) (recharted : Recharted p q ns outs) :
    Charted q ns' := by
  obtain ⟨_, ran⟩ := run.ran
  have below : ∀ id ∈ ns'.flatMap Node.ids, id < p.fresh := fun id member =>
    charted.below id (by simp only [List.flatMap_append, List.mem_append, member, or_true])
  refine ⟨?_, fun id member => Nat.lt_of_lt_of_le (below id member) run.fresh_le, fun n inside c child => ?_, recharted.charted.free⟩
  · have distinct := charted.distinct
    rw [List.flatMap_append] at distinct
    exact (List.nodup_append.mp distinct).2.1
  · have listed := child_listed ns' n c inside child
    rw [ran.parents c.id (charted.apart c.id listed) (below c.id listed)]
    exact charted.linked n (by simp only [List.flatMap_append, List.mem_append, inside, or_true]) c child

end Charted

namespace Recharted

theorem congr {p q q' : Progress} {ns outs : List Node} (recharted : Recharted p q ns outs) (fresh : q'.fresh = q.fresh)
    (parents : q'.parents = q.parents) : Recharted p q' ns outs := by
  obtain ⟨⟨distinct, below, linked, free⟩, tops, casts⟩ := recharted
  rw [← fresh] at below free
  rw [← parents] at linked free tops casts
  exact ⟨⟨distinct, below, linked, free⟩, tops, casts⟩

theorem nil (p : Progress) (charted : Charted p []) : Recharted p p [] [] :=
  ⟨charted, rfl, by simp⟩

theorem append {p q r : Progress} {ns ns' outs outs' : List Node} (charted : Charted p (ns ++ ns'))
    (run : Rewrites p q ns outs) (run' : Rewrites q r ns' outs') (first : Recharted p q ns outs)
    (second : Recharted q r ns' outs') : Recharted p r (ns ++ ns') (outs ++ outs') := by
  obtain ⟨_, ran⟩ := run.ran
  obtain ⟨_, ran'⟩ := run'.ran
  have below : ∀ id ∈ ns'.flatMap Node.ids, id < p.fresh := fun id member =>
    charted.below id (by simp only [List.flatMap_append, List.mem_append, member, or_true])
  -- what the first part has made is old to the second, and no part of what that goes through
  have old : ∀ id ∈ outs.flatMap Node.ids, id < q.fresh ∧ id ∉ ns'.flatMap Node.ids := by
    intro id member
    refine ⟨first.charted.below id member, fun late => ?_⟩
    rcases (run.mem_ids id).mp member with early | ⟨new, _⟩
    · exact charted.apart id late early
    · exact Nat.not_le_of_lt (below id late) new
  have kept : ∀ id ∈ outs.flatMap Node.ids, r.parents.parent? id = q.parents.parent? id := by
    intro id member
    obtain ⟨before, outside⟩ := old id member
    exact ran'.parents id outside before
  have untouched : ∀ id ∈ ns'.flatMap Node.ids, q.parents.parent? id = p.parents.parent? id := fun id member =>
    ran.parents id (charted.apart id member) (below id member)
  refine ⟨⟨?_, ?_, ?_, second.charted.free⟩, ?_, ?_⟩
  · rw [List.flatMap_append]
    refine List.nodup_append.mpr ⟨first.charted.distinct, second.charted.distinct, ?_⟩
    intro id early id' late same
    subst same
    rcases (run'.mem_ids id).mp late with inside | ⟨new, _⟩
    · exact (old id early).2 inside
    · exact Nat.not_le_of_lt (old id early).1 new
  · intro id member
    rw [List.flatMap_append, List.mem_append] at member
    rcases member with early | late
    · exact Nat.lt_of_lt_of_le (old id early).1 run'.fresh_le
    · exact second.charted.below id late
  · intro n inside c child
    rw [List.flatMap_append, List.mem_append] at inside
    rcases inside with early | late
    · rw [kept c.id (child_listed outs n c early child)]
      exact first.charted.linked n early c child
    · exact second.charted.linked n late c child
  · have early : outs.map (fun out => r.parents.parent? out.id) = outs.map fun out => q.parents.parent? out.id :=
      List.map_congr_left fun out member => kept out.id (List.mem_flatMap.mpr ⟨out, member, mem_ids_self out⟩)
    have late : ns'.map (fun n => q.parents.parent? n.id) = ns'.map fun n => p.parents.parent? n.id :=
      List.map_congr_left fun n member => untouched n.id (List.mem_flatMap.mpr ⟨n, member, mem_ids_self n⟩)
    rw [List.map_append, List.map_append, early, first.tops, second.tops, late]
  · intro n inside new
    rw [List.flatMap_append, List.mem_append] at inside
    rcases inside with early | late
    · obtain ⟨s, operand, target, origin, same, listed, parent⟩ := first.casts n early new
      refine ⟨s, operand, target, origin, same, by simp only [List.flatMap_append, List.mem_append, listed, true_or], ?_⟩
      rw [kept n.id (listed_id outs n early), parent]
    · have later : q.fresh ≤ n.id := by
        rcases (run'.mem_ids n.id).mp (listed_id outs' n late) with inside | ⟨above, _⟩
        · exact absurd new (Nat.not_le_of_lt (below n.id inside))
        · exact above
      obtain ⟨s, operand, target, origin, same, listed, parent⟩ := second.casts n late later
      refine ⟨s, operand, target, origin, same, by simp only [List.flatMap_append, List.mem_append, listed, or_true], ?_⟩
      rw [parent, untouched operand.id listed]

theorem node {p q : Progress} (a b : Node) (charted : Charted p [a]) (run : Rewrites p q a.children b.children)
    (parts : Recharted p q a.children b.children) (outline : b.outline = a.outline) : Recharted p q [a] [b] := by
  obtain ⟨_, ran⟩ := run.ran
  have same : b.id = a.id := id_of_outline b a outline
  have distinct := charted.distinct
  have below : ∀ id ∈ a.ids, id < p.fresh := by simpa using charted.below
  rw [List.flatMap_singleton, ids_eq] at distinct
  obtain ⟨apart, _⟩ := List.nodup_cons.mp distinct
  have own : a.id < p.fresh := below a.id (mem_ids_self a)
  have outside : b.id ∉ b.children.flatMap Node.ids := by
    rw [same, run.mem_ids]
    rintro (inside | ⟨new, _⟩)
    · exact apart inside
    · exact Nat.not_le_of_lt own new
  refine ⟨⟨?_, ?_, ?_, parts.charted.free⟩, ?_, ?_⟩
  · rw [List.flatMap_singleton, ids_eq]
    exact List.nodup_cons.mpr ⟨outside, parts.charted.distinct⟩
  · intro id member
    rw [List.flatMap_singleton, ids_eq] at member
    rcases List.mem_cons.mp member with rfl | inside
    · exact same ▸ Nat.lt_of_lt_of_le own run.fresh_le
    · exact parts.charted.below id inside
  · intro n inside c child
    rw [List.flatMap_singleton, nodes_eq] at inside
    rcases List.mem_cons.mp inside with rfl | inner
    · -- a child of the new node stands where a child of the old one stood
      have placed : q.parents.parent? c.id ∈ n.children.map fun out => q.parents.parent? out.id := List.mem_map_of_mem child
      rw [parts.tops] at placed
      obtain ⟨former, member, parent⟩ := List.mem_map.mp placed
      rw [← parent, same]
      exact charted.linked a (by simpa using mem_nodes_self a) former member
    · exact parts.charted.linked n inner c child
  · rw [List.map_singleton, List.map_singleton, same, ran.parents a.id apart own]
  · intro n inside new
    rw [List.flatMap_singleton, nodes_eq] at inside
    rcases List.mem_cons.mp inside with rfl | inner
    · exact absurd new (Nat.not_le_of_lt (same ▸ own))
    · obtain ⟨s, operand, target, origin, form, listed, parent⟩ := parts.casts n inner new
      refine ⟨s, operand, target, origin, form, ?_, parent⟩
      rw [List.flatMap_singleton]
      exact children_within a listed

theorem cast {p q : Progress} (e out : Expr) (fact : Fact) (charted : Charted p [.expr e])
    (run : Rewrites p q [.expr e] [.expr out]) (rebuilt : Recharted p q [.expr e] [.expr out])
    (outline : (Node.expr out).outline = (Node.expr e).outline) :
    Recharted p (q.wrapped fact out (castFor fact out q.fresh)) [.expr e] [.expr (castFor fact out q.fresh)] := by
  have same : out.id = e.id := id_of_outline (.expr out) (.expr e) outline
  have listed : e.id ∈ [Node.expr e].flatMap Node.ids := List.mem_flatMap.mpr ⟨.expr e, List.mem_cons_self, mem_ids_self (.expr e)⟩
  have own : out.id < p.fresh := same ▸ charted.below e.id listed
  have outOwn : out.id < q.fresh := Nat.lt_of_lt_of_le own run.fresh_le
  have below : ∀ id ∈ (Node.expr out).ids, id < q.fresh := by simpa using rebuilt.charted.below
  have distinct : (Node.expr out).Distinct := by simpa [Node.Distinct] using rebuilt.charted.distinct
  have free : q.parents.parent? q.fresh = none := rebuilt.charted.free q.fresh (Nat.le_refl _)
  have top : q.parents.parent? out.id = p.parents.parent? e.id := (List.cons.inj rebuilt.tops).1
  have kept : ∀ id, id ≠ out.id → id ≠ q.fresh → (q.parents.wrap out.id q.fresh).parent? id = q.parents.parent? id :=
    fun id notOut notCast => Parents.parent_wrap _ _ _ _ notOut notCast
  -- the cast takes over the entry of what it is put around
  have moved : (q.parents.wrap out.id q.fresh).parent? q.fresh = p.parents.parent? e.id := by
    rw [Parents.parent_wrap_wrapper _ _ _ (Nat.ne_of_gt outOwn) free, top]
  have number : (castFor fact out q.fresh).id = q.fresh := rfl
  refine ⟨⟨?_, ?_, ?_, ?_⟩, ?_, ?_⟩
  · rw [List.flatMap_singleton, cast_ids]
    exact List.nodup_cons.mpr ⟨fun inside => Nat.lt_irrefl _ (below _ inside), distinct⟩
  · intro id member
    rw [List.flatMap_singleton, cast_ids] at member
    rw [wrapped_fresh]
    rcases List.mem_cons.mp member with rfl | inside
    · exact Nat.lt_succ_self _
    · exact Nat.lt_succ_of_lt (below id inside)
  · intro n inside c child
    rw [List.flatMap_singleton, cast_nodes] at inside
    rw [wrapped_parents, number]
    rcases List.mem_cons.mp inside with rfl | inner
    · cases List.mem_singleton.mp child
      exact Parents.parent_wrap_old _ _ _
    · have deeper : c ∈ (Node.expr out).nodes := mem_nodes_trans _ n c inner (mem_nodes_child n c c child (mem_nodes_self c))
      -- `out` is no child of anything below itself, so this entry is not the one that changes
      have notOut : c.id ≠ out.id := by
        intro clash
        have equal := eq_of_same_id (.expr out) c (.expr out) distinct deeper (mem_nodes_self _) clash
        exact not_below_child n c child (equal ▸ inner)
      rw [kept c.id notOut (Nat.ne_of_lt (below c.id (mem_ids_of_mem_nodes _ c deeper)))]
      exact rebuilt.charted.linked n (by simpa using inner) c child
  · intro id above
    rw [wrapped_fresh] at above
    rw [wrapped_parents, number, kept id (Nat.ne_of_gt (Nat.lt_trans outOwn above)) (Nat.ne_of_gt above)]
    exact rebuilt.charted.free id (Nat.le_of_lt above)
  · rw [wrapped_parents, List.map_singleton, List.map_singleton]
    exact congrArg ([·]) moved
  · intro n inside new
    rw [List.flatMap_singleton, cast_nodes] at inside
    rw [wrapped_parents, number]
    rcases List.mem_cons.mp inside with rfl | inner
    · exact ⟨_, out, _, _, rfl, same ▸ listed, moved.trans (by rw [same])⟩
    · obtain ⟨s, operand, target, origin, form, member, parent⟩ := rebuilt.casts n (by simpa using inner) new
      refine ⟨s, operand, target, origin, form, member, ?_⟩
      rw [kept n.id (Nat.ne_of_gt (Nat.lt_of_lt_of_le own new))
        (Nat.ne_of_lt (below n.id (mem_ids_of_mem_nodes _ n inner))), parent]

end Recharted

theorem rewrites_recharted {p q : Progress} {ns outs : List Node} (run : Rewrites p q ns outs) (charted : Charted p ns) :
    Recharted p q ns outs := by
  induction run with
  | nil p => exact .nil p charted
  | append first second ih ih' => exact .append charted first second (ih charted.front) (ih' (charted.back first (ih charted.front)))
  | scope body ih =>
    have inner := ih ⟨charted.distinct, charted.below, charted.linked, charted.free⟩
    exact Recharted.congr ⟨inner.charted, inner.tops, inner.casts⟩ (left_fresh _) (left_parents _)
  | node a b parts outline ih => exact .node a b charted parts (ih charted.children) outline
  | test n s operand check rebuilt outline ih => exact (ih charted).congr (learned_fresh _ _ _ _) (learned_parents _ _ _ _)
  | cast e out fact rebuilt outline active ih => exact .cast e out fact charted rebuilt (ih charted) outline

structure Maintained (before after : Parents) (root out : Node) : Prop where
  exact : after.Exact out
  relinked : ∀ id, after.parent? id = (Parents.link out).parent? id
  size : after.size = (Parents.link out).size
  casts : ∀ n ∈ out.nodes, n.id ∉ root.ids → ∃ s operand target origin,
    n = .expr (.cast s operand target (some origin)) ∧ operand.id ∈ root.ids ∧
      after.parent? n.id = before.parent? operand.id ∧ after.parent? operand.id = some n.id

theorem charted_link (p : Progress) (root : Node) (distinct : root.Distinct) (below : ∀ id ∈ root.ids, id < p.fresh)
    (table : p.parents = .link root) : Charted p [root] := by
  refine ⟨by simpa [Node.Distinct] using distinct, by simpa using below, ?_, ?_⟩
  · intro n inside c child
    rw [table]
    exact parent_link root n c distinct (by simpa using inside) child
  · intro id above
    rw [table]
    exact (exact_link root distinct).foreign id fun member => Nat.not_lt_of_le above (below id member)

theorem rewrites_maintained {p q : Progress} (root out : Node) (run : Rewrites p q [root] [out]) (distinct : root.Distinct)
    (below : ∀ id ∈ root.ids, id < p.fresh) (table : p.parents = .link root) :
    Maintained p.parents q.parents root out := by
  obtain ⟨charted, tops, casts⟩ := rewrites_recharted run (charted_link p root distinct below table)
  have former := exact_link root distinct
  rw [← table] at former
  have distinct' : out.Distinct := by simpa [Node.Distinct] using charted.distinct
  have linked : ∀ n ∈ out.nodes, ∀ c ∈ n.children, q.parents.parent? c.id = some n.id := by simpa using charted.linked
  have keys : q.parents.keys.Nodup := by
    refine rewrites_keys run ?_
    rw [table, link_eq]
    exact Parents.keys_set_all _ _ List.nodup_nil
  -- no node is lost, so an entry of the given table is still about a node of the tree
  have known : ∀ id, q.parents.parent? id ≠ none → id ∈ out.ids := by
    obtain ⟨_, ran⟩ := run.ran
    intro id recorded
    have old : id < q.fresh := Nat.lt_of_not_le fun above => recorded (charted.free id above)
    by_contra outside
    have neither := mt (run.mem_ids id).mpr (by simpa using outside)
    rw [not_or] at neither
    have before : id < p.fresh := Nat.lt_of_not_le fun new => neither.2 ⟨new, old⟩
    rw [ran.parents id neither.1 before] at recorded
    exact recorded (former.foreign id (by simpa using neither.1))
  have top : q.parents.parent? out.id = none := (List.cons.inj tops).1.trans former.top
  have exact : q.parents.Exact out := by
    refine .of_linked _ out distinct' keys linked fun id recorded => ?_
    have inside := known id recorded
    rw [ids_eq] at inside
    rcases List.mem_cons.mp inside with rfl | inner
    · exact absurd top recorded
    · exact inner
  have relink := exact_link out distinct'
  refine ⟨exact, exact.unique relink, Nat.succ_injective (exact.size.trans relink.size.symm), ?_⟩
  intro n inside new
  have above : p.fresh ≤ n.id := by
    rcases (run.mem_ids n.id).mp (by simpa using mem_ids_of_mem_nodes out n inside) with old | ⟨above, _⟩
    · exact absurd (by simpa using old) new
    · exact above
  obtain ⟨s, operand, target, origin, rfl, listed, parent⟩ := casts n (by simpa using inside) above
  exact ⟨s, operand, target, origin, rfl, by simpa using listed, parent, linked _ inside (.expr operand) List.mem_cons_self⟩

open Document in
theorem parent_table_stays_exact (unit : UnitDoc) (u : Built) (built : build unit = .ok u) :
    (Parents.link (.file u.file)).Exact (.file u.file) ∧
      (∀ (node? : NodeId → Option Node) (notes : Annotations),
        let run := narrowFile node? u.file (start u.fresh (.link (.file u.file)) notes)
        Maintained (.link (.file u.file)) run.2.parents (.file u.file) (.file run.1)) ∧
      ∀ (node? : NodeId → Option Node) (e : Expr) (p : Progress), (Node.expr e).Distinct →
        (∀ id ∈ (Node.expr e).ids, id < p.fresh) → p.parents = .link (.expr e) →
          let run := narrowExpr node? e p
          Maintained (.link (.expr e)) run.2.parents (.expr e) (.expr run.1) := by
  have sound := build_sound unit u built
  refine ⟨exact_link _ sound.distinct, ?_, ?_⟩
  · intro node? notes run
    have rewrites : Rewrites (start u.fresh (.link (.file u.file)) notes) run.2 [.file u.file] [.file run.1] :=
      narrow_file_rewrites u.file _
    exact rewrites_maintained _ _ rewrites sound.distinct sound.below rfl
  · intro node? e p distinct below table run
    have rewrites : Rewrites p run.2 [.expr e] [.expr run.1] := narrow_expr_rewrites e p
    rw [← table]
    exact rewrites_maintained _ _ rewrites distinct below table

open Document in
-- `function measure(s: Shape) { if (s instanceof Box) { s.size; } }`
def guardedSize : UnitDoc :=
  let nowhere : Position := ⟨0, 0⟩
  let s : ExprDoc := .ref nowhere "s"
  let use : StmtDoc := .expression nowhere (some (.property nowhere (some s) "size"))
  let cls (name : String) (params : List String) : ClassDoc := ⟨name, params, "", [], []⟩
  { path := "box.json"
    literals := ⟨"List", "Dict", "Text", "Number", "Flag"⟩
    classes := [cls "List" ["T"], cls "Dict" ["T"], cls "Text" [], cls "Number" [], cls "Flag" [],
      ⟨"Shape", [], "", [], [⟨"size", "Number"⟩]⟩, ⟨"Box", [], "Shape", [], []⟩]
    interfaces := []
    enums := []
    functions := [⟨nowhere, "measure", [⟨"s", "Shape"⟩], "", [.branch nowhere (some (.instanceOf nowhere (some s) "Box")) [use] none]⟩]
    main := [] }

def insideTest : Progress :=
  let s : NodeId → Expr := fun id => .localRef ⟨id, none⟩ ⟨0, .parameter, "s"⟩
  let box : Ty := .cls ⟨"Box", 0⟩ []
  { start 1 (.link (.expr (s 0))) .empty with scopes := [[⟨.instanceOf ⟨7, none⟩ (s 8) box, s 8, box, []⟩]] }

open Document in
theorem guarded_size_relinked :
    ∃ u, build guardedSize = .ok u ∧
      (let run := narrowFile (Node.file u.file).find? u.file (start u.fresh (.link (.file u.file)) u.annotations)
      (∃ n ∈ (Node.file run.1).nodes, n.id ∉ (Node.file u.file).ids) ∧
        Maintained (.link (.file u.file)) run.2.parents (.file u.file) (.file run.1)) ∧
      let e : Expr := .localRef ⟨0, none⟩ ⟨0, .parameter, "s"⟩
      let run := narrowExpr (fun _ => none) e insideTest
      run.1.id = 1 ∧ run.2.parents.parent? 0 = some 1 ∧ Maintained (.link (.expr e)) run.2.parents (.expr e) (.expr run.1) := by
  have casts : (match build guardedSize with
      | .ok u => (Node.file (narrowFile (Node.file u.file).find? u.file
          (start u.fresh (.link (.file u.file)) u.annotations)).1).ids.any (· ∉ (Node.file u.file).ids)
      | .error _ => false) = true := by
    decide +kernel
  split at casts
  next u built =>
    obtain ⟨_, ofFile, ofExpr⟩ := parent_table_stays_exact guardedSize u built
    refine ⟨u, built, ⟨?_, ofFile _ _⟩, by decide +kernel, by decide +kernel, ofExpr _ _ _ ?_ (by decide +kernel) rfl⟩
    · simpa [Node.ids] using casts
    · rw [Node.Distinct]
      decide +kernel
  next => cases casts

end Typeflow.Narrow
