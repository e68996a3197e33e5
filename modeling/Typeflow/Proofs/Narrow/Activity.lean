import Typeflow.Proofs.Narrow.Environment

set_option autoImplicit false

namespace Typeflow

section

variable {α : Type}

theorem pair_after (a b : α) (first second : List α) (nodup : (first ++ second).Nodup) (later : a ∈ second)
    (pair : [a, b].Sublist (first ++ second)) : [a, b].Sublist second := by
  obtain ⟨head, tail, split, left, right⟩ := List.sublist_append_iff.mp pair
  cases head with
  | nil => exact split ▸ right
  | cons c rest =>
    obtain ⟨rfl, _⟩ := List.cons.inj split
    exact ((List.nodup_append.mp nodup).2.2 a (left.subset List.mem_cons_self) a later rfl).elim

theorem pair_before (a b : α) (first second : List α) (nodup : (first ++ second).Nodup) (earlier : a ∈ first)
    (pair : [a, b].Sublist (first ++ second)) : [a, b].Sublist first ∨ b ∈ second := by
  obtain ⟨head, tail, split, left, right⟩ := List.sublist_append_iff.mp pair
  match head, split with
  | [], split =>
    subst split
    exact ((List.nodup_append.mp nodup).2.2 a earlier a (right.subset List.mem_cons_self) rfl).elim
  | [c], split =>
    obtain ⟨_, rfl⟩ := List.cons.inj split
    exact .inr (right.subset List.mem_cons_self)
  | [c, d], split =>
    obtain ⟨rfl, rest⟩ := List.cons.inj split
    obtain ⟨rfl, _⟩ := List.cons.inj rest
    exact .inl left
  | c :: d :: e :: rest, split => simp at split

theorem pair_of_mem (a b : α) (first second : List α) (left : a ∈ first) (right : b ∈ second) :
    [a, b].Sublist (first ++ second) :=
  List.Sublist.append (List.singleton_sublist.mpr left) (List.singleton_sublist.mpr right)

theorem same_split (groups : List (List α)) (nodup : groups.flatten.Nodup) (c : α)
    (before after before' after' : List α) (first : before ++ c :: after ∈ groups)
    (second : before' ++ c :: after' ∈ groups) : before = before' := by
  obtain ⟨each, disjoint⟩ := List.nodup_flatten.mp nodup
  have same : before ++ c :: after = before' ++ c :: after' := by
    by_contra different
    have : Std.Symm (@List.Disjoint α) := ⟨fun _ _ apart _ left right => apart right left⟩
    exact disjoint.forall first second different (List.mem_append_right before List.mem_cons_self)
      (List.mem_append_right before' List.mem_cons_self)
  obtain ⟨_, right, apart⟩ := List.nodup_append.mp (each _ first)
  have notBefore : c ∉ before := fun member => apart c member c List.mem_cons_self rfl
  exact ((List.append_cons_inj_of_notMem notBefore (List.nodup_cons.mp right).1).mp same).1

end

theorem known_unique (known found found' : List Test) (n m : Node) (distinct : n.Distinct)
    (first : Known known n found m) (second : Known known n found' m) : found = found' := by
  induction first with
  | here known n =>
    cases second with
    | here => rfl
    | inside _ _ _ c _ before after group inner =>
      exact (not_below_child n c (group_child n c _ group (by simp)) (known_below _ _ _ _ inner)).elim
  | inside known found n c m before after group inner ih =>
    have child := group_child n c _ group (by simp)
    cases second with
    | here => exact (not_below_child n c child (known_below _ _ _ _ inner)).elim
    | inside _ _ _ d _ before' after' group' inner' =>
      have child' := group_child n d _ group' (by simp)
      obtain rfl := children_disjoint n c d m distinct child child' (known_below _ _ _ _ inner) (known_below _ _ _ _ inner')
      -- both ways lead through the same child at the same place of the same group
      have nodup : n.groups.flatten.Nodup := groups_flatten n ▸ children_nodup n distinct
      obtain rfl := same_split n.groups nodup c before after before' after' group group'
      exact ih (distinct_child n c distinct child) inner'

theorem active_below (n c : Node) (test e : Expr) (child : c ∈ n.children) (active : Active c test e) :
    Active n test e := by
  obtain ⟨h, below, rest⟩ := active
  exact ⟨h, mem_nodes_child n c h child below, rest⟩

theorem child_visits (n c : Node) (child : c ∈ n.children) : c.visits.Sublist n.visits := by
  obtain ⟨before, after, split⟩ := List.append_of_mem child
  rw [visits_eq n, split, List.flatMap_append, List.flatMap_cons]
  exact ((List.sublist_append_left _ _).trans (List.sublist_append_right _ _)).trans (List.sublist_append_left _ _)

theorem active_of_climbs (root m : Node) (test e : Expr) (below : m ∈ root.nodes) (climbs : Climbs test m)
    (pair : [test, e].Sublist m.visits) :
    (Climbs test root ∧ [test, e].Sublist root.visits) ∨ Active root test e := by
  induction root using node_induction with
  | step n ih =>
    rcases (mem_nodes_iff n m).mp below with rfl | ⟨c, child, below⟩
    · exact .inl ⟨climbs, pair⟩
    · rcases ih c child below with ⟨climbed, inChild⟩ | active
      · obtain ⟨d, rfl⟩ := climbs_expr test c climbed
        rcases expr_child_cases n d child with scope | passed
        · refine .inr ⟨n, mem_nodes_self n, ⟨.expr d, scope, climbed⟩, inChild.trans ?_⟩
          obtain ⟨before, after, split⟩ := List.append_of_mem scope
          rw [split, List.flatMap_append, List.flatMap_cons]
          exact (List.sublist_append_left _ _).trans (List.sublist_append_right _ _)
        · exact .inl ⟨.up n (.expr d) passed climbed, inChild.trans (child_visits n (.expr d) child)⟩
      · exact .inr (active_below n c test e child active)

theorem known_of_pair (known : List Test) (n c : Node) (g : List Node) (t : Test) (e : Expr) (group : g ∈ n.groups)
    (member : c ∈ g) (left : t ∈ c.exports) (nodup : (g.flatMap Node.visits).Nodup)
    (pair : [t.expr, e].Sublist (g.flatMap Node.visits))
    (inside : ∀ known, [t.expr, e].Sublist c.visits → ∃ found, Known known c found (.expr e) ∧ t ∈ found) :
    ∃ found, Known known n found (.expr e) ∧ t ∈ found := by
  obtain ⟨before, after, rfl⟩ := List.append_of_mem member
  have visited : t.expr ∈ c.visits := (exports_sublist c).subset (List.mem_map_of_mem left)
  rw [List.flatMap_append, List.flatMap_cons] at pair nodup
  have rest := pair_after _ _ _ _ nodup (List.mem_append_left _ visited) pair
  rcases pair_before _ _ _ _ (List.nodup_append.mp nodup).2.1 visited rest with here | later
  · obtain ⟨found, inner, holds⟩ := inside (known ++ before.flatMap Node.exports) here
    exact ⟨found, .inside known found n c (.expr e) before after group inner, holds⟩
  · obtain ⟨d, inAfter, below⟩ := List.mem_flatMap.mp later
    obtain ⟨between, last, rfl⟩ := List.append_of_mem inAfter
    obtain ⟨found, inner⟩ :=
      known_exists (known ++ (before ++ c :: between).flatMap Node.exports) d (.expr e) ((mem_visits_iff d e).mp below)
    refine ⟨found, .inside known found n d (.expr e) (before ++ c :: between) last (by simpa using group) inner, ?_⟩
    obtain ⟨more, rfl, _⟩ := known_grows _ _ _ _ inner
    refine List.mem_append_left _ (List.mem_append_right _ (List.mem_flatMap.mpr ⟨c, by simp, left⟩))

theorem known_of_exported (known : List Test) (n : Node) (t : Test) (e : Expr) (distinct : n.Distinct)
    (plain : (Node.expr e).transparent = []) (left : t ∈ n.exports) (pair : [t.expr, e].Sublist n.visits) :
    ∃ found, Known known n found (.expr e) ∧ t ∈ found := by
  induction n using node_induction generalizing known with
  | step n ih =>
    have nodup := visits_nodup n distinct
    rw [visits_eq] at nodup pair
    rw [exports_eq] at left
    rcases List.mem_append.mp left with passed | own
    · obtain ⟨c, child, left⟩ := List.mem_flatMap.mp passed
      obtain ⟨group, earlier, split⟩ := transparent_group n c child
      have visited : t.expr ∈ n.transparent.flatMap Node.visits :=
        List.mem_flatMap.mpr ⟨c, child, (exports_sublist c).subset (List.mem_map_of_mem left)⟩
      rw [split, List.flatMap_append] at nodup pair
      have notSelf : e ∉ n.expr?.toList := by
        intro self
        cases n with
        | expr d =>
          obtain rfl : e = d := by simpa [Node.expr?] using self
          rw [plain] at child
          cases child
        | _ => simp [Node.expr?] at self
      have inParts := (pair_before _ _ _ _ nodup (List.mem_append_right _ visited) pair).resolve_right notSelf
      have parts := (List.nodup_append.mp nodup).1
      have inPassed := pair_after _ _ _ _ parts visited inParts
      refine known_of_pair known n c _ t e group child left (List.nodup_append.mp parts).2.1 inPassed ?_
      intro known inside
      have member := transparent_child n c child
      exact ih c member known (distinct_child n c distinct member) left inside
    · -- the test itself is the last expression of its node, so nothing follows it there
      have self : n.expr?.toList = [t.expr] := by
        cases n with
        | expr d =>
          cases d with
          | instanceOf s operand check =>
            obtain rfl := List.mem_singleton.mp own
            rfl
          | _ => cases own
        | _ => cases own
      rw [self] at nodup pair
      have only := pair_after _ _ _ _ nodup List.mem_cons_self pair
      exact absurd only.length_le (by simp)

theorem known_iff_active (root : Node) (found : List Test) (t : Test) (e : Expr) (distinct : root.Distinct)
    (outermost : root.exports = []) (plain : (Node.expr e).transparent = [])
    (entered : Known [] root found (.expr e)) : t ∈ found ↔ Active root t.expr e := by
  constructor
  · intro holds
    rcases known_mem _ _ _ _ t entered holds with absent | ⟨n, below, before, c, after, group, left, inner⟩
    · cases absent
    · obtain ⟨d, member, exported⟩ := List.mem_flatMap.mp left
      have visited : t.expr ∈ before.flatMap Node.visits :=
        List.mem_flatMap.mpr ⟨d, member, (exports_sublist d).subset (List.mem_map_of_mem exported)⟩
      have pair : [t.expr, e].Sublist ((before ++ c :: after).flatMap Node.visits) := by
        rw [List.flatMap_append, List.flatMap_cons]
        exact pair_of_mem _ _ _ _ visited (List.mem_append_left _ ((mem_visits_iff c e).mpr inner))
      have climbs := (mem_exports_iff t d).mp exported
      rcases group_cases n _ group with scope | passed | nothing
      · exact ⟨n, below, ⟨d, by rw [← scope]; simp [member], climbs⟩, by rw [← scope]; exact pair⟩
      · have climbed : Climbs t.expr n := .up n d (by rw [← passed]; simp [member]) climbs
        rcases active_of_climbs root n t.expr e below climbed (pair.trans (group_visits n _ group)) with top | active
        · have := (mem_exports_iff t root).mpr top.1
          rw [outermost] at this
          cases this
        · exact active
      · have : t ∈ (before ++ c :: after).flatMap Node.exports := by
          rw [List.flatMap_append]
          exact List.mem_append_left _ left
        rw [nothing] at this
        cases this
  · rintro ⟨h, below, ⟨c, scope, climbs⟩, pair⟩
    have exported := (mem_exports_iff t c).mpr climbs
    have group := scope_group h c scope
    have inner := distinct_below root h distinct below
    have child := group_child h c _ group scope
    obtain ⟨outer, reached⟩ := known_exists [] root h below
    obtain ⟨found', entered', holds⟩ := known_of_pair outer h c h.scope t e group scope exported
      ((group_visits h _ group).nodup (visits_nodup h inner)) pair
      fun known inside => known_of_exported known c t e (distinct_child h c inner child) plain exported inside
    rw [known_unique [] found found' root (.expr e) distinct entered (known_trans _ _ _ _ _ _ reached entered')]
    exact holds

end Typeflow
