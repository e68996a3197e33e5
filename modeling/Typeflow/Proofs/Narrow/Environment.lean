import Typeflow.Proofs.Narrow.Scope

set_option autoImplicit false

namespace Typeflow

def Expr.exports : Expr → List Test
  | .instanceOf s operand check => operand.exports ++ [⟨s, operand, check⟩]
  | .binary _ op left right => if op = "&&" then left.exports ++ right.exports else []
  | .conditional _ _ _ whenFalse => whenFalse.exports
  | _ => []

namespace Node

def exports : Node → List Test
  | .expr e => e.exports
  | _ => []

def ownTest : Node → List Test
  | .expr (.instanceOf s operand check) => [⟨s, operand, check⟩]
  | _ => []

-- The children in order, divided into those that see the tests of one another.
def groups : Node → List (List Node)
  | .expr (.conditional _ condition whenTrue whenFalse) =>
    [[.expr condition, .expr whenTrue], [.expr whenFalse]]
  | .stmt (.branch _ condition body alternative) =>
    [.expr condition, .block body] :: alternative.toList.map fun b => [.block b]
  | n => [n.children]

-- The children that come after those in the scope that a node opens.
def outside : Node → List Node
  | .expr e => (Node.expr e).transparent
  | .stmt (.branch _ _ _ alternative) => alternative.toList.map .block
  | .stmt _ => []
  | n => n.children

end Node

theorem exports_eq (n : Node) : n.exports = n.transparent.flatMap Node.exports ++ n.ownTest := by
  cases n with
  | expr e =>
    cases e with
    | binary s op left right =>
      by_cases and : op = "&&" <;> simp [Node.exports, Expr.exports, Node.transparent, Node.ownTest, and]
    | _ => simp [Node.exports, Expr.exports, Node.transparent, Node.ownTest]
  | _ => rfl

theorem groups_flatten (n : Node) : n.groups.flatten = n.children := by
  cases n with
  | expr e => cases e <;> simp [Node.groups, Node.children, Expr.children]
  | stmt s =>
    cases s with
    | branch s condition body alternative =>
      cases alternative <;> simp [Node.groups, Node.children, Stmt.children]
    | _ => simp [Node.groups, Node.children, Stmt.children]
  | _ => simp [Node.groups]

theorem group_cases (n : Node) (g : List Node) (group : g ∈ n.groups) :
    g = n.scope ∨ g = n.transparent ∨ g.flatMap Node.exports = [] := by
  cases n with
  | expr e =>
    cases e with
    | binary s op left right =>
      by_cases and : op = "&&" <;>
        simp_all [Node.groups, Node.children, Expr.children, Node.scope, Node.transparent]
    | conditional s condition whenTrue whenFalse =>
      simp only [Node.groups, List.mem_cons, List.not_mem_nil, or_false] at group
      rcases group with rfl | rfl
      · exact .inl rfl
      · exact .inr (.inl rfl)
    | instanceOf s operand check => exact .inr (.inl (List.mem_singleton.mp group))
    | _ => exact .inl (List.mem_singleton.mp group)
  | stmt s =>
    cases s with
    | branch s condition body alternative =>
      rcases List.mem_cons.mp group with rfl | other
      · exact .inl rfl
      · obtain ⟨b, _, rfl⟩ := List.mem_map.mp other
        exact .inr (.inr rfl)
    | _ => exact .inl (List.mem_singleton.mp group)
  | block b =>
    obtain rfl := List.mem_singleton.mp group
    exact .inr (.inr (by simp [Node.children, Node.exports]))
  | function f =>
    obtain rfl := List.mem_singleton.mp group
    exact .inr (.inr (by simp [Node.children, Node.exports]))
  | file f =>
    obtain rfl := List.mem_singleton.mp group
    exact .inr (.inr (by simp [Node.children, Node.exports]))

theorem scope_group (n c : Node) (child : c ∈ n.scope) : n.scope ∈ n.groups := by
  cases n with
  | expr e =>
    cases e with
    | binary s op left right =>
      by_cases and : op = "&&" <;> simp_all [Node.groups, Node.children, Expr.children, Node.scope]
    | conditional s condition whenTrue whenFalse => exact List.mem_cons_self
    | instanceOf s operand check => cases child
    | _ => exact List.mem_singleton.mpr rfl
  | stmt s => cases s <;> exact List.mem_cons_self
  | _ => cases child

theorem scope_outside (n : Node) : n.scope ++ n.outside = n.children := by
  cases n with
  | expr e =>
    cases e with
    | binary s op left right =>
      by_cases and : op = "&&" <;> simp [Node.scope, Node.outside, Node.transparent, Node.children, Expr.children, and]
    | _ => simp [Node.scope, Node.outside, Node.transparent, Node.children, Expr.children]
  | stmt s => cases s <;> simp [Node.scope, Node.outside, Node.children, Stmt.children]
  | _ => rfl

theorem transparent_group (n c : Node) (child : c ∈ n.transparent) :
    n.transparent ∈ n.groups ∧ ∃ earlier, n.children = earlier ++ n.transparent := by
  cases n with
  | expr e =>
    cases e with
    | binary s op left right =>
      by_cases and : op = "&&" <;> simp_all [Node.groups, Node.children, Expr.children, Node.transparent]
    | conditional s condition whenTrue whenFalse =>
      exact ⟨by simp [Node.groups, Node.transparent], [.expr condition, .expr whenTrue], rfl⟩
    | instanceOf s operand check => exact ⟨List.mem_singleton.mpr rfl, [], rfl⟩
    | _ => cases child
  | _ => cases child

theorem transparent_child (n c : Node) (child : c ∈ n.transparent) : c ∈ n.children := by
  obtain ⟨_, earlier, split⟩ := transparent_group n c child
  rw [split]
  exact List.mem_append_right earlier child

theorem outside_group (n c : Node) (child : c ∈ n.outside) : n.outside ∈ n.groups := by
  cases n with
  | expr e => exact (transparent_group (.expr e) c child).1
  | stmt s =>
    cases s with
    | branch s condition body alternative =>
      cases alternative with
      | none => cases child
      | some alternative => exact List.mem_cons_of_mem _ List.mem_cons_self
    | _ => cases child
  | _ => exact List.mem_singleton.mpr rfl

theorem outside_plain (n c : Node) (notExpr : n.expr? = none) (child : c ∈ n.outside) : c.expr? = none := by
  cases n with
  | expr e => cases notExpr
  | stmt s =>
    cases s with
    | branch s condition body alternative =>
      obtain ⟨b, _, rfl⟩ := List.mem_map.mp child
      rfl
    | _ => cases child
  | block b =>
    obtain ⟨s, _, rfl⟩ := List.mem_map.mp child
    rfl
  | function f =>
    obtain rfl := List.mem_singleton.mp child
    rfl
  | file f =>
    rcases List.mem_append.mp child with member | member
    · obtain ⟨f, _, rfl⟩ := List.mem_map.mp member
      rfl
    · obtain ⟨b, _, rfl⟩ := List.mem_map.mp member
      rfl

theorem own_test_plain (n : Node) (plain : n.expr? = none) : n.ownTest = [] := by
  cases n with
  | expr e => cases plain
  | _ => rfl

theorem exports_plain (n : Node) (plain : n.expr? = none) : n.exports = [] := by
  cases n with
  | expr e => cases plain
  | _ => rfl

theorem outside_exports (n : Node) : n.outside.flatMap Node.exports ++ n.ownTest = n.exports := by
  rw [exports_eq]
  cases n with
  | stmt s => cases s <;> simp [Node.outside, Node.transparent, Node.ownTest, Node.exports, List.flatMap_map]
  | expr e => rfl
  | _ => simp [Node.outside, Node.transparent, Node.ownTest, Node.children, Node.exports, List.flatMap_map]

theorem group_sublist (n : Node) (g : List Node) (group : g ∈ n.groups) : g.Sublist n.children :=
  groups_flatten n ▸ List.sublist_flatten_of_mem group

theorem group_child (n c : Node) (g : List Node) (group : g ∈ n.groups) (child : c ∈ g) : c ∈ n.children :=
  (group_sublist n g group).subset child

theorem expr_child_cases (n : Node) (e : Expr) (child : .expr e ∈ n.children) :
    .expr e ∈ n.scope ∨ .expr e ∈ n.transparent := by
  cases n with
  | expr parent =>
    cases parent with
    | binary s op left right =>
      by_cases and : op = "&&" <;> simp_all [Node.children, Expr.children, Node.scope, Node.transparent]
    | conditional s condition whenTrue whenFalse =>
      simp_all [Node.children, Expr.children, Node.scope, Node.transparent, or_assoc]
    | instanceOf s operand check => exact .inr child
    | _ => exact .inl child
  | stmt s =>
    cases s with
    | branch s condition body alternative => simp_all [Node.children, Stmt.children, Node.scope]
    | _ => exact .inl child
  | _ => simp [Node.children] at child

theorem climbs_expr (e : Expr) (n : Node) (climbs : Climbs e n) : ∃ d, n = .expr d := by
  cases climbs with
  | here => exact ⟨e, rfl⟩
  | up _ c passed below =>
    cases n with
    | expr d => exact ⟨d, rfl⟩
    | _ => cases passed

theorem mem_exports_iff (t : Test) (n : Node) : t ∈ n.exports ↔ Climbs t.expr n := by
  constructor
  · induction n using node_induction with
    | step n ih =>
      rw [exports_eq, List.mem_append, List.mem_flatMap]
      rintro (⟨c, passed, member⟩ | own)
      · exact .up n c passed (ih c (transparent_child n c passed) member)
      · cases n with
        | expr e =>
          cases e with
          | instanceOf s operand check =>
            obtain rfl := List.mem_singleton.mp own
            exact .here
          | _ => cases own
        | _ => cases own
  · intro climbs
    induction climbs with
    | here => exact List.mem_append_right _ List.mem_cons_self
    | up n c passed below ih =>
      rw [exports_eq]
      exact List.mem_append_left _ (List.mem_flatMap.mpr ⟨c, passed, ih⟩)

theorem exports_sublist (n : Node) : (n.exports.map Test.expr).Sublist n.visits := by
  induction n using node_induction with
  | step n ih =>
    have passed : (n.transparent.flatMap fun c => c.exports.map Test.expr).Sublist
        (n.transparent.flatMap Node.visits) :=
      List.Sublist.flatMap_right _ fun c child => ih c (transparent_child n c child)
    have included : n.transparent.Sublist n.children := by
      cases parts : n.transparent with
      | nil => exact List.nil_sublist _
      | cons c rest =>
        obtain ⟨_, earlier, split⟩ := transparent_group n c (parts ▸ List.mem_cons_self)
        rw [split, ← parts]
        exact List.sublist_append_right earlier _
    have own : (n.ownTest.map Test.expr).Sublist n.expr?.toList := by
      cases n with
      | expr e => cases e <;> simp [Node.ownTest, Node.expr?, Test.expr]
      | _ => exact List.nil_sublist _
    rw [exports_eq, visits_eq, List.map_append, List.map_flatMap]
    exact (passed.trans (included.flatMap _)).append own

-- If `n` is entered while the tests `known` hold, `m` is entered while the tests `found` hold.
inductive Known : List Test → Node → List Test → Node → Prop
  | here (known : List Test) (n : Node) : Known known n known n
  | inside (known found : List Test) (n c m : Node) (before after : List Node)
      (group : before ++ c :: after ∈ n.groups)
      (inner : Known (known ++ before.flatMap Node.exports) c found m) : Known known n found m

theorem known_below (known found : List Test) (n m : Node) (entered : Known known n found m) : m ∈ n.nodes := by
  induction entered with
  | here known n => exact mem_nodes_self n
  | inside known found n c m before after group _ ih =>
    exact mem_nodes_child n c m (group_child n c _ group (by simp)) ih

theorem known_trans (known found more : List Test) (n m k : Node) (first : Known known n found m)
    (second : Known found m more k) : Known known n more k := by
  induction first with
  | here known n => exact second
  | inside known found n c m before after group _ ih => exact .inside known more n c k before after group (ih second)

theorem known_exists (known : List Test) (n m : Node) (member : m ∈ n.nodes) : ∃ found, Known known n found m := by
  induction n using node_induction generalizing known with
  | step n ih =>
    rcases (mem_nodes_iff n m).mp member with rfl | ⟨c, child, below⟩
    · exact ⟨known, .here known m⟩
    · obtain ⟨g, group, inGroup⟩ := List.mem_flatten.mp (groups_flatten n ▸ child)
      obtain ⟨before, after, rfl⟩ := List.append_of_mem inGroup
      obtain ⟨found, inner⟩ := ih c child (known ++ before.flatMap Node.exports) below
      exact ⟨found, .inside known found n c m before after group inner⟩

theorem group_visits (n : Node) (g : List Node) (group : g ∈ n.groups) : (g.flatMap Node.visits).Sublist n.visits := by
  rw [visits_eq]
  exact ((group_sublist n g group).flatMap _).trans (List.sublist_append_left _ _)

theorem known_grows (known found : List Test) (n m : Node) (entered : Known known n found m) :
    ∃ more, found = known ++ more ∧ (more.map Test.expr).Sublist n.visits := by
  induction entered with
  | here known n => exact ⟨[], by simp, List.nil_sublist _⟩
  | inside known found n c m before after group _ ih =>
    obtain ⟨more, grown, inner⟩ := ih
    refine ⟨before.flatMap Node.exports ++ more, by rw [grown, List.append_assoc], ?_⟩
    refine List.Sublist.trans ?_ (group_visits n _ group)
    rw [List.map_append, List.map_flatMap, List.flatMap_append, List.flatMap_cons]
    refine List.Sublist.append ?_ (inner.trans (List.sublist_append_left _ _))
    exact List.Sublist.flatMap_right _ fun d _ => exports_sublist d

theorem known_mem (known found : List Test) (n m : Node) (t : Test) (entered : Known known n found m)
    (holds : t ∈ found) : t ∈ known ∨ ∃ k ∈ n.nodes, ∃ before c after, before ++ c :: after ∈ k.groups ∧
      t ∈ before.flatMap Node.exports ∧ m ∈ c.nodes := by
  induction entered with
  | here known n => exact .inl holds
  | inside known found n c m before after group inner ih =>
    rcases ih holds with old | ⟨k, below, parts⟩
    · rcases List.mem_append.mp old with outer | left
      · exact .inl outer
      · exact .inr ⟨n, mem_nodes_self n, before, c, after, group, left, known_below _ _ _ _ inner⟩
    · exact .inr ⟨k, mem_nodes_child n c k (group_child n c _ group (by simp)) below, parts⟩

end Typeflow
