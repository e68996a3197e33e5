import Typeflow.Proofs.Tree
import Mathlib.Data.List.Perm.Basic

set_option autoImplicit false

namespace Typeflow

namespace Parents

theorem lookup_set_link (child parent id : NodeId) (links : List (NodeId × NodeId)) :
    (setLink child parent links).lookup id = if id = child then some parent else links.lookup id := by
  induction links with
  | nil =>
    by_cases same : id = child
    · simp [setLink, same]
    · simp [setLink, List.lookup_cons, same, beq_eq_false_iff_ne.mpr same]
  | cons link rest ih =>
    obtain ⟨c, q⟩ := link
    by_cases here : c = child
    · subst here
      by_cases same : id = c
      · simp [setLink, same]
      · simp [setLink, List.lookup_cons, same, beq_eq_false_iff_ne.mpr same]
    · by_cases same : id = c
      · subst same
        simp [setLink, here]
      · simp [setLink, List.lookup_cons, here, beq_eq_false_iff_ne.mpr same, ih]

theorem parent_set (p : Parents) (child parent id : NodeId) :
    (p.set child parent).parent? id = if id = child then some parent else p.parent? id :=
  lookup_set_link child parent id p.links

theorem parent_wrap (p : Parents) (old wrapper id : NodeId) (notOld : id ≠ old) (notWrapper : id ≠ wrapper) :
    (p.wrap old wrapper).parent? id = p.parent? id := by
  rw [wrap, parent_set, if_neg notOld]
  cases p.parent? old with
  | none => rfl
  | some parent => rw [parent_set, if_neg notWrapper]

theorem parent_wrap_old (p : Parents) (old wrapper : NodeId) : (p.wrap old wrapper).parent? old = some wrapper := by
  rw [wrap, parent_set, if_pos rfl]

theorem parent_wrap_wrapper (p : Parents) (old wrapper : NodeId) (other : wrapper ≠ old) (free : p.parent? wrapper = none) :
    (p.wrap old wrapper).parent? wrapper = p.parent? old := by
  rw [wrap, parent_set, if_neg other]
  cases p.parent? old with
  | none => exact free
  | some parent => rw [parent_set, if_pos rfl]

def setAll (p : Parents) (links : List (NodeId × NodeId)) : Parents :=
  links.foldl (fun p link => p.set link.1 link.2) p

theorem parent_set_all_absent (p : Parents) (links : List (NodeId × NodeId)) (id : NodeId)
    (absent : id ∉ links.map Prod.fst) : (p.setAll links).parent? id = p.parent? id := by
  induction links generalizing p with
  | nil => rfl
  | cons link rest ih =>
    rw [List.map_cons, List.mem_cons, not_or] at absent
    rw [setAll, List.foldl_cons, ← setAll, ih _ absent.2, parent_set, if_neg absent.1]

theorem parent_set_all (p : Parents) (links : List (NodeId × NodeId)) (nodup : (links.map Prod.fst).Nodup)
    (id parent : NodeId) (member : (id, parent) ∈ links) : (p.setAll links).parent? id = some parent := by
  induction links generalizing p with
  | nil => cases member
  | cons link rest ih =>
    rw [List.map_cons, List.nodup_cons] at nodup
    rw [setAll, List.foldl_cons, ← setAll]
    rcases List.mem_cons.mp member with rfl | later
    · rw [parent_set_all_absent _ rest id nodup.1, parent_set, if_pos rfl]
    · exact ih _ nodup.2 later

def keys (p : Parents) : List NodeId := p.links.map Prod.fst

theorem mem_keys (p : Parents) (id : NodeId) : id ∈ p.keys ↔ p.parent? id ≠ none := by
  rw [parent?, Ne, List.lookup_eq_none_iff, keys, List.mem_map]
  constructor
  · rintro ⟨link, member, rfl⟩ absent
    simpa using absent link member
  · intro present
    by_contra absent
    refine present fun link member => ?_
    simpa using fun same => absent ⟨link, member, same.symm⟩

theorem set_link_keys (child parent : NodeId) (links : List (NodeId × NodeId)) (nodup : (links.map Prod.fst).Nodup) :
    ((setLink child parent links).map Prod.fst).Nodup := by
  -- the link of `child` is replaced where it stands, or comes last
  have grown : ∀ rest : List (NodeId × NodeId), (setLink child parent rest).map Prod.fst ⊆ child :: rest.map Prod.fst := by
    intro rest
    induction rest with
    | nil => simp [setLink]
    | cons link rest ih =>
      rw [setLink]
      split <;> grind
  induction links with
  | nil => simp [setLink]
  | cons link rest ih =>
    obtain ⟨absent, nodup⟩ := List.nodup_cons.mp nodup
    rw [setLink]
    split
    · exact List.nodup_cons.mpr ⟨absent, nodup⟩
    next other =>
      refine List.nodup_cons.mpr ⟨fun member => ?_, ih nodup⟩
      rcases List.mem_cons.mp (grown rest member) with same | later
      · exact other (beq_iff_eq.mpr same)
      · exact absent later

theorem keys_set (p : Parents) (child parent : NodeId) (nodup : p.keys.Nodup) : (p.set child parent).keys.Nodup :=
  set_link_keys child parent p.links nodup

theorem keys_set_all (p : Parents) (links : List (NodeId × NodeId)) (nodup : p.keys.Nodup) : (p.setAll links).keys.Nodup := by
  induction links generalizing p with
  | nil => exact nodup
  | cons link rest ih => exact ih _ (keys_set p _ _ nodup)

theorem keys_wrap (p : Parents) (old wrapper : NodeId) (nodup : p.keys.Nodup) : (p.wrap old wrapper).keys.Nodup := by
  rw [wrap]
  cases p.parent? old with
  | none => exact keys_set p _ _ nodup
  | some parent => exact keys_set _ _ _ (keys_set p _ _ nodup)

end Parents

def Node.links (n : Node) : List (NodeId × NodeId) := n.children.map fun c => (c.id, n.id)

theorem link_eq (root : Node) : Parents.link root = Parents.empty.setAll (root.nodes.flatMap Node.links) := by
  rw [Parents.link, Parents.setAll, List.foldl_flatMap]
  congr 1
  funext p n
  rw [Node.links, List.foldl_map]

theorem children_perm (n : Node) : (n.nodes.flatMap Node.children).Perm (n.children.flatMap Node.nodes) := by
  induction n using node_induction with
  | step n ih =>
    have inner : (n.children.flatMap fun c => c.nodes.flatMap Node.children).Perm
        (n.children.flatMap fun c => c.children.flatMap Node.nodes) := List.Perm.flatMap_left _ ih
    have each : (n.children.flatMap Node.nodes) = n.children.flatMap fun c => c :: c.children.flatMap Node.nodes :=
      List.flatMap_congr fun c _ => nodes_eq c
    rw [nodes_eq, List.flatMap_cons, List.flatMap_assoc, each]
    refine (inner.append_left _).trans ?_
    simpa using List.map_append_flatMap_perm n.children id fun c => c.children.flatMap Node.nodes

theorem links_keys (root : Node) :
    ((root.nodes.flatMap Node.links).map Prod.fst).Perm (root.children.flatMap Node.ids) := by
  have keys : (root.nodes.flatMap Node.links).map Prod.fst = (root.nodes.flatMap Node.children).map Node.id := by
    simp [Node.links, List.map_flatMap, Function.comp_def]
  have ids : root.children.flatMap Node.ids = (root.children.flatMap Node.nodes).map Node.id := List.map_flatMap.symm
  rw [keys, ids]
  exact (children_perm root).map Node.id

theorem links_nodup (root : Node) (distinct : root.Distinct) : ((root.nodes.flatMap Node.links).map Prod.fst).Nodup :=
  (links_keys root).nodup_iff.mpr (distinct_children root distinct)

theorem parent_link (root n c : Node) (distinct : root.Distinct) (below : n ∈ root.nodes) (child : c ∈ n.children) :
    (Parents.link root).parent? c.id = some n.id := by
  rw [link_eq]
  refine Parents.parent_set_all _ _ (links_nodup root distinct) _ _ (List.mem_flatMap.mpr ⟨n, below, ?_⟩)
  exact List.mem_map.mpr ⟨c, child, rfl⟩

theorem find_node (root n : Node) (distinct : root.Distinct) (below : n ∈ root.nodes) : root.find? n.id = some n := by
  cases found : root.find? n.id with
  | none => exact absurd (List.find?_eq_none.mp found n below) (by simp)
  | some m =>
    have same : m.id = n.id := by simpa using List.find?_some found
    rw [eq_of_same_id root m n distinct (List.mem_of_find?_eq_some found) below same]

theorem parent_exists (root n : Node) (below : n ∈ root.nodes) (notRoot : n ≠ root) :
    ∃ parent ∈ root.nodes, n ∈ parent.children := by
  induction root using node_induction with
  | step root ih =>
    rcases (mem_nodes_iff root n).mp below with rfl | ⟨c, child, below⟩
    · exact (notRoot rfl).elim
    · by_cases top : n = c
      · exact ⟨root, mem_nodes_self root, top ▸ child⟩
      · obtain ⟨parent, inner, edge⟩ := ih c child below top
        exact ⟨parent, mem_nodes_child root c parent child inner, edge⟩

structure Parents.Exact (p : Parents) (root : Node) : Prop where
  inverse : ∀ n ∈ root.nodes, ∀ c ∈ root.nodes, p.parent? c.id = some n.id ↔ c ∈ n.children
  top : p.parent? root.id = none
  foreign : ∀ id, id ∉ root.ids → p.parent? id = none
  size : p.size + 1 = root.nodes.length

theorem Parents.Exact.of_linked (p : Parents) (root : Node) (distinct : root.Distinct) (nodup : p.keys.Nodup)
    (linked : ∀ n ∈ root.nodes, ∀ c ∈ n.children, p.parent? c.id = some n.id)
    (known : ∀ id, p.parent? id ≠ none → id ∈ root.children.flatMap Node.ids) : p.Exact root where
  inverse n below c below' := by
    refine ⟨fun recorded => ?_, linked n below c⟩
    have inner := known c.id (by simp [recorded])
    have notRoot : c ≠ root := by
      rintro rfl
      rw [Node.Distinct, ids_eq] at distinct
      exact (List.nodup_cons.mp distinct).1 inner
    -- the entry names the number of a parent, and numbers are distinct
    obtain ⟨parent, parentBelow, edge⟩ := parent_exists root c below' notRoot
    have same := (linked parent parentBelow c edge).symm.trans recorded
    rwa [eq_of_same_id root parent n distinct parentBelow below (Option.some.inj same)] at edge
  top := by
    by_contra recorded
    rw [Node.Distinct, ids_eq] at distinct
    exact (List.nodup_cons.mp distinct).1 (known root.id recorded)
  foreign id absent := by
    by_contra recorded
    exact absent (children_within root (known id recorded))
  size := by
    -- every node but the root has one entry, and there are no others
    have keys : p.keys.Perm (root.children.flatMap Node.ids) := by
      rw [List.perm_ext_iff_of_nodup nodup (distinct_children root distinct)]
      intro id
      rw [mem_keys]
      refine ⟨known id, fun member => ?_⟩
      obtain ⟨c, child, inside⟩ := List.mem_flatMap.mp member
      obtain ⟨m, below, rfl⟩ := List.mem_map.mp inside
      have notRoot : m ≠ root := fun same => not_below_child root c child (same ▸ below)
      obtain ⟨parent, parentBelow, edge⟩ := parent_exists root m (mem_nodes_child root c m child below) notRoot
      simp [linked parent parentBelow m edge]
    have count := keys.length_eq
    rw [Parents.keys, List.length_map] at count
    have ids : root.nodes.length = root.ids.length := (List.length_map _).symm
    rw [ids, ids_eq, List.length_cons, ← count]
    rfl

theorem exact_link (root : Node) (distinct : root.Distinct) : (Parents.link root).Exact root := by
  refine .of_linked _ root distinct ?_ (fun n below c child => parent_link root n c distinct below child) fun id => ?_
  · rw [link_eq]
    exact Parents.keys_set_all _ _ List.nodup_nil
  · rw [← not_imp_not, not_not, link_eq]
    intro absent
    exact Parents.parent_set_all_absent _ _ id fun member => absent ((links_keys root).mem_iff.mp member)

theorem Parents.Exact.unique {p p' : Parents} {root : Node} (first : p.Exact root) (second : p'.Exact root) (id : NodeId) :
    p.parent? id = p'.parent? id := by
  by_cases inside : id ∈ root.ids
  · obtain ⟨c, below, rfl⟩ := List.mem_map.mp inside
    by_cases top : c = root
    · rw [top, first.top, second.top]
    · obtain ⟨parent, parentBelow, edge⟩ := parent_exists root c below top
      rw [(first.inverse parent parentBelow c below).mpr edge, (second.inverse parent parentBelow c below).mpr edge]
  · rw [first.foreign id inside, second.foreign id inside]

end Typeflow
