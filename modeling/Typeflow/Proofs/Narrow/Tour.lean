import Typeflow.Proofs.Narrow.Environment
import Typeflow.Proofs.Outline

set_option autoImplicit false

namespace Typeflow

-- A way to make a tree of a tree, from the left to the right and from the leaves up. What stands in the
-- scope of a node comes before the rest of its children. Then the node, rebuilt from them, is closed.
structure Traversal (σ : Type) where
  enter : σ → σ
  leave : σ → σ
  close : Node → Node → StateM σ Node

section

variable {σ : Type}

def walkAll (walk : Node → StateM σ Node) : List Node → StateM σ (List Node)
  | [] => return []
  | n :: rest => do
    let out ← walk n
    let outs ← walkAll walk rest
    return out :: outs

theorem walk_all_append (walk : Node → StateM σ Node) (ns ns' : List Node) (p : σ) :
    walkAll walk (ns ++ ns') p = ((walkAll walk ns p).1 ++ (walkAll walk ns' (walkAll walk ns p).2).1,
      (walkAll walk ns' (walkAll walk ns p).2).2) := by
  induction ns generalizing p with
  | nil => rfl
  | cons n rest ih =>
    change ((walk n p).1 :: (walkAll walk (rest ++ ns') (walk n p).2).1, (walkAll walk (rest ++ ns') (walk n p).2).2) = _
    rw [ih]
    rfl

-- The lists in a tree have functions of their own, which do the same to their members.
theorem walk_all_map {α : Type} (walk : Node → StateM σ Node) (wrap : α → Node) (one : α → StateM σ α)
    (all : List α → StateM σ (List α)) (nil : ∀ p, all [] p = ([], p))
    (cons : ∀ a rest p, all (a :: rest) p = ((one a p).1 :: (all rest (one a p).2).1, (all rest (one a p).2).2))
    (each : ∀ a p, walk (wrap a) p = (wrap (one a p).1, (one a p).2)) (items : List α) (p : σ) :
    walkAll walk (items.map wrap) p = ((all items p).1.map wrap, (all items p).2) := by
  induction items generalizing p with
  | nil => rw [nil]; rfl
  | cons a rest ih =>
    change ((walk (wrap a) p).1 :: (walkAll walk (rest.map wrap) (walk (wrap a) p).2).1,
      (walkAll walk (rest.map wrap) (walk (wrap a) p).2).2) = _
    rw [each, ih, cons]
    rfl

-- An invariant of going through the parts one after another.
theorem walk_all_along (walk : Node → StateM σ Node) (parts : List Node) (Along : List Node → List Node → σ → Prop)
    (step : ∀ done c todo outs q, parts = done ++ c :: todo → Along done outs q →
      Along (done ++ [c]) (outs ++ [(walk c q).1]) (walk c q).2)
    (done todo outs : List Node) (p : σ) (split : parts = done ++ todo) (now : Along done outs p) :
    Along parts (outs ++ (walkAll walk todo p).1) (walkAll walk todo p).2 := by
  induction todo generalizing done outs p with
  | nil =>
    rw [List.append_nil] at split
    change Along parts (outs ++ []) p
    rwa [List.append_nil, split]
  | cons c rest ih =>
    have later := ih (done ++ [c]) (outs ++ [(walk c p).1]) (walk c p).2 (by rw [split]; simp) (step done c rest outs p split now)
    rw [List.append_assoc] at later
    exact later

namespace Traversal

def parts (t : Traversal σ) (walk : Node → StateM σ Node) (n : Node) : StateM σ (List Node) := do
  modify t.enter
  let inner ← walkAll walk n.scope
  modify t.leave
  let rest ← walkAll walk n.outside
  return inner ++ rest

-- The function goes through trees in this way. A node is rebuilt as a node of its outline.
def Keeps (t : Traversal σ) (walk : Node → StateM σ Node) : Prop :=
  ∀ n p, ∃ m, m.outline = n.outline ∧ m.children = (t.parts walk n p).1 ∧ walk n p = t.close n m (t.parts walk n p).2

theorem rebuilt {t : Traversal σ} {walk : Node → StateM σ Node} {n : Node} {p q r : σ} {inner rest : List Node} (m : Node)
    (first : walkAll walk n.scope (t.enter p) = (inner, q)) (second : walkAll walk n.outside (t.leave q) = (rest, r))
    (outline : m.outline = n.outline) (children : m.children = inner ++ rest) (closed : walk n p = t.close n m r) :
    ∃ m, m.outline = n.outline ∧ m.children = (t.parts walk n p).1 ∧ walk n p = t.close n m (t.parts walk n p).2 := by
  have parts : t.parts walk n p = (inner ++ rest, r) := by
    change ((walkAll walk n.scope (t.enter p)).1 ++ (walkAll walk n.outside (t.leave (walkAll walk n.scope (t.enter p)).2)).1,
      (walkAll walk n.outside (t.leave (walkAll walk n.scope (t.enter p)).2)).2) = _
    rw [first, second]
  rw [parts]
  exact ⟨m, outline, children, closed⟩

end Traversal

-- What has to be said about a traversal: what it takes to come to a node, what holds when some of the
-- parts in its scope are done, or some of those outside, and what holds in the end. The first state is
-- that in which the node was met.
structure Tour (t : Traversal σ) (walk : Node → StateM σ Node) where
  Before : Node → σ → Prop
  Inside : Node → σ → List Node → List Node → σ → Prop
  Outside : Node → σ → List Node → List Node → σ → Prop
  After : Node → σ → Node → σ → Prop
  enter : ∀ n p, Before n p → Inside n p [] [] (t.enter p)
  inside : ∀ n p done c todo outs q, n.scope = done ++ c :: todo → Inside n p done outs q →
    Before c q ∧ (After c q (walk c q).1 (walk c q).2 → Inside n p (done ++ [c]) (outs ++ [(walk c q).1]) (walk c q).2)
  leave : ∀ n p outs q, Inside n p n.scope outs q → Outside n p [] outs (t.leave q)
  outside : ∀ n p done c todo outs q, n.outside = done ++ c :: todo → Outside n p done outs q →
    Before c q ∧ (After c q (walk c q).1 (walk c q).2 → Outside n p (done ++ [c]) (outs ++ [(walk c q).1]) (walk c q).2)
  close : ∀ n p m q, Outside n p n.outside m.children q → m.outline = n.outline →
    After n p (t.close n m q).1 (t.close n m q).2

theorem scope_child (n c : Node) (member : c ∈ n.scope) : c ∈ n.children := by
  rw [← scope_outside]
  exact List.mem_append_left _ member

theorem outside_child (n c : Node) (member : c ∈ n.outside) : c ∈ n.children := by
  rw [← scope_outside]
  exact List.mem_append_right _ member

theorem Tour.node {t : Traversal σ} {walk : Node → StateM σ Node} (tour : Tour t walk) (keeps : t.Keeps walk) (n : Node) (p : σ)
    (before : tour.Before n p) : tour.After n p (walk n p).1 (walk n p).2 := by
  induction n using node_induction generalizing p with
  | step n ih =>
    have inner := walk_all_along walk n.scope (tour.Inside n p)
      (fun done c todo outs q split now => by
        obtain ⟨before, after⟩ := tour.inside n p done c todo outs q split now
        exact after (ih c (scope_child n c (by simp [split])) q before))
      [] n.scope [] (t.enter p) rfl (tour.enter n p before)
    have rest := walk_all_along walk n.outside (tour.Outside n p)
      (fun done c todo outs q split now => by
        obtain ⟨before, after⟩ := tour.outside n p done c todo outs q split now
        exact after (ih c (outside_child n c (by simp [split])) q before))
      [] n.outside _ _ rfl (tour.leave n p _ _ inner)
    obtain ⟨m, outline, children, closed⟩ := keeps n p
    rw [closed]
    refine tour.close n p m _ ?_ outline
    rw [children]
    exact rest

-- Two functions that go through trees side by side make the same of them, if that is so of closing a node.
theorem Traversal.Keeps.together {σ' : Type} {t : Traversal σ} {t' : Traversal σ'} {walk : Node → StateM σ Node}
    {walk' : Node → StateM σ' Node} (keeps : t.Keeps walk) (keeps' : t'.Keeps walk') (Related : σ → σ' → Prop)
    (enter : ∀ p p', Related p p' → Related (t.enter p) (t'.enter p'))
    (leave : ∀ p p', Related p p' → Related (t.leave p) (t'.leave p'))
    (close : ∀ n m p p', Related p p' → (t.close n m p).1 = (t'.close n m p').1 ∧ Related (t.close n m p).2 (t'.close n m p').2)
    (n : Node) (p : σ) (p' : σ') (related : Related p p') :
    (walk n p).1 = (walk' n p').1 ∧ Related (walk n p).2 (walk' n p').2 := by
  induction n using node_induction generalizing p p' with
  | step n ih =>
    have along : ∀ ns : List Node, (∀ c ∈ ns, c ∈ n.children) → ∀ p p', Related p p' →
        (walkAll walk ns p).1 = (walkAll walk' ns p').1 ∧ Related (walkAll walk ns p).2 (walkAll walk' ns p').2 := by
      intro ns
      induction ns with
      | nil => exact fun _ _ _ related => ⟨rfl, related⟩
      | cons c rest ih' =>
        intro children p p' related
        obtain ⟨here, others⟩ := List.forall_mem_cons.mp children
        obtain ⟨out, first⟩ := ih c here p p' related
        obtain ⟨outs, second⟩ := ih' others _ _ first
        exact ⟨congrArg₂ List.cons out outs, second⟩
    obtain ⟨ins, inner⟩ := along n.scope (scope_child n) _ _ (enter p p' related)
    obtain ⟨outs, rest⟩ := along n.outside (outside_child n) _ _ (leave _ _ inner)
    obtain ⟨m, outline, children, closed⟩ := keeps n p
    obtain ⟨m', outline', children', closed'⟩ := keeps' n p'
    have same : m = m' := by
      refine eq_of_outline m m' (outline.trans outline'.symm) ?_
      rw [children, children']
      exact congrArg₂ List.append ins outs
    rw [closed, closed', ← same]
    exact close n m _ _ rest

end

end Typeflow
