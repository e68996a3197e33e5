import Typeflow.Proofs.Infer.Plan

set_option autoImplicit false

namespace Typeflow.Infer

theorem bind_run {α β : Type} (x : InferM α) (f : α → InferM β) (p : Progress) :
    (x >>= f) p = match x p with
      | (.ok a, q) => f a q
      | (.error why, q) => (.error why, q) := by
  change (match x p with | (r, q) => ExceptT.bindCont f r q) = _
  rcases x p with ⟨_ | a, q⟩ <;> rfl

theorem bind_ran {α β : Type} {x : InferM α} {f : α → InferM β} {p r : Progress} {b : β} (ran : (x >>= f) p = (.ok b, r)) :
    ∃ a q, x p = (.ok a, q) ∧ f a q = (.ok b, r) := by
  rw [bind_run] at ran
  split at ran
  next a q first => exact ⟨a, q, first, ran⟩
  next => cases ran

theorem is_unknown_iff (t : Ty) : t.isUnknown ↔ t = .unknown := by
  cases t <;> simp [Ty.isUnknown]

theorem unless_typed_idle {e : Expr} (step : InferM Unit) {p : Progress} (typed : p.notes.actual e.id ≠ .unknown) :
    unlessTyped e step p = (.ok (), p) := by
  rw [Ne, ← is_unknown_iff] at typed
  change (if (p.notes.actual e.id).isUnknown then step else pure () : InferM Unit) p = _
  rw [if_neg typed]
  rfl

theorem unless_typed_enters {e : Expr} (step : InferM Unit) {p : Progress} (untyped : p.notes.actual e.id = .unknown) :
    unlessTyped e step p = step p := by
  rw [← is_unknown_iff] at untyped
  change (if (p.notes.actual e.id).isUnknown then step else pure () : InferM Unit) p = _
  rw [if_pos untyped]

-- A relation between two computations that start in one state. It goes along with sequences, where
-- what comes second may rely on how the computation on the right got through.
structure Logic where
  Holds : {α : Type} → Progress → InferM α → InferM α → Prop
  ret : ∀ {α : Type} (p : Progress) (a : α), Holds p (pure a) (pure a)
  seq : ∀ {α β : Type} {p : Progress} {x y : InferM α} {f g : α → InferM β}, Holds p x y →
    (∀ a q, y p = (.ok a, q) → Holds q (f a) (g a)) → Holds p (x >>= f) (y >>= g)
  guard : ∀ {p : Progress} {e : Expr} {x y : InferM Unit}, (p.notes.actual e.id = .unknown → Holds p x y) →
    Holds p (unlessTyped e x) (unlessTyped e y)

def Logic.Rel (L : Logic) {α : Type} (p : Progress) (x y : InferM α) (post : α → Progress → Prop) : Prop :=
  L.Holds p x y ∧ ∀ a q, y p = (.ok a, q) → post a q

section

variable {L : Logic} {α β : Type} {p : Progress}

theorem Logic.Rel.ret {a : α} {post : α → Progress → Prop} (holds : post a p) : L.Rel p (pure a) (pure a) post := by
  refine ⟨L.ret p a, fun b q ran => ?_⟩
  cases ran
  exact holds

theorem Logic.Rel.seq {x y : InferM α} {f g : α → InferM β} {post : α → Progress → Prop} {post' : β → Progress → Prop}
    (first : L.Rel p x y post) (second : ∀ a q, post a q → L.Rel q (f a) (g a) post') : L.Rel p (x >>= f) (y >>= g) post' := by
  refine ⟨L.seq first.1 fun a q ran => (second a q (first.2 a q ran)).1, fun b r ran => ?_⟩
  obtain ⟨a, q, ran, ran'⟩ := bind_ran ran
  exact (second a q (first.2 a q ran)).2 b r ran'

theorem unless_typed_ran {e : Expr} {x : InferM Unit} {q : Progress} (ran : unlessTyped e x p = (.ok (), q)) :
    p.notes.actual e.id ≠ .unknown ∧ q = p ∨ p.notes.actual e.id = .unknown ∧ x p = (.ok (), q) := by
  by_cases typed : p.notes.actual e.id = .unknown
  · rw [unless_typed_enters x typed] at ran
    exact .inr ⟨typed, ran⟩
  · rw [unless_typed_idle x typed] at ran
    cases ran
    exact .inl ⟨typed, rfl⟩

end

-- Two computations that do the same from a given state on.
def sameLogic : Logic where
  Holds p x y := x p = y p
  ret _ _ := rfl
  seq {_ _ p x y f g} first second := by
    rw [bind_run, bind_run, first]
    rcases ran : y p with ⟨_ | a, q⟩
    · rfl
    · exact second a q ran
  guard {p e x y} same := by
    by_cases typed : p.notes.actual e.id = .unknown
    · rw [unless_typed_enters x typed, unless_typed_enters y typed, same typed]
    · rw [unless_typed_idle x typed, unless_typed_idle y typed]

-- Only statements and blocks hand on what was found in them.
def handedOn : Node → List Ty → List Ty
  | .stmt _, found => found
  | .block _, found => found
  | _, _ => []

-- What has to be said about a walk: what it takes to infer a node, what holds between the steps that are
-- done and those to do, and what holds in the end. The second progress is that in which the node was met.
structure Walk (L : Logic) (ctx ctx' : Context) (chain chain' : Chain) where
  Before : Node → Ty → Progress → Prop
  Between : Node → Ty → Progress → List Step → List Step → List Ty → Progress → Prop
  After : Node → Ty → Progress → List Ty → Progress → Prop
  skip : ∀ e wanted p, Before (.expr e) wanted p → p.notes.actual e.id ≠ .unknown → After (.expr e) wanted p [] p
  enter : ∀ n wanted p, Before n wanted p → (∀ e, n = .expr e → p.notes.actual e.id = .unknown) →
    Between n wanted p [] (plan wanted n) [] p
  step : ∀ n wanted start done s todo found p, plan wanted n = done ++ s :: todo →
    Between n wanted start done (s :: todo) found p →
    (∀ c ∈ s.parts, ∀ type q, Before c type q →
      L.Rel q (inferPart ctx chain type c) (inferPart ctx' chain' type c) (After c type q)) →
    L.Rel p (s.run ctx chain found) (s.run ctx' chain' found) (Between n wanted start (done ++ [s]) todo)
  leave : ∀ n wanted start found p, Between n wanted start (plan wanted n) [] found p → After n wanted start (handedOn n found) p

theorem child_not_file (n c : Node) (child : c ∈ n.children) (f : SourceFile) : c ≠ .file f := by
  rintro rfl
  cases n with
  | expr e =>
    cases e with
    | fieldRef s object => cases object <;> simp [Node.children, Expr.children] at child
    | _ => simp [Node.children, Expr.children] at child
  | stmt s =>
    cases s with
    | declare s target init => cases init <;> simp [Node.children, Stmt.children] at child
    | ret s value => cases value <;> simp [Node.children, Stmt.children] at child
    | branch s condition body alternative => cases alternative <;> simp [Node.children, Stmt.children] at child
    | _ => simp [Node.children, Stmt.children] at child
  | _ => simp [Node.children] at child

namespace Walk

variable {L : Logic} {ctx ctx' : Context} {chain chain' : Chain} (walk : Walk L ctx ctx' chain chain')

theorem steps (n : Node) (wanted : Ty) (start : Progress)
    (parts : ∀ c ∈ n.children, ∀ type q, walk.Before c type q →
      L.Rel q (inferPart ctx chain type c) (inferPart ctx' chain' type c) (walk.After c type q))
    (done todo : List Step) (found : List Ty) (p : Progress) (split : plan wanted n = done ++ todo)
    (between : walk.Between n wanted start done todo found p) :
    L.Rel p (perform ctx chain found todo) (perform ctx' chain' found todo) (walk.Between n wanted start (plan wanted n) []) := by
  induction todo generalizing done found p with
  | nil =>
    rw [List.append_nil] at split
    exact .ret (split ▸ between)
  | cons s rest ih =>
    have inside := fun c member => parts c (plan_child wanted n c done rest s split member)
    rw [perform_cons, perform_cons]
    refine (walk.step n wanted start done s rest found p split between inside).seq ?_
    intro found q between
    exact ih (done ++ [s]) found q (by rw [split]; simp) between

theorem part (n : Node) (notFile : ∀ f, n ≠ .file f) (wanted : Ty) (p : Progress) (before : walk.Before n wanted p) :
    L.Rel p (inferPart ctx chain wanted n) (inferPart ctx' chain' wanted n) (walk.After n wanted p) := by
  induction n using node_induction generalizing wanted p with
  | step n ih =>
    have steps := fun untyped => walk.steps n wanted p (fun c child type q => ih c child (child_not_file n c child) type q) []
      (plan wanted n) [] p rfl (walk.enter n wanted p before untyped)
    rw [infer_part_eq wanted n notFile, infer_part_eq wanted n notFile]
    cases n with
    | expr e =>
      have entered : p.notes.actual e.id = .unknown → L.Rel p (perform ctx chain [] (plan wanted (.expr e)) >>= fun _ => pure ())
          (perform ctx' chain' [] (plan wanted (.expr e)) >>= fun _ => pure ()) fun _ q => walk.After (.expr e) wanted p [] q := by
        intro untyped
        refine (steps ?_).seq fun found q between => .ret (walk.leave _ _ _ found q between)
        rintro _ ⟨⟩
        exact untyped
      have guarded : L.Rel p _ _ fun _ q => walk.After (.expr e) wanted p [] q :=
        ⟨L.guard fun untyped => (entered untyped).1, fun _ q ran => ?_⟩
      · exact guarded.seq fun _ q after => .ret after
      · rcases unless_typed_ran ran with ⟨typed, rfl⟩ | ⟨untyped, ran⟩
        · exact walk.skip e wanted q before typed
        · exact (entered untyped).2 () q ran
    | function f => exact (steps nofun).seq fun found q between => .ret (walk.leave _ _ _ found q between)
    | stmt s => exact ⟨(steps nofun).1, fun found q ran => walk.leave _ _ _ found q ((steps nofun).2 found q ran)⟩
    | block b => exact ⟨(steps nofun).1, fun found q ran => walk.leave _ _ _ found q ((steps nofun).2 found q ran)⟩
    | file f => exact absurd rfl (notFile f)

-- The two runs may be about different files, as long as there is the same to do in them.
theorem file (same : plan .unknown (.file ctx'.file) = plan .unknown (.file ctx.file)) (p : Progress)
    (before : walk.Before (.file ctx.file) .unknown p) :
    L.Rel p (inferFile ctx chain) (inferFile ctx' chain') fun _ q => walk.After (.file ctx.file) .unknown p [] q := by
  have parts := fun c (child : c ∈ (Node.file ctx.file).children) type q =>
    walk.part c (child_not_file _ c child) type q
  rw [infer_file_eq .unknown, infer_file_eq .unknown, same]
  refine (walk.steps _ .unknown p parts [] _ [] p rfl (walk.enter _ _ p before nofun)).seq fun found q between => .ret ?_
  exact walk.leave _ _ _ found q between

end Walk

end Typeflow.Infer
