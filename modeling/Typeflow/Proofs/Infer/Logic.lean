import Typeflow.Proofs.Infer.Walk
import Typeflow.Proofs.Type.Whole

set_option autoImplicit false

namespace Typeflow

def Problem.types : Problem → List Ty
  | .untypedElement t => [t]
  | .mixedLiteral _ types => types
  | .noCommonType a b => [a, b]
  | .notLambda t => [t]
  | .lambdaParameter declared wanted => [declared, wanted]
  | .noProperty _ t => [t]
  | .notCallable t => [t]
  | _ => []

def Problem.Whole (problem : Problem) : Prop := ∀ t ∈ problem.types, t.whole

namespace Infer

structure Sound (notes : Annotations) : Prop where
  actual : ∀ id, (notes.actual id).Noted
  expected : ∀ id, (notes.expected id).Noted
  locals : ∀ id, (notes.ofLocal id).Noted

structure Warning (d : Diagnostic) : Prop where
  severity : d.severity = .warning
  whole : d.problem.Whole

def Warned (p q : Progress) : Prop := ∃ more, q.bag = p.bag ++ more ∧ ∀ d ∈ more, Warning d

-- From `p` to `q` nothing but warnings was reported, and only nodes with the numbers listed got
-- types. Locals keep the types they have.
structure Advance (ids : List NodeId) (p q : Progress) : Prop where
  actual : ∀ id, id ∉ ids → q.notes.actual id = p.notes.actual id
  expected : ∀ id, id ∉ ids → q.notes.expected id = p.notes.expected id
  locals : ∀ id, p.notes.ofLocal id ≠ .unknown → q.notes.ofLocal id = p.notes.ofLocal id
  bag : Warned p q

-- A failure is the error that was reported last, or an expression that no plugin claims.
inductive Stops (chain : Chain) (p q : Progress) : Failure → Prop
  | fatal (d : Diagnostic) (more : Bag) (bag : q.bag = p.bag ++ more ++ [d]) (warnings : ∀ w ∈ more, Warning w)
      (error : d.severity = .error) (whole : d.problem.Whole) : Stops chain p q (.fatal d)
  | unclaimed (e : Expr) (more : Bag) (bag : q.bag = p.bag ++ more) (warnings : ∀ w ∈ more, Warning w)
      (unclaimed : ∀ plugin ∈ chain, plugin.claims e.kind = false) : Stops chain p q (.unclaimed e.kind e.location)

theorem Warned.refl (p : Progress) : Warned p p :=
  ⟨[], (List.append_nil p.bag).symm, fun _ member => absurd member List.not_mem_nil⟩

theorem Warned.trans {p q r : Progress} (first : Warned p q) (second : Warned q r) : Warned p r := by
  obtain ⟨more, bag, warnings⟩ := first
  obtain ⟨rest, bag', warnings'⟩ := second
  exact ⟨more ++ rest, by rw [bag', bag, List.append_assoc], List.forall_mem_append.mpr ⟨warnings, warnings'⟩⟩

namespace Advance

theorem refl (ids : List NodeId) (p : Progress) : Advance ids p p :=
  ⟨fun _ _ => rfl, fun _ _ => rfl, fun _ _ => rfl, .refl p⟩

theorem trans {ids ids' : List NodeId} {p q r : Progress} (first : Advance ids p q) (second : Advance ids' q r) :
    Advance (ids ++ ids') p r := by
  refine ⟨fun id other => ?_, fun id other => ?_, fun id known => ?_, first.bag.trans second.bag⟩
  · rw [List.mem_append, not_or] at other
    rw [second.actual id other.2, first.actual id other.1]
  · rw [List.mem_append, not_or] at other
    rw [second.expected id other.2, first.expected id other.1]
  · have kept := first.locals id known
    rw [second.locals id (kept ▸ known), kept]

theorem weaken {ids ids' : List NodeId} {p q : Progress} (advance : Advance ids p q) (within : ids ⊆ ids') :
    Advance ids' p q :=
  { advance with
    actual := fun id other => advance.actual id fun member => other (within member)
    expected := fun id other => advance.expected id fun member => other (within member) }

theorem kept {ids others : List NodeId} {p q : Progress} (advance : Advance ids p q) (apart : others.Disjoint ids) :
    Kept others p.notes q.notes :=
  ⟨fun id member => advance.actual id (apart member), fun id member => advance.expected id (apart member), advance.locals⟩

end Advance

theorem Stops.after {chain : Chain} {p q r : Progress} {why : Failure} (first : Warned p q) (stops : Stops chain q r why) :
    Stops chain p r why := by
  obtain ⟨more, bag, warnings⟩ := first
  cases stops with
  | fatal d rest bag' warnings' error whole =>
    exact .fatal d (more ++ rest) (by rw [bag', bag]; simp) (List.forall_mem_append.mpr ⟨warnings, warnings'⟩) error whole
  | unclaimed e rest bag' warnings' unclaimed =>
    exact .unclaimed e (more ++ rest) (by rw [bag', bag]; simp) (List.forall_mem_append.mpr ⟨warnings, warnings'⟩) unclaimed

def Runs {α : Type} (chain : Chain) (ids : List NodeId) (p : Progress) (x : InferM α) (post : α → Progress → Prop) : Prop :=
  match x p with
  | (.ok a, q) => Advance ids p q ∧ Sound q.notes ∧ post a q
  | (.error why, q) => Stops chain p q why

namespace Runs

variable {α β : Type} {chain : Chain} {ids ids' : List NodeId} {p : Progress}

theorem of_ok {x : InferM α} {post : α → Progress → Prop} (a : α) (q : Progress) (ran : x p = (.ok a, q))
    (advance : Advance ids p q) (sound : Sound q.notes) (holds : post a q) : Runs chain ids p x post := by
  rw [Runs, ran]
  exact ⟨advance, sound, holds⟩

theorem of_error {x : InferM α} {post : α → Progress → Prop} (why : Failure) (q : Progress) (ran : x p = (.error why, q))
    (stops : Stops chain p q why) : Runs chain ids p x post := by
  rw [Runs, ran]
  exact stops

theorem outcome {x : InferM α} {post : α → Progress → Prop} (runs : Runs chain ids p x post) :
    (∃ a q, x p = (.ok a, q) ∧ Advance ids p q ∧ Sound q.notes ∧ post a q) ∨
      ∃ why q, x p = (.error why, q) ∧ Stops chain p q why := by
  rw [Runs] at runs
  split at runs
  next a q ran => exact .inl ⟨a, q, ran, runs⟩
  next why q ran => exact .inr ⟨why, q, ran, runs⟩

theorem pure {a : α} {post : α → Progress → Prop} (sound : Sound p.notes) (holds : post a p) :
    Runs chain ids p (pure a) post :=
  of_ok a p rfl (.refl ids p) sound holds

theorem imp {x : InferM α} {post post' : α → Progress → Prop} (runs : Runs chain ids p x post)
    (weaker : ∀ a q, Advance ids p q → Sound q.notes → post a q → post' a q) : Runs chain ids p x post' := by
  rcases runs.outcome with ⟨a, q, ran, advance, sound, holds⟩ | ⟨why, q, ran, stops⟩
  · exact of_ok a q ran advance sound (weaker a q advance sound holds)
  · exact of_error why q ran stops

theorem weaken {x : InferM α} {post : α → Progress → Prop} (runs : Runs chain ids p x post) (within : ids ⊆ ids') :
    Runs chain ids' p x post := by
  rcases runs.outcome with ⟨a, q, ran, advance, sound, holds⟩ | ⟨why, q, ran, stops⟩
  · exact of_ok a q ran (advance.weaken within) sound holds
  · exact of_error why q ran stops

theorem bind {x : InferM α} {f : α → InferM β} {post : α → Progress → Prop} {post' : β → Progress → Prop}
    (first : Runs chain ids p x post)
    (second : ∀ a q, Advance ids p q → Sound q.notes → post a q → Runs chain ids' q (f a) post') :
    Runs chain (ids ++ ids') p (x >>= f) post' := by
  rcases first.outcome with ⟨a, q, ran, advance, sound, holds⟩ | ⟨why, q, ran, stops⟩
  · have run : (x >>= f) p = f a q := by rw [bind_run, ran]
    rcases (second a q advance sound holds).outcome with ⟨b, r, ran', advance', sound', holds'⟩ | ⟨why, r, ran', stops⟩
    · exact of_ok b r (run.trans ran') (advance.trans advance') sound' holds'
    · exact of_error why r (run.trans ran') (stops.after advance.bag)
  · exact of_error why q (by rw [bind_run, ran]) stops

theorem step {x : InferM α} {f : α → InferM β} {post : α → Progress → Prop} {post' : β → Progress → Prop}
    (first : Runs chain ids p x post) (within : ids ⊆ ids')
    (second : ∀ a q, Advance ids p q → Sound q.notes → post a q → Runs chain ids' q (f a) post') :
    Runs chain ids' p (x >>= f) post' :=
  (first.bind second).weaken (List.append_subset.mpr ⟨within, .refl _⟩)

theorem seq {x : InferM α} {f : α → InferM β} {post : α → Progress → Prop} {post' : β → Progress → Prop}
    (first : Runs chain ids p x post)
    (second : ∀ a q, Advance ids p q → Sound q.notes → post a q → Runs chain ids q (f a) post') :
    Runs chain ids p (x >>= f) post' :=
  first.step (.refl _) second

end Runs

-- How a computation ends, whatever it gets done.
def Ends {α : Type} (chain : Chain) (p : Progress) : Except Failure α × Progress → Prop
  | (.ok _, q) => Warned p q
  | (.error why, q) => Stops chain p q why

theorem Ends.after {α : Type} {chain : Chain} {p q : Progress} {result : Except Failure α × Progress} (first : Warned p q)
    (ends : Ends chain q result) : Ends chain p result := by
  rcases result with ⟨why | a, r⟩
  · exact Stops.after first ends
  · exact first.trans ends

def runsLogic (chain : Chain) : Logic where
  Holds p _ y := Ends chain p (y p)
  ret p _ := Warned.refl p
  seq {_ _ p _ y _ _} first second := by
    rw [bind_run]
    rcases ran : y p with ⟨why | a, q⟩
    · rw [ran] at first
      exact first
    · rw [ran] at first
      exact (second a q ran).after first
  guard {p e _ y} entered := by
    by_cases untyped : p.notes.actual e.id = .unknown
    · rw [unless_typed_enters y untyped]
      exact entered untyped
    · rw [unless_typed_idle y untyped]
      exact Warned.refl p

theorem runs_iff_rel {α : Type} {chain : Chain} {ids : List NodeId} {p : Progress} (x : InferM α) {y : InferM α}
    {post : α → Progress → Prop} :
    Runs chain ids p y post ↔ (runsLogic chain).Rel p x y fun a q => Advance ids p q ∧ Sound q.notes ∧ post a q := by
  change _ ↔ Ends chain p (y p) ∧ _
  rw [Runs]
  rcases y p with ⟨why | a, q⟩
  · exact ⟨fun stops => ⟨stops, nofun⟩, fun rel => rel.1⟩
  · constructor
    · intro done
      refine ⟨done.1.bag, fun b r ran => ?_⟩
      cases ran
      exact done
    · exact fun rel => rel.2 a q rfl

section

variable {α : Type} {chain : Chain} {ids : List NodeId} {p : Progress} {post : α → Progress → Prop}

theorem actual_runs (e : Expr) (f : Ty → InferM α) (rest : Runs chain ids p (f (p.notes.actual e.id)) post) :
    Runs chain ids p (actual e >>= f) post := rest

theorem expected_runs (e : Expr) (f : Ty → InferM α) (rest : Runs chain ids p (f (p.notes.expected e.id)) post) :
    Runs chain ids p (expected e >>= f) post := rest

theorem local_type_runs (l : Local) (f : Ty → InferM α) (rest : Runs chain ids p (f (p.notes.ofLocal l.id)) post) :
    Runs chain ids p (localType l >>= f) post := rest

theorem notes_runs (f : Annotations → InferM α) (rest : Runs chain ids p (f p.notes) post) :
    Runs chain ids p (notes >>= f) post := rest

theorem fatal_runs (location : Option Location) (problem : Problem) (whole : problem.Whole) :
    Runs chain ids p (fatal location problem) post :=
  .of_error (.fatal ⟨.error, problem, location⟩) { p with bag := p.bag ++ [⟨.error, problem, location⟩] } rfl
    (.fatal _ [] (by simp) (fun _ member => absurd member List.not_mem_nil) rfl whole)

theorem warn_runs (location : Option Location) (problem : Problem) (sound : Sound p.notes) (whole : problem.Whole) :
    Runs chain ids p (warn location problem) fun _ q => q.notes = p.notes := by
  refine .of_ok () { p with bag := p.bag ++ [⟨.warning, problem, location⟩] } rfl ?_ sound rfl
  refine ⟨fun _ _ => rfl, fun _ _ => rfl, fun _ _ => rfl, [⟨.warning, problem, location⟩], rfl, ?_⟩
  exact List.forall_mem_singleton.mpr ⟨rfl, whole⟩

theorem record_runs (event : Event) (sound : Sound p.notes) : Runs chain ids p (record event) fun _ q => q.notes = p.notes :=
  .of_ok () { p with trace := p.trace ++ [event] } rfl
    ⟨fun _ _ => rfl, fun _ _ => rfl, fun _ _ => rfl, [], by simp, fun _ member => absurd member List.not_mem_nil⟩ sound rfl

theorem updated_noted (f : Nat → Ty) (a : Nat) (t : Ty) (noted : ∀ n, (f n).Noted) (new : t.Noted) (n : Nat) :
    (updated f a t n).Noted := by
  by_cases same : n = a
  · rw [same, updated_same]
    exact new
  · rw [updated_other f a n t same]
    exact noted n

theorem modify_notes_runs (f : Annotations → Annotations)
    (actual : ∀ id, id ∉ ids → (f p.notes).actual id = p.notes.actual id)
    (expected : ∀ id, id ∉ ids → (f p.notes).expected id = p.notes.expected id)
    (locals : ∀ id, p.notes.ofLocal id ≠ .unknown → (f p.notes).ofLocal id = p.notes.ofLocal id)
    (sound : Sound (f p.notes)) : Runs chain ids p (modifyNotes f) fun _ q => q.notes = f p.notes := by
  refine .of_ok () { p with notes := f p.notes } rfl ⟨actual, expected, locals, [], ?_, ?_⟩ sound rfl
  · exact (List.append_nil p.bag).symm
  · exact fun _ member => absurd member List.not_mem_nil

theorem set_expected_runs (e : Expr) (t : Ty) (sound : Sound p.notes) (noted : t.Noted) :
    Runs chain [e.id] p (setExpected e t) fun _ q => q.notes = p.notes.setExpected e.id t := by
  refine modify_notes_runs _ (fun _ _ => rfl) (fun id other => ?_) (fun _ _ => rfl)
    ⟨sound.actual, updated_noted _ _ _ sound.expected noted, sound.locals⟩
  exact updated_other _ _ _ _ fun same => other (List.mem_singleton.mpr same)

theorem set_local_runs (l : Local) (t : Ty) (sound : Sound p.notes) (noted : t.Noted)
    (untyped : p.notes.ofLocal l.id = .unknown) :
    Runs chain ids p (setLocal l t) fun _ q => q.notes = p.notes.setLocal l.id t := by
  refine modify_notes_runs _ (fun _ _ => rfl) (fun _ _ => rfl) (fun id known => ?_)
    ⟨sound.actual, sound.expected, updated_noted _ _ _ sound.locals noted⟩
  exact updated_other _ _ _ _ fun same => known (same ▸ untyped)

theorem set_actual_runs (e : Expr) (t : Ty) (sound : Sound p.notes) (whole : t.whole)
    (untyped : p.notes.actual e.id = .unknown) :
    Runs chain [e.id] p (setActual e t) fun _ q => q.notes = p.notes.setActual e.id t := by
  refine actual_runs e _ ?_
  rw [untyped]
  refine modify_notes_runs _ (fun id other => ?_) (fun _ _ => rfl) (fun _ _ => rfl)
    ⟨updated_noted _ _ _ sound.actual (.inr whole), sound.expected, sound.locals⟩
  exact updated_other _ _ _ _ fun same => other (List.mem_singleton.mpr same)

theorem suggest_runs (e : Expr) (t : Ty) (sound : Sound p.notes) (noted : t.Noted) :
    Runs chain [e.id] p (suggest e t) fun _ q => q.notes.actual = p.notes.actual ∧
      q.notes.ofLocal = p.notes.ofLocal ∧ (p.notes.expected e.id = .unknown → q.notes.expected e.id = t) := by
  refine expected_runs e _ ?_
  split
  next =>
    refine (set_expected_runs e t sound noted).imp fun _ q _ _ notes => ?_
    rw [notes]
    exact ⟨rfl, rfl, fun _ => updated_same _ _ _⟩
  next kept =>
    refine .pure sound ⟨rfl, rfl, fun unknown => ?_⟩
    cases t with
    | unknown => exact unknown
    | _ => simp [unknown, Ty.isUnknown] at kept

end

end Infer

end Typeflow
