import Typeflow.Proofs.Infer.Derivation
import Typeflow.Proofs.Infer.Moves

set_option autoImplicit false

namespace Typeflow.Infer

-- All expressions from the node down have their types, and so has what is bound there.
def Complete (notes : Annotations) (n : Node) : Prop :=
  ∀ m ∈ n.nodes, (∀ l ∈ m.binders, notes.ofLocal l.id ≠ .unknown) ∧ ∀ e, m = .expr e → notes.actual e.id ≠ .unknown

-- The notes differ in that more is expected.
structure Expects (notes later : Annotations) : Prop where
  actual : later.actual = notes.actual
  locals : later.ofLocal = notes.ofLocal
  implicitCasts : later.implicitCasts = notes.implicitCasts
  expected : Retains notes.expected later.expected

theorem Expects.refl (notes : Annotations) : Expects notes notes := ⟨rfl, rfl, rfl, .refl _⟩

theorem Expects.trans {notes later last : Annotations} (first : Expects notes later) (second : Expects later last) :
    Expects notes last where
  actual := second.actual.trans first.actual
  locals := second.locals.trans first.locals
  implicitCasts := second.implicitCasts.trans first.implicitCasts
  expected := first.expected.trans second.expected

theorem Expects.eq {notes later : Annotations} (expects : Expects notes later) :
    later = { notes with expected := later.expected } := by
  rw [← expects.actual, ← expects.locals, ← expects.implicitCasts]

-- The computation only adds expected types. Once these are noted, it does nothing.
def Settles {α : Type} (notes : Annotations) (x : InferM α) : Prop :=
  ∃ a later, Expects notes later ∧ (∀ bag trace, x ⟨notes, bag, trace⟩ = (.ok a, ⟨later, bag, trace⟩)) ∧
    ∀ p : Progress, Expects later p.notes → x p = (.ok a, p)

theorem derivation_complete (ctx : Context) (notes : Annotations) (n : Node) (derived : Derivation ctx notes n) :
    Complete notes n := fun m below => ⟨(derived m below).binders, (derived m below).known⟩

section

variable {α β : Type} {notes : Annotations} {n : Node}

theorem Complete.part (complete : Complete notes n) (c : Node) (child : c ∈ n.children) : Complete notes c :=
  fun m below => complete m (mem_nodes_child n c m child below)

theorem Complete.bound (complete : Complete notes n) (l : Local) (bound : l ∈ n.binders) : notes.ofLocal l.id ≠ .unknown :=
  (complete n (mem_nodes_self n)).1 l bound

theorem Complete.typed {e : Expr} (complete : Complete notes (.expr e)) : notes.actual e.id ≠ .unknown :=
  (complete _ (mem_nodes_self _)).2 e rfl

theorem Complete.later {later : Annotations} (complete : Complete notes n) (expects : Expects notes later) :
    Complete later n := by
  intro m below
  rw [expects.actual, expects.locals]
  exact complete m below

namespace Settles

theorem still {x : InferM α} (a : α) (idle : ∀ p : Progress, Expects notes p.notes → x p = (.ok a, p)) : Settles notes x :=
  ⟨a, notes, .refl notes, fun bag trace => idle ⟨notes, bag, trace⟩ (.refl notes), idle⟩

theorem pure (a : α) : Settles notes (pure a : InferM α) := .still a fun _ _ => rfl

-- What comes second starts from what the first adds, and leaves it there.
theorem bind {x : InferM α} {f : α → InferM β} (first : Settles notes x)
    (second : ∀ a later, Expects notes later → (∀ bag trace, x ⟨notes, bag, trace⟩ = (.ok a, ⟨later, bag, trace⟩)) →
      Settles later (f a)) : Settles notes (x >>= f) := by
  obtain ⟨a, later, expects, ran, idle⟩ := first
  obtain ⟨b, last, expects', ran', idle'⟩ := second a later expects ran
  refine ⟨b, last, expects.trans expects', fun bag trace => ?_, fun p reached => ?_⟩
  · rw [bind_run, ran]
    exact ran' bag trace
  · rw [bind_run, idle p (expects'.trans reached)]
    exact idle' p reached

-- Actual types and the types of locals are read from notes in which they stay the same.
theorem of_same {x y : InferM α} (same : ∀ p : Progress, Expects notes p.notes → x p = y p) (rest : Settles notes y) :
    Settles notes x := by
  obtain ⟨a, later, expects, ran, idle⟩ := rest
  refine ⟨a, later, expects, fun bag trace => ?_, fun p reached => ?_⟩
  · rw [same _ (.refl notes), ran]
  · rw [same p (expects.trans reached), idle p reached]

theorem actual (e : Expr) {f : Ty → InferM β} (rest : Settles notes (f (notes.actual e.id))) :
    Settles notes (actual e >>= f) := by
  refine .of_same (fun p later => ?_) rest
  rw [← later.actual]
  rfl

theorem local_type (l : Local) {f : Ty → InferM β} (rest : Settles notes (f (notes.ofLocal l.id))) :
    Settles notes (localType l >>= f) := by
  refine .of_same (fun p later => ?_) rest
  rw [← later.locals]
  rfl

theorem bound (l : Local) {x y : InferM β} (typed : notes.ofLocal l.id ≠ .unknown) (rest : Settles notes y) :
    Settles notes (localType l >>= fun t => if t.isUnknown then x else y) := by
  rw [Ne, ← is_unknown_iff] at typed
  refine .local_type l ?_
  rwa [if_neg typed]

end Settles

theorem suggest_idle (e : Expr) (t : Ty) (p : Progress) (noted : t ≠ .unknown → p.notes.expected e.id ≠ .unknown) :
    suggest e t p = (.ok (), p) := by
  have read : expected e p = (.ok (p.notes.expected e.id), p) := rfl
  have idle : ((p.notes.expected e.id).isUnknown && !t.isUnknown) = false := by
    by_cases hole : t = .unknown
    · simp [hole, Ty.isUnknown]
    · have known := noted hole
      rw [Ne, ← is_unknown_iff] at known
      simp [known]
  rw [suggest, bind_run, read]
  simp [idle]
  rfl

theorem suggest_settles (e : Expr) (t : Ty) : Settles notes (suggest e t) := by
  by_cases added : t ≠ .unknown ∧ notes.expected e.id = .unknown
  · have own : (notes.setExpected e.id t).expected e.id = t := updated_same _ _ _
    refine ⟨(), notes.setExpected e.id t, ⟨rfl, rfl, rfl, retains_updated _ _ t added.2⟩, fun bag trace => ?_, fun p later => ?_⟩
    · exact suggest_run t added.2
    · have noted : (notes.setExpected e.id t).expected e.id ≠ .unknown := by
        rw [own]
        exact added.1
      refine suggest_idle e t p fun _ => ?_
      rw [later.expected e.id noted]
      exact noted
  · refine .still () fun p later => suggest_idle e t p fun known => ?_
    have noted : notes.expected e.id ≠ .unknown := fun unknown => added ⟨known, unknown⟩
    rw [later.expected e.id noted]
    exact noted

variable (ctx : Context) (chain : Chain)

theorem default_local_settles (location : Option Location) (problem : Problem) (l : Local)
    (typed : notes.ofLocal l.id ≠ .unknown) : Settles notes (defaultLocal location problem l) :=
  .bound l typed (.pure ())

-- What is wanted does not change when more is expected, as a lambda is not entered again.
theorem wanted_settled {wanted : Ty} {type : Annotations → Ty} {later : Annotations} (wants : Wanted wanted n type)
    (notExpr : n.expr? = none) (expects : Expects notes later) : type later = type notes := by
  cases wants with
  | given | nothing | result => rfl
  | ofLocal l => exact congrFun expects.locals l.id
  | body s params returns body isLambda =>
    rw [isLambda] at notExpr
    cases notExpr

def settlesLogic : Logic where
  Holds p _ y := Settles p.notes y
  ret _ a := .pure a
  seq {_ _ p _ _ _ _} first second := first.bind fun a later _ ran => second a ⟨later, p.bag, p.trace⟩ (ran p.bag p.trace)
  guard {p e _ _} entered := by
    by_cases untyped : p.notes.actual e.id = .unknown
    · refine .of_same (fun q expects => ?_) (entered untyped)
      rw [← expects.actual] at untyped
      exact unless_typed_enters _ untyped
    · refine .still () fun q expects => unless_typed_idle _ ?_
      rwa [expects.actual]

theorem settles_rel {x y : InferM α} {p : Progress} {post : α → Progress → Prop} (settles : Settles p.notes y)
    (then_ : ∀ a q, Expects p.notes q.notes → post a q) : settlesLogic.Rel p x y post := by
  refine ⟨settles, fun a q ran => then_ a q ?_⟩
  obtain ⟨b, later, expects, ran', _⟩ := settles
  cases ran.symm.trans (ran' p.bag p.trace)
  exact expects

-- Everything in the node has its type, and a file has its container types.
structure Finished (n : Node) (notes : Annotations) : Prop where
  complete : Complete notes n
  registered : ∀ f, n = .file f → ¬ (f.literals.array.isNone || f.literals.map.isNone)

theorem action_settles (wanted : Ty) (done todo : List Step) (action : Action)
    (split : plan wanted n = done ++ .act action :: todo) (finished : Finished n notes) (notExpr : n.expr? = none) :
    Settles notes (action.run ctx chain) := by
  have fits := (plan_fits wanted n done todo _ split).1
  have bound : ∀ l ∈ (Step.act action).binds, notes.ofLocal l.id ≠ .unknown := fun l binds =>
    finished.complete.bound l (plan_bound wanted n l done todo _ split binds)
  cases action with
  | claim e | dispatch e =>
    rw [fits.1] at notExpr
    cases notExpr
  | suggestArgs callee args =>
    obtain ⟨s, isCall⟩ := fits.1
    rw [isCall] at notExpr
    cases notExpr
  | suggest e type =>
    refine .of_same (fun p expects => ?_) (suggest_settles e (type notes))
    rw [← wanted_settled fits.1 notExpr expects]
    rfl
  | default location problem l => exact default_local_settles location problem l (bound l List.mem_cons_self)
  | adopt l init => exact .bound l (bound l List.mem_cons_self) (.pure ())
  | element location l items => exact .bound l (bound l List.mem_cons_self) (.pure ())
  | demand f =>
    refine .of_same (fun p expects => ?_) (.pure ())
    have typed : f.params.find? (fun l => (p.notes.ofLocal l.id).isUnknown) = none := by
      rw [List.find?_eq_none]
      intro l isParam
      rw [is_unknown_iff, expects.locals]
      exact bound l isParam
    have read : Infer.notes p = (.ok p.notes, p) := rfl
    rw [Action.run, bind_run, read]
    simp only [typed]
  | register location path literals =>
    obtain ⟨f, isFile, rfl, rfl, rfl⟩ := fits
    rw [Action.run, if_neg (finished.registered f isFile)]
    exact .pure ()

def settlesWalk : Walk settlesLogic ctx ctx chain chain where
  Before n _ p := Finished n p.notes
  Between n _ _ _ _ _ p := Finished n p.notes ∧ n.expr? = none
  After _ _ _ _ _ := True
  skip _ _ _ _ _ := trivial
  enter n wanted p finished untyped := by
    cases n with
    | expr e => exact absurd (untyped e rfl) finished.complete.typed
    | _ => exact ⟨finished, rfl⟩
  step n wanted start done s todo found p split between inside := by
    obtain ⟨finished, notExpr⟩ := between
    have fits := (plan_fits wanted n done todo s split).1
    refine settles_rel ?_ fun _ q expects => ⟨⟨finished.complete.later expects, finished.registered⟩, notExpr⟩
    cases s with
    | visit type part =>
      have child := plan_child wanted n part done todo _ split List.mem_cons_self
      have complete := finished.complete.part part child
      have part := inside _ List.mem_cons_self (type p.notes) p
        ⟨complete, fun f isFile => absurd isFile (child_not_file n _ child f)⟩
      refine .of_same (fun q expects => ?_) (part.1.bind fun more _ _ _ => .pure (found ++ more))
      rw [← wanted_settled fits.1 notExpr expects]
      rfl
    | collect e => exact .actual e (.pure _)
    | finish e params returns =>
      obtain ⟨_, _, _, isExpr, _⟩ := fits
      rw [isExpr] at notExpr
      cases notExpr
    | act action => exact (action_settles ctx chain wanted done todo action split finished notExpr).bind fun _ _ _ _ => .pure found
  leave _ _ _ _ _ _ := trivial

theorem infer_file_settles (registered : ¬ (ctx.file.literals.array.isNone || ctx.file.literals.map.isNone))
    (complete : Complete notes (.file ctx.file)) : Settles notes (inferFile ctx chain) := by
  have finished : Finished (.file ctx.file) notes := ⟨complete, fun f isFile => by cases isFile; exact registered⟩
  exact ((settlesWalk ctx chain).file rfl ⟨notes, [], []⟩ finished).1

theorem infer_file_registered (p q : Progress) (completed : inferFile ctx chain p = (.ok (), q)) :
    ¬ (ctx.file.literals.array.isNone || ctx.file.literals.map.isNone) := by
  intro missing
  unfold inferFile at completed
  dsimp only at completed
  rw [if_pos missing] at completed
  cases completed

end

open Document in
theorem inference_idempotent (unit : UnitDoc) (u : Built) (built : build unit = .ok u) (parents : Parents)
    (strategies : List Strategy) (bag : Bag) (trace : Trace) (q : Progress)
    (completed : inferFile (.ofFile u.file parents) (strategies.map Strategy.plugin) ⟨u.annotations, bag, trace⟩ = (.ok (), q))
    (parents' : Parents) (chain : Chain) :
    ∃ expected, Retains q.notes.expected expected ∧ ∀ bag' trace',
      let rested : Progress := ⟨{ q.notes with expected := expected }, bag', trace'⟩
      inferFile (.ofFile u.file parents') chain ⟨q.notes, bag', trace'⟩ = (.ok (), rested) ∧
        inferFile (.ofFile u.file parents') chain rested = (.ok (), rested) := by
  have sound := build_sound unit u built
  have runs := infer_unit_runs u.file parents strategies ⟨u.annotations, bag, trace⟩ sound.declared sound.whole
    sound.distinct (built_notes_sound u sound) sound.actual
  have derived : Derivation (.ofFile u.file parents) q.notes (.file u.file) := by
    rw [Runs, completed] at runs
    exact runs.2.2
  have registered := infer_file_registered (.ofFile u.file parents) _ _ q completed
  have complete := derivation_complete _ q.notes _ derived
  obtain ⟨_, later, expects, ran, idle⟩ := infer_file_settles (.ofFile u.file parents') chain registered complete
  refine ⟨later.expected, expects.expected, fun bag' trace' => ?_⟩
  rw [← expects.eq]
  exact ⟨ran bag' trace', idle _ (.refl later)⟩

open Document in
theorem add_to_items_inferred_again :
    ∃ u q later, build addToItems = .ok u ∧
      let infer := inferFile (.ofFile u.file (.link (.file u.file))) (Strategy.all.map Strategy.plugin)
      infer ⟨u.annotations, [], []⟩ = (.ok (), q) ∧ q.bag.length = 1 ∧ (q.notes.expected 3).text = "?" ∧
      infer ⟨q.notes, q.bag, []⟩ = (.ok (), ⟨later, q.bag, []⟩) ∧ (later.expected 3).text = "(n: any) => Number" ∧
      infer ⟨later, q.bag, []⟩ = (.ok (), ⟨later, q.bag, []⟩) ∧ later.actual = q.notes.actual := by
  obtain ⟨u, built, computed⟩ := built_check addToItems (fun u =>
    let infer := inferFile (.ofFile u.file (.link (.file u.file))) (Strategy.all.map Strategy.plugin)
    let first := infer ⟨u.annotations, [], []⟩
    first.1.toBool && decide (first.2.bag.length = 1 ∧ (first.2.notes.expected 3).text = "?" ∧
      ((infer ⟨first.2.notes, first.2.bag, []⟩).2.notes.expected 3).text = "(n: any) => Number")) (by decide +kernel)
  dsimp only at computed
  cases ran : inferFile (.ofFile u.file (.link (.file u.file))) (Strategy.all.map Strategy.plugin) ⟨u.annotations, [], []⟩ with
  | mk outcome q =>
    rw [ran, Bool.and_eq_true, decide_eq_true_iff] at computed
    obtain ⟨completed, warned, before, after⟩ := computed
    cases outcome with
    | error why => cases completed
    | ok =>
      obtain ⟨expected, _, again⟩ := inference_idempotent addToItems u built _ Strategy.all [] [] q ran (.link (.file u.file))
        (Strategy.all.map Strategy.plugin)
      obtain ⟨second, third⟩ := again q.bag []
      rw [second] at after
      exact ⟨u, q, _, built, ran, warned, before, second, after, third, rfl⟩

end Typeflow.Infer
