import Typeflow.Infer.Pass
import Typeflow.Proofs.Infer.Logic
import Mathlib.Logic.Relation

set_option autoImplicit false

namespace Typeflow

def Problem.isEarlyUse : Problem → Bool
  | .variableBeforeType _ => true
  | .parameterWithoutType _ => true
  | .loopVariableWithoutType _ => true
  | _ => false

namespace Infer

-- One step of inference, where `allowed` says what may be reported.
inductive Move (allowed : Problem → Prop) : Progress → Progress → Prop
  | expect (p : Progress) (id : NodeId) (t : Ty) (unknown : p.notes.expected id = .unknown) :
      Move allowed p { p with notes := p.notes.setExpected id t }
  | type (p : Progress) (id : NodeId) (t : Ty) (unknown : p.notes.actual id = .unknown) :
      Move allowed p { p with notes := p.notes.setActual id t }
  | bind (p : Progress) (id : LocalId) (t : Ty) (unknown : p.notes.ofLocal id = .unknown) :
      Move allowed p { p with notes := p.notes.setLocal id t }
  | report (p : Progress) (d : Diagnostic) (usual : allowed d.problem) : Move allowed p { p with bag := p.bag ++ [d] }
  | record (p : Progress) (event : Event) : Move allowed p { p with trace := p.trace ++ [event] }

-- Every type of `known` is one of `later`.
def Retains (known later : Nat → Ty) : Prop := ∀ id, known id ≠ .unknown → later id = known id

theorem Retains.refl (known : Nat → Ty) : Retains known known := fun _ _ => rfl

theorem Retains.trans {known later last : Nat → Ty} (first : Retains known later) (second : Retains later last) :
    Retains known last := by
  intro id typed
  have same := first id typed
  rw [← same] at typed ⊢
  exact second id typed

theorem retains_updated (known : Nat → Ty) (a : Nat) (t : Ty) (unknown : known a = .unknown) :
    Retains known (updated known a t) := by
  intro id typed
  apply updated_other
  intro same
  rw [same] at typed
  exact typed unknown

structure Fills (p q : Progress) : Prop where
  expected : Retains p.notes.expected q.notes.expected
  actual : Retains p.notes.actual q.notes.actual
  locals : Retains p.notes.ofLocal q.notes.ofLocal
  implicitCasts : q.notes.implicitCasts = p.notes.implicitCasts
  bag : p.bag <+: q.bag
  trace : p.trace <+: q.trace

theorem Fills.refl (p : Progress) : Fills p p :=
  ⟨.refl _, .refl _, .refl _, rfl, List.prefix_refl _, List.prefix_refl _⟩

theorem Fills.trans {p q r : Progress} (first : Fills p q) (second : Fills q r) : Fills p r where
  expected := first.expected.trans second.expected
  actual := first.actual.trans second.actual
  locals := first.locals.trans second.locals
  implicitCasts := second.implicitCasts.trans first.implicitCasts
  bag := first.bag.trans second.bag
  trace := first.trace.trans second.trace

theorem move_fills {allowed : Problem → Prop} {p q : Progress} (move : Move allowed p q) : Fills p q := by
  have same := Fills.refl p
  cases move with
  | expect id t unknown => exact { same with expected := retains_updated _ id t unknown }
  | type id t unknown => exact { same with actual := retains_updated _ id t unknown }
  | bind id t unknown => exact { same with locals := retains_updated _ id t unknown }
  | report d => exact { same with bag := List.prefix_append _ _ }
  | record event => exact { same with trace := List.prefix_append _ _ }

theorem moves_fill {allowed : Problem → Prop} {p q : Progress} (moves : Relation.ReflTransGen (Move allowed) p q) :
    Fills p q := by
  induction moves with
  | refl => exact .refl p
  | tail _ move ih => exact ih.trans (move_fills move)

theorem moves_reported {allowed : Problem → Prop} {p q : Progress} (moves : Relation.ReflTransGen (Move allowed) p q)
    (d : Diagnostic) (reported : d ∈ q.bag) : d ∈ p.bag ∨ allowed d.problem := by
  induction moves with
  | refl => exact .inl reported
  | tail _ move ih =>
    cases move with
    | report d' usual =>
      rcases List.mem_append.mp reported with earlier | new
      · exact ih earlier
      · rw [List.mem_singleton.mp new]
        exact .inr usual
    | _ => exact ih reported

def Moves {α : Type} (allowed : Problem → Prop) (p : Progress) (x : InferM α) : Prop :=
  Relation.ReflTransGen (Move allowed) p (x p).2

section

variable {α β : Type} {allowed : Problem → Prop} {p : Progress}

theorem moves_pure (a : α) : Moves allowed p (pure a : InferM α) := .refl

theorem moves_throw (why : Failure) : Moves allowed p (throw why : InferM α) := .refl

theorem Moves.bind {x : InferM α} {f : α → InferM β} (first : Moves allowed p x)
    (second : ∀ a q, x p = (.ok a, q) → Moves allowed q (f a)) : Moves allowed p (x >>= f) := by
  have run := bind_run x f p
  rw [Moves, run]
  rw [Moves] at first
  rcases ran : x p with ⟨_ | a, q⟩
  · rw [ran] at first
    exact first
  · rw [ran] at first
    exact first.trans (second a q ran)

theorem Moves.seq {x : InferM α} {f : α → InferM β} (first : Moves allowed p x) (second : ∀ a q, Moves allowed q (f a)) :
    Moves allowed p (x >>= f) :=
  first.bind fun a q _ => second a q

theorem moves_all {f : α → InferM PUnit} (xs : List α) (each : ∀ x q, Moves allowed q (f x)) (p : Progress) :
    Moves allowed p (xs.forM f) := by
  induction xs generalizing p with
  | nil => exact moves_pure ()
  | cons x rest ih => exact (each x p).seq fun _ q => ih q

theorem moves_actual (e : Expr) (f : Ty → InferM α) (rest : Moves allowed p (f (p.notes.actual e.id))) :
    Moves allowed p (actual e >>= f) := rest

theorem moves_expected (e : Expr) (f : Ty → InferM α) (rest : Moves allowed p (f (p.notes.expected e.id))) :
    Moves allowed p (expected e >>= f) := rest

theorem moves_local_type (l : Local) (f : Ty → InferM α) (rest : Moves allowed p (f (p.notes.ofLocal l.id))) :
    Moves allowed p (localType l >>= f) := rest

theorem moves_notes (f : Annotations → InferM α) (rest : Moves allowed p (f p.notes)) :
    Moves allowed p (notes >>= f) := rest

theorem moves_warn (location : Option Location) (problem : Problem) (usual : allowed problem) :
    Moves allowed p (warn location problem) :=
  .single (.report p ⟨.warning, problem, location⟩ usual)

theorem moves_fatal (location : Option Location) (problem : Problem) (usual : allowed problem) :
    Moves allowed p (fatal location problem : InferM α) :=
  .single (.report p ⟨.error, problem, location⟩ usual)

theorem moves_record (event : Event) : Moves allowed p (record event) := .single (.record p event)

theorem moves_set_local (l : Local) (t : Ty) (unknown : p.notes.ofLocal l.id = .unknown) :
    Moves allowed p (setLocal l t) :=
  .single (.bind p l.id t unknown)

theorem moves_suggest (e : Expr) (t : Ty) : Moves allowed p (suggest e t) := by
  refine moves_expected e _ ?_
  split
  next open_ =>
    rw [Bool.and_eq_true, is_unknown_iff] at open_
    exact .single (.expect p e.id t open_.1)
  next => exact moves_pure ()

theorem moves_set_actual (e : Expr) (t : Ty) : Moves allowed p (setActual e t) := by
  refine moves_actual e _ ?_
  split
  next unknown => exact .single (.type p e.id t unknown)
  next => exact moves_throw _

theorem moves_set_type (e : Expr) (t : Ty) : Moves allowed p (setType e t) := by
  cases t with
  | unknown => exact moves_pure false
  | _ => exact (moves_set_actual e _).seq fun _ _ => moves_pure true

end

theorem element_type_usual (c : Container) (decl : DeclId) (expected : Ty) (items : List Ty) (problem : Problem)
    (found : (elementType c decl expected items).2 = some problem) : problem.isEarlyUse = false := by
  unfold elementType at found
  split at found
  · split at found <;> cases found
    rfl
  · cases found
  · split at found <;> cases found
    rfl

section

variable {allowed : Problem → Prop} (usual : ∀ problem : Problem, problem.isEarlyUse = false → allowed problem)
  (ctx : Context) (e : Expr) (p : Progress)

theorem moves_propagate : Moves allowed p (propagate ctx e) := by
  refine moves_expected e _ ?_
  split
  next =>
    split
    next => exact moves_pure _
    next => exact moves_notes _ ((moves_suggest e _).seq fun _ _ => moves_pure _)
  next => exact moves_pure _

include usual

theorem moves_set_literal_type (decl : Option DeclId) (what : String) : Moves allowed p (setLiteralType ctx e decl what) := by
  cases decl with
  | some decl => exact moves_set_type e _
  | none => exact moves_fatal _ _ (usual _ rfl)

theorem moves_infer_literal (value : Literal) : Moves allowed p (inferLiteral ctx e value) := by
  cases value with
  | null => exact moves_set_type e _
  | _ => exact moves_set_literal_type usual ctx e p _ _

theorem moves_infer_container (c : Container) (decl : Option DeclId) (what : String) (items : List Expr) :
    Moves allowed p (inferContainer ctx e c decl what items) := by
  refine (moves_propagate ctx e p).seq fun wanted q => ?_
  cases decl with
  | none => exact moves_fatal _ _ (usual _ rfl)
  | some decl =>
    refine moves_notes _ ?_
    have element := element_type_usual c decl wanted (items.map fun item => q.notes.actual item.id)
    dsimp only
    split
    next problem found => exact (moves_warn _ _ (usual _ (element problem found))).seq fun _ r => moves_set_type e _
    next => exact moves_set_type e _

theorem moves_match_params (params : List Local) (wanted : List (String × Ty)) :
    Moves allowed p (matchParams ctx e params wanted) := by
  induction params generalizing wanted p with
  | nil => exact moves_pure ()
  | cons l rest ih =>
    cases wanted with
    | nil => exact moves_pure ()
    | cons param others =>
      refine moves_local_type l _ ?_
      split
      next unknown => exact (moves_set_local l _ ((is_unknown_iff _).mp unknown)).seq fun _ q => ih q others
      next =>
        split
        next =>
          have stops : Moves allowed p (fatal e.location (.lambdaParameter (p.notes.ofLocal l.id) param.2) : InferM Unit) :=
            moves_fatal _ _ (usual _ rfl)
          exact stops.seq fun _ q => ih q others
        next => exact (moves_pure ()).seq fun _ q => ih q others

theorem moves_infer_lambda_params (params : List Local) : Moves allowed p (inferLambdaParams ctx e params) := by
  refine (moves_propagate ctx e p).seq fun wanted q => ?_
  split
  next => exact moves_pure true
  next types result =>
    split
    next =>
      have stops : Moves allowed q (fatal e.location (.lambdaArity params.length types.length) : InferM Unit) :=
        moves_fatal _ _ (usual _ rfl)
      exact stops.seq fun _ r => (moves_match_params usual ctx e r params types).seq fun _ _ => moves_pure true
    next =>
      exact (moves_pure ()).seq fun _ r => (moves_match_params usual ctx e r params types).seq fun _ _ => moves_pure true
  next => exact moves_fatal _ _ (usual _ rfl)

omit usual in
theorem moves_infer_local_ref (target : Local)
    (typed : allowed (untypedLocal target) ∨ p.notes.ofLocal target.id ≠ .unknown) :
    Moves allowed p (inferLocalRef e target) := by
  refine moves_local_type target _ ?_
  split
  next unknown =>
    rcases typed with allowed | known
    · exact moves_fatal _ _ allowed
    · exact absurd unknown known
  next => exact moves_set_type e _

omit usual in
theorem moves_infer_field_ref (object : Option Expr) (target : FieldRef) :
    Moves allowed p (inferFieldRef ctx e object target) := by
  cases object with
  | none => exact moves_set_type e _
  | some object => exact moves_actual object _ (moves_set_type e _)

theorem moves_infer_property (object : Expr) (name : String) : Moves allowed p (inferProperty ctx e object name) := by
  refine moves_actual object _ ?_
  split
  next => exact moves_set_type e _
  next =>
    split
    next => exact moves_set_type e _
    next => exact moves_fatal _ _ (usual _ rfl)

theorem moves_common_type (location : Option Location) (a b : Ty) : Moves allowed p (commonType ctx location a b) := by
  unfold commonType
  split
  next => exact moves_pure _
  next => exact (moves_warn _ _ (usual _ rfl)).seq fun _ _ => moves_pure _

theorem moves_infer_binary (op : String) (left right : Expr) : Moves allowed p (inferBinary ctx e op left right) := by
  unfold inferBinary
  split
  next => exact moves_actual left _ (moves_set_type e _)
  next => exact moves_set_literal_type usual ctx e p _ _
  next =>
    refine moves_actual left _ (moves_actual right _ ?_)
    split <;> exact moves_set_literal_type usual ctx e p _ _
  next => exact moves_set_literal_type usual ctx e p _ _
  next => exact moves_fatal _ _ (usual _ rfl)

theorem moves_infer_unary (op : String) : Moves allowed p (inferUnary ctx e op) := by
  unfold inferUnary
  split
  next => exact moves_set_literal_type usual ctx e p _ _
  next => exact moves_set_literal_type usual ctx e p _ _
  next => exact moves_set_literal_type usual ctx e p _ _
  next => exact moves_fatal _ _ (usual _ rfl)

theorem moves_infer_conditional (whenTrue whenFalse : Expr) : Moves allowed p (inferConditional ctx e whenTrue whenFalse) := by
  refine moves_actual whenTrue _ (moves_actual whenFalse _ ?_)
  exact (moves_common_type usual ctx p _ _ _).seq fun _ _ => moves_set_type e _

theorem moves_infer_call (callee : Expr) (args : List Expr) : Moves allowed p (inferCall e callee args) := by
  refine moves_actual callee _ ?_
  split
  next => exact moves_set_type e _
  next _ params result _ =>
    split
    next =>
      have stops : Moves allowed p (fatal e.location (.callArity params.length args.length) : InferM Unit) :=
        moves_fatal _ _ (usual _ rfl)
      exact stops.seq fun _ _ => moves_set_type e _
    next => exact (moves_pure ()).seq fun _ _ => moves_set_type e _
  next => exact moves_fatal _ _ (usual _ rfl)

theorem strategy_moves (s : Strategy)
    (typed : ∀ site target, e = .localRef site target → allowed (untypedLocal target) ∨ p.notes.ofLocal target.id ≠ .unknown) :
    Moves allowed p (s.infer ctx e) := by
  unfold Strategy.infer
  split
  next => exact moves_infer_literal usual ctx _ p _
  next => exact moves_infer_container usual ctx _ p _ _ _ _
  next => exact moves_infer_container usual ctx _ p _ _ _ _
  next => exact moves_infer_lambda_params usual ctx _ p _
  next site target => exact moves_infer_local_ref _ p target (typed site target rfl)
  next => exact moves_infer_field_ref ctx _ p _ _
  next => exact moves_set_type _ _
  next => exact moves_set_type _ _
  next => exact moves_infer_property usual ctx _ p _ _
  next => exact moves_set_type _ _
  next => exact moves_set_literal_type usual ctx _ p _ _
  next => exact moves_infer_unary usual ctx _ p _
  next => exact moves_infer_binary usual ctx _ p _ _ _
  next => exact moves_infer_conditional usual ctx _ p _ _
  next => exact moves_infer_call usual _ p _ _
  next => exact moves_pure false

end

section

variable {allowed : Problem → Prop} {ctx : Context} {p : Progress}

theorem suggest_args_moves (callee : Ty) (args : List Expr) : Moves allowed p (suggestArgs callee args) := by
  unfold suggestArgs
  split
  next =>
    split
    next => exact moves_all _ (fun _ _ => moves_suggest _ _) p
    next => exact moves_pure ()
  next => exact moves_pure ()

theorem default_local_moves (location : Option Location) (problem : Problem) (l : Local) (usual : allowed problem) :
    Moves allowed p (defaultLocal location problem l) := by
  refine moves_local_type l _ ?_
  split
  next unknown =>
    refine (moves_warn location problem usual).bind fun _ q ran => ?_
    cases ran
    exact moves_set_local l _ ((is_unknown_iff _).mp unknown)
  next => exact moves_pure ()

variable (usual : ∀ problem : Problem, problem.isEarlyUse = false → allowed problem)

include usual

theorem return_type_moves (e : Expr) (t : Ty) (found : List Ty) : Moves allowed p (returnType ctx e t found) := by
  induction found generalizing t p with
  | nil => rw [returnType]; exact moves_pure _
  | cons u rest ih =>
    cases t with
    | unknown => rw [returnType]; exact ih u
    | _ => exact (moves_common_type usual ctx p _ _ _).seq fun _ q => ih _

theorem finish_lambda_moves (e : Expr) (params : List Local) (returns : Ty) (found : List Ty) :
    Moves allowed p (finishLambda ctx e params returns found) := by
  have result : Moves allowed p (resultType ctx e returns found) := by
    unfold resultType
    split
    · exact return_type_moves usual e .unknown found
    · exact moves_pure _
  exact result.seq fun _ q => moves_notes _ (moves_set_actual e _)

theorem loop_variable_moves (location : Option Location) (items : Ty) :
    Moves allowed p (loopVariableType ctx location items) := by
  unfold loopVariableType
  split
  next => exact moves_pure _
  next => exact (moves_warn _ _ (usual _ rfl)).seq fun _ _ => moves_pure _

omit usual in
theorem loop_variable_notes (location : Option Location) (items t : Ty) (q : Progress)
    (ran : loopVariableType ctx location items p = (.ok t, q)) : q.notes = p.notes := by
  unfold loopVariableType at ran
  generalize (ctx.literals.array.bind fun decl => soleArg? decl items) = sole at ran
  cases sole <;> cases ran <;> rfl

end

-- What a chain must do for the whole pass to go in steps.
structure Steady (allowed : Problem → Prop) (ctx : Context) (chain : Chain) : Prop where
  usual : ∀ problem : Problem, problem.isEarlyUse = false → allowed problem
  plugins : ∀ plugin ∈ chain, ∀ (e : Expr) (p : Progress), Moves allowed p (plugin.infer ctx e)

theorem strategies_steady (ctx : Context) (strategies : List Strategy) :
    Steady (fun _ => True) ctx (strategies.map Strategy.plugin) := by
  refine ⟨fun _ _ => trivial, fun plugin listed e p => ?_⟩
  obtain ⟨s, _, rfl⟩ := List.mem_map.mp listed
  exact strategy_moves (fun _ _ => trivial) ctx e p s fun _ _ _ => .inl trivial

section

variable {allowed : Problem → Prop} {ctx : Context} {chain : Chain} {p : Progress}

theorem chain_moves (steady : Steady allowed ctx chain) (e : Expr) : Moves allowed p (chain.infer ctx e) := by
  unfold Chain.infer
  split
  next => exact moves_throw _
  next plugin found =>
    refine (steady.plugins plugin (List.mem_of_find?_eq_some found) e p).seq fun answer q => ?_
    split
    · exact moves_notes _ (moves_actual e _ (moves_record _))
    · exact moves_throw _

theorem dispatch_moves (steady : Steady allowed ctx chain) (e : Expr) : Moves allowed p (dispatch ctx chain e) := by
  refine (chain_moves steady e).seq fun _ q => moves_actual e _ ?_
  split
  · exact moves_throw _
  · exact moves_pure ()

theorem action_moves (steady : Steady allowed ctx chain) {wanted : Ty} {n : Node} {done todo : List Step} (action : Action)
    (fits : action.Fits wanted n done todo) : Moves allowed p (action.run ctx chain) := by
  cases action with
  | claim e => exact chain_moves steady e
  | dispatch e => exact dispatch_moves steady e
  | suggest e type => exact moves_notes _ (moves_suggest e _)
  | suggestArgs callee args => exact moves_actual callee _ (suggest_args_moves _ args)
  | default location problem l =>
    have usual : problem.isEarlyUse = false := by cases fits <;> rfl
    exact default_local_moves location problem l (steady.usual problem usual)
  | adopt l init =>
    refine moves_local_type l _ ?_
    split
    next unknown => exact moves_actual init _ (moves_set_local l _ ((is_unknown_iff _).mp unknown))
    next => exact moves_pure ()
  | element location l items =>
    refine moves_local_type l _ ?_
    split
    next unknown =>
      refine moves_actual items _ ((loop_variable_moves steady.usual location _).bind fun t q ran => ?_)
      -- a warning may come in between, which leaves the notes as they are
      refine moves_set_local l t ?_
      rw [loop_variable_notes _ _ t q ran]
      exact (is_unknown_iff _).mp unknown
    next => exact moves_pure ()
  | demand f =>
    refine moves_notes _ ?_
    dsimp only
    split
    next => exact moves_fatal _ _ (steady.usual _ rfl)
    next => exact moves_pure ()
  | register location path literals =>
    rw [Action.run]
    split
    next => exact moves_fatal _ _ (steady.usual _ rfl)
    next => exact moves_pure ()

theorem step_moves (steady : Steady allowed ctx chain) {wanted : Ty} {n : Node} {done todo : List Step} (s : Step)
    (fits : s.Fits wanted n done todo) (found : List Ty)
    (parts : ∀ c ∈ s.parts, ∀ type q, Moves allowed q (inferPart ctx chain type c)) : Moves allowed p (s.run ctx chain found) := by
  cases s with
  | visit type part => exact moves_notes _ ((parts part List.mem_cons_self _ p).seq fun _ _ => moves_pure _)
  | collect e => exact moves_actual e _ (moves_pure _)
  | finish e params returns => exact (finish_lambda_moves steady.usual e params returns found).seq fun _ _ => moves_pure _
  | act action => exact (action_moves steady action fits).seq fun _ _ => moves_pure _

def movesLogic (allowed : Problem → Prop) : Logic where
  Holds p _ y := Moves allowed p y
  ret _ a := moves_pure a
  seq := .bind
  guard {p e _ y} moves := by
    refine moves_actual e _ ?_
    split
    next untyped => exact moves ((is_unknown_iff _).mp untyped)
    next => exact moves_pure ()

def movesWalk (steady : Steady allowed ctx chain) : Walk (movesLogic allowed) ctx ctx chain chain where
  Before _ _ _ := True
  Between _ _ _ _ _ _ _ := True
  After _ _ _ _ _ := True
  skip _ _ _ _ _ := trivial
  enter _ _ _ _ _ := trivial
  step n wanted _ done s todo found _ split _ parts :=
    ⟨step_moves steady s (plan_fits wanted n done todo s split).1 found fun c member type q => (parts c member type q trivial).1,
      fun _ _ _ => trivial⟩
  leave _ _ _ _ _ _ := trivial

theorem infer_file_moves (steady : Steady allowed ctx chain) : Moves allowed p (inferFile ctx chain) :=
  ((movesWalk steady).file rfl p trivial).1

end

-- The pass may fail on the way: what was filled in until then is kept.
theorem infer_file_fills (ctx : Context) (strategies : List Strategy) (p : Progress) :
    Fills p (inferFile ctx (strategies.map Strategy.plugin) p).2 :=
  moves_fill (infer_file_moves (strategies_steady ctx strategies))

end Infer

end Typeflow
