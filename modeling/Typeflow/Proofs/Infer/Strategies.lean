import Typeflow.Proofs.Infer.Distinct
import Typeflow.Proofs.Infer.Logic

set_option autoImplicit false

namespace Typeflow.Infer

theorem strategy_listed (s : Strategy) : s ∈ Strategy.all := by
  cases s <;> decide

theorem kind_listed (kind : Kind) : kind ∈ Kind.all := by
  cases kind <;> decide

-- No two strategies claim expressions of the same kind.
theorem claims_unique {s s' : Strategy} {kind : Kind} (claims : s.claims kind) (claims' : s'.claims kind) : s = s' := by
  have all : ∀ kind ∈ Kind.all, ∀ s ∈ Strategy.all, ∀ s' ∈ Strategy.all, s.claims kind → s'.claims kind → s = s' := by
    decide +kernel
  exact all kind (kind_listed kind) s (strategy_listed s) s' (strategy_listed s') claims claims'

theorem literal_claimed (value : Literal) : Strategy.literals.claims value.kind := by
  cases value <;> rfl

theorem reference_claimed (kind : LocalKind) : Strategy.references.claims kind.refKind := by
  cases kind <;> rfl

-- Every expression is of a kind that some strategy claims.
theorem every_expression_claimed (e : Expr) : ∃ s : Strategy, s.claims e.kind := by
  cases e with
  | literal s value => exact ⟨.literals, literal_claimed value⟩
  | array | map => exact ⟨.containerLiterals, rfl⟩
  | lambda => exact ⟨.lambdaParams, rfl⟩
  | instanceOf | cast => exact ⟨.casts, rfl⟩
  | binary | unary | conditional => exact ⟨.operators, rfl⟩
  | property => exact ⟨.members, rfl⟩
  | call => exact ⟨.calls, rfl⟩
  | localRef s target => exact ⟨.references, reference_claimed target.kind⟩
  | fieldRef | thisRef | staticRef => exact ⟨.references, rfl⟩

theorem claims_iff (s : Strategy) (kind : Kind) (claims : s.claims kind) (s' : Strategy) : s'.claims kind ↔ s' = s :=
  ⟨fun claims' => claims_unique claims' claims, fun same => same ▸ claims⟩

theorem sole_arg_whole (decl : DeclId) (t arg : Ty) (noted : t.Noted) (found : soleArg? decl t = some arg) : arg.whole := by
  unfold soleArg? at found
  split at found
  next d a =>
    split at found
    · cases found
      exact (cls_whole_iff d [arg]).mp (noted_known _ noted nofun) arg List.mem_cons_self
    · cases found
  next => cases found

theorem common_whole (ds : Declarations) (a b : Ty) (left : a.whole) (right : b.whole) : (common ds a b).whole := by
  unfold common commonType?
  split
  · exact left
  · split
    · exact right
    · split
      · exact left
      · rfl

theorem element_type_eq (c : Container) (decl : DeclId) (expected : Ty) (items : List Ty)
    (whole : ∀ t ∈ items, t.whole) :
    (elementType c decl expected items).1 = elementOf decl expected items ∧
      ∀ problem, (elementType c decl expected items).2 = some problem → problem.Whole := by
  cases items with
  | nil =>
    have empty : distinctTypes [] = [] := rfl
    rw [elementType, empty, elementOf]
    cases expected with
    | unknown =>
      refine ⟨rfl, fun problem warned => ?_⟩
      cases warned
      exact fun _ member => absurd member List.not_mem_nil
    | _ => exact ⟨rfl, fun _ warned => by cases warned⟩
  | cons a rest =>
    have firsts := distinct_types_firsts (a :: rest)
    rw [elementOf]
    rcases firsts.inversion with ⟨empty, _⟩ | ⟨uniform, t, _, kept⟩ | ⟨mixed, t, u, others, kept⟩
    · cases empty
    · obtain ⟨more, started⟩ := firsts.head
      rw [kept, List.cons_eq_cons] at started
      rw [elementType, kept, started.1, if_pos ((uniform_cons_iff a rest).mp uniform)]
      exact ⟨rfl, fun _ warned => by cases warned⟩
    · have listed : ∀ u ∈ distinctTypes (a :: rest), u.whole := fun u member => whole u (firsts.sublist.subset member)
      rw [kept] at listed
      rw [elementType, kept, if_neg (mt (uniform_cons_iff a rest).mpr mixed)]
      simp only
      split
      · exact ⟨rfl, fun _ warned => by cases warned⟩
      · refine ⟨rfl, fun problem warned => ?_⟩
        cases warned
        exact listed

theorem element_of_whole (decl : DeclId) (expected : Ty) (items : List Ty) (noted : expected.Noted)
    (whole : ∀ t ∈ items, t.whole) : (elementOf decl expected items).whole := by
  cases items with
  | nil =>
    rw [elementOf]
    cases found : soleArg? decl expected with
    | none => rfl
    | some arg => exact sole_arg_whole decl expected arg noted found
  | cons t rest =>
    rw [elementOf]
    split
    · exact whole t List.mem_cons_self
    · rfl

structure Context.Whole (ctx : Context) : Prop where
  declared : ctx.declarations.Whole
  nodes : ∀ id n, ctx.node? id = some n → n.Whole

theorem expected_from_noted (notes : Annotations) (sound : Sound notes) (e : Expr) (parent : Node) (whole : parent.Whole) :
    ((expectedFrom? notes e parent).getD .unknown).Noted := by
  have one : ∀ rule ∈ expectationRules, ∀ t, rule.expects? notes e parent = some t → t.Noted := by
    intro rule listed t found
    simp only [expectationRules, List.mem_cons, List.not_mem_nil, or_false] at listed
    rcases listed with rfl | rfl | rfl
    · simp only [castRule] at found
      split at found
      next =>
        cases found
        exact .inr whole
      next => cases found
    · simp only [assignmentRule] at found
      split at found
      next =>
        split at found
        · cases found
          exact sound.actual _
        · cases found
      next => cases found
    · simp only [conditionalRule] at found
      split at found
      next =>
        split at found
        · cases found
          exact sound.actual _
        · split at found
          · cases found
            exact sound.actual _
          · cases found
      next => cases found
  cases found : expectedFrom? notes e parent with
  | none => exact .inl rfl
  | some t =>
    obtain ⟨before, rule, after, split, applies, _⟩ := List.findSome?_eq_some_iff.mp found
    exact one rule (split ▸ List.mem_append_right before List.mem_cons_self) t applies

structure Prepared (e : Expr) (p : Progress) : Prop where
  sound : Sound p.notes
  own : (Node.expr e).Whole
  untyped : p.notes.actual e.id = .unknown
  apart : ∀ c ∈ (Node.expr e).children, c.id ≠ e.id
  parts : ∀ c, .expr c ∈ (Node.expr e).children → p.notes.actual c.id ≠ .unknown

section

variable {ctx : Context} {chain : Chain} {p : Progress} {e : Expr}

theorem Prepared.part (prepared : Prepared e p) (c : Expr) (child : .expr c ∈ (Node.expr e).children) :
    (p.notes.actual c.id).whole :=
  noted_known _ (prepared.sound.actual c.id) (prepared.parts c child)

theorem Prepared.same (prepared : Prepared e p) {q : Progress} (advance : Advance [e.id] p q) (c : Expr)
    (child : .expr c ∈ (Node.expr e).children) : q.notes.actual c.id = p.notes.actual c.id :=
  advance.actual c.id fun member => prepared.apart (.expr c) child (List.mem_singleton.mp member)

def Finds (ctx : Context) (chain : Chain) (p : Progress) (e : Expr) (x : InferM Bool) : Prop :=
  Runs chain [e.id] p x fun found q => found = true ∧ q.notes.actual e.id ≠ .unknown ∧ Rule ctx q.notes e (q.notes.actual e.id)

theorem set_type_eq (t : Ty) (known : t ≠ .unknown) : setType e t = do
    setActual e t
    return true := by
  cases t with
  | unknown => exact absurd rfl known
  | _ => rfl

theorem set_known_run (t : Ty) (known : t ≠ .unknown) (untyped : p.notes.actual e.id = .unknown) :
    setType e t p = (.ok true, { p with notes := p.notes.setActual e.id t }) := by
  have read : actual e p = (.ok .unknown, p) := by
    rw [← untyped]
    rfl
  have noted : setActual e t p = (.ok (), { p with notes := p.notes.setActual e.id t }) := by
    rw [setActual, bind_run, read]
    rfl
  rw [set_type_eq t known, bind_run, noted]
  rfl

theorem set_expected_self (notes : Annotations) (id : NodeId) : notes.setExpected id (notes.expected id) = notes := by
  have same : updated notes.expected id (notes.expected id) = notes.expected := by
    funext n
    by_cases here : n = id
    · rw [here, updated_same]
    · rw [updated_other _ _ _ _ here]
  rw [Annotations.setExpected, same]

theorem suggest_run (t : Ty) (blank : p.notes.expected e.id = .unknown) :
    suggest e t p = (.ok (), { p with notes := p.notes.setExpected e.id t }) := by
  have read : expected e p = (.ok .unknown, p) := by
    rw [← blank]
    rfl
  rw [suggest, bind_run, read]
  cases t with
  | unknown =>
    have same : p.notes.setExpected e.id .unknown = p.notes := by rw [← blank, set_expected_self]
    rw [same]
    rfl
  | _ => rfl

theorem set_type_finds (t : Ty) (prepared : Prepared e p) (whole : t.whole)
    (rule : ∀ q, Advance [e.id] p q → q.notes.expected = p.notes.expected → q.notes.ofLocal = p.notes.ofLocal →
      Rule ctx q.notes e t) : Finds ctx chain p e (setType e t) := by
  rw [Finds, set_type_eq t (whole_known t whole)]
  refine (set_actual_runs e t prepared.sound whole prepared.untyped).seq fun _ q advance sound notes => ?_
  have own : q.notes.actual e.id = t := by
    rw [notes]
    exact updated_same _ _ _
  refine .pure sound ⟨rfl, ?_, ?_⟩
  · rw [own]
    exact whole_known t whole
  · rw [own]
    exact rule q advance (by rw [notes]; rfl) (by rw [notes]; rfl)

theorem fatal_finds (location : Option Location) (problem : Problem) (whole : problem.Whole) :
    Finds ctx chain p e (fatal location problem) :=
  fatal_runs location problem whole

theorem set_literal_finds (decl : Option DeclId) (what : String) (prepared : Prepared e p)
    (rule : ∀ q t, Advance [e.id] p q → Registered decl t → Rule ctx q.notes e t) :
    Finds ctx chain p e (setLiteralType ctx e decl what) := by
  cases decl with
  | none => exact fatal_finds _ _ fun _ member => absurd member List.not_mem_nil
  | some decl =>
    exact set_type_finds (.cls decl []) prepared rfl fun q advance _ _ => rule q _ advance ⟨decl, rfl, rfl⟩

theorem literal_finds (s : Site) (value : Literal) (prepared : Prepared (.literal s value) p) :
    Finds ctx chain p (.literal s value) (inferLiteral ctx (.literal s value) value) := by
  cases value with
  | string value => exact set_literal_finds _ _ prepared fun _ _ _ registered => registered
  | numeric digits => exact set_literal_finds _ _ prepared fun _ _ _ registered => registered
  | boolean value => exact set_literal_finds _ _ prepared fun _ _ _ registered => registered
  | null => exact set_type_finds .any prepared rfl fun _ _ _ _ => rfl

theorem property_finds (s : Site) (object : Expr) (name : String) (whole : ctx.Whole)
    (prepared : Prepared (.property s object name) p) :
    Finds ctx chain p (.property s object name) (inferProperty ctx (.property s object name) object name) := by
  have known := prepared.part object List.mem_cons_self
  refine actual_runs object _ ?_
  split
  next any =>
    refine set_type_finds .any prepared rfl fun q advance _ _ => .inl ⟨?_, rfl⟩
    rw [prepared.same advance object List.mem_cons_self, any]
  next other =>
    split
    next found member =>
      refine set_type_finds found.type prepared (member_whole _ whole.declared _ name found known member)
        fun q advance _ _ => .inr ?_
      rw [prepared.same advance object List.mem_cons_self]
      exact ⟨other, found, member, rfl⟩
    next => exact fatal_finds _ _ (List.forall_mem_singleton.mpr known)

theorem call_finds (s : Site) (callee : Expr) (args : List Expr) (prepared : Prepared (.call s callee args) p) :
    Finds ctx chain p (.call s callee args) (inferCall (.call s callee args) callee args) := by
  have known := prepared.part callee List.mem_cons_self
  refine actual_runs callee _ ?_
  split
  next any =>
    refine set_type_finds .any prepared rfl fun q advance _ _ => .inl ⟨?_, rfl⟩
    rw [prepared.same advance callee List.mem_cons_self, any]
  next params result lambda =>
    rw [lambda, lambda_whole_iff] at known
    split
    next => exact fatal_finds _ _ fun _ member => absurd member List.not_mem_nil
    next same =>
      refine set_type_finds _ prepared (or_else_whole _ _ (.inr known.2) rfl) fun q advance _ _ => .inr ⟨params, result, ?_⟩
      rw [prepared.same advance callee List.mem_cons_self]
      exact ⟨lambda, by simpa using same, rfl⟩
  next => exact fatal_finds _ _ (List.forall_mem_singleton.mpr known)

theorem has_class_iff (decl : Option DeclId) (t : Ty) : isClass decl t ↔ HasClass decl t := by
  cases t with
  | cls d args => simp [isClass, HasClass]
  | _ => simp [isClass, HasClass]

def BinaryRule.operators : BinaryRule → List String
  | .assignment => ["="]
  | .boolean => booleanOperators
  | .addition => ["+"]
  | .arithmetic => arithmeticOperators

theorem binary_rule_operators (op : String) (rule : BinaryRule) (found : binaryRule? op = some rule) :
    op ∈ rule.operators := by
  unfold binaryRule? at found
  split at found <;> cases found <;> decide

theorem binary_finds (s : Site) (op : String) (left right : Expr) (prepared : Prepared (.binary s op left right) p) :
    Finds ctx chain p (.binary s op left right) (inferBinary ctx (.binary s op left right) op left right) := by
  have isLeft : .expr left ∈ (Node.expr (.binary s op left right)).children := List.mem_cons_self
  have isRight : .expr right ∈ (Node.expr (.binary s op left right)).children := List.mem_cons_of_mem _ List.mem_cons_self
  unfold inferBinary
  split
  next found =>
    obtain rfl := List.mem_singleton.mp (binary_rule_operators op _ found)
    refine actual_runs left _ (set_type_finds _ prepared (prepared.part left isLeft) fun q advance _ _ => ?_)
    rw [Rule, prepared.same advance left isLeft]
    exact .assignment
  next found =>
    exact set_literal_finds _ _ prepared fun _ t _ registered => .boolean op t (binary_rule_operators op _ found) registered
  next found =>
    obtain rfl := List.mem_singleton.mp (binary_rule_operators op _ found)
    refine actual_runs left _ (actual_runs right _ ?_)
    split
    next text =>
      rw [Bool.or_eq_true, has_class_iff, has_class_iff] at text
      refine set_literal_finds _ _ prepared fun q t advance registered => .concatenation t ?_ registered
      rw [prepared.same advance left isLeft, prepared.same advance right isRight]
      exact text
    next noText =>
      rw [Bool.or_eq_true, has_class_iff, has_class_iff] at noText
      refine set_literal_finds _ _ prepared fun q t advance registered => .addition t ?_ registered
      rw [prepared.same advance left isLeft, prepared.same advance right isRight]
      exact noText
  next found =>
    exact set_literal_finds _ _ prepared fun _ t _ registered => .arithmetic op t (binary_rule_operators op _ found) registered
  next => exact fatal_finds _ _ fun _ member => absurd member List.not_mem_nil

theorem unary_finds (s : Site) (op : String) (operand : Expr) (prepared : Prepared (.unary s op operand) p) :
    Finds ctx chain p (.unary s op operand) (inferUnary ctx (.unary s op operand) op) := by
  unfold inferUnary
  split
  next => exact set_literal_finds _ _ prepared fun _ t _ registered => .negation t registered
  next => exact set_literal_finds _ _ prepared fun _ t _ registered => .sign _ t (by simp) registered
  next => exact set_literal_finds _ _ prepared fun _ t _ registered => .sign _ t (by simp) registered
  next => exact fatal_finds _ _ fun _ member => absurd member List.not_mem_nil

theorem common_type_runs (location : Option Location) (a b : Ty) (ids : List NodeId) (sound : Sound p.notes)
    (left : a.whole) (right : b.whole) :
    Runs chain ids p (commonType ctx location a b) fun t q => t = common ctx.declarations a b ∧ q.notes = p.notes := by
  unfold commonType common
  cases commonType? ctx.declarations a b with
  | some t => exact .pure sound ⟨rfl, rfl⟩
  | none =>
    refine (warn_runs location (.noCommonType a b) sound ?_).seq fun _ q _ sound notes => .pure sound ⟨rfl, notes⟩
    exact List.forall_mem_cons.mpr ⟨left, List.forall_mem_singleton.mpr right⟩

theorem Prepared.after {q : Progress} (prepared : Prepared e p) (sound : Sound q.notes)
    (actual : q.notes.actual = p.notes.actual) : Prepared e q :=
  ⟨sound, prepared.own, by rw [actual, prepared.untyped], prepared.apart, fun c child => by rw [actual]; exact prepared.parts c child⟩

theorem conditional_finds (s : Site) (condition whenTrue whenFalse : Expr)
    (prepared : Prepared (.conditional s condition whenTrue whenFalse) p) :
    Finds ctx chain p (.conditional s condition whenTrue whenFalse)
      (inferConditional ctx (.conditional s condition whenTrue whenFalse) whenTrue whenFalse) := by
  have first : .expr whenTrue ∈ (Node.expr (.conditional s condition whenTrue whenFalse)).children := by
    simp [Node.children, Expr.children]
  have second : .expr whenFalse ∈ (Node.expr (.conditional s condition whenTrue whenFalse)).children := by
    simp [Node.children, Expr.children]
  have left := prepared.part whenTrue first
  have right := prepared.part whenFalse second
  refine actual_runs whenTrue _ (actual_runs whenFalse _ ?_)
  refine (common_type_runs _ _ _ _ prepared.sound left right).seq ?_
  rintro _ q _ sound ⟨rfl, notes⟩
  have prepared' := prepared.after sound (by rw [notes])
  refine set_type_finds _ prepared' (common_whole _ _ _ left right) fun r advance _ _ => ?_
  rw [Rule, prepared'.same advance whenTrue first, prepared'.same advance whenFalse second, notes]

theorem local_ref_finds (s : Site) (target : Local) (prepared : Prepared (.localRef s target) p) :
    Finds ctx chain p (.localRef s target) (inferLocalRef (.localRef s target) target) := by
  refine local_type_runs target _ ?_
  split
  next => exact fatal_finds _ _ (by unfold untypedLocal; split <;> exact fun _ member => absurd member List.not_mem_nil)
  next known =>
    refine set_type_finds _ prepared (noted_known _ (prepared.sound.locals _) known) fun q _ _ locals => ?_
    rw [Rule, locals]

theorem self_type_applied (ds : Declarations) (decl : DeclId) :
    ∃ params, ParamsOf ds decl params ∧ ds.selfType decl = .cls decl (params.map .generic) := by
  rw [Declarations.selfType]
  cases found : ds.class? decl with
  | none => exact ⟨[], .inr ⟨found, rfl⟩, rfl⟩
  | some c => exact ⟨c.typeParams, .inl ⟨c, found, rfl⟩, rfl⟩

theorem field_ref_finds (s : Site) (object : Option Expr) (target : FieldRef)
    (prepared : Prepared (.fieldRef s object target) p) :
    Finds ctx chain p (.fieldRef s object target) (inferFieldRef ctx (.fieldRef s object target) object target) := by
  cases object with
  | none => exact set_type_finds target.type prepared prepared.own fun _ _ _ _ => rfl
  | some object =>
    have known := prepared.part object List.mem_cons_self
    refine actual_runs object _ ?_
    refine set_type_finds _ prepared (substitute_whole _ (bindings_whole _ _ known) _ prepared.own) fun q advance _ _ => ?_
    rw [Rule, prepared.same advance object List.mem_cons_self, fieldType]

theorem propagate_runs (e : Expr) (whole : ctx.Whole) (sound : Sound p.notes) :
    Runs chain [e.id] p (propagate ctx e) fun t q => q.notes.expected e.id = t ∧ q.notes.actual = p.notes.actual ∧
      q.notes.ofLocal = p.notes.ofLocal := by
  refine expected_runs e _ ?_
  split
  next unknown =>
    split
    next => exact .pure sound ⟨unknown, rfl, rfl⟩
    next parent found =>
      obtain ⟨id, _, node⟩ := Option.bind_eq_some_iff.mp found
      refine notes_runs _ ?_
      refine (suggest_runs e _ sound (expected_from_noted p.notes sound e parent (whole.nodes id parent node))).seq ?_
      rintro _ q _ sound ⟨actual, locals, expected⟩
      exact .pure sound ⟨expected unknown, actual, locals⟩
  next => exact .pure sound ⟨rfl, rfl, rfl⟩

theorem container_finds (c : Container) (decl : Option DeclId) (what : String) (items : List Expr) (whole : ctx.Whole)
    (prepared : Prepared e p) (listed : ∀ item ∈ items, .expr item ∈ (Node.expr e).children)
    (rule : ∀ notes d, decl = some d →
      Rule ctx notes e (.cls d [elementOf d (notes.expected e.id) (items.map fun item => notes.actual item.id)])) :
    Finds ctx chain p e (inferContainer ctx e c decl what items) := by
  refine (propagate_runs e whole prepared.sound).seq ?_
  rintro wanted q _ sound ⟨expected, actual, _⟩
  have prepared' := prepared.after sound actual
  cases decl with
  | none => exact fatal_finds _ _ fun _ member => absurd member List.not_mem_nil
  | some d =>
    have known : ∀ t ∈ items.map fun item => q.notes.actual item.id, t.whole := by
      intro t member
      obtain ⟨item, inside, rfl⟩ := List.mem_map.mp member
      exact prepared'.part item (listed item inside)
    obtain ⟨element, warning⟩ := element_type_eq c d wanted _ known
    have wantedNoted : wanted.Noted := expected ▸ sound.expected e.id
    have found : ∀ r : Progress, Sound r.notes → r.notes = q.notes → Finds ctx chain r e
        (setType e (.cls d [(elementType c d wanted (items.map fun item => q.notes.actual item.id)).1])) := by
      intro r sound notes
      have prepared'' := prepared'.after sound (by rw [notes])
      have argWhole := element_of_whole d wanted _ wantedNoted known
      rw [element]
      refine set_type_finds _ prepared'' ((cls_whole_iff d _).mpr (List.forall_mem_singleton.mpr argWhole)) ?_
      intro r' advance expected' _
      have same : (items.map fun item => r'.notes.actual item.id) = items.map fun item => q.notes.actual item.id :=
        List.map_congr_left fun item inside => by rw [prepared''.same advance item (listed item inside), notes]
      have final := rule r'.notes d rfl
      rwa [same, expected', notes, expected] at final
    refine notes_runs _ ?_
    clear element
    dsimp only
    generalize elementType c d wanted (items.map fun item => q.notes.actual item.id) = result at warning found
    obtain ⟨t, problem⟩ := result
    cases problem with
    | none => exact found q sound rfl
    | some problem =>
      exact (warn_runs e.location problem sound (warning problem rfl)).seq fun _ r _ sound notes => found r sound notes

theorem match_params_runs (e : Expr) (params : List Local) (wanted : List (String × Ty)) (ids : List NodeId)
    (whole : ∀ param ∈ wanted, param.2.whole) (sound : Sound p.notes) :
    Runs chain ids p (matchParams ctx e params wanted) fun _ q => q.notes.actual = p.notes.actual := by
  induction params generalizing wanted p with
  | nil => exact .pure sound rfl
  | cons l rest ih =>
    cases wanted with
    | nil => exact .pure sound rfl
    | cons param others =>
      obtain ⟨first, whole⟩ := List.forall_mem_cons.mp whole
      refine local_type_runs l _ ?_
      split
      next untyped =>
        refine (set_local_runs l param.2 sound (.inr first) ((is_unknown_iff _).mp untyped)).seq fun _ q _ sound notes => ?_
        exact (ih others whole sound).imp fun _ r _ _ actual => by rw [actual, notes]; rfl
      next typed =>
        have declared := noted_known _ (sound.locals l.id) fun unknown => typed ((is_unknown_iff _).mpr unknown)
        split
        next => exact fatal_runs _ _ (List.forall_mem_cons.mpr ⟨declared, List.forall_mem_singleton.mpr first⟩)
        next => exact ih others whole sound

theorem lambda_params_runs (e : Expr) (params : List Local) (whole : ctx.Whole) (sound : Sound p.notes) :
    Runs chain [e.id] p (inferLambdaParams ctx e params) fun found q => found = true ∧ q.notes.actual = p.notes.actual := by
  refine (propagate_runs e whole sound).seq ?_
  rintro wanted q _ sound ⟨expected, actual, _⟩
  have noted : wanted.Noted := expected ▸ sound.expected e.id
  split
  next => exact .pure sound ⟨rfl, actual⟩
  next params' result =>
    have known := ((lambda_whole_iff params' result).mp (noted_known _ noted nofun)).1
    split
    next => exact fatal_runs _ _ fun _ member => absurd member List.not_mem_nil
    next =>
      refine (match_params_runs e params params' _ known sound).seq fun _ r _ sound same => ?_
      exact .pure sound ⟨rfl, same.trans actual⟩
  next known _ => exact fatal_runs _ _ (List.forall_mem_singleton.mpr (noted_known _ noted known))

theorem strategy_finds (s : Strategy) (claims : s.claims e.kind) (notLambda : e.kind ≠ .lambda) (whole : ctx.Whole)
    (prepared : Prepared e p) : Finds ctx chain p e (s.infer ctx e) := by
  cases e with
  | literal site value =>
    obtain rfl : Strategy.literals = s := claims_unique (literal_claimed value) claims
    exact literal_finds site value prepared
  | array site items =>
    obtain rfl : Strategy.containerLiterals = s := claims_unique rfl claims
    exact container_finds .array _ _ items whole prepared (fun item listed => List.mem_map_of_mem listed)
      fun notes d registered => ⟨d, registered, rfl⟩
  | map site entries =>
    obtain rfl : Strategy.containerLiterals = s := claims_unique rfl claims
    refine container_finds .map _ _ (entries.map Prod.snd) whole prepared ?_ fun notes d registered => ⟨d, registered, ?_⟩
    · intro item listed
      obtain ⟨entry, member, rfl⟩ := List.mem_map.mp listed
      exact List.mem_map.mpr ⟨entry, member, rfl⟩
    · rw [List.map_map]
      rfl
  | lambda site params returns body => exact (notLambda rfl).elim
  | instanceOf site operand check =>
    obtain rfl : Strategy.casts = s := claims_unique rfl claims
    exact set_literal_finds _ _ prepared fun _ _ _ registered => registered
  | cast site operand target origin =>
    obtain rfl : Strategy.casts = s := claims_unique rfl claims
    exact set_type_finds target prepared prepared.own fun _ _ _ _ => rfl
  | binary site op left right =>
    obtain rfl : Strategy.operators = s := claims_unique rfl claims
    exact binary_finds site op left right prepared
  | unary site op operand =>
    obtain rfl : Strategy.operators = s := claims_unique rfl claims
    exact unary_finds site op operand prepared
  | conditional site condition whenTrue whenFalse =>
    obtain rfl : Strategy.operators = s := claims_unique rfl claims
    exact conditional_finds site condition whenTrue whenFalse prepared
  | property site object name =>
    obtain rfl : Strategy.members = s := claims_unique rfl claims
    exact property_finds site object name whole prepared
  | call site callee args =>
    obtain rfl : Strategy.calls = s := claims_unique rfl claims
    exact call_finds site callee args prepared
  | localRef site target =>
    obtain rfl : Strategy.references = s := claims_unique (reference_claimed target.kind) claims
    exact local_ref_finds site target prepared
  | fieldRef site object target =>
    obtain rfl : Strategy.references = s := claims_unique rfl claims
    exact field_ref_finds site object target prepared
  | thisRef site decl =>
    obtain rfl : Strategy.references = s := claims_unique rfl claims
    exact set_type_finds _ prepared (self_type_whole _ decl) fun _ _ _ _ => self_type_applied ctx.declarations decl
  | staticRef site decl =>
    obtain rfl : Strategy.references = s := claims_unique rfl claims
    exact set_type_finds _ prepared (self_type_whole _ decl) fun _ _ _ _ => self_type_applied ctx.declarations decl

end

end Typeflow.Infer
