import Typeflow.Infer.Pass
import Typeflow.Proofs.Infer.Strategies

set_option autoImplicit false

namespace Typeflow.Infer

-- The nodes are still to be gone through, one after another.
structure Pending (ns : List Node) (p : Progress) : Prop where
  sound : Sound p.notes
  whole : ∀ n ∈ ns, ∀ m ∈ n.nodes, m.Whole
  distinct : (ns.flatMap Node.ids).Nodup
  untyped : ∀ id ∈ ns.flatMap Node.ids, p.notes.actual id = .unknown

namespace Pending

variable {n : Node} {ns rest : List Node} {ids : List NodeId} {p q : Progress}

theorem front (pending : Pending (ns ++ rest) p) : Pending ns p := by
  have distinct := pending.distinct
  rw [List.flatMap_append] at distinct
  exact ⟨pending.sound, fun n listed => pending.whole n (List.mem_append_left rest listed),
    (List.nodup_append.mp distinct).1, fun id member => pending.untyped id (by simp_all)⟩

theorem back (pending : Pending (ns ++ rest) p) : Pending rest p := by
  have distinct := pending.distinct
  rw [List.flatMap_append] at distinct
  exact ⟨pending.sound, fun n listed => pending.whole n (List.mem_append_right ns listed),
    (List.nodup_append.mp distinct).2.1, fun id member => pending.untyped id (by simp_all)⟩

theorem sides (pending : Pending (ns ++ rest) p) : (ns.flatMap Node.ids).Disjoint (rest.flatMap Node.ids) := by
  have distinct := pending.distinct
  rw [List.flatMap_append] at distinct
  exact fun id left right => (List.nodup_append.mp distinct).2.2 id left id right rfl

theorem head (pending : Pending (n :: rest) p) : Pending [n] p :=
  have parted : Pending ([n] ++ rest) p := pending
  parted.front

theorem apart_all (pending : Pending (n :: rest) p) : n.ids.Disjoint (rest.flatMap Node.ids) := by
  have parted : Pending ([n] ++ rest) p := pending
  simpa using parted.sides

theorem parts (pending : Pending [n] p) : Pending n.children p := by
  have ids : [n].flatMap Node.ids = n.id :: n.children.flatMap Node.ids := by rw [List.flatMap_singleton, ids_eq]
  refine ⟨pending.sound, fun c child m below => ?_, ?_, fun id member => ?_⟩
  · exact pending.whole n List.mem_cons_self m (mem_nodes_child n c m child below)
  · exact (ids ▸ pending.distinct).of_cons
  · exact pending.untyped id (ids ▸ List.mem_cons_of_mem _ member)

theorem fresh (pending : Pending [n] p) : n.id ∉ n.children.flatMap Node.ids := by
  have ids : [n].flatMap Node.ids = n.id :: n.children.flatMap Node.ids := by rw [List.flatMap_singleton, ids_eq]
  exact (List.nodup_cons.mp (ids ▸ pending.distinct)).1

end Pending

theorem Derivation.keep {ctx : Context} {n : Node} {ids : List NodeId} {p q : Progress}
    (derived : Derivation ctx p.notes n) (advance : Advance ids p q) (apart : n.ids.Disjoint ids) :
    Derivation ctx q.notes n :=
  derivation_stable ctx p.notes q.notes n (advance.kept apart) derived

section

variable (ctx : Context) (strategies : List Strategy)

theorem chain_runs (e : Expr) (p : Progress) (post : Annotations → Prop)
    (claimed : ∀ s : Strategy, s.claims e.kind → Runs (strategies.map Strategy.plugin) [e.id] p (s.infer ctx e)
      fun found q => found = true ∧ post q.notes) :
    Runs (strategies.map Strategy.plugin) [e.id] p (Chain.infer (strategies.map Strategy.plugin) ctx e)
      fun _ q => post q.notes := by
  unfold Chain.infer
  split
  next nobody =>
    refine .of_error (.unclaimed e.kind e.location) p rfl (.unclaimed e [] (by simp) (fun _ member =>
      absurd member List.not_mem_nil) fun plugin listed => ?_)
    simpa using List.find?_eq_none.mp nobody plugin listed
  next plugin found =>
    obtain ⟨s, _, rfl⟩ := List.mem_map.mp (List.mem_of_find?_eq_some found)
    have claims : s.plugin.claims e.kind := by simpa using List.find?_some found
    refine (claimed s claims).seq ?_
    rintro _ q _ sound ⟨rfl, holds⟩
    rw [if_pos rfl]
    exact notes_runs _ (actual_runs e _ ((record_runs _ sound).imp fun _ r _ _ notes => notes ▸ holds))

variable {ctx strategies} {p : Progress}

theorem dispatch_runs (e : Expr) (whole : ctx.Whole) (notLambda : e.kind ≠ .lambda) (prepared : Prepared e p) :
    Runs (strategies.map Strategy.plugin) [e.id] p (dispatch ctx (strategies.map Strategy.plugin) e)
      fun _ q => q.notes.actual e.id ≠ .unknown ∧ Rule ctx q.notes e (q.notes.actual e.id) := by
  refine (chain_runs ctx strategies e p (fun notes => notes.actual e.id ≠ .unknown ∧ Rule ctx notes e (notes.actual e.id))
    fun s claims => strategy_finds s claims notLambda whole prepared).seq fun _ q _ sound found => ?_
  refine actual_runs e _ ?_
  rw [if_neg fun unknown => found.1 ((is_unknown_iff _).mp unknown)]
  exact .pure sound found

theorem suggest_all_runs (chain : Chain) (pairs : List ((String × Ty) × Expr)) (sound : Sound p.notes)
    (whole : ∀ pair ∈ pairs, pair.1.2.whole) :
    Runs chain (pairs.map fun pair => pair.2.id) p (pairs.forM fun (param, arg) => suggest arg param.2)
      fun _ q => q.notes.actual = p.notes.actual := by
  induction pairs generalizing p with
  | nil => exact .pure sound rfl
  | cons pair rest ih =>
    obtain ⟨first, whole⟩ := List.forall_mem_cons.mp whole
    change Runs chain (pair.2.id :: rest.map fun pair => pair.2.id) p
      (suggest pair.2 pair.1.2 >>= fun _ => rest.forM fun (param, arg) => suggest arg param.2) _
    refine (suggest_runs pair.2 pair.1.2 sound (.inr first)).bind fun _ q _ sound kept => ?_
    exact (ih sound whole).imp fun _ r _ _ actual => actual.trans kept.1

theorem suggest_args_runs (chain : Chain) (callee : Ty) (args : List Expr) (sound : Sound p.notes) (whole : callee.whole) :
    Runs chain (args.map Expr.id) p (suggestArgs callee args) fun _ q => q.notes.actual = p.notes.actual := by
  unfold suggestArgs
  split
  next params result =>
    split
    next =>
      refine (suggest_all_runs chain (params.zip args) sound fun pair listed => ?_).weaken fun id member => ?_
      · exact ((lambda_whole_iff params result).mp whole).1 _ (List.of_mem_zip listed).1
      · obtain ⟨pair, listed, rfl⟩ := List.mem_map.mp member
        exact List.mem_map_of_mem (List.of_mem_zip listed).2
    next => exact .pure sound rfl
  next => exact .pure sound rfl

theorem default_local_runs (chain : Chain) (location : Option Location) (problem : Problem) (l : Local)
    (sound : Sound p.notes) (whole : problem.Whole) :
    Runs chain [] p (defaultLocal location problem l) fun _ q =>
      q.notes.actual = p.notes.actual ∧ q.notes.ofLocal l.id ≠ .unknown := by
  refine local_type_runs l _ ?_
  split
  next untyped =>
    refine (warn_runs location problem sound whole).seq fun _ q _ sound notes => ?_
    have untyped : q.notes.ofLocal l.id = .unknown := by
      rw [notes]
      exact (is_unknown_iff _).mp untyped
    refine (set_local_runs l .any sound (.inr rfl) untyped).imp fun _ r _ _ changed => ?_
    rw [changed]
    refine ⟨by rw [← notes]; rfl, ?_⟩
    have any : (q.notes.setLocal l.id .any).ofLocal l.id = .any := updated_same _ _ _
    rw [any]
    exact nofun
  next typed => exact .pure sound ⟨rfl, fun unknown => typed ((is_unknown_iff _).mpr unknown)⟩

theorem return_type_known (chain : Chain) (e : Expr) (t : Ty) (found : List Ty) (sound : Sound p.notes) (known : t.whole)
    (whole : ∀ u ∈ found, u.whole) :
    Runs chain [] p (returnType ctx e t found) fun result q =>
      result = found.foldl (common ctx.declarations) t ∧ result.whole ∧ q.notes = p.notes := by
  induction found generalizing t p with
  | nil =>
    have kept : t.orElse .void = t := by
      cases t with
      | unknown => cases known
      | _ => rfl
    rw [returnType, kept]
    exact .pure sound ⟨rfl, known, rfl⟩
  | cons u rest ih =>
    obtain ⟨first, whole⟩ := List.forall_mem_cons.mp whole
    rw [returnType]
    · refine (common_type_runs e.location t u [] sound known first).seq ?_
      rintro _ q _ sound ⟨rfl, notes⟩
      refine (ih _ sound (common_whole _ t u known first) whole).imp fun result r _ _ done => ?_
      exact ⟨done.1, done.2.1, done.2.2.trans notes⟩
    · exact whole_known t known

theorem return_type_runs (chain : Chain) (e : Expr) (found : List Ty) (sound : Sound p.notes)
    (whole : ∀ u ∈ found, u.whole) :
    Runs chain [] p (returnType ctx e .unknown found) fun result q =>
      result = joined ctx.declarations found ∧ result.whole ∧ q.notes = p.notes := by
  cases found with
  | nil => exact .pure sound ⟨rfl, rfl, rfl⟩
  | cons u rest =>
    obtain ⟨first, whole⟩ := List.forall_mem_cons.mp whole
    rw [returnType]
    exact return_type_known chain e u rest sound first whole

theorem result_type_runs (chain : Chain) (e : Expr) (returns : Ty) (found : List Ty) (sound : Sound p.notes)
    (noted : returns.Noted) (whole : ∀ t ∈ found, t.whole) :
    Runs chain [] p (resultType ctx e returns found) fun t q =>
      t = returns.orElse (joined ctx.declarations found) ∧ t.whole ∧ q.notes = p.notes := by
  unfold resultType
  split
  next missing =>
    rw [(is_unknown_iff _).mp missing]
    exact return_type_runs chain e found sound whole
  next known =>
    have known : returns ≠ .unknown := fun unknown => known ((is_unknown_iff _).mpr unknown)
    refine .pure sound ⟨?_, noted_known returns noted known, rfl⟩
    cases returns with
    | unknown => exact (known rfl).elim
    | _ => rfl

theorem finish_lambda_runs (chain : Chain) (e : Expr) (params : List Local) (returns : Ty) (found : List Ty)
    (sound : Sound p.notes) (noted : returns.Noted) (typed : ∀ l ∈ params, p.notes.ofLocal l.id ≠ .unknown)
    (whole : ∀ t ∈ found, t.whole) (untyped : p.notes.actual e.id = .unknown) :
    Runs chain [e.id] p (finishLambda ctx e params returns found) fun _ q =>
      q.notes.ofLocal = p.notes.ofLocal ∧ q.notes.actual e.id =
        .lambda (params.map fun l => (l.name, p.notes.ofLocal l.id)) (returns.orElse (joined ctx.declarations found)) := by
  refine (result_type_runs chain e returns found sound noted whole).bind ?_
  rintro _ q _ sound ⟨rfl, resultWhole, notes⟩
  refine notes_runs _ ((set_actual_runs e _ sound ?_ (by rw [notes, untyped])).imp fun _ r _ _ changed => ?_)
  · refine (lambda_whole_iff _ _).mpr ⟨fun param listed => ?_, resultWhole⟩
    obtain ⟨l, member, rfl⟩ := List.mem_map.mp listed
    exact noted_known _ (sound.locals l.id) (notes ▸ typed l member)
  · rw [changed, notes]
    exact ⟨rfl, updated_same _ _ _⟩

theorem loop_variable_runs (chain : Chain) (location : Option Location) (items : Ty) (sound : Sound p.notes)
    (whole : items.whole) :
    Runs chain [] p (loopVariableType ctx location items) fun t q => t.whole ∧ q.notes = p.notes := by
  unfold loopVariableType
  split
  next t found =>
    obtain ⟨decl, _, sole⟩ := Option.bind_eq_some_iff.mp found
    exact .pure sound ⟨sole_arg_whole decl items t (.inr whole) sole, rfl⟩
  next =>
    exact (warn_runs location (.untypedElement items) sound (List.forall_mem_singleton.mpr whole)).seq fun _ q _ sound notes =>
      .pure sound ⟨rfl, notes⟩

theorem bind_local_runs (chain : Chain) (l : Local) (t : Ty) (sound : Sound p.notes) (whole : t.whole)
    (untyped : p.notes.ofLocal l.id = .unknown) :
    Runs chain [] p (setLocal l t) fun _ q => q.notes.actual = p.notes.actual ∧ q.notes.ofLocal l.id ≠ .unknown := by
  refine (set_local_runs l t sound (.inr whole) untyped).imp fun _ q _ _ changed => ?_
  have bound : q.notes.ofLocal l.id = t := by
    rw [changed]
    exact updated_same _ _ _
  rw [bound]
  exact ⟨by rw [changed]; rfl, whole_known t whole⟩

theorem wanted_return_noted (returns wanted : Ty) (first : returns.Noted) (second : wanted.Noted) :
    (wantedReturn returns wanted).Noted := by
  unfold wantedReturn
  cases returns with
  | unknown =>
    rw [Ty.orElse]
    split
    next params result =>
      split
      · exact .inl rfl
      · exact .inr ((lambda_whole_iff params result).mp (noted_known _ second nofun)).2
    next => exact .inl rfl
  | _ => exact first

theorem lambda_runs (strategies : List Strategy) (whole : ctx.Whole) (s : Site) (params : List Local) (returns : Ty)
    (body : Block) (sound : Sound p.notes) :
    Runs (strategies.map Strategy.plugin) [s.id] p
      (Chain.infer (strategies.map Strategy.plugin) ctx (.lambda s params returns body))
      fun _ q => q.notes.actual = p.notes.actual := by
  refine chain_runs ctx strategies (.lambda s params returns body) p (fun notes => notes.actual = p.notes.actual) ?_
  intro strategy claims
  obtain rfl : Strategy.lambdaParams = strategy := claims_unique rfl claims
  exact lambda_params_runs _ params whole sound

end

section

variable {ctx : Context} {n : Node} {wanted : Ty} {start p q : Progress} {done todo : List Step} {s : Step} {found : List Ty}

theorem wanted_noted {type : Annotations → Ty} {notes : Annotations} (wants : Wanted wanted n type) (noted : wanted.Noted)
    (whole : n.Whole) (sound : Sound notes) : (type notes).Noted := by
  cases wants with
  | given => exact noted
  | nothing => exact .inl rfl
  | ofLocal l => exact sound.locals l.id
  | result f isFunction =>
    subst isFunction
    exact whole
  | body s params returns body isLambda =>
    subst isLambda
    exact wanted_return_noted returns _ whole (sound.expected s.id)

-- What is known of a node once the pass has been there, and of the types that the node hands on.
structure Returns (ctx : Context) (n : Node) (found : List Ty) (notes : Annotations) : Prop where
  derived : Derivation ctx notes n
  found : found = n.handed.map fun e => notes.actual e.id

-- The pass is at a node: parts have derivations once it has been there, locals have types once they
-- are bound, and an expression gets its type in the last step.
structure Midway (ctx : Context) (n : Node) (wanted : Ty) (start : Progress) (done todo : List Step) (found : List Ty)
    (p : Progress) : Prop where
  met : Pending [n] start
  noted : wanted.Noted
  advance : Advance n.ids start p
  pending : Pending (partsOf todo) p
  untyped : todo ≠ [] → ∀ e, n = .expr e → p.notes.actual e.id = .unknown
  derived : ∀ c ∈ partsOf done, Derivation ctx p.notes c
  bound : ∀ l ∈ bindsOf done, p.notes.ofLocal l.id ≠ .unknown
  ruled : todo = [] → ∀ e, n = .expr e → p.notes.actual e.id ≠ .unknown ∧ Rule ctx p.notes e (p.notes.actual e.id)
  found : found = (collectsOf done).map fun e => p.notes.actual e.id

theorem plan_apart (met : Pending [n] start) (split : plan wanted n = done ++ todo) :
    ((partsOf done).flatMap Node.ids).Disjoint (n.id :: (partsOf todo).flatMap Node.ids) := by
  have ids := plan_ids wanted n done todo split
  have distinct := ids.nodup_iff.mpr met.parts.distinct
  rw [List.disjoint_cons_right]
  refine ⟨fun inside => met.fresh (ids.subset (List.mem_append_left _ inside)), fun id first second => ?_⟩
  exact (List.nodup_append.mp distinct).2.2 id first id second rfl

theorem plan_within (split : plan wanted n = done ++ s :: todo) : n.id :: (partsOf todo).flatMap Node.ids ⊆ n.ids := by
  refine List.cons_subset.mpr ⟨mem_ids_of_mem_nodes _ _ (mem_nodes_self _), fun id member => ?_⟩
  have ids := plan_ids wanted n (done ++ [s]) todo (by rw [split]; simp)
  exact children_within n (ids.subset (List.mem_append_right _ member))

theorem plan_collected_kept {ids : List NodeId} (split : plan wanted n = done ++ todo) (advance : Advance ids p q)
    (apart : ((partsOf done).flatMap Node.ids).Disjoint ids) :
    ((collectsOf done).map fun e => q.notes.actual e.id) = (collectsOf done).map fun e => p.notes.actual e.id := by
  refine List.map_congr_left fun e collected => ?_
  obtain ⟨c, listed, below⟩ := plan_collected wanted n done todo split e collected
  exact advance.actual e.id (apart (List.mem_flatMap.mpr ⟨c, listed, mem_ids_of_mem_nodes c _ below⟩))

namespace Midway

theorem enter (met : Pending [n] p) (noted : wanted.Noted) : Midway ctx n wanted p [] (plan wanted n) [] p where
  met := met
  noted := noted
  advance := .refl _ p
  pending := by
    have parts := plan_parts wanted n
    refine ⟨met.sound, fun c listed => met.parts.whole c (parts.subset listed), ?_, fun id member => ?_⟩
    · exact (parts.flatMap_right Node.ids).nodup_iff.mpr met.parts.distinct
    · exact met.parts.untyped id ((parts.flatMap_right Node.ids).subset member)
  untyped := by
    rintro _ e rfl
    exact met.untyped e.id (by rw [List.flatMap_singleton, ids_eq]; exact List.mem_cons_self)
  derived := List.forall_mem_nil _
  bound := List.forall_mem_nil _
  ruled := by
    rintro none e rfl
    exact absurd none (plan_of_expr wanted e)
  found := rfl

-- What a step has to see to: it keeps away from the parts that are done, and leaves those to do untyped.
theorem next {ids : List NodeId} {found' : List Ty} (midway : Midway ctx n wanted start done (s :: todo) found p)
    (split : plan wanted n = done ++ s :: todo) (advance : Advance ids p q) (sound : Sound q.notes) (within : ids ⊆ n.ids)
    (apart : ((partsOf done).flatMap Node.ids).Disjoint ids)
    (kept : ∀ id ∈ (partsOf todo).flatMap Node.ids, q.notes.actual id = p.notes.actual id)
    (untyped : todo ≠ [] → ∀ e, n = .expr e → q.notes.actual e.id = p.notes.actual e.id)
    (derived : ∀ c ∈ s.parts, Derivation ctx q.notes c) (bound : ∀ l ∈ s.binds, q.notes.ofLocal l.id ≠ .unknown)
    (ruled : todo = [] → ∀ e, n = .expr e → q.notes.actual e.id ≠ .unknown ∧ Rule ctx q.notes e (q.notes.actual e.id))
    (collected : found' = found ++ s.collects.map fun e => q.notes.actual e.id) :
    Midway ctx n wanted start (done ++ [s]) todo found' q where
  met := midway.met
  noted := midway.noted
  advance := (midway.advance.trans advance).weaken (List.append_subset.mpr ⟨.refl _, within⟩)
  pending := by
    have pending : Pending (s.parts ++ partsOf todo) p := midway.pending
    exact ⟨sound, pending.back.whole, pending.back.distinct, fun id member => by rw [kept id member, pending.back.untyped id member]⟩
  untyped more e isExpr := by rw [untyped more e isExpr, midway.untyped (List.cons_ne_nil _ _) e isExpr]
  derived := by
    rw [parts_of_snoc]
    refine List.forall_mem_append.mpr ⟨fun c listed => ?_, derived⟩
    exact (midway.derived c listed).keep advance fun id inside other =>
      apart (List.mem_flatMap.mpr ⟨c, listed, inside⟩) other
  bound := by
    rw [binds_of_snoc]
    refine List.forall_mem_append.mpr ⟨fun l listed => ?_, bound⟩
    rw [advance.locals l.id (midway.bound l listed)]
    exact midway.bound l listed
  ruled := ruled
  found := by rw [collects_of_snoc, List.map_append, collected, midway.found, plan_collected_kept split advance apart]

theorem after_visit {type : Annotations → Ty} {part : Node} {more : List Ty}
    (midway : Midway ctx n wanted start done (.visit type part :: todo) found p)
    (split : plan wanted n = done ++ .visit type part :: todo) (advance : Advance part.ids p q) (sound : Sound q.notes)
    (returns : Returns ctx part more q.notes) :
    Midway ctx n wanted start (done ++ [.visit type part]) todo (found ++ more) q := by
  have child := plan_child wanted n part done todo _ split List.mem_cons_self
  have pending : Pending (part :: partsOf todo) p := midway.pending
  have apart := plan_apart midway.met split
  refine midway.next split advance sound (child_ids _ _ child) ?_ ?_ ?_ (List.forall_mem_singleton.mpr returns.derived)
    (List.forall_mem_nil _) ?_
    (by rw [returns.found]; rfl)
  · exact fun id first second => apart first (List.mem_cons_of_mem _ (List.mem_append_left _ second))
  · exact fun id member => advance.actual id fun inside => pending.apart_all inside member
  · rintro _ e rfl
    exact advance.actual e.id fun inside => midway.met.fresh (child_within _ _ child inside)
  · rintro rfl e rfl
    exact absurd ((plan_fits wanted _ done [] _ split).2 rfl) (by simp [Step.isLast])

-- An action that types no expression may note something at the node itself or at parts to come.
theorem after_action {ids : List NodeId} {action : Action} (midway : Midway ctx n wanted start done (.act action :: todo) found p)
    (split : plan wanted n = done ++ .act action :: todo) (more : (Step.act action).isLast = false) (advance : Advance ids p q)
    (sound : Sound q.notes) (within : ids ⊆ n.id :: (partsOf todo).flatMap Node.ids) (same : q.notes.actual = p.notes.actual)
    (bound : ∀ l ∈ (Step.act action).binds, q.notes.ofLocal l.id ≠ .unknown) :
    Midway ctx n wanted start (done ++ [.act action]) todo found q := by
  have apart := plan_apart midway.met split
  refine midway.next split advance sound (List.Subset.trans within (plan_within split)) ?_ ?_ ?_
    (List.forall_mem_nil _) bound ?_ (List.append_nil _).symm
  · exact fun id first second => apart first (within second)
  · exact fun id _ => by rw [same]
  · exact fun _ e _ => by rw [same]
  · rintro rfl e rfl
    exact absurd ((plan_fits wanted _ done [] _ split).2 rfl) (by simp [more])

-- The last step at an expression types it, and it alone.
theorem close {e : Expr} (midway : Midway ctx (.expr e) wanted start done [s] found p)
    (split : plan wanted (.expr e) = done ++ [s]) (last : s.isLast) (advance : Advance [e.id] p q) (sound : Sound q.notes)
    (known : q.notes.actual e.id ≠ .unknown) (rule : Rule ctx q.notes e (q.notes.actual e.id)) :
    Midway ctx (.expr e) wanted start (done ++ [s]) [] found q := by
  have plain : s.parts = [] ∧ s.binds = [] ∧ s.collects = [] := by
    cases s with
    | finish => exact ⟨rfl, rfl, rfl⟩
    | act action =>
      cases action with
      | dispatch => exact ⟨rfl, rfl, rfl⟩
      | _ => cases last
    | _ => cases last
  have own : [e.id] ⊆ (Node.expr e).ids := List.cons_subset.mpr ⟨mem_ids_of_mem_nodes _ _ (mem_nodes_self _), List.nil_subset _⟩
  have apart : ((partsOf done).flatMap Node.ids).Disjoint [e.id] := fun id first second =>
    plan_apart midway.met split first (List.mem_singleton.mp second ▸ List.mem_cons_self)
  refine midway.next split advance sound own apart (List.forall_mem_nil _) (absurd rfl) ?_ ?_ ?_ ?_
  · simp [plain.1]
  · simp [plain.2.1]
  · rintro _ _ ⟨⟩
    exact ⟨known, rule⟩
  · simp [plain.2.2]

theorem leave (midway : Midway ctx n wanted start (plan wanted n) [] found p) : Returns ctx n (handedOn n found) p.notes := by
  have own : Typed ctx p.notes n := by
    refine ⟨fun l bound => midway.bound l (plan_binds wanted n ▸ bound), fun e isExpr => ?_, fun e isExpr => ?_⟩
    · exact (midway.ruled rfl e isExpr).1
    · exact (midway.ruled rfl e isExpr).2
  refine ⟨derivation_of ctx p.notes n own fun c child => midway.derived c ((plan_parts wanted n).symm.subset child), ?_⟩
  have same := midway.found
  rw [plan_collects] at same
  cases n with
  | stmt | block => exact same
  | expr | function | file => rfl

end Midway

variable {strategies : List Strategy}

theorem dispatched_runs (whole : ctx.Whole) (e : Expr) (midway : Midway ctx n wanted start done (.act (.dispatch e) :: todo) found p)
    (split : plan wanted n = done ++ .act (.dispatch e) :: todo) :
    Runs (strategies.map Strategy.plugin) n.ids p (dispatch ctx (strategies.map Strategy.plugin) e)
      fun _ q => Midway ctx n wanted start (done ++ [.act (.dispatch e)]) todo found q := by
  obtain ⟨rfl, notLambda, rfl⟩ := (plan_fits wanted n done todo _ split).1
  have visited : ∀ c ∈ (Node.expr e).children, c ∈ partsOf done := by
    intro c child
    rw [← (plan_parts wanted _).mem_iff, split, parts_of_append] at child
    simpa [Step.parts] using child
  have own : [e.id] ⊆ (Node.expr e).ids := List.cons_subset.mpr ⟨mem_ids_of_mem_nodes _ _ (mem_nodes_self _), List.nil_subset _⟩
  have prepared : Prepared e p := by
    refine ⟨midway.pending.sound, midway.met.whole _ List.mem_cons_self _ (mem_nodes_self _), ?_, fun c child same => ?_, ?_⟩
    · exact midway.untyped (List.cons_ne_nil _ _) e rfl
    · have inside := mem_ids_of_mem_nodes c c (mem_nodes_self c)
      rw [same] at inside
      exact midway.met.fresh (List.mem_flatMap.mpr ⟨c, child, inside⟩)
    · exact fun c child => (midway.derived (.expr c) (visited _ child) _ (mem_nodes_self _)).known c rfl
  refine ((dispatch_runs e whole notLambda prepared).imp fun _ q advance sound typed => ?_).weaken own
  exact midway.close split rfl advance sound typed.1 typed.2

theorem finished_runs (chain : Chain) (e : Expr) (params : List Local) (returns : Ty)
    (midway : Midway ctx n wanted start done (.finish e params returns :: todo) found p)
    (split : plan wanted n = done ++ .finish e params returns :: todo) :
    Runs chain n.ids p (finishLambda ctx e params returns found)
      fun _ q => Midway ctx n wanted start (done ++ [.finish e params returns]) todo found q := by
  obtain ⟨s, body, rfl, rfl, rfl⟩ := (plan_fits wanted n done todo _ split).1
  have apart : ((partsOf done).flatMap Node.ids).Disjoint [s.id] := fun id first second =>
    plan_apart midway.met split first (List.mem_singleton.mp second ▸ List.mem_cons_self)
  have own : [s.id] ⊆ (Node.expr (.lambda s params returns body)).ids :=
    List.cons_subset.mpr ⟨mem_ids_of_mem_nodes _ _ (mem_nodes_self _), List.nil_subset _⟩
  have noted : returns.Noted := midway.met.whole _ List.mem_cons_self _ (mem_nodes_self _)
  have typed : ∀ l ∈ params, p.notes.ofLocal l.id ≠ .unknown := by
    have binds := plan_binds wanted (.expr (.lambda s params returns body))
    rw [split, binds_of_snoc] at binds
    intro l listed
    refine midway.bound l ?_
    rw [← List.append_nil (bindsOf done)]
    exact binds ▸ listed
  have returned : body.returned = collectsOf done := by
    have collects := plan_collects wanted (.expr (.lambda s params returns body))
    rw [split, collects_of_snoc] at collects
    exact collects.symm.trans (List.append_nil _)
  have whole : ∀ t ∈ found, t.whole := by
    intro t member
    obtain ⟨e, collected, rfl⟩ := List.mem_map.mp (midway.found ▸ member)
    obtain ⟨c, listed, below⟩ := plan_collected wanted _ done _ split e collected
    exact noted_known _ (midway.pending.sound.actual e.id) ((midway.derived c listed _ below).known e rfl)
  refine ((finish_lambda_runs chain (.lambda s params returns body) params returns found midway.pending.sound noted typed whole
    (midway.untyped (List.cons_ne_nil _ _) _ rfl)).imp fun _ q advance sound finished => ?_).weaken own
  obtain ⟨locals, actual⟩ := finished
  refine midway.close split rfl advance sound ?_ ?_
  · rw [actual]
    exact nofun
  · rw [actual, Rule, returned, plan_collected_kept split advance apart, ← midway.found, locals]

theorem action_runs (whole : ctx.Whole) (action : Action) (midway : Midway ctx n wanted start done (.act action :: todo) found p)
    (split : plan wanted n = done ++ .act action :: todo) :
    Runs (strategies.map Strategy.plugin) n.ids p (action.run ctx (strategies.map Strategy.plugin))
      fun _ q => Midway ctx n wanted start (done ++ [.act action]) todo found q := by
  have sound := midway.pending.sound
  have fits := (plan_fits wanted n done todo _ split).1
  have own := midway.met.whole n List.mem_cons_self n (mem_nodes_self n)
  have within : n.id :: (partsOf todo).flatMap Node.ids ⊆ n.ids := plan_within split
  have visited : ∀ e, .expr e ∈ partsOf done → (p.notes.actual e.id).whole := fun e listed =>
    noted_known _ (sound.actual e.id) ((midway.derived _ listed _ (mem_nodes_self _)).known e rfl)
  have idle : (Step.act action).isLast = false → (∀ l ∈ (Step.act action).binds, p.notes.ofLocal l.id ≠ .unknown) →
      Midway ctx n wanted start (done ++ [.act action]) todo found p := fun more bound =>
    midway.after_action split more (.refl [] p) sound (List.nil_subset _) rfl bound
  have binds : ∀ {q l}, (Step.act action).isLast = false → (Step.act action).binds = [l] → Advance [] p q → Sound q.notes →
      q.notes.actual = p.notes.actual ∧ q.notes.ofLocal l.id ≠ .unknown →
      Midway ctx n wanted start (done ++ [.act action]) todo found q := fun more only advance sound done =>
    midway.after_action split more advance sound (List.nil_subset _) done.1 (by rw [only]; exact List.forall_mem_singleton.mpr done.2)
  have todoId : ∀ e, .expr e ∈ partsOf todo → e.id ∈ n.id :: (partsOf todo).flatMap Node.ids := fun e listed =>
    List.mem_cons_of_mem _ (List.mem_flatMap.mpr ⟨.expr e, listed, mem_ids_of_mem_nodes _ _ (mem_nodes_self _)⟩)
  cases action with
  | dispatch e => exact dispatched_runs whole e midway split
  | claim e =>
    obtain ⟨rfl, s, params, returns, body, rfl⟩ := fits
    have self : [s.id] ⊆ (Node.expr (.lambda s params returns body)).id :: (partsOf todo).flatMap Node.ids :=
      List.cons_subset.mpr ⟨List.mem_cons_self, List.nil_subset _⟩
    refine ((lambda_runs strategies whole s params returns body sound).imp fun _ q advance sound actual => ?_).weaken
      (List.Subset.trans self within)
    exact midway.after_action split rfl advance sound self actual (List.forall_mem_nil _)
  | suggest e type =>
    have there : [e.id] ⊆ n.id :: (partsOf todo).flatMap Node.ids := List.cons_subset.mpr ⟨todoId e fits.2, List.nil_subset _⟩
    refine notes_runs _ (((suggest_runs e _ sound (wanted_noted fits.1 midway.noted own sound)).imp
      fun _ q advance sound kept => ?_).weaken (List.Subset.trans there within))
    exact midway.after_action split rfl advance sound there kept.1 (List.forall_mem_nil _)
  | suggestArgs callee args =>
    have there : args.map Expr.id ⊆ n.id :: (partsOf todo).flatMap Node.ids := by
      intro id member
      obtain ⟨arg, listed, rfl⟩ := List.mem_map.mp member
      exact todoId arg (fits.2.2 arg listed)
    refine actual_runs callee _ (((suggest_args_runs _ _ args sound (visited callee fits.2.1)).imp
      fun _ q advance sound actual => ?_).weaken (List.Subset.trans there within))
    exact midway.after_action split rfl advance sound there actual (List.forall_mem_nil _)
  | default location problem l =>
    have named : problem.Whole := by cases fits <;> exact List.forall_mem_nil _
    exact ((default_local_runs _ location problem l sound named).imp fun _ q advance sound done =>
      binds rfl rfl advance sound done).weaken (List.nil_subset _)
  | adopt l init =>
    refine local_type_runs l _ ?_
    split
    next untyped =>
      refine actual_runs init _ ?_
      exact ((bind_local_runs _ l _ sound (visited init fits) ((is_unknown_iff _).mp untyped)).imp fun _ q advance sound done =>
        binds rfl rfl advance sound done).weaken (List.nil_subset _)
    next typed => exact .pure sound (idle rfl (List.forall_mem_singleton.mpr fun unknown => typed ((is_unknown_iff _).mpr unknown)))
  | element location l items =>
    refine local_type_runs l _ ?_
    split
    next untyped =>
      refine actual_runs items _ ?_
      refine (loop_variable_runs _ location _ sound (visited items fits)).step (List.nil_subset _) fun t q first sound found => ?_
      have untyped : q.notes.ofLocal l.id = .unknown := by
        rw [found.2]
        exact (is_unknown_iff _).mp untyped
      refine ((bind_local_runs _ l t sound found.1 untyped).imp fun _ r second sound bound => ?_).weaken (List.nil_subset _)
      exact binds rfl rfl (first.trans second) sound ⟨bound.1.trans (by rw [found.2]), bound.2⟩
    next typed => exact .pure sound (idle rfl (List.forall_mem_singleton.mpr fun unknown => typed ((is_unknown_iff _).mpr unknown)))
  | demand f =>
    refine notes_runs _ ?_
    dsimp only
    split
    next => exact fatal_runs _ _ (List.forall_mem_nil _)
    next typed =>
      refine .pure sound (idle rfl fun l bound unknown => ?_)
      exact List.find?_eq_none.mp typed l bound ((is_unknown_iff _).mpr unknown)
  | register location path literals =>
    rw [Action.run]
    split
    next => exact fatal_runs _ _ (List.forall_mem_nil _)
    next => exact .pure sound (idle rfl (List.forall_mem_nil _))

theorem step_runs (whole : ctx.Whole) (split : plan wanted n = done ++ s :: todo)
    (midway : Midway ctx n wanted start done (s :: todo) found p)
    (parts : ∀ c ∈ s.parts, ∀ type q, Pending [c] q → type.Noted → Runs (strategies.map Strategy.plugin) c.ids q
      (inferPart ctx (strategies.map Strategy.plugin) type c) fun found r => Returns ctx c found r.notes) :
    Runs (strategies.map Strategy.plugin) n.ids p (s.run ctx (strategies.map Strategy.plugin) found)
      fun found q => Midway ctx n wanted start (done ++ [s]) todo found q := by
  have sound := midway.pending.sound
  have fits := (plan_fits wanted n done todo s split).1
  cases s with
  | visit type part =>
    have child := plan_child wanted n part done todo _ split List.mem_cons_self
    have own := midway.met.whole n List.mem_cons_self n (mem_nodes_self n)
    have pending : Pending (part :: partsOf todo) p := midway.pending
    refine notes_runs _ ((parts part List.mem_cons_self (type p.notes) p pending.head
      (wanted_noted fits.1 midway.noted own sound)).step (child_ids _ _ child) fun more q advance sound returns => ?_)
    exact .pure sound (midway.after_visit split advance sound returns)
  | collect e =>
    refine actual_runs e _ (.pure sound (midway.next split (.refl [] p) sound (List.nil_subset _) (List.disjoint_nil_right _)
      (fun _ _ => rfl) (fun _ _ _ => rfl) (List.forall_mem_nil _)
      (List.forall_mem_nil _) ?_ rfl))
    rintro rfl e rfl
    exact absurd ((plan_fits wanted _ done [] _ split).2 rfl) (by simp [Step.isLast])
  | finish e params returns =>
    exact (finished_runs _ e params returns midway split).seq fun _ _ _ sound done => .pure sound done
  | act action => exact (action_runs whole action midway split).seq fun _ _ _ sound done => .pure sound done

-- One walk for all that the pass does with a node whose parts are still to be typed.
def runsWalk (strategies : List Strategy) (whole : ctx.Whole) :
    Walk (runsLogic (strategies.map Strategy.plugin)) ctx ctx (strategies.map Strategy.plugin) (strategies.map Strategy.plugin) where
  Before n wanted p := Pending [n] p ∧ wanted.Noted
  Between := Midway ctx
  After n _ p found q := Advance n.ids p q ∧ Sound q.notes ∧ Returns ctx n found q.notes
  skip e _ p before typed :=
    absurd (before.1.untyped e.id (by rw [List.flatMap_singleton, ids_eq]; exact List.mem_cons_self)) typed
  enter _ _ _ before _ := .enter before.1 before.2
  step n wanted start done s todo found p split midway parts := by
    have runs := step_runs whole split midway fun c member type q pending noted =>
      (runs_iff_rel _).mpr (parts c member type q ⟨pending, noted⟩)
    obtain ⟨ends, reached⟩ := (runs_iff_rel (s.run ctx (strategies.map Strategy.plugin) found)).mp runs
    exact ⟨ends, fun found q ran => (reached found q ran).2.2⟩
  leave _ _ _ _ _ midway := ⟨midway.advance, midway.pending.sound, midway.leave⟩

theorem infer_part_runs (whole : ctx.Whole) (n : Node) (notFile : ∀ f, n ≠ .file f) (wanted : Ty) (noted : wanted.Noted)
    (p : Progress) (pending : Pending [n] p) :
    Runs (strategies.map Strategy.plugin) n.ids p (inferPart ctx (strategies.map Strategy.plugin) wanted n)
      fun found q => Returns ctx n found q.notes :=
  (runs_iff_rel _).mpr ((runsWalk strategies whole).part n notFile wanted p ⟨pending, noted⟩)

theorem infer_file_runs (whole : ctx.Whole) (pending : Pending [.file ctx.file] p) :
    Runs (strategies.map Strategy.plugin) (Node.file ctx.file).ids p (inferFile ctx (strategies.map Strategy.plugin))
      fun _ q => Derivation ctx q.notes (.file ctx.file) := by
  have runs := (runs_iff_rel _).mpr ((runsWalk strategies whole).file rfl p ⟨pending, .inl rfl⟩)
  exact runs.imp fun _ _ _ _ returns => returns.derived

end

end Typeflow.Infer
