import Typeflow.Infer.Pass
import Typeflow.Proofs.Infer.Rules

set_option autoImplicit false

namespace Typeflow.Infer

-- What the pass does at a node besides going into its parts. A type to expect is read from the notes
-- when the pass comes to it.
inductive Action where
  | claim (e : Expr)
  | dispatch (e : Expr)
  | suggest (e : Expr) (wanted : Annotations → Ty)
  | suggestArgs (callee : Expr) (args : List Expr)
  | default (location : Option Location) (problem : Problem) (l : Local)
  | adopt (l : Local) (init : Expr)
  | element (location : Option Location) (l : Local) (items : Expr)
  | demand (f : Function)
  | register (location : Option Location) (path : String) (literals : LiteralTypes)

-- The steps that have to do with the types found so far are those that add to them, and the one
-- that makes a lambda type of them.
inductive Step where
  | visit (wanted : Annotations → Ty) (part : Node)
  | collect (e : Expr)
  | finish (e : Expr) (params : List Local) (returns : Ty)
  | act (action : Action)

def visitAll (wanted : Ty) (parts : List Node) : List Step := parts.map (.visit fun _ => wanted)

-- All that the pass does at a node, where `wanted` is expected of what the node returns. This is the
-- one place that knows the forms of statements and expressions.
def plan (wanted : Ty) : Node → List Step
  | .expr (.lambda s params returns body) =>
    .act (.claim (.lambda s params returns body)) ::
      params.map (fun l => .act (.default (Expr.lambda s params returns body).location (.untypedLambdaParameter l.name) l)) ++
        [.visit (fun notes => wantedReturn returns (notes.expected s.id)) (.block body),
          .finish (.lambda s params returns body) params returns]
  | .expr (.conditional s condition whenTrue whenFalse) =>
    visitAll wanted (if whenTrue.isContainerLiteral && !whenFalse.isContainerLiteral
      then [.expr condition, .expr whenFalse, .expr whenTrue]
      else [.expr condition, .expr whenTrue, .expr whenFalse]) ++
        [.act (.dispatch (.conditional s condition whenTrue whenFalse))]
  | .expr (.call s callee args) =>
    visitAll wanted [.expr callee] ++ .act (.suggestArgs callee args) :: visitAll wanted (args.map .expr) ++
      [.act (.dispatch (.call s callee args))]
  | .expr e => visitAll wanted (Node.expr e).children ++ [.act (.dispatch e)]
  | .stmt (.declare s target none) => [.act (.default s.location (.untypedVariable target.name) target)]
  | .stmt (.declare _ target (some init)) =>
    .act (.suggest init (·.ofLocal target.id)) :: visitAll wanted [.expr init] ++ [.act (.adopt target init)]
  | .stmt (.ret _ (some value)) =>
    .act (.suggest value fun _ => wanted) :: visitAll wanted [.expr value] ++ [.collect value]
  | .stmt (.foreach s target items body) =>
    visitAll wanted [.expr items] ++ .act (.element s.location target items) :: visitAll wanted [.block body]
  | .function f => .act (.demand f) :: visitAll f.returns [.block f.body]
  | .file f =>
    .act (.register f.site.location f.path f.literals) ::
      visitAll .unknown (f.functions.map .function ++ f.main.toList.map .block)
  | n => visitAll wanted n.children

@[simp] theorem visits_nil (wanted : Ty) : visitAll wanted [] = [] := rfl

theorem visits_append (wanted : Ty) (parts others : List Node) :
    visitAll wanted (parts ++ others) = visitAll wanted parts ++ visitAll wanted others := List.map_append

section

variable (ctx : Context) (chain : Chain)

-- The types of what a part returns. A file is part of nothing.
def inferPart (wanted : Ty) : Node → InferM (List Ty)
  | .expr e => do
    inferExpr ctx chain e
    return []
  | .stmt s => inferStmt ctx chain wanted s
  | .block b => inferBlock ctx chain wanted b
  | .function f => do
    inferFunction ctx chain f
    return []
  | .file _ => return []

-- An expression that has its type is left alone. What a function or a lambda returns is not handed on.
def guarded : Node → InferM (List Ty) → InferM (List Ty)
  | .expr e, x => do
    unlessTyped e (do let _ ← x)
    return []
  | .function _, x => do
    let _ ← x
    return []
  | _, x => x

def Action.run : Action → InferM Unit
  | .claim e => chain.infer ctx e
  | .dispatch e => Infer.dispatch ctx chain e
  | .suggest e wanted => do Infer.suggest e (wanted (← notes))
  | .suggestArgs callee args => do Infer.suggestArgs (← actual callee) args
  | .default location problem l => defaultLocal location problem l
  | .adopt l init => do if (← localType l).isUnknown then setLocal l (← actual init)
  | .element location l items => do
    if (← localType l).isUnknown then setLocal l (← loopVariableType ctx location (← actual items))
  | .demand f => do
    let known := (← notes).ofLocal
    match f.params.find? fun l => (known l.id).isUnknown with
    | some l => fatal f.site.location (.untypedParameter l.name f.name)
    | none => return ()
  | .register location path literals =>
    if literals.array.isNone || literals.map.isNone then fatal location (.noContainerTypes path) else return ()

def Step.run (found : List Ty) : Step → InferM (List Ty)
  | .visit wanted part => do
    let more ← inferPart ctx chain (wanted (← notes)) part
    return found ++ more
  | .collect e => do return found ++ [← actual e]
  | .finish e params returns => do
    finishLambda ctx e params returns found
    return found
  | .act action => do
    action.run ctx chain
    return found

def perform (found : List Ty) (steps : List Step) : InferM (List Ty) := steps.foldlM (Step.run ctx chain) found

end

section

variable {ctx : Context} {chain : Chain}

@[simp] theorem perform_nil (found : List Ty) : perform ctx chain found [] = pure found := rfl

theorem perform_cons (found : List Ty) (s : Step) (rest : List Step) :
    perform ctx chain found (s :: rest) = s.run ctx chain found >>= fun found => perform ctx chain found rest :=
  List.foldlM_cons ..

theorem perform_append (found : List Ty) (first second : List Step) :
    perform ctx chain found (first ++ second) = perform ctx chain found first >>= fun found => perform ctx chain found second :=
  List.foldlM_append ..

theorem visit_run (wanted : Ty) (part : Node) (found : List Ty) :
    (Step.visit (fun _ => wanted) part).run ctx chain found = do
      let more ← inferPart ctx chain wanted part
      return found ++ more := rfl

@[simp] theorem perform_visit (wanted : Ty) (part : Node) (rest : List Node) (found : List Ty) :
    perform ctx chain found (visitAll wanted (part :: rest)) =
      inferPart ctx chain wanted part >>= fun more => perform ctx chain (found ++ more) (visitAll wanted rest) := by
  rw [visitAll, List.map_cons, perform_cons, visit_run, bind_assoc]
  simp only [pure_bind]
  rfl

theorem visit_exprs (wanted : Ty) (items : List Expr) (found : List Ty) :
    perform ctx chain found (visitAll wanted (items.map .expr)) = do
      inferExprs ctx chain items
      return found := by
  induction items with
  | nil => rw [inferExprs, pure_bind]; rfl
  | cons e rest ih =>
    rw [List.map_cons, perform_visit, inferExprs]
    simp only [inferPart, bind_assoc, pure_bind, List.append_nil, ih]

theorem visit_entries (wanted : Ty) (entries : List (String × Expr)) (found : List Ty) :
    perform ctx chain found (visitAll wanted (entries.map fun entry => .expr entry.2)) = do
      inferEntries ctx chain entries
      return found := by
  induction entries with
  | nil => rw [inferEntries, pure_bind]; rfl
  | cons entry rest ih =>
    rw [List.map_cons, perform_visit, inferEntries]
    simp only [inferPart, bind_assoc, pure_bind, List.append_nil, ih]

theorem visit_stmts (wanted : Ty) (statements : List Stmt) (found : List Ty) :
    perform ctx chain found (visitAll wanted (statements.map .stmt)) = do
      let more ← inferStmts ctx chain wanted statements
      return found ++ more := by
  induction statements generalizing found with
  | nil => rw [inferStmts, pure_bind, List.append_nil]; rfl
  | cons s rest ih =>
    rw [List.map_cons, perform_visit, inferStmts]
    simp only [inferPart, bind_assoc, pure_bind, ih, List.append_assoc]

theorem visit_functions (wanted : Ty) (fs : List Function) (found : List Ty) :
    perform ctx chain found (visitAll wanted (fs.map .function)) = do
      fs.forM (inferFunction ctx chain)
      return found := by
  induction fs with
  | nil => rw [List.forM, pure_bind]; rfl
  | cons f rest ih =>
    rw [List.map_cons, perform_visit, List.forM]
    simp only [inferPart, bind_assoc, pure_bind, List.append_nil, ih]

@[simp] theorem perform_action (found : List Ty) (action : Action) (rest : List Step) :
    perform ctx chain found (.act action :: rest) = action.run ctx chain >>= fun _ => perform ctx chain found rest := by
  simp only [perform_cons, Step.run, bind_assoc, pure_bind]

theorem visit_then_dispatch (wanted : Ty) (e : Expr) (items : List Expr) :
    (perform ctx chain [] (visitAll wanted (items.map .expr) ++ [.act (.dispatch e)]) >>= fun _ => pure ()) =
      inferExprs ctx chain items >>= fun _ => dispatch ctx chain e := by
  simp only [perform_append, visit_exprs, perform_action, perform_nil, Action.run, bind_assoc, pure_bind, bind_pure_unit]

theorem default_params_run (e : Expr) (params : List Local) (found : List Ty) (rest : List Step) :
    perform ctx chain found (params.map (fun l => .act (.default e.location (.untypedLambdaParameter l.name) l)) ++ rest) =
      defaultParams e params >>= fun _ => perform ctx chain found rest := by
  induction params with
  | nil => rfl
  | cons l others ih =>
    rw [List.map_cons, List.cons_append, perform_action, ih, ← bind_assoc]
    rfl

theorem infer_expr_eq (wanted : Ty) (e : Expr) :
    inferExpr ctx chain e = unlessTyped e (perform ctx chain [] (plan wanted (.expr e)) >>= fun _ => pure ()) := by
  cases e with
  | literal | localRef | thisRef | staticRef =>
    rw [inferExpr]
    exact congrArg _ (visit_then_dispatch wanted _ []).symm
  | array s items =>
    rw [inferExpr]
    exact congrArg _ (visit_then_dispatch wanted (.array s items) items).symm
  | map s entries =>
    rw [inferExpr]
    refine congrArg _ (Eq.symm ?_)
    change (perform ctx chain [] (visitAll wanted (entries.map fun entry => .expr entry.2) ++ [.act (.dispatch (.map s entries))]) >>=
      fun _ => pure ()) = _
    simp only [perform_append, visit_entries, perform_action, perform_nil, Action.run, bind_assoc, pure_bind, bind_pure_unit]
  | instanceOf _ operand | cast _ operand | unary _ _ operand | property _ operand =>
    rw [inferExpr]
    refine congrArg _ (Eq.trans ?_ (visit_then_dispatch wanted _ [operand]).symm)
    simp only [inferExprs, bind_assoc, pure_bind]
  | binary s op left right =>
    rw [inferExpr]
    refine congrArg _ (Eq.trans ?_ (visit_then_dispatch wanted _ [left, right]).symm)
    simp only [inferExprs, bind_assoc, pure_bind]
  | fieldRef s object target =>
    cases object with
    | none =>
      rw [inferExpr]
      exact congrArg _ (visit_then_dispatch wanted _ []).symm
    | some object =>
      rw [inferExpr]
      refine congrArg _ (Eq.trans ?_ (visit_then_dispatch wanted _ [object]).symm)
      simp only [inferExprs, bind_assoc, pure_bind]
  | conditional s condition whenTrue whenFalse =>
    rw [inferExpr, plan]
    split
    · refine congrArg _ (Eq.trans ?_ (visit_then_dispatch wanted _ [condition, whenFalse, whenTrue]).symm)
      simp only [inferExprs, bind_assoc, pure_bind]
    · refine congrArg _ (Eq.trans ?_ (visit_then_dispatch wanted _ [condition, whenTrue, whenFalse]).symm)
      simp only [inferExprs, bind_assoc, pure_bind]
  | call s callee args =>
    rw [inferExpr, plan, List.append_assoc, perform_append, perform_visit]
    simp only [visits_nil, perform_nil, inferPart, List.cons_append, perform_action, perform_append, visit_exprs,
      Action.run, bind_assoc, pure_bind, bind_pure_unit]
  | lambda s params returns body =>
    rw [inferExpr, plan, List.cons_append, perform_action, default_params_run]
    simp only [perform_cons, perform_nil, Step.run, inferPart, Action.run, expected, List.nil_append, bind_assoc, pure_bind,
      bind_pure_unit]
    rfl

theorem when_bind {α : Type} (condition : Prop) [Decidable condition] (x : InferM Unit) (f : Unit → InferM α) :
    ((if condition then x else pure ()) >>= f) = if condition then x >>= f else f () := by
  split
  · rfl
  · rw [pure_bind]

theorem infer_stmt_eq (wanted : Ty) (s : Stmt) :
    inferStmt ctx chain wanted s = perform ctx chain [] (plan wanted (.stmt s)) := by
  cases s with
  | expression s value =>
    rw [inferStmt]
    simp [plan, Node.children, Stmt.children, inferPart]
  | declare s target init =>
    cases init with
    | none => rw [inferStmt]; simp [plan, Action.run]
    | some init =>
      rw [inferStmt]
      simp only [plan, List.cons_append, perform_action, perform_append, perform_visit, perform_nil, visits_nil, inferPart,
        Action.run, localType, when_bind, List.append_nil, bind_assoc, pure_bind]
  | ret s value =>
    cases value with
    | none => rw [inferStmt]; rfl
    | some value =>
      rw [inferStmt]
      simp [plan, inferPart, Action.run, perform_append, perform_cons, Step.run]
      rfl
  | branch s condition body alternative =>
    cases alternative with
    | none =>
      rw [inferStmt]
      simp [plan, Node.children, Stmt.children, inferPart]
    | some alternative =>
      rw [inferStmt]
      simp [plan, Node.children, Stmt.children, inferPart]
  | loop s condition body =>
    rw [inferStmt]
    simp [plan, Node.children, Stmt.children, inferPart]
  | foreach s target items body =>
    rw [inferStmt]
    simp [plan, inferPart, perform_append, Action.run, when_bind]

theorem infer_block_eq (wanted : Ty) (b : Block) :
    inferBlock ctx chain wanted b = perform ctx chain [] (plan wanted (.block b)) := by
  cases b with
  | mk s statements =>
    change inferBlock ctx chain wanted (.mk s statements) = perform ctx chain [] (visitAll wanted (statements.map .stmt))
    rw [inferBlock, visit_stmts]
    simp

theorem infer_function_eq (wanted : Ty) (f : Function) :
    inferFunction ctx chain f = perform ctx chain [] (plan wanted (.function f)) >>= fun _ => pure () := by
  simp only [plan, perform_action, perform_visit, visits_nil, perform_nil, inferPart, Action.run, bind_assoc, pure_bind]
  refine congrArg (notes >>= ·) (funext fun known => ?_)
  dsimp only
  cases f.params.find? fun l => (known.ofLocal l.id).isUnknown with
  | some l => rfl
  | none => simp

theorem infer_file_eq (wanted : Ty) :
    inferFile ctx chain = perform ctx chain [] (plan wanted (.file ctx.file)) >>= fun _ => pure () := by
  simp only [plan, perform_action, visits_append, perform_append, visit_functions, Action.run, bind_assoc, pure_bind]
  rw [when_bind]
  unfold inferFile
  dsimp only
  cases ctx.file.main with
  | none => simp
  | some main => simp [inferPart]

theorem infer_part_eq (wanted : Ty) (n : Node) (notFile : ∀ f, n ≠ .file f) :
    inferPart ctx chain wanted n = guarded n (perform ctx chain [] (plan wanted n)) := by
  cases n with
  | expr e => rw [inferPart, infer_expr_eq wanted, guarded]
  | stmt s => exact infer_stmt_eq wanted s
  | block b => exact infer_block_eq wanted b
  | function f => rw [inferPart, infer_function_eq wanted, guarded]; simp
  | file f => exact absurd rfl (notFile f)

end

def Step.parts : Step → List Node
  | .visit _ part => [part]
  | _ => []

def Step.binds : Step → List Local
  | .act (.default _ _ l) => [l]
  | .act (.adopt l _) => [l]
  | .act (.element _ l _) => [l]
  | .act (.demand f) => f.params
  | _ => []

def Step.collects : Step → List Expr
  | .visit _ part => part.handed
  | .collect e => [e]
  | _ => []

def partsOf (steps : List Step) : List Node := steps.flatMap Step.parts

def bindsOf (steps : List Step) : List Local := steps.flatMap Step.binds

def collectsOf (steps : List Step) : List Expr := steps.flatMap Step.collects

@[simp] theorem parts_of_nil : partsOf [] = [] := rfl

@[simp] theorem parts_of_cons (s : Step) (rest : List Step) : partsOf (s :: rest) = s.parts ++ partsOf rest := rfl

@[simp] theorem parts_of_append (first second : List Step) : partsOf (first ++ second) = partsOf first ++ partsOf second :=
  List.flatMap_append

theorem parts_of_snoc (done : List Step) (s : Step) : partsOf (done ++ [s]) = partsOf done ++ s.parts := by
  simp

theorem binds_of_snoc (done : List Step) (s : Step) : bindsOf (done ++ [s]) = bindsOf done ++ s.binds := by
  simp [bindsOf]

theorem collects_of_snoc (done : List Step) (s : Step) : collectsOf (done ++ [s]) = collectsOf done ++ s.collects := by
  simp [collectsOf]

@[simp] theorem parts_of_visits (wanted : Ty) (parts : List Node) : partsOf (visitAll wanted parts) = parts := by
  induction parts with
  | nil => rfl
  | cons part rest ih => exact congrArg (part :: ·) ih

@[simp] theorem parts_of_actions {α : Type} (f : α → Action) (xs : List α) : partsOf (xs.map fun x => .act (f x)) = [] := by
  induction xs with
  | nil => rfl
  | cons x rest ih => exact ih

-- The pass goes into each child once, if not always in the order of evaluation.
theorem plan_parts (wanted : Ty) (n : Node) : (partsOf (plan wanted n)).Perm n.children := by
  cases n with
  | expr e =>
    cases e with
    | lambda => simp [plan, Step.parts, Node.children, Expr.children]
    | conditional s condition whenTrue whenFalse =>
      rw [plan]
      split
      · simpa [Step.parts, Node.children, Expr.children] using List.Perm.swap _ _ _
      · simp [Step.parts, Node.children, Expr.children]
    | call => simp [plan, Step.parts, Node.children, Expr.children]
    | _ => simp [plan, Step.parts]
  | stmt s =>
    cases s with
    | declare s target init => cases init <;> simp [plan, Step.parts, Node.children, Stmt.children]
    | ret s value => cases value <;> simp [plan, Step.parts, Node.children, Stmt.children]
    | foreach => simp [plan, Step.parts, Node.children, Stmt.children]
    | _ => simp [plan]
  | function f => simp [plan, Step.parts, Node.children]
  | file f => simp [plan, Step.parts, Node.children]
  | block b => simp [plan]

@[simp] theorem visits_bind (wanted : Ty) (parts : List Node) : (visitAll wanted parts).flatMap Step.binds = [] := by
  simp [visitAll, Step.binds, List.flatMap_map]

theorem plan_binds (wanted : Ty) (n : Node) : bindsOf (plan wanted n) = n.binders := by
  rw [bindsOf]
  cases n with
  | expr e => cases e <;> simp [plan, Node.binders, Step.binds, List.flatMap_map]
  | stmt s =>
    cases s with
    | declare s target init => cases init <;> simp [plan, Node.binders, Step.binds]
    | ret s value => cases value <;> simp [plan, Node.binders, Step.binds]
    | _ => simp [plan, Node.binders, Step.binds]
  | _ => simp [plan, Node.binders, Step.binds]

theorem returned_all_eq (statements : List Stmt) : returnedAll statements = statements.flatMap Stmt.returned := by
  induction statements with
  | nil => rfl
  | cons s rest ih => rw [returnedAll, ih, List.flatMap_cons]

theorem plan_collects (wanted : Ty) (n : Node) : collectsOf (plan wanted n) = n.returned := by
  rw [collectsOf]
  cases n with
  | expr e =>
    cases e with
    | conditional s condition whenTrue whenFalse =>
      rw [plan]
      split <;> simp [Node.returned, Node.handed, Step.collects, visitAll]
    | fieldRef s object target =>
      cases object <;> simp [plan, Node.returned, Node.handed, Step.collects, visitAll, Node.children, Expr.children]
    | _ => simp [plan, Node.returned, Node.handed, Step.collects, visitAll, Node.children, Expr.children, List.flatMap_map]
  | stmt s =>
    cases s with
    | declare s target init => cases init <;> simp [plan, Node.returned, Node.handed, Stmt.returned, Step.collects, visitAll]
    | ret s value =>
      cases value <;> simp [plan, Node.returned, Node.handed, Stmt.returned, Step.collects, visitAll, Node.children, Stmt.children]
    | branch s condition body alternative =>
      cases alternative <;> simp [plan, Node.returned, Node.handed, Stmt.returned, Step.collects, visitAll, Node.children, Stmt.children]
    | _ => simp [plan, Node.returned, Node.handed, Stmt.returned, Step.collects, visitAll, Node.children, Stmt.children]
  | block b =>
    cases b
    simp [plan, Node.returned, Node.handed, Block.returned, returned_all_eq, Step.collects, visitAll, Node.children, Block.statements,
      List.flatMap_map]
  | function f => simp [plan, Node.returned, Node.handed, Step.collects, visitAll]
  | file f => simp [plan, Node.returned, Node.handed, Step.collects, visitAll, List.flatMap_map]

-- Where the types come from that are wanted below a node of which `wanted` is expected.
inductive Wanted (wanted : Ty) (n : Node) : (Annotations → Ty) → Prop
  | given : Wanted wanted n fun _ => wanted
  | nothing : Wanted wanted n fun _ => .unknown
  | ofLocal (l : Local) : Wanted wanted n (·.ofLocal l.id)
  | result (f : Function) (isFunction : n = .function f) : Wanted wanted n fun _ => f.returns
  | body (s : Site) (params : List Local) (returns : Ty) (body : Block) (isLambda : n = .expr (.lambda s params returns body)) :
      Wanted wanted n fun notes => wantedReturn returns (notes.expected s.id)

-- The problems that are worth a default.
inductive Untyped : Problem → Prop
  | parameter (name : String) : Untyped (.untypedLambdaParameter name)
  | variable (name : String) : Untyped (.untypedVariable name)

-- What is known of an action between the steps that are done and those to do: which part it is about,
-- and whether the pass has been there.
def Action.Fits (wanted : Ty) (n : Node) (done todo : List Step) : Action → Prop
  | .claim e => n = .expr e ∧ ∃ s params returns body, e = .lambda s params returns body
  | .dispatch e => n = .expr e ∧ e.kind ≠ .lambda ∧ todo = []
  | .suggest e type => Wanted wanted n type ∧ .expr e ∈ partsOf todo
  | .suggestArgs callee args =>
    (∃ s, n = .expr (.call s callee args)) ∧ .expr callee ∈ partsOf done ∧ ∀ arg ∈ args, .expr arg ∈ partsOf todo
  | .default _ problem _ => Untyped problem
  | .adopt _ init => .expr init ∈ partsOf done
  | .element _ _ items => .expr items ∈ partsOf done
  | .demand f => n = .function f
  | .register location path literals => ∃ f, n = .file f ∧ location = f.site.location ∧ path = f.path ∧ literals = f.literals

def Step.Fits (wanted : Ty) (n : Node) (done todo : List Step) : Step → Prop
  | .visit type part => Wanted wanted n type ∧ ∀ b, part = .block b → bindsOf todo = []
  | .collect e => .expr e ∈ partsOf done
  | .finish e params returns => ∃ s body, e = .lambda s params returns body ∧ n = .expr e ∧ todo = []
  | .act action => action.Fits wanted n done todo

-- The steps that give an expression its type.
def Step.isLast : Step → Bool
  | .finish .. => true
  | .act (.dispatch _) => true
  | _ => false

def Orderly (wanted : Ty) (n : Node) : List Step → List Step → Prop
  | _, [] => True
  | done, s :: todo => s.Fits wanted n done todo ∧ (n.expr?.isSome → (todo = [] ↔ s.isLast)) ∧ Orderly wanted n (done ++ [s]) todo

theorem orderly_at (wanted : Ty) (n : Node) (before done todo : List Step) (s : Step)
    (orderly : Orderly wanted n before (done ++ s :: todo)) :
    s.Fits wanted n (before ++ done) todo ∧ (n.expr?.isSome → (todo = [] ↔ s.isLast)) := by
  induction done generalizing before with
  | nil => exact ⟨by simpa using orderly.1, orderly.2.1⟩
  | cons s' rest ih => simpa using ih (before ++ [s']) orderly.2.2

-- Steps that fit anywhere.
theorem orderly_append (wanted : Ty) (n : Node) (done first rest : List Step)
    (free : ∀ s ∈ first, s.isLast = false ∧ ∀ done todo, s.Fits wanted n done todo)
    (more : n.expr?.isSome → rest ≠ []) (orderly : Orderly wanted n (done ++ first) rest) : Orderly wanted n done (first ++ rest) := by
  induction first generalizing done with
  | nil => simpa using orderly
  | cons s others ih =>
    obtain ⟨here, later⟩ := List.forall_mem_cons.mp free
    refine ⟨here.2 done _, fun isExpr => ?_, ih (done ++ [s]) later (by simpa using orderly)⟩
    simp [here.1, more isExpr]

theorem orderly_visits (wanted type : Ty) (n : Node) (done rest : List Step) (parts : List Node)
    (wants : Wanted wanted n fun _ => type) (bindless : bindsOf rest = []) (more : n.expr?.isSome → rest ≠ [])
    (orderly : Orderly wanted n (done ++ visitAll type parts) rest) : Orderly wanted n done (visitAll type parts ++ rest) := by
  induction parts generalizing done with
  | nil => simpa using orderly
  | cons part others ih =>
    refine ⟨⟨wants, fun _ _ => ?_⟩, fun isExpr => ?_, ih _ (by simpa [visitAll] using orderly)⟩
    · change bindsOf (visitAll type others ++ rest) = []
      rw [bindsOf] at bindless ⊢
      rw [List.flatMap_append, bindless, List.append_nil, visits_bind]
    · simp [Step.isLast, more isExpr]

theorem plan_orderly (wanted : Ty) (n : Node) : Orderly wanted n [] (plan wanted n) := by
  have visited : ∀ type done parts, Wanted wanted n (fun _ => type) → n.expr? = none →
      Orderly wanted n done (visitAll type parts) := by
    intro type done parts wants notExpr
    have := orderly_visits wanted type n done [] parts wants rfl (by simp [notExpr]) trivial
    rwa [List.append_nil] at this
  have plain : ∀ {c : Prop}, n.expr? = none → n.expr?.isSome → c := fun notExpr isExpr => by simp [notExpr] at isExpr
  cases n with
  | expr e =>
    have dispatched : ∀ done parts, e.kind ≠ .lambda →
        Orderly wanted (.expr e) done (visitAll wanted parts ++ [.act (.dispatch e)]) := by
      intro done parts notLambda
      refine orderly_visits _ _ _ _ _ parts .given rfl (by simp) ?_
      exact ⟨⟨rfl, notLambda, rfl⟩, fun _ => by simp [Step.isLast], trivial⟩
    cases e with
    | lambda s params returns body =>
      refine orderly_append _ _ _ _ _ (List.forall_mem_cons.mpr ⟨?_, fun step member => ?_⟩) (by simp) ?_
      · exact ⟨rfl, fun _ _ => ⟨rfl, s, params, returns, body, rfl⟩⟩
      · obtain ⟨l, _, rfl⟩ := List.mem_map.mp member
        exact ⟨rfl, fun _ _ => .parameter l.name⟩
      · refine ⟨⟨.body s params returns body rfl, fun _ _ => rfl⟩, fun _ => by simp [Step.isLast], ⟨s, body, rfl, rfl, rfl⟩, ?_, trivial⟩
        exact fun _ => by simp [Step.isLast]
    | call s callee args =>
      rw [plan, List.append_assoc]
      have bindless : bindsOf (visitAll wanted (args.map .expr) ++ [.act (.dispatch (.call s callee args))]) = [] := by
        simp [bindsOf, Step.binds]
      refine orderly_visits _ _ _ _ _ _ .given bindless (by simp) ⟨⟨⟨s, rfl⟩, by simp, fun arg listed => ?_⟩, ?_, ?_⟩
      · simp [listed]
      · simp [Step.isLast]
      · exact dispatched _ _ (by simp [Expr.kind])
    | literal s value => exact dispatched _ _ (by cases value <;> simp [Expr.kind, Literal.kind])
    | localRef s target => exact dispatched _ _ (by cases kind : target.kind <;> simp [Expr.kind, kind, LocalKind.refKind])
    | _ => exact dispatched _ _ (by simp [Expr.kind])
  | stmt s =>
    have noBlock : ∀ {c : Prop} e b, Node.expr e = .block b → c := fun _ _ same => by cases same
    cases s with
    | declare s target init =>
      cases init with
      | none => exact ⟨.variable target.name, plain rfl, trivial⟩
      | some init =>
        refine ⟨⟨.ofLocal target, by simp [visitAll, Step.parts]⟩, plain rfl, ?_⟩
        exact ⟨⟨.given, noBlock _⟩, plain rfl, by simp [Step.Fits, Action.Fits, Step.parts], plain rfl, trivial⟩
    | ret s value =>
      cases value with
      | none => trivial
      | some value =>
        refine ⟨⟨.given, by simp [visitAll, Step.parts]⟩, plain rfl, ?_⟩
        exact ⟨⟨.given, noBlock _⟩, plain rfl, by simp [Step.Fits, Step.parts], plain rfl, trivial⟩
    | foreach s target items body =>
      exact ⟨⟨.given, noBlock _⟩, plain rfl, by simp [Step.Fits, Action.Fits, Step.parts], plain rfl, visited _ _ _ .given rfl⟩
    | _ => exact visited _ _ _ .given rfl
  | block b => exact visited _ _ _ .given rfl
  | function f => exact ⟨rfl, plain rfl, visited _ _ _ (.result f rfl) rfl⟩
  | file f => exact ⟨⟨f, rfl, rfl, rfl, rfl⟩, plain rfl, visited _ _ _ .nothing rfl⟩

theorem plan_fits (wanted : Ty) (n : Node) (done todo : List Step) (s : Step) (split : plan wanted n = done ++ s :: todo) :
    s.Fits wanted n done todo ∧ (n.expr?.isSome → (todo = [] ↔ s.isLast)) := by
  have orderly := plan_orderly wanted n
  rw [split] at orderly
  simpa using orderly_at wanted n [] done todo s orderly

theorem plan_child (wanted : Ty) (n c : Node) (done todo : List Step) (s : Step) (split : plan wanted n = done ++ s :: todo)
    (member : c ∈ s.parts) : c ∈ n.children := by
  rw [← (plan_parts wanted n).mem_iff, split]
  simp [member]

theorem plan_bound (wanted : Ty) (n : Node) (l : Local) (done todo : List Step) (s : Step)
    (split : plan wanted n = done ++ s :: todo) (member : l ∈ s.binds) : l ∈ n.binders := by
  rw [← plan_binds wanted n, split, bindsOf]
  simp [member]

theorem plan_of_expr (wanted : Ty) (e : Expr) : plan wanted (.expr e) ≠ [] := by
  cases e <;> simp [plan]

-- The parts that are done and those to do are the children, so that their numbers are apart.
theorem plan_ids (wanted : Ty) (n : Node) (done todo : List Step) (split : plan wanted n = done ++ todo) :
    ((partsOf done).flatMap Node.ids ++ (partsOf todo).flatMap Node.ids).Perm (n.children.flatMap Node.ids) := by
  have parts := plan_parts wanted n
  rw [split, parts_of_append] at parts
  rw [← List.flatMap_append]
  exact parts.flatMap_right Node.ids

-- Types are collected from parts in which the pass has been.
theorem plan_collected (wanted : Ty) (n : Node) (done todo : List Step) (split : plan wanted n = done ++ todo) (e : Expr)
    (member : e ∈ collectsOf done) : ∃ c ∈ partsOf done, .expr e ∈ c.nodes := by
  obtain ⟨s, listed, collected⟩ := List.mem_flatMap.mp member
  obtain ⟨before, after, rfl⟩ := List.append_of_mem listed
  have fits := (plan_fits wanted n before (after ++ todo) s (by simpa using split)).1
  cases s with
  | visit type part => exact ⟨part, by simp [Step.parts], handed_below part e collected⟩
  | collect e' =>
    obtain rfl := List.mem_singleton.mp collected
    have fits : .expr e ∈ partsOf before := fits
    exact ⟨.expr e, by simp [fits], mem_nodes_self _⟩
  | finish | act => cases collected

end Typeflow.Infer
