import Typeflow.Proofs.Infer.Walk
import Typeflow.Proofs.Type.Reordering

set_option autoImplicit false

namespace Typeflow.Infer

-- The contexts differ in the order of declarations only. The declarations are also part of the file
-- node, which no expectation comes from.
structure Context.Alike (ctx ctx' : Context) : Prop where
  file : ctx'.file = { ctx.file with declarations := ctx'.declarations }
  declarations : ctx.declarations.Alike ctx'.declarations
  parents : ctx'.parents = ctx.parents
  expectations : ∀ id notes e, (ctx.node? id).map (expectedFrom? notes e) = (ctx'.node? id).map (expectedFrom? notes e)

section

variable {ctx ctx' : Context} (alike : ctx.Alike ctx')

include alike

theorem Context.Alike.literals : ctx'.literals = ctx.literals := by
  rw [Context.literals, alike.file, Context.literals]

theorem Context.Alike.path : ctx'.file.path = ctx.file.path := by
  rw [alike.file]

theorem propagate_alike (e : Expr) : propagate ctx e = propagate ctx' e := by
  unfold propagate
  rw [alike.parents]
  cases ctx.parents.parent? e.id with
  | none => rfl
  | some id =>
    -- either both contexts have a parent, and the two expect the same, or neither has one
    have asked := fun notes => alike.expectations id notes e
    cases left : ctx.node? id with
    | none =>
      cases right : ctx'.node? id with
      | none => simp only [Option.bind_some, left, right]
      | some parent => simpa [left, right] using asked .empty
    | some parent =>
      cases right : ctx'.node? id with
      | none => simpa [left, right] using asked .empty
      | some parent' =>
        simp only [left, right, Option.map_some, Option.some.injEq] at asked
        simp only [Option.bind_some, left, right, asked]

theorem common_type_alike (location : Option Location) (a b : Ty) : commonType ctx location a b = commonType ctx' location a b := by
  unfold commonType commonType?
  simp only [alike.declarations.assignable]

theorem match_params_alike (e : Expr) (params : List Local) (wanted : List (String × Ty)) :
    matchParams ctx e params wanted = matchParams ctx' e params wanted := by
  induction params generalizing wanted with
  | nil => simp only [matchParams]
  | cons l rest ih =>
    cases wanted with
    | nil => simp only [matchParams]
    | cons w others => simp only [matchParams, alike.declarations.assignable, ih]

theorem set_literal_alike (e : Expr) : setString ctx e = setString ctx' e ∧ setNumeric ctx e = setNumeric ctx' e ∧
    setBoolean ctx e = setBoolean ctx' e := by
  simp only [setString, setNumeric, setBoolean, setLiteralType, alike.literals, alike.path, and_self]

theorem container_alike (e : Expr) (c : Container) (decl : Option DeclId) (what : String) (items : List Expr) :
    inferContainer ctx e c decl what items = inferContainer ctx' e c decl what items := by
  simp only [inferContainer, propagate_alike alike, alike.path]

theorem strategy_alike (s : Strategy) (e : Expr) : s.infer ctx e = s.infer ctx' e := by
  unfold Strategy.infer
  split
  next value => cases value <;> simp only [inferLiteral, set_literal_alike alike]
  next => rw [container_alike alike, alike.literals]
  next => rw [container_alike alike, alike.literals]
  next => simp only [inferLambdaParams, propagate_alike alike, match_params_alike alike]
  next => rfl
  next object target => cases object <;> simp only [inferFieldRef, fieldType, alike.declarations.bindings]
  next => rw [alike.declarations.self_type]
  next => rw [alike.declarations.self_type]
  next => simp only [inferProperty, alike.declarations.member]
  next => rfl
  next => simp only [set_literal_alike alike]
  next => simp only [inferUnary, set_literal_alike alike]
  next => simp only [inferBinary, alike.literals, set_literal_alike alike]
  next => simp only [inferConditional, common_type_alike alike]
  next => rfl
  next => rfl

-- Plugins are functions of the whole context; the strategies are those that are known to ask by name.
theorem chain_alike (strategies : List Strategy) (e : Expr) :
    Chain.infer (strategies.map Strategy.plugin) ctx e = Chain.infer (strategies.map Strategy.plugin) ctx' e := by
  unfold Chain.infer
  cases found : Chain.lookup? (strategies.map Strategy.plugin) e with
  | none => rfl
  | some plugin =>
    obtain ⟨s, _, rfl⟩ := List.mem_map.mp (List.mem_of_find?_eq_some found)
    simp only [Strategy.plugin, strategy_alike alike]

theorem return_type_alike (e : Expr) (t : Ty) (found : List Ty) : returnType ctx e t found = returnType ctx' e t found := by
  induction found generalizing t with
  | nil => cases t <;> rfl
  | cons u rest ih => cases t <;> simp only [returnType, common_type_alike alike, ih]

theorem finish_lambda_alike (e : Expr) (params : List Local) (returns : Ty) (found : List Ty) :
    finishLambda ctx e params returns found = finishLambda ctx' e params returns found := by
  simp only [finishLambda, resultType, return_type_alike alike]

theorem loop_variable_alike (location : Option Location) (items : Ty) :
    loopVariableType ctx location items = loopVariableType ctx' location items := by
  simp only [loopVariableType, alike.literals]

end

section

variable {ctx ctx' : Context} {chain : Chain}

theorem action_alike (alike : ctx.Alike ctx') (chains : Chain.infer chain ctx = Chain.infer chain ctx') (action : Action) :
    action.run ctx chain = action.run ctx' chain := by
  cases action with
  | claim e => exact congrFun chains e
  | dispatch e => rw [Action.run, Action.run, dispatch, chains, dispatch]
  | element location l items => simp only [Action.run, loop_variable_alike alike]
  | suggest | suggestArgs | default | adopt | demand | register => rfl

def alikeWalk (alike : ctx.Alike ctx') (chains : Chain.infer chain ctx = Chain.infer chain ctx') :
    Walk sameLogic ctx ctx' chain chain where
  Before _ _ _ := True
  Between _ _ _ _ _ _ _ := True
  After _ _ _ _ _ := True
  skip _ _ _ _ _ := trivial
  enter _ _ _ _ _ := trivial
  step n wanted _ done s todo found p split _ parts := by
    refine ⟨?_, fun _ _ _ => trivial⟩
    cases s with
    | visit type part =>
      exact sameLogic.seq (p := p) rfl fun notes q _ => sameLogic.seq (parts part List.mem_cons_self _ q trivial).1 fun _ _ _ => rfl
    | collect e => rfl
    | finish e params returns => exact congrFun (congrArg (· >>= _) (finish_lambda_alike alike e params returns found)) p
    | act action => exact congrFun (congrArg (· >>= _) (action_alike alike chains action)) p
  leave _ _ _ _ _ _ := trivial

theorem infer_file_alike (alike : ctx.Alike ctx') (chains : Chain.infer chain ctx = Chain.infer chain ctx') :
    inferFile ctx chain = inferFile ctx' chain := by
  have same : plan .unknown (.file ctx'.file) = plan .unknown (.file ctx.file) := by rw [alike.file]; rfl
  exact funext fun p => ((alikeWalk alike chains).file same p trivial).1

end

end Typeflow.Infer
