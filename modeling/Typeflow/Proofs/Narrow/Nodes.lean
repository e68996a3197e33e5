import Typeflow.Narrow.Pass
import Typeflow.Proofs.Narrow.Tour

set_option autoImplicit false

namespace Typeflow.Narrow

section

variable (node? : NodeId → Option Node)

def narrowNode : Node → NarrowM Node
  | .expr e => return .expr (← narrowExpr node? e)
  | .stmt s => return .stmt (← narrowStmt node? s)
  | .block b => return .block (← narrowBlock node? b)
  | .function f => return .function { f with body := ← narrowBlock node? f.body }
  | .file f => return .file (← narrowFile node? f)

-- What happens to an expression whose parts are done.
def closeExpr : Expr → NarrowM Expr
  | .instanceOf s operand check => do
    learn (.instanceOf s operand check) operand check
    return .instanceOf s operand check
  | .binary s op left right =>
    if op = "&&" then return .binary s op left right else settle node? (.binary s op left right)
  | .conditional s condition whenTrue whenFalse => return .conditional s condition whenTrue whenFalse
  | e => settle node? e

-- A test is learned, what has no path and is no scope of its own is kept, and all else is settled.
inductive Closing (e : Expr) : Prop
  | test (s : Site) (operand : Expr) (check : Ty) (isTest : e = .instanceOf s operand check)
  | kept (plain : (Node.expr e).ownTest = []) (noPath : e.path = none) (closed : closeExpr node? e = pure e)
  | settled (plain : (Node.expr e).ownTest = []) (quiet : (Node.expr e).transparent = [])
      (closed : closeExpr node? e = settle node? e)

theorem closing (e : Expr) : Closing node? e := by
  cases e with
  | instanceOf s operand check => exact .test s operand check rfl
  | binary s op left right =>
    by_cases and : op = "&&"
    · exact .kept rfl rfl (if_pos and)
    · exact .settled rfl (if_neg and) (if_neg and)
  | conditional => exact .kept rfl rfl rfl
  | _ => exact .settled rfl rfl rfl

def closeNode : Node → NarrowM Node
  | .expr e => return .expr (← closeExpr node? e)
  | n => return n

theorem close_node_other (n : Node) (other : n.expr? = none) : closeNode node? n = pure n := by
  cases n with
  | expr e => cases other
  | _ => rfl

def narrowing : Traversal Progress where
  enter := Progress.entered
  leave := Progress.left
  close _ n := closeNode node? n

theorem walk_exprs (items : List Expr) (p : Progress) : walkAll (narrowNode node?) (items.map .expr) p =
    ((narrowExprs node? items p).1.map .expr, (narrowExprs node? items p).2) :=
  walk_all_map _ .expr (narrowExpr node?) (narrowExprs node?) (fun _ => rfl) (fun _ _ _ => rfl) (fun _ _ => rfl) items p

theorem walk_entries (entries : List (String × Expr)) (p : Progress) :
    walkAll (narrowNode node?) (entries.map fun entry => .expr entry.2) p =
      ((narrowEntries node? entries p).1.map fun entry => .expr entry.2, (narrowEntries node? entries p).2) :=
  walk_all_map _ _ (fun entry => return (entry.1, ← narrowExpr node? entry.2)) (narrowEntries node?) (fun _ => rfl)
    (fun _ _ _ => rfl) (fun _ _ => rfl) entries p

theorem walk_stmts (statements : List Stmt) (p : Progress) : walkAll (narrowNode node?) (statements.map .stmt) p =
    ((narrowStmts node? statements p).1.map .stmt, (narrowStmts node? statements p).2) :=
  walk_all_map _ .stmt (narrowStmt node?) (narrowStmts node?) (fun _ => rfl) (fun _ _ _ => rfl) (fun _ _ => rfl) statements p

theorem walk_functions (functions : List Function) (last : List Node) (p : Progress) :
    walkAll (narrowNode node?) (functions.map .function ++ last) p =
      ((narrowFunctions node? functions p).1.map .function ++
        (walkAll (narrowNode node?) last (narrowFunctions node? functions p).2).1,
        (walkAll (narrowNode node?) last (narrowFunctions node? functions p).2).2) := by
  rw [walk_all_append, walk_all_map _ .function (fun f => return { f with body := ← narrowBlock node? f.body })
    (narrowFunctions node?) (fun _ => rfl) (fun _ _ _ => rfl) (fun _ _ => rfl)]

theorem narrow_entries_keys (entries : List (String × Expr)) (p : Progress) :
    (narrowEntries node? entries p).1.map Prod.fst = entries.map Prod.fst := by
  induction entries generalizing p with
  | nil => rfl
  | cons entry rest ih => exact congrArg (entry.1 :: ·) (ih _)

-- The one place that looks at the forms of nodes and compares what happens to each with its traversal.
theorem narrow_keeps : (narrowing node?).Keeps (narrowNode node?) := by
  intro n p
  cases n with
  | expr e =>
    cases e with
    | literal s value => exact Traversal.rebuilt (.expr (.literal s value)) rfl rfl rfl rfl rfl
    | localRef s target => exact Traversal.rebuilt (.expr (.localRef s target)) rfl rfl rfl rfl rfl
    | thisRef s decl => exact Traversal.rebuilt (.expr (.thisRef s decl)) rfl rfl rfl rfl rfl
    | staticRef s decl => exact Traversal.rebuilt (.expr (.staticRef s decl)) rfl rfl rfl rfl rfl
    | array s items =>
      exact Traversal.rebuilt (.expr (.array s (narrowExprs node? items p.entered).1)) (walk_exprs node? items _) rfl rfl
        (List.append_nil _).symm rfl
    | map s entries =>
      exact Traversal.rebuilt (.expr (.map s (narrowEntries node? entries p.entered).1)) (walk_entries node? entries _) rfl
        (outline_of_keys s (narrow_entries_keys node? entries _)) (List.append_nil _).symm rfl
    | lambda s params returns body =>
      exact Traversal.rebuilt (.expr (.lambda s params returns (narrowBlock node? body p.entered).1)) rfl rfl rfl rfl rfl
    | instanceOf s operand check =>
      exact Traversal.rebuilt (.expr (.instanceOf s (narrowExpr node? operand p).1 check)) rfl rfl rfl rfl rfl
    | cast s operand target origin =>
      exact Traversal.rebuilt (.expr (.cast s (narrowExpr node? operand p.entered).1 target origin)) rfl rfl rfl rfl rfl
    | unary s op operand =>
      exact Traversal.rebuilt (.expr (.unary s op (narrowExpr node? operand p.entered).1)) rfl rfl rfl rfl rfl
    | property s object name =>
      exact Traversal.rebuilt (.expr (.property s (narrowExpr node? object p.entered).1 name)) rfl rfl rfl rfl rfl
    | binary s op left right =>
      by_cases and : op = "&&"
      · have scope : (Node.expr (.binary s op left right)).scope = [] := if_pos and
        have outside : (Node.expr (.binary s op left right)).outside = [.expr left, .expr right] := if_pos and
        let first := narrowExpr node? left p
        let second := narrowExpr node? right first.2
        have closed : narrowExpr node? (.binary s op left right) p = closeExpr node? (.binary s op first.1 second.1) second.2 := by
          rw [narrowExpr, closeExpr, if_pos and, if_pos and]
          rfl
        refine Traversal.rebuilt (.expr (.binary s op first.1 second.1)) (by rw [scope]; rfl) (by rw [outside]; rfl) rfl rfl ?_
        exact congrArg (fun run : Expr × Progress => (Node.expr run.1, run.2)) closed
      · have scope : (Node.expr (.binary s op left right)).scope = [.expr left, .expr right] := if_neg and
        have outside : (Node.expr (.binary s op left right)).outside = [] := if_neg and
        let first := narrowExpr node? left p.entered
        let second := narrowExpr node? right first.2
        have closed : narrowExpr node? (.binary s op left right) p =
            closeExpr node? (.binary s op first.1 second.1) second.2.left := by
          rw [narrowExpr, closeExpr, if_neg and, if_neg and]
          rfl
        refine Traversal.rebuilt (.expr (.binary s op first.1 second.1)) (by rw [scope]; rfl) (by rw [outside]; rfl) rfl rfl ?_
        exact congrArg (fun run : Expr × Progress => (Node.expr run.1, run.2)) closed
    | conditional s condition whenTrue whenFalse =>
      let first := narrowExpr node? condition p.entered
      let second := narrowExpr node? whenTrue first.2
      exact Traversal.rebuilt (.expr (.conditional s first.1 second.1 (narrowExpr node? whenFalse second.2.left).1)) rfl rfl rfl rfl rfl
    | call s callee args =>
      let first := narrowExpr node? callee p.entered
      have parts : walkAll (narrowNode node?) (.expr callee :: args.map .expr) p.entered =
          (.expr first.1 :: (narrowExprs node? args first.2).1.map .expr, (narrowExprs node? args first.2).2) := by
        change (_ :: (walkAll _ (args.map .expr) first.2).1, (walkAll _ (args.map .expr) first.2).2) = _
        rw [walk_exprs]
      exact Traversal.rebuilt (.expr (.call s first.1 (narrowExprs node? args first.2).1)) parts rfl rfl (List.append_nil _).symm rfl
    | fieldRef s object target =>
      cases object with
      | none => exact Traversal.rebuilt (.expr (.fieldRef s none target)) rfl rfl rfl rfl rfl
      | some object =>
        exact Traversal.rebuilt (.expr (.fieldRef s (some (narrowExpr node? object p.entered).1) target)) rfl rfl rfl rfl rfl
  | stmt s =>
    cases s with
    | expression s value =>
      exact Traversal.rebuilt (.stmt (.expression s (narrowExpr node? value p.entered).1)) rfl rfl rfl rfl rfl
    | declare s target init =>
      cases init with
      | none => exact Traversal.rebuilt (.stmt (.declare s target none)) rfl rfl rfl rfl rfl
      | some init =>
        exact Traversal.rebuilt (.stmt (.declare s target (some (narrowExpr node? init p.entered).1))) rfl rfl rfl rfl rfl
    | ret s value =>
      cases value with
      | none => exact Traversal.rebuilt (.stmt (.ret s none)) rfl rfl rfl rfl rfl
      | some value => exact Traversal.rebuilt (.stmt (.ret s (some (narrowExpr node? value p.entered).1))) rfl rfl rfl rfl rfl
    | branch s condition body alternative =>
      let first := narrowExpr node? condition p.entered
      let second := narrowBlock node? body first.2
      cases alternative with
      | none => exact Traversal.rebuilt (.stmt (.branch s first.1 second.1 none)) rfl rfl rfl rfl rfl
      | some alternative =>
        exact Traversal.rebuilt (.stmt (.branch s first.1 second.1 (some (narrowBlock node? alternative second.2.left).1)))
          rfl rfl rfl rfl rfl
    | loop s condition body =>
      let first := narrowExpr node? condition p.entered
      exact Traversal.rebuilt (.stmt (.loop s first.1 (narrowBlock node? body first.2).1)) rfl rfl rfl rfl rfl
    | foreach s target items body =>
      let first := narrowExpr node? items p.entered
      exact Traversal.rebuilt (.stmt (.foreach s target first.1 (narrowBlock node? body first.2).1)) rfl rfl rfl rfl rfl
  | block b =>
    cases b with
    | mk s statements =>
      exact Traversal.rebuilt (.block (.mk s (narrowStmts node? statements p).1)) rfl (walk_stmts node? statements p) rfl rfl rfl
  | function f =>
    exact Traversal.rebuilt (.function { f with body := (narrowBlock node? f.body p).1 }) rfl rfl rfl rfl rfl
  | file f =>
    obtain ⟨site, path, declarations, literals, functions, main⟩ := f
    let first := narrowFunctions node? functions p
    cases main with
    | none =>
      exact Traversal.rebuilt (.file ⟨site, path, declarations, literals, first.1, none⟩) rfl (walk_functions node? functions [] p)
        rfl rfl rfl
    | some main =>
      exact Traversal.rebuilt (.file ⟨site, path, declarations, literals, first.1, some (narrowBlock node? main first.2).1⟩) rfl
        (walk_functions node? functions [.block main] p) rfl rfl rfl

end

end Typeflow.Narrow
