import Typeflow.Proofs.Narrow.Tour

set_option autoImplicit false

namespace Typeflow

def chosen (target : NodeId → Bool) (known : List Test) (e : Expr) : Option Test :=
  if target e.id then none else known.find? fun t => e.sameValue t.operand

section

variable (choice : Expr → Option Test)

def place (e out : Expr) : StateM NodeId Expr :=
  match choice e with
  | none => return out
  | some t => modifyGet fun id => (.cast ⟨id, e.location⟩ out t.check (some t.id), id + 1)

mutual

def Expr.recast : Expr → StateM NodeId Expr
  | .literal s value => place choice (.literal s value) (.literal s value)
  | .array s items => do
    let out ← recastExprs items
    place choice (.array s items) (.array s out)
  | .map s entries => do
    let out ← recastEntries entries
    place choice (.map s entries) (.map s out)
  | .lambda s params returns body => do
    let out ← body.recast
    place choice (.lambda s params returns body) (.lambda s params returns out)
  | .instanceOf s operand check => do
    let out ← operand.recast
    place choice (.instanceOf s operand check) (.instanceOf s out check)
  | .cast s operand target origin => do
    let out ← operand.recast
    place choice (.cast s operand target origin) (.cast s out target origin)
  | .binary s op left right => do
    let out ← left.recast
    let out' ← right.recast
    place choice (.binary s op left right) (.binary s op out out')
  | .unary s op operand => do
    let out ← operand.recast
    place choice (.unary s op operand) (.unary s op out)
  | .conditional s condition whenTrue whenFalse => do
    let out ← condition.recast
    let outTrue ← whenTrue.recast
    let outFalse ← whenFalse.recast
    place choice (.conditional s condition whenTrue whenFalse) (.conditional s out outTrue outFalse)
  | .property s object name => do
    let out ← object.recast
    place choice (.property s object name) (.property s out name)
  | .call s callee args => do
    let out ← callee.recast
    let outs ← recastExprs args
    place choice (.call s callee args) (.call s out outs)
  | .localRef s target => place choice (.localRef s target) (.localRef s target)
  | .fieldRef s none target => place choice (.fieldRef s none target) (.fieldRef s none target)
  | .fieldRef s (some object) target => do
    let out ← object.recast
    place choice (.fieldRef s (some object) target) (.fieldRef s (some out) target)
  | .thisRef s decl => place choice (.thisRef s decl) (.thisRef s decl)
  | .staticRef s decl => place choice (.staticRef s decl) (.staticRef s decl)

def recastExprs : List Expr → StateM NodeId (List Expr)
  | [] => return []
  | e :: rest => do
    let out ← e.recast
    let outs ← recastExprs rest
    return out :: outs

def recastEntries : List (String × Expr) → StateM NodeId (List (String × Expr))
  | [] => return []
  | (key, e) :: rest => do
    let out ← e.recast
    let outs ← recastEntries rest
    return (key, out) :: outs

def Block.recast : Block → StateM NodeId Block
  | .mk s statements => do
    let outs ← recastStmts statements
    return .mk s outs

def recastStmts : List Stmt → StateM NodeId (List Stmt)
  | [] => return []
  | s :: rest => do
    let out ← s.recast
    let outs ← recastStmts rest
    return out :: outs

def Stmt.recast : Stmt → StateM NodeId Stmt
  | .expression s value => do
    let out ← value.recast
    return .expression s out
  | .declare s target none => return .declare s target none
  | .declare s target (some init) => do
    let out ← init.recast
    return .declare s target (some out)
  | .ret s none => return .ret s none
  | .ret s (some value) => do
    let out ← value.recast
    return .ret s (some out)
  | .branch s condition body none => do
    let out ← condition.recast
    let outBody ← body.recast
    return .branch s out outBody none
  | .branch s condition body (some alternative) => do
    let out ← condition.recast
    let outBody ← body.recast
    let other ← alternative.recast
    return .branch s out outBody (some other)
  | .loop s condition body => do
    let out ← condition.recast
    let outBody ← body.recast
    return .loop s out outBody
  | .foreach s target items body => do
    let out ← items.recast
    let outBody ← body.recast
    return .foreach s target out outBody

end

def recastFunctions : List Function → StateM NodeId (List Function)
  | [] => return []
  | f :: rest => do
    let out ← f.body.recast choice
    let outs ← recastFunctions rest
    return { f with body := out } :: outs

def recastMain : Option Block → StateM NodeId (Option Block)
  | none => return none
  | some main => do
    let out ← main.recast choice
    return some out

def SourceFile.recast (file : SourceFile) : StateM NodeId SourceFile := do
  let functions ← recastFunctions choice file.functions
  let main ← recastMain choice file.main
  return { file with functions := functions, main := main }

end

theorem place_none (choice : Expr → Option Test) (e out : Expr) (n : NodeId) (kept : choice e = none) :
    place choice e out n = (out, n) := by
  rw [place, kept]
  rfl

theorem place_some (choice : Expr → Option Test) (e out : Expr) (n : NodeId) (t : Test) (cast : choice e = some t) :
    place choice e out n = (.cast ⟨n, e.location⟩ out t.check (some t.id), n + 1) := by
  rw [place, cast]
  rfl

section

variable (choice : Expr → Option Test)

def recastNode : Node → StateM NodeId Node
  | .expr e => return .expr (← e.recast choice)
  | .stmt s => return .stmt (← s.recast choice)
  | .block b => return .block (← b.recast choice)
  | .function f => return .function { f with body := ← f.body.recast choice }
  | .file f => return .file (← f.recast choice)

def recasting : Traversal NodeId where
  enter := id
  leave := id
  close
    | .expr e, .expr out => return .expr (← place choice e out)
    | _, m => return m

theorem close_other (n m : Node) (other : m.expr? = none) : (recasting choice).close n m = pure m := by
  cases m with
  | expr out => cases other
  | _ => cases n <;> rfl

theorem recast_all_exprs (items : List Expr) (n : NodeId) : walkAll (recastNode choice) (items.map .expr) n =
    ((recastExprs choice items n).1.map .expr, (recastExprs choice items n).2) :=
  walk_all_map _ .expr (Expr.recast choice) (recastExprs choice) (fun _ => rfl) (fun _ _ _ => rfl) (fun _ _ => rfl) items n

theorem recast_all_entries (entries : List (String × Expr)) (n : NodeId) :
    walkAll (recastNode choice) (entries.map fun entry => .expr entry.2) n =
      ((recastEntries choice entries n).1.map fun entry => .expr entry.2, (recastEntries choice entries n).2) :=
  walk_all_map _ _ (fun entry => return (entry.1, ← entry.2.recast choice)) (recastEntries choice) (fun _ => rfl)
    (fun _ _ _ => rfl) (fun _ _ => rfl) entries n

theorem recast_all_stmts (statements : List Stmt) (n : NodeId) : walkAll (recastNode choice) (statements.map .stmt) n =
    ((recastStmts choice statements n).1.map .stmt, (recastStmts choice statements n).2) :=
  walk_all_map _ .stmt (Stmt.recast choice) (recastStmts choice) (fun _ => rfl) (fun _ _ _ => rfl) (fun _ _ => rfl) statements n

theorem recast_all_functions (functions : List Function) (last : List Node) (n : NodeId) :
    walkAll (recastNode choice) (functions.map .function ++ last) n =
      ((recastFunctions choice functions n).1.map .function ++
        (walkAll (recastNode choice) last (recastFunctions choice functions n).2).1,
        (walkAll (recastNode choice) last (recastFunctions choice functions n).2).2) := by
  rw [walk_all_append, walk_all_map _ .function (fun f => return { f with body := ← f.body.recast choice })
    (recastFunctions choice) (fun _ => rfl) (fun _ _ _ => rfl) (fun _ _ => rfl)]

theorem recast_entries_keys (entries : List (String × Expr)) (n : NodeId) :
    (recastEntries choice entries n).1.map Prod.fst = entries.map Prod.fst := by
  induction entries generalizing n with
  | nil => rfl
  | cons entry rest ih => exact congrArg (entry.1 :: ·) (ih _)

theorem recast_keeps : (recasting choice).Keeps (recastNode choice) := by
  intro n k
  cases n with
  | expr e =>
    cases e with
    | literal s value => exact Traversal.rebuilt (.expr (.literal s value)) rfl rfl rfl rfl rfl
    | localRef s target => exact Traversal.rebuilt (.expr (.localRef s target)) rfl rfl rfl rfl rfl
    | thisRef s decl => exact Traversal.rebuilt (.expr (.thisRef s decl)) rfl rfl rfl rfl rfl
    | staticRef s decl => exact Traversal.rebuilt (.expr (.staticRef s decl)) rfl rfl rfl rfl rfl
    | array s items =>
      exact Traversal.rebuilt (.expr (.array s (recastExprs choice items k).1)) (recast_all_exprs choice items k) rfl rfl
        (List.append_nil _).symm rfl
    | map s entries =>
      exact Traversal.rebuilt (.expr (.map s (recastEntries choice entries k).1)) (recast_all_entries choice entries k) rfl
        (outline_of_keys s (recast_entries_keys choice entries k)) (List.append_nil _).symm rfl
    | lambda s params returns body =>
      exact Traversal.rebuilt (.expr (.lambda s params returns (body.recast choice k).1)) rfl rfl rfl rfl rfl
    | instanceOf s operand check =>
      exact Traversal.rebuilt (.expr (.instanceOf s (operand.recast choice k).1 check)) rfl rfl rfl rfl rfl
    | cast s operand target origin =>
      exact Traversal.rebuilt (.expr (.cast s (operand.recast choice k).1 target origin)) rfl rfl rfl rfl rfl
    | unary s op operand => exact Traversal.rebuilt (.expr (.unary s op (operand.recast choice k).1)) rfl rfl rfl rfl rfl
    | property s object name =>
      exact Traversal.rebuilt (.expr (.property s (object.recast choice k).1 name)) rfl rfl rfl rfl rfl
    | binary s op left right =>
      let first := left.recast choice k
      let second := right.recast choice first.2
      by_cases and : op = "&&"
      · have scope : (Node.expr (.binary s op left right)).scope = [] := if_pos and
        have outside : (Node.expr (.binary s op left right)).outside = [.expr left, .expr right] := if_pos and
        exact Traversal.rebuilt (.expr (.binary s op first.1 second.1)) (by rw [scope]; rfl) (by rw [outside]; rfl) rfl rfl rfl
      · have scope : (Node.expr (.binary s op left right)).scope = [.expr left, .expr right] := if_neg and
        have outside : (Node.expr (.binary s op left right)).outside = [] := if_neg and
        exact Traversal.rebuilt (.expr (.binary s op first.1 second.1)) (by rw [scope]; rfl) (by rw [outside]; rfl) rfl rfl rfl
    | conditional s condition whenTrue whenFalse =>
      let first := condition.recast choice k
      let second := whenTrue.recast choice first.2
      exact Traversal.rebuilt (.expr (.conditional s first.1 second.1 (whenFalse.recast choice second.2).1)) rfl rfl rfl rfl rfl
    | call s callee args =>
      let first := callee.recast choice k
      have parts : walkAll (recastNode choice) (.expr callee :: args.map .expr) k =
          (.expr first.1 :: (recastExprs choice args first.2).1.map .expr, (recastExprs choice args first.2).2) := by
        change (_ :: (walkAll _ (args.map .expr) first.2).1, (walkAll _ (args.map .expr) first.2).2) = _
        rw [recast_all_exprs]
      exact Traversal.rebuilt (.expr (.call s first.1 (recastExprs choice args first.2).1)) parts rfl rfl (List.append_nil _).symm rfl
    | fieldRef s object target =>
      cases object with
      | none => exact Traversal.rebuilt (.expr (.fieldRef s none target)) rfl rfl rfl rfl rfl
      | some object => exact Traversal.rebuilt (.expr (.fieldRef s (some (object.recast choice k).1) target)) rfl rfl rfl rfl rfl
  | stmt s =>
    cases s with
    | expression s value => exact Traversal.rebuilt (.stmt (.expression s (value.recast choice k).1)) rfl rfl rfl rfl rfl
    | declare s target init =>
      cases init with
      | none => exact Traversal.rebuilt (.stmt (.declare s target none)) rfl rfl rfl rfl rfl
      | some init => exact Traversal.rebuilt (.stmt (.declare s target (some (init.recast choice k).1))) rfl rfl rfl rfl rfl
    | ret s value =>
      cases value with
      | none => exact Traversal.rebuilt (.stmt (.ret s none)) rfl rfl rfl rfl rfl
      | some value => exact Traversal.rebuilt (.stmt (.ret s (some (value.recast choice k).1))) rfl rfl rfl rfl rfl
    | branch s condition body alternative =>
      let first := condition.recast choice k
      let second := body.recast choice first.2
      cases alternative with
      | none => exact Traversal.rebuilt (.stmt (.branch s first.1 second.1 none)) rfl rfl rfl rfl rfl
      | some alternative =>
        exact Traversal.rebuilt (.stmt (.branch s first.1 second.1 (some (alternative.recast choice second.2).1)))
          rfl rfl rfl rfl rfl
    | loop s condition body =>
      let first := condition.recast choice k
      exact Traversal.rebuilt (.stmt (.loop s first.1 (body.recast choice first.2).1)) rfl rfl rfl rfl rfl
    | foreach s target items body =>
      let first := items.recast choice k
      exact Traversal.rebuilt (.stmt (.foreach s target first.1 (body.recast choice first.2).1)) rfl rfl rfl rfl rfl
  | block b =>
    cases b with
    | mk s statements =>
      exact Traversal.rebuilt (.block (.mk s (recastStmts choice statements k).1)) rfl (recast_all_stmts choice statements k) rfl rfl rfl
  | function f => exact Traversal.rebuilt (.function { f with body := (f.body.recast choice k).1 }) rfl rfl rfl rfl rfl
  | file f =>
    obtain ⟨site, path, declarations, literals, functions, main⟩ := f
    let first := recastFunctions choice functions k
    cases main with
    | none =>
      exact Traversal.rebuilt (.file ⟨site, path, declarations, literals, first.1, none⟩) rfl
        (recast_all_functions choice functions [] k) rfl rfl rfl
    | some main =>
      exact Traversal.rebuilt (.file ⟨site, path, declarations, literals, first.1, some (main.recast choice first.2).1⟩) rfl
        (recast_all_functions choice functions [.block main] k) rfl rfl rfl

end

-- Scopes do not matter here, so that the children are just gone through one after another.
theorem recast_rebuilt (choice : Expr → Option Test) (n m : Node) (k k' : NodeId) (outline : m.outline = n.outline)
    (parts : walkAll (recastNode choice) n.children k = (m.children, k')) :
    recastNode choice n k = (recasting choice).close n m k' := by
  obtain ⟨m', outline', children, closed⟩ := recast_keeps choice n k
  have all : (recasting choice).parts (recastNode choice) n k = (m.children, k') := by
    rw [← scope_outside, walk_all_append] at parts
    exact parts
  rw [all] at children closed
  rw [closed, eq_of_outline m' m (outline'.trans outline.symm) children]

def Node.path? (n : Node) : Option Path := n.expr?.bind Expr.path

-- A path depends on the outline of an expression and on the paths of its parts.
theorem path_of_outline (m n : Node) (outline : m.outline = n.outline)
    (parts : m.children.map Node.path? = n.children.map Node.path?) : m.path? = n.path? := by
  rcases expr_of_outline m n outline with ⟨out, e, rfl, rfl⟩ | ⟨left, right⟩
  · cases e with
    | cast s operand target origin =>
      cases out <;> cases outline
      cases origin with
      | none => rfl
      | some origin => exact List.head_eq_of_cons_eq parts
    | property s object name =>
      cases out <;> cases outline
      exact congrArg (Option.map (Path.property · name)) (List.head_eq_of_cons_eq parts)
    | map s entries =>
      cases out with
      | map => rfl
      | _ => cases outline
    | _ =>
      cases out <;> cases outline
      rfl
  · rw [Node.path?, Node.path?, left, right]

theorem place_path (choice : Expr → Option Test) (e out : Expr) (n : NodeId) :
    (place choice e out n).1.path = out.path := by
  cases decided : choice e with
  | none => rw [place_none choice e out n decided]
  | some t => rw [place_some choice e out n t decided, Expr.path]

def pathsTour (choice : Expr → Option Test) : Tour (recasting choice) (recastNode choice) where
  Before _ _ := True
  Inside _ _ done outs _ := outs.map Node.path? = done.map Node.path?
  Outside n _ done outs _ := outs.map Node.path? = (n.scope ++ done).map Node.path?
  After n _ out _ := out.path? = n.path?
  enter _ _ _ := rfl
  inside _ _ _ _ _ _ _ _ now := by
    refine ⟨trivial, fun after => ?_⟩
    simp only [List.map_append, List.map_cons, List.map_nil, now, after]
  leave n _ outs _ now := by rw [List.append_nil, now]
  outside _ _ _ _ _ _ _ _ now := by
    refine ⟨trivial, fun after => ?_⟩
    simp only [List.map_append, List.map_cons, List.map_nil, List.append_assoc, now, after]
  close n k m q now outline := by
    rw [scope_outside] at now
    have same := path_of_outline m n outline now
    rcases expr_of_outline m n outline with ⟨out, e, rfl, rfl⟩ | ⟨left, _⟩
    · exact (place_path choice e out q).trans same
    · rw [close_other choice n m left]
      exact same

theorem recast_path (choice : Expr → Option Test) (n : Node) (k : NodeId) : (recastNode choice n k).1.path? = n.path? :=
  (pathsTour choice).node (recast_keeps choice) n k trivial

theorem recast_paths (choice : Expr → Option Test) (ns : List Node) (k : NodeId) :
    (walkAll (recastNode choice) ns k).1.map Node.path? = ns.map Node.path? := by
  induction ns generalizing k with
  | nil => rfl
  | cons n rest ih => exact congrArg₂ List.cons (recast_path choice n k) (ih _)

end Typeflow
