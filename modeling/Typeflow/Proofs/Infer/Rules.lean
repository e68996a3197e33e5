import Typeflow.Infer.Strategy
import Typeflow.Proofs.Tree

set_option autoImplicit false

namespace Typeflow

mutual

-- What a block returns itself, without the returns of lambdas in it.
def Block.returned : Block → List Expr
  | .mk _ statements => returnedAll statements

def returnedAll : List Stmt → List Expr
  | [] => []
  | s :: rest => s.returned ++ returnedAll rest

def Stmt.returned : Stmt → List Expr
  | .expression .. => []
  | .declare .. => []
  | .ret _ value => value.toList
  | .branch _ _ body none => body.returned
  | .branch _ _ body (some alternative) => body.returned ++ alternative.returned
  | .loop _ _ body => body.returned
  | .foreach _ _ _ body => body.returned

end

mutual

theorem returned_below (b : Block) (e : Expr) (member : e ∈ b.returned) : .expr e ∈ (Node.block b).nodes := by
  cases b with
  | mk s statements =>
    obtain ⟨st, listed, below⟩ := returned_all_below statements e member
    exact mem_nodes_child _ (.stmt st) _ (List.mem_map_of_mem listed) below

theorem returned_all_below (statements : List Stmt) (e : Expr) (member : e ∈ returnedAll statements) :
    ∃ s ∈ statements, .expr e ∈ (Node.stmt s).nodes := by
  cases statements with
  | nil => cases member
  | cons s rest =>
    rcases List.mem_append.mp member with here | later
    · exact ⟨s, List.mem_cons_self, stmt_returned_below s e here⟩
    · obtain ⟨st, listed, below⟩ := returned_all_below rest e later
      exact ⟨st, List.mem_cons_of_mem s listed, below⟩

theorem stmt_returned_below (s : Stmt) (e : Expr) (member : e ∈ s.returned) : .expr e ∈ (Node.stmt s).nodes := by
  cases s with
  | expression s value => cases member
  | declare s target init => cases member
  | ret s value =>
    cases value with
    | none => cases member
    | some value =>
      obtain rfl := List.mem_singleton.mp member
      exact mem_nodes_child _ (.expr e) _ List.mem_cons_self (mem_nodes_self _)
  | branch s condition body alternative =>
    cases alternative with
    | none => exact mem_nodes_child _ (.block body) _ (by simp [Node.children, Stmt.children]) (returned_below body e member)
    | some alternative =>
      rcases List.mem_append.mp member with first | second
      · exact mem_nodes_child _ (.block body) _ (by simp [Node.children, Stmt.children]) (returned_below body e first)
      · exact mem_nodes_child _ (.block alternative) _ (by simp [Node.children, Stmt.children])
          (returned_below alternative e second)
  | loop s condition body =>
    exact mem_nodes_child _ (.block body) _ (by simp [Node.children, Stmt.children]) (returned_below body e member)
  | foreach s target items body =>
    exact mem_nodes_child _ (.block body) _ (by simp [Node.children, Stmt.children]) (returned_below body e member)

end

-- What the statements in a node return, and of a lambda those in its body.
def Node.returned : Node → List Expr
  | .expr (.lambda _ _ _ body) => body.returned
  | .stmt s => s.returned
  | .block b => b.returned
  | .function f => f.body.returned
  | .file f => f.main.toList.flatMap Block.returned
  | _ => []

-- Expressions whose types a node hands on to the node above it.
def Node.handed : Node → List Expr
  | .stmt s => s.returned
  | .block b => b.returned
  | _ => []

theorem handed_below (n : Node) (e : Expr) (member : e ∈ n.handed) : .expr e ∈ n.nodes := by
  cases n with
  | stmt s => exact stmt_returned_below s e member
  | block b => exact returned_below b e member
  | _ => cases member

def Node.binders : Node → List Local
  | .expr (.lambda _ params _ _) => params
  | .stmt (.declare _ target _) => [target]
  | .stmt (.foreach _ target _ _) => [target]
  | .function f => f.params
  | _ => []

namespace Infer

def common (ds : Declarations) (a b : Ty) : Ty := (commonType? ds a b).getD .any

def joined (ds : Declarations) : List Ty → Ty
  | [] => .void
  | t :: rest => rest.foldl (common ds) t

def elementOf (decl : DeclId) (expected : Ty) : List Ty → Ty
  | [] => (soleArg? decl expected).getD .any
  | t :: rest => if rest.all (t.equal ·) then t else .any

def Registered (decl : Option DeclId) (t : Ty) : Prop := ∃ d, decl = some d ∧ t = .cls d []

def HasClass (decl : Option DeclId) (t : Ty) : Prop := ∃ d args, decl = some d ∧ t = .cls d args

def booleanOperators : List String := ["&&", "||", "==", "!=", "===", "!==", "<", ">", "<=", ">="]

def arithmeticOperators : List String := ["-", "*", "/", "%"]

inductive BinaryTyped (literals : LiteralTypes) (left right : Ty) : String → Ty → Prop
  | assignment : BinaryTyped literals left right "=" left
  | boolean (op : String) (t : Ty) (listed : op ∈ booleanOperators) (registered : Registered literals.boolean t) :
      BinaryTyped literals left right op t
  | concatenation (t : Ty) (text : HasClass literals.string left ∨ HasClass literals.string right)
      (registered : Registered literals.string t) : BinaryTyped literals left right "+" t
  | addition (t : Ty) (noText : ¬ (HasClass literals.string left ∨ HasClass literals.string right))
      (registered : Registered literals.numeric t) : BinaryTyped literals left right "+" t
  | arithmetic (op : String) (t : Ty) (listed : op ∈ arithmeticOperators) (registered : Registered literals.numeric t) :
      BinaryTyped literals left right op t

inductive UnaryTyped (literals : LiteralTypes) : String → Ty → Prop
  | negation (t : Ty) (registered : Registered literals.boolean t) : UnaryTyped literals "!" t
  | sign (op : String) (t : Ty) (listed : op ∈ ["-", "+"]) (registered : Registered literals.numeric t) :
      UnaryTyped literals op t

-- What a class is declared with; one that is not declared has no parameters.
def ParamsOf (ds : Declarations) (decl : DeclId) (params : List String) : Prop :=
  (∃ c, ds.class? decl = some c ∧ params = c.typeParams) ∨ ds.class? decl = none ∧ params = []

-- The rule of a kind of expression: the expression has type `t`.
def Rule (ctx : Context) (notes : Annotations) : Expr → Ty → Prop
  | .literal _ (.string _), t => Registered ctx.literals.string t
  | .literal _ (.numeric _), t => Registered ctx.literals.numeric t
  | .literal _ (.boolean _), t => Registered ctx.literals.boolean t
  | .literal _ .null, t => t = .any
  | .array s items, t => ∃ d, ctx.literals.array = some d ∧
    t = .cls d [elementOf d (notes.expected s.id) (items.map fun e => notes.actual e.id)]
  | .map s entries, t => ∃ d, ctx.literals.map = some d ∧
    t = .cls d [elementOf d (notes.expected s.id) (entries.map fun entry => notes.actual entry.2.id)]
  | .lambda _ params returns body, t =>
    t = .lambda (params.map fun l => (l.name, notes.ofLocal l.id))
      (returns.orElse (joined ctx.declarations (body.returned.map fun e => notes.actual e.id)))
  | .instanceOf .., t => Registered ctx.literals.boolean t
  | .cast _ _ target _, t => t = target
  | .binary _ op left right, t => BinaryTyped ctx.literals (notes.actual left.id) (notes.actual right.id) op t
  | .unary _ op _, t => UnaryTyped ctx.literals op t
  | .conditional _ _ whenTrue whenFalse, t =>
    t = common ctx.declarations (notes.actual whenTrue.id) (notes.actual whenFalse.id)
  | .property _ object name, t =>
    notes.actual object.id = .any ∧ t = .any ∨ notes.actual object.id ≠ .any ∧
      ∃ found, ctx.declarations.member? (notes.actual object.id) name = some found ∧ t = found.type
  | .call _ callee args, t =>
    notes.actual callee.id = .any ∧ t = .any ∨ ∃ params result, notes.actual callee.id = .lambda params result ∧
      params.length = args.length ∧ t = result.orElse .void
  | .localRef _ target, t => t = notes.ofLocal target.id
  | .fieldRef _ none target, t => t = target.type
  | .fieldRef _ (some object) target, t =>
    t = target.type.substitute (ctx.declarations.bindings (notes.actual object.id))
  | .thisRef _ decl, t => ∃ params, ParamsOf ctx.declarations decl params ∧ t = .cls decl (params.map .generic)
  | .staticRef _ decl, t => ∃ params, ParamsOf ctx.declarations decl params ∧ t = .cls decl (params.map .generic)

-- All locals that a node binds have a type, and an expression has one that its rule allows.
structure Typed (ctx : Context) (notes : Annotations) (n : Node) : Prop where
  binders : ∀ l ∈ n.binders, notes.ofLocal l.id ≠ .unknown
  known : ∀ e, n = .expr e → notes.actual e.id ≠ .unknown
  rule : ∀ e, n = .expr e → Rule ctx notes e (notes.actual e.id)

def Derivation (ctx : Context) (notes : Annotations) (n : Node) : Prop := ∀ m ∈ n.nodes, Typed ctx notes m

theorem derivation_of (ctx : Context) (notes : Annotations) (n : Node) (own : Typed ctx notes n)
    (parts : ∀ c ∈ n.children, Derivation ctx notes c) : Derivation ctx notes n := by
  intro m below
  rcases (mem_nodes_iff n m).mp below with rfl | ⟨c, child, below⟩
  · exact own
  · exact parts c child m below

structure Kept (ids : List NodeId) (notes notes' : Annotations) : Prop where
  actual : ∀ id ∈ ids, notes'.actual id = notes.actual id
  expected : ∀ id ∈ ids, notes'.expected id = notes.expected id
  locals : ∀ id, notes.ofLocal id ≠ .unknown → notes'.ofLocal id = notes.ofLocal id

theorem rule_stable (ctx : Context) (notes notes' : Annotations) (e : Expr) (t : Ty)
    (kept : Kept (Node.expr e).ids notes notes') (bound : ∀ l ∈ (Node.expr e).binders, notes.ofLocal l.id ≠ .unknown)
    (known : t ≠ .unknown) (rule : Rule ctx notes e t) : Rule ctx notes' e t := by
  have below : ∀ m ∈ (Node.expr e).nodes, notes'.actual m.id = notes.actual m.id := fun m member =>
    kept.actual m.id (mem_ids_of_mem_nodes _ m member)
  have part : ∀ c, .expr c ∈ (Node.expr e).children → notes'.actual c.id = notes.actual c.id := fun c child =>
    below (.expr c) (mem_nodes_child _ (.expr c) _ child (mem_nodes_self _))
  have self : notes'.expected e.id = notes.expected e.id := kept.expected e.id (mem_ids_of_mem_nodes _ _ (mem_nodes_self _))
  cases e with
  | array s items =>
    have same : (items.map fun c => notes'.actual c.id) = items.map fun c => notes.actual c.id :=
      List.map_congr_left fun c listed => part c (List.mem_map_of_mem listed)
    rw [Rule, same, show notes'.expected s.id = notes.expected s.id from self]
    exact rule
  | map s entries =>
    have same : (entries.map fun entry => notes'.actual entry.2.id) = entries.map fun entry => notes.actual entry.2.id :=
      List.map_congr_left fun entry listed => part entry.2 (List.mem_map.mpr ⟨entry, listed, rfl⟩)
    rw [Rule, same, show notes'.expected s.id = notes.expected s.id from self]
    exact rule
  | lambda s params returns body =>
    have params : (params.map fun l => (l.name, notes'.ofLocal l.id)) = params.map fun l => (l.name, notes.ofLocal l.id) :=
      List.map_congr_left fun l listed => by rw [kept.locals l.id (bound l listed)]
    have returned : (body.returned.map fun c => notes'.actual c.id) = body.returned.map fun c => notes.actual c.id :=
      List.map_congr_left fun c listed =>
        below (.expr c) (mem_nodes_child _ (.block body) _ List.mem_cons_self (returned_below body c listed))
    rw [Rule, params, returned]
    exact rule
  | binary s op left right =>
    rw [Rule, part left (by simp [Node.children, Expr.children]), part right (by simp [Node.children, Expr.children])]
    exact rule
  | conditional s condition whenTrue whenFalse =>
    rw [Rule, part whenTrue (by simp [Node.children, Expr.children]), part whenFalse (by simp [Node.children, Expr.children])]
    exact rule
  | property s object name =>
    rw [Rule, part object (by simp [Node.children, Expr.children])]
    exact rule
  | call s callee args =>
    rw [Rule, part callee (by simp [Node.children, Expr.children])]
    exact rule
  | localRef s target =>
    -- a reference has the type of its local only once that is known, and from then on it stays
    have typed : notes.ofLocal target.id ≠ .unknown := fun unknown => known (rule.trans unknown)
    rw [Rule, kept.locals target.id typed]
    exact rule
  | fieldRef s object target =>
    cases object with
    | none => exact rule
    | some object =>
      rw [Rule, part object (by simp [Node.children, Expr.children])]
      exact rule
  | literal s value => cases value <;> exact rule
  | _ => exact rule

theorem derivation_stable (ctx : Context) (notes notes' : Annotations) (n : Node) (kept : Kept n.ids notes notes')
    (derived : Derivation ctx notes n) : Derivation ctx notes' n := by
  intro m below
  have own := derived m below
  have inner : ∀ id ∈ m.ids, id ∈ n.ids := ((nodes_sublist n m below).map Node.id).subset
  have keptBelow : Kept m.ids notes notes' :=
    ⟨fun id member => kept.actual id (inner id member), fun id member => kept.expected id (inner id member), kept.locals⟩
  refine ⟨fun l bound => ?_, ?_, ?_⟩
  · rw [kept.locals l.id (own.binders l bound)]
    exact own.binders l bound
  all_goals
    rintro e rfl
    rw [kept.actual e.id (mem_ids_of_mem_nodes n _ below)]
  · exact own.known e rfl
  · exact rule_stable ctx notes notes' e _ keptBelow own.binders (own.known e rfl) (own.rule e rfl)

end Infer

end Typeflow
