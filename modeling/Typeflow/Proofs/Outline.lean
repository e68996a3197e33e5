import Typeflow.Proofs.Tree

set_option autoImplicit false

namespace Typeflow

def blankExpr : Expr := .literal ⟨0, none⟩ .null

def blankBlock : Block := .mk ⟨0, none⟩ []

def Expr.outline : Expr → Expr
  | .array s _ => .array s []
  -- keys belong to the literal, only the values are children
  | .map s entries => .map s (entries.map fun entry => (entry.1, blankExpr))
  | .lambda s params returns _ => .lambda s params returns blankBlock
  | .instanceOf s _ check => .instanceOf s blankExpr check
  | .cast s _ target origin => .cast s blankExpr target origin
  | .binary s op _ _ => .binary s op blankExpr blankExpr
  | .unary s op _ => .unary s op blankExpr
  | .conditional s _ _ _ => .conditional s blankExpr blankExpr blankExpr
  | .property s _ name => .property s blankExpr name
  | .call s _ _ => .call s blankExpr []
  | .fieldRef s _ target => .fieldRef s none target
  | e => e

def Stmt.outline : Stmt → Stmt
  | .expression s _ => .expression s blankExpr
  | .declare s target _ => .declare s target none
  | .ret s _ => .ret s none
  | .branch s _ _ _ => .branch s blankExpr blankBlock none
  | .loop s _ _ => .loop s blankExpr blankBlock
  | .foreach s target _ _ => .foreach s target blankExpr blankBlock

def Node.outline : Node → Node
  | .file f => .file { f with functions := [], main := none }
  | .function f => .function { f with body := blankBlock }
  | .block b => .block (.mk b.site [])
  | .stmt s => .stmt s.outline
  | .expr e => .expr e.outline

theorem outline_site (n : Node) : n.outline.site = n.site := by
  cases n with
  | stmt s => cases s <;> rfl
  | expr e => cases e <;> rfl
  | _ => rfl

theorem site_of_outline (a b : Node) (same : a.outline = b.outline) : a.site = b.site := by
  rw [← outline_site a, same, outline_site]

theorem id_of_outline (a b : Node) (same : a.outline = b.outline) : a.id = b.id :=
  congrArg Site.id (site_of_outline a b same)

theorem expr_of_outline (a b : Node) (same : a.outline = b.outline) :
    (∃ e e', a = .expr e ∧ b = .expr e') ∨ a.expr? = none ∧ b.expr? = none := by
  cases a with
  | expr e =>
    cases b with
    | expr e' => exact .inl ⟨e, e', rfl, rfl⟩
    | _ => cases same
  | _ =>
    cases b with
    | expr e' => cases same
    | _ => exact .inr ⟨rfl, rfl⟩

theorem implicit_of_outline (a b : Node) (same : a.outline = b.outline) : a.implicit = b.implicit := by
  have own : ∀ n : Node, n.outline.implicit = n.implicit := by
    intro n
    cases n with
    | expr e =>
      cases e with
      | cast s operand target origin => cases origin <;> rfl
      | _ => rfl
    | _ => rfl
  rw [← own a, same, own]

theorem test_of_outline (n : Node) (s : Site) (operand : Expr) (check : Ty)
    (same : (Node.expr (.instanceOf s operand check)).outline = n.outline) :
    ∃ former, n = .expr (.instanceOf s former check) := by
  cases n with
  | expr e =>
    cases e with
    | instanceOf s' former check' =>
      cases same
      exact ⟨former, rfl⟩
    | _ => cases same
  | _ => cases same

theorem outline_of_keys (s : Site) {entries others : List (String × Expr)}
    (keys : entries.map Prod.fst = others.map Prod.fst) :
    (Node.expr (.map s entries)).outline = (Node.expr (.map s others)).outline := by
  have blank : ∀ items : List (String × Expr),
      (items.map fun entry => (entry.1, blankExpr)) = (items.map Prod.fst).map fun key => (key, blankExpr) := by
    intro items
    rw [List.map_map]
    rfl
  simp only [Node.outline, Expr.outline, blank, keys]

theorem expr_nodes_inj (items others : List Expr) (same : items.map Node.expr = others.map .expr) : items = others :=
  List.map_injective_iff.mpr (fun _ _ => Node.expr.inj) same

theorem entries_eq (entries others : List (String × Expr)) (keys : entries.map Prod.fst = others.map Prod.fst)
    (values : (entries.map fun entry => Node.expr entry.2) = others.map fun entry => .expr entry.2) : entries = others := by
  have values : entries.map Prod.snd = others.map Prod.snd := by
    apply expr_nodes_inj
    simpa [Function.comp_def] using values
  rw [← List.zip_unzip entries, ← List.zip_unzip others, List.unzip_eq_map, List.unzip_eq_map, keys, values]

theorem optional_eq {α : Type} (node : α → Node) (injective : Function.Injective node) (a b : Option α)
    (same : a.toList.map node = b.toList.map node) : a = b := by
  cases a <;> cases b <;> simp_all [injective.eq_iff]

theorem expr_eq_of_outline (a b : Expr) (outline : a.outline = b.outline) (children : a.children = b.children) : a = b := by
  cases a with
  | array s items =>
    cases b <;> cases outline
    rw [expr_nodes_inj _ _ children]
  | map s entries =>
    cases b with
    | map s' others =>
      obtain ⟨rfl, blank⟩ := Expr.map.inj outline
      have keys : entries.map Prod.fst = others.map Prod.fst := by
        simpa [Function.comp_def] using congrArg (List.map Prod.fst) blank
      rw [entries_eq entries others keys children]
    | _ => cases outline
  | call s callee args =>
    cases b <;> cases outline
    obtain ⟨first, rest⟩ := List.cons.inj children
    rw [Node.expr.inj first, expr_nodes_inj _ _ rest]
  | fieldRef s object target =>
    cases b <;> cases outline
    rw [optional_eq _ (fun _ _ => Node.expr.inj) _ _ children]
  | literal | localRef | thisRef | staticRef =>
    cases b <;> cases outline
    rfl
  | _ =>
    cases b <;> cases outline
    cases children
    rfl

theorem stmt_eq_of_outline (a b : Stmt) (outline : a.outline = b.outline) (children : a.children = b.children) : a = b := by
  cases a with
  | declare s target init =>
    cases b <;> cases outline
    rw [optional_eq _ (fun _ _ => Node.expr.inj) _ _ children]
  | ret s value =>
    cases b <;> cases outline
    rw [optional_eq _ (fun _ _ => Node.expr.inj) _ _ children]
  | branch s condition body alternative =>
    cases b with
    | branch s' condition' body' alternative' =>
      cases outline
      cases alternative <;> cases alternative' <;> cases children <;> rfl
    | _ => cases outline
  | _ =>
    cases b <;> cases outline
    cases children
    rfl

def Node.function? : Node → Option Function
  | .function f => some f
  | _ => none

theorem eq_of_outline (a b : Node) (outline : a.outline = b.outline) (children : a.children = b.children) : a = b := by
  cases a with
  | file f =>
    cases b with
    | file g =>
      obtain ⟨site, path, declarations, literals, functions, main⟩ := f
      obtain ⟨site', path', declarations', literals', functions', main'⟩ := g
      cases outline
      -- functions and the main block are nodes of different sorts, so the children tell them apart
      have functions : functions = functions' := by
        simpa [Node.children, Node.function?, Function.comp_def] using congrArg (List.filterMap Node.function?) children
      subst functions
      have main : main = main' := optional_eq _ (fun _ _ => Node.block.inj) _ _ (List.append_cancel_left children)
      rw [main]
    | _ => cases outline
  | function f =>
    cases b with
    | function g =>
      obtain ⟨site, name, params, returns, body⟩ := f
      obtain ⟨site', name', params', returns', body'⟩ := g
      cases outline
      cases children
      rfl
    | _ => cases outline
  | block body =>
    cases b with
    | block body' =>
      obtain ⟨site, statements⟩ := body
      obtain ⟨site', statements'⟩ := body'
      cases outline
      have statements : statements = statements' := List.map_injective_iff.mpr (fun _ _ => Node.stmt.inj) children
      rw [statements]
    | _ => cases outline
  | stmt s =>
    cases b with
    | stmt s' => rw [stmt_eq_of_outline s s' (Node.stmt.inj outline) children]
    | _ => cases outline
  | expr e =>
    cases b with
    | expr e' => rw [expr_eq_of_outline e e' (Node.expr.inj outline) children]
    | _ => cases outline

end Typeflow
