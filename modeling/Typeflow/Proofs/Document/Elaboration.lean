import Typeflow.Proofs.Document.Scoping
import Typeflow.Proofs.Infer.Rules

set_option autoImplicit false

namespace Typeflow

def Node.target? : Node → Option Local
  | .expr (.localRef _ target) => some target
  | _ => none

def Node.isBlock : Node → Bool
  | .block _ => true
  | _ => false

def Node.locals (n : Node) : List Local := n.nodes.flatMap Node.binders

theorem locals_eq (n : Node) : n.locals = n.binders ++ n.children.flatMap Node.locals := by
  rw [Node.locals, nodes_eq, List.flatMap_cons, List.flatMap_assoc]
  rfl

namespace Document

def BuildError.cause : BuildError → BuildError
  | .within _ inner => inner.cause
  | e => e

section

variable (ds : Declarations)

def Readable (src : String) : Prop := ∃ t, typeOf ds [] src = .ok t

def Checkable (src : String) : Prop := ∃ t, typeOf ds [] src = .ok t ∧ t ≠ .unknown

def ExprDoc.Fits : ExprDoc → Prop
  | .string _ value => (stringLiteral? value).isSome
  | .number _ value => (numericLiteral? value).isSome
  | .boolean _ value => (booleanLiteral? value).isSome
  | .lambda _ params returns _ => (∀ p ∈ params, Readable ds p.type) ∧ Readable ds returns
  | .arrow _ params returns _ => (∀ p ∈ params, Readable ds p.type) ∧ Readable ds returns
  | .instanceOf _ _ type => Checkable ds type
  | .cast _ _ type => Checkable ds type
  | .field _ cls name _ => ∃ c, ds.classNamed? cls = some c ∧ (c.fields.find? (·.name == name)).isSome
  | .this _ cls => (ds.classNamed? cls).isSome
  | .static _ cls => (ds.classNamed? cls).isSome
  | .unrecognized _ => False
  | _ => True

def StmtDoc.Fits : StmtDoc → Prop
  | .declare _ _ type _ => Readable ds type
  | .foreach _ _ type _ _ => Readable ds type
  | .unrecognized _ => False
  | _ => True

def Piece.Fits : Piece → Prop
  | .function doc => (∀ p ∈ doc.params, Readable ds p.type) ∧ Readable ds doc.returns
  | .stmt doc => doc.Fits ds
  | .expr doc => doc.Fits ds
  | _ => True

-- Nothing is wrong with the part itself. Whether names denote anything is not asked.
def Piece.Sound (piece : Piece) : Prop := (∀ o ∈ piece.operands, o.isSome) ∧ piece.Fits ds

def Piece.AllSound (piece : Piece) : Prop := ∀ p part, piece.at? p = some part → part.Sound ds

theorem all_sound_self {piece : Piece} (all : piece.AllSound ds) : piece.Sound ds := all [] piece rfl

theorem all_sound_part {piece part : Piece} {i : Nat} (all : piece.AllSound ds) (below : piece.parts[i]? = some part) :
    part.AllSound ds := by
  intro p inner found
  refine all (i :: p) inner ?_
  rw [Piece.at?, descend, below]
  exact found

end

def UnitDoc.WellFormed (unit : UnitDoc) : Prop :=
  ∃ ds literals, declarationsOf unit = .ok ds ∧ literalTypes ds unit.literals = .ok literals ∧ (Piece.unit unit).AllSound ds

def Piece.reference? : Piece → Option String
  | .expr (.ref _ name) => some name
  | _ => none

def Piece.isBlock : Piece → Bool
  | .block _ => true
  | _ => false

structure Formed (ds : Declarations) (piece : Piece) (n : Node) : Prop where
  block : n.isBlock = piece.isBlock
  whole : ds.Whole → n.Whole
  explicit : n.implicit = false

-- The node is made from the part: it refers to what the scope says, and its own parts see in
-- addition what is in force for them.
inductive Elaborates (ds : Declarations) : Scope → Piece → Node → Prop
  | mk (scope : Scope) (piece : Piece) (n : Node) (sound : piece.Sound ds) (formed : Formed ds piece n)
      (refers : n.target?.map some = piece.reference?.map scope.find?)
      (slots : n.slots.map (Option.map Local.heading) = piece.slots) (lengths : n.children.length = piece.parts.length)
      (parts : ∀ i part c, piece.parts[i]? = some part → n.children[i]? = some c →
        Elaborates ds (opened n.slots (piece.reach i) ++ scope) part c) : Elaborates ds scope piece n

theorem part_exists {piece : Piece} {n c : Node} {i : Nat} (lengths : n.children.length = piece.parts.length)
    (there : n.children[i]? = some c) : ∃ part, piece.parts[i]? = some part :=
  ⟨_, List.getElem?_eq_getElem (lengths ▸ (List.getElem?_eq_some_iff.mp there).1)⟩

structure Fresh (first next : LocalId) (ls : List Local) : Prop where
  le : first ≤ next
  within : ∀ l ∈ ls, first ≤ l.id ∧ l.id < next
  nodup : (ls.map Local.id).Nodup

namespace Fresh

variable {a b c : LocalId} {ls ms : List Local}

theorem nothing (a : LocalId) : Fresh a a [] := ⟨Nat.le_refl a, by simp, by simp⟩

theorem append (first : Fresh a b ls) (second : Fresh b c ms) : Fresh a c (ls ++ ms) := by
  refine ⟨Nat.le_trans first.le second.le, fun l member => ?_, ?_⟩
  · rcases List.mem_append.mp member with early | late
    · exact ⟨(first.within l early).1, Nat.lt_of_lt_of_le (first.within l early).2 second.le⟩
    · exact ⟨Nat.le_trans first.le (second.within l late).1, (second.within l late).2⟩
  · rw [List.map_append, List.nodup_append]
    refine ⟨first.nodup, second.nodup, ?_⟩
    simp only [List.mem_map]
    rintro _ ⟨l, early, rfl⟩ _ ⟨m, late, rfl⟩
    exact Nat.ne_of_lt (Nat.lt_of_lt_of_le (first.within l early).2 (second.within m late).1)

theorem swap (both : Fresh a b (ls ++ ms)) : Fresh a b (ms ++ ls) := by
  refine ⟨both.le, fun l member => both.within l (List.mem_append.mpr (List.mem_append.mp member).symm), ?_⟩
  rw [List.map_append, List.nodup_append_comm, ← List.map_append]
  exact both.nodup

end Fresh

-- The nodes are made from the parts, with numbers and locals of their own.
structure Bound (ds : Declarations) (scope : Scope) (s s' : Supply) (pieces : List Piece) (ns : List Node) : Prop where
  elaborated : List.Forall₂ (Elaborates ds scope) pieces ns
  fresh : Fresh s.next s'.next (ns.flatMap Node.locals)
  grown : Grown s s' ns

section

variable {ds : Declarations} {scope inner : Scope} {s s₁ s₂ : Supply}

namespace Bound

variable {pieces pieces' : List Piece} {ns ns' : List Node} {piece : Piece} {n : Node}

theorem nothing (s : Supply) : Bound ds scope s s [] [] := ⟨.nil, .nothing s.next, .nothing rfl id⟩

theorem append (first : Bound ds scope s s₁ pieces ns) (second : Bound ds scope s₁ s₂ pieces' ns') :
    Bound ds scope s s₂ (pieces ++ pieces') (ns ++ ns') := by
  refine ⟨List.rel_append first.elaborated second.elaborated, ?_, first.grown.append second.grown⟩
  rw [List.flatMap_append]
  exact first.fresh.append second.fresh

theorem elaborates (parts : Bound ds scope s s₁ piece.parts n.children) (sound : piece.Sound ds) (formed : Formed ds piece n)
    (plain : piece.reference? = none) (plain' : n.target? = none) (empty : piece.slots = []) (empty' : n.slots = []) :
    Elaborates ds scope piece n := by
  refine .mk scope piece n sound formed ?_ ?_ parts.elaborated.length_eq.symm ?_
  · rw [plain, plain']
    rfl
  · rw [empty, empty']
    rfl
  · intro i part child below below'
    have unopened : opened n.slots (piece.reach i) = [] := by simp [opened, empty']
    rw [unopened, List.nil_append]
    obtain ⟨inside, rfl⟩ := List.getElem?_eq_some_iff.mp below
    obtain ⟨inside', rfl⟩ := List.getElem?_eq_some_iff.mp below'
    exact parts.elaborated.get inside inside'

theorem node (parts : Bound ds scope { s with node := s.node + 1 } s₁ piece.parts n.children) (id : n.id = s.node)
    (sound : piece.Sound ds) (formed : Formed ds piece n := by exact ⟨rfl, fun _ => trivial, rfl⟩)
    (plain : piece.reference? = none := by rfl) (plain' : n.target? = none := by rfl)
    (empty : piece.slots = [] := by rfl) (empty' : n.slots = [] := by rfl) (unbound : n.binders = [] := by rfl) :
    Bound ds scope s s₁ [piece] [n] := by
  refine ⟨.cons (parts.elaborates sound formed plain plain' empty empty') .nil, ?_, parts.grown.node id⟩
  rw [List.flatMap_singleton, locals_eq, unbound, List.nil_append]
  exact parts.fresh

end Bound

structure Operands (ds : Declarations) (scope : Scope) (s s' : Supply) (docs : List (Option ExprDoc)) (ns : List Node) : Prop where
  present : ∀ o ∈ docs, o.isSome
  bound : Bound ds scope s s' ((docs.filterMap id).map .expr) ns

namespace Operands

variable {docs docs' : List (Option ExprDoc)} {ns ns' : List Node} {piece : Piece} {n : Node}

theorem nothing (s : Supply) : Operands ds scope s s [] [] := ⟨by simp, .nothing s⟩

theorem single {doc : ExprDoc} {e : Expr} (bound : Bound ds scope s s₁ [.expr doc] [.expr e]) :
    Operands ds scope s s₁ [some doc] [.expr e] := ⟨by simp, bound⟩

theorem one {doc : Option ExprDoc} (operand : Operands ds scope s s₁ [doc] ns) : ∃ present, doc = some present :=
  Option.isSome_iff_exists.mp (operand.present doc List.mem_cons_self)

theorem append (first : Operands ds scope s s₁ docs ns) (second : Operands ds scope s₁ s₂ docs' ns') :
    Operands ds scope s s₂ (docs ++ docs') (ns ++ ns') := by
  refine ⟨List.forall_mem_append.mpr ⟨first.present, second.present⟩, ?_⟩
  rw [List.filterMap_append, List.map_append]
  exact first.bound.append second.bound

theorem node (parts : Operands ds scope { s with node := s.node + 1 } s₁ piece.operands n.children)
    (flat : piece.parts = (piece.operands.filterMap id).map .expr) (id : n.id = s.node) (fits : piece.Fits ds)
    (formed : Formed ds piece n := by exact ⟨rfl, fun _ => trivial, rfl⟩) (plain : piece.reference? = none := by rfl)
    (plain' : n.target? = none := by rfl) (empty : piece.slots = [] := by rfl) (empty' : n.slots = [] := by rfl)
    (unbound : n.binders = [] := by rfl) : Bound ds scope s s₁ [piece] [n] := by
  have bound := parts.bound
  rw [← flat] at bound
  exact bound.node id ⟨parts.present, fits⟩ formed plain plain' empty empty' unbound

end Operands

structure Opens (ds : Declarations) (scope : Scope) (s s' : Supply) (params : List ParamDoc) (locals : List Local)
    (inner : Scope) : Prop where
  readable : ∀ p ∈ params, Readable ds p.type
  headings : locals.map Local.heading = params.map ParamDoc.heading
  inner : inner = locals.reverse ++ scope
  fresh : Fresh s.next s'.next locals
  grown : Grown s s' []

theorem Opens.names {params : List ParamDoc} {locals : List Local} (opens : Opens ds scope s s₁ params locals inner) :
    inner.map Local.name = (opened (params.map fun p => some p.heading) (params.map fun p => some p.heading).length).map Prod.snd ++
      scope.map Local.name := by
  have filled : params.map (fun p => some p.heading) = (params.map ParamDoc.heading).map some := by simp
  rw [filled, opened_filled, ← opens.headings, opens.inner, List.map_append, ← List.map_reverse, List.map_map]
  rfl

theorem Opens.body {params : List ParamDoc} {locals : List Local} {piece : Piece} {n : Node} {body : List StmtDoc} {block : Block}
    (opens : Opens ds scope { s with node := s.node + 1 } s₁ params locals inner)
    (made : Bound ds inner s₁ s₂ [.block body] [.block block]) (id : n.id = s.node) (sound : piece.Sound ds)
    (formed : Formed ds piece n) (plain : piece.reference? = none := by rfl) (plain' : n.target? = none := by rfl)
    (parts : piece.parts = [.block body] := by rfl) (children : n.children = [.block block] := by rfl)
    (slots : piece.slots = params.map fun p => some p.heading := by rfl) (slots' : n.slots = locals.map some := by rfl)
    (binders : n.binders = locals := by rfl) (reach : piece.reach 0 = piece.slots.length := by rfl) :
    Bound ds scope s s₂ [piece] [n] := by
  have headings : n.slots.map (Option.map Local.heading) = piece.slots := by
    have filled : params.map (fun p => some p.heading) = (params.map ParamDoc.heading).map some := by simp
    rw [slots, slots', filled, ← opens.headings]
    simp
  refine ⟨.cons (.mk scope piece n sound formed ?_ headings ?_ ?_) .nil, ?_, Grown.node ?_ id⟩
  · rw [plain, plain']
    rfl
  · rw [parts, children]
    rfl
  · intro i part child below below'
    rw [parts] at below
    rw [children] at below'
    cases i with
    | zero =>
      cases below
      cases below'
      have count : piece.slots.length = n.slots.length := by rw [← headings, List.length_map]
      rw [reach, count, slots', opened_filled, ← opens.inner]
      exact (List.forall₂_cons.mp made.elaborated).1
    | succ i => simp at below
  · rw [List.flatMap_singleton, locals_eq, binders, children]
    exact opens.fresh.append made.fresh
  · rw [children]
    exact opens.grown.append made.grown

structure Row (ds : Declarations) (scope : Scope) (s s' : Supply) (docs : List StmtDoc) (statements : List Stmt) : Prop where
  headings : statements.map (fun s => s.declared?.map Local.heading) = docs.map StmtDoc.declared?
  each : ∀ i doc s, docs[i]? = some doc → statements[i]? = some s →
    Elaborates ds (opened (statements.map Stmt.declared?) i ++ scope) (.stmt doc) (.stmt s)
  fresh : Fresh s.next s'.next ((statements.map Node.stmt).flatMap Node.locals)
  grown : Grown s s' (statements.map .stmt)

namespace Row

variable {docs : List StmtDoc} {statements : List Stmt}

theorem nothing (s : Supply) : Row ds scope s s [] [] := ⟨rfl, by simp, .nothing s.next, .nothing rfl id⟩

theorem cons {doc : StmtDoc} {st : Stmt} (first : Bound ds scope s s₁ [.stmt doc] [.stmt st])
    (heading : st.declared?.map Local.heading = doc.declared?)
    (rest : Row ds (st.declared?.toList ++ scope) s₁ s₂ docs statements) : Row ds scope s s₂ (doc :: docs) (st :: statements) := by
  refine ⟨by rw [List.map_cons, List.map_cons, heading, rest.headings], ?_, ?_, first.grown.append rest.grown⟩
  · intro i doc' st' here there
    cases i with
    | zero =>
      cases here
      cases there
      exact (List.forall₂_cons.mp first.elaborated).1
    | succ i =>
      rw [List.map_cons, opened_cons, List.append_assoc]
      exact rest.each i doc' st' here there
  · rw [List.map_cons, List.flatMap_cons]
    have fresh := first.fresh
    rw [List.flatMap_singleton] at fresh
    exact fresh.append rest.fresh

theorem block (row : Row ds scope { s with node := s.node + 1 } s₁ docs statements) (site : Site) (id : site.id = s.node) :
    Bound ds scope s s₁ [.block docs] [.block (.mk site statements)] := by
  have sound : (Piece.block docs).Sound ds := ⟨by simp [Piece.operands], trivial⟩
  refine ⟨.cons (.mk scope _ _ sound ⟨rfl, fun _ => trivial, rfl⟩ rfl ?_ ?_ ?_) .nil, ?_, row.grown.node id⟩
  · simpa [Node.slots, Piece.slots, Block.statements, Function.comp_def] using row.headings
  · have lengths := congrArg List.length row.headings
    simpa [Node.children, Piece.parts, Block.statements] using lengths
  · intro i part child below below'
    obtain ⟨doc, here, rfl⟩ := Option.map_eq_some_iff.mp ((List.getElem?_map ..).symm.trans below)
    obtain ⟨s, there, rfl⟩ := Option.map_eq_some_iff.mp ((List.getElem?_map ..).symm.trans below')
    exact row.each i doc s here there
  · rw [List.flatMap_singleton, locals_eq]
    exact row.fresh

end Row

end

-- The names that the part with number `i` sees from this scope.
def Piece.visible (piece : Piece) (i : Nat) : List String := (opened piece.slots (piece.reach i)).map Prod.snd

-- Below the part stands a name that is none of those given and declared nowhere on the way.
inductive Dangling : List String → Piece → String → Prop
  | ref (names : List String) (pos : Position) (name : String) (unknown : name ∉ names) : Dangling names (.expr (.ref pos name)) name
  | part (names : List String) (piece : Piece) (i : Nat) (part : Piece) (name : String) (below : piece.parts[i]? = some part)
      (inner : Dangling (piece.visible i ++ names) part name) : Dangling names piece name

def Refused (ds : Declarations) (names : List String) (piece : Piece) (why : BuildError) : Prop :=
  piece.AllSound ds → ∃ name, why = .undefined name ∧ Dangling names piece name

def RefusedOperand (ds : Declarations) (names : List String) (docs : List (Option ExprDoc)) (why : BuildError) : Prop :=
  (∀ o ∈ docs, ∃ doc, o = some doc ∧ (Piece.expr doc).AllSound ds) →
    ∃ name, why = .undefined name ∧ ∃ doc, some doc ∈ docs ∧ Dangling names (.expr doc) name

def RefusedStatement (ds : Declarations) (names : List String) (docs : List StmtDoc) (why : BuildError) : Prop :=
  (∀ doc ∈ docs, (Piece.stmt doc).AllSound ds) → ∃ name, why = .undefined name ∧ ∃ i doc, docs[i]? = some doc ∧
    Dangling ((opened (docs.map StmtDoc.declared?) i).map Prod.snd ++ names) (.stmt doc) name

section

variable {ds : Declarations} {names : List String} {why : BuildError}

theorem refused_unfit {piece : Piece} (unfit : ¬ piece.Fits ds) :
    Refused ds names piece why :=
  fun all => absurd (all_sound_self ds all).2 unfit

theorem mem_operands_part (piece : Piece) (doc : ExprDoc) (member : some doc ∈ piece.operands) :
    ∃ i : Nat, piece.parts[i]? = some (.expr doc) ∧ piece.visible i = [] := by
  have listed : Piece.expr doc ∈ piece.parts ∧ ∀ body, piece ≠ .block body := by
    cases piece with
    | stmt | expr => exact ⟨by simpa [Piece.parts, Piece.operands] using member, nofun⟩
    | _ => simp [Piece.operands] at member
  obtain ⟨i, below⟩ := List.mem_iff_getElem?.mp listed.1
  refine ⟨i, below, ?_⟩
  -- an expression is no body, so that it sees nothing of the scope it stands in
  have unreached : piece.reach i = 0 := by
    unfold Piece.reach
    rw [below]
    cases piece with
    | block body => exact absurd rfl (listed.2 body)
    | _ => rfl
  rw [Piece.visible, unreached]
  rfl

theorem refused_operand (piece : Piece) (docs : List (Option ExprDoc)) (among : docs ⊆ piece.operands)
    (refused : RefusedOperand ds names docs why) : Refused ds names piece why := by
  intro all
  obtain ⟨name, undefined, doc, member, dangling⟩ := refused fun o member => by
    obtain ⟨doc, rfl⟩ := Option.isSome_iff_exists.mp ((all_sound_self ds all).1 o (among member))
    obtain ⟨i, below, _⟩ := mem_operands_part piece doc (among member)
    exact ⟨doc, rfl, all_sound_part ds all below⟩
  obtain ⟨i, below, none⟩ := mem_operands_part piece doc (among member)
  refine ⟨name, undefined, .part names piece i _ name below ?_⟩
  rwa [none]

theorem refused_among {docs docs' : List (Option ExprDoc)} (among : docs ⊆ docs') (refused : RefusedOperand ds names docs why) :
    RefusedOperand ds names docs' why := by
  intro all
  obtain ⟨name, undefined, doc, member, dangling⟩ := refused fun o member => all o (among member)
  exact ⟨name, undefined, doc, among member, dangling⟩

theorem refused_part (piece part : Piece) (i : Nat) (below : piece.parts[i]? = some part)
    (refused : Refused ds (piece.visible i ++ names) part why) : Refused ds names piece why := by
  intro all
  obtain ⟨name, undefined, dangling⟩ := refused (all_sound_part ds all below)
  exact ⟨name, undefined, .part names piece i part name below dangling⟩

theorem refused_statement (body : List StmtDoc) (refused : RefusedStatement ds names body why) :
    Refused ds names (.block body) why := by
  have below : ∀ (i : Nat) doc, body[i]? = some doc → (Piece.block body).parts[i]? = some (.stmt doc) := by
    intro i doc here
    rw [Piece.parts, List.getElem?_map, here]
    rfl
  intro all
  obtain ⟨name, undefined, i, doc, here, dangling⟩ := refused fun doc member => by
    obtain ⟨i, here⟩ := List.mem_iff_getElem?.mp member
    exact all_sound_part ds all (below i doc here)
  exact ⟨name, undefined, .part names _ i _ name (below i doc here) dangling⟩

end

section

variable {ds : Declarations} {names : List String} {why : BuildError} {doc : StmtDoc} {docs : List StmtDoc}

theorem refused_first (refused : Refused ds names (.stmt doc) why) : RefusedStatement ds names (doc :: docs) why := by
  intro all
  obtain ⟨name, undefined, dangling⟩ := refused (all doc List.mem_cons_self)
  exact ⟨name, undefined, 0, doc, rfl, dangling⟩

theorem refused_later (refused : RefusedStatement ds (doc.declared?.toList.map Prod.snd ++ names) docs why) :
    RefusedStatement ds names (doc :: docs) why := by
  intro all
  obtain ⟨name, undefined, i, later, here, dangling⟩ := refused fun other member => all other (List.mem_cons_of_mem _ member)
  refine ⟨name, undefined, i + 1, later, here, ?_⟩
  rwa [List.map_cons, opened_cons, List.map_append, List.append_assoc]

theorem slot_names {s : Stmt} (heading : s.declared?.map Local.heading = doc.declared?) :
    s.declared?.toList.map Local.name = doc.declared?.toList.map Prod.snd := by
  rw [← heading]
  cases s.declared? <;> rfl

-- A declaration is no scope itself: the block that it stands in is.
theorem declare_bound {scope : Scope} {s s₁ s₂ : Supply} {pos : Position} {name type : String} {init : Option ExprDoc} {site : Site}
    {target : Local} {value : Option Expr}
    (parts : Operands ds scope { s with node := s.node + 1 } s₁ (init.toList.map some) (value.toList.map .expr))
    (flat : (Piece.stmt (.declare pos name type init)).parts = ((init.toList.map some).filterMap id).map .expr)
    (id : site.id = s.node) (readable : Readable ds type) (fresh : Fresh s₁.next s₂.next [target]) (grown : Grown s₁ s₂ []) :
    Bound ds scope s s₂ [.stmt (.declare pos name type init)] [.stmt (.declare site target value)] := by
  have bound := parts.bound
  rw [← flat] at bound
  refine ⟨.cons (bound.elaborates ⟨parts.present, readable⟩ ⟨rfl, fun _ => trivial, rfl⟩ rfl rfl rfl rfl) .nil, ?_,
    Grown.node ?_ id⟩
  · rw [List.flatMap_singleton, locals_eq]
    exact (parts.bound.fresh.append fresh).swap
  · have both := bound.grown.append grown
    rwa [List.append_nil] at both

-- The items do not see the variable, the body does.
theorem foreach_bound {scope : Scope} {s s₁ s₂ s₃ : Supply} {pos : Position} {name type : String} {items : ExprDoc}
    {body : List StmtDoc} {site : Site} {e : Expr} {block : Block} {l : LocalId}
    (first : Bound ds scope { s with node := s.node + 1 } s₁ [.expr items] [.expr e]) (id : site.id = s.node)
    (readable : Readable ds type) (fresh : Fresh s₁.next s₂.next [⟨l, .loopVariable, name⟩]) (grown : Grown s₁ s₂ [])
    (made : Bound ds (⟨l, .loopVariable, name⟩ :: scope) s₂ s₃ [.block body] [.block block]) :
    Bound ds scope s s₃ [.stmt (.foreach pos name type (some items) body)]
      [.stmt (.foreach site ⟨l, .loopVariable, name⟩ e block)] := by
  have present : ∀ o ∈ [some items], o.isSome := by simp
  refine ⟨.cons (.mk scope _ _ ⟨present, readable⟩ ⟨rfl, fun _ => trivial, rfl⟩ rfl rfl rfl ?_) .nil, ?_,
    Grown.node ((first.grown.append grown).append made.grown) id⟩
  · intro i part child below below'
    match i with
    | 0 =>
      cases below
      cases below'
      exact (List.forall₂_cons.mp first.elaborated).1
    | 1 =>
      cases below
      cases below'
      exact (List.forall₂_cons.mp made.elaborated).1
    | i + 2 => cases below
  · rw [List.flatMap_singleton, locals_eq]
    have ordered := (first.fresh.append fresh).swap.append made.fresh
    simpa [Node.binders, Node.children, Stmt.children] using ordered

end

end Document

end Typeflow
