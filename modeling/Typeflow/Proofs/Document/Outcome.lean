import Typeflow.Proofs.Document.Elaboration

set_option autoImplicit false

namespace Typeflow

namespace Document

def Ends {α : Type} (s : Supply) (x : Build α) (good : α → Supply → Prop) (bad : BuildError → Prop) : Prop :=
  match x s with
  | .ok (a, s') => good a s'
  | .error e => bad e.cause

namespace Ends

variable {α β : Type} {s : Supply} {x : Build α} {f : α → Build β} {good : α → Supply → Prop} {good' : β → Supply → Prop}
  {bad bad' : BuildError → Prop}

theorem pure {a : α} (holds : good a s) : Ends s (pure a) good bad := holds

theorem fail {e : BuildError} (holds : bad e.cause) : Ends s (Document.fail e) good bad := holds

theorem bind (first : Ends s x good bad') (lift : ∀ why, bad' why → bad why)
    (second : ∀ a s', good a s' → Ends s' (f a) good' bad) : Ends s (x >>= f) good' bad := by
  change match (x s >>= fun p => f p.1 p.2 : Except BuildError (β × Supply)) with
    | .ok (b, s') => good' b s'
    | .error e => bad e.cause
  cases ran : x s with
  | error e =>
    rw [Ends, ran] at first
    exact lift _ first
  | ok p =>
    rw [Ends, ran] at first
    exact second p.1 p.2 first

theorem labelled {part : Part} (body : Ends s x good bad) : Ends s (labelled part x) good bad := by
  change match inside part (x s) with
    | .ok (a, s') => good a s'
    | .error e => bad e.cause
  cases ran : x s with
  | error e =>
    rw [Ends, ran] at body
    exact body
  | ok p =>
    rw [Ends, ran] at body
    exact body

theorem site {location : Option Location} {f : Site → Build β}
    (rest : ∀ site : Site, site.id = s.node → Ends { s with node := s.node + 1 } (f site) good' bad) :
    Ends s (freshSite location >>= f) good' bad :=
  rest ⟨s.node, location⟩ rfl

theorem imp {good₁ : α → Supply → Prop} (ends : Ends s x good bad') (better : ∀ a s', good a s' → good₁ a s')
    (lift : ∀ why, bad' why → bad why) : Ends s x good₁ bad := by
  unfold Ends at ends ⊢
  split
  next a s' ran =>
    rw [ran] at ends
    exact better a s' ends
  next e ran =>
    rw [ran] at ends
    exact lift _ ends

end Ends

section

variable (env : Surroundings)

theorem type_ends (src : String) (s : Supply) : Ends s (typeText env src)
    (fun t s' => typeOf env.declarations [] src = .ok t ∧ t.Noted ∧ s' = s) fun _ => ¬ Readable env.declarations src := by
  have run : typeText env src s = typeOf env.declarations [] src >>= fun t => pure (t, s) := rfl
  rw [Ends, run]
  cases read : typeOf env.declarations [] src with
  | ok t => exact ⟨rfl, type_of_noted env.declarations [] src t read, rfl⟩
  | error e =>
    rintro ⟨t, other⟩
    cases read.symm.trans other

theorem local_ends {β : Type} (kind : LocalKind) (name : String) (t : Ty) (noted : t.Noted) (s : Supply) {f : Local → Build β}
    {good : β → Supply → Prop} {bad : BuildError → Prop}
    (rest : ∀ s', Fresh s.next s'.next [⟨s.next, kind, name⟩] → Grown s s' [] → Ends s' (f ⟨s.next, kind, name⟩) good bad) :
    Ends s (freshLocal kind name t >>= f) good bad :=
  rest { s with next := s.next + 1, types := updated s.types s.next t } ⟨Nat.le_succ _, by simp, by simp⟩
    (.local_made s t noted)

theorem params_ends (scope : Scope) (docs : List ParamDoc) (s : Supply) :
    Ends s (params env scope docs) (fun out s' => Opens env.declarations scope s s' docs out.1 out.2)
      fun _ => ¬ ∀ p ∈ docs, Readable env.declarations p.type := by
  induction docs generalizing scope s with
  | nil => exact .pure ⟨by simp, rfl, rfl, .nothing _, .nothing rfl id⟩
  | cons doc rest ih =>
    rw [params]
    refine .bind (type_ends env doc.type s).labelled (fun _ unreadable all => unreadable (all doc (by simp))) ?_
    rintro t _ ⟨read, noted, rfl⟩
    refine local_ends .parameter doc.name t noted _ fun s' fresh grown => ?_
    refine .bind (ih _ s') (fun _ unreadable all => unreadable fun p member => all p (by simp [member])) ?_
    rintro ⟨others, inner⟩ s'' opens
    refine .pure ⟨List.forall_mem_cons.mpr ⟨⟨t, read⟩, opens.readable⟩, ?_, ?_, fresh.append opens.fresh,
      grown.append opens.grown⟩
    · rw [List.map_cons, List.map_cons, opens.headings]
      rfl
    · rw [opens.inner, List.reverse_cons, List.append_assoc]
      rfl

theorem literal_ends (value : Json) (read : Json → Option Literal) (refuse : Json → BuildError) (s : Supply) :
    Ends s (literal value read refuse) (fun _ s' => (read value).isSome ∧ s' = s) fun _ => ¬ (read value).isSome := by
  unfold literal
  cases read value with
  | some l => exact .pure ⟨rfl, rfl⟩
  | none => exact .fail Bool.false_ne_true

theorem class_ends (name : String) (s : Supply) : Ends s (classOf env name)
    (fun c s' => env.declarations.classNamed? name = some c ∧ s' = s) fun _ => ¬ (env.declarations.classNamed? name).isSome := by
  unfold classOf
  cases env.declarations.classNamed? name with
  | some c => exact .pure ⟨rfl, rfl⟩
  | none => exact .fail Bool.false_ne_true

theorem field_ends (c : Class) (name : String) (s : Supply) : Ends s (fieldOf c name)
    (fun target s' => (c.fields.find? (·.name == name)).isSome ∧ (∃ f ∈ c.fields, target.type = f.type) ∧ s' = s)
    fun _ => ¬ (c.fields.find? (·.name == name)).isSome := by
  unfold fieldOf
  cases found : c.fields.find? (·.name == name) with
  | some f => exact .pure ⟨rfl, ⟨f, List.mem_of_find?_eq_some found, rfl⟩, rfl⟩
  | none => exact .fail Bool.false_ne_true

theorem field_whole {c : Class} {name : String} {target : FieldRef} (found : env.declarations.classNamed? name = some c)
    (typed : ∃ f ∈ c.fields, target.type = f.type) (declared : env.declarations.Whole) : target.type.whole := by
  obtain ⟨f, member, same⟩ := typed
  rw [same]
  exact (declared.classes c (List.mem_of_find?_eq_some found)).fields f member

mutual

theorem expr_ends (scope : Scope) (doc : ExprDoc) (s : Supply) : Ends s (expr env scope doc)
    (fun e s' => Bound env.declarations scope s s' [.expr doc] [.expr e])
    (Refused env.declarations (scope.map Local.name) (.expr doc)) := by
  cases doc with
  | string pos value | number pos value | boolean pos value =>
    rw [expr]
    refine .site fun site number => .bind (literal_ends value _ _ _) (fun why unfit => refused_unfit unfit) ?_
    rintro l _ ⟨fits, rfl⟩
    exact .pure ((Operands.nothing _).node rfl number fits)
  | null pos =>
    rw [expr]
    exact .site fun site number => .pure ((Operands.nothing _).node rfl number trivial)
  | array pos items =>
    rw [expr]
    refine .site fun site number => .bind (exprs_end scope items _) (fun why => refused_operand _ items fun _ => id) ?_
    intro out s' parts
    exact .pure (parts.node (List.append_nil _) number trivial)
  | map pos items =>
    rw [expr]
    refine .site fun site number => ?_
    refine .bind (entries_end scope items _) (fun why => refused_operand _ (items.map Prod.snd) fun _ => id) ?_
    intro out s' parts
    exact .pure (parts.node (List.append_nil _) number trivial)
  | lambda pos ps returns body =>
    rw [expr]
    refine .site fun site number => ?_
    refine .bind (params_ends env scope ps _) (fun why unread => refused_unfit fun fits => unread fits.1) ?_
    rintro ⟨locals, inner⟩ s₁ opens
    refine .bind (type_ends env returns s₁) (fun why unread => refused_unfit fun fits => unread fits.2) ?_
    rintro t _ ⟨read, noted, rfl⟩
    refine .site fun block blockNumber => ?_
    refine .bind (stmts_end inner 0 body _) (fun why refused => ?_) fun statements s₂ row => .pure ?_
    · refine refused_part _ (.block body) 0 rfl ?_
      have names := opens.names
      rw [names] at refused
      exact refused_statement body refused
    · exact opens.body (row.block block blockNumber) number
        ⟨by simp [Piece.operands, ExprDoc.operands], opens.readable, t, read⟩ ⟨rfl, fun _ => noted, rfl⟩
  | arrow pos ps returns value =>
    rw [expr]
    refine .site fun site number => ?_
    refine .bind (params_ends env scope ps _) (fun why unread => refused_unfit fun fits => unread fits.1) ?_
    rintro ⟨locals, inner⟩ s₁ opens
    refine .bind (type_ends env returns s₁) (fun why unread => refused_unfit fun fits => unread fits.2) ?_
    rintro t _ ⟨read, noted, rfl⟩
    refine .site fun block blockNumber => .site fun ret retNumber => ?_
    refine .bind (expr_ends inner value _) (fun why refused => ?_) fun e s₂ part => .pure ?_
    · refine refused_part _ (.block [.ret pos (some value)]) 0 rfl (refused_part _ (.stmt (.ret pos (some value))) 0 rfl ?_)
      have names := opens.names
      rw [names] at refused
      exact refused_part _ (.expr value) 0 rfl refused
    · have returned : Bound env.declarations inner _ _ [.stmt (.ret pos (some value))] [.stmt (.ret ret (some e))] :=
        (Operands.single part).node rfl retNumber trivial
      have row := Row.cons returned rfl (.nothing _)
      exact opens.body (row.block block blockNumber) number
        ⟨by simp [Piece.operands, ExprDoc.operands], opens.readable, t, read⟩ ⟨rfl, fun _ => noted, rfl⟩
  | instanceOf pos operand type | cast pos operand type =>
    rw [expr]
    refine .site fun site number => .bind (operand_ends scope operand _) (fun why => refused_operand _ [operand] fun _ => id) ?_
    intro out s₁ part
    refine .bind (type_ends env type s₁) (fun why unread => refused_unfit fun ⟨t, read, _⟩ => unread ⟨t, read⟩) ?_
    rintro t _ ⟨read, noted, rfl⟩
    split
    next => exact .fail (refused_unfit fun ⟨t, read', known⟩ => known (Except.ok.inj (read'.symm.trans read)))
    next known =>
      have whole := noted_known t noted known
      exact .pure (part.node (List.append_nil _) number ⟨t, read, known⟩ ⟨rfl, fun _ => whole, rfl⟩)
  | binary pos op left right =>
    rw [expr]
    refine .site fun site number => ?_
    refine .bind (operand_ends scope left _) (fun why => refused_operand _ [left] ?_) fun l s₁ first => ?_
    · simp [Piece.operands, ExprDoc.operands]
    refine .bind (operand_ends scope right s₁) (fun why => refused_operand _ [right] ?_) fun r s₂ second => ?_
    · simp [Piece.operands, ExprDoc.operands]
    exact .pure ((first.append second).node (List.append_nil _) number trivial)
  | unary pos op operand | property pos operand name =>
    rw [expr]
    refine .site fun site number => .bind (operand_ends scope operand _) (fun why => refused_operand _ [operand] fun _ => id) ?_
    intro out s' part
    exact .pure (part.node (List.append_nil _) number trivial)
  | conditional pos condition whenTrue whenFalse =>
    rw [expr]
    refine .site fun site number => ?_
    refine .bind (operand_ends scope condition _) (fun why => refused_operand _ [condition] ?_) fun x s₁ first => ?_
    · simp [Piece.operands, ExprDoc.operands]
    refine .bind (operand_ends scope whenTrue s₁) (fun why => refused_operand _ [whenTrue] ?_) fun y s₂ second => ?_
    · simp [Piece.operands, ExprDoc.operands]
    refine .bind (operand_ends scope whenFalse s₂) (fun why => refused_operand _ [whenFalse] ?_) fun z s₃ third => ?_
    · simp [Piece.operands, ExprDoc.operands]
    exact .pure ((first.append (second.append third)).node (List.append_nil _) number trivial)
  | call pos callee args =>
    rw [expr]
    refine .site fun site number => ?_
    refine .bind (operand_ends scope callee _) (fun why => refused_operand _ [callee] ?_) fun x s₁ first => ?_
    · simp [Piece.operands, ExprDoc.operands]
    refine .bind (exprs_end scope args s₁) (fun why => refused_operand _ args ?_) fun others s₂ second => ?_
    · simp [Piece.operands, ExprDoc.operands]
    exact .pure ((first.append second).node (List.append_nil _) number trivial)
  | ref pos name =>
    rw [expr]
    refine .site fun site number => ?_
    split
    next l found =>
      have sound : (Piece.expr (.ref pos name)).Sound env.declarations := ⟨by simp [Piece.operands, ExprDoc.operands], trivial⟩
      refine .pure ⟨.cons (.mk scope _ _ sound ⟨rfl, fun _ => trivial, rfl⟩ ?_ rfl rfl ?_) .nil, .nothing _,
        .node (.nothing rfl id) number⟩
      · rw [Piece.reference?, Option.map_some, found]
        rfl
      · intro i part c below
        simp [Piece.parts, ExprDoc.operands, ExprDoc.bodies] at below
    next missing =>
      refine .fail fun _ => ⟨name, rfl, .ref _ pos name fun member => ?_⟩
      obtain ⟨l, listed, same⟩ := List.mem_map.mp member
      simpa [same] using List.find?_eq_none.mp missing l listed
  | field pos cls name object =>
    cases object with
    | none =>
      rw [expr]
      refine .site fun site number => .bind (class_ends env cls _) (fun why unfit => refused_unfit ?_) ?_
      · rintro ⟨c, found, _⟩
        simp [found] at unfit
      rintro c _ ⟨found, rfl⟩
      refine .bind (field_ends c name _) (fun why unfit => refused_unfit ?_) ?_
      · rintro ⟨c', found', listed⟩
        cases found.symm.trans found'
        exact unfit listed
      rintro target _ ⟨listed, typed, rfl⟩
      have whole := field_whole env found typed
      exact .pure ((Operands.nothing _).node rfl number ⟨c, found, listed⟩ ⟨rfl, whole, rfl⟩)
    | some object =>
      rw [expr]
      refine .site fun site number => .bind (class_ends env cls _) (fun why unfit => refused_unfit ?_) ?_
      · rintro ⟨c, found, _⟩
        simp [found] at unfit
      rintro c _ ⟨found, rfl⟩
      refine .bind (field_ends c name _) (fun why unfit => refused_unfit ?_) ?_
      · rintro ⟨c', found', listed⟩
        cases found.symm.trans found'
        exact unfit listed
      rintro target _ ⟨listed, typed, rfl⟩
      refine .bind (expr_ends scope object _) (fun why refused => refused_part _ (.expr object) 0 rfl refused) fun e s' part => ?_
      have whole := field_whole env found typed
      exact .pure ((Operands.single part).node rfl number ⟨c, found, listed⟩ ⟨rfl, whole, rfl⟩)
  | this pos cls | static pos cls =>
    rw [expr]
    refine .site fun site number => .bind (class_ends env cls _) (fun why unfit => refused_unfit unfit) ?_
    rintro c _ ⟨found, rfl⟩
    exact .pure ((Operands.nothing _).node rfl number (by simp [Piece.Fits, ExprDoc.Fits, found]))
  | unrecognized kind =>
    rw [expr]
    exact .fail (refused_unfit id)

theorem operand_ends (scope : Scope) (doc : Option ExprDoc) (s : Supply) : Ends s (operandOf env scope doc)
    (fun e s' => Operands env.declarations scope s s' [doc] [.expr e])
    (RefusedOperand env.declarations (scope.map Local.name) [doc]) := by
  cases doc with
  | none =>
    rw [operandOf]
    refine .fail fun all => ?_
    obtain ⟨doc, present, _⟩ := all none (by simp)
    cases present
  | some doc =>
    rw [operandOf]
    refine .imp (expr_ends scope doc s) (fun e s' bound => .single bound) fun why refused all => ?_
    obtain ⟨doc', same, all⟩ := all _ List.mem_cons_self
    cases same
    obtain ⟨name, undefined, dangling⟩ := refused all
    exact ⟨name, undefined, doc, List.mem_cons_self, dangling⟩

theorem exprs_end (scope : Scope) (docs : List (Option ExprDoc)) (s : Supply) : Ends s (exprs env scope docs)
    (fun items s' => Operands env.declarations scope s s' docs (items.map .expr))
    (RefusedOperand env.declarations (scope.map Local.name) docs) := by
  cases docs with
  | nil =>
    rw [exprs]
    exact .pure (.nothing _)
  | cons doc rest =>
    rw [exprs]
    refine .bind (operand_ends scope doc s) (fun why => refused_among (by simp)) fun e s₁ first => ?_
    refine .bind (exprs_end scope rest s₁) (fun why => refused_among (by simp)) fun items s₂ others => ?_
    exact .pure (first.append others)

theorem entries_end (scope : Scope) (docs : List (String × Option ExprDoc)) (s : Supply) : Ends s (entries env scope docs)
    (fun items s' => Operands env.declarations scope s s' (docs.map Prod.snd) (items.map fun entry => .expr entry.2))
    (RefusedOperand env.declarations (scope.map Local.name) (docs.map Prod.snd)) := by
  cases docs with
  | nil =>
    rw [entries]
    exact .pure (.nothing _)
  | cons entry rest =>
    obtain ⟨key, doc⟩ := entry
    rw [entries]
    refine .bind (operand_ends scope doc s).labelled (fun why => refused_among (by simp)) fun e s₁ first => ?_
    refine .bind (entries_end scope rest s₁) (fun why => refused_among (by simp)) fun items s₂ others => ?_
    exact .pure (first.append others)

theorem stmts_end (scope : Scope) (index : Nat) (docs : List StmtDoc) (s : Supply) : Ends s (stmts env scope index docs)
    (fun statements s' => Row env.declarations scope s s' docs statements)
    (RefusedStatement env.declarations (scope.map Local.name) docs) := by
  cases docs with
  | nil =>
    rw [stmts]
    exact .pure (.nothing _)
  | cons doc rest =>
    rw [stmts]
    refine .bind (stmt_ends scope doc s).labelled (fun why => refused_first) ?_
    rintro ⟨st, inner⟩ s₁ ⟨first, heading, extended⟩
    obtain rfl : inner = st.declared?.toList ++ scope := extended
    refine .bind (stmts_end _ (index + 1) rest s₁) (fun why refused => ?_) fun statements s₂ others => ?_
    · rw [List.map_append, slot_names heading] at refused
      exact refused_later refused
    · exact .pure (.cons first heading others)

theorem stmt_ends (scope : Scope) (doc : StmtDoc) (s : Supply) : Ends s (stmt env scope doc)
    (fun out s' => Bound env.declarations scope s s' [.stmt doc] [.stmt out.1] ∧
      out.1.declared?.map Local.heading = doc.declared? ∧ out.2 = out.1.declared?.toList ++ scope)
    (Refused env.declarations (scope.map Local.name) (.stmt doc)) := by
  cases doc with
  | expression pos value =>
    rw [stmt]
    refine .site fun site number => .bind (operand_ends scope value _) (fun why => refused_operand _ [value] fun _ => id) ?_
    intro out s' part
    exact .pure ⟨part.node (List.append_nil _) number trivial, rfl, rfl⟩
  | declare pos name type init =>
    cases init with
    | none =>
      rw [stmt]
      refine .site fun site number => .bind (type_ends env type _) (fun why unread => refused_unfit unread) ?_
      rintro t _ ⟨read, noted, rfl⟩
      refine local_ends .letBound name t noted _ fun s' fresh grown => .pure ⟨?_, rfl, rfl⟩
      exact declare_bound (.nothing _) (List.append_nil _) number ⟨t, read⟩ fresh grown
    | some init =>
      -- the initializer is built before the name is in scope
      rw [stmt]
      refine .site fun site number => .bind (type_ends env type _) (fun why unread => refused_unfit unread) ?_
      rintro t _ ⟨read, noted, rfl⟩
      refine .bind (expr_ends scope init _) (fun why refused => refused_part _ (.expr init) 0 rfl refused) fun e s₁ part => ?_
      refine local_ends .letBound name t noted _ fun s' fresh grown => .pure ⟨?_, rfl, rfl⟩
      exact declare_bound (.single part) (List.append_nil _) number ⟨t, read⟩ fresh grown
  | ret pos value =>
    cases value with
    | none =>
      rw [stmt]
      exact .site fun site number => .pure ⟨(Operands.nothing _).node rfl number trivial, rfl, rfl⟩
    | some value =>
      rw [stmt]
      refine .site fun site number => ?_
      refine .bind (expr_ends scope value _) (fun why refused => refused_part _ (.expr value) 0 rfl refused) ?_
      intro e s' part
      exact .pure ⟨(Operands.single part).node rfl number trivial, rfl, rfl⟩
  | branch pos condition body alternative =>
    cases alternative with
    | none =>
      rw [stmt]
      refine .site fun site number => ?_
      refine .bind (operand_ends scope condition _) (fun why => refused_operand _ [condition] fun _ => id) ?_
      intro test s₁ first
      obtain ⟨condition, rfl⟩ := first.one
      refine .site fun block blockNumber => ?_
      refine .bind (stmts_end scope 0 body _) (fun why refused => ?_) fun statements s₂ row => .pure ⟨?_, rfl, rfl⟩
      · exact refused_part _ (.block body) 1 rfl (refused_statement body refused)
      · exact (first.bound.append (row.block block blockNumber)).node number ⟨first.present, trivial⟩
    | some alternative =>
      rw [stmt]
      refine .site fun site number => ?_
      refine .bind (operand_ends scope condition _) (fun why => refused_operand _ [condition] fun _ => id) ?_
      intro test s₁ first
      obtain ⟨condition, rfl⟩ := first.one
      refine .site fun block blockNumber => .bind (stmts_end scope 0 body _) (fun why refused => ?_) fun statements s₂ row => ?_
      · exact refused_part _ (.block body) 1 rfl (refused_statement body refused)
      refine .site fun other otherNumber => ?_
      refine .bind (stmts_end scope 0 alternative _) (fun why refused => ?_) fun others s₃ row' => .pure ⟨?_, rfl, rfl⟩
      · exact refused_part _ (.block alternative) 2 rfl (refused_statement alternative refused)
      · have blocks := (row.block block blockNumber).append (row'.block other otherNumber)
        exact (first.bound.append blocks).node number ⟨first.present, trivial⟩
  | loop pos condition body =>
    rw [stmt]
    refine .site fun site number => ?_
    refine .bind (operand_ends scope condition _) (fun why => refused_operand _ [condition] fun _ => id) ?_
    intro test s₁ first
    obtain ⟨condition, rfl⟩ := first.one
    refine .site fun block blockNumber => ?_
    refine .bind (stmts_end scope 0 body _) (fun why refused => ?_) fun statements s₂ row => .pure ⟨?_, rfl, rfl⟩
    · exact refused_part _ (.block body) 1 rfl (refused_statement body refused)
    · exact (first.bound.append (row.block block blockNumber)).node number ⟨first.present, trivial⟩
  | foreach pos name type items body =>
    rw [stmt]
    refine .site fun site number => .bind (operand_ends scope items _) (fun why => refused_operand _ [items] fun _ => id) ?_
    intro e s₁ first
    obtain ⟨items, rfl⟩ := first.one
    refine .bind (type_ends env type s₁) (fun why unread => refused_unfit unread) ?_
    rintro t _ ⟨read, noted, rfl⟩
    refine local_ends .loopVariable name t noted _ fun s' fresh grown => .site fun block blockNumber => ?_
    refine .bind (stmts_end _ 0 body _) (fun why refused => ?_) fun statements s₂ row => .pure ⟨?_, rfl, rfl⟩
    · exact refused_part _ (.block body) 1 rfl (refused_statement body refused)
    · exact foreach_bound first.bound number ⟨t, read⟩ fresh grown (row.block block blockNumber)
  | unrecognized kind =>
    rw [stmt]
    exact .fail (refused_unfit id)

end

theorem function_ends (doc : FunctionDoc) (s : Supply) : Ends s (function env doc)
    (fun f s' => Bound env.declarations [] s s' [.function doc] [.function f])
    (Refused env.declarations [] (.function doc)) := by
  refine .labelled (.site fun site number => .bind (params_ends env [] doc.params _) (fun why unread => ?_) ?_)
  · exact refused_unfit fun fits => unread fits.1
  rintro ⟨locals, inner⟩ s₁ opens
  refine .bind (type_ends env doc.returns s₁) (fun why unread => refused_unfit fun fits => unread fits.2) ?_
  rintro t _ ⟨read, noted, rfl⟩
  refine .site fun block blockNumber => .bind (stmts_end env inner 0 doc.body _) (fun why refused => ?_) ?_
  · refine refused_part _ (.block doc.body) 0 rfl ?_
    have names := opens.names
    rw [names] at refused
    exact refused_statement doc.body refused
  · intro statements s₂ row
    exact .pure <| opens.body (row.block block blockNumber) number ⟨by simp [Piece.operands], opens.readable, t, read⟩
      ⟨rfl, fun _ => noted, rfl⟩

theorem functions_end (docs : List FunctionDoc) (s : Supply) : Ends s (functions env docs)
    (fun fs s' => Bound env.declarations [] s s' (docs.map .function) (fs.map .function))
    fun why => ∃ doc ∈ docs, Refused env.declarations [] (.function doc) why := by
  induction docs generalizing s with
  | nil => exact .pure (.nothing _)
  | cons doc rest ih =>
    refine .bind (function_ends env doc s) (fun why refused => ⟨doc, List.mem_cons_self, refused⟩) fun f s₁ first => ?_
    refine .bind (ih s₁) ?_ fun fs s₂ others => .pure (first.append others)
    rintro why ⟨doc', member, refused⟩
    exact ⟨doc', List.mem_cons_of_mem _ member, refused⟩

theorem main_ends (body : List StmtDoc) (s : Supply) : Ends s (mainBlock env body)
    (fun b s' => Bound env.declarations [] s s' [.block body] [.block b]) (Refused env.declarations [] (.block body)) := by
  refine .labelled (.site fun block blockNumber => .bind (stmts_end env [] 0 body _) (fun why => refused_statement body) ?_)
  intro statements s' row
  exact .pure (row.block block blockNumber)

end

theorem build_eq (unit : UnitDoc) (ds : Declarations) (literals : LiteralTypes) (declared : declarationsOf unit = .ok ds)
    (named : literalTypes ds unit.literals = .ok literals) :
    build unit = (fileOf unit ds literals ⟨0, 0, fun _ => .unknown⟩ >>= fun made =>
      .ok ⟨made.1, { Annotations.empty with ofLocal := made.2.types }, made.2.node⟩) := by
  rw [build, declared]
  change (literalTypes ds unit.literals >>= _ : Except BuildError Built) = _
  rw [named]
  rfl

theorem file_ends (unit : UnitDoc) (ds : Declarations) (literals : LiteralTypes) (s : Supply) :
    Ends s (fileOf unit ds literals) (fun file s' => Bound ds [] s s' [.unit unit] [.file file])
      (Refused ds [] (.unit unit)) := by
  refine .site fun site number => .bind (functions_end ⟨unit.path, ds⟩ unit.functions _) ?_ fun fs s₁ first => ?_
  · rintro why ⟨doc, member, refused⟩
    have listed : Piece.function doc ∈ (Piece.unit unit).parts := List.mem_append_left _ (List.mem_map_of_mem member)
    obtain ⟨i, below⟩ := List.mem_iff_getElem?.mp listed
    refine refused_part _ (.function doc) i below ?_
    simpa [Piece.visible, Piece.slots, opened] using refused
  refine .bind (main_ends ⟨unit.path, ds⟩ unit.main s₁) (fun why refused => ?_) fun main s₂ last => .pure ?_
  · have below : (Piece.unit unit).parts[unit.functions.length]? = some (.block unit.main) := by simp [Piece.parts]
    refine refused_part _ (.block unit.main) _ below ?_
    simpa [Piece.visible, Piece.slots, opened] using refused
  · exact (first.append last).node number ⟨by simp [Piece.operands], trivial⟩

theorem built_bound (unit : UnitDoc) (u : Built) (built : build unit = .ok u) : ∃ literals supply,
    declarationsOf unit = .ok u.file.declarations ∧ literalTypes u.file.declarations unit.literals = .ok literals ∧
      u.annotations = { Annotations.empty with ofLocal := supply.types } ∧ u.fresh = supply.node ∧
      Bound u.file.declarations [] ⟨0, 0, fun _ => .unknown⟩ supply [.unit unit] [.file u.file] := by
  obtain ⟨ds, literals, fs, mid, main, supply, declared, named, ranFunctions, ranMain, rfl⟩ := (build_ok_iff unit u).mp built
  have ends := file_ends unit ds literals ⟨0, 0, fun _ => .unknown⟩
  have ran : fileOf unit ds literals ⟨0, 0, fun _ => .unknown⟩ =
      .ok (⟨⟨0, none⟩, unit.path, ds, literals, fs, some main⟩, supply) :=
    bind_of_ok ranFunctions (bind_of_ok ranMain rfl)
  rw [Ends, ran] at ends
  exact ⟨literals, supply, declared, named, rfl, rfl, ends⟩

theorem elaborated_formed {ds : Declarations} {scope : Scope} {piece : Piece} {n : Node} (declared : ds.Whole)
    (made : Elaborates ds scope piece n) : ∀ m ∈ n.nodes, m.Whole ∧ m.implicit = false := by
  induction made with
  | mk scope piece n sound formed refers slots lengths parts ih =>
    intro m below
    rcases (mem_nodes_iff n m).mp below with rfl | ⟨c, child, below⟩
    · exact ⟨formed.whole declared, formed.explicit⟩
    · obtain ⟨i, there⟩ := List.mem_iff_getElem?.mp child
      obtain ⟨part, here⟩ := part_exists lengths there
      exact ih i part c here there m below

theorem build_sound (unit : UnitDoc) (u : Built) (built : build unit = .ok u) : u.Sound := by
  obtain ⟨literals, supply, declared, _, annotations, fresh, bound⟩ := built_bound unit u built
  have whole := declarations_of_whole unit _ declared
  have formed := elaborated_formed whole (List.forall₂_cons.mp bound.elaborated).1
  have ids := bound.grown.ids
  have next := bound.grown.next
  simp only [List.flatMap_singleton] at ids next
  refine ⟨?_, fun n below => (formed n below).1, fun n below => (formed n below).2, whole, ?_, ?_, ?_⟩
  · rw [fresh, next, List.range_eq_range', Nat.zero_add]
    exact ids
  · rw [annotations]
    exact fun _ => rfl
  · rw [annotations]
    exact fun _ => rfl
  · rw [annotations]
    exact bound.grown.types fun _ => .inl rfl

theorem unbuilt_dangles (unit : UnitDoc) (e : BuildError) (wellFormed : unit.WellFormed) (failed : build unit = .error e) :
    ∃ name, e.cause = .undefined name ∧ Dangling [] (.unit unit) name := by
  obtain ⟨ds, literals, declared, named, sound⟩ := wellFormed
  rw [build_eq unit ds literals declared named] at failed
  have ends := file_ends unit ds literals ⟨0, 0, fun _ => .unknown⟩
  cases ran : fileOf unit ds literals ⟨0, 0, fun _ => .unknown⟩ with
  | ok made =>
    rw [ran] at failed
    cases failed
  | error why =>
    rw [ran] at failed
    cases failed
    rw [Ends, ran] at ends
    exact ends sound

end Document

end Typeflow
