import Typeflow.Proofs.Narrow.Rewriting

set_option autoImplicit false

namespace Typeflow

-- An expression, what it is a property of, and so on; casts that narrowing made are links as well.
def Expr.chain : Expr → List Expr
  | .cast s operand target (some origin) => .cast s operand target (some origin) :: operand.chain
  | .property s object name => .property s object name :: object.chain
  | e => [e]

-- Literals of all sorts, operators, written casts and calls.
def Expr.isComputed : Expr → Bool
  | .literal .. => true
  | .array .. => true
  | .map .. => true
  | .lambda .. => true
  | .instanceOf .. => true
  | .cast _ _ _ none => true
  | .binary .. => true
  | .unary .. => true
  | .conditional .. => true
  | .call .. => true
  | _ => false

-- The chains are the same but for casts of narrowing around any link of either.
inductive SameButCasts : Expr → Expr → Prop
  | refl (e : Expr) : SameButCasts e e
  | added {a b : Expr} (s : Site) (target : Ty) (origin : NodeId) (rest : SameButCasts a b) :
      SameButCasts a (.cast s b target (some origin))
  | removed {a b : Expr} (s : Site) (target : Ty) (origin : NodeId) (rest : SameButCasts a b) :
      SameButCasts (.cast s a target (some origin)) b
  | along {a b : Expr} (s : Site) (name : String) (rest : SameButCasts a b) :
      SameButCasts (.property s a name) (.property s b name)

theorem path_none_iff (e : Expr) : e.path = none ↔ ∃ link ∈ e.chain, link.isComputed := by
  fun_induction Expr.chain e with
  | case1 s operand target origin ih => simp [Expr.path, Expr.isComputed, ih]
  | case2 s object name ih => simp [Expr.path, Expr.isComputed, ih]
  | case3 e noCast noProperty =>
    cases e with
    | cast s operand target origin =>
      cases origin with
      | none => simp [Expr.path, Expr.isComputed]
      | some origin => exact (noCast _ _ _ _ rfl).elim
    | property => exact (noProperty _ _ _ rfl).elim
    | _ => simp [Expr.path, Expr.isComputed]

theorem path_some_iff (e : Expr) : e.path.isSome ↔ e.unwrapped.isReference ∨
    ∃ s object name, e.unwrapped = .property s object name ∧ object.unwrapped.path.isSome := by
  rw [← path_unwrapped e]
  have bare : ∀ s operand target origin, e.unwrapped ≠ .cast s operand target (some origin) := by
    fun_induction Expr.unwrapped e with
    | case1 s operand target origin ih => exact ih
    | case2 e other => exact other
  generalize e.unwrapped = e at bare
  cases e with
  | cast s operand target origin =>
    cases origin with
    | none => simp [Expr.path, Expr.isReference]
    | some origin => exact absurd rfl (bare s operand target origin)
  | property s object name => simp [Expr.path, Expr.isReference, path_unwrapped]
  | _ => simp [Expr.path, Expr.isReference]

theorem same_but_casts_path (a b : Expr) (same : SameButCasts a b) : a.path = b.path := by
  induction same with
  | refl e => rfl
  | added s target origin rest ih => rw [ih, Expr.path]
  | removed s target origin rest ih => rw [← ih, Expr.path]
  | along s name rest ih => rw [Expr.path, Expr.path, ih]

theorem same_value_path_iff (a b : Expr) : a.sameValue b ↔ a.path.isSome ∧ b.path.isSome ∧ a.path = b.path := by
  rw [same_value_iff, Option.isSome_iff_exists, Option.isSome_iff_exists]
  constructor
  · rintro ⟨p, left, right⟩
    exact ⟨⟨p, left⟩, ⟨p, right⟩, left.trans right.symm⟩
  · rintro ⟨⟨p, left⟩, _, same⟩
    exact ⟨p, left, same ▸ left⟩

theorem same_value_symm (a b : Expr) (same : a.sameValue b) : b.sameValue a := by
  rw [same_value_path_iff] at same ⊢
  exact ⟨same.2.1, same.1, same.2.2.symm⟩

theorem same_value_trans (a b c : Expr) (first : a.sameValue b) (second : b.sameValue c) : a.sameValue c := by
  rw [same_value_path_iff] at first second ⊢
  exact ⟨first.1, second.2.1, first.2.2.trans second.2.2⟩

theorem computed_never_same (a b : Expr) (computed : ∃ link ∈ a.chain, link.isComputed) :
    a.sameValue b = false ∧ b.sameValue a = false := by
  have noPath := (path_none_iff a).mpr computed
  have differ : ¬ a.sameValue b := by
    rw [same_value_path_iff, noPath]
    simp
  exact ⟨Bool.eq_false_iff.mpr differ, Bool.eq_false_iff.mpr fun same => differ (same_value_symm b a same)⟩

namespace Narrow

variable (node? : NodeId → Option Node)

theorem Rewrites.paths {p q : Progress} {ns outs : List Node} (run : Rewrites p q ns outs) :
    outs.map Node.path? = ns.map Node.path? := by
  induction run with
  | nil p => rfl
  | append first second ih ih' => rw [List.map_append, List.map_append, ih, ih']
  | scope body ih => exact ih
  | node a b parts outline ih => exact congrArg (fun path => [path]) (path_of_outline b a outline ih)
  | test n s operand check rebuilt outline ih => exact ih
  | cast e out fact rebuilt outline active ih => exact ih

theorem narrow_expr_path (e : Expr) (p : Progress) : (narrowExpr node? e p).1.path = e.path :=
  (List.cons.inj (narrow_expr_rewrites e p).paths).1

theorem narrowed_matches (e : Expr) (p : Progress) (subject : Expr) :
    (narrowExpr node? e p).1.sameValue subject = e.sameValue subject :=
  same_value_congr _ e subject subject (narrow_expr_path node? e p) rfl

theorem same_value_is_path_equality :
    (∀ e : Expr, e.path.isSome ↔ e.unwrapped.isReference ∨
      ∃ s object name, e.unwrapped = .property s object name ∧ object.unwrapped.path.isSome) ∧
    (∀ a b : Expr, a.sameValue b ↔ a.path.isSome ∧ b.path.isSome ∧ a.path = b.path) ∧
    (∀ a b : Expr, a.sameValue b → b.sameValue a) ∧
    (∀ a b c : Expr, a.sameValue b → b.sameValue c → a.sameValue c) ∧
    (∀ a : Expr, a.sameValue a ↔ a.path.isSome) ∧
    (∀ a b : Expr, (∃ link ∈ a.chain, link.isComputed) → a.sameValue b = false ∧ b.sameValue a = false) ∧
    (∀ a a' b b' : Expr, SameButCasts a a' → SameButCasts b b' → a.sameValue b = a'.sameValue b') ∧
    ∀ (e : Expr) (p : Progress),
      (∀ fact : Fact, (narrowExpr node? e p).1.sameValue fact.subject = e.sameValue fact.subject) ∧
      ∀ q : Progress, (q.active.find? fun fact => (narrowExpr node? e p).1.sameValue fact.subject) =
        q.active.find? fun fact => e.sameValue fact.subject := by
  refine ⟨path_some_iff, same_value_path_iff, same_value_symm, same_value_trans, fun a => ?_, computed_never_same, ?_, ?_⟩
  · simp [same_value_path_iff]
  · intro a a' b b' left right
    exact same_value_congr a a' b b' (same_but_casts_path a a' left) (same_but_casts_path b b' right)
  · intro e p
    refine ⟨fun fact => narrowed_matches node? e p fact.subject, fun q => ?_⟩
    simp only [narrowed_matches]

-- `box.lid.hinge`, where the test `box instanceof Crate` holds.
def box : Expr := .localRef ⟨1, none⟩ ⟨0, .letBound, "box"⟩

def hinge : Expr := .property ⟨3, none⟩ (.property ⟨2, none⟩ box "lid") "hinge"

def boxIsCrate : Fact := ⟨.instanceOf ⟨4, none⟩ box (.cls ⟨"Crate", 0⟩ []), box, .cls ⟨"Crate", 0⟩ [], []⟩

def crateKnown : Progress := { start 5 .empty .empty with scopes := [[boxIsCrate]] }

def crateHinge : Expr :=
  .property ⟨3, none⟩ (.property ⟨2, none⟩ (castFor boxIsCrate box 5) "lid") "hinge"

theorem hinge_of_crate_matches :
    (narrowExpr (fun _ => none) hinge crateKnown).1 = crateHinge ∧
      (∀ fact : Fact, crateHinge.sameValue fact.subject = hinge.sameValue fact.subject) ∧
      hinge.sameValue hinge ∧ crateHinge.sameValue hinge ∧
      (Expr.property ⟨2, none⟩ (.call ⟨1, none⟩ box []) "lid").sameValue hinge = false := by
  obtain ⟨_, _, _, _, reflexive, computed, casts, matched⟩ := same_value_is_path_equality fun _ => none
  have narrowed : (narrowExpr (fun _ => none) hinge crateKnown).1 = crateHinge := rfl
  have same : hinge.sameValue hinge := (reflexive hinge).mpr rfl
  have recast : SameButCasts crateHinge hinge :=
    .along ⟨3, none⟩ "hinge" (.along ⟨2, none⟩ "lid" (.removed ⟨5, none⟩ _ 4 (.refl box)))
  refine ⟨narrowed, fun fact => ?_, same, ?_, (computed _ hinge ⟨.call ⟨1, none⟩ box [], by simp [Expr.chain], rfl⟩).1⟩
  · rw [← narrowed]
    exact (matched hinge crateKnown).1 fact
  · rw [casts crateHinge hinge hinge hinge recast (.refl hinge)]
    exact same

end Narrow

end Typeflow
