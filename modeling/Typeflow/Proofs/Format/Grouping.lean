import Typeflow.Proofs.Format.Shape

set_option autoImplicit false

namespace Typeflow.Format

def Op.logical (op : Op) : Bool := op.text == "&&" || op.text == "||"

-- The same up to how chains of one `&&` or one `||` are grouped.
inductive Regrouped : Shape → Shape → Prop
  | refl (f : Shape) : Regrouped f f
  | symm {f g : Shape} (same : Regrouped f g) : Regrouped g f
  | trans {f g h : Shape} (first : Regrouped f g) (second : Regrouped g h) : Regrouped f h
  | rotate (op : Op) (logical : op.logical = true) (a b c : Shape) :
      Regrouped (.binary op a (.binary op b c)) (.binary op (.binary op a b) c)
  | unary {x y : Shape} (sign : Sign) (operand : Regrouped x y) : Regrouped (.unary sign x) (.unary sign y)
  | binary {l l' r r' : Shape} (op : Op) (left : Regrouped l l') (right : Regrouped r r') :
      Regrouped (.binary op l r) (.binary op l' r')
  | conditional {c c' a a' b b' : Shape} (condition : Regrouped c c') (whenTrue : Regrouped a a') (whenFalse : Regrouped b b') :
      Regrouped (.conditional c a b) (.conditional c' a' b')
  | suffixed {x y : Shape} (suffix : Suffix Shape) (operand : Regrouped x y) :
      Regrouped (.suffixed x suffix) (.suffixed y suffix)
  | arg {a b : Shape} (callee : Shape) (before after : List Shape) (same : Regrouped a b) :
      Regrouped (.suffixed callee (.args (before ++ a :: after))) (.suffixed callee (.args (before ++ b :: after)))

def Shape.isBinary (mark : String) : Shape → Bool
  | .binary op _ _ => op.text == mark
  | _ => false

-- The groupings that a text does not show, each with the one that a reader takes in its place:
-- suffixes before signs, and signs before operators, which group to the left.
inductive Rotates : Shape → Shape → Prop
  | minus (w : Word) : Rotates (.negative w) (.unary .minus (.word w))
  | sign (s : Sign) (op : Op) (same : op.text = s.text) (a b : Shape) :
      Rotates (.unary s (.binary op a b)) (.binary op (.unary s a) b)
  | suffix (s : Sign) (x : Shape) (other : x.isBinary s.text = false) (suffix : Suffix Shape) :
      Rotates (.suffixed (.unary s x) suffix) (.unary s (.suffixed x suffix))
  | join (op : Op) (kept : isAssignment op.text = false) (arithmetic : op.logical = false) (a b c : Shape) :
      Rotates (.binary op a (.binary op b c)) (.binary op (.binary op a b) c)

-- `before` goes to the front of a chain that is grouped to the left
def graft (op : Op) (before : Shape) : Shape → Shape
  | .binary inner l r =>
    if inner = op then .binary op (graft op before l) r else .binary op before (.binary inner l r)
  | f => .binary op before f

def attach (op : Op) (before after : Shape) : Shape :=
  if op.logical then graft op before after else .binary op before after

mutual

def Shape.leaning : Shape → Shape
  | .word w => .word w
  | .negative w => .negative w
  | .unary s x => .unary s x.leaning
  | .binary op l r => attach op l.leaning r.leaning
  | .conditional c a b => .conditional c.leaning a.leaning b.leaning
  | .suffixed x suffix => .suffixed x.leaning (suffixLeaning suffix)

def suffixLeaning : Suffix Shape → Suffix Shape
  | .test type => .test type
  | .member name => .member name
  | .args args => .args (allLeaning args)

def allLeaning : List Shape → List Shape
  | [] => []
  | f :: rest => f.leaning :: allLeaning rest

end

theorem all_leaning_eq (fs : List Shape) : allLeaning fs = fs.map Shape.leaning := by
  induction fs with
  | nil => rfl
  | cons f rest ih => rw [allLeaning, ih, List.map_cons]

theorem graft_assoc (op : Op) (a b c : Shape) : graft op (graft op a b) c = graft op a (graft op b c) := by
  fun_induction graft op b c with
  | case1 l r ih => simp only [graft, if_true, ih]
  | case2 inner l r other => simp only [graft, if_neg other, if_true]
  | case3 c other =>
    rw [graft, graft, if_pos rfl]
    exact other

theorem attach_assoc (op : Op) (logical : op.logical = true) (a b c : Shape) :
    attach op (attach op a b) c = attach op a (attach op b c) := by
  simp only [attach, if_pos logical]
  exact graft_assoc op a b c

theorem Regrouped.leaning {f g : Shape} (same : Regrouped f g) : f.leaning = g.leaning := by
  induction same with
  | refl f => rfl
  | symm _ ih => exact ih.symm
  | trans _ _ ih ih' => exact ih.trans ih'
  | rotate op logical a b c =>
    simp only [Shape.leaning]
    exact (attach_assoc op logical _ _ _).symm
  | unary sign _ ih => rw [Shape.leaning, ih, Shape.leaning]
  | binary op _ _ ih ih' => rw [Shape.leaning, ih, ih', Shape.leaning]
  | conditional _ _ _ ih ih' ih'' => rw [Shape.leaning, ih, ih', ih'', Shape.leaning]
  | suffixed suffix _ ih => rw [Shape.leaning, ih, Shape.leaning]
  | arg callee before after _ ih => simp only [Shape.leaning, suffixLeaning, all_leaning_eq, List.map_append, List.map_cons, ih]

theorem regrouped_graft (op : Op) (logical : op.logical = true) (a f : Shape) : Regrouped (.binary op a f) (graft op a f) := by
  fun_induction graft op a f with
  | case1 l r ih => exact (Regrouped.rotate op logical a l r).trans (.binary op ih (.refl r))
  | case2 inner l r other => exact .refl _
  | case3 f other => exact .refl _

theorem regrouped_attach (op : Op) (a f : Shape) : Regrouped (.binary op a f) (attach op a f) := by
  by_cases logical : op.logical = true
  · rw [attach, if_pos logical]
    exact regrouped_graft op logical a f
  · rw [attach, if_neg logical]
    exact .refl _

mutual

theorem regrouped_leaning (f : Shape) : Regrouped f f.leaning := by
  match f with
  | .word w => exact .refl _
  | .negative w => exact .refl _
  | .unary s x => exact .unary s (regrouped_leaning x)
  | .binary op l r => exact (Regrouped.binary op (regrouped_leaning l) (regrouped_leaning r)).trans (regrouped_attach op _ _)
  | .conditional c a b => exact .conditional (regrouped_leaning c) (regrouped_leaning a) (regrouped_leaning b)
  | .suffixed x (.test type) => exact .suffixed (.test type) (regrouped_leaning x)
  | .suffixed x (.member name) => exact .suffixed (.member name) (regrouped_leaning x)
  | .suffixed x (.args args) =>
    exact (Regrouped.suffixed (.args args) (regrouped_leaning x)).trans (regrouped_args x.leaning [] args)

theorem regrouped_args (callee : Shape) (before args : List Shape) :
    Regrouped (.suffixed callee (.args (before ++ args))) (.suffixed callee (.args (before ++ allLeaning args))) := by
  match args with
  | [] => exact .refl _
  | f :: rest =>
    have others := regrouped_args callee (before ++ [f.leaning]) rest
    rw [List.append_assoc, List.append_assoc] at others
    exact (Regrouped.arg callee before rest (regrouped_leaning f)).trans others

end

theorem regrouped_iff (f g : Shape) : Regrouped f g ↔ f.leaning = g.leaning := by
  constructor
  · exact Regrouped.leaning
  · intro same
    exact (regrouped_leaning f).trans (same ▸ (regrouped_leaning g).symm)

theorem append_append (a : Chain) (op : Op) (b : Chain) (op' : Op) (c : Chain) :
    (a.append op b).append op' c = a.append op (b.append op' c) := by
  match a with
  | .one t => rfl
  | .join t first rest => rw [Chain.append, Chain.append, append_append rest, Chain.append]

theorem signed_append (s : Sign) (a : Chain) (op : Op) (b : Chain) : (a.signed s).append op b = (a.append op b).signed s := by
  cases a <;> rfl

theorem signed_suffixed (s : Sign) (a : Chain) (suffix : Suffix Line) :
    (a.signed s).suffixed suffix = (a.suffixed suffix).signed s := by
  cases a with
  | one t => cases t; rfl
  | join t op rest => rfl

theorem bare_operand (c : Chain) : (Line.chain c).operand false = c := rfl

theorem unary_operand (s : Sign) (x : Shape) (mark : String) : (Shape.unary s x).needsParens mark = false := rfl

theorem suffixed_operand (x : Shape) (suffix : Suffix Shape) (mark : String) :
    (Shape.suffixed x suffix).needsParens mark = false := rfl

-- only an assignment needs parentheses under its own operator
theorem own_operand (op : Op) (kept : isAssignment op.text = false) (a b : Shape) :
    (Shape.binary op a b).needsParens op.text = false := by
  rw [Shape.needsParens, kept, bne_self_eq_false]
  rfl

theorem logical_kept (op : Op) (logical : op.logical = true) : isAssignment op.text = false := by
  simp only [Op.logical, Bool.or_eq_true, beq_iff_eq] at logical
  obtain text | text := logical <;> rw [text] <;> rfl

theorem join_line (op : Op) (kept : isAssignment op.text = false) (a b c : Shape) :
    (Shape.binary op a (.binary op b c)).line = (Shape.binary op (.binary op a b) c).line := by
  simp only [Shape.line, own_operand op kept, bare_operand, append_append]

-- an operand keeps its parentheses, as regrouping keeps its operator
theorem Regrouped.line {f g : Shape} (same : Regrouped f g) :
    f.line = g.line ∧ ∀ mark, f.needsParens mark = g.needsParens mark := by
  induction same with
  | refl f => exact ⟨rfl, fun _ => rfl⟩
  | symm _ ih => exact ⟨ih.1.symm, fun mark => (ih.2 mark).symm⟩
  | trans _ _ ih ih' => exact ⟨ih.1.trans ih'.1, fun mark => (ih.2 mark).trans (ih'.2 mark)⟩
  | rotate op logical a b c => exact ⟨join_line op (logical_kept op logical) a b c, fun _ => rfl⟩
  | unary sign _ ih => exact ⟨by rw [Shape.line, ih.1, ih.2, Shape.line], fun _ => rfl⟩
  | binary op _ _ ih ih' => exact ⟨by rw [Shape.line, ih.1, ih.2, ih'.1, ih'.2, Shape.line], fun _ => rfl⟩
  | conditional _ _ _ ih ih' ih'' =>
    exact ⟨by rw [Shape.line, ih.1, ih.2, ih'.1, ih'.2, ih''.1, ih''.2, Shape.line], fun _ => rfl⟩
  | suffixed suffix _ ih => exact ⟨by rw [Shape.line, ih.1, ih.2, Shape.line], fun _ => rfl⟩
  | arg callee before after _ ih =>
    refine ⟨?_, fun _ => rfl⟩
    simp only [Shape.line, suffixLine, lines_of_eq, List.map_append, List.map_cons, ih.1]
    rfl

theorem suffix_operand {α : Type} (suffix : Suffix α) (op : Op) : op.text ≠ suffix.mark := by
  apply op.ne_of_unknown
  cases suffix
  · exact (by decide : "instanceof" ∉ operators)
  · exact (by decide : "." ∉ operators)
  · exact (by decide : "()" ∉ operators)

theorem suffix_parens {s : Sign} {x : Shape} (other : x.isBinary s.text = false) (suffix : Suffix Shape) :
    x.needsParens s.text = x.needsParens suffix.mark := by
  cases x with
  | binary op a b =>
    rw [Shape.isBinary, beq_eq_false_iff_ne] at other
    rw [Shape.needsParens, Shape.needsParens, bne_iff_ne.mpr other, bne_iff_ne.mpr (suffix_operand suffix op)]
  | _ => rfl

theorem Rotates.line {f g : Shape} (rotates : Rotates f g) : f.line = g.line := by
  cases rotates with
  | minus w => rfl
  | sign s op same a b =>
    have kept : isAssignment op.text = false := by
      rw [same]
      cases s <;> rfl
    have bare := own_operand op kept a b
    rw [same] at bare
    simp only [Shape.line, bare, same, bare_operand, unary_operand, signed_append]
  | suffix s x other suffix =>
    simp only [Shape.line, suffix_parens other suffix, bare_operand, unary_operand, suffixed_operand, signed_suffixed]
  | join op kept _ a b c => exact join_line op kept a b c

theorem Rotates.not_regrouped {f g : Shape} (rotates : Rotates f g) : ¬ Regrouped f g := by
  intro regrouped
  have leaning := regrouped.leaning
  cases rotates with
  | minus w => cases leaning
  | sign s op same a b =>
    have plain : op.logical = false := by
      rw [Op.logical, same]
      cases s <;> rfl
    simp [Shape.leaning, attach, plain] at leaning
  | suffix s x other suffix => cases leaning
  | join op _ arithmetic a b c =>
    -- the left operand would be a part of itself
    simp only [Shape.leaning, attach, arithmetic, Bool.false_eq_true, if_false, Shape.binary.injEq, true_and] at leaning
    have size := congrArg sizeOf leaning.1
    simp only [Shape.binary.sizeOf_spec] at size
    omega

end Typeflow.Format
