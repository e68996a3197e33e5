import Typeflow.Proofs.Format.Grouping

set_option autoImplicit false

namespace Typeflow.Format

def Shape.Settled (f : Shape) : Prop := ∀ g, ¬ Rotates f g

mutual

def Shape.Plain : Shape → Prop
  | .word _ => True
  | .negative w => (Shape.negative w).Settled
  | .unary s x => (Shape.unary s x).Settled ∧ x.Plain
  | .binary op l r => (Shape.binary op l r).Settled ∧ l.Plain ∧ r.Plain
  | .conditional c a b => c.Plain ∧ a.Plain ∧ b.Plain
  | .suffixed x suffix => (Shape.suffixed x suffix).Settled ∧ x.Plain ∧ suffixPlain suffix

def suffixPlain : Suffix Shape → Prop
  | .args args => allPlain args
  | _ => True

def allPlain : List Shape → Prop
  | [] => True
  | f :: rest => f.Plain ∧ allPlain rest

end

mutual

def Line.read : Line → Shape
  | .chain c => c.read
  | .choice condition whenTrue whenFalse => .conditional condition.read whenTrue.read whenFalse.read

def Chain.read : Chain → Shape
  | .one t => t.read
  | .join t op rest => rest.readOnto t.read op

def Chain.readOnto : Chain → Shape → Op → Shape
  | .one t, before, op => .binary op before t.read
  | .join t next rest, before, op => rest.readOnto (.binary op before t.read) next

def Term.read : Term → Shape
  | .mk signs atom suffixes => signs.foldr .unary (suffixesRead suffixes atom.read)

def Atom.read : Atom → Shape
  | .word w => .word w
  | .group inner => inner.read

def suffixesRead : List (Suffix Line) → Shape → Shape
  | [], x => x
  | s :: more, x => suffixesRead more (.suffixed x (suffixRead s))

def suffixRead : Suffix Line → Suffix Shape
  | .test type => .test type
  | .member name => .member name
  | .args lines => .args (linesRead lines)

def linesRead : List Line → List Shape
  | [] => []
  | l :: more => l.read :: linesRead more

end

theorem operand_read (parens : Bool) (l : Line) : (l.operand parens).read = l.read := by
  cases l with
  | chain c => cases parens <;> rfl
  | choice condition whenTrue whenFalse => rfl

theorem read_onto_append (a : Chain) (op : Op) (b : Chain) (before : Shape) (first : Op) :
    (a.append op b).readOnto before first = b.readOnto (a.readOnto before first) op := by
  match a with
  | .one t => rfl
  | .join t next rest => rw [Chain.append, Chain.readOnto, read_onto_append rest, Chain.readOnto]

theorem read_append (a : Chain) (op : Op) (b : Chain) : (a.append op b).read = b.readOnto a.read op := by
  cases a with
  | one t => rfl
  | join t next rest => rw [Chain.append, Chain.read, read_onto_append, Chain.read]

theorem read_signed (s : Sign) (t : Term) : ((Chain.one t).signed s).read = .unary s t.read := by
  cases t
  rfl

theorem suffixes_read_append (ss : List (Suffix Line)) (s : Suffix Line) (x : Shape) :
    suffixesRead (ss ++ [s]) x = .suffixed (suffixesRead ss x) (suffixRead s) := by
  induction ss generalizing x with
  | nil => rfl
  | cons first more ih => rw [List.cons_append, suffixesRead, ih, suffixesRead]

theorem read_suffixed (a : Atom) (ss : List (Suffix Line)) (s : Suffix Line) :
    ((Chain.one (.mk [] a ss)).suffixed s).read = .suffixed (Chain.one (.mk [] a ss)).read (suffixRead s) :=
  suffixes_read_append ss s a.read

theorem unary_of_other {s : Sign} {x : Shape} (plain : (Shape.unary s x).Plain) : x.isBinary s.text = false := by
  cases x with
  | binary op a b => exact beq_eq_false_iff_ne.mpr fun same => plain.1 _ (.sign s op same a b)
  | _ => rfl

-- one term, without signs
def Chain.Unsigned (c : Chain) : Prop := ∃ a ss, c = .one (.mk [] a ss)

theorem grouped_unsigned {f : Shape} {mark : String} (parens : f.needsParens mark = true) :
    (f.line.operand (f.needsParens mark)).Unsigned := by
  rw [parens]
  cases f.line <;> exact ⟨_, _, rfl⟩

-- a bare operand of a suffix has no sign, as the sign would be read after the suffix
theorem suffix_unsigned (x : Shape) (suffix : Suffix Shape) (plain : (Shape.suffixed x suffix).Plain) :
    (x.line.operand (x.needsParens suffix.mark)).Unsigned := by
  obtain ⟨settled, inner, _⟩ := plain
  match x with
  | .word w => exact ⟨_, _, rfl⟩
  | .negative w => exact absurd (Rotates.minus w) (inner _)
  | .unary s y => exact absurd (Rotates.suffix s y (unary_of_other inner) suffix) (settled _)
  | .binary op a b =>
    apply grouped_unsigned
    rw [Shape.needsParens, bne_iff_ne.mpr (suffix_operand suffix op)]
    rfl
  | .conditional c a b => exact grouped_unsigned rfl
  | .suffixed y before =>
    obtain ⟨a, ss, unsigned⟩ := suffix_unsigned y before inner
    rw [suffixed_operand, Shape.line, unsigned]
    exact ⟨a, _, rfl⟩

-- only a chain of operators has more than one term
theorem single_operand (f : Shape) (mark : String) (plain : f.Plain) (own : f.isBinary mark = false) :
    ∃ t, f.line.operand (f.needsParens mark) = .one t := by
  cases parens : f.needsParens mark with
  | true =>
    obtain ⟨a, ss, unsigned⟩ := grouped_unsigned parens
    exact ⟨_, parens ▸ unsigned⟩
  | false =>
    match f with
    | .word w => exact ⟨_, rfl⟩
    | .negative w => exact absurd (Rotates.minus w) (plain _)
    | .unary s x =>
      obtain ⟨t, operand⟩ := single_operand x s.text plain.2 (unary_of_other plain)
      rw [Shape.line, operand]
      exact ⟨_, rfl⟩
    | .binary op a b =>
      rw [Shape.isBinary, beq_eq_false_iff_ne] at own
      rw [Shape.needsParens, bne_iff_ne.mpr own] at parens
      cases parens
    | .conditional c a b => cases parens
    | .suffixed x suffix =>
      obtain ⟨a, ss, unsigned⟩ := suffix_unsigned x suffix plain
      rw [Shape.line, unsigned]
      exact ⟨_, rfl⟩

theorem graft_other (op : Op) (before f : Shape) (other : f.isBinary op.text = false) : graft op before f = .binary op before f := by
  cases f with
  | binary inner l r =>
    rw [Shape.isBinary, beq_eq_false_iff_ne] at other
    rw [graft, if_neg fun same => other (congrArg Op.text same)]
  | _ => rfl

theorem attach_is_binary (op : Op) (a b : Shape) : ∃ l r, attach op a b = .binary op l r := by
  cases logical : op.logical with
  | false => exact ⟨a, b, by rw [attach, logical]; rfl⟩
  | true =>
    rw [attach, logical, if_pos rfl]
    fun_cases graft op a b <;> exact ⟨_, _, rfl⟩

theorem leaning_is_binary (f : Shape) (mark : String) : f.leaning.isBinary mark = f.isBinary mark := by
  cases f with
  | binary op l r =>
    obtain ⟨a, b, binary⟩ := attach_is_binary op l.leaning r.leaning
    rw [Shape.leaning, binary]
    rfl
  | _ => rfl

def Reads (f : Shape) : Prop :=
  f.line.read = f.leaning ∧
    ∀ (op : Op) (before : Shape), (f.needsParens op.text = false → f.isBinary op.text = true → op.logical = true) →
      (f.line.operand (f.needsParens op.text)).readOnto before op = attach op before f.leaning

-- an operand that is a single term is added as it is
theorem single_reads (f : Shape) (op : Op) (before : Shape) (read : f.line.read = f.leaning)
    (single : ∃ t, f.line.operand (f.needsParens op.text) = .one t) (other : op.logical = true → f.isBinary op.text = false) :
    (f.line.operand (f.needsParens op.text)).readOnto before op = attach op before f.leaning := by
  obtain ⟨t, operand⟩ := single
  have whole : t.read = f.leaning := by
    rw [← read, ← operand_read (f.needsParens op.text) f.line, operand]
    rfl
  rw [operand, Chain.readOnto, whole, attach]
  by_cases logical : op.logical = true
  · rw [if_pos logical, graft_other op before _ ((leaning_is_binary f op.text).trans (other logical))]
  · rw [if_neg logical]

theorem reads_of_read {f : Shape} (plain : f.Plain) (other : ∀ mark, f.isBinary mark = false)
    (read : f.line.read = f.leaning) : Reads f :=
  ⟨read, fun op before _ => single_reads f op before read (single_operand f op.text plain (other op.text)) fun _ => other op.text⟩

theorem own_binary {f : Shape} {op : Op} (bare : f.needsParens op.text = false) (own : f.isBinary op.text = true) :
    isAssignment op.text = false ∧ ∃ a b, f = .binary op a b := by
  cases f with
  | binary inner a b =>
    obtain rfl : inner = op := Op.ext (beq_iff_eq.mp own)
    exact ⟨(Bool.or_eq_false_iff.mp bare).2, a, b, rfl⟩
  | _ => cases own

theorem right_fits {op : Op} {l r : Shape} (plain : (Shape.binary op l r).Plain) (bare : r.needsParens op.text = false)
    (own : r.isBinary op.text = true) : op.logical = true := by
  obtain ⟨kept, a, b, rfl⟩ := own_binary bare own
  cases arithmetic : op.logical with
  | true => rfl
  | false => exact absurd (Rotates.join op kept arithmetic l a b) (plain.1 _)

theorem binary_reads {op : Op} {l r : Shape} (plain : (Shape.binary op l r).Plain) (left : Reads l) (right : Reads r) :
    Reads (.binary op l r) := by
  have read : (Shape.binary op l r).line.read = (Shape.binary op l r).leaning := by
    rw [Shape.line, Line.read, read_append, operand_read, left.1, Shape.leaning]
    exact right.2 op _ (right_fits plain)
  refine ⟨read, fun outer before fits => ?_⟩
  cases parens : (Shape.binary op l r).needsParens outer.text with
  | true =>
    obtain ⟨a, ss, unsigned⟩ := grouped_unsigned parens
    rw [← parens]
    refine single_reads _ outer before read ⟨_, unsigned⟩ fun logical => ?_
    -- what has parentheses under its own operator is an assignment
    rw [Shape.isBinary, beq_eq_false_iff_ne]
    intro same
    rw [Shape.needsParens, same, logical_kept outer logical, bne_self_eq_false] at parens
    cases parens
  | false =>
    cases own : (Shape.binary op l r).isBinary outer.text with
    | false =>
      rw [← parens]
      exact single_reads _ outer before read (single_operand _ outer.text plain own) fun _ => own
    | true =>
      obtain ⟨_, a, b, same⟩ := own_binary parens own
      cases same
      have logical := fits parens own
      rw [Shape.line, bare_operand, read_onto_append, right.2 op _ fun _ _ => logical, left.2 op _ fun _ _ => logical,
        attach_assoc op logical, Shape.leaning]

mutual

theorem plain_reads (f : Shape) (plain : f.Plain) : Reads f := by
  match f with
  | .word w => exact reads_of_read plain (fun _ => rfl) rfl
  | .negative w => exact absurd (Rotates.minus w) (plain _)
  | .unary s x =>
    apply reads_of_read plain fun _ => rfl
    obtain ⟨t, operand⟩ := single_operand x s.text plain.2 (unary_of_other plain)
    have inner := operand_read (x.needsParens s.text) x.line
    rw [operand, (plain_reads x plain.2).1] at inner
    rw [Shape.line, Line.read, operand, read_signed, Shape.leaning, ← inner]
    rfl
  | .binary op l r => exact binary_reads plain (plain_reads l plain.2.1) (plain_reads r plain.2.2)
  | .conditional c a b =>
    apply reads_of_read plain fun _ => rfl
    rw [Shape.line, Line.read, operand_read, operand_read, operand_read, (plain_reads c plain.1).1, (plain_reads a plain.2.1).1,
      (plain_reads b plain.2.2).1, Shape.leaning]
  | .suffixed x suffix =>
    apply reads_of_read plain fun _ => rfl
    obtain ⟨a, ss, operand⟩ := suffix_unsigned x suffix plain
    have inner := operand_read (x.needsParens suffix.mark) x.line
    rw [operand, (plain_reads x plain.2.1).1] at inner
    rw [Shape.line, Line.read, operand, read_suffixed, inner, suffix_reads suffix plain.2.2, Shape.leaning]

theorem suffix_reads (suffix : Suffix Shape) (plain : suffixPlain suffix) : suffixRead (suffixLine suffix) = suffixLeaning suffix := by
  match suffix with
  | .test type => rfl
  | .member name => rfl
  | .args args => rw [suffixLine, suffixRead, lines_read args plain, suffixLeaning]

theorem lines_read (fs : List Shape) (plain : allPlain fs) : linesRead (linesOf fs) = allLeaning fs := by
  match fs with
  | [] => rfl
  | f :: rest => rw [linesOf, linesRead, (plain_reads f plain.1).1, lines_read rest plain.2, allLeaning]

end

theorem plain_line_iff {f g : Shape} (plain : f.Plain) (plain' : g.Plain) : f.line = g.line ↔ Regrouped f g := by
  constructor
  · intro same
    rw [regrouped_iff, ← (plain_reads f plain).1, ← (plain_reads g plain').1, same]
  · exact fun same => same.line.1

theorem text_shows_all_but_lost_groupings (types : LocalId → Ty) (indent : Nat) {e e' : Expr} {f f' : Shape} (shape : HasShape e f)
    (shape' : HasShape e' f') :
    (e.text types indent = e'.text types indent ↔ f.line = f'.line) ∧
      (Rotates f f' → e.text types indent = e'.text types indent ∧ ¬ Regrouped f f') ∧
      (f.Plain → f'.Plain → (e.text types indent = e'.text types indent ↔ Regrouped f f')) := by
  have text := text_eq_iff types indent shape shape'
  refine ⟨text, ?_, ?_⟩
  · intro rotates
    exact ⟨text.mpr rotates.line, rotates.not_regrouped⟩
  · intro plain plain'
    exact text.trans (plain_line_iff plain plain')

def wordA : Word := ⟨"a", by decide⟩

def wordB : Word := ⟨"b", by decide⟩

def wordC : Word := ⟨"c", by decide⟩

def refTo (w : Word) : Expr := .localRef ⟨0, none⟩ ⟨0, .letBound, w.text⟩

section

variable (op : Op)

def rightExpr : Expr := .binary ⟨0, none⟩ op.text (refTo wordA) (.binary ⟨0, none⟩ op.text (refTo wordB) (refTo wordC))

def leftExpr : Expr := .binary ⟨0, none⟩ op.text (.binary ⟨0, none⟩ op.text (refTo wordA) (refTo wordB)) (refTo wordC)

def rightShape : Shape := .binary op (.word wordA) (.binary op (.word wordB) (.word wordC))

def leftShape : Shape := .binary op (.binary op (.word wordA) (.word wordB)) (.word wordC)

theorem right_shape : HasShape (rightExpr op) (rightShape op) :=
  .binary _ _ op rfl (.name _ _ wordA rfl rfl) (.binary _ _ op rfl (.name _ _ wordB rfl rfl) (.name _ _ wordC rfl rfl))

theorem left_shape : HasShape (leftExpr op) (leftShape op) :=
  .binary _ _ op rfl (.binary _ _ op rfl (.name _ _ wordA rfl rfl) (.name _ _ wordB rfl rfl)) (.name _ _ wordC rfl rfl)

end

def conjunction : Op := ⟨"&&", by decide⟩

def difference : Op := ⟨"-", by decide⟩

theorem conjunctions_shown_differences_not :
    (rightShape conjunction).Plain ∧ (leftShape conjunction).Plain ∧
      (rightExpr conjunction).text (fun _ => .unknown) 0 = "a && b && c" ∧
      Regrouped (rightShape conjunction) (leftShape conjunction) ∧
      Rotates (rightShape difference) (leftShape difference) ∧
      (rightExpr difference).text (fun _ => .unknown) 0 = (leftExpr difference).text (fun _ => .unknown) 0 ∧
      ¬ Regrouped (rightShape difference) (leftShape difference) := by
  have settled : ∀ x y : Shape, (Shape.binary conjunction x y).Settled := by
    intro x y g rotates
    cases rotates with
    | join _ _ arithmetic _ _ _ => cases arithmetic
  have plain : (rightShape conjunction).Plain := ⟨settled _ _, trivial, settled _ _, trivial, trivial⟩
  have plain' : (leftShape conjunction).Plain := ⟨settled _ _, ⟨settled _ _, trivial, trivial⟩, trivial⟩
  have rotates : Rotates (rightShape difference) (leftShape difference) := .join difference rfl rfl _ _ _
  obtain ⟨_, _, shown⟩ :=
    text_shows_all_but_lost_groupings (fun _ => .unknown) 0 (right_shape conjunction) (left_shape conjunction)
  obtain ⟨_, lost, _⟩ :=
    text_shows_all_but_lost_groupings (fun _ => .unknown) 0 (right_shape difference) (left_shape difference)
  exact ⟨plain, plain', rfl, (shown plain plain').mp rfl, rotates, lost rotates⟩

theorem nested_differences_not_shown :
    HasShape (rightExpr difference) (rightShape difference) ∧ HasShape (leftExpr difference) (leftShape difference) ∧
      (∀ types, (rightExpr difference).text types 0 = "a - b - c" ∧ (leftExpr difference).text types 0 = "a - b - c") ∧
      ¬ Regrouped (rightShape difference) (leftShape difference) :=
  ⟨right_shape difference, left_shape difference, fun _ => ⟨rfl, rfl⟩, (Rotates.join difference rfl rfl _ _ _).not_regrouped⟩

end Typeflow.Format
