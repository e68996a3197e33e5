import Typeflow.Proofs.Format.Line
import Typeflow.Tree.Printer

set_option autoImplicit false

namespace Typeflow.Format

open Text Ty

inductive Shape where
  | word (w : Word)
  | negative (w : Word)
  | unary (sign : Sign) (operand : Shape)
  | binary (op : Op) (left right : Shape)
  | conditional (condition whenTrue whenFalse : Shape)
  | suffixed (operand : Shape) (suffix : Suffix Shape)

mutual

inductive HasShape : Expr → Shape → Prop
  | name (s : Site) (target : Local) (w : Word) (named : target.name = w.text) (letter : w.isNumber = false) :
      HasShape (.localRef s target) (.word w)
  | number (s : Site) (digits : String) (w : Word) (spelt : digits = w.text) (digit : w.isNumber = true) :
      HasShape (.literal s (.numeric digits)) (.word w)
  | negative (s : Site) (digits : String) (w : Word) (spelt : digits = "-" ++ w.text) (digit : w.isNumber = true) :
      HasShape (.literal s (.numeric digits)) (.negative w)
  | unary {e : Expr} {f : Shape} (s : Site) (op : String) (sign : Sign) (spelt : op = sign.text) (operand : HasShape e f) :
      HasShape (.unary s op e) (.unary sign f)
  | binary {l r : Expr} {f g : Shape} (s : Site) (op : String) (known : Op) (spelt : op = known.text) (left : HasShape l f)
      (right : HasShape r g) : HasShape (.binary s op l r) (.binary known f g)
  | instanceOf {e : Expr} {f : Shape} (s : Site) (type : Ty) (check : TypeText) (printed : type.text = check.text)
      (operand : HasShape e f) : HasShape (.instanceOf s e type) (.suffixed f (.test check))
  | conditional {c a b : Expr} {f g h : Shape} (s : Site) (condition : HasShape c f) (whenTrue : HasShape a g)
      (whenFalse : HasShape b h) : HasShape (.conditional s c a b) (.conditional f g h)
  | property {e : Expr} {f : Shape} (s : Site) (name : String) (w : Word) (spelt : name = w.text) (object : HasShape e f) :
      HasShape (.property s e name) (.suffixed f (.member w))
  | call {e : Expr} {f : Shape} {es : List Expr} {fs : List Shape} (s : Site) (callee : HasShape e f) (args : HaveShapes es fs) :
      HasShape (.call s e es) (.suffixed f (.args fs))

inductive HaveShapes : List Expr → List Shape → Prop
  | nil : HaveShapes [] []
  | cons {e : Expr} {f : Shape} {es : List Expr} {fs : List Shape} (first : HasShape e f) (others : HaveShapes es fs) :
      HaveShapes (e :: es) (f :: fs)

end

def Shape.needsParens (op : String) : Shape → Bool
  | .conditional .. => true
  | .binary inner _ _ => inner.text != op || isAssignment inner.text
  | _ => false

theorem HasShape.needs_parens {e : Expr} {f : Shape} (shape : HasShape e f) (op : String) :
    Typeflow.needsParens op e = f.needsParens op := by
  cases shape with
  | binary s op known spelt left right => rw [spelt]; rfl
  | _ => rfl

def Term.signed (s : Sign) : Term → Term
  | .mk signs atom suffixes => .mk (s :: signs) atom suffixes

def Term.suffixed (s : Suffix Line) : Term → Term
  | .mk signs atom suffixes => .mk signs atom (suffixes ++ [s])

namespace Chain

def ofAtom (a : Atom) : Chain := .one (.mk [] a [])

-- a sign goes to the first term, whatever follows it
def signed (s : Sign) : Chain → Chain
  | .one t => .one (t.signed s)
  | .join t op rest => .join (t.signed s) op rest

-- and a suffix goes to the last one
def suffixed (s : Suffix Line) : Chain → Chain
  | .one t => .one (t.suffixed s)
  | .join t op rest => .join t op (rest.suffixed s)

def append : Chain → Op → Chain → Chain
  | .one t, op, after => .join t op after
  | .join t first rest, op, after => .join t first (rest.append op after)

end Chain

def Suffix.mark {α : Type} : Suffix α → String
  | .test _ => "instanceof"
  | .member _ => "."
  | .args _ => "()"

def Line.operand (parens : Bool) : Line → Chain
  | .chain c => if parens then .ofAtom (.group (.chain c)) else c
  | .choice condition whenTrue whenFalse => .ofAtom (.group (.choice condition whenTrue whenFalse))

mutual

def Shape.line : Shape → Line
  | .word w => .chain (.ofAtom (.word w))
  | .negative w => .chain ((Chain.ofAtom (.word w)).signed .minus)
  | .unary sign x => .chain ((x.line.operand (x.needsParens sign.text)).signed sign)
  | .binary op l r =>
    .chain ((l.line.operand (l.needsParens op.text)).append op (r.line.operand (r.needsParens op.text)))
  | .conditional c a b =>
    .choice (c.line.operand (c.needsParens "?")) (a.line.operand (a.needsParens "?")) (b.line.operand (b.needsParens "?"))
  | .suffixed x suffix => .chain ((x.line.operand (x.needsParens suffix.mark)).suffixed (suffixLine suffix))

def suffixLine : Suffix Shape → Suffix Line
  | .test type => .test type
  | .member name => .member name
  | .args args => .args (linesOf args)

def linesOf : List Shape → List Line
  | [] => []
  | f :: rest => f.line :: linesOf rest

end

theorem lines_of_eq (fs : List Shape) : linesOf fs = fs.map Shape.line := by
  induction fs with
  | nil => rfl
  | cons f rest ih => rw [linesOf, ih, List.map_cons]

theorem signed_onto (s : Sign) (c : Chain) (rest : Bytes) : (c.signed s).onto rest = s.byte :: c.onto rest := by
  cases c with
  | one t => cases t; rfl
  | join t op after => cases t; rfl

theorem suffixes_onto_append (ss : List (Suffix Line)) (s : Suffix Line) (rest : Bytes) :
    suffixesOnto (ss ++ [s]) rest = suffixesOnto ss (suffixOnto s rest) := by
  induction ss with
  | nil => rfl
  | cons first more ih => rw [List.cons_append, suffixesOnto, ih, suffixesOnto]

theorem suffixed_onto (s : Suffix Line) (c : Chain) (rest : Bytes) : (c.suffixed s).onto rest = c.onto (suffixOnto s rest) := by
  match c with
  | .one (.mk signs atom suffixes) =>
    rw [Chain.suffixed, Term.suffixed, Chain.onto, Term.onto, suffixes_onto_append]
    rfl
  | .join t op after => rw [Chain.suffixed, Chain.onto, suffixed_onto s after, Chain.onto]

theorem append_onto (c : Chain) (op : Op) (after : Chain) (rest : Bytes) :
    (c.append op after).onto rest = c.onto (spaced op.text (after.onto rest)) := by
  match c with
  | .one t => rfl
  | .join t first more => rw [Chain.append, Chain.onto, append_onto more op after, Chain.onto]

theorem line_is_chain {op : String} {f : Shape} (bare : f.needsParens op = false) : ∃ c, f.line = .chain c := by
  cases f with
  | conditional c a b => cases bare
  | _ => exact ⟨_, by rw [Shape.line]⟩

section

variable {types : LocalId → Ty} {indent : Nat}

theorem operand_text {e : Expr} {f : Shape} (shape : HasShape e f)
    (text : ∀ rest, encode (e.text types indent) ++ rest = f.line.onto rest) (op : String) (rest : Bytes) :
    encode (parenthesized (Typeflow.needsParens op e) (e.text types indent)) ++ rest =
      (f.line.operand (f.needsParens op)).onto rest := by
  rw [shape.needs_parens op]
  cases parens : f.needsParens op with
  | true =>
    have grouped : f.line.operand true = .ofAtom (.group f.line) := by cases f.line <;> rfl
    rw [grouped, parenthesized, if_pos rfl, encode_append, encode_append, List.append_assoc, List.append_assoc, text]
    rfl
  | false =>
    obtain ⟨c, line⟩ := line_is_chain parens
    rw [parenthesized, if_neg Bool.false_ne_true, text, line]
    rfl

variable (types indent)

mutual

theorem text_line {e : Expr} {f : Shape} (shape : HasShape e f) (rest : Bytes) :
    encode (e.text types indent) ++ rest = f.line.onto rest := by
  match shape with
  | .name s target w named _ => rw [Expr.text, named]; rfl
  | .number s digits w spelt _ => rw [Expr.text, spelt]; rfl
  | .negative s digits w spelt _ => rw [Expr.text, spelt, Literal.text, encode_append]; rfl
  | .unary s op sign spelt operand =>
    rw [Expr.text, encode_append, List.append_assoc, operand_text operand (text_line operand), Shape.line, Line.onto, signed_onto,
      spelt]
    cases sign <;> rfl
  | .binary s op known spelt left right =>
    simp only [Expr.text, encode_append, List.append_assoc]
    rw [operand_text left (text_line left), operand_text right (text_line right), Shape.line, Line.onto, append_onto, spelt]
    rfl
  | .instanceOf s type check printed operand =>
    simp only [Expr.text, encode_append, List.append_assoc]
    rw [operand_text operand (text_line operand), Shape.line, Line.onto, suffixed_onto, printed]
    rfl
  | .conditional s condition whenTrue whenFalse =>
    simp only [Expr.text, encode_append, List.append_assoc]
    rw [operand_text condition (text_line condition), operand_text whenTrue (text_line whenTrue),
      operand_text whenFalse (text_line whenFalse)]
    rfl
  | .property s name w spelt object =>
    simp only [Expr.text, encode_append, List.append_assoc]
    rw [operand_text object (text_line object), Shape.line, Line.onto, suffixed_onto, spelt]
    rfl
  | .call s callee args =>
    simp only [Expr.text, encode_append, List.append_assoc]
    rw [operand_text callee (text_line callee), Shape.line, Line.onto, suffixed_onto, suffixLine, suffixOnto]
    exact congrArg _ (congrArg _ (args_text args rest))

theorem args_text {es : List Expr} {fs : List Shape} (shapes : HaveShapes es fs) (rest : Bytes) :
    encode (exprsText types indent es) ++ 0x29 :: rest = argsOnto (linesOf fs) rest := by
  match shapes with
  | .nil => rfl
  | .cons first .nil => rw [exprsText, text_line first]; rfl
  | .cons first (.cons second others) =>
    have more := args_text (.cons second others) rest
    rw [exprsText, encode_append, encode_append, List.append_assoc, List.append_assoc, more, text_line first]
    · rfl
    · exact List.cons_ne_nil _ _

end

theorem text_eq_iff {e e' : Expr} {f f' : Shape} (shape : HasShape e f) (shape' : HasShape e' f') :
    e.text types indent = e'.text types indent ↔ f.line = f'.line := by
  have text := text_line types indent shape []
  have text' := text_line types indent shape' []
  constructor
  · intro same
    rw [same] at text
    exact (line_unique f.line f'.line [] [] (.inl nofun) (.inl nofun) (text.symm.trans text')).1
  · intro same
    rw [same] at text
    exact encode_inj _ _ (List.append_cancel_right (text.trans text'.symm))

end

end Typeflow.Format
