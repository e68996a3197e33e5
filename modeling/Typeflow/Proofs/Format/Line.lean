import Typeflow.Proofs.Format.Token

set_option autoImplicit false

namespace Typeflow.Format

open Text Ty

inductive Suffix (α : Type) where
  | test (type : TypeText)
  | member (name : Word)
  | args (args : List α)

mutual

inductive Line where
  | chain (c : Chain)
  | choice (condition whenTrue whenFalse : Chain)

inductive Chain where
  | one (t : Term)
  | join (t : Term) (op : Op) (rest : Chain)

inductive Term where
  | mk (signs : List Sign) (atom : Atom) (suffixes : List (Suffix Line))

inductive Atom where
  | word (w : Word)
  | group (inner : Line)

end

def Sign.byte : Sign → UInt8
  | .not => 0x21
  | .minus => 0x2D
  | .plus => 0x2B

mutual

def Line.onto : Line → Bytes → Bytes
  | .chain c, rest => c.onto rest
  | .choice condition whenTrue whenFalse, rest =>
    condition.onto (spaced "?" (whenTrue.onto (spaced ":" (whenFalse.onto rest))))

def Chain.onto : Chain → Bytes → Bytes
  | .one t, rest => t.onto rest
  | .join t op c, rest => t.onto (spaced op.text (c.onto rest))

def Term.onto : Term → Bytes → Bytes
  | .mk signs atom suffixes, rest => signs.map Sign.byte ++ atom.onto (suffixesOnto suffixes rest)

def Atom.onto : Atom → Bytes → Bytes
  | .word w, rest => encode w.text ++ rest
  | .group inner, rest => 0x28 :: inner.onto (0x29 :: rest)

def suffixesOnto : List (Suffix Line) → Bytes → Bytes
  | [], rest => rest
  | s :: more, rest => suffixOnto s (suffixesOnto more rest)

def suffixOnto : Suffix Line → Bytes → Bytes
  | .test type, rest => spaced "instanceof" (encode type.text ++ rest)
  | .member name, rest => 0x2E :: (encode name.text ++ rest)
  | .args lines, rest => 0x28 :: argsOnto lines rest

def argsOnto : List Line → Bytes → Bytes
  | [], rest => 0x29 :: rest
  | l :: more, rest => l.onto (moreArgsOnto more rest)

def moreArgsOnto : List Line → Bytes → Bytes
  | [], rest => 0x29 :: rest
  | l :: more, rest => 0x2C :: 0x20 :: l.onto (moreArgsOnto more rest)

end

-- what can follow: the end, a parenthesis or comma that closes an argument, or one of the marks
def After (marks : List String) (rest : Bytes) : Prop :=
  (∀ b ∈ rest.head?, b = 0x29 ∨ b = 0x2C) ∨ ∃ mark ∈ marks, ∃ us, rest = spaced mark us

def chainMarks : List String := ["?", ":"]

def termMarks : List String := "?" :: ":" :: operators

section

variable {marks : List String} {rest us vs : Bytes}

theorem after_close : After marks (0x29 :: us) := by
  refine .inl fun b first => ?_
  cases first
  exact .inl rfl

theorem after_comma : After marks (0x2C :: us) := by
  refine .inl fun b first => ?_
  cases first
  exact .inr rfl

theorem after_spaced {mark : String} (member : mark ∈ marks) : After marks (spaced mark us) :=
  .inr ⟨mark, member, us, rfl⟩

theorem after_question : After chainMarks (spaced "?" us) := after_spaced List.mem_cons_self

theorem after_colon : After chainMarks (spaced ":" us) := after_spaced (List.mem_cons_of_mem _ List.mem_cons_self)

theorem After.mono {marks' : List String} (after : After marks rest) (within : marks ⊆ marks') : After marks' rest :=
  after.imp_right fun ⟨mark, member, us, text⟩ => ⟨mark, within member, us, text⟩

theorem After.chain (after : After [] rest) : After chainMarks rest := after.mono (List.nil_subset _)

theorem After.term (after : After chainMarks rest) : After termMarks rest := after.mono (by decide)

theorem After.first {b : UInt8} (after : After marks (b :: us)) : b = 0x29 ∨ b = 0x2C ∨ b = 0x20 := by
  obtain ends | ⟨mark, _, vs, text⟩ := after
  · exact (ends b rfl).imp_right .inl
  · exact .inr (.inr (List.cons.inj text).1)

theorem After.mem (solid : ∀ mark ∈ marks, Solid mark) {m : String} (solid' : Solid m) (after : After marks (spaced m us)) :
    m ∈ marks := by
  obtain ends | ⟨mark, member, vs, text⟩ := after
  · obtain wrong | wrong := ends 0x20 rfl <;> cases wrong
  · rw [(spaced_unique solid' (solid mark member) text).1]
    exact member

theorem after_op (op : Op) : After termMarks (spaced op.text us) :=
  after_spaced (List.mem_cons_of_mem _ (List.mem_cons_of_mem _ op.mem_operators))

theorem chain_marks_solid : ∀ mark ∈ chainMarks, Solid mark := by decide

theorem term_marks_solid : ∀ mark ∈ termMarks, Solid mark := by decide

theorem op_not_chain (op : Op) : op.text ∉ chainMarks :=
  (by decide : ∀ mark ∈ operators, mark ∉ chainMarks) op.text op.mem_operators

theorem not_after_question : ¬ After [] (spaced "?" us) :=
  fun after => absurd (after.mem (by simp) (by decide)) List.not_mem_nil

theorem After.stops (after : After marks rest) : Stops continues rest := by
  obtain ends | ⟨mark, member, us, rfl⟩ := after
  · intro b first
    obtain rfl | rfl := ends b first <;> rfl
  · exact stops_byte rfl _

-- nothing that can follow a term belongs to it
theorem suffix_or_end (s : Suffix Line) (after : After termMarks rest) : suffixOnto s us ≠ rest := by
  rintro rfl
  cases s with
  | test type =>
    rw [suffixOnto] at after
    exact absurd (after.mem term_marks_solid (by decide)) (by decide)
  | member name =>
    rw [suffixOnto] at after
    exact absurd after.first (by decide)
  | args lines =>
    rw [suffixOnto] at after
    exact absurd after.first (by decide)

theorem suffixes_stop (suffixes : List (Suffix Line)) (after : After termMarks rest) :
    Stops continues (suffixesOnto suffixes rest) := by
  match suffixes with
  | [] => exact after.stops
  | .test _ :: _ | .member _ :: _ | .args _ :: _ => exact stops_byte rfl _

theorem more_args_after (lines : List Line) : After marks (moreArgsOnto lines rest) := by
  cases lines with
  | nil => exact after_close
  | cons l more => exact after_comma

end

def isSignByte (b : UInt8) : Bool := b == 0x21 || b == 0x2D || b == 0x2B

theorem sign_byte (s : Sign) : isSignByte s.byte := by cases s <;> rfl

theorem sign_byte_inj {s s' : Sign} (same : s.byte = s'.byte) : s = s' := by
  cases s <;> cases s' <;> simp_all [Sign.byte]

theorem sign_not_word {b : UInt8} (sign : isSignByte b) : isWordByte b = false := by
  simp only [isSignByte, Bool.or_eq_true, beq_iff_eq] at sign
  obtain (rfl | rfl) | rfl := sign <;> rfl

theorem Atom.first (a : Atom) (rest : Bytes) : ∃ b us, a.onto rest = b :: us ∧ (isWordByte b ∨ b = 0x28) := by
  cases a with
  | word w =>
    obtain ⟨b, more, bytes, allowed⟩ := w.word.first
    exact ⟨b, _, by rw [Atom.onto, bytes]; rfl, .inl allowed⟩
  | group inner => exact ⟨0x28, _, rfl, .inr rfl⟩

theorem Atom.unsigned (a : Atom) (rest : Bytes) : Stops isSignByte (a.onto rest) := by
  obtain ⟨b, us, text, starts⟩ := a.first rest
  rw [text]
  apply stops_byte
  obtain allowed | rfl := starts
  · cases sign : isSignByte b with
    | false => rfl
    | true => exact absurd (sign_not_word sign) (by rw [allowed]; decide)
  · rfl

theorem signs_unique (signs signs' : List Sign) (a a' : Atom) {us vs : Bytes}
    (same : signs.map Sign.byte ++ a.onto us = signs'.map Sign.byte ++ a'.onto vs) : signs = signs' ∧ a.onto us = a'.onto vs := by
  have all : ∀ signs : List Sign, ∀ b ∈ signs.map Sign.byte, isSignByte b :=
    fun signs => List.forall_mem_map.mpr fun s _ => sign_byte s
  obtain ⟨bytes, rest⟩ := run_unique isSignByte _ _ _ _ (all signs) (all signs') (a.unsigned us) (a'.unsigned vs) same
  exact ⟨List.map_injective_iff.mpr (fun _ _ => sign_byte_inj) bytes, rest⟩

theorem Term.first (t : Term) (rest : Bytes) : ∃ b us, t.onto rest = b :: us ∧ b ≠ 0x29 := by
  obtain ⟨signs, atom, suffixes⟩ := t
  cases signs with
  | nil =>
    obtain ⟨b, us, text, starts⟩ := atom.first (suffixesOnto suffixes rest)
    refine ⟨b, us, text, ?_⟩
    rintro rfl
    obtain wrong | wrong := starts <;> cases wrong
  | cons s more => exact ⟨s.byte, _, rfl, by cases s <;> decide⟩

-- arguments do not start with the parenthesis that closes them
theorem Line.first (l : Line) (rest us : Bytes) : l.onto rest ≠ 0x29 :: us := by
  have opens : ∀ (c : Chain) (after : Bytes), c.onto after ≠ 0x29 :: us := by
    intro c after same
    obtain ⟨t, next, text⟩ : ∃ t next, c.onto after = Term.onto t next := by
      cases c with
      | one t => exact ⟨t, _, rfl⟩
      | join t op c => exact ⟨t, _, rfl⟩
    obtain ⟨b, vs, bytes, other⟩ := t.first next
    rw [text, bytes] at same
    exact other (List.cons.inj same).1
  cases l with
  | chain c => exact opens c _
  | choice condition whenTrue whenFalse => exact opens condition _

mutual

-- the first bytes decide between the forms of a part, and what can follow it decides where it ends
theorem line_unique (l l' : Line) (us vs : Bytes) (ends : After [] us) (ends' : After [] vs)
    (same : l.onto us = l'.onto vs) : l = l' ∧ us = vs := by
  match l, l' with
  | .chain c, .chain c' =>
    obtain ⟨rfl, rest⟩ := chain_unique c c' us vs ends.chain ends'.chain same
    exact ⟨rfl, rest⟩
  | .chain c, .choice condition whenTrue whenFalse =>
    obtain ⟨_, rfl⟩ := chain_unique c condition us _ ends.chain after_question same
    exact absurd ends not_after_question
  | .choice condition whenTrue whenFalse, .chain c =>
    obtain ⟨_, rfl⟩ := chain_unique condition c _ vs after_question ends'.chain same
    exact absurd ends' not_after_question
  | .choice condition whenTrue whenFalse, .choice condition' whenTrue' whenFalse' =>
    obtain ⟨rfl, more⟩ := chain_unique condition condition' _ _ after_question after_question same
    obtain ⟨rfl, last⟩ := chain_unique whenTrue whenTrue' _ _ after_colon after_colon (spaced_inj more)
    obtain ⟨rfl, rest⟩ := chain_unique whenFalse whenFalse' us vs ends.chain ends'.chain (spaced_inj last)
    exact ⟨rfl, rest⟩

theorem chain_unique (c c' : Chain) (us vs : Bytes) (ends : After chainMarks us) (ends' : After chainMarks vs)
    (same : c.onto us = c'.onto vs) : c = c' ∧ us = vs := by
  match c, c' with
  | .one t, .one t' =>
    obtain ⟨rfl, rest⟩ := term_unique t t' us vs ends.term ends'.term same
    exact ⟨rfl, rest⟩
  | .one t, .join t' op rest' =>
    obtain ⟨_, rfl⟩ := term_unique t t' us _ ends.term (after_op op) same
    exact absurd (ends.mem chain_marks_solid op.solid) (op_not_chain op)
  | .join t op rest, .one t' =>
    obtain ⟨_, rfl⟩ := term_unique t t' _ vs (after_op op) ends'.term same
    exact absurd (ends'.mem chain_marks_solid op.solid) (op_not_chain op)
  | .join t op rest, .join t' op' rest' =>
    obtain ⟨rfl, joined⟩ := term_unique t t' _ _ (after_op op) (after_op op') same
    obtain ⟨ops, more⟩ := spaced_unique op.solid op'.solid joined
    obtain ⟨rfl, after⟩ := chain_unique rest rest' us vs ends ends' more
    exact ⟨by rw [Op.ext ops], after⟩

theorem term_unique (t t' : Term) (us vs : Bytes) (ends : After termMarks us) (ends' : After termMarks vs)
    (same : t.onto us = t'.onto vs) : t = t' ∧ us = vs := by
  match t, t' with
  | .mk signs atom suffixes, .mk signs' atom' suffixes' =>
    obtain ⟨rfl, more⟩ := signs_unique signs signs' atom atom' same
    obtain ⟨rfl, tail⟩ := atom_unique atom atom' _ _ (suffixes_stop suffixes ends) (suffixes_stop suffixes' ends') more
    obtain ⟨rfl, after⟩ := suffixes_unique suffixes suffixes' us vs ends ends' tail
    exact ⟨rfl, after⟩

theorem atom_unique (a a' : Atom) (us vs : Bytes) (stops : Stops continues us) (stops' : Stops continues vs)
    (same : a.onto us = a'.onto vs) : a = a' ∧ us = vs := by
  match a, a' with
  | .word w, .word w' =>
    obtain ⟨rfl, rest⟩ := Word.unique (stops_word stops) (stops_word stops') same
    exact ⟨rfl, rest⟩
  | .word w, .group inner => exact absurd same (word_or_byte w.word rfl)
  | .group inner, .word w => exact absurd same.symm (word_or_byte w.word rfl)
  | .group inner, .group inner' =>
    obtain ⟨rfl, rest⟩ := line_unique inner inner' _ _ after_close after_close (List.cons.inj same).2
    exact ⟨rfl, (List.cons.inj rest).2⟩

theorem suffixes_unique (xs ys : List (Suffix Line)) (us vs : Bytes) (ends : After termMarks us) (ends' : After termMarks vs)
    (same : suffixesOnto xs us = suffixesOnto ys vs) : xs = ys ∧ us = vs := by
  match xs, ys with
  | [], [] => exact ⟨rfl, same⟩
  | [], y :: ys => exact absurd same.symm (suffix_or_end y ends)
  | x :: xs, [] => exact absurd same (suffix_or_end x ends')
  | x :: xs, y :: ys =>
    obtain ⟨rfl, more⟩ := suffix_unique x y _ _ (suffixes_stop xs ends) (suffixes_stop ys ends') same
    obtain ⟨rfl, after⟩ := suffixes_unique xs ys us vs ends ends' more
    exact ⟨rfl, after⟩

theorem suffix_unique (s s' : Suffix Line) (us vs : Bytes) (stops : Stops continues us) (stops' : Stops continues vs)
    (same : suffixOnto s us = suffixOnto s' vs) : s = s' ∧ us = vs := by
  match s, s' with
  | .test type, .test type' =>
    obtain ⟨rfl, rest⟩ := TypeText.unique stops stops' (spaced_inj same)
    exact ⟨rfl, rest⟩
  | .member name, .member name' =>
    obtain ⟨rfl, rest⟩ := Word.unique (stops_word stops) (stops_word stops') (List.cons.inj same).2
    exact ⟨rfl, rest⟩
  | .args lines, .args lines' =>
    obtain ⟨rfl, rest⟩ := args_lines_unique lines lines' us vs (List.cons.inj same).2
    exact ⟨rfl, rest⟩
  | .test .., .member .. | .test .., .args .. | .member .., .test .. => cases (List.cons.inj same).1
  | .member .., .args .. | .args .., .test .. | .args .., .member .. => cases (List.cons.inj same).1

theorem args_lines_unique (xs ys : List Line) (us vs : Bytes) (same : argsOnto xs us = argsOnto ys vs) : xs = ys ∧ us = vs := by
  match xs, ys with
  | [], [] => exact ⟨rfl, (List.cons.inj same).2⟩
  | [], y :: ys => exact absurd same.symm (y.first _ _)
  | x :: xs, [] => exact absurd same (x.first _ _)
  | x :: xs, y :: ys =>
    obtain ⟨rfl, more⟩ := line_unique x y _ _ (more_args_after xs) (more_args_after ys) same
    obtain ⟨rfl, after⟩ := more_lines_unique xs ys us vs more
    exact ⟨rfl, after⟩

theorem more_lines_unique (xs ys : List Line) (us vs : Bytes) (same : moreArgsOnto xs us = moreArgsOnto ys vs) :
    xs = ys ∧ us = vs := by
  match xs, ys with
  | [], [] => exact ⟨rfl, (List.cons.inj same).2⟩
  | [], y :: ys => cases (List.cons.inj same).1
  | x :: xs, [] => cases (List.cons.inj same).1
  | x :: xs, y :: ys =>
    obtain ⟨rfl, more⟩ := line_unique x y _ _ (more_args_after xs) (more_args_after ys)
      (List.cons.inj (List.cons.inj same).2).2
    obtain ⟨rfl, after⟩ := more_lines_unique xs ys us vs more
    exact ⟨rfl, after⟩

end

end Typeflow.Format
