import Typeflow.Text.Utf8
import Mathlib.Data.List.Basic

set_option autoImplicit false

namespace Typeflow.Text

theorem encode_append (s t : String) : encode (s ++ t) = encode s ++ encode t := by
  simp [encode]

theorem byte_number (n : Nat) (small : n < 256) : (UInt8.ofNat n).toNat = n := by
  simp
  omega

theorem tail_number (b : UInt8) (n : Nat) (number : b.toNat = n % 64 + 128) : isTail b ∧ tailBits b = n % 64 := by
  constructor
  · simp only [isTail, Bool.and_eq_true, decide_eq_true_eq, UInt8.le_iff_toNat_le, UInt8.reduceToNat]
    omega
  · unfold tailBits
    omega

section

variable (v : Nat) (lead b c d : UInt8) (rest : Bytes)

theorem leading_two (low : 128 ≤ v) (high : v ≤ 2047) (first : lead.toNat = v / 64 % 32 + 192)
    (second : b.toNat = v % 64 + 128) : leading? lead (b :: rest) = some (Char.ofNat v, 1) := by
  obtain ⟨tail, bits⟩ := tail_number b v second
  have number : (lead.toNat - 0xC0) * 64 + tailBits b = v := by omega
  have large : ¬ lead.toNat < 194 := by omega
  have small : lead.toNat < 224 := by omega
  unfold leading?
  simp only [UInt8.lt_iff_toNat_lt, UInt8.reduceToNat]
  rw [if_neg (by omega), if_neg large, if_pos small, if_pos tail, number]

-- Short forms and surrogates are what the second byte must not be.
theorem second_of_three (low : 2048 ≤ v) (high : v ≤ 65535) (valid : v < 0xD800 ∨ 0xDFFF < v)
    (first : lead.toNat = v / 4096 % 16 + 224) (second : b.toNat = v / 64 % 64 + 128) :
    (secondRange lead).1 ≤ b ∧ b ≤ (secondRange lead).2 := by
  unfold secondRange
  simp only [beq_iff_eq, ← UInt8.toNat_inj, UInt8.reduceToNat]
  split_ifs <;> simp only [UInt8.le_iff_toNat_le, UInt8.reduceToNat] <;> omega

theorem leading_three (low : 2048 ≤ v) (high : v ≤ 65535) (valid : v < 0xD800 ∨ 0xDFFF < v)
    (first : lead.toNat = v / 4096 % 16 + 224) (second : b.toNat = v / 64 % 64 + 128)
    (third : c.toNat = v % 64 + 128) : leading? lead (b :: c :: rest) = some (Char.ofNat v, 2) := by
  obtain ⟨_, bits⟩ := tail_number b (v / 64) second
  obtain ⟨tail, bits'⟩ := tail_number c v third
  have number : ((lead.toNat - 0xE0) * 64 + tailBits b) * 64 + tailBits c = v := by omega
  obtain ⟨above, below⟩ := second_of_three v lead b low high valid first second
  have large : ¬ lead.toNat < 224 := by omega
  have small : lead.toNat < 240 := by omega
  unfold leading?
  simp only [UInt8.lt_iff_toNat_lt, UInt8.reduceToNat]
  rw [if_neg (by omega), if_neg (by omega), if_neg large, if_pos small]
  simp only [above, below, tail, number, decide_true, Bool.and_self, if_true]

theorem second_of_four (low : 65536 ≤ v) (high : v < 0x110000) (first : lead.toNat = v / 262144 % 8 + 240)
    (second : b.toNat = v / 4096 % 64 + 128) : (secondRange lead).1 ≤ b ∧ b ≤ (secondRange lead).2 := by
  unfold secondRange
  simp only [beq_iff_eq, ← UInt8.toNat_inj, UInt8.reduceToNat]
  split_ifs <;> simp only [UInt8.le_iff_toNat_le, UInt8.reduceToNat] <;> omega

theorem leading_four (low : 65536 ≤ v) (high : v < 0x110000) (first : lead.toNat = v / 262144 % 8 + 240)
    (second : b.toNat = v / 4096 % 64 + 128) (third : c.toNat = v / 64 % 64 + 128) (fourth : d.toNat = v % 64 + 128) :
    leading? lead (b :: c :: d :: rest) = some (Char.ofNat v, 3) := by
  obtain ⟨_, bits⟩ := tail_number b (v / 4096) second
  obtain ⟨tail, bits'⟩ := tail_number c (v / 64) third
  obtain ⟨tail', bits''⟩ := tail_number d v fourth
  have number : (((lead.toNat - 0xF0) * 64 + tailBits b) * 64 + tailBits c) * 64 + tailBits d = v := by omega
  obtain ⟨above, below⟩ := second_of_four v lead b low high first second
  have large : ¬ lead.toNat < 240 := by omega
  have small : lead.toNat < 245 := by omega
  unfold leading?
  simp only [UInt8.lt_iff_toNat_lt, UInt8.reduceToNat]
  rw [if_neg (by omega), if_neg (by omega), if_neg (by omega), if_neg large, if_pos small]
  simp only [above, below, tail, tail', number, decide_true, Bool.and_self, if_true]

end

theorem leading_encode (c : Char) (rest : Bytes) :
    ∃ lead tail, String.utf8EncodeChar c = lead :: tail ∧ leading? lead (tail ++ rest) = some (c, tail.length) := by
  have valid : c.val.toNat < 0xD800 ∨ 0xDFFF < c.val.toNat ∧ c.val.toNat < 0x110000 := c.valid
  have back : Char.ofNat c.val.toNat = c := Char.ofNat_toNat c
  unfold String.utf8EncodeChar
  generalize c.val.toNat = v at valid back
  subst back
  dsimp only
  split_ifs with one two three
  · refine ⟨_, _, rfl, ?_⟩
    have number := byte_number v (by omega)
    unfold leading?
    simp only [UInt8.lt_iff_toNat_lt, UInt8.reduceToNat, number]
    rw [if_pos (by omega)]
    rfl
  · refine ⟨_, _, rfl, leading_two v _ _ rest (by omega) two ?_ ?_⟩ <;> exact byte_number _ (by omega)
  · refine ⟨_, _, rfl, leading_three v _ _ _ rest (by omega) three (by omega) ?_ ?_ ?_⟩ <;> exact byte_number _ (by omega)
  · refine ⟨_, _, rfl, leading_four v _ _ _ _ rest (by omega) (by omega) ?_ ?_ ?_ ?_⟩ <;> exact byte_number _ (by omega)

theorem decode_after_tail (tail rest : Bytes) : decodeAfter tail.length (tail ++ rest) = decodeAfter 0 rest := by
  induction tail with
  | nil => rfl
  | cons b tail ih => exact ih

theorem decode_char (c : Char) (rest : Bytes) : decode (String.utf8EncodeChar c ++ rest) = .char c :: decode rest := by
  obtain ⟨lead, tail, bytes, leads⟩ := leading_encode c rest
  rw [decode, bytes, List.cons_append, decodeAfter, leads]
  simp only [decode_after_tail, decode]

theorem decode_encode (s : String) : decode (encode s) = s.toList.map .char := by
  rw [encode]
  induction s.toList with
  | nil => rfl
  | cons c rest ih => rw [List.flatMap_cons, decode_char, ih, List.map_cons]

theorem text_encode (s : String) : text? (encode s) = some s := by
  have chars : (s.toList.map Piece.char).mapM Piece.char? = some s.toList := by
    induction s.toList with
    | nil => rfl
    | cons c rest ih => simp [List.mapM_cons, ih, Piece.char?]
  rw [text?, decode_encode, chars]
  simp

theorem lossy_encode (s : String) : lossy (encode s) = s := by
  rw [lossy, decode_encode, List.map_map]
  simp [Function.comp_def, Piece.shown]

theorem encode_inj (s t : String) (same : encode s = encode t) : s = t := by
  rw [← lossy_encode s, same, lossy_encode]

theorem number_of_nat (v : Nat) (valid : v < 0xD800 ∨ 0xDFFF < v ∧ v < 0x110000) : (Char.ofNat v).val.toNat = v := by
  have valid : v.isValidChar := valid
  rw [Char.ofNat, dif_pos valid]
  rfl

theorem byte_of_number (b : UInt8) (n : Nat) (number : b.toNat = n) : UInt8.ofNat n = b := by
  rw [← number, UInt8.ofNat_toNat]

theorem tail_range (b : UInt8) (tail : isTail b = true) : 0x80 ≤ b.toNat ∧ b.toNat ≤ 0xBF := by
  simpa [isTail, UInt8.le_iff_toNat_le] using tail

theorem second_range (lead b : UInt8) (above : (secondRange lead).1 ≤ b) (below : b ≤ (secondRange lead).2) :
    0x80 ≤ b.toNat ∧ b.toNat ≤ 0xBF ∧ (lead.toNat = 0xE0 → 0xA0 ≤ b.toNat) ∧ (lead.toNat = 0xED → b.toNat ≤ 0x9F) ∧
      (lead.toNat = 0xF0 → 0x90 ≤ b.toNat) ∧ (lead.toNat = 0xF4 → b.toNat ≤ 0x8F) := by
  unfold secondRange at above below
  simp only [beq_iff_eq, ← UInt8.toNat_inj, UInt8.reduceToNat] at above below
  split_ifs at above below <;> simp only [UInt8.le_iff_toNat_le, UInt8.reduceToNat] at above below <;> omega

-- A character that was read is written as the bytes it was read from.
theorem encode_leading (lead : UInt8) (rest : Bytes) (c : Char) (extra : Nat) (read : leading? lead rest = some (c, extra)) :
    ∃ tail after, rest = tail ++ after ∧ tail.length = extra ∧ String.utf8EncodeChar c = lead :: tail := by
  unfold leading? at read
  simp only [UInt8.lt_iff_toNat_lt, UInt8.reduceToNat] at read
  split_ifs at read with one high two three four
  · cases read
    refine ⟨[], rest, rfl, rfl, ?_⟩
    unfold String.utf8EncodeChar
    rw [number_of_nat _ (by omega)]
    dsimp only
    rw [if_pos (by omega), byte_of_number lead _ rfl]
  · match rest with
    | b :: after =>
      dsimp only at read
      split_ifs at read with tail
      obtain ⟨rfl, rfl⟩ := Prod.mk.inj (Option.some.inj read)
      have := tail_range b tail
      refine ⟨[b], after, rfl, rfl, ?_⟩
      unfold String.utf8EncodeChar tailBits
      rw [number_of_nat _ (by omega)]
      dsimp only
      rw [if_neg (by omega), if_pos (by omega), byte_of_number lead _ (by omega), byte_of_number b _ (by omega)]
  · match rest with
    | b :: c :: after =>
      dsimp only at read
      split_ifs at read with tail
      obtain ⟨rfl, rfl⟩ := Prod.mk.inj (Option.some.inj read)
      simp only [Bool.and_eq_true, decide_eq_true_eq] at tail
      have := second_range lead b tail.1.1 tail.1.2
      have := tail_range c tail.2
      refine ⟨[b, c], after, rfl, rfl, ?_⟩
      unfold String.utf8EncodeChar tailBits
      rw [number_of_nat _ (by omega)]
      dsimp only
      rw [if_neg (by omega), if_neg (by omega), if_pos (by omega), byte_of_number lead _ (by omega),
        byte_of_number b _ (by omega), byte_of_number c _ (by omega)]
  · match rest with
    | b :: c :: d :: after =>
      dsimp only at read
      split_ifs at read with tail
      obtain ⟨rfl, rfl⟩ := Prod.mk.inj (Option.some.inj read)
      simp only [Bool.and_eq_true, decide_eq_true_eq] at tail
      have := second_range lead b tail.1.1.1 tail.1.1.2
      have := tail_range c tail.1.2
      have := tail_range d tail.2
      refine ⟨[b, c, d], after, rfl, rfl, ?_⟩
      unfold String.utf8EncodeChar tailBits
      rw [number_of_nat _ (by omega)]
      dsimp only
      rw [if_neg (by omega), if_neg (by omega), if_neg (by omega), byte_of_number lead _ (by omega),
        byte_of_number b _ (by omega), byte_of_number c _ (by omega), byte_of_number d _ (by omega)]

theorem encode_decoded (bytes : Bytes) (chars : List Char) (read : (decode bytes).mapM Piece.char? = some chars) :
    chars.flatMap String.utf8EncodeChar = bytes := by
  induction size : bytes.length using Nat.strongRecOn generalizing bytes chars with
  | _ n ih =>
  cases bytes with
  | nil =>
    cases read
    rfl
  | cons lead rest =>
    rw [decode, decodeAfter] at read
    cases leads : leading? lead rest with
    | none => simp [leads, Piece.char?] at read
    | some found =>
      obtain ⟨c, extra⟩ := found
      obtain ⟨tail, after, rfl, rfl, written⟩ := encode_leading lead rest c extra leads
      simp only [leads, decode_after_tail] at read
      rw [List.mapM_cons] at read
      cases more : (decodeAfter 0 after).mapM Piece.char? with
      | none => simp [more, Piece.char?] at read
      | some others =>
        simp only [more, Piece.char?, Option.pure_def, Option.bind_eq_bind, Option.bind_some, Option.some.injEq] at read
        have shorter : after.length < n := by
          rw [← size, List.length_cons, List.length_append]
          omega
        rw [← read, List.flatMap_cons, written, ih after.length shorter after others more rfl, List.cons_append]

theorem encode_of_text (bytes : Bytes) (s : String) (read : text? bytes = some s) : encode s = bytes := by
  rw [text?, Option.map_eq_some_iff] at read
  obtain ⟨chars, read, rfl⟩ := read
  rw [encode, String.toList_ofList]
  exact encode_decoded bytes chars read

theorem tail_not_ascii (c : Char) (lead : UInt8) (tail : Bytes) (bytes : String.utf8EncodeChar c = lead :: tail) :
    ∀ b ∈ tail, ¬ b < 0x80 := by
  have high : ∀ n, ¬ UInt8.ofNat (n % 64 + 128) < 0x80 := by
    intro n
    rw [UInt8.lt_iff_toNat_lt, byte_number _ (by omega)]
    exact Nat.not_lt.mpr (Nat.le_add_left 128 _)
  unfold String.utf8EncodeChar at bytes
  dsimp only at bytes
  split_ifs at bytes <;> obtain ⟨_, rfl⟩ := List.cons.inj bytes <;>
    simp only [List.forall_mem_cons, high, not_false_eq_true, List.not_mem_nil, false_implies, implies_true, and_self]

theorem ascii_alone (c : Char) (lead : UInt8) (tail : Bytes) (bytes : String.utf8EncodeChar c = lead :: tail)
    (ascii : lead < 0x80) : tail = [] := by
  have high : ∀ n low, 128 ≤ low → n + low < 256 → ¬ UInt8.ofNat (n + low) < 0x80 := by
    intro n low large small
    rw [UInt8.lt_iff_toNat_lt, byte_number _ small]
    exact Nat.not_lt.mpr (Nat.le_trans large (Nat.le_add_left low n))
  unfold String.utf8EncodeChar at bytes
  dsimp only at bytes
  split_ifs at bytes <;> obtain ⟨rfl, rfl⟩ := List.cons.inj bytes
  · rfl
  all_goals exact absurd ascii (high _ _ (by omega) (by omega))

def WellFormed (bytes : Bytes) : Prop := ∃ s, encode s = bytes

def StartsAscii (bytes : Bytes) : Prop := ∀ b ∈ bytes.head?, b < 0x80

theorem well_formed_iff (bytes : Bytes) :
    WellFormed bytes ↔ ∃ chars : List Char, chars.flatMap String.utf8EncodeChar = bytes := by
  constructor
  · rintro ⟨s, rfl⟩
    exact ⟨s.toList, rfl⟩
  · rintro ⟨chars, rfl⟩
    exact ⟨String.ofList chars, by simp [encode]⟩

theorem well_formed_split (before after : Bytes) (formed : WellFormed (before ++ after)) (ascii : StartsAscii after) :
    WellFormed before ∧ WellFormed after := by
  simp only [well_formed_iff] at formed ⊢
  obtain ⟨chars, bytes⟩ := formed
  induction chars generalizing before with
  | nil =>
    obtain ⟨rfl, rfl⟩ := List.append_eq_nil_iff.mp bytes.symm
    exact ⟨⟨[], rfl⟩, ⟨[], rfl⟩⟩
  | cons c rest ih =>
    rw [List.flatMap_cons] at bytes
    rcases List.append_eq_append_iff.mp bytes with ⟨more, rfl, later⟩ | ⟨cut, split, rfl⟩
    · obtain ⟨⟨chars, rfl⟩, formed⟩ := ih more later
      exact ⟨⟨c :: chars, rfl⟩, formed⟩
    · -- the cut goes through the character, so it must be at one of its ends
      cases before with
      | nil => exact ⟨⟨[], rfl⟩, ⟨c :: rest, by rw [List.flatMap_cons, split, List.nil_append]⟩⟩
      | cons lead more =>
        cases cut with
        | nil => exact ⟨⟨[c], by simp [split]⟩, ⟨rest, rfl⟩⟩
        | cons b cut =>
          have inside := tail_not_ascii c lead (more ++ b :: cut) split b (List.mem_append_right _ List.mem_cons_self)
          exact absurd (ascii b rfl) inside

theorem well_formed_after (before after : Bytes) (ascii : ∀ b ∈ before, b < 0x80) (formed : WellFormed (before ++ after)) :
    WellFormed after := by
  induction before with
  | nil => exact formed
  | cons b before ih =>
    apply ih fun c member => ascii c (List.mem_cons_of_mem b member)
    simp only [well_formed_iff] at formed ⊢
    obtain ⟨chars, bytes⟩ := formed
    cases chars with
    | nil => cases bytes
    | cons c rest =>
      obtain ⟨lead, tail, written, _⟩ := leading_encode c []
      rw [List.flatMap_cons, written, List.cons_append] at bytes
      obtain ⟨rfl, later⟩ := List.cons.inj bytes
      rw [ascii_alone c lead tail written (ascii lead List.mem_cons_self)] at later
      exact ⟨rest, later⟩

end Typeflow.Text
