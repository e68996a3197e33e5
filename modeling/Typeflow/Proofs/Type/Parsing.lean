import Typeflow.Proofs.Document.Declared
import Typeflow.Proofs.Type.Grammar
import Mathlib.Data.List.TakeDrop

set_option autoImplicit false

namespace Typeflow.Ty

open Text

section

variable {ε τ : Type} {make : Maker τ} {resolve : Resolver ε τ}

theorem spaces_before (bytes : Bytes) : ∃ gap, bytes = spaces gap ++ skipSpaces bytes := by
  refine ⟨(bytes.takeWhile isSpaceByte).length, ?_⟩
  have all : bytes.takeWhile isSpaceByte = spaces (bytes.takeWhile isSpaceByte).length := by
    rw [spaces, List.eq_replicate_iff]
    refine ⟨rfl, fun b member => ?_⟩
    simpa [isSpaceByte] using List.mem_takeWhile_imp member
  rw [← all, skipSpaces, List.takeWhile_append_dropWhile]

theorem skip_suffix (bytes : Bytes) : skipSpaces bytes <:+ bytes := List.dropWhile_suffix _

theorem accept_split (token : String) (bytes rest : Bytes) (accepted : accept? token bytes = some rest) :
    ∃ gap, bytes = mark gap token ++ rest := by
  unfold accept? at accepted
  split at accepted
  next found =>
    obtain ⟨after, same⟩ := List.isPrefixOf_iff_prefix.mp found
    rw [← same, List.drop_left] at accepted
    obtain ⟨gap, split⟩ := spaces_before bytes
    refine ⟨gap, ?_⟩
    rw [mark, List.append_assoc, ← Option.some.inj accepted, same]
    exact split
  next => cases accepted

theorem expect_ok (token : String) (bytes rest : Bytes) (found : expect (ε := ε) token bytes = .ok rest) :
    ∃ gap, bytes = mark gap token ++ rest := by
  unfold expect at found
  split at found
  next accepted =>
    cases found
    exact accept_split token bytes rest accepted
  next => cases found

theorem read_name_ok (bytes found rest : Bytes) (read : readName (ε := ε) bytes = .ok (found, rest)) :
    ∃ (gap : Nat) (name : Name), found = name.bytes ∧ bytes = spaces gap ++ (name.bytes ++ rest) := by
  obtain ⟨gap, split⟩ := spaces_before bytes
  have run := List.takeWhile_append_dropWhile (p := isNameByte) (l := skipSpaces bytes)
  rw [readName, List.span_eq_takeWhile_dropWhile] at read
  cases taken : (skipSpaces bytes).takeWhile isNameByte with
  | nil =>
    rw [taken] at read
    cases read
  | cons b more =>
    have allowed : ∀ c ∈ b :: more, isNameByte c := fun c member => List.mem_takeWhile_imp (taken ▸ member)
    rw [taken] at read run
    cases read
    exact ⟨gap, ⟨b :: more, List.cons_ne_nil b more, allowed⟩, rfl, split.trans (congrArg (spaces gap ++ ·) run.symm)⟩

-- What became of reading `bytes`: a value with what is left, a place to point at, or a name
-- that the resolver refused.
def Read {α : Type} (resolve : Resolver ε τ) (bytes : Bytes) (good : α → Bytes → Prop) :
    Except (ParseError ε) (α × Bytes) → Prop
  | .ok (a, rest) => good a rest
  | .error (.malformed _ rest) => rest <:+ bytes
  | .error (.unresolved why) => ∃ name args, resolve name args = .error why

theorem Read.fail {α β : Type} {inner bytes : Bytes} {good : α → Bytes → Prop} {good' : β → Bytes → Prop} {e : ParseError ε}
    (failed : Read resolve inner good (.error e)) (within : inner <:+ bytes) : Read resolve bytes good' (.error e) := by
  cases e with
  | malformed why rest => exact failed.trans within
  | unresolved why => exact failed

theorem expect_fails {α : Type} {good : α → Bytes → Prop} (token : String) (inner bytes : Bytes) (within : inner <:+ bytes)
    (e : ParseError ε) (failed : expect token inner = .error e) : Read resolve bytes good (.error e) := by
  unfold expect at failed
  split at failed
  next => cases failed
  next =>
    cases failed
    exact (skip_suffix inner).trans within

theorem read_name_fails {α : Type} {good : α → Bytes → Prop} (bytes : Bytes) (e : ParseError ε)
    (failed : readName bytes = .error e) : Read resolve bytes good (.error e) := by
  rw [readName, List.span_eq_takeWhile_dropWhile] at failed
  split at failed
  next rest same =>
    cases failed
    rw [← (Prod.mk.inj same).2]
    exact (List.dropWhile_suffix _).trans (skip_suffix bytes)
  next => cases failed

theorem of_name_eq (name : Name) (args : List τ) (rest : Bytes) : ofName make (some resolve) name.bytes args rest =
    match name.meaning make resolve args with
    | .ok t => .ok (t, rest)
    | .error why => .error (.unresolved why) := by
  unfold ofName Name.meaning
  simp only [beq_iff_eq]
  split
  · rfl
  · split
    · rfl
    · cases resolve name.bytes args <;> rfl

theorem of_name_read {bytes : Bytes} {good : τ → Bytes → Prop} (name : Name) (args : List τ) (rest : Bytes)
    (written : ∀ t, name.meaning make resolve args = .ok t → good t rest) :
    Read resolve bytes good (ofName make (some resolve) name.bytes args rest) := by
  rw [of_name_eq]
  cases means : name.meaning make resolve args with
  | ok t => exact written t means
  | error why =>
    refine ⟨name.bytes, args, ?_⟩
    unfold Name.meaning at means
    split_ifs at means
    exact means

mutual

theorem read_type_read (fuel : Nat) (bytes : Bytes) :
    Read resolve bytes (fun t rest => ∃ (d : TypeSyntax) (gap : Nat),
      bytes = d.text ++ (spaces gap ++ rest) ∧ d.meaning make resolve = .ok t) (readType make (some resolve) fuel bytes) := by
  match fuel with
  | 0 => exact skip_suffix bytes
  | fuel + 1 =>
    rw [readType]
    split
    next inner opened =>
      obtain ⟨opening, rfl⟩ := accept_split _ _ _ opened
      split
      next after closed =>
        obtain ⟨closing, rfl⟩ := accept_split _ _ _ closed
        have result := read_result_read fuel [] after
        revert result
        cases readResult make (some resolve) fuel [] after with
        | error e => exact fun failed => failed.fail ((List.suffix_append _ _).trans (List.suffix_append _ _))
        | ok found =>
          rintro ⟨arrow, d, gap, result, rfl, means, same⟩
          refine ⟨.thunk opening closing arrow d, gap, ?_, ?_⟩
          · simp [thunk_text, mark_open, mark_close]
          · rw [TypeSyntax.meaning, means, same]
            rfl
      next =>
        have params := read_params_read fuel inner
        split
        next e failed =>
          rw [failed] at params
          exact params.fail (List.suffix_append _ _)
        next found after read =>
          rw [read] at params
          obtain ⟨params, rfl, meant⟩ := params
          have result := read_result_read fuel found after
          revert result
          cases readResult make (some resolve) fuel found after with
          | error e => exact fun failed => failed.fail ((List.suffix_append _ _).trans (List.suffix_append _ _))
          | ok found =>
            rintro ⟨arrow, d, gap, result, rfl, means, same⟩
            refine ⟨.lambda opening params arrow d, gap, ?_, ?_⟩
            · simp [lambda_text, mark_open]
            · rw [TypeSyntax.meaning, meant, means, same]
              rfl
    next =>
      split
      next e failed => exact read_name_fails bytes e failed
      next found rest named =>
        obtain ⟨gap, name, rfl, rfl⟩ := read_name_ok bytes found rest named
        split
        next =>
          obtain ⟨trailing, split⟩ := spaces_before rest
          refine of_name_read name [] _ fun t means => ⟨.name gap name, trailing, ?_, means⟩
          rw [name_text, ← split]
        next inner less =>
          obtain ⟨opening, rfl⟩ := accept_split _ _ _ less
          have args := read_args_read fuel inner
          split
          next e failed =>
            rw [failed] at args
            refine args.fail ?_
            simp only [← List.append_assoc]
            exact List.suffix_append _ _
          next found rest read =>
            rw [read] at args
            obtain ⟨args, rfl, meant⟩ := args
            refine of_name_read name found rest fun t means => ⟨.applied gap name opening args, 0, ?_, ?_⟩
            · simp [applied_text, mark_less, spaces]
            · rw [TypeSyntax.meaning, meant]
              exact means

theorem read_result_read (fuel : Nat) (params : List (Bytes × τ)) (bytes : Bytes) :
    Read resolve bytes (fun t rest => ∃ (arrow : Nat) (d : TypeSyntax) (gap : Nat) (result : τ),
      bytes = spaces arrow ++ 0x3D :: 0x3E :: (d.text ++ (spaces gap ++ rest)) ∧ d.meaning make resolve = .ok result ∧
        t = make.lambda params result) (readResult make (some resolve) fuel params bytes) := by
  match fuel with
  | 0 => exact skip_suffix bytes
  | fuel + 1 =>
    rw [readResult]
    split
    next e failed => exact expect_fails _ _ _ List.suffix_rfl e failed
    next inner found =>
      obtain ⟨arrow, rfl⟩ := expect_ok _ _ _ found
      have result := read_type_read fuel inner
      split
      next e failed =>
        rw [failed] at result
        exact result.fail (List.suffix_append _ _)
      next result' rest read =>
        rw [read] at result
        obtain ⟨d, gap, rfl, means⟩ := result
        exact ⟨arrow, d, gap, result', by simp [mark_arrow], means, rfl⟩

theorem read_args_read (fuel : Nat) (bytes : Bytes) :
    Read resolve bytes (fun args rest => ∃ d : ArgsSyntax, bytes = d.text ++ rest ∧ d.meaning make resolve = .ok args)
      (readArgs make (some resolve) fuel bytes) := by
  match fuel with
  | 0 => exact skip_suffix bytes
  | fuel + 1 =>
    rw [readArgs]
    have first := read_type_read fuel bytes
    split
    next e failed =>
      rw [failed] at first
      exact first.fail List.suffix_rfl
    next arg rest read =>
      rw [read] at first
      obtain ⟨d, gap, rfl, means⟩ := first
      split
      next after closed =>
        obtain ⟨closing, rfl⟩ := accept_split _ _ _ closed
        -- spaces before the bracket may have been skipped with the type already
        refine ⟨.last d (gap + closing), ?_, ?_⟩
        · simp [last_arg_text, mark_greater, spaces_add]
        · rw [ArgsSyntax.meaning, means]
          rfl
      next =>
        have after : rest <:+ d.text ++ (spaces gap ++ rest) := (List.suffix_append _ _).trans (List.suffix_append _ _)
        split
        next e failed => exact expect_fails _ rest _ after e failed
        next inner found =>
          obtain ⟨comma, rfl⟩ := expect_ok _ _ _ found
          have others := read_args_read fuel inner
          split
          next e failed =>
            rw [failed] at others
            exact others.fail ((List.suffix_append _ _).trans after)
          next found rest read =>
            rw [read] at others
            obtain ⟨others, rfl, meant⟩ := others
            refine ⟨.more d (gap + comma) others, ?_, ?_⟩
            · simp [more_args_text, mark_comma, spaces_add]
            · rw [ArgsSyntax.meaning, means, meant]
              rfl

theorem read_params_read (fuel : Nat) (bytes : Bytes) :
    Read resolve bytes (fun params rest => ∃ d : ParamsSyntax, bytes = d.text ++ rest ∧ d.meaning make resolve = .ok params)
      (readParams make (some resolve) fuel bytes) := by
  match fuel with
  | 0 => exact skip_suffix bytes
  | fuel + 1 =>
    rw [readParams]
    split
    next e failed => exact read_name_fails bytes e failed
    next found rest named =>
      obtain ⟨before, name, rfl, rfl⟩ := read_name_ok bytes found rest named
      have afterName : rest <:+ spaces before ++ (name.bytes ++ rest) :=
        (List.suffix_append _ _).trans (List.suffix_append _ _)
      split
      next e failed => exact expect_fails _ rest _ afterName e failed
      next inner found =>
        obtain ⟨colon, rfl⟩ := expect_ok _ _ _ found
        have type := read_type_read fuel inner
        split
        next e failed =>
          rw [failed] at type
          exact type.fail ((List.suffix_append _ _).trans afterName)
        next t rest read =>
          rw [read] at type
          obtain ⟨d, gap, rfl, means⟩ := type
          split
          next after closed =>
            obtain ⟨closing, rfl⟩ := accept_split _ _ _ closed
            refine ⟨.last before name colon d (gap + closing), ?_, ?_⟩
            · simp [last_param_text, mark_colon, mark_close, spaces_add]
            · rw [ParamsSyntax.meaning, means]
              rfl
          next =>
            have after : rest <:+ d.text ++ (spaces gap ++ rest) := (List.suffix_append _ _).trans (List.suffix_append _ _)
            have within := after.trans ((List.suffix_append (mark colon ":") _).trans afterName)
            split
            next e failed => exact expect_fails _ rest _ within e failed
            next inner found =>
              obtain ⟨comma, rfl⟩ := expect_ok _ _ _ found
              have others := read_params_read fuel inner
              split
              next e failed =>
                rw [failed] at others
                exact others.fail ((List.suffix_append _ _).trans within)
              next found rest read =>
                rw [read] at others
                obtain ⟨others, rfl, meant⟩ := others
                refine ⟨.more before name colon d (gap + comma) others, ?_, ?_⟩
                · simp [more_params_text, mark_colon, mark_comma, spaces_add]
                · rw [ParamsSyntax.meaning, means, meant]
                  rfl

end

theorem accept_found (token : String) (b : UInt8) (tail : Bytes) (spelled : encode token = b :: tail) (solid : b ≠ 0x20)
    (gap : Nat) (rest : Bytes) : accept? token (spaces gap ++ (b :: tail ++ rest)) = some rest := by
  have skipped : skipSpaces (spaces gap ++ (b :: tail ++ rest)) = encode token ++ rest := by
    rw [skip_spaces, spelled]
    exact skip_solid (solid_stops solid _)
  rw [accept?, skipped, if_pos (List.isPrefixOf_iff_prefix.mpr (List.prefix_append _ _)), List.drop_left]

theorem accept_byte (token : String) (b : UInt8) (spelled : encode token = [b]) (solid : b ≠ 0x20) (gap : Nat) (rest : Bytes) :
    accept? token (spaces gap ++ b :: rest) = some rest :=
  accept_found token b [] spelled solid gap rest

theorem accept_missing (token : String) (b : UInt8) (tail : Bytes) (spelled : encode token = b :: tail) (bytes : Bytes)
    (other : ∀ c ∈ (skipSpaces bytes).head?, c ≠ b) : accept? token bytes = none := by
  rw [accept?, if_neg]
  intro found
  obtain ⟨after, same⟩ := List.isPrefixOf_iff_prefix.mp found
  rw [spelled] at same
  exact other b (by rw [← same]; rfl) rfl

theorem accept_congr (token : String) (bytes bytes' : Bytes) (same : skipSpaces bytes = skipSpaces bytes') :
    accept? token bytes = accept? token bytes' := by
  rw [accept?, accept?, same]

theorem expect_byte (token : String) (b : UInt8) (spelled : encode token = [b]) (solid : b ≠ 0x20) (gap : Nat) (rest : Bytes) :
    expect (ε := ε) token (spaces gap ++ b :: rest) = .ok rest := by
  rw [expect, accept_byte token b spelled solid]

theorem expect_congr (token : String) (bytes bytes' : Bytes) (same : skipSpaces bytes = skipSpaces bytes') :
    expect (ε := ε) token bytes = expect token bytes' := by
  rw [expect, expect, accept_congr token bytes bytes' same, same]

theorem read_name_written (gap : Nat) (name : Name) (rest : Bytes) (stops : Stops isNameByte rest) :
    readName (ε := ε) (spaces gap ++ (name.bytes ++ rest)) = .ok (name.bytes, rest) := by
  obtain ⟨taken, dropped⟩ := take_run isNameByte name.bytes rest name.allowed stops
  rw [readName, skip_spaces, skip_solid (name.solid rest), List.span_eq_takeWhile_dropWhile, taken, dropped]
  obtain ⟨b, more, bytes, _⟩ := name.first
  rw [bytes]

theorem name_not_marked (gap : Nat) (name : Name) (rest : Bytes) (b : UInt8) (other : isNameByte b = false) :
    ∀ c ∈ (skipSpaces (spaces gap ++ (name.bytes ++ rest))).head?, c ≠ b := by
  obtain ⟨c, more, bytes, allowed⟩ := name.first
  intro c' first same
  rw [skip_spaces, skip_solid (name.solid rest), bytes] at first
  cases first
  exact Bool.false_ne_true (other.symm.trans (same ▸ allowed))

theorem byte_not_marked (gap : Nat) (a b : UInt8) (rest : Bytes) (solid : a ≠ 0x20) (other : a ≠ b) :
    ∀ c ∈ (skipSpaces (spaces gap ++ a :: rest)).head?, c ≠ b := by
  intro c first
  rw [skip_spaces, skip_solid (solid_stops solid rest)] at first
  cases first
  exact other

theorem skip_skip (bytes : Bytes) : skipSpaces (skipSpaces bytes) = skipSpaces bytes := by
  obtain ⟨gap, split⟩ := spaces_before bytes
  conv_rhs => rw [split, skip_spaces]

theorem read_result_written (fuel arrow : Nat) (params : List (Bytes × τ)) (inner rest : Bytes) (t : τ)
    (read : readType make (some resolve) fuel inner = .ok (t, rest)) :
    readResult make (some resolve) (fuel + 1) params (spaces arrow ++ 0x3D :: 0x3E :: inner) = .ok (make.lambda params t, rest) := by
  have found : accept? "=>" (spaces arrow ++ 0x3D :: 0x3E :: inner) = some inner :=
    accept_found "=>" 0x3D [0x3E] rfl (by decide) arrow inner
  rw [readResult, expect, found]
  simp only [read]

mutual

theorem read_type_written (d : TypeSyntax) (rest : Bytes) (ends : Ends rest) (t : τ) (means : d.meaning make resolve = .ok t)
    (fuel : Nat) (enough : d.text.length ≤ fuel) :
    ∃ rest', readType make (some resolve) fuel (d.text ++ rest) = .ok (t, rest') ∧ skipSpaces rest' = skipSpaces rest := by
  cases d with
  | name gap name =>
    have short : 0 < name.bytes.length := List.length_pos_iff.mpr name.nonempty
    simp only [TypeSyntax.text, List.length_append] at enough
    obtain ⟨fuel, rfl⟩ : ∃ f, fuel = f + 1 := ⟨fuel - 1, by omega⟩
    -- the search for a bracket takes the spaces after the name along
    refine ⟨skipSpaces rest, ?_, skip_skip rest⟩
    rw [name_text, readType, accept_missing "(" 0x28 [] rfl _ (name_not_marked gap name rest 0x28 rfl),
      read_name_written gap name rest ends.stops]
    simp only [accept_missing "<" 0x3C [] rfl rest fun c first => (ends c first).2]
    rw [of_name_eq, show name.meaning make resolve [] = .ok t from means]
  | applied gap name opening args =>
    simp only [TypeSyntax.text, mark_less, List.length_append, List.length_cons] at enough
    obtain ⟨fuel, rfl⟩ : ∃ f, fuel = f + 1 := ⟨fuel - 1, by omega⟩
    obtain ⟨found, meant, means⟩ := Document.bind_ok _ _ _ means
    have read := read_args_written args rest found meant fuel (by omega)
    refine ⟨rest, ?_, rfl⟩
    rw [applied_text, readType, accept_missing "(" 0x28 [] rfl _ (name_not_marked gap name _ 0x28 rfl),
      read_name_written gap name _ (spaced_stops _ _ (byte_stops _ rfl))]
    simp only [accept_byte "<" 0x3C rfl (by decide), read]
    rw [of_name_eq, means]
  | thunk opening closing arrow result =>
    simp only [TypeSyntax.text, mark_open, mark_close, mark_arrow, List.length_append, List.length_cons] at enough
    obtain ⟨fuel, rfl⟩ : ∃ f, fuel = f + 2 := ⟨fuel - 2, by omega⟩
    obtain ⟨t, meant, means⟩ := Document.bind_ok _ _ _ means
    cases means
    obtain ⟨rest', read, same⟩ := read_type_written result rest ends t meant fuel (by omega)
    refine ⟨rest', ?_, same⟩
    rw [thunk_text, readType, accept_byte "(" 0x28 rfl (by decide)]
    simp only [accept_byte ")" 0x29 rfl (by decide)]
    exact read_result_written fuel arrow [] _ rest' t read
  | lambda opening params arrow result =>
    simp only [TypeSyntax.text, mark_open, mark_arrow, List.length_append, List.length_cons] at enough
    obtain ⟨fuel, rfl⟩ : ∃ f, fuel = f + 2 := ⟨fuel - 2, by omega⟩
    obtain ⟨found, meant, means⟩ := Document.bind_ok _ _ _ means
    obtain ⟨t, meant', means⟩ := Document.bind_ok _ _ _ means
    cases means
    obtain ⟨rest', read, same⟩ := read_type_written result rest ends t meant' fuel (by omega)
    refine ⟨rest', ?_, same⟩
    have listed := read_params_written params (spaces arrow ++ 0x3D :: 0x3E :: (result.text ++ rest)) found meant (fuel + 1)
      (by omega)
    -- a parameter starts with a name, so the list is not taken for an empty one
    obtain ⟨gap, name, us, text⟩ := params.first (spaces arrow ++ 0x3D :: 0x3E :: (result.text ++ rest))
    have inside : accept? ")" (params.text ++ (spaces arrow ++ 0x3D :: 0x3E :: (result.text ++ rest))) = none := by
      rw [text]
      exact accept_missing ")" 0x29 [] rfl _ (name_not_marked gap name us 0x29 rfl)
    rw [lambda_text, readType, accept_byte "(" 0x28 rfl (by decide)]
    simp only [inside, listed]
    exact read_result_written fuel arrow found _ rest' t read

theorem read_args_written (d : ArgsSyntax) (rest : Bytes) (args : List τ) (means : d.meaning make resolve = .ok args) (fuel : Nat)
    (enough : d.text.length ≤ fuel) : readArgs make (some resolve) fuel (d.text ++ rest) = .ok (args, rest) := by
  cases d with
  | last arg closing =>
    simp only [ArgsSyntax.text, mark_greater, List.length_append, List.length_cons] at enough
    obtain ⟨fuel, rfl⟩ : ∃ f, fuel = f + 1 := ⟨fuel - 1, by omega⟩
    obtain ⟨t, meant, means⟩ := Document.bind_ok _ _ _ means
    cases means
    obtain ⟨rest', read, same⟩ := read_type_written arg _ (ends_greater closing rest) t meant fuel (by omega)
    rw [last_arg_text, readArgs, read]
    simp only [accept_congr ">" rest' _ same, accept_byte ">" 0x3E rfl (by decide)]
  | more arg comma others =>
    simp only [ArgsSyntax.text, mark_comma, List.length_append, List.length_cons] at enough
    obtain ⟨fuel, rfl⟩ : ∃ f, fuel = f + 1 := ⟨fuel - 1, by omega⟩
    obtain ⟨t, meant, means⟩ := Document.bind_ok _ _ _ means
    obtain ⟨found, meant', means⟩ := Document.bind_ok _ _ _ means
    cases means
    obtain ⟨rest', read, same⟩ := read_type_written arg _ (ends_comma comma (others.text ++ rest)) t meant fuel (by omega)
    have listed := read_args_written others rest found meant' fuel (by omega)
    -- the type was read up to the comma, up to spaces
    have unclosed := accept_missing ">" 0x3E [] rfl _
      (byte_not_marked comma 0x2C 0x3E (others.text ++ rest) (by decide) (by decide))
    rw [more_args_text, readArgs, read]
    simp only [accept_congr ">" rest' _ same, unclosed, expect_congr "," rest' _ same, expect_byte "," 0x2C rfl (by decide), listed]

theorem read_params_written (d : ParamsSyntax) (rest : Bytes) (params : List (Bytes × τ))
    (means : d.meaning make resolve = .ok params) (fuel : Nat) (enough : d.text.length ≤ fuel) :
    readParams make (some resolve) fuel (d.text ++ rest) = .ok (params, rest) := by
  cases d with
  | last gap name colon type closing =>
    simp only [ParamsSyntax.text, mark_colon, mark_close, List.length_append, List.length_cons] at enough
    obtain ⟨fuel, rfl⟩ : ∃ f, fuel = f + 1 := ⟨fuel - 1, by omega⟩
    obtain ⟨t, meant, means⟩ := Document.bind_ok _ _ _ means
    cases means
    obtain ⟨rest', read, same⟩ := read_type_written type _ (ends_close closing rest) t meant fuel (by omega)
    rw [last_param_text, readParams, read_name_written gap name _ (spaced_stops _ _ (byte_stops _ rfl))]
    simp only [expect_byte ":" 0x3A rfl (by decide), read, accept_congr ")" rest' _ same, accept_byte ")" 0x29 rfl (by decide)]
  | more gap name colon type comma others =>
    simp only [ParamsSyntax.text, mark_colon, mark_comma, List.length_append, List.length_cons] at enough
    obtain ⟨fuel, rfl⟩ : ∃ f, fuel = f + 1 := ⟨fuel - 1, by omega⟩
    obtain ⟨t, meant, means⟩ := Document.bind_ok _ _ _ means
    obtain ⟨found, meant', means⟩ := Document.bind_ok _ _ _ means
    cases means
    obtain ⟨rest', read, same⟩ := read_type_written type _ (ends_comma comma (others.text ++ rest)) t meant fuel (by omega)
    have listed := read_params_written others rest found meant' fuel (by omega)
    have unclosed := accept_missing ")" 0x29 [] rfl _
      (byte_not_marked comma 0x2C 0x29 (others.text ++ rest) (by decide) (by decide))
    rw [more_params_text, readParams, read_name_written gap name _ (spaced_stops _ _ (byte_stops _ rfl))]
    simp only [expect_byte ":" 0x3A rfl (by decide), read, accept_congr ")" rest' _ same, unclosed, expect_congr "," rest' _ same,
      expect_byte "," 0x2C rfl (by decide), listed]

end

theorem parse_written (s : Sentence) (t : τ) (means : s.meaning make resolve = .ok t) :
    parseBytes make (some resolve) s.text = .ok t := by
  obtain ⟨rest, read, same⟩ := read_type_written s.type (spaces s.trailing) (ends_spaces _) t means
    (2 * s.text.length + 2) (by simp only [Sentence.text, List.length_append]; omega)
  have done : skipSpaces rest = [] := by
    rw [same, ← List.append_nil (spaces s.trailing), skip_spaces]
    rfl
  rw [parseBytes, show readType make (some resolve) _ s.text = _ from read]
  simp only [done]

theorem parse_read (bytes : Bytes) :
    Read resolve bytes (fun t rest => rest = [] ∧ ∃ s : Sentence, s.text = bytes ∧ s.meaning make resolve = .ok t)
      ((parseBytes make (some resolve) bytes).map (·, [])) := by
  have read : Read resolve bytes _ (readType make _ _ _) := read_type_read (2 * bytes.length + 2) bytes
  rw [parseBytes]
  split
  next e failed =>
    rw [failed] at read
    exact read.fail List.suffix_rfl
  next t rest ran =>
    rw [ran] at read
    obtain ⟨d, gap, rfl, means⟩ := read
    obtain ⟨trailing, split⟩ := spaces_before rest
    split
    next done =>
      rw [done, List.append_nil] at split
      refine ⟨rfl, ⟨d, gap + trailing⟩, ?_, means⟩
      rw [Sentence.text, spaces_add, split]
    next => exact (skip_suffix rest).trans ((List.suffix_append _ _).trans (List.suffix_append _ _))

theorem parse_ok (bytes : Bytes) (t : τ) (parsed : parseBytes make (some resolve) bytes = .ok t) :
    ∃ s : Sentence, s.text = bytes ∧ s.meaning make resolve = .ok t := by
  have read : Read resolve bytes _ ((parseBytes make _ _).map _) := parse_read bytes
  rw [parsed] at read
  exact read.2

def Resolver.Total (resolve : Resolver ε τ) : Prop := ∀ name args, ∃ t, resolve name args = .ok t

theorem Name.meaning_total (total : resolve.Total) (name : Name) (args : List τ) : ∃ t, name.meaning make resolve args = .ok t := by
  unfold Name.meaning
  split
  · exact ⟨make.any, rfl⟩
  · split
    · exact ⟨make.void, rfl⟩
    · exact total name.bytes args

mutual

theorem TypeSyntax.meaning_total (total : resolve.Total) (d : TypeSyntax) : ∃ t, d.meaning make resolve = .ok t := by
  cases d with
  | name gap name => exact name.meaning_total total []
  | applied gap name opening args =>
    obtain ⟨found, means⟩ := args.meaning_total total
    rw [TypeSyntax.meaning, means]
    exact name.meaning_total total found
  | thunk opening closing arrow result =>
    obtain ⟨t, means⟩ := result.meaning_total total
    rw [TypeSyntax.meaning, means]
    exact ⟨_, rfl⟩
  | lambda opening params arrow result =>
    obtain ⟨found, meant⟩ := params.meaning_total total
    obtain ⟨t, means⟩ := result.meaning_total total
    rw [TypeSyntax.meaning, meant, means]
    exact ⟨_, rfl⟩

theorem ArgsSyntax.meaning_total (total : resolve.Total) (d : ArgsSyntax) : ∃ args, d.meaning make resolve = .ok args := by
  cases d with
  | last arg closing =>
    obtain ⟨t, means⟩ := arg.meaning_total total
    rw [ArgsSyntax.meaning, means]
    exact ⟨_, rfl⟩
  | more arg comma others =>
    obtain ⟨t, means⟩ := arg.meaning_total total
    obtain ⟨found, meant⟩ := others.meaning_total total
    rw [ArgsSyntax.meaning, means, meant]
    exact ⟨_, rfl⟩

theorem ParamsSyntax.meaning_total (total : resolve.Total) (d : ParamsSyntax) : ∃ params, d.meaning make resolve = .ok params := by
  cases d with
  | last gap name colon type closing =>
    obtain ⟨t, means⟩ := type.meaning_total total
    rw [ParamsSyntax.meaning, means]
    exact ⟨_, rfl⟩
  | more gap name colon type comma others =>
    obtain ⟨t, means⟩ := type.meaning_total total
    obtain ⟨found, meant⟩ := others.meaning_total total
    rw [ParamsSyntax.meaning, means, meant]
    exact ⟨_, rfl⟩

end

theorem parse_refuses (total : resolve.Total) (bytes : Bytes) (outside : ¬ ∃ s : Sentence, s.text = bytes) :
    ∃ why offset, offset ≤ bytes.length ∧ parseBytes make (some resolve) bytes = .error (.malformed why (bytes.drop offset)) := by
  have read : Read resolve bytes _ ((parseBytes make _ _).map _) := parse_read bytes
  cases parsed : parseBytes make (some resolve) bytes with
  | ok t =>
    obtain ⟨s, text, _⟩ := parse_ok bytes t parsed
    exact absurd ⟨s, text⟩ outside
  | error e =>
    rw [parsed] at read
    cases e with
    | malformed why rest =>
      obtain ⟨before, rfl⟩ := read
      refine ⟨why, before.length, ?_, ?_⟩
      · simp
      · rw [List.drop_left]
    | unresolved why =>
      obtain ⟨name, args, failed⟩ := read
      obtain ⟨t, found⟩ := total name args
      rw [failed] at found
      cases found

end

-- With a resolver that knows every name, exactly the texts of the grammar are types. A text has one
-- derivation and is read as what that means; any other text is refused at an offset within it.
theorem parse_accepts_exactly_grammar {ε τ : Type} (make : Maker τ) (resolve : Resolver ε τ) (total : resolve.Total)
    (bytes : Bytes) :
    ((∃ t, parseBytes make (some resolve) bytes = .ok t) ↔ ∃ s : Sentence, s.text = bytes) ∧
    (∀ s s' : Sentence, s.text = bytes → s'.text = bytes → s = s') ∧
    (∀ s : Sentence, s.text = bytes → ∃ t, s.meaning make resolve = .ok t ∧ parseBytes make (some resolve) bytes = .ok t) ∧
    ((¬ ∃ s : Sentence, s.text = bytes) →
      ∃ why offset, offset ≤ bytes.length ∧ parseBytes make (some resolve) bytes = .error (.malformed why (bytes.drop offset))) := by
  have returns : ∀ s : Sentence, s.text = bytes →
      ∃ t, s.meaning make resolve = .ok t ∧ parseBytes make (some resolve) bytes = .ok t := by
    rintro s rfl
    obtain ⟨t, means⟩ := s.type.meaning_total total
    exact ⟨t, means, parse_written s t means⟩
  refine ⟨⟨?_, ?_⟩, ?_, returns, parse_refuses total bytes⟩
  · rintro ⟨t, parsed⟩
    obtain ⟨s, text, _⟩ := parse_ok bytes t parsed
    exact ⟨s, text⟩
  · rintro ⟨s, text⟩
    obtain ⟨t, _, parsed⟩ := returns s text
    exact ⟨t, parsed⟩
  · intro s s' text text'
    exact sentence_unique s s' (text.trans text'.symm)

-- Takes every name for a class.
def namedClass (Label : Type) : Resolver Empty (Ty Label) := fun name args => .ok (.cls ⟨lossy name, 0⟩ args)

-- ` Map<K ,(x: void<K>)=>any> `
def mapOfLambdas : Sentence :=
  let k : TypeSyntax := .name 0 ⟨encode "K", by decide, by decide +kernel⟩
  let void : TypeSyntax := .applied 1 ⟨encode "void", by decide, by decide +kernel⟩ 0 (.last k 0)
  let any : TypeSyntax := .name 0 ⟨encode "any", by decide, by decide +kernel⟩
  let lambda : TypeSyntax := .lambda 0 (.last 0 ⟨encode "x", by decide, by decide +kernel⟩ 0 void 0) 0 any
  ⟨.applied 1 ⟨encode "Map", by decide, by decide +kernel⟩ 0 (.more k 1 (.last lambda 0)), 1⟩

-- `(ÿ: any, þ: any) => any` in Latin-1: the names are no text in UTF-8.
def lambdaOfBytes : Sentence :=
  let any : TypeSyntax := .name 1 ⟨encode "any", by decide, by decide +kernel⟩
  ⟨.lambda 0 (.more 0 ⟨[0xFF], by decide, by decide +kernel⟩ 0 any 0 (.last 1 ⟨[0xFE], by decide, by decide +kernel⟩ 0 any 0)) 1 any, 0⟩

theorem map_of_lambdas_accepted_unclosed_refused :
    (namedClass String).Total ∧
    mapOfLambdas.text = encode " Map<K ,(x: void<K>)=>any> " ∧
    mapOfLambdas.meaning (maker lossy) (namedClass String) =
      .ok (.cls ⟨"Map", 0⟩ [.cls ⟨"K", 0⟩ [], .lambda [("x", .void)] .any]) ∧
    (∀ s : Sentence, s.text = encode " Map<K ,(x: void<K>)=>any> " → s = mapOfLambdas) ∧
    (∃ why offset, offset ≤ (encode "Map<K,()=>any").length ∧
      parseBytes (maker lossy) (some (namedClass String)) (encode "Map<K,()=>any") =
        .error (.malformed why ((encode "Map<K,()=>any").drop offset))) ∧
    lambdaOfBytes.text = 0x28 :: 0xFF :: (encode ": any, " ++ 0xFE :: encode ": any) => any") ∧
    parseBytes (maker id) (some (namedClass Bytes)) lambdaOfBytes.text =
      .ok (.lambda [([0xFF], .any), ([0xFE], .any)] .any) := by
  have total : ∀ Label : Type, (namedClass Label).Total := fun Label name args => ⟨_, rfl⟩
  have text : mapOfLambdas.text = encode " Map<K ,(x: void<K>)=>any> " := by decide +kernel
  obtain ⟨_, unique, _⟩ :=
    parse_accepts_exactly_grammar (maker lossy) (namedClass String) (total String) (encode " Map<K ,(x: void<K>)=>any> ")
  obtain ⟨accepted, _, _, refuses⟩ :=
    parse_accepts_exactly_grammar (maker lossy) (namedClass String) (total String) (encode "Map<K,()=>any")
  obtain ⟨_, _, returns, _⟩ := parse_accepts_exactly_grammar (maker id) (namedClass Bytes) (total Bytes) lambdaOfBytes.text
  have failed : (parseBytes (maker lossy) (some (namedClass String)) (encode "Map<K,()=>any")).toBool = false := by
    decide +kernel
  have refused : ¬ ∃ s : Sentence, s.text = encode "Map<K,()=>any" := by
    intro derived
    obtain ⟨t, parsed⟩ := accepted.mpr derived
    rw [parsed] at failed
    cases failed
  obtain ⟨t, means, parsed⟩ := returns lambdaOfBytes rfl
  cases means
  exact ⟨total String, text, rfl, fun s written => unique s mapOfLambdas written text, refuses refused, by decide +kernel, parsed⟩

end Typeflow.Ty
