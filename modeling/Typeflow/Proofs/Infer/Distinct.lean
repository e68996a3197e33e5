import Typeflow.Infer.Strategy
import Typeflow.Proofs.Type.Congruence

set_option autoImplicit false

namespace Typeflow.Infer

open Ty

-- A type is kept unless an equal one came before it.
inductive FirstOccurrences : List Ty → List Ty → Prop
  | nil : FirstOccurrences [] []
  | again (types kept : List Ty) (t : Ty) (before : FirstOccurrences types kept) (seen : ∃ u ∈ types, u.equal t) :
      FirstOccurrences (types ++ [t]) kept
  | fresh (types kept : List Ty) (t : Ty) (before : FirstOccurrences types kept) (unseen : ∀ u ∈ types, ¬ u.equal t) :
      FirstOccurrences (types ++ [t]) (kept ++ [t])

def Uniform (types : List Ty) : Prop := ∀ t ∈ types, ∀ u ∈ types, t.equal u

theorem uniform_cons_iff (a : Ty) (rest : List Ty) : Uniform (a :: rest) ↔ rest.all (a.equal ·) := by
  rw [List.all_eq_true]
  constructor
  · intro uniform t listed
    exact uniform a List.mem_cons_self t (List.mem_cons_of_mem a listed)
  · intro same
    have first : ∀ t ∈ a :: rest, a.equal t := List.forall_mem_cons.mpr ⟨equal_refl a, same⟩
    exact fun t isT u isU => equal_trans t a u (equal_equivalence.symm (first t isT)) (first u isU)

namespace FirstOccurrences

variable {types kept : List Ty}

theorem sublist (firsts : FirstOccurrences types kept) : kept.Sublist types := by
  induction firsts with
  | nil => exact .slnil
  | again types kept t _ _ ih => exact ih.trans (List.sublist_append_left types [t])
  | fresh types kept t _ _ ih => exact ih.append (.refl [t])

theorem covers (firsts : FirstOccurrences types kept) (t : Ty) (member : t ∈ types) : ∃ u ∈ kept, u.equal t := by
  induction firsts generalizing t with
  | nil => cases member
  | again types kept last _ seen ih =>
    rcases List.mem_append.mp member with old | new
    · exact ih t old
    · obtain rfl := List.mem_singleton.mp new
      obtain ⟨u, listed, same⟩ := seen
      obtain ⟨v, isKept, same'⟩ := ih u listed
      exact ⟨v, isKept, equal_trans v u t same' same⟩
  | fresh types kept last _ _ ih =>
    rcases List.mem_append.mp member with old | new
    · obtain ⟨u, isKept, same⟩ := ih t old
      exact ⟨u, List.mem_append_left [last] isKept, same⟩
    · exact ⟨t, List.mem_append_right kept new, equal_refl t⟩

theorem distinct (firsts : FirstOccurrences types kept) : kept.Pairwise fun t u => ¬ t.equal u := by
  induction firsts with
  | nil => exact .nil
  | again _ _ _ _ _ ih => exact ih
  | fresh types kept t before unseen ih =>
    rw [List.pairwise_append]
    refine ⟨ih, List.pairwise_singleton _ t, fun u isKept v isNew => ?_⟩
    rw [List.mem_singleton.mp isNew]
    exact unseen u (before.sublist.subset isKept)

-- Nothing is kept of nothing, one type of uniform ones, and two or more of others.
theorem inversion (firsts : FirstOccurrences types kept) :
    types = [] ∧ kept = [] ∨ Uniform types ∧ (∃ t ∈ types, kept = [t]) ∨
      ¬ Uniform types ∧ ∃ t u others, kept = t :: u :: others := by
  have covers := firsts.covers
  have listed := firsts.sublist.subset
  have distinct := firsts.distinct
  match kept with
  | [] =>
    refine .inl ⟨List.eq_nil_iff_forall_not_mem.mpr fun t member => ?_, rfl⟩
    obtain ⟨u, isKept, _⟩ := covers t member
    cases isKept
  | [one] =>
    have same : ∀ t ∈ types, one.equal t := by simpa using covers
    refine .inr (.inl ⟨fun t isT u isU => ?_, one, listed List.mem_cons_self, rfl⟩)
    exact equal_trans t one u (equal_equivalence.symm (same t isT)) (same u isU)
  | t :: u :: others =>
    refine .inr (.inr ⟨fun uniform => ?_, t, u, others, rfl⟩)
    have same := uniform t (listed (by simp)) u (listed (by simp))
    exact List.rel_of_pairwise_cons distinct List.mem_cons_self same

theorem head {a : Ty} {rest : List Ty} (firsts : FirstOccurrences (a :: rest) kept) : ∃ more, kept = a :: more := by
  generalize all : a :: rest = types at firsts
  induction firsts generalizing rest with
  | nil => cases all
  | again types kept t _ seen ih =>
    cases types with
    | nil =>
      obtain ⟨u, listed, _⟩ := seen
      cases listed
    | cons b others =>
      cases all
      exact ih rfl
  | fresh types kept t before _ ih =>
    cases types with
    | nil =>
      cases all
      rw [List.sublist_nil.mp before.sublist]
      exact ⟨[], rfl⟩
    | cons b others =>
      cases all
      obtain ⟨more, rfl⟩ := ih rfl
      exact ⟨more ++ [t], rfl⟩

end FirstOccurrences

theorem distinct_types_snoc (types : List Ty) (t : Ty) : distinctTypes (types ++ [t]) =
    if (distinctTypes types).any (·.equal t) then distinctTypes types else distinctTypes types ++ [t] :=
  List.foldl_append

-- What is looked up are the types kept so far. They cover the types so far, so that this makes no difference.
theorem distinct_types_firsts (types : List Ty) : FirstOccurrences types (distinctTypes types) := by
  induction types using List.reverseRecOn with
  | nil => exact .nil
  | append_singleton types t ih =>
    rw [distinct_types_snoc]
    by_cases seen : (distinctTypes types).any (·.equal t)
    · rw [if_pos seen]
      obtain ⟨u, isKept, same⟩ := List.any_eq_true.mp seen
      exact .again _ _ t ih ⟨u, ih.sublist.subset isKept, same⟩
    · rw [if_neg seen]
      refine .fresh _ _ t ih fun u listed same => seen ?_
      obtain ⟨v, isKept, same'⟩ := ih.covers u listed
      exact List.any_eq_true.mpr ⟨v, isKept, equal_trans v u t same' same⟩

end Typeflow.Infer
