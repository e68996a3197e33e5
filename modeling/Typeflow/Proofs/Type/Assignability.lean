import Typeflow.Proofs.Type.Congruence
import Typeflow.Proofs.Type.Whole

set_option autoImplicit false

namespace Typeflow

mutual

-- Neither `any` nor a hole, nor a lambda with such a part. Type arguments may be anything: they
-- are compared for equality only.
def Ty.definite : Ty → Bool
  | .unknown => false
  | .any => false
  | .lambda params result => definiteParams params && result.definite
  | _ => true

def definiteParams : List (String × Ty) → Bool
  | [] => true
  | (_, t) :: rest => t.definite && definiteParams rest

end

mutual

def Ty.comparable : Ty → Bool
  | .unknown => false
  | .lambda params result => comparableParams params && result.comparable
  | _ => true

def comparableParams : List (String × Ty) → Bool
  | [] => true
  | (_, t) :: rest => t.comparable && comparableParams rest

end

theorem definite_params_iff (params : List (String × Ty)) : definiteParams params ↔ ∀ param ∈ params, param.2.definite := by
  induction params with
  | nil => simp [definiteParams]
  | cons param rest ih => simp [definiteParams, ih]

theorem lambda_definite_iff (params : List (String × Ty)) (result : Ty) :
    (Ty.lambda params result).definite ↔ (∀ param ∈ params, param.2.definite) ∧ result.definite := by
  rw [Ty.definite, Bool.and_eq_true, definite_params_iff]

theorem definite_known (t : Ty) (definite : t.definite) : t.isUnknown = false ∧ t.isAny = false := by
  cases t <;> simp_all [Ty.definite, Ty.isUnknown, Ty.isAny]

theorem comparable_params_iff (params : List (String × Ty)) :
    comparableParams params ↔ ∀ param ∈ params, param.2.comparable := by
  induction params with
  | nil => simp [comparableParams]
  | cons param rest ih => simp [comparableParams, ih]

theorem comparable_known (t : Ty) (comparable : t.comparable) : t.isUnknown = false := by
  cases t <;> simp_all [Ty.comparable, Ty.isUnknown]

theorem lambda_comparable_iff (params : List (String × Ty)) (result : Ty) :
    (Ty.lambda params result).comparable ↔ (∀ param ∈ params, param.2.comparable) ∧ result.comparable := by
  rw [Ty.comparable, Bool.and_eq_true, comparable_params_iff]

theorem definite_comparable (t : Ty) (definite : t.definite) : t.comparable := by
  induction t using Ty.parts_induction with
  | lambda params result ih ihResult =>
    rw [lambda_definite_iff] at definite
    rw [lambda_comparable_iff]
    exact ⟨fun param member => ih param member (definite.1 param member), ihResult definite.2⟩
  | unknown | any => simp [Ty.definite] at definite
  | _ => rfl

theorem whole_comparable (t : Ty) (whole : t.whole) : t.comparable := by
  induction t using Ty.parts_induction with
  | lambda params result ih ihResult =>
    rw [lambda_whole_iff] at whole
    rw [lambda_comparable_iff]
    exact ⟨fun param member => ih param member (whole.1 param member), ihResult whole.2⟩
  | unknown => simp [Ty.whole] at whole
  | _ => rfl

theorem is_any_iff (t : Ty) : t.isAny ↔ t = .any := by
  cases t <;> simp [Ty.isAny]

theorem is_void_iff (t : Ty) : t.isVoid ↔ t = .void := by
  cases t <;> simp [Ty.isVoid]

mutual

-- The two types are equal but for places where one of them has `any`, itself or as a part of a
-- lambda.
def Ty.agrees : Ty → Ty → Bool
  | .lambda ps r, .lambda qs s => agreesParams ps qs && r.agrees s
  | a, b => a.isAny || b.isAny || a.equal b

def agreesParams : List (String × Ty) → List (String × Ty) → Bool
  | [], [] => true
  | (_, a) :: as, (_, b) :: bs => a.agrees b && agreesParams as bs
  | _, _ => false

end

theorem agrees_params_iff (ps qs : List (String × Ty)) : agreesParams ps qs ↔ List.Forall₂ (fun p q => p.2.agrees q.2) ps qs := by
  induction ps generalizing qs with
  | nil => cases qs <;> simp [agreesParams]
  | cons p ps ih => cases qs <;> simp [agreesParams, ih]

theorem lambda_agrees_iff (ps qs : List (String × Ty)) (r s : Ty) :
    (Ty.lambda ps r).agrees (.lambda qs s) ↔ List.Forall₂ (fun p q => p.2.agrees q.2) ps qs ∧ r.agrees s := by
  rw [Ty.agrees, Bool.and_eq_true, agrees_params_iff]

theorem agrees_other (a b : Ty) (other : ∀ ps r qs s, a = .lambda ps r → b ≠ .lambda qs s) :
    a.agrees b = (a.isAny || b.isAny || a.equal b) := by
  unfold Ty.agrees
  split
  next => exact absurd rfl (other _ _ _ _ rfl)
  next => rfl

theorem agrees_definite (a b : Ty) (isA : a.definite) (isB : b.definite) (agree : a.agrees b) : a.equal b := by
  by_cases lambdas : ∀ ps r qs s, a = .lambda ps r → b ≠ .lambda qs s
  · simpa [agrees_other a b lambdas, (definite_known a isA).2, (definite_known b isB).2] using agree
  · push Not at lambdas
    obtain ⟨ps, r, qs, s, rfl, rfl⟩ := lambdas
    rw [lambda_agrees_iff, List.forall₂_iff_zip] at agree
    rw [lambda_definite_iff] at isA isB
    rw [Ty.equal, Bool.and_eq_true, Ty.equal_params_iff, List.forall₂_iff_zip]
    refine ⟨⟨agree.1.1, fun {p q} member => ?_⟩, agrees_definite r s isA.2 isB.2 agree.2⟩
    obtain ⟨isP, isQ⟩ := List.of_mem_zip member
    have smaller := Declarations.param_smaller ps r p isP
    exact agrees_definite p.2 q.2 (isA.1 p isP) (isB.1 q isQ) (agree.1.2 member)
termination_by sizeOf a

namespace Declarations

open Ty

theorem assignable_any (ds : Declarations) (t : Ty) (known : t.isUnknown = false) : ds.assignable t .any ∧ ds.assignable .any t := by
  constructor
  · rw [assignable_other ds t .any (by simp), flowsTo, known]
    simp [isUnknown, isAny]
  · rw [assignable_other ds .any t (by simp), flowsTo, known]
    simp [isUnknown, isAny]

theorem assignable_reaches (ds : Declarations) (a b : Ty) (left : a.isUnknown = false ∧ a.isAny = false)
    (right : b.isUnknown = false ∧ b.isAny = false) (other : ∀ ps r qs s, a = .lambda ps r → b ≠ .lambda qs s) :
    ds.assignable a b = ds.reaches a b := by
  rw [assignable_other ds a b other, flowsTo, left.1, left.2, right.1, right.2]
  simp

section

variable (ds : Declarations) (bounded : ∀ t, ds.Bounded (ds.height + 1) t)

include bounded

theorem reaches_iff (src dst : Ty) : ds.reaches src dst ↔ src.equal dst ∨ ∃ super ∈ ds.supertypes src, ds.reaches super dst := by
  rw [reaches_unfold ds src dst (bounded src)]
  simp

-- The induction goes up the hierarchy: a chain of supertypes comes to an end.
theorem reaches_trans (a b c : Ty) (first : ds.reaches a b) (second : ds.reaches b c) : ds.reaches a c := by
  have within := bounded a
  generalize ds.height + 1 = bound at within
  induction bound generalizing a with
  | zero => cases within
  | succ bound ih =>
    rcases (reaches_iff ds bounded a b).mp first with here | ⟨super, above, higher⟩
    · rwa [reaches_congr ds a b c c here (equal_refl c)]
    · exact (reaches_iff ds bounded a c).mpr (.inr ⟨super, above, ih super higher (within super above)⟩)

theorem reaches_lambda (a : Ty) (qs : List (String × Ty)) (s : Ty) (reaches : ds.reaches a (.lambda qs s)) :
    ∃ ps r, a = .lambda ps r := by
  have within := bounded a
  generalize ds.height + 1 = bound at within
  induction bound generalizing a with
  | zero => cases within
  | succ bound ih =>
    rcases (reaches_iff ds bounded a _).mp reaches with here | ⟨super, above, higher⟩
    · cases a with
      | lambda ps r => exact ⟨ps, r, rfl⟩
      | _ => simp [equal] at here
    · obtain ⟨ps, r, shape⟩ := ih super higher (within super above)
      exact absurd shape ((super_nominal ds a super (supertypes_above ds a super above)).2.2 ps r)

theorem lambda_reaches (ps : List (String × Ty)) (r dst : Ty) (reaches : ds.reaches (.lambda ps r) dst) :
    ∃ qs s, dst = .lambda qs s := by
  rcases (reaches_iff ds bounded _ dst).mp reaches with here | ⟨super, above, _⟩
  · cases dst with
    | lambda qs s => exact ⟨qs, s, rfl⟩
    | _ => simp [equal] at here
  · cases supertypes_above ds _ super above

theorem void_reaches (dst : Ty) (reaches : ds.reaches .void dst) : dst.isVoid := by
  rcases (reaches_iff ds bounded _ dst).mp reaches with here | ⟨super, above, _⟩
  · cases dst with
    | void => rfl
    | _ => simp [equal] at here
  · cases supertypes_above ds _ super above

omit bounded in
theorem assignable_lambda_cases (ps qs : List (String × Ty)) (r s : Ty) :
    ds.assignable (.lambda ps r) (.lambda qs s) ↔ (Ty.lambda ps r).equal (.lambda qs s) ∨
      List.Forall₂ (fun p q => ds.assignable q.2 p.2) ps qs ∧ (s.isVoid ∨ ds.assignable r s) := by
  rw [assignable_lambda, List.forall₂_iff_zip]
  simp

omit bounded in
theorem assignable_lambda_iff (ps qs : List (String × Ty)) (r s : Ty) (left : (Ty.lambda ps r).comparable)
    (right : (Ty.lambda qs s).comparable) :
    ds.assignable (.lambda ps r) (.lambda qs s) ↔
      List.Forall₂ (fun p q => ds.assignable q.2 p.2) ps qs ∧ (s.isVoid ∨ ds.assignable r s) := by
  rw [assignable_lambda_cases]
  refine or_iff_right_of_imp fun same => ?_
  -- equal parts are assignable to each other, so that equality adds nothing
  rw [lambda_comparable_iff] at left right
  rw [equal, Bool.and_eq_true, equal_params_iff, List.forall₂_iff_zip] at same
  refine ⟨List.forall₂_iff_zip.mpr ⟨same.1.1, fun member => ?_⟩, .inr ?_⟩
  · have known := comparable_known _ (right.1 _ (List.of_mem_zip member).2)
    exact assignable_of_equal ds _ _ known (equal_symm _ _ ▸ same.1.2 member)
  · exact assignable_of_equal ds r s (comparable_known r left.2) same.2

theorem assignable_of_reaches (a b : Ty) (known : a.isUnknown = false) (known' : b.isUnknown = false)
    (reaches : ds.reaches a b) : ds.assignable a b := by
  by_cases lambdas : ∀ ps r qs s, a = .lambda ps r → b ≠ .lambda qs s
  · simp [assignable_other ds a b lambdas, flowsTo, known, known', reaches]
  · push Not at lambdas
    obtain ⟨ps, r, qs, s, rfl, rfl⟩ := lambdas
    rcases (reaches_iff ds bounded _ _).mp reaches with same | ⟨super, above, _⟩
    · exact assignable_of_equal ds _ _ known same
    · cases supertypes_above ds _ super above

theorem assignable_refl (t : Ty) (known : t.isUnknown = false) : ds.assignable t t :=
  assignable_of_reaches ds bounded t t known known (reaches_of_equal ds t t (equal_refl t))

omit bounded in
theorem bounded_equal (a b : Ty) (same : a.equal b) (bound : Nat) (within : ds.Bounded bound a) : ds.Bounded bound b := by
  induction bound generalizing a b with
  | zero => exact within
  | succ bound ih =>
    intro super above
    rw [equal_symm] at same
    obtain ⟨super', above', same'⟩ := supertype_equal ds b a super same above
    rw [equal_symm] at same'
    exact ih super' super same' (within super' above')

theorem reaches_bounded (a b : Ty) (reaches : ds.reaches a b) (bound : Nat) (within : ds.Bounded bound a) :
    ds.Bounded bound b := by
  induction bound generalizing a with
  | zero => cases within
  | succ bound ih =>
    rcases (reaches_iff ds bounded a b).mp reaches with here | ⟨super, above, higher⟩
    · exact bounded_equal ds a b here (bound + 1) within
    · exact (ih super higher (within super above)).mono (Nat.le_succ bound)

theorem reaches_antisymm (a b : Ty) (up : ds.reaches a b) (back : ds.reaches b a) : a.equal b := by
  rcases (reaches_iff ds bounded a b).mp up with here | ⟨super, above, higher⟩
  · exact here
  · -- the way from `a` up to `b` and back to `a` has a step, so no bound holds for the chains from `a`
    have return_ : ds.reaches super a := reaches_trans ds bounded super b a higher back
    have unbounded : ∀ bound, ¬ ds.Bounded bound a := by
      intro bound
      induction bound with
      | zero => exact id
      | succ bound ih =>
        intro within
        exact ih (reaches_bounded ds bounded super a return_ bound (within super above))
    exact absurd (bounded a) (unbounded (ds.height + 1))

theorem void_assignable (t : Ty) (known : t.isUnknown = false ∧ t.isAny = false) (flows : ds.assignable .void t) : t.isVoid := by
  rw [assignable_reaches ds .void t ⟨rfl, rfl⟩ known (by simp)] at flows
  exact void_reaches ds bounded t flows

-- A void result takes anything, so that nothing need flow through the type in the middle.
theorem result_trans (r s t : Ty) (isR : r.comparable) (isT : t.comparable) (first : s.isVoid ∨ ds.assignable r s)
    (second : t.isVoid ∨ ds.assignable s t) (through : ds.assignable r s → ds.assignable s t → ds.assignable r t) :
    t.isVoid ∨ ds.assignable r t := by
  rcases second with void | result'
  · exact .inl void
  rcases first with void | result
  · obtain rfl := (is_void_iff s).mp void
    by_cases any : t.isAny
    · obtain rfl := (is_any_iff t).mp any
      exact .inr (assignable_any ds r (comparable_known r isR)).1
    · rw [Bool.not_eq_true] at any
      exact .inl (void_assignable ds bounded t ⟨comparable_known t isT, any⟩ result')
  · exact .inr (through result result')

end

theorem params_trans (ds : Declarations) (ps qs us : List (String × Ty))
    (first : List.Forall₂ (fun p q => ds.assignable q.2 p.2) ps qs)
    (second : List.Forall₂ (fun q u => ds.assignable u.2 q.2) qs us)
    (each : ∀ p ∈ ps, ∀ q ∈ qs, ∀ u ∈ us, ds.assignable u.2 q.2 → ds.assignable q.2 p.2 → ds.assignable u.2 p.2) :
    List.Forall₂ (fun p u => ds.assignable u.2 p.2) ps us := by
  induction first generalizing us with
  | nil =>
    cases second
    exact .nil
  | @cons p q ps qs head tail ih =>
    cases second with
    | @cons _ u _ us head' tail' =>
      refine .cons (each p (by simp) q (by simp) u (by simp) head' head) (ih us tail' ?_)
      intro p isP q isQ u isU
      exact each p (by simp [isP]) q (by simp [isQ]) u (by simp [isU])

theorem assignable_through (ds : Declarations) (bounded : ∀ t, ds.Bounded (ds.height + 1) t) (a b c : Ty) (isA : a.comparable)
    (isB : b.definite) (isC : c.comparable) (first : ds.assignable a b) (second : ds.assignable b c) : ds.assignable a c := by
  have knownA := comparable_known a isA
  have knownB := definite_known b isB
  have knownC := comparable_known c isC
  by_cases anyA : a.isAny
  · obtain rfl := (is_any_iff a).mp anyA
    exact (assignable_any ds c knownC).2
  by_cases anyC : c.isAny
  · obtain rfl := (is_any_iff c).mp anyC
    exact (assignable_any ds a knownA).1
  rw [Bool.not_eq_true] at anyA anyC
  by_cases lambda : ∃ ps r, a = .lambda ps r
  · obtain ⟨ps, r, rfl⟩ := lambda
    by_cases lambda' : ∃ qs s, b = .lambda qs s
    · obtain ⟨qs, s, rfl⟩ := lambda'
      by_cases lambda'' : ∃ us v, c = .lambda us v
      · obtain ⟨us, v, rfl⟩ := lambda''
        rw [assignable_lambda_iff ds _ _ _ _ isA (definite_comparable _ isB)] at first
        rw [assignable_lambda_iff ds _ _ _ _ (definite_comparable _ isB) isC] at second
        rw [assignable_lambda_iff ds _ _ _ _ isA isC]
        rw [lambda_comparable_iff] at isA isC
        rw [lambda_definite_iff] at isB
        constructor
        · -- parameters flow back, from `c` through `b` to `a`
          refine params_trans ds ps qs us first.1 second.1 fun p isP q isQ u isU higher lower => ?_
          have smaller := param_smaller ps r p isP
          have smaller' := param_smaller qs s q isQ
          have smaller'' := param_smaller us v u isU
          exact assignable_through ds bounded u.2 q.2 p.2 (isC.1 u isU) (isB.1 q isQ) (isA.1 p isP) higher lower
        · refine result_trans ds bounded r s v isA.2 isC.2 first.2 second.2 fun result result' => ?_
          exact assignable_through ds bounded r s v isA.2 isB.2 isC.2 result result'
      · rw [assignable_reaches ds _ c knownB ⟨knownC, anyC⟩ fun _ _ us v _ shape => lambda'' ⟨us, v, shape⟩] at second
        exact absurd (lambda_reaches ds bounded qs s c second) lambda''
    · rw [assignable_reaches ds _ b ⟨knownA, anyA⟩ knownB fun _ _ qs s _ shape => lambda' ⟨qs, s, shape⟩] at first
      exact absurd (lambda_reaches ds bounded ps r b first) lambda'
  · -- what is no lambda reaches no lambda, so that all three are compared along the hierarchy
    rw [assignable_reaches ds a b ⟨knownA, anyA⟩ knownB fun ps r _ _ shape => absurd ⟨ps, r, shape⟩ lambda] at first
    have notLambda : ∀ qs s, b ≠ .lambda qs s := by
      rintro qs s rfl
      exact lambda (reaches_lambda ds bounded a qs s first)
    rw [assignable_reaches ds b c knownB ⟨knownC, anyC⟩ fun qs s _ _ shape => absurd shape (notLambda qs s)] at second
    rw [assignable_reaches ds a c ⟨knownA, anyA⟩ ⟨knownC, anyC⟩ fun ps r _ _ shape => absurd ⟨ps, r, shape⟩ lambda]
    exact reaches_trans ds bounded a b c first second
termination_by sizeOf a + sizeOf b + sizeOf c

section

variable (ds : Declarations) (bounded : ∀ t, ds.Bounded (ds.height + 1) t)

include bounded

-- Void flows into nothing but itself and `any`, and from both it can come.
theorem void_result (r s : Ty) (isS : s.comparable) (void : r.isVoid) (result : s.isVoid ∨ ds.assignable r s) : ds.assignable s r := by
  obtain rfl := (is_void_iff r).mp void
  by_cases any : s.isAny
  · obtain rfl := (is_any_iff s).mp any
    exact (assignable_any ds .void rfl).2
  · rw [Bool.not_eq_true] at any
    have void' := result.elim id (void_assignable ds bounded s ⟨comparable_known s isS, any⟩)
    rw [(is_void_iff s).mp void']
    exact assignable_refl ds bounded .void rfl

theorem assignable_both_iff (a b : Ty) (isA : a.comparable) (isB : b.comparable) :
    ds.assignable a b ∧ ds.assignable b a ↔ a.agrees b := by
  have knownA := comparable_known a isA
  have knownB := comparable_known b isB
  by_cases anyA : a.isAny
  · obtain rfl := (is_any_iff a).mp anyA
    simp [assignable_any ds b knownB, Ty.agrees, isAny]
  by_cases anyB : b.isAny
  · obtain rfl := (is_any_iff b).mp anyB
    simp [assignable_any ds a knownA, Ty.agrees, isAny]
  rw [Bool.not_eq_true] at anyA anyB
  by_cases lambdas : ∀ ps r qs s, a = .lambda ps r → b ≠ .lambda qs s
  · rw [assignable_reaches ds a b ⟨knownA, anyA⟩ ⟨knownB, anyB⟩ lambdas,
      assignable_reaches ds b a ⟨knownB, anyB⟩ ⟨knownA, anyA⟩ fun qs s ps r right left => lambdas ps r qs s left right,
      agrees_other a b lambdas, anyA, anyB, Bool.false_or, Bool.false_or]
    refine ⟨fun both => reaches_antisymm ds bounded a b both.1 both.2, fun same => ?_⟩
    exact ⟨reaches_of_equal ds a b same, reaches_of_equal ds b a (equal_symm a b ▸ same)⟩
  · push Not at lambdas
    obtain ⟨ps, r, qs, s, rfl, rfl⟩ := lambdas
    rw [assignable_lambda_iff ds _ _ _ _ isA isB, assignable_lambda_iff ds _ _ _ _ isB isA, lambda_agrees_iff]
    rw [lambda_comparable_iff] at isA isB
    have params : ∀ {p q}, (p, q) ∈ ps.zip qs → (ds.assignable p.2 q.2 ∧ ds.assignable q.2 p.2 ↔ p.2.agrees q.2) := by
      intro p q member
      obtain ⟨isP, isQ⟩ := List.of_mem_zip member
      have smaller := param_smaller ps r p isP
      have smaller' := param_smaller qs s q isQ
      exact assignable_both_iff p.2 q.2 (isA.1 p isP) (isB.1 q isQ)
    have result := assignable_both_iff r s isA.2 isB.2
    constructor
    · rintro ⟨⟨down, first⟩, up, second⟩
      obtain ⟨lengths, down⟩ := List.forall₂_iff_zip.mp down
      obtain ⟨_, up⟩ := List.forall₂_iff_zip.mp up.flip
      refine ⟨List.forall₂_iff_zip.mpr ⟨lengths, fun member => (params member).mp ⟨up member, down member⟩⟩, ?_⟩
      refine result.mp ⟨first.elim (fun void => ?_) id, second.elim (fun void => ?_) id⟩
      · exact void_result ds bounded s r isA.2 void second
      · exact void_result ds bounded r s isB.2 void first
    · rintro ⟨agree, agree'⟩
      obtain ⟨lengths, agree⟩ := List.forall₂_iff_zip.mp agree
      have back : List.Forall₂ (fun p q => ds.assignable p.2 q.2) ps qs :=
        List.forall₂_iff_zip.mpr ⟨lengths, fun member => ((params member).mpr (agree member)).1⟩
      have forth : List.Forall₂ (fun p q => ds.assignable q.2 p.2) ps qs :=
        List.forall₂_iff_zip.mpr ⟨lengths, fun member => ((params member).mpr (agree member)).2⟩
      exact ⟨⟨forth, .inr (result.mpr agree').1⟩, back.flip, .inr (result.mpr agree').2⟩
termination_by sizeOf a + sizeOf b

theorem assignable_antisymm (a b : Ty) (isA : a.definite) (isB : b.definite) (first : ds.assignable a b)
    (second : ds.assignable b a) : a.equal b := by
  apply agrees_definite a b isA isB
  exact (assignable_both_iff ds bounded a b (definite_comparable a isA) (definite_comparable b isB)).mp ⟨first, second⟩

end

end Declarations

end Typeflow
