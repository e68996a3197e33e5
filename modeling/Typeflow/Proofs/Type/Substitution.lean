import Typeflow.Proofs.Type.Assignability

set_option autoImplicit false

namespace Typeflow

namespace Ty

section

variable (d : DeclId) (args : List Ty) (params : List (String × Ty)) (result : Ty)

theorem generics_all_eq : genericsAll args = args.flatMap generics := by
  induction args with
  | nil => rfl
  | cons t rest ih => simp [genericsAll, ih]

theorem generics_params_eq : genericsParams params = params.flatMap fun param => param.2.generics := by
  induction params with
  | nil => rfl
  | cons param rest ih => simp [genericsParams, ih]

@[simp] theorem generics_cls : (cls d args).generics = args.flatMap generics := by
  rw [generics, generics_all_eq]

@[simp] theorem generics_iface : (iface d args).generics = args.flatMap generics := by
  rw [generics, generics_all_eq]

@[simp] theorem generics_lambda :
    (lambda params result).generics = (params.flatMap fun param => param.2.generics) ++ result.generics := by
  rw [generics, generics_params_eq]

end

section

variable (b s b' : Bindings)

-- All parameters are replaced at once, so one replacement after the other is a single one: what the
-- first puts in is replaced again.
theorem substitute_twice (t : Ty) (agree : ∀ name ∈ t.generics, (b.value name).substitute s = b'.value name) :
    (t.substitute b).substitute s = t.substitute b' := by
  induction t using parts_induction with
  | generic name => exact agree name (by simp [generics])
  | cls d args ih | iface d args ih =>
    simp only [generics_cls, generics_iface, List.mem_flatMap] at agree
    have each : ∀ t ∈ args, (t.substitute b).substitute s = t.substitute b' :=
      fun t member => ih t member fun name occurs => agree name ⟨t, member, occurs⟩
    simpa using each
  | lambda params result ih ihResult =>
    rw [generics_lambda, List.forall_mem_append] at agree
    have each : ∀ param ∈ params, (param.2.substitute b).substitute s = param.2.substitute b' :=
      fun param member => ih param member fun name occurs => agree.1 name (List.mem_flatMap.mpr ⟨param, member, occurs⟩)
    have same := List.map_congr_left fun param member => congrArg (Prod.mk param.1) (each param member)
    simp only [substitute_lambda, List.map_map, ihResult agree.2]
    exact congrArg (lambda · _) same
  | unknown | any | void | enumeration => simp only [substitute]

theorem substitute_closed (t : Ty) (closed : t.generics = []) : t.substitute s = t := by
  induction t using parts_induction with
  | generic name => simp [generics] at closed
  | cls d args ih | iface d args ih =>
    simp only [generics_cls, generics_iface, List.flatMap_eq_nil_iff] at closed
    have each : args.map (substitute s) = args.map id := List.map_congr_left fun t member => ih t member (closed t member)
    simpa using each
  | lambda params result ih ihResult =>
    rw [generics_lambda, List.append_eq_nil_iff, List.flatMap_eq_nil_iff] at closed
    have each : (params.map fun param => (param.1, param.2.substitute s)) = params.map id :=
      List.map_congr_left fun param member => Prod.ext rfl (ih param member (closed.1 param member))
    simpa [ihResult closed.2] using each
  | unknown | any | void | enumeration => simp only [substitute]

theorem generics_substitute (name : String) (t : Ty) (occurs : name ∈ (t.substitute s).generics) :
    ∃ param ∈ t.generics, name ∈ (s.value param).generics := by
  induction t using parts_induction with
  | generic param => exact ⟨param, by simp [generics], occurs⟩
  | cls d args ih | iface d args ih =>
    simp only [substitute_cls, substitute_iface, generics_cls, generics_iface, List.mem_flatMap, List.mem_map] at occurs ⊢
    obtain ⟨_, ⟨t, member, rfl⟩, inside⟩ := occurs
    obtain ⟨param, known, left⟩ := ih t member inside
    exact ⟨param, ⟨t, member, known⟩, left⟩
  | lambda params result ih ihResult =>
    simp only [substitute_lambda, generics_lambda, List.mem_append, List.mem_flatMap, List.mem_map] at occurs ⊢
    rcases occurs with ⟨_, ⟨p, member, rfl⟩, inside⟩ | inside
    · obtain ⟨param, known, left⟩ := ih p member inside
      exact ⟨param, .inl ⟨p, member, known⟩, left⟩
    · obtain ⟨param, known, left⟩ := ihResult inside
      exact ⟨param, .inr known, left⟩
  | unknown | any | void | enumeration => simp [substitute, generics] at occurs

theorem substitute_known (t : Ty) (values : ∀ name, s.lookup name ≠ some .unknown) (known : t.isUnknown = false) :
    (t.substitute s).isUnknown = false := by
  cases t with
  | generic name =>
    rw [substitute]
    cases found : s.lookup name with
    | none => rfl
    | some u =>
      cases u with
      | unknown => exact absurd found (values name)
      | _ => rfl
  | unknown => cases known
  | _ => rfl

end

mutual

def saturated (ds : Declarations) : Ty → Bool
  | .cls d args => args.length == (ds.typeParams (.cls d args)).length && saturatedAll ds args
  | .iface d args => args.length == (ds.typeParams (.iface d args)).length && saturatedAll ds args
  | .lambda params result => saturatedParams ds params && result.saturated ds
  | _ => true

def saturatedAll (ds : Declarations) : List Ty → Bool
  | [] => true
  | t :: rest => t.saturated ds && saturatedAll ds rest

def saturatedParams (ds : Declarations) : List (String × Ty) → Bool
  | [] => true
  | (_, t) :: rest => t.saturated ds && saturatedParams ds rest

end

theorem saturated_params_iff (ds : Declarations) (params : List (String × Ty)) :
    saturatedParams ds params ↔ ∀ param ∈ params, param.2.saturated ds := by
  induction params with
  | nil => simp [saturatedParams]
  | cons param rest ih => simp [saturatedParams, ih]

end Ty

namespace Declarations

open Ty

def saturated (ds : Declarations) : Bool :=
  ds.classes.all (fun c => c.named.all (Ty.saturated ds)) && ds.interfaces.all fun i => i.named.all (Ty.saturated ds)

-- A declaration names no type parameters but its own.
structure Confined (ds : Declarations) : Prop where
  classes : ∀ c ∈ ds.classes, ∀ t ∈ c.named, t.generics ⊆ c.typeParams
  interfaces : ∀ i ∈ ds.interfaces, ∀ t ∈ i.named, t.generics ⊆ i.typeParams

-- The declaration of `t` names `u`, as a supertype or as the type of a field.
inductive Mentions (ds : Declarations) (t u : Ty) : Prop
  | byClass (c : Class) (listed : c ∈ ds.classes) (params : ds.typeParams t = c.typeParams) (named : u ∈ c.named)
  | byInterface (i : Interface) (listed : i ∈ ds.interfaces) (params : ds.typeParams t = i.typeParams) (named : u ∈ i.named)

theorem super_mentioned (ds : Declarations) (t named : Ty) (declared : named ∈ ds.declaredSupers t) : ds.Mentions t named := by
  cases ds.declared_supers_named t named declared with
  | base d args c a found base =>
    exact .byClass c (List.mem_of_find?_eq_some found) (by simp [typeParams, found]) (by simp [Class.named, namedTypes, base])
  | implemented d args c a found listed =>
    refine .byClass c (List.mem_of_find?_eq_some found) (by simp [typeParams, found]) ?_
    exact List.mem_append_left _ (List.mem_append_right _ (List.mem_map_of_mem listed))
  | refined d args i a found listed =>
    refine .byInterface i (List.mem_of_find?_eq_some found) (by simp [typeParams, found]) ?_
    exact List.mem_append_left _ (List.mem_append_right _ (List.mem_map_of_mem listed))

theorem field_mentioned (ds : Declarations) (t : Ty) (f : Field) (own : f ∈ ds.ownFields t) : ds.Mentions t f.type := by
  rcases own_field_declared ds t f own with ⟨d, args, c, rfl, found, listed⟩ | ⟨d, args, i, rfl, found, listed⟩
  · refine .byClass c (List.mem_of_find?_eq_some found) (by simp [typeParams, found]) ?_
    exact List.mem_append_right _ (List.mem_map_of_mem listed)
  · refine .byInterface i (List.mem_of_find?_eq_some found) (by simp [typeParams, found]) ?_
    exact List.mem_append_right _ (List.mem_map_of_mem listed)

theorem mentioned_generics (ds : Declarations) (confined : ds.Confined) (t u : Ty) (mentions : ds.Mentions t u) :
    u.generics ⊆ ds.typeParams t := by
  cases mentions with
  | byClass c listed params named => exact params ▸ confined.classes c listed u named
  | byInterface i listed params named => exact params ▸ confined.interfaces i listed u named

theorem mentioned_saturated (ds : Declarations) (saturated : ds.saturated) (t u : Ty) (mentions : ds.Mentions t u) :
    u.saturated ds := by
  simp only [Declarations.saturated, Bool.and_eq_true, List.all_eq_true] at saturated
  cases mentions with
  | byClass c listed params named => exact saturated.1 c listed u named
  | byInterface i listed params named => exact saturated.2 i listed u named

def Full (ds : Declarations) (t : Ty) : Prop := (typeArgs t).length = (ds.typeParams t).length

theorem saturated_full (ds : Declarations) (t : Ty) (saturated : t.saturated ds) : ds.Full t := by
  cases t with
  | cls d args | iface d args =>
    rw [Ty.saturated, Bool.and_eq_true, beq_iff_eq] at saturated
    exact saturated.1
  | _ => rfl

theorem supertypes_full (ds : Declarations) (saturated : ds.saturated) (t super : Ty) (above : super ∈ ds.supertypes t) :
    ds.Full super := by
  obtain ⟨named, declared, rfl⟩ := List.mem_map.mp above
  have full := saturated_full ds named (mentioned_saturated ds saturated t named (super_mentioned ds t named declared))
  -- replacing parameters leaves the declaration and the number of arguments
  cases ds.declared_supers_named t named declared <;> simpa [Full, typeArgs, typeParams, Applied.cls, Applied.iface] using full

section

variable (ds : Declarations) (s : Bindings) (t : Ty) (notParam : ∀ name, t ≠ .generic name)

include notParam

theorem declared_supers_substitute : ds.declaredSupers (t.substitute s) = ds.declaredSupers t := by
  cases t with
  | generic name => exact absurd rfl (notParam name)
  | cls d args | iface d args => simp [declaredSupers]
  | _ => simp [declaredSupers, substitute]

theorem own_field_substitute (name : String) : ds.ownField? (t.substitute s) name = ds.ownField? t name := by
  cases t with
  | generic name => exact absurd rfl (notParam name)
  | cls d args | iface d args => simp [ownField?, ownFields]
  | _ => simp [ownField?, ownFields, substitute]

theorem bindings_substitute :
    ds.bindings (t.substitute s) = (ds.bindings t).map fun binding => (binding.1, binding.2.substitute s) := by
  cases t with
  | generic name => exact absurd rfl (notParam name)
  | cls d args | iface d args => simp [bindings, Bindings.ofArgs, typeArgs, typeParams, List.zip_map_right]
  | _ => simp [bindings, Bindings.ofArgs, typeArgs, typeParams, substitute]

end

theorem value_substitute (b s : Bindings) (name : String) (bound : name ∈ b.map Prod.fst) :
    (b.value name).substitute s = Bindings.value (b.map fun binding => (binding.1, binding.2.substitute s)) name := by
  induction b with
  | nil => cases bound
  | cons binding rest ih =>
    obtain ⟨param, t⟩ := binding
    by_cases here : name = param
    · simp [Bindings.value, here]
    · have other : (name == param) = false := beq_eq_false_iff_ne.mpr here
      have later : name ∈ rest.map Prod.fst := by simpa [here] using bound
      simpa [Bindings.value, List.lookup_cons, other] using ih later

theorem void_value (names : List String) (name : String) (listed : name ∈ names) :
    Bindings.value (names.map (·, .void)) name = .void := by
  induction names with
  | nil => cases listed
  | cons first rest ih =>
    by_cases here : name = first
    · simp [Bindings.value, here]
    · have other : (name == first) = false := beq_eq_false_iff_ne.mpr here
      have later : name ∈ rest := by simpa [here] using listed
      simpa [Bindings.value, List.lookup_cons, other] using ih later

theorem full_bound (ds : Declarations) (t : Ty) (full : ds.Full t) (name : String) (param : name ∈ ds.typeParams t) :
    name ∈ (ds.bindings t).map Prod.fst := by
  rw [bindings, Bindings.ofArgs, List.map_reverse, List.mem_reverse, List.map_fst_zip full.ge]
  exact param

-- What a declaration says with its own parameters comes out the same, whether parameters in the
-- arguments are replaced before or after the arguments are put in.
theorem declared_substitute (ds : Declarations) (s : Bindings) (t : Ty) (notParam : ∀ name, t ≠ .generic name)
    (full : ds.Full t) (u : Ty) (confined : u.generics ⊆ ds.typeParams t) :
    (u.substitute (ds.bindings t)).substitute s = u.substitute (ds.bindings (t.substitute s)) := by
  apply substitute_twice
  intro name occurs
  rw [bindings_substitute ds s t notParam]
  exact value_substitute _ s name (full_bound ds t full name (confined occurs))

theorem supertypes_substitute (ds : Declarations) (confined : ds.Confined) (s : Bindings) (t : Ty)
    (notParam : ∀ name, t ≠ .generic name) (full : ds.Full t) :
    ds.supertypes (t.substitute s) = (ds.supertypes t).map (substitute s) := by
  rw [supertypes, supertypes, declared_supers_substitute ds s t notParam, List.map_map]
  apply List.map_congr_left
  intro named declared
  have mentioned := super_mentioned ds t named declared
  exact (declared_substitute ds s t notParam full named (mentioned_generics ds confined t named mentioned)).symm

theorem supertype_not_param (ds : Declarations) (t super : Ty) (above : super ∈ ds.supertypes t) (name : String) :
    super ≠ .generic name := by
  cases supertypes_above ds t super above <;> simp

theorem parent_not_param (ds : Declarations) (t super : Ty) (above : super ∈ ds.supertypes t) (name : String) :
    t ≠ .generic name := by
  cases supertypes_above ds t super above <;> simp

def Member.substitute (s : Bindings) (m : Member) : Member := ⟨m.owner.substitute s, m.field, m.type.substitute s⟩

theorem member_of_substitute (ds : Declarations) (confined : ds.Confined) (s : Bindings) (t : Ty)
    (notParam : ∀ name, t ≠ .generic name) (full : ds.Full t) (name : String) :
    ds.memberOf? name (t.substitute s) = (ds.memberOf? name t).map (Member.substitute s) := by
  rw [memberOf?, memberOf?, own_field_substitute ds s t notParam, Option.map_map]
  apply Option.map_congr
  intro f own
  have mentioned := field_mentioned ds t f (List.mem_of_find?_eq_some own)
  have type := declared_substitute ds s t notParam full f.type (mentioned_generics ds confined t f.type mentioned)
  simp [Member.substitute, type]

theorem find_some_map {α β γ δ : Type} (f : β → Option δ) (g : α → Option γ) (h : α → β) (k : γ → δ) (xs : List α)
    (each : ∀ x ∈ xs, f (h x) = (g x).map k) : (xs.map h).findSome? f = (xs.findSome? g).map k := by
  induction xs with
  | nil => rfl
  | cons x rest ih =>
    obtain ⟨first, others⟩ := List.forall_mem_cons.mp each
    rw [List.map_cons, List.findSome?_cons, List.findSome?_cons, first, ih others]
    cases g x <;> rfl

section

variable (ds : Declarations) (confined : ds.Confined) (saturated : ds.saturated) (bounded : ∀ t, ds.Bounded (ds.height + 1) t)
  (s : Bindings)

include confined saturated bounded

-- The induction goes up the hierarchy; what stands above a type is a class or an interface again, and
-- applied to all its parameters.
theorem member_substitute (t : Ty) (notParam : ∀ name, t ≠ .generic name) (full : ds.Full t) (name : String) :
    ds.member? (t.substitute s) name = (ds.member? t name).map (Member.substitute s) := by
  have within := bounded t
  generalize ds.height + 1 = bound at within
  induction bound generalizing t with
  | zero => cases within
  | succ bound ih =>
    have higher := find_some_map (ds.member? · name) (ds.member? · name) (substitute s) (Member.substitute s) (ds.supertypes t)
      fun super above => ih super (supertype_not_param ds t super above) (supertypes_full ds saturated t super above)
        (within super above)
    have own := member_of_substitute ds confined s t notParam full name
    have search : ∀ u, ds.member? u name = (ds.memberOf? name u).or ((ds.supertypes u).findSome? (ds.member? · name)) :=
      fun u => search_unfold ds (ds.memberOf? name) u (bounded u)
    rw [search, search, own, supertypes_substitute ds confined s t notParam full, higher, Option.map_or]

theorem member_closed (t : Ty) (notParam : ∀ name, t ≠ .generic name) (full : ds.Full t) (closed : t.generics = []) (name : String)
    (found : Member) (member : ds.member? t name = some found) : found.type.generics = [] := by
  have same := member_substitute ds confined saturated bounded (found.type.generics.map (·, .void)) t notParam full name
  rw [substitute_closed _ t closed, member, Option.map_some, Option.some_inj] at same
  have type := congrArg Member.type same
  rw [List.eq_nil_iff_forall_not_mem]
  intro param occurs
  have left : param ∈ (found.type.substitute (found.type.generics.map (·, .void))).generics := by
    change found.type = found.type.substitute _ at type
    rwa [← type]
  obtain ⟨replaced, listed, inside⟩ := generics_substitute _ param found.type left
  simp [void_value _ replaced listed, generics] at inside

theorem reaches_substitute (a b : Ty) (full : ds.Full a) (reaches : ds.reaches a b) :
    ds.reaches (a.substitute s) (b.substitute s) := by
  have within := bounded a
  generalize ds.height + 1 = bound at within
  induction bound generalizing a with
  | zero => cases within
  | succ bound ih =>
    rcases (reaches_iff ds bounded a b).mp reaches with here | ⟨super, above, higher⟩
    · apply reaches_of_equal ds
      rw [substitute_equal_iff s s a b here]
      exact fun name _ => equal_refl _
    · have above' : super.substitute s ∈ ds.supertypes (a.substitute s) := by
        rw [supertypes_substitute ds confined s a (parent_not_param ds a super above) full]
        exact List.mem_map_of_mem above
      have higher' := ih super (supertypes_full ds saturated a super above) higher (within super above)
      exact (reaches_iff ds bounded _ _).mpr (.inr ⟨_, above', higher'⟩)

theorem assignable_substitute (values : ∀ name, s.lookup name ≠ some .unknown) (a b : Ty) (isA : a.saturated ds)
    (isB : b.saturated ds) (flows : ds.assignable a b) : ds.assignable (a.substitute s) (b.substitute s) := by
  by_cases lambdas : ∀ ps r qs u, a = .lambda ps r → b ≠ .lambda qs u
  · simp only [assignable_other ds a b lambdas, flowsTo, Bool.and_eq_true, Bool.or_eq_true, Bool.not_eq_true'] at flows
    obtain ⟨⟨knownA, knownB⟩, (anyA | anyB) | reaches⟩ := flows
    all_goals
      have knownA := substitute_known s a values knownA
      have knownB := substitute_known s b values knownB
    · obtain rfl := (is_any_iff a).mp anyA
      exact (assignable_any ds _ knownB).2
    · obtain rfl := (is_any_iff b).mp anyB
      exact (assignable_any ds _ knownA).1
    · apply assignable_of_reaches ds bounded _ _ knownA knownB
      exact reaches_substitute ds confined saturated bounded s a b (saturated_full ds a isA) reaches
  · push Not at lambdas
    obtain ⟨ps, r, qs, u, rfl, rfl⟩ := lambdas
    rcases (assignable_lambda_cases ds ps qs r u).mp flows with same | ⟨params, result⟩
    · apply assignable_of_equal ds _ _ rfl
      rw [substitute_equal_iff s s _ _ same]
      exact fun name _ => equal_refl _
    · rw [Ty.saturated, Bool.and_eq_true, saturated_params_iff] at isA isB
      rw [substitute_lambda, substitute_lambda, assignable_lambda_cases, List.forall₂_map_left_iff, List.forall₂_map_right_iff]
      obtain ⟨lengths, each⟩ := List.forall₂_iff_zip.mp params
      refine .inr ⟨List.forall₂_iff_zip.mpr ⟨lengths, fun {p q} member => ?_⟩, result.imp (fun void => ?_) fun flows => ?_⟩
      · obtain ⟨isP, isQ⟩ := List.of_mem_zip member
        have smaller := param_smaller ps r p isP
        have smaller' := param_smaller qs u q isQ
        exact assignable_substitute values q.2 p.2 (isB.1 q isQ) (isA.1 p isP) (each member)
      · rw [(is_void_iff u).mp void]
        rfl
      · exact assignable_substitute values r u isA.2 isB.2 flows
termination_by sizeOf a + sizeOf b

end

end Declarations

end Typeflow
