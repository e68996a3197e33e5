import Typeflow.Proofs.Type.Ancestors
import Typeflow.Tree.Node

set_option autoImplicit false

namespace Typeflow

namespace Ty

mutual

def whole : Ty → Bool
  | .unknown => false
  | .cls _ args => wholeAll args
  | .iface _ args => wholeAll args
  | .lambda params result => wholeParams params && result.whole
  | _ => true

def wholeAll : List Ty → Bool
  | [] => true
  | t :: rest => t.whole && wholeAll rest

def wholeParams : List (String × Ty) → Bool
  | [] => true
  | (_, t) :: rest => t.whole && wholeParams rest

end

-- Induction over a type, with the parts of a list at once.
theorem parts_induction {motive : Ty → Prop} (unknown : motive .unknown) (any : motive .any) (void : motive .void)
    (generic : ∀ name, motive (.generic name)) (cls : ∀ d args, (∀ t ∈ args, motive t) → motive (.cls d args))
    (iface : ∀ d args, (∀ t ∈ args, motive t) → motive (.iface d args)) (enumeration : ∀ d, motive (.enumeration d))
    (lambda : ∀ params result, (∀ param ∈ params, motive param.2) → motive result → motive (.lambda params result))
    (t : Ty) : motive t :=
  @Ty.rec String motive (fun types => ∀ t ∈ types, motive t) (fun params => ∀ param ∈ params, motive param.2)
    (fun param => motive param.2) unknown any void generic cls iface enumeration lambda
    (List.forall_mem_nil _) (fun _ _ first others => List.forall_mem_cons.mpr ⟨first, others⟩)
    (List.forall_mem_nil _) (fun _ _ first others => List.forall_mem_cons.mpr ⟨first, others⟩)
    (fun _ _ holds => holds) t

section

variable (b : Bindings) (d : DeclId) (args : List Ty) (params : List (String × Ty)) (result : Ty)

theorem substitute_all_eq : substituteAll b args = args.map (substitute b) := by
  induction args with
  | nil => rfl
  | cons t rest ih => simp [substituteAll, ih]

theorem substitute_params_eq : substituteParams b params = params.map fun param => (param.1, param.2.substitute b) := by
  induction params with
  | nil => rfl
  | cons param rest ih => simp [substituteParams, ih]

@[simp] theorem substitute_cls : (cls d args).substitute b = .cls d (args.map (substitute b)) := by
  rw [substitute, substitute_all_eq]

@[simp] theorem substitute_iface : (iface d args).substitute b = .iface d (args.map (substitute b)) := by
  rw [substitute, substitute_all_eq]

@[simp] theorem substitute_lambda :
    (lambda params result).substitute b = .lambda (params.map fun param => (param.1, param.2.substitute b)) (result.substitute b) := by
  rw [substitute, substitute_params_eq]

end

-- A type that is noted may still be missing, but it is never there in part.
def Noted (t : Ty) : Prop := t = .unknown ∨ t.whole

end Ty

theorem whole_all_iff (types : List Ty) : Ty.wholeAll types ↔ ∀ t ∈ types, t.whole := by
  induction types with
  | nil => simp [Ty.wholeAll]
  | cons t rest ih => simp [Ty.wholeAll, ih]

theorem whole_params_iff (params : List (String × Ty)) : Ty.wholeParams params ↔ ∀ param ∈ params, param.2.whole := by
  induction params with
  | nil => simp [Ty.wholeParams]
  | cons param rest ih => simp [Ty.wholeParams, ih]

theorem cls_whole_iff (d : DeclId) (args : List Ty) : (Ty.cls d args).whole ↔ ∀ t ∈ args, t.whole := by
  rw [Ty.whole, whole_all_iff]

theorem iface_whole_iff (d : DeclId) (args : List Ty) : (Ty.iface d args).whole ↔ ∀ t ∈ args, t.whole := by
  rw [Ty.whole, whole_all_iff]

theorem lambda_whole_iff (params : List (String × Ty)) (result : Ty) :
    (Ty.lambda params result).whole ↔ (∀ param ∈ params, param.2.whole) ∧ result.whole := by
  rw [Ty.whole, Bool.and_eq_true, whole_params_iff]

theorem whole_known (t : Ty) (whole : t.whole) : t ≠ .unknown := by
  rintro rfl
  cases whole

theorem noted_known (t : Ty) (noted : t.Noted) (known : t ≠ .unknown) : t.whole :=
  noted.resolve_left known

theorem or_else_whole (t other : Ty) (noted : t.Noted) (whole : other.whole) : (t.orElse other).whole := by
  rcases noted with rfl | known
  · exact whole
  · cases t with
    | unknown => cases known
    | _ => exact known

theorem substitute_whole (b : Bindings) (bound : ∀ binding ∈ b, binding.2.whole) (t : Ty) (whole : t.whole) :
    (t.substitute b).whole := by
  induction t using Ty.parts_induction with
  | generic name =>
    rw [Ty.substitute]
    cases found : b.lookup name with
    | none => rfl
    | some t =>
      obtain ⟨before, after, split, _⟩ := List.lookup_eq_some_iff.mp found
      exact bound (name, t) (split ▸ List.mem_append_right before List.mem_cons_self)
  | cls d args ih =>
    rw [cls_whole_iff] at whole
    rw [Ty.substitute_cls, cls_whole_iff, List.forall_mem_map]
    exact fun t member => ih t member (whole t member)
  | iface d args ih =>
    rw [iface_whole_iff] at whole
    rw [Ty.substitute_iface, iface_whole_iff, List.forall_mem_map]
    exact fun t member => ih t member (whole t member)
  | lambda params result ih ihResult =>
    rw [lambda_whole_iff] at whole
    rw [Ty.substitute_lambda, lambda_whole_iff, List.forall_mem_map]
    exact ⟨fun param member => ih param member (whole.1 param member), ihResult whole.2⟩
  | unknown => cases whole
  | any | void | enumeration => rfl

def namedTypes (base : Option Applied) (interfaces : List Applied) (fields : List Field) : List Ty :=
  (base.map Applied.cls).toList ++ interfaces.map Applied.iface ++ fields.map Field.type

def Class.named (c : Class) : List Ty := namedTypes c.base c.interfaces c.fields

def Interface.named (i : Interface) : List Ty := namedTypes none i.bases i.fields

theorem named_types_iff (base : Option Applied) (interfaces : List Applied) (fields : List Field) (p : Ty → Prop) :
    (∀ t ∈ namedTypes base interfaces fields, p t) ↔
      (∀ a, base = some a → p a.cls) ∧ (∀ a ∈ interfaces, p a.iface) ∧ ∀ f ∈ fields, p f.type := by
  cases base <;> simp [namedTypes, or_imp, forall_and]

def Applied.Whole (a : Applied) : Prop := ∀ t ∈ a.args, t.whole

structure Class.Whole (c : Class) : Prop where
  base : ∀ a, c.base = some a → a.Whole
  interfaces : ∀ a ∈ c.interfaces, a.Whole
  fields : ∀ f ∈ c.fields, f.type.whole

structure Interface.Whole (i : Interface) : Prop where
  bases : ∀ a ∈ i.bases, a.Whole
  fields : ∀ f ∈ i.fields, f.type.whole

structure Declarations.Whole (ds : Declarations) : Prop where
  classes : ∀ c ∈ ds.classes, c.Whole
  interfaces : ∀ i ∈ ds.interfaces, i.Whole

theorem class_whole_of_named (c : Class) (whole : ∀ t ∈ c.named, t.whole) : c.Whole := by
  obtain ⟨base, interfaces, fields⟩ := (named_types_iff _ _ _ _).mp whole
  exact ⟨fun a named => (cls_whole_iff a.decl a.args).mp (base a named),
    fun a listed => (iface_whole_iff a.decl a.args).mp (interfaces a listed), fields⟩

theorem interface_whole_of_named (i : Interface) (whole : ∀ t ∈ i.named, t.whole) : i.Whole := by
  obtain ⟨_, bases, fields⟩ := (named_types_iff _ _ _ _).mp whole
  exact ⟨fun a listed => (iface_whole_iff a.decl a.args).mp (bases a listed), fields⟩

theorem bindings_whole (ds : Declarations) (t : Ty) (whole : t.whole) : ∀ binding ∈ ds.bindings t, binding.2.whole := by
  intro binding member
  have arg : binding.2 ∈ Declarations.typeArgs t :=
    (List.of_mem_zip (List.mem_reverse.mp member)).2
  cases t with
  | cls d args => exact (cls_whole_iff d args).mp whole _ arg
  | iface d args => exact (iface_whole_iff d args).mp whole _ arg
  | _ => cases arg

theorem supertypes_whole (ds : Declarations) (declared : ds.Whole) (t super : Ty) (whole : t.whole)
    (above : super ∈ ds.supertypes t) : super.whole := by
  obtain ⟨named, member, rfl⟩ := List.mem_map.mp above
  refine substitute_whole _ (bindings_whole ds t whole) named ?_
  cases ds.declared_supers_named t named member with
  | base d args c a found base =>
    exact (cls_whole_iff a.decl a.args).mpr ((declared.classes c (List.mem_of_find?_eq_some found)).base a base)
  | implemented d args c a found listed =>
    exact (iface_whole_iff a.decl a.args).mpr ((declared.classes c (List.mem_of_find?_eq_some found)).interfaces a listed)
  | refined d args i a found listed =>
    exact (iface_whole_iff a.decl a.args).mpr ((declared.interfaces i (List.mem_of_find?_eq_some found)).bases a listed)

theorem ancestors_whole (ds : Declarations) (declared : ds.Whole) (height : Nat) (t ancestor : Ty) (whole : t.whole)
    (above : ancestor ∈ ds.ancestorsWithin height t) : ancestor.whole := by
  induction height generalizing t with
  | zero =>
    rw [List.mem_singleton.mp above]
    exact whole
  | succ height ih =>
    rcases List.mem_cons.mp above with rfl | higher
    · exact whole
    · obtain ⟨super, member, inner⟩ := List.mem_flatMap.mp higher
      exact ih super (supertypes_whole ds declared t super whole member) inner

theorem own_field_declared (ds : Declarations) (t : Ty) (f : Field) (own : f ∈ ds.ownFields t) :
    (∃ d args c, t = .cls d args ∧ ds.class? d = some c ∧ f ∈ c.fields) ∨
      ∃ d args i, t = .iface d args ∧ ds.interface? d = some i ∧ f ∈ i.fields := by
  cases t with
  | cls d args =>
    rw [Declarations.ownFields] at own
    cases found : ds.class? d with
    | none => simp [found] at own
    | some c => exact .inl ⟨d, args, c, rfl, found, by simpa [found] using own⟩
  | iface d args =>
    rw [Declarations.ownFields] at own
    cases found : ds.interface? d with
    | none => simp [found] at own
    | some i => exact .inr ⟨d, args, i, rfl, found, by simpa [found] using own⟩
  | _ => simp [Declarations.ownFields] at own

theorem own_field_whole (ds : Declarations) (declared : ds.Whole) (t : Ty) (f : Field) (own : f ∈ ds.ownFields t) :
    f.type.whole := by
  rcases own_field_declared ds t f own with ⟨d, args, c, _, found, listed⟩ | ⟨d, args, i, _, found, listed⟩
  · exact (declared.classes c (List.mem_of_find?_eq_some found)).fields f listed
  · exact (declared.interfaces i (List.mem_of_find?_eq_some found)).fields f listed

theorem member_whole (ds : Declarations) (declared : ds.Whole) (t : Ty) (name : String) (found : Declarations.Member)
    (whole : t.whole) (member : ds.member? t name = some found) : found.type.whole := by
  rw [Declarations.member?, Declarations.search_eq] at member
  obtain ⟨before, owner, after, split, owned, _⟩ := List.findSome?_eq_some_iff.mp member
  obtain ⟨f, own, rfl⟩ := Option.map_eq_some_iff.mp owned
  have above : owner ∈ ds.ancestors t := split ▸ List.mem_append_right before List.mem_cons_self
  exact substitute_whole _ (bindings_whole ds owner (ancestors_whole ds declared _ t owner whole above)) f.type
    (own_field_whole ds declared owner f (List.mem_of_find?_eq_some own))

theorem self_type_whole (ds : Declarations) (id : DeclId) : (ds.selfType id).whole := by
  rw [Declarations.selfType, cls_whole_iff]
  intro t member
  obtain ⟨name, _, rfl⟩ := List.mem_map.mp member
  rfl

-- The types that a node itself names have no holes. Only the results of functions and lambdas
-- may be left out.
def Node.Whole : Node → Prop
  | .expr (.instanceOf _ _ check) => check.whole
  | .expr (.cast _ _ target _) => target.whole
  | .expr (.lambda _ _ returns _) => returns.Noted
  | .expr (.fieldRef _ _ target) => target.type.whole
  | .function f => f.returns.Noted
  | _ => True

end Typeflow
