import Typeflow.Document.Declare
import Typeflow.Proofs.Type.Whole

set_option autoImplicit false

namespace Typeflow

namespace Ty

section

variable {ε : Type} {label : Text.Bytes → String} {resolve : Resolver ε}

def Resolver.Whole (resolve : Resolver ε) : Prop :=
  ∀ name args t, (∀ a ∈ args, a.whole) → resolve name args = .ok t → t.whole

theorem of_name_whole (closed : resolve.Whole) (name : Text.Bytes) (args : List Ty) (rest rest' : Text.Bytes) (t : Ty)
    (whole : ∀ a ∈ args, a.whole)
    (named : ofName (maker label) (some resolve) name args rest = .ok (t, rest')) : t.whole := by
  unfold ofName at named
  split at named
  · cases named
    rfl
  · split at named
    · cases named
      rfl
    · cases found : resolve name args with
      | error why => simp [found] at named
      | ok u =>
        simp only [found] at named
        cases named
        exact closed name args t whole found

mutual

theorem read_type_whole (closed : resolve.Whole) (fuel : Nat) (bytes rest : Text.Bytes) (t : Ty)
    (read : readType (maker label) (some resolve) fuel bytes = .ok (t, rest)) : t.whole := by
  match fuel with
  | 0 => cases read
  | fuel + 1 =>
    rw [readType] at read
    split at read
    next opened _ =>
      split at read
      next => exact read_result_whole closed fuel [] _ rest t nofun read
      next =>
        split at read
        next => cases read
        next params after found =>
          exact read_result_whole closed fuel params after rest t (read_params_whole closed fuel _ after params found) read
    next =>
      split at read
      next => cases read
      next name after _ =>
        split at read
        next => exact of_name_whole closed name [] _ rest t nofun read
        next =>
          split at read
          next => cases read
          next args after found =>
            exact of_name_whole closed name args after rest t (read_args_whole closed fuel _ after args found) read

theorem read_result_whole (closed : resolve.Whole) (fuel : Nat) (params : List (Text.Bytes × Ty)) (bytes rest : Text.Bytes) (t : Ty)
    (whole : ∀ param ∈ params, param.2.whole) (read : readResult (maker label) (some resolve) fuel params bytes = .ok (t, rest)) :
    t.whole := by
  match fuel with
  | 0 => cases read
  | fuel + 1 =>
    rw [readResult] at read
    split at read
    next => cases read
    next =>
      split at read
      next => cases read
      next result after found =>
        cases read
        exact (lambda_whole_iff _ result).mpr ⟨List.forall_mem_map.mpr whole, read_type_whole closed fuel _ _ result found⟩

theorem read_args_whole (closed : resolve.Whole) (fuel : Nat) (bytes rest : Text.Bytes) (args : List Ty)
    (read : readArgs (maker label) (some resolve) fuel bytes = .ok (args, rest)) : ∀ a ∈ args, a.whole := by
  match fuel with
  | 0 => cases read
  | fuel + 1 =>
    rw [readArgs] at read
    split at read
    next => cases read
    next arg after found =>
      have first := read_type_whole closed fuel _ _ arg found
      split at read
      next =>
        cases read
        exact List.forall_mem_singleton.mpr first
      next =>
        split at read
        next => cases read
        next =>
          split at read
          next => cases read
          next others _ more =>
            cases read
            exact List.forall_mem_cons.mpr ⟨first, read_args_whole closed fuel _ _ others more⟩

theorem read_params_whole (closed : resolve.Whole) (fuel : Nat) (bytes rest : Text.Bytes) (params : List (Text.Bytes × Ty))
    (read : readParams (maker label) (some resolve) fuel bytes = .ok (params, rest)) : ∀ param ∈ params, param.2.whole := by
  match fuel with
  | 0 => cases read
  | fuel + 1 =>
    rw [readParams] at read
    split at read
    next => cases read
    next name _ _ =>
      split at read
      next => cases read
      next =>
        split at read
        next => cases read
        next t after found =>
          have first := read_type_whole closed fuel _ _ t found
          split at read
          next =>
            cases read
            exact List.forall_mem_singleton.mpr first
          next =>
            split at read
            next => cases read
            next =>
              split at read
              next => cases read
              next others _ more =>
                cases read
                exact List.forall_mem_cons.mpr ⟨first, read_params_whole closed fuel _ _ others more⟩

end

theorem parse_whole (closed : resolve.Whole) (src : String) (t : Ty) (parsed : parse (some resolve) src = .ok t) : t.whole := by
  unfold parse parseBytes at parsed
  split at parsed
  next => cases parsed
  next found =>
    split at parsed
    next =>
      cases parsed
      exact read_type_whole closed _ _ _ t found
    next => cases parsed

end

end Ty

namespace Document

theorem resolver_whole (ds : Declarations) (generics : List String) (name : Text.Bytes) (args : List Ty) (t : Ty)
    (whole : ∀ a ∈ args, a.whole) (resolved : resolver ds generics name args = .ok t) : t.whole := by
  have arity : ∀ name params u, u.whole → checkArity name params args u = .ok t → t.whole := by
    intro name params u known checked
    unfold checkArity at checked
    split at checked
    · cases checked
      exact known
    · cases checked
  unfold resolver at resolved
  split at resolved
  next name _ =>
    unfold resolveName at resolved
    split at resolved
    · split at resolved
      · cases resolved
        rfl
      · cases resolved
    · split at resolved
      next c _ => exact arity name _ _ ((cls_whole_iff c.id args).mpr whole) resolved
      next =>
        split at resolved
        next i _ => exact arity name _ _ ((iface_whole_iff i.id args).mpr whole) resolved
        next =>
          split at resolved
          next =>
            cases resolved
            rfl
          next => cases resolved
  next => cases resolved

theorem type_of_noted (ds : Declarations) (generics : List String) (src : String) (t : Ty)
    (read : typeOf ds generics src = .ok t) : t.Noted := by
  unfold typeOf at read
  split at read
  · cases read
    exact .inl rfl
  · split at read
    next found =>
      cases read
      exact .inr (Ty.parse_whole (resolver_whole ds generics) src t found)
    next => cases read
    next => cases read

theorem inside_ok {α : Type} (part : Part) (x : Except BuildError α) (a : α) (done : inside part x = .ok a) : x = .ok a := by
  cases x with
  | ok b => exact done
  | error e => cases done

theorem bind_ok {α β ε : Type} (x : Except ε α) (f : α → Except ε β) (b : β) (done : x >>= f = .ok b) :
    ∃ a, x = .ok a ∧ f a = .ok b := by
  cases x with
  | error e => cases done
  | ok a => exact ⟨a, rfl, done⟩

theorem bind_of_ok {α β ε : Type} {x : Except ε α} {f : α → Except ε β} {a : α} {b : β} (first : x = .ok a) (second : f a = .ok b) :
    x >>= f = .ok b := by
  rw [first]
  exact second

theorem map_m_ok {α β ε : Type} (f : α → Except ε β) (xs : List α) (ys : List β) (done : xs.mapM f = .ok ys) :
    ∀ y ∈ ys, ∃ x ∈ xs, f x = .ok y := by
  induction xs generalizing ys with
  | nil =>
    cases done
    exact nofun
  | cons x rest ih =>
    rw [List.mapM_cons] at done
    obtain ⟨y, first, done⟩ := bind_ok _ _ _ done
    obtain ⟨more, others, done⟩ := bind_ok _ _ _ done
    cases done
    refine List.forall_mem_cons.mpr ⟨⟨x, List.mem_cons_self, first⟩, fun z member => ?_⟩
    obtain ⟨source, listed, read⟩ := ih more others z member
    exact ⟨source, List.mem_cons_of_mem x listed, read⟩

def Reads (ds : Declarations) (generics : List String) (t : Ty) : Prop := t ≠ .unknown ∧ ∃ src, typeOf ds generics src = .ok t

theorem reads_whole (ds : Declarations) (generics : List String) (t : Ty) (reads : Reads ds generics t) : t.whole := by
  obtain ⟨known, src, read⟩ := reads
  exact noted_known t (type_of_noted ds generics src t read) known

theorem fields_of_reads (ds : Declarations) (generics : List String) (docs : List FieldDoc) (fields : List Field)
    (read : fieldsOf ds generics docs = .ok fields) : ∀ f ∈ fields, Reads ds generics f.type := by
  intro f member
  obtain ⟨doc, _, made⟩ := map_m_ok _ docs fields read f member
  obtain ⟨t, found, made⟩ := bind_ok _ _ _ made
  split at made
  next => cases made
  next known =>
    cases made
    exact ⟨known, doc.type, inside_ok _ _ t found⟩

theorem interfaces_of_reads (ds : Declarations) (generics : List String) (refuse : Ty → BuildError) (names : List String)
    (listed : List Applied) (read : interfacesOf ds generics refuse names = .ok listed) :
    ∀ a ∈ listed, Reads ds generics a.iface := by
  intro a member
  obtain ⟨name, _, made⟩ := map_m_ok _ names listed read a member
  obtain ⟨t, found, made⟩ := bind_ok _ _ _ made
  split at made
  next d args =>
    cases made
    exact ⟨nofun, name, found⟩
  next => cases made

theorem base_of_reads (ds : Declarations) (c : ClassDoc) (a : Applied) (read : baseOf ds c = .ok (some a)) :
    Reads ds c.typeParams a.cls := by
  unfold baseOf at read
  split at read
  · cases read
  · obtain ⟨t, found, read⟩ := bind_ok _ _ _ read
    split at read
    next d args =>
      cases read
      exact ⟨nofun, c.base, found⟩
    next => cases read

def ClassBody.named (b : ClassBody) : List Ty := namedTypes b.base b.interfaces b.fields

def InterfaceBody.named (b : InterfaceBody) : List Ty := namedTypes none b.bases b.fields

theorem class_body_reads (ds : Declarations) (c : ClassDoc) (b : ClassBody) (read : classBody ds c = .ok b) :
    c.name = b.name ∧ ∀ t ∈ b.named, Reads ds c.typeParams t := by
  obtain ⟨base, hasBase, read⟩ := bind_ok _ _ _ (inside_ok _ _ b read)
  obtain ⟨interfaces, listed, read⟩ := bind_ok _ _ _ read
  obtain ⟨fields, has, read⟩ := bind_ok _ _ _ read
  cases read
  refine ⟨rfl, (named_types_iff _ _ _ _).mpr ⟨fun a named => ?_, ?_, ?_⟩⟩
  · exact base_of_reads ds c a (named ▸ hasBase)
  · exact interfaces_of_reads ds _ _ _ interfaces listed
  · exact fields_of_reads ds _ _ fields has

theorem interface_body_reads (ds : Declarations) (i : InterfaceDoc) (b : InterfaceBody) (read : interfaceBody ds i = .ok b) :
    i.name = b.name ∧ ∀ t ∈ b.named, Reads ds i.typeParams t := by
  obtain ⟨bases, listed, read⟩ := bind_ok _ _ _ (inside_ok _ _ b read)
  obtain ⟨fields, has, read⟩ := bind_ok _ _ _ read
  cases read
  refine ⟨rfl, (named_types_iff _ _ _ _).mpr ⟨nofun, ?_, ?_⟩⟩
  · exact interfaces_of_reads ds _ _ _ bases listed
  · exact fields_of_reads ds _ _ fields has

-- Filling in a declaration adds nothing but what the entries of its name say.
theorem class_fill_named (p : Ty → Prop) (bodies : List ClassBody) (c : Class) (named : ∀ t ∈ c.named, p t)
    (each : ∀ b ∈ bodies, b.name = c.id.name → ∀ t ∈ b.named, p t) : ∀ t ∈ (Class.fill bodies c).named, p t := by
  unfold Class.fill
  split
  · refine List.foldlRecOn (motive := fun filled : Class => ∀ t ∈ filled.named, p t) _ _ named fun filled known b member => ?_
    obtain ⟨listed, same⟩ := List.mem_filter.mp member
    obtain ⟨base, interfaces, fields⟩ := (named_types_iff _ _ _ _).mp (each b listed (by simpa using same))
    obtain ⟨base', interfaces', _⟩ := (named_types_iff _ _ _ _).mp known
    refine (named_types_iff _ _ _ _).mpr ⟨fun a isBase => ?_, List.forall_mem_append.mpr ⟨interfaces', interfaces⟩, fields⟩
    cases own : b.base with
    | none => exact base' a (by simpa [own] using isBase)
    | some own' => exact base a (by simpa [own] using isBase)
  · exact named

theorem interface_fill_named (p : Ty → Prop) (bodies : List InterfaceBody) (i : Interface) (named : ∀ t ∈ i.named, p t)
    (each : ∀ b ∈ bodies, b.name = i.id.name → ∀ t ∈ b.named, p t) : ∀ t ∈ (Interface.fill bodies i).named, p t := by
  unfold Interface.fill
  split
  · refine List.foldlRecOn (motive := fun filled : Interface => ∀ t ∈ filled.named, p t) _ _ named fun filled known b member => ?_
    obtain ⟨listed, same⟩ := List.mem_filter.mp member
    obtain ⟨_, bases, fields⟩ := (named_types_iff _ _ _ _).mp (each b listed (by simpa using same))
    obtain ⟨_, bases', _⟩ := (named_types_iff _ _ _ _).mp known
    exact (named_types_iff _ _ _ _).mpr ⟨nofun, List.forall_mem_append.mpr ⟨bases', bases⟩, fields⟩
  · exact named

theorem class_fill_id (bodies : List ClassBody) (c : Class) :
    (Class.fill bodies c).id = c.id ∧ (Class.fill bodies c).typeParams = c.typeParams := by
  unfold Class.fill
  split
  · exact List.foldlRecOn (motive := fun filled : Class => filled.id = c.id ∧ filled.typeParams = c.typeParams) _ _ ⟨rfl, rfl⟩
      fun _ same _ _ => same
  · exact ⟨rfl, rfl⟩

theorem interface_fill_id (bodies : List InterfaceBody) (i : Interface) :
    (Interface.fill bodies i).id = i.id ∧ (Interface.fill bodies i).typeParams = i.typeParams := by
  unfold Interface.fill
  split
  · exact List.foldlRecOn (motive := fun filled : Interface => filled.id = i.id ∧ filled.typeParams = i.typeParams) _ _ ⟨rfl, rfl⟩
      fun _ same _ _ => same
  · exact ⟨rfl, rfl⟩

theorem filled_class_reads (unit : UnitDoc) (bodies : List ClassBody) (read : unit.classes.mapM (classBody (outline unit)) = .ok bodies)
    (c : Class) (member : c ∈ (outline unit).classes.map (Class.fill bodies)) :
    ∀ t ∈ c.named, ∃ doc ∈ unit.classes, doc.name = c.id.name ∧ Reads (outline unit) doc.typeParams t := by
  obtain ⟨named, listed, rfl⟩ := List.mem_map.mp member
  obtain ⟨source, _, rfl⟩ := List.mem_map.mp listed
  rw [(class_fill_id bodies _).1]
  refine class_fill_named _ bodies _ nofun fun b member same t named => ?_
  obtain ⟨doc, isDoc, body⟩ := map_m_ok _ _ _ read b member
  obtain ⟨name, reads⟩ := class_body_reads _ doc b body
  exact ⟨doc, isDoc, name.trans same, reads t named⟩

theorem filled_interface_reads (unit : UnitDoc) (bodies : List InterfaceBody)
    (read : unit.interfaces.mapM (interfaceBody (outline unit)) = .ok bodies) (i : Interface)
    (member : i ∈ (outline unit).interfaces.map (Interface.fill bodies)) :
    ∀ t ∈ i.named, ∃ doc ∈ unit.interfaces, doc.name = i.id.name ∧ Reads (outline unit) doc.typeParams t := by
  obtain ⟨named, listed, rfl⟩ := List.mem_map.mp member
  obtain ⟨source, _, rfl⟩ := List.mem_map.mp listed
  rw [(interface_fill_id bodies _).1]
  refine interface_fill_named _ bodies _ nofun fun b member same t named => ?_
  obtain ⟨doc, isDoc, body⟩ := map_m_ok _ _ _ read b member
  obtain ⟨name, reads⟩ := interface_body_reads _ doc b body
  exact ⟨doc, isDoc, name.trans same, reads t named⟩

theorem declarations_of_whole (unit : UnitDoc) (ds : Declarations) (declared : declarationsOf unit = .ok ds) : ds.Whole := by
  obtain ⟨classes, readClasses, declared⟩ := bind_ok _ _ _ declared
  obtain ⟨interfaces, readInterfaces, declared⟩ := bind_ok _ _ _ declared
  obtain ⟨_, _, declared⟩ := bind_ok _ _ _ declared
  cases declared
  constructor
  · intro c member
    apply class_whole_of_named
    intro t named
    obtain ⟨doc, _, _, reads⟩ := filled_class_reads unit classes readClasses c member t named
    exact reads_whole _ _ t reads
  · intro i member
    apply interface_whole_of_named
    intro t named
    obtain ⟨doc, _, _, reads⟩ := filled_interface_reads unit interfaces readInterfaces i member t named
    exact reads_whole _ _ t reads

end Document

end Typeflow
