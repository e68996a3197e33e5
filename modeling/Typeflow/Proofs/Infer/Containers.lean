import Typeflow.Proofs.Infer.Strategies
import Typeflow.Proofs.Type.Assignability

set_option autoImplicit false

namespace Typeflow

-- A container literal, with the expressions whose types count.
def Expr.contents? : Expr → Option (Container × List Expr)
  | .array _ items => some (.array, items)
  | .map _ entries => some (.map, entries.map Prod.snd)
  | _ => none

def LiteralTypes.ofContainer (literals : LiteralTypes) : Container → Option DeclId
  | .array => literals.array
  | .map => literals.map

namespace Infer

open Ty Declarations

-- The two lists have the same types, in any order and any number.
structure SameTypes (types others : List Ty) : Prop where
  left : ∀ t ∈ types, ∃ u ∈ others, t.equal u
  right : ∀ u ∈ others, ∃ t ∈ types, u.equal t

namespace SameTypes

variable {types others : List Ty}

theorem symm (same : SameTypes types others) : SameTypes others types := ⟨same.right, same.left⟩

theorem of_mem_iff (members : ∀ t, t ∈ types ↔ t ∈ others) : SameTypes types others :=
  ⟨fun t listed => ⟨t, (members t).mp listed, equal_refl t⟩, fun t listed => ⟨t, (members t).mpr listed, equal_refl t⟩⟩

theorem empty (same : SameTypes [] others) : others = [] := by
  cases others with
  | nil => rfl
  | cons u rest =>
    obtain ⟨t, listed, _⟩ := same.right u List.mem_cons_self
    cases listed

theorem uniform (same : SameTypes types others) (uniform : Uniform types) : Uniform others := by
  intro u isU v isV
  obtain ⟨t, isT, left⟩ := same.right u isU
  obtain ⟨w, isW, right⟩ := same.right v isV
  exact equal_trans u t v left (equal_trans t w v (uniform t isT w isW) (equal_equivalence.symm right))

end SameTypes

theorem applied_equal (d : DeclId) (t u : Ty) (same : t.equal u) : (cls d [t]).equal (.cls d [u]) := by
  simp [equal, equalAll, same]

theorem sole_arg_iff (d : DeclId) (t arg : Ty) : soleArg? d t = some arg ↔ t = .cls d [arg] := by
  unfold soleArg?
  split <;> grind

section

variable (c : Container) (d : DeclId) (wanted : Ty) (types : List Ty)

theorem element_type_empty : elementType c d wanted [] =
    ((soleArg? d wanted).getD .any, if wanted.isUnknown then some (.emptyLiteral c) else none) := by
  cases wanted <;> rfl

theorem element_type_uniform (uniform : Uniform types) (t : Ty) (member : t ∈ types) :
    (elementType c d wanted types).1.equal t ∧ (elementType c d wanted types).2 = none := by
  rcases (distinct_types_firsts types).inversion with ⟨rfl, _⟩ | ⟨_, u, isU, kept⟩ | ⟨mixed, _⟩
  · cases member
  · rw [elementType, kept]
    exact ⟨uniform u isU t member, rfl⟩
  · exact absurd uniform mixed

theorem element_type_mixed (mixed : ¬ Uniform types) : elementType c d wanted types =
    (.any, if wanted.isAny then none else some (.mixedLiteral c (distinctTypes types))) := by
  rcases (distinct_types_firsts types).inversion with ⟨rfl, _⟩ | ⟨uniform, _⟩ | ⟨_, t, u, others, kept⟩
  · exact absurd (by simp [Uniform]) mixed
  · exact absurd uniform mixed
  · rw [elementType, kept]
    cases wanted <;> rfl

theorem element_type_above (ds : Declarations) (t : Ty) (member : t ∈ types) (known : t.isUnknown = false) :
    ds.assignable t (elementType c d wanted types).1 := by
  by_cases uniform : Uniform types
  · have same := (element_type_uniform c d wanted types uniform t member).1
    exact assignable_of_equal ds t _ known (equal_equivalence.symm same)
  · rw [element_type_mixed c d wanted types uniform]
    exact (assignable_any ds t known).1

theorem element_type_warns_iff : (elementType c d wanted types).2.isSome ↔
    types = [] ∧ wanted = .unknown ∨ 2 ≤ (distinctTypes types).length ∧ wanted ≠ .any := by
  rcases (distinct_types_firsts types).inversion with ⟨rfl, kept⟩ | ⟨uniform, t, isT, kept⟩ | ⟨mixed, t, u, others, kept⟩
  · rw [element_type_empty, kept]
    cases wanted <;> simp [isUnknown]
  · rw [(element_type_uniform c d wanted types uniform t isT).2, kept]
    simp [List.ne_nil_of_mem isT]
  · have nonempty : types ≠ [] := fun empty => mixed (by simp [empty, Uniform])
    rw [element_type_mixed c d wanted types mixed, kept]
    cases wanted <;> simp [isAny, nonempty]

theorem element_type_same_types (others : List Ty) (same : SameTypes types others) :
    (elementType c d wanted types).1.equal (elementType c d wanted others).1 ∧
      (elementType c d wanted types).2.isSome = (elementType c d wanted others).2.isSome := by
  by_cases uniform : Uniform types
  · cases types with
    | nil =>
      rw [same.empty]
      exact ⟨equal_refl _, rfl⟩
    | cons t rest =>
      obtain ⟨u, listed, same'⟩ := same.left t List.mem_cons_self
      obtain ⟨left, silent⟩ := element_type_uniform c d wanted _ uniform t List.mem_cons_self
      obtain ⟨right, silent'⟩ := element_type_uniform c d wanted others (same.uniform uniform) u listed
      refine ⟨equal_trans _ t _ left (equal_trans t u _ same' (equal_equivalence.symm right)), ?_⟩
      rw [silent, silent']
  · have mixed : ¬ Uniform others := fun alike => uniform (same.symm.uniform alike)
    rw [element_type_mixed c d wanted types uniform, element_type_mixed c d wanted others mixed]
    refine ⟨rfl, ?_⟩
    cases wanted.isAny <;> rfl

end

-- What is noted as expected counts, otherwise what the parent asks for.
def expectation (ctx : Context) (notes : Annotations) (e : Expr) : Ty :=
  (notes.expected e.id).orElse ((((ctx.parents.parent? e.id).bind ctx.node?).bind (expectedFrom? notes e)).getD .unknown)

theorem propagate_run (ctx : Context) (e : Expr) (p : Progress) : propagate ctx e p =
    (.ok (expectation ctx p.notes e), { p with notes := p.notes.setExpected e.id (expectation ctx p.notes e) }) := by
  have read : expected e p = (.ok (p.notes.expected e.id), p) := rfl
  rw [propagate, bind_run, read, expectation]
  cases noted : p.notes.expected e.id with
  | unknown =>
    cases found : (ctx.parents.parent? e.id).bind ctx.node? with
    | none =>
      simp only [Option.bind_none, Option.getD_none, Ty.orElse]
      rw [← noted, set_expected_self]
      rfl
    | some parent =>
      have known : notes p = (.ok p.notes, p) := rfl
      simp only [bind_run, known, suggest_run _ noted]
      rfl
  | _ =>
    simp only [Ty.orElse]
    rw [← noted, set_expected_self]
    rfl

def alerts (location : Option Location) (problem : Option Problem) : Bag :=
  problem.toList.map fun problem => ⟨.warning, problem, location⟩

theorem alerts_iff (location : Option Location) (problem : Option Problem) : alerts location problem ≠ [] ↔ problem.isSome := by
  cases problem <;> simp [alerts]

theorem alerts_at (location : Option Location) (problem : Option Problem) :
    (alerts location problem).length ≤ 1 ∧ ∀ w ∈ alerts location problem, w.severity = .warning ∧ w.location = location := by
  cases problem <;> simp [alerts]

-- The literal gets the type, what is expected of it is noted, and the warnings are added to the bag.
def GivesType (ctx : Context) (e : Expr) (p : Progress) (x : InferM Bool) (t : Ty) (warned : Bag) : Prop :=
  x p = (.ok true, { p with
    notes := (p.notes.setExpected e.id (expectation ctx p.notes e)).setActual e.id t
    bag := p.bag ++ warned })

section

variable (ctx : Context) (e : Expr) (c : Container) (items : List Expr) (d : DeclId) (p : Progress)

theorem infer_container_gives (what : String) (element : Ty) (problem : Option Problem) (untyped : p.notes.actual e.id = .unknown)
    (found : elementType c d (expectation ctx p.notes e) (items.map fun item => p.notes.actual item.id) = (element, problem)) :
    GivesType ctx e p (inferContainer ctx e c (some d) what items) (.cls d [element]) (alerts e.location problem) := by
  have read : notes { p with notes := p.notes.setExpected e.id (expectation ctx p.notes e) } =
      (.ok (p.notes.setExpected e.id (expectation ctx p.notes e)), _) := rfl
  have same : elementType c d (expectation ctx p.notes e)
      (items.map fun item => (p.notes.setExpected e.id (expectation ctx p.notes e)).actual item.id) = (element, problem) := found
  rw [GivesType, inferContainer, bind_run, propagate_run]
  simp only [bind_run, read, same]
  cases problem with
  | none =>
    rw [alerts, Option.toList_none, List.map_nil, List.append_nil]
    exact set_known_run (.cls d [element]) (by simp) untyped
  | some problem => exact set_known_run (.cls d [element]) (by simp) untyped

theorem container_gives (contents : e.contents? = some (c, items)) (registered : ctx.literals.ofContainer c = some d)
    (untyped : p.notes.actual e.id = .unknown) :
    let found := elementType c d (expectation ctx p.notes e) (items.map fun item => p.notes.actual item.id)
    GivesType ctx e p (Strategy.containerLiterals.infer ctx e) (.cls d [found.1]) (alerts e.location found.2) := by
  intro found
  cases e with
  | array s items' =>
    cases contents
    have registered : ctx.literals.array = some d := registered
    rw [Strategy.infer, registered]
    exact infer_container_gives ctx _ _ _ d p "array" found.1 found.2 untyped rfl
  | map s entries =>
    cases contents
    have registered : ctx.literals.map = some d := registered
    rw [Strategy.infer, registered]
    exact infer_container_gives ctx _ _ _ d p "map" found.1 found.2 untyped rfl
  | _ => cases contents

theorem container_typed_by_type_set (contents : e.contents? = some (c, items)) (registered : ctx.literals.ofContainer c = some d)
    (untyped : p.notes.actual e.id = .unknown) (typed : ∀ item ∈ items, p.notes.actual item.id ≠ .unknown) :
    let types := items.map fun item => p.notes.actual item.id
    let wanted := expectation ctx p.notes e
    (FirstOccurrences types (distinctTypes types) ∧ (distinctTypes types).Sublist types ∧
      (distinctTypes types).Pairwise (fun t u => ¬ t.equal u) ∧ ∀ t ∈ types, ∃ u ∈ distinctTypes types, u.equal t) ∧
    ∃ element warned, GivesType ctx e p (Strategy.containerLiterals.infer ctx e) (.cls d [element]) warned ∧
      (∀ t ∈ types, ctx.declarations.assignable t element) ∧
      (Uniform types → ∀ t ∈ types, element.equal t) ∧
      (types = [] → ∀ arg, wanted = .cls d [arg] → element = arg) ∧
      (types = [] ∧ (∀ arg, wanted ≠ .cls d [arg]) ∨ ¬ Uniform types → element = .any) ∧
      (warned ≠ [] ↔ types = [] ∧ wanted = .unknown ∨ 2 ≤ (distinctTypes types).length ∧ wanted ≠ .any) ∧
      (warned.length ≤ 1 ∧ ∀ w ∈ warned, w.severity = .warning ∧ w.location = e.location) ∧
      ∀ ctx' e' items' p', e'.contents? = some (c, items') → ctx'.literals.ofContainer c = some d →
        p'.notes.actual e'.id = .unknown → expectation ctx' p'.notes e' = wanted →
        SameTypes types (items'.map fun item => p'.notes.actual item.id) →
        ∃ t warned', GivesType ctx' e' p' (Strategy.containerLiterals.infer ctx' e') t warned' ∧
          t.equal (.cls d [element]) ∧ (warned' ≠ [] ↔ warned ≠ []) := by
  intro types wanted
  have firsts := distinct_types_firsts types
  refine ⟨⟨firsts, firsts.sublist, firsts.distinct, firsts.covers⟩, _, _,
    container_gives ctx e c items d p contents registered untyped, fun t member => ?_, fun uniform t member => ?_, ?_, ?_, ?_, ?_, ?_⟩
  · obtain ⟨item, listed, rfl⟩ := List.mem_map.mp member
    have known := typed item listed
    rw [Ne, ← is_unknown_iff, Bool.not_eq_true] at known
    exact element_type_above c d wanted types ctx.declarations _ member known
  · exact (element_type_uniform c d wanted types uniform t member).1
  · intro empty arg applied
    change (elementType c d wanted types).1 = arg
    rw [empty, element_type_empty, (sole_arg_iff d wanted arg).mpr applied]
    rfl
  · change _ → (elementType c d wanted types).1 = .any
    rintro (⟨empty, other⟩ | mixed)
    · have none : soleArg? d wanted = none := by
        rw [Option.eq_none_iff_forall_ne_some]
        exact fun arg found => other arg ((sole_arg_iff d wanted arg).mp found)
      rw [empty, element_type_empty, none]
      rfl
    · rw [element_type_mixed c d wanted types mixed]
  · rw [alerts_iff]
    exact element_type_warns_iff c d wanted types
  · exact alerts_at e.location _
  · intro ctx' e' items' p' contents' registered' untyped' wanted' same
    have gives := container_gives ctx' e' c items' d p' contents' registered' untyped'
    rw [wanted'] at gives
    obtain ⟨equal, warns⟩ := element_type_same_types c d wanted _ types same.symm
    refine ⟨_, _, gives, ?_, ?_⟩
    · exact applied_equal d _ _ equal
    · rw [alerts_iff, alerts_iff, warns]

end

-- Two callbacks that differ in the name of their parameter, and a ticket.
def callback (param : String) : Ty := .lambda [(param, .any)] .void

def ticket : Ty := .cls ⟨"Ticket", 0⟩ []

def queued : Progress := ⟨((Annotations.empty.setActual 1 (callback "x")).setActual 2 ticket).setActual 3 (callback "y"), [], []⟩

def queueItem (id : NodeId) : Expr := .localRef ⟨id, none⟩ ⟨id, .letBound, "item"⟩

def queue (id : NodeId) (items : List NodeId) : Expr := .array ⟨id, none⟩ (items.map queueItem)

def queueUnit : Context where
  file := ⟨⟨0, none⟩, "queue.json", ⟨[], [], []⟩, ⟨some ⟨"Array", 0⟩, none, none, none, none⟩, [], none⟩
  parents := .empty
  node? _ := none

theorem queue_typed_in_any_order :
    ∃ t warned t' warned',
      GivesType queueUnit (queue 4 [1, 2, 3]) queued (Strategy.containerLiterals.infer queueUnit (queue 4 [1, 2, 3])) t warned ∧
      GivesType queueUnit (queue 5 [3, 2, 1, 2]) queued (Strategy.containerLiterals.infer queueUnit (queue 5 [3, 2, 1, 2])) t' warned' ∧
      t.text = "Array<any>" ∧ t'.equal t ∧ warned ≠ [] ∧ warned' ≠ [] := by
  have typed : ∀ item ∈ [1, 2, 3].map queueItem, queued.notes.actual item.id ≠ .unknown := by
    simp [queueItem, queued, Expr.id, Expr.site, Annotations.setActual, updated, callback, ticket]
  obtain ⟨_, element, warned, gives, _, _, _, otherwise, warns, _, orders⟩ := container_typed_by_type_set queueUnit
    (queue 4 [1, 2, 3]) .array ([1, 2, 3].map queueItem) ⟨"Array", 0⟩ queued rfl rfl rfl typed
  have types : (([1, 2, 3].map queueItem).map fun item => queued.notes.actual item.id) = [callback "x", ticket, callback "y"] := rfl
  have types' : (([3, 2, 1, 2].map queueItem).map fun item => queued.notes.actual item.id) =
      [callback "y", ticket, callback "x", ticket] := rfl
  rw [types] at otherwise warns orders
  obtain rfl : element = .any := by
    refine otherwise (.inr fun uniform => ?_)
    have same := uniform (callback "x") (by simp) ticket (by simp)
    exact absurd same (by decide)
  have unwanted : expectation queueUnit queued.notes (queue 4 [1, 2, 3]) = .unknown := rfl
  have warned := warns.mpr (.inr ⟨by decide, by simp [unwanted]⟩)
  obtain ⟨t', warned', gives', same, warns'⟩ := orders queueUnit (queue 5 [3, 2, 1, 2]) _ queued rfl rfl rfl rfl
    (.of_mem_iff fun t => by rw [types']; simp; tauto)
  exact ⟨_, _, t', warned', gives, gives', by decide, same, warned, warns'.mpr warned⟩

end Infer

end Typeflow
