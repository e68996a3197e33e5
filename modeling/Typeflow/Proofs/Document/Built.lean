import Typeflow.Document.Build
import Typeflow.Proofs.Document.Declared
import Typeflow.Proofs.Tree

set_option autoImplicit false

namespace Typeflow

namespace Document

-- The nodes were made one after another, from the supply `s` on.
structure Grown (s s' : Supply) (ns : List Node) : Prop where
  ids : ns.flatMap Node.ids = List.range' s.node (ns.flatMap Node.ids).length
  next : s'.node = s.node + (ns.flatMap Node.ids).length
  types : (∀ id, (s.types id).Noted) → ∀ id, (s'.types id).Noted

namespace Grown

theorem nothing {s s' : Supply} (same : s'.node = s.node)
    (types : (∀ id, (s.types id).Noted) → ∀ id, (s'.types id).Noted) : Grown s s' [] :=
  ⟨rfl, same, types⟩

theorem append {s s' s'' : Supply} {first second : List Node} (left : Grown s s' first) (right : Grown s' s'' second) :
    Grown s s'' (first ++ second) := by
  refine ⟨?_, ?_, right.types ∘ left.types⟩
  · rw [List.flatMap_append, List.length_append, ← List.range'_append_1, ← left.ids, ← left.next, ← right.ids]
  · rw [List.flatMap_append, List.length_append, right.next, left.next, Nat.add_assoc]

theorem node {s s' : Supply} {n : Node} (inner : Grown { s with node := s.node + 1 } s' n.children) (id : n.id = s.node) :
    Grown s s' [n] := by
  have ids : [n].flatMap Node.ids = s.node :: n.children.flatMap Node.ids := by
    rw [List.flatMap_singleton, ids_eq, id]
  refine ⟨?_, ?_, inner.types⟩
  · rw [ids, List.length_cons, List.range'_succ, ← inner.ids]
  · rw [ids, List.length_cons, inner.next, Nat.add_assoc, Nat.add_comm 1]

theorem local_made (s : Supply) (t : Ty) (noted : t.Noted) :
    Grown s { s with next := s.next + 1, types := updated s.types s.next t } [] := by
  refine .nothing rfl fun types id => ?_
  change (updated s.types s.next t id).Noted
  by_cases same : id = s.next
  · rw [same, updated_same]
    exact noted
  · rw [updated_other s.types s.next id t same]
    exact types id

end Grown

structure Built.Sound (u : Built) : Prop where
  ids : (Node.file u.file).ids = List.range u.fresh
  whole : ∀ n ∈ (Node.file u.file).nodes, n.Whole
  explicit : ∀ n ∈ (Node.file u.file).nodes, n.implicit = false
  declared : u.file.declarations.Whole
  actual : ∀ id, u.annotations.actual id = .unknown
  expected : ∀ id, u.annotations.expected id = .unknown
  locals : ∀ id, (u.annotations.ofLocal id).Noted

theorem Built.Sound.distinct {u : Built} (sound : u.Sound) : (Node.file u.file).Distinct := by
  rw [Node.Distinct, sound.ids]
  exact List.nodup_range

theorem Built.Sound.below {u : Built} (sound : u.Sound) : ∀ id ∈ (Node.file u.file).ids, id < u.fresh := by
  intro id member
  rw [sound.ids] at member
  exact List.mem_range.mp member

-- The tree of a unit, once its declarations are read.
def fileOf (unit : UnitDoc) (ds : Declarations) (literals : LiteralTypes) : Build SourceFile := do
  let site ← freshSite none
  let functions ← functions ⟨unit.path, ds⟩ unit.functions
  let main ← mainBlock ⟨unit.path, ds⟩ unit.main
  return ⟨site, unit.path, ds, literals, functions, some main⟩

-- The parts of a document are built one after the other, and the first number is that of the file.
theorem build_ok_iff (unit : UnitDoc) (u : Built) : build unit = .ok u ↔
    ∃ ds literals fs mid main supply, declarationsOf unit = .ok ds ∧ literalTypes ds unit.literals = .ok literals ∧
      functions ⟨unit.path, ds⟩ unit.functions ⟨1, 0, fun _ => .unknown⟩ = .ok (fs, mid) ∧
      mainBlock ⟨unit.path, ds⟩ unit.main mid = .ok (main, supply) ∧
      u = ⟨⟨⟨0, none⟩, unit.path, ds, literals, fs, some main⟩, { Annotations.empty with ofLocal := supply.types }, supply.node⟩ := by
  constructor
  · intro built
    obtain ⟨ds, declared, built⟩ := bind_ok _ _ _ built
    obtain ⟨literals, named, built⟩ := bind_ok _ _ _ built
    obtain ⟨⟨file, supply⟩, ran, built⟩ := bind_ok _ _ _ built
    obtain ⟨⟨fs, mid⟩, ranFunctions, ran⟩ := bind_ok _ _ _ ran
    obtain ⟨⟨main, _⟩, ranMain, ran⟩ := bind_ok _ _ _ ran
    cases ran
    cases built
    exact ⟨ds, literals, fs, mid, main, supply, declared, named, ranFunctions, ranMain, rfl⟩
  · rintro ⟨ds, literals, fs, mid, main, supply, declared, named, ranFunctions, ranMain, rfl⟩
    have tree : fileOf unit ds literals ⟨0, 0, fun _ => .unknown⟩ =
        .ok (⟨⟨0, none⟩, unit.path, ds, literals, fs, some main⟩, supply) :=
      bind_of_ok ranFunctions (bind_of_ok ranMain rfl)
    exact bind_of_ok declared (bind_of_ok named (bind_of_ok tree rfl))

theorem built_check (unit : UnitDoc) (check : Built → Bool) (holds : (build unit).toOption.any check) :
    ∃ u, build unit = .ok u ∧ check u := by
  cases built : build unit with
  | error e => simp [built, Except.toOption] at holds
  | ok u => exact ⟨u, rfl, by simpa [built, Except.toOption] using holds⟩

end Document

end Typeflow
