import Typeflow.Tree.Basic

set_option autoImplicit false

namespace Typeflow

def updated {β : Type} (f : Nat → β) (a : Nat) (b : β) : Nat → β :=
  fun n => if n = a then b else f n

theorem updated_same {β : Type} (f : Nat → β) (a : Nat) (b : β) : updated f a b a = b := if_pos rfl

theorem updated_other {β : Type} (f : Nat → β) (a n : Nat) (b : β) (other : n ≠ a) : updated f a b n = f n :=
  if_neg other

structure Annotations where
  -- The type that the surroundings of an expression want it to have.
  expected : NodeId → Ty
  actual : NodeId → Ty
  ofLocal : LocalId → Ty
  -- The casts that were made on behalf of a test, in the order they were made.
  implicitCasts : NodeId → List NodeId

namespace Annotations

def empty : Annotations := ⟨fun _ => .unknown, fun _ => .unknown, fun _ => .unknown, fun _ => []⟩

def setExpected (a : Annotations) (id : NodeId) (t : Ty) : Annotations :=
  { a with expected := updated a.expected id t }

def setActual (a : Annotations) (id : NodeId) (t : Ty) : Annotations :=
  { a with actual := updated a.actual id t }

def setLocal (a : Annotations) (id : LocalId) (t : Ty) : Annotations :=
  { a with ofLocal := updated a.ofLocal id t }

def addImplicitCast (a : Annotations) (test cast : NodeId) : Annotations :=
  { a with implicitCasts := updated a.implicitCasts test (a.implicitCasts test ++ [cast]) }

end Annotations

end Typeflow
