import Typeflow.Proofs.Narrow.Nodes
import Typeflow.Proofs.Narrow.Simulation

set_option autoImplicit false

namespace Typeflow.Narrow

-- The same, apart from notes, trace and fault.
structure Alike (p p' : Progress) : Prop where
  fresh : p.fresh = p'.fresh
  scopes : p.scopes = p'.scopes
  facts : p.facts = p'.facts
  casts : p.casts = p'.casts
  parents : p.parents = p'.parents

theorem Alike.entered {p p' : Progress} (alike : Alike p p') : Alike p.entered p'.entered :=
  { alike with scopes := congrArg ([] :: ·) alike.scopes }

theorem Alike.left {p p' : Progress} (alike : Alike p p') : Alike p.left p'.left := by
  have scopes := alike.scopes
  unfold Progress.left
  rw [← scopes]
  cases stack : p.scopes with
  | nil => exact ⟨alike.fresh, alike.scopes, alike.facts, alike.casts, alike.parents⟩
  | cons => exact ⟨alike.fresh, rfl, alike.facts, alike.casts, alike.parents⟩

theorem Alike.learned {p p' : Progress} (alike : Alike p p') (test subject : Expr) (check : Ty) :
    Alike (p.learned test subject check) (p'.learned test subject check) := by
  have scopes := alike.scopes
  unfold Progress.learned
  rw [← scopes]
  cases stack : p.scopes with
  | nil => exact alike
  | cons => exact ⟨alike.fresh, rfl, congrArg (· ++ _) alike.facts, alike.casts, alike.parents⟩

theorem Alike.wrapped {p p' : Progress} (alike : Alike p p') (fact : Fact) (e cast : Expr) :
    Alike (p.wrapped fact e cast) (p'.wrapped fact e cast) where
  fresh := by rw [wrapped_fresh, wrapped_fresh, alike.fresh]
  scopes := by rw [wrapped_scopes, wrapped_scopes, alike.scopes]
  facts := by rw [wrapped_facts, wrapped_facts, alike.facts]
  casts := by rw [wrapped_casts, wrapped_casts, alike.casts]
  parents := by rw [wrapped_parents, wrapped_parents, alike.parents]

section

variable (node? : NodeId → Option Node) {p p' : Progress}

theorem settle_blind (e : Expr) (alike : Alike p p') :
    (settle node? e p).1 = (settle node? e p').1 ∧ Alike (settle node? e p).2 (settle node? e p').2 := by
  have active : p.active = p'.active := by rw [Progress.active, Progress.active, alike.scopes]
  rw [settle_eq, settle_eq, ← alike.parents, ← active, ← alike.fresh]
  split
  · exact ⟨rfl, alike⟩
  · split
    · exact ⟨rfl, alike⟩
    · exact ⟨rfl, alike.wrapped _ _ _⟩

theorem close_expr_blind (e : Expr) (alike : Alike p p') :
    (closeExpr node? e p).1 = (closeExpr node? e p').1 ∧ Alike (closeExpr node? e p).2 (closeExpr node? e p').2 := by
  cases closing node? e with
  | test s operand check isTest =>
    subst isTest
    exact ⟨rfl, alike.learned (.instanceOf s operand check) operand check⟩
  | kept _ _ closed =>
    rw [closed]
    exact ⟨rfl, alike⟩
  | settled _ _ closed =>
    rw [closed]
    exact settle_blind node? e alike

theorem narrow_file_blind (file : SourceFile) (alike : Alike p p') :
    (narrowFile node? file p).1 = (narrowFile node? file p').1 ∧ Alike (narrowFile node? file p).2 (narrowFile node? file p').2 := by
  have together := (narrow_keeps node?).together (narrow_keeps node?) Alike (fun _ _ => Alike.entered) (fun _ _ => Alike.left)
    (fun _ m q q' alike => by
      cases m with
      | expr e => exact (close_expr_blind node? e alike).imp_left (congrArg Node.expr)
      | _ => exact ⟨rfl, alike⟩)
    (.file file) p p' alike
  exact together.imp_left Node.file.inj

end

end Typeflow.Narrow
