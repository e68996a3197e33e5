import Typeflow.Proofs.Narrow.Activity
import Typeflow.Proofs.Narrow.Run

set_option autoImplicit false

namespace Typeflow

namespace Narrow

theorem assignment_target (root : Node) (e : Expr) (distinct : root.Distinct) (below : .expr e ∈ root.nodes)
    (inner : .expr e ≠ root) : isTarget root.find? (Parents.link root) e.id ↔ AssignmentTarget root e := by
  constructor
  · intro left
    obtain ⟨n, parentBelow, child⟩ := parent_exists root (.expr e) below inner
    have parent : (Parents.link root).parent? e.id = some n.id := parent_link root n (.expr e) distinct parentBelow child
    rw [isTarget, parent, Option.bind_some, find_node root n distinct parentBelow] at left
    split at left
    next s op first second same =>
      cases same
      rw [Bool.and_eq_true, beq_iff_eq] at left
      have firstBelow := mem_nodes_child (.expr (.binary s op first second)) (.expr first) (.expr first) List.mem_cons_self
        (mem_nodes_self _)
      have same := eq_of_same_id root (.expr first) (.expr e) distinct (mem_nodes_trans _ _ _ parentBelow firstBelow) below left.2
      cases same
      exact ⟨s, op, second, parentBelow, left.1⟩
    next => cases left
  · rintro ⟨s, op, right, parentBelow, assigns⟩
    have parent : (Parents.link root).parent? e.id = some s.id :=
      parent_link root (.expr (.binary s op e right)) (.expr e) distinct parentBelow List.mem_cons_self
    have found : root.find? s.id = some (.expr (.binary s op e right)) :=
      find_node root (.expr (.binary s op e right)) distinct parentBelow
    simp [isTarget, parent, found, assigns]

theorem pair_asymm {α : Type} (a b : α) (items : List α) (nodup : items.Nodup) (first : [a, b].Sublist items)
    (second : [b, a].Sublist items) : False := by
  induction items with
  | nil => cases first
  | cons c rest ih =>
    obtain ⟨absent, nodup⟩ := List.nodup_cons.mp nodup
    cases first with
    | cons _ first =>
      cases second with
      | cons _ second => exact ih nodup first second
      | cons_cons _ second => exact absent (first.subset (by simp))
    | cons_cons _ first =>
      cases second with
      | cons _ second => exact absent (second.subset (by simp))
      | cons_cons _ second => exact absent (second.subset List.mem_cons_self)

theorem first_found {α : Type} (wanted : α → Bool) (items : List α) (a b : α) (found : items.find? wanted = some a)
    (member : b ∈ items) (also : wanted b) : b = a ∨ [a, b].Sublist items := by
  obtain ⟨_, before, after, rfl, earlier⟩ := List.find?_eq_some_iff_append.mp found
  rcases List.mem_append.mp member with early | late
  · exact absurd also (by simpa using earlier b early)
  · rcases List.mem_cons.mp late with equal | late
    · exact .inl equal
    · exact .inr (((List.singleton_sublist.mpr late).cons_cons a).trans (List.sublist_append_right before _))

theorem same_value_form (e subject : Expr) (explicit : (Node.expr e).implicit = false) (same : e.sameValue subject) :
    (e.isReference || e.isProperty) ∧ (Node.expr e).transparent = [] := by
  obtain ⟨q, path, _⟩ := (same_value_iff e subject).mp same
  cases e with
  | cast s operand check origin =>
    cases origin with
    | none => cases path
    | some origin => cases explicit
  | localRef | fieldRef | thisRef | staticRef | property => exact ⟨rfl, rfl⟩
  | _ => cases path

theorem chosen_iff (root : Node) (found : List Test) (e : Expr) (t : Test) (distinct : root.Distinct)
    (outermost : root.exports = []) (explicit : ∀ n ∈ root.nodes, n.implicit = false) (inner : .expr e ≠ root)
    (entered : Known [] root found (.expr e)) :
    chosen (isTarget root.find? (Parents.link root)) found e = some t ↔ Prescribed root e t := by
  have below := known_below _ _ _ _ entered
  have target := assignment_target root e distinct below inner
  obtain ⟨_, rfl, ordered⟩ := known_grows [] found root (.expr e) entered
  have active := fun (u : Test) (same : e.sameValue u.operand) =>
    known_iff_active root found u e distinct outermost (same_value_form e u.operand (explicit _ below) same).2 entered
  rw [chosen]
  constructor
  · intro decided
    split at decided
    next => cases decided
    next notLeft =>
      have same : e.sameValue t.operand := by simpa using List.find?_some decided
      refine ⟨(same_value_form e t.operand (explicit _ below) same).1, fun left => notLeft (target.mpr left),
        (active t same).mp (List.mem_of_find?_eq_some decided), same, fun u holds also => ?_⟩
      rcases first_found _ _ t u decided ((active u also).mpr holds) also with equal | later
      · exact .inl equal
      · exact .inr ((later.map Test.expr).trans ordered)
  · intro prescribed
    rw [if_neg fun left => prescribed.notTarget (target.mp left)]
    have member := (active t prescribed.same).mpr prescribed.active
    have any : (found.find? fun u => e.sameValue u.operand).isSome := List.find?_isSome.mpr ⟨t, member, prescribed.same⟩
    obtain ⟨u, found⟩ := Option.isSome_iff_exists.mp any
    have same : e.sameValue u.operand := by simpa using List.find?_some found
    rw [found]
    rcases prescribed.earliest u ((active u same).mp (List.mem_of_find?_eq_some found)) same with equal | later
    · rw [equal]
    · rcases first_found _ _ u t found member prescribed.same with equal | earlier
      · rw [equal]
      · exact (pair_asymm _ _ _ (visits_nodup root distinct) ((earlier.map Test.expr).trans ordered) later).elim

noncomputable def choiceFrom (target : NodeId → Bool) (known : List Test) (n : Node) (e : Expr) : Option Test :=
  open Classical in
  if entered : ∃ found, Known known n found (.expr e) then chosen target entered.choose e else none

theorem choice_from_known (target : NodeId → Bool) (known found : List Test) (n : Node) (e : Expr) (distinct : n.Distinct)
    (entered : Known known n found (.expr e)) : choiceFrom target known n e = chosen target found e := by
  have reached : ∃ found, Known known n found (.expr e) := ⟨found, entered⟩
  rw [choiceFrom, dif_pos reached, known_unique known _ found n (.expr e) distinct reached.choose_spec entered]

theorem ready_from (node? : NodeId → Option Node) (known : List Test) (n : Node) (p : Progress)
    (agree : List.Forall₂ Agrees p.active known) (distinct : n.Distinct) (below : ∀ id ∈ n.ids, id < p.fresh) :
    Ready node? (isTarget node? p.parents) (choiceFrom (isTarget node? p.parents) known n) known [n] p := by
  refine ⟨agree, fun _ _ => rfl, by simpa [Node.Distinct] using distinct, by simpa using below, ?_⟩
  rintro before c after found e split entered
  obtain ⟨rfl, rfl, rfl⟩ : before = [] ∧ c = n ∧ after = [] := by
    cases before <;> simp_all
  exact choice_from_known _ known found c e distinct (by simpa using entered)

noncomputable def choiceOf (root : Node) : Expr → Option Test :=
  choiceFrom (isTarget root.find? (Parents.link root)) [] root

theorem narrow_file_simulates (file : SourceFile) (fresh : NodeId) (notes : Annotations)
    (distinct : (Node.file file).Distinct) (below : ∀ id ∈ (Node.file file).ids, id < fresh) :
    Simulates (Node.file file).ids [] (start fresh (Parents.link (.file file)) notes)
      (narrowFile (Node.file file).find? file) (file.recast (choiceOf (.file file))) := by
  have ready := ready_from (Node.file file).find? [] (.file file) (start fresh (Parents.link (.file file)) notes) .nil
    distinct below
  exact narrow_file_simulated file ready

theorem narrow_file_places_casts (file : SourceFile) (fresh : NodeId) (notes : Annotations)
    (distinct : (Node.file file).Distinct) (below : ∀ id ∈ (Node.file file).ids, id < fresh)
    (explicit : ∀ n ∈ (Node.file file).nodes, n.implicit = false)
    (untyped : ∀ id, fresh ≤ id → notes.actual id = .unknown) :
    ∃ choice : Expr → Option Test,
      (∀ e, .expr e ∈ (Node.file file).nodes → ∀ t, choice e = some t ↔ Prescribed (.file file) e t) ∧
      (narrowFile (Node.file file).find? file (start fresh (Parents.link (.file file)) notes)).1 =
        (file.recast choice fresh).1 ∧
      (narrowFile (Node.file file).find? file (start fresh (Parents.link (.file file)) notes)).2.outcome = none := by
  have run := narrow_file_simulates file fresh notes distinct below
  refine ⟨choiceOf (.file file), fun e occurs t => ?_, run.value, ?_⟩
  · obtain ⟨found, entered⟩ := known_exists [] (.file file) (.expr e) occurs
    rw [choiceOf, choice_from_known _ [] found (.file file) e distinct entered]
    exact chosen_iff (.file file) found e t distinct rfl explicit nofun entered
  · obtain ⟨_, _, scopes⟩ := run.ran.scopes
    have clean := run.ran.clean ⟨rfl, untyped⟩
    rw [Progress.outcome, clean.noFault, scopes]
    rfl

-- A test of a local guards an assignment to it: `if (x instanceof Box) { x = x; }`.
def guardedUse : SourceFile :=
  let x : NodeId → Expr := fun id => .localRef ⟨id, none⟩ ⟨0, .letBound, "x"⟩
  let body : Block := .mk ⟨5, none⟩ [.expression ⟨6, none⟩ (.binary ⟨7, none⟩ "=" (x 8) (x 9))]
  let test : Expr := .instanceOf ⟨3, none⟩ (x 4) (.cls ⟨"Box", 0⟩ [])
  ⟨⟨0, none⟩, "use.json", ⟨[], [], []⟩, ⟨none, none, none, none, none⟩, [],
    some (.mk ⟨1, none⟩ [.branch ⟨2, none⟩ test body none])⟩

theorem narrow_guarded_use :
    (Node.file guardedUse).Distinct ∧ (∀ id ∈ (Node.file guardedUse).ids, id < 10) ∧
      (∀ n ∈ (Node.file guardedUse).nodes, n.implicit = false) ∧
      ∃ choice : Expr → Option Test,
        (∀ e, .expr e ∈ (Node.file guardedUse).nodes → ∀ t, choice e = some t ↔ Prescribed (.file guardedUse) e t) ∧
        (narrowFile (Node.file guardedUse).find? guardedUse
          (start 10 (Parents.link (.file guardedUse)) .empty)).1 = (guardedUse.recast choice 10).1 ∧
        (narrowFile (Node.file guardedUse).find? guardedUse
          (start 10 (Parents.link (.file guardedUse)) .empty)).2.outcome = none := by
  have distinct : (Node.file guardedUse).Distinct := by rw [Node.Distinct]; decide +kernel
  have below : ∀ id ∈ (Node.file guardedUse).ids, id < 10 := by decide +kernel
  have explicit : ∀ n ∈ (Node.file guardedUse).nodes, n.implicit = false := by decide +kernel
  exact ⟨distinct, below, explicit, narrow_file_places_casts guardedUse 10 .empty distinct below explicit fun _ _ => rfl⟩

end Narrow

end Typeflow
