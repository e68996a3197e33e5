import Typeflow.Proofs.Document.Outcome

set_option autoImplicit false

namespace Typeflow.Document

theorem elaborated_at {ds : Declarations} {root : Piece} {tree : Node} (made : Elaborates ds [] root tree) (p : Route) :
    (root.at? p = none ∧ tree.at? p = none) ∨ ∃ piece n scope, root.at? p = some piece ∧ tree.at? p = some n ∧
      Elaborates ds scope piece n ∧ Resolves root tree p scope := by
  induction p using List.reverseRecOn with
  | nil => exact .inr ⟨root, tree, [], rfl, rfl, made, resolves_root root tree⟩
  | append_singleton p i ih =>
    rcases ih with ⟨here, there⟩ | ⟨piece, n, scope, here, there, made, resolves⟩
    · exact .inl ⟨descend_lost _ here [i], descend_lost _ there [i]⟩
    · cases made with
      | mk _ _ _ sound formed refers slots lengths parts =>
        have below : root.at? (p ++ [i]) = piece.parts[i]? := descend_snoc Piece.parts here i
        have below' : tree.at? (p ++ [i]) = n.children[i]? := descend_snoc Node.children there i
        rw [below, below']
        by_cases within : i < piece.parts.length
        · have here' := List.getElem?_eq_getElem within
          have there' := List.getElem?_eq_getElem (lengths ▸ within)
          exact .inr ⟨_, _, _, here', there', parts i _ _ here' there', resolves.step here there slots i⟩
        · have beyond : n.children.length ≤ i := lengths ▸ Nat.le_of_not_lt within
          exact .inl ⟨List.getElem?_eq_none (Nat.le_of_not_lt within), List.getElem?_eq_none beyond⟩

theorem binder_listed (n : Node) (p : Route) (m : Node) (k : Nat) (l : Local) (there : n.at? p = some m)
    (binder : m.binders[k]? = some l) : l.id ∈ n.locals.map Local.id := by
  induction p generalizing n with
  | nil =>
    cases there
    rw [locals_eq, List.map_append]
    exact List.mem_append_left _ (List.mem_map_of_mem (List.mem_of_getElem? binder))
  | cons i rest ih =>
    rw [Node.at?, descend] at there
    obtain ⟨c, child, there⟩ := Option.bind_eq_some_iff.mp there
    obtain ⟨l', listed, same⟩ := List.mem_map.mp (ih c there)
    rw [locals_eq, List.map_append]
    refine List.mem_append_right _ (List.mem_map.mpr ⟨l', ?_, same⟩)
    exact List.mem_flatMap.mpr ⟨c, List.mem_of_getElem? child, listed⟩

section

variable {n : Node} (distinct : (n.locals.map Local.id).Nodup)

include distinct

theorem distinct_parts : (n.binders.map Local.id).Nodup ∧ (n.children.flatMap fun c => c.locals.map Local.id).Nodup ∧
    ∀ id ∈ n.binders.map Local.id, id ∉ n.children.flatMap fun c => c.locals.map Local.id := by
  rw [locals_eq, List.map_append, List.map_flatMap, List.nodup_append] at distinct
  exact ⟨distinct.1, distinct.2.1, fun id own below => distinct.2.2 id own id below rfl⟩

theorem own_not_below {i : Nat} {c m : Node} {p : Route} {k k' : Nat} {l l' : Local} (child : n.children[i]? = some c)
    (own : n.binders[k]? = some l) (there : c.at? p = some m) (binder : m.binders[k']? = some l') : l.id ≠ l'.id := by
  intro same
  refine (distinct_parts distinct).2.2 l.id (List.mem_map_of_mem (List.mem_of_getElem? own)) ?_
  rw [same]
  exact List.mem_flatMap.mpr ⟨c, List.mem_of_getElem? child, binder_listed c p m k' l' there binder⟩

theorem siblings_apart {i j : Nat} {c c' : Node} (child : n.children[i]? = some c) (child' : n.children[j]? = some c') (differ : i ≠ j) :
    (c.locals.map Local.id).Disjoint (c'.locals.map Local.id) := by
  obtain ⟨within, rfl⟩ := List.getElem?_eq_some_iff.mp child
  obtain ⟨within', rfl⟩ := List.getElem?_eq_some_iff.mp child'
  have apart := List.pairwise_iff_getElem.mp (List.nodup_flatMap.mp (distinct_parts distinct).2.1).2
  rcases Nat.lt_or_gt_of_ne differ with before | after
  · exact apart i j within within' before
  · exact fun id left right => apart j i within' within after right left

-- Where all locals are different, a local tells where it is bound.
theorem binder_place (p p' : Route) (m m' : Node) (k k' : Nat) (l l' : Local) (there : n.at? p = some m) (there' : n.at? p' = some m')
    (binder : m.binders[k]? = some l) (binder' : m'.binders[k']? = some l') (same : l.id = l'.id) : p = p' ∧ k = k' := by
  induction p generalizing n p' with
  | nil =>
    have here : n = m := Option.some.inj there
    subst here
    cases p' with
    | nil =>
      have here' : n = m' := Option.some.inj there'
      subst here'
      have read : (n.binders.map Local.id)[k]? = (n.binders.map Local.id)[k']? := by
        rw [List.getElem?_map, List.getElem?_map, binder, binder', Option.map_some, Option.map_some, same]
      have within : k < (n.binders.map Local.id).length := by
        rw [List.length_map]
        exact (List.getElem?_eq_some_iff.mp binder).1
      exact ⟨rfl, (List.getElem?_inj within (distinct_parts distinct).1).mp read⟩
    | cons j rest' =>
      obtain ⟨c, child, inside⟩ := Option.bind_eq_some_iff.mp there'
      exact absurd same (own_not_below distinct child binder inside binder')
  | cons i rest ih =>
    obtain ⟨c, child, inside⟩ := Option.bind_eq_some_iff.mp there
    cases p' with
    | nil =>
      have here' : n = m' := Option.some.inj there'
      subst here'
      exact absurd same.symm (own_not_below distinct child binder' inside binder)
    | cons j rest' =>
      obtain ⟨c', child', inside'⟩ := Option.bind_eq_some_iff.mp there'
      by_cases here : i = j
      · subst here
        cases child.symm.trans child'
        have distinct' := (List.nodup_flatMap.mp (distinct_parts distinct).2.1).1 c (List.mem_of_getElem? child)
        obtain ⟨rfl, rfl⟩ := ih distinct' rest' inside inside'
        exact ⟨rfl, rfl⟩
      · have listed := binder_listed c rest m k l inside binder
        have listed' := binder_listed c' rest' m' k' l' inside' binder'
        exact absurd (same ▸ listed') (siblings_apart distinct child child' here listed)

end

theorem slot_own (n : Node) (other : ∀ b, n ≠ .block b) (r : Nat) (l : Local) (slot : n.slots[r]? = some (some l)) :
    n.binders[r]? = some l := by
  cases n with
  | file f => cases slot
  | function f => simpa [Node.slots, Node.binders] using slot
  | block b => exact absurd rfl (other b)
  | stmt s =>
    cases s with
    | foreach site target items body => simpa [Node.slots, Node.binders, List.getElem?_singleton] using slot
    | _ => cases slot
  | expr e =>
    cases e with
    | lambda site params returns body => simpa [Node.slots, Node.binders] using slot
    | _ => cases slot

-- A variable is bound by its own statement, which is a part of the block that declares it.
inductive BoundBy (tree : Node) (d : Declaration) (l : Local) : Prop
  | statement (m : Node) (there : tree.at? (d.scope ++ [d.rank]) = some m) (binder : m.binders[0]? = some l)
      (closed : m.slots = [])
  | scope (m : Node) (there : tree.at? d.scope = some m) (binder : m.binders[d.rank]? = some l) (opens : m.slots ≠ [])

theorem declared_bound (tree : Node) (d : Declaration) (l : Local) (declared : tree.declared? d = some l) : BoundBy tree d l := by
  obtain ⟨n, there, slot⟩ := Option.bind_eq_some_iff.mp declared
  have slot := Option.join_eq_some_iff.mp slot
  by_cases block : ∃ b, n = .block b
  · obtain ⟨b, rfl⟩ := block
    obtain ⟨s, listed, declares⟩ := Option.map_eq_some_iff.mp ((List.getElem?_map ..).symm.trans slot)
    cases s with
    | declare site target init =>
      cases declares
      refine .statement (.stmt (.declare site l init)) ?_ rfl rfl
      rw [Node.at?, descend_snoc Node.children there, Node.children, List.getElem?_map, listed]
      rfl
    | _ => cases declares
  · refine .scope n there (slot_own n (fun b same => block ⟨b, same⟩) d.rank l slot) fun closed => ?_
    simp [closed] at slot

theorem declarations_distinct (tree : Node) (distinct : (tree.locals.map Local.id).Nodup) (d d' : Declaration) (l l' : Local)
    (declared : tree.declared? d = some l) (declared' : tree.declared? d' = some l') (same : l.id = l'.id) : d = d' := by
  obtain ⟨scope, rank⟩ := d
  obtain ⟨scope', rank'⟩ := d'
  cases declared_bound tree _ l declared with
  | statement m there binder closed =>
    cases declared_bound tree _ l' declared' with
    | statement m' there' binder' closed' =>
      have place := (binder_place distinct _ _ m m' _ _ l l' there there' binder binder' same).1
      obtain ⟨rfl, last⟩ := List.append_inj' place rfl
      cases last
      rfl
    | scope m' there' binder' opens' =>
      obtain ⟨place, _⟩ := binder_place distinct _ _ m m' _ _ l l' there there' binder binder' same
      cases there.symm.trans (place ▸ there')
      exact absurd closed opens'
  | scope m there binder opens =>
    cases declared_bound tree _ l' declared' with
    | statement m' there' binder' closed' =>
      obtain ⟨place, _⟩ := binder_place distinct _ _ m m' _ _ l l' there there' binder binder' same
      cases there.symm.trans (place ▸ there')
      exact absurd closed' opens
    | scope m' there' binder' opens' =>
      obtain ⟨rfl, rfl⟩ := binder_place distinct _ _ m m' _ _ l l' there there' binder binder' same
      rfl

theorem dangling_place (root : Piece) (names : List String) (piece : Piece) (name : String) (dangling : Dangling names piece name)
    (p : Route) (here : root.at? p = some piece)
    (known : ∀ d kind other, root.declared? d = some (kind, other) → InForce root d p → other ∈ names) :
    ∃ q pos, root.at? q = some (.expr (.ref pos name)) ∧ ∀ d kind, root.declared? d = some (kind, name) → ¬ InForce root d q := by
  induction dangling generalizing p with
  | ref names pos name unknown => exact ⟨p, pos, here, fun d kind declared inForce => unknown (known d kind name declared inForce)⟩
  | part names piece i part name below inner ih =>
    refine ih (p ++ [i]) ((descend_snoc Piece.parts here i).trans below) fun d kind other declared inForce => ?_
    rcases (in_force_snoc_iff here d i).mp inForce with outer | ⟨own, within⟩
    · exact List.mem_append_right _ (known d kind other declared outer)
    · obtain ⟨scope, rank⟩ := d
      cases own
      rw [Piece.declared?, here, Option.bind_some] at declared
      have shown := mem_opened _ _ _ _ (Option.join_eq_some_iff.mp declared) within
      exact List.mem_append_left _ (List.mem_map_of_mem shown)

theorem denotes_unique {root : Piece} {p : Route} {name : String} {d d' : Declaration} (first : Denotes root p name d)
    (second : Denotes root p name d') : d = d' := by
  obtain ⟨kind, named⟩ := first.named
  obtain ⟨kind', named'⟩ := second.named
  have behind := second.closest d kind named first.inForce
  have behind' := first.closest d' kind' named' second.inForce
  rcases behind with shorter | ⟨scopes, earlier⟩
  · rcases behind' with shorter' | ⟨scopes', _⟩
    · exact absurd shorter' (Nat.lt_asymm shorter)
    · rw [scopes'] at shorter
      exact absurd shorter (Nat.lt_irrefl _)
  · rcases behind' with shorter' | ⟨_, earlier'⟩
    · rw [scopes] at shorter'
      exact absurd shorter' (Nat.lt_irrefl _)
    · exact Declaration.ext scopes (Nat.le_antisymm earlier earlier')

theorem target_some (n : Node) (l : Local) (target : n.target? = some l) : ∃ s, n = .expr (.localRef s l) := by
  cases n with
  | expr e =>
    cases e with
    | localRef s l' =>
      cases target
      exact ⟨s, rfl⟩
    | _ => cases target
  | _ => cases target

theorem reference_some (piece : Piece) (name : String) (reference : piece.reference? = some name) :
    ∃ pos, piece = .expr (.ref pos name) := by
  cases piece with
  | expr doc =>
    cases doc with
    | ref pos name' =>
      cases reference
      exact ⟨pos, rfl⟩
    | _ => cases reference
  | _ => cases reference

section

variable {ds : Declarations} {root : Piece} {tree : Node} (made : Elaborates ds [] root tree)

include made

theorem elaborated_sound : root.AllSound ds := by
  intro p piece here
  rcases elaborated_at made p with ⟨lost, _⟩ | ⟨piece', n, scope, here', _, made, _⟩
  · cases here.symm.trans lost
  · cases here.symm.trans here'
    cases made
    assumption

theorem elaborated_declared (d : Declaration) : root.declared? d = (tree.declared? d).map Local.heading := by
  rcases elaborated_at made d.scope with ⟨here, there⟩ | ⟨piece, n, scope, here, there, made, _⟩
  · rw [Piece.declared?, Node.declared?, here, there]
    rfl
  · cases made with
    | mk _ _ _ sound formed refers slots lengths parts => exact slot_declared here there slots d.rank

theorem reference_bound (p : Route) (pos : Position) (name : String) (here : root.at? p = some (.expr (.ref pos name))) :
    ∃ d s l, Denotes root p name d ∧ tree.at? p = some (.expr (.localRef s l)) ∧ tree.declared? d = some l := by
  rcases elaborated_at made p with ⟨lost, _⟩ | ⟨piece, n, scope, here', there, made, resolves⟩
  · cases here.symm.trans lost
  · cases here.symm.trans here'
    cases made with
    | mk _ _ _ sound formed refers slots lengths parts =>
      obtain ⟨l, target, found⟩ := Option.map_eq_some_iff.mp refers
      obtain ⟨s, rfl⟩ := target_some n l target
      obtain ⟨d, denotes, declared⟩ := resolves.found name l found.symm
      exact ⟨d, s, l, denotes, there, declared⟩

theorem referring_place (p : Route) (s : Site) (l : Local) (there : tree.at? p = some (.expr (.localRef s l))) :
    ∃ pos name, root.at? p = some (.expr (.ref pos name)) := by
  rcases elaborated_at made p with ⟨_, lost⟩ | ⟨piece, n, scope, here, there', made, _⟩
  · cases there.symm.trans lost
  · cases there.symm.trans there'
    cases made with
    | mk _ _ _ sound formed refers slots lengths parts =>
      obtain ⟨name, reference, _⟩ := Option.map_eq_some_iff.mp refers.symm
      obtain ⟨pos, rfl⟩ := reference_some piece name reference
      exact ⟨pos, name, here⟩

end

theorem denoted_in_main (unit : UnitDoc) {p : Route} {name : String} {d : Declaration} (denotes : Denotes (.unit unit) p name d)
    (inMain : p.head? = some unit.functions.length) : d.scope.head? = some unit.functions.length := by
  obtain ⟨rest, rfl⟩ := in_force_below denotes.inForce
  cases scope : d.scope with
  | nil =>
    -- the unit itself declares no local
    obtain ⟨kind, named⟩ := denotes.named
    rw [Piece.declared?, scope] at named
    cases named
  | cons i below =>
    rw [scope] at inMain
    exact inMain

theorem cause_message (e : BuildError) (name : String) (undefined : e.cause = .undefined name) :
    ∃ front, e.message = front ++ "undefined: " ++ name := by
  induction e with
  | within part inner ih =>
    obtain ⟨front, message⟩ := ih undefined
    have outer : (BuildError.within part inner).message = part.text ++ ": " ++ inner.message := rfl
    exact ⟨part.text ++ ": " ++ front, by simp only [outer, message, String.append_assoc]⟩
  | undefined other =>
    cases undefined
    exact ⟨"", rfl⟩
  | _ => cases undefined

theorem names_bound_statically (unit : UnitDoc) :
    (∀ u, build unit = .ok u → unit.WellFormed ∧
      (∀ p, (∃ s l, (Node.file u.file).at? p = some (.expr (.localRef s l))) ↔
        ∃ pos name, (Piece.unit unit).at? p = some (.expr (.ref pos name))) ∧
      (∀ p pos name, (Piece.unit unit).at? p = some (.expr (.ref pos name)) →
        ∃ d kind s l, Denotes (.unit unit) p name d ∧ (∀ d', Denotes (.unit unit) p name d' → d' = d) ∧
          (Piece.unit unit).declared? d = some (kind, name) ∧ (Node.file u.file).at? p = some (.expr (.localRef s l)) ∧
          (Node.file u.file).declared? d = some l ∧ (Expr.localRef s l).kind = kind.refKind ∧ l.name = name) ∧
      ∀ d d' l l', (Node.file u.file).declared? d = some l → (Node.file u.file).declared? d' = some l' → l.id = l'.id → d = d') ∧
    (unit.WellFormed →
      ((∃ e, build unit = .error e) ↔
        ∃ p pos name, (Piece.unit unit).at? p = some (.expr (.ref pos name)) ∧ ∀ d, ¬ Denotes (.unit unit) p name d) ∧
      ∀ e, build unit = .error e → ∃ p pos name front, e.cause = .undefined name ∧ e.message = front ++ "undefined: " ++ name ∧
        (Piece.unit unit).at? p = some (.expr (.ref pos name)) ∧ ∀ d, ¬ Denotes (.unit unit) p name d) ∧
    ∀ p name d, Denotes (.unit unit) p name d → (∀ outer, outer <+: d.scope → outer <+: p) ∧
      (p.head? = some unit.functions.length → d.scope.head? = some unit.functions.length) := by
  have bound : ∀ u, build unit = .ok u → ∃ ds literals next, declarationsOf unit = .ok ds ∧
      literalTypes ds unit.literals = .ok literals ∧ Elaborates ds [] (.unit unit) (.file u.file) ∧
      Fresh 0 next (Node.file u.file).locals := by
    intro u built
    obtain ⟨literals, supply, declared, named, _, _, made⟩ := built_bound unit u built
    refine ⟨u.file.declarations, literals, supply.next, declared, named, (List.forall₂_cons.mp made.elaborated).1, ?_⟩
    simpa using made.fresh
  have refused : unit.WellFormed → ∀ e, build unit = .error e → ∃ p pos name front, e.cause = .undefined name ∧
      e.message = front ++ "undefined: " ++ name ∧ (Piece.unit unit).at? p = some (.expr (.ref pos name)) ∧
      ∀ d, ¬ Denotes (.unit unit) p name d := by
    intro wellFormed e failed
    obtain ⟨name, undefined, dangling⟩ := unbuilt_dangles unit e wellFormed failed
    obtain ⟨front, message⟩ := cause_message e name undefined
    obtain ⟨p, pos, here, undeclared⟩ := dangling_place (.unit unit) [] _ name dangling [] rfl
      fun d _ _ _ inForce => absurd inForce (not_in_force_nil _ d)
    refine ⟨p, pos, name, front, undefined, message, here, fun d denotes => ?_⟩
    obtain ⟨kind, named⟩ := denotes.named
    exact undeclared d kind named denotes.inForce
  refine ⟨fun u built => ?_, fun wellFormed => ⟨⟨?_, ?_⟩, refused wellFormed⟩, fun p name d denotes => ⟨?_, denoted_in_main unit denotes⟩⟩
  · obtain ⟨ds, literals, next, declared, named, made, fresh⟩ := bound u built
    refine ⟨⟨ds, literals, declared, named, elaborated_sound made⟩, fun p => ⟨?_, ?_⟩, ?_, declarations_distinct _ fresh.nodup⟩
    · rintro ⟨s, l, there⟩
      exact referring_place made p s l there
    · rintro ⟨pos, name, here⟩
      obtain ⟨_, s, l, _, there, _⟩ := reference_bound made p pos name here
      exact ⟨s, l, there⟩
    · intro p pos name here
      obtain ⟨d, s, l, denotes, there, local_⟩ := reference_bound made p pos name here
      obtain ⟨kind, named⟩ := denotes.named
      have heading := elaborated_declared made d
      rw [named, local_, Option.map_some, Option.some.injEq] at heading
      cases heading
      exact ⟨d, _, s, l, denotes, fun d' other => denotes_unique other denotes, named, there, local_, rfl, rfl⟩
  · rintro ⟨e, failed⟩
    obtain ⟨p, pos, name, _, _, _, here, undeclared⟩ := refused wellFormed e failed
    exact ⟨p, pos, name, here, undeclared⟩
  · rintro ⟨p, pos, name, here, undeclared⟩
    cases built : build unit with
    | error e => exact ⟨e, rfl⟩
    | ok u =>
      obtain ⟨_, _, _, _, _, made, _⟩ := bound u built
      obtain ⟨d, _, _, denotes, _⟩ := reference_bound made p pos name here
      exact absurd denotes (undeclared d)
  · intro outer within
    exact within.trans (in_force_below denotes.inForce)

theorem all_sound_of_parts {ds : Declarations} {piece : Piece} (own : piece.Sound ds) (parts : ∀ part ∈ piece.parts, part.AllSound ds) :
    piece.AllSound ds := by
  intro p inner found
  cases p with
  | nil =>
    cases found
    exact own
  | cons i rest =>
    obtain ⟨part, below, found⟩ := Option.bind_eq_some_iff.mp found
    exact parts part (List.mem_of_getElem? below) rest inner found

-- `function walk(x: any) { let x: any = x; for (x of x) { (x: any) => x; } x; }`, where each
-- `x` is another one.
def shadowing : UnitDoc :=
  let nowhere : Position := ⟨0, 0⟩
  let x : ExprDoc := .ref nowhere "x"
  { path := "shadowing.json"
    literals := ⟨"", "", "", "", ""⟩
    classes := []
    interfaces := []
    enums := []
    functions := [⟨nowhere, "walk", [⟨"x", "any"⟩], "", [
      .declare nowhere "x" "any" (some x),
      .foreach nowhere "x" "" (some x) [.expression nowhere (some (.arrow nowhere [⟨"x", "any"⟩] "" x))],
      .expression nowhere (some x)]⟩]
    main := [] }

-- `for (item of []) { } item;`
def leaking : UnitDoc :=
  let nowhere : Position := ⟨0, 0⟩
  { path := "leaking.json"
    literals := ⟨"", "", "", "", ""⟩
    classes := []
    interfaces := []
    enums := []
    functions := []
    main := [.foreach nowhere "item" "" (some (.array nowhere [])) [], .expression nowhere (some (.ref nowhere "item"))] }

theorem leaking_well_formed : leaking.WellFormed := by
  obtain ⟨ds, declared⟩ : ∃ ds, declarationsOf leaking = .ok ds := ⟨_, rfl⟩
  obtain ⟨literals, named⟩ : ∃ literals, literalTypes ds leaking.literals = .ok literals := ⟨_, rfl⟩
  have untyped : Readable ds "" := ⟨.unknown, rfl⟩
  refine ⟨ds, literals, declared, named, ?_⟩
  refine all_sound_of_parts ⟨by simp [Piece.operands], trivial⟩ (List.forall_mem_singleton.mpr ?_)
  refine all_sound_of_parts ⟨by simp [Piece.operands], trivial⟩ (List.forall_mem_cons.mpr ⟨?_, List.forall_mem_singleton.mpr ?_⟩)
  · refine all_sound_of_parts ⟨by simp [Piece.operands, StmtDoc.operands], untyped⟩
      (List.forall_mem_cons.mpr ⟨?_, List.forall_mem_singleton.mpr ?_⟩)
    · exact all_sound_of_parts ⟨by simp [Piece.operands, ExprDoc.operands], trivial⟩ (List.forall_mem_nil _)
    · exact all_sound_of_parts ⟨by simp [Piece.operands], trivial⟩ (List.forall_mem_nil _)
  · refine all_sound_of_parts ⟨by simp [Piece.operands, StmtDoc.operands], trivial⟩ (List.forall_mem_singleton.mpr ?_)
    exact all_sound_of_parts ⟨by simp [Piece.operands, ExprDoc.operands], trivial⟩ (List.forall_mem_nil _)

theorem shadowing_bound_leaking_refused :
    (∃ u d s l, build shadowing = .ok u ∧ Denotes (.unit shadowing) [0, 0, 1, 1, 0, 0, 0, 0, 0] "x" d ∧
      (Node.file u.file).at? [0, 0, 1, 1, 0, 0, 0, 0, 0] = some (.expr (.localRef s l)) ∧ (Node.file u.file).declared? d = some l) ∧
    leaking.WellFormed ∧ ∃ e p pos name, build leaking = .error e ∧ e.message = "main: statement 1: undefined: item" ∧
      e.cause = .undefined name ∧ (Piece.unit leaking).at? p = some (.expr (.ref pos name)) ∧
      ∀ d, ¬ Denotes (.unit leaking) p name d := by
  refine ⟨?_, leaking_well_formed, ?_⟩
  · obtain ⟨u, built, _⟩ := built_check shadowing (fun _ => true) (by decide +kernel)
    obtain ⟨_, _, bound, _⟩ := (names_bound_statically shadowing).1 u built
    obtain ⟨d, _, s, l, denotes, _, _, there, declared, _⟩ := bound [0, 0, 1, 1, 0, 0, 0, 0, 0] ⟨0, 0⟩ "x" rfl
    exact ⟨u, d, s, l, built, denotes, there, declared⟩
  · have reported : (match build leaking with | .ok _ => "" | .error e => e.message) = "main: statement 1: undefined: item" := by
      decide +kernel
    cases built : build leaking with
    | ok u =>
      rw [built] at reported
      simp at reported
    | error e =>
      rw [built] at reported
      obtain ⟨p, pos, name, _, cause, _, here, undeclared⟩ := ((names_bound_statically leaking).2.1 leaking_well_formed).2 e built
      exact ⟨e, p, pos, name, rfl, reported, cause, here, undeclared⟩

end Typeflow.Document
