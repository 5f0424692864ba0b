import MessagePlacement.Proofs.Plan.Message
import MessagePlacement.Proofs.Session.Start
import MessagePlacement.Proofs.Tree.Likeness

/-!
# The order of declarations

The order in which declarations are listed does not show.  A permutation of a list has a tree
exactly when the list has one, and the two trees are alike: they are walked, flattened and planned
alike.  The registries are even the same, so that sessions started with a list and with its
permutation answer every query in the same way.
-/

namespace MessagePlacement

variable {ds es : List Declaration} {fold : Bool}

/-- Registries that hold the same declarations are the same. -/
theorem Registry.Holds.eq {r r' : Registry} (h : r.Holds ds) (h' : r'.Holds ds) :
  r = r'
  := by
  have hentries : r.entries = r'.entries := by
    apply (h.perm.trans h'.perm.symm).eq_of_pairwise _ h.pairwise h'.pairwise
    intro d e _ _ hde hed
    exact absurd hed (Int.lt_asymm hde)
  obtain ⟨entries⟩ := r
  obtain ⟨entries'⟩ := r'
  rw [Registry.mk.injEq]
  apply hentries

/-- Either both of a list and a permutation of it have a tree, and these are walked, flattened and
planned alike, or both are refused for duplicates. -/
theorem Tree.ofList_perm (h : ds.Perm es) :
  (∃ t u, ofList ds = .ok t ∧ ofList es = .ok u
      ∧ t.root.walk.map Node.view = u.root.walk.map Node.view
      ∧ t.root.flatten = u.root.flatten ∧ t.plan = u.plan)
    ∨ (∃ name id existing, ofList ds = .error (.duplicate name id existing))
      ∧ ∃ name id existing, ofList es = .error (.duplicate name id existing)
  := by
  by_cases hname : (ds.map (·.name)).Nodup
  · left
    obtain ⟨t, ht⟩ := (exists_ofList_iff ds).mpr hname
    obtain ⟨u, hu⟩ := (exists_ofList_iff es).mpr ((h.map _).nodup_iff.mp hname)
    have halike := ((holds_of_ofList ht).of_perm h).alike (holds_of_ofList hu)
    exact ⟨t, u, ht, hu, halike.map_view_walk, halike.flatten_eq, halike.plan_eq⟩
  · right
    obtain ⟨_, _, _, -, -, _, -, -, hds⟩ := ofList_of_repeated hname
    obtain ⟨_, _, _, -, -, _, -, -, hes⟩ :=
      ofList_of_repeated (mt (h.map _).nodup_iff.mpr hname)
    exact ⟨⟨_, _, _, hds⟩, ⟨_, _, _, hes⟩⟩

theorem Registry.Holds.of_perm {r : Registry} (h : r.Holds ds) (hperm : ds.Perm es) :
  r.Holds es
  := ⟨h.perm.trans hperm, h.pairwise⟩

/-- Layouts of a list and of a permutation of it have the same registry and the same plan. -/
theorem Layout.Holds.eq_of_perm {l l' : Layout} (hl : l.Holds ds fold) (hl' : l'.Holds es fold)
    (h : ds.Perm es) :
  l.registry = l'.registry ∧ l.plan = l'.plan
  := by
  constructor
  · apply (hl.registry.of_perm h).eq hl'.registry
  · have halike := (hl.tree.of_perm h).alike hl'.tree
    rw [hl.plan_eq, hl'.plan_eq, Tree.plan, Tree.plan, halike.plan_eq]

/-- Either both of a list and a permutation of it have a layout, with the same registry and the same
plan, or none has. -/
theorem Layout.ofDeclarations_perm (h : ds.Perm es) (fold : Bool) :
  (∃ l l', ofDeclarations ds fold = .ok l ∧ ofDeclarations es fold = .ok l'
      ∧ l.registry = l'.registry ∧ l.plan = l'.plan)
    ∨ (∃ e, ofDeclarations ds fold = .error e) ∧ ∃ e, ofDeclarations es fold = .error e
  := by
  have hid := (h.map (·.id)).nodup_iff
  have hname := (h.map (·.name)).nodup_iff
  by_cases hnodup : (ds.map (·.id)).Nodup ∧ (ds.map (·.name)).Nodup
  · left
    obtain ⟨l, hl⟩ := exists_ofDeclarations_iff.mpr hnodup
    obtain ⟨l', hl'⟩ := exists_ofDeclarations_iff.mpr ((and_congr hid hname).mp hnodup)
    exact ⟨l, l', hl, hl',
      (holds_of_ofDeclarations hl).eq_of_perm (holds_of_ofDeclarations hl') h⟩
  · right
    rw [exists_error_iff, exists_error_iff, ← hid, ← hname, and_self]
    apply not_and_or.mp hnodup

/-- Queries are answered from the registry and the plan. -/
theorem Resolver.ask_eq_of_eq (naming : Option NamingOracle) {l l' : Layout}
    (hregistry : l.registry = l'.registry) (hplan : l.plan = l'.plan) (q : Query) :
  Resolver.ask ⟨naming, some l⟩ q = Resolver.ask ⟨naming, some l'⟩ q
  := by
  obtain ⟨registry, tree, plan⟩ := l
  obtain ⟨registry', tree', plan'⟩ := l'
  obtain rfl : registry = registry' := hregistry
  obtain rfl : plan = plan' := hplan
  cases q <;> rfl

namespace Session

/-- The order of a list of declarations does not show: a permutation has a tree if the list has
one, and the trees are walked, flattened and planned alike; and any session starts with the
permutation if it starts with the list, and then answers every query alike. -/
theorem order_irrelevant (h : ds.Perm es) :
  ((∃ t u, Tree.ofList ds = .ok t ∧ Tree.ofList es = .ok u
      ∧ t.root.walk.map Node.view = u.root.walk.map Node.view
      ∧ t.root.flatten = u.root.flatten ∧ t.plan = u.plan)
    ∨ (∃ name id existing, Tree.ofList ds = .error (.duplicate name id existing))
      ∧ ∃ name id existing, Tree.ofList es = .error (.duplicate name id existing))
  ∧ ∀ (s : Session) (fold : Bool),
    ((start ds fold).outcome s = .ok () ∧ (start es fold).outcome s = .ok ()
      ∧ ∀ q, (ask q).outcome ((start ds fold).stateAfter s)
          = (ask q).outcome ((start es fold).stateAfter s))
    ∨ (∃ e, (start ds fold).outcome s = .error e) ∧ ∃ e, (start es fold).outcome s = .error e
  := by
  use Tree.ofList_perm h
  intro s fold
  by_cases hs : s.plan = none
  · rcases Layout.ofDeclarations_perm h fold with
      ⟨l, l', hl, hl', hregistry, hplan⟩ | ⟨⟨e, he⟩, e', he'⟩
    · left
      obtain ⟨houtcome, hstate⟩ := start_of_ok hs hl
      obtain ⟨houtcome', hstate'⟩ := start_of_ok hs hl'
      refine ⟨houtcome, houtcome', ?_⟩
      intro q
      rw [hstate, hstate', outcome_ask, outcome_ask,
        Resolver.ask_eq_of_eq s.naming hregistry hplan]
    · right
      exact ⟨⟨_, (start_of_error hs he).1⟩, ⟨_, (start_of_error hs he').1⟩⟩
  · right
    exact ⟨⟨_, (start_of_plan hs).1⟩, ⟨_, (start_of_plan hs).1⟩⟩

theorem order_irrelevant_nestedMessages :
  nestedMessages.Perm nestedMessages.reverse
    ∧ (∃ t u, Tree.ofList nestedMessages = .ok t ∧ Tree.ofList nestedMessages.reverse = .ok u
      ∧ t.root.walk.map Node.view = u.root.walk.map Node.view
      ∧ t.root.flatten = u.root.flatten ∧ t.plan = u.plan)
    ∧ (start nestedMessages true).outcome {} = .ok ()
    ∧ (start nestedMessages.reverse true).outcome {} = .ok ()
    ∧ ∀ q, (ask q).outcome ((start nestedMessages true).stateAfter {})
        = (ask q).outcome ((start nestedMessages.reverse true).stateAfter {})
  := by
  have hid : (nestedMessages.map (·.id)).Nodup := by decide
  have hname : (nestedMessages.map (·.name)).Nodup := by decide
  have hperm : nestedMessages.Perm nestedMessages.reverse := nestedMessages.reverse_perm.symm
  obtain ⟨htree, hstart⟩ := order_irrelevant hperm
  refine ⟨hperm, ?_, ?_⟩
  · obtain ⟨t, ht⟩ := (Tree.exists_ofList_iff _).mpr hname
    apply htree.resolve_right
    rintro ⟨⟨_, _, _, he⟩, -⟩
    rw [ht] at he
    cases he
  · obtain ⟨l, hl⟩ := (@Layout.exists_ofDeclarations_iff nestedMessages true).mpr ⟨hid, hname⟩
    apply (hstart {} true).resolve_right
    rintro ⟨⟨_, he⟩, -⟩
    rw [(start_of_ok rfl hl).1] at he
    cases he

end Session

end MessagePlacement
