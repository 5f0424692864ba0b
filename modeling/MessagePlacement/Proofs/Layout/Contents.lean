import MessagePlacement.Proofs.Plan.Depth
import MessagePlacement.Proofs.Registry
import MessagePlacement.Resolver

/-!
# What a layout holds

A layout made of declarations has their registry and their tree, and when messages are folded
its plan is the one of the tree.  There is a layout of a list exactly when the ids are distinct
and the names are, and a resolver without a layout starts with it.
-/

namespace MessagePlacement

variable {ds : List Declaration} {fold : Bool}

theorem Registry.Holds.nodup_ids {r : Registry} (h : r.Holds ds) :
  (ds.map (·.id)).Nodup
  := by
  have hentries : (r.entries.map (·.id)).Nodup := by
    apply List.Pairwise.map _ _ h.pairwise
    intro d e hlt
    apply Int.ne_of_lt hlt
  exact (h.perm.map _).nodup_iff.mp hentries

/-- The plan of a tree without declarations is empty. -/
theorem Tree.plan_of_isEmpty {t : Tree} (h : t.isEmpty = true) :
  t.plan = .empty
  := by
  rw [isEmpty, Node.isLeaf, List.isEmpty_iff] at h
  rw [plan, Node.plan, Node.sortedChildren, h, List.mergeSort_nil, Node.planFrom]

namespace Layout

/-- `l.Holds ds fold`: the registry and the tree of the layout hold `ds`, and its plan is the one
of the tree or empty. -/
structure Holds (l : Layout) (ds : List Declaration) (fold : Bool) : Prop where
  registry : l.registry.Holds ds
  tree : l.tree.Holds ds
  plan_eq : l.plan = if fold then l.tree.plan else .empty

/-- Making a layout is filling the registry, filling the tree and planning. -/
theorem ofDeclarations_eq_ok_iff {l : Layout} :
  ofDeclarations ds fold = .ok l
    ↔ ∃ r t, Registry.ofList ds = .ok r ∧ Tree.ofList r.entries = .ok t
      ∧ ⟨r, t, if fold && !t.isEmpty then t.plan else .empty⟩ = l
  := by
  rw [ofDeclarations]
  constructor
  · intro h
    cases hr : Registry.ofList ds with
    | error e =>
        rw [hr] at h
        cases h
    | ok r =>
        rw [hr] at h
        change (Tree.ofList r.entries >>= _) = _ at h
        cases ht : Tree.ofList r.entries with
        | error e =>
            rw [ht] at h
            cases h
        | ok t =>
            rw [ht] at h
            exact ⟨r, t, rfl, ht, Except.ok.inj h⟩
  · rintro ⟨r, t, hr, ht, rfl⟩
    rw [hr]
    change (Tree.ofList r.entries >>= _) = _
    rw [ht]
    rfl

theorem holds_of_ofDeclarations {l : Layout} (h : ofDeclarations ds fold = .ok l) :
  l.Holds ds fold
  := by
  obtain ⟨r, t, hr, ht, rfl⟩ := ofDeclarations_eq_ok_iff.mp h
  have hregistry := Registry.holds_of_ofList hr
  constructor
  · apply hregistry
  · exact (Tree.holds_of_ofList ht).of_perm hregistry.perm
  · cases hempty : t.isEmpty with
    | false => simp
    | true => simp [Tree.plan_of_isEmpty hempty]

/-- There is a layout of a list of declarations exactly when their ids are distinct and their
names are. -/
theorem exists_ofDeclarations_iff :
  (∃ l, ofDeclarations ds fold = .ok l) ↔ (ds.map (·.id)).Nodup ∧ (ds.map (·.name)).Nodup
  := by
  have hnames : ∀ r, Registry.ofList ds = .ok r →
      ((r.entries.map (·.name)).Nodup ↔ (ds.map (·.name)).Nodup) :=
    fun r hr => ((Registry.holds_of_ofList hr).perm.map _).nodup_iff
  constructor
  · rintro ⟨l, hl⟩
    obtain ⟨r, t, hr, ht, -⟩ := ofDeclarations_eq_ok_iff.mp hl
    constructor
    · exact (Registry.exists_ofList_iff ds).mp ⟨r, hr⟩
    · exact (hnames r hr).mp ((Tree.exists_ofList_iff _).mp ⟨t, ht⟩)
  · rintro ⟨hid, hname⟩
    obtain ⟨r, hr⟩ := (Registry.exists_ofList_iff ds).mpr hid
    obtain ⟨t, ht⟩ := (Tree.exists_ofList_iff _).mpr ((hnames r hr).mpr hname)
    exact ⟨_, ofDeclarations_eq_ok_iff.mpr ⟨r, t, hr, ht, rfl⟩⟩

namespace Holds

variable {l : Layout}

theorem plan_of_fold (h : l.Holds ds true) :
  l.plan = l.tree.plan
  := h.plan_eq

/-- The paths of a folded layout. -/
theorem tabulates_paths (h : l.Holds ds true) :
  Tabulates ds Placement.path l.plan.paths
  := by
  rw [h.plan_of_fold]
  apply h.tree.tabulates_paths h.registry.nodup_ids

/-- The groups of a folded layout. -/
theorem tabulates_groups (h : l.Holds ds true) :
  Tabulates ds Placement.group l.plan.groups
  := by
  rw [h.plan_of_fold]
  apply h.tree.tabulates_groups h.registry.nodup_ids

end Holds

end Layout

/-- A resolver starts with a layout of the declarations when it has none. -/
theorem Resolver.start_eq_ok_iff {r r' : Resolver} :
  r.start ds fold = .ok r'
    ↔ r.layout = none
      ∧ ∃ l, Layout.ofDeclarations ds fold = .ok l ∧ { r with layout := some l } = r'
  := by
  rw [start]
  cases hlayout : r.layout with
  | some l =>
      constructor
      · intro h
        cases h
      · rintro ⟨h, -⟩
        cases h
  | none =>
      cases hl : Layout.ofDeclarations ds fold with
      | error e =>
          constructor
          · intro h
            cases h
          · rintro ⟨-, l, h, -⟩
            cases h
      | ok l =>
          constructor
          · intro h
            exact ⟨rfl, l, rfl, Except.ok.inj h⟩
          · rintro ⟨-, m, hm, rfl⟩
            obtain rfl := Except.ok.inj hm
            rfl

/-- What a resolver has after its start holds the declarations. -/
theorem Resolver.holds_of_start {r r' : Resolver} (h : r.start ds fold = .ok r') :
  ∃ l, { r with layout := some l } = r' ∧ l.Holds ds fold
  := by
  obtain ⟨-, l, hl, hr'⟩ := start_eq_ok_iff.mp h
  exact ⟨l, hr', Layout.holds_of_ofDeclarations hl⟩

/-- With distinct ids and distinct names there is a start. -/
theorem Resolver.exists_start
    (naming : Option NamingOracle) (ds : List Declaration) (fold : Bool)
    (hid : (ds.map (·.id)).Nodup) (hname : (ds.map (·.name)).Nodup) :
  ∃ l, Resolver.start ⟨naming, none⟩ ds fold = .ok ⟨naming, some l⟩ ∧ l.Holds ds fold
  := by
  obtain ⟨l, hl⟩ := Layout.exists_ofDeclarations_iff.mpr ⟨hid, hname⟩
  use l, start_eq_ok_iff.mpr ⟨rfl, l, hl, rfl⟩
  apply Layout.holds_of_ofDeclarations hl

/-- The address of an id is made of its directory and of the simple name that is found for it. -/
theorem Resolver.address_eq_map (naming : Option NamingOracle) (l : Layout) (id : Int)
    (language : Language) :
  Resolver.address ⟨naming, some l⟩ id language
    = ((naming.getD l.registry.oracle).simpleName id).map
        (Layout.address language (l.protocolPath id))
  := by
  rw [address]
  change ((naming.getD l.registry.oracle).simpleName id >>= _) = _
  cases (naming.getD l.registry.oracle).simpleName id with
  | error e => rfl
  | ok s => rfl

/-- The address is made in the language that a value resolves to. -/
theorem Resolver.absolutePath_eq_bind (naming : Option NamingOracle) (l : Layout) (id : Int)
    (value : Value) :
  Resolver.absolutePath ⟨naming, some l⟩ id value
    = Language.resolve value >>= fun language =>
        ((naming.getD l.registry.oracle).simpleName id).map
          (Layout.address language (l.protocolPath id))
  := by
  simp only [← address_eq_map]
  rfl

/-- The address in the language that a value names. -/
theorem Resolver.absolutePath_eq_map (naming : Option NamingOracle) (l : Layout) (id : Int)
    {value : Value} {language : Language} (hvalue : Language.ofValue? value = some language) :
  Resolver.absolutePath ⟨naming, some l⟩ id value
    = ((naming.getD l.registry.oracle).simpleName id).map
        (Layout.address language (l.protocolPath id))
  := by
  rw [absolutePath_eq_bind, Language.resolve, hvalue]
  rfl

end MessagePlacement
