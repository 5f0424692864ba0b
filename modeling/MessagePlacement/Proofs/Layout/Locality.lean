import MessagePlacement.Proofs.Layout.Directory
import MessagePlacement.Proofs.Plan.Comparison

/-!
# Locality of a layout

What a layout answers about messages whose names begin with one segment is decided by these
messages: layouts of lists that agree on them give the same answers.  A relative path is empty in
a layout without paths, but a folded layout of any messages has some.
-/

namespace MessagePlacement

variable {ds es : List Declaration} {d : Declaration} {s : String}

namespace Layout.Holds

variable {l l' : Layout}

/-- A folded layout of any messages has paths. -/
theorem paths_ne_nil (h : l.Holds ds true) (hd : d ∈ ds) :
  l.plan.paths ≠ []
  := by
  obtain ⟨e, he, hnot⟩ := exists_not_isPassedOver hd
  have hmem := h.tabulates_paths.mem_ids_iff.mpr ⟨e, he, rfl, hnot⟩
  intro hnil
  rw [hnil] at hmem
  cases hmem

/-- In a folded layout of any messages, relative paths are references between directories. -/
theorem relativePath_eq (h : l.Holds ds true) (hd : d ∈ ds) (a b : Int) :
  l.relativePath a b
    = reference (Text.segments (Plan.valueOf a l.plan.paths))
        (Text.segments (Plan.valueOf b l.plan.paths))
  := by
  have hempty : l.plan.paths.isEmpty = false := by simpa using h.paths_ne_nil hd
  rw [relativePath, hempty]
  rfl

/-- Layouts of lists that agree on the messages of a segment give these the same paths. -/
theorem valueOf_paths_eq (h : l.Holds ds true) (h' : l'.Holds es true) (hagree : AgreeOn s ds es)
    (hd : d ∈ ds) (hs : d.segments.head? = some s) :
  Plan.valueOf d.id l.plan.paths = Plan.valueOf d.id l'.plan.paths
  := by
  rw [Plan.valueOf, Plan.valueOf, hagree.lookup_eq h.tabulates_paths h'.tabulates_paths
    h.registry.nodup_ids h'.registry.nodup_ids hd hs]

/-- Layouts of lists that agree on the messages of a segment give these the same groups. -/
theorem valueOf_groups_eq (h : l.Holds ds true) (h' : l'.Holds es true) (hagree : AgreeOn s ds es)
    (hd : d ∈ ds) (hs : d.segments.head? = some s) :
  Plan.valueOf d.id l.plan.groups = Plan.valueOf d.id l'.plan.groups
  := by
  rw [Plan.valueOf, Plan.valueOf, hagree.lookup_eq h.tabulates_groups h'.tabulates_groups
    h.registry.nodup_ids h'.registry.nodup_ids hd hs]

end Layout.Holds

/-- After starts with lists that agree on the messages whose names begin with a segment, all
lists with distinct ids and names, the directories and the groups of these messages are the same,
and so are the relative paths between them. -/
theorem Resolver.answers_eq_of_agreeOn
    (naming naming' : Option NamingOracle) (ds es : List Declaration)
    (hid : (ds.map (·.id)).Nodup) (hname : (ds.map (·.name)).Nodup)
    (hid' : (es.map (·.id)).Nodup) (hname' : (es.map (·.name)).Nodup)
    (s : String) (hagree : AgreeOn s ds es) :
  ∃ r r', Resolver.start ⟨naming, none⟩ ds true = .ok r
    ∧ Resolver.start ⟨naming', none⟩ es true = .ok r'
    ∧ (∀ d ∈ ds, d.segments.head? = some s →
        (∃ path, r.protocolPath d.id = .ok path ∧ r'.protocolPath d.id = .ok path)
        ∧ (∃ path, r.capitalizedPath d.id = .ok path ∧ r'.capitalizedPath d.id = .ok path)
        ∧ (∃ group, r.foldGroup d.id = .ok group ∧ r'.foldGroup d.id = .ok group))
    ∧ ∀ d ∈ ds, ∀ e ∈ ds, d.segments.head? = some s → e.segments.head? = some s →
        ∃ path, r.relativePath d.id e.id = .ok path ∧ r'.relativePath d.id e.id = .ok path
  := by
  obtain ⟨l, hstart, h⟩ := Resolver.exists_start naming ds true hid hname
  obtain ⟨l', hstart', h'⟩ := Resolver.exists_start naming' es true hid' hname'
  refine ⟨_, _, hstart, hstart', ?_, ?_⟩
  · intro d hd hs
    have hpath := h.valueOf_paths_eq h' hagree hd hs
    have hgroup := h.valueOf_groups_eq h' hagree hd hs
    refine ⟨⟨l.protocolPath d.id, rfl, ?_⟩, ⟨l.capitalizedPath d.id, rfl, ?_⟩,
      ⟨l.foldGroup d.id, rfl, ?_⟩⟩
    · change Except.ok (l'.protocolPath d.id) = _
      rw [Layout.protocolPath, Layout.protocolPath, hpath]
    · change Except.ok (l'.capitalizedPath d.id) = _
      rw [Layout.capitalizedPath, Layout.capitalizedPath, hpath]
    · change Except.ok (l'.foldGroup d.id) = _
      rw [Layout.foldGroup, Layout.foldGroup, hgroup]
  · intro d hd e he hds hes
    use l.relativePath d.id e.id, rfl
    change Except.ok (l'.relativePath d.id e.id) = _
    rw [h.relativePath_eq hd, h'.relativePath_eq ((hagree d hds).mp hd),
      h.valueOf_paths_eq h' hagree hd hds, h.valueOf_paths_eq h' hagree he hes]

/-- The nested messages of the namespace `a`, and in place of the message outside of it a message
of another namespace. -/
def neighbourMessages : List Declaration :=
  ⟨31, "z.b.X", none, by decide, by decide, by decide, by decide⟩
    :: nestedMessages.filter fun d => d.segments.head? = some "a"

theorem Resolver.answers_eq_of_agreeOn_neighbourMessages :
  AgreeOn "a" nestedMessages neighbourMessages
    ∧ ∃ r r', Resolver.start {} nestedMessages true = .ok r
      ∧ Resolver.start {} neighbourMessages true = .ok r'
      ∧ r.protocolPath 2 = .ok "b/X" ∧ r'.protocolPath 2 = .ok "b/X"
      ∧ ∃ path, r.relativePath 2 7 = .ok path ∧ r'.relativePath 2 7 = .ok path
  := by
  have hagree : AgreeOn "a" nestedMessages neighbourMessages := by
    have hinto : ∀ d ∈ nestedMessages, d.segments.head? = some "a" → d ∈ neighbourMessages := by
      decide
    have hfrom : ∀ d ∈ neighbourMessages, d.segments.head? = some "a" → d ∈ nestedMessages := by
      decide
    intro d hs
    exact ⟨fun hd => hinto d hd hs, fun hd => hfrom d hd hs⟩
  obtain ⟨r, r', hr, hr', hanswers, hrelative⟩ :=
    Resolver.answers_eq_of_agreeOn none none nestedMessages neighbourMessages (by decide)
      (by decide) (by decide) (by decide) "a" hagree
  obtain ⟨d, hd, hdid, hds, hdirectory⟩ : ∃ d ∈ nestedMessages, d.id = 2
      ∧ d.segments.head? = some "a"
      ∧ Text.join "/" (fileSegments nestedMessages d).dropLast = "b/X" :=
    ⟨nestedMessages[2], by decide, by decide, by decide, by decide⟩
  obtain ⟨e, he, heid, hes⟩ : ∃ e ∈ nestedMessages, e.id = 7 ∧ e.segments.head? = some "a" :=
    ⟨nestedMessages[1], by decide, by decide, by decide⟩
  obtain ⟨path, hpath, hpath'⟩ := (hanswers d hd hds).1
  obtain rfl : path = "b/X" := by
    obtain ⟨l, rfl, h⟩ := Resolver.holds_of_start hr
    rw [← Except.ok.inj hpath, ← hdirectory]
    apply h.protocolPath_eq hd
  rw [← hdid, ← heid]
  exact ⟨hagree, r, r', hr, hr', hpath, hpath', hrelative d hd e he hds hes⟩

end MessagePlacement
