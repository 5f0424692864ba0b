import MessagePlacement.Proofs.Layout.Directory

/-!
# Packages

In a language of package style a message is addressed by the package that its file is in.  It is
made from the whole address of the file, in slashes, by cutting off what is behind the last slash;
so it is the assigned path of the message exactly when neither the path nor the simple name has a
slash of its own.
-/

namespace MessagePlacement

open Text

theorem Language.eq_python_of_style {language : Language} (h : language.style = "package") :
  language = .python
  := by
  cases language with
  | python => rfl
  | _ => exact absurd h (by decide)

theorem Language.ofValue?_python :
  Language.ofValue? (.text "Python") = some .python
  := by
  decide +kernel

namespace Layout

/-- In a language of package style the slashes of the directory become dots, and the simple name is
kept up to its last slash. -/
theorem address_of_package {language : Language} (h : language.style = "package")
    (path simpleName : String) :
  address language path simpleName
    = if path = "" then "."
      else join "." (parts "/" path ++ (parts "/" simpleName).dropLast)
  := by
  obtain rfl := Language.eq_python_of_style h
  have hparts : parts "/" (path ++ "/" ++ simpleName)
      = parts "/" path ++ parts "/" simpleName := parts_append toList_slash _ _
  have hfront : (parts "/" (path ++ "/" ++ simpleName)).dropLast
      = parts "/" path ++ (parts "/" simpleName).dropLast := by
    rw [hparts, List.dropLast_append_of_ne_nil (parts_ne_nil _ _)]
  have hcut : parts "/" (beforeLastSlash (path ++ "/" ++ simpleName))
      = parts "/" path ++ (parts "/" simpleName).dropLast := by
    rw [beforeLastSlash, parts_join toList_slash, hfront]
    · rw [hfront]
      apply List.append_ne_nil_of_left_ne_nil (parts_ne_nil _ _)
    · intro x hx
      apply not_mem_of_mem_parts toList_slash (List.dropLast_subset _ hx)
  by_cases hpath : path = ""
  · rw [if_pos hpath, hpath]
    rfl
  · rw [if_neg hpath, ← hcut]
    simp [address, Language.convention, hpath]

/-- The package of a directory below the root is its dotted path exactly when neither the path nor
the simple name has a slash. -/
theorem join_package_eq_iff {xs : List String} (hne : xs ≠ []) (simpleName : String) :
  join "." (parts "/" (join "/" xs) ++ (parts "/" simpleName).dropLast) = join "." xs
    ↔ '/' ∉ (join "." xs).toList ∧ '/' ∉ simpleName.toList
  := by
  have hparts : '/' ∉ (join "." xs).toList → parts "/" (join "/" xs) = xs := by
    intro hslash
    rw [mem_toList_join_iff (by decide)] at hslash
    apply parts_join toList_slash hne
    intro x hx hmem
    exact hslash ⟨x, hx, hmem⟩
  constructor
  · intro heq
    -- the parts at slashes have none, and neither has what dots join of them
    have hslash : '/' ∉ (join "." xs).toList := by
      rw [← heq, mem_toList_join_iff (by decide)]
      rintro ⟨x, hx, hmem⟩
      rcases List.mem_append.mp hx with hx | hx
      · apply not_mem_of_mem_parts toList_slash hx hmem
      · apply not_mem_of_mem_parts toList_slash (List.dropLast_subset _ hx) hmem
    rw [hparts hslash, join_append_eq_iff (by decide) hne,
      dropLast_parts_eq_nil_iff toList_slash] at heq
    exact ⟨hslash, heq⟩
  · rintro ⟨hslash, hname⟩
    rw [hparts hslash, (dropLast_parts_eq_nil_iff toList_slash).mpr hname, List.append_nil]

namespace Holds

variable {l : Layout} {ds : List Declaration} {fold : Bool}

/-- The path of an id is the join of its segments. -/
theorem join_segments_valueOf (h : l.Holds ds fold) (id : Int) :
  join "." (segments (Plan.valueOf id l.plan.paths)) = Plan.valueOf id l.plan.paths
  := by
  cases fold with
  | false =>
      rw [h.plan_eq]
      rfl
  | true =>
      obtain ⟨xs, hxs, hmem⟩ := h.exists_valueOf_paths id
      rw [hxs, segments_join]
      intro s hs
      obtain ⟨d, -, hd⟩ := hmem s hs
      apply Declaration.isSegment_of_mem_segments hd

/-- A message without a path has no directory either. -/
theorem protocolPath_eq_empty_iff (h : l.Holds ds fold) (id : Int) :
  l.protocolPath id = "" ↔ Plan.valueOf id l.plan.paths = ""
  := by
  have hne : ∀ s ∈ segments (Plan.valueOf id l.plan.paths), s ≠ "" :=
    fun s hs => (isSegment_of_mem_segmentsOn toList_dot hs).1
  rw [protocolPath, directoryPath, join_eq_empty_iff hne, ← h.join_segments_valueOf id,
    join_eq_empty_iff hne, h.join_segments_valueOf id]

end Holds

end Layout

section Package

variable {l : Layout} {ds : List Declaration} {fold : Bool} {d : Declaration} {value : Value}
  {language : Language}

/-- The package of a message that is registered. -/
theorem Resolver.absolutePath_eq_package (h : l.Holds ds fold) (hd : d ∈ ds)
    (hvalue : Language.ofValue? value = some language) (hstyle : language.style = "package") :
  Resolver.absolutePath ⟨none, some l⟩ d.id value
    = .ok (if Plan.valueOf d.id l.plan.paths = "" then "."
        else join "." (parts "/" (directoryPath (Plan.valueOf d.id l.plan.paths))
          ++ (parts "/" d.simpleName).dropLast))
  := by
  rw [absolutePath_eq_map none l d.id hvalue, Option.getD_none, Registry.simpleName_oracle,
    h.registry.simpleNameOf_id hd]
  change Except.ok (Layout.address language (l.protocolPath d.id) d.simpleName) = _
  rw [Layout.address_of_package hstyle]
  simp only [h.protocolPath_eq_empty_iff]
  rfl

end Package

/-- After a start of a resolver that takes simple names from the declarations, a message without a
path is addressed by a dot in a language of package style.  Any other message is addressed by the
parts of its directory and those of its simple name without the last, joined by dots; this is its
path exactly when neither the path nor the simple name has a slash. -/
theorem Resolver.absolutePath_eq_path_iff
    (r r' : Resolver) (hnaming : r.naming = none) (ds : List Declaration) (fold : Bool)
    (hstart : r.start ds fold = .ok r') (value : Value) (language : Language)
    (hvalue : Language.ofValue? value = some language) (hstyle : language.style = "package") :
  ∃ paths, r'.assignedPaths = .ok paths
    ∧ (∀ d ∈ ds, Plan.valueOf d.id paths = "" → r'.absolutePath d.id value = .ok ".")
    ∧ (∀ d ∈ ds, Plan.valueOf d.id paths ≠ "" →
        r'.absolutePath d.id value
          = .ok (join "." (parts "/" (directoryPath (Plan.valueOf d.id paths))
              ++ (parts "/" d.simpleName).dropLast)))
    ∧ ∀ d ∈ ds, Plan.valueOf d.id paths ≠ "" →
        (r'.absolutePath d.id value = .ok (Plan.valueOf d.id paths)
          ↔ '/' ∉ (Plan.valueOf d.id paths).toList ∧ '/' ∉ d.simpleName.toList)
  := by
  obtain ⟨l, rfl, h⟩ := Resolver.holds_of_start hstart
  rw [hnaming]
  refine ⟨l.plan.paths, rfl, ?_, ?_, ?_⟩
  · intro d hd hpath
    rw [absolutePath_eq_package h hd hvalue hstyle, if_pos hpath]
  · intro d hd hpath
    rw [absolutePath_eq_package h hd hvalue hstyle, if_neg hpath]
  · intro d hd hpath
    have hjoin := h.join_segments_valueOf d.id
    have hne : segments (Plan.valueOf d.id l.plan.paths) ≠ [] := by
      intro hnil
      rw [hnil] at hjoin
      exact hpath hjoin.symm
    have hiff := Layout.join_package_eq_iff hne d.simpleName
    rw [hjoin] at hiff
    rw [absolutePath_eq_package h hd hvalue hstyle, if_neg hpath, Except.ok.injEq]
    exact hiff

/-- The nested messages have no slashes, and are addressed by their paths. -/
theorem Resolver.absolutePath_eq_path_iff_nestedMessages :
  ∃ r, Resolver.start {} nestedMessages true = .ok r
    ∧ r.absolutePath 2 (.text "Python") = .ok "b.X"
    ∧ r.absolutePath 9 (.text "Python") = .ok "."
  := by
  obtain ⟨l, hstart, h⟩ := Resolver.exists_start none nestedMessages true (by decide) (by decide)
  obtain ⟨paths, hpaths, hroot, -, hbelow⟩ :=
    Resolver.absolutePath_eq_path_iff {} _ rfl nestedMessages true hstart (.text "Python") .python
      Language.ofValue?_python (by decide)
  obtain rfl : l.plan.paths = paths := Except.ok.inj hpaths
  obtain ⟨d, hd, hdid, hdpath, hslash⟩ : ∃ d ∈ nestedMessages, d.id = 2
      ∧ join "." (fileSegments nestedMessages d).dropLast = "b.X"
      ∧ '/' ∉ d.simpleName.toList :=
    ⟨nestedMessages[2], by decide, by decide, by decide, by decide⟩
  obtain ⟨e, he, heid, hepath⟩ : ∃ e ∈ nestedMessages, e.id = 9
      ∧ join "." (fileSegments nestedMessages e).dropLast = "" :=
    ⟨nestedMessages[3], by decide, by decide, by decide⟩
  have hinner := hbelow d hd
  rw [h.valueOf_paths hd, hdpath, hdid] at hinner
  have hsolo := hroot e he
  rw [h.valueOf_paths he, hepath, heid] at hsolo
  exact ⟨_, hstart, (hinner (by decide)).mpr ⟨by decide, hslash⟩, hsolo rfl⟩

/-- A message with a simple name of its own that has a slash. -/
def versionedMessages : List Declaration :=
  [⟨81, "pay.Card", some "Card/V2", by decide, by decide, by decide, by decide⟩]

/-- The message is not addressed by its path. -/
theorem Resolver.absolutePath_versionedMessages :
  ∃ r paths, Resolver.start {} versionedMessages true = .ok r ∧ r.assignedPaths = .ok paths
    ∧ Plan.valueOf 81 paths = "pay"
    ∧ r.absolutePath 81 (.text "Python") = .ok "pay.Card"
  := by
  obtain ⟨l, hstart, h⟩ :=
    Resolver.exists_start none versionedMessages true (by decide) (by decide)
  obtain ⟨d, hd, hdid, hdpath, hname⟩ : ∃ d ∈ versionedMessages, d.id = 81
      ∧ join "." (fileSegments versionedMessages d).dropLast = "pay"
      ∧ d.simpleName = "Card/V2" :=
    ⟨versionedMessages[0], by decide, by decide, by decide, by decide⟩
  have hpath := h.valueOf_paths hd
  have haddress := absolutePath_eq_package h hd Language.ofValue?_python (by decide)
  rw [hpath, hdpath, hname, hdid] at haddress
  rw [hdpath, hdid] at hpath
  exact ⟨_, l.plan.paths, hstart, rfl, hpath, haddress.trans (congrArg _ (by decide))⟩

end MessagePlacement
