import Mathlib.Data.Set.Function
import MessagePlacement.Proofs.Layout.Directory

/-!
# Files that collide

In the languages of directory style a message is addressed by its file segments joined by
slashes, if it has no simple name of its own.  What is above the fold level of a message is
not part of its address, so messages of different namespaces are addressed alike when their
names agree from their fold levels on; and different messages have different addresses exactly
when this does not happen.
-/

namespace MessagePlacement

open Text

/-- The file segments of a message joined by slashes. -/
def fileName (ds : List Declaration) (d : Declaration) : String :=
  join "/" (fileSegments ds d)

variable {ds : List Declaration}

/-- The file name is the last segment of the name behind the directory. -/
theorem fileName_eq_if {d : Declaration} (hd : d ∈ ds) :
  fileName ds d
    = if join "/" (fileSegments ds d).dropLast = "" then d.segments.getLastD ""
      else join "/" (fileSegments ds d).dropLast ++ "/" ++ d.segments.getLastD ""
  := by
  have hlast := getLast?_fileSegments hd
  have hsegment : ∀ s ∈ fileSegments ds d, s ≠ "" :=
    fun s hs => (isSegment_of_mem_fileSegments hs).1
  obtain ⟨xs, x, hxs⟩ := (List.eq_nil_or_concat' _).resolve_left (fileSegments_ne_nil hd)
  rw [hxs] at hsegment
  rw [hxs, List.getLast?_concat] at hlast
  rw [fileName, hxs, List.dropLast_concat, List.getLastD_eq_getLast?, ← hlast, Option.getD_some]
  apply join_concat_eq_if
  intro s hs
  apply hsegment s (List.mem_append_left _ hs)

/-- Without slashes in the names, file names are equal only if the file segments are. -/
theorem fileName_injOn_iff (hslash : ∀ d ∈ ds, ∀ s ∈ d.segments, '/' ∉ s.toList) :
  Set.InjOn (fileName ds) { d | d ∈ ds } ↔ Set.InjOn (fileSegments ds) { d | d ∈ ds }
  := by
  have hsegment : ∀ d ∈ ds, ∀ s ∈ fileSegments ds d, IsSegment '/' s := by
    intro d hd s hs
    constructor
    · exact (isSegment_of_mem_fileSegments hs).1
    · apply hslash d hd s (mem_segments_of_mem_fileSegments hs)
  constructor
  · intro hinj d hd e he heq
    apply hinj hd he
    rw [fileName, heq, fileName]
  · intro hinj d hd e he heq
    apply hinj hd he
    apply join_injOn toList_slash (hsegment d hd) (hsegment e he) heq

/-- In a language of directory style nothing is cut off an address. -/
theorem Layout.address_of_directory {language : Language} (h : language.style = "directory")
    (path simpleName : String) :
  address language path simpleName = if path = "" then simpleName else path ++ "/" ++ simpleName
  := by
  rw [Language.style] at h
  split at h
  · exact absurd h (by decide)
  · split at h
    · exact absurd h (by decide)
    · rename_i hinternal hstrips
      simp only [address, hinternal, hstrips, Bool.false_or, Bool.not_false, if_true]

/-- A message without a simple name of its own is addressed by its file name. -/
theorem Resolver.absolutePath_eq_fileName
    {l : Layout} (h : l.Holds ds true) {d : Declaration} (hd : d ∈ ds) (hgiven : d.givenName = none)
    {value : Value} {language : Language} (hvalue : Language.ofValue? value = some language)
    (hstyle : language.style = "directory") :
  Resolver.absolutePath ⟨none, some l⟩ d.id value = .ok (fileName ds d)
  := by
  have hname : d.simpleName = d.segments.getLastD "" := by
    rw [Declaration.simpleName, hgiven]
    rfl
  rw [absolutePath_eq_map none l d.id hvalue, Option.getD_none, Registry.simpleName_oracle,
    h.registry.simpleNameOf_id hd, hname, fileName_eq_if hd, ← h.protocolPath_eq hd,
    ← Layout.address_of_directory hstyle]
  rfl

/-- A resolver that starts with declarations of distinct ids and names, none of which gives a
simple name, addresses each message by its file name in the languages of directory style; so
different messages have different addresses exactly when no two names agree from their fold
levels on. -/
theorem Resolver.absolutePath_distinct_iff
    (ds : List Declaration) (hid : (ds.map (·.id)).Nodup) (hname : (ds.map (·.name)).Nodup)
    (hgiven : ∀ d ∈ ds, d.givenName = none) :
  ∃ r, Resolver.start {} ds true = .ok r
    ∧ ∀ value language, Language.ofValue? value = some language → language.style = "directory" →
      (∀ d ∈ ds, r.absolutePath d.id value = .ok (fileName ds d))
      ∧ ((∀ d ∈ ds, ∀ e ∈ ds, d.id ≠ e.id → r.absolutePath d.id value ≠ r.absolutePath e.id value)
          ↔ Set.InjOn (fileName ds) { d | d ∈ ds })
      ∧ ((∀ d ∈ ds, ∀ s ∈ d.segments, '/' ∉ s.toList) →
          ((∀ d ∈ ds, ∀ e ∈ ds, d.id ≠ e.id →
              r.absolutePath d.id value ≠ r.absolutePath e.id value)
            ↔ Set.InjOn (fileSegments ds) { d | d ∈ ds }))
  := by
  obtain ⟨l, hl, h⟩ := exists_start none ds true hid hname
  use ⟨none, some l⟩, hl
  intro value language hvalue hstyle
  have haddress : ∀ d ∈ ds,
      Resolver.absolutePath ⟨none, some l⟩ d.id value = .ok (fileName ds d) :=
    fun d hd => absolutePath_eq_fileName h hd (hgiven d hd) hvalue hstyle
  have hdistinct : (∀ d ∈ ds, ∀ e ∈ ds, d.id ≠ e.id →
      Resolver.absolutePath ⟨none, some l⟩ d.id value
        ≠ Resolver.absolutePath ⟨none, some l⟩ e.id value)
      ↔ Set.InjOn (fileName ds) { d | d ∈ ds } := by
    constructor
    · intro hne d hd e he heq
      by_contra hde
      apply hne d hd e he
      · intro hideq
        apply hde (List.inj_on_of_nodup_map hid hd he hideq)
      · rw [haddress d hd, haddress e he, heq]
    · intro hinj d hd e he hideq heq
      rw [haddress d hd, haddress e he] at heq
      apply hideq
      rw [hinj hd he (Except.ok.inj heq)]
  refine ⟨haddress, hdistinct, ?_⟩
  intro hslash
  rw [hdistinct]
  apply fileName_injOn_iff hslash

theorem Resolver.absolutePath_distinct_iff_nestedMessages :
  (nestedMessages.map (·.id)).Nodup ∧ (nestedMessages.map (·.name)).Nodup
    ∧ (∀ d ∈ nestedMessages, d.givenName = none)
    ∧ (∀ d ∈ nestedMessages, ∀ s ∈ d.segments, '/' ∉ s.toList)
    ∧ (∃ r, Resolver.start {} nestedMessages true = .ok r
      ∧ ∀ d ∈ nestedMessages, ∀ e ∈ nestedMessages, d.id ≠ e.id →
        r.absolutePath d.id (.text "Go") ≠ r.absolutePath e.id (.text "Go"))
    ∧ Set.InjOn (fileSegments nestedMessages) { d | d ∈ nestedMessages }
  := by
  have hslash : ∀ d ∈ nestedMessages, ∀ s ∈ d.segments, '/' ∉ s.toList := by decide
  refine ⟨by decide, by decide, by decide, hslash, ?_⟩
  obtain ⟨r, hr, h⟩ :=
    Resolver.absolutePath_distinct_iff nestedMessages (by decide) (by decide) (by decide)
  obtain ⟨-, hname, hsegments⟩ := h (.text "Go") .go (by decide) (by decide)
  have hinj : ∀ d ∈ nestedMessages, ∀ e ∈ nestedMessages,
      fileName nestedMessages d = fileName nestedMessages e → d = e := by decide
  have hdistinct := hname.mpr fun d hd e he heq => hinj d hd e he heq
  constructor
  · use r, hr
  · apply (hsegments hslash).mp hdistinct

/-- Messages of one name in namespaces of one name, in two namespaces. -/
def twinMessages : List Declaration :=
  [⟨5, "a.x.Foo", none, by decide, by decide, by decide, by decide⟩,
    ⟨6, "b.x.Foo", none, by decide, by decide, by decide, by decide⟩]

/-- The two messages are generated into the same file. -/
theorem Resolver.absolutePath_twinMessages :
  (twinMessages.map (·.id)).Nodup ∧ (twinMessages.map (·.name)).Nodup
    ∧ (∀ d ∈ twinMessages, d.givenName = none)
    ∧ ∃ r, Resolver.start {} twinMessages true = .ok r
      ∧ r.absolutePath 5 (.text "Go") = .ok "x/Foo" ∧ r.absolutePath 6 (.text "Go") = .ok "x/Foo"
  := by
  refine ⟨by decide, by decide, by decide, ?_⟩
  obtain ⟨l, hl, h⟩ := exists_start none twinMessages true (by decide) (by decide)
  have ha : twinMessages[0] ∈ twinMessages := by decide
  have hb : twinMessages[1] ∈ twinMessages := by decide
  have hgo : Language.ofValue? (.text "Go") = some .go := by decide
  have haName : fileName twinMessages twinMessages[0] = "x/Foo" := by decide
  have hbName : fileName twinMessages twinMessages[1] = "x/Foo" := by decide
  use ⟨none, some l⟩, hl
  constructor
  · rw [← haName]
    apply absolutePath_eq_fileName h ha rfl hgo (by decide)
  · rw [← hbName]
    apply absolutePath_eq_fileName h hb rfl hgo (by decide)

end MessagePlacement
