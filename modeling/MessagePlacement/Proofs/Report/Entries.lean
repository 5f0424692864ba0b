import Mathlib.Data.List.Induction
import Mathlib.Data.List.Nodup
import MessagePlacement.Proofs.Layout.Contents
import MessagePlacement.Proofs.Outcome
import MessagePlacement.Report

/-!
# The entries of a report

A report has one entry for each registered declaration, in their order, and `Describes` says what
is in it: the id and the names of the declaration, and what the resolver answers for its directory,
its fold group and its address in each language that is listed, repeated ones once.
-/

namespace MessagePlacement

namespace Report

/-! ### Languages, each once -/

theorem distinct_concat (ls : List Language) (l : Language) :
  distinct (ls ++ [l]) = if l ∈ distinct ls then distinct ls else distinct ls ++ [l]
  := by
  rw [distinct, List.foldl_append, List.foldl_cons, List.foldl_nil, ← distinct]
  simp only [List.contains_iff_mem]

/-- The languages of a list without repetitions. -/
theorem nodup_distinct (ls : List Language) :
  (distinct ls).Nodup
  := by
  induction ls using List.reverseRecOn with
  | nil => apply List.nodup_nil
  | append_singleton ls l ih =>
      rw [distinct_concat]
      split
      · apply ih
      · rename_i hl
        rw [← List.concat_eq_append, List.nodup_concat]
        exact ⟨hl, ih⟩

theorem mem_distinct_iff {ls : List Language} {l : Language} :
  l ∈ distinct ls ↔ l ∈ ls
  := by
  induction ls using List.reverseRecOn with
  | nil => rfl
  | append_singleton ls m ih =>
      rw [distinct_concat, List.mem_append, List.mem_singleton]
      split
      · rename_i hm
        rw [ih, iff_self_or]
        rintro rfl
        apply ih.mp hm
      · rw [List.mem_append, List.mem_singleton, ih]

/-! ### Entries -/

/-- `Describes r languages d e`: the entry `e` gives the names of `d` and what `r` answers. -/
structure Describes (r : Resolver) (languages : List Language) (d : Declaration)
    (e : ReportEntry) : Prop where
  id_eq : e.id = d.id
  name_eq : e.name = d.name
  simpleName_eq : e.simpleName = d.simpleName
  path_eq : r.protocolPath d.id = .ok e.path
  foldGroup_eq : r.foldGroup d.id = .ok e.foldGroup
  languages_eq : e.addresses.map Prod.fst = distinct languages
  address_eq (a : Language × String) : a ∈ e.addresses → r.address d.id a.1 = .ok a.2

/-- The entry that is made of a declaration describes it. -/
theorem describes_of_entryOf {r : Resolver} {languages : List Language} {d : Declaration}
    {e : ReportEntry} (h : entryOf r languages d = .ok e) :
  Describes r languages d e
  := by
  simp only [entryOf, bind_eq_ok_iff] at h
  obtain ⟨path, hpath, foldGroup, hgroup, addresses, haddresses, ⟨⟩⟩ := h
  have hall : List.Forall₂ (fun l a => l = a.1 ∧ r.address d.id a.1 = .ok a.2)
      (distinct languages) addresses := by
    apply (mapM_eq_ok_iff.mp haddresses).imp
    intro l a ha
    obtain ⟨address, haddress, rfl⟩ := map_eq_ok_iff.mp ha
    exact ⟨rfl, haddress⟩
  constructor
  · rfl
  · rfl
  · rfl
  · apply hpath
  · apply hgroup
  · symm
    rw [← List.forall₂_eq_eq_eq, List.forall₂_map_right_iff]
    apply hall.imp
    intro l a ha
    exact ha.1
  · intro a ha
    obtain ⟨l, -, -, haddress⟩ := exists_mem_of_forall₂ hall ha
    exact haddress

/-- A report describes the registered declarations one by one, in their order. -/
theorem exists_layout_of_ofResolver {r : Resolver} {languages : List Language} {foldProtocol : Bool}
    {report : Report} (h : ofResolver r languages foldProtocol = .ok report) :
  report.foldProtocol = foldProtocol
    ∧ ∃ l, r.layout = some l
      ∧ List.Forall₂ (Describes r languages) l.registry.entries report.entries
  := by
  simp only [ofResolver, bind_eq_ok_iff] at h
  obtain ⟨l, hl, entries, hentries, ⟨⟩⟩ := h
  constructor
  · rfl
  · use l
    constructor
    · rw [Resolver.require] at hl
      cases hlayout : r.layout with
      | none =>
          rw [hlayout] at hl
          cases hl
      | some l' =>
          rw [hlayout] at hl
          cases hl
          rfl
    · apply (mapM_eq_ok_iff.mp hentries).imp
      intro d e he
      apply describes_of_entryOf he

/-! ### When there is a report -/

/-- There is an entry of a declaration exactly when no language is listed or a simple name is
found for its id. -/
theorem exists_entryOf_iff
    (naming : Option NamingOracle) (l : Layout) (languages : List Language) (d : Declaration) :
  (∃ e, entryOf ⟨naming, some l⟩ languages d = .ok e)
    ↔ languages = [] ∨ ∃ s, (naming.getD l.registry.oracle).simpleName d.id = .ok s
  := by
  have haddress : (∃ as, ((distinct languages).mapM fun m =>
        (Resolver.address ⟨naming, some l⟩ d.id m).map (m, ·)) = .ok as)
      ↔ ∀ m ∈ languages, ∃ s, (naming.getD l.registry.oracle).simpleName d.id = .ok s := by
    simp only [exists_mapM_iff, mem_distinct_iff, Resolver.address_eq_map, map_eq_ok_iff]
    constructor
    · intro h m hm
      obtain ⟨-, -, ⟨s, hs, -⟩, -⟩ := h m hm
      exact ⟨s, hs⟩
    · intro h m hm
      obtain ⟨s, hs⟩ := h m hm
      exact ⟨_, _, ⟨s, hs, rfl⟩, rfl⟩
  have hentry : (∃ e, entryOf ⟨naming, some l⟩ languages d = .ok e)
      ↔ ∃ as, ((distinct languages).mapM fun m =>
        (Resolver.address ⟨naming, some l⟩ d.id m).map (m, ·)) = .ok as := by
    simp only [entryOf, bind_eq_ok_iff]
    constructor
    · rintro ⟨e, -, -, -, -, as, has, -⟩
      exact ⟨as, has⟩
    · rintro ⟨as, has⟩
      exact ⟨_, _, rfl, _, rfl, as, has, rfl⟩
  rw [hentry, haddress]
  constructor
  · intro h
    cases languages with
    | nil => exact .inl rfl
    | cons m ms => exact .inr (h m (List.mem_cons_self ..))
  · rintro (rfl | h) m hm
    · cases hm
    · exact h

/-- There is a report on a layout exactly when no language is listed or a simple name is found for
every registered declaration. -/
theorem exists_ofResolver_iff
    (naming : Option NamingOracle) (l : Layout) (languages : List Language) (foldProtocol : Bool) :
  (∃ report, ofResolver ⟨naming, some l⟩ languages foldProtocol = .ok report)
    ↔ languages = []
      ∨ ∀ d ∈ l.registry.entries, ∃ s, (naming.getD l.registry.oracle).simpleName d.id = .ok s
  := by
  have hentries : (∃ report, ofResolver ⟨naming, some l⟩ languages foldProtocol = .ok report)
      ↔ ∃ es, l.registry.entries.mapM (entryOf ⟨naming, some l⟩ languages) = .ok es := by
    simp only [ofResolver, bind_eq_ok_iff]
    constructor
    · rintro ⟨report, l', ⟨⟩, es, hes, -⟩
      exact ⟨es, hes⟩
    · rintro ⟨es, hes⟩
      exact ⟨_, l, rfl, es, hes, rfl⟩
  rw [hentries, exists_mapM_iff]
  simp only [exists_entryOf_iff, forall_or_left]

end Report

end MessagePlacement
