import Mathlib
import MessagePlacement.Proofs.Layout.Collision
import MessagePlacement.Proofs.Lookup
import MessagePlacement.Proofs.Report.Entries

/-!
# Names and addresses in a report

The simple name in an entry is the one of the declaration, while the addresses are made with the
simple name that the resolver finds, which an oracle may supply.  So the addresses of directory
style in a report lead to the simple names in it exactly when that oracle supplies the simple names
of the declarations.
-/

namespace MessagePlacement

/-- An address of directory style tells the simple name that it is made with. -/
theorem Layout.address_injective {language : Language} (h : language.style = "directory")
    (path : String) :
  Function.Injective (address language path)
  := by
  intro s t hst
  rw [address_of_directory h, address_of_directory h] at hst
  split at hst
  · exact hst
  · apply String.toList_injective
    simpa using congrArg String.toList hst

namespace Report

/-- `report.IsConsistent languages`: the address in each listed language of directory style is the
simple name of the entry behind its path. -/
def IsConsistent (report : Report) (languages : List Language) : Prop :=
  ∀ e ∈ report.entries, ∀ m ∈ languages, m.style = "directory" →
    e.addresses.lookup m
      = some (if e.path = "" then e.simpleName else e.path ++ "/" ++ e.simpleName)

section Described

variable {naming : Option NamingOracle} {l : Layout} {languages : List Language} {d : Declaration}
  {e : ReportEntry}

/-- The address in a listed language is made of the path of the entry and of the simple name that
is found. -/
theorem Describes.exists_lookup_eq (h : Describes ⟨naming, some l⟩ languages d e) {m : Language}
    (hm : m ∈ languages) :
  ∃ s, (naming.getD l.registry.oracle).simpleName d.id = .ok s
    ∧ e.addresses.lookup m = some (Layout.address m e.path s)
  := by
  have hkeys : (e.addresses.map Prod.fst).Nodup := by
    rw [h.languages_eq]
    apply nodup_distinct
  have hkey : m ∈ e.addresses.map Prod.fst := by
    rw [h.languages_eq, mem_distinct_iff]
    apply hm
  have hpath : e.path = l.protocolPath d.id := (Except.ok.inj h.path_eq).symm
  obtain ⟨address, haddress⟩ := mem_keys_iff.mp hkey
  have hfound := h.address_eq (m, address) ((lookup_eq_some_iff_mem hkeys).mp haddress)
  rw [Resolver.address_eq_map, map_eq_ok_iff] at hfound
  obtain ⟨s, hs, hmade⟩ := hfound
  use s, hs
  rw [haddress, hpath, hmade]

/-- The address in a listed language of directory style leads to the simple name of the entry
exactly when this is the simple name that is found. -/
theorem Describes.lookup_eq_iff (h : Describes ⟨naming, some l⟩ languages d e) {m : Language}
    (hm : m ∈ languages) (hstyle : m.style = "directory") :
  e.addresses.lookup m
      = some (if e.path = "" then e.simpleName else e.path ++ "/" ++ e.simpleName)
    ↔ (naming.getD l.registry.oracle).simpleName d.id = .ok d.simpleName
  := by
  obtain ⟨s, hs, hlookup⟩ := h.exists_lookup_eq hm
  rw [hlookup, hs, ← Layout.address_of_directory hstyle, h.simpleName_eq, Option.some.injEq,
    Except.ok.injEq, (Layout.address_injective hstyle e.path).eq_iff]

end Described

/-- The simple names of declarations are found as `P` says when an oracle, if there is one, supplies
them so, the layout itself supplying those of the declarations. -/
theorem forall_simpleName_iff
    {naming : Option NamingOracle} {l : Layout} {ds : List Declaration} {fold : Bool}
    (h : l.Holds ds fold) {P : Declaration → Except LayoutError String → Prop}
    (hP : ∀ d, P d (.ok d.simpleName)) :
  (∀ d ∈ l.registry.entries, P d ((naming.getD l.registry.oracle).simpleName d.id))
    ↔ ∀ names ∈ naming, ∀ d ∈ ds, P d (names.simpleName d.id)
  := by
  simp only [h.registry.perm.mem_iff]
  cases naming with
  | none =>
      constructor
      · rintro - names ⟨⟩
      · intro _ d hd
        rw [Option.getD_none, Registry.simpleName_oracle, h.registry.simpleNameOf_id hd]
        apply hP
  | some names =>
      constructor
      · rintro hall _ ⟨⟩
        exact hall
      · intro hall
        exact hall names rfl

/-- On a resolver that has started with declarations there is a report when the simple names of
their ids are found.  Its addresses of directory style lead to the simple names in it exactly when
no such language is listed or the simple names that are found are those of the declarations; so
they do for a resolver that takes them from the declarations. -/
theorem isConsistent_iff
    (naming : Option NamingOracle) (ds : List Declaration) (fold : Bool) {r : Resolver}
    (hstart : Resolver.start ⟨naming, none⟩ ds fold = .ok r) (languages : List Language)
    (foldProtocol : Bool) :
  ((∃ report, ofResolver r languages foldProtocol = .ok report)
      ↔ languages = [] ∨ ∀ names ∈ naming, ∀ d ∈ ds, ∃ s, names.simpleName d.id = .ok s)
    ∧ ∀ report, ofResolver r languages foldProtocol = .ok report →
      (report.IsConsistent languages
        ↔ (∀ m ∈ languages, m.style ≠ "directory")
          ∨ ∀ names ∈ naming, ∀ d ∈ ds, names.simpleName d.id = .ok d.simpleName)
  := by
  obtain ⟨l, rfl, hholds⟩ := Resolver.holds_of_start hstart
  constructor
  · rw [exists_ofResolver_iff, forall_simpleName_iff hholds
      (P := fun _ name => ∃ s, name = .ok s) fun d => ⟨_, rfl⟩]
  · intro report hreport
    obtain ⟨-, _, ⟨⟩, hall⟩ := exists_layout_of_ofResolver hreport
    rw [← forall_simpleName_iff hholds (P := fun d name => name = .ok d.simpleName) fun d => rfl]
    constructor
    · intro hconsistent
      by_cases hnone : ∀ m ∈ languages, m.style ≠ "directory"
      · exact .inl hnone
      · right
        push Not at hnone
        obtain ⟨m, hm, hstyle⟩ := hnone
        intro d hd
        obtain ⟨e, he, hdescribes⟩ := exists_mem_of_forall₂ hall.flip hd
        apply (hdescribes.lookup_eq_iff hm hstyle).mp
        apply hconsistent e he m hm hstyle
    · rintro hnames e he m hm hstyle
      obtain ⟨d, hd, hdescribes⟩ := exists_mem_of_forall₂ hall he
      rw [hdescribes.lookup_eq_iff hm hstyle]
      apply hnames.resolve_left _ d hd
      intro hnone
      apply hnone m hm hstyle

/-- A message that gives no simple name. -/
def tradeMessages : List Declaration :=
  [⟨51, "trade.Offer", none, by decide, by decide, by decide, by decide⟩]

/-- An oracle that supplies the simple name of the message, though it has another name for it. -/
def marketNames : NamingOracle :=
  Registry.oracle ⟨[⟨51, "market.Offer", none, by decide, by decide, by decide, by decide⟩]⟩

/-- An oracle that supplies another simple name for the message. -/
def renamedNames : NamingOracle :=
  Registry.oracle
    ⟨[⟨51, "trade.Offer", some "OfferV2", by decide, by decide, by decide, by decide⟩]⟩

theorem isConsistent_iff_tradeMessages :
  ∃ r, Resolver.start ⟨some marketNames, none⟩ tradeMessages true = .ok r
    ∧ ∃ report, ofResolver r [.go, .python] true = .ok report
      ∧ report.IsConsistent [.go, .python]
  := by
  obtain ⟨l, hl, -⟩ :=
    Resolver.exists_start (some marketNames) tradeMessages true (by decide) (by decide)
  obtain ⟨hexists, hiff⟩ :=
    isConsistent_iff (some marketNames) tradeMessages true hl [.go, .python] true
  have hnames : ∀ names ∈ some marketNames, ∀ d ∈ tradeMessages,
      names.simpleName d.id = .ok d.simpleName := by
    rintro _ ⟨⟩ d hd
    obtain rfl := List.mem_singleton.mp hd
    rfl
  obtain ⟨report, hreport⟩ := hexists.mpr <| .inr fun names hmem d hd => ⟨_, hnames names hmem d hd⟩
  exact ⟨_, hl, report, hreport, (hiff report hreport).mpr (.inr hnames)⟩

/-- The report on the message whose simple name is supplied anew. -/
def renamedReport : Report :=
  ⟨true, [⟨51, "trade.Offer", "Offer", "trade", "trade", [(.go, "trade/OfferV2")]⟩]⟩

/-- The address of the message leads to another simple name than the one in its entry. -/
theorem not_isConsistent_tradeMessages :
  ∃ r, Resolver.start ⟨some renamedNames, none⟩ tradeMessages true = .ok r
    ∧ ofResolver r [.go] true = .ok renamedReport ∧ ¬ renamedReport.IsConsistent [.go]
  := by
  have hrun : (Resolver.start ⟨some renamedNames, none⟩ tradeMessages true
      >>= fun r => ofResolver r [.go] true) = .ok renamedReport := by cbv
  obtain ⟨r, hr, hreport⟩ := bind_eq_ok_iff.mp hrun
  refine ⟨r, hr, hreport, ?_⟩
  intro h
  have hlookup := h _ (List.mem_singleton_self _) .go (List.mem_singleton_self _) (by decide)
  revert hlookup
  decide

end Report

end MessagePlacement
