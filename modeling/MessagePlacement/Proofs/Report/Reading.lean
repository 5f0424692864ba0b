import Mathlib
import MessagePlacement.Proofs.Json.RoundTrip
import MessagePlacement.Proofs.Layout.Contents
import MessagePlacement.Proofs.Report.Entries

/-!
# Reading a report

`Report.read?` reads the text of a report: as a JSON document, and then by the names of its
fields.  Of the text that is written for a report it gives the report back, provided that no entry
has two addresses in one language or an id of too many digits, and the reports on resolvers are of
this kind.  So a report is determined by its text.
-/

namespace MessagePlacement

/-! ### Values by name -/

namespace Value

/-- The truth value that a value is. -/
def bool? : Value → Option Bool
  | .bool b => some b
  | _ => none

/-- The integer that a value is. -/
def int? : Value → Option Int
  | .int n => some n
  | _ => none

/-- The text that a value is. -/
def text? : Value → Option String
  | .text s => some s
  | _ => none

/-- The members of a list. -/
def list? : Value → Option (List Value)
  | .list xs => some xs
  | _ => none

/-- The entries of a mapping. -/
def mapping? : Value → Option (List (Value × Value))
  | .mapping es => some es
  | _ => none

/-- The value under a name in a mapping. -/
def field? (v : Value) (name : String) : Option Value :=
  v.mapping?.bind (get? name)

end Value

/-- The language with exactly a label. -/
def Language.ofLabel? (s : String) : Option Language :=
  all.find? (·.label == s)

theorem Language.ofLabel?_label (l : Language) :
  ofLabel? l.label = some l
  := by
  cases l
  all_goals decide

theorem Language.label_injective :
  Function.Injective label
  := by
  intro l m h
  have hl := ofLabel?_label l
  rw [h, ofLabel?_label] at hl
  exact (Option.some.inj hl).symm

/-- The language and address that an entry of a mapping gives. -/
def ReportEntry.address? (e : Value × Value) : Option (Language × String) := do
  let language ← e.1.text?.bind Language.ofLabel?
  let address ← e.2.text?
  pure (language, address)

/-- The entry of a report that a value describes. -/
def ReportEntry.ofValue? (v : Value) : Option ReportEntry := do
  let id ← (v.field? "protocol_id").bind Value.int?
  let name ← (v.field? "declaration_name").bind Value.text?
  let simpleName ← (v.field? "simple_name").bind Value.text?
  let path ← (v.field? "path").bind Value.text?
  let foldGroup ← (v.field? "fold_group").bind Value.text?
  let addresses ← (v.field? "absolute_paths").bind Value.mapping?
  pure ⟨id, name, simpleName, path, foldGroup, ← addresses.mapM address?⟩

namespace Report

/-- The report that a value describes. -/
def ofValue? (v : Value) : Option Report := do
  let foldProtocol ← (v.field? "fold_protocol").bind Value.bool?
  let entries ← (v.field? "entries").bind Value.list?
  pure ⟨foldProtocol, ← entries.mapM ReportEntry.ofValue?⟩

/-- The report that a text describes. -/
def read? (s : String) : Option Report :=
  (Json.parse? s).bind ofValue?

end Report

/-! ### Reports as values -/

theorem mapM_map_eq_some {α β : Type} {f : α → β} {g : β → Option α} (h : ∀ a, g (f a) = some a)
    (xs : List α) :
  (xs.map f).mapM g = some xs
  := by
  rw [List.mapM_map]
  have hpure : g ∘ f = fun a => pure (id a) := funext h
  rw [hpure, List.mapM_pure, List.map_id]
  rfl

theorem ReportEntry.ofValue?_toValue (e : ReportEntry) :
  ofValue? e.toValue = some e
  := by
  have haddresses : (e.addresses.map fun a => (Value.text a.1.label, Value.text a.2)).mapM address?
      = some e.addresses := by
    apply mapM_map_eq_some
    intro a
    simp [address?, Value.text?, Language.ofLabel?_label]
  simp [ofValue?, toValue, Value.field?, Value.mapping?, Value.get?, Value.sameKey,
    Value.keyNumber?, Value.int?, Value.text?, haddresses]

theorem Report.ofValue?_toValue (r : Report) :
  ofValue? r.toValue = some r
  := by
  have hentries := mapM_map_eq_some ReportEntry.ofValue?_toValue r.entries
  simp [ofValue?, toValue, Value.field?, Value.mapping?, Value.get?, Value.sameKey,
    Value.keyNumber?, Value.bool?, Value.list?, hentries]

/-- A mapping that is made of distinct keys and plain values is plain. -/
theorem Value.isPlain_mapping_map
    {α : Type} {xs : List α} {key : α → String} {value : α → Value} (hkeys : (xs.map key).Nodup)
    (hvalues : ∀ x ∈ xs, (value x).IsPlain) :
  IsPlain (.mapping (xs.map fun x => (.text (key x), value x)))
  := by
  have hplain := @IsPlain.mapping (xs.map fun x => (key x, value x))
  simp only [List.map_map, Function.comp_def] at hplain
  apply hplain
  · apply hkeys
  · intro e he
    obtain ⟨x, hx, rfl⟩ := List.mem_map.mp he
    apply hvalues x hx

/-- The entries that can be read back: with a short id and at most one address in each language. -/
structure ReportEntry.IsReadable (e : ReportEntry) : Prop where
  id : Json.IsShort e.id
  languages : (e.addresses.map Prod.fst).Nodup

theorem ReportEntry.IsReadable.isPlain_toValue {e : ReportEntry} (h : e.IsReadable) :
  e.toValue.IsPlain
  := by
  have hlabels : (e.addresses.map fun a => a.1.label).Nodup := by
    have hmap := h.languages.map Language.label_injective
    rwa [List.map_map] at hmap
  have haddresses :
      Value.IsPlain (.mapping (e.addresses.map fun a => (.text a.1.label, .text a.2))) :=
    Value.isPlain_mapping_map hlabels fun a _ => .text a.2
  apply @Value.IsPlain.mapping [("protocol_id", .int e.id), ("declaration_name", .text e.name),
    ("simple_name", .text e.simpleName), ("path", .text e.path), ("fold_group", .text e.foldGroup),
    ("absolute_paths", .mapping (e.addresses.map fun a => (.text a.1.label, .text a.2)))]
  · simp
  · simp only [List.forall_mem_cons]
    exact ⟨.int h.id, .text _, .text _, .text _, .text _, haddresses, List.forall_mem_nil _⟩

theorem Report.isPlain_toValue {r : Report} (h : ∀ e ∈ r.entries, e.IsReadable) :
  r.toValue.IsPlain
  := by
  have hentries : Value.IsPlain (.list (r.entries.map (·.toValue))) := by
    apply Value.IsPlain.list
    intro v hv
    obtain ⟨e, he, rfl⟩ := List.mem_map.mp hv
    exact (h e he).isPlain_toValue
  apply @Value.IsPlain.mapping [("fold_protocol", .bool r.foldProtocol),
    ("entries", .list (r.entries.map (·.toValue)))]
  · simp
  · simp only [List.forall_mem_cons]
    exact ⟨.bool _, hentries, List.forall_mem_nil _⟩

/-! ### Reports as texts -/

namespace Report

variable {r : Resolver} {languages : List Language} {foldProtocol : Bool} {report : Report}

/-- In a report on a resolver every entry has one address in each language that is listed. -/
theorem languages_addresses
    (h : ofResolver r languages foldProtocol = .ok report) {e : ReportEntry}
    (he : e ∈ report.entries) :
  e.addresses.map Prod.fst = distinct languages
  := by
  obtain ⟨-, l, -, hall⟩ := exists_layout_of_ofResolver h
  obtain ⟨d, -, hdescribes⟩ := exists_mem_of_forall₂ hall he
  exact hdescribes.languages_eq

/-- The entries of a report on a resolver can be read back. -/
theorem isReadable_of_ofResolver
    (h : ofResolver r languages foldProtocol = .ok report) {e : ReportEntry}
    (he : e ∈ report.entries) :
  e.IsReadable
  := by
  obtain ⟨-, l, -, hall⟩ := exists_layout_of_ofResolver h
  obtain ⟨d, -, hdescribes⟩ := exists_mem_of_forall₂ hall he
  constructor
  · rw [hdescribes.id_eq]
    exact Json.isShort_of_le d.id_nonneg d.id_le
  · rw [languages_addresses h he]
    apply nodup_distinct

theorem parse?_text (h : ∀ e ∈ report.entries, e.IsReadable) :
  Json.parse? report.text = some report.toValue
  := Json.parse?_pretty_append (isPlain_toValue h) (Json.atBreak_cons (.inr rfl)) rfl

theorem read?_text (h : ∀ e ∈ report.entries, e.IsReadable) :
  read? report.text = some report
  := by
  rw [read?, parse?_text h, Option.bind_some, ofValue?_toValue]

/-- The bytes that are written for a text are read as the text. -/
@[simp] theorem decode?_toUTF8 (s : String) :
  Text.decode? s.toUTF8 = some s
  := by
  rw [Text.decode?, String.fromUTF8?, String.toUTF8_eq_toByteArray, dif_pos s.isValidUTF8]
  rfl

/-- The text of a report on a resolver is a JSON document and a line feed.  Reading it gives the
report back, which has the mark of folding that was asked for and in each entry one address under
the label of each language that was listed, and no others.  So a report is determined by its
text. -/
theorem read?_text_ofResolver (h : ofResolver r languages foldProtocol = .ok report) :
  (∃ document, report.text = document ++ "\n" ∧ Json.parse? document = some report.toValue)
    ∧ Json.parse? report.text = some report.toValue
    ∧ (Text.decode? report.text.toUTF8).bind read? = some report
    ∧ report.foldProtocol = foldProtocol
    ∧ (∀ e ∈ report.entries, (e.addresses.map (·.1.label)).Nodup
        ∧ ∀ m : Language, m.label ∈ e.addresses.map (·.1.label) ↔ m ∈ languages)
    ∧ ∀ {r' languages' foldProtocol' report'},
      ofResolver r' languages' foldProtocol' = .ok report' → report'.text = report.text → report' = report
  := by
  have hreadable : ∀ {r languages foldProtocol report},
      ofResolver r languages foldProtocol = .ok report → ∀ e ∈ report.entries, e.IsReadable :=
    fun h e => isReadable_of_ofResolver h
  have hplain := isPlain_toValue (hreadable h)
  refine ⟨⟨Json.pretty report.toValue, rfl, ?_⟩, parse?_text (hreadable h), ?_, ?_, ?_, ?_⟩
  · have hbreak : Json.AtBreak [] := by rintro c ⟨⟩
    simpa using Json.parse?_pretty_append hplain hbreak rfl
  · rw [decode?_toUTF8, Option.bind_some, read?_text (hreadable h)]
  · exact (exists_layout_of_ofResolver h).1
  · intro e he
    have hlabels : e.addresses.map (·.1.label) = (distinct languages).map Language.label := by
      rw [← languages_addresses h he, List.map_map]
      rfl
    rw [hlabels]
    constructor
    · apply (nodup_distinct languages).map Language.label_injective
    · intro m
      rw [List.mem_map_of_injective Language.label_injective, mem_distinct_iff]
  · intro r' languages' foldProtocol' report' h' heq
    have hread := read?_text (hreadable h)
    rw [← heq, read?_text (hreadable h')] at hread
    exact Option.some.inj hread

/-- Messages whose names hold quotes, a backslash, controls and a character beyond ASCII. -/
def quotedMessages : List Declaration :=
  [⟨61, "tell.\x22Hi\x22", none, by decide, by decide, by decide, by decide⟩,
    ⟨62, "tell.\\\t\x01é", some "\x7f", by decide, by decide, by decide, by decide⟩]

/-- The report on these messages in Go and Python. -/
def quotedReport : Report :=
  ⟨true,
    [⟨61, "tell.\x22Hi\x22", "\x22Hi\x22", "tell", "tell",
        [(.go, "tell/\x22Hi\x22"), (.python, "tell")]⟩,
      ⟨62, "tell.\\\t\x01é", "\x7f", "tell", "tell", [(.go, "tell/\x7f"), (.python, "tell")]⟩]⟩

theorem read?_text_ofResolver_quotedMessages :
  ∃ r, Resolver.start {} quotedMessages true = .ok r
    ∧ ofResolver r [.go, .python, .go] true = .ok quotedReport
    ∧ (Text.decode? quotedReport.text.toUTF8).bind read? = some quotedReport
  := by
  have hrun : (Resolver.start {} quotedMessages true
      >>= fun r => ofResolver r [.go, .python, .go] true) = .ok quotedReport := by cbv
  obtain ⟨r, hr, hreport⟩ := bind_eq_ok_iff.mp hrun
  exact ⟨r, hr, hreport, (read?_text_ofResolver hreport).2.2.1⟩

end Report

end MessagePlacement
