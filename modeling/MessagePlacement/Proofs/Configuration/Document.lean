import MessagePlacement.Configuration
import MessagePlacement.Proofs.Files.Route
import MessagePlacement.Proofs.Libraries

/-!
# The document of a configuration

A file holds the document that its text denotes in YAML; a void one counts as a mapping without
entries.  A document is a configuration when it is a mapping whose keys are texts and settings can
be made from its entries.  Unless there are options among these, only the fields of the environment
count that it does not set.
-/

namespace MessagePlacement

namespace Configuration

/-- The values that count as no document: nothing, what is false or zero, and what is empty. -/
inductive IsVoid : Value → Prop where
  | null : IsVoid .null
  | bool : IsVoid (.bool false)
  | int : IsVoid (.int 0)
  | float (isNegative : Bool) (q : Int) : IsVoid (.float (.finite isNegative 0 q))
  | text : IsVoid (.text "")
  | bytes : IsVoid (.bytes [])
  | list : IsVoid (.list [])
  | mapping : IsVoid (.mapping [])
  | set : IsVoid (.set [])

/-- `DocumentOf lib text v`: a text denotes, in YAML, the document `v`. -/
inductive DocumentOf (lib : Libraries) (text : String) : Value → Prop where
  | value {v : Value} (hlimit : lib.exceeds .yaml text = false) (h : Yaml.parse text = .ok v)
      (hv : ¬ IsVoid v) : DocumentOf lib text v
  | void {v : Value} (hlimit : lib.exceeds .yaml text = false) (h : Yaml.parse text = .ok v)
      (hv : IsVoid v) : DocumentOf lib text (.mapping [])

variable {lib : Libraries} {fs fs' : FileSystem} {env env' : List (String × String)}
  {source text : String} {p : Path} {v : Value} {c : Settings}

/-! ### Names of entries -/

theorem entryName?_eq_some_iff {e : Value × Value} {n : String × Value} :
  entryName? e = some n ↔ e = (.text n.1, n.2)
  := by
  constructor
  · intro h
    simp only [entryName?] at h
    split at h
    · cases h
      rfl
    · cases h
  · rintro rfl
    rfl

theorem mapM_entryName?_eq_some_iff
    {entries : List (Value × Value)} {named : List (String × Value)} :
  entries.mapM entryName? = some named ↔ entries = named.map fun e => (.text e.1, e.2)
  := by
  induction entries generalizing named with
  | nil =>
      rw [List.mapM_nil, eq_comm (a := []), List.map_eq_nil_iff]
      constructor
      · rintro ⟨⟩
        rfl
      · rintro rfl
        rfl
  | cons e entries ih =>
      simp only [List.mapM_cons, Option.bind_eq_bind, Option.bind_eq_some_iff, Option.pure_def,
        Option.some.injEq, entryName?_eq_some_iff, ih]
      rw [eq_comm (a := e :: entries), List.map_eq_cons_iff]
      constructor
      · rintro ⟨n, rfl, ns, rfl, rfl⟩
        exact ⟨n, ns, rfl, rfl, rfl⟩
      · rintro ⟨n, ns, rfl, rfl, rfl⟩
        exact ⟨n, rfl, ns, rfl, rfl⟩

theorem mapM_entryName?_eq_none_iff {entries : List (Value × Value)} :
  entries.mapM entryName? = none ↔ ∃ e ∈ entries, ∀ k, e.1 ≠ .text k
  := by
  induction entries with
  | nil => simp
  | cons e entries ih =>
      rw [List.mapM_cons, List.exists_mem_cons_iff, ← ih]
      cases hname : entryName? e with
      | none =>
          have hkey : ∀ k, e.1 ≠ .text k := by
            intro k hk
            have hsome : entryName? e = some (k, e.2) :=
              entryName?_eq_some_iff.mpr (Prod.ext hk rfl)
            cases hname.symm.trans hsome
          exact iff_of_true rfl (.inl hkey)
      | some n =>
          obtain rfl := entryName?_eq_some_iff.mp hname
          cases entries.mapM entryName? with
          | none => simp
          | some named => simp

/-! ### Documents of files -/

theorem isEmpty_iff :
  v.isEmpty = true ↔ IsVoid v
  := by
  constructor
  · intro h
    unfold Value.isEmpty at h
    split at h
    · exact .null
    · rename_i b
      obtain rfl : b = false := by simpa using h
      exact .bool
    · rename_i n
      obtain rfl : n = 0 := by simpa using h
      exact .int
    · unfold Binary64.isZero at h
      split at h
      · exact .float _ _
      · cases h
    · rename_i s
      obtain rfl : s = "" := by simpa using h
      exact .text
    · rename_i bs
      obtain rfl := List.isEmpty_iff.mp h
      exact .bytes
    · rename_i xs
      obtain rfl := List.isEmpty_iff.mp h
      exact .list
    · rename_i es
      obtain rfl := List.isEmpty_iff.mp h
      exact .mapping
    · rename_i xs
      obtain rfl := List.isEmpty_iff.mp h
      exact .set
    · cases h
  · intro h
    cases h
    all_goals rfl

theorem documentOf_iff :
  DocumentOf lib text v
    ↔ ∃ w, lib.read .yaml Yaml.parse text = .ok w ∧ (if w.isEmpty then .mapping [] else w) = v
  := by
  simp only [Libraries.read_eq_ok_iff]
  constructor
  · rintro (⟨hlimit, h, hv⟩ | ⟨hlimit, h, hv⟩)
    · exact ⟨v, ⟨hlimit, h⟩, if_neg (mt isEmpty_iff.mp hv)⟩
    · exact ⟨_, ⟨hlimit, h⟩, if_pos (isEmpty_iff.mpr hv)⟩
  · rintro ⟨w, ⟨hlimit, h⟩, rfl⟩
    split
    · rename_i hv
      exact .void hlimit h (isEmpty_iff.mp hv)
    · rename_i hv
      exact .value hlimit h (mt isEmpty_iff.mpr hv)

theorem document_eq_ok_iff :
  document lib fs source p = .ok v ↔ ∃ text, fs.HasText p text ∧ DocumentOf lib text v
  := by
  simp only [documentOf_iff]
  constructor
  · intro h
    rw [document] at h
    split at h
    · cases h
    · cases h
    · split at h
      · cases h
      · split at h
        · cases h
        · cases h
        · exact ⟨_, ⟨_, ‹_›, ‹_›⟩, _, ‹_›, Except.ok.inj h⟩
  · rintro ⟨text, ⟨content, hread, htext⟩, w, hvalue, rfl⟩
    simp only [document, hread, htext, hvalue]

/-! ### Settings of documents -/

/-- There are settings exactly when a document is a mapping with texts as keys and settings can be
made from its entries. -/
theorem build_eq_ok_iff :
  build lib fs env source v = .ok c
    ↔ ∃ named, v = .mapping (named.map fun e => (.text e.1, e.2))
      ∧ lib.settings fs named env = .ok c
  := by
  constructor
  · intro h
    rw [build.eq_def] at h
    split at h
    · split at h
      · cases h
      · rename_i hnamed
        rw [mapError_eq_ok_iff] at h
        exact ⟨_, congrArg _ (mapM_entryName?_eq_some_iff.mp hnamed), h⟩
    · cases h
  · rintro ⟨named, rfl, h⟩
    simp only [build, mapM_entryName?_eq_some_iff.mpr rfl, h]
    rfl

/-- The use of a document ends with a fault exactly when it is a mapping with a key that is no text,
or one from whose entries the making of settings ends so. -/
theorem exists_build_fault_iff :
  (∃ f, build lib fs env source v = .error (.fault f))
    ↔ (∃ entries, v = .mapping entries ∧ ∃ e ∈ entries, ∀ k, e.1 ≠ .text k)
      ∨ ∃ named, v = .mapping (named.map fun e => (.text e.1, e.2))
        ∧ lib.SettingsFault fs named env
  := by
  simp only [← Libraries.exists_settings_fault_iff, ← mapM_entryName?_eq_none_iff]
  constructor
  · rintro ⟨f, h⟩
    rw [build.eq_def] at h
    split at h
    · split at h
      · rename_i hnone
        exact .inl ⟨_, rfl, hnone⟩
      · rename_i named hnamed
        obtain ⟨e, hsettings, he⟩ := mapError_eq_error_iff.mp h
        refine .inr ⟨named, congrArg _ (mapM_entryName?_eq_some_iff.mp hnamed), ?_⟩
        split at he
        · cases he
        · exact ⟨_, hsettings⟩
    · cases h
  · rintro (⟨entries, rfl, hnone⟩ | ⟨named, rfl, f, hsettings⟩)
    · exact ⟨.wrongType, by simp only [build, hnone]⟩
    · use f
      simp only [build, mapM_entryName?_eq_some_iff.mpr rfl, hsettings]
      rfl

/-- Without options, what is made of a document depends on the environment only in the fields that
it does not set. -/
theorem build_congr
    (hplain : ∀ entries k w, v = .mapping entries → (.text k, w) ∈ entries →
      lib.isOption k = false)
    (h : ∀ field ∈ Settings.fieldNames,
      (∀ entries k w, v = .mapping entries → (.text k, w) ∈ entries → Text.lower k ≠ field) →
      Settings.environment? field env' = Settings.environment? field env) :
  build lib fs' env' source v = build lib fs env source v
  := by
  rw [build.eq_def, build.eq_def lib fs env]
  split
  · rename_i entries
    split
    · rfl
    · rename_i named hnamed
      obtain rfl := mapM_entryName?_eq_some_iff.mp hnamed
      have hentry : ∀ e ∈ named, (Value.text e.1, e.2) ∈ named.map fun e => (.text e.1, e.2) :=
        fun e he => List.mem_map_of_mem he
      have hoption : ¬ lib.HasOption named := by
        rintro ⟨e, he, hoption⟩
        rw [hplain _ _ _ rfl (hentry e he)] at hoption
        cases hoption
      rw [Libraries.settings_congr hoption]
      intro field hfield hnone
      apply h field hfield
      rintro _ k w ⟨⟩ hmem
      obtain ⟨e, he, hkw⟩ := List.mem_map.mp hmem
      cases hkw
      exact Settings.named?_eq_none_iff.mp hnone e he
  · rfl

end Configuration

end MessagePlacement
