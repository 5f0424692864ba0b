import MessagePlacement.Proofs.Configuration.Precedence

/-!
# Configurations that are not refused

A search for the configuration either gives settings or refuses a configuration, unless the selected
source is faulty: its path cannot be looked up, its bytes are no text, its text exceeds a limit or
has a value that cannot be made, a key of its document is no text, the project file is a directory,
the tools in it are no table and yet are taken to hold one, or the making of settings ends with a
fault.
-/

namespace MessagePlacement

namespace Configuration

/-- What is wrong with a document without its being refused as a configuration. -/
inductive IsFaultyDocument (lib : Libraries) (fs : FileSystem) (env : List (String × String)) :
    Value → Prop where
  | key {entries : List (Value × Value)} {e : Value × Value} (he : e ∈ entries)
      (hkey : ∀ k, e.1 ≠ .text k) : IsFaultyDocument lib fs env (.mapping entries)
  | settings {named : List (String × Value)} (h : lib.SettingsFault fs named env) :
      IsFaultyDocument lib fs env (.mapping (named.map fun e => (.text e.1, e.2)))

/-- What is wrong with a file at a path without its being refused as a configuration.  It is not
half of a surrogate pair, which is no text of a value. -/
inductive IsFaultyFile (lib : Libraries) (fs : FileSystem) (env : List (String × String))
    (p : Path) : Prop where
  | presence (h : fs.isPresent p = .error .nameTooLong) : IsFaultyFile lib fs env p
  | bytes {content : ByteArray} (hread : fs.read p = .ok content)
      (h : Text.readLines? content = none) : IsFaultyFile lib fs env p
  | limit {text : String} (htext : fs.HasText p text) (h : lib.exceeds .yaml text = true) :
      IsFaultyFile lib fs env p
  | value {text : String} {f : Fault} (htext : fs.HasText p text)
      (hlimit : lib.exceeds .yaml text = false) (h : Yaml.parse text = .error (.fault f))
      (hf : f ≠ .halfPair) : IsFaultyFile lib fs env p
  | document {text : String} {v : Value} (htext : fs.HasText p text) (hv : DocumentOf lib text v)
      (h : IsFaultyDocument lib fs env v) : IsFaultyFile lib fs env p

/-- What is wrong with a project file without its being refused as a configuration.  The keys of a
table in it are texts. -/
inductive IsFaultyProject (lib : Libraries) (fs : FileSystem) (env : List (String × String))
    (p : Path) : Prop where
  | presence (h : fs.isPresent p = .error .nameTooLong) : IsFaultyProject lib fs env p
  | table (h : IsFaultyTable lib fs p) : IsFaultyProject lib fs env p
  | settings {text : String} {entries : List (Value × Value)} {named : List (String × Value)}
      (htext : fs.HasText p text) (hlimit : lib.exceeds .toml text = false)
      (h : Toml.parse text = .ok entries)
      (hv : HoldsTable entries (.mapping (named.map fun e => (.text e.1, e.2))))
      (hfault : lib.SettingsFault fs named env) : IsFaultyProject lib fs env p

/-- `IsFaulty lib fs env s`: something is wrong with a source without its being refused. -/
inductive IsFaulty (lib : Libraries) (fs : FileSystem) (env : List (String × String)) :
    Source → Prop where
  | given {path : String} (h : IsFaultyFile lib fs env (.ofText path)) :
      IsFaulty lib fs env (.given path)
  | default {name : String} (h : IsFaultyFile lib fs env (localPath fs name)) :
      IsFaulty lib fs env (.default name)
  | project (h : IsFaultyProject lib fs env (localPath fs "pyproject.toml")) :
      IsFaulty lib fs env .project
  | nothing (h : lib.SettingsFault fs [] env) : IsFaulty lib fs env .nothing

/-- That an operation ends with a fault. -/
def EndsInFault {α : Type} (x : Except (Failure ConfigurationError) α) : Prop :=
  ∃ f, x = .error (.fault f)

section Outcomes

variable {α β : Type} {x : Except (Failure ConfigurationError) α}

/-- An operation that does not end with a fault gives a value or is refused. -/
theorem not_endsInFault_iff :
  ¬ EndsInFault x ↔ (∃ a, x = .ok a) ∨ ∃ e, x = .error (.refused e)
  := by
  constructor
  · intro h
    cases x with
    | ok a => exact .inl ⟨a, rfl⟩
    | error failure =>
        cases failure with
        | refused e => exact .inr ⟨e, rfl⟩
        | fault f => exact absurd ⟨f, rfl⟩ h
  · rintro (⟨a, rfl⟩ | ⟨e, rfl⟩) ⟨f, ⟨⟩⟩

theorem endsInFault_bind_iff {g : α → Except (Failure ConfigurationError) β} :
  EndsInFault (x >>= g) ↔ EndsInFault x ∨ ∃ a, x = .ok a ∧ EndsInFault (g a)
  := by
  simp only [EndsInFault, bind_eq_error_iff]
  constructor
  · rintro ⟨f, hx | ⟨a, hx, hg⟩⟩
    · exact .inl ⟨f, hx⟩
    · exact .inr ⟨a, hx, f, hg⟩
  · rintro (⟨f, hx⟩ | ⟨a, hx, f, hg⟩)
    · exact ⟨f, .inl hx⟩
    · exact ⟨f, .inr ⟨a, hx, hg⟩⟩

end Outcomes

section Parts

variable {lib : Libraries} {fs : FileSystem} {env : List (String × String)} {source : String}
  {p : Path} {v : Value}

theorem endsInFault_isPresent_iff :
  EndsInFault (isPresent fs p) ↔ fs.isPresent p = .error .nameTooLong
  := by
  simp only [EndsInFault, isPresent, mapError_eq_error_iff]
  constructor
  · rintro ⟨f, e, h, -⟩
    rwa [FileSystem.eq_nameTooLong_of_isPresent h] at h
  · intro h
    exact ⟨_, _, h, rfl⟩

theorem endsInFault_build_iff :
  EndsInFault (build lib fs env source v) ↔ IsFaultyDocument lib fs env v
  := by
  rw [EndsInFault, exists_build_fault_iff]
  constructor
  · rintro (⟨entries, rfl, e, he, hkey⟩ | ⟨named, rfl, h⟩)
    · exact .key he hkey
    · exact .settings h
  · rintro (⟨he, hkey⟩ | ⟨h⟩)
    · exact .inl ⟨_, rfl, _, he, hkey⟩
    · exact .inr ⟨_, rfl, h⟩

/-- Reading a document ends with a fault when its bytes are no text, this exceeds a limit, or a
value in it cannot be made. -/
theorem endsInFault_document_iff (hpresent : fs.isPresent p = .ok true) :
  EndsInFault (document lib fs source p)
    ↔ (∃ content, fs.read p = .ok content ∧ Text.readLines? content = none)
      ∨ ∃ text, fs.HasText p text ∧ (lib.exceeds .yaml text = true
        ∨ lib.exceeds .yaml text = false ∧ ∃ f, Yaml.parse text = .error (.fault f))
  := by
  constructor
  · rintro ⟨f, h⟩
    rw [document] at h
    split at h
    · rename_i hread
      rcases FileSystem.read_of_isPresent hpresent with ⟨content, hcontent⟩ | hdirectory
      · cases hread.symm.trans hcontent
      · cases hread.symm.trans hdirectory
    · cases h
    · rename_i content hread
      split at h
      · exact .inl ⟨content, hread, ‹_›⟩
      · rename_i text htext
        refine .inr ⟨text, ⟨content, hread, htext⟩, ?_⟩
        split at h
        · cases h
        · rename_i f' hfault
          rcases Libraries.read_eq_fault_iff.mp hfault with ⟨hlimit, -⟩ | ⟨hlimit, hparse⟩
          · exact .inl hlimit
          · exact .inr ⟨hlimit, _, hparse⟩
        · cases h
  · rintro (⟨content, hread, htext⟩ | ⟨text, ⟨content, hread, htext⟩, h⟩)
    · exact ⟨.undecodable, by simp only [document, hread, htext]⟩
    · have hfault : ∃ f, lib.read .yaml Yaml.parse text = .error (.fault f) := by
        rcases h with hlimit | ⟨hlimit, f, hparse⟩
        · exact ⟨.limit, Libraries.read_eq_fault_iff.mpr (.inl ⟨hlimit, rfl⟩)⟩
        · exact ⟨f, Libraries.read_eq_fault_iff.mpr (.inr ⟨hlimit, hparse⟩)⟩
      obtain ⟨f, hfault⟩ := hfault
      exact ⟨f, by simp only [document, hread, htext, hfault]⟩

theorem endsInFault_file_of_isPresent (hpresent : fs.isPresent p = .ok true) :
  EndsInFault (fileContent lib fs source p >>= build lib fs env source)
    ↔ EndsInFault (document lib fs source p)
      ∨ ∃ text v, fs.HasText p text ∧ DocumentOf lib text v ∧ IsFaultyDocument lib fs env v
  := by
  rw [fileContent_of_isPresent hpresent, endsInFault_bind_iff]
  simp only [endsInFault_build_iff, document_eq_ok_iff]
  constructor
  · rintro (h | ⟨v, ⟨text, htext, hv⟩, hfaulty⟩)
    · exact .inl h
    · exact .inr ⟨text, v, htext, hv, hfaulty⟩
  · rintro (h | ⟨text, v, htext, hv, hfaulty⟩)
    · exact .inl h
    · exact .inr ⟨v, ⟨text, htext, hv⟩, hfaulty⟩

/-- The use of a YAML file ends with a fault exactly when the file is faulty. -/
theorem endsInFault_file_iff
    (hpair : ∀ text, fs.HasText p text → Yaml.parse text ≠ .error (.fault .halfPair)) :
  EndsInFault (fileContent lib fs source p >>= build lib fs env source)
    ↔ IsFaultyFile lib fs env p
  := by
  constructor
  · intro h
    cases hpresent : fs.isPresent p with
    | error e => exact .presence (FileSystem.eq_nameTooLong_of_isPresent hpresent ▸ hpresent)
    | ok present =>
        cases present with
        | false =>
            rw [bind_fileContent, isPresent_eq_ok_iff.mpr hpresent] at h
            obtain ⟨f, ⟨⟩⟩ := h
        | true =>
            rw [endsInFault_file_of_isPresent hpresent, endsInFault_document_iff hpresent] at h
            rcases h with (⟨content, hread, h⟩ | ⟨text, htext, hlimit | ⟨hlimit, f, h⟩⟩)
              | ⟨text, v, htext, hv, h⟩
            · exact .bytes hread h
            · exact .limit htext hlimit
            · exact .value htext hlimit h fun hf => hpair text htext (hf ▸ h)
            · exact .document htext hv h
  · intro h
    cases h with
    | presence h =>
        rw [bind_fileContent, endsInFault_bind_iff]
        exact .inl (endsInFault_isPresent_iff.mpr h)
    | bytes hread h =>
        have hpresent := FileSystem.isPresent_of_read hread
        rw [endsInFault_file_of_isPresent hpresent, endsInFault_document_iff hpresent]
        exact .inl (.inl ⟨_, hread, h⟩)
    | limit htext h =>
        rw [endsInFault_file_of_isPresent htext.isPresent, endsInFault_document_iff htext.isPresent]
        exact .inl (.inr ⟨_, htext, .inl h⟩)
    | value htext hlimit h hf =>
        rw [endsInFault_file_of_isPresent htext.isPresent, endsInFault_document_iff htext.isPresent]
        exact .inl (.inr ⟨_, htext, .inr ⟨hlimit, _, h⟩⟩)
    | document htext hv h =>
        rw [endsInFault_file_of_isPresent htext.isPresent]
        exact .inr ⟨_, _, htext, hv, h⟩

/-- A document with texts as keys is faulty only in the making of settings. -/
theorem isFaultyDocument_iff_of_hasTextKeys (h : v.HasTextKeys) :
  IsFaultyDocument lib fs env v
    ↔ ∃ named, v = .mapping (named.map fun e => (.text e.1, e.2))
      ∧ lib.SettingsFault fs named env
  := by
  constructor
  · rintro (⟨he, hkey⟩ | ⟨hfault⟩)
    · obtain ⟨k, hk⟩ := h.exists_key_eq he
      exact absurd hk (hkey k)
    · exact ⟨_, rfl, hfault⟩
  · rintro ⟨named, rfl, hfault⟩
    exact .settings hfault

theorem endsInFault_projectContent_iff :
  EndsInFault (projectContent lib fs)
    ↔ fs.isPresent (localPath fs projectName) = .error .nameTooLong
      ∨ IsFaultyTable lib fs (localPath fs projectName)
  := by
  have htable (hpresent : fs.isPresent (localPath fs projectName) = .ok true) :
      EndsInFault (projectTable? lib fs (localPath fs projectName) >>= fun table =>
        pure (table.getD (.mapping [])))
        ↔ IsFaultyTable lib fs (localPath fs projectName) := by
    rw [endsInFault_bind_iff, EndsInFault, exists_projectTable?_fault_iff hpresent, or_iff_left]
    rintro ⟨table, -, f, ⟨⟩⟩
  rw [projectContent, endsInFault_bind_iff, endsInFault_isPresent_iff]
  apply or_congr_right
  constructor
  · rintro ⟨_ | _, hpresent, h⟩
    · obtain ⟨f, ⟨⟩⟩ := h
    · exact (htable (isPresent_eq_ok_iff.mp hpresent)).mp h
  · intro h
    exact ⟨true, isPresent_eq_ok_iff.mpr h.isPresent, (htable h.isPresent).mpr h⟩

/-- The use of a project file with a table ends with a fault exactly when the file is faulty. -/
theorem endsInFault_project_iff (hnone : ¬ HasNoTable lib fs) :
  EndsInFault (projectContent lib fs >>= build lib fs env source)
    ↔ IsFaultyProject lib fs env (localPath fs "pyproject.toml")
  := by
  rw [endsInFault_bind_iff, endsInFault_projectContent_iff]
  simp only [endsInFault_build_iff, projectContent_eq_ok_iff hnone]
  constructor
  · rintro ((h | h) | ⟨v, hv, hfaulty⟩)
    · exact .presence h
    · exact .table h
    · cases hv with
      | project htext hlimit hparse hv =>
          have hkeys := hasTextKeys_of_holdsTable hparse hv
          obtain ⟨named, rfl, hfault⟩ := (isFaultyDocument_iff_of_hasTextKeys hkeys).mp hfaulty
          exact .settings htext hlimit hparse hv hfault
  · intro h
    cases h with
    | presence h => exact .inl (.inl h)
    | table h => exact .inl (.inr h)
    | settings htext hlimit hparse hv hfault =>
        exact .inr ⟨_, .project htext hlimit hparse hv, .settings hfault⟩

/-- The use of the environment alone ends with a fault exactly when the making of settings does. -/
theorem endsInFault_nothing_iff :
  EndsInFault (build lib fs env source (.mapping [])) ↔ lib.SettingsFault fs [] env
  := by
  rw [endsInFault_build_iff, isFaultyDocument_iff_of_hasTextKeys Value.hasTextKeys_empty]
  constructor
  · rintro ⟨named, hnamed, h⟩
    obtain rfl := List.map_eq_nil_iff.mp (Value.mapping.inj hnamed).symm
    exact h
  · intro h
    exact ⟨[], rfl, h⟩

/-- The use of a selected source ends with a fault exactly when the source is faulty. -/
theorem endsInFault_use_iff {path : Option String} {s : Source} (hs : Selects lib fs path s)
    (hpair : ¬ HasHalfPair fs s) :
  EndsInFault (s.content lib fs >>= build lib fs env (s.name fs)) ↔ IsFaulty lib fs env s
  := by
  cases hs with
  | given hpath hne =>
      rw [Source.content, Source.name,
        endsInFault_file_iff fun text htext h => hpair (.given htext h)]
      constructor
      · exact .given
      · intro h
        cases h with
        | given h => exact h
  | default hpath hnames hbefore hname =>
      rw [Source.content, Source.name,
        endsInFault_file_iff fun text htext h => hpair (.default htext h)]
      constructor
      · exact .default
      · intro h
        cases h with
        | default h => exact h
  | project hpath hdefaults htable =>
      rw [Source.content, endsInFault_project_iff htable]
      constructor
      · exact .project
      · intro h
        cases h with
        | project h => exact h
  | nothing hpath hdefaults htable =>
      refine endsInFault_nothing_iff.trans ?_
      constructor
      · exact .nothing
      · intro h
        cases h with
        | nothing h => exact h

end Parts

/-- A search for the configuration gives settings or refuses a configuration exactly when the
selected source, in which there is no half of a surrogate pair, is not faulty. -/
theorem find_answers_iff
    (lib : Libraries) (fs : FileSystem) (env : List (String × String)) (path : Option String)
    (hpairs : ∀ s, Selects lib fs path s → ¬ HasHalfPair fs s) :
  ((∃ c, find lib fs env path = .ok c) ∨ ∃ e, find lib fs env path = .error (.refused e))
    ↔ ∀ s, Selects lib fs path s → ¬ IsFaulty lib fs env s
  := by
  obtain ⟨s, hs⟩ := exists_selects lib fs path
  rw [← not_endsInFault_iff, find_of_selects hs, endsInFault_use_iff hs (hpairs s hs)]
  constructor
  · intro h s' hs'
    obtain rfl := hs.unique hs'
    exact h
  · intro h
    exact h s hs

/-- The source of settings that are found is not faulty. -/
theorem find_answers_iff_shadowedProject :
  (∀ s, Selects .standard (shadowedProject .directory) none s →
    ¬ HasHalfPair (shadowedProject .directory) s)
    ∧ (∃ c, find .standard (shadowedProject .directory) [] none = .ok c)
    ∧ ∀ s, Selects .standard (shadowedProject .directory) none s →
      ¬ IsFaulty .standard (shadowedProject .directory) [] s
  := by
  have hpairs : ∀ s, Selects .standard (shadowedProject .directory) none s →
      ¬ HasHalfPair (shadowedProject .directory) s := by
    intro s hs
    obtain rfl := (selects_shadowedProject .directory).unique hs
    exact (isOrdinary_shadowedProject .directory).hasNoHalfPair
  have hok : find .standard (shadowedProject .directory) [] none
      = .ok { output := some "layout.json" } := by decide +kernel
  have hanswers := find_answers_iff .standard (shadowedProject .directory) [] none hpairs
  exact ⟨hpairs, ⟨_, hok⟩, hanswers.mp (.inl ⟨_, hok⟩)⟩

/-- A working directory with a configuration of a single byte, which is no text. -/
def undecodableFile : FileSystem :=
  ⟨[(["work"], .directory), (["work", "protolayout.yaml"], .file ⟨#[0xFF]⟩)], ["work"]⟩

/-- Bytes that are no text are met with a fault: there are no settings, and no refusal either. -/
theorem not_answers_undecodableFile :
  ¬ ((∃ c, find .standard undecodableFile [] none = .ok c)
    ∨ ∃ e, find .standard undecodableFile [] none = .error (.refused e))
  := by
  have hfault : find .standard undecodableFile [] none = .error (.fault .undecodable) := by
    decide +kernel
  rw [hfault]
  nofun

end Configuration

end MessagePlacement
