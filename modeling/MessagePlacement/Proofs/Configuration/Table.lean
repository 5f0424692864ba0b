import MessagePlacement.Proofs.Configuration.Document
import MessagePlacement.Proofs.Segments
import MessagePlacement.Proofs.Toml.Keys

/-!
# The table of a project

A project file is read in TOML.  Under its tools there is a table of this program, or there is not,
or the tools are misread: they are no table at all, and yet the name of the table is looked for in
them as in one.
-/

namespace MessagePlacement

namespace Configuration

/-- `HoldsTable entries v`: a project has `v` under the name of this program in the table of its
tools. -/
def HoldsTable (entries : List (Value × Value)) (v : Value) : Prop :=
  ∃ tools, Value.get? "tool" entries = some (.mapping tools)
    ∧ Value.get? "protolayout" tools = some v

/-- That a project has no tools, or nothing under the name of this program in them, be they a table
or a text or list in which the name is looked for all the same. -/
inductive LacksTable (entries : List (Value × Value)) : Prop where
  | noTools (h : Value.get? "tool" entries = none) : LacksTable entries
  | table {tools : List (Value × Value)} (h : Value.get? "tool" entries = some (.mapping tools))
      (hnone : Value.get? "protolayout" tools = none) : LacksTable entries
  | text {s : String} (h : Value.get? "tool" entries = some (.text s))
      (hs : ¬ "protolayout".toList <:+: s.toList) : LacksTable entries
  | list {xs : List Value} (h : Value.get? "tool" entries = some (.list xs))
      (hxs : .text "protolayout" ∉ xs) : LacksTable entries

/-- The values that cannot be the tools of a project, although this is not noticed: texts and lists
with the name of this program, and whatever is neither of these nor a table. -/
inductive IsMisread : Value → Prop where
  | text {s : String} (h : "protolayout".toList <:+: s.toList) : IsMisread (.text s)
  | list {xs : List Value} (h : .text "protolayout" ∈ xs) : IsMisread (.list xs)
  | other {v : Value} (htext : ∀ s, v ≠ .text s) (hlist : ∀ xs, v ≠ .list xs)
      (hmapping : ∀ es, v ≠ .mapping es) : IsMisread v

variable {lib : Libraries} {fs : FileSystem} {p : Path} {v : Value} {s text : String}
  {xs : List Value} {entries : List (Value × Value)}

/-! ### The tools of a project -/

/-- The table of this program in the tools of a project, for the entries of a whole document. -/
def tableOf (entries : List (Value × Value)) : Except Fault (Option Value) :=
  toolTable? ((Value.get? "tool" entries).getD (.mapping []))

/-- The name of the table is in a text exactly if there are parts around it. -/
theorem length_parts_tableName_iff :
  (Text.parts tableName s).length = 1 ↔ ¬ "protolayout".toList <:+: s.toList
  := Text.length_parts_eq_one_iff (by decide) s

theorem any_sameKey_tableName_iff :
  xs.any (·.sameKey (.text tableName)) = true ↔ .text "protolayout" ∈ xs
  := by
  rw [List.any_eq_true]
  simp only [Value.sameKey_text_iff]
  exact exists_eq_right

theorem tableOf_eq_some_iff :
  tableOf entries = .ok (some v) ↔ HoldsTable entries v
  := by
  rw [tableOf, HoldsTable]
  cases Value.get? "tool" entries with
  | none =>
      apply iff_of_false
      · nofun
      · nofun
  | some tools =>
      rw [Option.getD_some, toolTable?.eq_def]
      split
      · simp [tableName]
      · split
        · simp
        · simp
      · split
        · simp
        · simp
      · rename_i hmapping _ _
        apply iff_of_false
        · nofun
        · rintro ⟨tools, ⟨⟩, -⟩
          exact hmapping _ rfl

theorem tableOf_eq_none_iff :
  tableOf entries = .ok none ↔ LacksTable entries
  := by
  rw [tableOf]
  constructor
  · intro h
    cases htools : Value.get? "tool" entries with
    | none => exact .noTools htools
    | some tools =>
        rw [htools, Option.getD_some, toolTable?.eq_def] at h
        split at h
        · exact .table htools (Except.ok.inj h)
        · split at h
          · rename_i hparts
            exact .text htools (length_parts_tableName_iff.mp hparts)
          · cases h
        · split at h
          · cases h
          · rename_i hany
            exact .list htools (mt any_sameKey_tableName_iff.mpr hany)
        · cases h
  · intro h
    cases h with
    | noTools h =>
        rw [h]
        rfl
    | table h hnone =>
        rw [h]
        exact congrArg _ hnone
    | text h hs =>
        rw [h]
        exact if_pos (length_parts_tableName_iff.mpr hs)
    | list h hxs =>
        rw [h]
        exact if_neg (mt any_sameKey_tableName_iff.mp hxs)

theorem exists_tableOf_error_iff :
  (∃ f, tableOf entries = .error f)
    ↔ ∃ tools, Value.get? "tool" entries = some tools ∧ IsMisread tools
  := by
  rw [tableOf]
  constructor
  · rintro ⟨f, h⟩
    cases htools : Value.get? "tool" entries with
    | none =>
        rw [htools] at h
        cases h
    | some tools =>
        refine ⟨tools, rfl, ?_⟩
        rw [htools, Option.getD_some, toolTable?.eq_def] at h
        split at h
        · cases h
        · split at h
          · cases h
          · rename_i hparts
            rw [length_parts_tableName_iff, not_not] at hparts
            exact .text hparts
        · split at h
          · rename_i hany
            exact .list (any_sameKey_tableName_iff.mp hany)
          · cases h
        · rename_i hmapping htext hlist
          exact .other htext hlist hmapping
  · rintro ⟨tools, htools, h⟩
    refine ⟨.wrongType, ?_⟩
    rw [htools, Option.getD_some]
    cases h with
    | text h =>
        apply if_neg
        rwa [length_parts_tableName_iff, not_not]
    | list h => exact if_pos (any_sameKey_tableName_iff.mpr h)
    | other htext hlist hmapping =>
        rw [toolTable?.eq_def]
        split
        · exact absurd rfl (hmapping _)
        · exact absurd rfl (htext _)
        · exact absurd rfl (hlist _)
        · rfl

/-! ### The table of a project file -/

theorem projectTable?_eq_ok_iff {table : Option Value} :
  projectTable? lib fs p = .ok table
    ↔ ∃ text entries, fs.HasText p text ∧ lib.exceeds .toml text = false
      ∧ Toml.parse text = .ok entries ∧ tableOf entries = .ok table
  := by
  constructor
  · intro h
    rw [projectTable?] at h
    split at h
    · cases h
    · rename_i content hread
      split at h
      · cases h
      · rename_i text htext
        split at h
        · cases h
        · cases h
        · rename_i entries hentries
          obtain ⟨hlimit, hparse⟩ := Libraries.read_eq_ok_iff.mp hentries
          exact ⟨text, entries, ⟨content, hread, htext⟩, hlimit, hparse, mapError_eq_ok_iff.mp h⟩
  · rintro ⟨text, entries, ⟨content, hread, htext⟩, hlimit, hparse, htable⟩
    have hentries : lib.read .toml Toml.parse text = .ok entries :=
      Libraries.read_eq_ok_iff.mpr ⟨hlimit, hparse⟩
    simp only [projectTable?, hread, htext, hentries]
    exact mapError_eq_ok_iff.mpr htable

/-- What is wrong with what a project file holds, without its being refused. -/
inductive IsFaultyTable (lib : Libraries) (fs : FileSystem) (p : Path) : Prop where
  | directory (hpresent : fs.isPresent p = .ok true) (h : fs.read p = .error .isADirectory) :
      IsFaultyTable lib fs p
  | bytes {content : ByteArray} (hread : fs.read p = .ok content)
      (h : Text.readLines? content = none) : IsFaultyTable lib fs p
  | limit {text : String} (htext : fs.HasText p text) (h : lib.exceeds .toml text = true) :
      IsFaultyTable lib fs p
  | value {text : String} {f : Fault} (htext : fs.HasText p text)
      (hlimit : lib.exceeds .toml text = false) (h : Toml.parse text = .error (.fault f)) :
      IsFaultyTable lib fs p
  | tools {text : String} {entries : List (Value × Value)} {tools : Value}
      (htext : fs.HasText p text) (hlimit : lib.exceeds .toml text = false)
      (h : Toml.parse text = .ok entries) (htools : Value.get? "tool" entries = some tools)
      (hmisread : IsMisread tools) : IsFaultyTable lib fs p

theorem IsFaultyTable.isPresent (h : IsFaultyTable lib fs p) :
  fs.isPresent p = .ok true
  := by
  cases h with
  | directory hpresent => exact hpresent
  | bytes hread => exact FileSystem.isPresent_of_read hread
  | limit htext => exact htext.isPresent
  | value htext => exact htext.isPresent
  | tools htext => exact htext.isPresent

/-- Looking for a table ends with a fault exactly when the project file is a directory, its bytes
are no text, the text exceeds a limit or has a value that cannot be made, or the tools in it are
misread. -/
theorem exists_projectTable?_fault_iff (hpresent : fs.isPresent p = .ok true) :
  (∃ f, projectTable? lib fs p = .error (.fault f)) ↔ IsFaultyTable lib fs p
  := by
  constructor
  · rintro ⟨f, h⟩
    rw [projectTable?] at h
    split at h
    · rename_i e hread
      rcases FileSystem.read_of_isPresent hpresent with ⟨content, hcontent⟩ | hdirectory
      · cases hread.symm.trans hcontent
      · exact .directory hpresent hdirectory
    · rename_i content hread
      split at h
      · rename_i htext
        exact .bytes hread htext
      · rename_i text htext
        split at h
        · cases h
        · rename_i f' hfault
          rcases Libraries.read_eq_fault_iff.mp hfault with ⟨hlimit, -⟩ | ⟨hlimit, hparse⟩
          · exact .limit ⟨content, hread, htext⟩ hlimit
          · exact .value ⟨content, hread, htext⟩ hlimit hparse
        · rename_i entries hentries
          obtain ⟨hlimit, hparse⟩ := Libraries.read_eq_ok_iff.mp hentries
          obtain ⟨f', htable, -⟩ := mapError_eq_error_iff.mp h
          obtain ⟨tools, htools, hmisread⟩ := exists_tableOf_error_iff.mp ⟨f', htable⟩
          exact .tools ⟨content, hread, htext⟩ hlimit hparse htools hmisread
  · intro h
    cases h with
    | directory _ h => exact ⟨.file .isADirectory p, by simp only [projectTable?, h]⟩
    | bytes hread h => exact ⟨.undecodable, by simp only [projectTable?, hread, h]⟩
    | limit htext h =>
        obtain ⟨content, hread, htext⟩ := htext
        have hfault : lib.read .toml Toml.parse _ = .error (.fault .limit) :=
          Libraries.read_eq_fault_iff.mpr (.inl ⟨h, rfl⟩)
        exact ⟨.limit, by simp only [projectTable?, hread, htext, hfault]⟩
    | value htext hlimit h =>
        obtain ⟨content, hread, htext⟩ := htext
        have hfault := Libraries.read_eq_fault_iff.mpr (.inr ⟨hlimit, h⟩)
        rename_i f
        exact ⟨f, by simp only [projectTable?, hread, htext, hfault]⟩
    | tools htext hlimit h htools hmisread =>
        obtain ⟨content, hread, htext⟩ := htext
        obtain ⟨f, htable⟩ := exists_tableOf_error_iff.mpr ⟨_, htools, hmisread⟩
        have hentries := Libraries.read_eq_ok_iff.mpr ⟨hlimit, h⟩
        use f
        simp only [projectTable?, hread, htext, hentries]
        exact mapError_eq_error_iff.mpr ⟨f, htable, rfl⟩

/-- The keys of the table in a project file are texts. -/
theorem hasTextKeys_of_holdsTable (h : Toml.parse text = .ok entries)
    (hv : HoldsTable entries v) :
  v.HasTextKeys
  := by
  obtain ⟨tools, htools, hv⟩ := hv
  exact ((Toml.hasTextKeys_of_parse h).of_get? htools).of_get? hv

end Configuration

end MessagePlacement
