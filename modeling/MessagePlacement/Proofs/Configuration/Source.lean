import MessagePlacement.Proofs.Configuration.Table

/-!
# The source of a configuration

A configuration comes from exactly one source: the file at the given path if there is a path, or
else the first default file that exists, or else the table of this program in the project file, or
else no file.  What a search ends with is decided by the document that this source supplies, or by
why it supplies none, and by the environment.
-/

namespace MessagePlacement

namespace Configuration

/-- Where a configuration comes from. -/
inductive Source where
  | given (path : String)
  | default (name : String)
  | project
  | nothing

/-- That a path leads to nothing. -/
def IsAbsent (fs : FileSystem) (p : Path) : Prop :=
  fs.isPresent p = .ok false

/-- That there is no project file, or no table of this program in it. -/
inductive HasNoTable (lib : Libraries) (fs : FileSystem) : Prop where
  | absent (h : IsAbsent fs (localPath fs "pyproject.toml")) : HasNoTable lib fs
  | lacking {text : String} {entries : List (Value × Value)}
      (htext : fs.HasText (localPath fs "pyproject.toml") text)
      (hlimit : lib.exceeds .toml text = false) (h : Toml.parse text = .ok entries)
      (hlacks : LacksTable entries) : HasNoTable lib fs

/-- `Selects lib fs path s`: a configuration comes from `s`, the first of the sources that there is.
A file or a table is there unless it is known not to be. -/
inductive Selects (lib : Libraries) (fs : FileSystem) (path : Option String) : Source → Prop where
  | given {p : String} (hpath : path = some p) (hne : p ≠ "") : Selects lib fs path (.given p)
  | default {before after : List String} {name : String} (hpath : path.getD "" = "")
      (hnames : ["protolayout.yaml", "protolayout.yml"] = before ++ name :: after)
      (hbefore : ∀ n ∈ before, IsAbsent fs (localPath fs n))
      (hname : ¬ IsAbsent fs (localPath fs name)) : Selects lib fs path (.default name)
  | project (hpath : path.getD "" = "")
      (hdefaults : ∀ n ∈ ["protolayout.yaml", "protolayout.yml"], IsAbsent fs (localPath fs n))
      (htable : ¬ HasNoTable lib fs) : Selects lib fs path .project
  | nothing (hpath : path.getD "" = "")
      (hdefaults : ∀ n ∈ ["protolayout.yaml", "protolayout.yml"], IsAbsent fs (localPath fs n))
      (htable : HasNoTable lib fs) : Selects lib fs path .nothing

/-- `Supplies lib fs s v`: a source has the document `v`, which is the one that the text of its file
denotes, or the table of this program in it.  Without a file there is a mapping without entries. -/
inductive Supplies (lib : Libraries) (fs : FileSystem) : Source → Value → Prop where
  | given {path text : String} {v : Value} (htext : fs.HasText (.ofText path) text)
      (hv : DocumentOf lib text v) : Supplies lib fs (.given path) v
  | default {name text : String} {v : Value} (htext : fs.HasText (localPath fs name) text)
      (hv : DocumentOf lib text v) : Supplies lib fs (.default name) v
  | project {text : String} {entries : List (Value × Value)} {v : Value}
      (htext : fs.HasText (localPath fs "pyproject.toml") text)
      (hlimit : lib.exceeds .toml text = false) (h : Toml.parse text = .ok entries)
      (hv : HoldsTable entries v) : Supplies lib fs .project v
  | nothing : Supplies lib fs .nothing (.mapping [])

/-- `HasHalfPair fs s`: the file of a source writes half of a surrogate pair by itself. -/
inductive HasHalfPair (fs : FileSystem) : Source → Prop where
  | given {path text : String} (htext : fs.HasText (.ofText path) text)
      (h : Yaml.parse text = .error (.fault .halfPair)) : HasHalfPair fs (.given path)
  | default {name text : String} (htext : fs.HasText (localPath fs name) text)
      (h : Yaml.parse text = .error (.fault .halfPair)) : HasHalfPair fs (.default name)

/-- The name of a source in refusals. -/
def Source.name (fs : FileSystem) : Source → String
  | .given path => path
  | .default name => (localPath fs name).text
  | .project => (localPath fs projectName).text
  | .nothing => environmentName

/-- The document of a file that has to exist. -/
def fileContent (lib : Libraries) (fs : FileSystem) (source : String) (p : Path) :
    Except (Failure ConfigurationError) Value := do
  if ← isPresent fs p then document lib fs source p
  else .error (.refused ⟨.notFound, some source⟩)

/-- The table of a project file.  Without a table there is a document without entries. -/
def projectContent (lib : Libraries) (fs : FileSystem) :
    Except (Failure ConfigurationError) Value := do
  let p := localPath fs projectName
  if ← isPresent fs p then
    return (← projectTable? lib fs p).getD (.mapping [])
  else
    return .mapping []

/-- The document of a source, or why there is none. -/
def Source.content (lib : Libraries) (fs : FileSystem) :
    Source → Except (Failure ConfigurationError) Value
  | .given path => fileContent lib fs path (.ofText path)
  | .default name => fileContent lib fs (localPath fs name).text (localPath fs name)
  | .project => projectContent lib fs
  | .nothing => .ok (.mapping [])

section Search

variable {lib : Libraries} {fs : FileSystem} {env : List (String × String)} {path : Option String}
  {s : Source} {source : String} {p : Path} {v : Value}

@[simp] theorem isPresent_eq_ok_iff {present : Bool} :
  isPresent fs p = .ok present ↔ fs.isPresent p = .ok present
  := by
  rw [isPresent, mapError_eq_ok_iff]

theorem fileContent_of_isPresent (h : fs.isPresent p = .ok true) :
  fileContent lib fs source p = document lib fs source p
  := by
  rw [fileContent, isPresent_eq_ok_iff.mpr h]
  rfl

theorem bind_fileContent (source : String) (p : Path) :
  fileContent lib fs source p >>= build lib fs env source
    = isPresent fs p >>= fun present =>
        if present then document lib fs source p >>= build lib fs env source
        else .error (.refused ⟨.notFound, some source⟩)
  := by
  rw [fileContent, bind_assoc]
  apply bind_congr
  rintro (_ | _)
  · rfl
  · rfl

theorem projectTable?_eq_none_iff :
  projectTable? lib fs (localPath fs projectName) = .ok none
    ↔ ∃ text entries, fs.HasText (localPath fs "pyproject.toml") text
      ∧ lib.exceeds .toml text = false ∧ Toml.parse text = .ok entries ∧ LacksTable entries
  := by
  simp only [projectTable?_eq_ok_iff, tableOf_eq_none_iff]
  rfl

/-- Without a table the project file makes no difference to the environment alone. -/
theorem findProject_of_hasNoTable (h : HasNoTable lib fs) :
  findProject lib fs env = build lib fs env environmentName (.mapping [])
  := by
  rw [findProject]
  cases h with
  | absent h =>
      have hpresent : isPresent fs (localPath fs projectName) = .ok false :=
        isPresent_eq_ok_iff.mpr h
      rw [hpresent]
      rfl
  | lacking htext hlimit h hlacks =>
      have hpresent : isPresent fs (localPath fs projectName) = .ok true :=
        isPresent_eq_ok_iff.mpr htext.isPresent
      have htable := projectTable?_eq_none_iff.mpr ⟨_, _, htext, hlimit, h, hlacks⟩
      rw [hpresent]
      simp only [bind, Except.bind, if_pos, htable]

theorem findProject_of_table (h : ¬ HasNoTable lib fs) :
  findProject lib fs env
    = projectContent lib fs >>= build lib fs env (localPath fs projectName).text
  := by
  rw [findProject, projectContent, bind_assoc]
  cases hpresent : isPresent fs (localPath fs projectName) with
  | error e => rfl
  | ok present =>
      cases present with
      | false => exact absurd (.absent (isPresent_eq_ok_iff.mp hpresent)) h
      | true =>
          simp only [bind, Except.bind, if_pos]
          cases htable : projectTable? lib fs (localPath fs projectName) with
          | error e => rfl
          | ok table =>
              cases table with
              | none =>
                  obtain ⟨text, entries, htext, hlimit, hparse, hlacks⟩ :=
                    projectTable?_eq_none_iff.mp htable
                  exact absurd (.lacking htext hlimit hparse hlacks) h
              | some v => rfl

theorem findDefault_append {before names : List String}
    (h : ∀ n ∈ before, IsAbsent fs (localPath fs n)) :
  findDefault lib fs env (before ++ names) = findDefault lib fs env names
  := by
  induction before with
  | nil => rfl
  | cons n before ih =>
      rw [List.cons_append, findDefault, isPresent_eq_ok_iff.mpr (h n (List.mem_cons_self ..))]
      exact ih fun m hm => h m (List.mem_cons_of_mem n hm)

theorem findDefault_of_absent {names : List String}
    (h : ∀ n ∈ names, IsAbsent fs (localPath fs n)) :
  findDefault lib fs env names = findProject lib fs env
  := by
  rw [← List.append_nil names, findDefault_append h, findDefault]

theorem findDefault_cons {name : String} {names : List String}
    (h : ¬ IsAbsent fs (localPath fs name)) :
  findDefault lib fs env (name :: names)
    = (Source.default name).content lib fs >>= build lib fs env ((Source.default name).name fs)
  := by
  rw [Source.content, Source.name, bind_fileContent, findDefault]
  rw [isPresent]
  cases hpresent : fs.isPresent (localPath fs name) with
  | error e => rfl
  | ok present =>
      cases present with
      | false => exact absurd hpresent h
      | true => rfl

/-- What a search ends with is decided by the document of the selected source. -/
theorem find_of_selects (h : Selects lib fs path s) :
  find lib fs env path = s.content lib fs >>= build lib fs env (s.name fs)
  := by
  cases h with
  | @given p hpath hne =>
      subst hpath
      rw [find, Option.getD_some, if_neg hne, Source.content, Source.name, bind_fileContent]
  | default hpath hnames hbefore hname =>
      rw [find, if_pos hpath, defaultNames, hnames, findDefault_append hbefore,
        findDefault_cons hname]
  | project hpath hdefaults htable =>
      rw [find, if_pos hpath, defaultNames, findDefault_of_absent hdefaults,
        findProject_of_table htable]
      rfl
  | nothing hpath hdefaults htable =>
      rw [find, if_pos hpath, defaultNames, findDefault_of_absent hdefaults,
        findProject_of_hasNoTable htable]
      rfl

theorem fileContent_eq_ok_iff :
  fileContent lib fs source p = .ok v ↔ ∃ text, fs.HasText p text ∧ DocumentOf lib text v
  := by
  rw [fileContent, ← document_eq_ok_iff]
  simp only [bind_eq_ok_iff, isPresent_eq_ok_iff]
  constructor
  · rintro ⟨_ | _, -, h⟩
    · cases h
    · exact h
  · intro h
    obtain ⟨text, htext, -⟩ := document_eq_ok_iff.mp h
    exact ⟨true, htext.isPresent, h⟩

theorem projectContent_eq_ok_iff (h : ¬ HasNoTable lib fs) :
  projectContent lib fs = .ok v ↔ Supplies lib fs .project v
  := by
  constructor
  · intro hcontent
    obtain ⟨present, hpresent, hrest⟩ := bind_eq_ok_iff.mp hcontent
    cases present with
    | false => exact absurd (.absent (isPresent_eq_ok_iff.mp hpresent)) h
    | true =>
        obtain ⟨table, htable, hv⟩ := bind_eq_ok_iff.mp hrest
        obtain ⟨text, entries, htext, hlimit, hparse, htable⟩ := projectTable?_eq_ok_iff.mp htable
        cases table with
        | none => exact absurd (.lacking htext hlimit hparse (tableOf_eq_none_iff.mp htable)) h
        | some w =>
            cases hv
            exact .project htext hlimit hparse (tableOf_eq_some_iff.mp htable)
  · rintro ⟨⟩
    rename_i htext hlimit hparse hv
    have htable : projectTable? lib fs (localPath fs projectName) = .ok (some v) :=
      projectTable?_eq_ok_iff.mpr ⟨_, _, htext, hlimit, hparse, tableOf_eq_some_iff.mpr hv⟩
    have hpresent : isPresent fs (localPath fs projectName) = .ok true :=
      isPresent_eq_ok_iff.mpr htext.isPresent
    rw [projectContent, hpresent]
    simp only [bind, Except.bind, if_pos, htable]
    rfl

/-- A project file that supplies a table is not without one. -/
theorem Supplies.not_hasNoTable (h : Supplies lib fs .project v) :
  ¬ HasNoTable lib fs
  := by
  intro hnone
  cases h with
  | project htext hlimit hparse hv =>
      cases hnone with
      | absent habsent => cases habsent.symm.trans htext.isPresent
      | lacking htext' hlimit' hparse' hlacks =>
          obtain rfl := htext.unique htext'
          obtain rfl := Except.ok.inj (hparse.symm.trans hparse')
          cases (tableOf_eq_none_iff.mpr hlacks).symm.trans (tableOf_eq_some_iff.mpr hv)

/-- The document of a selected source is the one that it supplies. -/
theorem content_eq_ok_iff (h : Selects lib fs path s) :
  s.content lib fs = .ok v ↔ Supplies lib fs s v
  := by
  cases h with
  | given hpath hne =>
      rw [Source.content, fileContent_eq_ok_iff]
      constructor
      · rintro ⟨text, htext, hv⟩
        exact .given htext hv
      · rintro ⟨⟩
        exact ⟨_, ‹_›, ‹_›⟩
  | default hpath hnames hbefore hname =>
      rw [Source.content, fileContent_eq_ok_iff]
      constructor
      · rintro ⟨text, htext, hv⟩
        exact .default htext hv
      · rintro ⟨⟩
        exact ⟨_, ‹_›, ‹_›⟩
  | project hpath hdefaults htable => exact projectContent_eq_ok_iff htable
  | nothing hpath hdefaults htable =>
      constructor
      · rintro ⟨⟩
        exact .nothing
      · rintro ⟨⟩
        rfl

end Search

section Order

variable {lib : Libraries} {fs : FileSystem} {path : Option String} {names : List String}

/-- One of the files that are not all known to be absent is the first such. -/
theorem exists_first (h : ¬ ∀ n ∈ names, IsAbsent fs (localPath fs n)) :
  ∃ before name after, names = before ++ name :: after
    ∧ (∀ n ∈ before, IsAbsent fs (localPath fs n)) ∧ ¬ IsAbsent fs (localPath fs name)
  := by
  induction names with
  | nil => exact absurd (List.forall_mem_nil _) h
  | cons n names ih =>
      by_cases hn : IsAbsent fs (localPath fs n)
      · have hrest : ¬ ∀ m ∈ names, IsAbsent fs (localPath fs m) :=
          fun hall => h (List.forall_mem_cons.mpr ⟨hn, hall⟩)
        obtain ⟨before, name, after, rfl, hbefore, hname⟩ := ih hrest
        exact ⟨n :: before, name, after, rfl, List.forall_mem_cons.mpr ⟨hn, hbefore⟩, hname⟩
      · exact ⟨[], n, names, rfl, List.forall_mem_nil _, hn⟩

theorem first_unique {before before' after after' : List String} {name name' : String}
    (hnames : before ++ name :: after = before' ++ name' :: after')
    (hbefore : ∀ n ∈ before, IsAbsent fs (localPath fs n))
    (hname : ¬ IsAbsent fs (localPath fs name))
    (hbefore' : ∀ n ∈ before', IsAbsent fs (localPath fs n))
    (hname' : ¬ IsAbsent fs (localPath fs name')) :
  name' = name
  := by
  induction before generalizing before' with
  | nil =>
      cases before' with
      | nil => exact (List.cons.inj hnames).1.symm
      | cons m before' =>
          obtain ⟨rfl, -⟩ := List.cons.inj hnames
          exact absurd (hbefore' _ (List.mem_cons_self ..)) hname
  | cons n before ih =>
      cases before' with
      | nil =>
          obtain ⟨rfl, -⟩ := List.cons.inj hnames
          exact absurd (hbefore _ (List.mem_cons_self ..)) hname'
      | cons m before' =>
          exact ih (List.cons.inj hnames).2 (List.forall_mem_cons.mp hbefore).2
            (List.forall_mem_cons.mp hbefore').2

theorem exists_selects (lib : Libraries) (fs : FileSystem) (path : Option String) :
  ∃ s, Selects lib fs path s
  := by
  by_cases hpath : path.getD "" = ""
  · by_cases hdefaults : ∀ n ∈ ["protolayout.yaml", "protolayout.yml"],
      IsAbsent fs (localPath fs n)
    · by_cases htable : HasNoTable lib fs
      · exact ⟨.nothing, .nothing hpath hdefaults htable⟩
      · exact ⟨.project, .project hpath hdefaults htable⟩
    · obtain ⟨before, name, after, hnames, hbefore, hname⟩ := exists_first hdefaults
      exact ⟨.default name, .default hpath hnames hbefore hname⟩
  · cases path with
    | none => exact absurd rfl hpath
    | some p => exact ⟨.given p, .given rfl hpath⟩

/-- A configuration comes from one source only. -/
theorem Selects.unique {s s' : Source} (h : Selects lib fs path s) (h' : Selects lib fs path s') :
  s' = s
  := by
  cases h with
  | given hpath hne =>
      subst hpath
      cases h' with
      | given hpath' => cases hpath'; rfl
      | default hpath' => exact absurd hpath' hne
      | project hpath' => exact absurd hpath' hne
      | nothing hpath' => exact absurd hpath' hne
  | @default before after name hpath hnames hbefore hname =>
      have hmem : name ∈ ["protolayout.yaml", "protolayout.yml"] := by
        rw [hnames]
        exact List.mem_append_cons_self
      cases h' with
      | given hpath' hne' => subst hpath'; exact absurd hpath hne'
      | default _ hnames' hbefore' hname' =>
          rw [first_unique (hnames ▸ hnames') hbefore hname hbefore' hname']
      | project _ hdefaults' => exact absurd (hdefaults' _ hmem) hname
      | nothing _ hdefaults' => exact absurd (hdefaults' _ hmem) hname
  | project hpath hdefaults htable =>
      cases h' with
      | given hpath' hne' => subst hpath'; exact absurd hpath hne'
      | default _ hnames' _ hname' =>
          exact absurd (hdefaults _ (hnames' ▸ List.mem_append_cons_self)) hname'
      | project => rfl
      | nothing _ _ htable' => exact absurd htable' htable
  | nothing hpath hdefaults htable =>
      cases h' with
      | given hpath' hne' => subst hpath'; exact absurd hpath hne'
      | default _ hnames' _ hname' =>
          exact absurd (hdefaults _ (hnames' ▸ List.mem_append_cons_self)) hname'
      | project _ _ htable' => exact absurd htable htable'
      | nothing => rfl

end Order

end Configuration

end MessagePlacement
