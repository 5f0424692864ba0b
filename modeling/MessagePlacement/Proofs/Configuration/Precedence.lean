import Mathlib.Data.List.Nodup
import MessagePlacement.Proofs.Configuration.Source
import MessagePlacement.Proofs.Lookup

/-!
# The precedence of sources and fields

Which source is selected, and what this supplies, depends on the files only at the locations that
are looked at on the way to the source; the default files that come after it, and what is below
them, are not among these and can be changed at will.  What a search ends with depends only on the
document that the source supplies, and on the environment in the fields that this does not set,
provided that there is no option of the settings library in it.  With such an option it can depend
on more: one names another prefix for the variables of the environment.
-/

namespace MessagePlacement

namespace Configuration

/-- `SameIn fs fs' s`: the files agree at the path of a source. -/
inductive SameIn (fs fs' : FileSystem) : Source → Prop where
  | given {path : String} (h : fs.AgreeAt fs' (.ofText path)) : SameIn fs fs' (.given path)
  | default {name : String} (hbase : fs'.workingDirectory = fs.workingDirectory)
      (h : fs.AgreeAt fs' (localPath fs name)) : SameIn fs fs' (.default name)
  | project (hbase : fs'.workingDirectory = fs.workingDirectory)
      (h : fs.AgreeAt fs' (localPath fs "pyproject.toml")) : SameIn fs fs' .project
  | nothing : SameIn fs fs' .nothing

/-- `Sets lib fs s field`: the document of a source has a value for a field, whatever this is. -/
def Sets (lib : Libraries) (fs : FileSystem) (s : Source) (field : String) : Prop :=
  ∃ entries k v, Supplies lib fs s (.mapping entries)
    ∧ (.text k, v) ∈ entries ∧ Text.lower k = field

/-- The variables of an environment for a field. -/
def variablesOf (field : String) (env : List (String × String)) : List (String × String) :=
  env.filter fun e => Text.lower e.1 = "protolayout_" ++ field

/-- That two environments have the same variables for every field that the document of a source does
not set. -/
def AgreeWhereUnset (lib : Libraries) (fs : FileSystem) (s : Source)
    (env env' : List (String × String)) : Prop :=
  ∀ field ∈ ["declarations", "languages", "fold_protocol", "output"], ¬ Sets lib fs s field →
    variablesOf field env' = variablesOf field env

/-- That a source has no option of the settings library and no half of a surrogate pair. -/
structure IsOrdinary (lib : Libraries) (fs : FileSystem) (s : Source) : Prop where
  hasNoOption {entries : List (Value × Value)} {k : String} {v : Value} :
    Supplies lib fs s (.mapping entries) → (.text k, v) ∈ entries → lib.isOption k = false
  hasNoHalfPair : ¬ HasHalfPair fs s

/-- `Consults fs s location`: a location is looked at for a source, or for one before it. -/
inductive Consults (fs : FileSystem) : Source → List String → Prop where
  | given {path : String} {location : List String}
      (h : location ∈ fs.routeOf (.ofText path)) : Consults fs (.given path) location
  | default {before after location : List String} {name n : String}
      (hnames : ["protolayout.yaml", "protolayout.yml"] = before ++ name :: after)
      (hn : n ∈ before ++ [name]) (h : location ∈ fs.routeOf (localPath fs n)) :
      Consults fs (.default name) location
  | project {n : String} {location : List String}
      (hn : n ∈ ["protolayout.yaml", "protolayout.yml", "pyproject.toml"])
      (h : location ∈ fs.routeOf (localPath fs n)) : Consults fs .project location
  | nothing {n : String} {location : List String}
      (hn : n ∈ ["protolayout.yaml", "protolayout.yml", "pyproject.toml"])
      (h : location ∈ fs.routeOf (localPath fs n)) : Consults fs .nothing location

/-- `Hides fs s location`: what is at a location is, or is below, a file of the working directory
that a source comes before.  A given path can lead through these files itself. -/
inductive Hides (fs : FileSystem) : Source → List String → Prop where
  | given {path n : String} {location : List String}
      (hn : n ∈ ["protolayout.yaml", "protolayout.yml", "pyproject.toml"])
      (hbelow : fs.workingDirectory ++ [n] <+: location)
      (hroute : location ∉ fs.routeOf (.ofText path)) : Hides fs (.given path) location
  | default {before after location : List String} {name n : String}
      (hnames : ["protolayout.yaml", "protolayout.yml", "pyproject.toml"] = before ++ name :: after)
      (hn : n ∈ after) (hbelow : fs.workingDirectory ++ [n] <+: location) :
      Hides fs (.default name) location

section Files

variable {lib : Libraries} {fs fs' : FileSystem} {path : Option String} {s : Source} {v : Value}

theorem localPath_congr (hbase : fs'.workingDirectory = fs.workingDirectory) (name : String) :
  localPath fs' name = localPath fs name
  := by
  rw [localPath, localPath, hbase]

theorem isAbsent_congr {p : Path} (h : fs.AgreeAt fs' p) :
  IsAbsent fs' p ↔ IsAbsent fs p
  := by
  rw [IsAbsent, IsAbsent, h.isPresent_eq]

theorem hasNoTable_congr
    (hbase : fs'.workingDirectory = fs.workingDirectory)
    (h : fs.AgreeAt fs' (localPath fs "pyproject.toml")) :
  HasNoTable lib fs' ↔ HasNoTable lib fs
  := by
  constructor
  · rintro (habsent | ⟨htext, hlimit, hparse, hlacks⟩)
    · rw [localPath_congr hbase, isAbsent_congr h] at habsent
      exact .absent habsent
    · rw [localPath_congr hbase, h.hasText_iff] at htext
      exact .lacking htext hlimit hparse hlacks
  · rintro (habsent | ⟨htext, hlimit, hparse, hlacks⟩)
    · rw [← isAbsent_congr h, ← localPath_congr hbase] at habsent
      exact .absent habsent
    · rw [← h.hasText_iff, ← localPath_congr hbase] at htext
      exact .lacking htext hlimit hparse hlacks

theorem forall_isAbsent_congr {names : List String}
    (hbase : fs'.workingDirectory = fs.workingDirectory)
    (h : ∀ n ∈ names, fs.AgreeAt fs' (localPath fs n)) :
  (∀ n ∈ names, IsAbsent fs' (localPath fs' n)) ↔ ∀ n ∈ names, IsAbsent fs (localPath fs n)
  := by
  apply forall₂_congr
  intro n hn
  rw [localPath_congr hbase, isAbsent_congr (h n hn)]

/-- Files that agree where a selected source makes a search look select it as well, and it is the
same in them. -/
theorem selects_congr
    (hbase : fs'.workingDirectory = fs.workingDirectory)
    (hentry : ∀ location, Consults fs s location → fs'.entry? location = fs.entry? location)
    (h : Selects lib fs path s) :
  Selects lib fs' path s ∧ SameIn fs fs' s
  := by
  cases h with
  | given hpath hne =>
      have hat := FileSystem.agreeAt_of_routeOf hbase fun l hl => hentry l (.given hl)
      exact ⟨.given hpath hne, .given hat⟩
  | @default before after name hpath hnames hbefore hname =>
      have hat : ∀ n ∈ before ++ [name], fs.AgreeAt fs' (localPath fs n) := by
        intro n hn
        exact FileSystem.agreeAt_of_routeOf hbase fun l hl => hentry l (.default hnames hn hl)
      have hself := hat name (List.mem_append_right _ (List.mem_singleton_self _))
      refine ⟨.default hpath hnames ?_ ?_, .default hbase hself⟩
      · exact (forall_isAbsent_congr hbase fun n hn =>
          hat n (List.mem_append_left _ hn)).mpr hbefore
      · rwa [localPath_congr hbase, isAbsent_congr hself]
  | project hpath hdefaults htable =>
      have hat : ∀ n ∈ ["protolayout.yaml", "protolayout.yml"] ++ ["pyproject.toml"],
          fs.AgreeAt fs' (localPath fs n) := by
        intro n hn
        exact FileSystem.agreeAt_of_routeOf hbase fun l hl => hentry l (.project hn hl)
      obtain ⟨hfiles, hproject⟩ := List.forall_mem_append.mp hat
      have hself := List.forall_mem_singleton.mp hproject
      refine ⟨.project hpath ?_ ?_, .project hbase hself⟩
      · exact (forall_isAbsent_congr hbase hfiles).mpr hdefaults
      · rwa [hasNoTable_congr hbase hself]
  | nothing hpath hdefaults htable =>
      have hat : ∀ n ∈ ["protolayout.yaml", "protolayout.yml"] ++ ["pyproject.toml"],
          fs.AgreeAt fs' (localPath fs n) := by
        intro n hn
        exact FileSystem.agreeAt_of_routeOf hbase fun l hl => hentry l (.nothing hn hl)
      obtain ⟨hfiles, hproject⟩ := List.forall_mem_append.mp hat
      have hself := List.forall_mem_singleton.mp hproject
      refine ⟨.nothing hpath ?_ ?_, .nothing⟩
      · exact (forall_isAbsent_congr hbase hfiles).mpr hdefaults
      · rwa [hasNoTable_congr hbase hself]

/-- What a source is named, and what it supplies or why it supplies nothing, is the same where the
source is. -/
theorem SameIn.content_eq (h : SameIn fs fs' s) :
  s.name fs' = s.name fs ∧ s.content lib fs' = s.content lib fs
  := by
  have hfile {source : String} {p : Path} (h : fs.AgreeAt fs' p) :
      fileContent lib fs' source p = fileContent lib fs source p := by
    rw [fileContent, fileContent, isPresent, isPresent, h.isPresent_eq, document, document,
      h.read_eq]
  cases h with
  | given h => exact ⟨rfl, hfile h⟩
  | default hbase h =>
      rw [Source.name, Source.name, Source.content, Source.content, localPath_congr hbase]
      exact ⟨rfl, hfile h⟩
  | project hbase h =>
      have hpresent : fs'.isPresent (localPath fs projectName)
          = fs.isPresent (localPath fs projectName) := h.isPresent_eq
      have hread : fs'.read (localPath fs projectName) = fs.read (localPath fs projectName) :=
        h.read_eq
      rw [Source.name, Source.name, Source.content, Source.content, projectContent, projectContent,
        localPath_congr hbase, isPresent, isPresent, projectTable?, projectTable?, hpresent, hread]
      exact ⟨rfl, rfl⟩
  | nothing => exact ⟨rfl, rfl⟩

theorem routeOf_localPath (name : String) :
  fs.routeOf (localPath fs name) = FileSystem.route [] (fs.workingDirectory ++ [name])
  := by
  rfl

/-- The path to a file of the working directory leads to or below another one only if they are the
same. -/
theorem eq_of_mem_routeOf_localPath
    {n n' : String} {location : List String} (hup : ".." ∉ fs.workingDirectory) (hn' : n' ≠ "..")
    (hroute : location ∈ fs.routeOf (localPath fs n'))
    (hbelow : fs.workingDirectory ++ [n] <+: location) :
  n = n'
  := by
  have hup' : ".." ∉ fs.workingDirectory ++ [n'] := by
    rw [List.mem_append, List.mem_singleton, not_or]
    exact ⟨hup, hn'.symm⟩
  rw [routeOf_localPath] at hroute
  have hstart := hbelow.trans (FileSystem.prefix_of_mem_route hup' hroute)
  have heq := hstart.eq_of_length (by simp)
  exact List.singleton_inj.mp (List.append_cancel_left heq)

theorem nodup_localNames : ["protolayout.yaml", "protolayout.yml", "pyproject.toml"].Nodup
  := by
  decide

/-- Locations below the files that a source comes before are not looked at. -/
theorem not_consults_of_hides
    (hup : ".." ∉ fs.workingDirectory) {location : List String} (h : Hides fs s location) :
  ¬ Consults fs s location
  := by
  intro hconsults
  cases h with
  | given hn hbelow hroute =>
      cases hconsults with
      | given h => exact hroute h
  | @default before after _ name n hnames hn hbelow =>
      cases hconsults with
      | @default before' after' _ _ n' hnames' hn' hroute =>
          have hnodup := hnames ▸ nodup_localNames
          obtain ⟨hother, -⟩ := List.nodup_cons.mp (List.nodup_middle.mp hnodup)
          obtain ⟨hbefore, hafter⟩ := not_or.mp (mt List.mem_append.mpr hother)
          have hsplit : before' ++ name :: (after' ++ ["pyproject.toml"])
              = before ++ name :: after := by
            rw [← hnames, ← List.cons_append, ← List.append_assoc, ← hnames']
            rfl
          obtain ⟨rfl, -⟩ := List.append_cons_inj_of_notMem hbefore hafter |>.mp hsplit.symm
          have hup' : ".." ∉ ["protolayout.yaml", "protolayout.yml"] := by decide
          have hlocal : n' ∈ ["protolayout.yaml", "protolayout.yml"] := by
            rw [hnames', List.append_cons]
            exact List.mem_append_left _ hn'
          obtain rfl := eq_of_mem_routeOf_localPath hup (ne_of_mem_of_not_mem hlocal hup')
            hroute hbelow
          rw [List.append_cons] at hnodup
          exact List.disjoint_of_nodup_append hnodup hn' hn

end Files

section Search

variable {lib : Libraries} {fs fs' : FileSystem} {env env' : List (String × String)}
  {path : Option String} {s : Source}

theorem environment?_congr {field : String} (h : variablesOf field env' = variablesOf field env) :
  Settings.environment? field env' = Settings.environment? field env
  := by
  have hlast (env : List (String × String)) : Settings.environment? field env
      = (variablesOf field env).getLast?.map fun e => .text e.2 := by
    rw [Settings.environment?, Settings.variableStart, ← List.head?_filter, List.filter_reverse,
      List.head?_reverse, variablesOf]
    rfl
  rw [hlast, hlast, h]

/-- With an ordinary source, what a search ends with depends only on the source and on the
environment in the fields that its document does not set. -/
theorem find_congr
    (h : Selects lib fs path s) (h' : Selects lib fs' path s) (hsame : SameIn fs fs' s)
    (hordinary : IsOrdinary lib fs s) (henv : AgreeWhereUnset lib fs s env env') :
  find lib fs' env' path = find lib fs env path
  := by
  obtain ⟨hname, hcontent⟩ := @SameIn.content_eq lib _ _ _ hsame
  rw [find_of_selects h, find_of_selects h', hname, hcontent]
  cases hdocument : s.content lib fs with
  | error f => rfl
  | ok v =>
      have hsupplies := (content_eq_ok_iff h).mp hdocument
      apply build_congr
      · rintro entries k w rfl hmem
        exact hordinary.hasNoOption hsupplies hmem
      · intro field hfield hunset
        apply environment?_congr
        apply henv field hfield
        rintro ⟨entries, k, w, hmapping, hmem, hk⟩
        obtain rfl := Except.ok.inj (hdocument.symm.trans ((content_eq_ok_iff h).mpr hmapping))
        exact hunset entries k w rfl hmem hk

theorem find_eq_ok_iff (h : Selects lib fs path s) (hordinary : IsOrdinary lib fs s)
    {c : Settings} :
  find lib fs env path = .ok c
    ↔ ∃ named, Supplies lib fs s (.mapping (named.map fun e => (.text e.1, e.2)))
      ∧ c.ReadFrom named env ∧ ¬ lib.ExceedsLimit named env
  := by
  have hplain {named : List (String × Value)}
      (hsupplies : Supplies lib fs s (.mapping (named.map fun e => (.text e.1, e.2)))) :
      ¬ lib.HasOption named := by
    rintro ⟨e, he, hoption⟩
    rw [hordinary.hasNoOption hsupplies (List.mem_map_of_mem he)] at hoption
    cases hoption
  simp only [find_of_selects h, bind_eq_ok_iff, content_eq_ok_iff h, build_eq_ok_iff]
  constructor
  · rintro ⟨_, hsupplies, named, rfl, hsettings⟩
    exact ⟨named, hsupplies, (Libraries.settings_eq_ok_iff (hplain hsupplies)).mp hsettings⟩
  · rintro ⟨named, hsupplies, hread⟩
    exact ⟨_, hsupplies, named, rfl, (Libraries.settings_eq_ok_iff (hplain hsupplies)).mpr hread⟩

end Search

/-- Exactly one source is selected, and the files matter to this only at the locations that are
looked at on the way to the source.  If the source is ordinary, what a search ends with depends only
on the source and on the environment in the fields that its document does not set.  In particular
the files that it hides can be changed, the working directory being a location without two dots in
it.  And there are settings exactly when the document is a mapping whose keys are texts and fields,
and every field can be read: from the value that is named for it, from the environment if there is
none, and by default if there is neither. -/
theorem find_precedence
    (lib : Libraries) (fs : FileSystem) (env : List (String × String)) (path : Option String) :
  ∃ s, (∀ s', Selects lib fs path s' ↔ s' = s)
    ∧ (∀ fs' : FileSystem, fs'.workingDirectory = fs.workingDirectory →
        (∀ location, Consults fs s location → fs'.entry? location = fs.entry? location) →
        Selects lib fs' path s ∧ SameIn fs fs' s)
    ∧ (IsOrdinary lib fs s →
        (∀ fs' env', Selects lib fs' path s → SameIn fs fs' s → AgreeWhereUnset lib fs s env env' →
          find lib fs' env' path = find lib fs env path)
        ∧ (".." ∉ fs.workingDirectory →
          ∀ (fs' : FileSystem) (env' : List (String × String)),
            fs'.workingDirectory = fs.workingDirectory →
            (∀ location, ¬ Hides fs s location → fs'.entry? location = fs.entry? location) →
            AgreeWhereUnset lib fs s env env' → find lib fs' env' path = find lib fs env path)
        ∧ ∀ c, find lib fs env path = .ok c
          ↔ ∃ named, Supplies lib fs s (.mapping (named.map fun e => (.text e.1, e.2)))
            ∧ c.ReadFrom named env ∧ ¬ lib.ExceedsLimit named env)
  := by
  obtain ⟨s, hs⟩ := exists_selects lib fs path
  refine ⟨s, ?_, ?_, ?_⟩
  · intro s'
    constructor
    · exact hs.unique
    · rintro rfl
      exact hs
  · intro fs' hbase hentry
    exact selects_congr hbase hentry hs
  · intro hordinary
    refine ⟨?_, ?_, ?_⟩
    · intro fs' env' hs' hsame henv
      exact find_congr hs hs' hsame hordinary henv
    · intro hup fs' env' hbase hentry henv
      have hconsulted : ∀ location, Consults fs s location →
          fs'.entry? location = fs.entry? location := by
        intro location hlocation
        exact hentry location fun hhides => not_consults_of_hides hup hhides hlocation
      obtain ⟨hs', hsame⟩ := selects_congr hbase hconsulted hs
      exact find_congr hs hs' hsame hordinary henv
    · intro c
      exact find_eq_ok_iff hs hordinary

/-! ### A configuration that hides a project -/

/-- An entry with a text as its key and another as its value. -/
def textEntry? : Value × Value → Option (String × String)
  | (.text k, .text w) => some (k, w)
  | _ => none

/-- The entries of a mapping from texts to texts. -/
def textEntries? : Value → Option (List (String × String))
  | .mapping entries => entries.mapM textEntry?
  | _ => none

theorem eq_of_textEntries? {v : Value} {named : List (String × String)}
    (h : textEntries? v = some named) :
  v = .mapping (named.map fun e => (.text e.1, .text e.2))
  := by
  have hentry {e : Value × Value} {n : String × String} (h : textEntry? e = some n) :
      e = (.text n.1, .text n.2) := by
    unfold textEntry? at h
    split at h
    · cases h
      rfl
    · cases h
  cases v with
  | mapping entries =>
      congr
      induction entries generalizing named with
      | nil =>
          cases h
          rfl
      | cons e entries ih =>
          simp only [textEntries?, List.mapM_cons, Option.bind_eq_bind, Option.bind_eq_some_iff,
            Option.pure_def, Option.some.injEq] at h
          obtain ⟨n, hn, ns, hns, rfl⟩ := h
          rw [hentry hn, ih hns, List.map_cons]
  | _ => cases h

theorem not_exceedsLimit_standard {named : List (String × Value)} {env : List (String × String)} :
  ¬ Libraries.standard.ExceedsLimit named env
  := by
  rintro ⟨s, -, -, ⟨⟩⟩

/-- A source is ordinary when none of the texts that it supplies is named by an option. -/
theorem isOrdinary_of_supplies {lib : Libraries} {fs : FileSystem} {path : Option String}
    {s : Source} {named : List (String × Value)} (hs : Selects lib fs path s)
    (h : Supplies lib fs s (.mapping (named.map fun e => (.text e.1, e.2))))
    (hplain : ∀ e ∈ named, lib.isOption e.1 = false) :
  IsOrdinary lib fs s
  := by
  constructor
  · intro entries k v h' hmem
    have hsame := ((content_eq_ok_iff hs).mpr h').symm.trans ((content_eq_ok_iff hs).mpr h)
    obtain rfl := Value.mapping.inj (Except.ok.inj hsame)
    obtain ⟨e, he, hkv⟩ := List.mem_map.mp hmem
    cases hkv
    exact hplain e he
  · intro hhalf
    have hread {text text' : String} {p : Path} {v : Value} (htext : fs.HasText p text)
        (hv : DocumentOf lib text v) (htext' : fs.HasText p text') :
        Yaml.parse text' ≠ .error (.fault .halfPair) := by
      obtain rfl := htext.unique htext'
      cases hv with
      | value _ hparse =>
          rw [hparse]
          nofun
      | void _ hparse =>
          rw [hparse]
          nofun
    cases hhalf with
    | given htext' hparse =>
        cases h with
        | given htext hv => exact hread htext hv htext' hparse
    | default htext' hparse =>
        cases h with
        | default htext hv => exact hread htext hv htext' hparse

/-- A working directory with a configuration of its own and something at the place of the project
file. -/
def shadowedProject (project : FileEntry) : FileSystem :=
  ⟨[(["work"], .directory), (["work", "protolayout.yaml"], .file "output: layout.json\n".toUTF8),
    (["work", "pyproject.toml"], project)], ["work"]⟩

/-- A working directory with a project file only, which has a table of this program. -/
def tabledProject : FileSystem :=
  ⟨[(["work"], .directory), (["work", "pyproject.toml"],
    .file "[tool.protolayout]\nlanguages = \"go, python\"\n".toUTF8)], ["work"]⟩

theorem hasText_shadowedProject (project : FileEntry) :
  (shadowedProject project).HasText (localPath (shadowedProject project) "protolayout.yaml")
    "output: layout.json\n"
  := by
  have hspot : (shadowedProject project).resolve
      (localPath (shadowedProject project) "protolayout.yaml")
        = .ok (.present ["work", "protolayout.yaml"]) := by
    have hpath : localPath (shadowedProject project) "protolayout.yaml"
        = ⟨"/", ["work", "protolayout.yaml"]⟩ := rfl
    rw [hpath, FileSystem.resolve, if_neg (by decide), if_neg (by decide)]
    rfl
  refine ⟨"output: layout.json\n".toUTF8, ?_, by decide +kernel⟩
  rw [FileSystem.read, hspot]
  rfl

theorem supplies_shadowedProject (project : FileEntry) :
  Supplies .standard (shadowedProject project) (.default "protolayout.yaml")
    (.mapping [(.text "output", .text "layout.json")])
  := by
  have hvalue : (Yaml.parse "output: layout.json\n").toOption.bind textEntries?
      = some [("output", "layout.json")] := by decide +kernel
  obtain ⟨v, hparse, hentries⟩ := Option.bind_eq_some_iff.mp hvalue
  obtain rfl := eq_of_textEntries? hentries
  exact .default (hasText_shadowedProject project)
    (.value rfl (toOption_eq_some_iff.mp hparse) nofun)

theorem selects_shadowedProject (project : FileEntry) :
  Selects .standard (shadowedProject project) none (.default "protolayout.yaml")
  := by
  apply @Selects.default _ _ _ [] _ _ rfl rfl (List.forall_mem_nil _)
  rw [IsAbsent, (hasText_shadowedProject project).isPresent]
  nofun

theorem supplies_tabledProject :
  Supplies .standard tabledProject .project (.mapping [(.text "languages", .text "go, python")])
  := by
  have hvalue : ((Toml.parse "[tool.protolayout]\nlanguages = \"go, python\"\n").toOption.bind
      fun entries => (tableOf entries).toOption.bind fun table => table.bind textEntries?)
      = some [("languages", "go, python")] := by decide +kernel
  obtain ⟨entries, hparse, htools⟩ := Option.bind_eq_some_iff.mp hvalue
  obtain ⟨table, htable, hentries⟩ := Option.bind_eq_some_iff.mp htools
  obtain ⟨v, rfl, hentries⟩ := Option.bind_eq_some_iff.mp hentries
  obtain rfl := eq_of_textEntries? hentries
  have htext : tabledProject.HasText (localPath tabledProject "pyproject.toml")
      "[tool.protolayout]\nlanguages = \"go, python\"\n" :=
    ⟨"[tool.protolayout]\nlanguages = \"go, python\"\n".toUTF8, by decide +kernel,
      by decide +kernel⟩
  exact .project htext rfl (toOption_eq_some_iff.mp hparse)
    (tableOf_eq_some_iff.mp (toOption_eq_some_iff.mp htable))

theorem isOrdinary_shadowedProject (project : FileEntry) :
  IsOrdinary .standard (shadowedProject project) (.default "protolayout.yaml")
  := @isOrdinary_of_supplies _ _ _ _ [("output", .text "layout.json")]
    (selects_shadowedProject project) (supplies_shadowedProject project) (by decide +kernel)

theorem selects_tabledProject :
  Selects .standard tabledProject none .project
  := by
  refine .project rfl ?_ supplies_tabledProject.not_hasNoTable
  simp only [IsAbsent]
  decide +kernel

/-- The configuration is what its file says before what the environment says, and what is at the
place of the project file makes no difference, be it no text or even a directory.  A project file
alone is a configuration by its table. -/
theorem find_precedence_shadowedProject :
  Selects .standard (shadowedProject .directory) none (.default "protolayout.yaml")
    ∧ IsOrdinary .standard (shadowedProject .directory) (.default "protolayout.yaml")
    ∧ ".." ∉ (shadowedProject .directory).workingDirectory
    ∧ Hides (shadowedProject .directory) (.default "protolayout.yaml") ["work", "pyproject.toml"]
    ∧ find .standard (shadowedProject .directory)
      [("PROTOLAYOUT_OUTPUT", "other.json"), ("PROTOLAYOUT_FOLD_PROTOCOL", "no")] none
        = .ok { foldProtocol := false, output := some "layout.json" }
    ∧ find .standard (shadowedProject (.file ⟨#[0xFF]⟩))
      [("PROTOLAYOUT_FOLD_PROTOCOL", "no")] none
        = .ok { foldProtocol := false, output := some "layout.json" }
    ∧ Selects .standard tabledProject none .project
    ∧ find .standard tabledProject [] none = .ok { languages := [.go, .python] }
  := by
  have hselects := selects_shadowedProject .directory
  have hsupplies := supplies_shadowedProject .directory
  have hordinary := isOrdinary_shadowedProject .directory
  have hup : ".." ∉ (shadowedProject .directory).workingDirectory := by decide
  have hhides : Hides (shadowedProject .directory) (.default "protolayout.yaml")
      ["work", "pyproject.toml"] :=
    @Hides.default _ [] _ _ _ "pyproject.toml" rfl (by decide) (List.prefix_refl _)
  obtain ⟨s, hunique, -, hfind⟩ := find_precedence .standard (shadowedProject .directory)
    [("PROTOLAYOUT_OUTPUT", "other.json"), ("PROTOLAYOUT_FOLD_PROTOCOL", "no")] none
  obtain rfl := (hunique _).mp hselects
  obtain ⟨-, hhidden, hok⟩ := hfind hordinary
  have hread : find .standard (shadowedProject .directory)
      [("PROTOLAYOUT_OUTPUT", "other.json"), ("PROTOLAYOUT_FOLD_PROTOCOL", "no")] none
        = .ok { foldProtocol := false, output := some "layout.json" } := by
    apply (hok _).mpr
    refine ⟨[("output", .text "layout.json")], hsupplies, ?_, not_exceedsLimit_standard⟩
    exact Settings.ofEntries_eq_ok_iff.mp (by decide +kernel)
  refine ⟨hselects, hordinary, hup, hhides, hread, ?_, selects_tabledProject, ?_⟩
  · refine (hhidden hup (shadowedProject (.file ⟨#[0xFF]⟩)) _ rfl ?_ ?_).trans hread
    · intro location hlocation
      have hne : location ≠ ["work", "pyproject.toml"] := by
        rintro rfl
        exact hlocation hhides
      simp only [FileSystem.entry?, shadowedProject, lookup_cons_eq_if, if_neg hne]
    · -- The output is set by the file, and the variables for the other fields are the same.
      have hothers : ∀ field ∈ ["declarations", "languages", "fold_protocol"],
          variablesOf field [("PROTOLAYOUT_FOLD_PROTOCOL", "no")]
            = variablesOf field
              [("PROTOLAYOUT_OUTPUT", "other.json"), ("PROTOLAYOUT_FOLD_PROTOCOL", "no")] := by
        decide +kernel
      intro field hfield hunset
      have hne : field ≠ "output" := by
        rintro rfl
        exact hunset ⟨_, _, _, hsupplies, List.mem_singleton_self _, by decide +kernel⟩
      apply hothers
      simp only [List.mem_cons, List.not_mem_nil, or_false, hne] at hfield ⊢
      exact hfield
  · obtain ⟨s, hunique, -, hfind⟩ := find_precedence .standard tabledProject [] none
    obtain rfl := (hunique _).mp selects_tabledProject
    have hordinary := @isOrdinary_of_supplies _ _ _ _ [("languages", .text "go, python")]
      selects_tabledProject supplies_tabledProject (by decide +kernel)
    apply ((hfind hordinary).2.2 _).mpr
    refine ⟨[("languages", .text "go, python")], supplies_tabledProject, ?_,
      not_exceedsLimit_standard⟩
    exact Settings.ofEntries_eq_ok_iff.mp (by decide +kernel)

/-! ### A configuration that names another prefix -/

/-- A working directory with a configuration that names the prefix of its variables. -/
def prefixedFile : FileSystem :=
  ⟨[(["work"], .directory), (["work", "protolayout.yaml"], .file "_env_prefix: FOO_\n".toUTF8)],
    ["work"]⟩

/-- The prefix is taken for an option of the settings library, so that a variable makes a difference
whose name does not begin as those of the fields do. -/
theorem not_find_precedence_prefixedFile :
  Selects .standard prefixedFile none (.default "protolayout.yaml")
    ∧ AgreeWhereUnset .standard prefixedFile (.default "protolayout.yaml") []
      [("FOO_OUTPUT", "layout.json")]
    ∧ find .standard prefixedFile [] none = .ok {}
    ∧ find .standard prefixedFile [("FOO_OUTPUT", "layout.json")] none
      = .ok { output := some "layout.json" }
  := by
  have hnone : ∀ field ∈ ["declarations", "languages", "fold_protocol", "output"],
      variablesOf field [("FOO_OUTPUT", "layout.json")] = variablesOf field [] := by
    decide +kernel
  refine ⟨?_, fun field hfield _ => hnone field hfield, by decide +kernel, by decide +kernel⟩
  apply @Selects.default _ _ _ [] _ _ rfl rfl (List.forall_mem_nil _)
  have hpresent : prefixedFile.isPresent (localPath prefixedFile "protolayout.yaml")
      = .ok true := by decide +kernel
  rw [IsAbsent, hpresent]
  nofun

end Configuration

end MessagePlacement
