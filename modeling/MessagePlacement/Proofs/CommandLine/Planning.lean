import MessagePlacement.CommandLine.Run
import MessagePlacement.Proofs.Files.Writing
import MessagePlacement.Proofs.Language
import MessagePlacement.Proofs.Report.Reading

/-!
# Planning a layout from the command line

What a plan makes is the report on the layout of the declarations that are given or configured, for
the languages that are, folded unless the request or the configuration says otherwise.  It is made
as a whole before anything is written, so a refused request leaves the files as they are, and a
request that succeeds leaves the whole report in the file that it is meant for.
-/

namespace MessagePlacement

namespace CommandLine

/-- `Chooses given configured x`: the text that is given counts, if it is not empty, or else the one
that is configured, if that is not empty. -/
inductive Chooses (given configured : Option String) : Option String → Prop where
  | given {x : String} (h : given = some x) (hne : x ≠ "") : Chooses given configured (some x)
  | configured {x : String} (hgiven : given = none ∨ given = some "") (h : configured = some x)
      (hne : x ≠ "") : Chooses given configured (some x)
  | neither (hgiven : given = none ∨ given = some "")
      (h : configured = none ∨ configured = some "") : Chooses given configured none

/-- `Makes s r c languages report`: a request is for the report, with the settings `c` that are
found and for the languages.  Those that the request names are named by variants of their labels,
blank ends aside. -/
structure Makes (s : Surroundings) (r : PlanRequest) (c : Settings) (languages : List Language)
    (report : Report) : Prop where
  configuration : Configuration.find s.libraries s.files s.env r.configuration = .ok c
  configured : r.languages = [] → languages = c.languages
  named : r.languages ≠ [] →
    List.Forall₂ (fun name l => Text.IsVariant (Text.strip name) l.label) r.languages languages
  reported : ∃ source ds resolver, Chooses r.declarations c.declarations (some source)
    ∧ Loading.load s.libraries s.files source = .ok ds
    ∧ Resolver.start {} ds (c.foldProtocol && !r.unfolded) = .ok resolver
    ∧ Report.ofResolver resolver languages (c.foldProtocol && !r.unfolded) = .ok report

/-- `Encodes content report`: bytes are the text of a report, which is a document in JSON for the
report and gives it back when it is read. -/
structure Encodes (content : ByteArray) (report : Report) : Prop where
  exact : content = report.text.toUTF8
  document : (Text.decode? content).bind Json.parse? = some report.toValue
  report : (Text.decode? content).bind Report.read? = some report

/-- `HasWritten s target report fs`: the files when a report has been written to a target.  Its text
is read there, and elsewhere there are at most new directories; or the text has been given to
another storage. -/
inductive HasWritten (s : Surroundings) (target : String) (report : Report) (fs : FileSystem) :
    Prop where
  | here {content : ByteArray} (hplace : s.libraries.place target = .here)
      (hread : fs.read (.ofText target) = .ok content) (hcontent : Encodes content report)
      (hframe : ∀ location, location ≠ s.files.locationOf (.ofText target) →
        fs.entry? location = s.files.entry? location
        ∨ s.files.entry? location = none ∧ fs.entry? location = some .directory) :
      HasWritten s target report fs
  | elsewhere {content : ByteArray} (hplace : s.libraries.place target = .elsewhere)
      (hcontent : Encodes content report)
      (hstore : s.libraries.store s.files target content = (fs, .ok ())) :
      HasWritten s target report fs

variable {s : Surroundings} {r : PlanRequest} {c : Settings} {ls : List Language} {report : Report}

/-! ### Making the report -/

theorem firstText?_eq_iff {given configured x : Option String} :
  firstText? given configured = x ↔ Chooses given configured x
  := by
  have habsent {given : Option String} :
      given.filter (· ≠ "") = none ↔ given = none ∨ given = some "" := by
    cases given with
    | none => simp
    | some t => simp
  have hpresent {x : String} (hne : x ≠ "") : (some x).filter (· ≠ "") = some x := by
    simp [hne]
  change (given.filter (· ≠ "")).or (configured.filter (· ≠ "")) = x ↔ _
  constructor
  · rintro rfl
    cases hgiven : given.filter (· ≠ "") with
    | some t =>
        obtain ⟨h, hne⟩ := Option.filter_eq_some_iff.mp hgiven
        exact .given h (of_decide_eq_true hne)
    | none =>
        cases hconfigured : configured.filter (· ≠ "") with
        | some t =>
            obtain ⟨h, hne⟩ := Option.filter_eq_some_iff.mp hconfigured
            exact .configured (habsent.mp hgiven) h (of_decide_eq_true hne)
        | none => exact .neither (habsent.mp hgiven) (habsent.mp hconfigured)
  · intro h
    cases h with
    | given h hne => rw [h, hpresent hne, Option.some_or]
    | configured hgiven h hne => rw [habsent.mpr hgiven, h, hpresent hne, Option.none_or]
    | neither hgiven h => rw [habsent.mpr hgiven, habsent.mpr h, Option.none_or]

@[simp] theorem settings_eq_ok_iff {path : Option String} :
  settings s path = .ok c ↔ Configuration.find s.libraries s.files s.env path = .ok c
  := mapError_eq_ok_iff

@[simp] theorem layout_eq_ok_iff {α : Type} {x : Except LayoutError α} {a : α} :
  layout x = .ok a ↔ x = .ok a
  := mapError_eq_ok_iff

theorem resolver_eq_ok_iff {given : Option String} {resolver : Resolver} :
  CommandLine.resolver s c given = .ok resolver
    ↔ ∃ source ds, Chooses given c.declarations (some source)
      ∧ Loading.load s.libraries s.files source = .ok ds
      ∧ Resolver.start {} ds c.foldProtocol = .ok resolver
  := by
  simp only [CommandLine.resolver, ← firstText?_eq_iff]
  cases firstText? given c.declarations with
  | none => simp
  | some source => simp

theorem languages_eq_ok_iff {given : List String} :
  languages c given = .ok ls
    ↔ (given = [] → ls = c.languages)
      ∧ (given ≠ [] →
        List.Forall₂ (fun name l => Text.IsVariant (Text.strip name) l.label) given ls)
  := by
  cases given with
  | nil => simp [languages, eq_comm]
  | cons name names =>
      have hgiven : name :: names ≠ [] := List.cons_ne_nil _ _
      simp only [languages, List.isEmpty_cons, Bool.false_eq_true, if_false, mapM_eq_ok_iff,
        layout_eq_ok_iff, Language.resolve_text_eq_ok_iff, hgiven, false_implies, true_and,
        true_implies, ne_eq, not_false_iff]

/-- A request that is not refused makes a report, and only such a request does. -/
theorem makePlan_eq_ok_iff {made : Settings × List Language × Report} :
  makePlan s r = .ok made
    ↔ ∃ c, Makes s r c made.2.1 made.2.2
      ∧ made.1 = { c with foldProtocol := c.foldProtocol && !r.unfolded }
  := by
  have hfold (c : Settings) : (if r.unfolded then { c with foldProtocol := false } else c)
      = { c with foldProtocol := c.foldProtocol && !r.unfolded } := by
    cases r.unfolded with
    | false => simp
    | true => simp
  simp only [makePlan, bind_eq_ok_iff, hfold, settings_eq_ok_iff, languages_eq_ok_iff,
    resolver_eq_ok_iff, layout_eq_ok_iff]
  constructor
  · rintro ⟨c, hc, ls, hls, resolver, ⟨source, ds, hsource, hload, hstart⟩, report, hreport, ⟨⟩⟩
    exact ⟨c, ⟨hc, hls.1, hls.2, source, ds, resolver, hsource, hload, hstart, hreport⟩, rfl⟩
  · obtain ⟨c', ls, report⟩ := made
    rintro ⟨c, ⟨hc, hnone, hsome, source, ds, resolver, hsource, hload, hstart, hreport⟩, rfl⟩
    exact ⟨c, hc, ls, ⟨hnone, hsome⟩, resolver, ⟨source, ds, hsource, hload, hstart⟩, report,
      hreport, rfl⟩

theorem Makes.makePlan_eq (h : Makes s r c ls report) :
  makePlan s r = .ok ({ c with foldProtocol := c.foldProtocol && !r.unfolded }, ls, report)
  := makePlan_eq_ok_iff.mpr ⟨c, h, rfl⟩

theorem Makes.settings_eq (h : Makes s r c ls report) {c' : Settings}
    (hc : Configuration.find s.libraries s.files s.env r.configuration = .ok c') :
  c = c'
  := Except.ok.inj (h.configuration.symm.trans hc)

/-- A request is for one report, with the same settings and languages whenever it is made. -/
theorem Makes.unique (h : Makes s r c ls report) {c' : Settings} {ls' : List Language}
    {report' : Report} (h' : Makes s r c' ls' report') :
  c' = c ∧ ls' = ls ∧ report' = report
  := by
  have hmade := Except.ok.inj (h'.makePlan_eq.symm.trans h.makePlan_eq)
  simp only [Prod.mk.injEq] at hmade
  exact ⟨h'.settings_eq h.configuration, hmade.2⟩

theorem Makes.isReadable (h : Makes s r c ls report) :
  ∀ e ∈ report.entries, e.IsReadable
  := by
  obtain ⟨source, ds, resolver, -, -, -, hreport⟩ := h.reported
  exact fun e => Report.isReadable_of_ofResolver hreport

/-! ### Writing the report -/

/-- That a report can be written to a target: it is a writable path here, or another storage takes
the text. -/
inductive CanStore (s : Surroundings) (target : String) (report : Report) : Prop where
  | here (hplace : s.libraries.place target = .here)
      (h : s.files.IsWritable (.ofText target)) : CanStore s target report
  | elsewhere {fs : FileSystem} (hplace : s.libraries.place target = .elsewhere)
      (h : s.libraries.store s.files target report.text.toUTF8 = (fs, .ok ())) :
      CanStore s target report

theorem encodes_of_isReadable (h : ∀ e ∈ report.entries, e.IsReadable) :
  Encodes report.text.toUTF8 report
  := by
  constructor
  · rfl
  · rw [Report.decode?_toUTF8, Option.bind_some, Report.parse?_text h]
  · rw [Report.decode?_toUTF8, Option.bind_some, Report.read?_text h]

theorem store_eq_ok_iff {target : String} {fs : FileSystem} :
  store s target report = (fs, .ok ())
    ↔ (s.libraries.place target = .here
        ∧ s.files.writeBelow (.ofText target) report.text.toUTF8 = (fs, .ok ()))
      ∨ s.libraries.place target = .elsewhere
        ∧ s.libraries.store s.files target report.text.toUTF8 = (fs, .ok ())
  := by
  rw [store]
  cases hplace : s.libraries.place target with
  | here =>
      cases s.files.writeBelow (.ofText target) report.text.toUTF8 with
      | mk fs' result => simp
  | elsewhere => simp
  | nowhere f => simp

theorem exists_store_iff {target : String} :
  (∃ fs, store s target report = (fs, .ok ())) ↔ CanStore s target report
  := by
  simp only [store_eq_ok_iff]
  constructor
  · rintro ⟨fs, ⟨hplace, h⟩ | ⟨hplace, h⟩⟩
    · exact .here hplace (FileSystem.exists_writeBelow_iff.mp ⟨fs, h⟩)
    · exact .elsewhere hplace h
  · rintro (⟨hplace, h⟩ | ⟨hplace, h⟩)
    · obtain ⟨fs, hwrite⟩ := FileSystem.exists_writeBelow_iff.mpr h
      exact ⟨fs, .inl ⟨hplace, hwrite⟩⟩
    · exact ⟨_, .inr ⟨hplace, h⟩⟩

/-- When its storing succeeds, a report that can be read back has been written. -/
theorem hasWritten_of_store {target : String} {fs : FileSystem}
    (hreport : ∀ e ∈ report.entries, e.IsReadable) (h : store s target report = (fs, .ok ())) :
  HasWritten s target report fs
  := by
  have hcontent := encodes_of_isReadable hreport
  rcases store_eq_ok_iff.mp h with ⟨hplace, hwrite⟩ | ⟨hplace, hstore⟩
  · obtain ⟨hread, hframe⟩ := FileSystem.of_writeBelow hwrite
    exact .here hplace hread hcontent hframe
  · exact .elsewhere hplace hcontent hstore

/-! ### The course of a plan -/

/-- What is told when a report has been written. -/
def notice (target : String) : String :=
  "[dim]Layout report written to " ++ target ++ "[/dim]"

/-- How a plan can go: it fails before there is a report, its table is not printed, the report is
shown only, or there is a target that it is not written to, or one that it is written to. -/
inductive Course (s : Surroundings) (r : PlanRequest) : Prop where
  | failed {e : Failure Refusal} (h : makePlan s r = .error e)
      (hplan : plan s r = (s.files, fail e)) : Course s r
  | unprinted {c : Settings} {ls : List Language} {report : Report} {f : Fault}
      (h : Makes s r c ls report) (htable : (reportTable ls report).printed = .error f)
      (hplan : plan s r = (s.files, .fault f)) : Course s r
  | shown {c : Settings} {ls : List Language} {report : Report} {table : String}
      (h : Makes s r c ls report) (htable : (reportTable ls report).printed = .ok table)
      (htarget : Chooses r.output c.output none)
      (hplan : plan s r = (s.files, .printed table)) : Course s r
  | unwritten {c : Settings} {ls : List Language} {report : Report} {table target : String}
      {fs : FileSystem} {f : Fault} (h : Makes s r c ls report)
      (htable : (reportTable ls report).printed = .ok table)
      (htarget : Chooses r.output c.output (some target))
      (hstore : store s target report = (fs, .error f))
      (hplan : plan s r = (fs, .fault f)) : Course s r
  | written {c : Settings} {ls : List Language} {report : Report} {table target : String}
      {fs : FileSystem} (h : Makes s r c ls report)
      (htable : (reportTable ls report).printed = .ok table)
      (htarget : Chooses r.output c.output (some target))
      (hstore : store s target report = (fs, .ok ()))
      (hplan : plan s r = (fs, print ((Markup.printed (notice target)).map (table ++ ·)))) :
      Course s r

theorem plan_course (s : Surroundings) (r : PlanRequest) :
  Course s r
  := by
  cases hmade : makePlan s r with
  | error e =>
      apply Course.failed hmade
      simp only [plan, hmade]
  | ok made =>
      obtain ⟨c, h, hc⟩ := makePlan_eq_ok_iff.mp hmade
      obtain ⟨c', ls, report⟩ := made
      obtain rfl : c' = _ := hc
      cases htable : (reportTable ls report).printed with
      | error f =>
          apply Course.unprinted h htable
          simp only [plan, hmade, htable]
      | ok table =>
          cases htarget : firstText? r.output c.output with
          | none =>
              apply Course.shown h htable (firstText?_eq_iff.mp htarget)
              simp only [plan, hmade, htable, htarget]
          | some target =>
              cases hstore : store s target report with
              | mk fs result =>
                  cases result with
                  | error f =>
                      apply Course.unwritten h htable (firstText?_eq_iff.mp htarget) hstore
                      simp only [plan, hmade, htable, htarget, writeReport, hstore]
                  | ok _ =>
                      apply Course.written h htable (firstText?_eq_iff.mp htarget) hstore
                      simp only [plan, hmade, htable, htarget, writeReport, hstore]
                      rfl

/-! ### All or nothing -/

/-- A choice between two texts has one outcome. -/
theorem Chooses.unique {given configured x y : Option String} (h : Chooses given configured x)
    (h' : Chooses given configured y) :
  y = x
  := by
  rw [← firstText?_eq_iff] at h h'
  exact h'.symm.trans h

theorem print_ne_refused {x : Except Fault String} {refusal : Refusal} {text : Option String} :
  print x ≠ .refused refusal text
  := by
  cases x with
  | ok printed => nofun
  | error f => nofun

theorem fail_exitCode (e : Failure Refusal) :
  (fail e).exitCode = 1
  := by
  cases e with
  | fault f => rfl
  | refused refusal =>
      rw [fail]
      split
      · rfl
      · split
        · rfl
        · rfl

theorem files_of_refused {refusal : Refusal} {text : Option String}
    (h : (plan s r).2 = .refused refusal text) :
  (plan s r).1 = s.files
  := by
  cases plan_course s r with
  | failed _ hplan => rw [hplan]
  | unprinted _ _ hplan => rw [hplan]
  | shown _ _ _ hplan => rw [hplan]
  | unwritten _ _ _ _ hplan =>
      rw [hplan] at h
      cases h
  | written _ _ _ _ hplan =>
      rw [hplan] at h
      exact absurd h print_ne_refused

theorem files_of_no_target
    (hc : Configuration.find s.libraries s.files s.env r.configuration = .ok c)
    (hnone : Chooses r.output c.output none) :
  (plan s r).1 = s.files
  := by
  cases plan_course s r with
  | failed _ hplan => rw [hplan]
  | unprinted _ _ hplan => rw [hplan]
  | shown _ _ _ hplan => rw [hplan]
  | unwritten h _ htarget =>
      rw [h.settings_eq hc] at htarget
      cases htarget.unique hnone
  | written h _ htarget =>
      rw [h.settings_eq hc] at htarget
      cases htarget.unique hnone

/-- When a plan succeeds, its report is made, and written if there is a target for it. -/
theorem of_exitCode_eq_zero (hcode : (plan s r).2.exitCode = 0) :
  ∃ c ls report, Makes s r c ls report
    ∧ ∀ target, Chooses r.output c.output (some target) → HasWritten s target report (plan s r).1
  := by
  cases plan_course s r with
  | failed _ hplan =>
      rw [hplan, fail_exitCode] at hcode
      cases hcode
  | unprinted _ _ hplan =>
      rw [hplan] at hcode
      cases hcode
  | shown h _ hnone =>
      refine ⟨_, _, _, h, ?_⟩
      intro target htarget
      cases hnone.unique htarget
  | unwritten _ _ _ _ hplan =>
      rw [hplan] at hcode
      cases hcode
  | written h _ hsome hstore hplan =>
      refine ⟨_, _, _, h, ?_⟩
      intro target htarget
      cases hsome.unique htarget
      rw [hplan]
      exact hasWritten_of_store h.isReadable hstore

/-- A refused request leaves the files as they are, and so does one without a target.  When a plan
succeeds, its report is made, and the target holds exactly the text of it. -/
theorem plan_all_or_nothing (s : Surroundings) (r : PlanRequest) :
  (∀ refusal text, (plan s r).2 = .refused refusal text → (plan s r).1 = s.files)
    ∧ (∀ c, Configuration.find s.libraries s.files s.env r.configuration = .ok c →
      Chooses r.output c.output none → (plan s r).1 = s.files)
    ∧ ((plan s r).2.exitCode = 0 → ∃ c ls report, Makes s r c ls report
      ∧ ∀ target, Chooses r.output c.output (some target) → HasWritten s target report (plan s r).1)
  := ⟨fun _ _ => files_of_refused, fun _ => files_of_no_target, of_exitCode_eq_zero⟩

/-- A working directory with a declared message and a directory for reports. -/
def mailFiles : FileSystem :=
  ⟨[(["work"], .directory),
    (["work", "mail.json"],
      .file "[\x7b\"protocol_id\": 71, \"declaration_name\": \"mail.Send\"\x7d]".toUTF8),
    (["work", "reports"], .directory)], ["work"]⟩

/-- A request for the report on the declared message. -/
def mailRequest (target : String) : PlanRequest :=
  ⟨some "mail.json", none, ["Go"], false, some target⟩

/-- The report on the declared message. -/
def mailReport : Report :=
  ⟨true, [⟨71, "mail.Send", "Send", "mail", "mail", [(.go, "mail/Send")]⟩]⟩

/-- The text of this report. -/
def mailText : String :=
  "\x7b\n  \"fold_protocol\": true,\n  \"entries\": [\n    \x7b\n"
    ++ "      \"protocol_id\": 71,\n      \"declaration_name\": \"mail.Send\",\n"
    ++ "      \"simple_name\": \"Send\",\n      \"path\": \"mail\",\n"
    ++ "      \"fold_group\": \"mail\",\n      \"absolute_paths\": \x7b\n"
    ++ "        \"Go\": \"mail/Send\"\n      \x7d\n    \x7d\n  ]\n\x7d\n"

theorem find_mailFiles :
  Configuration.find .standard mailFiles [] none = .ok {}
  := by
  decide +kernel

theorem makes_mailReport (target : String) :
  Makes ⟨mailFiles, [], .standard⟩ (mailRequest target) {} [.go] mailReport
  := by
  have hmade : (makePlan ⟨mailFiles, [], .standard⟩ (mailRequest "")).toOption
      = some ({}, [.go], mailReport) := by
    decide +kernel
  obtain ⟨c, h, -⟩ := makePlan_eq_ok_iff.mp (toOption_eq_some_iff.mp hmade)
  obtain rfl := h.settings_eq find_mailFiles
  exact ⟨h.configuration, h.configured, h.named, h.reported⟩

/-- The text of the report is in its target, below a new directory, when it has been written. -/
theorem plan_all_or_nothing_mailMessages :
  (plan ⟨mailFiles, [], .standard⟩ (mailRequest "reports/new/layout.json")).2.exitCode = 0
    ∧ Makes ⟨mailFiles, [], .standard⟩ (mailRequest "reports/new/layout.json") {} [.go] mailReport
    ∧ (plan ⟨mailFiles, [], .standard⟩ (mailRequest "reports/new/layout.json")).1.read
        (.ofText "reports/new/layout.json") = .ok mailText.toUTF8
  := by
  have hcode : (plan ⟨mailFiles, [], .standard⟩
      (mailRequest "reports/new/layout.json")).2.exitCode = 0 := by
    decide +kernel
  have hmakes := makes_mailReport "reports/new/layout.json"
  have htext : mailReport.text = mailText := by decide +kernel
  obtain ⟨-, -, hsuccess⟩ := plan_all_or_nothing ⟨mailFiles, [], .standard⟩
    (mailRequest "reports/new/layout.json")
  obtain ⟨c, ls, report, hmade, hwritten⟩ := hsuccess hcode
  obtain ⟨-, -, rfl⟩ := hmakes.unique hmade
  refine ⟨hcode, hmakes, ?_⟩
  cases hwritten _ (.given rfl (by decide)) with
  | here hplace hread hcontent =>
      rw [hread, hcontent.exact, htext]
  | elsewhere hplace =>
      have hhere : Libraries.standard.place "reports/new/layout.json" = .here := by decide +kernel
      cases hplace.symm.trans hhere

end CommandLine

end MessagePlacement
