import MessagePlacement.Proofs.CommandLine.Planning
import MessagePlacement.Proofs.Loading.Causes

/-!
# Plans that meet faults

A plan for which a configuration is found ends with a table or with a refusal, if all that it shows
can be printed, unless it meets a fault: it loads a faulty file of declarations, or it makes a
report for a target that this cannot be written to.
-/

namespace MessagePlacement

namespace CommandLine

/-- `IsShown s r x`: the request shows a text, which is printed as `x`. -/
inductive IsShown (s : Surroundings) (r : PlanRequest) : Except Fault String → Prop where
  | refusal {refusal : Refusal} {message : String} (h : makePlan s r = .error (.refused refusal))
      (hmessage : refusal.message? = some message) :
      IsShown s r (Markup.printed ("[red]Error:[/red] " ++ message))
  | table {c : Settings} {ls : List Language} {report : Report} (h : Makes s r c ls report) :
      IsShown s r (reportTable ls report).printed
  | notice {c : Settings} {ls : List Language} {report : Report} {target : String}
      (h : Makes s r c ls report) (htarget : Chooses r.output c.output (some target)) :
      IsShown s r (Markup.printed (notice target))

/-- That whatever a request shows can be printed. -/
def IsPrintable (s : Surroundings) (r : PlanRequest) : Prop :=
  ∀ x, IsShown s r x → ∃ text, x = .ok text

/-- What a request can meet without its being refused. -/
inductive MeetsFault (s : Surroundings) (r : PlanRequest) : Prop where
  | declarations {c : Settings} {source : String}
      (hc : Configuration.find s.libraries s.files s.env r.configuration = .ok c)
      (hlanguages : ∀ name ∈ r.languages, ∃ l : Language,
        Text.IsVariant (Text.strip name) l.label)
      (hsource : Chooses r.declarations c.declarations (some source))
      (h : Loading.IsFaulty s.libraries s.files source) : MeetsFault s r
  | target {c : Settings} {ls : List Language} {report : Report} {target : String}
      (hmakes : Makes s r c ls report) (htarget : Chooses r.output c.output (some target))
      (h : ¬ CanStore s target report) : MeetsFault s r

/-- `HasWholePairs s source`: in a file of declarations no text writes half of a surrogate pair by
itself. -/
def HasWholePairs (s : Surroundings) (source : String) : Prop :=
  ∀ text, Loading.HasText s.libraries s.files source text →
    ¬ Loading.WritesHalfPair s.libraries source text

variable {s : Surroundings} {r : PlanRequest} {c : Settings} {ls : List Language} {report : Report}

/-! ### Faults before there is a report -/

theorem exists_languages_iff {given : List String} :
  (∃ ls, languages c given = .ok ls)
    ↔ ∀ name ∈ given, ∃ l : Language, Text.IsVariant (Text.strip name) l.label
  := by
  cases given with
  | nil => simp [languages]
  | cons name names =>
      simp only [languages, List.isEmpty_cons, Bool.false_eq_true, if_false, exists_mapM_iff,
        layout_eq_ok_iff, Language.resolve_text_eq_ok_iff]

theorem layout_ne_fault {α : Type} {x : Except LayoutError α} {f : Fault} :
  layout x ≠ .error (.fault f)
  := by
  intro h
  obtain ⟨e, -, ⟨⟩⟩ := mapError_eq_error_iff.mp h

theorem languages_ne_fault {given : List String} {f : Fault} :
  languages c given ≠ .error (.fault f)
  := by
  intro h
  rw [languages] at h
  split at h
  · cases h
  · obtain ⟨name, -, hname⟩ := exists_of_mapM_eq_error h
    exact layout_ne_fault hname

@[simp] theorem failure_eq_fault_iff {ε : Type} {g : ε → Refusal} {e : Failure ε} {f : Fault} :
  failure g e = .fault f ↔ e = .fault f
  := by
  cases e with
  | refused e => simp [failure]
  | fault f' => simp [failure]

theorem resolver_eq_fault_iff {given : Option String} {f : Fault} :
  CommandLine.resolver s c given = .error (.fault f)
    ↔ ∃ source, Chooses given c.declarations (some source)
      ∧ Loading.load s.libraries s.files source = .error (.fault f)
  := by
  simp only [CommandLine.resolver, ← firstText?_eq_iff]
  cases firstText? given c.declarations with
  | none => simp
  | some source => simp [layout_ne_fault]

/-- With settings, only the declarations can be at fault that there is no report. -/
theorem exists_makePlan_fault_iff
    (hc : Configuration.find s.libraries s.files s.env r.configuration = .ok c)
    (hpairs : ∀ source, Chooses r.declarations c.declarations (some source) →
      HasWholePairs s source) :
  (∃ f, makePlan s r = .error (.fault f))
    ↔ (∀ name ∈ r.languages, ∃ l : Language, Text.IsVariant (Text.strip name) l.label)
      ∧ ∃ source, Chooses r.declarations c.declarations (some source)
        ∧ Loading.IsFaulty s.libraries s.files source
  := by
  have hmade (x : Settings × List Language × Report) (f : Fault) :
      (pure x : Except (Failure Refusal) _) ≠ .error (.fault f) := nofun
  simp only [makePlan, bind_eq_error_iff, settings_eq_ok_iff.mpr hc, languages_ne_fault,
    resolver_eq_fault_iff, layout_ne_fault, hmade, reduceCtorEq, false_or, Except.ok.injEq,
    exists_eq_left', and_false, exists_false, or_false, apply_ite Settings.declarations, ite_self]
  constructor
  · rintro ⟨f, ls, hls, source, hsource, hload⟩
    have hfaulty := (Loading.exists_load_fault_iff (hpairs source hsource)).mp ⟨f, hload⟩
    exact ⟨exists_languages_iff.mp ⟨ls, hls⟩, source, hsource, hfaulty⟩
  · rintro ⟨hlanguages, source, hsource, hfaulty⟩
    obtain ⟨ls, hls⟩ := exists_languages_iff.mpr hlanguages
    obtain ⟨f, hload⟩ := (Loading.exists_load_fault_iff (hpairs source hsource)).mpr hfaulty
    exact ⟨f, ls, hls, source, hsource, hload⟩

/-! ### Endings -/

theorem exists_fail_refused_iff {refusal : Refusal} :
  (∃ refusal' text, fail (.refused refusal) = .refused refusal' text)
    ↔ ∀ message, refusal.message? = some message →
      ∃ text, Markup.printed ("[red]Error:[/red] " ++ message) = .ok text
  := by
  rw [fail]
  split
  · rename_i hmessage
    simp [hmessage]
  · rename_i message hmessage
    simp only [hmessage, Option.some.injEq, forall_eq']
    cases Markup.printed ("[red]Error:[/red] " ++ message) with
    | ok text => simp
    | error f => simp

theorem Makes.isPrintable_iff (h : Makes s r c ls report) :
  IsPrintable s r
    ↔ (∃ table, (reportTable ls report).printed = .ok table)
      ∧ ∀ target, Chooses r.output c.output (some target) →
        ∃ text, Markup.printed (notice target) = .ok text
  := by
  constructor
  · intro hprint
    exact ⟨hprint _ (.table h), fun target htarget => hprint _ (.notice h htarget)⟩
  · rintro ⟨htable, hnotice⟩ x hx
    cases hx with
    | refusal hmade =>
        rw [h.makePlan_eq] at hmade
        cases hmade
    | table h' =>
        obtain ⟨-, rfl, rfl⟩ := h.unique h'
        exact htable
    | notice h' htarget =>
        obtain ⟨rfl, -, -⟩ := h.unique h'
        exact hnotice _ htarget

theorem Makes.meetsFault_iff (h : Makes s r c ls report)
    (hpairs : ∀ source, Chooses r.declarations c.declarations (some source) →
      HasWholePairs s source) :
  MeetsFault s r
    ↔ ∃ target, Chooses r.output c.output (some target) ∧ ¬ CanStore s target report
  := by
  constructor
  · intro hfault
    cases hfault with
    | declarations hc hlanguages hsource hfaulty =>
        obtain rfl := h.settings_eq hc
        obtain ⟨f, hmade⟩ :=
          (exists_makePlan_fault_iff hc hpairs).mpr ⟨hlanguages, _, hsource, hfaulty⟩
        rw [h.makePlan_eq] at hmade
        cases hmade
    | target h' htarget hstore =>
        obtain ⟨rfl, -, rfl⟩ := h.unique h'
        exact ⟨_, htarget, hstore⟩
  · rintro ⟨target, htarget, hstore⟩
    exact .target h htarget hstore

theorem isPrintable_iff_of_refused {refusal : Refusal}
    (h : makePlan s r = .error (.refused refusal)) :
  IsPrintable s r
    ↔ ∀ message, refusal.message? = some message →
      ∃ text, Markup.printed ("[red]Error:[/red] " ++ message) = .ok text
  := by
  constructor
  · intro hprint message hmessage
    exact hprint _ (.refusal h hmessage)
  · intro hmessage x hx
    cases hx with
    | refusal h' hmessage' =>
        rw [h] at h'
        cases h'
        exact hmessage _ hmessage'
    | table h' =>
        rw [h'.makePlan_eq] at h
        cases h
    | notice h' htarget =>
        rw [h'.makePlan_eq] at h
        cases h

theorem not_meetsFault_of_refused {refusal : Refusal}
    (hc : Configuration.find s.libraries s.files s.env r.configuration = .ok c)
    (hpairs : ∀ source, Chooses r.declarations c.declarations (some source) →
      HasWholePairs s source)
    (h : makePlan s r = .error (.refused refusal)) :
  ¬ MeetsFault s r
  := by
  intro hfault
  cases hfault with
  | declarations hc' hlanguages hsource hfaulty =>
      obtain rfl := Except.ok.inj (hc.symm.trans hc')
      obtain ⟨f, hmade⟩ :=
        (exists_makePlan_fault_iff hc hpairs).mpr ⟨hlanguages, _, hsource, hfaulty⟩
      rw [h] at hmade
      cases hmade
  | target h' =>
      rw [h'.makePlan_eq] at h
      cases h

/-- A plan for which settings are found ends with a table or a refusal exactly when all that it
shows can be printed and it meets no fault.  The declarations that are given or configured have no
half of a surrogate pair in them. -/
theorem plan_answers_iff
    (s : Surroundings) (r : PlanRequest) (c : Settings)
    (hc : Configuration.find s.libraries s.files s.env r.configuration = .ok c)
    (hpairs : ∀ source, Chooses r.declarations c.declarations (some source) →
      HasWholePairs s source) :
  ((plan s r).2.exitCode = 0 ∨ ∃ refusal text, (plan s r).2 = .refused refusal text)
    ↔ IsPrintable s r ∧ ¬ MeetsFault s r
  := by
  cases plan_course s r with
  | failed h hplan =>
      rename_i e
      rw [hplan]
      simp only [fail_exitCode, Nat.one_ne_zero, false_or]
      cases e with
      | fault f =>
          obtain ⟨hlanguages, source, hsource, hfaulty⟩ :=
            (exists_makePlan_fault_iff hc hpairs).mp ⟨f, h⟩
          apply iff_of_false
          · nofun
          · exact fun hnot => hnot.2 (.declarations hc hlanguages hsource hfaulty)
      | refused refusal =>
          rw [exists_fail_refused_iff, isPrintable_iff_of_refused h]
          rw [and_iff_left (not_meetsFault_of_refused hc hpairs h)]
  | unprinted h htable hplan =>
      rw [hplan, h.isPrintable_iff]
      apply iff_of_false
      · nofun
      · simp [htable]
  | shown h htable htarget hplan =>
      obtain rfl := (h.settings_eq hc).symm
      have hnone (target : String) : ¬ Chooses r.output c.output (some target) :=
        fun htarget' => by cases htarget.unique htarget'
      rw [hplan, h.isPrintable_iff, h.meetsFault_iff hpairs]
      apply iff_of_true
      · exact .inl rfl
      · simp [htable, hnone]
  | unwritten h htable htarget hstore hplan =>
      obtain rfl := (h.settings_eq hc).symm
      rw [hplan, h.meetsFault_iff hpairs]
      apply iff_of_false
      · nofun
      · rintro ⟨-, hstorable⟩
        apply hstorable
        refine ⟨_, htarget, ?_⟩
        rw [← exists_store_iff, hstore]
        simp
  | written h htable htarget hstore hplan =>
      rename_i target fs
      obtain rfl := (h.settings_eq hc).symm
      have hsome (target' : String) :
          Chooses r.output c.output (some target') ↔ target' = target := by
        constructor
        · intro htarget'
          exact Option.some.inj (htarget.unique htarget')
        · rintro rfl
          exact htarget
      have hstorable := exists_store_iff.mp ⟨_, hstore⟩
      rw [hplan, h.isPrintable_iff, h.meetsFault_iff hpairs]
      simp only [htable, hsome, forall_eq, exists_eq_left, hstorable]
      cases Markup.printed (notice target) with
      | ok text => simp [print, Ending.exitCode, Except.map]
      | error f => simp [print, Ending.exitCode, Except.map]

/-- There is no half of a surrogate pair in the file of the declared message. -/
theorem hasWholePairs_mailFiles (source : String)
    (h : Chooses (some "mail.json") none (some source)) :
  HasWholePairs ⟨mailFiles, [], .standard⟩ source
  := by
  obtain ⟨source', ds, -, hsource, hload, -⟩ := (makes_mailReport "").reported
  obtain rfl := Option.some.inj (hsource.unique h)
  exact Loading.not_writesHalfPair_of_load hload

/-- A plan that ends with a table meets no fault. -/
theorem plan_answers_iff_mailMessages :
  Configuration.find .standard mailFiles [] none = .ok {}
    ∧ (∀ source, Chooses (some "mail.json") none (some source) →
      HasWholePairs ⟨mailFiles, [], .standard⟩ source)
    ∧ (plan ⟨mailFiles, [], .standard⟩ (mailRequest "reports/layout.json")).2.exitCode = 0
    ∧ IsPrintable ⟨mailFiles, [], .standard⟩ (mailRequest "reports/layout.json")
    ∧ ¬ MeetsFault ⟨mailFiles, [], .standard⟩ (mailRequest "reports/layout.json")
  := by
  have hcode : (plan ⟨mailFiles, [], .standard⟩
      (mailRequest "reports/layout.json")).2.exitCode = 0 := by
    decide +kernel
  have hanswers := plan_answers_iff ⟨mailFiles, [], .standard⟩ (mailRequest "reports/layout.json")
    {} find_mailFiles hasWholePairs_mailFiles
  exact ⟨find_mailFiles, hasWholePairs_mailFiles, hcode, hanswers.mp (.inl hcode)⟩

/-- A target that is a directory is met with a fault: though the configuration is accepted and all
that is shown can be printed, the plan does not succeed and is not refused either. -/
theorem not_plan_answers_mailMessages :
  Configuration.find .standard mailFiles [] none = .ok {}
    ∧ IsPrintable ⟨mailFiles, [], .standard⟩ (mailRequest "reports")
    ∧ ¬ ((plan ⟨mailFiles, [], .standard⟩ (mailRequest "reports")).2.exitCode = 0
      ∨ ∃ refusal text,
        (plan ⟨mailFiles, [], .standard⟩ (mailRequest "reports")).2 = .refused refusal text)
  := by
  have h := makes_mailReport "reports"
  have hprintable : IsPrintable ⟨mailFiles, [], .standard⟩ (mailRequest "reports") := by
    rw [h.isPrintable_iff]
    constructor
    · simp only [← toOption_eq_some_iff, ← Option.isSome_iff_exists]
      decide +kernel
    · intro target htarget
      obtain rfl := Option.some.inj (htarget.unique (.given rfl (by decide)))
      simp only [← toOption_eq_some_iff, ← Option.isSome_iff_exists]
      decide +kernel
  refine ⟨find_mailFiles, hprintable, ?_⟩
  cases plan_course ⟨mailFiles, [], .standard⟩ (mailRequest "reports") with
  | failed hfailed hplan =>
      rw [h.makePlan_eq] at hfailed
      cases hfailed
  | unprinted h' htable hplan =>
      obtain ⟨table, hprinted⟩ := hprintable _ (.table h')
      rw [hprinted] at htable
      cases htable
  | shown h' htable htarget hplan =>
      cases htarget.unique (.given rfl (by decide))
  | unwritten h' htable htarget hstore hplan =>
      rw [hplan]
      nofun
  | written h' htable htarget hstore hplan =>
      obtain rfl := Option.some.inj (htarget.unique (.given rfl (by decide)))
      rcases store_eq_ok_iff.mp hstore with ⟨-, hwrite⟩ | ⟨hplace, -⟩
      · have hwritable := FileSystem.exists_writeBelow_iff.mp ⟨_, hwrite⟩
        exact absurd (by decide +kernel) hwritable.not_directory
      · have hhere : Libraries.standard.place "reports" = .here := by decide +kernel
        cases hplace.symm.trans hhere

end CommandLine

end MessagePlacement
