import MessagePlacement.Proofs.History
import MessagePlacement.Proofs.Layout.Refusal
import MessagePlacement.Proofs.Session.Operations

/-!
# When a session starts

A session without a plan starts with a list of declarations exactly when there is a layout of
them, and otherwise fails with the duplicate for which the layout is refused.  A session with a
plan does not start at all.  A start that fails leaves the session as it was.
-/

namespace MessagePlacement.Session

variable {s : Session} {ds : List Declaration} {fold : Bool}

/-- A start succeeds when there is a layout and no plan yet. -/
theorem start_of_ok (hs : s.plan = none) {l : Layout}
    (hl : Layout.ofDeclarations ds fold = .ok l) :
  (start ds fold).outcome s = .ok ()
    ∧ (start ds fold).stateAfter s = ofResolver ⟨s.naming, some l⟩
  := by
  have hrun := run_start ds fold s
  rw [hs, hl] at hrun
  apply Attempt.outcome_of_ok hrun

theorem start_of_error (hs : s.plan = none) {e : LayoutError}
    (he : Layout.ofDeclarations ds fold = .error e) :
  (start ds fold).outcome s = .error (.refused e) ∧ (start ds fold).stateAfter s = s
  := by
  have hrun := run_start ds fold s
  rw [hs, he] at hrun
  apply Attempt.outcome_of_error hrun

theorem start_of_plan (hs : s.plan ≠ none) :
  (start ds fold).outcome s = .error (.refused .alreadyInitialized)
    ∧ (start ds fold).stateAfter s = s
  := by
  obtain ⟨plan, hplan⟩ := Option.ne_none_iff_exists'.mp hs
  have hrun := run_start ds fold s
  rw [hplan] at hrun
  apply Attempt.outcome_of_error hrun

/-- A start that fails changes nothing. -/
theorem stateAfter_start_of_error {e : Failure LayoutError}
    (he : (start ds fold).outcome s = .error e) :
  (start ds fold).stateAfter s = s
  := by
  by_cases hs : s.plan = none
  · cases hl : Layout.ofDeclarations ds fold with
    | error e => exact (start_of_error hs hl).2
    | ok l =>
        rw [(start_of_ok hs hl).1] at he
        cases he
  · exact (start_of_plan hs).2

/-- Without a plan, a start fails with a duplicate exactly when an id or a name is repeated: for
repeated ids at the first declaration whose id has occurred before, and otherwise at the
declaration of the least id whose name has a smaller id, for the least id of that name.  With a
plan, a start always fails.  Whenever it fails, the session is what it was before. -/
theorem start_refuses_duplicates (s : Session) (ds : List Declaration) (fold : Bool) :
  (s.plan = none →
      ((∃ name id existing, (start ds fold).outcome s
            = .error (.refused (.duplicate name id existing)))
        ↔ ¬ (ds.map (·.id)).Nodup ∨ ¬ (ds.map (·.name)).Nodup)
      ∧ ((ds.map (·.id)).Nodup → (ds.map (·.name)).Nodup → (start ds fold).outcome s = .ok ())
      ∧ (¬ (ds.map (·.id)).Nodup →
          ∃ before d after, ds = before ++ d :: after ∧ (before.map (·.id)).Nodup
            ∧ d.id ∈ before.map (·.id)
            ∧ (start ds fold).outcome s = .error (.refused (.duplicate d.name d.id d.id)))
      ∧ ((ds.map (·.id)).Nodup → ¬ (ds.map (·.name)).Nodup →
          ∃ d ∈ ds, ∃ e ∈ ds, IsLeast (Layout.laterIds ds) d.id
            ∧ IsLeast (Layout.idsOf ds d.name) e.id
            ∧ (start ds fold).outcome s = .error (.refused (.duplicate d.name d.id e.id))))
    ∧ (s.plan ≠ none → (start ds fold).outcome s = .error (.refused .alreadyInitialized))
    ∧ ∀ e, (start ds fold).outcome s = .error e → (start ds fold).stateAfter s = s
  := by
  refine ⟨?_, fun hs => (start_of_plan hs).1, fun e => stateAfter_start_of_error⟩
  intro hs
  refine ⟨?_, ?_, ?_, ?_⟩
  · rw [← Layout.exists_error_iff ds fold]
    constructor
    · rintro ⟨name, id, existing, he⟩
      cases hl : Layout.ofDeclarations ds fold with
      | error e => use e
      | ok l =>
          rw [(start_of_ok hs hl).1] at he
          cases he
    · rintro ⟨e, he⟩
      obtain ⟨name, id, existing, rfl⟩ := Layout.exists_duplicate_of_error he
      exact ⟨name, id, existing, (start_of_error hs he).1⟩
  · intro hid hname
    obtain ⟨l, hl⟩ := Layout.exists_ofDeclarations_iff.mpr ⟨hid, hname⟩
    exact (start_of_ok hs hl).1
  · intro hid
    obtain ⟨before, d, after, hsplit, hnodup, hmem, he⟩ :=
      Layout.ofDeclarations_of_repeated_id fold hid
    exact ⟨before, d, after, hsplit, hnodup, hmem, (start_of_error hs he).1⟩
  · intro hid hname
    obtain ⟨d, hd, e, he, hlater, hleast, herror⟩ :=
      Layout.ofDeclarations_of_repeated_name fold hid hname
    exact ⟨d, hd, e, he, hlater, hleast, (start_of_error hs herror).1⟩

/-- Messages of distinct ids and two names. -/
def clashingMessages : List Declaration :=
  [⟨20, "m.P", none, by decide, by decide, by decide, by decide⟩,
    ⟨12, "m.Q", none, by decide, by decide, by decide, by decide⟩,
    ⟨16, "m.P", none, by decide, by decide, by decide, by decide⟩,
    ⟨14, "m.Q", none, by decide, by decide, by decide, by decide⟩]

/-- The third message is the first whose name has occurred, but the fourth one is refused. -/
theorem start_refuses_clashingMessages :
  (clashingMessages.map (·.id)).Nodup ∧ ¬ (clashingMessages.map (·.name)).Nodup
    ∧ (start clashingMessages true).outcome {} = .error (.refused (.duplicate "m.Q" 14 12))
    ∧ (start clashingMessages true).stateAfter {} = {}
  := by
  have hid : (clashingMessages.map (·.id)).Nodup := by decide
  have hname : ¬ (clashingMessages.map (·.name)).Nodup := by decide
  obtain ⟨hnone, -, hstate⟩ := start_refuses_duplicates {} clashingMessages true
  obtain ⟨d, hd, e, -, hlater, hleast, herror⟩ := (hnone rfl).2.2.2 hid hname
  have hfourth : IsLeast (Layout.laterIds clashingMessages) 14 := by
    constructor
    · exact ⟨clashingMessages[3], by decide, rfl, clashingMessages[1], by decide, rfl, by decide⟩
    · have hall : ∀ a ∈ clashingMessages, ∀ b ∈ clashingMessages,
          b.name = a.name → b.id < a.id → 14 ≤ a.id := by decide
      rintro _ ⟨a, ha, rfl, b, hb, hab, hlt⟩
      apply hall a ha b hb hab hlt
  have hsecond : IsLeast (Layout.idsOf clashingMessages "m.Q") 12 := by
    constructor
    · exact ⟨clashingMessages[1], by decide, rfl, rfl⟩
    · have hall : ∀ a ∈ clashingMessages, a.name = "m.Q" → 12 ≤ a.id := by decide
      rintro _ ⟨a, ha, rfl, hname⟩
      apply hall a ha hname
  obtain rfl : d = clashingMessages[3] :=
    List.inj_on_of_nodup_map hid hd (by decide) (hlater.unique hfourth)
  have he : e.id = 12 := hleast.unique hsecond
  rw [he] at herror
  exact ⟨hid, hname, herror, hstate _ herror⟩

end MessagePlacement.Session
