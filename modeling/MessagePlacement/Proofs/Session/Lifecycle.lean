import MessagePlacement.Proofs.History
import MessagePlacement.Proofs.Language
import MessagePlacement.Proofs.Layout.Refusal
import MessagePlacement.Proofs.Outcome
import MessagePlacement.Proofs.Plan.Message
import MessagePlacement.Proofs.Session.Operations

/-!
# Sessions over their history

A new session has no layout.  Whatever is done with it, afterwards it has one exactly when a
start has succeeded and no clearing has since, and then it is the layout of the last start that
has succeeded: the session is the one that this start makes of a new session.  So the history
decides which operations are refused, and nothing else of it shows in the answers.
-/

namespace MessagePlacement

namespace Resolver

variable {r : Resolver}

/-! ### What an operation can do -/

/-- What a successful operation has done: a start has put a layout in place where there was none,
clearing has taken one away, and a query has changed nothing. -/
theorem perform_cases {r' : Resolver} {op : Operation} {a : Answer}
    (h : r.perform op = .ok (a, r')) :
  (∃ ds fold l, op = .start ds fold ∧ r.layout = none ∧ Layout.ofDeclarations ds fold = .ok l
      ∧ r' = { r with layout := some l })
    ∨ (op = .clear ∧ r.layout ≠ none ∧ r' = { r with layout := none })
    ∨ ∃ q, op = .query q ∧ r.ask q = .ok a ∧ r' = r
  := by
  cases op with
  | start ds fold =>
      left
      rw [perform] at h
      cases hstart : r.start ds fold with
      | error e =>
          rw [hstart] at h
          cases h
      | ok r'' =>
          rw [hstart] at h
          obtain ⟨-, rfl⟩ := Prod.mk.inj (Except.ok.inj h)
          obtain ⟨hnone, l, hl, hr⟩ := start_eq_ok_iff.mp hstart
          exact ⟨ds, fold, l, rfl, hnone, hl, hr.symm⟩
  | clear =>
      right
      left
      obtain ⟨naming, layout⟩ := r
      cases layout with
      | none => cases h
      | some l =>
          obtain ⟨-, rfl⟩ := Prod.mk.inj (Except.ok.inj h)
          exact ⟨rfl, by simp, rfl⟩
  | query q =>
      right
      right
      rw [perform] at h
      cases hq : r.ask q with
      | error e =>
          rw [hq] at h
          cases h
      | ok b =>
          rw [hq] at h
          obtain ⟨rfl, rfl⟩ := Prod.mk.inj (Except.ok.inj h)
          exact ⟨q, rfl, hq, rfl⟩

/-! ### Which operations are refused -/

/-- With a layout, no address is refused for the lack of one. -/
theorem absolutePath_ne_uninitialized {naming : Option NamingOracle} {l : Layout} {id : Int}
    {language : Value} {name : String} :
  Resolver.absolutePath ⟨naming, some l⟩ id language ≠ .error (.uninitialized name)
  := by
  rw [absolutePath_eq_bind]
  intro h
  rcases bind_eq_error_iff.mp h with hlanguage | ⟨known, -, haddress⟩
  · obtain ⟨-, ⟨⟩⟩ := Language.resolve_eq_error_iff.mp hlanguage
  · rw [map_eq_error_iff] at haddress
    exact (naming.getD l.registry.oracle).ne_uninitialized id name haddress

/-- A query is refused for the lack of a layout exactly when there is none. -/
theorem perform_query_eq_uninitialized_iff (q : Query) :
  (∃ name, r.perform (.query q) = .error (.uninitialized name)) ↔ r.layout = none
  := by
  obtain ⟨naming, layout⟩ := r
  cases layout with
  | none => cases q <;> exact iff_of_true ⟨_, rfl⟩ rfl
  | some l =>
      -- only an address can be refused, for its language or its id
      apply iff_of_false
      · rintro ⟨name, h⟩
        cases q with
        | absolutePath id language =>
            rw [perform, ask] at h
            cases haddress : Resolver.absolutePath ⟨naming, some l⟩ id language with
            | error e =>
                rw [haddress] at h
                obtain rfl := Except.error.inj h
                apply absolutePath_ne_uninitialized haddress
            | ok address =>
                rw [haddress] at h
                cases h
        | _ => cases h
      · simp

/-- Clearing is refused for the lack of a layout exactly when there is none. -/
theorem perform_clear_eq_uninitialized_iff :
  (∃ name, r.perform .clear = .error (.uninitialized name)) ↔ r.layout = none
  := by
  obtain ⟨naming, layout⟩ := r
  cases layout with
  | none => exact iff_of_true ⟨_, rfl⟩ rfl
  | some l =>
      apply iff_of_false
      · rintro ⟨name, h⟩
        cases h
      · simp

/-- A start is refused for a layout that is there exactly when there is one. -/
theorem perform_start_eq_alreadyInitialized_iff (ds : List Declaration) (fold : Bool) :
  r.perform (.start ds fold) = .error .alreadyInitialized ↔ r.layout ≠ none
  := by
  obtain ⟨naming, layout⟩ := r
  cases layout with
  | some l => exact iff_of_true rfl (by simp)
  | none =>
      apply iff_of_false
      · intro h
        rw [perform, start] at h
        cases hl : Layout.ofDeclarations ds fold with
        | ok l =>
            rw [hl] at h
            cases h
        | error e =>
            obtain ⟨name, id, existing, rfl⟩ := Layout.exists_duplicate_of_error hl
            rw [hl] at h
            cases h
      · simp

end Resolver

namespace Session

/-! ### What a history says -/

/-- An operation with what it has given. -/
abbrev Event := Operation × Except (Failure LayoutError) Answer

/-- The declarations and the folding of a start that has succeeded. -/
def startOf? : Event → Option (List Declaration × Bool)
  | (.start ds fold, .ok _) => some (ds, fold)
  | _ => none

/-- A clearing that has succeeded. -/
def IsClearing (e : Event) : Prop :=
  ∃ a, e = (.clear, .ok a)

/-- Some start has succeeded, and no clearing since. -/
def StartedSinceClear (past : List Event) : Prop :=
  Since (fun e => startOf? e ≠ none) IsClearing past

/-- The last start that has succeeded was one with `ds` and `fold`. -/
def LastStart (past : List Event) (ds : List Declaration) (fold : Bool) : Prop :=
  Since (fun e => startOf? e = some (ds, fold)) (fun e => startOf? e ≠ none) past

/-- `Placed past layout`: after `past` there is a layout if there has been a start since the last
clearing, and it is that of the last start. -/
structure Placed (past : List Event) (layout : Option Layout) : Prop where
  started_iff : StartedSinceClear past ↔ layout ≠ none
  exists_lastStart : layout ≠ none → ∃ ds fold, LastStart past ds fold
  ofDeclarations_eq {l : Layout} {ds : List Declaration} {fold : Bool} :
    layout = some l → LastStart past ds fold → Layout.ofDeclarations ds fold = .ok l

namespace Placed

variable {past : List Event} {layout : Option Layout}

theorem nil :
  Placed [] none
  := by
  constructor
  · exact iff_of_false (not_since_nil _ _) (by simp)
  · simp
  · intro l ds fold h
    cases h

/-- What is neither a start nor a clearing leaves the layout. -/
theorem concat_of_other (h : Placed past layout) {e : Event} (hstart : startOf? e = none)
    (hclear : ¬ IsClearing e) :
  Placed (past ++ [e]) layout
  := by
  have hlast : ∀ ds fold, LastStart (past ++ [e]) ds fold ↔ LastStart past ds fold := by
    intro ds fold
    simp only [LastStart, since_concat_iff, hstart]
    simp
  constructor
  · rw [← h.started_iff, StartedSinceClear, since_concat_iff, hstart]
    simp [hclear, StartedSinceClear]
  · simp only [hlast]
    apply h.exists_lastStart
  · intro l ds fold
    rw [hlast]
    apply h.ofDeclarations_eq

theorem concat_start {ds : List Declaration} {fold : Bool} {l : Layout} {a : Answer}
    (hl : Layout.ofDeclarations ds fold = .ok l) :
  Placed (past ++ [(.start ds fold, .ok a)]) (some l)
  := by
  have hlast : ∀ ds' fold', LastStart (past ++ [(.start ds fold, .ok a)]) ds' fold'
      ↔ ds = ds' ∧ fold = fold' := by
    intro ds' fold'
    simp [LastStart, since_concat_iff, startOf?]
  constructor
  · apply iff_of_true
    · rw [StartedSinceClear, since_concat_iff]
      left
      simp [startOf?]
    · simp
  · intro
    use ds, fold
    rw [hlast]
    simp
  · intro l' ds' fold' hl' h
    obtain ⟨rfl, rfl⟩ := (hlast ds' fold').mp h
    rw [hl, Option.some.inj hl']

theorem concat_clear {a : Answer} :
  Placed (past ++ [(.clear, .ok a)]) none
  := by
  constructor
  · apply iff_of_false
    · rw [StartedSinceClear, since_concat_iff]
      rintro (h | ⟨-, h⟩)
      · apply h rfl
      · exact h ⟨a, rfl⟩
    · simp
  · simp
  · intro l ds fold h
    cases h

/-- Every operation leaves the layout that its history says. -/
theorem step (h : Placed past layout) (op : Operation) :
  ∃ layout', (perform op).stateAfter (ofResolver ⟨none, layout⟩) = ofResolver ⟨none, layout'⟩
    ∧ Placed (past ++ [(op, (perform op).outcome (ofResolver ⟨none, layout⟩))]) layout'
  := by
  rw [outcome_perform, stateAfter_perform]
  cases hop : Resolver.perform ⟨none, layout⟩ op with
  | error e =>
      -- what has failed counts neither as a start nor as a clearing
      refine ⟨layout, rfl, h.concat_of_other ?_ ?_⟩
      · cases op <;> rfl
      · rintro ⟨a, ha⟩
        cases ha
  | ok result =>
      obtain ⟨a, r⟩ := result
      rcases Resolver.perform_cases hop with
        ⟨ds, fold, l, rfl, -, hl, rfl⟩ | ⟨rfl, -, rfl⟩ | ⟨q, rfl, -, rfl⟩
      · exact ⟨some l, rfl, concat_start hl⟩
      · exact ⟨none, rfl, concat_clear⟩
      · refine ⟨layout, rfl, h.concat_of_other rfl ?_⟩
        rintro ⟨b, hb⟩
        cases hb

end Placed

/-! ### Whole histories -/

/-- The session after some operations on a new session. -/
def after (ops : List Operation) : Session :=
  Attempt.stateAfterAll perform {} ops

/-- Some operations on a new session with what they give. -/
def past (ops : List Operation) : List Event :=
  Attempt.history perform {} ops

/-- After any operations, the session has the layout that their history says. -/
theorem exists_placed (ops : List Operation) :
  ∃ layout, after ops = ofResolver ⟨none, layout⟩ ∧ Placed (past ops) layout
  := by
  apply Attempt.history_induction
    (P := fun past s => ∃ layout, s = ofResolver ⟨none, layout⟩ ∧ Placed past layout)
  · exact ⟨none, rfl, Placed.nil⟩
  · rintro past _ op ⟨layout, rfl, h⟩
    apply h.step op

/-- After a start that has not been cleared, the session is the one that the last start makes of
a new session. -/
theorem after_eq_of_lastStart {ops : List Operation} {ds : List Declaration} {fold : Bool}
    (hstarted : StartedSinceClear (past ops)) (hlast : LastStart (past ops) ds fold) :
  past [.start ds fold] = [(.start ds fold, .ok .done)] ∧ after ops = after [.start ds fold]
  := by
  obtain ⟨layout, hafter, h⟩ := exists_placed ops
  obtain ⟨l, rfl⟩ := Option.ne_none_iff_exists'.mp (h.started_iff.mp hstarted)
  have hl := h.ofDeclarations_eq rfl hlast
  have hrun := run_perform {} (.start ds fold)
  rw [Resolver.perform, Resolver.start, hl] at hrun
  obtain ⟨houtcome, hstate⟩ := Attempt.outcome_of_ok hrun
  constructor
  · exact congrArg (fun x => [(Operation.start ds fold, x)]) houtcome
  · rw [hafter]
    exact hstate.symm

/-- After any operations on a new session, its three parts are all there or all missing; queries
and clearings are refused for the lack of a plan exactly when no start has succeeded since the
last clearing, and starts for a plan that is there exactly otherwise; nothing ends in a fault;
queries change nothing; and what is there is what the last start alone would have left, so that
all queries are answered as after this start on a new session. -/
theorem history_decides (ops : List Operation) :
  ((after ops).registry = none ∧ (after ops).tree = none ∧ (after ops).plan = none
      ∨ ∃ registry tree plan, (after ops).registry = some registry ∧ (after ops).tree = some tree
        ∧ (after ops).plan = some plan)
    ∧ (∀ q, (∃ name, (perform (.query q)).outcome (after ops)
          = .error (.refused (.uninitialized name)))
        ↔ ¬ StartedSinceClear (past ops))
    ∧ ((∃ name, (perform .clear).outcome (after ops) = .error (.refused (.uninitialized name)))
        ↔ ¬ StartedSinceClear (past ops))
    ∧ (∀ ds fold, (perform (.start ds fold)).outcome (after ops)
          = .error (.refused .alreadyInitialized)
        ↔ StartedSinceClear (past ops))
    ∧ (∀ op f, (perform op).outcome (after ops) ≠ .error (.fault f))
    ∧ (∀ q, (perform (.query q)).stateAfter (after ops) = after ops)
    ∧ (StartedSinceClear (past ops) → ∃ ds fold, LastStart (past ops) ds fold)
    ∧ ∀ ds fold, StartedSinceClear (past ops) → LastStart (past ops) ds fold →
      past [.start ds fold] = [(.start ds fold, .ok .done)] ∧ after ops = after [.start ds fold]
      ∧ ∀ q, (perform (.query q)).outcome (after ops)
          = (perform (.query q)).outcome (after [.start ds fold])
  := by
  obtain ⟨layout, hafter, h⟩ := exists_placed ops
  have hnot : ¬ StartedSinceClear (past ops) ↔ layout = none := by
    rw [h.started_iff, not_ne_iff]
  refine ⟨?_, ?_, ?_, ?_, ?_, ?_, ?_, ?_⟩
  · rw [hafter]
    cases layout with
    | none => exact .inl ⟨rfl, rfl, rfl⟩
    | some l => exact .inr ⟨l.registry, l.tree, l.plan, rfl, rfl, rfl⟩
  · intro q
    simp only [hnot, hafter, outcome_perform_eq_refused_iff]
    apply Resolver.perform_query_eq_uninitialized_iff
  · simp only [hnot, hafter, outcome_perform_eq_refused_iff]
    apply Resolver.perform_clear_eq_uninitialized_iff
  · intro ds fold
    rw [h.started_iff, hafter, outcome_perform_eq_refused_iff]
    apply Resolver.perform_start_eq_alreadyInitialized_iff
  · rw [hafter]
    apply outcome_perform_ne_fault
  · intro q
    rw [hafter]
    apply stateAfter_ask
  · intro hstarted
    apply h.exists_lastStart (h.started_iff.mp hstarted)
  · intro ds fold hstarted hlast
    obtain ⟨hpast, heq⟩ := after_eq_of_lastStart hstarted hlast
    refine ⟨hpast, heq, ?_⟩
    intro q
    rw [heq]

/-- A session is started, cleared and started with the messages in another order; the last start
is refused. -/
def restart : List Operation :=
  [.start nestedMessages false, .clear, .start nestedMessages.reverse true,
    .start nestedMessages false]

theorem history_decides_restart :
  StartedSinceClear (past restart) ∧ LastStart (past restart) nestedMessages.reverse true
    ∧ after restart = after [.start nestedMessages.reverse true]
  := by
  obtain ⟨l, hl⟩ := (@Layout.exists_ofDeclarations_iff nestedMessages false).mpr
    ⟨by decide, by decide⟩
  obtain ⟨l', hl'⟩ := (@Layout.exists_ofDeclarations_iff nestedMessages.reverse true).mpr
    ⟨by decide, by decide⟩
  have hpast : past restart
      = [(.start nestedMessages false, .ok .done), (.clear, .ok .done),
        (.start nestedMessages.reverse true, .ok .done),
        (.start nestedMessages false, .error (.refused .alreadyInitialized))] := by
    change Attempt.history perform (ofResolver {}) restart = _
    simp [restart, Attempt.history, outcome_perform, stateAfter_perform, Resolver.perform,
      Resolver.start, Resolver.clear, Resolver.require, hl, hl', Except.map, Except.mapError,
      Except.toOption]
  have hstarted : StartedSinceClear (past restart) := by
    rw [hpast]
    exact ⟨[_, _], _, [_], rfl, by simp [startOf?], by simp [IsClearing]⟩
  have hlast : LastStart (past restart) nestedMessages.reverse true := by
    rw [hpast]
    exact ⟨[_, _], _, [_], rfl, rfl, by simp [startOf?]⟩
  obtain ⟨-, -, -, -, -, -, -, hsame⟩ := history_decides restart
  exact ⟨hstarted, hlast, (hsame _ _ hstarted hlast).2.1⟩

end Session

end MessagePlacement
