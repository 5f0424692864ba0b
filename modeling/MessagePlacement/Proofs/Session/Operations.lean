import MessagePlacement.Proofs.History
import MessagePlacement.Proofs.Layout.Contents
import MessagePlacement.Session

/-!
# What the operations of a session do

A start puts registry, tree and plan in place together or changes nothing, `clear` takes all
three away or changes nothing, and a query changes nothing.  A session that has all three parts
of a layout, or none of them, does what a resolver with that layout does: `ofResolver` is this
session, and `perform` on it is `Resolver.perform`.
-/

namespace MessagePlacement

namespace Session

theorem run_settle {α : Type} (r : Except LayoutError α) (s : Session) :
  (settle r).run s
    = match r with
      | .ok a => .ok a s
      | .error e => .error (.refused e) s
  := by
  cases r with
  | ok a => rfl
  | error e => rfl

/-- A start fails when there is a plan, and when there is no layout of the declarations; it
changes the session only when it succeeds. -/
theorem run_start (ds : List Declaration) (fold : Bool) (s : Session) :
  (start ds fold).run s
    = match s.plan with
      | some _ => .error (.refused .alreadyInitialized) s
      | none =>
        match Layout.ofDeclarations ds fold with
        | .error e => .error (.refused e) s
        | .ok l =>
          .ok () ⟨s.naming, some l.registry, some l.tree, some l.plan⟩
  := by
  obtain ⟨naming, registry, tree, plan⟩ := s
  rw [start]
  cases plan with
  | some plan => rfl
  | none =>
      cases Layout.ofDeclarations ds fold with
      | error e => rfl
      | ok l => rfl

/-- Clearing fails when there is no plan. -/
theorem run_clear (s : Session) :
  clear.run s
    = match s.plan with
      | some _ => .ok () ⟨s.naming, none, none, none⟩
      | none => .error (.refused (.uninitialized "clear")) s
  := by
  obtain ⟨naming, registry, tree, plan⟩ := s
  cases plan with
  | some plan => rfl
  | none => rfl

end Session

/-! ### Sessions of resolvers -/

/-- The session with the parts of the layout of a resolver. -/
def Session.ofResolver (r : Resolver) : Session :=
  ⟨r.naming, r.layout.map (·.registry), r.layout.map (·.tree), r.layout.map (·.plan)⟩

namespace Resolver

/-- The answer of a resolver to a query. -/
def ask (r : Resolver) : Query → Except LayoutError Answer
  | .assignedPaths => r.assignedPaths.map .paths
  | .protocolPath id => (r.protocolPath id).map .text
  | .capitalizedPath id => (r.capitalizedPath id).map .text
  | .foldGroup id => (r.foldGroup id).map .text
  | .fileGroups => r.fileGroups.map .groups
  | .absolutePath id language => (r.absolutePath id language).map .text
  | .relativePath source target => (r.relativePath source target).map .text

/-- What a resolver does on an operation, with the resolver afterwards. -/
def perform (r : Resolver) : Operation → Except LayoutError (Answer × Resolver)
  | .start ds fold => (r.start ds fold).map (.done, ·)
  | .clear => r.clear.map (.done, ·)
  | .query q => (r.ask q).map (·, r)

end Resolver

namespace Session

theorem run_simpleName (naming : Option NamingOracle) (l : Layout) (id : Int) :
  (simpleName id).run (ofResolver ⟨naming, some l⟩)
    = (settle ((naming.getD l.registry.oracle).simpleName id)).run (ofResolver ⟨naming, some l⟩)
  := by
  cases naming with
  | none => rfl
  | some registry => rfl

theorem run_absolutePath (naming : Option NamingOracle) (l : Layout) (id : Int) (language : Value) :
  (absolutePath id language).run (ofResolver ⟨naming, some l⟩)
    = (settle (Resolver.absolutePath ⟨naming, some l⟩ id language)).run
        (ofResolver ⟨naming, some l⟩)
  := by
  rw [absolutePath, EStateM.run_bind, Resolver.absolutePath_eq_bind]
  cases Language.resolve language with
  | error e => rfl
  | ok known =>
      change EStateM.run (simpleName id >>= _) _ = _
      rw [EStateM.run_bind, run_simpleName]
      cases (naming.getD l.registry.oracle).simpleName id with
      | error e => rfl
      | ok name => rfl

/-- A query on the session of a resolver is answered as by the resolver, and changes nothing. -/
theorem run_ask (r : Resolver) (q : Query) :
  (ask q).run (ofResolver r) = (settle (r.ask q)).run (ofResolver r)
  := by
  obtain ⟨naming, layout⟩ := r
  cases layout with
  | none => cases q <;> rfl
  | some l =>
      cases q with
      | absolutePath id language =>
          rw [ask, EStateM.run_bind, run_absolutePath, run_settle, Resolver.ask]
          cases Resolver.absolutePath ⟨naming, some l⟩ id language with
          | error e => rfl
          | ok address => rfl
      | _ => rfl

/-- An operation on the session of a resolver does what the resolver does, and changes nothing
when it fails. -/
theorem run_perform (r : Resolver) (op : Operation) :
  (perform op).run (ofResolver r)
    = match r.perform op with
      | .ok (a, r') => .ok a (ofResolver r')
      | .error e => .error (.refused e) (ofResolver r)
  := by
  cases op with
  | start ds fold =>
      rw [perform, EStateM.run_bind, run_start, Resolver.perform, Resolver.start]
      obtain ⟨naming, layout⟩ := r
      cases layout with
      | some l => rfl
      | none =>
          cases hl : Layout.ofDeclarations ds fold with
          | error e => rfl
          | ok l => rfl
  | clear =>
      rw [perform, EStateM.run_bind, run_clear]
      obtain ⟨naming, layout⟩ := r
      cases layout with
      | some l => rfl
      | none => rfl
  | query q =>
      rw [perform, run_ask, run_settle, Resolver.perform]
      cases r.ask q with
      | error e => rfl
      | ok a => rfl

theorem outcome_perform (r : Resolver) (op : Operation) :
  (perform op).outcome (ofResolver r) = ((r.perform op).map Prod.fst).mapError .refused
  := by
  rw [Attempt.outcome, run_perform]
  cases r.perform op with
  | error e => rfl
  | ok result => rfl

theorem stateAfter_perform (r : Resolver) (op : Operation) :
  (perform op).stateAfter (ofResolver r)
    = ofResolver (((r.perform op).map Prod.snd).toOption.getD r)
  := by
  rw [Attempt.stateAfter, run_perform]
  cases r.perform op with
  | error e => rfl
  | ok result => rfl

/-- An operation is refused on the session of a resolver when the resolver refuses it. -/
theorem outcome_perform_eq_refused_iff {r : Resolver} {op : Operation} {e : LayoutError} :
  (perform op).outcome (ofResolver r) = .error (.refused e) ↔ r.perform op = .error e
  := by
  rw [outcome_perform]
  cases r.perform op with
  | error e' => simp [Except.map, Except.mapError]
  | ok result => simp [Except.map, Except.mapError]

/-- No operation on the session of a resolver ends in a fault. -/
theorem outcome_perform_ne_fault (r : Resolver) (op : Operation) (f : Fault) :
  (perform op).outcome (ofResolver r) ≠ .error (.fault f)
  := by
  rw [outcome_perform]
  cases r.perform op with
  | error e => rintro ⟨⟩
  | ok result => rintro ⟨⟩

theorem outcome_ask (r : Resolver) (q : Query) :
  (ask q).outcome (ofResolver r) = (r.ask q).mapError .refused
  := by
  rw [Attempt.outcome, run_ask, run_settle]
  cases r.ask q with
  | error e => rfl
  | ok a => rfl

/-- A query leaves the session of a resolver as it is. -/
theorem stateAfter_ask (r : Resolver) (q : Query) :
  (ask q).stateAfter (ofResolver r) = ofResolver r
  := by
  rw [Attempt.stateAfter, run_ask, run_settle]
  cases r.ask q with
  | error e => rfl
  | ok a => rfl

end Session

end MessagePlacement
