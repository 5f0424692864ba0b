import Mathlib.Data.List.Dedup
import MessagePlacement.Proofs.History
import MessagePlacement.Proofs.Registry
import MessagePlacement.Proofs.Segments
import MessagePlacement.Proofs.Sorting

/-!
# Additions one after another

Declarations are added to a registry in any order, the next one also when one has been refused.
`r.Registers calls` says that the registry then holds the first declaration of every id that has
occurred, in increasing order of the ids.  It is kept by every addition, so that a later
declaration of an id is refused and changes nothing, and lookups find the first one.
-/

namespace MessagePlacement

namespace Registry

/-! ### The first declaration of an id -/

/-- `IsFirst calls d`: the declaration occurs in the list, and no other one of its id before it. -/
def IsFirst (calls : List Declaration) (d : Declaration) : Prop :=
  ∃ before after, calls = before ++ d :: after ∧ ∀ e ∈ before, e.id ≠ d.id

variable {calls : List Declaration} {d e : Declaration}

theorem isFirst_iff :
  IsFirst calls d ↔ calls.find? (·.id == d.id) = some d
  := by
  simp [IsFirst, List.find?_eq_some_iff_append]

theorem isFirst_concat_iff :
  IsFirst (calls ++ [e]) d ↔ IsFirst calls d ∨ (∀ c ∈ calls, c.id ≠ e.id) ∧ d = e
  := by
  rw [isFirst_iff, isFirst_iff, List.find?_append, List.find?_singleton]
  cases hfind : calls.find? (·.id == d.id) with
  | none =>
      have hnew : ∀ c ∈ calls, c.id ≠ d.id := by simpa using hfind
      rw [Option.none_or, Option.ite_none_right_eq_some, Option.some_inj]
      constructor
      · rintro ⟨-, rfl⟩
        exact .inr ⟨hnew, rfl⟩
      · rintro (⟨⟨⟩⟩ | ⟨-, rfl⟩)
        exact ⟨beq_self_eq_true _, rfl⟩
  | some c =>
      rw [Option.some_or]
      constructor
      · exact .inl
      · rintro (h | ⟨hnew, rfl⟩)
        · apply h
        · have hid : c.id = d.id := by simpa using List.find?_some hfind
          exact absurd hid (hnew c (List.mem_of_find?_eq_some hfind))

theorem IsFirst.unique (hd : IsFirst calls d) (he : IsFirst calls e) (hid : d.id = e.id) :
  d = e
  := by
  rw [isFirst_iff] at hd he
  rw [hid, he] at hd
  exact (Option.some.inj hd).symm

theorem IsFirst.mem (h : IsFirst calls d) :
  d ∈ calls
  := by
  obtain ⟨before, after, rfl, -⟩ := h
  simp

/-- An id that occurs has a first declaration. -/
theorem exists_isFirst_iff {id : Int} :
  (∃ d, IsFirst calls d ∧ d.id = id) ↔ ∃ d ∈ calls, d.id = id
  := by
  constructor
  · rintro ⟨d, hd, hid⟩
    exact ⟨d, hd.mem, hid⟩
  · rintro ⟨d, hd, rfl⟩
    have hsome : (calls.find? (·.id == d.id)).isSome := by
      rw [List.find?_isSome]
      exact ⟨d, hd, beq_self_eq_true _⟩
    obtain ⟨e, he⟩ := Option.isSome_iff_exists.mp hsome
    have hid : e.id = d.id := by simpa using List.find?_some he
    refine ⟨e, ?_, hid⟩
    rw [isFirst_iff, hid, he]

/-! ### One addition -/

/-- `r.Registers calls`: the registry has the first declarations of the ids in the list as entries,
in increasing order of their ids. -/
structure Registers (r : Registry) (calls : List Declaration) : Prop where
  pairwise : r.entries.Pairwise (·.id < ·.id)
  mem_iff (d : Declaration) : d ∈ r.entries ↔ IsFirst calls d

theorem registers_empty :
  empty.Registers []
  := by
  constructor
  · exact List.Pairwise.nil
  · intro d
    constructor
    · intro h
      cases h
    · intro h
      cases h.mem

/-- An addition in place succeeds when `add` does, and leaves the registry as it was when it
fails. -/
theorem addition_run (d : Declaration) (r : Registry) :
  (addition d).run r
    = match r.add d with
      | .ok s => .ok () s
      | .error e => .error e r
  := by
  rw [addition, add, EStateM.run_bind, EStateM.run_get]
  dsimp only
  cases r.find? d.id with
  | none => rfl
  | some e => rfl

namespace Registers

variable {r : Registry}

theorem holds (h : r.Registers calls) :
  r.Holds r.entries
  := ⟨List.Perm.refl _, h.pairwise⟩

/-- An id is taken exactly when it has occurred. -/
theorem exists_mem_entries_iff (h : r.Registers calls) {id : Int} :
  (∃ e ∈ r.entries, e.id = id) ↔ ∃ e ∈ calls, e.id = id
  := by
  simp only [h.mem_iff]
  apply exists_isFirst_iff

/-- What is found by an id is the first declaration of it. -/
theorem find?_eq_some_iff (h : r.Registers calls) {id : Int} :
  r.find? id = some d ↔ IsFirst calls d ∧ d.id = id
  := by
  rw [← h.mem_iff]
  constructor
  · apply h.holds.mem_of_find?
  · rintro ⟨hd, rfl⟩
    apply h.holds.find?_id hd

/-- A declaration whose id has occurred is refused, and one whose id is new is registered. -/
theorem addition (h : r.Registers calls) (d : Declaration) :
  ((∃ e ∈ calls, e.id = d.id)
      ∧ (Registry.addition d).outcome r = .error (.duplicate d.name d.id d.id)
      ∧ (Registry.addition d).stateAfter r = r ∧ r.Registers (calls ++ [d]))
    ∨ ((∀ e ∈ calls, e.id ≠ d.id) ∧ (Registry.addition d).outcome r = .ok ()
      ∧ ((Registry.addition d).stateAfter r).Registers (calls ++ [d]))
  := by
  have hrun := addition_run d r
  by_cases htaken : ∃ e ∈ calls, e.id = d.id
  · left
    obtain ⟨e, he, hid⟩ := h.exists_mem_entries_iff.mpr htaken
    rw [h.holds.add_of_taken he hid, hid] at hrun
    obtain ⟨houtcome, hstate⟩ := Attempt.outcome_of_error hrun
    refine ⟨htaken, houtcome, hstate, h.pairwise, ?_⟩
    intro c
    rw [h.mem_iff, isFirst_concat_iff]
    obtain ⟨b, hb, hbid⟩ := htaken
    constructor
    · exact .inl
    · rintro (hc | ⟨hnew, -⟩)
      · apply hc
      · exact absurd hbid (hnew b hb)
  · right
    have hnew : ∀ e ∈ calls, e.id ≠ d.id := by simpa using htaken
    have hfree : ∀ e ∈ r.entries, e.id ≠ d.id := by
      intro e he hid
      apply htaken (h.exists_mem_entries_iff.mp ⟨e, he, hid⟩)
    obtain ⟨s, hs, hheld⟩ := refusing_add.add_of_new h.holds hfree
    rw [hs] at hrun
    obtain ⟨houtcome, hstate⟩ := Attempt.outcome_of_ok hrun
    rw [hstate]
    refine ⟨hnew, houtcome, hheld.pairwise, ?_⟩
    intro c
    rw [hheld.perm.mem_iff, List.mem_append, List.mem_singleton, h.mem_iff, isFirst_concat_iff,
      and_iff_right hnew]

end Registers

/-! ### All additions -/

/-- The registry that additions leave behind, made one after another on the empty registry. -/
def afterAdditions (calls : List Declaration) : Registry :=
  Attempt.stateAfterAll Registry.addition empty calls

theorem registers_afterAdditions (calls : List Declaration) :
  (afterAdditions calls).Registers calls
  := by
  induction calls using List.reverseRecOn with
  | nil => exact registers_empty
  | append_singleton calls d ih =>
      rw [afterAdditions, Attempt.stateAfterAll_concat]
      rcases ih.addition d with ⟨-, -, hstate, h⟩ | ⟨-, -, h⟩
      · rw [afterAdditions] at hstate
        rw [hstate]
        apply h
      · apply h

/-- The lookups of an id whose first declaration is known. -/
theorem Registers.lookups_of_isFirst {r : Registry} (h : r.Registers calls) (hd : IsFirst calls d) :
  r.contains d.id = true ∧ r.get d.id = .ok d ∧ r.nameOf d.id = .ok d.name
    ∧ r.simpleNameOf d.id = .ok d.simpleName
  := by
  have hfind := h.find?_eq_some_iff.mpr ⟨hd, rfl⟩
  rw [contains, nameOf, simpleNameOf, get, hfind]
  exact ⟨rfl, rfl, rfl, rfl⟩

/-- The lookups of an id that has not occurred. -/
theorem Registers.lookups_of_forall_ne {r : Registry} (h : r.Registers calls) {id : Int}
    (hid : ∀ d ∈ calls, d.id ≠ id) :
  r.contains id = false ∧ r.get id = .error (.unknownProtocol id)
    ∧ r.nameOf id = .error (.unknownProtocol id) ∧ r.simpleNameOf id = .error (.unknownProtocol id)
  := by
  have hfind : r.find? id = none := by
    rw [Option.eq_none_iff_forall_ne_some]
    intro d hd
    obtain ⟨hfirst, hdid⟩ := h.find?_eq_some_iff.mp hd
    apply hid d hfirst.mem hdid
  rw [contains, nameOf, simpleNameOf, get, hfind]
  exact ⟨rfl, rfl, rfl, rfl⟩

theorem Registers.contains_iff {r : Registry} (h : r.Registers calls) {id : Int} :
  r.contains id = true ↔ ∃ d ∈ calls, d.id = id
  := by
  by_cases hid : ∃ d ∈ calls, d.id = id
  · obtain ⟨d, hd, rfl⟩ := exists_isFirst_iff.mpr hid
    exact iff_of_true (h.lookups_of_isFirst hd).1 hid
  · have hnew : ∀ d ∈ calls, d.id ≠ id := by simpa using hid
    refine iff_of_false ?_ hid
    rw [(h.lookups_of_forall_ne hnew).1]
    exact Bool.false_ne_true

/-- A registry has as many entries as ids have occurred. -/
theorem Registers.size_eq {r : Registry} (h : r.Registers calls) :
  r.size = (calls.map (·.id)).dedup.length
  := by
  have hperm : (r.entries.map (·.id)).Perm (calls.map (·.id)).dedup := by
    rw [List.perm_ext_iff_of_nodup (nodup_of_pairwise_lt h.pairwise) (List.nodup_dedup _)]
    intro id
    rw [List.mem_dedup, List.mem_map, List.mem_map]
    apply h.exists_mem_entries_iff
  rw [size, ← hperm.length_eq, List.length_map]

end Registry

/-- The simple name of a declaration is the one given unless this is empty, and the last segment of
its name if none is given. -/
theorem Declaration.simpleName_cases (d : Declaration) :
  (∃ s, d.givenName = some s ∧ s ≠ "" ∧ d.simpleName = s)
    ∨ (d.givenName = none ∨ d.givenName = some "") ∧ d.segments.getLast? = some d.simpleName
  := by
  have hlast : d.segments.getLast? = some (d.segments.getLastD "") := by
    rw [List.getLastD_eq_getLast?, List.getLast?_eq_some_getLast d.segments_ne_nil]
    rfl
  rw [simpleName]
  cases hgiven : d.givenName with
  | none => exact .inr ⟨.inl rfl, hlast⟩
  | some s =>
      by_cases hs : s = ""
      · right
        rw [hs]
        exact ⟨.inr rfl, hlast⟩
      · left
        exact ⟨s, rfl, hs, if_neg hs⟩

namespace Registry

/-- After any additions, a declaration is refused exactly when its id has occurred before, and then
the registry stays as it was; the entries are the first declarations of the ids that have occurred,
increasing by their ids, and lookups find these for the ids that have occurred, and nothing for
others. -/
theorem additions_register_first (calls : List Declaration) :
  (∀ d,
      ((∃ e, (addition d).outcome (afterAdditions calls) = .error e) ↔ ∃ e ∈ calls, e.id = d.id)
      ∧ ∀ e, (addition d).outcome (afterAdditions calls) = .error e →
        e = .duplicate d.name d.id d.id
          ∧ (addition d).stateAfter (afterAdditions calls) = afterAdditions calls)
    ∧ (afterAdditions calls).entries.Pairwise (·.id < ·.id)
    ∧ (∀ d, d ∈ (afterAdditions calls).entries ↔ IsFirst calls d)
    ∧ (afterAdditions calls).size = (afterAdditions calls).entries.length
    ∧ (afterAdditions calls).size = (calls.map (·.id)).dedup.length
    ∧ ∀ id,
      ((afterAdditions calls).contains id = true ↔ ∃ d ∈ calls, d.id = id)
      ∧ ((∃ d ∈ calls, d.id = id) →
        ∃ d, IsFirst calls d ∧ d.id = id ∧ (afterAdditions calls).get id = .ok d
          ∧ (afterAdditions calls).nameOf id = .ok d.name
          ∧ ∃ name, (afterAdditions calls).simpleNameOf id = .ok name
            ∧ ((d.givenName = some name ∧ name ≠ "")
              ∨ (d.givenName = none ∨ d.givenName = some "") ∧ d.segments.getLast? = some name))
      ∧ ((∀ d ∈ calls, d.id ≠ id) →
        (afterAdditions calls).get id = .error (.unknownProtocol id)
          ∧ (afterAdditions calls).nameOf id = .error (.unknownProtocol id)
          ∧ (afterAdditions calls).simpleNameOf id = .error (.unknownProtocol id))
  := by
  have h := registers_afterAdditions calls
  refine ⟨?_, h.pairwise, h.mem_iff, rfl, h.size_eq, ?_⟩
  · intro d
    rcases h.addition d with ⟨htaken, houtcome, hstate, -⟩ | ⟨hnew, houtcome, -⟩
    · rw [houtcome, hstate]
      simp [htaken]
    · rw [houtcome]
      refine ⟨iff_of_false ?_ (by simpa using hnew), ?_⟩
      · rintro ⟨e, ⟨⟩⟩
      · rintro e ⟨⟩
  · intro id
    refine ⟨h.contains_iff, ?_, fun hid => (h.lookups_of_forall_ne hid).2⟩
    · intro hid
      obtain ⟨d, hd, rfl⟩ := exists_isFirst_iff.mpr hid
      obtain ⟨-, hget, hname, hsimple⟩ := h.lookups_of_isFirst hd
      refine ⟨d, hd, rfl, hget, hname, d.simpleName, hsimple, ?_⟩
      rcases d.simpleName_cases with ⟨s, hgiven, hs, hname⟩ | hlast
      · left
        rw [hname]
        exact ⟨hgiven, hs⟩
      · exact .inr hlast

/-- Two messages, of which the first one is declared once more under another name. -/
def redeclaredMessages : List Declaration :=
  [⟨87, "lobby.Chat", some "", by decide, by decide, by decide, by decide⟩,
    ⟨86, "lobby.Kick", some "KickOut", by decide, by decide, by decide, by decide⟩,
    ⟨87, "lobby.Talk", none, by decide, by decide, by decide, by decide⟩]

theorem additions_register_first_redeclaredMessages :
  (∃ e ∈ redeclaredMessages, e.id = 87)
    ∧ (∃ e, (addition redeclaredMessages[2]).outcome (afterAdditions redeclaredMessages)
        = .error e)
    ∧ (∃ d, IsFirst redeclaredMessages d ∧ d.id = 87
        ∧ (afterAdditions redeclaredMessages).get 87 = .ok d)
    ∧ (∀ d ∈ redeclaredMessages, d.id ≠ 88)
    ∧ (afterAdditions redeclaredMessages).get 88 = .error (.unknownProtocol 88)
  := by
  have htaken : ∃ e ∈ redeclaredMessages, e.id = 87 := by decide
  have hnew : ∀ d ∈ redeclaredMessages, d.id ≠ 88 := by decide
  obtain ⟨hrefused, -, -, -, -, hlookups⟩ := additions_register_first redeclaredMessages
  refine ⟨htaken, (hrefused redeclaredMessages[2]).1.mpr htaken, ?_, hnew,
    ((hlookups 88).2.2 hnew).1⟩
  obtain ⟨d, hd, hid, hget, -⟩ := (hlookups 87).2.1 htaken
  exact ⟨d, hd, hid, hget⟩

end Registry

end MessagePlacement
