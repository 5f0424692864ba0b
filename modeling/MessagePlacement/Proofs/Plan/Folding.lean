import MessagePlacement.Proofs.Plan.Level
import MessagePlacement.Proofs.Tree.Structure

/-!
# What folding changes

Folding at a node assigns values to the ids that are carried at and below it, in the order of its
flattening, and to no others.  The paths and the groups of a plan are changed for the same ids in
the same order, so both keep the same ids in the same order: the old ones in their places and the
new ones after them.  An id that is carried several times has the path of its last message.
Assignments of several values to ids that have them already change nothing, and this makes folding
idempotent, also when an id has different values on the way.
-/

namespace MessagePlacement

namespace Plan

variable {i j : Int} {v w : String} {es l : List (Int × String)}

/-! ### Assigning once more -/

/-- To assign the value that an id has is to change nothing. -/
theorem assign_of_lookup (h : l.lookup i = some v) :
  assign i v l = l
  := by
  induction l with
  | nil => cases h
  | cons e l ih =>
      obtain ⟨k, u⟩ := e
      rw [lookup_cons_eq_if] at h
      rw [assign]
      by_cases hk : k = i
      · rw [if_pos hk.symm] at h
        rw [if_pos hk, Option.some.inj h]
      · rw [if_neg (Ne.symm hk)] at h
        rw [if_neg hk, ih h]

/-- Of two assignments to an id the second counts. -/
theorem assign_assign (i : Int) (v w : String) (l : List (Int × String)) :
  assign i w (assign i v l) = assign i w l
  := by
  induction l with
  | nil => simp [assign]
  | cons e l ih =>
      by_cases hk : e.1 = i
      · simp [assign, hk]
      · simp [assign, hk, ih]

/-- Assignments to two ids commute, unless the one that would come first is new. -/
theorem assign_comm (hij : i ≠ j) (hi : i ∈ l.map Prod.fst) (v w : String) :
  assign j w (assign i v l) = assign i v (assign j w l)
  := by
  induction l with
  | nil => cases hi
  | cons e l ih =>
      by_cases hk : e.1 = i
      · have hj : e.1 ≠ j := hk ▸ hij
        simp [assign, hk, hij]
      · have htail : i ∈ l.map Prod.fst := by
          rw [List.map_cons, List.mem_cons] at hi
          apply hi.resolve_left (Ne.symm hk)
        by_cases hj : e.1 = j
        · simp [assign, hj, Ne.symm hij]
        · simp [assign, hk, hj, ih htail]

/-! ### Several assignments -/

@[simp] theorem assignAll_cons (e : Int × String) (es l : List (Int × String)) :
  assignAll (e :: es) l = assignAll es (assign e.1 e.2 l)
  := rfl

/-- An id occurs in a list exactly when it has a last value there. -/
theorem mem_ids_iff_last :
  i ∈ es.map Prod.fst ↔ ∃ v, es.reverse.lookup i = some v
  := by
  rw [← mem_keys_iff, List.map_reverse, List.mem_reverse]

theorem lookup_reverse_eq_none (h : i ∉ es.map Prod.fst) :
  es.reverse.lookup i = none
  := by
  rw [Option.eq_none_iff_forall_ne_some]
  intro v hv
  apply h (mem_ids_iff_last.mpr ⟨v, hv⟩)

/-- Ids to which nothing is assigned keep their values. -/
theorem lookup_assignAll_of_not_mem (h : i ∉ es.map Prod.fst) :
  (assignAll es l).lookup i = l.lookup i
  := by
  rw [lookup_assignAll, lookup_reverse_eq_none h, Option.none_or]

/-- The ids that have values keep their places; the new ones follow in the order in which they are
given for the first time. -/
theorem ids_assignAll_eq (es l : List (Int × String)) :
  (assignAll es l).map Prod.fst
    = l.map Prod.fst ++ ((es.map Prod.fst).filter (· ∉ l.map Prod.fst)).eraseDups
  := by
  induction es generalizing l with
  | nil => simp [assignAll]
  | cons e es ih =>
      rw [assignAll_cons, ih, ids_assign, List.map_cons]
      by_cases he : e.1 ∈ l.map Prod.fst
      · rw [if_pos he, List.filter_cons_of_neg (by simpa using he)]
      · have hnew : (es.map Prod.fst).filter (· ∉ l.map Prod.fst ++ [e.1])
            = ((es.map Prod.fst).filter (· ∉ l.map Prod.fst)).filter (!· == e.1) := by
          rw [List.filter_filter]
          apply List.filter_congr
          intro i _
          rw [Bool.eq_iff_iff]
          simp [and_comm]
        rw [if_neg he, List.filter_cons_of_pos (by simpa using he), List.eraseDups_cons, hnew,
          List.append_assoc, List.singleton_append]

/-- A value assigned first is of no effect when another one follows for its id. -/
theorem assignAll_assign (hl : i ∈ l.map Prod.fst) (hes : i ∈ es.map Prod.fst) (v : String) :
  assignAll es (assign i v l) = assignAll es l
  := by
  induction es generalizing l with
  | nil => cases hes
  | cons e es ih =>
      rw [assignAll_cons, assignAll_cons]
      by_cases hi : i = e.1
      · rw [hi, assign_assign]
      · rw [assign_comm hi hl]
        apply ih
        · rw [ids_assign]
          split
          · apply hl
          · apply List.mem_append_left _ hl
        · rw [List.map_cons, List.mem_cons] at hes
          apply hes.resolve_left hi

/-- When the ids have the values that they are assigned last, the assignments change nothing. -/
theorem assignAll_of_lookup (h : ∀ i v, es.reverse.lookup i = some v → l.lookup i = some v) :
  assignAll es l = l
  := by
  induction es with
  | nil => rfl
  | cons e es ih =>
      have htail : ∀ i v, es.reverse.lookup i = some v → l.lookup i = some v := by
        intro i v hv
        apply h i v
        rw [List.reverse_cons, List.lookup_append, hv, Option.some_or]
      rw [assignAll_cons]
      by_cases he : e.1 ∈ es.map Prod.fst
      · -- The value of `e` is replaced later on, so it need not be the one in `l`.
        obtain ⟨v, hv⟩ := mem_ids_iff_last.mp he
        rw [assignAll_assign (mem_keys_iff.mpr ⟨v, htail _ v hv⟩) he, ih htail]
      · have hlast : (e :: es).reverse.lookup e.1 = some e.2 := by
          rw [List.reverse_cons, List.lookup_append, lookup_reverse_eq_none he, Option.none_or,
            lookup_cons_eq_if, if_pos rfl]
        rw [assign_of_lookup (h _ _ hlast), ih htail]

/-- Making the same assignments again changes nothing. -/
theorem assignAll_assignAll (es l : List (Int × String)) :
  assignAll es (assignAll es l) = assignAll es l
  := by
  apply assignAll_of_lookup
  intro i v hv
  rw [lookup_assignAll, hv, Option.some_or]

/-- An id that is assigned values has the one of the last thing with that id. -/
theorem exists_last_lookup_assignAll {α : Type} (id : α → Int) (value : α → String) {as : List α}
    (h : ∃ a ∈ as, id a = i) (l : List (Int × String)) :
  ∃ before a after, as = before ++ a :: after ∧ id a = i ∧ (∀ b ∈ after, id b ≠ i)
    ∧ (assignAll (as.map fun a => (id a, value a)) l).lookup i = some (value a)
  := by
  induction as generalizing l with
  | nil => simp at h
  | cons a as ih =>
      rw [List.map_cons, assignAll_cons]
      by_cases hrest : ∃ b ∈ as, id b = i
      · obtain ⟨before, b, after, rfl, hb, hafter, hlookup⟩ := ih hrest _
        exact ⟨a :: before, b, after, rfl, hb, hafter, hlookup⟩
      · have ha : id a = i := by simpa [hrest] using h
        refine ⟨[], a, as, rfl, ha, fun b hb hid => hrest ⟨b, hb, hid⟩, ?_⟩
        rw [lookup_assignAll_of_not_mem, lookup_assign, if_pos ha.symm]
        simpa using hrest

end Plan

/-! ### Folding -/

namespace Node

variable {n : Node} {path : List String}

/-- `n.Carries d`: a declaration is the payload of a node at or below `n`. -/
def Carries (n : Node) (d : Declaration) : Prop :=
  ∃ path m, n.Reaches path m ∧ m.payload = some d

/-- The flattening of a located node lists what it carries. -/
theorem Located.carries_iff (h : Located path n) {d : Declaration} :
  n.Carries d ↔ d ∈ n.flatten.map Prod.snd
  := by
  simp only [Carries, h.reaches_iff, flatten, List.mem_map, List.mem_filterMap]
  constructor
  · rintro ⟨q, m, hm, hd⟩
    exact ⟨(m.fullName, d), ⟨(q, m), h.mem_walk.mpr hm, by simp [hd]⟩, rfl⟩
  · rintro ⟨e, ⟨⟨q, m⟩, hwalk, hd⟩, rfl⟩
    obtain ⟨d', hd', rfl⟩ := Option.map_eq_some_iff.mp hd
    exact ⟨q, m, h.mem_walk.mp hwalk, hd'⟩

@[simp] theorem paths_fold (n : Node) (parent : String) (plan : Plan) :
  (n.fold parent plan).paths
    = Plan.assignAll (n.flatten.map fun e => (e.2.id, foldedPath parent e.1)) plan.paths
  := by
  rw [fold_eq_setAll_flatten, Plan.paths_setAll, List.map_map]
  rfl

@[simp] theorem groups_fold (n : Node) (parent : String) (plan : Plan) :
  (n.fold parent plan).groups = Plan.assignAll (n.flatten.map fun e => (e.2.id, n.name)) plan.groups
  := by
  rw [fold_eq_setAll_flatten, Plan.groups_setAll, List.map_map]
  rfl

/-- The ids of the paths and of the groups after folding. -/
theorem ids_fold (n : Node) (parent : String) (plan : Plan) :
  (n.fold parent plan).paths.map Prod.fst
      = plan.paths.map Prod.fst
        ++ ((n.flatten.map (·.2.id)).filter (· ∉ plan.paths.map Prod.fst)).eraseDups
    ∧ (n.fold parent plan).groups.map Prod.fst
      = plan.groups.map Prod.fst
        ++ ((n.flatten.map (·.2.id)).filter (· ∉ plan.groups.map Prod.fst)).eraseDups
  := by
  rw [paths_fold, groups_fold, Plan.ids_assignAll_eq, Plan.ids_assignAll_eq, List.map_map,
    List.map_map]
  exact ⟨rfl, rfl⟩

/-- Folding a node again below the same parent changes nothing. -/
theorem fold_fold (n : Node) (parent : String) (plan : Plan) :
  n.fold parent (n.fold parent plan) = n.fold parent plan
  := by
  have hpaths : (n.fold parent (n.fold parent plan)).paths = (n.fold parent plan).paths := by
    rw [paths_fold, paths_fold, Plan.assignAll_assignAll]
  have hgroups : (n.fold parent (n.fold parent plan)).groups = (n.fold parent plan).groups := by
    rw [groups_fold, groups_fold, Plan.assignAll_assignAll]
  cases hfold : n.fold parent (n.fold parent plan)
  rw [hfold] at hpaths hgroups
  exact congrArg₂ Plan.mk hpaths hgroups

/-- Ids that the node does not carry keep their path and group. -/
theorem Located.lookup_fold_of_forall_ne (h : Located path n) {i : Int}
    (hi : ∀ d, n.Carries d → d.id ≠ i) (parent : String) (plan : Plan) :
  (n.fold parent plan).paths.lookup i = plan.paths.lookup i
    ∧ (n.fold parent plan).groups.lookup i = plan.groups.lookup i
  := by
  have hnot : ∀ e ∈ n.flatten, e.2.id ≠ i := by
    intro e he
    apply hi e.2 (h.carries_iff.mpr (List.mem_map_of_mem he))
  rw [paths_fold, groups_fold]
  constructor
  · apply Plan.lookup_assignAll_of_not_mem
    simpa using hnot
  · apply Plan.lookup_assignAll_of_not_mem
    simpa using hnot

/-- A carried id has the name of the node as its group. -/
theorem Located.lookup_groups_fold (h : Located path n) {d : Declaration} (hd : n.Carries d)
    (parent : String) (plan : Plan) :
  (n.fold parent plan).groups.lookup d.id = some n.name
  := by
  obtain ⟨e, he, rfl⟩ := List.mem_map.mp (h.carries_iff.mp hd)
  obtain ⟨-, -, -, -, -, -, hgroup⟩ := Plan.exists_last_lookup_assignAll
    (fun e : String × Declaration => e.2.id) (fun _ => n.name) ⟨e, he, rfl⟩ plan.groups
  rw [groups_fold]
  apply hgroup

/-- A carried id has the path of the last message of the flattening with that id. -/
theorem Located.exists_lookup_paths_fold (h : Located path n) {d : Declaration} (hd : n.Carries d)
    (parent : String) (plan : Plan) :
  ∃ before e after, n.flatten = before ++ e :: after ∧ e.2.id = d.id
    ∧ (∀ f ∈ after, f.2.id ≠ d.id)
    ∧ (n.fold parent plan).paths.lookup d.id = some (foldedPath parent e.1)
  := by
  obtain ⟨e, he, rfl⟩ := List.mem_map.mp (h.carries_iff.mp hd)
  rw [paths_fold]
  exact Plan.exists_last_lookup_assignAll (fun e : String × Declaration => e.2.id)
    (fun e => foldedPath parent e.1) ⟨e, he, rfl⟩ plan.paths

end Node

/-- Folding at a node of a tree changes a plan for the ids that the node carries and for no others.
The ids of the plan keep their places, new ones follow in the order of the flattening, and paths and
groups have the same ids in the same order if they had before.  A carried id has the name of the
node as its group and the path of the last message of the flattening with that id.  Folding again
changes nothing. -/
theorem Tree.fold_writes_carried (calls : List (String × Declaration)) {path : List String}
    {n : Node} (hn : (afterInsertions calls).root.Reaches path n) (parent : String) {plan : Plan}
    (h : plan.paths.map Prod.fst = plan.groups.map Prod.fst) :
  (n.fold parent plan).paths.map Prod.fst = (n.fold parent plan).groups.map Prod.fst
    ∧ (n.fold parent plan).paths.map Prod.fst
        = plan.paths.map Prod.fst
          ++ ((n.flatten.map (·.2.id)).filter (· ∉ plan.paths.map Prod.fst)).eraseDups
    ∧ (∀ i, (∀ d, n.Carries d → d.id ≠ i) →
        (n.fold parent plan).paths.lookup i = plan.paths.lookup i
          ∧ (n.fold parent plan).groups.lookup i = plan.groups.lookup i)
    ∧ (∀ d, n.Carries d →
        (n.fold parent plan).groups.lookup d.id = some n.name
          ∧ ∃ before e after, n.flatten = before ++ e :: after ∧ e.2.id = d.id
            ∧ (∀ f ∈ after, f.2.id ≠ d.id)
            ∧ (n.fold parent plan).paths.lookup d.id = some (Node.foldedPath parent e.1))
    ∧ n.fold parent (n.fold parent plan) = n.fold parent plan
  := by
  have hroot := (stores_inserted calls).1.located
  have hlocated := hroot.descend? (hroot.reaches_iff.mp hn)
  obtain ⟨hpaths, hgroups⟩ := n.ids_fold parent plan
  refine ⟨?_, hpaths, ?_, ?_, n.fold_fold parent plan⟩
  · rw [hpaths, hgroups, h]
  · intro i hi
    apply hlocated.lookup_fold_of_forall_ne hi
  · intro d hd
    exact ⟨hlocated.lookup_groups_fold hd parent plan,
      hlocated.exists_lookup_paths_fold hd parent plan⟩

/-- A message that is in place twice. -/
def mirroredMessage : Declaration :=
  ⟨90, "m.A", none, by decide, by decide, by decide, by decide⟩

/-- Insertions of one message at two names. -/
def mirrorings : List (String × Declaration) :=
  [("m.n.B", mirroredMessage), ("m.A", mirroredMessage)]

/-- The message has the path of its second place, behind an id that was in the plan. -/
theorem Tree.fold_writes_carried_mirrorings :
  ∃ n, (afterInsertions mirrorings).root.Reaches ["m"] n
    ∧ ([(5, "k")] : List (Int × String)).map Prod.fst
      = ([(5, "g")] : List (Int × String)).map Prod.fst
    ∧ (n.fold "" ⟨[(5, "k")], [(5, "g")]⟩).paths.map Prod.fst = [5, 90]
    ∧ (n.fold "" ⟨[(5, "k")], [(5, "g")]⟩).paths.lookup 5 = some "k"
    ∧ (n.fold "" ⟨[(5, "k")], [(5, "g")]⟩).paths.lookup 90 = some "m.n"
    ∧ (n.fold "" ⟨[(5, "k")], [(5, "g")]⟩).groups.lookup 90 = some "m"
  := by
  have h := (stores_inserted mirrorings).1
  have hinserted : inserted mirrorings
      = [(["m", "n", "B"], mirroredMessage), (["m", "A"], mirroredMessage)] := by decide
  rw [hinserted] at h
  obtain ⟨n, hn⟩ : ∃ n, (afterInsertions mirrorings).root.descend? ["m"] = some n :=
    Node.exists_descend? ((h.payloadAt_iff ["m", "A"] mirroredMessage).mpr (by decide))
  have hlocated := h.located.descend? hn
  have hcontents : n.contents = [(["A"], mirroredMessage), (["n", "B"], mirroredMessage)] := by
    apply eq_of_pairwise List.lt_asymm hlocated.pairwise_contents (by decide)
    rintro ⟨q, d⟩
    rw [hlocated.mem_contents, ← Node.payloadAt_append hn, h.payloadAt_iff]
    simp [or_comm]
  have hflatten : n.flatten = [("m.A", mirroredMessage), ("m.n.B", mirroredMessage)] := by
    rw [hlocated.flatten_eq_map_contents, hcontents]
    decide
  have hmem : mirroredMessage ∈ n.flatten.map Prod.snd := by
    rw [hflatten]
    decide
  have hreaches := h.located.reaches_iff.mpr hn
  obtain ⟨-, hids, hframe, hcarried, -⟩ := Tree.fold_writes_carried mirrorings hreaches ""
    (rfl : (⟨[(5, "k")], [(5, "g")]⟩ : Plan).paths.map Prod.fst = _)
  rw [hflatten] at hids
  obtain ⟨hgroup, before, e, after, hlast, -, hafter, hpath⟩ :=
    hcarried mirroredMessage (hlocated.carries_iff.mpr hmem)
  have hother : ∀ d, n.Carries d → d.id ≠ 5 := by
    intro d hd
    rw [hlocated.carries_iff, hflatten] at hd
    obtain rfl : d = mirroredMessage := by simpa using hd
    decide
  obtain rfl : after = [] := by
    apply List.eq_nil_iff_forall_not_mem.mpr
    intro f hf
    have hf' : f ∈ n.flatten := by
      rw [hlast]
      simp [hf]
    rw [hflatten] at hf'
    apply hafter f hf
    rcases (by simpa using hf') with rfl | rfl <;> rfl
  obtain rfl : ("m.n.B", mirroredMessage) = e := by
    simpa [hflatten] using congrArg List.getLast? hlast
  have hkept := (hframe 5 hother).1
  have hname : n.name = "m" := @Node.name_of_descend? _ n [] "m" hn
  refine ⟨n, hreaches, rfl, hids.trans (by decide), hkept, hpath.trans (by decide), ?_⟩
  rw [← hname]
  apply hgroup

end MessagePlacement
