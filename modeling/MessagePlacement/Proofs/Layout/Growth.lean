import Mathlib.Data.List.TakeDrop
import MessagePlacement.Proofs.Layout.Directory
import MessagePlacement.Proofs.Plan.Comparison

/-!
# Adding messages

When messages are added, the others are folded at the same level or higher up.  Their paths keep
what they were and may get further segments at the front.
-/

namespace MessagePlacement

open Text

variable {ds es : List Declaration} {d : Declaration}

/-- The directory of a message is at the end of its directory among more messages. -/
theorem dropLast_fileSegments_suffix (hd : d ∈ ds) (hsub : ∀ e ∈ ds, e ∈ es) :
  (fileSegments ds d).dropLast <:+ (fileSegments es d).dropLast
  := by
  have hle := foldDepth_le hd (hsub d hd) fun e he _ => hsub e he
  rw [fileSegments, fileSegments, List.dropLast_drop_eq_drop_dropLast,
    List.dropLast_drop_eq_drop_dropLast]
  apply List.drop_suffix_drop_left
  apply Nat.sub_le_sub_right hle

/-- When messages are added, all with distinct ids and names, the path of every other message is
at the end of its new path. -/
theorem Resolver.assignedPath_suffix
    (naming naming' : Option NamingOracle) (ds es : List Declaration)
    (hid : (ds.map (·.id)).Nodup) (hname : (ds.map (·.name)).Nodup)
    (hid' : (es.map (·.id)).Nodup) (hname' : (es.map (·.name)).Nodup) (hsub : ∀ d ∈ ds, d ∈ es) :
  ∃ r r' paths paths', Resolver.start ⟨naming, none⟩ ds true = .ok r
    ∧ Resolver.start ⟨naming', none⟩ es true = .ok r'
    ∧ r.assignedPaths = .ok paths ∧ r'.assignedPaths = .ok paths'
    ∧ ∀ d ∈ ds, segments (Plan.valueOf d.id paths) <:+ segments (Plan.valueOf d.id paths')
  := by
  obtain ⟨l, hstart, h⟩ := Resolver.exists_start naming ds true hid hname
  obtain ⟨l', hstart', h'⟩ := Resolver.exists_start naming' es true hid' hname'
  refine ⟨_, _, l.plan.paths, l'.plan.paths, hstart, hstart', rfl, rfl, ?_⟩
  intro d hd
  rw [h.segments_valueOf_paths hd, h'.segments_valueOf_paths (hsub d hd)]
  apply dropLast_fileSegments_suffix hd hsub

/-- The nested messages with one more, directly in their outermost namespace. -/
def grownMessages : List Declaration :=
  ⟨8, "a.Top", none, by decide, by decide, by decide, by decide⟩ :: nestedMessages

theorem Resolver.assignedPath_suffix_grownMessages :
  (∀ d ∈ nestedMessages, d ∈ grownMessages)
    ∧ ∃ r r' paths paths', Resolver.start {} nestedMessages true = .ok r
      ∧ Resolver.start {} grownMessages true = .ok r'
      ∧ r.assignedPaths = .ok paths ∧ r'.assignedPaths = .ok paths'
      ∧ segments (Plan.valueOf 2 paths) = ["b", "X"]
      ∧ segments (Plan.valueOf 2 paths') = ["a", "b", "X"]
      ∧ segments (Plan.valueOf 2 paths) <:+ segments (Plan.valueOf 2 paths')
  := by
  have hsub : ∀ d ∈ nestedMessages, d ∈ grownMessages := by decide
  obtain ⟨r, r', paths, paths', hr, hr', hpaths, hpaths', hsuffix⟩ :=
    Resolver.assignedPath_suffix none none nestedMessages grownMessages (by decide) (by decide)
      (by decide) (by decide) hsub
  obtain ⟨d, hd, hdid, hbefore, hafter⟩ : ∃ d ∈ nestedMessages, d.id = 2
      ∧ (fileSegments nestedMessages d).dropLast = ["b", "X"]
      ∧ (fileSegments grownMessages d).dropLast = ["a", "b", "X"] :=
    ⟨nestedMessages[2], by decide, by decide, by decide, by decide⟩
  rw [← hdid]
  refine ⟨hsub, r, r', paths, paths', hr, hr', hpaths, hpaths', ?_, ?_, hsuffix d hd⟩
  · obtain ⟨l, rfl, h⟩ := Resolver.holds_of_start hr
    obtain rfl : l.plan.paths = paths := Except.ok.inj hpaths
    rw [h.segments_valueOf_paths hd, hbefore]
  · obtain ⟨l, rfl, h⟩ := Resolver.holds_of_start hr'
    obtain rfl : l.plan.paths = paths' := Except.ok.inj hpaths'
    rw [h.segments_valueOf_paths (hsub d hd), hafter]

end MessagePlacement
