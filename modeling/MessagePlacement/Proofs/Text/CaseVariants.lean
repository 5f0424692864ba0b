import Mathlib
import MessagePlacement.Text.Blank
import MessagePlacement.Text.Case

/-!
# Case variants of ASCII texts

`lower` changes the ASCII letters as `Char.toLower` does.  The lower case of any other character has
a character outside of ASCII in it, the Kelvin sign excepted, which becomes a `k`.  So a text whose
lower case is an ASCII text without `k` is an ASCII text itself, and `IsVariant s t`, which says
that two texts have the same length and agree up to the case of ASCII letters, is what having the
same lower case comes to.
-/

namespace MessagePlacement.Text

/-! ### Lower case of characters -/

/-- The sign of the unit of temperature, which has the shape of a letter. -/
def kelvinSign : Char := '\u212a'

/-- What holds of the 128 ASCII characters, looked at one by one, holds of every such character. -/
theorem forall_ascii {P : Char → Prop} (h : ∀ n < 128, P (Char.ofNat n)) {c : Char}
    (hc : c.toNat < 128) :
  P c
  := by
  have hP := h c.toNat hc
  rwa [Char.ofNat_toNat] at hP

theorem lowerChar_of_lt {c : Char} (hc : c.toNat < 128) :
  lowerChar c = [c.toLower]
  := by
  revert c
  apply forall_ascii
  decide +kernel

theorem lowerChar_kelvinSign :
  lowerChar kelvinSign = ['k']
  := by decide +kernel

theorem toLower_of_le {c : Char} (hc : 128 ≤ c.toNat) :
  c.toLower = c
  := by
  apply Char.toLower_eq_of_not_isUpper
  simp only [Char.isUpper, decide_eq_true_eq, ge_iff_le, UInt32.le_iff_toNat_le, Char.toNat_val,
    not_and, not_le]
  intro _
  exact lt_of_lt_of_le (by decide) hc

theorem toNat_toLower_lt_iff {c : Char} :
  c.toLower.toNat < 128 ↔ c.toNat < 128
  := by
  constructor
  · intro h
    by_contra hle
    rw [toLower_of_le (Nat.not_lt.mp hle)] at h
    exact hle h
  · revert c
    apply forall_ascii
    decide +kernel

/-- A run holds ASCII letters only, or the Kelvin sign only, or its images are outside of ASCII. -/
theorem lowerRuns_cases :
  ∀ r ∈ lowerRuns, r.last < 128 ∨ r.first = kelvinSign.toNat ∧ r.last = kelvinSign.toNat
    ∨ 128 ≤ r.first + r.shift
      ∧ (r.last + r.shift < 0xD800 ∨ 0xE000 ≤ r.first + r.shift ∧ r.last + r.shift < 0x110000)
  := by decide +kernel

/-- The image of a character outside of ASCII under a run is outside of ASCII, the Kelvin sign
excepted. -/
theorem le_toNat_ofNat_of_image? {c : Char} (hc : 128 ≤ c.toNat) (hkelvin : c ≠ kelvinSign)
    {r : CaseRun} (hr : r ∈ lowerRuns) {n : Nat} (hn : r.image? c.toNat = some n) :
  128 ≤ (Char.ofNat n).toNat
  := by
  rw [CaseRun.image?] at hn
  split at hn
  · rename_i hheld
    obtain ⟨hfirst, hlast, -⟩ := hheld
    have himage := Option.some.inj hn
    rcases lowerRuns_cases r hr with hascii | ⟨hsign, hsign'⟩ | ⟨hlow, hvalid⟩
    · omega
    · exact absurd (Char.toNat_inj.mp (by omega)) hkelvin
    · rw [Char.toNat_ofNat, if_pos]
      · omega
      · rw [Nat.isValidChar]
        omega
  · cases hn

/-- The lower case of a character outside of ASCII has one in it, the Kelvin sign excepted. -/
theorem exists_mem_lowerChar {c : Char} (hc : 128 ≤ c.toNat) (hkelvin : c ≠ kelvinSign) :
  ∃ d ∈ lowerChar c, 128 ≤ d.toNat
  := by
  rw [lowerChar, mapCase]
  split
  · rename_i ns hns
    have hexpansions : ∀ e ∈ lowerExpansions, ∃ n ∈ e.2, 128 ≤ (Char.ofNat n).toNat := by
      decide +kernel
    obtain ⟨as, bs, hsplit, -⟩ := List.lookup_eq_some_iff.mp hns
    obtain ⟨n, hn, hle⟩ := hexpansions (c.toNat, ns) (by rw [hsplit]; simp)
    exact ⟨_, List.mem_map_of_mem hn, hle⟩
  · split
    · rename_i n hn
      obtain ⟨r, hr, hn⟩ := List.exists_of_findSome?_eq_some hn
      exact ⟨_, List.mem_singleton_self _, le_toNat_ofNat_of_image? hc hkelvin hr hn⟩
    · exact ⟨c, List.mem_singleton_self c, hc⟩

theorem le_toNat_lowerSigma (before after : List Char) :
  128 ≤ (lowerSigma before after).toNat
  := by
  rw [lowerSigma]
  split
  · decide
  · decide

/-! ### Lower case of texts -/

theorem lowerFrom_eq_map (before : List Char) {cs : List Char} (h : ∀ c ∈ cs, c.toNat < 128) :
  lowerFrom before cs = cs.map Char.toLower
  := by
  induction cs generalizing before with
  | nil => rfl
  | cons c cs ih =>
      have hc := h c List.mem_cons_self
      have hsigma : c ≠ capitalSigma := by
        rintro rfl
        exact absurd hc (by decide)
      rw [lowerFrom, if_neg hsigma, lowerChar_of_lt hc, List.map_cons,
        ih _ fun d hd => h d (List.mem_cons_of_mem c hd)]
      rfl

/-- Only ASCII characters have a lower case in ASCII without `k`. -/
theorem lt_of_mem_of_lowerFrom {before cs : List Char}
    (h : ∀ d ∈ lowerFrom before cs, d.toNat < 128 ∧ d ≠ 'k') :
  ∀ c ∈ cs, c.toNat < 128
  := by
  induction cs generalizing before with
  | nil =>
      intro c hc
      cases hc
  | cons c cs ih =>
      rw [lowerFrom] at h
      rw [List.forall_mem_append] at h
      obtain ⟨hhead, htail⟩ := h
      rw [List.forall_mem_cons]
      refine ⟨?_, ih htail⟩
      by_contra hc
      rw [Nat.not_lt] at hc
      split at hhead
      · have hle := le_toNat_lowerSigma before cs
        have hlt := (hhead _ (List.mem_singleton_self _)).1
        omega
      · by_cases hkelvin : c = kelvinSign
        · rw [hkelvin, lowerChar_kelvinSign] at hhead
          apply (hhead 'k' (List.mem_singleton_self _)).2 rfl
        · obtain ⟨d, hd, hle⟩ := exists_mem_lowerChar hc hkelvin
          have hlt := (hhead d hd).1
          omega

/-- A text has a given lower case in ASCII without `k` exactly when lowering its ASCII letters gives
it. -/
theorem lower_eq_iff {s t : String} (ht : ∀ d ∈ t.toList, d.toNat < 128 ∧ d ≠ 'k') :
  lower s = t ↔ s.toList.map Char.toLower = t.toList
  := by
  rw [lower, ← String.toList_inj, String.toList_ofList]
  constructor
  · intro h
    rw [← h] at ht
    rw [← lowerFrom_eq_map [] (lt_of_mem_of_lowerFrom ht), h]
  · intro h
    rw [← h]
    apply lowerFrom_eq_map
    intro c hc
    rw [← h, List.forall_mem_map] at ht
    exact toNat_toLower_lt_iff.mp (ht c hc).1

/-- `IsVariant s t`: the texts have the same length and agree up to the case of ASCII letters. -/
def IsVariant (s t : String) : Prop :=
  s.length = t.length ∧ s.toList.map Char.toLower = t.toList.map Char.toLower

instance (s t : String) : Decidable (IsVariant s t) :=
  inferInstanceAs (Decidable (_ ∧ _))

theorem isVariant_iff {s t : String} :
  IsVariant s t ↔ s.toList.map Char.toLower = t.toList.map Char.toLower
  := by
  constructor
  · intro h
    apply h.2
  · intro h
    have hlength := congrArg List.length h
    rw [List.length_map, List.length_map, String.length_toList, String.length_toList] at hlength
    exact ⟨hlength, h⟩

/-- A text has the lower case of an ASCII text without the letter `k` exactly when it is a variant
of it. -/
theorem lower_eq_lower_iff {s t : String}
    (ht : ∀ d ∈ t.toList, d.toNat < 128 ∧ d.toLower ≠ 'k') :
  lower s = lower t ↔ IsVariant s t
  := by
  have hlower : (lower t).toList = t.toList.map Char.toLower := by
    rw [lower, String.toList_ofList]
    apply lowerFrom_eq_map
    exact fun d hd => (ht d hd).1
  rw [lower_eq_iff, hlower, isVariant_iff]
  intro d hd
  rw [hlower] at hd
  obtain ⟨c, hc, rfl⟩ := List.mem_map.mp hd
  exact ⟨toNat_toLower_lt_iff.mpr (ht c hc).1, (ht c hc).2⟩

theorem IsVariant.exists_mem {s t : String} (h : IsVariant s t) {c : Char} (hc : c ∈ s.toList) :
  ∃ d ∈ t.toList, d.toLower = c.toLower
  := by
  rw [← List.mem_map, ← h.2]
  exact List.mem_map_of_mem hc

/-- The variants of an ASCII text are ASCII texts. -/
theorem IsVariant.lt_of_mem {s t : String} (h : IsVariant s t)
    (ht : ∀ d ∈ t.toList, d.toNat < 128) :
  ∀ c ∈ s.toList, c.toNat < 128
  := by
  intro c hc
  obtain ⟨d, hd, heq⟩ := h.exists_mem hc
  rw [← toNat_toLower_lt_iff, ← heq, toNat_toLower_lt_iff]
  apply ht d hd

/-! ### Blank ends -/

theorem isBlank_toLower (c : Char) :
  isBlank c.toLower = isBlank c
  := by
  by_cases hc : c.toNat < 128
  · revert c
    apply forall_ascii
    decide +kernel
  · rw [toLower_of_le (Nat.not_lt.mp hc)]

/-- Trimming removes what is to be removed from both ends, up to what is to stay. -/
theorem trimWith_append {p : Char → Bool} {before cs after : List Char}
    (hbefore : ∀ c ∈ before, p c = true) (hcs : ∀ c ∈ cs, p c = false)
    (hafter : ∀ c ∈ after, p c = true) :
  trimWith p (before ++ (cs ++ after)) = cs
  := by
  rw [trimWith, List.dropWhile_append_of_pos hbefore]
  rcases List.eq_nil_or_concat' cs with rfl | ⟨init, last, rfl⟩
  · rw [List.nil_append, List.dropWhile_eq_nil_iff.mpr hafter]
    rfl
  · have hlast : p last = false := hcs last (by simp)
    have hfront : ((init ++ [last]) ++ after).dropWhile p = (init ++ [last]) ++ after := by
      cases init with
      | nil => simp [hlast]
      | cons first init => simp [hcs first (by simp)]
    rw [hfront, List.reverse_append, List.dropWhile_append_of_pos (by simpa using hafter)]
    simp [hlast]

/-- Every text is what is left of it without its blank ends, between them. -/
theorem exists_append_strip (s : String) :
  ∃ before after, s = before ++ strip s ++ after
    ∧ isBlankText before = true ∧ isBlankText after = true
  := by
  have hstrip : (strip s).toList = (s.toList.dropWhile isBlank).rdropWhile isBlank := by
    rw [strip, String.toList_ofList]
    rfl
  use String.ofList (s.toList.takeWhile isBlank),
    String.ofList ((s.toList.dropWhile isBlank).rtakeWhile isBlank)
  refine ⟨?_, ?_, ?_⟩
  · apply String.toList_injective
    simp only [String.toList_append, String.toList_ofList, hstrip, List.append_assoc,
      List.rdropWhile_append_rtakeWhile, List.takeWhile_append_dropWhile]
  · rw [isBlankText, String.toList_ofList, List.all_eq_true]
    exact fun c hc => List.mem_takeWhile_imp hc
  · rw [isBlankText, String.toList_ofList, List.all_eq_true]
    exact fun c hc => List.mem_rtakeWhile_imp hc

/-- Between blank ends a text without blank characters is what is left without them. -/
theorem strip_append {before s after : String} (hbefore : isBlankText before = true)
    (hs : ∀ c ∈ s.toList, isBlank c = false) (hafter : isBlankText after = true) :
  strip (before ++ s ++ after) = s
  := by
  rw [isBlankText, List.all_eq_true] at hbefore hafter
  rw [strip, String.toList_append, String.toList_append, List.append_assoc,
    trimWith_append hbefore hs hafter, String.ofList_toList]

/-- A text is a variant of one without blank characters, its blank ends aside, exactly when it is
made of a variant and blank ends. -/
theorem isVariant_strip_iff {s t : String} (ht : ∀ c ∈ t.toList, isBlank c = false) :
  IsVariant (strip s) t
    ↔ ∃ before key after, s = before ++ key ++ after
      ∧ isBlankText before = true ∧ isBlankText after = true ∧ IsVariant key t
  := by
  constructor
  · intro h
    obtain ⟨before, after, hsplit, hbefore, hafter⟩ := exists_append_strip s
    exact ⟨before, strip s, after, hsplit, hbefore, hafter, h⟩
  · rintro ⟨before, key, after, rfl, hbefore, hafter, hkey⟩
    rw [strip_append hbefore _ hafter]
    · apply hkey
    · intro c hc
      obtain ⟨d, hd, heq⟩ := hkey.exists_mem hc
      rw [← isBlank_toLower, ← heq, isBlank_toLower]
      apply ht d hd

end MessagePlacement.Text
