import Mathlib.Data.List.Basic
import Mathlib.Data.Nat.Digits.Defs
import MessagePlacement.Json.Reader
import MessagePlacement.Json.Writer

/-!
# Integers and strings in JSON

What is written for a short integer and for a string is read back.  `AtBreak` says where an integer
ends: at the end of the text, at a comma or at a line break, so that neither a digit nor a
fraction nor an exponent follows.  A string ends with its quote, and the code units of its
characters are their numbers, none of which is a surrogate.
-/

namespace MessagePlacement

/-! ### Digits -/

namespace Numeral

/-- A decimal digit stands for its distance from zero. -/
theorem digitValue?_of_isDigit {c : Char} (h : c.isDigit = true) :
  digitValue? 10 c = some (c.toNat - '0'.toNat)
  := by
  have hbounds : 0x30 ≤ c.toNat ∧ c.toNat ≤ 0x39 := by
    simpa [Char.isDigit, Char.le_def, UInt32.le_iff_toNat_le] using h
  have hlt : c.toNat - 0x30 < 10 := by omega
  simp only [digitValue?, if_pos hbounds, if_pos hlt]
  rfl

/-- A run of digits ends where no digit follows. -/
theorem digitRun_append
    {ds rest : List Char} (hds : ∀ c ∈ ds, c.isDigit = true)
    (hrest : ∀ c ∈ rest.head?, digitValue? 10 c = none) (value count : Nat) :
  digitRun false 10 value count (ds ++ rest)
    = (Nat.ofDigitChars 10 ds value, count + ds.length, rest)
  := by
  induction ds generalizing value count with
  | nil =>
      cases rest with
      | nil => rfl
      | cons c cs =>
          rw [List.nil_append, digitRun.eq_def]
          simp only [hrest c rfl, Bool.false_and, Bool.false_eq_true, if_false]
          split
          · rfl
          · rfl
  | cons d ds ih =>
      have hd := digitValue?_of_isDigit (hds d (List.mem_cons_self ..))
      rw [List.cons_append, digitRun.eq_def]
      simp only [hd]
      rw [ih (fun c hc => hds c (List.mem_cons_of_mem _ hc)), Nat.ofDigitChars_cons,
        Nat.mul_comm value, List.length_cons]
      congr 2
      omega

/-- The decimal digits of a number are read as the number. -/
theorem digitRun_toDigits
    (n : Nat) {rest : List Char} (hrest : ∀ c ∈ rest.head?, digitValue? 10 c = none) :
  digitRun false 10 0 0 (Nat.toDigits 10 n ++ rest) = (n, (Nat.toDigits 10 n).length, rest)
  := by
  have hdigits : ∀ c ∈ Nat.toDigits 10 n, c.isDigit = true :=
    fun c hc => Nat.isDigit_of_mem_toDigits (by decide) (by decide) hc
  rw [digitRun_append hdigits hrest, Nat.ofDigitChars_ten_toDigits, Nat.zero_add]

/-- Only zero is written with a zero at the front. -/
theorem head?_toDigits_ne {n : Nat} (hn : n ≠ 0) :
  (Nat.toDigits 10 n).head? ≠ some '0'
  := by
  induction n using Nat.strongRecOn with
  | ind n ih =>
      rw [Nat.toDigits_eq_if (by decide)]
      split
      · intro h
        apply hn
        simpa using h
      · have hdiv : n / 10 ≠ 0 := by omega
        rw [List.head?_append_of_ne_nil _ Nat.toDigits_ne_nil]
        apply ih (n / 10) (by omega) hdiv

end Numeral

namespace Json

open Numeral

/-! ### Integers -/

/-- `AtBreak cs`: the text is at its end, at a comma or at a line break. -/
def AtBreak (cs : List Char) : Prop :=
  ∀ c ∈ cs.head?, c = ',' ∨ c = '\n'

variable {rest : List Char}

theorem atBreak_cons {c : Char} (h : c = ',' ∨ c = '\n') :
  AtBreak (c :: rest)
  := by
  rintro _ ⟨⟩
  exact h

theorem AtBreak.digitValue? (h : AtBreak rest) :
  ∀ c ∈ rest.head?, digitValue? 10 c = none
  := by
  intro c hc
  rcases h c hc with rfl | rfl
  · decide
  · decide

theorem AtBreak.fraction? (h : AtBreak rest) (whole : Nat) :
  fraction? whole rest = none
  := by
  cases rest with
  | nil => rfl
  | cons c cs =>
      rcases h c rfl with rfl | rfl
      · rfl
      · rfl

theorem AtBreak.exponent? (h : AtBreak rest) :
  exponent? rest = none
  := by
  cases rest with
  | nil => rfl
  | cons c cs =>
      rcases h c rfl with rfl | rfl
      · rfl
      · rfl

/-- The digits of a number are its whole part. -/
theorem whole?_toDigits (n : Nat) (h : AtBreak rest) :
  whole? (Nat.toDigits 10 n ++ rest) = some (n, (Nat.toDigits 10 n).length, rest)
  := by
  have hrun := digitRun_toDigits n h.digitValue?
  obtain ⟨d, ds, hds⟩ := List.exists_cons_of_ne_nil (Nat.toDigits_ne_nil (n := n) (b := 10))
  by_cases hn : n = 0
  · subst hn
    rfl
  · have hd : d ≠ '0' := by
      rintro rfl
      apply head?_toDigits_ne hn
      rw [hds]
      rfl
    rw [hds] at hrun ⊢
    rw [List.cons_append] at hrun ⊢
    rw [whole?, hrun]
    · rfl
    · rintro cs ⟨⟩
      apply hd rfl

/-- That an integer has no more digits than can be read. -/
def IsShort (n : Int) : Prop :=
  (Nat.toDigits 10 n.natAbs).length ≤ Fault.mostDigits

theorem isShort_of_le {n : Int} (hlow : 0 ≤ n) (hhigh : n ≤ 65535) :
  IsShort n
  := by
  have hlength := Nat.toDigits_length 10 n.natAbs 5 (by decide) (by omega)
  exact hlength.trans (by decide)

/-- A short number without fraction and exponent is an integer. -/
theorem number_toDigits (negative : Bool) {n : Nat}
    (hn : (Nat.toDigits 10 n).length ≤ Fault.mostDigits) (h : AtBreak rest) :
  number negative (Nat.toDigits 10 n ++ rest)
    = .ok (.int (if negative then -(n : Int) else n), rest)
  := by
  simp only [number, whole?_toDigits n h, h.fraction?, h.exponent?, if_neg (Nat.not_lt_of_le hn)]
  rfl

/-- A text that begins with a digit is read as a number. -/
theorem atom_cons_of_isDigit {d : Char} (hd : d.isDigit = true) (cs : List Char) :
  atom (d :: cs) = number false (d :: cs)
  := by
  rw [atom]
  all_goals
    rintro _ ⟨⟩
    revert hd
    decide

/-- A minus sign before a digit is the sign of a number. -/
theorem atom_minus_of_isDigit {d : Char} (hd : d.isDigit = true) (cs : List Char) :
  atom ('-' :: d :: cs) = number true (d :: cs)
  := by
  rw [atom]
  rintro _ ⟨⟩
  revert hd
  decide

/-- The digits of a number begin with a digit. -/
theorem exists_toDigits_eq_cons (n : Nat) :
  ∃ d ds, Nat.toDigits 10 n = d :: ds ∧ d.isDigit = true
  := by
  obtain ⟨d, ds, hds⟩ := List.exists_cons_of_ne_nil (Nat.toDigits_ne_nil (n := n) (b := 10))
  use d, ds, hds
  apply Nat.isDigit_of_mem_toDigits (b := 10) (n := n) (by decide) (by decide)
  rw [hds]
  apply List.mem_cons_self

/-- An integer is written by its sign and the digits of its absolute value. -/
theorem toList_toString_int (n : Int) :
  (toString n).toList = if n < 0 then '-' :: Nat.toDigits 10 n.natAbs else Nat.toDigits 10 n.natAbs
  := by
  rw [Int.toString_eq_repr, Int.repr_eq_if]
  by_cases hn : n < 0
  · rw [if_neg (by omega), if_pos hn, String.toList_append, Nat.toList_repr]
    have habs : (-n).toNat = n.natAbs := by omega
    rw [habs]
    rfl
  · rw [if_pos (by omega), if_neg hn, Nat.toList_repr]
    have habs : n.toNat = n.natAbs := by omega
    rw [habs]

/-- A short integer is read back. -/
theorem atom_int {n : Int} (hn : IsShort n) (h : AtBreak rest) :
  atom ((toString n).toList ++ rest) = .ok (.int n, rest)
  := by
  obtain ⟨d, ds, hds, hd⟩ := exists_toDigits_eq_cons n.natAbs
  rw [toList_toString_int]
  split
  · have hnumber := number_toDigits true hn h
    rw [hds] at hnumber ⊢
    rw [List.cons_append, List.cons_append, atom_minus_of_isDigit hd, ← List.cons_append, hnumber]
    simp only [if_true, Except.ok.injEq, Prod.mk.injEq, Value.int.injEq, and_true]
    omega
  · have hnumber := number_toDigits false hn h
    rw [hds] at hnumber ⊢
    rw [List.cons_append, atom_cons_of_isDigit hd, ← List.cons_append, hnumber]
    simp only [Bool.false_eq_true, if_false, Except.ok.injEq, Prod.mk.injEq, Value.int.injEq,
      and_true]
    omega

/-- What is written for an integer begins with a minus sign or a digit. -/
theorem exists_toString_int_eq_cons (n : Int) :
  ∃ c cs, (toString n).toList = c :: cs ∧ (c = '-' ∨ c.isDigit = true)
  := by
  obtain ⟨d, ds, hds, hd⟩ := exists_toDigits_eq_cons n.natAbs
  rw [toList_toString_int]
  split
  · exact ⟨'-', _, rfl, .inl rfl⟩
  · exact ⟨d, ds, hds, .inr hd⟩

/-! ### Strings -/

theorem digitValue?_hexDigit {d : Nat} (hd : d < 16) :
  digitValue? 16 (Text.hexDigit d) = some d
  := by
  have hall : ∀ d < 16, digitValue? 16 (Text.hexDigit d) = some d := by decide
  apply hall d hd

/-- The four hexadecimal digits of a number are read as the number. -/
theorem fourDigits?_hexDigits {n : Nat} (hn : n < 0x10000) :
  ∃ a b c d, Text.hexDigits 4 n = [a, b, c, d] ∧ fourDigits? a b c d = some n
  := by
  refine ⟨_, _, _, _, rfl, ?_⟩
  simp only [fourDigits?, digitValue?_hexDigit (Nat.mod_lt _ (by decide : 16 > 0))]
  change some _ = some n
  congr 1
  omega

/-- A character is written by a letter, by its number or as itself. -/
theorem escapeChar_cases (c : Char) :
  (∃ e, escapeChar c = ['\\', e] ∧ e ≠ 'u' ∧ simpleEscape? e = some c.toNat)
    ∨ (escapeChar c = '\\' :: 'u' :: Text.hexDigits 4 c.toNat ∧ c.toNat < 0x20)
    ∨ (escapeChar c = [c] ∧ c ≠ '\x22' ∧ c ≠ '\\' ∧ 0x20 ≤ c.toNat)
  := by
  rw [escapeChar]
  split_ifs with hquote hbackspace htab hline hfeed hreturn hcontrol
  · rcases hquote with rfl | rfl
    · exact .inl ⟨'\x22', rfl, by decide, rfl⟩
    · exact .inl ⟨'\\', rfl, by decide, rfl⟩
  · subst hbackspace
    exact .inl ⟨'b', rfl, by decide, rfl⟩
  · subst htab
    exact .inl ⟨'t', rfl, by decide, rfl⟩
  · subst hline
    exact .inl ⟨'n', rfl, by decide, rfl⟩
  · subst hfeed
    exact .inl ⟨'f', rfl, by decide, rfl⟩
  · subst hreturn
    exact .inl ⟨'r', rfl, by decide, rfl⟩
  · exact .inr (.inl ⟨rfl, hcontrol⟩)
  · rw [not_or] at hquote
    exact .inr (.inr ⟨rfl, hquote.1, hquote.2, Nat.le_of_not_lt hcontrol⟩)

/-- What is written for a character is read as its number. -/
theorem stringUnits?_escapeChar (c : Char) (acc : List Nat) (rest : List Char) :
  stringUnits? acc (escapeChar c ++ rest) = stringUnits? (c.toNat :: acc) rest
  := by
  rcases escapeChar_cases c with ⟨e, heq, hu, he⟩ | ⟨heq, hcontrol⟩ | ⟨heq, hquote, hslash, hle⟩
  · rw [heq]
    change stringUnits? acc ('\\' :: e :: rest) = _
    rw [stringUnits?, he]
    rintro a b c' d cs rfl
    exact absurd rfl hu
  · obtain ⟨a, b, c', d, hdigits, hfour⟩ := fourDigits?_hexDigits (n := c.toNat) (by omega)
    rw [heq, hdigits]
    change stringUnits? acc ('\\' :: 'u' :: a :: b :: c' :: d :: rest) = _
    rw [stringUnits?, hfour]
  · rw [heq]
    change stringUnits? acc (c :: rest) = _
    rw [stringUnits?, if_neg (Nat.not_lt_of_le hle)]
    · exact hquote
    · intro a b c' d cs h
      exact absurd h hslash
    · intro c' cs h
      exact absurd h hslash

/-- What is written for characters is read, up to the quote, as their numbers. -/
theorem stringUnits?_flatMap_escapeChar (cs : List Char) (acc : List Nat) (rest : List Char) :
  stringUnits? acc (cs.flatMap escapeChar ++ '\x22' :: rest)
    = some (acc.reverse ++ cs.map Char.toNat, rest)
  := by
  induction cs generalizing acc with
  | nil => simp [stringUnits?]
  | cons c cs ih =>
      rw [List.flatMap_cons, List.append_assoc, stringUnits?_escapeChar, ih]
      simp

/-- The number of a character is no surrogate. -/
theorem not_isSurrogate_toNat (c : Char) :
  ¬ (0xD800 ≤ c.toNat ∧ c.toNat < 0xE000)
  := by
  rintro ⟨hle, hlt⟩
  rcases c.valid with h | ⟨h, -⟩
  · have : c.toNat < 0xD800 := h
    omega
  · have : 0xDFFF < c.toNat := h
    omega

/-- The numbers of characters joined are the characters. -/
theorem joinSurrogates?_map_toNat (cs : List Char) :
  joinSurrogates? (cs.map Char.toNat) = some cs
  := by
  induction cs with
  | nil => rfl
  | cons c cs ih =>
      have hno := not_isSurrogate_toNat c
      cases cs with
      | nil =>
          simp only [List.map_cons, List.map_nil, joinSurrogates?, if_neg hno, Char.ofNat_toNat]
      | cons c' cs =>
          rw [List.map_cons, List.map_cons, joinSurrogates?, if_neg (by omega), if_neg hno,
            Char.ofNat_toNat, ← List.map_cons, ih, Option.map_some]

/-- A string is read back once its opening quote has been read. -/
theorem string_escapeChar (s : String) (rest : List Char) :
  string (s.toList.flatMap escapeChar ++ '\x22' :: rest) = .ok (s, rest)
  := by
  simp only [string, stringUnits?_flatMap_escapeChar, List.reverse_nil, List.nil_append,
    joinSurrogates?_map_toNat, String.ofList_toList]

end Json

end MessagePlacement
