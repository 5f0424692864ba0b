import MessagePlacement.Language
import MessagePlacement.Proofs.Text.CaseVariants

/-!
# Names of languages

A text names a language when the label of the language stands in it between blank ends, with its
letters in any case.  No label has a `k` in it, so that no character outside of ASCII can take the
place of a letter, and no two labels are variants of each other, so that no text names two
languages.  All that read the names of languages do it by `resolve`.
-/

namespace MessagePlacement

namespace Language

theorem mem_all (l : Language) :
  l ∈ all
  := by
  cases l <;> decide

/-- Labels are ASCII texts without blank characters and without the letter `k`. -/
theorem label_chars (l : Language) :
  ∀ c ∈ l.label.toList, (c.toNat < 128 ∧ c.toLower ≠ 'k') ∧ Text.isBlank c = false
  := by
  have hall : (l.label.toList.all fun c =>
      decide (c.toNat < 128 ∧ c.toLower ≠ 'k') && !Text.isBlank c) = true := by
    cases l <;> decide
  simpa using hall

theorem lower_eq_lower_label_iff {s : String} {l : Language} :
  Text.lower s = Text.lower l.label ↔ Text.IsVariant s l.label
  := Text.lower_eq_lower_iff fun c hc => (l.label_chars c hc).1

/-- Languages are told apart by their labels in lower case. -/
theorem lower_label_injective :
  Function.Injective fun l : Language => Text.lower l.label
  := by
  have hall : ∀ l ∈ all, ∀ m ∈ all, Text.IsVariant l.label m.label → l = m := by
    decide +kernel
  intro l m h
  apply hall l l.mem_all m m.mem_all (lower_eq_lower_label_iff.mp h)

/-- The name of a language in capitals is a variant of its label. -/
theorem isVariant_constantName (l : Language) :
  Text.IsVariant l.constantName l.label
  := by
  cases l <;> decide +kernel

/-- Comparing with the names in capitals too finds the same language. -/
theorem ofName?_eq_find? (s : String) :
  ofName? s = all.find? fun l =>
    Text.lower (Text.strip s) == Text.lower l.label
      || Text.lower (Text.strip s) == Text.lower l.constantName
  := by
  simp only [ofName?, lower_eq_lower_label_iff.mpr (isVariant_constantName _), Bool.or_self]

theorem ofName?_eq_some_iff {s : String} {l : Language} :
  ofName? s = some l ↔ Text.lower (Text.strip s) = Text.lower l.label
  := by
  rw [ofName?]
  generalize Text.lower (Text.strip s) = key
  constructor
  · intro h
    have hlower := List.find?_some h
    exact beq_iff_eq.mp hlower
  · intro h
    have hsome : (all.find? fun l => key == Text.lower l.label).isSome := by
      rw [List.find?_isSome]
      exact ⟨l, l.mem_all, beq_iff_eq.mpr h⟩
    obtain ⟨m, hm⟩ := Option.isSome_iff_exists.mp hsome
    have hlower := List.find?_some hm
    rw [hm, lower_label_injective ((beq_iff_eq.mp hlower).symm.trans h)]

theorem resolve_eq_ok_iff {v : Value} {l : Language} :
  resolve v = .ok l ↔ ofValue? v = some l
  := by
  rw [resolve]
  cases ofValue? v with
  | none => simp
  | some m => simp

/-- A value is resolved, or refused with itself in the error. -/
theorem resolve_eq_error_iff {v : Value} {e : LayoutError} :
  resolve v = .error e ↔ (∀ l, resolve v ≠ .ok l) ∧ e = .unresolvableLanguage v
  := by
  rw [resolve]
  cases ofValue? v with
  | none => simp [eq_comm]
  | some m => simp

/-- A text names a language exactly when it is a variant of its label, blank ends aside. -/
theorem resolve_text_eq_ok_iff {s : String} {l : Language} :
  resolve (.text s) = .ok l ↔ Text.IsVariant (Text.strip s) l.label
  := by
  rw [resolve_eq_ok_iff, ofValue?, ofName?_eq_some_iff, lower_eq_lower_label_iff]

/-- A text is resolved to the language of whose label it is a variant, blank ends aside, and to no
other one; a text that is no variant of a label is refused, as is every text with a character
outside of ASCII between its blank ends.  The names of the languages in capitals are covered by
this. -/
theorem resolve_text_iff_isVariant (s : String) :
  (∀ l, resolve (.text s) = .ok l ↔ Text.IsVariant (Text.strip s) l.label)
    ∧ (resolve (.text s) = .error (.unresolvableLanguage (.text s))
      ↔ ∀ l : Language, ¬ Text.IsVariant (Text.strip s) l.label)
    ∧ (∀ c ∈ (Text.strip s).toList, 128 ≤ c.toNat →
        resolve (.text s) = .error (.unresolvableLanguage (.text s)))
    ∧ (∀ l m : Language, Text.IsVariant (Text.strip s) l.label →
        Text.IsVariant (Text.strip s) m.label → l = m)
    ∧ (∀ l : Language, Text.IsVariant (Text.strip s) l.label
      ↔ ∃ before key after, s = before ++ key ++ after
        ∧ Text.isBlankText before = true ∧ Text.isBlankText after = true
        ∧ Text.IsVariant key l.label)
    ∧ ofName? s = all.find? fun l =>
        Text.lower (Text.strip s) == Text.lower l.label
          || Text.lower (Text.strip s) == Text.lower l.constantName
  := by
  have herror : resolve (.text s) = .error (.unresolvableLanguage (.text s))
      ↔ ∀ l : Language, ¬ Text.IsVariant (Text.strip s) l.label := by
    rw [resolve_eq_error_iff]
    simp only [ne_eq, resolve_text_eq_ok_iff, and_true]
  refine ⟨fun l => resolve_text_eq_ok_iff, herror, ?_, ?_, ?_, ofName?_eq_find? s⟩
  · intro c hc hle
    rw [herror]
    intro l hl
    have hlt := hl.lt_of_mem (fun d hd => (l.label_chars d hd).1.1) c hc
    omega
  · intro l m hl hm
    rw [← resolve_text_eq_ok_iff] at hl hm
    exact Except.ok.inj (hl.symm.trans hm)
  · intro l
    apply Text.isVariant_strip_iff fun c hc => (l.label_chars c hc).2

/-- Spaces of any width are put aside and ASCII letters are found in any case, but not a letter of
the same shape in full width. -/
theorem resolve_text_iff_isVariant_spellings :
  resolve (.text "\u3000tYPEsCRIPT\n") = .ok .typeScript
    ∧ resolve (.text "\uff27o") = .error (.unresolvableLanguage (.text "\uff27o"))
  := by
  constructor
  · apply ((resolve_text_iff_isVariant "\u3000tYPEsCRIPT\n").1 .typeScript).mpr
    decide +kernel
  · apply (resolve_text_iff_isVariant "\uff27o").2.2.1 '\uff27'
    · decide +kernel
    · decide

/-- No label has a `k`, so that the Kelvin sign, whose lower case it is, stands for no letter. -/
example : Text.lower (String.singleton Text.kelvinSign) = "k" := by decide +kernel

end Language

end MessagePlacement
