import MessagePlacement.Proofs.Outcome
import MessagePlacement.Settings

/-!
# The fields of the settings

Each field is read from the value that is named for it, or else from the variable of the
environment for it, or else is its default, as `Provided` says; `Settings.ReadFrom` says so of all
fields, and that no other names are given.  Whatever a reading ends with, it depends on the
environment only in the fields that are not named.
-/

namespace MessagePlacement

/-- The value of a field that is read by `read`: that of the value named for it, of the one that the
environment has for it if none is named, and otherwise the default. -/
inductive Provided {ε α : Type} (read : Value → Except ε α) (default : α)
    (named environment : Option Value) : α → Prop where
  | named {v : Value} {a : α} (hnamed : named = some v) (hread : read v = .ok a) :
      Provided read default named environment a
  | environment {v : Value} {a : α} (hnamed : named = none) (henvironment : environment = some v)
      (hread : read v = .ok a) : Provided read default named environment a
  | default (hnamed : named = none) (henvironment : environment = none) :
      Provided read default named environment default

theorem provided_iff {ε α : Type} {read : Value → Except ε α} {default a : α}
    {named environment : Option Value} :
  Provided read default named environment a
    ↔ ((named.or environment).map read).getD (.ok default) = .ok a
  := by
  constructor
  · rintro (⟨rfl, hread⟩ | ⟨rfl, rfl, hread⟩ | ⟨rfl, rfl⟩)
    · exact hread
    · exact hread
    · rfl
  · intro h
    cases named with
    | some v => exact .named rfl h
    | none =>
        cases environment with
        | some v => exact .environment rfl rfl h
        | none =>
            cases h
            exact .default rfl rfl

namespace Settings

variable {entries : List (String × Value)} {env env' : List (String × String)}

theorem named?_eq_none_iff {field : String} :
  named? field entries = none ↔ ∀ e ∈ entries, Text.lower e.1 ≠ field
  := by
  simp only [named?, Option.map_eq_none_iff, List.find?_eq_none, beq_iff_eq, ne_eq]

theorem given?_congr {field : String}
    (h : named? field entries = none → environment? field env' = environment? field env) :
  given? field entries env' = given? field entries env
  := by
  rw [given?, given?]
  cases hnamed : named? field entries with
  | some v => rfl
  | none => rw [h hnamed]

/-- What a reading of the settings ends with depends on the environment only in the fields that are
not named. -/
theorem ofEntries_congr
    (h : ∀ field ∈ fieldNames, named? field entries = none →
      environment? field env' = environment? field env) :
  ofEntries entries env' = ofEntries entries env
  := by
  have hgiven : ∀ field ∈ fieldNames, given? field entries env' = given? field entries env :=
    fun field hfield => given?_congr (h field hfield)
  simp only [ofEntries, hgiven "declarations" (by decide), hgiven "languages" (by decide),
    hgiven "fold_protocol" (by decide), hgiven "output" (by decide)]

/-- `c.ReadFrom entries env`: only fields are named, and the fields of `c` are what is provided
for them. -/
structure ReadFrom (c : Settings) (entries : List (String × Value)) (env : List (String × String)) :
    Prop where
  known (e : String × Value) : e ∈ entries → Text.lower e.1 ∈ fieldNames
  declarations : Provided Validation.optionalText none (named? "declarations" entries)
    (environment? "declarations" env) c.declarations
  languages : Provided languagesOf [.python] (named? "languages" entries)
    (environment? "languages" env) c.languages
  foldProtocol : Provided Validation.bool true (named? "fold_protocol" entries)
    (environment? "fold_protocol" env) c.foldProtocol
  output : Provided Validation.optionalText none (named? "output" entries)
    (environment? "output" env) c.output

theorem fieldOf_eq_ok_iff {α : Type} {field : String} {read : Value → Except Problem α}
    {default a : α} {given : Option Value} :
  fieldOf field read default given = .ok a ↔ (given.map read).getD (.ok default) = .ok a
  := by
  cases given with
  | none =>
      constructor
      · rintro ⟨⟩
        rfl
      · rintro ⟨⟩
        rfl
  | some v => exact mapError_eq_ok_iff

theorem strangers_eq_nil_iff :
  strangers entries = [] ↔ ∀ e ∈ entries, Text.lower e.1 ∈ fieldNames
  := by
  simp only [strangers, List.map_eq_nil_iff, List.filter_eq_nil_iff, Bool.not_eq_true,
    Bool.not_eq_false', List.contains_iff_mem]

/-- There are settings exactly when only fields are named and every field can be read. -/
theorem ofEntries_eq_ok_iff {c : Settings} :
  ofEntries entries env = .ok c ↔ c.ReadFrom entries env
  := by
  constructor
  · intro h
    simp only [ofEntries, given?] at h
    split at h
    · rename_i hdeclarations hlanguages hfold houtput hstrangers
      cases h
      constructor
      · exact strangers_eq_nil_iff.mp hstrangers
      · exact provided_iff.mpr (fieldOf_eq_ok_iff.mp hdeclarations)
      · exact provided_iff.mpr hlanguages
      · exact provided_iff.mpr (fieldOf_eq_ok_iff.mp hfold)
      · exact provided_iff.mpr (fieldOf_eq_ok_iff.mp houtput)
    · cases h
  · rintro ⟨hknown, hdeclarations, hlanguages, hfold, houtput⟩
    simp only [ofEntries, given?, fieldOf_eq_ok_iff.mpr (provided_iff.mp hdeclarations),
      provided_iff.mp hlanguages, fieldOf_eq_ok_iff.mpr (provided_iff.mp hfold),
      fieldOf_eq_ok_iff.mpr (provided_iff.mp houtput), strangers_eq_nil_iff.mpr hknown]

end Settings

end MessagePlacement
