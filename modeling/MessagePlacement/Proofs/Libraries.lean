import MessagePlacement.Libraries
import MessagePlacement.Proofs.Configuration.Fields

/-!
# What libraries do

A text is read as without limits, unless it exceeds one.  With an option among the named values
the settings are whatever the settings library makes of them.  Otherwise they are read from the
fields, unless the languages are listed in a text that exceeds a limit, and then they depend on the
environment only in the fields that are not named.
-/

namespace MessagePlacement

namespace Libraries

variable {lib : Libraries}

section Reading

variable {α : Type} {reader : Reader} {parse : String → Except ReadError α} {text : String}

@[simp] theorem read_eq_ok_iff {a : α} :
  lib.read reader parse text = .ok a ↔ lib.exceeds reader text = false ∧ parse text = .ok a
  := by
  rw [read]
  split
  · simp [*]
  · simp [*]

@[simp] theorem read_eq_malformed_iff :
  lib.read reader parse text = .error .malformed
    ↔ lib.exceeds reader text = false ∧ parse text = .error .malformed
  := by
  rw [read]
  split
  · simp [*]
  · simp [*]

@[simp] theorem read_eq_fault_iff {f : Fault} :
  lib.read reader parse text = .error (.fault f)
    ↔ (lib.exceeds reader text = true ∧ f = .limit)
      ∨ (lib.exceeds reader text = false ∧ parse text = .error (.fault f))
  := by
  rw [read]
  split
  · simp [*, eq_comm]
  · simp [*]

end Reading

section Settings

variable {fs fs' : FileSystem} {named : List (String × Value)} {env env' : List (String × String)}

/-- That an option of the settings library is among named values. -/
def HasOption (lib : Libraries) (named : List (String × Value)) : Prop :=
  ∃ e ∈ named, lib.isOption e.1 = true

/-- That the languages are listed in JSON by a text that exceeds a limit. -/
def ExceedsLimit (lib : Libraries) (named : List (String × Value)) (env : List (String × String)) :
    Prop :=
  ∃ s, (Settings.named? "languages" named).or (Settings.environment? "languages" env)
      = some (.text s)
    ∧ Settings.isJson s = true ∧ lib.exceeds .languages s = true

/-- What ends the making of settings without their being refused. -/
inductive SettingsFault (lib : Libraries) (fs : FileSystem) (named : List (String × Value))
    (env : List (String × String)) : Prop where
  | options {f : Fault} (hoption : lib.HasOption named)
      (h : lib.configure fs named env = .error (.fault f)) : SettingsFault lib fs named env
  | limit (hplain : ¬ lib.HasOption named) (h : lib.ExceedsLimit named env) :
      SettingsFault lib fs named env

theorem any_isOption_iff :
  (named.any fun e => lib.isOption e.1) = true ↔ lib.HasOption named
  := List.any_eq_true

theorem exceedsIn_iff {v : Value} :
  lib.exceedsIn v = true
    ↔ ∃ s, v = .text s ∧ Settings.isJson s = true ∧ lib.exceeds .languages s = true
  := by
  cases v
  all_goals simp [exceedsIn]

theorem any_exceedsIn_iff :
  (Settings.given? "languages" named env).any lib.exceedsIn = true ↔ lib.ExceedsLimit named env
  := by
  rw [Option.any_eq_true, ExceedsLimit, Settings.given?]
  simp only [exceedsIn_iff]
  constructor
  · rintro ⟨_, h, s, rfl, hs⟩
    exact ⟨s, h, hs⟩
  · rintro ⟨s, h, hs⟩
    exact ⟨_, h, s, rfl, hs⟩

/-- Without options, settings are made exactly when they can be read and no limit is exceeded. -/
theorem settings_eq_ok_iff (hplain : ¬ lib.HasOption named) {c : Settings} :
  lib.settings fs named env = .ok c ↔ c.ReadFrom named env ∧ ¬ lib.ExceedsLimit named env
  := by
  rw [settings, if_neg (mt any_isOption_iff.mp hplain), ← any_exceedsIn_iff]
  split
  · simp [*]
  · simp [*, Settings.ofEntries_eq_ok_iff]

theorem exists_settings_fault_iff :
  (∃ f, lib.settings fs named env = .error (.fault f)) ↔ lib.SettingsFault fs named env
  := by
  rw [settings]
  constructor
  · rintro ⟨f, h⟩
    split at h
    · rename_i hoption
      exact .options (any_isOption_iff.mp hoption) h
    · rename_i hplain
      rw [any_isOption_iff] at hplain
      split at h
      · rename_i hlimit
        exact .limit hplain (any_exceedsIn_iff.mp hlimit)
      · obtain ⟨issues, -, ⟨⟩⟩ := mapError_eq_error_iff.mp h
  · intro h
    cases h with
    | options hoption h =>
        rw [if_pos (any_isOption_iff.mpr hoption)]
        exact ⟨_, h⟩
    | limit hplain h =>
        rw [if_neg (mt any_isOption_iff.mp hplain), if_pos (any_exceedsIn_iff.mpr h)]
        exact ⟨_, rfl⟩

/-- Without options, what the making of settings ends with depends on the environment only in the
fields that are not named, and not on the files. -/
theorem settings_congr (hplain : ¬ lib.HasOption named)
    (h : ∀ field ∈ Settings.fieldNames, Settings.named? field named = none →
      Settings.environment? field env' = Settings.environment? field env) :
  lib.settings fs' named env' = lib.settings fs named env
  := by
  rw [settings, settings, if_neg (mt any_isOption_iff.mp hplain),
    if_neg (mt any_isOption_iff.mp hplain), Settings.ofEntries_congr h,
    Settings.given?_congr (h "languages" (by decide))]

end Settings

end Libraries

end MessagePlacement
