import Mathlib
import MessagePlacement.Proofs.Configuration.Fields
import MessagePlacement.Proofs.Language
import MessagePlacement.Proofs.Segments

/-!
# Ways to list languages

A list of texts can be written as the languages of the settings in several ways, which `Spells`
gives: as a list, in JSON, or between commas.  The languages are then those that the texts name, or
the first text that names none is refused, as `Resolution` says, whichever way it is written.  Only
a text whose first character that is not blank is a bracket is read as JSON.
-/

namespace MessagePlacement

/-! ### The first visible character -/

namespace Text

/-- The first character of a text that is not blank. -/
def firstVisible? (s : String) : Option Char :=
  s.toList.find? fun c => !isBlank c

theorem firstVisible?_eq_none_iff {s : String} :
  firstVisible? s = none ↔ isBlankText s = true
  := by
  simp [firstVisible?, isBlankText]

theorem firstVisible?_append (s t : String) :
  firstVisible? (s ++ t) = (firstVisible? s).or (firstVisible? t)
  := by
  rw [firstVisible?, String.toList_append, List.find?_append]
  rfl

/-- What a text begins with, without the blank characters at its ends. -/
theorem head?_strip (s : String) :
  (strip s).toList.head? = firstVisible? s
  := by
  rw [strip, String.toList_ofList, trimWith, firstVisible?, List.find?_not_eq_head?_dropWhile]
  cases h : s.toList.dropWhile isBlank with
  | nil => rfl
  | cons c cs =>
      have hc : isBlank c = false := by
        simpa [h] using List.head?_dropWhile_not isBlank s.toList
      rw [List.reverse_cons, List.dropWhile_append]
      split
      · simp [hc]
      · simp

/-- A text begins with a bracket, blank characters aside. -/
def IsBracketed (s : String) : Prop :=
  (strip s).toList.head? = some '['

instance (s : String) : Decidable (IsBracketed s) :=
  inferInstanceAs (Decidable ((strip s).toList.head? = some '['))

theorem isBracketed_iff {s : String} :
  IsBracketed s ↔ firstVisible? s = some '['
  := by
  rw [IsBracketed, head?_strip]

/-- What follows the first member in a join is empty or begins with the separator. -/
theorem exists_join_cons_eq (sep x : String) (xs : List String) :
  ∃ rest, join sep (x :: xs) = x ++ rest ∧ (rest = "" ∨ ∃ t, rest = sep ++ t)
  := by
  rcases eq_or_ne xs [] with rfl | hne
  · exact ⟨"", by simp [join], .inl rfl⟩
  · refine ⟨sep ++ join sep xs, ?_, .inr ⟨_, rfl⟩⟩
    rw [join, String.intercalate_cons_of_ne_nil hne, String.append_assoc, join]

/-- A join has the first visible character of its first member, if that has one. -/
theorem firstVisible?_join_of_visible {sep x : String} {xs : List String}
    (hx : isBlankText x = false) :
  firstVisible? (join sep (x :: xs)) = firstVisible? x
  := by
  obtain ⟨rest, hjoin, -⟩ := exists_join_cons_eq sep x xs
  rw [hjoin, firstVisible?_append]
  cases h : firstVisible? x with
  | some c => rfl
  | none =>
      rw [firstVisible?_eq_none_iff, hx] at h
      cases h

/-- Blank members do not make a join at commas bracketed. -/
theorem isBracketed_join_filter {xs : List String} (h : IsBracketed (join "," xs)) :
  IsBracketed (join "," (xs.filter fun x => !isBlankText x))
  := by
  rw [isBracketed_iff] at h ⊢
  cases xs with
  | nil => cases h
  | cons x xs =>
      cases hx : isBlankText x with
      | true =>
          -- After a blank member comes nothing or a comma, and neither is a bracket.
          exfalso
          obtain ⟨rest, hjoin, hrest⟩ := exists_join_cons_eq "," x xs
          rw [hjoin, firstVisible?_append, firstVisible?_eq_none_iff.mpr hx, Option.none_or] at h
          rcases hrest with rfl | ⟨t, rfl⟩
          · cases h
          · have hcomma : firstVisible? "," = some ',' := by decide
            rw [firstVisible?_append, hcomma] at h
            cases h
      | false =>
          rw [firstVisible?_join_of_visible hx] at h
          rw [List.filter_cons_of_pos (by simp [hx]), firstVisible?_join_of_visible hx, h]

end Text

/-! ### Lists in JSON -/

namespace Json

/-- What is read from the members of an object on is an object. -/
theorem exists_mapping_of_members {fuel : Nat} {entries : List (Value × Value)}
    {cs rest : List Char} {v : Value} (h : members fuel entries cs = .ok (v, rest)) :
  ∃ es, v = .mapping es
  := by
  induction fuel generalizing entries cs with
  | zero => cases h
  | succ fuel ih =>
      unfold members at h
      split at h
      · split at h
        · cases h
        · split at h
          · split at h
            · cases h
            · split at h
              · exact ih h
              · cases h
                exact ⟨_, rfl⟩
              · cases h
          · cases h
      · cases h

theorem number_ne_list {negative : Bool} {cs rest : List Char} {xs : List Value} :
  number negative cs ≠ .ok (.list xs, rest)
  := by
  intro h
  rw [number] at h
  split at h
  · cases h
  · dsimp only at h
    split at h
    · cases h
    · split at h
      · cases h
      · rw [if_neg Bool.false_ne_true] at h
        split at h
        · cases h
        · cases h

theorem word_ne_list {text : String} {cs rest : List Char} {v : Value} {xs : List Value}
    (hv : v ≠ .list xs) :
  word text v cs ≠ .ok (.list xs, rest)
  := by
  intro h
  rw [word] at h
  split at h
  · exact hv (congrArg Prod.fst (Except.ok.inj h))
  · cases h

/-- A word or number is no list. -/
theorem atom_ne_list {cs rest : List Char} {xs : List Value} :
  atom cs ≠ .ok (.list xs, rest)
  := by
  unfold atom
  split
  any_goals
    exact word_ne_list nofun
  · exact number_ne_list
  · exact number_ne_list

theorem exists_of_value_list {fuel : Nat} {cs rest : List Char} {xs : List Value}
    (h : value fuel cs = .ok (.list xs, rest)) :
  ∃ cs', cs = '[' :: cs'
  := by
  cases fuel with
  | zero => cases h
  | succ fuel =>
      unfold value at h
      split at h
      · obtain ⟨_, -, ⟨⟩⟩ := map_eq_ok_iff.mp h
      · exact ⟨_, rfl⟩
      · split at h
        · cases h
        · obtain ⟨es, ⟨⟩⟩ := exists_mapping_of_members h
      · exact absurd h atom_ne_list

theorem isBlank_of_isSpace {c : Char} (h : isSpace c = true) :
  Text.isBlank c = true
  := by
  simp only [isSpace, Bool.or_eq_true, beq_iff_eq] at h
  rcases h with ((rfl | rfl) | rfl) | rfl
  all_goals decide

theorem isBracketed_of_parse?_list {s : String} {xs : List Value}
    (h : parse? s = some (.list xs)) :
  Text.IsBracketed s
  := by
  have hopen : ∃ cs, skipSpace s.toList = '[' :: cs := by
    rw [parse?, toOption_eq_some_iff, parse] at h
    split at h
    · cases h
    · rename_i hvalue
      split at h
      · cases h
        exact exists_of_value_list hvalue
      · cases h
  obtain ⟨cs, hopen⟩ := hopen
  -- What the reader skips is blank, so the bracket is the first character that is not.
  have hspace : (s.toList.takeWhile isSpace).find? (fun c => !Text.isBlank c) = none := by
    rw [List.find?_eq_none]
    intro c hc
    simp [isBlank_of_isSpace (List.mem_takeWhile_imp hc)]
  rw [Text.isBracketed_iff, Text.firstVisible?,
    ← List.takeWhile_append_dropWhile (p := isSpace) (l := s.toList),
    List.find?_append, hspace, Option.none_or, ← skipSpace, hopen]
  rfl

end Json

/-! ### One list, several values -/

namespace Settings

/-- `Spells xs v`: a value is a way to write a list of texts as languages.  Between commas, blank
texts may stand among them. -/
inductive Spells (xs : List String) : Value → Prop where
  | list : Spells xs (.list (xs.map .text))
  | json {s : String} (h : Json.parse? s = some (.list (xs.map .text))) : Spells xs (.text s)
  | commas {items : List String} (hitems : ∀ x ∈ items, ',' ∉ x.toList)
      (hvisible : items.filter (fun x => !Text.isBlankText x) = xs)
      (hplain : ¬ Text.IsBracketed (Text.join "," items)) : Spells xs (.text (Text.join "," items))

/-- `Resolution xs outcome`: what a list of texts comes to as languages, the languages that they
name or the issue of the first text that names none. -/
inductive Resolution (xs : List String) : Except (List Issue) (List Language) → Prop where
  | known {ls : List Language} (h : List.Forall₂ (fun x l => Language.ofName? x = some l) xs ls) :
      Resolution xs (.ok ls)
  | unknown {before after : List String} {x : String} (hxs : xs = before ++ x :: after)
      (hbefore : ∀ y ∈ before, ∃ l, Language.ofName? y = some l) (hx : Language.ofName? x = none) :
      Resolution xs
        (.error [⟨[.key "languages"], .invalid (Wording.unresolvableLanguage x)⟩])

variable {xs : List String} {v w : Value} {entries : List (String × Value)}
  {env : List (String × String)}

/-- Languages are listed in JSON exactly by the texts that begin with a bracket. -/
theorem isJson_iff {s : String} :
  isJson s = true ↔ Text.IsBracketed s
  := by
  have hbracket : "[".toList = ['['] := by decide
  rw [Text.IsBracketed, ← List.singleton_prefix_iff_head?_eq_some, isJson, Text.dropStart?,
    hbracket, ← List.isPrefixOf_iff_prefix]
  split
  · rename_i h
    simp [h]
  · rename_i h
    simp [h]

theorem language_eq_ok_iff {x : String} {l : Language} :
  language (.text x) = .ok l ↔ Language.ofName? x = some l
  := by
  rw [language, mapError_eq_ok_iff, Language.resolve_eq_ok_iff, Language.ofValue?]

theorem language_eq_error_iff {x : String} {problem : Problem} :
  language (.text x) = .error problem
    ↔ Language.ofName? x = none ∧ problem = .invalid (Wording.unresolvableLanguage x)
  := by
  rw [language, Language.resolve, Language.ofValue?]
  cases Language.ofName? x with
  | none =>
      rw [mapError_eq_error_iff]
      simp [LayoutError.message, Value.display, eq_comm]
  | some l' =>
      rw [mapError_eq_error_iff]
      simp

theorem languageList_eq_iff {outcome : Except (List Issue) (List Language)} :
  languageList (xs.map .text) = outcome ↔ Resolution xs outcome
  := by
  rw [languageList, List.mapM_map]
  cases outcome with
  | ok ls =>
      simp only [mapError_eq_ok_iff, mapM_eq_ok_iff, Function.comp_apply, language_eq_ok_iff]
      constructor
      · exact .known
      · intro h
        cases h with
        | known h => exact h
  | error issues =>
      simp only [mapError_eq_error_iff, mapM_eq_error_iff, Function.comp_apply, language_eq_ok_iff,
        language_eq_error_iff]
      constructor
      · rintro ⟨problem, ⟨before, x, after, hxs, hbefore, hx, rfl⟩, rfl⟩
        exact .unknown hxs hbefore hx
      · intro h
        cases h with
        | unknown hxs hbefore hx => exact ⟨_, ⟨_, _, _, hxs, hbefore, hx, rfl⟩, rfl⟩

/-- All ways to write a list of texts are read as the list. -/
theorem Spells.languagesOf_eq (h : Spells xs v) :
  languagesOf v = languageList (xs.map .text)
  := by
  cases h with
  | list => rfl
  | json h =>
      have hbracket := Json.isBracketed_of_parse?_list h
      rw [languagesOf, languageText, if_pos (isJson_iff.mpr hbracket), h]
  | commas hitems hvisible hplain =>
      rename_i items
      rw [languagesOf, languageText, if_neg (mt isJson_iff.mp hplain)]
      cases items with
      | nil =>
          obtain rfl : xs = [] := hvisible.symm
          rfl
      | cons x items =>
          have hcomma : ",".toList = [','] := by decide
          rw [Text.parts_join hcomma (List.cons_ne_nil x items) hitems, hvisible]

theorem Spells.languagesOf_eq_iff (h : Spells xs v)
    {outcome : Except (List Issue) (List Language)} :
  languagesOf v = outcome ↔ Resolution xs outcome
  := by
  rw [h.languagesOf_eq, languageList_eq_iff]

/-- Blank texts can be put anywhere among texts between commas. -/
theorem spells_of_filter_eq (hplain : ¬ Text.IsBracketed (Text.join "," xs)) {items : List String}
    (hitems : ∀ x ∈ items, ',' ∉ x.toList)
    (hvisible : items.filter (fun x => !Text.isBlankText x) = xs) :
  Spells xs (.text (Text.join "," items))
  := by
  apply Spells.commas hitems hvisible
  intro h
  apply hplain
  rw [← hvisible]
  exact Text.isBracketed_join_filter h

/-! ### The settings as a whole -/

/-- The issues of a field among others. -/
def issuesAt (field : String) (issues : List Issue) : List Issue :=
  issues.filter fun i => i.place.head? = some (.key field)

theorem issuesAt_append (field : String) (issues issues' : List Issue) :
  issuesAt field (issues ++ issues') = issuesAt field issues ++ issuesAt field issues'
  := List.filter_append ..

theorem place_of_mem_issuesOf {α : Type} {field : String} {read : Value → Except Problem α}
    {default : α} {given : Option Value} {issue : Issue}
    (h : issue ∈ issuesOf (fieldOf field read default given)) :
  issue.place = [.key field]
  := by
  cases given with
  | none => cases h
  | some v =>
      rw [fieldOf] at h
      cases hread : read v with
      | ok a =>
          rw [hread] at h
          cases h
      | error problem =>
          rw [hread] at h
          rw [List.mem_singleton.mp h]

theorem issuesAt_fieldOf {α : Type} {field field' : String} {read : Value → Except Problem α}
    {default : α} {given : Option Value} (hne : field' ≠ field) :
  issuesAt field (issuesOf (fieldOf field' read default given)) = []
  := by
  rw [issuesAt, List.filter_eq_nil_iff]
  intro i hi
  simp [place_of_mem_issuesOf hi, hne]

theorem issuesAt_strangers {field : String} (hfield : Text.lower field ∈ fieldNames) :
  issuesAt field (strangers entries) = []
  := by
  rw [issuesAt, List.filter_eq_nil_iff]
  intro i hi hplace
  obtain ⟨e, he, rfl⟩ := List.mem_map.mp hi
  obtain rfl : e.1 = field := by simpa using hplace
  simp [hfield] at he

theorem lower_languages :
  Text.lower "languages" = "languages"
  := by decide +kernel

/-- When settings are refused, the issues of the languages are those of the value given for them. -/
theorem issuesAt_of_ofEntries {issues : List Issue}
    (hgiven : (named? "languages" entries).or (environment? "languages" env) = some v)
    (h : ofEntries entries env = .error issues) :
  issuesAt "languages" issues = issuesAt "languages" (issuesOf (languagesOf v))
  := by
  have hstrangers : issuesAt "languages" (strangers entries) = [] := by
    apply issuesAt_strangers
    rw [lower_languages]
    decide
  have hdeclarations : "declarations" ≠ "languages" := by decide
  have hfold : "fold_protocol" ≠ "languages" := by decide
  have houtput : "output" ≠ "languages" := by decide
  rw [ofEntries] at h
  simp only [given?, hgiven, Option.map_some, Option.getD_some] at h
  split at h
  · cases h
  · cases h
    simp only [issuesAt_append, issuesAt_fieldOf hdeclarations, issuesAt_fieldOf hfold,
      issuesAt_fieldOf houtput, hstrangers, List.nil_append, List.append_nil]

theorem named?_languages_cons {field : String} :
  named? field (("languages", w) :: entries)
    = if field = "languages" then some w else named? field entries
  := by
  rw [named?, List.find?_cons, lower_languages]
  split
  · rename_i h
    rw [if_pos (beq_iff_eq.mp h).symm]
    rfl
  · rename_i h
    rw [if_neg]
    · rfl
    · rintro rfl
      simp at h

/-- Languages named before everything else count instead of those that are given. -/
theorem ofEntries_languages_cons
    (hgiven : (named? "languages" entries).or (environment? "languages" env) = some v)
    (h : languagesOf w = languagesOf v) :
  ofEntries (("languages", w) :: entries) env = ofEntries entries env
  := by
  have hstrangers : strangers (("languages", w) :: entries) = strangers entries := by
    rw [strangers, List.filter_cons_of_neg, ← strangers]
    simp [lower_languages, fieldNames]
  simp only [ofEntries, given?, hstrangers, named?_languages_cons, hgiven, reduceIte,
    Option.some_or, Option.map_some, Option.getD_some, h]
  rfl

/-- The languages of settings are what the texts come to that are named or in the environment. -/
theorem Spells.resolution_of_ofEntries (h : Spells xs v)
    (hgiven : (named? "languages" entries).or (environment? "languages" env) = some v)
    {c : Settings} (hc : ofEntries entries env = .ok c) :
  Resolution xs (.ok c.languages)
  := by
  have hread := provided_iff.mp (ofEntries_eq_ok_iff.mp hc).languages
  rw [hgiven] at hread
  exact h.languagesOf_eq_iff.mp hread

/-- Settings are refused, with one issue of the languages, when a text names no language. -/
theorem Spells.refused_of_resolution (h : Spells xs v)
    (hgiven : (named? "languages" entries).or (environment? "languages" env) = some v)
    {issue : Issue} (hissue : Resolution xs (.error [issue])) :
  ∃ issues, ofEntries entries env = .error issues ∧ issuesAt "languages" issues = [issue]
  := by
  have hrefused : languagesOf v = .error [issue] := h.languagesOf_eq_iff.mpr hissue
  cases hsettings : ofEntries entries env with
  | ok c =>
      have hread := h.languagesOf_eq_iff.mpr (h.resolution_of_ofEntries hgiven hsettings)
      rw [hrefused] at hread
      cases hread
  | error issues =>
      refine ⟨issues, rfl, ?_⟩
      rw [issuesAt_of_ofEntries hgiven hsettings, hrefused]
      cases hissue with
      | unknown => rfl

/-- Texts that are not blank can be written between commas, with blank texts among them, unless this
begins with a bracket.  All ways to write them agree, be they named or in the environment: the
languages are those that the texts name, in their order; or else the only issue of the field tells
the first text that names none. -/
theorem spellings_agree (xs : List String) :
  ((∀ x ∈ xs, Text.isBlankText x = false ∧ ',' ∉ x.toList) →
      ¬ Text.IsBracketed (Text.join "," xs) →
      Spells xs (.text (Text.join "," xs))
      ∧ ∀ items, (∀ x ∈ items, ',' ∉ x.toList) →
        items.filter (fun x => !Text.isBlankText x) = xs → Spells xs (.text (Text.join "," items)))
    ∧ ∀ v, Spells xs v →
      (∀ outcome, languagesOf v = outcome ↔ Resolution xs outcome)
      ∧ ∀ entries env,
        (named? "languages" entries).or (environment? "languages" env) = some v →
        (∀ c, ofEntries entries env = .ok c → Resolution xs (.ok c.languages))
        ∧ (∀ issue, Resolution xs (.error [issue]) →
          ∃ issues, ofEntries entries env = .error issues ∧ issuesAt "languages" issues = [issue])
        ∧ ∀ w, Spells xs w →
          ofEntries (("languages", w) :: entries) env = ofEntries entries env
  := by
  constructor
  · intro hxs hplain
    have hself : xs.filter (fun x => !Text.isBlankText x) = xs := by
      rw [List.filter_eq_self]
      exact fun x hx => by simp [(hxs x hx).1]
    constructor
    · exact spells_of_filter_eq hplain (fun x hx => (hxs x hx).2) hself
    · exact fun items => spells_of_filter_eq hplain
  · intro v hv
    refine ⟨fun outcome => hv.languagesOf_eq_iff, ?_⟩
    intro entries env hgiven
    refine ⟨fun c => hv.resolution_of_ofEntries hgiven,
      fun issue => hv.refused_of_resolution hgiven, ?_⟩
    intro w hw
    apply ofEntries_languages_cons hgiven
    rw [hw.languagesOf_eq, hv.languagesOf_eq]

/-- Two padded names agree between commas, in JSON and in the environment, and an unknown name is
refused in the place where it stands. -/
theorem spellings_agree_names :
  languagesOf (.text "Go, lua ") = .ok [.go, .lua]
    ∧ languagesOf (.text "Go, , lua ,") = .ok [.go, .lua]
    ∧ ofEntries [("languages", .text "[\"Go\", \" lua \"]")] [("PROTOLAYOUT_LANGUAGES", "Go, lua ")]
      = ofEntries [] [("PROTOLAYOUT_LANGUAGES", "Go, lua ")]
    ∧ ∃ issues, ofEntries [("languages", .list [.text "Go", .text "Ada", .text "Go"])] []
        = .error issues
      ∧ issuesAt "languages" issues
        = [⟨[.key "languages"], .invalid (Wording.unresolvableLanguage "Ada")⟩]
  := by
  obtain ⟨hcommas, hagree⟩ := spellings_agree ["Go", " lua "]
  obtain ⟨hjoin, hblank⟩ := hcommas (by decide +kernel) (by decide +kernel)
  have hblank := hblank ["Go", " ", " lua ", ""] (by decide +kernel) (by decide +kernel)
  have hjson : Spells ["Go", " lua "] (.text "[\"Go\", \" lua \"]") := .json (by cbv)
  have hknown : Resolution ["Go", " lua "] (.ok [.go, .lua]) :=
    .known (.cons (by decide +kernel) (.cons (by decide +kernel) .nil))
  have hunknown : Resolution ["Go", "Ada", "Go"]
      (.error [⟨[.key "languages"], .invalid (Wording.unresolvableLanguage "Ada")⟩]) :=
    @Resolution.unknown _ ["Go"] ["Go"] "Ada" rfl
      (List.forall_mem_singleton.mpr ⟨.go, by decide +kernel⟩) (by decide +kernel)
  have hgiven : environment? "languages" [("PROTOLAYOUT_LANGUAGES", "Go, lua ")]
      = some (.text (Text.join "," ["Go", " lua "])) := by
    have hvariable :
        (Text.lower "PROTOLAYOUT_LANGUAGES" == variableStart ++ "languages") = true := by
      decide +kernel
    have hjoin : Text.join "," ["Go", " lua "] = "Go, lua " := by decide +kernel
    simp only [environment?, List.reverse_singleton, List.find?_cons, hvariable, Option.map_some,
      hjoin]
  refine ⟨((hagree _ hjoin).1 _).mpr hknown, ((hagree _ hblank).1 _).mpr hknown, ?_, ?_⟩
  · exact ((hagree _ hjoin).2 [] [("PROTOLAYOUT_LANGUAGES", "Go, lua ")] hgiven).2.2 _ hjson
  · obtain ⟨-, hagree⟩ := spellings_agree ["Go", "Ada", "Go"]
    apply ((hagree _ .list).2 _ _ ?_).2.1 _ hunknown
    cbv

end Settings

end MessagePlacement
