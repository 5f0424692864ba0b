import MessagePlacement.Loading
import MessagePlacement.Proofs.Json.Errors
import MessagePlacement.Proofs.Libraries

/-!
# Declarations that are not refused

Declarations are loaded or refused, unless the file of them is faulty: its path leads nowhere, the
storage that it leads to ends with a fault, its text exceeds a limit, or it is read as YAML and a
value in it cannot be made in a way that is not told as a refusal.
-/

namespace MessagePlacement

namespace Loading

/-- `HasContent lib fs source content`: a path leads to bytes, of a file here or in another
storage. -/
inductive HasContent (lib : Libraries) (fs : FileSystem) (source : String) (content : ByteArray) :
    Prop where
  | here (hplace : lib.place source = .here) (h : fs.read (.ofText source) = .ok content) :
      HasContent lib fs source content
  | elsewhere (hplace : lib.place source = .elsewhere) (h : lib.fetch fs source = .ok content) :
      HasContent lib fs source content

/-- `HasText lib fs source text`: the bytes that a path leads to encode a text. -/
def HasText (lib : Libraries) (fs : FileSystem) (source text : String) : Prop :=
  ∃ content, HasContent lib fs source content ∧ Text.readLines? content = some text

/-- That the suffix of a path, here or in another storage, is `.json` in some letter case. -/
inductive IsNamedJson (lib : Libraries) (source : String) : Prop where
  | here (hplace : lib.place source ≠ .elsewhere)
      (h : Text.lower (Path.ofText source).suffix = ".json") : IsNamedJson lib source
  | elsewhere (hplace : lib.place source = .elsewhere)
      (h : Text.lower (lib.suffix source) = ".json") : IsNamedJson lib source

/-- `WritesHalfPair lib source text`: in the format that a path is read in, a text writes half of a
surrogate pair by itself. -/
inductive WritesHalfPair (lib : Libraries) (source text : String) : Prop where
  | json (hjson : IsNamedJson lib source) (h : Json.parse text = .error (.fault .halfPair)) :
      WritesHalfPair lib source text
  | yaml (hyaml : ¬ IsNamedJson lib source) (h : Yaml.parse text = .error (.fault .halfPair)) :
      WritesHalfPair lib source text

/-- What is wrong with a text without its being refused: it exceeds a limit, or a value in it cannot
be made, though neither for what is written of it nor for half of a surrogate pair.  In JSON every
value can be made that is not refused. -/
inductive IsFaultyText (lib : Libraries) (source text : String) : Prop where
  | limitJson (hjson : IsNamedJson lib source) (h : lib.exceeds .json text = true) :
      IsFaultyText lib source text
  | limitYaml (hyaml : ¬ IsNamedJson lib source) (h : lib.exceeds .yaml text = true) :
      IsFaultyText lib source text
  | value {f : Fault} (hyaml : ¬ IsNamedJson lib source) (hlimit : lib.exceeds .yaml text = false)
      (h : Yaml.parse text = .error (.fault f)) (hvalue : ∀ message, f ≠ .invalidValue message)
      (hpair : f ≠ .halfPair) : IsFaultyText lib source text

/-- What is wrong with a file of declarations without its being refused. -/
inductive IsFaulty (lib : Libraries) (fs : FileSystem) (source : String) : Prop where
  | place {f : Fault} (h : lib.place source = .nowhere f) : IsFaulty lib fs source
  | storage {f : Fault} (hplace : lib.place source = .elsewhere)
      (h : lib.fetch fs source = .error (.fault f)) : IsFaulty lib fs source
  | text {text : String} (htext : HasText lib fs source text) (h : IsFaultyText lib source text) :
      IsFaulty lib fs source

variable {lib : Libraries} {fs : FileSystem} {source text : String} {f : Fault}

/-! ### Contents -/

theorem isJson_iff :
  isJson lib source = true ↔ IsNamedJson lib source
  := by
  rw [isJson, beq_iff_eq, suffix]
  constructor
  · intro h
    split at h
    · rename_i hplace
      exact .elsewhere hplace h
    · rename_i hplace
      exact .here hplace h
  · rintro (⟨hplace, h⟩ | ⟨hplace, h⟩)
    · split
      · rename_i helsewhere
        exact absurd helsewhere hplace
      · exact h
    · rw [hplace]
      exact h

theorem content_eq_ok_iff {bytes : ByteArray} :
  content lib fs source = .ok bytes ↔ HasContent lib fs source bytes
  := by
  rw [content]
  constructor
  · intro h
    split at h
    · exact .here ‹_› (mapError_eq_ok_iff.mp h)
    · exact .elsewhere ‹_› (mapError_eq_ok_iff.mp h)
    · cases h
  · rintro (⟨hplace, h⟩ | ⟨hplace, h⟩)
    · simp only [hplace, mapError_eq_ok_iff, h]
    · simp only [hplace, mapError_eq_ok_iff, h]

theorem exists_content_fault_iff :
  (∃ f, content lib fs source = .error (.fault f))
    ↔ (∃ f, lib.place source = .nowhere f)
      ∨ lib.place source = .elsewhere ∧ ∃ f, lib.fetch fs source = .error (.fault f)
  := by
  rw [content]
  cases hplace : lib.place source with
  | here => simp
  | elsewhere =>
      simp only [mapError_eq_error_iff, reduceCtorEq, exists_false, true_and, false_or]
      constructor
      · rintro ⟨f, message | f', hfetch, h⟩
        · cases h
        · exact ⟨f', hfetch⟩
      · rintro ⟨f, hfetch⟩
        exact ⟨f, _, hfetch, rfl⟩
  | nowhere f => simp

theorem content_eq_refused_iff {cause : LoadCause} :
  content lib fs source = .error (.refused cause)
    ↔ (lib.place source = .here
        ∧ ∃ e, fs.read (.ofText source) = .error e ∧ cause = .file e (.ofText source))
      ∨ lib.place source = .elsewhere
        ∧ ∃ message, lib.fetch fs source = .error (.refused message)
          ∧ cause = .unavailable message
  := by
  rw [content]
  cases hplace : lib.place source with
  | here =>
      simp only [mapError_eq_error_iff, reduceCtorEq, false_and, true_and, or_false]
      constructor
      · rintro ⟨e, hread, ⟨⟩⟩
        exact ⟨e, hread, rfl⟩
      · rintro ⟨e, hread, rfl⟩
        exact ⟨e, hread, rfl⟩
  | elsewhere =>
      simp only [mapError_eq_error_iff, reduceCtorEq, false_and, true_and, false_or]
      constructor
      · rintro ⟨message | f', hfetch, h⟩
        · cases h
          exact ⟨message, hfetch, rfl⟩
        · cases h
      · rintro ⟨message, hfetch, rfl⟩
        exact ⟨_, hfetch, rfl⟩
  | nowhere f => simp

/-! ### Faulty texts -/

theorem unreadable_eq_fault_iff {malformed : LoadCause} {e : ReadError} :
  unreadable malformed e = .fault f ↔ e = .fault f ∧ ∀ message, f ≠ .invalidValue message
  := by
  unfold unreadable
  split
  · simp
  · rename_i message
    apply iff_of_false
    · nofun
    · rintro ⟨⟨⟩, h⟩
      exact h message rfl
  · rename_i f' hvalue
    simp only [Failure.fault.injEq, ReadError.fault.injEq]
    constructor
    · rintro rfl
      exact ⟨rfl, fun message h => hvalue message h⟩
    · exact And.left

/-- Reading a text without half of a surrogate pair ends with a fault exactly when it is faulty. -/
theorem exists_document_fault_iff (hpair : ¬ WritesHalfPair lib source text) :
  (∃ f, document lib (isJson lib source) text = .error (.fault f))
    ↔ IsFaultyText lib source text
  := by
  rw [document]
  constructor
  · rintro ⟨f, h⟩
    split at h
    · rename_i hjson
      obtain ⟨e, hread, he⟩ := mapError_eq_error_iff.mp h
      obtain ⟨rfl, hvalue⟩ := unreadable_eq_fault_iff.mp he
      rcases Libraries.read_eq_fault_iff.mp hread with ⟨hlimit, -⟩ | ⟨-, hparse⟩
      · exact .limitJson (isJson_iff.mp hjson) hlimit
      · cases Json.isTold_of_parse hparse with
        | halfPair => exact absurd (.json (isJson_iff.mp hjson) hparse) hpair
        | overlong digits => exact absurd rfl (hvalue _)
    · rename_i hyaml
      rw [isJson_iff] at hyaml
      obtain ⟨e, hread, he⟩ := mapError_eq_error_iff.mp h
      obtain ⟨rfl, hvalue⟩ := unreadable_eq_fault_iff.mp he
      rcases Libraries.read_eq_fault_iff.mp hread with ⟨hlimit, -⟩ | ⟨hlimit, hparse⟩
      · exact .limitYaml hyaml hlimit
      · refine .value hyaml hlimit hparse hvalue ?_
        rintro rfl
        exact hpair (.yaml hyaml hparse)
  · rintro (⟨hjson, h⟩ | ⟨hyaml, h⟩ | @⟨f, hyaml, hlimit, h, hvalue, -⟩)
    · refine ⟨.limit, ?_⟩
      rw [if_pos (isJson_iff.mpr hjson), mapError_eq_error_iff]
      exact ⟨_, Libraries.read_eq_fault_iff.mpr (.inl ⟨h, rfl⟩), rfl⟩
    · refine ⟨.limit, ?_⟩
      rw [if_neg (mt isJson_iff.mp hyaml), mapError_eq_error_iff]
      exact ⟨_, Libraries.read_eq_fault_iff.mpr (.inl ⟨h, rfl⟩), rfl⟩
    · refine ⟨f, ?_⟩
      rw [if_neg (mt isJson_iff.mp hyaml), mapError_eq_error_iff]
      exact ⟨_, Libraries.read_eq_fault_iff.mpr (.inr ⟨hlimit, h⟩),
        unreadable_eq_fault_iff.mpr ⟨rfl, hvalue⟩⟩

theorem read_of_hasText (h : HasText lib fs source text) :
  read lib fs source
    = document lib (isJson lib source) text >>= fun v => (declarations v).mapError .refused
  := by
  obtain ⟨content, hcontent, htext⟩ := h
  simp only [read, content_eq_ok_iff.mpr hcontent, bind, Except.bind, htext]

/-- A file ends in one of three ways before its text is read. -/
theorem read_cases (lib : Libraries) (fs : FileSystem) (source : String) :
  (∃ e, content lib fs source = .error e ∧ read lib fs source = .error e)
    ∨ (∃ bytes, HasContent lib fs source bytes ∧ Text.readLines? bytes = none
      ∧ read lib fs source = .error (.refused .undecodable))
    ∨ ∃ text, HasText lib fs source text
  := by
  cases hcontent : content lib fs source with
  | error e => exact .inl ⟨e, rfl, by simp only [read, hcontent, bind, Except.bind]⟩
  | ok bytes =>
      have hbytes := content_eq_ok_iff.mp hcontent
      cases htext : Text.readLines? bytes with
      | none =>
          refine .inr (.inl ⟨bytes, hbytes, htext, ?_⟩)
          simp only [read, hcontent, bind, Except.bind, htext]
      | some text => exact .inr (.inr ⟨text, bytes, hbytes, htext⟩)

theorem load_eq_fault_iff :
  load lib fs source = .error (.fault f) ↔ read lib fs source = .error (.fault f)
  := by
  rw [load, mapError_eq_error_iff]
  constructor
  · rintro ⟨cause | f', hread, h⟩
    · cases h
    · cases h
      exact hread
  · intro hread
    exact ⟨_, hread, rfl⟩

/-- Loading a file without half of a surrogate pair ends with a fault exactly when it is faulty. -/
theorem exists_load_fault_iff
    (hpairs : ∀ text, HasText lib fs source text → ¬ WritesHalfPair lib source text) :
  (∃ f, load lib fs source = .error (.fault f)) ↔ IsFaulty lib fs source
  := by
  simp only [load_eq_fault_iff]
  constructor
  · rintro ⟨f, h⟩
    rcases read_cases lib fs source with ⟨e, hcontent, he⟩ | ⟨bytes, -, -, he⟩ | ⟨text, htext⟩
    · obtain rfl := Except.error.inj (he.symm.trans h)
      rcases exists_content_fault_iff.mp ⟨f, hcontent⟩ with ⟨f', hplace⟩ | ⟨hplace, f', hfetch⟩
      · exact .place hplace
      · exact .storage hplace hfetch
    · cases he.symm.trans h
    · rw [read_of_hasText htext, bind_eq_error_iff] at h
      rcases h with hdocument | ⟨v, -, hdeclarations⟩
      · exact .text htext ((exists_document_fault_iff (hpairs text htext)).mp ⟨f, hdocument⟩)
      · obtain ⟨cause, -, ⟨⟩⟩ := mapError_eq_error_iff.mp hdeclarations
  · intro h
    have hread {f : Fault} (hcontent : content lib fs source = .error (.fault f)) :
        ∃ f, read lib fs source = .error (.fault f) :=
      ⟨f, by simp only [read, hcontent, bind, Except.bind]⟩
    cases h with
    | place h =>
        obtain ⟨f, hcontent⟩ := exists_content_fault_iff.mpr (.inl ⟨_, h⟩)
        exact hread hcontent
    | storage hplace h =>
        obtain ⟨f, hcontent⟩ := exists_content_fault_iff.mpr (.inr ⟨hplace, _, h⟩)
        exact hread hcontent
    | text htext h =>
        obtain ⟨f, hdocument⟩ := (exists_document_fault_iff (hpairs _ htext)).mpr h
        refine ⟨f, ?_⟩
        rw [read_of_hasText htext, bind_eq_error_iff]
        exact .inl hdocument

end Loading

end MessagePlacement
