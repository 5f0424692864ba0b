import MessagePlacement.Proofs.Loading

/-!
# All declarations of a file or the cause for which there are none

Loading ends in one of two ways, unless the file is faulty.  All items of the list in its document
are declarations, and these are loaded, in their order; or loading is refused, for what prevents it:
the file cannot be read or decoded, its text is no document, the document has no list, or an item
is no declaration, of which the first one is told.
-/

namespace MessagePlacement

namespace Loading

/-- `Denotes lib source text v`: in the format that a path is read in, a text is a document with a
value. -/
inductive Denotes (lib : Libraries) (source text : String) (v : Value) : Prop where
  | json (hjson : IsNamedJson lib source) (hlimit : lib.exceeds .json text = false)
      (h : Json.parse text = .ok v) : Denotes lib source text v
  | yaml (hyaml : ¬ IsNamedJson lib source) (hlimit : lib.exceeds .yaml text = false)
      (h : Yaml.parse text = .ok v) : Denotes lib source text v

/-- `Lists v xs`: a value is a list of items, or has one under `declarations`. -/
inductive Lists : Value → List Value → Prop where
  | list {xs : List Value} : Lists (.list xs) xs
  | mapping {entries : List (Value × Value)} {xs : List Value}
      (h : Value.get? "declarations" entries = some (.list xs)) : Lists (.mapping entries) xs

/-- What makes a text no document, without its being faulty: it is malformed, or a value in it
cannot be made for what is written of it. -/
inductive Unreadable (lib : Libraries) (source text : String) : LoadCause → Prop where
  | malformedJson (hjson : IsNamedJson lib source) (hlimit : lib.exceeds .json text = false)
      (h : Json.parse text = .error .malformed) : Unreadable lib source text .malformedJson
  | malformedYaml (hyaml : ¬ IsNamedJson lib source) (hlimit : lib.exceeds .yaml text = false)
      (h : Yaml.parse text = .error .malformed) : Unreadable lib source text .malformedYaml
  | valueJson {message : String} (hjson : IsNamedJson lib source)
      (hlimit : lib.exceeds .json text = false)
      (h : Json.parse text = .error (.fault (.invalidValue message))) :
      Unreadable lib source text (.invalidValue message)
  | valueYaml {message : String} (hyaml : ¬ IsNamedJson lib source)
      (hlimit : lib.exceeds .yaml text = false)
      (h : Yaml.parse text = .error (.fault (.invalidValue message))) :
      Unreadable lib source text (.invalidValue message)

/-- What prevents the loading of a file. -/
inductive Prevents (lib : Libraries) (fs : FileSystem) (source : String) : LoadCause → Prop where
  | file {e : FileError} (hplace : lib.place source = .here)
      (h : fs.read (.ofText source) = .error e) : Prevents lib fs source (.file e (.ofText source))
  | unavailable {message : String} (hplace : lib.place source = .elsewhere)
      (h : lib.fetch fs source = .error (.refused message)) :
      Prevents lib fs source (.unavailable message)
  | undecodable {content : ByteArray} (hcontent : HasContent lib fs source content)
      (h : Text.readLines? content = none) : Prevents lib fs source .undecodable
  | unreadable {text : String} {cause : LoadCause} (htext : HasText lib fs source text)
      (h : Unreadable lib source text cause) : Prevents lib fs source cause
  | notAList {text : String} {v : Value} (htext : HasText lib fs source text)
      (hv : Denotes lib source text v) (h : ∀ xs, ¬ Lists v xs) : Prevents lib fs source .notAList
  | invalid {text : String} {v x : Value} {before after : List Value} {issues : List Issue}
      (htext : HasText lib fs source text) (hv : Denotes lib source text v)
      (hlist : Lists v (before ++ x :: after))
      (hbefore : ∀ y ∈ before, ∃ d, Declaration.ofValue y = .ok d)
      (hx : Declaration.ofValue x = .error issues) : Prevents lib fs source (.invalid issues)

variable {lib : Libraries} {fs : FileSystem} {source text : String} {v : Value} {xs : List Value}
  {ds : List Declaration} {cause : LoadCause}

/-! ### The steps of loading -/

theorem document_eq_ok_iff :
  document lib (isJson lib source) text = .ok v ↔ Denotes lib source text v
  := by
  rw [document]
  constructor
  · intro h
    split at h
    · rename_i hjson
      obtain ⟨hlimit, hparse⟩ := Libraries.read_eq_ok_iff.mp (mapError_eq_ok_iff.mp h)
      exact .json (isJson_iff.mp hjson) hlimit hparse
    · rename_i hyaml
      obtain ⟨hlimit, hparse⟩ := Libraries.read_eq_ok_iff.mp (mapError_eq_ok_iff.mp h)
      exact .yaml (mt isJson_iff.mpr hyaml) hlimit hparse
  · rintro (⟨hjson, hlimit, h⟩ | ⟨hyaml, hlimit, h⟩)
    · rw [if_pos (isJson_iff.mpr hjson), mapError_eq_ok_iff]
      exact Libraries.read_eq_ok_iff.mpr ⟨hlimit, h⟩
    · rw [if_neg (mt isJson_iff.mp hyaml), mapError_eq_ok_iff]
      exact Libraries.read_eq_ok_iff.mpr ⟨hlimit, h⟩

theorem unreadable_eq_refused_iff {malformed : LoadCause} {e : ReadError} :
  unreadable malformed e = .refused cause
    ↔ (e = .malformed ∧ cause = malformed)
      ∨ ∃ message, e = .fault (.invalidValue message) ∧ cause = .invalidValue message
  := by
  unfold unreadable
  split
  · simp [eq_comm]
  · simp [eq_comm]
  · rename_i f hvalue
    apply iff_of_false
    · nofun
    · rintro (⟨⟨⟩, -⟩ | ⟨message, ⟨⟩, -⟩)
      exact hvalue message rfl

theorem document_eq_refused_iff :
  document lib (isJson lib source) text = .error (.refused cause)
    ↔ Unreadable lib source text cause
  := by
  rw [document]
  constructor
  · intro h
    split at h
    · rename_i hjson
      rw [isJson_iff] at hjson
      obtain ⟨e, hread, he⟩ := mapError_eq_error_iff.mp h
      rcases unreadable_eq_refused_iff.mp he with ⟨rfl, rfl⟩ | ⟨message, rfl, rfl⟩
      · obtain ⟨hlimit, hparse⟩ := Libraries.read_eq_malformed_iff.mp hread
        exact .malformedJson hjson hlimit hparse
      · rcases Libraries.read_eq_fault_iff.mp hread with ⟨-, ⟨⟩⟩ | ⟨hlimit, hparse⟩
        exact .valueJson hjson hlimit hparse
    · rename_i hyaml
      rw [isJson_iff] at hyaml
      obtain ⟨e, hread, he⟩ := mapError_eq_error_iff.mp h
      rcases unreadable_eq_refused_iff.mp he with ⟨rfl, rfl⟩ | ⟨message, rfl, rfl⟩
      · obtain ⟨hlimit, hparse⟩ := Libraries.read_eq_malformed_iff.mp hread
        exact .malformedYaml hyaml hlimit hparse
      · rcases Libraries.read_eq_fault_iff.mp hread with ⟨-, ⟨⟩⟩ | ⟨hlimit, hparse⟩
        exact .valueYaml hyaml hlimit hparse
  · intro h
    cases h with
    | malformedJson hjson hlimit h =>
        rw [if_pos (isJson_iff.mpr hjson), mapError_eq_error_iff]
        exact ⟨_, Libraries.read_eq_malformed_iff.mpr ⟨hlimit, h⟩, rfl⟩
    | malformedYaml hyaml hlimit h =>
        rw [if_neg (mt isJson_iff.mp hyaml), mapError_eq_error_iff]
        exact ⟨_, Libraries.read_eq_malformed_iff.mpr ⟨hlimit, h⟩, rfl⟩
    | valueJson hjson hlimit h =>
        rw [if_pos (isJson_iff.mpr hjson), mapError_eq_error_iff]
        exact ⟨_, Libraries.read_eq_fault_iff.mpr (.inr ⟨hlimit, h⟩), rfl⟩
    | valueYaml hyaml hlimit h =>
        rw [if_neg (mt isJson_iff.mp hyaml), mapError_eq_error_iff]
        exact ⟨_, Libraries.read_eq_fault_iff.mpr (.inr ⟨hlimit, h⟩), rfl⟩

theorem items?_eq_some_iff :
  items? v = some xs ↔ Lists v xs
  := by
  constructor
  · intro h
    unfold items? at h
    split at h
    · cases h
      exact .list
    · split at h
      · rename_i hlist
        cases h
        exact .mapping hlist
      · cases h
    · cases h
  · rintro (_ | h)
    · rfl
    · simp only [items?, h]

theorem items?_eq_none_iff :
  items? v = none ↔ ∀ xs, ¬ Lists v xs
  := by
  simp only [Option.eq_none_iff_forall_ne_some, ne_eq, items?_eq_some_iff]

theorem declarations_eq_ok_iff :
  declarations v = .ok ds
    ↔ ∃ xs, Lists v xs ∧ List.Forall₂ (fun x d => Declaration.ofValue x = .ok d) xs ds
  := by
  simp only [← items?_eq_some_iff, declarations]
  cases items? v with
  | none => simp
  | some xs => simp [mapM_eq_ok_iff]

theorem declarations_eq_error_iff :
  declarations v = .error cause
    ↔ ((∀ xs, ¬ Lists v xs) ∧ cause = .notAList)
      ∨ ∃ before x after issues, Lists v (before ++ x :: after)
        ∧ (∀ y ∈ before, ∃ d, Declaration.ofValue y = .ok d)
        ∧ Declaration.ofValue x = .error issues ∧ cause = .invalid issues
  := by
  rw [← items?_eq_none_iff]
  simp only [← items?_eq_some_iff, declarations]
  cases items? v with
  | none => simp [eq_comm]
  | some xs =>
      simp only [mapM_eq_error_iff, mapError_eq_ok_iff, mapError_eq_error_iff, reduceCtorEq,
        false_and, false_or, Option.some.injEq]
      constructor
      · rintro ⟨before, x, after, hxs, hbefore, issues, hx, rfl⟩
        exact ⟨before, x, after, issues, hxs, hbefore, hx, rfl⟩
      · rintro ⟨before, x, after, issues, hxs, hbefore, hx, rfl⟩
        exact ⟨before, x, after, hxs, hbefore, issues, hx, rfl⟩

theorem read_eq_ok_iff :
  read lib fs source = .ok ds
    ↔ ∃ text, HasText lib fs source text ∧ ∃ v, Denotes lib source text v
      ∧ ∃ xs, Lists v xs ∧ List.Forall₂ (fun x d => Declaration.ofValue x = .ok d) xs ds
  := by
  have hsteps {text : String} (htext : HasText lib fs source text) : read lib fs source = .ok ds
      ↔ ∃ v, Denotes lib source text v
        ∧ ∃ xs, Lists v xs ∧ List.Forall₂ (fun x d => Declaration.ofValue x = .ok d) xs ds := by
    simp only [read_of_hasText htext, bind_eq_ok_iff, mapError_eq_ok_iff, document_eq_ok_iff,
      declarations_eq_ok_iff]
  constructor
  · intro h
    rcases read_cases lib fs source with ⟨e, -, he⟩ | ⟨bytes, -, -, he⟩ | ⟨text, htext⟩
    · cases he.symm.trans h
    · cases he.symm.trans h
    · exact ⟨text, htext, (hsteps htext).mp h⟩
  · rintro ⟨text, htext, h⟩
    exact (hsteps htext).mpr h

/-- A file with a text is refused for what is wrong with its document. -/
theorem read_eq_refused_iff_of_hasText (htext : HasText lib fs source text) :
  read lib fs source = .error (.refused cause)
    ↔ Unreadable lib source text cause
      ∨ ∃ v, Denotes lib source text v ∧ declarations v = .error cause
  := by
  simp only [read_of_hasText htext, bind_eq_error_iff, mapError_eq_error_iff, document_eq_ok_iff,
    document_eq_refused_iff, Failure.refused.injEq, exists_eq_right]

theorem Prevents.read_eq (h : Prevents lib fs source cause) :
  read lib fs source = .error (.refused cause)
  := by
  have hread {cause : LoadCause} (hcontent : content lib fs source = .error (.refused cause)) :
      read lib fs source = .error (.refused cause) := by
    simp only [read, hcontent, bind, Except.bind]
  cases h with
  | file hplace h => exact hread (content_eq_refused_iff.mpr (.inl ⟨hplace, _, h, rfl⟩))
  | unavailable hplace h => exact hread (content_eq_refused_iff.mpr (.inr ⟨hplace, _, h, rfl⟩))
  | undecodable hcontent h =>
      simp only [read, content_eq_ok_iff.mpr hcontent, bind, Except.bind, h]
  | unreadable htext h =>
      rw [read_eq_refused_iff_of_hasText htext]
      exact .inl h
  | notAList htext hv h =>
      rw [read_eq_refused_iff_of_hasText htext]
      exact .inr ⟨_, hv, declarations_eq_error_iff.mpr (.inl ⟨h, rfl⟩)⟩
  | invalid htext hv hlist hbefore hx =>
      rw [read_eq_refused_iff_of_hasText htext]
      exact .inr ⟨_, hv, declarations_eq_error_iff.mpr
        (.inr ⟨_, _, _, _, hlist, hbefore, hx, rfl⟩)⟩

theorem prevents_of_hasText (htext : HasText lib fs source text)
    (h : read lib fs source = .error (.refused cause)) :
  Prevents lib fs source cause
  := by
  rw [read_eq_refused_iff_of_hasText htext] at h
  rcases h with h | ⟨v, hv, h⟩
  · exact .unreadable htext h
  · rcases declarations_eq_error_iff.mp h with
      ⟨hnone, rfl⟩ | ⟨before, x, after, issues, hlist, hbefore, hx, rfl⟩
    · exact .notAList htext hv hnone
    · exact .invalid htext hv hlist hbefore hx

theorem read_eq_refused_iff :
  read lib fs source = .error (.refused cause) ↔ Prevents lib fs source cause
  := by
  refine ⟨?_, Prevents.read_eq⟩
  intro h
  rcases read_cases lib fs source with
    ⟨e, hcontent, he⟩ | ⟨bytes, hbytes, hnone, he⟩ | ⟨text, htext⟩
  · obtain rfl := Except.error.inj (he.symm.trans h)
    rcases content_eq_refused_iff.mp hcontent with
      ⟨hplace, e, hread, rfl⟩ | ⟨hplace, _, hfetch, rfl⟩
    · exact .file hplace hread
    · exact .unavailable hplace hfetch
  · cases he.symm.trans h
    exact .undecodable hbytes hnone
  · exact prevents_of_hasText htext h

/-! ### The ends of loading -/

theorem load_eq_ok_iff :
  load lib fs source = .ok ds ↔ read lib fs source = .ok ds
  := mapError_eq_ok_iff

theorem load_eq_refused_iff {e : LoadError} :
  load lib fs source = .error (.refused e)
    ↔ e.source = source ∧ read lib fs source = .error (.refused e.cause)
  := by
  rw [load, mapError_eq_error_iff]
  constructor
  · rintro ⟨cause | f, hread, h⟩
    · cases h
      exact ⟨rfl, hread⟩
    · cases h
  · rintro ⟨rfl, hread⟩
    exact ⟨_, hread, rfl⟩

/-- A file has one text, if it has one. -/
theorem HasText.unique {text' : String} (h : HasText lib fs source text)
    (h' : HasText lib fs source text') :
  text' = text
  := by
  obtain ⟨content, hcontent, htext⟩ := h
  obtain ⟨content', hcontent', htext'⟩ := h'
  rw [← content_eq_ok_iff] at hcontent hcontent'
  obtain rfl := Except.ok.inj (hcontent.symm.trans hcontent')
  exact Option.some.inj (htext'.symm.trans htext)

theorem Denotes.not_writesHalfPair (h : Denotes lib source text v) :
  ¬ WritesHalfPair lib source text
  := by
  rintro (⟨hjson, hparse⟩ | ⟨hyaml, hparse⟩)
  · cases h with
    | json _ _ h => cases h.symm.trans hparse
    | yaml hyaml => exact hyaml hjson
  · cases h with
    | json hjson => exact hyaml hjson
    | yaml _ _ h => cases h.symm.trans hparse

/-- There is no half of a surrogate pair in a file whose declarations are loaded. -/
theorem not_writesHalfPair_of_load (h : load lib fs source = .ok ds) :
  ∀ text, HasText lib fs source text → ¬ WritesHalfPair lib source text
  := by
  intro text htext
  rw [load_eq_ok_iff, read_eq_ok_iff] at h
  obtain ⟨text', htext', v, hv, -⟩ := h
  obtain rfl := htext'.unique htext
  exact hv.not_writesHalfPair

/-- Declarations are loaded exactly when a file is a document with a list and all items of the list
are declarations, which are then loaded in their order.  Loading is refused, for the source that was
given, exactly for what prevents it.  It ends in one of the two ways exactly when the file, in which
there is no half of a surrogate pair, is not faulty. -/
theorem load_answers_iff
    (lib : Libraries) (fs : FileSystem) (source : String)
    (hpairs : ∀ text, HasText lib fs source text → ¬ WritesHalfPair lib source text) :
  (∀ ds, load lib fs source = .ok ds
    ↔ ∃ text, HasText lib fs source text ∧ ∃ v, Denotes lib source text v
      ∧ ∃ xs, Lists v xs ∧ List.Forall₂ (fun x d => Declaration.ofValue x = .ok d) xs ds)
    ∧ (∀ e, load lib fs source = .error (.refused e)
      ↔ e.source = source ∧ Prevents lib fs source e.cause)
    ∧ (((∃ ds, load lib fs source = .ok ds) ∨ ∃ e, load lib fs source = .error (.refused e))
      ↔ ¬ IsFaulty lib fs source)
  := by
  refine ⟨?_, ?_, ?_⟩
  · intro ds
    rw [load_eq_ok_iff, read_eq_ok_iff]
  · intro e
    rw [load_eq_refused_iff, read_eq_refused_iff]
  · rw [← exists_load_fault_iff hpairs]
    cases load lib fs source with
    | ok ds => simp
    | error failure =>
        cases failure with
        | refused e => simp
        | fault f => simp

/-- A message that can be read. -/
def readMessage : Declaration := ⟨91, "mail.Read", none, by decide, by decide, by decide, by decide⟩

/-- A file with this message under `declarations`. -/
def readFile : FileSystem :=
  ⟨[(["work"], .directory),
    (["work", "mail.JSON"],
      .file ("\x7b\"declarations\": [\x7b\"protocol_id\": 91, "
        ++ "\"declaration_name\": \"mail.Read\"\x7d]\x7d").toUTF8)], ["work"]⟩

/-- A file that is not faulty is a document with a list of declarations. -/
theorem load_answers_iff_readFile :
  (∀ text, HasText .standard readFile "mail.JSON" text →
    ¬ WritesHalfPair .standard "mail.JSON" text)
    ∧ load .standard readFile "mail.JSON" = .ok [readMessage]
    ∧ ¬ IsFaulty .standard readFile "mail.JSON"
    ∧ ∃ text, HasText .standard readFile "mail.JSON" text
      ∧ ∃ v, Denotes .standard "mail.JSON" text v
        ∧ ∃ xs, Lists v xs
          ∧ List.Forall₂ (fun x d => Declaration.ofValue x = .ok d) xs [readMessage]
  := by
  have hload : load .standard readFile "mail.JSON" = .ok [readMessage] := by decide +kernel
  have hpairs := not_writesHalfPair_of_load hload
  obtain ⟨hok, -, hanswers⟩ := load_answers_iff .standard readFile "mail.JSON" hpairs
  exact ⟨hpairs, hload, hanswers.mp (.inl ⟨_, hload⟩), (hok _).mp hload⟩

/-- A file with an item that is called a truth value and is none. -/
def maybeFiles : FileSystem :=
  ⟨[(["work"], .directory), (["work", "mail.yaml"], .file "- !!bool maybe\n".toUTF8)], ["work"]⟩

/-- The item is neither loaded nor refused. -/
theorem not_load_answers_maybeFiles :
  ¬ ((∃ ds, load .standard maybeFiles "mail.yaml" = .ok ds)
    ∨ ∃ e, load .standard maybeFiles "mail.yaml" = .error (.refused e))
  := by
  have hload : load .standard maybeFiles "mail.yaml" = .error (.fault .missingKey) := by
    decide +kernel
  rw [hload]
  nofun

end Loading

end MessagePlacement
