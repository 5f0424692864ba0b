import MessagePlacement.Proofs.Json.Scalar

/-!
# Reading what is written

`Value.IsPlain` holds of the values that JSON has a form for: nothing, truth values, short integers,
texts, lists and mappings of distinct texts.  What `Json.pretty` writes for a plain value
`Json.parse?` reads as the same value, so that no two plain values are written alike.
-/

namespace MessagePlacement

/-- The values that JSON has a form for. -/
inductive Value.IsPlain : Value → Prop where
  | null : IsPlain .null
  | bool (b : Bool) : IsPlain (.bool b)
  | int {n : Int} (h : Json.IsShort n) : IsPlain (.int n)
  | text (s : String) : IsPlain (.text s)
  | list {xs : List Value} (h : ∀ x ∈ xs, IsPlain x) : IsPlain (.list xs)
  | mapping {es : List (String × Value)} (nodup : (es.map Prod.fst).Nodup)
      (h : ∀ e ∈ es, IsPlain e.2) : IsPlain (.mapping (es.map fun e => (.text e.1, e.2)))

/-- A key that is new is put at the end. -/
theorem Value.put_text_of_not_mem {es : List (String × Value)} {k : String}
    (h : k ∉ es.map Prod.fst) (v : Value) :
  put (.text k) v (es.map fun e => (.text e.1, e.2))
    = (es ++ [(k, v)]).map fun e => (.text e.1, e.2)
  := by
  induction es with
  | nil => rfl
  | cons e es ih =>
      rw [List.map_cons, List.mem_cons, not_or] at h
      have hkey : (Value.text e.1).sameKey (.text k) = false := by
        simp [sameKey, keyNumber?, beq_eq_false_iff_ne, Ne.symm h.1]
      simp only [List.map_cons, put, hkey, List.cons_append, ih h.2, Bool.false_eq_true, if_false]

/-- A member of a list without repetitions is not before itself. -/
theorem not_mem_of_nodup {m : String × Value} {done ms : List (String × Value)}
    (h : ((done ++ m :: ms).map Prod.fst).Nodup) :
  m.1 ∉ done.map Prod.fst
  := by
  rw [List.map_append, List.nodup_append] at h
  intro hmem
  apply h.2.2 m.1 hmem m.1 (by simp) rfl

namespace Json

/-- `ReadsBack v`: what is written for `v` at any level and before any break is read as `v`. -/
def ReadsBack (v : Value) : Prop :=
  ∀ level fuel rest, AtBreak rest → (prettyAt level v).length ≤ fuel →
    value fuel (prettyAt level v ++ rest) = .ok (v, rest)

/-! ### Space -/

theorem skipSpace_newline (level : Nat) (cs : List Char) :
  skipSpace (newline level ++ cs) = skipSpace cs
  := by
  have hblanks : ∀ n, (List.replicate n ' ' ++ cs).dropWhile isSpace = cs.dropWhile isSpace := by
    intro n
    induction n with
    | zero => rfl
    | succ n ih =>
        rw [List.replicate_succ, List.cons_append, List.dropWhile_cons_of_pos (by decide), ih]
  rw [skipSpace, newline, List.cons_append, List.dropWhile_cons_of_pos (by decide), hblanks]
  rfl

theorem skipSpace_cons {c : Char} (h : isSpace c = false) (cs : List Char) :
  skipSpace (c :: cs) = c :: cs
  := List.dropWhile_cons_of_neg (by simp [h])

theorem isSpace_of_isDigit {c : Char} (h : c.isDigit = true) :
  isSpace c = false
  := by
  rw [← Bool.not_eq_true]
  intro hc
  have hmem : c = ' ' ∨ c = '\t' ∨ c = '\n' ∨ c = '\r' := by
    simpa [isSpace, or_assoc] using hc
  rcases hmem with rfl | rfl | rfl | rfl
  · exact absurd h (by decide)
  · exact absurd h (by decide)
  · exact absurd h (by decide)
  · exact absurd h (by decide)

/-- What is written for a value begins with a character that neither is space nor closes a
list. -/
theorem exists_prettyAt_eq_cons {v : Value} (h : v.IsPlain) (level : Nat) :
  ∃ c cs, prettyAt level v = c :: cs ∧ isSpace c = false ∧ c ≠ ']'
  := by
  cases h with
  | null => exact ⟨_, _, rfl, by decide, by decide⟩
  | bool b =>
      cases b with
      | false => exact ⟨_, _, rfl, by decide, by decide⟩
      | true => exact ⟨_, _, rfl, by decide, by decide⟩
  | @int n hn =>
      obtain ⟨c, cs, heq, hc⟩ := exists_toString_int_eq_cons n
      refine ⟨c, cs, heq, ?_⟩
      rcases hc with rfl | hc
      · exact ⟨by decide, by decide⟩
      · use isSpace_of_isDigit hc
        rintro rfl
        revert hc
        decide
  | text s => exact ⟨_, _, rfl, by decide, by decide⟩
  | @list xs h =>
      cases xs with
      | nil => exact ⟨_, _, rfl, by decide, by decide⟩
      | cons x xs => exact ⟨_, _, rfl, by decide, by decide⟩
  | @mapping es nodup h =>
      cases es with
      | nil => exact ⟨_, _, rfl, by decide, by decide⟩
      | cons e es => exact ⟨_, _, rfl, by decide, by decide⟩

/-- No space is in front of a value. -/
theorem skipSpace_prettyAt {v : Value} (h : v.IsPlain) (level : Nat) (rest : List Char) :
  skipSpace (prettyAt level v ++ rest) = prettyAt level v ++ rest
  := by
  obtain ⟨c, cs, heq, hc, -⟩ := exists_prettyAt_eq_cons h level
  rw [heq, List.cons_append, skipSpace_cons hc]

/-! ### Values without members -/

/-- A text that opens neither a string nor a list nor a mapping is read as a word or number. -/
theorem value_eq_atom {c : Char} {cs : List Char} (fuel : Nat) (hquote : c ≠ '\x22')
    (hlist : c ≠ '[') (hmapping : c ≠ '\x7b') :
  value (fuel + 1) (c :: cs) = atom (c :: cs)
  := by
  rw [value]
  · rintro _ ⟨⟩
    apply hquote rfl
  · rintro _ ⟨⟩
    apply hlist rfl
  · rintro _ ⟨⟩
    apply hmapping rfl

theorem value_int (fuel : Nat) {n : Int} (hn : IsShort n) {rest : List Char} (h : AtBreak rest) :
  value (fuel + 1) ((toString n).toList ++ rest) = .ok (.int n, rest)
  := by
  obtain ⟨c, cs, heq, hc⟩ := exists_toString_int_eq_cons n
  have hatom := atom_int hn h
  rw [heq, List.cons_append] at hatom ⊢
  rw [value_eq_atom, hatom]
  all_goals
    rintro rfl
    revert hc
    decide

theorem value_string (fuel : Nat) (s : String) (rest : List Char) :
  value (fuel + 1) (writeString s ++ rest) = .ok (.text s, rest)
  := by
  have hstring := string_escapeChar s rest
  simp only [writeString, List.cons_append, List.append_assoc, List.nil_append, value, hstring]
  rfl

/-! ### Lists and mappings -/

section Openings

variable {cs tail : List Char} {c : Char}

/-- A list that does not close at once has elements. -/
theorem value_open_list (fuel : Nat) (hcs : skipSpace cs = c :: tail) (hc : c ≠ ']') :
  value (fuel + 1) ('[' :: cs) = elements fuel [] (c :: tail)
  := by
  simp only [value, hcs]
  split
  · rename_i heq
    exact absurd (List.cons.inj heq).1 hc
  · rfl

/-- A mapping that does not close at once has members. -/
theorem value_open_mapping (fuel : Nat) (hcs : skipSpace cs = c :: tail) (hc : c ≠ '\x7d') :
  value (fuel + 1) ('\x7b' :: cs) = members fuel [] (c :: tail)
  := by
  simp only [value, hcs]
  split
  · rename_i heq
    exact absurd (List.cons.inj heq).1 hc
  · rfl

end Openings

/-- Elements that are read back are read back as the rest of a list. -/
theorem elements_pretty
    {x : Value} {xs : List Value} (hplain : ∀ y ∈ x :: xs, y.IsPlain)
    (hreads : ∀ y ∈ x :: xs, ReadsBack y) (level fuel : Nat) (acc : List Value) (rest : List Char)
    (hfuel : (prettyAt (level + 1) x).length + (prettyElements (level + 1) xs).length < fuel) :
  elements fuel acc (prettyAt (level + 1) x
      ++ (prettyElements (level + 1) xs ++ (newline level ++ ']' :: rest)))
    = .ok (.list (acc.reverse ++ x :: xs), rest)
  := by
  induction xs generalizing x acc fuel with
  | nil =>
      obtain ⟨fuel, rfl⟩ := Nat.exists_eq_succ_of_ne_zero (Nat.ne_of_gt (Nat.zero_lt_of_lt hfuel))
      have hx := hreads x (List.mem_cons_self ..) (level + 1) fuel
        (newline level ++ ']' :: rest) (atBreak_cons (.inr rfl)) (by omega)
      simp only [prettyElements, List.nil_append, elements, hx, skipSpace_newline,
        skipSpace_cons (show isSpace ']' = false by decide), List.reverse_cons]
  | cons y ys ih =>
      obtain ⟨fuel, rfl⟩ := Nat.exists_eq_succ_of_ne_zero (Nat.ne_of_gt (Nat.zero_lt_of_lt hfuel))
      have hx := hreads x (List.mem_cons_self ..) (level + 1) fuel
        (prettyElements (level + 1) (y :: ys) ++ (newline level ++ ']' :: rest))
        (atBreak_cons (.inl rfl)) (by omega)
      have hy := skipSpace_prettyAt (hplain y (by simp)) (level + 1)
        (prettyElements (level + 1) ys ++ (newline level ++ ']' :: rest))
      have hlength : (prettyElements (level + 1) (y :: ys)).length
          = 1 + (newline (level + 1)).length + (prettyAt (level + 1) y).length
            + (prettyElements (level + 1) ys).length := by
        simp only [prettyElements, List.length_append, List.length_cons]
        omega
      have hys := ih (fun z hz => hplain z (List.mem_cons_of_mem _ hz))
        (fun z hz => hreads z (List.mem_cons_of_mem _ hz)) fuel (x :: acc) (by omega)
      rw [elements, hx]
      simp only [prettyElements, List.cons_append, List.append_assoc,
        skipSpace_cons (show isSpace ',' = false by decide), skipSpace_newline, hy, hys,
        List.reverse_cons, List.nil_append]

section Members

variable {k : String} {v : Value} {cs tail rest : List Char} {fuel : Nat}

/-- A member is read by its key and its value; a brace behind it closes the mapping. -/
theorem members_last
    (hvalue : value fuel (skipSpace cs) = .ok (v, tail)) (htail : skipSpace tail = '\x7d' :: rest)
    (entries : List (Value × Value)) :
  members (fuel + 1) entries (writeString k ++ ':' :: ' ' :: cs)
    = .ok (.mapping (Value.put (.text k) v entries), rest)
  := by
  have hkey := string_escapeChar k (':' :: ' ' :: cs)
  have hblank : skipSpace (' ' :: cs) = skipSpace cs := List.dropWhile_cons_of_pos (by decide)
  simp only [writeString, List.cons_append, List.append_assoc, List.nil_append, members, hkey,
    skipSpace_cons (show isSpace ':' = false by decide), hblank, hvalue, htail]

/-- A comma behind a member leads to the next one. -/
theorem members_further
    (hvalue : value fuel (skipSpace cs) = .ok (v, tail)) (htail : skipSpace tail = ',' :: rest)
    (entries : List (Value × Value)) :
  members (fuel + 1) entries (writeString k ++ ':' :: ' ' :: cs)
    = members fuel (Value.put (.text k) v entries) (skipSpace rest)
  := by
  have hkey := string_escapeChar k (':' :: ' ' :: cs)
  have hblank : skipSpace (' ' :: cs) = skipSpace cs := List.dropWhile_cons_of_pos (by decide)
  simp only [writeString, List.cons_append, List.append_assoc, List.nil_append, members, hkey,
    skipSpace_cons (show isSpace ':' = false by decide), hblank, hvalue, htail]

end Members

/-- Members that are read back are read back as the rest of a mapping, their keys being distinct
and different from those before them. -/
theorem members_pretty
    {m : String × Value} {ms : List (String × Value)} (hplain : ∀ e ∈ m :: ms, e.2.IsPlain)
    (hreads : ∀ e ∈ m :: ms, ReadsBack e.2) (done : List (String × Value))
    (hnodup : ((done ++ m :: ms).map Prod.fst).Nodup) (level fuel : Nat) (rest : List Char)
    (hfuel : (prettyAt (level + 1) m.2).length
      + (prettyMembers (level + 1) (ms.map fun e => (.text e.1, e.2))).length < fuel) :
  members fuel (done.map fun e => (.text e.1, e.2))
      (writeString m.1 ++ ':' :: ' ' :: (prettyAt (level + 1) m.2
        ++ (prettyMembers (level + 1) (ms.map fun e => (.text e.1, e.2))
          ++ (newline level ++ '\x7d' :: rest))))
    = .ok (.mapping ((done ++ m :: ms).map fun e => (.text e.1, e.2)), rest)
  := by
  induction ms generalizing m done fuel with
  | nil =>
      obtain ⟨fuel, rfl⟩ := Nat.exists_eq_succ_of_ne_zero (Nat.ne_of_gt (Nat.zero_lt_of_lt hfuel))
      have hm := hreads m (List.mem_cons_self ..) (level + 1) fuel
        (newline level ++ '\x7d' :: rest) (atBreak_cons (.inr rfl)) (by omega)
      rw [← skipSpace_prettyAt (hplain m (List.mem_cons_self ..))] at hm
      have hclose : skipSpace (newline level ++ '\x7d' :: rest) = '\x7d' :: rest := by
        rw [skipSpace_newline, skipSpace_cons (by decide)]
      simp only [List.map_nil, prettyMembers, List.nil_append]
      rw [members_last hm hclose, Value.put_text_of_not_mem (not_mem_of_nodup hnodup)]
  | cons e es ih =>
      obtain ⟨fuel, rfl⟩ := Nat.exists_eq_succ_of_ne_zero (Nat.ne_of_gt (Nat.zero_lt_of_lt hfuel))
      have hm := hreads m (List.mem_cons_self ..) (level + 1) fuel
        (prettyMembers (level + 1) ((e :: es).map fun e => (.text e.1, e.2))
          ++ (newline level ++ '\x7d' :: rest))
        (atBreak_cons (.inl rfl)) (by omega)
      rw [← skipSpace_prettyAt (hplain m (List.mem_cons_self ..))] at hm
      have hlength : (prettyMembers (level + 1) ((e :: es).map fun e => (.text e.1, e.2))).length
          = 1 + (newline (level + 1)).length + (writeString e.1).length + 2
            + (prettyAt (level + 1) e.2).length
            + (prettyMembers (level + 1) (es.map fun e => (.text e.1, e.2))).length := by
        simp only [List.map_cons, prettyMembers, Value.display, List.length_append,
          List.length_cons, List.length_nil]
        omega
      have hes := ih (fun z hz => hplain z (List.mem_cons_of_mem _ hz))
        (fun z hz => hreads z (List.mem_cons_of_mem _ hz)) (done ++ [m]) (by simpa using hnodup)
        fuel (by omega)
      have hcomma : prettyMembers (level + 1) ((e :: es).map fun e => (.text e.1, e.2))
            ++ (newline level ++ '\x7d' :: rest)
          = ',' :: (newline (level + 1) ++ (writeString e.1 ++ ':' :: ' ' ::
              (prettyAt (level + 1) e.2
                ++ (prettyMembers (level + 1) (es.map fun e => (.text e.1, e.2))
                  ++ (newline level ++ '\x7d' :: rest))))) := by
        simp [prettyMembers, Value.display]
      have hspace : ∀ tail, skipSpace (writeString e.1 ++ tail) = writeString e.1 ++ tail :=
        fun tail => skipSpace_cons (by decide) _
      rw [hcomma] at hm ⊢
      rw [members_further hm (skipSpace_cons (by decide) _), skipSpace_newline, hspace,
        Value.put_text_of_not_mem (not_mem_of_nodup hnodup), hes, List.append_assoc]
      rfl

/-- Something is written for every plain value, so a counter that suffices is no zero. -/
theorem exists_succ_of_length_le {v : Value} (h : v.IsPlain) {level fuel : Nat}
    (hfuel : (prettyAt level v).length ≤ fuel) :
  ∃ n, fuel = n + 1
  := by
  obtain ⟨c, cs, heq, -⟩ := exists_prettyAt_eq_cons h level
  apply Nat.exists_eq_succ_of_ne_zero
  rintro rfl
  rw [heq] at hfuel
  cases hfuel

/-- Lists of values that are read back are read back. -/
theorem readsBack_list {xs : List Value} (hplain : ∀ x ∈ xs, x.IsPlain)
    (hreads : ∀ x ∈ xs, ReadsBack x) :
  ReadsBack (.list xs)
  := by
  intro level fuel rest _ hfuel
  obtain ⟨fuel, rfl⟩ := exists_succ_of_length_le (.list hplain) hfuel
  cases xs with
  | nil => rfl
  | cons x xs =>
      have hx := hplain x (List.mem_cons_self ..)
      obtain ⟨c, cs, heq, -, hc⟩ := exists_prettyAt_eq_cons hx (level + 1)
      have hspace := skipSpace_prettyAt hx (level + 1)
        (prettyElements (level + 1) xs ++ (newline level ++ ']' :: rest))
      simp only [prettyAt, List.length_append, List.length_cons] at hfuel
      have helements := elements_pretty hplain hreads level fuel [] rest (by omega)
      simp only [prettyAt, List.cons_append, List.append_assoc, List.nil_append]
      rw [heq, List.cons_append] at helements hspace ⊢
      rw [value_open_list fuel (by rw [skipSpace_newline, hspace]) hc, helements]
      rfl

/-- Mappings of distinct keys to values that are read back are read back. -/
theorem readsBack_mapping
    {ms : List (String × Value)} (hnodup : (ms.map Prod.fst).Nodup)
    (hplain : ∀ m ∈ ms, m.2.IsPlain) (hreads : ∀ m ∈ ms, ReadsBack m.2) :
  ReadsBack (.mapping (ms.map fun m => (.text m.1, m.2)))
  := by
  intro level fuel rest _ hfuel
  obtain ⟨fuel, rfl⟩ := exists_succ_of_length_le (.mapping hnodup hplain) hfuel
  cases ms with
  | nil => rfl
  | cons m ms =>
      simp only [List.map_cons, prettyAt, List.length_append, List.length_cons] at hfuel
      have hmembers := members_pretty hplain hreads [] hnodup level fuel rest (by omega)
      simp only [List.map_cons, prettyAt, Value.display, List.cons_append, List.append_assoc,
        List.nil_append]
      rw [value_open_mapping fuel _ (by decide : '\x22' ≠ '\x7d')]
      · exact hmembers
      · rw [skipSpace_newline]
        exact skipSpace_cons (by decide) _

/-- A plain value is read back. -/
theorem readsBack {v : Value} (h : v.IsPlain) :
  ReadsBack v
  := by
  induction h with
  | null =>
      intro level fuel rest _ hfuel
      obtain ⟨fuel, rfl⟩ := exists_succ_of_length_le .null hfuel
      rfl
  | bool b =>
      intro level fuel rest _ hfuel
      obtain ⟨fuel, rfl⟩ := exists_succ_of_length_le (.bool b) hfuel
      cases b with
      | false => rfl
      | true => rfl
  | int hn =>
      intro level fuel rest hrest hfuel
      obtain ⟨fuel, rfl⟩ := exists_succ_of_length_le (.int hn) hfuel
      apply value_int fuel hn hrest
  | text s =>
      intro level fuel rest _ hfuel
      obtain ⟨fuel, rfl⟩ := exists_succ_of_length_le (.text s) hfuel
      apply value_string
  | list h ih => apply readsBack_list h ih
  | mapping nodup h ih => apply readsBack_mapping nodup h ih

/-- The text of a plain value, before a break with nothing but space behind it, is read as the
value. -/
theorem parse?_pretty_append {v : Value} (h : v.IsPlain) {rest : List Char} (hbreak : AtBreak rest)
    (hspace : skipSpace rest = []) :
  parse? (pretty v ++ String.ofList rest) = some v
  := by
  have hread := readsBack h 0 (2 * (prettyAt 0 v ++ rest).length + 2) rest hbreak (by simp; omega)
  simp only [parse?, parse, pretty, String.toList_append, String.toList_ofList,
    skipSpace_prettyAt h, hread, hspace, List.isEmpty_nil, if_true]
  rfl

end Json

end MessagePlacement
