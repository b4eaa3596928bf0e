import DocQuery.Predicate.Parser
import DocQuery.Predicate.Text
import DocQuery.Proofs.Alike
import DocQuery.Proofs.Numerals
import DocQuery.Proofs.Tokens
import DocQuery.Value.Floats

/-!
# Values read back

A value is read from its text with floats for its numbers, so it is read as it was if its numbers
are floats. What is read is always of this kind, and no object in it has a key twice.

* `Value.opens_chars` — no value's text looks like a blank, a comma or the end of a list.
* `Predicate.readValue_inFloats` — a value is read from its text in floating point form.
* `Predicate.of_readValue` — what is read is a value that reads back.
-/

set_option autoImplicit false

namespace DocQuery

theorem Delimited.numberEnds {rest : List Char} (h : Delimited rest) :
    Literal.NumberEnds rest := by
  obtain ⟨c, r, rfl, hc⟩ := h
  intro d t heq
  obtain ⟨rfl, -⟩ := List.cons.inj heq
  rcases hc with rfl | rfl | rfl <;> decide

/-! ## How texts begin -/

/-- A number begins with a digit or its sign. -/
def StartsNumber (c : Char) : Prop := c.isDigit = true ∨ c = '-'

theorem StartsNumber.ne {c d : Char} (h : StartsNumber c) (hdigit : d.isDigit = false)
    (hsign : d ≠ '-') : c ≠ d := by
  rintro rfl
  rcases h with h | h
  · rw [hdigit] at h
    cases h
  · exact hsign h

theorem Double.exists_chars_cons (d : Double) : ∃ c s, d.chars = c :: s ∧ StartsNumber c := by
  unfold Double.chars Double.signed
  obtain ⟨c, s, heq, hc, -⟩ := (d.shortest .up).exists_positional_cons
  split
  · exact ⟨_, _, rfl, .inr rfl⟩
  · exact ⟨c, s, heq, .inl hc⟩

theorem opens_of_startsNumber {c : Char} {s : List Char} (h : StartsNumber c) : Opens (c :: s) := by
  refine ⟨c, s, rfl, ?_, ?_⟩
  · have hspace := h.ne (d := ' ') (by decide) (by decide)
    have hline := h.ne (d := '\n') (by decide) (by decide)
    have hreturn := h.ne (d := '\r') (by decide) (by decide)
    have htab := h.ne (d := '\t') (by decide) (by decide)
    simp [isGap, hspace, hline, hreturn, htab]
  · rintro (hc | hc)
    · exact h.ne (by decide) (by decide) hc
    · exact h.ne (by decide) (by decide) hc

theorem Number.exists_chars_cons (n : Number) : ∃ c s, n.chars = c :: s ∧ StartsNumber c := by
  cases n with
  | float d => exact d.exists_chars_cons
  | integer i =>
    show ∃ c s, integerChars i = c :: s ∧ StartsNumber c
    unfold integerChars
    split
    · exact ⟨_, _, rfl, .inr rfl⟩
    · obtain ⟨c, s, heq, hc, -⟩ := exists_digitsOf_cons i.natAbs
      exact ⟨c, s, heq, .inl hc⟩

theorem Number.ofChars_chars (n : Number) : Bound.ofChars n.chars = some n.bound := by
  cases n with
  | integer i => exact Bound.ofChars_integerChars i
  | float d => exact d.ofChars_chars

theorem Number.scanNumber_chars (n : Number) {rest : List Char} (hrest : Literal.NumberEnds rest) :
    Literal.scanNumber (n.chars ++ rest) = some (n.chars, rest) := by
  cases n with
  | integer i => exact Literal.scanNumber_integerChars i hrest
  | float d => exact Literal.scanNumber_chars d hrest

/-- There is a float nearest to each word. -/
theorem Number.WordSized.exists_bound {n : Number} (h : n.WordSized) :
    ∃ d : Double, n.bound = .finite d := by
  cases n with
  | float d => exact ⟨d, rfl⟩
  | integer i =>
    have hword : Word.least ≤ i ∧ i ≤ Word.greatestUnsigned := h
    unfold Word.least Word.greatestUnsigned at hword
    apply Double.exists_ofInt
    unfold Word.greatestUnsigned
    omega

theorem Number.inFloats_of_bound {n : Number} {d : Double} (h : n.bound = .finite d) :
    n.inFloats = .float d := by
  unfold inFloats
  rw [h]

theorem opens_quoteChars (s : String) : Opens (quoteChars s) :=
  opens_cons (by decide) (by decide) _

theorem braced_append (s rest : List Char) :
    braced s ++ rest = '\x7b' :: (s ++ '\x7d' :: rest) := by
  rw [braced, List.cons_append, List.append_assoc]
  rfl

theorem bracketed_append (s rest : List Char) :
    bracketed s ++ rest = '[' :: (s ++ ']' :: rest) := by
  rw [bracketed, List.cons_append, List.append_assoc]
  rfl

theorem labelled_append (label operand rest : List Char) :
    labelled label operand ++ rest = label ++ ':' :: ' ' :: (operand ++ rest) := by
  rw [labelled, List.append_assoc]
  rfl

namespace Value

theorem charsItems_eq (vs : List Value) : charsItems vs = vs.map chars := by
  induction vs with
  | nil => rfl
  | cons v vs ih => rw [charsItems, ih, List.map_cons]

/-- The text of an entry. -/
def entryChars (e : String × Value) : List Char := labelled (quoteChars e.1) e.2.chars

theorem charsEntries_eq (es : List (String × Value)) : charsEntries es = es.map entryChars := by
  induction es with
  | nil => rfl
  | cons e es ih =>
    rw [charsEntries, ih, List.map_cons]
    rfl

theorem joined_eq (vs : List Value) : joined vs = joinedBy chars vs := by
  rw [joined, charsItems_eq]
  rfl

theorem chars_array (items : List Value) :
    (array items).chars = '[' :: (joinedBy chars items ++ [']']) := by
  rw [chars, charsItems_eq]
  rfl

theorem chars_object (entries : List (String × Value)) :
    (object entries).chars = '\x7b' :: (joinedBy entryChars entries ++ ['\x7d']) := by
  rw [chars, charsEntries_eq]
  rfl

/-- No value's text begins with a blank or with what ends a list. -/
theorem opens_chars (v : Value) : Opens v.chars := by
  cases v with
  | null => exact opens_cons (by decide) (by decide) _
  | bool b =>
    cases b with
    | true => exact opens_cons (by decide) (by decide) _
    | false => exact opens_cons (by decide) (by decide) _
  | number n =>
    obtain ⟨c, s, heq, hc⟩ := n.exists_chars_cons
    show Opens n.chars
    rw [heq]
    exact opens_of_startsNumber hc
  | string s => exact opens_quoteChars s
  | array items =>
    rw [chars_array]
    exact opens_cons (by decide) (by decide) _
  | object entries =>
    rw [chars_object]
    exact opens_cons (by decide) (by decide) _

theorem opens_entryChars (e : String × Value) : Opens (entryChars e) :=
  (opens_quoteChars e.1).append _

theorem numbersFloatItems_iff {vs : List Value} :
    numbersFloatItems vs ↔ ∀ v ∈ vs, v.NumbersFloat := by
  induction vs with
  | nil => simp [numbersFloatItems]
  | cons v vs ih => rw [numbersFloatItems, ih, List.forall_mem_cons]

theorem numbersFloatEntries_iff {es : Document} :
    numbersFloatEntries es ↔ ∀ e ∈ es, e.2.NumbersFloat := by
  induction es with
  | nil => simp [numbersFloatEntries]
  | cons e es ih =>
    obtain ⟨k, v⟩ := e
    rw [numbersFloatEntries, ih, List.forall_mem_cons]

theorem Storable.of_mem {items : List Value} (h : (array items).Storable) {v : Value}
    (hv : v ∈ items) : v.Storable :=
  ⟨wordSizedItems_iff.1 h.wordSized v hv, h.keysDistinct.of_mem hv⟩

theorem Storable.of_entry {entries : List (String × Value)} (h : (object entries).Storable)
    {e : String × Value} (he : e ∈ entries) : e.2.Storable :=
  ⟨wordSizedEntries_iff.1 h.wordSized e he, keysDistinctEntries_iff.1 h.keysDistinct.2 e he⟩

end Value

namespace Predicate

/-! ## Labels -/

theorem labelFault_ok {α : Type} (label : String) (a : α) :
    labelFault label (.ok a) = .ok a := rfl

theorem labelFault_eq_ok_iff {α : Type} {label : String} {r : Except (Fault Problem) α} {a : α} :
    labelFault label r = .ok a ↔ r = .ok a :=
  mapError_eq_ok_iff

theorem readLiteral_eq_ok {α : Type} {r : Reader Literal.Problem α} {s : List Char}
    {p : α × List Char} (h : r s = .ok p) : readLiteral r s = .ok p := by
  unfold readLiteral
  rw [h]
  rfl

theorem readString_quoteChars (s : String) (rest : List Char) :
    readString (quoteChars s ++ rest) = .ok (s, rest) :=
  readLiteral_eq_ok (Literal.string_quoteChars s rest)

/-- A number is read as the float nearest to it. -/
theorem readNumber_of_bound {n : Number} {d : Double} (hbound : n.bound = .finite d)
    {rest : List Char} (hrest : Delimited rest) : readNumber (n.chars ++ rest) = .ok (d, rest) := by
  apply readLiteral_eq_ok
  unfold Literal.number
  simp only [n.scanNumber_chars hrest.numberEnds, n.ofChars_chars, hbound]

theorem readNumber_chars (d : Double) {rest : List Char} (hrest : Delimited rest) :
    readNumber (d.chars ++ rest) = .ok (d, rest) :=
  @readNumber_of_bound (.float d) d rfl rest hrest

theorem skipBlanks_colon (rest : List Char) : skipBlanks (':' :: rest) = ':' :: rest :=
  skipBlanks_of_solid ⟨_, _, rfl, by decide⟩

/-- A quoted label is read with the colon after it. -/
theorem readLabel_quoteChars (label : String) (rest : List Char) :
    readLabel (quoteChars label ++ ':' :: rest) = .ok (label, rest) := by
  have hstring := readString_quoteChars label (':' :: rest)
  obtain ⟨s, hs⟩ : ∃ s, quoteChars label ++ ':' :: rest = '"' :: s := ⟨_, rfl⟩
  rw [hs] at hstring ⊢
  unfold readLabel
  simp only [hstring, labelFault_ok, bind, Except.bind, skipBlanks_colon, expect_cons]

/-- A label without quotes is read with the colon after it. -/
theorem readLabel_bare {label : List Char} (hlabel : ∀ c ∈ label, isLabelChar c = true)
    (hne : label ≠ []) (rest : List Char) :
    readLabel (label ++ ':' :: rest) = .ok (String.ofList label, rest) := by
  have htake : (label ++ ':' :: rest).takeWhile isLabelChar = label := by
    rw [List.takeWhile_append_of_pos hlabel]
    exact List.append_nil label
  have hdrop : (label ++ ':' :: rest).dropWhile isLabelChar = ':' :: rest := by
    rw [List.dropWhile_append_of_pos hlabel]
    rfl
  have hbare : readBareLabel (label ++ ':' :: rest) = .ok (String.ofList label, ':' :: rest) := by
    unfold readBareLabel
    rw [htake, hdrop]
    exact if_neg hne
  obtain ⟨c, s, hs⟩ := List.exists_cons_of_ne_nil hne
  unfold readLabel
  split
  · rename_i heq
    rw [hs] at heq
    have hc := hlabel c (hs ▸ List.mem_cons_self)
    rw [(List.cons.inj heq).1] at hc
    exact absurd hc (by decide)
  · simp only [hbare, bind, Except.bind, skipBlanks_colon, expect_cons]

/-! ## Reading undoes writing -/

section Reading

variable {item : Reader Problem Value} {rest : List Char}

/-- A reader takes the text of a value for its floating point form. -/
def ReadsInFloats (item : Reader Problem Value) (v : Value) : Prop :=
  ∀ rest, Delimited rest → item (v.chars ++ rest) = .ok (v.inFloats, rest)

/-- A list between brackets is read if its items are. -/
theorem readItems_joinedBy {vs : List Value} (h : ∀ v ∈ vs, ReadsInFloats item v)
    (rest : List Char) :
    readItems item (bracketed (joinedBy Value.chars vs) ++ rest) =
      .ok (vs.map Value.inFloats, rest) := by
  have hlist : ∀ v ∈ vs, ReadsBack
      (fun index s => labelFault ("item #" ++ toString index) (item s)) v.chars v.inFloats := by
    intro v hv index u hu
    show labelFault _ (item (v.chars ++ u)) = _
    rw [h v hv u hu, labelFault_ok]
  unfold readItems
  rw [bracketed_append]
  simp only [expect_cons, bind, Except.bind]
  exact separated_joinedBy closes_bracket Value.opens_chars vs hlist rest

theorem readEntry_chars {e : String × Value} (h : ReadsInFloats item e.2)
    (hrest : Delimited rest) :
    readEntry item (Value.entryChars e ++ rest) = .ok (Value.entryInFloats e, rest) := by
  have hblank := skipBlanks_space_of_solid (e.2.opens_chars.append rest).solid
  unfold readEntry
  rw [Value.entryChars, labelled_append]
  simp only [readLabel_quoteChars, bind, Except.bind, hblank, h rest hrest]
  rfl

/-- A document is read if its values are. -/
theorem readDocument_joinedBy {entries : List (String × Value)}
    (hkeys : (Assoc.keys entries).Nodup) (h : ∀ e ∈ entries, ReadsInFloats item e.2)
    (rest : List Char) :
    readDocument item (braced (joinedBy Value.entryChars entries) ++ rest) =
      .ok (entries.map Value.entryInFloats, rest) := by
  have hlist : separated '\x7d' (.expected "'\x7d'") (fun _ => readEntry item)
      (joinedBy Value.entryChars entries ++ '\x7d' :: rest) =
        .ok (entries.map Value.entryInFloats, rest) := by
    apply separated_joinedBy closes_brace Value.opens_entryChars entries
    intro e he _ u hu
    exact readEntry_chars (h e he) hu
  rw [← Value.keys_entryInFloats] at hkeys
  unfold readDocument
  rw [braced_append]
  simp only [expect_cons, bind, Except.bind, hlist, Assoc.ofWrites_of_nodup hkeys]

end Reading

/-- The first character of a text decides what kind of value is read. -/
theorem readValueWithin_cons (fuel : Nat) (c : Char) (s : List Char) :
    readValueWithin (fuel + 1) (c :: s) =
      if c = '"' then (readString (c :: s)).map fun p => (.string p.1, p.2)
      else if c = '\x7b' then
        (readDocument (readValueWithin fuel) (c :: s)).map fun p => (.object p.1, p.2)
      else if c = '[' then
        (readItems (readValueWithin fuel) (c :: s)).map fun p => (.array p.1, p.2)
      else if c = 't' ∨ c = 'f' then (readBool (c :: s)).map fun p => (.bool p.1, p.2)
      else if c = 'n' then (readNull (c :: s)).map fun p => (.null, p.2)
      else if c.isDigit ∨ c = '-' then (readNumber (c :: s)).map fun p => (.float p.1, p.2)
      else fault (c :: s) (.unexpected c) := rfl

/-- A digit or a sign begins a number. -/
theorem readValueWithin_number {fuel : Nat} {c : Char} (hc : StartsNumber c) (s : List Char) :
    readValueWithin (fuel + 1) (c :: s) =
      (readNumber (c :: s)).map fun p => (.float p.1, p.2) := by
  rw [readValueWithin_cons, if_neg (hc.ne (by decide) (by decide)),
    if_neg (hc.ne (by decide) (by decide)), if_neg (hc.ne (by decide) (by decide)),
    if_neg (not_or.2 ⟨hc.ne (by decide) (by decide), hc.ne (by decide) (by decide)⟩),
    if_neg (hc.ne (by decide) (by decide))]
  exact if_pos hc

/-- **A value is read from its text**, with floats for its numbers. -/
theorem readValueWithin_inFloats {fuel : Nat} {v : Value} (hfuel : v.chars.length ≤ fuel)
    (hv : v.Storable) : ReadsInFloats (readValueWithin fuel) v := by
  induction fuel generalizing v with
  | zero =>
    have := v.opens_chars.solid.length_pos
    omega
  | succ fuel ih =>
    intro rest hrest
    cases v with
    | null => rfl
    | bool b => cases b <;> rfl
    | number n =>
      obtain ⟨d, hbound⟩ := Number.WordSized.exists_bound hv.wordSized
      have hread := readNumber_of_bound hbound hrest
      show readValueWithin (fuel + 1) (n.chars ++ rest) = .ok (.number n.inFloats, rest)
      rw [Number.inFloats_of_bound hbound]
      obtain ⟨c, s, heq, hc⟩ := n.exists_chars_cons
      rw [heq, List.cons_append] at hread ⊢
      rw [readValueWithin_number hc, hread]
      rfl
    | string s =>
      show (readString (quoteChars s ++ rest)).map _ = _
      rw [readString_quoteChars]
      rfl
    | array items =>
      rw [Value.chars_array, List.length_cons, List.length_append] at hfuel
      have hitems : ∀ v ∈ items, ReadsInFloats (readValueWithin fuel) v := by
        intro v hmem
        have hlength := @length_le_joinedBy Value Value.chars v items hmem
        exact ih (by omega) (hv.of_mem hmem)
      rw [Value.chars_array, Value.inFloats_array]
      show (readItems (readValueWithin fuel)
        (bracketed (joinedBy Value.chars items) ++ rest)).map _ = _
      rw [readItems_joinedBy hitems]
      rfl
    | object entries =>
      rw [Value.chars_object, List.length_cons, List.length_append] at hfuel
      have hentries : ∀ e ∈ entries, ReadsInFloats (readValueWithin fuel) e.2 := by
        intro e he
        have hlength := @length_le_joinedBy _ Value.entryChars e entries he
        have hle : e.2.chars.length ≤ (Value.entryChars e).length := by
          rw [Value.entryChars, labelled, List.length_append, List.length_cons, List.length_cons]
          omega
        exact ih (by omega) (hv.of_entry he)
      rw [Value.chars_object, Value.inFloats_object]
      show (readDocument (readValueWithin fuel)
        (braced (joinedBy Value.entryChars entries) ++ rest)).map _ = _
      rw [readDocument_joinedBy hv.keysDistinct.1 hentries]
      rfl

theorem readValue_inFloats {v : Value} (hv : v.Storable) : ReadsInFloats readValue v :=
  fun rest hrest => readValueWithin_inFloats (by rw [List.length_append]; omega) hv rest hrest

/-! ## What is read -/

/-- A value as reading gives it. -/
def Readable (v : Value) : Prop := v.NumbersFloat ∧ v.KeysDistinct

section Guarantees

variable {item : Reader Problem Value} {P : Value → Prop} {s : List Char}

theorem of_readItems (hitem : ∀ {s p}, item s = .ok p → P p.1) {p : List Value × List Char}
    (h : readItems item s = .ok p) : ∀ v ∈ p.1, P v := by
  unfold readItems at h
  obtain ⟨⟨⟨⟩, s⟩, -, h⟩ := bind_eq_ok_iff.1 h
  exact forall_of_separated (fun hv => hitem (labelFault_eq_ok_iff.1 hv)) h

theorem of_readEntry (hitem : ∀ {s p}, item s = .ok p → P p.1)
    {p : (String × Value) × List Char} (h : readEntry item s = .ok p) : P p.1.2 := by
  unfold readEntry at h
  obtain ⟨⟨label, s⟩, -, h⟩ := bind_eq_ok_iff.1 h
  obtain ⟨⟨v, s⟩, hv, h⟩ := bind_eq_ok_iff.1 h
  rw [← Except.ok.inj h]
  exact hitem hv

theorem of_readDocument (hitem : ∀ {s p}, item s = .ok p → P p.1) {p : Document × List Char}
    (h : readDocument item s = .ok p) : (Assoc.keys p.1).Nodup ∧ ∀ e ∈ p.1, P e.2 := by
  unfold readDocument at h
  obtain ⟨⟨⟨⟩, s⟩, -, h⟩ := bind_eq_ok_iff.1 h
  obtain ⟨⟨entries, s⟩, hentries, h⟩ := bind_eq_ok_iff.1 h
  have hall : ∀ w ∈ entries, P w.2 :=
    forall_of_separated (fun he => of_readEntry hitem he) hentries
  obtain ⟨hkeys, hwritten⟩ := Assoc.ofWrites_spec entries
  rw [← Except.ok.inj h]
  exact ⟨hkeys, fun e he => hall e (hwritten e he)⟩

end Guarantees

/-- **What is read is a value that reads back.** -/
theorem of_readValueWithin {fuel : Nat} {s : List Char} {p : Value × List Char}
    (h : readValueWithin fuel s = .ok p) : Readable p.1 := by
  induction fuel generalizing s p with
  | zero => cases h
  | succ fuel ih =>
    cases s with
    | nil => cases h
    | cons c s =>
      rw [readValueWithin_cons] at h
      split at h
      · obtain ⟨q, -, rfl⟩ := map_eq_ok_iff.1 h
        exact ⟨trivial, trivial⟩
      split at h
      · obtain ⟨q, hq, rfl⟩ := map_eq_ok_iff.1 h
        obtain ⟨hkeys, hentries⟩ := of_readDocument ih hq
        refine ⟨Value.numbersFloatEntries_iff.2 ?_, hkeys, Value.keysDistinctEntries_iff.2 ?_⟩
        · intro e he
          exact (hentries e he).1
        · intro e he
          exact (hentries e he).2
      split at h
      · obtain ⟨q, hq, rfl⟩ := map_eq_ok_iff.1 h
        have hitems := of_readItems ih hq
        refine ⟨Value.numbersFloatItems_iff.2 ?_, Value.keysDistinctItems_iff.2 ?_⟩
        · intro v hv
          exact (hitems v hv).1
        · intro v hv
          exact (hitems v hv).2
      split at h
      · obtain ⟨q, -, rfl⟩ := map_eq_ok_iff.1 h
        exact ⟨trivial, trivial⟩
      split at h
      · obtain ⟨q, -, rfl⟩ := map_eq_ok_iff.1 h
        exact ⟨trivial, trivial⟩
      split at h
      · obtain ⟨q, -, rfl⟩ := map_eq_ok_iff.1 h
        exact ⟨trivial, trivial⟩
      · cases h

theorem of_readValue {s : List Char} {p : Value × List Char} (h : readValue s = .ok p) :
    Readable p.1 :=
  of_readValueWithin h

end Predicate

end DocQuery
