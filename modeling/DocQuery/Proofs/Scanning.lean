import DocQuery.Proofs.Places

/-!
# Where tokens end

From the place of what is left of a text, the scans for the ends of runs, numbers and strings stop
at the places where the readers of characters stop. They look at every byte, also at those inside a
character; these are all above ASCII, so none of them ends a token, and one that follows a backslash
is passed with the rest of its character.

* `Scan.runEnd_place`, `Scan.skipRun_place`, `Scan.slice_run` — runs of ASCII characters.
* `Scan.numberEnd_place` — numbers.
* `Scan.stringEndWithin_place`, `Scan.string_place` — strings.
-/

set_option autoImplicit false

namespace DocQuery.Scan

variable {α β : Type} {text : String} {s r w : List Char} {c : Char} {p fuel : Nat}

/-! ## Runs -/

theorem head?_bytes_cons (c : Char) (s : List Char) :
    (bytes (c :: s)).head? = some (peekByte (c :: s)) := by
  obtain ⟨b, bs, hb⟩ := List.exists_cons_of_ne_nil (String.utf8EncodeChar_ne_nil (c := c))
  rw [peekByte, bytes_cons, hb]
  rfl

theorem getElem?_place_cons (h : c :: s <:+ text.toList) :
    text.toUTF8[place text (c :: s)]? = some (peekByte (c :: s)) := by
  rw [getElem?_place_zero h, head?_bytes_cons]

theorem byteAt_place (h : c :: s <:+ text.toList) :
    byteAt (place text (c :: s)) text p = .ok (.ok (peekByte (c :: s)), p) := by
  rw [byteAt, bind_ok (byteAt?_place h), head?_bytes_cons]
  rfl

theorem runEndWithin_place {kind : Char → Bool} (hzero : kind '\x00' = false)
    (hkind : ∀ c, kind c = true → c.toNat < 128) (h : s <:+ text.toList)
    (hfuel : s.length < fuel) :
    runEndWithin kind fuel (place text s) text p =
      .ok (.ok (place text (s.dropWhile kind)), p) := by
  induction s generalizing fuel with
  | nil =>
    obtain ⟨fuel, rfl⟩ := Nat.exists_eq_add_one.2 hfuel
    rw [runEndWithin, bind_ok (m := size) rfl, place_nil, if_neg (Nat.lt_irrefl _)]
    rfl
  | cons c s ih =>
    obtain ⟨fuel, rfl⟩ := Nat.exists_eq_add_one.2 (Nat.zero_lt_of_lt hfuel)
    have hbyte : isAscii kind (peekByte (c :: s)) = kind c := by
      rw [isAscii_peekByte hzero hkind]
      rfl
    rw [runEndWithin, bind_ok (m := size) rfl, if_pos (place_lt h), bind_ok (byteAt_place h), hbyte]
    by_cases hc : kind c = true
    · rw [if_pos hc, List.dropWhile_cons_of_pos hc, place_cons_of_lt h (hkind c hc)]
      exact ih (tail_suffix h) (Nat.lt_of_succ_lt_succ hfuel)
    · rw [if_neg hc, List.dropWhile_cons_of_neg hc]
      rfl

theorem runEnd_place {kind : Char → Bool} (hzero : kind '\x00' = false)
    (hkind : ∀ c, kind c = true → c.toNat < 128) (h : s <:+ text.toList) :
    runEnd kind (place text s) text p = .ok (.ok (place text (s.dropWhile kind)), p) :=
  runEndWithin_place hzero hkind h (length_lt_size h)

theorem skipRunWithin_place {kind : Char → Bool} (hzero : kind '\x00' = false)
    (hkind : ∀ c, kind c = true → c.toNat < 128) (h : s <:+ text.toList)
    (hfuel : s.length < fuel) :
    skipRunWithin kind fuel text (place text s) = .ok (.ok (), place text (s.dropWhile kind)) := by
  induction s generalizing fuel with
  | nil =>
    obtain ⟨fuel, rfl⟩ := Nat.exists_eq_add_one.2 hfuel
    rw [skipRunWithin, bind_ok (more_place h)]
    rfl
  | cons c s ih =>
    obtain ⟨fuel, rfl⟩ := Nat.exists_eq_add_one.2 (Nat.zero_lt_of_lt hfuel)
    have hbyte : isAscii kind (peekByte (c :: s)) = kind c := by
      rw [isAscii_peekByte hzero hkind]
      rfl
    rw [skipRunWithin, bind_ok (more_place h), if_pos (by simp), bind_ok (m := cursor) rfl,
      bind_ok (byteAt_place h), hbyte]
    by_cases hc : kind c = true
    · rw [if_pos hc, List.dropWhile_cons_of_pos hc, bind_ok (m := cursor) rfl,
        bind_ok (moveTo_next h (hkind c hc))]
      exact ih (tail_suffix h) (Nat.lt_of_succ_lt_succ hfuel)
    · rw [if_neg hc, List.dropWhile_cons_of_neg hc]
      rfl

theorem skipRun_place {kind : Char → Bool} (hzero : kind '\x00' = false)
    (hkind : ∀ c, kind c = true → c.toNat < 128) (h : s <:+ text.toList) :
    skipRun kind text (place text s) = .ok (.ok (), place text (s.dropWhile kind)) :=
  skipRunWithin_place hzero hkind h (length_lt_size h)

/-- A run is sliced out of the text; it is empty if it ends where it starts. -/
theorem slice_run (kind : Char → Bool) (h : s <:+ text.toList) :
    slice (place text s) (place text (s.dropWhile kind)) text p =
      .ok (.ok (String.ofList (s.takeWhile kind)), p) := by
  have hs : s.takeWhile kind ++ s.dropWhile kind = s := List.takeWhile_append_dropWhile
  have hslice := slice_place (w := s.takeWhile kind) (s := s.dropWhile kind) (p := p)
    (hs.symm ▸ h)
  rwa [hs] at hslice

theorem place_dropWhile_eq_iff (kind : Char → Bool) (h : s <:+ text.toList) :
    place text (s.dropWhile kind) = place text s ↔ s.takeWhile kind = [] := by
  have hs : s.takeWhile kind ++ s.dropWhile kind = s := List.takeWhile_append_dropWhile
  have hplace := place_append (w := s.takeWhile kind) (s := s.dropWhile kind) (hs.symm ▸ h)
  have hlength := length_le_byteLength (s.takeWhile kind)
  rw [hs] at hplace
  constructor
  · intro heq
    exact List.eq_nil_of_length_eq_zero (by omega)
  · intro hnil
    rw [hplace, hnil]
    rfl

/-! ## Numbers -/

theorem isAlphanum_lt (c : Char) (h : c.isAlphanum = true) : c.toNat < 128 := by
  have hval : c.val.toNat = c.toNat := rfl
  delta Char.isAlphanum Char.isAlpha Char.isUpper Char.isLower Char.isDigit at h
  simp only [Bool.or_eq_true, Bool.and_eq_true, decide_eq_true_eq, ge_iff_le,
    UInt32.le_iff_toNat_le] at h
  simp at h
  omega

theorem isDigit_lt (c : Char) (h : c.isDigit = true) : c.toNat < 128 :=
  isAlphanum_lt c (by simp [Char.isAlphanum, h])

theorem peekByte_cons_beq {d : Char} (hd : d.toNat < 128) (c : Char) (s : List Char) :
    (peekByte (c :: s) == ascii d) = decide (c = d) := by
  have hhead := head?_bytes_beq hd (c :: s)
  rwa [head?_bytes_cons, List.head?_cons, Option.some_beq_some, Option.some_beq_some] at hhead

/-- A sign goes on a number if an `e` stands in front of it. -/
theorem signsExponent_place {previous : Char} (hprevious : previous.toNat < 128)
    (h : previous :: c :: s <:+ text.toList) :
    signsExponent (place text (c :: s)) (peekByte (c :: s)) text p =
      .ok (.ok (decide ((c = '-' ∨ c = '+') ∧ previous = 'e')), p) := by
  have hbefore : place text (c :: s) - 1 = place text (previous :: c :: s) := by
    rw [← place_cons_of_lt h hprevious, Nat.add_sub_cancel]
  rw [signsExponent, peekByte_cons_beq (by decide),
    peekByte_cons_beq (by decide), ← Bool.decide_or]
  by_cases hsign : c = '-' ∨ c = '+'
  · rw [decide_eq_true hsign, if_pos rfl, hbefore, bind_ok (byteAt_place h),
      peekByte_cons_beq (by decide), Bool.decide_and, decide_eq_true hsign, Bool.true_and]
    rfl
  · rw [decide_eq_false hsign, if_neg Bool.false_ne_true, Bool.decide_and, decide_eq_false hsign,
      Bool.false_and]
    rfl

theorem numberTailEnd_place {previous : Char} (hprevious : previous.toNat < 128)
    (h : previous :: s <:+ text.toList) (hfuel : s.length < fuel) :
    numberTailEnd fuel (place text s) text p =
      .ok (.ok (place text (Literal.scanTail previous s).2), p) := by
  induction s generalizing fuel previous with
  | nil =>
    obtain ⟨fuel, rfl⟩ := Nat.exists_eq_add_one.2 hfuel
    rw [numberTailEnd, bind_ok (byteAt?_place (tail_suffix h))]
    rfl
  | cons c s ih =>
    obtain ⟨fuel, rfl⟩ := Nat.exists_eq_add_one.2 (Nat.zero_lt_of_lt hfuel)
    have hs := tail_suffix h
    have hgoes : (isAscii Char.isDigit (peekByte (c :: s)) || peekByte (c :: s) == ascii '.' ||
        peekByte (c :: s) == ascii 'e' || decide ((c = '-' ∨ c = '+') ∧ previous = 'e')) =
        decide (c.isDigit ∨ c = '.' ∨ c = 'e' ∨ ((c = '-' ∨ c = '+') ∧ previous = 'e')) := by
      rw [isAscii_peekByte (by decide) isDigit_lt, peekByte_cons_beq (by decide),
        peekByte_cons_beq (by decide)]
      simp [Bool.or_assoc]
    rw [numberTailEnd, bind_ok (byteAt?_place hs), head?_bytes_cons, Literal.scanTail]
    show (signsExponent (place text (c :: s)) (peekByte (c :: s)) >>= _) text p = _
    rw [bind_ok (signsExponent_place hprevious h), hgoes]
    by_cases hc : c.isDigit ∨ c = '.' ∨ c = 'e' ∨ ((c = '-' ∨ c = '+') ∧ previous = 'e')
    · have hascii : c.toNat < 128 := by
        rcases hc with hc | rfl | rfl | ⟨rfl | rfl, -⟩
        · exact isDigit_lt c hc
        all_goals decide
      rw [if_pos (decide_eq_true hc), if_pos hc, place_cons_of_lt hs hascii]
      exact ih hascii hs (Nat.lt_of_succ_lt_succ hfuel)
    · rw [if_neg (by simpa using hc), if_neg hc]
      rfl

theorem unsignedEnd_place_cons (h : c :: s <:+ text.toList) :
    unsignedEnd (place text (c :: s)) text p =
      .ok (.ok (if c.isDigit then some (place text (Literal.scanTail c s).2) else none), p) := by
  rw [unsignedEnd, bind_ok (byteAt?_place h), head?_bytes_any isDigit_lt, List.head?_cons,
    Option.any_some]
  by_cases hc : c.isDigit = true
  · have hascii := isDigit_lt c hc
    have htail : numberTailEnd (text.utf8ByteSize + 1) (place text (c :: s) + 1) text p =
        .ok (.ok (place text (Literal.scanTail c s).2), p) := by
      rw [place_cons_of_lt h hascii]
      exact numberTailEnd_place hascii h (length_lt_size (tail_suffix h))
    rw [if_pos hc, if_pos hc, bind_ok (m := size) rfl, bind_ok htail]
    rfl
  · rw [if_neg hc, if_neg hc]
    rfl

theorem unsignedEnd_place_nil : unsignedEnd (place text []) text p = .ok (.ok none, p) := by
  rw [unsignedEnd, bind_ok (byteAt?_place List.nil_suffix)]
  rfl

/-- **A scan finds the end of a number where the reader does.** -/
theorem numberEnd_place (h : s <:+ text.toList) :
    numberEnd (place text s) text p =
      .ok (.ok ((Literal.scanNumber s).map fun r => place text r.2), p) := by
  rw [numberEnd, bind_ok (byteAt?_place h), head?_bytes_beq (by decide)]
  cases s with
  | nil => exact unsignedEnd_place_nil
  | cons c s =>
    have hs := tail_suffix h
    by_cases hsign : c = '-'
    · subst hsign
      rw [if_pos (by rfl), place_cons_of_lt h (by decide)]
      cases s with
      | nil => exact unsignedEnd_place_nil
      | cons d s =>
        rw [unsignedEnd_place_cons hs, Literal.scanNumber]
        by_cases hd : d.isDigit = true
        · rw [if_pos hd, if_pos hd]
          rfl
        · rw [if_neg hd, if_neg hd]
          rfl
    · have hhead : ((c :: s).head? == some '-') = false := by simpa using hsign
      rw [hhead, if_neg Bool.false_ne_true, unsignedEnd_place_cons h, Literal.scanNumber]
      · by_cases hc : c.isDigit = true
        · rw [if_pos hc, if_pos hc]
          rfl
        · rw [if_neg hc, if_neg hc]
          rfl
      · intro d t hc
        exact absurd hc hsign

/-! ## Strings -/

section Strings

variable {quoteMark : Char} {escaped simple : Bool} {i : Nat}

theorem stringEndWithin_step {b : UInt8} (h : text.toUTF8[i]? = some b) :
    stringEndWithin quoteMark (fuel + 1) i escaped simple text p =
      (if escaped then stringEndWithin quoteMark fuel (i + 1) false simple
        else if b == ascii '\\' then stringEndWithin quoteMark fuel (i + 1) true false
        else if b == ascii quoteMark then pure (some (i + 1, simple))
        else stringEndWithin quoteMark fuel (i + 1) false simple) text p := by
  have hi : i < text.utf8ByteSize := by
    by_contra hle
    rw [getElem?_neg text.toUTF8 i (by simpa [String.size_toByteArray] using hle)] at h
    cases h
  have hoption : byteAt? i text p = .ok (.ok (some b), p) := by rw [byteAt?, h]
  have hbyte : byteAt i text p = .ok (.ok b, p) := by
    rw [byteAt, bind_ok hoption]
    rfl
  rw [stringEndWithin, bind_ok (m := size) rfl, if_pos hi, bind_ok hbyte]

theorem wide_ne {b : UInt8} (hb : 128 ≤ b.toNat) (hc : c.toNat < 128) : (b == ascii c) = false := by
  refine beq_eq_false_iff_ne.2 fun h => ?_
  rw [h, toNat_ascii hc] at hb
  omega

/-- Bytes beyond ASCII are passed over: they are neither a quote nor a backslash. -/
theorem stringEndWithin_wide (hquote : quoteMark.toNat < 128) {l : List UInt8}
    (hbytes : ∀ k, k < l.length → text.toUTF8[i + k]? = l[k]?)
    (hwide : ∀ b ∈ l, 128 ≤ b.toNat) :
    stringEndWithin quoteMark (fuel + l.length) i false simple text p =
      stringEndWithin quoteMark fuel (i + l.length) false simple text p := by
  induction l generalizing i with
  | nil => rfl
  | cons b l ih =>
    obtain ⟨hb, hl⟩ := List.forall_mem_cons.1 hwide
    have hrest : ∀ k, k < l.length → text.toUTF8[i + 1 + k]? = l[k]? := by
      intro k hk
      rw [Nat.add_assoc, Nat.add_comm 1 k]
      exact hbytes (k + 1) (Nat.succ_lt_succ hk)
    have hfirst : text.toUTF8[i]? = some b := hbytes 0 (Nat.succ_pos _)
    rw [List.length_cons, ← Nat.add_assoc, stringEndWithin_step hfirst, wide_ne hb (by decide),
      wide_ne hb hquote]
    simp only [Bool.false_eq_true, if_false]
    rw [ih hrest hl, Nat.add_assoc, Nat.add_comm 1]

/-- A character behind a backslash is passed over, as is one that is neither it nor a quote. -/
theorem stringEndWithin_char (hquote : quoteMark.toNat < 128) (h : c :: s <:+ text.toList)
    (hc : escaped = true ∨ (c ≠ '\\' ∧ c ≠ quoteMark)) :
    stringEndWithin quoteMark (fuel + c.utf8Size) (place text (c :: s)) escaped simple text p =
      stringEndWithin quoteMark fuel (place text s) false simple text p := by
  obtain ⟨b, l, hbytes⟩ := List.exists_cons_of_ne_nil (String.utf8EncodeChar_ne_nil (c := c))
  have hlength : c.utf8Size = l.length + 1 := by
    rw [← String.length_utf8EncodeChar, hbytes, List.length_cons]
  have hrest : ∀ k, k < l.length → text.toUTF8[place text (c :: s) + 1 + k]? = l[k]? := by
    intro k hk
    rw [Nat.add_assoc, getElem?_place h, bytes_cons, hbytes, Nat.add_comm 1 k, List.cons_append,
      List.getElem?_cons_succ, List.getElem?_append_left hk]
  have hwide : ∀ b ∈ l, 128 ≤ b.toNat := by
    intro b hb
    refine le_of_mem_encodeChar (c := c) ?_ (hbytes ▸ List.mem_cons_of_mem _ hb)
    by_contra hc
    rw [utf8Size_of_lt (Nat.lt_of_not_le hc)] at hlength
    rw [List.length_eq_zero_iff.1 (Nat.succ.inj hlength).symm] at hb
    cases hb
  -- Only the first byte is looked at with the backslash in front; the others are above ASCII.
  have hpass :
      stringEndWithin quoteMark (fuel + l.length + 1) (place text (c :: s)) escaped simple text p =
        stringEndWithin quoteMark (fuel + l.length) (place text (c :: s) + 1) false simple
          text p := by
    rw [stringEndWithin_step (getElem?_place_cons h), peekByte_cons_beq (by decide),
      peekByte_cons_beq hquote]
    rcases hc with rfl | ⟨hslash, hne⟩
    · rfl
    · rw [decide_eq_false hslash, decide_eq_false hne]
      cases escaped <;> rfl
  rw [hlength, ← Nat.add_assoc, hpass, stringEndWithin_wide hquote hrest hwide, Nat.add_assoc,
    Nat.add_comm 1, ← hlength, ← place_cons h]

theorem stringEndWithin_nil :
    stringEndWithin quoteMark (fuel + 1) (place text []) escaped simple text p =
      .ok (.ok none, p) := by
  rw [stringEndWithin, bind_ok (m := size) rfl, place_nil, if_neg (Nat.lt_irrefl _)]
  rfl

theorem stringEndWithin_backslash (h : '\\' :: s <:+ text.toList) :
    stringEndWithin quoteMark (fuel + 1) (place text ('\\' :: s)) false simple text p =
      stringEndWithin quoteMark fuel (place text s) true false text p := by
  rw [stringEndWithin_step (getElem?_place_cons h), place_cons_of_lt h (by decide)]
  rfl

theorem stringEndWithin_quote (hquote : quoteMark.toNat < 128) (hslash : quoteMark ≠ '\\')
    (h : quoteMark :: s <:+ text.toList) :
    stringEndWithin quoteMark (fuel + 1) (place text (quoteMark :: s)) false simple text p =
      .ok (.ok (some (place text s, simple)), p) := by
  rw [stringEndWithin_step (getElem?_place_cons h), place_cons_of_lt h hquote,
    peekByte_cons_beq (by decide), peekByte_cons_beq hquote, decide_eq_false hslash,
    decide_eq_true rfl]
  rfl

/-- **A scan finds the end of a string where the reader does**, and tells whether its inside holds a
backslash. -/
theorem stringEndWithin_place (hascii : quoteMark.toNat < 128) (hmark : quoteMark ≠ '\\')
    (h : s <:+ text.toList) (hfuel : byteLength s < fuel) :
    stringEndWithin quoteMark fuel (place text s) false simple text p =
      .ok (.ok ((Literal.closeQuote quoteMark s).map fun r =>
        (place text r.2, simple && !r.1.contains '\\')), p) := by
  -- The reader takes a backslash and the character behind it in one step, the scan byte by byte.
  fun_induction Literal.closeQuote quoteMark s generalizing fuel simple with
  | case1 =>
    obtain ⟨fuel, rfl⟩ := Nat.exists_eq_add_one.2 hfuel
    exact stringEndWithin_nil
  | case2 =>
    obtain ⟨fuel, rfl⟩ : ∃ n, fuel = n + 1 + 1 := ⟨fuel - 2, by
      have hlong : 1 < fuel := hfuel
      omega⟩
    rw [stringEndWithin_backslash h]
    exact stringEndWithin_nil
  | case3 d s ih =>
    rw [byteLength_cons, byteLength_cons, utf8Size_of_lt (by decide)] at hfuel
    obtain ⟨fuel, rfl⟩ : ∃ n, fuel = n + d.utf8Size + 1 := ⟨fuel - 1 - d.utf8Size, by omega⟩
    rw [stringEndWithin_backslash h, stringEndWithin_char hascii (tail_suffix h) (.inl rfl),
      ih (tail_suffix (tail_suffix h)) (by omega), Option.map_map]
    simp [Function.comp_def]
  | case4 s hs =>
    obtain ⟨fuel, rfl⟩ := Nat.exists_eq_add_one.2 (Nat.zero_lt_of_lt hfuel)
    rw [stringEndWithin_quote hascii hmark h]
    simp
  | case5 c s hslash hquote ih =>
    rw [byteLength_cons] at hfuel
    obtain ⟨fuel, rfl⟩ : ∃ n, fuel = n + c.utf8Size := ⟨fuel - c.utf8Size, by omega⟩
    rw [stringEndWithin_char hascii h (.inr ⟨hslash, hquote⟩), ih (tail_suffix h) (by omega),
      Option.map_map]
    simp [Function.comp_def, Ne.symm hslash]

/-- What a scan gives for what is read between quotes. -/
theorem string_place (hascii : quoteMark.toNat < 128) (hmark : quoteMark ≠ '\\')
    (h : s <:+ text.toList) :
    string quoteMark (place text s) text p =
      .ok (((Literal.string quoteMark s).map fun r => (r.1, place text r.2)).mapError
        fun f => f.problem.text, p) := by
  rw [string, bind_ok (byteAt?_place h), head?_bytes_beq hascii]
  cases s with
  | nil => rfl
  | cons c s =>
    have hs := tail_suffix h
    by_cases hc : c = quoteMark
    · subst hc
      have hend : stringEndWithin c (text.utf8ByteSize + 1) (place text (c :: s) + 1) false true
          text p = .ok (.ok ((Literal.closeQuote c s).map fun r =>
            (place text r.2, !r.1.contains '\\')), p) := by
        rw [place_cons_of_lt h hascii]
        exact stringEndWithin_place hascii hmark hs (Nat.lt_succ_of_le (byteLength_le_size hs))
      rw [if_pos (by simp), bind_ok (m := size) rfl, bind_ok hend]
      cases hclose : Literal.closeQuote c s with
      | none =>
        have hread : Literal.string c (c :: s) = fault (c :: s) .unclosedString := by
          unfold Literal.string
          simp only [ne_eq, not_true_eq_false, if_false, hclose]
        rw [hread]
        rfl
      | some found =>
        obtain ⟨inner, rest⟩ := found
        have hread : Literal.string c (c :: s) =
            ((Literal.contents c inner).mapError (Fault.mk (c :: s))).map fun cs =>
              (String.ofList cs, rest) := by
          unfold Literal.string
          simp only [ne_eq, not_true_eq_false, if_false, hclose]
          cases Literal.contents c inner <;> rfl
        have hsplit := Literal.closeQuote_append hclose
        have hslice : slice (place text (c :: s) + 1) (place text rest - 1) text p =
            .ok (.ok (String.ofList inner), p) := by
          have hrest : c :: rest <:+ text.toList := by
            rw [hsplit] at hs
            exact (List.suffix_append inner _).trans hs
          rw [place_cons_of_lt h hascii, ← place_cons_of_lt hrest hascii, Nat.add_sub_cancel,
            hsplit]
          exact slice_place (hsplit ▸ hs)
        show (slice (place text (c :: s) + 1) (place text rest - 1) >>= _) text p = _
        rw [bind_ok hslice, String.toList_ofList]
        by_cases hslash : inner.contains '\\' = true
        · rw [hslash, if_neg (by decide), hread]
          cases Literal.contents c inner <;> rfl
        · have hplain : Literal.contents c inner = .ok inner := by
            rw [Literal.contents, if_pos (by simpa using hslash)]
          rw [if_pos (by simpa using hslash), hread]
          simp only [hplain]
          rfl
    · have hread : Literal.string quoteMark (c :: s) = fault (c :: s) .notString := if_pos hc
      rw [if_neg (by simpa using hc), hread]
      rfl

end Strings

end DocQuery.Scan
