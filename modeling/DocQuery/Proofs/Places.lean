import DocQuery.Proofs.LiteralGrammar
import DocQuery.Text.Bytes
import DocQuery.Text.Scan

/-!
# Places in a text

What is left of a text starts at a place, counted in bytes. Such places are the boundaries between
characters; there the bytes are those of what is left, so a scan sees the character that stands next
by its first byte and moves from place to place as a reader of characters moves along what is left.

* `place` — where in a text what is left of it starts; `isBoundary_iff` — these are the boundaries.
* `peekByte` — the byte a scan sees there, `shownByte_peekByte`, `beq_ascii_peekByte` — and what it
  tells of the character.
* `Scan.moveTo_place`, `Scan.accept_place_cons`, `Scan.skipGaps_place` — moving from place to place.
* `Scan.slice_place`, `Scan.startsWith_place` — the text at a place.
-/

set_option autoImplicit false

namespace DocQuery

/-- Where in a text what is left of it starts. -/
def place (text : String) (s : List Char) : Nat := text.utf8ByteSize - byteLength s

variable {text : String} {s r w : List Char} {c : Char}

/-! ## Lengths -/

theorem byteLength_cons (c : Char) (s : List Char) :
    byteLength (c :: s) = c.utf8Size + byteLength s := rfl

theorem byteLength_toList (text : String) : byteLength text.toList = text.utf8ByteSize := by
  rw [← length_bytes, ← List.size_toByteArray, bytes_toList]
  exact String.size_toByteArray

theorem length_le_byteLength (s : List Char) : s.length ≤ byteLength s := by
  induction s with
  | nil => exact Nat.le_refl 0
  | cons c s ih =>
    have hc := c.utf8Size_pos
    rw [List.length_cons, byteLength_cons]
    omega

theorem utf8Size_of_lt (h : c.toNat < 128) : c.utf8Size = 1 := by
  rw [← String.length_utf8EncodeChar, encodeChar_of_lt h]
  rfl

theorem byteLength_le_size (h : s <:+ text.toList) : byteLength s ≤ text.utf8ByteSize :=
  byteLength_toList text ▸ byteLength_le_of_suffix h

/-! ## Places -/

theorem place_toList (text : String) : place text text.toList = 0 := by
  rw [place, byteLength_toList, Nat.sub_self]

theorem place_nil (text : String) : place text [] = text.utf8ByteSize := rfl

theorem place_le (text : String) (s : List Char) : place text s ≤ text.utf8ByteSize :=
  Nat.sub_le _ _

theorem place_append (h : w ++ s <:+ text.toList) :
    place text s = place text (w ++ s) + byteLength w := by
  have hsize := byteLength_le_size h
  rw [byteLength_append] at hsize
  rw [place, place, byteLength_append]
  omega

theorem place_cons (h : c :: s <:+ text.toList) :
    place text s = place text (c :: s) + c.utf8Size := by
  have hsize := byteLength_le_size h
  rw [byteLength_cons] at hsize
  rw [place, place, byteLength_cons]
  omega

theorem place_cons_of_lt (h : c :: s <:+ text.toList) (hc : c.toNat < 128) :
    place text (c :: s) + 1 = place text s := by
  rw [place_cons h, utf8Size_of_lt hc]

theorem place_lt (h : c :: s <:+ text.toList) : place text (c :: s) < text.utf8ByteSize := by
  have hnext := place_cons h
  have hsize := place_le text s
  have hc := c.utf8Size_pos
  omega

theorem tail_suffix (h : c :: s <:+ r) : s <:+ r := (List.suffix_cons c s).trans h

/-- What stands in front of a place ends there. -/
theorem place_of_append {u : List Char} (h : text.toList = u ++ s) :
    place text s = byteLength u := by
  rw [place, ← byteLength_toList, h, byteLength_append, Nat.add_sub_cancel]

theorem rawEndPos_ofList (s : List Char) : (String.ofList s).rawEndPos = ⟨byteLength s⟩ := by
  rw [String.rawEndPos, ← byteLength_toList, String.toList_ofList]

/-- **The boundaries of a text are the places of what may be left of it.** -/
theorem isBoundary_iff {p : Nat} :
    Scan.isBoundary text p = true ↔ ∃ s, s <:+ text.toList ∧ p = place text s := by
  rw [Scan.isBoundary, String.Pos.Raw.isValid_eq_true_iff,
    String.Pos.Raw.isValid_iff_exists_append]
  constructor
  · rintro ⟨t, u, htext, hp⟩
    have hlist : text.toList = t.toList ++ u.toList := by rw [htext, String.toList_append]
    refine ⟨u.toList, ⟨t.toList, hlist.symm⟩, ?_⟩
    rw [place_of_append hlist, byteLength_toList]
    exact congrArg String.Pos.Raw.byteIdx hp
  · rintro ⟨s, ⟨u, hlist⟩, rfl⟩
    refine ⟨String.ofList u, String.ofList s, ?_, ?_⟩
    · rw [← String.ofList_append, hlist, String.ofList_toList]
    · rw [place_of_append hlist.symm, rawEndPos_ofList]

theorem isBoundary_place (h : s <:+ text.toList) :
    Scan.isBoundary text (place text s) = true :=
  isBoundary_iff.2 ⟨s, h, rfl⟩

/-! ## Bytes at a place -/

theorem getElem?_toByteArray (l : List UInt8) (i : Nat) : l.toByteArray[i]? = l[i]? := by
  simp [getElem?_def, List.getElem_toByteArray]

/-- The bytes from a place on are those of what is left. -/
theorem getElem?_place (h : s <:+ text.toList) (i : Nat) :
    text.toUTF8[place text s + i]? = (bytes s)[i]? := by
  obtain ⟨u, hlist⟩ := h
  rw [← bytes_toList, getElem?_toByteArray, ← hlist, bytes_append, place_of_append hlist.symm,
    ← length_bytes, List.getElem?_append_right (by omega), Nat.add_sub_cancel_left]

/-- The byte that stands next, zero at the end. -/
def peekByte (s : List Char) : UInt8 := (bytes s).head?.getD 0

theorem getElem?_place_zero (h : s <:+ text.toList) :
    text.toUTF8[place text s]? = (bytes s).head? := by
  rw [← Nat.add_zero (place text s), getElem?_place h, List.head?_eq_getElem?]

theorem head?_bytes_of_lt (h : c.toNat < 128) (s : List Char) :
    (bytes (c :: s)).head? = some (Scan.ascii c) := by
  rw [bytes_cons, encodeChar_of_lt h]
  rfl

theorem head?_bytes_of_le (h : 128 ≤ c.toNat) (s : List Char) :
    ∃ b, (bytes (c :: s)).head? = some b ∧ 128 ≤ b.toNat := by
  obtain ⟨b, bs, hb⟩ := List.exists_cons_of_ne_nil (String.utf8EncodeChar_ne_nil (c := c))
  refine ⟨b, by rw [bytes_cons, hb]; rfl, le_of_mem_encodeChar h (c := c) ?_⟩
  rw [hb]
  exact List.mem_cons_self

theorem toNat_ascii (h : c.toNat < 128) : (Scan.ascii c).toNat = c.toNat := by
  rw [Scan.ascii, UInt8.toNat_ofNat']
  omega

theorem ascii_inj {d : Char} (hc : c.toNat < 128) (hd : d.toNat < 128)
    (h : Scan.ascii c = Scan.ascii d) : c = d := by
  have hnat := congrArg UInt8.toNat h
  rw [toNat_ascii hc, toNat_ascii hd] at hnat
  rw [← Char.ofNat_toNat c, hnat, Char.ofNat_toNat]

/-- The first byte tells an ASCII character. -/
theorem head?_bytes_beq (hc : c.toNat < 128) (s : List Char) :
    ((bytes s).head? == some (Scan.ascii c)) = (s.head? == some c) := by
  rw [Bool.eq_iff_iff, beq_iff_eq, beq_iff_eq]
  cases s with
  | nil => simp
  | cons d s =>
    rw [List.head?_cons, Option.some_inj]
    by_cases hd : d.toNat < 128
    · rw [head?_bytes_of_lt hd, Option.some_inj]
      exact ⟨ascii_inj hd hc, fun h => h ▸ rfl⟩
    · -- The first byte of any other character is above ASCII.
      obtain ⟨b, hb, hle⟩ := head?_bytes_of_le (Nat.not_lt.1 hd) s
      rw [hb, Option.some_inj]
      constructor
      · rintro rfl
        rw [toNat_ascii hc] at hle
        omega
      · rintro rfl
        exact absurd hc hd

/-- The first byte tells a kind of ASCII characters. -/
theorem head?_bytes_any {kind : Char → Bool} (hkind : ∀ c, kind c = true → c.toNat < 128)
    (s : List Char) : (bytes s).head?.any (Scan.isAscii kind) = s.head?.any kind := by
  cases s with
  | nil => rfl
  | cons d s =>
    rw [List.head?_cons, Option.any_some]
    by_cases hd : d.toNat < 128
    · rw [head?_bytes_of_lt hd, Option.any_some, Scan.isAscii, toNat_ascii hd, decide_eq_true hd,
        Bool.true_and, Char.ofNat_toNat]
    · obtain ⟨b, hb, hle⟩ := head?_bytes_of_le (Nat.not_lt.1 hd) s
      have hfalse : kind d = false := Bool.eq_false_iff.2 fun h => hd (hkind d h)
      rw [hb, Option.any_some, Scan.isAscii, decide_eq_false (Nat.not_lt.2 hle), Bool.false_and,
        hfalse]

theorem beq_ascii_peekByte (hpos : 0 < c.toNat) (hc : c.toNat < 128) (s : List Char) :
    (peekByte s == Scan.ascii c) = (s.head? == some c) := by
  rw [← head?_bytes_beq hc, peekByte]
  cases hhead : (bytes s).head? with
  | some b => rfl
  | none =>
    have hne : (0 : UInt8) ≠ Scan.ascii c := by
      intro h
      have hnat := congrArg UInt8.toNat h
      rw [toNat_ascii hc] at hnat
      exact absurd hnat (by simpa using hpos.ne)
    simpa using hne

theorem isAscii_peekByte {kind : Char → Bool} (hzero : kind '\x00' = false)
    (hkind : ∀ c, kind c = true → c.toNat < 128) (s : List Char) :
    Scan.isAscii kind (peekByte s) = s.head?.any kind := by
  rw [← head?_bytes_any hkind, peekByte]
  cases hhead : (bytes s).head? with
  | some b => rfl
  | none => simpa [Scan.isAscii] using hzero

/-- A message shows a character by its first byte. -/
theorem ofNat_peekByte (c : Char) (s : List Char) :
    Char.ofNat (peekByte (c :: s)).toNat = firstByte c := by
  have hlt : c.val.toNat < 0x110000 := toNat_lt c
  have hchar : Char.ofNat c.val.toNat = c := Char.ofNat_toNat c
  have hval : c.toNat = c.val.toNat := rfl
  rw [peekByte, bytes_cons, String.utf8EncodeChar.eq_1]
  simp only [firstByte, hval]
  generalize c.val.toNat = n at *
  subst hchar
  repeat' split
  all_goals
    simp only [List.cons_append, List.head?_cons, Option.getD_some, UInt8.toNat_ofNat']
    congr 1
    omega

theorem shownByte_peekByte (s : List Char) :
    Scan.shownByte (peekByte s) = shownNext s.head? := by
  cases s with
  | nil => rfl
  | cons c s =>
    have hzero : peekByte (c :: s) = 0 ↔ c = '\x00' := by
      by_cases hc : c.toNat < 128
      · rw [peekByte, head?_bytes_of_lt hc, Option.getD_some]
        exact ⟨ascii_inj (d := '\x00') hc (by decide), fun h => h ▸ rfl⟩
      · obtain ⟨b, hb, hle⟩ := head?_bytes_of_le (Nat.not_lt.1 hc) s
        rw [peekByte, hb, Option.getD_some]
        constructor
        · rintro rfl
          exact absurd hle (by decide)
        · rintro rfl
          exact absurd (by decide) hc
    simp only [Scan.shownByte, List.head?_cons, shownNext, hzero, ofNat_peekByte]

/-! ## Moving from place to place -/

namespace Scan

variable {α β : Type} {m : Scan α} {k : α → Scan β} {p : Nat}

theorem bind_apply : (m >>= k) text p =
    match m text p with
    | .ok (.ok a, q) => k a text q
    | .ok (.error message, q) => .ok (.error message, q)
    | .error b => .error b := rfl

theorem bind_ok {a : α} {q : Nat} (h : m text p = .ok (.ok a, q)) :
    (m >>= k) text p = k a text q := by
  rw [bind_apply, h]

theorem bind_error {message : String} {q : Nat} (h : m text p = .ok (.error message, q)) :
    (m >>= k) text p = .ok (.error message, q) := by
  rw [bind_apply, h]

theorem byteAt?_place (h : s <:+ text.toList) :
    byteAt? (place text s) text p = .ok (.ok (bytes s).head?, p) := by
  rw [byteAt?, getElem?_place_zero h]

theorem peek_place (h : s <:+ text.toList) :
    peek text (place text s) = .ok (.ok (peekByte s), place text s) := by
  show (byteAt? (place text s) >>= fun b => pure (b.getD 0)) text (place text s) = _
  rw [bind_ok (byteAt?_place h)]
  rfl

theorem more_apply : more text p = .ok (.ok (decide (p < text.utf8ByteSize)), p) := rfl

theorem more_place (h : s <:+ text.toList) :
    more text (place text s) = .ok (.ok !s.isEmpty, place text s) := by
  rw [more_apply]
  cases s with
  | nil => rw [place_nil, decide_eq_false (Nat.lt_irrefl _)]; rfl
  | cons c s => rw [decide_eq_true (place_lt h)]; rfl

theorem moveTo_place (h : s <:+ text.toList) :
    moveTo (place text s) text p = .ok (.ok (), place text s) := by
  rw [moveTo, if_pos (isBoundary_place h)]

/-- A step over an ASCII character. -/
theorem moveTo_next (h : c :: s <:+ text.toList) (hc : c.toNat < 128) :
    moveTo (place text (c :: s) + 1) text p = .ok (.ok (), place text s) := by
  rw [place_cons_of_lt h hc]
  exact moveTo_place (tail_suffix h)

/-- A step over a word. -/
theorem moveTo_behind {k : Nat} (h : w ++ s <:+ text.toList) (hk : byteLength w = k) :
    moveTo (place text (w ++ s) + k) text p = .ok (.ok (), place text s) := by
  rw [← hk, ← place_append h]
  exact moveTo_place ((List.suffix_append w s).trans h)

section Accepting

variable (hpos : 0 < c.toNat) (hc : c.toNat < 128)

include hpos hc

theorem accept_place_cons (h : c :: s <:+ text.toList) :
    accept c text (place text (c :: s)) = .ok (.ok true, place text s) := by
  have hpeek : (peekByte (c :: s) == ascii c) = true := by
    rw [beq_ascii_peekByte hpos hc, List.head?_cons, beq_self_eq_true]
  unfold accept
  rw [bind_ok (more_place h), bind_ok (peek_place h), hpeek]
  show (moveTo (place text (c :: s) + 1) >>= fun _ => pure true) text (place text (c :: s)) = _
  rw [bind_ok (moveTo_next h hc)]
  rfl

theorem accept_place_of_ne (h : s <:+ text.toList) (hs : s.head? ≠ some c) :
    accept c text (place text s) = .ok (.ok false, place text s) := by
  have hpeek : (peekByte s == ascii c) = false := by
    rw [beq_ascii_peekByte hpos hc]
    exact beq_eq_false_iff_ne.2 hs
  unfold accept
  rw [bind_ok (more_place h), bind_ok (peek_place h), hpeek, Bool.and_false]
  rfl

end Accepting

theorem isGap_lt (c : Char) (h : isGap c = true) : c.toNat < 128 := by
  rcases Grammar.isGap_cases h with rfl | rfl | rfl | rfl <;> decide

/-- One turn for each blank, and one to see that no more follow. -/
theorem skipGapsWithin_place (h : s <:+ text.toList) {fuel : Nat} (hfuel : s.length < fuel) :
    skipGapsWithin fuel text (place text s) = .ok (.ok (), place text (skipBlanks s)) := by
  induction s generalizing fuel with
  | nil =>
    obtain ⟨fuel, rfl⟩ := Nat.exists_eq_add_one.2 hfuel
    rw [skipGapsWithin, bind_ok (peek_place h)]
    rfl
  | cons c s ih =>
    obtain ⟨fuel, rfl⟩ := Nat.exists_eq_add_one.2 (Nat.zero_lt_of_lt hfuel)
    have hpeek : isAscii isGap (peekByte (c :: s)) = isGap c := by
      rw [isAscii_peekByte rfl isGap_lt]
      rfl
    rw [skipGapsWithin, bind_ok (peek_place h), hpeek]
    by_cases hgap : isGap c = true
    · have hskip : skipBlanks (c :: s) = skipBlanks s := List.dropWhile_cons_of_pos hgap
      rw [if_pos hgap, hskip]
      show (moveTo (place text (c :: s) + 1) >>= fun _ => skipGapsWithin fuel) text _ = _
      rw [bind_ok (moveTo_next h (isGap_lt c hgap))]
      exact ih (tail_suffix h) (Nat.lt_of_succ_lt_succ hfuel)
    · have hskip : skipBlanks (c :: s) = c :: s := List.dropWhile_cons_of_neg hgap
      rw [if_neg hgap, hskip]
      rfl

/-- No suffix of a text is longer than the text has bytes. -/
theorem length_lt_size (h : s <:+ text.toList) : s.length < text.utf8ByteSize + 1 :=
  Nat.lt_succ_of_le ((length_le_byteLength s).trans (byteLength_le_size h))

theorem skipGaps_place (h : s <:+ text.toList) :
    skipGaps text (place text s) = .ok (.ok (), place text (skipBlanks s)) :=
  skipGapsWithin_place h (length_lt_size h)

theorem slice_place (h : w ++ s <:+ text.toList) :
    slice (place text (w ++ s)) (place text s) text p = .ok (.ok (String.ofList w), p) := by
  have hs : s <:+ text.toList := (List.suffix_append w s).trans h
  obtain ⟨u, hlist⟩ := id h
  have hlen : ∀ l : List Char, String.utf8Len l = byteLength l := by
    intro l
    rw [← String.utf8ByteSize_ofList, ← byteLength_toList, String.toList_ofList]
  have htext : text = String.ofList (u ++ w ++ s) := by
    rw [List.append_assoc, hlist, String.ofList_toList]
  have hstop : place text s = byteLength u + byteLength w := by
    rw [place_append h, place_of_append hlist.symm]
  have hextract : String.Pos.Raw.extract text ⟨byteLength u⟩ ⟨byteLength u + byteLength w⟩ =
      String.ofList w := by
    rw [htext, ← hlen, ← hlen]
    exact String.extract_of_valid u w s
  rw [slice, isBoundary_place h, isBoundary_place hs, hstop, place_of_append hlist.symm]
  simp only [Bool.not_true, Bool.false_eq_true, if_false]
  rw [if_neg (by omega), hextract]

theorem startsWith_place (h : s <:+ text.toList) (word : String) :
    startsWith word text (place text s) =
      .ok (.ok (word.toList.isPrefixOf s), place text s) := by
  have hslice : slice (place text s) text.utf8ByteSize text (place text s) =
      .ok (.ok (String.ofList s), place text s) := by
    have hwhole := slice_place (w := s) (s := []) (p := place text s) (by rwa [List.append_nil])
    rwa [List.append_nil] at hwhole
  show (slice (place text s) text.utf8ByteSize >>= fun rest =>
    pure (word.toList.isPrefixOf rest.toList)) text (place text s) = _
  rw [bind_ok hslice, String.toList_ofList]
  rfl

theorem startsWith_append {word : String} (h : word.toList ++ s <:+ text.toList) :
    startsWith word text (place text (word.toList ++ s)) =
      .ok (.ok true, place text (word.toList ++ s)) := by
  rw [startsWith_place h, List.isPrefixOf_iff_prefix.2 (List.prefix_append word.toList s)]

theorem startsWith_of_not {word : String} (h : s <:+ text.toList) (hword : ¬ word.toList <+: s) :
    startsWith word text (place text s) = .ok (.ok false, place text s) := by
  rw [startsWith_place h, Bool.eq_false_iff.2 fun hw => hword (List.isPrefixOf_iff_prefix.1 hw)]

end Scan

end DocQuery
