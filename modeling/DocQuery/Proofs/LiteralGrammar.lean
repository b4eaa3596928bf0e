import DocQuery.Predicate.Grammar
import DocQuery.Proofs.ValueText

/-!
# Strings and numbers against the grammar

A reader is sound when everything it reads is derived by its rule, and complete when it reads
everything that its rule derives. Scans go as far as the characters do, so completeness is asked for
in front of what may end a token: blanks, then a comma or a closing character.

* `Grammar.Sound`, `Grammar.Complete` — the two directions, for a reader and a rule.
* `Grammar.escapes_of_decode`, `Grammar.decode_of_escapes` — the escapes in strings.
* `Grammar.contents_eq_ok_iff`, `Grammar.string_eq_ok_iff` — strings between quotes of any kind.
* `Grammar.string_sound`, `Grammar.string_complete` — strings.
* `Grammar.decimalOfChars_sound`, `Grammar.decimalOfChars_complete` — numerals.
* `Grammar.number_sound`, `Grammar.number_complete` — numbers, from the scan to the nearest float.
-/

set_option autoImplicit false

namespace DocQuery.Grammar

/-- Behind blanks stands a comma or what closes a list. -/
def Ended (rest : List Char) : Prop := Delimited (skipBlanks rest)

section Readers

variable {ε α : Type}

/-- What is read has a text that the rule derives; the rest is left. -/
def Sound (read : Reader ε α) (R : List Char → α → Prop) : Prop :=
  ∀ ⦃s a rest⦄, read s = .ok (a, rest) → ∃ w, s = w ++ rest ∧ R w a

/-- A text that the rule derives, of at most `n` characters, is read up to its end. -/
def Complete (n : Nat) (read : Reader ε α) (R : List Char → α → Prop) : Prop :=
  ∀ ⦃w a⦄, R w a → w.length ≤ n → ∀ ⦃rest⦄, Ended rest → read (w ++ rest) = .ok (a, rest)

theorem expect_sound {c : Char} {problem : Option Char → ε} {s rest : List Char} {u : Unit}
    (h : expect c problem s = .ok (u, rest)) : s = c :: rest := by
  unfold expect at h
  split at h
  · split at h
    · rename_i hc
      rw [← (Prod.mk.inj (Except.ok.inj h)).2, hc]
    · cases h
  · cases h

end Readers

/-! ## Blanks -/

theorem isGap_cases {c : Char} (h : isGap c = true) :
    c = ' ' ∨ c = '\n' ∨ c = '\r' ∨ c = '\t' := by
  simpa [isGap, or_assoc] using h

theorem blanks_nil : Blanks [] := fun _ h => nomatch h

theorem Blanks.append {b b' : List Char} (h : Blanks b) (h' : Blanks b') : Blanks (b ++ b') :=
  List.forall_mem_append.2 ⟨h, h'⟩

theorem skipBlanks_append {b : List Char} (h : Blanks b) (s : List Char) :
    skipBlanks (b ++ s) = skipBlanks s :=
  List.dropWhile_append_of_pos h

theorem skipBlanks_append_of_solid {b s : List Char} (h : Blanks b) (hs : Solid s) :
    skipBlanks (b ++ s) = s := by
  rw [skipBlanks_append h, skipBlanks_of_solid hs]

theorem exists_blanks (s : List Char) : ∃ b, Blanks b ∧ s = b ++ skipBlanks s :=
  ⟨s.takeWhile isGap, fun _ h => List.mem_takeWhile_imp h, List.takeWhile_append_dropWhile.symm⟩

theorem Blanks.ended {b s : List Char} (h : Blanks b) (hs : Delimited s) : Ended (b ++ s) := by
  rw [Ended, skipBlanks_append_of_solid h hs.solid]
  exact hs

/-- What ends a token is no part of it. -/
theorem Ended.head {c : Char} {r : List Char} (h : Ended (c :: r)) :
    isGap c = true ∨ c = ',' ∨ Closes c := by
  by_cases hgap : isGap c = true
  · exact .inl hgap
  · obtain ⟨d, t, heq, hd⟩ := h
    rw [skipBlanks_of_solid ⟨c, r, rfl, Bool.not_eq_true _ ▸ hgap⟩] at heq
    rw [(List.cons.inj heq).1]
    exact .inr hd

/-! ## Runs of characters -/

/-- No character of a kind stands next. -/
def EndsRun (p : Char → Bool) (s : List Char) : Prop := ∀ c, s.head? = some c → p c = false

section Runs

variable {p : Char → Bool} {w s : List Char}

theorem endsRun_nil : EndsRun p [] := fun _ h => nomatch h

theorem endsRun_cons {c : Char} (h : p c = false) (s : List Char) : EndsRun p (c :: s) := by
  intro d hd
  rw [← Option.some.inj hd]
  exact h

theorem takeWhile_append_of_endsRun (hw : ∀ c ∈ w, p c = true) (hs : EndsRun p s) :
    (w ++ s).takeWhile p = w := by
  rw [List.takeWhile_append_of_pos hw]
  cases s with
  | nil => exact List.append_nil w
  | cons c r =>
    rw [List.takeWhile_cons_of_neg (by rw [hs c rfl]; exact Bool.false_ne_true), List.append_nil]

theorem dropWhile_append_of_endsRun (hw : ∀ c ∈ w, p c = true) (hs : EndsRun p s) :
    (w ++ s).dropWhile p = s := by
  rw [List.dropWhile_append_of_pos hw]
  cases s with
  | nil => rfl
  | cons c r => exact List.dropWhile_cons_of_neg (by rw [hs c rfl]; exact Bool.false_ne_true)

theorem exists_run (p : Char → Bool) (s : List Char) :
    ∃ w r, s = w ++ r ∧ (∀ c ∈ w, p c = true) ∧ EndsRun p r := by
  refine ⟨_, _, List.takeWhile_append_dropWhile.symm, fun _ h => List.mem_takeWhile_imp h, ?_⟩
  intro c h
  have hhead := List.head?_dropWhile_not p s
  rw [h] at hhead
  exact hhead

end Runs

/-! ## Strings -/

theorem hexValue_ne {c mark : Char} {n : Nat} (hmark : Quoted.hexValue mark = none)
    (h : Quoted.hexValue c = some n) : c ≠ mark := by
  rintro rfl
  rw [hmark] at h
  cases h

/-- What is no hexadecimal digit is none of four. -/
theorem hexNumber_ne {a b c d mark : Char} {n : Nat} (hmark : Quoted.hexValue mark = none)
    (h : Quoted.hexNumber a b c d = some n) : ∀ x ∈ [a, b, c, d], x ≠ mark := by
  unfold Quoted.hexNumber at h
  split at h
  · rename_i ha hb hc hd
    intro x hx
    simp only [List.mem_cons, List.not_mem_nil, or_false] at hx
    rcases hx with rfl | rfl | rfl | rfl
    · exact hexValue_ne hmark ha
    · exact hexValue_ne hmark hb
    · exact hexValue_ne hmark hc
    · exact hexValue_ne hmark hd
  · cases h

section Closing

variable {quoteMark : Char}

theorem closeQuote_append_of_ne {u : List Char} (h : ∀ x ∈ u, x ≠ '\\' ∧ x ≠ quoteMark)
    (s : List Char) :
    Literal.closeQuote quoteMark (u ++ s) =
      (Literal.closeQuote quoteMark s).map fun p => (u ++ p.1, p.2) := by
  induction u with
  | nil => simp
  | cons x u ih =>
    obtain ⟨⟨hslash, hquote⟩, hu⟩ := List.forall_mem_cons.1 h
    rw [List.cons_append, Literal.closeQuote_cons_of_ne hslash hquote, ih hu, Option.map_map]
    rfl

theorem closeQuote_escape (c : Char) (s : List Char) :
    Literal.closeQuote quoteMark ('\\' :: c :: s) =
      (Literal.closeQuote quoteMark s).map fun p => ('\\' :: c :: p.1, p.2) := by
  rw [Literal.closeQuote.eq_def]
  rfl

/-- Four digits behind a backslash do not end a string. -/
theorem closeQuote_unit {a b c d : Char} {n : Nat} (hmark : Quoted.hexValue quoteMark = none)
    (h : Quoted.hexNumber a b c d = some n) (s : List Char) :
    Literal.closeQuote quoteMark ('\\' :: 'u' :: a :: b :: c :: d :: s) =
      (Literal.closeQuote quoteMark s).map fun p =>
        ('\\' :: 'u' :: a :: b :: c :: d :: p.1, p.2) := by
  have hne : ∀ x ∈ [a, b, c, d], x ≠ '\\' ∧ x ≠ quoteMark := by
    intro x hx
    exact ⟨hexNumber_ne (by decide) h x hx, hexNumber_ne hmark h x hx⟩
  have hdigits := closeQuote_append_of_ne hne s
  rw [closeQuote_escape]
  show (Literal.closeQuote quoteMark ([a, b, c, d] ++ s)).map _ = _
  rw [hdigits, Option.map_map]
  rfl

theorem closeQuote_self (hslash : quoteMark ≠ '\\') (rest : List Char) :
    Literal.closeQuote quoteMark (quoteMark :: rest) = some ([], rest) := by
  rw [Literal.closeQuote.eq_def]
  simp only [if_neg hslash, if_true]

end Closing

/-- A string with escapes ends at the quote that stands after it. -/
theorem closeQuote_of_escapes {w s : List Char} (h : Escapes w s) (rest : List Char) :
    Literal.closeQuote '"' (w ++ '"' :: rest) = some (w, rest) := by
  induction h with
  | nil => exact closeQuote_self (by decide) rest
  | plain hslash hquote _ _ ih =>
    rw [List.cons_append, Literal.closeQuote_cons_of_ne hslash hquote, ih]
    rfl
  | letter _ _ ih =>
    rw [List.cons_append, List.cons_append, closeQuote_escape, ih]
    rfl
  | unit hdigits _ _ _ ih =>
    simp only [List.cons_append]
    rw [closeQuote_unit (by decide) hdigits, ih]
    rfl
  | pair hlead _ htrail _ _ ih =>
    simp only [List.cons_append]
    rw [closeQuote_unit (by decide) hlead, closeQuote_unit (by decide) htrail, ih]
    rfl

theorem isTrailing_of_isLeading {n : Nat} (h : Quoted.isLeading n = true) :
    Quoted.isTrailing n = false := by
  unfold Quoted.isLeading at h
  unfold Quoted.isTrailing
  simp only [Bool.and_eq_true, decide_eq_true_eq] at h
  simp only [Bool.and_eq_false_iff, decide_eq_false_iff_not]
  omega

/-- What is read between quotes is written with the escapes of the grammar. -/
theorem escapes_of_decode {w s : List Char} (h : Quoted.decode w = .ok s) : Escapes w s := by
  fun_induction Quoted.decode w generalizing s with
  | case1 =>
    rw [← Except.ok.inj h]
    exact .nil
  | case5 a b c d n hlead _ hleading e f g h' r m htrail htrailing ih =>
    obtain ⟨t, ht, rfl⟩ := map_eq_ok_iff.1 h
    exact .pair hlead hleading htrail htrailing (ih ht)
  | case10 a b c d r n hdigits htrailing hleading ih =>
    obtain ⟨t, ht, rfl⟩ := map_eq_ok_iff.1 h
    exact .unit hdigits (Bool.not_eq_true _ ▸ htrailing) (Bool.not_eq_true _ ▸ hleading) (ih ht)
  | case12 c r _ _ d hknown ih =>
    obtain ⟨t, ht, rfl⟩ := map_eq_ok_iff.1 h
    exact .letter hknown (ih ht)
  | case17 c r _ _ hslash hquote hprintable ih =>
    obtain ⟨t, ht, rfl⟩ := map_eq_ok_iff.1 h
    exact .plain hslash hquote (Nat.not_lt.1 hprintable) (ih ht)
  | _ => cases h

theorem decode_letter {c d : Char} (h : Quoted.escaped c = some d) (w : List Char) :
    Quoted.decode ('\\' :: c :: w) = Quoted.push d (Quoted.decode w) := by
  have hunit : Quoted.escaped 'u' = none := by decide
  have hne : c ≠ 'u' := by
    rintro rfl
    rw [hunit] at h
    cases h
  rw [Quoted.decode]
  · simp only [if_neg hne, h]
  · intro _ _ _ _ _ hc
    exact absurd hc hne

theorem decode_unit {a b c d : Char} {n : Nat} (h : Quoted.hexNumber a b c d = some n)
    (htrailing : Quoted.isTrailing n = false) (hleading : Quoted.isLeading n = false)
    (w : List Char) : Quoted.decode ('\\' :: 'u' :: a :: b :: c :: d :: w) =
      Quoted.push (Char.ofNat n) (Quoted.decode w) := by
  rw [Quoted.decode]
  simp only [h, htrailing, hleading, Bool.false_eq_true, if_false]

theorem decode_pair {a b c d e f g h : Char} {n m : Nat}
    (hlead : Quoted.hexNumber a b c d = some n) (hleading : Quoted.isLeading n = true)
    (htrail : Quoted.hexNumber e f g h = some m) (htrailing : Quoted.isTrailing m = true)
    (w : List Char) :
    Quoted.decode ('\\' :: 'u' :: a :: b :: c :: d :: '\\' :: 'u' :: e :: f :: g :: h :: w) =
      Quoted.push (Quoted.joinSurrogates n m) (Quoted.decode w) := by
  rw [Quoted.decode]
  simp only [hlead, isTrailing_of_isLeading hleading, hleading, htrail, htrailing,
    Bool.false_eq_true, if_false, if_true]

theorem decode_plain {c : Char} (hslash : c ≠ '\\') (hquote : c ≠ '"')
    (hprintable : 32 ≤ c.toNat) (w : List Char) :
    Quoted.decode (c :: w) = Quoted.push c (Quoted.decode w) := by
  rw [Quoted.decode]
  · simp only [if_neg hslash, if_neg hquote, if_neg (Nat.not_lt.2 hprintable)]
  · intro _ _ _ _ _ hc
    exact absurd hc hslash
  · intro _ _ hc
    exact absurd hc hslash

/-- What the escapes of the grammar stand for is read. -/
theorem decode_of_escapes {w s : List Char} (h : Escapes w s) : Quoted.decode w = .ok s := by
  induction h with
  | nil => rfl
  | plain hslash hquote hprintable _ ih =>
    rw [decode_plain hslash hquote hprintable, ih]
    rfl
  | letter hknown _ ih =>
    rw [decode_letter hknown, ih]
    rfl
  | unit hdigits htrailing hleading _ ih =>
    rw [decode_unit hdigits htrailing hleading, ih]
    rfl
  | pair hlead hleading htrail htrailing _ ih =>
    rw [decode_pair hlead hleading htrail htrailing, ih]
    rfl

theorem escapes_of_plain {w s : List Char} (h : Escapes w s) (hslash : '\\' ∉ w) : w = s := by
  induction h with
  | nil => rfl
  | plain _ _ _ _ ih => rw [ih fun hw => hslash (List.mem_cons_of_mem _ hw)]
  | letter | unit | pair => exact absurd List.mem_cons_self hslash

/-- What stands between quotes stands for itself, or has a backslash and is read with escapes. -/
theorem contents_eq_ok_iff {quoteMark : Char} {w s : List Char} :
    Literal.contents quoteMark w = .ok s ↔ ('\\' ∉ w ∧ s = w) ∨
      '\\' ∈ w ∧ Escapes (Literal.doubleQuoted quoteMark w) s := by
  unfold Literal.contents
  by_cases hslash : '\\' ∈ w
  · rw [if_neg (by simpa using hslash)]
    simp only [hslash, not_true_eq_false, false_and, true_and, false_or]
    constructor
    · intro h
      split at h
      · rename_i t ht
        rw [← Except.ok.inj h]
        exact escapes_of_decode ht
      · cases h
    · intro h
      rw [decode_of_escapes h]
  · rw [if_pos (by simpa using hslash)]
    simp only [hslash, not_false_eq_true, true_and, false_and, or_false]
    exact ⟨fun h => (Except.ok.inj h).symm, fun h => congrArg _ h.symm⟩

theorem contents_of_escapes {w s : List Char} (h : Escapes w s) :
    Literal.contents '"' w = .ok s := by
  by_cases hslash : '\\' ∈ w
  · exact contents_eq_ok_iff.2 (.inr ⟨hslash, h⟩)
  · exact contents_eq_ok_iff.2 (.inl ⟨hslash, (escapes_of_plain h hslash).symm⟩)

/-- A string without a backslash ends at its first quote. -/
theorem quote_not_mem_of_closeQuote {s inner rest : List Char}
    (h : Literal.closeQuote '"' s = some (inner, rest)) (hslash : '\\' ∉ inner) :
    '"' ∉ inner := by
  fun_induction Literal.closeQuote '"' s generalizing inner with
  | case1 => cases h
  | case2 => cases h
  | case3 d s ih =>
    obtain ⟨p, -, heq⟩ := Option.map_eq_some_iff.1 h
    rw [← (Prod.mk.inj heq).1] at hslash
    exact absurd List.mem_cons_self hslash
  | case4 s hs =>
    rw [← (Prod.mk.inj (Option.some.inj h)).1]
    exact List.not_mem_nil
  | case5 c s hs hquote ih =>
    obtain ⟨⟨i, r⟩, hp, heq⟩ := Option.map_eq_some_iff.1 h
    obtain ⟨rfl, rfl⟩ := Prod.mk.inj heq
    rw [List.mem_cons, not_or] at hslash ⊢
    exact ⟨fun hc => hquote hc.symm, ih hp hslash.2⟩

theorem closeQuote_plain {w : List Char} (hslash : '\\' ∉ w) (hquote : '"' ∉ w)
    (rest : List Char) : Literal.closeQuote '"' (w ++ '"' :: rest) = some (w, rest) := by
  have hne : ∀ x ∈ w, x ≠ '\\' ∧ x ≠ '"' := by
    intro x hx
    exact ⟨fun h => hslash (h ▸ hx), fun h => hquote (h ▸ hx)⟩
  rw [closeQuote_append_of_ne hne, closeQuote_self (by decide), Option.map_some, List.append_nil]

/-- A string is read up to the quote that closes it. -/
theorem string_eq_ok_iff {quoteMark : Char} {s rest : List Char} {a : String} :
    Literal.string quoteMark s = .ok (a, rest) ↔ ∃ r inner cs, s = quoteMark :: r ∧
      Literal.closeQuote quoteMark r = some (inner, rest) ∧
        Literal.contents quoteMark inner = .ok cs ∧ a = String.ofList cs := by
  constructor
  · intro h
    unfold Literal.string at h
    split at h
    · cases h
    rename_i c r
    split at h
    · cases h
    rename_i hc
    split at h
    · cases h
    rename_i inner rest' hclose
    split at h
    · rename_i cs hcontents
      obtain ⟨rfl, rfl⟩ := Prod.mk.inj (Except.ok.inj h)
      exact ⟨r, inner, cs, by rw [not_not.1 hc], hclose, hcontents, rfl⟩
    · cases h
  · rintro ⟨r, inner, cs, rfl, hclose, hcontents, rfl⟩
    unfold Literal.string
    simp only [ne_eq, not_true_eq_false, if_false, hclose, hcontents]

/-- **Strings are read soundly.** -/
theorem string_sound : Sound (Literal.string '"') StringText := by
  intro s a rest h
  obtain ⟨r, inner, cs, rfl, hclose, hcontents, rfl⟩ := string_eq_ok_iff.1 h
  refine ⟨'"' :: (inner ++ ['"']), ?_, ?_⟩
  · rw [Literal.closeQuote_append hclose]
    simp
  · rcases contents_eq_ok_iff.1 hcontents with ⟨hslash, rfl⟩ | ⟨-, hescapes⟩
    · exact .plain hslash (quote_not_mem_of_closeQuote hclose hslash)
    · exact .escaped hescapes

/-- **Every string is read**, whatever stands after it. -/
theorem string_complete {w : List Char} {s : String} (h : StringText w s) (rest : List Char) :
    Literal.string '"' (w ++ rest) = .ok (s, rest) := by
  cases h with
  | @plain w hslash hquote =>
    rw [List.cons_append, List.append_assoc]
    exact string_eq_ok_iff.2 ⟨_, w, w, rfl, closeQuote_plain hslash hquote rest,
      contents_eq_ok_iff.2 (.inl ⟨hslash, rfl⟩), rfl⟩
  | @escaped w s inside =>
    rw [List.cons_append, List.append_assoc]
    exact string_eq_ok_iff.2 ⟨_, w, s, rfl, closeQuote_of_escapes inside rest,
      contents_of_escapes inside, rfl⟩

/-! ## Numbers -/

theorem Digits.head {w : List Char} (h : Digits w) : ∃ c s, w = c :: s ∧ c.isDigit = true := by
  obtain ⟨c, s, rfl⟩ := List.exists_cons_of_ne_nil h.1
  exact ⟨c, s, rfl, h.2 c List.mem_cons_self⟩

theorem PowerText.endsRun {u : List Char} {power : Int} (h : PowerText u power) :
    EndsRun Char.isDigit u := by
  cases h with
  | absent => exact endsRun_nil
  | _ => exact endsRun_cons (by decide) _

theorem exponentOfChars_digits {w : List Char} (h : Digits w) :
    exponentOfChars w = some (numberOf w : Int) := by
  obtain ⟨c, s, rfl, hc⟩ := h.head
  unfold exponentOfChars
  split
  · rename_i heq
    rw [(List.cons.inj heq).1] at hc
    exact absurd hc (by decide)
  · rename_i heq
    rw [(List.cons.inj heq).1] at hc
    exact absurd hc (by decide)
  · exact if_pos ⟨h.1, List.all_eq_true.2 h.2⟩

/-- The power of ten after an `e`. -/
theorem exponentOfChars_iff {w : List Char} {power : Int} :
    exponentOfChars w = some power ↔ PowerText ('e' :: w) power := by
  constructor
  · intro h
    unfold exponentOfChars at h
    have hdigits : ∀ {s : List Char} {a b : Int},
        (if s ≠ [] ∧ s.all Char.isDigit = true then some a else none) = some b →
          Digits s ∧ a = b := by
      intro s a b h
      split at h
      · rename_i hs
        exact ⟨⟨hs.1, List.all_eq_true.1 hs.2⟩, Option.some.inj h⟩
      · cases h
    split at h
    · obtain ⟨hs, rfl⟩ := hdigits h
      exact .minus hs
    · obtain ⟨hs, rfl⟩ := hdigits h
      exact .plus hs
    · obtain ⟨hs, rfl⟩ := hdigits h
      exact .unsigned hs
  · intro h
    cases h with
    | unsigned digits => exact exponentOfChars_digits digits
    | plus digits => exact if_pos ⟨digits.1, List.all_eq_true.2 digits.2⟩
    | minus digits => exact if_pos ⟨digits.1, List.all_eq_true.2 digits.2⟩

/-- The power of ten that stands behind the digits of a numeral. -/
def powerOfChars : List Char → Option Int
  | [] => some 0
  | c :: r => if c = 'e' ∨ c = 'E' then exponentOfChars r else none

theorem powerOfChars_complete {u : List Char} {power : Int} (h : PowerText u power) :
    powerOfChars u = some power := by
  cases h with
  | absent => rfl
  | unsigned digits => exact exponentOfChars_iff.2 (.unsigned digits)
  | plus digits => exact exponentOfChars_iff.2 (.plus digits)
  | minus digits => exact exponentOfChars_iff.2 (.minus digits)

theorem powerOfChars_sound {u : List Char} {power : Int} (hletter : 'E' ∉ u)
    (h : powerOfChars u = some power) : PowerText u power := by
  cases u with
  | nil =>
    rw [← Option.some.inj h]
    exact .absent
  | cons c r =>
    obtain ⟨hc, h⟩ := Option.ite_none_right_eq_some.1 h
    rcases hc with rfl | rfl
    · exact exponentOfChars_iff.1 h
    · exact absurd List.mem_cons_self hletter

theorem map_powerOfChars_cons (decimal : Int → Decimal) (c : Char) (r : List Char) :
    (powerOfChars (c :: r)).map decimal =
      if c = 'e' ∨ c = 'E' then (exponentOfChars r).map decimal else none :=
  apply_ite (Option.map decimal) _ _ _

/-- What a numeral amounts to, its digits and what stands behind them being told apart. -/
theorem decimalOfChars_eq {whole w digits u : List Char} (hwhole : Digits whole)
    (hfraction : FractionText w digits) (hu : EndsRun Char.isDigit u)
    (hpoint : w = [] → u.head? ≠ some '.') :
    decimalOfChars (whole ++ (w ++ u)) = (powerOfChars u).map fun power =>
      ⟨numberOf (whole ++ digits), power - digits.length⟩ := by
  have hnext : EndsRun Char.isDigit (w ++ u) := by
    cases hfraction with
    | absent => exact hu
    | point all => exact endsRun_cons (by decide) _
  unfold decimalOfChars
  simp only [takeWhile_append_of_endsRun hwhole.2 hnext,
    dropWhile_append_of_endsRun hwhole.2 hnext, hwhole.1, false_and, if_false]
  cases hfraction with
  | point all =>
    simp only [List.cons_append, takeWhile_append_of_endsRun all hu,
      dropWhile_append_of_endsRun all hu]
    cases u with
    | nil => rfl
    | cons c r => exact (map_powerOfChars_cons _ c r).symm
  | absent =>
    cases u with
    | nil => rfl
    | cons c r =>
      have hc : c ≠ '.' := fun hc => hpoint rfl (congrArg some hc)
      rw [map_powerOfChars_cons]
      simp [hc]

theorem decimalOfChars_complete {w : List Char} {x : Decimal} (h : DecimalText w x) :
    decimalOfChars w = some x := by
  obtain ⟨hwhole, hfraction, hpower⟩ := h
  have hpoint : ∀ {u : List Char} {power : Int}, PowerText u power → u.head? ≠ some '.' := by
    intro u power hpower
    cases hpower <;> simp
  rw [decimalOfChars_eq hwhole hfraction hpower.endsRun fun _ => hpoint hpower,
    powerOfChars_complete hpower, Option.map_some]

/-- A numeral without a capital letter is one of the grammar. -/
theorem decimalOfChars_sound {s : List Char} {x : Decimal}
    (hdigit : ∃ c r, s = c :: r ∧ c.isDigit = true) (hletter : 'E' ∉ s)
    (h : decimalOfChars s = some x) : DecimalText s x := by
  obtain ⟨whole, r, rfl, hwhole, hr⟩ := exists_run Char.isDigit s
  have hne : Digits whole := by
    refine ⟨?_, hwhole⟩
    rintro rfl
    obtain ⟨c, t, rfl, hc⟩ := hdigit
    rw [hr c rfl] at hc
    cases hc
  have hrest : ∃ w digits u, r = w ++ u ∧ FractionText w digits ∧
      EndsRun Char.isDigit u ∧ (w = [] → u.head? ≠ some '.') := by
    by_cases hpoint : r.head? = some '.'
    · cases r with
      | nil => cases hpoint
      | cons c r =>
        obtain rfl : c = '.' := Option.some.inj hpoint
        obtain ⟨digits, u, rfl, hdigits, hu⟩ := exists_run Char.isDigit r
        exact ⟨'.' :: digits, digits, u, rfl, .point hdigits, hu, fun h => nomatch h⟩
    · exact ⟨[], [], r, rfl, .absent, hr, fun _ => hpoint⟩
  obtain ⟨w, digits, u, rfl, hfraction, hu, hpoint⟩ := hrest
  rw [decimalOfChars_eq hne hfraction hu hpoint] at h
  obtain ⟨power, hpower, rfl⟩ := Option.map_eq_some_iff.1 h
  refine .intro hne hfraction (powerOfChars_sound ?_ hpower)
  exact fun hu => hletter (List.mem_append_right _ (List.mem_append_right _ hu))

/-! ### Signs and scans -/

theorem DecimalText.head {w : List Char} {x : Decimal} (h : DecimalText w x) :
    ∃ c s, w = c :: s ∧ c.isDigit = true := by
  obtain ⟨hwhole, -, -⟩ := h
  obtain ⟨c, s, rfl, hc⟩ := hwhole.head
  exact ⟨c, _, rfl, hc⟩

/-- Every character that a scan takes is a part of some numeral. -/
theorem scanTail_chars {previous : Char} {s : List Char} :
    ∀ c ∈ (Literal.scanTail previous s).1, c.isDigit = true ∨ c ∈ ['.', 'e', '-', '+'] := by
  induction s generalizing previous with
  | nil => exact List.forall_mem_nil _
  | cons d s ih =>
    rw [Literal.scanTail]
    split
    · rename_i hd
      refine List.forall_mem_cons.2 ⟨?_, ih⟩
      rcases hd with hd | rfl | rfl | ⟨rfl | rfl, -⟩
      · exact .inl hd
      all_goals exact .inr (by decide)
    · exact List.forall_mem_nil _

/-- A scan goes on through digits and points to an `e`. -/
theorem scanTail_through {previous : Char} {w : List Char}
    (hw : ∀ c ∈ w, c.isDigit = true ∨ c = '.') (s : List Char) :
    Literal.scanTail previous (w ++ 'e' :: s) =
      (w ++ 'e' :: (Literal.scanTail 'e' s).1, (Literal.scanTail 'e' s).2) := by
  induction w generalizing previous with
  | nil =>
    rw [List.nil_append, Literal.scanTail, if_pos (.inr (.inr (.inl rfl)))]
    rfl
  | cons c w ih =>
    obtain ⟨hc, hw⟩ := List.forall_mem_cons.1 hw
    rw [List.cons_append, Literal.scanTail, if_pos (hc.imp id .inl), ih hw]
    rfl

theorem scanTail_digits {previous : Char} {w rest : List Char} (hw : Digits w)
    (hrest : Literal.NumberEnds rest) : Literal.scanTail previous (w ++ rest) = (w, rest) := by
  obtain ⟨c, s, rfl, hc⟩ := hw.head
  have hne : c ≠ 'e' := by
    rintro rfl
    exact absurd hc (by decide)
  have htail : ∀ b ∈ s, b.isDigit = true ∨ b = '.' := by
    intro b hb
    exact .inl (hw.2 b (List.mem_cons_of_mem c hb))
  rw [List.cons_append, Literal.scanTail, if_pos (.inl hc), Literal.scanTail_eq hne htail hrest]

/-- A scan takes a whole power of ten. -/
theorem scanTail_power {previous : Char} {w u rest : List Char} {power : Int}
    (hprevious : previous ≠ 'e') (hw : ∀ c ∈ w, c.isDigit = true ∨ c = '.')
    (hu : PowerText u power) (hrest : Literal.NumberEnds rest) :
    Literal.scanTail previous (w ++ (u ++ rest)) = (w ++ u, rest) := by
  cases hu with
  | absent =>
    rw [List.nil_append, List.append_nil]
    exact Literal.scanTail_eq hprevious hw hrest
  | unsigned digits =>
    rw [List.cons_append, scanTail_through hw, scanTail_digits digits hrest]
  | plus digits =>
    rw [List.cons_append, List.cons_append, scanTail_through hw, Literal.scanTail,
      if_pos (.inr (.inr (.inr ⟨.inr rfl, rfl⟩))), scanTail_digits digits hrest]
  | minus digits =>
    rw [List.cons_append, List.cons_append, scanTail_through hw, Literal.scanTail,
      if_pos (.inr (.inr (.inr ⟨.inl rfl, rfl⟩))), scanTail_digits digits hrest]

/-- A scan takes a whole numeral. -/
theorem DecimalText.scan {w rest : List Char} {x : Decimal} (h : DecimalText w x)
    (hrest : Literal.NumberEnds rest) :
    ∃ c s, w = c :: s ∧ c.isDigit = true ∧ Literal.scanTail c (s ++ rest) = (s, rest) := by
  obtain ⟨hwhole, hfraction, hpower⟩ := h
  rename_i whole v digits u power
  obtain ⟨c, s, rfl, hc⟩ := hwhole.head
  have hne : c ≠ 'e' := by
    rintro rfl
    exact absurd hc (by decide)
  have htail : ∀ b ∈ s ++ v, b.isDigit = true ∨ b = '.' := by
    intro b hb
    rcases List.mem_append.1 hb with hb | hb
    · exact .inl (hwhole.2 b (List.mem_cons_of_mem c hb))
    · cases hfraction with
      | absent => cases hb
      | point all => exact (List.mem_cons.1 hb).symm.imp_left (all b)
  refine ⟨c, s ++ (v ++ u), rfl, hc, ?_⟩
  have hscan := scanTail_power hne htail hpower hrest
  rw [← List.append_assoc s v u, List.append_assoc (s ++ v) u rest]
  exact hscan

/-- What ends a token ends a number. -/
theorem Ended.numberEnds {rest : List Char} (h : Ended rest) : Literal.NumberEnds rest := by
  rintro c r rfl
  rcases h.head with hgap | rfl | rfl | rfl
  · rcases isGap_cases hgap with rfl | rfl | rfl | rfl <;> decide
  all_goals decide

/-- What is scanned is a digit and its tail, with a sign or without. -/
theorem exists_of_scanNumber {s text rest : List Char}
    (h : Literal.scanNumber s = some (text, rest)) :
    ∃ c t, c.isDigit = true ∧ 'E' ∉ c :: t ∧ (text = c :: t ∨ text = '-' :: c :: t) := by
  have hletter : ∀ {c : Char} {t : List Char}, c.isDigit = true →
      'E' ∉ c :: (Literal.scanTail c t).1 := by
    intro c t hc hmem
    rcases List.mem_cons.1 hmem with rfl | hmem
    · exact absurd hc (by decide)
    · exact absurd (scanTail_chars _ hmem) (by decide)
  unfold Literal.scanNumber at h
  split at h
  · obtain ⟨hc, h⟩ := Option.ite_none_right_eq_some.1 h
    exact ⟨_, _, hc, hletter hc, .inr (Prod.mk.inj (Option.some.inj h)).1.symm⟩
  · obtain ⟨hc, h⟩ := Option.ite_none_right_eq_some.1 h
    exact ⟨_, _, hc, hletter hc, .inl (Prod.mk.inj (Option.some.inj h)).1.symm⟩
  · cases h

/-- **Numbers are read soundly.** -/
theorem number_sound : Sound Literal.number NumberText := by
  intro s d rest h
  unfold Literal.number at h
  split at h
  · cases h
  rename_i text rest' hscan
  split at h
  · rename_i d' hvalue
    obtain ⟨rfl, rfl⟩ := Prod.mk.inj (Except.ok.inj h)
    refine ⟨text, Literal.scanNumber_append hscan, ?_⟩
    obtain ⟨c, t, hc, hletter, rfl | rfl⟩ := exists_of_scanNumber hscan
    · rw [Bound.ofChars_of_isDigit hc, Bound.ofUnsigned_of_isDigit hc] at hvalue
      obtain ⟨x, hx, hfinite⟩ := Option.map_eq_some_iff.1 hvalue
      exact .unsigned (decimalOfChars_sound ⟨c, t, rfl, hc⟩ hletter hx) hfinite
    · rw [show Bound.ofChars ('-' :: c :: t) = Bound.ofUnsigned true (c :: t) from rfl,
        Bound.ofUnsigned_of_isDigit hc] at hvalue
      obtain ⟨x, hx, hfinite⟩ := Option.map_eq_some_iff.1 hvalue
      exact .negative (decimalOfChars_sound ⟨c, t, rfl, hc⟩ hletter hx) hfinite
  · cases h
  · cases h

theorem number_of_scan {s rest : List Char} {d : Double} (text : List Char)
    (hscan : Literal.scanNumber s = some (text, rest))
    (hvalue : Bound.ofChars text = some (.finite d)) : Literal.number s = .ok (d, rest) := by
  unfold Literal.number
  simp only [hscan, hvalue]

/-- A number is read where nothing goes on it. -/
theorem number_of_text {w rest : List Char} {d : Double} (h : NumberText w d)
    (hrest : Literal.NumberEnds rest) : Literal.number (w ++ rest) = .ok (d, rest) := by
  cases h with
  | unsigned numeral finite =>
    obtain ⟨c, s, rfl, hc, hscan⟩ := numeral.scan hrest
    refine number_of_scan (c :: s) ?_ ?_
    · rw [List.cons_append, Literal.scanNumber_of_isDigit hc, hscan]
    · rw [Bound.ofChars_of_isDigit hc, Bound.ofUnsigned_of_isDigit hc,
        decimalOfChars_complete numeral]
      exact congrArg some finite
  | negative numeral finite =>
    obtain ⟨c, s, rfl, hc, hscan⟩ := numeral.scan hrest
    refine number_of_scan ('-' :: c :: s) ?_ ?_
    · show Literal.scanNumber ('-' :: c :: (s ++ rest)) = _
      simp only [Literal.scanNumber, if_pos hc, hscan]
    · show Bound.ofUnsigned true (c :: s) = _
      rw [Bound.ofUnsigned_of_isDigit hc, decimalOfChars_complete numeral]
      exact congrArg some finite

/-- **Every number is read** in front of what ends a token. -/
theorem number_complete (n : Nat) : Complete n Literal.number NumberText :=
  fun _ _ h _ _ hrest => number_of_text h hrest.numberEnds

end DocQuery.Grammar
