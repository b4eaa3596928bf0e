import DocQuery.Text.Literal
import Mathlib.Algebra.Group.Nat.Defs
import Mathlib.Data.List.TakeWhile

/-!
# Numerals read back

The text of a finite number reads as the number again. The exact decimal of a magnitude rounds to
that magnitude, so the shortest decimal that does is well defined; positional notation keeps the
decimal, and nothing but a finite numeral is scanned from it.

* `Double.rankOfUnits_units` — rounding leaves a representable magnitude alone.
* `Double.exists_ofInt_truncate` — a whole number survives the way through its integer.
* `Double.readsAs_shortest` — the decimal that is written reads back.
* `Double.ofChars_chars` — the text of a number reads as the number.
* `Bound.ofChars_integerChars` — the text of an integer reads as the nearest number.
* `Literal.number_chars` — and so does the text in front of something that is no part of a number.
-/

set_option autoImplicit false

namespace DocQuery

theorem tenTo_pos (n : Nat) : 0 < tenTo n := Nat.pow_pos (by decide)

/-! ## Rounding -/

namespace Double

theorem roundHalfEven_mul (q : Nat) {den : Nat} (h : 0 < den) :
    roundHalfEven (q * den) den = q := by
  unfold roundHalfEven
  rw [Nat.mul_mod_left, Nat.mul_div_cancel _ h]
  exact if_pos h

theorem exponent_mul_binade_le (d : Double) : d.exponent * binade ≤ d.rank := by
  unfold exponent
  have h := Nat.div_mul_le_self d.rank binade
  rw [Nat.sub_mul]
  omega

theorem exponent_mul_add_mantissa (d : Double) : d.exponent * binade + d.mantissa = d.rank := by
  have h := d.exponent_mul_binade_le
  unfold mantissa
  omega

theorem mantissa_lt (d : Double) : d.mantissa < 2 ^ 53 := by
  have h := Nat.lt_div_mul_add (a := d.rank) (b := binade) (by decide)
  unfold mantissa exponent
  rw [Nat.sub_mul]
  unfold binade at *
  omega

theorem units_eq (d : Double) : d.units = d.mantissa * 2 ^ d.exponent := Nat.shiftLeft_eq _ _

/-- The bits that rounding drops are those below the last significant one. -/
theorem log2_units (d : Double) : Nat.log2 d.units - 52 = d.exponent := by
  have hlt := d.mantissa_lt
  rw [units_eq]
  by_cases he : d.exponent = 0
  · rw [he, Nat.pow_zero, Nat.mul_one]
    by_cases hm : d.mantissa = 0
    · rw [hm]
      rfl
    · have := (Nat.log2_lt hm).2 hlt
      omega
  · have hge : 2 ^ 52 ≤ d.mantissa := by
      have h := Nat.div_mul_le_self d.rank binade
      unfold mantissa
      unfold exponent at he ⊢
      rw [Nat.sub_mul]
      unfold binade at *
      omega
    have hpos : 0 < 2 ^ d.exponent := Nat.pow_pos (by decide)
    have hlog : Nat.log2 (d.mantissa * 2 ^ d.exponent) = 52 + d.exponent := by
      refine (Nat.log2_eq_iff (Nat.mul_ne_zero (by omega) (by omega))).2 ⟨?_, ?_⟩
      · rw [Nat.pow_add]
        exact Nat.mul_le_mul_right _ hge
      · rw [Nat.add_right_comm, Nat.pow_add]
        exact Nat.mul_lt_mul_of_pos_right hlt hpos
    omega

/-- **Rounding leaves a representable magnitude alone.** -/
theorem rankOfUnits_units (d : Double) {m : Nat} (hm : 0 < m) :
    rankOfUnits (d.units * m) m = d.rank := by
  have hsplit : d.units * m = d.mantissa * (m <<< d.exponent) := by
    rw [units_eq, Nat.shiftLeft_eq, Nat.mul_assoc, Nat.mul_comm m]
  have hpos : 0 < m <<< d.exponent := by
    rw [Nat.shiftLeft_eq]
    exact Nat.mul_pos hm (Nat.pow_pos (by decide))
  unfold rankOfUnits
  rw [Nat.mul_div_cancel _ hm, log2_units, hsplit]
  show d.exponent * binade + roundHalfEven (d.mantissa * (m <<< d.exponent)) (m <<< d.exponent) = _
  rw [roundHalfEven_mul _ hpos, exponent_mul_add_mantissa]

theorem ofQuotient_of_units (d : Double) {num den : Nat} (hden : 0 < den)
    (hnum : num * unitsInOne = d.units * den) :
    Bound.ofQuotient d.negative num den = .finite d := by
  unfold Bound.ofQuotient
  rw [hnum, rankOfUnits_units d hden]
  exact dif_pos d.rank_lt

/-! ## Integers -/

theorem wholeMagnitude_mul_unitsInOne {d : Double} (h : d.isWhole = true) :
    d.wholeMagnitude * unitsInOne = d.units :=
  Nat.div_mul_cancel (Nat.dvd_of_mod_eq_zero (beq_iff_eq.1 h))

/-- **A whole number survives the way through its integer.** Only the sign of zero is lost. -/
theorem exists_ofInt_truncate {d : Double} (h : d.isWhole = true) :
    ∃ e : Double, Bound.ofInt d.truncate = .finite e ∧ e.isWhole = true ∧
      e.truncate = d.truncate := by
  have habs : d.truncate.natAbs = d.wholeMagnitude := by
    unfold truncate
    split <;> omega
  let e : Double := ⟨decide (d.truncate < 0), d.rank, d.rank_lt⟩
  have hunits : d.truncate.natAbs * unitsInOne = e.units * 1 := by
    rw [habs, wholeMagnitude_mul_unitsInOne h, Nat.mul_one]
    rfl
  refine ⟨e, ofQuotient_of_units e Nat.one_pos hunits, h, ?_⟩
  -- The magnitude of `e` is that of `d`, its sign that of the integer.
  show (if decide (d.truncate < 0) then -(d.wholeMagnitude : Int) else d.wholeMagnitude) = _
  simp only [decide_eq_true_eq]
  split <;> omega

theorem roundHalfEven_le (num den : Nat) : roundHalfEven num den ≤ num / den + 1 := by
  unfold roundHalfEven
  dsimp only
  split
  · omega
  · split
    · omega
    · split <;> omega

/-- The rank of a number of units is bounded by its bits. -/
theorem rankOfUnits_le {num bits : Nat} (h : num < 2 ^ bits) :
    rankOfUnits num 1 ≤ (bits - 53 + 2) * binade := by
  have hdropped : Nat.log2 num - 52 ≤ bits - 53 := by
    by_cases hnum : num = 0
    · rw [hnum]
      exact Nat.zero_le _
    · have := (Nat.log2_lt hnum).2 h
      omega
  have hkept : num / 1 <<< (Nat.log2 num - 52) < 2 * binade := by
    rw [show 2 * binade = 2 ^ 53 from rfl, Nat.shiftLeft_eq, Nat.one_mul,
      Nat.div_lt_iff_lt_mul (Nat.pow_pos (by decide)), ← Nat.pow_add]
    refine Nat.lt_of_lt_of_le Nat.lt_log2_self (Nat.pow_le_pow_right (by decide) ?_)
    omega
  have hround := roundHalfEven_le num (1 <<< (Nat.log2 num - 52))
  unfold rankOfUnits
  rw [Nat.div_one, Nat.add_mul]
  exact Nat.add_le_add (Nat.mul_le_mul_right binade hdropped) (Nat.le_trans hround hkept)

theorem mul_shiftLeft_lt {n m : Nat} (h : n < 2 ^ m) (k : Nat) : n * 1 <<< k < 2 ^ (m + k) := by
  rw [Nat.shiftLeft_eq, Nat.one_mul, Nat.pow_add]
  exact Nat.mul_lt_mul_of_pos_right h (Nat.pow_pos Nat.two_pos)

/-- Integers of 64 bits are within the range of floats. -/
theorem exists_ofInt {i : Int} (h : i.natAbs ≤ Word.greatestUnsigned) :
    ∃ d : Double, Bound.ofInt i = .finite d := by
  have hword : i.natAbs < 2 ^ 64 := by
    unfold Word.greatestUnsigned at h
    omega
  have hrank : rankOfUnits (i.natAbs * unitsInOne) 1 < ranks :=
    Nat.lt_of_le_of_lt (rankOfUnits_le (mul_shiftLeft_lt hword 1074)) (by decide)
  exact ⟨_, dif_pos hrank⟩

/-! ## The decimal that is written -/

theorem readsAs_iff {d : Double} {x : Decimal} :
    d.readsAs x = true ↔ Bound.ofDecimal d.negative x.coefficient x.exponent = .finite d :=
  beq_iff_eq

theorem units_of_rank_eq_zero {d : Double} (h : d.rank = 0) : d.units = 0 := by
  have hm := d.exponent_mul_add_mantissa
  rw [units_eq, show d.mantissa = 0 by omega, Nat.zero_mul]

theorem ofDecimal_zero {d : Double} (h : d.units = 0) (exponent : Int) :
    Bound.ofDecimal d.negative 0 exponent = .finite d := by
  unfold Bound.ofDecimal
  rw [if_pos rfl]
  exact ofQuotient_of_units d Nat.one_pos (by rw [h, Nat.zero_mul, Nat.zero_mul])

theorem ofDecimal_whole (d : Double) {coefficient : Nat}
    (h : coefficient * unitsInOne = d.units) :
    Bound.ofDecimal d.negative coefficient 0 = .finite d := by
  by_cases hc : coefficient = 0
  · subst hc
    exact ofDecimal_zero (by rw [← h, Nat.zero_mul]) 0
  · unfold Bound.ofDecimal
    rw [if_neg hc, if_neg (by decide), if_neg (by omega), if_pos (Int.le_refl 0)]
    exact ofQuotient_of_units d Nat.one_pos (by
      rw [Nat.mul_one, ← h]
      exact congrArg (· * unitsInOne) (Nat.mul_one coefficient))

/-- A unit is a whole number of steps of the last place of an exact decimal. -/
theorem unit_mul_unitsInOne : tenTo 1074 / unitsInOne * unitsInOne = tenTo 1074 := by
  decide +kernel

theorem log2_unit : 674 ≤ Nat.log2 (tenTo 1074 / unitsInOne) := by decide +kernel

theorem ofDecimal_exact {d : Double} (h : d.units ≠ 0) :
    Bound.ofDecimal d.negative (d.units * (tenTo 1074 / unitsInOne)) (-1074) = .finite d := by
  have hstep := unit_mul_unitsInOne
  have hlog := log2_unit
  generalize tenTo 1074 / unitsInOne = step at hstep hlog ⊢
  have hne : step ≠ 0 := fun h0 => by
    rw [h0] at hlog
    exact absurd hlog (by decide)
  have hc : d.units * step ≠ 0 := Nat.mul_ne_zero h hne
  have hle : step.log2 ≤ (d.units * step).log2 := by
    refine (Nat.le_log2 hc).2 (Nat.le_trans (Nat.log2_self_le hne) ?_)
    exact Nat.le_mul_of_pos_left _ (Nat.pos_of_ne_zero h)
  unfold Bound.ofDecimal
  rw [if_neg hc, if_neg (by decide), if_neg (by omega), if_neg (by decide)]
  exact ofQuotient_of_units d (tenTo_pos _) (by
    rw [Nat.mul_assoc, hstep]
    rfl)

/-- **The exact decimal of a number reads back.** -/
theorem readsAs_exactDecimal (d : Double) : d.readsAs d.exactDecimal = true := by
  rw [readsAs_iff]
  unfold exactDecimal
  split
  · rename_i hwhole
    have hmod : d.units % unitsInOne = 0 := beq_iff_eq.1 hwhole
    have hdiv := Nat.div_add_mod' d.units unitsInOne
    rw [hmod, Nat.add_zero] at hdiv
    exact ofDecimal_whole d hdiv
  · rename_i hwhole
    refine ofDecimal_exact fun h0 => hwhole (beq_iff_eq.2 ?_)
    rw [h0, Nat.zero_mod]

/-- **The decimal that is written reads back.** -/
theorem readsAs_shortest (tie : Tie) (d : Double) : d.readsAs (d.shortest tie) = true :=
  shortest_reads_back d.readsAs_exactDecimal fun h =>
    readsAs_iff.2 (ofDecimal_zero (units_of_rank_eq_zero h) 0)

end Double

/-! ## Positional notation -/

theorem isDigit_of_mem_digitsOf {n : Nat} {c : Char} (h : c ∈ digitsOf n) : c.isDigit = true :=
  Nat.isDigit_of_mem_toDigits (by decide) (by decide) h

theorem digitsOf_ne_nil (n : Nat) : digitsOf n ≠ [] := Nat.toDigits_ne_nil

theorem exists_digitsOf_cons (n : Nat) :
    ∃ c s, digitsOf n = c :: s ∧ c.isDigit = true ∧ ∀ b ∈ s, b.isDigit = true := by
  obtain ⟨c, s, heq⟩ := List.exists_cons_of_ne_nil (digitsOf_ne_nil n)
  have hdigit : ∀ b ∈ c :: s, b.isDigit = true := fun b hb => isDigit_of_mem_digitsOf (heq ▸ hb)
  exact ⟨c, s, heq, List.forall_mem_cons.1 hdigit⟩

theorem numberOf_digitsOf (n : Nat) : numberOf (digitsOf n) = n :=
  Nat.ofDigitChars_toDigits (by decide) (by decide)

theorem numberOf_zeros_append (n : Nat) (digits : List Char) :
    numberOf (List.replicate n '0' ++ digits) = numberOf digits := by
  have h := Nat.ofDigitChars_append (b := 10) (l := List.replicate n '0') (m := digits) 0
  rw [Nat.ofDigitChars_replicate_zero, Nat.mul_zero] at h
  exact h

/-- A numeral of digits alone. -/
theorem decimalOfChars_digits {s : List Char} (hs : ∀ c ∈ s, c.isDigit = true) (hne : s ≠ []) :
    decimalOfChars s = some ⟨numberOf s, 0⟩ := by
  have htake : s.takeWhile Char.isDigit = s := List.takeWhile_eq_self_iff.2 hs
  have hdrop : s.dropWhile Char.isDigit = [] := List.dropWhile_eq_nil_iff.2 hs
  unfold decimalOfChars
  simp only [htake, hdrop, List.takeWhile_nil, List.append_nil, List.length_nil, hne, false_and,
    if_false]
  rfl

/-- A numeral with digits on both sides of its point. -/
theorem decimalOfChars_point {whole fraction : List Char}
    (hwhole : ∀ c ∈ whole, c.isDigit = true) (hfraction : ∀ c ∈ fraction, c.isDigit = true)
    (hne : whole ≠ []) :
    decimalOfChars (whole ++ '.' :: fraction) =
      some ⟨numberOf (whole ++ fraction), -(fraction.length : Int)⟩ := by
  have htake : (whole ++ '.' :: fraction).takeWhile Char.isDigit = whole := by
    rw [List.takeWhile_append_of_pos hwhole]
    exact List.append_nil whole
  have hdrop : (whole ++ '.' :: fraction).dropWhile Char.isDigit = '.' :: fraction := by
    rw [List.dropWhile_append_of_pos hwhole]
    rfl
  have htail : fraction.takeWhile Char.isDigit = fraction := List.takeWhile_eq_self_iff.2 hfraction
  have hend : fraction.dropWhile Char.isDigit = [] := List.dropWhile_eq_nil_iff.2 hfraction
  unfold decimalOfChars
  simp only [htake, hdrop, htail, hend, hne, false_and, if_false]
  rw [Int.zero_sub]

namespace Decimal

/-- In positional notation a fraction has as many digits as the power of ten says. -/
theorem exists_positional_of_neg {x : Decimal} (h : x.exponent < 0) :
    ∃ whole fraction, x.positional = whole ++ '.' :: fraction ∧ whole ≠ [] ∧
      (∀ c ∈ whole, c.isDigit = true) ∧ (∀ c ∈ fraction, c.isDigit = true) ∧
        numberOf (whole ++ fraction) = x.coefficient ∧ -(fraction.length : Int) = x.exponent := by
  have hdigit : ∀ c ∈ digitsOf x.coefficient, c.isDigit = true := fun c hc =>
    isDigit_of_mem_digitsOf hc
  have hpos : x.positional =
      if (-x.exponent).toNat < (digitsOf x.coefficient).length then
        (digitsOf x.coefficient).take ((digitsOf x.coefficient).length - (-x.exponent).toNat) ++
          '.' :: (digitsOf x.coefficient).drop
            ((digitsOf x.coefficient).length - (-x.exponent).toNat)
      else
        '0' :: '.' :: (List.replicate ((-x.exponent).toNat - (digitsOf x.coefficient).length) '0' ++
          digitsOf x.coefficient) :=
    if_neg (Int.not_le.2 h)
  rw [hpos]
  split
  · rename_i hlt
    refine ⟨_, _, rfl, ?_, fun c hc => hdigit c (List.mem_of_mem_take hc),
      fun c hc => hdigit c (List.mem_of_mem_drop hc), ?_, ?_⟩
    · rw [ne_eq, List.take_eq_nil_iff, not_or]
      exact ⟨by omega, digitsOf_ne_nil _⟩
    · rw [List.take_append_drop, numberOf_digitsOf]
    · rw [List.length_drop]
      omega
  · rename_i hge
    refine ⟨['0'], _, rfl, List.cons_ne_nil _ _, ?_, ?_, ?_, ?_⟩
    · intro c hc
      rw [List.mem_singleton.1 hc]
      decide
    · intro c hc
      rcases List.mem_append.1 hc with hc | hc
      · rw [List.eq_of_mem_replicate hc]
        decide
      · exact hdigit c hc
    · exact (numberOf_zeros_append _ _).trans (numberOf_digitsOf _)
    · rw [List.length_append, List.length_replicate]
      omega

theorem positional_of_nonneg {x : Decimal} (h : 0 ≤ x.exponent) :
    x.positional = digitsOf (x.coefficient * tenTo x.exponent.toNat) := if_pos h

/-- Positional notation begins with a digit, and has digits and points only. -/
theorem exists_positional_cons (x : Decimal) :
    ∃ c s, x.positional = c :: s ∧ c.isDigit = true ∧ ∀ b ∈ s, b.isDigit = true ∨ b = '.' := by
  rcases Int.lt_or_le x.exponent 0 with h | h
  · obtain ⟨whole, fraction, heq, hne, hwhole, hfraction, -, -⟩ := exists_positional_of_neg h
    obtain ⟨c, s, rfl⟩ := List.exists_cons_of_ne_nil hne
    refine ⟨c, s ++ '.' :: fraction, heq, hwhole c List.mem_cons_self, fun b hb => ?_⟩
    rcases List.mem_append.1 hb with hb | hb
    · exact .inl (hwhole b (List.mem_cons_of_mem c hb))
    · rcases List.mem_cons.1 hb with hb | hb
      · exact .inr hb
      · exact .inl (hfraction b hb)
  · rw [positional_of_nonneg h]
    obtain ⟨c, s, heq, hc, hs⟩ := exists_digitsOf_cons (x.coefficient * tenTo x.exponent.toNat)
    exact ⟨c, s, heq, hc, fun b hb => .inl (hs b hb)⟩

end Decimal

theorem toLower_of_isDigit {c : Char} (h : c.isDigit = true) : c.toLower = c := by
  unfold Char.toLower
  apply dif_neg
  intro hupper
  unfold Char.isDigit at h
  have hle := of_decide_eq_true ((Bool.and_eq_true _ _).mp h).2
  exact absurd (UInt32.le_trans hupper.1 hle) (by decide)

namespace Bound

/-- A power of ten that does not make a number infinite may be multiplied out. -/
theorem ofDecimal_mul_tenTo {negative : Bool} {coefficient : Nat} {exponent : Int} {d : Double}
    (h : ofDecimal negative coefficient exponent = .finite d) (hexp : 0 ≤ exponent) :
    ofDecimal negative (coefficient * tenTo exponent.toNat) 0 = .finite d := by
  unfold ofDecimal at h ⊢
  by_cases hc : coefficient = 0
  · rw [if_pos hc] at h
    rw [hc, Nat.zero_mul, if_pos rfl]
    exact h
  · have hne : coefficient * tenTo exponent.toNat ≠ 0 :=
      Nat.mul_ne_zero hc (Nat.ne_of_gt (tenTo_pos _))
    rw [if_neg hc] at h
    rw [if_neg hne, if_neg (by decide), if_neg (by omega), if_pos (Int.le_refl 0)]
    split at h
    · cases h
    · rw [if_neg (by omega)] at h
      rw [← h]
      exact congrArg (ofQuotient negative · 1) (Nat.mul_one _)

/-- What positional notation says is what the decimal says. -/
theorem ofDecimal_positional {negative : Bool} {x : Decimal} {d : Double}
    (h : ofDecimal negative x.coefficient x.exponent = .finite d) :
    ((decimalOfChars x.positional).map fun y => ofDecimal negative y.coefficient y.exponent) =
      some (.finite d) := by
  rcases Int.lt_or_le x.exponent 0 with hexp | hexp
  · obtain ⟨whole, fraction, heq, hne, hwhole, hfraction, hnumber, hlength⟩ :=
      Decimal.exists_positional_of_neg hexp
    rw [heq, decimalOfChars_point hwhole hfraction hne, hnumber, hlength]
    exact congrArg some h
  · rw [Decimal.positional_of_nonneg hexp, decimalOfChars_digits
      (fun c hc => isDigit_of_mem_digitsOf hc) (digitsOf_ne_nil _), numberOf_digitsOf]
    exact congrArg some (ofDecimal_mul_tenTo h hexp)

/-- A text that begins with a digit is no word for a special number. -/
theorem ofUnsigned_of_isDigit {negative : Bool} {c : Char} {s : List Char}
    (hc : c.isDigit = true) : ofUnsigned negative (c :: s) =
      (decimalOfChars (c :: s)).map fun x => ofDecimal negative x.coefficient x.exponent := by
  have hword : ∀ a r, a.isDigit = false → (c :: s).map Char.toLower ≠ a :: r := by
    intro a r ha hlower
    rw [List.map_cons, toLower_of_isDigit hc] at hlower
    rw [(List.cons.inj hlower).1, ha] at hc
    cases hc
  unfold ofUnsigned
  refine (if_neg ?_).trans (if_neg ?_)
  · exact not_or.2 ⟨hword 'i' _ (by decide), hword 'i' _ (by decide)⟩
  · exact hword 'n' _ (by decide)

theorem ofChars_of_isDigit {c : Char} {s : List Char} (hc : c.isDigit = true) :
    ofChars (c :: s) = ofUnsigned false (c :: s) := by
  unfold ofChars
  split
  · rename_i heq
    rw [(List.cons.inj heq).1] at hc
    exact absurd hc (by decide)
  · rename_i heq
    rw [(List.cons.inj heq).1] at hc
    exact absurd hc (by decide)
  · rfl

theorem ofUnsigned_positional {negative : Bool} {x : Decimal} {d : Double}
    (h : ofDecimal negative x.coefficient x.exponent = .finite d) :
    ofUnsigned negative x.positional = some (.finite d) := by
  have hread := ofDecimal_positional h
  obtain ⟨c, s, heq, hc, -⟩ := x.exists_positional_cons
  rw [heq] at hread ⊢
  rw [ofUnsigned_of_isDigit hc, hread]

/-- A whole number is rounded to the nearest one that can be represented. -/
theorem ofDecimal_natural (negative : Bool) (n : Nat) :
    ofDecimal negative n 0 = ofQuotient negative n 1 := by
  unfold ofDecimal
  by_cases hn : n = 0
  · rw [if_pos hn, hn]
  · rw [if_neg hn, if_neg (by decide), if_neg (by omega), if_pos (Int.le_refl 0)]
    exact congrArg (ofQuotient negative · 1) (Nat.mul_one n)

theorem ofUnsigned_digitsOf (negative : Bool) (n : Nat) :
    ofUnsigned negative (digitsOf n) = some (ofQuotient negative n 1) := by
  have hread := decimalOfChars_digits (fun c hc => isDigit_of_mem_digitsOf hc) (digitsOf_ne_nil n)
  rw [numberOf_digitsOf] at hread
  obtain ⟨c, s, heq, hc, -⟩ := exists_digitsOf_cons n
  rw [heq] at hread ⊢
  rw [ofUnsigned_of_isDigit hc, hread, Option.map_some, ofDecimal_natural]

/-- **The text of an integer reads as the nearest number.** -/
theorem ofChars_integerChars (i : Int) : ofChars (integerChars i) = some (ofInt i) := by
  unfold integerChars ofInt
  by_cases hi : i < 0
  · rw [if_pos hi, decide_eq_true hi]
    exact ofUnsigned_digitsOf true i.natAbs
  · obtain ⟨c, s, heq, hc, -⟩ := exists_digitsOf_cons i.natAbs
    have hread := ofUnsigned_digitsOf false i.natAbs
    rw [heq] at hread
    rw [if_neg hi, decide_eq_false hi, heq, ofChars_of_isDigit hc, hread]

end Bound

namespace Double

/-- **The text of a number reads as the number.** -/
theorem ofChars_chars (d : Double) : Bound.ofChars d.chars = some (.finite d) := by
  have hread := Bound.ofUnsigned_positional (readsAs_iff.1 (d.readsAs_shortest .up))
  unfold chars signed
  cases hsign : d.negative with
  | true =>
    rw [hsign] at hread
    exact hread
  | false =>
    rw [hsign] at hread
    obtain ⟨c, s, heq, hc, -⟩ := (d.shortest .up).exists_positional_cons
    rw [heq] at hread ⊢
    exact (Bound.ofChars_of_isDigit hc).trans hread

end Double

/-! ## Scanning -/

namespace Literal

/-- Nothing that goes on a number stands next. -/
def NumberEnds (rest : List Char) : Prop :=
  ∀ c r, rest = c :: r → c.isDigit = false ∧ c ≠ '.' ∧ c ≠ 'e'

theorem scanTail_eq {previous : Char} {s rest : List Char} (hprevious : previous ≠ 'e')
    (hs : ∀ c ∈ s, c.isDigit = true ∨ c = '.') (hrest : NumberEnds rest) :
    scanTail previous (s ++ rest) = (s, rest) := by
  induction s generalizing previous with
  | nil =>
    cases rest with
    | nil => rfl
    | cons c r =>
      obtain ⟨hdigit, hpoint, he⟩ := hrest c r rfl
      rw [List.nil_append, scanTail, if_neg]
      rintro (h | h | h | ⟨-, h⟩)
      · rw [hdigit] at h
        cases h
      · exact hpoint h
      · exact he h
      · exact hprevious h
  | cons c s ih =>
    have hc : c.isDigit = true ∨ c = '.' := hs c List.mem_cons_self
    have hce : c ≠ 'e' := by
      rintro rfl
      exact absurd hc (by decide)
    rw [List.cons_append, scanTail, if_pos (hc.imp id .inl),
      ih hce fun b hb => hs b (List.mem_cons_of_mem c hb)]

theorem scanNumber_of_isDigit {c : Char} {s : List Char} (hc : c.isDigit = true) :
    scanNumber (c :: s) =
      some (c :: (scanTail c s).1, (scanTail c s).2) := by
  rw [scanNumber.eq_def]
  split
  · rename_i heq
    rw [(List.cons.inj heq).1] at hc
    exact absurd hc (by decide)
  · rename_i heq
    obtain ⟨rfl, rfl⟩ := List.cons.inj heq
    exact if_pos hc
  · rename_i heq
    cases heq

/-- A digit and the digits and points after it are scanned to their end, behind a sign or not. -/
theorem scanNumber_digits {c : Char} {s rest : List Char} (hc : c.isDigit = true)
    (hs : ∀ b ∈ s, b.isDigit = true ∨ b = '.') (hrest : NumberEnds rest) :
    scanNumber (c :: s ++ rest) = some (c :: s, rest) ∧
      scanNumber ('-' :: c :: s ++ rest) = some ('-' :: c :: s, rest) := by
  have hce : c ≠ 'e' := by
    rintro rfl
    exact absurd hc (by decide)
  have htail := scanTail_eq hce hs hrest
  constructor
  · rw [List.cons_append, scanNumber_of_isDigit hc, htail]
  · simp only [List.cons_append, scanNumber, if_pos hc, htail]

/-- The text of a number is scanned to its end. -/
theorem scanNumber_chars (d : Double) {rest : List Char} (hrest : NumberEnds rest) :
    scanNumber (d.chars ++ rest) = some (d.chars, rest) := by
  obtain ⟨c, s, heq, hc, hs⟩ := (d.shortest .up).exists_positional_cons
  obtain ⟨hplain, hsigned⟩ := scanNumber_digits hc hs hrest
  unfold Double.chars Double.signed
  rw [heq]
  split
  · exact hsigned
  · exact hplain

/-- So is the text of an integer. -/
theorem scanNumber_integerChars (i : Int) {rest : List Char} (hrest : NumberEnds rest) :
    scanNumber (integerChars i ++ rest) = some (integerChars i, rest) := by
  obtain ⟨c, s, heq, hc, hs⟩ := exists_digitsOf_cons i.natAbs
  obtain ⟨hplain, hsigned⟩ := scanNumber_digits hc (fun b hb => .inl (hs b hb)) hrest
  unfold integerChars
  rw [heq]
  split
  · exact hsigned
  · exact hplain

/-- **A number is read from its text**, whatever stands after it. -/
theorem number_chars (d : Double) {rest : List Char} (hrest : NumberEnds rest) :
    number (d.chars ++ rest) = .ok (d, rest) := by
  unfold number
  simp only [scanNumber_chars d hrest, d.ofChars_chars]

end Literal

end DocQuery
