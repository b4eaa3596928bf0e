import DocQuery.Number.Word

/-!
# Binary floating point numbers of 64 bits, exactly

A finite number is a sign and the rank of its magnitude: the number of representable magnitudes
below it. Ranks make the order of magnitudes the order of natural numbers, and every arithmetic
question is settled in whole units of the least positive magnitude, `2 ^ (-1074)`.

* `Double` — the finite numbers, `Double.units` their magnitude in units.
* `Bound` — a finite number, an infinity or not-a-number.
* `Bound.ofQuotient` — a quotient rounded to the nearest representable number, half to even.

Main statements: `Bound.alike_refl`, `Bound.alike_symm`, `Bound.alike_trans`.
-/

set_option autoImplicit false

namespace DocQuery

/-- Number of representable magnitudes from one power of two to the next: 52 bits follow the first
significant one. -/
def Double.binade : Nat := 4503599627370496

/-- Number of representable finite magnitudes. -/
def Double.ranks : Nat := 2047 * Double.binade

/-- A finite number. `rank` counts the representable magnitudes below its own. -/
structure Double where
  negative : Bool
  rank : Nat
  rank_lt : rank < Double.ranks := by decide
  deriving DecidableEq, Repr

namespace Double

/-- Units in one: the least positive magnitude is `1 / unitsInOne`. -/
def unitsInOne : Nat := 1 <<< 1074

/-- Number of low bits between the magnitude's last significant bit and the unit. -/
def exponent (d : Double) : Nat := d.rank / binade - 1

/-- The significant bits of the magnitude. -/
def mantissa (d : Double) : Nat := d.rank - d.exponent * binade

/-- The magnitude in units. -/
def units (d : Double) : Nat := d.mantissa <<< d.exponent

def zero : Double := ⟨false, 0, by decide⟩

instance : Inhabited Double := ⟨zero⟩

/-- The place of a number in the numerical order; both zeros share one place. -/
def place (d : Double) : Int := if d.negative then -(d.rank : Int) else d.rank

/-- The magnitude with its fraction cut off. -/
def wholeMagnitude (d : Double) : Nat := d.units / unitsInOne

/-- Whether the number has no fraction. -/
def isWhole (d : Double) : Bool := d.units % unitsInOne == 0

/-- The number with its fraction cut off. -/
def truncate (d : Double) : Int :=
  if d.negative then -(d.wholeMagnitude : Int) else d.wholeMagnitude

/-- The nearest integer toward zero that a signed word of 64 bits holds. -/
def toInt64 (d : Double) : Int := Word.clamp d.truncate

/-- The nearest integer toward zero that an unsigned word of 64 bits holds. -/
def toUInt64 (d : Double) : Nat := Word.clampUnsigned d.truncate

/-- A quotient rounded to the nearest whole number, half to even. -/
def roundHalfEven (num den : Nat) : Nat :=
  let q := num / den
  let r := num % den
  if 2 * r < den then q
  else if den < 2 * r then q + 1
  else if q % 2 = 0 then q else q + 1

/-- The rank of the magnitude nearest to `num / den` units: the quotient is rounded after all but
its 53 leading bits are dropped, or none when it is short. Ranks at or above `ranks` stand for
magnitudes that are too large. -/
def rankOfUnits (num den : Nat) : Nat :=
  let dropped := Nat.log2 (num / den) - 52
  dropped * binade + roundHalfEven num (den <<< dropped)

end Double

/-- The operand of a comparison: a number, an infinity or not-a-number. -/
inductive Bound
  | finite (value : Double)
  | infinite (negative : Bool)
  | nan
  deriving DecidableEq, Repr

/-- A power of ten. -/
def tenTo (n : Nat) : Nat := Nat.pow 10 n

namespace Bound

/-- The representable number nearest to `num / den`, half to even. -/
def ofQuotient (negative : Bool) (num den : Nat) : Bound :=
  let rank := Double.rankOfUnits (num * Double.unitsInOne) den
  if h : rank < Double.ranks then .finite ⟨negative, rank, h⟩ else .infinite negative

/-- The representable number nearest to an integer. -/
def ofInt (i : Int) : Bound := ofQuotient (i < 0) i.natAbs 1

/-- The representable number nearest to `coefficient * 10 ^ exponent`. Powers of ten that are out of
all proportion are settled without being computed. -/
def ofDecimal (negative : Bool) (coefficient : Nat) (exponent : Int) : Bound :=
  if coefficient = 0 then ofQuotient negative 0 1
  else if 400 < exponent then .infinite negative
  else if exponent + (Nat.log2 coefficient : Int) < -400 then ofQuotient negative 0 1
  else if 0 ≤ exponent then ofQuotient negative (coefficient * tenTo exponent.toNat) 1
  else ofQuotient negative coefficient (tenTo (-exponent).toNat)

def isFinite : Bound → Bool
  | .finite _ => true
  | _ => false

/-- Numerical equality: the two zeros are equal, not-a-number equals nothing. -/
def alike : Bound → Bound → Bool
  | .finite a, .finite b => a.place == b.place
  | .infinite a, .infinite b => a == b
  | _, _ => false

/-- Numerical order, strict. Not-a-number is below and above nothing. -/
def less : Bound → Bound → Bool
  | .finite a, .finite b => a.place < b.place
  | .finite _, .infinite negative => !negative
  | .infinite negative, .finite _ => negative
  | .infinite a, .infinite b => a && !b
  | _, _ => false

def lessOrEqual (a b : Bound) : Bool := a.less b || a.alike b

theorem alike_symm (a b : Bound) : a.alike b = b.alike a := by
  cases a <;> cases b <;> simp [alike, Bool.beq_comm]

theorem alike_refl {a : Bound} (h : a ≠ .nan) : a.alike a = true := by
  cases a <;> simp_all [alike]

theorem alike_trans {a b c : Bound} (hab : a.alike b = true) (hbc : b.alike c = true) :
    a.alike c = true := by
  cases a <;> cases b <;> cases c <;> simp_all [alike]

end Bound

/-- Twice a number, rounded. -/
def Double.twice (d : Double) : Bound :=
  .ofQuotient d.negative (2 * d.units) Double.unitsInOne

end DocQuery
