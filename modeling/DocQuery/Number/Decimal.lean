import DocQuery.Number.Double

/-!
# Decimal text of floating point numbers

* `Decimal` — a coefficient and a power of ten.
* `Double.shortest` — the decimal with the fewest digits that reads back as the number, and the
  nearest of those. Where none is found within seventeen digits the exact decimal stands in.
* `Double.text` — always positional: no exponent, no point after a whole number.
* `Double.scientificText` — a fraction always, an exponent outside the middle range.
* `Bound.ofText` — reads a decimal numeral, with or without point and exponent.

Main statement: `Double.shortest_reads_back`, under the assumption that the exact decimal does.
-/

set_option autoImplicit false

namespace DocQuery

/-- The number `coefficient * 10 ^ exponent`. -/
structure Decimal where
  coefficient : Nat
  exponent : Int
  deriving DecidableEq, Repr

/-- Which way a value exactly between two candidates goes. -/
inductive Tie
  | up
  | even
  deriving DecidableEq, Repr

namespace Double

/-- Whether a decimal magnitude reads back as the magnitude of `d`. -/
def readsAs (d : Double) (x : Decimal) : Bool :=
  Bound.ofDecimal d.negative x.coefficient x.exponent == .finite d

/-- The magnitude of a number as an exact decimal with as many places as a unit needs. -/
def exactDecimal (d : Double) : Decimal :=
  if d.isWhole then ⟨d.wholeMagnitude, 0⟩ else ⟨d.units * (tenTo 1074 / unitsInOne), -1074⟩

/-- The place of the decimal point: the least `k` near an estimate with `magnitude < 10 ^ k`. -/
def pointPlace (d : Double) : Int :=
  let reaches (k : Int) : Bool :=
    if 0 ≤ k then unitsInOne * tenTo k.toNat ≤ d.units
    else unitsInOne ≤ d.units * tenTo (-k).toNat
  let start : Int := ((Nat.log2 d.units : Int) - 1074) * 30103 / 100000 - 1
  if !reaches start then start
  else if !reaches (start + 1) then start + 1
  else if !reaches (start + 2) then start + 2
  else start + 3

/-- The candidate with `digits` significant digits, if one reads back: of the two grid points
around the magnitude the nearer one, a tie going as told. -/
def candidate (tie : Tie) (d : Double) (digits : Nat) : Option Decimal :=
  let scale : Int := d.pointPlace - digits
  let num := if 0 ≤ scale then d.units else d.units * tenTo (-scale).toNat
  let den := if 0 ≤ scale then unitsInOne * tenTo scale.toNat else unitsInOne
  let low := num / den
  let twiceRest := 2 * (num % den)
  let below : Decimal := ⟨low, scale⟩
  let above : Decimal :=
    if low + 1 = tenTo digits then ⟨1, scale + digits⟩ else ⟨low + 1, scale⟩
  let preferAbove :=
    den < twiceRest || (twiceRest == den && (tie == .up || low % 2 == 1))
  (if preferAbove then [above, below] else [below, above]).find? d.readsAs

/-- The decimal with the fewest digits that reads back. -/
def shortest (tie : Tie) (d : Double) : Decimal :=
  if d.rank = 0 then ⟨0, 0⟩
  else ((List.range 17).findSome? fun n => d.candidate tie (n + 1)).getD d.exactDecimal

theorem candidate_readsAs {tie : Tie} {d : Double} {n : Nat} {x : Decimal}
    (h : d.candidate tie n = some x) : d.readsAs x = true :=
  List.find?_some h

theorem shortest_reads_back {tie : Tie} {d : Double}
    (hexact : d.readsAs d.exactDecimal = true) (hzero : d.rank = 0 → d.readsAs ⟨0, 0⟩ = true) :
    d.readsAs (d.shortest tie) = true := by
  unfold shortest
  by_cases hr : d.rank = 0
  · rw [if_pos hr]
    exact hzero hr
  · rw [if_neg hr]
    generalize d.exactDecimal = exact at *
    cases h : (List.range 17).findSome? fun n => d.candidate tie (n + 1) with
    | none => rwa [Option.getD_none]
    | some x =>
      obtain ⟨n, -, hn⟩ := List.exists_of_findSome?_eq_some h
      rw [Option.getD_some]
      exact candidate_readsAs hn

end Double

/-! ## Digits -/

/-- The decimal digits of a natural number, most significant first. -/
def digitsOf (n : Nat) : List Char := Nat.toDigits 10 n

/-- The value of a decimal digit. -/
def digitValue (c : Char) : Nat := c.toNat - '0'.toNat

/-- The number that a run of digits stands for. -/
def numberOf (digits : List Char) : Nat := digits.foldl (fun n c => 10 * n + digitValue c) 0

/-- The text of an integer. -/
def integerChars (i : Int) : List Char :=
  if i < 0 then '-' :: digitsOf i.natAbs else digitsOf i.natAbs

/-- Positional notation: no exponent, and a point only in front of a fraction. -/
def Decimal.positional (x : Decimal) : List Char :=
  let digits := digitsOf x.coefficient
  if 0 ≤ x.exponent then digitsOf (x.coefficient * tenTo x.exponent.toNat)
  else
    let places := (-x.exponent).toNat
    if places < digits.length then
      digits.take (digits.length - places) ++ '.' :: digits.drop (digits.length - places)
    else '0' :: '.' :: (List.replicate (places - digits.length) '0' ++ digits)

/-- Scientific notation: one digit before the point, the point only where more digits follow. -/
def Decimal.scientific (x : Decimal) : List Char :=
  let digits := digitsOf x.coefficient
  let power := integerChars (x.exponent + (digits.length : Int) - 1)
  match digits with
  | [] => []
  | d :: [] => d :: 'e' :: power
  | d :: ds => d :: '.' :: (ds ++ 'e' :: power)

namespace Double

/-- Puts the sign in front. -/
def signed (d : Double) (magnitude : List Char) : List Char :=
  if d.negative then '-' :: magnitude else magnitude

/-- The shortest positional text; of two equally near decimals the larger. -/
def chars (d : Double) : List Char := d.signed (d.shortest .up).positional

def text (d : Double) : String := String.ofList d.chars

/-- Positional with a fraction while the point stands within sixteen digits or behind at most four
zeros, scientific otherwise; of two equally near decimals the even one. -/
def scientificText (d : Double) : String :=
  let x := d.shortest .even
  let point : Int := x.exponent + ((digitsOf x.coefficient).length : Int)
  let magnitude :=
    if x.coefficient = 0 then ['0', '.', '0']
    else if 0 ≤ x.exponent && point ≤ 16 then x.positional ++ ['.', '0']
    else if x.exponent < 0 && -5 < point && point ≤ 16 then x.positional
    else x.scientific
  String.ofList (d.signed magnitude)

end Double

/-- The text of a comparison operand. -/
def Bound.chars : Bound → List Char
  | .finite d => d.chars
  | .infinite false => ['i', 'n', 'f']
  | .infinite true => ['-', 'i', 'n', 'f']
  | .nan => ['N', 'a', 'N']

def Bound.text (b : Bound) : String := String.ofList b.chars

/-! ## Reading -/

/-- The power of ten after an `e`: an optional sign and at least one digit, to the end. -/
def exponentOfChars : List Char → Option Int
  | '-' :: s => if s ≠ [] ∧ s.all Char.isDigit then some (-(numberOf s : Int)) else none
  | '+' :: s => if s ≠ [] ∧ s.all Char.isDigit then some (numberOf s) else none
  | s => if s ≠ [] ∧ s.all Char.isDigit then some (numberOf s) else none

/-- An unsigned numeral: digits with at most one point among or around them, at least one digit,
then an optional exponent. -/
def decimalOfChars (s : List Char) : Option Decimal :=
  let whole := s.takeWhile Char.isDigit
  let rest := s.dropWhile Char.isDigit
  let afterPoint : List Char := match rest with
    | '.' :: r => r
    | _ => []
  let fraction := afterPoint.takeWhile Char.isDigit
  let tail := match rest with
    | '.' :: r => r.dropWhile Char.isDigit
    | r => r
  if whole = [] ∧ fraction = [] then none
  else
    let decimal (power : Int) : Decimal := ⟨numberOf (whole ++ fraction), power - fraction.length⟩
    match tail with
    | [] => some (decimal 0)
    | c :: r => if c = 'e' ∨ c = 'E' then (exponentOfChars r).map decimal else none

/-- Reads an unsigned numeral, `inf`, `infinity` or `nan`, letter case aside. -/
def Bound.ofUnsigned (negative : Bool) (s : List Char) : Option Bound :=
  let lower := s.map Char.toLower
  if lower = ['i', 'n', 'f'] ∨ lower = "infinity".toList then some (.infinite negative)
  else if lower = ['n', 'a', 'n'] then some .nan
  else (decimalOfChars s).map fun x => Bound.ofDecimal negative x.coefficient x.exponent

/-- Reads the text of a floating point number, rounding to the nearest. -/
def Bound.ofChars : List Char → Option Bound
  | '-' :: s => Bound.ofUnsigned true s
  | '+' :: s => Bound.ofUnsigned false s
  | s => Bound.ofUnsigned false s

def Bound.ofText (s : String) : Option Bound := Bound.ofChars s.toList

end DocQuery
