import DocQuery.Number.Decimal
import DocQuery.Text.Quoted
import DocQuery.Text.Shown

/-!
# Literals in query texts

Strings and numbers as the texts of predicates and projections write them.

* `Literal.Problem` — what is wrong with a literal.
* `Literal.string` — a quoted string. One without any backslash is taken as it stands; otherwise
  its escapes are read, and a single-quoted string may also escape its own quote.
* `Literal.number` — a finite number, from a generous scan of digits, points and exponents.

Main statements: `Literal.scanNumber_append`, `Literal.closeQuote_append`.
-/

set_option autoImplicit false

namespace DocQuery.Literal

/-- What is wrong with a literal. -/
inductive Problem
  | notString
  | unclosedString
  /-- The inside of a string, with the place of the failure as line and column. -/
  | badString (problem : Quoted.Problem) (line column : Nat)
  | notNumber
  | badNumber (text : String)
  | outOfRange
  deriving DecidableEq, Repr

/-! ## Strings -/

/-- Splits at the first quote that no backslash stands in front of; the quote itself is dropped. -/
def closeQuote (quoteMark : Char) : List Char → Option (List Char × List Char)
  | [] => none
  | c :: s =>
    if c = '\\' then
      match s with
      | [] => none
      | d :: s => (closeQuote quoteMark s).map fun p => (c :: d :: p.1, p.2)
    else if c = quoteMark then some ([], s)
    else (closeQuote quoteMark s).map fun p => (c :: p.1, p.2)

theorem closeQuote_append {quoteMark : Char} {s inner rest : List Char}
    (h : closeQuote quoteMark s = some (inner, rest)) : s = inner ++ quoteMark :: rest := by
  fun_induction closeQuote quoteMark s generalizing inner with
  | case1 => simp at h
  | case2 => simp at h
  | case3 d s ih =>
    obtain ⟨⟨i, r⟩, hi, he⟩ := Option.map_eq_some_iff.1 h
    obtain ⟨rfl, rfl⟩ := Prod.mk.inj he
    simp [ih hi]
  | case4 s hs =>
    obtain ⟨rfl, rfl⟩ := Prod.mk.inj (Option.some.inj h)
    rfl
  | case5 c s hs hq ih =>
    obtain ⟨⟨i, r⟩, hi, he⟩ := Option.map_eq_some_iff.1 h
    obtain ⟨rfl, rfl⟩ := Prod.mk.inj he
    simp [ih hi]

/-- Takes the backslash off every escaped single quote. -/
def unescapeSingle : List Char → List Char
  | '\\' :: '\'' :: s => '\'' :: unescapeSingle s
  | c :: s => c :: unescapeSingle s
  | [] => []

/-- Puts a backslash in front of every double quote. -/
def escapeDouble : List Char → List Char
  | [] => []
  | c :: s => if c = '"' then '\\' :: '"' :: escapeDouble s else c :: escapeDouble s

/-- The inside of a string as it would stand between double quotes. -/
def doubleQuoted (quoteMark : Char) (inner : List Char) : List Char :=
  if quoteMark = '"' then inner else escapeDouble (unescapeSingle inner)

/-- Line and column reached after some bytes. -/
def lineColumn (consumed : List UInt8) : Nat × Nat :=
  (consumed.count 10 + 1, (consumed.reverse.takeWhile (· != 10)).length)

/-- The string that stands between two quotes. -/
def contents (quoteMark : Char) (inner : List Char) : Except Problem (List Char) :=
  if !inner.contains '\\' then .ok inner
  else
    let body := doubleQuoted quoteMark inner
    match Quoted.decode body with
    | .ok s => .ok s
    | .error f =>
      let taken := f.offset body + f.problem.taken f.rest
      let place := lineColumn ((bytes ('"' :: body ++ ['"'])).take (taken + 1))
      .error (.badString f.problem place.1 place.2)

/-- Reads a string between a kind of quotes. -/
def string (quoteMark : Char) : Reader Problem String := fun s =>
  match s with
  | [] => fault s .notString
  | c :: r =>
    if c ≠ quoteMark then fault s .notString
    else
      match closeQuote quoteMark r with
      | none => fault s .unclosedString
      | some (inner, rest) =>
        match contents quoteMark inner with
        | .ok cs => .ok (String.ofList cs, rest)
        | .error p => fault s p

/-! ## Numbers -/

/-- The part of a number after its first digit: digits, points, `e`, and a sign after an `e`. -/
def scanTail (previous : Char) : List Char → List Char × List Char
  | [] => ([], [])
  | c :: s =>
    if c.isDigit ∨ c = '.' ∨ c = 'e' ∨ ((c = '-' ∨ c = '+') ∧ previous = 'e') then
      let p := scanTail c s
      (c :: p.1, p.2)
    else ([], c :: s)

/-- Splits off what looks like a number: an optional sign, a digit, and its tail. -/
def scanNumber : List Char → Option (List Char × List Char)
  | '-' :: c :: s =>
    if c.isDigit then
      let p := scanTail c s
      some ('-' :: c :: p.1, p.2)
    else none
  | c :: s =>
    if c.isDigit then
      let p := scanTail c s
      some (c :: p.1, p.2)
    else none
  | [] => none

theorem scanTail_append (previous : Char) (s : List Char) :
    (scanTail previous s).1 ++ (scanTail previous s).2 = s := by
  induction s generalizing previous with
  | nil => rfl
  | cons c s ih =>
    rw [scanTail]
    split
    · simp [ih]
    · rfl

theorem scanNumber_append {s text rest : List Char} (h : scanNumber s = some (text, rest)) :
    s = text ++ rest := by
  fun_cases scanNumber s
  all_goals simp_all [scanNumber]
  all_goals obtain ⟨rfl, rfl⟩ := h
  all_goals simp [scanTail_append]

/-- Reads a finite number as a float. -/
def number : Reader Problem Double := fun s =>
  match scanNumber s with
  | none => fault s .notNumber
  | some (text, rest) =>
    match Bound.ofChars text with
    | some (.finite d) => .ok (d, rest)
    | some _ => fault s .outOfRange
    | none => fault s (.badNumber (String.ofList text))

/-! ## Wording -/

/-- The wording shared by all query texts, and by those that do not quote bad numbers. -/
def Problem.text : Problem → String
  | .notString => "not a string"
  | .unclosedString => "not a string: unexpected EOF"
  | .badString p line column =>
    "not a string: " ++ p.text ++ " at line " ++ toString line ++ " column " ++ toString column
  | .notNumber => "not a number"
  | .badNumber _ => "not a number: invalid float literal"
  | .outOfRange => "not a number: out of range"

/-- The wording that quotes a bad number. -/
def Problem.quotingText : Problem → String
  | .badNumber text => "not a number: parsing " ++ shownString text ++ ": invalid float literal"
  | p => p.text

end DocQuery.Literal
