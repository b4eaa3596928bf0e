import DocQuery.Text.CategoryTable
import DocQuery.Text.CharSet

/-!
# Classes of characters

* `Category.of` — the general category of a character; `CharSet.ofCategories` — the characters of
  some categories.
* `isBlank`, `trim` — white space and its removal from both ends of a text.
* `isControl` — control characters.

Main statement: `isBlank_of_isWhitespace`.
-/

set_option autoImplicit false

namespace DocQuery

/-- The general categories. -/
inductive Category
  | lu | ll | lt | lm | lo | mn | mc | me | nd | nl | no
  | pc | pd | ps | pe | pi | pf | po | sm | sc | sk | so
  | zs | zl | zp | cc | cf | cs | co | cn
  deriving DecidableEq, Repr, Inhabited

namespace Category

/-- The categories with their two letters. -/
def codes : List (String × Category) :=
  [("Lu", lu), ("Ll", ll), ("Lt", lt), ("Lm", lm), ("Lo", lo), ("Mn", mn), ("Mc", mc), ("Me", me),
    ("Nd", nd), ("Nl", nl), ("No", no), ("Pc", pc), ("Pd", pd), ("Ps", ps), ("Pe", pe), ("Pi", pi),
    ("Pf", pf), ("Po", po), ("Sm", sm), ("Sc", sc), ("Sk", sk), ("So", so), ("Zs", zs), ("Zl", zl),
    ("Zp", zp), ("Cc", cc), ("Cf", cf), ("Cs", cs), ("Co", co), ("Cn", cn)]

/-- The runs of all code points with their categories. -/
def runs : Array (MarkRun × Category) :=
  ((MarkRun.ofLines categoryRuns).map fun r => (r, (codes.lookup r.mark).getD cn)).toArray

/-- Halves the span of runs in which the code point `n` lies. -/
def search (n : Nat) : Nat → Nat → Nat → Category
  | 0, _, _ => cn
  | fuel + 1, low, high =>
    if low < high then
      let middle := (low + high) / 2
      match runs[middle]? with
      | none => cn
      | some (run, category) =>
        if n < run.first then search n fuel low middle
        else if run.last < n then search n fuel (middle + 1) high
        else category
    else cn

/-- The general category of a character. -/
def of (c : Char) : Category := search c.toNat 32 0 runs.size

end Category

/-- The characters of some general categories. -/
def CharSet.ofCategories (cs : List Category) : CharSet :=
  ⟨joinTouching ((Category.runs.toList.filter fun r => cs.contains r.2).map
    fun r => (r.1.first, r.1.last))⟩

/-- White space. -/
def isBlank (c : Char) : Bool :=
  c == ' ' || ('\t' ≤ c && c ≤ '\r') || c == '\u0085' || c == '\u00a0' || c == '\u1680' ||
    ('\u2000' ≤ c && c ≤ '\u200a') || c == '\u2028' || c == '\u2029' || c == '\u202f' ||
    c == '\u205f' || c == '\u3000'

theorem isBlank_of_isWhitespace {c : Char} (h : c.isWhitespace = true) : isBlank c = true := by
  simp only [Char.isWhitespace, Bool.or_eq_true, decide_eq_true_eq] at h
  rcases h with ((rfl | rfl) | rfl) | rfl <;> decide

/-- A text without the white space at both ends. -/
def trim (s : List Char) : List Char :=
  ((s.dropWhile isBlank).reverse.dropWhile isBlank).reverse

/-- Control characters. -/
def isControl (c : Char) : Bool := c.toNat < 0x20 || (0x7f ≤ c.toNat && c.toNat < 0xa0)

end DocQuery
