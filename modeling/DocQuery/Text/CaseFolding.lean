import DocQuery.Text.CharSet
import DocQuery.Text.FoldTable

/-!
# Letter case

Characters that differ in letter case only fold to the same character.

* `foldCase`, `caseVariants` — the character that stands for all cases, and all of them.
* `CharSet.foldCase`, `CharSet.foldAsciiCase` — with every member all its letter cases.
-/

set_option autoImplicit false

namespace DocQuery

/-- The character that stands for all letter cases of `c`. -/
def foldCase (c : Char) : Char :=
  match foldRows.find? fun row =>
      row.first ≤ c.toNat && c.toNat < row.first + row.count * row.step &&
        (c.toNat - row.first) % row.step == 0 with
  | some row => Char.ofNat ((c.toNat : Int) + row.distance).toNat
  | none => c

/-- The characters of the fold table that fold to `c`. -/
def unfoldCase (c : Char) : List Char :=
  foldRows.filterMap fun row =>
    let source := (c.toNat : Int) - row.distance
    let offset := source - row.first
    if 0 ≤ offset && offset < row.count * row.step && offset % row.step == 0 then
      some (Char.ofNat source.toNat)
    else none

/-- The characters that differ from `c` in letter case only, and `c`. -/
def caseVariants (c : Char) : List Char := foldCase c :: unfoldCase (foldCase c)

namespace CharSet

/-- The characters with other letter cases, each with all of them. -/
def caseOrbits : List (List Char) :=
  foldRows.flatMap fun row => (List.range row.count).map fun i =>
    caseVariants (Char.ofNat (row.first + i * row.step))

/-- With every member all its letter cases. -/
def foldCase (s : CharSet) : CharSet :=
  let added := caseOrbits.flatMap fun orbit =>
    if orbit.any s.contains then orbit.map fun c => (c.toNat, c.toNat) else []
  ofRanges (s.ranges ++ added)

/-- With every ASCII letter its other case. -/
def foldAsciiCase (s : CharSet) : CharSet :=
  let added := (List.range 26).flatMap fun i =>
    let upper := Char.ofNat (65 + i)
    let lower := Char.ofNat (97 + i)
    if s.contains upper || s.contains lower then
      [(upper.toNat, upper.toNat), (lower.toNat, lower.toNat)]
    else []
  ofRanges (s.ranges ++ added)

end CharSet

end DocQuery
