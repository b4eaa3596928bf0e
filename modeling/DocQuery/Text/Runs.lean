/-!
# Tables of runs

A table of runs gives every code point a mark. Its text holds the runs in order, from code point
zero: a mark, which is a letter and the lower case letters after it, and the number of code points
unless it is one.

* `MarkRun`, `MarkRun.ofLines` — the runs of a table.

Main statement: `MarkRun.first_le_of_mem`, the runs are read in rising order.
-/

set_option autoImplicit false

namespace DocQuery

/-- Consecutive code points with one mark. -/
structure MarkRun where
  first : Nat
  count : Nat
  mark : String

namespace MarkRun

/-- The last code point. -/
def last (r : MarkRun) : Nat := r.first + r.count - 1

/-- The runs of a text, the next of which starts at `first`. -/
def read : Nat → Nat → List Char → List MarkRun
  | 0, _, _ => []
  | _ + 1, _, [] => []
  | fuel + 1, first, c :: s =>
    let letters := s.takeWhile Char.isLower
    let rest := s.dropWhile Char.isLower
    let digits := rest.takeWhile Char.isDigit
    let count := if digits = [] then 1 else digits.foldl (fun n d => 10 * n + (d.toNat - 48)) 0
    ⟨first, count, String.ofList (c :: letters)⟩ ::
      read fuel (first + count) (rest.dropWhile Char.isDigit)

/-- The runs of a table, which is written over several lines. -/
def ofLines (lines : List String) : List MarkRun :=
  let text := lines.flatMap String.toList
  read text.length 0 text

theorem first_le_of_mem {r : MarkRun} {fuel first : Nat} {s : List Char}
    (h : r ∈ read fuel first s) : first ≤ r.first := by
  induction fuel generalizing first s with
  | zero => simp [read] at h
  | succ n ih =>
    cases s with
    | nil => simp [read] at h
    | cons c s =>
      simp only [read, List.mem_cons] at h
      rcases h with rfl | h
      · exact Nat.le_refl _
      · exact Nat.le_trans (Nat.le_add_right _ _) (ih h)

end MarkRun

end DocQuery
