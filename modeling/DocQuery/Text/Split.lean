/-!
# Splitting a text at a separator

* `splitAtEach` — the parts between the separators, never none.

Main statements: `splitAtEach_append`, `splitAtEach_of_not_mem`.
-/

set_option autoImplicit false

namespace DocQuery

/-- The parts of a text between separators; a separator at either end borders an empty part. -/
def splitAtEach (separator : Char) : List Char → List (List Char)
  | [] => [[]]
  | c :: s =>
    if c = separator then [] :: splitAtEach separator s
    else
      match splitAtEach separator s with
      | [] => [[c]]
      | part :: parts => (c :: part) :: parts

theorem splitAtEach_ne_nil (separator : Char) (s : List Char) : splitAtEach separator s ≠ [] := by
  cases s with
  | nil => simp [splitAtEach]
  | cons c s =>
    simp only [splitAtEach]
    split
    · simp
    · split <;> simp

theorem splitAtEach_append (separator : Char) (s t : List Char) :
    splitAtEach separator (s ++ separator :: t) =
      splitAtEach separator s ++ splitAtEach separator t := by
  induction s with
  | nil => simp [splitAtEach]
  | cons c s ih =>
    by_cases h : c = separator
    · simp [splitAtEach, h, ih]
    · simp only [List.cons_append, splitAtEach, h, if_false, ih]
      cases hs : splitAtEach separator s with
      | nil => exact absurd hs (splitAtEach_ne_nil separator s)
      | cons part parts => simp

theorem splitAtEach_of_not_mem {separator : Char} {s : List Char} (h : separator ∉ s) :
    splitAtEach separator s = [s] := by
  induction s with
  | nil => rfl
  | cons c s ih =>
    simp only [List.mem_cons, not_or] at h
    simp [splitAtEach, Ne.symm h.1, ih h.2]

end DocQuery
