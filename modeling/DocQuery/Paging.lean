import DocQuery.Query

/-!
# Pages of a result

* `Word.Fits`, `Word.difference?`, `Word.product`, `Word.sum`, `Word.unsigned?` — arithmetic of
  signed words: a difference has to be a word, products and sums stop at the nearest one.
* `Window.pageInWords` — the window of a page worked out in this arithmetic, if every step of it is
  possible.
* `Query.pages` — the first pages of a result, one after the other.
-/

set_option autoImplicit false

namespace DocQuery

namespace Word

/-- Whether an integer is a signed word. -/
def Fits (i : Int) : Prop := least ≤ i ∧ i ≤ greatest

instance (i : Int) : Decidable (Fits i) := inferInstanceAs (Decidable (_ ∧ _))

/-- The difference of two words, unless it is too small or too great for a word. -/
def difference? (a b : Int) : Option Int := if Fits (a - b) then some (a - b) else none

/-- The word nearest to the product of two words. -/
def product (a b : Int) : Int := clamp (a * b)

/-- The word nearest to the sum of two words. -/
def sum (a b : Int) : Int := clamp (a + b)

/-- A word as an unsigned one, unless it is negative. -/
def unsigned? (i : Int) : Option Nat := if 0 ≤ i then some i.toNat else none

end Word

/-- The window of a page in the arithmetic of words; nothing where a difference leaves the words or
a negative word would become an unsigned one. -/
def Window.pageInWords (page perPage skip : Int) : Option (Option Window) :=
  if perPage < 0 then
    if 0 < skip then (Word.unsigned? skip).map fun offset => some ⟨offset, perPage⟩
    else some none
  else do
    let earlier ← Word.difference? (max page 1) 1
    let offset ← Word.unsigned? (Word.sum (Word.product earlier perPage) (max skip 0))
    some (some ⟨offset, perPage⟩)

variable [RegexEngine]

/-- The first `count` pages of what a query asks for, one after the other. -/
def Query.pages (q : Query) (perPage skip : Int) (count : Nat) (fields : Schema)
    (docs : List Document) : List Document :=
  (List.range count).flatMap fun before =>
    { q with window := Window.page (before + 1) perPage skip }.apply fields docs

end DocQuery
