/-!
# Machine words of 64 bits

The bounds that integers of settings, windows and counts are held to. Integers themselves are
unbounded here; a word is an integer between `Word.least` and `Word.greatest`.

Main statement: `Word.clamp_eq_self_iff`, clamping leaves exactly the words alone.
-/

set_option autoImplicit false

namespace DocQuery.Word

/-- The least signed word. -/
def least : Int := -9223372036854775808

/-- The greatest signed word. -/
def greatest : Int := 9223372036854775807

/-- The greatest unsigned word. -/
def greatestUnsigned : Nat := 18446744073709551615

/-- The signed word nearest to an integer. -/
def clamp (i : Int) : Int := max least (min greatest i)

/-- The unsigned word nearest to an integer. -/
def clampUnsigned (i : Int) : Nat := min greatestUnsigned i.toNat

theorem clamp_eq_self_iff (i : Int) : clamp i = i ↔ least ≤ i ∧ i ≤ greatest := by
  unfold clamp least greatest
  omega

end DocQuery.Word
