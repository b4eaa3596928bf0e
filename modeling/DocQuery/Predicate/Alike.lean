import DocQuery.Predicate.Validate
import DocQuery.Predicate.WellFormed

/-!
# Predicates of one meaning

Two predicates are alike when they are one tree but for the form of what they compare with: their
literals are alike, whichever form a number has and in whichever order keys come, and so are the
bounds of their comparisons.

* `Expression.Alike`, `Predicate.Alike` — predicates of one meaning.
* `Validator.KeepsMeaning` — a field type that leaves the meaning of literals alone.
* `Schema.Tests` — the fields that predicates on a schema may come to.
-/

set_option autoImplicit false

namespace DocQuery

variable [RegexEngine]

namespace Expression

mutual

/-- One test, on literals of one meaning. -/
def Alike : Expression → Expression → Prop
  | and as, and bs => AlikeAll as bs
  | or as, or bs => AlikeAll as bs
  | equal f v, equal g w => f = g ∧ v.alike w = true
  | notEqual f v, notEqual g w => f = g ∧ v.alike w = true
  | among f vs, among g ws => f = g ∧ Value.alikeItems vs ws = true
  | notAmong f vs, notAmong g ws => f = g ∧ Value.alikeItems vs ws = true
  | exist f, exist g => f = g
  | notExist f, notExist g => f = g
  | compare c f a, compare d g b => c = d ∧ f = g ∧ (a = b ∨ a.alike b = true)
  | regex f p, regex g q => f = g ∧ p = q
  | anyElement f as, anyElement g bs => f = g ∧ AlikeAll as bs
  | _, _ => False

def AlikeAll : List Expression → List Expression → Prop
  | [], [] => True
  | a :: as, b :: bs => a.Alike b ∧ AlikeAll as bs
  | _, _ => False

end

end Expression

/-- One predicate, on literals of one meaning. -/
def Predicate.Alike (p q : Predicate) : Prop := Expression.AlikeAll p q

/-- A field type that takes a literal only for one of the same meaning. What it gives back is a
value, in which no key stands twice where none did before. -/
structure Validator.KeepsMeaning (t : Validator) : Prop where
  alike {v w : Value} : t.validateQuery v = .ok w → v.alike w = true
  keys {v w : Value} : t.validateQuery v = .ok w → v.KeysDistinct → w.KeysDistinct

/-- The fields that a predicate may test: those of a schema, and those of the documents in its
lists. -/
inductive Schema.Tests : Schema → Field → Prop
  | own {fields : Schema} {name : String} {f : Field}
    (declared : Schema.lookup fields name = some f) : Schema.Tests fields f
  | element {fields sub : Schema} {name : String} {f g : Field}
    (declared : Schema.lookup fields name = some f)
    (elements : Predicate.elementFields f name = .ok sub) (tested : Schema.Tests sub g) :
    Schema.Tests fields g

/-- No field type changes the meaning of a literal. -/
def Schema.KeepsMeaning (fields : Schema) : Prop :=
  ∀ f, fields.Tests f → ∀ t, f.validator = some t → t.KeepsMeaning

end DocQuery
