import DocQuery.SortOrder

/-!
# Sorted documents

What it is that documents are sorted by an order, whatever the way to get there.

* `StrictWeakOn`, `OneKind`, `SortKey.Orders` — that the values of a field can be ordered.
* `Value.Intrudes` — a value of another kind among two that are ordered.
* `SortKey.Precedes`, `SortOrder.Precedes` — which of two documents comes first: the first field
  that tells them apart decides.
* `SortOrder.StablySorts` — the same documents in order, ties in the order they came in.
-/

set_option autoImplicit false

namespace DocQuery

/-- `less` is a strict weak order on the values `vs`: no cycles, and values that are not told apart
stand in the same way to all others. -/
structure StrictWeakOn (less : Value → Value → Bool) (vs : List Value) : Prop where
  irrefl : ∀ a ∈ vs, less a a = false
  trans : ∀ a ∈ vs, ∀ b ∈ vs, ∀ c ∈ vs, less a b = true → less b c = true → less a c = true
  ties_trans : ∀ a ∈ vs, ∀ b ∈ vs, ∀ c ∈ vs, less a b = false → less b a = false →
    less b c = false → less c b = false → less a c = false ∧ less c a = false

/-- Values of one kind: all numbers, all strings or all Booleans. -/
inductive OneKind : List Value → Prop
  | numbers (ns : List Number) : OneKind (ns.map .number)
  | strings (ss : List String) : OneKind (ss.map .string)
  | bools (bs : List Bool) : OneKind (bs.map .bool)

/-- Two values of one kind: both numbers, both strings or both Booleans. -/
inductive Value.SameKind : Value → Value → Prop
  | numbers (m n : Number) : SameKind (.number m) (.number n)
  | strings (s t : String) : SameKind (.string s) (.string t)
  | bools (b c : Bool) : SameKind (.bool b) (.bool c)

/-- The second value is of another kind than the other two, of which the third is less than the
first. -/
inductive Value.Intrudes : Option Value → Option Value → Option Value → Prop
  | between {a b c : Value} (less : SortOrder.plainLess c a = true) (other : ¬a.SameKind b) :
    Intrudes (some a) (some b) (some c)

/-- Whether a value comes before another one; a missing value comes before all others. -/
def Value.Lower (less : Value → Value → Bool) : Option Value → Option Value → Prop
  | none, some _ => True
  | some a, some b => less a b = true
  | _, none => False

instance (less : Value → Value → Bool) (x y : Option Value) : Decidable (Value.Lower less x y) :=
  match x, y with
  | none, some _ => isTrue trivial
  | some a, some b => inferInstanceAs (Decidable (less a b = true))
  | none, none => isFalse id
  | some _, none => isFalse id

namespace SortKey

variable (fields : Schema)

/-- The values of the field in documents that have it. -/
def values (k : SortKey) (docs : List Document) : List Value :=
  docs.filterMap fun doc => Document.lookup doc k.name

/-- That the field orders documents: by its type, or else because its values are of one kind. -/
def Orders (k : SortKey) (docs : List Document) : Prop :=
  match ((Schema.lookup fields k.name).bind Field.validator).bind Validator.less? with
  | some less => StrictWeakOn less (k.values docs)
  | none => OneKind (k.values docs)

/-- Whether a document comes before another one by the field. -/
def Precedes (k : SortKey) (a b : Document) : Prop :=
  let first := if k.reversed then b else a
  let second := if k.reversed then a else b
  Value.Lower (SortOrder.lessOf fields k.name) (Document.lookup first k.name)
    (Document.lookup second k.name)

instance (k : SortKey) (a b : Document) : Decidable (k.Precedes fields a b) :=
  inferInstanceAs (Decidable (Value.Lower _ _ _))

/-- The field does not tell the documents apart. -/
def Ties (k : SortKey) (a b : Document) : Prop :=
  ¬k.Precedes fields a b ∧ ¬k.Precedes fields b a

instance (k : SortKey) (a b : Document) : Decidable (k.Ties fields a b) :=
  inferInstanceAs (Decidable (_ ∧ _))

end SortKey

namespace SortOrder

variable (fields : Schema) (order : SortOrder)

/-- Every field of the order orders the documents. -/
def Orders (docs : List Document) : Prop := ∀ k ∈ order, k.Orders fields docs

/-- A document comes before another one by the first field that tells them apart. -/
def Precedes (a b : Document) : Prop :=
  ∃ before k after, order = before ++ k :: after ∧ (∀ j ∈ before, j.Ties fields a b) ∧
    k.Precedes fields a b

/-- No field tells the documents apart. -/
def Ties (a b : Document) : Prop := ∀ k ∈ order, k.Ties fields a b

instance (a b : Document) : Decidable (order.Ties fields a b) :=
  inferInstanceAs (Decidable (∀ k ∈ order, k.Ties fields a b))

/-- `sorted` are the documents `docs` in order, those that are not told apart in the order in which
they came. -/
structure StablySorts (docs sorted : List Document) : Prop where
  perm : sorted.Perm docs
  ordered : sorted.Pairwise fun a b => ¬order.Precedes fields b a
  stable : ∀ a ∈ docs, sorted.filter (order.Ties fields a) = docs.filter (order.Ties fields a)

end SortOrder

end DocQuery
