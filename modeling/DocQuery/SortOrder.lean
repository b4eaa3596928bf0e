import DocQuery.Error
import DocQuery.Schema.Basic
import DocQuery.Text.Category
import DocQuery.Text.Split

/-!
# Orders on documents

An order is a list of fields, the first of which decides, ties going to the next. It is written as
field names between commas, a hyphen in front of a name for falling order.

* `SortOrder.parse`, `SortOrder.text`, `SortOrder.validate`.
* `SortOrder.compare` — how two documents stand: a missing value comes before every other, present
  ones are told apart by the field's type or, without one, as numbers, strings or booleans.
* `SortOrder.apply` — sorts by insertion from the end, so that equal documents keep their places.

Main statements: `SortOrder.insert_perm`, `SortOrder.apply_perm`, `SortOrder.apply_nil`.
-/

set_option autoImplicit false

namespace DocQuery

/-- One field of an order. -/
structure SortKey where
  name : String
  reversed : Bool
  deriving DecidableEq, Repr

/-- The fields of an order, the deciding one first. -/
abbrev SortOrder := List SortKey

namespace SortOrder

/-! ## Text -/

/-- One part between commas, without the blanks around it. -/
def parseKey (part : List Char) : Except Error SortKey :=
  match trim part with
  | [] => .error (.unreadable "empty sort field")
  | ['-'] => .error (.unreadable "empty sort field")
  | '-' :: name => .ok ⟨String.ofList name, true⟩
  | name => .ok ⟨String.ofList name, false⟩

/-- Reads an order; a blank text is the empty order. -/
def parse (text : String) : Except Error SortOrder :=
  if text.toList.all isBlank then .ok []
  else (splitAtEach ',' text.toList).mapM parseKey

def keyText (k : SortKey) : String := if k.reversed then "-" ++ k.name else k.name

def text (order : SortOrder) : String := ",".intercalate (order.map keyText)

/-- Every field has to be known and sortable. -/
def validate : SortOrder → Schema → Except Error Unit
  | [], _ => .ok ()
  | k :: ks, fields =>
    match Schema.lookup fields k.name with
    | none => .error (.invalid ("invalid sort field: " ++ k.name))
    | some f =>
      if f.sortable then validate ks fields
      else .error (.invalid ("field is not sortable: " ++ k.name))

/-! ## Comparison -/

/-- The order of values of no particular type: numbers, strings and booleans among themselves. -/
def plainLess : Value → Value → Bool
  | .number a, .number b => a.bound.less b.bound
  | .string a, .string b => a < b
  | .bool a, .bool b => !a && b
  | _, _ => false

/-- How two values stand; a missing one comes first. -/
def compareValues (less : Value → Value → Bool) : Option Value → Option Value → Ordering
  | none, none => .eq
  | none, some _ => .lt
  | some _, none => .gt
  | some a, some b => if less a b then .lt else if less b a then .gt else .eq

/-- The strict order of a field's values. -/
def lessOf (fields : Schema) (name : String) : Value → Value → Bool :=
  (((Schema.lookup fields name).bind Field.validator).bind Validator.less?).getD plainLess

/-- How two documents stand by one field. -/
def compareBy (fields : Schema) (k : SortKey) (a b : Document) : Ordering :=
  let value (doc : Document) : Option Value := Document.lookup doc k.name
  let o := compareValues (lessOf fields k.name) (value a) (value b)
  if k.reversed then o.swap else o

/-- How two documents stand: the first field that tells them apart decides. -/
def compare (order : SortOrder) (fields : Schema) (a b : Document) : Ordering :=
  match order with
  | [] => .eq
  | k :: ks => (compareBy fields k a b).then (compare ks fields a b)

/-! ## Sorting -/

/-- Puts `a` into documents that are sorted from the end: in front of the first one that it does
not come before. -/
def insert (before : Document → Document → Bool) (a : Document) : List Document → List Document
  | [] => [a]
  | b :: bs => if before a b then b :: insert before a bs else a :: b :: bs

/-- Sorts documents, equal ones in their order. -/
def apply (order : SortOrder) (fields : Schema) (docs : List Document) : List Document :=
  let before (a b : Document) : Bool := compare order fields a b == .lt
  (docs.foldl (fun sorted a => insert before a sorted) []).reverse

theorem insert_perm (before : Document → Document → Bool) (a : Document) (bs : List Document) :
    (insert before a bs).Perm (a :: bs) := by
  induction bs with
  | nil => exact .refl _
  | cons b bs ih =>
    rw [insert]
    split
    · exact (ih.cons b).trans (.swap a b bs)
    · exact .refl _

theorem foldl_insert_perm (before : Document → Document → Bool) (docs sorted : List Document) :
    (docs.foldl (fun s a => insert before a s) sorted).Perm (docs ++ sorted) := by
  induction docs generalizing sorted with
  | nil => exact .refl _
  | cons a docs ih =>
    refine (ih _).trans ?_
    refine ((insert_perm before a sorted).append_left docs).trans ?_
    exact List.perm_middle

theorem apply_perm (order : SortOrder) (fields : Schema) (docs : List Document) :
    (apply order fields docs).Perm docs := by
  refine (List.reverse_perm _).trans ?_
  simpa using foldl_insert_perm _ docs []

/-- The empty order leaves documents as they are. -/
theorem apply_nil (fields : Schema) (docs : List Document) : apply [] fields docs = docs := by
  suffices hfold : ∀ sorted : List Document,
      docs.foldl (fun s a => insert (fun _ _ => false) a s) sorted = docs.reverse ++ sorted by
    show (docs.foldl (fun s a => insert (fun _ _ => false) a s) []).reverse = docs
    rw [hfold [], List.append_nil, List.reverse_reverse]
  induction docs with
  | nil => exact fun _ => rfl
  | cons a docs ih =>
    intro sorted
    have hinsert : insert (fun _ _ => false) a sorted = a :: sorted := by cases sorted <;> rfl
    rw [List.foldl_cons, hinsert, ih, List.reverse_cons, List.append_assoc]
    rfl

end SortOrder

end DocQuery
