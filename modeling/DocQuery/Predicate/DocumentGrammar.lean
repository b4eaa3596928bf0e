import DocQuery.Predicate.Document

/-!
# Documents that stand for predicates

Which documents stand for a predicate, and when it holds, apart from how they are read. The entries
of a document are joined by "and"; the values under `$and` and `$or` are lists of such documents,
and the values under other keys are compared with fields.

* `Operator.IsJunction`, `Operator.IsFieldKey` — what a key may be, besides an operator.
* `DocumentOperator.Admits`, `DocumentOperator.Holds` — the operands of an operator, and when it
  holds.
* `PredicateDocument.Acceptable`, `PredicateDocument.Holds` — the same of a whole document.
* `PredicateDocument.Stated` — the entries at the level of predicates.
* `PredicateDocument.JunctionsApart` — no junction stands under a field.
* `PredicateDocument.DisjunctsProper` — no disjunct is empty.
-/

set_option autoImplicit false

namespace DocQuery

namespace Operator

/-- The label of a conjunction or a disjunction. -/
def IsJunction (key : String) : Prop := key = andName ∨ key = orName

instance (key : String) : Decidable (IsJunction key) := inferInstanceAs (Decidable (_ ∨ _))

/-- A key that is neither the label of a junction nor an operator of documents. -/
def IsFieldKey (key : String) : Prop :=
  ¬IsJunction key ∧ DocumentOperator.ofName? key = none

instance (key : String) : Decidable (IsFieldKey key) := inferInstanceAs (Decidable (_ ∧ _))

end Operator

/-- The candidates of a membership test; a value that is no list is the only one. -/
def Value.members : Value → List Value
  | .array items => items
  | v => [v]

variable [RegexEngine]

namespace DocumentOperator

/-- Whether an operator may have an operand. -/
def Admits : DocumentOperator → Value → Prop
  | regex, operand =>
    ∃ source pattern, operand = .string source ∧ Pattern.ofSource source = .ok pattern
  | exist, operand => ∃ b, operand = .bool b
  | notEqual, _ => True
  | among, operand | notAmong, operand => ∀ entries, operand ≠ .object entries
  | compare _, operand => ∃ bound, operand.bound? = some bound

/-- Whether an operator with its operand holds of a field. -/
def Holds (doc : Document) (field : String) : DocumentOperator → Value → Prop
  | regex, operand =>
    ∃ source pattern text, operand = .string source ∧ Pattern.ofSource source = .ok pattern ∧
      Document.lookup doc field = some (.string text) ∧ pattern.isMatch text = true
  | exist, operand => operand = .bool (Document.lookup doc field).isSome
  | notEqual, operand => ¬equalTo (valueAt doc field) operand = true
  | among, operand => isAmong (valueAt doc field) operand.members = true
  | notAmong, operand => ¬isAmong (valueAt doc field) operand.members = true
  | compare c, operand =>
    ∃ n bound, (Document.lookup doc field).bind Value.bound? = some n ∧
      operand.bound? = some bound ∧ c.holds n bound = true

end DocumentOperator

namespace PredicateDocument

open Operator

mutual

/-- Whether entries stand for expressions. -/
def entriesAcceptable : List (String × Value) → Prop
  | [] => True
  | (key, value) :: entries => entryAcceptable key value ∧ entriesAcceptable entries

/-- A junction has at least two documents to join; the object under a field is empty or holds
operators only. -/
def entryAcceptable (key : String) : Value → Prop
  | .array items =>
    IsJunction key ∧ 2 ≤ items.length ∧ elementsAcceptable items ∨ IsFieldKey key
  | .object entries =>
    IsFieldKey key ∧
      ∀ e ∈ entries, ∃ op, DocumentOperator.ofName? e.1 = some op ∧ op.Admits e.2
  | _ => IsFieldKey key

def elementsAcceptable : List Value → Prop
  | [] => True
  | .object entries :: items => entriesAcceptable entries ∧ elementsAcceptable items
  | _ :: _ => False

end

mutual

/-- Whether all entries hold of a document. -/
def entriesHold (doc : Document) : List (String × Value) → Prop
  | [] => True
  | (key, value) :: entries => entryHolds doc key value ∧ entriesHold doc entries

/-- Whether an entry holds: all or some of the documents that are joined, all operators on a field,
or an equality. -/
def entryHolds (doc : Document) (key : String) : Value → Prop
  | .array items =>
    if key = andName then everyElementHolds doc items
    else if key = orName then someElementHolds doc items
    else equalTo (valueAt doc key) (.array items) = true
  | .object (e :: entries) =>
    ∀ e' ∈ e :: entries, ∃ op, DocumentOperator.ofName? e'.1 = some op ∧ op.Holds doc key e'.2
  | value => equalTo (valueAt doc key) value = true

def everyElementHolds (doc : Document) : List Value → Prop
  | [] => True
  | .object entries :: items => entriesHold doc entries ∧ everyElementHolds doc items
  | _ :: _ => False

def someElementHolds (doc : Document) : List Value → Prop
  | [] => False
  | .object entries :: items => entriesHold doc entries ∨ someElementHolds doc items
  | _ :: items => someElementHolds doc items

end

/-- Whether a value stands for a predicate. -/
def Acceptable : Value → Prop
  | .object entries => entriesAcceptable entries
  | _ => False

/-- Whether the predicate that a value stands for holds of a document. -/
def Holds (doc : Document) : Value → Prop
  | .object entries => entriesHold doc entries
  | _ => False

/-- The entries at the level of predicates: those of the document itself, and those of the documents
that are joined there. -/
inductive Stated : List (String × Value) → String × Value → Prop
  | own {entries : List (String × Value)} {e : String × Value} (mem : e ∈ entries) :
    Stated entries e
  | joined {entries sub : List (String × Value)} {key : String} {items : List Value}
    {e : String × Value} (mem : (key, .array items) ∈ entries) (junction : IsJunction key)
    (element : .object sub ∈ items) (stated : Stated sub e) : Stated entries e

/-- No document that is bound to a field holds `$and` or `$or`. -/
def JunctionsApart (entries : List (String × Value)) : Prop :=
  ∀ key sub, Stated entries (key, .object sub) → IsFieldKey key → ∀ e ∈ sub, ¬IsJunction e.1

/-- No disjunction has an empty document among those that it joins. -/
def DisjunctsProper (entries : List (String × Value)) : Prop :=
  ∀ items, Stated entries (orName, .array items) → .object [] ∉ items

end PredicateDocument

end DocQuery
