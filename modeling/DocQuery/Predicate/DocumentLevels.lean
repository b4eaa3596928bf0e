import DocQuery.Predicate.DocumentGrammar

/-!
# Levels of predicates

A document that stands for a predicate holds further ones: the elements of its junctions. Each of
them is a level, and so are the elements of a junction that is written under a field. The levels of
the predicate that is read are the expressions that stand side by side in it.

* `PredicateDocument.Joins`, `PredicateDocument.Level` — the levels of a document.
* `PredicateDocument.Printable` — the documents whose predicates a text can tell.
* `Predicate.Level` — the levels of a predicate.
-/

set_option autoImplicit false

namespace DocQuery

open Operator

namespace PredicateDocument

/-- The lists that junctions join, at a level of a document or in an object that it binds to a
field. -/
inductive Joins (level : List (String × Value)) : List Value → Prop
  | own {key : String} {items : List Value} (mem : (key, .array items) ∈ level)
    (junction : IsJunction key) : Joins level items
  | bound {field key : String} {sub : List (String × Value)} {items : List Value}
    (outer : (field, .object sub) ∈ level) (mem : (key, .array items) ∈ sub)
    (junction : IsJunction key) : Joins level items

/-- The levels of predicates in a document: the document itself, and those of what is joined. -/
inductive Level : List (String × Value) → List (String × Value) → Prop
  | top {entries : List (String × Value)} : Level entries entries
  | joined {entries sub level : List (String × Value)} {items : List Value}
    (joins : Joins entries items) (element : .object sub ∈ items) (inside : Level sub level) :
    Level entries level

/-- No junction has an empty document among its elements, and no field has the name of the operator
on elements, which documents do not know. -/
structure Printable (entries : List (String × Value)) : Prop where
  elements {level : List (String × Value)} {items : List Value} :
    Level entries level → Joins level items → .object [] ∉ items
  fields {level : List (String × Value)} :
    Level entries level → ∀ e ∈ level, e.1 ≠ anyElement.name

end PredicateDocument

variable [RegexEngine]

/-- The levels of a predicate: its own expressions, and those that an element of a junction stands
for. -/
inductive Predicate.Level : List Expression → List Expression → Prop
  | top {es : List Expression} : Level es es
  | joined {es subs sub level : List Expression} (junction : .and subs ∈ es ∨ .or subs ∈ es)
    (element : ofElement sub ∈ subs) (inside : Level sub level) : Level es level

end DocQuery
