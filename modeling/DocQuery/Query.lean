import DocQuery.Predicate.Parser
import DocQuery.Predicate.Text
import DocQuery.Projection.Parser
import DocQuery.Projection.Validate
import DocQuery.Window

/-!
# Queries

A query says which documents of a collection are wanted, in which order, which stretch of them, and
in which shape.

* `Query`, `Query.ofTexts`, `Query.validate`.
* `Query.apply` — the documents that pass, in order, within the window; their shape is the business
  of evaluation.

Main statement: `Query.mem_of_mem_apply`.
-/

set_option autoImplicit false

namespace DocQuery

variable [RegexEngine]

structure Query where
  projection : Projection := []
  predicate : Predicate := []
  order : SortOrder := []
  /-- The whole result where there is none. -/
  window : Option Window := none
  deriving Inhabited

namespace Query

/-- A query for all fields of the documents that pass. -/
def ofPredicate (p : Predicate) : Query := ⟨[], p, [], none⟩

/-- Reads the parts of a query. -/
def ofTexts (projection predicate order : String) (window : Option Window) :
    Except Error Query := do
  let projection ← Projection.parse projection
  let predicate ← Predicate.parse predicate
  let order ← SortOrder.parse order
  .ok ⟨projection, predicate, order, window⟩

/-- Checks and coerces the projection. -/
def validateProjection (catalog : Catalog) (fields : Schema) (q : Query) : Coercion Query :=
  (q.projection.validate catalog fields).map fun p => { q with projection := p }

/-- Checks and coerces the predicate. -/
def validatePredicate (fields : Schema) (q : Query) : Coercion Query :=
  (q.predicate.validate fields).map fun p => { q with predicate := p }

/-- Checks the order. -/
def validateOrder (fields : Schema) (q : Query) : Coercion Query :=
  .check q (q.order.validate fields)

/-- Checks and coerces a query: its projection, then its predicate, then its order. -/
def validate (q : Query) (catalog : Catalog) (fields : Schema) : Coercion Query :=
  ((q.validateProjection catalog fields).andThen (validatePredicate fields)).andThen
    (validateOrder fields)

/-- The documents that a query asks for. -/
def apply (q : Query) (fields : Schema) (docs : List Document) : List Document :=
  let ordered := q.order.apply fields (docs.filter q.predicate.accepts)
  match q.window with
  | none => ordered
  | some w => w.apply ordered

/-- Whether a query has neither an order nor a window, so that only what it asks for matters. -/
def isUnordered (q : Query) : Bool := q.order.isEmpty && q.window.isNone

theorem mem_of_mem_apply {q : Query} {fields : Schema} {docs : List Document} {d : Document}
    (h : d ∈ q.apply fields docs) : d ∈ docs ∧ q.predicate.accepts d = true := by
  have hp := SortOrder.apply_perm q.order fields (docs.filter q.predicate.accepts)
  have key : d ∈ q.order.apply fields (docs.filter q.predicate.accepts) := by
    simp only [apply] at h
    split at h
    · exact h
    · simp only [Window.apply] at h
      split at h
      · exact List.mem_of_mem_drop h
      · exact List.mem_of_mem_drop (List.mem_of_mem_take h)
  simpa using hp.mem_iff.1 key

end Query

end DocQuery
