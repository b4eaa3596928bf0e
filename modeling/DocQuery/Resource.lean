import DocQuery.Evaluation.Request
import DocQuery.Evaluation.Batch

/-!
# Resources

A resource is a collection of documents behind a path. It finds the documents of a query, and gets
those of several ids at once. A query for ids alone, without order and window, is better answered
by the latter.

* `Resource`, `Access` — a collection, and the ways to read it.
* `Access.ofQuery` — the better way to answer a query.
* `Resource.Serves` — a resource that holds documents and reads them faithfully.
* `Resolver.ofResources` — answers queries from resources, each in a way of choice.

Main statements: `Access.ofQuery_ofIds`, `Resource.Serves.mem_of_read`.
-/

set_option autoImplicit false

namespace DocQuery

variable [RegexEngine]

/-- A queryable collection of documents. -/
structure Resource where
  fields : Schema
  find : Query → Except Error (List Document)
  /-- The documents of ids, one outcome for every id. -/
  multiGet : List Value → Except Error (List (Option Document))

/-- A way to read a resource. -/
inductive Access
  | find (query : Query)
  | multiGet (ids : List Value)

namespace Access

/-- Ids alone are got at once, all else is searched for. -/
def ofQuery (q : Query) : Access :=
  match q.idList? with
  | some ids => multiGet ids
  | none => find q

theorem ofQuery_ofIds (ids : List Value) : ofQuery (.ofIds ids) = multiGet ids := by
  simp [ofQuery, Query.idList?, Query.isUnordered, Query.ofIds, Query.ofPredicate,
    Predicate.idList?]

end Access

/-- A resource that holds documents: it searches them, and gets the first one of every id. -/
structure Resource.Serves (r : Resource) (docs : List Document) : Prop where
  find (q : Query) : r.find q = .ok (q.apply r.fields docs)
  multiGet (ids : List Value) :
    r.multiGet ids = .ok (ids.map fun id => docs.find? (Document.hasId id))

/-- Reads a resource. An answer for another number of ids than asked for is a fault of the
resource. -/
def Resource.read (r : Resource) (path : String) : Access → Except Error (List Document)
  | .find q => r.find q
  | .multiGet ids => do
    let found ← r.multiGet ids
    if found.length = ids.length then .ok (found.filterMap id)
    else
      .error (.internal ("invalid number of items returned by multi_get on " ++ path ++ ": " ++
        toString found.length ++ " for " ++ toString ids.length ++ " ids"))

namespace Resource.Serves

variable {r : Resource} {docs : List Document}

theorem read_find (h : r.Serves docs) (path : String) (q : Query) :
    r.read path (.find q) = .ok (q.apply r.fields docs) := h.find q

theorem read_multiGet (h : r.Serves docs) (path : String) (ids : List Value) :
    r.read path (.multiGet ids) =
      .ok (ids.filterMap fun id => docs.find? (Document.hasId id)) := by
  rw [read, h.multiGet]
  refine (if_pos (List.length_map _)).trans ?_
  rw [List.filterMap_map]
  rfl

/-- Only documents of the resource come back. -/
theorem mem_of_read (h : r.Serves docs) {path : String} {a : Access} {found : List Document}
    (hread : r.read path a = .ok found) {doc : Document} (hdoc : doc ∈ found) : doc ∈ docs := by
  cases a with
  | find q =>
    rw [h.read_find] at hread
    cases hread
    exact (Query.mem_of_mem_apply hdoc).1
  | multiGet ids =>
    rw [h.read_multiGet] at hread
    cases hread
    obtain ⟨id, -, hid⟩ := List.mem_filterMap.1 hdoc
    exact List.mem_of_find?_eq_some hid

end Resource.Serves

/-- Answers queries from the resources behind paths. -/
def Resolver.ofResources (resources : String → Except Error Resource) (access : Query → Access) :
    Resolver := fun path query => do
  let r ← resources path
  let items ← r.read path (access query)
  .ok ⟨items, r.fields⟩

namespace Resolver

variable {resources : String → Except Error Resource} {access : Query → Access} {path : String}

theorem ofResources_of_ok {r : Resource} (h : resources path = .ok r) (q : Query) :
    ofResources resources access path q =
      (r.read path (access q)).map fun items => ⟨items, r.fields⟩ := by
  simp only [ofResources, h]
  rfl

theorem ofResources_of_error {e : Error} (h : resources path = .error e) (q : Query) :
    ofResources resources access path q = .error e := by
  simp only [ofResources, h]
  rfl

end Resolver

end DocQuery
