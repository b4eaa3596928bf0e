import DocQuery.Assoc
import DocQuery.Evaluation.Batch

/-!
# The registry of a pass

Requests are registered one by one, by the walk of a document and by requests that are resumed,
until the next pass takes all lookups at once. Beside the lookups the registry keeps, for every path
with a shared lookup, where that lookup is; so a request joins it without a search.

* `Registry` — the lookups, and where the shared ones are.
* `Registry.request`, `Registry.drain` — registering a request, and taking all lookups.
-/

set_option autoImplicit false

namespace DocQuery

variable [RegexEngine]

/-- The lookups that wait for the next pass. -/
structure Registry where
  batches : List Batch := []
  /-- The place of the shared lookup of a path. -/
  sharedAt : Assoc Nat := []

namespace Batch

/-- Lets one more request wait for a shared lookup. -/
def extended (id : Value) (t : Ticket) : Batch → Option Batch
  | single _ => none
  | shared path waiting => some (shared path (waiting ++ [(id, t)]))

end Batch

namespace Registry

/-- The lookups once a request for one id has joined the shared lookup of its path, if the path has
one. -/
def joined (r : Registry) (id : Value) (t : Ticket) : Option (List Batch) := do
  let index ← r.sharedAt.get? t.1.path
  let b ← r.batches[index]?
  let b ← b.extended id t
  some (r.batches.set index b)

/-- Registers a request for the next pass. -/
def request (coalesce : Bool) (r : Registry) (t : Ticket) : Registry :=
  match Batch.sharedId? coalesce t with
  | none => { r with batches := r.batches ++ [.single t] }
  | some id =>
    match r.joined id t with
    | some batches => { r with batches := batches }
    | none =>
      ⟨r.batches ++ [.shared t.1.path [(id, t)]], r.sharedAt.put t.1.path r.batches.length⟩

/-- Takes all lookups; the registry is empty afterwards. -/
def drain (r : Registry) : List Batch × Registry := (r.batches, { })

end Registry

end DocQuery
