import DocQuery.Evaluation.Drafting
import DocQuery.Evaluation.Run

/-!
# Resolution passes

Requests are resolved pass after pass. A pass makes one lookup after the other and resumes the
requests that wait for it; the drafts that come out may hold requests of their own, which are
registered for the next pass in the order in which the drafts came out. Every lookup of a pass is
made, even after one failed; the first failure ends the evaluation.

* `Batch.resume` — a lookup, and the drafts of the requests that wait for it.
* `Answers`, `settle` — the drafts of all requests once every pass is through.

Main statement: `settle_nil`.
-/

set_option autoImplicit false

namespace DocQuery

variable [RegexEngine]

/-- What a pass needs to know. -/
structure Passes where
  scope : Scope
  coalesce : Bool
  resolver : Resolver

/-- The finished drafts of requests by their number. -/
abbrev Answers := Nat → Draft Empty

/-- Makes a lookup and resumes the requests that wait for it, up to the first failure. -/
def Batch.resume (ps : Passes) (b : Batch) : Except Error (List (Nat × Draft Request)) := do
  let answer ← ps.resolver b.lookup.path b.lookup.query
  (b.answers answer).mapM fun w =>
    (w.1.1.resume (Projection.draft ps.scope) w.2).map fun d => (w.1.2, d)

namespace Passes

/-- One pass over lookups: the drafts that come out, in order, or the first failure. -/
def resumeAll (ps : Passes) (batches : List Batch) : Except Error (List (Nat × Draft Request)) :=
  (batches.mapM (Batch.resume ps)).map List.flatten

/-- Drafts by the number of the request that each answers. -/
def place (drafts : List (Nat × Draft Empty)) : Answers := fun n =>
  ((drafts.find? fun p => p.1 == n).map Prod.snd).getD (.value .null)

/-- What stands for a result where requests wait but no further pass is allowed. -/
def unfinished : Error := .internal "more passes needed"

/-- Runs passes until no request waits, `limit` of them at most; `done` passes are through. -/
def settle (ps : Passes) : Nat → Nat → List Ticket → Run (Answers × Nat)
  | _, done, [] => pure (place [], done)
  | 0, _, _ :: _ => Run.fail unfinished
  | limit + 1, done, t :: ts => do
    let batches := Batch.ofTickets ps.coalesce (t :: ts)
    let pass := ("pass", toString (done + 1))
    Run.look (batches.map Batch.lookup)
    match ps.resumeAll batches with
    | .error e =>
      Run.report .passFailed [pass, ("error", e.message)]
      Run.fail e
    | .ok resumed =>
      Run.report .passResolved [pass, ("requests", toString batches.length)]
      let drafts := Draft.numberItems 0 (resumed.map Prod.snd)
      let (answers, passes) ← settle ps limit (done + 1) (Draft.requestsOfItems drafts)
      let finished := Draft.bindItems (fun u => answers u.2) drafts
      pure (place ((resumed.map Prod.fst).zip finished), passes)

theorem settle_nil (ps : Passes) (limit done : Nat) :
    ps.settle limit done [] = pure (place [], done) := by
  cases limit <;> rfl

end Passes

end DocQuery
