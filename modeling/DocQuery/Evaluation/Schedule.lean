import DocQuery.Evaluation.Evaluator
import Mathlib.Logic.Relation

/-!
# Schedules of a pass

The lookups of a pass run at the same time, a task each. A task asks the resolver and then resumes
the requests that wait for it, one after the other: the walk of the documents that came back
registers its own requests one by one, after which the draft is put in its place. Between any two of
these steps the other tasks of the pass may go on. Once every task has ended the next pass begins,
or the evaluation ends with one of the failures of the pass.

* `Task`, `Shared`, `State` — a lookup on its way, what the tasks share, and an evaluation.
* `Task.Step`, `State.Step` — one step of a task, and of an evaluation.
* `State.Inevitable` — what every schedule comes to.
* `Evaluator.start` — the walk of the document, before the first pass.
-/

set_option autoImplicit false

namespace DocQuery

variable [RegexEngine]

/-- A lookup of a pass on its way. -/
inductive Task
  /-- The resolver has not answered yet. -/
  | asking (b : Batch)
  /-- These requests still wait, each for its part of the answer. -/
  | resuming (waiting : List (Ticket × Resolved))
  /-- The draft of `t` is walked; the first of its requests are registered under `numbers`. -/
  | registering (t : Ticket) (d : Draft Request) (numbers : List Nat)
    (waiting : List (Ticket × Resolved))

/-- The requests of a draft under the numbers that they were registered under. -/
def Draft.label (d : Draft Request) (numbers : List Nat) : Draft Ticket :=
  (d.number 0).bind fun u => .pending (u.1, numbers.getD u.2 0)

/-- What the tasks of an evaluation share. -/
structure Shared where
  /-- The output, in which the places of requests are known by their numbers. -/
  tree : Draft Ticket
  /-- The number of the next request. -/
  next : Nat
  /-- The lookups that are registered for the next pass. -/
  pending : List Batch

namespace Shared

/-- Registers a request for the next pass. -/
def register (s : Shared) (coalesce : Bool) (r : Request) : Shared :=
  { s with next := s.next + 1, pending := Batch.register coalesce s.pending (r, s.next) }

/-- Puts a draft in the place of a request. -/
def fill (s : Shared) (t : Ticket) (d : Draft Ticket) : Shared :=
  { s with tree := s.tree.bind fun u => if u.2 = t.2 then d else .pending u }

/-- The value of the output; a place that nothing was put in is null. -/
def render (s : Shared) : Except Error Value :=
  (s.tree.bind fun _ => (.value .null : Draft Empty)).render

end Shared

/-- One step of a task: what it does to what is shared, how the task goes on, and its failure. A
walk that fails may have registered requests before; they are dropped with the pass. -/
inductive Task.Step (ps : Passes) (s : Shared) : Task → Shared → Option Task → List Error → Prop
  | answered {b : Batch} {answer : Resolved}
    (answer_eq : ps.resolver b.lookup.path b.lookup.query = .ok answer) :
    Step ps s (asking b) s (some (resuming (b.answers answer))) []
  | unanswered {b : Batch} {e : Error}
    (error_eq : ps.resolver b.lookup.path b.lookup.query = .error e) :
    Step ps s (asking b) s none [e]
  | walked {t : Ticket} {answer : Resolved} {waiting : List (Ticket × Resolved)}
    {d : Draft Request} (draft_eq : t.1.resume (Projection.draft ps.scope) answer = .ok d) :
    Step ps s (resuming ((t, answer) :: waiting)) s (some (registering t d [] waiting)) []
  | unwalked {t : Ticket} {answer : Resolved} {waiting : List (Ticket × Resolved)} {e : Error}
    (error_eq : t.1.resume (Projection.draft ps.scope) answer = .error e) (next : Nat)
    (pending : List Batch) :
    Step ps s (resuming ((t, answer) :: waiting)) { s with next := next, pending := pending }
      none [e]
  | registered {t : Ticket} {d : Draft Request} {numbers : List Nat}
    {waiting : List (Ticket × Resolved)} {r : Request}
    (request_eq : d.requests[numbers.length]? = some r) :
    Step ps s (registering t d numbers waiting) (s.register ps.coalesce r)
      (some (registering t d (numbers ++ [s.next]) waiting)) []
  | filled {t : Ticket} {d : Draft Request} {numbers : List Nat}
    {waiting : List (Ticket × Resolved)} (all : d.requests.length ≤ numbers.length) :
    Step ps s (registering t d numbers waiting) (s.fill t (d.label numbers))
      (some (resuming waiting)) []
  | ended : Step ps s (resuming []) s none []

/-- An evaluation. -/
inductive State
  | running (shared : Shared) (tasks : List Task) (errors : List Error)
  | done (outcome : Except Error Value)

namespace State

/-- One step of an evaluation. -/
inductive Step (ps : Passes) : State → State → Prop
  /-- Any task goes on. -/
  | task {s s' : Shared} {task : Task} {rest : Option Task} {before after : List Task}
    {errors failed : List Error} (step : task.Step ps s s' rest failed) :
    Step ps (running s (before ++ task :: after) errors)
      (running s' (before ++ rest.toList ++ after) (errors ++ failed))
  /-- The next pass begins. -/
  | pass {s : Shared} (waits : s.pending ≠ []) :
    Step ps (running s [] []) (running { s with pending := [] } (s.pending.map .asking) [])
  /-- A pass failed. -/
  | failed {s : Shared} {errors : List Error} {e : Error} (mem : e ∈ errors) :
    Step ps (running s [] errors) (done (.error e))
  /-- No request waits any more. -/
  | finished {s : Shared} (nothing_waits : s.pending = []) :
    Step ps (running s [] []) (done s.render)

/-- Some schedule leads from one state to another. -/
abbrev Leads (ps : Passes) : State → State → Prop := Relation.ReflTransGen (Step ps)

/-- Every schedule comes to a state in which `P` holds. -/
inductive Inevitable (ps : Passes) (P : State → Prop) : State → Prop
  | now {s : State} (holds : P s) : Inevitable ps P s
  | later {s : State} (goes_on : ∃ s', Step ps s s')
    (next : ∀ s', Step ps s s' → Inevitable ps P s') : Inevitable ps P s

end State

/-- An evaluation once the document is walked. -/
def Evaluator.start (e : Evaluator) (catalog : Catalog) (resolver : Resolver) (p : Projection)
    (fields : Schema) (doc : Document) : State :=
  let ps := e.passes catalog resolver
  match p.draft ps.scope doc fields with
  | .error err => .done (.error err)
  | .ok writes =>
    let numbered := Draft.numberWrites 0 writes
    let tickets := Draft.requestsOfWrites numbered
    .running ⟨.document numbered, tickets.length, Batch.ofTickets ps.coalesce tickets⟩ [] []

end DocQuery
