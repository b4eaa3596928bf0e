import DocQuery.Evaluation.Direct
import DocQuery.Evaluation.Trace

/-!
# How far an evaluation may go

An evaluation ends when a pass leaves no request. What may keep it from ending are connections
among all the keys of a document: they take the whole projection along to the next pass.

* `Site.Clear` — no document of a walk stores a key that is declared as a connection.
* `State.Does`, `State.EndsWithin` — steps with what they do, and schedules that all come to an end
  within a number of passes, whatever the resolver answers.
* `Evaluator.startAll` — the walk of several documents, before the first pass.
* `Passes.Opens`, `Evaluator.Walks` — the documents that passes come across.

Main statement: `State.exists_does_iff`.
-/

set_option autoImplicit false

namespace DocQuery

/-! ## Walked documents -/

variable [RegexEngine]

/-- The documents that an answered request is resumed with, as they are walked. -/
def Request.sites (r : Request) (answer : Resolved) : List Site :=
  (r.pick.documents answer).map fun doc => ⟨r.query.projection, doc, answer.fields⟩

/-- Neither a document nor one that its walk goes down to stores a key that is declared as a
connection. -/
def Site.Clear (a : Site) : Prop :=
  ∀ b, Relation.ReflTransGen Site.Part a b → b.StoresNoConnection

/-- The documents that were walked for resumed requests. -/
def Deed.walked (ds : List Deed) : List Site := (Deed.called ds).flatMap fun c => c.1.1.sites c.2

/-! ## Schedules -/

namespace State

/-- One step of an evaluation with what it does. -/
inductive Does (ps : Passes) : State → List Deed → State → Prop
  | task {s s' : Shared} {task : Task} {rest : Option Task} {before after : List Task}
    {errors failed : List Error} (step : task.Step ps s s' rest failed) :
    Does ps (running s (before ++ task :: after) errors) (task.deeds s)
      (running s' (before ++ rest.toList ++ after) (errors ++ failed))
  | pass {s : Shared} (waits : s.pending ≠ []) :
    Does ps (running s [] []) [.drain s.pending]
      (running { s with pending := [] } (s.pending.map .asking) [])
  | failed {s : Shared} {errors : List Error} {e : Error} (mem : e ∈ errors) :
    Does ps (running s [] errors) [] (done (.error e))
  | finished {s : Shared} (nothing_waits : s.pending = []) :
    Does ps (running s [] []) [] (done s.render)

theorem exists_does_iff {ps : Passes} {st st' : State} :
    (∃ ds, Does ps st ds st') ↔ Step ps st st' := by
  constructor
  · rintro ⟨ds, h⟩
    cases h with
    | task step => exact .task step
    | pass waits => exact .pass waits
    | failed mem => exact .failed mem
    | finished nothing_waits => exact .finished nothing_waits
  · intro h
    cases h with
    | task step => exact ⟨_, .task step⟩
    | pass waits => exact ⟨_, .pass waits⟩
    | failed mem => exact ⟨_, .failed mem⟩
    | finished nothing_waits => exact ⟨_, .finished nothing_waits⟩

/-- Every schedule comes to an end, and begins `limit` passes at most on the way. The resolver may
answer each step as it likes, as long as the documents that are walked are clear. -/
inductive EndsWithin (ps : Passes) : Nat → State → Prop
  | done {limit : Nat} {outcome : Except Error Value} : EndsWithin ps limit (done outcome)
  | later {limit : Nat} {st : State}
    (goes_on : ∀ resolver : Resolver, ∃ ds st', Does { ps with resolver := resolver } st ds st')
    (passes : ∀ (resolver : Resolver) (ds : List Deed) (st' : State),
      Does { ps with resolver := resolver } st ds st' → (Deed.drained ds).length ≤ limit)
    (next : ∀ (resolver : Resolver) (ds : List Deed) (st' : State),
      Does { ps with resolver := resolver } st ds st' → (∀ a ∈ Deed.walked ds, a.Clear) →
        EndsWithin ps (limit - (Deed.drained ds).length) st') : EndsWithin ps limit st

end State

/-! ## Passes -/

/-- The documents that the passes for requests come across. -/
inductive Passes.Opens (ps : Passes) : List Ticket → Site → Prop
  | now {ts : List Ticket} {b : Batch} {answer : Resolved} {w : Ticket × Resolved} {a : Site}
    (waits : b ∈ Batch.ofTickets ps.coalesce ts)
    (answered : ps.resolver b.lookup.path b.lookup.query = .ok answer)
    (part : w ∈ b.answers answer) (opened : a ∈ w.1.1.sites w.2) : Opens ps ts a
  | next {ts : List Ticket} {resumed : List (Nat × Draft Request)} {a : Site}
    (through : ps.resumeAll (Batch.ofTickets ps.coalesce ts) = .ok resumed)
    (opened : Opens ps (Draft.requestsOfItems (Draft.numberItems 0 (resumed.map Prod.snd))) a) :
    Opens ps ts a

/-- The passes that a run reports, through or failed. -/
def Run.passes {α : Type} (r : Run α) : Nat :=
  r.log.countP fun entry =>
    entry.event == Event.passResolved.name || entry.event == Event.passFailed.name

namespace Evaluator

variable (e : Evaluator) (catalog : Catalog) (resolver : Resolver) (p : Projection)
  (fields : Schema)

/-- The documents that an evaluation of several documents walks. -/
inductive Walks (docs : List Document) : Site → Prop
  | given {doc : Document} (mem : doc ∈ docs) : Walks docs ⟨p, doc, fields⟩
  | opened {drafts : List (Draft.Writes Request)} {a : Site}
    (drafted : (docs.mapM fun doc => p.draft (e.passes catalog resolver).scope doc fields) =
      .ok drafts)
    (opened : (e.passes catalog resolver).Opens
      ((Draft.numberDocuments 0 drafts).flatMap Draft.requestsOfWrites) a) : Walks docs a

/-- An evaluation of several documents once all are walked. -/
def startAll (docs : List Document) : State :=
  let ps := e.passes catalog resolver
  match docs.mapM fun doc => p.draft ps.scope doc fields with
  | .error err => .done (.error err)
  | .ok drafts =>
    let numbered := Draft.numberDocuments 0 drafts
    let tickets := numbered.flatMap Draft.requestsOfWrites
    .running ⟨.list (numbered.map .document), tickets.length, Batch.ofTickets ps.coalesce tickets⟩
      [] []

end Evaluator

end DocQuery
