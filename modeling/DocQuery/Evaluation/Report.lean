import DocQuery.Evaluation.Evaluator

/-!
# What the log tells of a run

An evaluation reports each pass that goes through with the number of its lookups, the failure of a
pass, and its completion. Which passes go through is said here apart from what is reported.

* `Passes.Goes` — passes that go through one after the other, and what waits after them.
* `LogEntry.through`, `LogEntry.failed`, `LogEntry.completed` — the events of an evaluation.
* `Passes.Settles` — how passes end, with their traces.
* `Evaluator.appends` — the lines that a run appends to the log.
* `Assembly.Tells` — how an evaluation ends, with its traces.
* `Assembly.BreaksOff` — how far one has come that may not go on.
-/

set_option autoImplicit false

namespace DocQuery

variable [RegexEngine]

namespace LogEntry

/-- The events of passes that went through, the first of them under the number `first`. -/
def through (first : Nat) (passes : List (List Batch)) : List LogEntry :=
  (passes.zipIdx first).map fun pass =>
    .ofEvent .passResolved
      [("pass", toString pass.2), ("requests", toString pass.1.length)]

/-- The event of a pass that failed. -/
def failed (number : Nat) (e : Error) : LogEntry :=
  .ofEvent .passFailed [("pass", toString number), ("error", e.message)]

/-- The event of an evaluation that came to its end. -/
def completed (unit : String) (size passes : Nat) : LogEntry :=
  .ofEvent .completed [(unit, toString size), ("passes", toString passes)]

end LogEntry

namespace Passes

/-- The lookups of several passes. -/
def lookups (passes : List (List Batch)) : List Lookup := passes.flatten.map Batch.lookup

/-- Passes go through one after the other: from the requests that wait to those that the last pass
leaves. -/
inductive Goes (ps : Passes) : List Ticket → List (List Batch) → List Ticket → Prop
  | stop {ts : List Ticket} : Goes ps ts [] ts
  | pass {ts waiting : List Ticket} {passes : List (List Batch)}
    {resumed : List (Nat × Draft Request)} (waits : ts ≠ [])
    (through : ps.resumeAll (Batch.ofTickets ps.coalesce ts) = .ok resumed)
    (goes : Goes ps (Draft.requestsOfItems (Draft.numberItems 0 (resumed.map Prod.snd))) passes
      waiting) :
    Goes ps ts (Batch.ofTickets ps.coalesce ts :: passes) waiting

/-- How passes end, after `done` earlier ones: no request waits any more, the next pass fails, or
requests wait and no further pass is allowed. -/
inductive Settles (ps : Passes) (limit done : Nat) (ts : List Ticket) :
    Run (Answers × Nat) → Prop
  | through {passes : List (List Batch)} {answers : Answers} (goes : ps.Goes ts passes [])
    (enough : passes.length ≤ limit) :
    Settles ps limit done ts
      ⟨.ok (answers, done + passes.length), lookups passes, LogEntry.through (done + 1) passes⟩
  | failed {passes : List (List Batch)} {waiting : List Ticket} {e : Error}
    (goes : ps.Goes ts passes waiting) (waits : waiting ≠ [])
    (fails : ps.resumeAll (Batch.ofTickets ps.coalesce waiting) = .error e)
    (enough : passes.length < limit) :
    Settles ps limit done ts
      ⟨.error e, lookups (passes ++ [Batch.ofTickets ps.coalesce waiting]),
        LogEntry.through (done + 1) passes ++ [.failed (done + passes.length + 1) e]⟩
  | unfinished {passes : List (List Batch)} {waiting : List Ticket}
    (goes : ps.Goes ts passes waiting) (waits : waiting ≠ []) (spent : passes.length = limit) :
    Settles ps limit done ts
      ⟨.error Passes.unfinished, lookups passes, LogEntry.through (done + 1) passes⟩

end Passes

namespace Assembly

variable {δ α : Type}

/-- How an evaluation ends, and what it leaves: the walk fails, a pass does, the rendering does, or
there is a result. -/
inductive Tells (A : Assembly δ α) (ps : Passes) : Except Error δ → Run α → Prop
  | unwalked {e : Error} : Tells A ps (.error e) ⟨.error e, [], []⟩
  | failed {draft : δ} {passes : List (List Batch)} {waiting : List Ticket} {e : Error}
    (goes : ps.Goes (A.tickets draft) passes waiting) (waits : waiting ≠ [])
    (fails : ps.resumeAll (Batch.ofTickets ps.coalesce waiting) = .error e) :
    Tells A ps (.ok draft)
      ⟨.error e, Passes.lookups (passes ++ [Batch.ofTickets ps.coalesce waiting]),
        LogEntry.through 1 passes ++ [.failed (passes.length + 1) e]⟩
  | unrendered {draft : δ} {passes : List (List Batch)} {answers : Answers} {e : Error}
    (goes : ps.Goes (A.tickets draft) passes [])
    (settled : (ps.settle passes.length 0 (A.tickets draft)).result =
      .ok (answers, passes.length))
    (fails : A.render draft answers = .error e) :
    Tells A ps (.ok draft) ⟨.error e, Passes.lookups passes, LogEntry.through 1 passes⟩
  | completed {draft : δ} {passes : List (List Batch)} {answers : Answers} {out : α}
    (goes : ps.Goes (A.tickets draft) passes [])
    (settled : (ps.settle passes.length 0 (A.tickets draft)).result =
      .ok (answers, passes.length))
    (rendered : A.render draft answers = .ok out) :
    Tells A ps (.ok draft)
      ⟨.ok out, Passes.lookups passes,
        LogEntry.through 1 passes ++ [.completed A.unit (A.size out) passes.length]⟩

/-- How far an evaluation has come that does not end within `limit` passes: all of them are through,
and requests wait. -/
inductive BreaksOff (A : Assembly δ α) (ps : Passes) (limit : Nat) : Except Error δ → Run α → Prop
  | intro {draft : δ} {passes : List (List Batch)} {waiting : List Ticket}
    (goes : ps.Goes (A.tickets draft) passes waiting) (waits : waiting ≠ [])
    (spent : passes.length = limit) :
    BreaksOff A ps limit (.ok draft)
      ⟨.error Passes.unfinished, Passes.lookups passes, LogEntry.through 1 passes⟩

end Assembly

end DocQuery
