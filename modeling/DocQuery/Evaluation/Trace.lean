import DocQuery.Evaluation.Schedule

/-!
# What is done on the way

The steps of an evaluation with what they do: the resolver is asked, a request is resumed with its
part of an answer, a request is registered, the registered lookups are taken by a pass. What a step
does shows from the task that goes on, whichever way it goes on.

* `Deed`, `Task.deeds` — what one step does; `Deed.asked`, `Deed.called`, `Deed.registered`,
  `Deed.drained` — what the steps so far have done.
* `Task.Runs` — a task on its own, whatever other tasks do between its steps.
* `State.Trace` — a schedule of all tasks, pass after pass.
* `State.Executes` — how the passes end.

Main statements: `State.Trace.leads`, `State.exists_trace`.
-/

set_option autoImplicit false

namespace DocQuery

variable [RegexEngine]

/-- What a step does. -/
inductive Deed
  /-- The resolver is asked. -/
  | ask (l : Lookup)
  /-- A request is resumed with its part of an answer. -/
  | call (t : Ticket) (answer : Resolved)
  /-- A request is registered for the next pass. -/
  | register (t : Ticket)
  /-- A pass takes the registered lookups. -/
  | drain (batches : List Batch)

namespace Deed

variable (ds : List Deed)

/-- The lookups that were made. -/
def asked : List Lookup := ds.filterMap fun
  | ask l => some l
  | _ => none

/-- The requests that were resumed, each with its part of the answer. -/
def called : List (Ticket × Resolved) := ds.filterMap fun
  | call t answer => some (t, answer)
  | _ => none

/-- The requests that were registered. -/
def registered : List Ticket := ds.filterMap fun
  | register t => some t
  | _ => none

/-- What the passes took. -/
def drained : List (List Batch) := ds.filterMap fun
  | drain batches => some batches
  | _ => none

end Deed

namespace Task

/-- What the next step of a task does. -/
def deeds (s : Shared) : Task → List Deed
  | asking b => [.ask b.lookup]
  | resuming ((t, answer) :: _) => [.call t answer]
  | resuming [] => []
  | registering _ d numbers _ =>
    match d.requests[numbers.length]? with
    | some r => [.register (r, s.next)]
    | none => []

/-- A task goes on by itself: what it has done, what is left of it, and its failure. Between two of
its steps the others may do anything to what is shared. -/
inductive Runs (ps : Passes) (task : Task) : List Deed → Option Task → List Error → Prop
  | begun : Runs ps task [] (some task) []
  | step {ds : List Deed} {task' : Task} {s s' : Shared} {rest : Option Task}
    {failed : List Error} (run : Runs ps task ds (some task') [])
    (step : task'.Step ps s s' rest failed) : Runs ps task (ds ++ task'.deeds s) rest failed

end Task

namespace State

/-- A schedule with what was done in it. -/
inductive Trace (ps : Passes) (start : State) : List Deed → State → Prop
  | begun : Trace ps start [] start
  /-- Any task goes on. -/
  | task {ds : List Deed} {s s' : Shared} {task : Task} {rest : Option Task}
    {before after : List Task} {errors failed : List Error}
    (trace : Trace ps start ds (running s (before ++ task :: after) errors))
    (step : task.Step ps s s' rest failed) :
    Trace ps start (ds ++ task.deeds s)
      (running s' (before ++ rest.toList ++ after) (errors ++ failed))
  /-- The next pass begins. -/
  | pass {ds : List Deed} {s : Shared} (trace : Trace ps start ds (running s [] []))
    (waits : s.pending ≠ []) :
    Trace ps start (ds ++ [.drain s.pending])
      (running { s with pending := [] } (s.pending.map .asking) [])

/-- How the passes end: with their number once no request waits, or with a failure of one of them
once its tasks have ended. -/
inductive Executes (ps : Passes) (start : State) : List Deed → Except Error Nat → Prop
  | ok {ds : List Deed} {s : Shared} (trace : Trace ps start ds (running s [] []))
    (nothing_waits : s.pending = []) : Executes ps start ds (.ok (Deed.drained ds).length)
  | error {ds : List Deed} {s : Shared} {errors : List Error} {e : Error}
    (trace : Trace ps start ds (running s [] errors)) (mem : e ∈ errors) :
    Executes ps start ds (.error e)

/-- The only task of a pass goes on. -/
theorem Trace.only {ps : Passes} {start : State} {ds : List Deed} {s s' : Shared} {task : Task}
    {rest : Option Task} (trace : Trace ps start ds (running s [task] []))
    (step : task.Step ps s s' rest []) :
    Trace ps start (ds ++ task.deeds s) (running s' rest.toList []) := by
  have among : Trace ps start ds (running s ([] ++ task :: []) []) := trace
  have h := among.task step
  rwa [List.append_nil, List.nil_append] at h

/-- A trace is a schedule. -/
theorem Trace.leads {ps : Passes} {start st : State} {ds : List Deed}
    (h : Trace ps start ds st) : Leads ps start st := by
  induction h with
  | begun => exact .refl
  | task _ step ih => exact ih.tail (.task step)
  | pass _ waits ih => exact ih.tail (.pass waits)

/-- **Every schedule of passes is a trace.** -/
theorem exists_trace {ps : Passes} {start st : State} (h : Leads ps start st)
    (hrunning : ∀ outcome, st ≠ done outcome) : ∃ ds, Trace ps start ds st := by
  induction h with
  | refl => exact ⟨[], .begun⟩
  | tail _ step ih =>
    cases step with
    | task step =>
      obtain ⟨ds, trace⟩ := ih nofun
      exact ⟨_, .task trace step⟩
    | pass waits =>
      obtain ⟨ds, trace⟩ := ih nofun
      exact ⟨_, .pass trace waits⟩
    | failed | finished => exact absurd rfl (hrunning _)

end State

end DocQuery
