import DocQuery.Evaluation.Trace
import DocQuery.Proofs.Alike
import DocQuery.Proofs.Registering
import DocQuery.Proofs.Schedules
import Mathlib.Data.List.Flatten

/-!
# Every request is answered once

Whatever the schedule: a lookup is made once, and the requests that wait for it are resumed in their
order, each once and with what the answer holds for its own id, up to the first that fails. A pass
takes what was registered since the last one, so once the passes end without a failure every
request that was ever registered has been resumed exactly once.

* `Task.Runs.accounts` — what a task does from its lookup to its end.
* `Batch.serves_of_runs` — a shared lookup, said of the requests that wait for it.
* `State.Accounts` — the invariant of a schedule; `State.Accounts.task`, `State.Accounts.pass` keep
  it.
* `Evaluator.every_request_answered` — the registry, its lookups and the passes together.
-/

set_option autoImplicit false

namespace DocQuery

/-! ## What was done -/

section

variable [RegexEngine]

namespace Deed

variable (ds ds' : List Deed)

theorem asked_append : asked (ds ++ ds') = asked ds ++ asked ds' := List.filterMap_append

theorem called_append : called (ds ++ ds') = called ds ++ called ds' := List.filterMap_append

theorem registered_append : registered (ds ++ ds') = registered ds ++ registered ds' :=
  List.filterMap_append

theorem drained_append : drained (ds ++ ds') = drained ds ++ drained ds' := List.filterMap_append

/-- The requests that wait for the next pass, where `ts` waited at first. -/
def waiting : List Ticket → List Deed → List Ticket
  | ts, [] => ts
  | ts, register t :: ds => waiting (ts ++ [t]) ds
  | _, drain _ :: ds => waiting [] ds
  | ts, _ :: ds => waiting ts ds

/-- Every pass takes the lookups of what was registered since the last one, which is something. -/
def DrainsAll (coalesce : Bool) : List Ticket → List Deed → Prop
  | _, [] => True
  | ts, register t :: ds => DrainsAll coalesce (ts ++ [t]) ds
  | ts, drain batches :: ds =>
    batches = Batch.ofTickets coalesce ts ∧ ts ≠ [] ∧ DrainsAll coalesce [] ds
  | ts, _ :: ds => DrainsAll coalesce ts ds

theorem waiting_append (ts : List Ticket) :
    waiting ts (ds ++ ds') = waiting (waiting ts ds) ds' := by
  induction ds generalizing ts with
  | nil => rfl
  | cons d ds ih => cases d <;> exact ih _

theorem drainsAll_append {coalesce : Bool} (ts : List Ticket) :
    DrainsAll coalesce ts (ds ++ ds') ↔
      DrainsAll coalesce ts ds ∧ DrainsAll coalesce (waiting ts ds) ds' := by
  induction ds generalizing ts with
  | nil => exact (and_iff_right trivial).symm
  | cons d ds ih =>
    cases d with
    | drain batches =>
      rw [List.cons_append, DrainsAll, DrainsAll, ih, and_assoc, and_assoc]
      rfl
    | _ => exact ih _

/-- What the passes took and what still waits is what waited at first and was registered. -/
theorem DrainsAll.perm {coalesce : Bool} {ds : List Deed} {ts : List Ticket}
    (h : DrainsAll coalesce ts ds) :
    ((drained ds).flatten.flatMap Batch.tickets ++ waiting ts ds).Perm (ts ++ registered ds) := by
  induction ds generalizing ts with
  | nil => rw [registered, List.filterMap_nil, List.append_nil]; exact .rfl
  | cons d ds ih =>
    cases d with
    | ask l => exact ih h
    | call t answer => exact ih h
    | register t =>
      have hrest := @ih (ts ++ [t]) h
      rw [List.append_assoc] at hrest
      exact hrest
    | drain batches =>
      obtain ⟨rfl, -, h⟩ := h
      have hrest := ih h
      rw [List.nil_append] at hrest
      show ((Batch.ofTickets coalesce ts ++ (drained ds).flatten).flatMap Batch.tickets ++ _).Perm _
      rw [List.flatMap_append, List.append_assoc]
      exact (Batch.tickets_ofTickets coalesce ts).append hrest

end Deed

/-! ## What a task has still to do -/

namespace Passes

variable (ps : Passes)

/-- A request is resumed with its part of an answer. -/
def resumed (w : Ticket × Resolved) : Except Error (Draft Request) :=
  w.1.1.resume (Projection.draft ps.scope) w.2

/-- The requests that are resumed: up to the first that fails. -/
def calls : List (Ticket × Resolved) → List (Ticket × Resolved)
  | [] => []
  | w :: ws => w :: match ps.resumed w with
    | .ok _ => calls ws
    | .error _ => []

/-- The failure that resuming requests comes to, if any. -/
def faults : List (Ticket × Resolved) → List Error
  | [] => []
  | w :: ws => match ps.resumed w with
    | .ok _ => faults ws
    | .error e => [e]

/-- Either all requests are resumed, or those up to the first that fails. -/
theorem calls_cases (ws : List (Ticket × Resolved)) :
    (ps.calls ws = ws ∧ ps.faults ws = [] ∧ ∀ w ∈ ws, ∃ d, ps.resumed w = .ok d) ∨
      ∃ before w after e, ws = before ++ w :: after ∧ ps.calls ws = before ++ [w] ∧
        ps.faults ws = [e] ∧ ps.resumed w = .error e ∧
          ∀ v ∈ before, ∃ d, ps.resumed v = .ok d := by
  induction ws with
  | nil => exact .inl ⟨rfl, rfl, fun _ h => nomatch h⟩
  | cons w ws ih =>
    cases hw : ps.resumed w with
    | error e =>
      refine .inr ⟨[], w, ws, e, rfl, ?_, ?_, hw, fun _ h => nomatch h⟩
      · rw [calls, hw]
        rfl
      · rw [faults, hw]
    | ok d =>
      have hcalls : ps.calls (w :: ws) = w :: ps.calls ws := by rw [calls, hw]
      have hfaults : ps.faults (w :: ws) = ps.faults ws := by rw [faults, hw]
      rw [hcalls, hfaults]
      rcases ih with ⟨hall, hnone, hok⟩ | ⟨before, v, after, e, rfl, hsome, hfail, hv, hok⟩
      · exact .inl ⟨by rw [hall], hnone, List.forall_mem_cons.2 ⟨⟨d, hw⟩, hok⟩⟩
      · exact .inr ⟨w :: before, v, after, e, rfl, by rw [hsome, List.cons_append], hfail, hv,
          List.forall_mem_cons.2 ⟨⟨d, hw⟩, hok⟩⟩

theorem calls_prefix (ws : List (Ticket × Resolved)) : ps.calls ws <+: ws := by
  rcases ps.calls_cases ws with ⟨hall, -⟩ | ⟨before, w, after, -, rfl, hsome, -⟩
  · exact ⟨[], by rw [hall, List.append_nil]⟩
  · rw [hsome]
    exact ⟨after, by rw [List.append_assoc]; rfl⟩

theorem calls_eq_of_faults {ws : List (Ticket × Resolved)} (h : ps.faults ws = []) :
    ps.calls ws = ws := by
  rcases ps.calls_cases ws with ⟨hall, -⟩ | ⟨_, _, _, e, -, -, hfail, -⟩
  · exact hall
  · rw [h] at hfail
    cases hfail

end Passes

namespace Batch

variable (ps : Passes) (b : Batch)

/-- The requests that are resumed for a lookup. -/
def calls : List (Ticket × Resolved) :=
  match ps.resolver b.lookup.path b.lookup.query with
  | .ok answer => ps.calls (b.answers answer)
  | .error _ => []

/-- The failure that a lookup comes to, if any. -/
def faults : List Error :=
  match ps.resolver b.lookup.path b.lookup.query with
  | .ok answer => ps.faults (b.answers answer)
  | .error e => [e]

variable {ps} {b}

theorem calls_of_ok {answer : Resolved}
    (h : ps.resolver b.lookup.path b.lookup.query = .ok answer) :
    b.calls ps = ps.calls (b.answers answer) := by
  rw [calls, h]

theorem faults_of_ok {answer : Resolved}
    (h : ps.resolver b.lookup.path b.lookup.query = .ok answer) :
    b.faults ps = ps.faults (b.answers answer) := by
  rw [faults, h]

/-- What is resumed for a lookup is resumed with its part of the answer. -/
theorem exists_answer_of_mem_calls {c : Ticket × Resolved} (h : c ∈ b.calls ps) :
    ∃ answer, ps.resolver b.lookup.path b.lookup.query = .ok answer ∧ c ∈ b.answers answer := by
  unfold calls at h
  split at h
  · rename_i answer hanswer
    exact ⟨answer, hanswer, (ps.calls_prefix _).subset h⟩
  · cases h

/-- No request is resumed more often than it waits. -/
theorem calls_sublist : ((b.calls ps).map Prod.fst).Sublist b.tickets := by
  unfold calls
  split
  · rename_i answer _
    rw [← b.fst_answers answer]
    exact (ps.calls_prefix _).sublist.map _
  · exact List.nil_sublist _

theorem tickets_of_faults (h : b.faults ps = []) : (b.calls ps).map Prod.fst = b.tickets := by
  unfold faults at h
  split at h
  · rename_i answer hanswer
    rw [calls_of_ok hanswer, ps.calls_eq_of_faults h, fst_answers]
  · cases h

end Batch

namespace Task

variable {ps : Passes} {s s' : Shared} {task : Task} {rest : Option Task} {failed : List Error}

/-- The lookup that a task has still to make. -/
def toAsk : Task → List Lookup
  | asking b => [b.lookup]
  | _ => []

/-- The requests that a task has still to resume. -/
def toCall (ps : Passes) : Task → List (Ticket × Resolved)
  | asking b => b.calls ps
  | resuming waiting => ps.calls waiting
  | registering _ _ _ waiting => ps.calls waiting

/-- The failure that a task will come to. -/
def toFail (ps : Passes) : Task → List Error
  | asking b => b.faults ps
  | resuming waiting => ps.faults waiting
  | registering _ _ _ waiting => ps.faults waiting

theorem deeds_of_filled {t : Ticket} {d : Draft Request} {numbers : List Nat}
    {waiting : List (Ticket × Resolved)} (h : d.requests.length ≤ numbers.length) :
    (registering t d numbers waiting).deeds s = [] := by
  rw [deeds, List.getElem?_eq_none h]

theorem deeds_of_registered {t : Ticket} {d : Draft Request} {numbers : List Nat}
    {waiting : List (Ticket × Resolved)} {r : Request}
    (h : d.requests[numbers.length]? = some r) :
    (registering t d numbers waiting).deeds s = [.register (r, s.next)] := by
  rw [deeds, h]

/-- **A step does a part of what is to be done**, and leaves the rest. -/
theorem Step.accounts (h : task.Step ps s s' rest failed) :
    task.toAsk = Deed.asked (task.deeds s) ++ rest.toList.flatMap toAsk ∧
      task.toCall ps = Deed.called (task.deeds s) ++ rest.toList.flatMap (toCall ps) ∧
        task.toFail ps = failed ++ rest.toList.flatMap (toFail ps) := by
  cases h with
  | answered answer_eq =>
    refine ⟨rfl, ?_, ?_⟩
    · exact (Batch.calls_of_ok answer_eq).trans (List.append_nil _).symm
    · exact (Batch.faults_of_ok answer_eq).trans (List.append_nil _).symm
  | @unanswered b e error_eq =>
    refine ⟨rfl, ?_, ?_⟩
    · show b.calls ps = []
      rw [Batch.calls, error_eq]
    · show b.faults ps = [e]
      rw [Batch.faults, error_eq]
  | @walked t answer waiting d draft_eq =>
    have hok : ps.resumed (t, answer) = .ok d := draft_eq
    refine ⟨rfl, ?_, ?_⟩
    · show ps.calls ((t, answer) :: waiting) = [(t, answer)] ++ (ps.calls waiting ++ [])
      rw [Passes.calls, hok, List.append_nil]
      rfl
    · show ps.faults ((t, answer) :: waiting) = ps.faults waiting ++ []
      rw [Passes.faults, hok, List.append_nil]
  | @unwalked t answer waiting e error_eq next pending =>
    have herror : ps.resumed (t, answer) = .error e := error_eq
    refine ⟨rfl, ?_, ?_⟩
    · show ps.calls ((t, answer) :: waiting) = [(t, answer)]
      rw [Passes.calls, herror]
    · show ps.faults ((t, answer) :: waiting) = [e]
      rw [Passes.faults, herror]
  | @registered t d numbers waiting r request_eq =>
    rw [deeds_of_registered request_eq]
    exact ⟨rfl, (List.append_nil _).symm, (List.append_nil _).symm⟩
  | @filled t d numbers waiting all =>
    rw [deeds_of_filled all]
    exact ⟨rfl, (List.append_nil _).symm, (List.append_nil _).symm⟩
  | ended => exact ⟨rfl, rfl, rfl⟩

/-- A step that does not fail registers what its deeds say. -/
theorem Step.registers (h : task.Step ps s s' rest []) :
    s'.next = s.next + (Deed.registered (task.deeds s)).length ∧
      (Deed.registered (task.deeds s)).map Prod.snd =
        List.range' s.next (Deed.registered (task.deeds s)).length ∧
        s'.pending = (Deed.registered (task.deeds s)).foldl (Batch.register ps.coalesce)
          s.pending := by
  cases h with
  | answered | walked | ended => exact ⟨rfl, rfl, rfl⟩
  | registered request_eq =>
    rw [deeds_of_registered request_eq]
    exact ⟨rfl, rfl, rfl⟩
  | filled all =>
    rw [deeds_of_filled all]
    exact ⟨rfl, rfl, rfl⟩

/-- **What a task does on its own**, up to where it is. -/
theorem Runs.accounts {ds : List Deed} {errors : List Error} (h : Runs ps task ds rest errors) :
    task.toAsk = Deed.asked ds ++ rest.toList.flatMap toAsk ∧
      task.toCall ps = Deed.called ds ++ rest.toList.flatMap (toCall ps) ∧
        task.toFail ps = errors ++ rest.toList.flatMap (toFail ps) := by
  induction h with
  | begun => exact ⟨(List.append_nil _).symm, (List.append_nil _).symm, (List.append_nil _).symm⟩
  | step _ step ih =>
    obtain ⟨hask, hcall, hfail⟩ := ih
    obtain ⟨hask', hcall', hfail'⟩ := step.accounts
    rw [Option.toList_some, List.flatMap_singleton] at hask hcall hfail
    rw [Deed.asked_append, Deed.called_append, List.append_assoc, List.append_assoc, ← hask',
      ← hcall', ← hfail']
    exact ⟨hask, hcall, hfail⟩

/-- A task takes no lookups; what it registers waits. -/
theorem deeds_spec (s : Shared) (task : Task) (coalesce : Bool) (ts : List Ticket) :
    Deed.drained (task.deeds s) = [] ∧ Deed.DrainsAll coalesce ts (task.deeds s) ∧
      Deed.waiting ts (task.deeds s) = ts ++ Deed.registered (task.deeds s) := by
  cases task with
  | asking b => exact ⟨rfl, trivial, (List.append_nil ts).symm⟩
  | resuming waiting =>
    cases waiting with
    | nil => exact ⟨rfl, trivial, (List.append_nil ts).symm⟩
    | cons w waiting => exact ⟨rfl, trivial, (List.append_nil ts).symm⟩
  | registering t d numbers waiting =>
    rw [deeds]
    cases d.requests[numbers.length]? with
    | none => exact ⟨rfl, trivial, (List.append_nil ts).symm⟩
    | some r => exact ⟨rfl, trivial, rfl⟩

end Task

/-! ## Schedules -/

namespace State

variable {ps : Passes} {ts : List Ticket} {ds : List Deed} {s s' : Shared} {tasks : List Task}
  {errors : List Error}

/-- What a schedule has done and has still to do, `ts` having waited before the first pass. -/
structure Accounts (ps : Passes) (ts : List Ticket) (ds : List Deed) (s : Shared)
    (tasks : List Task) (errors : List Error) : Prop where
  drains : Deed.DrainsAll ps.coalesce ts ds
  asked : (Deed.asked ds ++ tasks.flatMap Task.toAsk).Perm
    ((Deed.drained ds).flatten.map Batch.lookup)
  called : (Deed.called ds ++ tasks.flatMap (Task.toCall ps)).Perm
    ((Deed.drained ds).flatten.flatMap (Batch.calls ps))
  failed : (errors ++ tasks.flatMap (Task.toFail ps)).Perm
    ((Deed.drained ds).flatten.flatMap (Batch.faults ps))
  /-- What a failed walk has registered does not count. -/
  pending : errors = [] → s.pending = Batch.ofTickets ps.coalesce (Deed.waiting ts ds)
  numbers : errors = [] → (ts ++ Deed.registered ds).map Prod.snd = List.range s.next
  nodup : (((Deed.drained ds).flatten.flatMap Batch.tickets).map Prod.snd).Nodup

/-- Before the first pass nothing is done. -/
theorem Accounts.begin (hpending : s.pending = Batch.ofTickets ps.coalesce ts)
    (hnumbers : ts.map Prod.snd = List.range s.next) : Accounts ps ts [] s [] [] where
  drains := trivial
  asked := .rfl
  called := .rfl
  failed := .rfl
  pending _ := hpending
  numbers _ := by
    rw [Deed.registered, List.filterMap_nil, List.append_nil]
    exact hnumbers
  nodup := List.nodup_nil

/-- What one task has to do stands among what all have to do. -/
theorem perm_middle_flatMap {α : Type} (f : Task → List α) {done : List α}
    {before after : List Task} {task : Task} {rest : Option Task} {new : List α}
    (h : f task = new ++ rest.toList.flatMap f) :
    (done ++ (before ++ task :: after).flatMap f).Perm
      (done ++ new ++ (before ++ rest.toList ++ after).flatMap f) := by
  rw [List.flatMap_append, List.flatMap_cons, h, List.flatMap_append, List.flatMap_append,
    List.append_assoc done, List.append_assoc new, List.append_assoc (before.flatMap f)]
  exact List.Perm.append_left done (List.perm_append_comm_assoc _ _ _)

/-- **Any step of any task** keeps the accounts. -/
theorem Accounts.task {before after : List Task} {task : Task} {rest : Option Task}
    {failed : List Error} (h : Accounts ps ts ds s (before ++ task :: after) errors)
    (step : task.Step ps s s' rest failed) :
    Accounts ps ts (ds ++ task.deeds s) s' (before ++ rest.toList ++ after) (errors ++ failed) := by
  obtain ⟨hask, hcall, hfail⟩ := step.accounts
  obtain ⟨hdrained, hdrains, hwaiting⟩ :=
    task.deeds_spec s ps.coalesce (Deed.waiting ts ds)
  have htaken : Deed.drained (ds ++ task.deeds s) = Deed.drained ds := by
    rw [Deed.drained_append, hdrained, List.append_nil]
  have hnone : errors ++ failed = [] → errors = [] ∧ failed = [] := List.append_eq_nil_iff.1
  exact {
    drains := (Deed.drainsAll_append ds _ ts).2 ⟨h.drains, hdrains⟩
    asked := by
      rw [htaken, Deed.asked_append]
      exact (perm_middle_flatMap Task.toAsk hask).symm.trans h.asked
    called := by
      rw [htaken, Deed.called_append]
      exact (perm_middle_flatMap (Task.toCall ps) hcall).symm.trans h.called
    failed := by
      rw [htaken]
      exact (perm_middle_flatMap (Task.toFail ps) hfail).symm.trans h.failed
    pending := by
      intro hnil
      obtain ⟨herrors, rfl⟩ := hnone hnil
      obtain ⟨-, -, hpending⟩ := step.registers
      rw [Deed.waiting_append, hwaiting, hpending, h.pending herrors, Batch.ofTickets,
        Batch.ofTickets, List.foldl_append]
    numbers := by
      intro hnil
      obtain ⟨herrors, rfl⟩ := hnone hnil
      obtain ⟨hnext, hnumbers, -⟩ := step.registers
      rw [Deed.registered_append, ← List.append_assoc, List.map_append, h.numbers herrors,
        hnumbers, hnext, List.range_eq_range', List.range_eq_range', ← List.range'_append_1,
        Nat.zero_add]
    nodup := by
      rw [htaken]
      exact h.nodup }

/-- Between two passes all that was taken is done, and nothing has failed. -/
theorem Accounts.at_rest (h : Accounts ps ts ds s [] []) :
    (Deed.asked ds).Perm ((Deed.drained ds).flatten.map Batch.lookup) ∧
      (Deed.called ds).Perm ((Deed.drained ds).flatten.flatMap (Batch.calls ps)) ∧
        (Deed.drained ds).flatten.flatMap (Batch.faults ps) = [] := by
  have hasked := h.asked
  have hcalled := h.called
  have hfailed := h.failed
  rw [List.flatMap_nil, List.append_nil] at hasked hcalled hfailed
  exact ⟨hasked, hcalled, hfailed.nil_eq.symm⟩

/-- **A pass that begins** keeps the accounts. -/
theorem Accounts.pass (h : Accounts ps ts ds s [] []) (waits : s.pending ≠ []) :
    Accounts ps ts (ds ++ [.drain s.pending]) { s with pending := [] }
      (s.pending.map .asking) [] := by
  obtain ⟨hasked, hcalled, hfailed⟩ := h.at_rest
  have hpending := h.pending rfl
  have hne : Deed.waiting ts ds ≠ [] := by
    intro hnil
    rw [hnil] at hpending
    exact waits hpending
  have hdrains : Deed.DrainsAll ps.coalesce ts (ds ++ [.drain s.pending]) :=
    (Deed.drainsAll_append ds _ ts).2 ⟨h.drains, hpending, hne, trivial⟩
  have htaken : (Deed.drained (ds ++ [.drain s.pending])).flatten =
      (Deed.drained ds).flatten ++ s.pending := by
    rw [Deed.drained_append, List.flatten_append]
    exact congrArg _ (List.append_nil _)
  have hregistered : Deed.registered (ds ++ [.drain s.pending]) = Deed.registered ds := by
    rw [Deed.registered_append]
    exact List.append_nil _
  have hall : ∀ {α : Type} (f : Task → List α) (g : Batch → List α),
      (∀ b, f (.asking b) = g b) → (s.pending.map Task.asking).flatMap f = s.pending.flatMap g := by
    intro α f g hfg
    rw [List.flatMap_map]
    exact congrArg (s.pending.flatMap ·) (funext hfg)
  exact {
    drains := hdrains
    asked := by
      have hsame : Deed.asked (ds ++ [.drain s.pending]) = Deed.asked ds := by
        rw [Deed.asked_append]
        exact List.append_nil _
      rw [hsame, htaken, List.map_append, hall _ (fun b => [b.lookup]) fun _ => rfl,
        ← List.map_eq_flatMap]
      exact hasked.append_right _
    called := by
      have hsame : Deed.called (ds ++ [.drain s.pending]) = Deed.called ds := by
        rw [Deed.called_append]
        exact List.append_nil _
      rw [hsame, htaken, List.flatMap_append, hall _ (Batch.calls ps) fun _ => rfl]
      exact hcalled.append_right _
    failed := by
      rw [htaken, List.flatMap_append, hall _ (Batch.faults ps) fun _ => rfl, hfailed]
    pending := by
      intro _
      rw [Deed.waiting_append]
      rfl
    numbers := by
      intro _
      rw [hregistered]
      exact h.numbers rfl
    nodup := by
      -- What the passes take is part of all that was ever registered, which is numbered in turn.
      have hperm := hdrains.perm
      rw [Deed.waiting_append, hregistered] at hperm
      have hnodup := (hperm.map Prod.snd).nodup_iff.2 (h.numbers rfl ▸ List.nodup_range)
      rw [List.map_append] at hnodup
      exact (List.nodup_append.1 hnodup).1 }

/-- **Every schedule keeps its accounts.** -/
theorem Trace.accounts {first : Shared}
    (hpending : first.pending = Batch.ofTickets ps.coalesce ts)
    (hnumbers : ts.map Prod.snd = List.range first.next)
    (h : Trace ps (running first [] []) ds (running s tasks errors)) :
    Accounts ps ts ds s tasks errors := by
  generalize hst : running s tasks errors = st at h
  induction h generalizing s tasks errors with
  | begun =>
    obtain ⟨rfl, rfl, rfl⟩ := running.inj hst
    exact .begin hpending hnumbers
  | task _ step ih =>
    obtain ⟨rfl, rfl, rfl⟩ := running.inj hst
    exact (ih rfl).task step
  | pass _ waits ih =>
    obtain ⟨rfl, rfl, rfl⟩ := running.inj hst
    exact (ih rfl).pass waits

end State

/-! ## Shared lookups -/

namespace Batch

omit [RegexEngine] in
/-- No id that is asked for is alike to an earlier one. -/
theorem pairwise_distinct (ids : List Value) :
    (distinct ids).Pairwise fun k id => k.alike id = false := by
  suffices hfold : ∀ rest known : List Value, known.Pairwise (fun k id => k.alike id = false) →
      (rest.foldl insertDistinct known).Pairwise fun k id => k.alike id = false from
    hfold ids [] .nil
  intro rest
  induction rest with
  | nil => exact fun _ hknown => hknown
  | cons id rest ih =>
    intro known hknown
    refine ih _ ?_
    unfold insertDistinct
    split
    · exact hknown
    · rename_i hany
      refine List.pairwise_append.2 ⟨hknown, List.pairwise_singleton _ _, ?_⟩
      intro k hk id' hid'
      rw [List.mem_singleton.1 hid']
      exact Bool.not_eq_true _ ▸ fun halike => hany (List.any_eq_true.2 ⟨k, hk, halike⟩)

/-- What a shared lookup has done once it has ended, `waiting` having waited for it. -/
structure Serves (ps : Passes) (path : String) (waiting : List (Value × Ticket))
    (answer : Resolved) (ds : List Deed) (errors : List Error) : Prop where
  /-- The resolver is asked once. -/
  asked : Deed.asked ds = [⟨path, .ofIds (distinct (waiting.map Prod.fst))⟩]
  /-- No two of the ids are alike, in either order where they are values that can be stored. -/
  unlike : (distinct (waiting.map Prod.fst)).Pairwise fun k id =>
    k.alike id = false ∧ (k.KeysDistinct → id.KeysDistinct → id.alike k = false)
  /-- The ids cover every id that waits. -/
  covers : ∀ w ∈ waiting, Covers (distinct (waiting.map Prod.fst)) w.1
  /-- Those that are resumed are so in their order, each once and with the first document of its
  id, if there is one. -/
  called : Deed.called ds <+: waiting.map fun w =>
    (w.2, ⟨(answer.items.find? (Document.hasId w.1)).toList, answer.fields⟩)
  /-- All are resumed, or those up to the first that fails. -/
  ends : ((Deed.called ds).length = waiting.length ∧ errors = [] ∧
      ∀ c ∈ Deed.called ds, ∃ d, ps.resumed c = .ok d) ∨
    ∃ before c e, Deed.called ds = before ++ [c] ∧ errors = [e] ∧ ps.resumed c = .error e ∧
      ∀ c' ∈ before, ∃ d, ps.resumed c' = .ok d

/-- **A shared lookup serves the requests that wait for it**, whatever goes on beside it. -/
theorem serves_of_runs {ps : Passes} {path : String} {waiting : List (Value × Ticket)}
    {answer : Resolved} {ds : List Deed} {errors : List Error}
    (hanswer : ps.resolver path (.ofIds (distinct (waiting.map Prod.fst))) = .ok answer)
    (h : Task.Runs ps (.asking (shared path waiting)) ds none errors) :
    Serves ps path waiting answer ds errors := by
  obtain ⟨hask, hcall, hfail⟩ := h.accounts
  have hanswer' : ps.resolver (shared path waiting).lookup.path
      (shared path waiting).lookup.query = .ok answer := hanswer
  have hcalled : ps.calls ((shared path waiting).answers answer) = Deed.called ds :=
    ((calls_of_ok hanswer').symm.trans hcall).trans (List.append_nil _)
  have herrors : ps.faults ((shared path waiting).answers answer) = errors :=
    ((faults_of_ok hanswer').symm.trans hfail).trans (List.append_nil _)
  exact {
    asked := (hask.trans (List.append_nil _)).symm
    unlike := by
      refine (pairwise_distinct _).imp ?_
      intro k id hk
      refine ⟨hk, fun hkeys hkeys' => ?_⟩
      refine Bool.not_eq_true _ ▸ fun halike => ?_
      rw [Value.alike_symm id k hkeys' hkeys halike] at hk
      cases hk
    covers := fun w hw => covers_distinct (List.mem_map_of_mem hw)
    called := by
      rw [← hcalled]
      exact ps.calls_prefix _
    ends := by
      have hlength : ((shared path waiting).answers answer).length = waiting.length :=
        List.length_map _
      rw [← hcalled, ← herrors]
      rcases ps.calls_cases ((shared path waiting).answers answer) with
        ⟨hall, hnone, hok⟩ | ⟨before, c, after, e, -, hsome, hone, hc, hok⟩
      · rw [hall]
        exact .inl ⟨hlength, hnone, hok⟩
      · exact .inr ⟨before, c, e, hsome, hone, hc, hok⟩ }

end Batch

/-! ## Evaluations -/

namespace State

/-- At any moment of a schedule, `ts` having waited before the first pass: passes take all that is
registered, no request is resumed twice, and none with anything but its part of the answer to the
lookup that it waited for. -/
structure Orderly (ps : Passes) (ts : List Ticket) (ds : List Deed) : Prop where
  drains : Deed.DrainsAll ps.coalesce ts ds
  once : ((Deed.called ds).map fun c => c.1.2).Nodup
  registered : ∀ c ∈ Deed.called ds, c.1 ∈ ts ++ Deed.registered ds
  own : ∀ c ∈ Deed.called ds, ∃ bs ∈ Deed.drained ds, ∃ b ∈ bs, ∃ answer,
    ps.resolver b.lookup.path b.lookup.query = .ok answer ∧ c ∈ b.answers answer

/-- Once `count` passes are through: every request that ever waited is resumed once, every lookup
that a pass took is made once, and nothing waits any more. -/
structure Complete (ps : Passes) (ts : List Ticket) (ds : List Deed) (count : Nat) : Prop where
  passes : (Deed.drained ds).length = count
  called : ((Deed.called ds).map Prod.fst).Perm (ts ++ Deed.registered ds)
  numbers : ((ts ++ Deed.registered ds).map Prod.snd).Nodup
  asked : (Deed.asked ds).Perm ((Deed.drained ds).flatten.map Batch.lookup)
  nothing_waits : Deed.waiting ts ds = []

variable {ps : Passes} {ts : List Ticket} {ds : List Deed} {s : Shared} {tasks : List Task}
  {errors : List Error}

theorem Accounts.mem_calls (h : Accounts ps ts ds s tasks errors) {c : Ticket × Resolved}
    (hc : c ∈ Deed.called ds) : ∃ b ∈ (Deed.drained ds).flatten, c ∈ b.calls ps :=
  List.mem_flatMap.1 (h.called.subset (List.mem_append_left _ hc))

theorem Accounts.orderly (h : Accounts ps ts ds s tasks errors) : Orderly ps ts ds where
  drains := h.drains
  once := by
    -- A pass may still be on its way, so what is resumed is only some of what was taken.
    have hsub : ((Deed.called ds).map Prod.fst).Subperm
        ((Deed.drained ds).flatten.flatMap Batch.tickets) := by
      have hcalls := (h.called.map Prod.fst).subperm
      rw [List.map_append] at hcalls
      refine (List.sublist_append_left _ _).subperm.trans (hcalls.trans ?_)
      rw [List.map_flatMap]
      exact (List.Sublist.flatMap_right _ fun b _ => Batch.calls_sublist).subperm
    obtain ⟨l, hperm, hsub⟩ := hsub
    have hnodup := (hperm.map Prod.snd).nodup_iff.1 (h.nodup.sublist (hsub.map Prod.snd))
    rw [List.map_map] at hnodup
    exact hnodup
  registered := by
    intro c hc
    obtain ⟨b, hb, hcb⟩ := h.mem_calls hc
    refine h.drains.perm.subset (List.mem_append_left _ (List.mem_flatMap.2 ⟨b, hb, ?_⟩))
    exact Batch.calls_sublist.subset (List.mem_map_of_mem hcb)
  own := by
    intro c hc
    obtain ⟨b, hb, hcb⟩ := h.mem_calls hc
    obtain ⟨bs, hbs, hb⟩ := List.mem_flatten.1 hb
    exact ⟨bs, hbs, b, hb, Batch.exists_answer_of_mem_calls hcb⟩

theorem ofTickets_eq_nil_iff {coalesce : Bool} : Batch.ofTickets coalesce ts = [] ↔ ts = [] := by
  constructor
  · intro h
    have hperm := Batch.tickets_ofTickets coalesce ts
    rw [h] at hperm
    exact hperm.nil_eq.symm
  · rintro rfl
    rfl

theorem Accounts.complete (h : Accounts ps ts ds s [] []) (hpending : s.pending = []) :
    Complete ps ts ds (Deed.drained ds).length := by
  have hwaiting : Deed.waiting ts ds = [] :=
    ofTickets_eq_nil_iff.1 ((h.pending rfl).symm.trans hpending)
  obtain ⟨hasked, hcalled, hfailed⟩ := h.at_rest
  have hfaults : ∀ b ∈ (Deed.drained ds).flatten, b.faults ps = [] :=
    List.flatMap_eq_nil_iff.1 hfailed
  have hall : (Deed.drained ds).flatten.flatMap (fun b => (b.calls ps).map Prod.fst) =
      (Deed.drained ds).flatten.flatMap Batch.tickets :=
    List.flatMap_congr fun b hb => Batch.tickets_of_faults (hfaults b hb)
  have hperm := h.drains.perm
  rw [hwaiting, List.append_nil] at hperm
  exact {
    passes := rfl
    called := by
      have hmap := hcalled.map Prod.fst
      rw [List.map_flatMap, hall] at hmap
      exact hmap.trans hperm
    numbers := h.numbers rfl ▸ List.nodup_range
    asked := hasked
    nothing_waits := hwaiting }

end State

namespace Evaluator

variable (e : Evaluator) (catalog : Catalog) (resolver : Resolver) (p : Projection)
  (fields : Schema) (doc : Document)

/-- The requests of the walk of the document are the first that wait. -/
theorem start_eq {writes : Draft.Writes Request}
    (h : p.draft (e.passes catalog resolver).scope doc fields = .ok writes) :
    ∃ s : Shared, e.start catalog resolver p fields doc = .running s [] [] ∧
      s.pending = Batch.ofTickets (e.passes catalog resolver).coalesce
        (Draft.requestsOfWrites (Draft.numberWrites 0 writes)) ∧
      (Draft.requestsOfWrites (Draft.numberWrites 0 writes)).map Prod.snd =
        List.range s.next := by
  unfold start
  simp only [h]
  refine ⟨_, rfl, rfl, ?_⟩
  show _ = List.range (Draft.requestsOfWrites (Draft.numberWrites 0 writes)).length
  rw [Draft.requests_numberWrites, List.length_zipIdx]
  exact (List.zipIdx_map_snd _ _).trans List.range_eq_range'.symm

/-- **No request is lost, resumed twice or answered with another's document.** Between two drains
the registry holds every request once, in the lookups that its path and its query call for. A shared
lookup asks once for all of its ids and gives every request the first document of its own, up to
the first failure. In every schedule of an evaluation each request is resumed at most once, with
its part of the answer to its lookup; and when the passes end without a failure each request that
was ever registered has been resumed exactly once. -/
theorem every_request_answered :
    (∀ (coalesce : Bool) (r : Registry) (ts : List Ticket),
      Registry.Keeps coalesce ts (ts.foldl (Registry.request coalesce) r.drain.2) ∧
        (ts.foldl (Registry.request coalesce) r.drain.2).drain.1 =
          Batch.ofTickets coalesce ts) ∧
      (∀ path waiting answer ds errors,
        resolver path (.ofIds (Batch.distinct (waiting.map Prod.fst))) = .ok answer →
          Task.Runs (e.passes catalog resolver) (.asking (.shared path waiting)) ds none errors →
            Batch.Serves (e.passes catalog resolver) path waiting answer ds errors) ∧
      ∀ writes, p.draft (e.passes catalog resolver).scope doc fields = .ok writes →
        (∀ ds s tasks errors, State.Trace (e.passes catalog resolver)
            (e.start catalog resolver p fields doc) ds (.running s tasks errors) →
          State.Orderly (e.passes catalog resolver)
            (Draft.requestsOfWrites (Draft.numberWrites 0 writes)) ds) ∧
          ∀ ds count, State.Executes (e.passes catalog resolver)
              (e.start catalog resolver p fields doc) ds (.ok count) →
            State.Complete (e.passes catalog resolver)
              (Draft.requestsOfWrites (Draft.numberWrites 0 writes)) ds count := by
  refine ⟨fun coalesce r ts => ⟨Registry.keeps_requests coalesce r ts, Registry.batches_foldl ts⟩,
    fun path waiting answer ds errors hanswer hruns => Batch.serves_of_runs hanswer hruns, ?_⟩
  intro writes hw
  obtain ⟨first, hstart, hpending, hnumbers⟩ := start_eq e catalog resolver p fields doc hw
  rw [hstart]
  refine ⟨fun ds s tasks errors htrace => ?_, fun ds count hends => ?_⟩
  · exact (htrace.accounts hpending hnumbers).orderly
  · cases hends with
    | ok htrace nothing_waits =>
      exact (htrace.accounts hpending hnumbers).complete nothing_waits

end Evaluator

end

namespace Bookshelf

/-- A book's author and editor are looked up together, and each request is resumed once. -/
theorem answered_book :
    ∃ ds, State.Executes ((evaluator.coalescing true).passes catalog resolver)
        ((evaluator.coalescing true).start catalog resolver projection bookFields book) ds (.ok 1) ∧
      State.Complete ((evaluator.coalescing true).passes catalog resolver)
        [(request "author" "ann", 0), (request "editor" "bob", 1)] ds 1 := by
  have start := @State.Trace.begun _ ((evaluator.coalescing true).passes catalog resolver)
    ((evaluator.coalescing true).start catalog resolver projection bookFields book)
  have asking := start.pass (fun h => nomatch h)
  have answered := asking.only (.answered rfl)
  have author := (answered.only (.walked rfl)).only (.filled (Nat.zero_le _))
  have editor := (author.only (.walked rfl)).only (.filled (Nat.zero_le _))
  have executed := State.Executes.ok (editor.only .ended) rfl
  exact ⟨_, executed, (((evaluator.coalescing true).every_request_answered catalog resolver
    projection bookFields book).2.2 _ rfl).2 _ _ executed⟩

end Bookshelf

end DocQuery
