import DocQuery.Proofs.Coalescing
import DocQuery.Proofs.Interleaving
import DocQuery.Proofs.Reporting

/-!
# The result does not depend on the schedule

A pass resolves the requests of an output all at once, in whichever order its tasks make their
steps; what comes out of it is the output with the drafts of the requests in their places. So every
schedule goes through the same outputs pass by pass, and ends the same way.

* `Rounds` — what an output comes to, pass by pass, with no tasks and no order.
* `Task.weight` — how many steps a task makes at most; a pass ends, whatever the schedule.
* `State.Inevitable.of_rounds`, `State.rounds_of_leads` — every schedule comes to what the rounds
  come to, and some schedule only to that.
* `Evaluator.schedule_irrelevant` — one result or failure of some schedule is that of all.
-/

set_option autoImplicit false

namespace DocQuery

section

variable [RegexEngine]

/-- What an output comes to, all requests being answered at once, round by round. -/
inductive Rounds (step : Request → Except Error (Draft Request)) :
    Draft Request → Option Value → Prop
  | done {G : Draft Request} (nothing_waits : G.requests = []) :
    Rounds step G (G.bind fun _ => (.value .null : Draft Empty)).render.toOption
  | fail {G : Draft Request} {r : Request} (waits : r ∈ G.requests)
    (fails : (step r).toOption = none) : Rounds step G none
  | next {G G' : Draft Request} {outcome : Option Value} (waits : G.requests ≠ [])
    (answered : (G.traverse step).toOption = some G') (rounds : Rounds step G' outcome) :
    Rounds step G outcome

/-! ## A pass ends -/

namespace Task

variable {ps : Passes} {s s' : Shared}

/-- The steps that a waiting request takes at most: its walk, its registrations, and the filling of
its place. -/
def waitingCost (ps : Passes) (w : Ticket × Resolved) : Nat :=
  match w.1.1.resume (Projection.draft ps.scope) w.2 with
  | .ok d => d.requests.length + 2
  | .error _ => 1

/-- The steps that waiting requests take, and the end of their task. -/
def waitingWeight (ps : Passes) : List (Ticket × Resolved) → Nat
  | [] => 1
  | w :: waiting => waitingCost ps w + waitingWeight ps waiting

/-- The steps that a task still makes at most. -/
def weight (ps : Passes) : Task → Nat
  | asking b =>
    match ps.resolver b.lookup.path b.lookup.query with
    | .ok answer => waitingWeight ps (b.answers answer) + 1
    | .error _ => 1
  | resuming waiting => waitingWeight ps waiting
  | registering _ d numbers waiting =>
    d.requests.length - numbers.length + 1 + waitingWeight ps waiting

theorem waitingWeight_pos (ps : Passes) (waiting : List (Ticket × Resolved)) :
    0 < waitingWeight ps waiting := by
  induction waiting with
  | nil => exact Nat.one_pos
  | cons w waiting ih =>
    rw [waitingWeight]
    omega

/-- The steps that tasks still make at most. -/
def totalWeight (ps : Passes) : List Task → Nat
  | [] => 0
  | task :: tasks => task.weight ps + totalWeight ps tasks

theorem totalWeight_append (ps : Passes) (tasks tasks' : List Task) :
    totalWeight ps (tasks ++ tasks') = totalWeight ps tasks + totalWeight ps tasks' := by
  induction tasks with
  | nil => rw [List.nil_append, totalWeight, Nat.zero_add]
  | cons task tasks ih => rw [List.cons_append, totalWeight, totalWeight, ih, Nat.add_assoc]

/-- Every step brings a task closer to its end. -/
theorem Step.weight_lt {task : Task} {rest : Option Task} {failed : List Error}
    (h : task.Step ps s s' rest failed) : totalWeight ps rest.toList < task.weight ps := by
  cases h with
  | answered hanswer =>
    simp only [Option.toList_some, totalWeight, weight, hanswer]
    omega
  | unanswered herror =>
    simp only [Option.toList_none, totalWeight, weight, herror]
    omega
  | walked hd =>
    simp only [Option.toList_some, totalWeight, weight, waitingWeight, waitingCost, hd,
      List.length_nil]
    omega
  | @unwalked t answer waiting e herror next pending =>
    have := waitingWeight_pos ps waiting
    simp only [Option.toList_none, totalWeight, weight, waitingWeight]
    omega
  | registered hr =>
    obtain ⟨hlt, -⟩ := List.getElem?_eq_some_iff.1 hr
    simp only [Option.toList_some, totalWeight, weight, List.length_append, List.length_singleton]
    omega
  | filled hall =>
    simp only [Option.toList_some, totalWeight, weight]
    omega
  | ended => exact waitingWeight_pos ps []

/-- A task can always go on. -/
theorem exists_step (ps : Passes) (s : Shared) (task : Task) :
    ∃ s' rest failed, task.Step ps s s' rest failed := by
  cases task with
  | asking b =>
    cases hanswer : ps.resolver b.lookup.path b.lookup.query with
    | ok answer => exact ⟨_, _, _, .answered hanswer⟩
    | error e => exact ⟨_, _, _, .unanswered hanswer⟩
  | resuming waiting =>
    cases waiting with
    | nil => exact ⟨_, _, _, .ended⟩
    | cons w waiting =>
      cases hd : w.1.1.resume (Projection.draft ps.scope) w.2 with
      | ok d => exact ⟨_, _, _, .walked hd⟩
      | error e => exact ⟨_, _, _, .unwalked hd s.next s.pending⟩
  | registering t d numbers waiting =>
    cases hr : d.requests[numbers.length]? with
    | some r => exact ⟨_, _, _, .registered hr⟩
    | none => exact ⟨_, _, _, .filled (List.getElem?_eq_none_iff.1 hr)⟩

/-- What holds of all tasks, and of what is left of one after a step, holds of all after it. -/
theorem forall_mem_middle {holds : Task → Prop} {before after rest : List Task} {task : Task}
    (h : ∀ t ∈ before ++ task :: after, holds t) (hrest : ∀ t ∈ rest, holds t) :
    ∀ t ∈ before ++ rest ++ after, holds t := by
  rw [List.forall_mem_append, List.forall_mem_cons] at h
  obtain ⟨hbefore, -, hafter⟩ := h
  rw [List.forall_mem_append, List.forall_mem_append]
  exact ⟨⟨hbefore, hrest⟩, hafter⟩

end Task

namespace State

variable {ps : Passes} {P Q : State → Prop} {st : State}

theorem Inevitable.trans (h : Inevitable ps P st) (hPQ : ∀ st, P st → Inevitable ps Q st) :
    Inevitable ps Q st := by
  induction h with
  | now holds => exact hPQ _ holds
  | later goes_on _ ih => exact .later goes_on ih

/-- A step in the middle of a pass is one of a task. -/
theorem Step.of_running {s : Shared} {tasks : List Task} {errors : List Error} {st : State}
    (ht : tasks ≠ []) (h : Step ps (running s tasks errors) st) :
    ∃ before task after s' rest failed, tasks = before ++ task :: after ∧
      task.Step ps s s' rest failed ∧
      st = running s' (before ++ rest.toList ++ after) (errors ++ failed) := by
  cases h with
  | task step => exact ⟨_, _, _, _, _, _, rfl, step, rfl⟩
  | pass _ => exact absurd rfl ht
  | failed _ => exact absurd rfl ht
  | finished _ => exact absurd rfl ht

/-- **Every schedule comes to the end of its pass**, with whatever the steps of tasks keep. -/
theorem inevitable_end {I : Shared → List Task → List Error → Prop}
    (hI : ∀ {s s' task rest failed before after errors},
      I s (before ++ task :: after) errors → task.Step ps s s' rest failed →
        I s' (before ++ rest.toList ++ after) (errors ++ failed))
    {s : Shared} {tasks : List Task} {errors : List Error} (h : I s tasks errors) :
    Inevitable ps (fun st => ∃ s' errors', st = running s' [] errors' ∧ I s' [] errors')
      (running s tasks errors) := by
  induction hn : Task.totalWeight ps tasks using Nat.strongRecOn generalizing s tasks errors with
  | ind n ih =>
    cases tasks with
    | nil => exact .now ⟨s, errors, rfl, h⟩
    | cons task tasks =>
      apply Inevitable.later
      · obtain ⟨s', rest, failed, hstep⟩ := task.exists_step ps s
        exact ⟨_, @Step.task _ ps s s' task rest [] tasks errors failed hstep⟩
      · intro st hst
        obtain ⟨before, task', after, s', rest, failed, heq, hstep, rfl⟩ :=
          hst.of_running (List.cons_ne_nil task tasks)
        rw [heq] at h hn
        refine ih _ ?_ (hI h hstep) rfl
        have hlt := hstep.weight_lt
        rw [Task.totalWeight_append, Task.totalWeight] at hn
        rw [Task.totalWeight_append, Task.totalWeight_append]
        omega

end State

/-! ## From pass to pass -/

namespace Shared

variable {ps : Passes} {P : Value → Prop} {Q : Request → Prop} {G : Draft Request} {s : Shared}

theorem Ready.requests (h : Ready ps G s) : G.requests = s.tree.requests.map Prod.fst := by
  rw [← h.tree, Draft.requests_bind, List.map_eq_flatMap]
  rfl

theorem Ready.pending_eq_nil_iff (h : Ready ps G s) : s.pending = [] ↔ G.requests = [] := by
  rw [h.requests, List.map_eq_nil_iff]
  constructor
  · intro hnil
    have hperm := h.waiting
    rw [hnil] at hperm
    exact hperm.nil_eq.symm
  · intro hnil
    have hperm := h.waiting
    rw [hnil] at hperm
    apply List.eq_nil_iff_forall_not_mem.2
    intro b hb
    obtain ⟨t, ht⟩ := (h.wellFormed b hb).exists_ticket
    cases hperm.mem_iff.1 (List.mem_flatMap.2 ⟨b, hb, ht⟩)

theorem Ready.render (h : Ready ps G s) :
    s.render = (G.bind fun _ => (.value .null : Draft Empty)).render := by
  rw [← h.tree, Draft.bind_bind]
  rfl

/-- A pass begins with the tasks of the lookups that wait. -/
theorem Ready.amid (h : Ready ps G s) :
    Amid ps G { s with pending := [] } (s.pending.map .asking) := by
  have hunplaced : (s.pending.map Task.asking).flatMap Task.unplaced =
      s.pending.flatMap Batch.tickets := by
    rw [List.flatMap_map]
    rfl
  have hregistered : (s.pending.map Task.asking).flatMap Task.registered = [] := by
    rw [List.flatMap_map]
    exact List.flatMap_eq_nil_iff.2 fun _ _ => rfl
  exact {
    tree := by
      rw [hunplaced, ← h.tree, Draft.bind_bind]
      apply Draft.bind_congr s.tree
      intro u hu
      exact if_pos (List.mem_map_of_mem (h.waiting.mem_iff.2 hu))
    owned := by
      rw [hunplaced, hregistered, List.append_nil]
      show (s.pending.flatMap Batch.tickets ++ []).Perm _
      rw [List.append_nil]
      exact h.waiting
    unplaced := by
      rw [hunplaced]
      intro t ht
      exact h.waiting.mem_iff.1 ht
    numbers := by
      rw [hregistered, List.append_nil]
      exact h.numbers
    fresh := by
      rw [hregistered, List.append_nil]
      exact h.fresh
    wellFormed := fun b hb => nomatch hb
    sound := by
      intro task htask
      obtain ⟨b, hb, rfl⟩ := List.mem_map.1 htask
      exact h.wellFormed b hb
    origin := by
      rw [hunplaced, h.requests]
      intro t ht
      exact List.mem_map_of_mem (h.waiting.mem_iff.1 ht)
    settled := by
      rw [hunplaced, h.requests]
      intro r hr
      obtain ⟨t, ht, rfl⟩ := List.mem_map.1 hr
      exact .inl ⟨t, h.waiting.mem_iff.2 ht, rfl⟩ }

/-- Once all its tasks have ended, a pass has put every draft in its place. -/
theorem Amid.ready (h : Amid ps G s []) :
    ∃ G', (G.traverse ps.step).toOption = some G' ∧ Ready ps G' s := by
  refine ⟨_, (Draft.traverse_eq_some_iff ps.step G _).2 ⟨?_, rfl⟩, ?_⟩
  · intro r hr
    rcases h.settled r hr with ⟨_, ht, _⟩ | hok
    · cases ht
    · exact hok
  · have howned : (s.pending.flatMap Batch.tickets).Perm (s.tree.requests ++ []) := h.owned
    have hnumbers : ((s.tree.requests ++ []).map Prod.snd).Nodup := h.numbers
    have hfresh : ∀ u ∈ s.tree.requests ++ [], u.2 < s.next := h.fresh
    rw [List.append_nil] at howned hnumbers hfresh
    exact ⟨h.tree, howned, hnumbers, hfresh, h.wellFormed⟩

/-- In the middle of a pass: nothing failed so far, or a request of the pass does. -/
def Underway (ps : Passes) (G : Draft Request) (s : Shared) (tasks : List Task)
    (errors : List Error) : Prop :=
  errors = [] ∧ Amid ps G s tasks ∨ errors ≠ [] ∧ Failing ps G

theorem Underway.step (hs : ps.Steady P Q) (hQ : ∀ r ∈ G.requests, Q r) {s' : Shared} {task : Task}
    {rest : Option Task} {failed : List Error} {before after : List Task} {errors : List Error}
    (h : Underway ps G s (before ++ task :: after) errors) (hstep : task.Step ps s s' rest failed) :
    Underway ps G s' (before ++ rest.toList ++ after) (errors ++ failed) := by
  rcases h with ⟨rfl, hamid⟩ | ⟨herrors, hfailing⟩
  · rcases (hamid.perm List.perm_middle).step hs hQ hstep with ⟨rfl, hamid'⟩ | ⟨hfailed, hfailing⟩
    · refine .inl ⟨rfl, hamid'.perm ?_⟩
      rw [← List.append_assoc]
      exact List.perm_append_comm.append_right after
    · exact .inr ⟨hfailed, hfailing⟩
  · refine .inr ⟨?_, hfailing⟩
    intro hnil
    exact herrors (List.append_eq_nil_iff.1 hnil).1

end Shared

/-- The requests of the next output satisfy what those of an output do. -/
theorem Passes.Steady.next_requests {ps : Passes} {P : Value → Prop} {Q : Request → Prop}
    (hs : ps.Steady P Q) {G G' : Draft Request} (hQ : ∀ r ∈ G.requests, Q r)
    (h : (G.traverse ps.step).toOption = some G') : ∀ u ∈ G'.requests, Q u := by
  obtain ⟨hall, rfl⟩ := (Draft.traverse_eq_some_iff ps.step G G').1 h
  intro u hu
  rw [Draft.requests_bind, List.mem_flatMap] at hu
  obtain ⟨r, hr, hu⟩ := hu
  obtain ⟨d, hd⟩ := Option.isSome_iff_exists.1 (hall r hr)
  rw [hd, Option.getD_some] at hu
  exact hs.closed (hQ r hr) (toOption_eq_some_iff.1 hd) u hu

/-! ## Every schedule -/

namespace State

open Shared

variable {ps : Passes} {P : Value → Prop} {Q : Request → Prop} {G : Draft Request} {s : Shared}
  {outcome : Option Value}

/-- How an evaluation ends, its failures not told apart. -/
def Ends (outcome : Option Value) (st : State) : Prop :=
  ∃ result, st = done result ∧ result.toOption = outcome

/-- A state between passes either begins the next pass or ends. -/
theorem Step.of_ready {st : State} (h : Step ps (running s [] []) st) :
    s.pending ≠ [] ∧ st = running { s with pending := [] } (s.pending.map .asking) [] ∨
      s.pending = [] ∧ st = done s.render := by
  generalize hst : running s [] [] = st₀ at h
  cases h with
  | @task s₁ s₂ task rest before after errors failed step =>
    exact absurd (running.inj hst).2.1.symm (by simp)
  | pass waits =>
    obtain ⟨rfl, -, -⟩ := running.inj hst
    exact .inl ⟨waits, rfl⟩
  | @failed s₁ errors e mem =>
    obtain ⟨-, -, rfl⟩ := running.inj hst
    cases mem
  | finished nothing_waits =>
    obtain ⟨rfl, -, -⟩ := running.inj hst
    exact .inr ⟨nothing_waits, rfl⟩

/-- Where a pass has failed, the evaluation ends with a failure. -/
theorem Step.of_errors {errors : List Error} {st : State} (herrors : errors ≠ [])
    (h : Step ps (running s [] errors) st) : ∃ e, st = done (.error e) := by
  generalize hst : running s [] errors = st₀ at h
  cases h with
  | task step => exact absurd (running.inj hst).2.1.symm (by simp)
  | pass _ => exact absurd (running.inj hst).2.2 herrors
  | failed _ => exact ⟨_, rfl⟩
  | finished _ => exact absurd (running.inj hst).2.2 herrors

theorem inevitable_of_errors {errors : List Error} (herrors : errors ≠ []) :
    Inevitable ps (Ends none) (running s [] errors) := by
  obtain ⟨e, he⟩ := List.exists_mem_of_ne_nil errors herrors
  refine .later ⟨_, .failed he⟩ fun st hst => .now ?_
  obtain ⟨e', rfl⟩ := hst.of_errors herrors
  exact ⟨_, rfl, rfl⟩

/-- Every schedule of a pass comes to its end, with all drafts in their places or with a failure. -/
theorem inevitable_pass (hs : ps.Steady P Q) (hQ : ∀ r ∈ G.requests, Q r) (h : Ready ps G s)
    (hwaits : s.pending ≠ []) :
    Inevitable ps (fun st => ∃ s' errors, st = running s' [] errors ∧ Underway ps G s' [] errors)
      (running s [] []) := by
  refine .later ⟨_, .pass hwaits⟩ ?_
  intro st hst
  rcases hst.of_ready with ⟨-, rfl⟩ | ⟨hnil, -⟩
  · exact inevitable_end (fun hunder hstep => hunder.step hs hQ hstep) (.inl ⟨rfl, h.amid⟩)
  · exact absurd hnil hwaits

/-- **Every schedule comes to what the rounds come to.** -/
theorem Inevitable.of_rounds (hs : ps.Steady P Q) (h : Rounds ps.step G outcome)
    (hQ : ∀ r ∈ G.requests, Q r) (hG : Ready ps G s) :
    Inevitable ps (Ends outcome) (running s [] []) := by
  induction h generalizing s with
  | @done G nothing_waits =>
    have hpending := hG.pending_eq_nil_iff.2 nothing_waits
    refine .later ⟨_, .finished hpending⟩ ?_
    intro st hst
    rcases hst.of_ready with ⟨hne, -⟩ | ⟨-, rfl⟩
    · exact absurd hpending hne
    · exact .now ⟨_, rfl, by rw [hG.render]⟩
  | @fail G r waits fails =>
    have hne : s.pending ≠ [] := by
      intro hnil
      rw [hG.pending_eq_nil_iff.1 hnil] at waits
      cases waits
    refine (inevitable_pass hs hQ hG hne).trans ?_
    rintro _ ⟨s', errors, rfl, ⟨-, hamid⟩ | ⟨herrors, -⟩⟩
    · rcases hamid.settled r waits with ⟨_, ht, _⟩ | hok
      · cases ht
      · rw [fails] at hok
        cases hok
    · exact inevitable_of_errors herrors
  | @next G G' outcome waits answered _ ih =>
    have hne : s.pending ≠ [] := by
      intro hnil
      exact waits (hG.pending_eq_nil_iff.1 hnil)
    refine (inevitable_pass hs hQ hG hne).trans ?_
    rintro _ ⟨s', errors, rfl, ⟨rfl, hamid⟩ | ⟨-, r, hr, hfail⟩⟩
    · obtain ⟨G'', hG'', hready⟩ := hamid.ready
      obtain rfl := Option.some.inj (answered.symm.trans hG'')
      exact ih (hs.next_requests hQ answered) hready
    · obtain ⟨hall, -⟩ := (Draft.traverse_eq_some_iff ps.step G G').1 answered
      have hok := hall r hr
      rw [hfail] at hok
      cases hok

/-- An output that every schedule comes to. -/
theorem Inevitable.done_ok {st : State} {v : Value} (h : Inevitable ps (Ends (some v)) st) :
    Inevitable ps (fun st => st = .done (.ok v)) st := by
  refine h.trans ?_
  rintro _ ⟨result, rfl, hresult⟩
  rw [toOption_eq_some_iff.1 hresult]
  exact .now rfl

/-- A failure that every schedule comes to. -/
theorem Inevitable.done_error {st : State} (h : Inevitable ps (Ends none) st) :
    Inevitable ps (fun st => ∃ err, st = .done (.error err)) st := by
  refine h.trans ?_
  rintro _ ⟨result, rfl, hresult⟩
  obtain ⟨err, rfl⟩ := toOption_eq_none_iff.1 hresult
  exact .now ⟨err, rfl⟩

/-! ## Some schedule -/

theorem eq_of_leads_done {result : Except Error Value} {st : State}
    (h : Leads ps (done result) st) : st = done result := by
  induction h with
  | refl => rfl
  | tail _ hstep ih =>
    subst ih
    cases hstep

/-- **A schedule comes only to what the rounds come to.** -/
theorem rounds_of_leads (hs : ps.Steady P Q) {result : Except Error Value} {st : State}
    (h : Leads ps st (done result)) :
    (∀ {G s}, st = running s [] [] → (∀ r ∈ G.requests, Q r) → Ready ps G s →
        Rounds ps.step G result.toOption) ∧
      ∀ {G s tasks errors}, st = running s tasks errors → G.requests ≠ [] →
        (∀ r ∈ G.requests, Q r) → Underway ps G s tasks errors →
          Rounds ps.step G result.toOption := by
  induction h using Relation.ReflTransGen.head_induction_on with
  | refl => exact ⟨fun heq => (nomatch heq), fun heq => (nomatch heq)⟩
  | @head st st' hstep hrest ih =>
    have hready : ∀ {G s}, st = running s [] [] → (∀ r ∈ G.requests, Q r) → Ready ps G s →
        Rounds ps.step G result.toOption := by
      intro G s hst hQ hG
      subst hst
      rcases hstep.of_ready with ⟨hne, rfl⟩ | ⟨hnil, rfl⟩
      · have hwaits : G.requests ≠ [] := by
          intro hnil
          exact hne (hG.pending_eq_nil_iff.2 hnil)
        exact ih.2 rfl hwaits hQ (.inl ⟨rfl, hG.amid⟩)
      · obtain rfl := done.inj (eq_of_leads_done hrest)
        rw [hG.render]
        exact .done (hG.pending_eq_nil_iff.1 hnil)
    refine ⟨hready, ?_⟩
    intro G s tasks errors hst hwaits hQ hunder
    cases tasks with
    | cons task tasks =>
      subst hst
      obtain ⟨before, task', after, s', rest, failed, heq, htask, rfl⟩ :=
        hstep.of_running (List.cons_ne_nil task tasks)
      rw [heq] at hunder
      exact ih.2 rfl hwaits hQ (hunder.step hs hQ htask)
    | nil =>
      rcases hunder with ⟨rfl, hamid⟩ | ⟨herrors, r, hr, hfail⟩
      · obtain ⟨G', hG', hr⟩ := hamid.ready
        exact .next hwaits hG' (hready hst (hs.next_requests hQ hG') hr)
      · subst hst
        obtain ⟨e, rfl⟩ := hstep.of_errors herrors
        obtain rfl := done.inj (eq_of_leads_done hrest)
        exact .fail hr hfail

end State

/-! ## Evaluation one lookup after the other -/

namespace Rounds

variable {step : Request → Except Error (Draft Request)} {G : Draft Request}

/-- What requests resolved alone come to is what the rounds come to. -/
theorem of_resolveWithin (n : Nat) {d : Draft Empty}
    (h : (G.traverse (Passes.resolveWithin step n)).toOption = some d) :
    Rounds step G d.render.toOption := by
  induction n generalizing G with
  | zero =>
    obtain ⟨hall, rfl⟩ := (Draft.traverse_eq_some_iff _ _ _).1 h
    have hnil : G.requests = [] := by
      apply List.eq_nil_iff_forall_not_mem.2
      intro r hr
      cases hall r hr
    exact .done hnil
  | succ n ih =>
    by_cases hnil : G.requests = []
    · obtain ⟨-, rfl⟩ := (Draft.traverse_eq_some_iff _ _ _).1 h
      have hnull : G.bind (fun r => (Passes.resolveWithin step (n + 1) r).toOption.getD default) =
          G.bind fun _ => .value .null := by
        apply Draft.bind_congr
        intro r hr
        rw [hnil] at hr
        cases hr
      rw [hnull]
      exact .done hnil
    · have hround := Draft.toOption_traverse_traverse step (Passes.resolveWithin step n) G
      obtain ⟨G', hG', hrest⟩ := Option.bind_eq_some_iff.1 (hround.trans h)
      exact .next hnil hG' (ih hrest)

end Rounds

namespace Passes

variable {ps : Passes} {Q : Request → Prop} {step : Request → Except Error (Draft Request)}

/-- Where a pass fails, the rounds fail. -/
theorem Goes.rounds_of_fails (hf : ps.Follows Q step) {ts waiting : List Ticket}
    {passes : List (List Batch)} (h : ps.Goes ts passes waiting) {e : Error}
    (fails : ps.resumeAll (Batch.ofTickets ps.coalesce waiting) = .error e)
    (hQ : ∀ t ∈ ts, Q t.1) {G : Draft Request}
    (hG : ∀ r, r ∈ G.requests ↔ ∃ t ∈ ts, t.1 = r) : Rounds step G none := by
  induction h generalizing G with
  | stop =>
    rcases resumeAll_ofTickets hf hQ with ⟨us, D, -, -, hresumed⟩ | ⟨t, ht, hnone, -⟩
    · cases fails.symm.trans hresumed
    · exact .fail ((hG t.1).2 ⟨t, ht, rfl⟩) hnone
  | @pass ts _ _ resumed waits through goes ih =>
    rcases resumeAll_ofTickets hf hQ with ⟨us, D, hperm, hD, hresumed⟩ | ⟨t, ht, hnone, -⟩
    · obtain rfl := Except.ok.inj (through.symm.trans hresumed)
      have hmem : ∀ r, r ∈ G.requests ↔ ∃ t ∈ us, t.1 = r := by
        intro r
        rw [hG r]
        exact exists_congr fun t => and_congr_left fun _ => hperm.mem_iff.symm
      have hanswered : ∀ r ∈ G.requests, (step r).toOption.isSome := by
        intro r hr
        obtain ⟨t, ht, rfl⟩ := (hmem r).1 hr
        rw [hD t ht]
        rfl
      have hwaits : G.requests ≠ [] := by
        intro hnil
        obtain ⟨t, ht⟩ := List.exists_mem_of_ne_nil ts waits
        have hin := (hG t.1).2 ⟨t, ht, rfl⟩
        rw [hnil] at hin
        cases hin
      refine .next hwaits ((Draft.traverse_eq_some_iff step G _).2 ⟨hanswered, rfl⟩) ?_
      -- The next pass is for the requests of the output that the drafts are put in.
      have hmap : (us.map fun t => (t.2, D t)).map Prod.snd = us.map D := by
        rw [List.map_map]
        rfl
      have hQnext := hf.next (fun t ht => hQ t (hperm.subset ht)) hD
      rw [hmap] at ih
      refine ih fails hQnext fun u => ?_
      rw [Draft.exists_numberItems_iff, Draft.requests_bind, List.mem_flatMap]
      constructor
      · rintro ⟨r, hr, hu⟩
        obtain ⟨t, ht, rfl⟩ := (hmem r).1 hr
        rw [hD t ht] at hu
        exact ⟨D t, List.mem_map_of_mem ht, hu⟩
      · rintro ⟨_, hd, hu⟩
        obtain ⟨t, ht, rfl⟩ := List.mem_map.1 hd
        exact ⟨t.1, (hmem _).2 ⟨t, ht, rfl⟩, by rw [hD t ht]; exact hu⟩
    · exact .fail ((hG t.1).2 ⟨t, ht, rfl⟩) hnone

theorem forall_requests_number (n : Nat) {G : Draft Request}
    (h : ∀ r ∈ G.requests, Q r) :
    ∀ t ∈ (G.number n).requests, Q t.1 := by
  intro t ht
  rw [Draft.requests_number] at ht
  have hr := List.mem_map_of_mem (f := Prod.fst) ht
  rw [List.zipIdx_map_fst] at hr
  exact h t.1 hr

/-- The passes for a draft put in its places what its requests come to alone. -/
theorem settle_number (hf : ps.Follows Q step) (limit : Nat) {G : Draft Request}
    (hQ : ∀ r ∈ G.requests, Q r) :
    ((ps.settle limit 0 (G.number 0).requests).result.toOption.map fun a =>
        (G.number 0).bind fun t => a.1 t.2) =
      (G.traverse (resolveWithin step limit)).toOption := by
  have hnodup : ((G.number 0).requests.map Prod.snd).Nodup := by
    rw [Draft.requests_number, List.zipIdx_map_snd]
    exact List.nodup_range'
  exact Draft.toOption_traverse_number
    (settle_result hf limit 0 hnodup (forall_requests_number 0 hQ))

end Passes

/-- **What an evaluation comes to is what the rounds come to**, if it renders the output that its
draft is. -/
theorem Assembly.Tells.rounds {ps : Passes} {Q : Request → Prop}
    {step : Request → Except Error (Draft Request)} {δ α : Type} {A : Assembly δ α} {draft : δ}
    {run : Run α} (h : A.Tells ps (.ok draft) run) (hf : ps.Follows Q step) {G : Draft Request}
    (hQ : ∀ r ∈ G.requests, Q r) (htickets : A.tickets draft = (G.number 0).requests)
    {value : α → Value} (hrender : ∀ answers : Answers,
      ((G.number 0).bind fun t => answers t.2).render.toOption =
        (A.render draft answers).toOption.map value) :
    Rounds step G (run.result.toOption.map value) := by
  have hsettled : ∀ {n : Nat} {answers : Answers},
      (ps.settle n 0 (A.tickets draft)).result = .ok (answers, n) →
        Rounds step G ((A.render draft answers).toOption.map value) := by
    intro n answers h
    have hplaces := Passes.settle_number hf n hQ
    rw [← htickets, h, toOption_ok, Option.map_some] at hplaces
    exact hrender answers ▸ .of_resolveWithin n hplaces.symm
  cases h with
  | failed goes waits fails =>
    refine goes.rounds_of_fails hf fails ?_ fun r => ?_
    · rw [htickets]
      exact Passes.forall_requests_number 0 hQ
    · rw [htickets, ← List.mem_map, Draft.requests_number, List.zipIdx_map_fst]
  | unrendered _ settled fails => exact fails ▸ hsettled settled
  | completed _ settled rendered => exact rendered ▸ hsettled settled

namespace Evaluator

variable (e : Evaluator) (catalog : Catalog) (resolver : Resolver) (p : Projection)
  (fields : Schema) (doc : Document)

/-- Once the document is walked, the requests of its draft are those that wait. -/
theorem start_of_draft {writes : Draft.Writes Request}
    (h : p.draft (e.passes catalog resolver).scope doc fields = .ok writes) :
    ∃ s, e.start catalog resolver p fields doc = .running s [] [] ∧
      Shared.Ready (e.passes catalog resolver) (.document writes) s := by
  unfold start
  simp only [h]
  refine ⟨_, rfl, ?_, Batch.tickets_ofTickets _ _, Draft.nodup_requests_numberWrites 0 writes, ?_,
    Batch.wellFormed_ofTickets _⟩
  · exact congrArg Draft.document (Draft.bindWrites_numberWrites 0 writes)
  · intro u hu
    have hu : u ∈ (Draft.requestsOfWrites writes).zipIdx 0 :=
      Draft.requests_numberWrites 0 writes ▸ hu
    show u.2 < (Draft.requestsOfWrites (Draft.numberWrites 0 writes)).length
    rw [Draft.requests_numberWrites, List.length_zipIdx]
    exact (List.mem_zipIdx' hu).1

variable {e catalog resolver p fields doc} in
/-- One lookup after the other, an evaluation comes to what the rounds come to. -/
theorem EvaluatesTo.rounds {P : Value → Prop} {Q : Request → Prop} {run : Run Document}
    (h : e.EvaluatesTo catalog resolver p fields doc run)
    (hs : (e.passes catalog resolver).Steady P Q) {writes : Draft.Writes Request}
    (hw : p.draft (e.passes catalog resolver).scope doc fields = .ok writes)
    (hQ : ∀ r ∈ Draft.requestsOfWrites writes, Q r) :
    Rounds (e.passes catalog resolver).step (.document writes)
      (run.result.toOption.map .object) := by
  have htells := h.tells
  rw [hw] at htells
  have hQdocument : ∀ r ∈ (Draft.document writes).requests, Q r := hQ
  refine htells.rounds hs.follows_step hQdocument rfl fun answers => ?_
  rw [Draft.number, Draft.bind, Draft.render, toOption_map]
  rfl

/-- **The result does not depend on the schedule.** Over a resolver whose failures depend on the
path only, and whose answers hold the same for an id whatever the other ids are: a result that some
schedule comes to is what all of them come to, and where some schedule fails, all of them fail. With
the lookups one after the other, in as many passes as it takes, an evaluation is such a schedule. No
document has a key twice. -/
theorem schedule_irrelevant (hs : resolver.SteadyOn Value.KeysDistinct)
    (hres : resolver.KeysDistinct) (hdoc : (Value.object doc).KeysDistinct) :
    (∀ v, State.Leads (e.passes catalog resolver) (e.start catalog resolver p fields doc)
          (.done (.ok v)) →
        State.Inevitable (e.passes catalog resolver) (fun st => st = .done (.ok v))
          (e.start catalog resolver p fields doc)) ∧
      (∀ err, State.Leads (e.passes catalog resolver) (e.start catalog resolver p fields doc)
          (.done (.error err)) →
        State.Inevitable (e.passes catalog resolver) (fun st => ∃ err', st = .done (.error err'))
          (e.start catalog resolver p fields doc)) ∧
      (∀ limit out, (e.evalWithin catalog resolver p fields limit doc).result = .ok out →
        State.Inevitable (e.passes catalog resolver) (fun st => st = .done (.ok (.object out)))
          (e.start catalog resolver p fields doc)) ∧
      ∀ run err, e.EvaluatesTo catalog resolver p fields doc run → run.result = .error err →
        State.Inevitable (e.passes catalog resolver) (fun st => ∃ err', st = .done (.error err'))
          (e.start catalog resolver p fields doc) := by
  have hsteady : (e.passes catalog resolver).Steady Value.KeysDistinct Request.KeysDistinct :=
    Passes.steady_of_keysDistinct hs hres
  cases hw : p.draft (e.passes catalog resolver).scope doc fields with
  | error err =>
    have hstart : e.start catalog resolver p fields doc = .done (.error err) := by
      unfold start
      simp only [hw]
    rw [hstart]
    refine ⟨fun v hv => ?_, fun _ _ => .now ⟨err, rfl⟩, fun limit out hout => ?_,
      fun _ _ _ _ => .now ⟨err, rfl⟩⟩
    · exact nomatch State.eq_of_leads_done hv
    · have hfails : (e.evalWithin catalog resolver p fields limit doc).result = .error err :=
        Run.result_bind_of_error _ hw
      cases hfails.symm.trans hout
  | ok writes =>
    obtain ⟨s, hstart, hready⟩ := start_of_draft e catalog resolver p fields doc hw
    have hQ : ∀ r ∈ (Draft.document writes).requests, r.KeysDistinct :=
      Site.keysDistinct_of_draft hdoc hw
    have hrounds : ∀ {outcome}, Rounds (e.passes catalog resolver).step (.document writes) outcome →
        State.Inevitable (e.passes catalog resolver) (State.Ends outcome) (.running s [] []) := by
      intro outcome h
      exact .of_rounds hsteady h hQ hready
    rw [hstart]
    refine ⟨fun v hv => ?_, fun err herr => ?_, fun limit out hout => ?_,
      fun run err hrun herr => ?_⟩
    · exact (hrounds ((State.rounds_of_leads hsteady hv).1 rfl hQ hready)).done_ok
    · exact (hrounds ((State.rounds_of_leads hsteady herr).1 rfl hQ hready)).done_error
    · have hrun := e.evaluatesTo_of_ne catalog resolver p fields (hout.trans_ne (by simp))
      have h := hrun.rounds hsteady hw hQ
      rw [hout] at h
      exact (hrounds h).done_ok
    · have h := hrun.rounds hsteady hw hQ
      rw [herr] at h
      exact (hrounds h).done_error

end Evaluator

end

namespace Bookshelf

/-- Every schedule comes to the book with its author and editor, who share a lookup. -/
theorem inevitable_book :
    State.Inevitable ((evaluator.coalescing true).passes catalog
        (Resolver.ofResources store.resource Access.ofQuery))
      (fun st => st = .done (.ok (.object
        [("title", .string "A tale"), ("author", .object [("name", .string "Ann")]),
          ("editor", .object [("name", .string "Bob")])])))
      ((evaluator.coalescing true).start catalog
        (Resolver.ofResources store.resource Access.ofQuery) projection bookFields book) := by
  have hkeys : (Value.object book).KeysDistinct := by
    simp [Value.KeysDistinct, Value.keysDistinctEntries, Assoc.keys, book]
  exact ((evaluator.coalescing true).schedule_irrelevant catalog
    (Resolver.ofResources store.resource Access.ofQuery) projection bookFields book
    stored.steadyOn stored.keysDistinct hkeys).2.2.1 1 _ (by rfl)

end Bookshelf

end DocQuery
