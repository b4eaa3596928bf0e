import DocQuery.Evaluation.Ending
import DocQuery.Proofs.Batches
import DocQuery.Proofs.Requests
import DocQuery.Proofs.Tracing
import Mathlib.Algebra.GroupWithZero.Nat
import Mathlib.Data.Prod.Lex
import Mathlib.Order.WellFounded

/-!
# Evaluations end within the depth of the projection

A request asks for fewer levels of the projection than the walk that left it, unless a document
stores a connection. So each pass is for fewer levels than the one before, whatever comes back.

* `Request.levels_lt_of_resume` — the requests of an answered request ask for less.
* `State.Descends` — the levels that are left in the middle of a pass; `Task.Step.descends` keeps
  them.
* `State.endsWithin_running` — every schedule of passes ends within the levels that are left.
* `State.EndsWithin.of_trace` — and begins no more passes.
* `Passes.settle_within` — so do passes one lookup after the other.
* `Evaluator.ends_within_depth` — an evaluation ends within the depth of its projection.
-/

set_option autoImplicit false

namespace DocQuery

/-! ## Levels -/

section

variable [RegexEngine]

/-- The levels of projection that a request asks for. -/
def Request.levels (r : Request) : Nat := Projection.depth r.query.projection

/-- The walk of a clear document leaves requests for fewer levels than it has itself. -/
theorem Site.levels_lt_of_walk {scope : Scope} {p : Projection} {doc : Document} {fields : Schema}
    {writes : Draft.Writes Request} {r : Request} (hclear : Site.Clear ⟨p, doc, fields⟩)
    (h : p.draft scope doc fields = .ok writes) (hr : r ∈ Draft.requestsOfWrites writes) :
    r.levels < Projection.depth p := by
  obtain ⟨b, hinside, hmade⟩ := Site.made_of_mem h hr
  have hlt : r.levels < Projection.depth b.projection :=
    Site.depth_lt_of_made (hclear b hinside) hmade
  exact Nat.lt_of_lt_of_le hlt hinside.depth_le

/-- **Every pass goes a level down**: what is left to ask for once a request is answered has fewer
levels. -/
theorem Request.levels_lt_of_resume {scope : Scope} {r u : Request} {answer : Resolved}
    {d : Draft Request} (hclear : ∀ a ∈ r.sites answer, a.Clear)
    (h : r.resume (Projection.draft scope) answer = .ok d) (hu : u ∈ d.requests) :
    u.levels < r.levels := by
  obtain ⟨doc, hdoc, writes, hw, hu⟩ := Request.mem_resume h hu
  exact Site.levels_lt_of_walk (hclear _ (List.mem_map_of_mem hdoc)) hw hu

omit [RegexEngine] in
/-- Numbering the requests of documents adds none. -/
theorem Draft.fst_requests_numberDocuments {ρ : Type} (n : Nat) (drafts : List (Draft.Writes ρ)) :
    ((numberDocuments n drafts).flatMap requestsOfWrites).map Prod.fst =
      drafts.flatMap requestsOfWrites := by
  induction drafts generalizing n with
  | nil => rfl
  | cons d drafts ih =>
    rw [numberDocuments, List.flatMap_cons, List.map_append, ih, requests_numberWrites,
      List.zipIdx_map_fst, List.flatMap_cons]

/-- The requests of clear documents are for fewer levels than their projection has. -/
theorem Site.levels_lt_of_walks {scope : Scope} {p : Projection} {fields : Schema}
    {docs : List Document} {drafts : List (Draft.Writes Request)}
    (hclear : ∀ doc ∈ docs, Site.Clear ⟨p, doc, fields⟩)
    (h : (docs.mapM fun doc => p.draft scope doc fields) = .ok drafts) :
    ∀ t ∈ (Draft.numberDocuments 0 drafts).flatMap Draft.requestsOfWrites,
      t.1.levels < Projection.depth p := by
  have hdrafts : ∀ writes ∈ drafts, ∀ r ∈ Draft.requestsOfWrites writes,
      r.levels < Projection.depth p := by
    intro writes hwrites r hr
    obtain ⟨doc, hdoc, hw⟩ := exists_of_mem_mapM h hwrites
    exact levels_lt_of_walk (hclear doc hdoc) hw hr
  intro t ht
  have hmem := List.mem_map_of_mem (f := Prod.fst) ht
  rw [Draft.fst_requests_numberDocuments] at hmem
  obtain ⟨writes, hwrites, hr⟩ := List.mem_flatMap.1 hmem
  exact hdrafts writes hwrites t.1 hr

/-! ## One step -/

namespace Task

variable {ps : Passes} {s s' : Shared} {task : Task} {rest : Option Task} {failed : List Error}
  {n : Nat}

/-- The stages that a task has still to come through: its lookup, the walk of every request that
waits for it, and its end. -/
def stages : Task → Nat
  | asking b => b.tickets.length + 2
  | resuming waiting => waiting.length + 1
  | registering _ _ _ waiting => waiting.length + 1

/-- The steps that are left at the present stage: registrations, and the filling of a place. -/
def errands : Task → Nat
  | registering _ d numbers _ => d.requests.length - numbers.length + 1
  | _ => 0

/-- Every step comes to a later stage, or further on in its own. -/
theorem Step.advances (h : task.Step ps s s' rest failed) :
    (rest.toList.map stages).sum < task.stages ∨
      (rest.toList.map stages).sum = task.stages ∧
        (rest.toList.map errands).sum < task.errands := by
  cases h with
  | @answered b answer answer_eq =>
    left
    have hlength : (b.answers answer).length = b.tickets.length := by
      rw [← b.fst_answers answer, List.length_map]
    simp only [Option.toList_some, List.map_cons, List.map_nil, List.sum_singleton, stages]
    omega
  | unanswered error_eq => exact .inl (Nat.succ_pos _)
  | walked draft_eq =>
    left
    simp only [Option.toList_some, List.map_cons, List.map_nil, List.sum_singleton, stages,
      List.length_cons]
    omega
  | unwalked error_eq next pending => exact .inl (Nat.succ_pos _)
  | registered request_eq =>
    right
    obtain ⟨hlt, -⟩ := List.getElem?_eq_some_iff.1 request_eq
    refine ⟨rfl, ?_⟩
    simp only [Option.toList_some, List.map_cons, List.map_nil, List.sum_singleton, errands,
      List.length_append, List.length_singleton]
    omega
  | filled all => exact .inr ⟨rfl, Nat.succ_pos _⟩
  | ended => exact .inl (Nat.succ_pos _)

/-- A task for requests of `n` levels at most. -/
def Below (n : Nat) : Task → Prop
  | asking b => ∀ t ∈ b.tickets, t.1.levels ≤ n
  | resuming waiting => ∀ w ∈ waiting, w.1.1.levels ≤ n
  | registering _ d _ waiting =>
    (∀ u ∈ d.requests, u.levels < n) ∧ ∀ w ∈ waiting, w.1.1.levels ≤ n

end Task

/-- The requests that wait for the next pass are for fewer than `n` levels, and none of its lookups
is for no request. -/
structure Shared.Below (coalesce : Bool) (n : Nat) (s : Shared) : Prop where
  wellFormed : ∀ b ∈ s.pending, b.WellFormed coalesce
  levels : ∀ t ∈ s.pending.flatMap Batch.tickets, t.1.levels < n

theorem Shared.Below.register {coalesce : Bool} {n : Nat} {s : Shared} (h : s.Below coalesce n)
    {r : Request} (hr : r.levels < n) : (s.register coalesce r).Below coalesce n where
  wellFormed := Batch.wellFormed_register h.wellFormed _
  levels := by
    intro t ht
    have hmem := (Batch.tickets_register coalesce s.pending (r, s.next)).subset ht
    rcases List.mem_append.1 hmem with ht | ht
    · exact h.levels t ht
    · rw [List.mem_singleton.1 ht]
      exact hr

/-- A step that does not fail keeps requests within the levels of the pass. -/
theorem Task.Step.below {ps : Passes} {s s' : Shared} {task : Task} {rest : Option Task} {n : Nat}
    (h : task.Step ps s s' rest []) (hs : s.Below ps.coalesce n) (htask : task.Below n)
    (hclear : ∀ a ∈ Deed.walked (task.deeds s), a.Clear) :
    s'.Below ps.coalesce n ∧ ∀ task' ∈ rest.toList, task'.Below n := by
  cases h with
  | @answered b answer answer_eq =>
    refine ⟨hs, List.forall_mem_singleton.2 fun w hw => htask _ ?_⟩
    rw [← b.fst_answers answer]
    exact List.mem_map_of_mem hw
  | @walked t answer waiting d draft_eq =>
    obtain ⟨ht, hwaiting⟩ := List.forall_mem_cons.1 htask
    refine ⟨hs, List.forall_mem_singleton.2 ⟨fun u hu => ?_, hwaiting⟩⟩
    have hsites : ∀ a ∈ t.1.sites answer, a.Clear := by
      intro a ha
      exact hclear a (List.mem_append_left _ ha)
    exact Nat.lt_of_lt_of_le (Request.levels_lt_of_resume hsites draft_eq hu) ht
  | registered request_eq =>
    exact ⟨hs.register (htask.1 _ (List.mem_of_getElem? request_eq)),
      List.forall_mem_singleton.2 htask⟩
  | filled all => exact ⟨⟨hs.wellFormed, hs.levels⟩, List.forall_mem_singleton.2 htask.2⟩
  | ended => exact ⟨hs, nofun⟩

/-! ## Every schedule -/

namespace State

variable {ps : Passes} {coalesce : Bool} {n : Nat} {s s' : Shared} {tasks : List Task}
  {errors : List Error}

/-- In the middle of a pass, `n` levels of projection are left, unless something has failed. -/
def Descends (coalesce : Bool) (n : Nat) (s : Shared) (tasks : List Task) (errors : List Error) :
    Prop :=
  errors = [] → s.Below coalesce n ∧ ∀ task ∈ tasks, task.Below n

/-- Any step of any task keeps the levels that are left. -/
theorem Descends.step {before after : List Task} {task : Task} {rest : Option Task}
    {failed : List Error} (hstep : task.Step ps s s' rest failed)
    (h : Descends ps.coalesce n s (before ++ task :: after) errors)
    (hclear : ∀ a ∈ Deed.walked (task.deeds s), a.Clear) :
    Descends ps.coalesce n s' (before ++ rest.toList ++ after) (errors ++ failed) := by
  intro hnil
  obtain ⟨herrors, rfl⟩ := List.append_eq_nil_iff.1 hnil
  obtain ⟨hs, htasks⟩ := h herrors
  obtain ⟨hs', hrest⟩ := hstep.below hs (htasks task (by simp)) hclear
  exact ⟨hs', Task.forall_mem_middle htasks hrest⟩

/-- The next pass has a level less left. -/
theorem Descends.pass (h : Descends coalesce n s [] []) (hwaits : s.pending ≠ []) :
    ∃ m, n = m + 1 ∧
      Descends coalesce m { s with pending := [] } (s.pending.map .asking) [] := by
  obtain ⟨hs, -⟩ := h rfl
  obtain ⟨b, hb⟩ := List.exists_mem_of_ne_nil _ hwaits
  obtain ⟨t, ht⟩ := (hs.wellFormed b hb).exists_ticket
  have hlt := hs.levels t (List.mem_flatMap.2 ⟨b, hb, ht⟩)
  cases n with
  | zero => exact absurd hlt (Nat.not_lt_zero _)
  | succ m =>
    refine ⟨m, rfl, fun _ => ⟨⟨nofun, nofun⟩, fun task htask => ?_⟩⟩
    obtain ⟨b, hb, rfl⟩ := List.mem_map.1 htask
    intro t ht
    exact Nat.le_of_lt_succ (hs.levels t (List.mem_flatMap.2 ⟨b, hb, ht⟩))

/-- What is left of an evaluation: levels, stages of the tasks, steps of the stages. -/
def left (n : Nat) (tasks : List Task) : ℕ ×ₗ ℕ ×ₗ ℕ :=
  toLex (n, toLex ((tasks.map Task.stages).sum, (tasks.map Task.errands).sum))

theorem left_task_lt {before after : List Task} {task : Task} {rest : Option Task}
    {failed : List Error} (h : task.Step ps s s' rest failed) :
    left n (before ++ rest.toList ++ after) < left n (before ++ task :: after) := by
  simp only [left, Prod.Lex.toLex_lt_toLex, List.map_append, List.map_cons, List.sum_append,
    List.sum_cons, lt_self_iff_false, false_or, true_and]
  have hadvances := h.advances
  omega

theorem left_pass_lt (tasks tasks' : List Task) : left n tasks < left (n + 1) tasks' :=
  Prod.Lex.toLex_lt_toLex.2 (.inl (Nat.lt_succ_self n))

/-- An evaluation that has not ended can go on. -/
theorem exists_does (ps : Passes) (s : Shared) (tasks : List Task) (errors : List Error) :
    ∃ ds st', Does ps (running s tasks errors) ds st' := by
  cases tasks with
  | cons task tasks =>
    obtain ⟨s', rest, failed, hstep⟩ := task.exists_step ps s
    exact ⟨_, _, @Does.task _ ps s s' task rest [] tasks errors failed hstep⟩
  | nil =>
    cases errors with
    | cons e errors => exact ⟨_, _, .failed List.mem_cons_self⟩
    | nil =>
      by_cases hpending : s.pending = []
      · exact ⟨_, _, .finished hpending⟩
      · exact ⟨_, _, .pass hpending⟩

/-- **Every schedule ends within the levels that are left.** -/
theorem endsWithin_running (h : Descends ps.coalesce n s tasks errors) :
    EndsWithin ps n (running s tasks errors) := by
  induction hm : left n tasks using WellFoundedLT.induction generalizing n s tasks errors with
  | ind m ih =>
    subst hm
    refine .later (fun resolver => exists_does _ s tasks errors) (fun resolver ds st' hdoes => ?_)
      (fun resolver ds st' hdoes hclear => ?_)
    · cases hdoes with
      | @task _ _ task =>
        rw [(task.deeds_spec s ps.coalesce []).1]
        exact Nat.zero_le n
      | pass waits =>
        obtain ⟨m, rfl, -⟩ := h.pass waits
        exact Nat.succ_le_succ (Nat.zero_le m)
      | failed | finished => exact Nat.zero_le n
    · cases hdoes with
      | @task _ _ task _ _ _ _ _ step =>
        rw [(task.deeds_spec s ps.coalesce []).1]
        have hnext := Descends.step step h hclear
        exact ih _ (left_task_lt step) hnext rfl
      | pass waits =>
        obtain ⟨m, rfl, hnext⟩ := h.pass waits
        exact ih _ (left_pass_lt _ _) hnext rfl
      | failed | finished => exact .done

/-- A step begins no more passes than are left, and leaves the others. -/
theorem EndsWithin.does {st st' : State} {ds : List Deed} (h : EndsWithin ps n st)
    (hdoes : Does ps st ds st') (hclear : ∀ a ∈ Deed.walked ds, a.Clear) :
    (Deed.drained ds).length ≤ n ∧ EndsWithin ps (n - (Deed.drained ds).length) st' := by
  cases h with
  | done => cases hdoes
  | later _ passes next =>
    exact ⟨passes ps.resolver ds st' hdoes, next ps.resolver ds st' hdoes hclear⟩

/-- **No schedule begins more passes** than it may end within. -/
theorem EndsWithin.of_trace {start st : State} {ds : List Deed} (h : EndsWithin ps n start)
    (htrace : Trace ps start ds st) (hclear : ∀ a ∈ Deed.walked ds, a.Clear) :
    (Deed.drained ds).length ≤ n ∧ EndsWithin ps (n - (Deed.drained ds).length) st := by
  have hstep : ∀ {ds ds' : List Deed} {st st' : State},
      (Deed.drained ds).length ≤ n ∧ EndsWithin ps (n - (Deed.drained ds).length) st →
      Does ps st ds' st' → (∀ a ∈ Deed.walked ds', a.Clear) →
      (Deed.drained (ds ++ ds')).length ≤ n ∧
        EndsWithin ps (n - (Deed.drained (ds ++ ds')).length) st' := by
    rintro ds ds' st st' ⟨hle, hends⟩ hdoes hclear
    obtain ⟨hle', hends'⟩ := hends.does hdoes hclear
    rw [Deed.drained_append, List.length_append]
    rw [Nat.sub_sub] at hends'
    exact ⟨by omega, hends'⟩
  have hsplit : ∀ {ds ds' : List Deed}, (∀ a ∈ Deed.walked (ds ++ ds'), a.Clear) →
      (∀ a ∈ Deed.walked ds, a.Clear) ∧ ∀ a ∈ Deed.walked ds', a.Clear := by
    intro ds ds' hclear
    rw [Deed.walked, Deed.called_append, List.flatMap_append, List.forall_mem_append] at hclear
    exact hclear
  induction htrace with
  | begun => exact ⟨Nat.zero_le n, h⟩
  | task _ step ih => exact hstep (ih (hsplit hclear).1) (.task step) (hsplit hclear).2
  | pass _ waits ih => exact hstep (ih (hsplit hclear).1) (.pass waits) (hsplit hclear).2

end State

/-! ## One lookup after the other -/

namespace Run

variable {α β : Type}

theorem passes_bind_le {r : Run α} {f : α → Run β} {m n : Nat} (hr : r.passes ≤ m)
    (hf : ∀ a, r.result = .ok a → (f a).passes ≤ n) : (r >>= f).passes ≤ m + n := by
  obtain ⟨result, lookups, log⟩ := r
  cases result with
  | error e => exact Nat.le_add_right_of_le hr
  | ok a =>
    show (log ++ (f a).log).countP _ ≤ m + n
    rw [List.countP_append]
    exact Nat.add_le_add hr (hf a rfl)

theorem bind_congr {r : Run α} {f g : α → Run β} (h : ∀ a, r.result = .ok a → f a = g a) :
    (r >>= f) = (r >>= g) := by
  show r.bind f = r.bind g
  unfold Run.bind
  cases hr : r.result with
  | error e => rfl
  | ok a => simp only [h a hr]

theorem passes_ofExcept (result : Except Error α) : (ofExcept result).passes = 0 := rfl

theorem passes_look (ls : List Lookup) : (look ls).passes = 0 := rfl

theorem passes_passResolved (fields : List (String × String)) :
    (report .passResolved fields).passes = 1 := rfl

end Run

namespace Passes

variable {ps : Passes} {ts : List Ticket}

/-- A draft that comes out of a pass is that of a request with its part of an answer. -/
theorem exists_of_mem_resumeAll {bs : List Batch} {resumed : List (Nat × Draft Request)}
    (h : ps.resumeAll bs = .ok resumed) {d : Draft Request} (hd : d ∈ resumed.map Prod.snd) :
    ∃ b ∈ bs, ∃ answer, ps.resolver b.lookup.path b.lookup.query = .ok answer ∧
      ∃ w ∈ b.answers answer, w.1.1.resume (Projection.draft ps.scope) w.2 = .ok d := by
  obtain ⟨drafts, hdrafts, rfl⟩ := map_eq_ok_iff.1 h
  obtain ⟨numbered, hnumbered, rfl⟩ := List.mem_map.1 hd
  obtain ⟨own, hown, hnumbered⟩ := List.mem_flatten.1 hnumbered
  obtain ⟨b, hb, hresume⟩ := exists_of_mem_mapM hdrafts hown
  obtain ⟨answer, hanswer, hresume⟩ := bind_eq_ok_iff.1 hresume
  obtain ⟨w, hw, hresume⟩ := exists_of_mem_mapM hresume hnumbered
  obtain ⟨d, hdraft, rfl⟩ := map_eq_ok_iff.1 hresume
  exact ⟨b, hb, answer, hanswer, w, hw, hdraft⟩

/-- The requests of the next pass are for fewer levels than those of a pass. -/
theorem levels_lt_of_resumeAll {n : Nat} (hlevels : ∀ t ∈ ts, t.1.levels < n + 1)
    (hclear : ∀ a, ps.Opens ts a → a.Clear) {resumed : List (Nat × Draft Request)}
    (h : ps.resumeAll (Batch.ofTickets ps.coalesce ts) = .ok resumed) :
    ∀ u ∈ Draft.requestsOfItems (Draft.numberItems 0 (resumed.map Prod.snd)), u.1.levels < n := by
  intro u hu
  obtain ⟨d, hd, hu⟩ := Draft.exists_numberItems_iff.1 ⟨u, hu, rfl⟩
  obtain ⟨b, hb, answer, hanswer, w, hw, hresume⟩ := exists_of_mem_resumeAll h hd
  have hsites : ∀ a ∈ w.1.1.sites w.2, a.Clear := by
    intro a ha
    exact hclear a (.now hb hanswer hw ha)
  have hwaits : w.1 ∈ ts := by
    apply (Batch.tickets_ofTickets ps.coalesce ts).subset
    refine List.mem_flatMap.2 ⟨b, hb, ?_⟩
    rw [← b.fst_answers answer]
    exact List.mem_map_of_mem hw
  have hlt := Request.levels_lt_of_resume hsites hresume hu
  exact Nat.lt_of_lt_of_le hlt (Nat.le_of_lt_succ (hlevels w.1 hwaits))

/-- **Passes end within the levels that are asked for**: more of them may be allowed without any
change, and no more are reported. -/
theorem settle_within {n : Nat} (hlevels : ∀ t ∈ ts, t.1.levels < n)
    (hclear : ∀ a, ps.Opens ts a → a.Clear) {limit : Nat} (hlimit : n ≤ limit) (done : Nat) :
    ps.settle limit done ts = ps.settle n done ts ∧ (ps.settle n done ts).passes ≤ n := by
  induction n generalizing ts limit done with
  | zero =>
    cases ts with
    | nil =>
      rw [settle_nil, settle_nil]
      exact ⟨rfl, Nat.le_refl 0⟩
    | cons t ts => exact absurd (hlevels t List.mem_cons_self) (Nat.not_lt_zero _)
  | succ n ih =>
    cases ts with
    | nil =>
      rw [settle_nil, settle_nil]
      exact ⟨rfl, Nat.zero_le _⟩
    | cons t ts =>
      obtain ⟨limit, rfl⟩ : ∃ l, limit = l + 1 := ⟨limit - 1, by omega⟩
      rw [settle, settle]
      cases hresumed : ps.resumeAll (Batch.ofTickets ps.coalesce (t :: ts)) with
      | error e => exact ⟨rfl, Nat.succ_le_succ (Nat.zero_le n)⟩
      | ok resumed =>
        have hnext : ∀ a, ps.Opens
            (Draft.requestsOfItems (Draft.numberItems 0 (resumed.map Prod.snd))) a → a.Clear := by
          intro a ha
          exact hclear a (.next hresumed ha)
        obtain ⟨hsame, hpasses⟩ := ih (levels_lt_of_resumeAll hlevels hclear hresumed) hnext
          (Nat.le_of_succ_le_succ hlimit) (done + 1)
        refine ⟨by simp only [hsame], ?_⟩
        rw [← Nat.zero_add (n + 1), Nat.add_comm n 1]
        refine Run.passes_bind_le (Run.passes_look _).le fun _ _ => ?_
        refine Run.passes_bind_le (Run.passes_passResolved _).le fun _ _ => ?_
        exact Run.passes_bind_le hpasses fun a _ => (Run.passes_ofExcept _).le

end Passes

namespace Evaluator

theorem passes_finish {α : Type} (unit : String) (size : α → Nat) (passes : Nat)
    (rendered : Except Error α) : (finish unit size passes rendered).passes = 0 := by
  cases rendered <;> rfl

end Evaluator

/-- An evaluation makes as many passes at most as levels are asked for, and would not make more if
more were allowed. -/
theorem Assembly.run_within {δ α : Type} (A : Assembly δ α) {ps : Passes} {walk : Except Error δ}
    {n limit : Nat} (hlevels : ∀ draft, walk = .ok draft → ∀ t ∈ A.tickets draft, t.1.levels < n)
    (hclear : ∀ draft, walk = .ok draft → ∀ site, ps.Opens (A.tickets draft) site → site.Clear)
    (hlimit : n ≤ limit) :
    A.run ps limit walk = A.run ps n walk ∧ (A.run ps n walk).passes ≤ n := by
  constructor
  · refine Run.bind_congr fun draft hdraft => ?_
    rw [(Passes.settle_within (hlevels draft hdraft) (hclear draft hdraft) hlimit 0).1]
  · have hsettled : ∀ draft, (Run.ofExcept walk).result = .ok draft →
        (ps.settle n 0 (A.tickets draft) >>= fun a =>
          Evaluator.finish A.unit A.size a.2 (A.render draft a.1)).passes ≤ n := by
      intro draft hdraft
      have hpasses := (Passes.settle_within (hlevels draft hdraft) (hclear draft hdraft) hlimit 0).2
      exact Run.passes_bind_le hpasses fun a _ => (Evaluator.passes_finish _ _ _ _).le
    have htotal := Run.passes_bind_le (Run.passes_ofExcept walk).le hsettled
    rwa [Nat.zero_add] at htotal

namespace Evaluator

variable (e : Evaluator) (catalog : Catalog) (p : Projection) (fields : Schema)

/-- Before the first pass, the levels of the requests that wait are left. -/
theorem descends_of_tickets {coalesce : Bool} {n : Nat} {s : Shared} {ts : List Ticket}
    (hpending : s.pending = Batch.ofTickets coalesce ts) (hlevels : ∀ t ∈ ts, t.1.levels < n) :
    State.Descends coalesce n s [] [] := by
  refine fun _ => ⟨⟨?_, ?_⟩, nofun⟩
  · rw [hpending]
    exact Batch.wellFormed_ofTickets ts
  · rw [hpending]
    intro t ht
    exact hlevels t ((Batch.tickets_ofTickets coalesce ts).subset ht)

theorem endsWithin_startAll (resolver : Resolver) {docs : List Document}
    (hclear : ∀ doc ∈ docs, Site.Clear ⟨p, doc, fields⟩) :
    State.EndsWithin (e.passes catalog resolver) (Projection.depth p)
      (e.startAll catalog resolver p fields docs) := by
  unfold startAll
  dsimp only
  split
  · exact .done
  · rename_i drafts hdrafts
    have hlevels := Site.levels_lt_of_walks hclear hdrafts
    exact State.endsWithin_running (descends_of_tickets rfl hlevels)

theorem endsWithin_start (resolver : Resolver) {doc : Document}
    (hclear : Site.Clear ⟨p, doc, fields⟩) :
    State.EndsWithin (e.passes catalog resolver) (Projection.depth p)
      (e.start catalog resolver p fields doc) := by
  cases hw : p.draft (e.passes catalog resolver).scope doc fields with
  | error err =>
    unfold start
    simp only [hw]
    exact .done
  | ok writes =>
    obtain ⟨s, hstart, hpending, -⟩ := start_eq e catalog resolver p fields doc hw
    rw [hstart]
    refine State.endsWithin_running (descends_of_tickets hpending fun t ht => ?_)
    exact Site.levels_lt_of_walk hclear hw (Draft.exists_numberWrites_iff.1 ⟨t, ht, rfl⟩)

theorem evalAllWithin_spec (resolver : Resolver) {docs : List Document}
    (hclear : ∀ a, e.Walks catalog resolver p fields docs a → a.Clear) {limit : Nat}
    (hlimit : Projection.depth p ≤ limit) :
    e.evalAllWithin catalog resolver p fields limit docs =
        e.evalAllWithin catalog resolver p fields (Projection.depth p) docs ∧
      (e.evalAllWithin catalog resolver p fields (Projection.depth p) docs).passes ≤
        Projection.depth p := by
  have hdocs : ∀ doc ∈ docs, Site.Clear ⟨p, doc, fields⟩ := fun doc hdoc => hclear _ (.given hdoc)
  exact Assembly.documents.run_within
    (fun drafts hdrafts => Site.levels_lt_of_walks hdocs hdrafts)
    (fun drafts hdrafts a ha => hclear a (.opened hdrafts ha)) hlimit

theorem evalWithin_spec (resolver : Resolver) {doc : Document}
    (hclear : ∀ a, e.Walks catalog resolver p fields [doc] a → a.Clear) {limit : Nat}
    (hlimit : Projection.depth p ≤ limit) :
    e.evalWithin catalog resolver p fields limit doc =
        e.evalWithin catalog resolver p fields (Projection.depth p) doc ∧
      (e.evalWithin catalog resolver p fields (Projection.depth p) doc).passes ≤
        Projection.depth p := by
  have hdoc : Site.Clear ⟨p, doc, fields⟩ := hclear _ (.given List.mem_cons_self)
  have hopened : ∀ writes, p.draft (e.passes catalog resolver).scope doc fields = .ok writes →
      ∀ a, (e.passes catalog resolver).Opens
        (Draft.requestsOfWrites (Draft.numberWrites 0 writes)) a → a.Clear := by
    intro writes hw a ha
    refine hclear a (@Walks.opened _ e catalog resolver p fields [doc] [writes] a ?_ ?_)
    · rw [List.mapM_cons, hw]
      rfl
    · rw [Draft.numberDocuments, Draft.numberDocuments, List.flatMap_singleton]
      exact ha
  exact Assembly.document.run_within
    (fun writes hw t ht =>
      Site.levels_lt_of_walk hdoc hw (Draft.exists_numberWrites_iff.1 ⟨t, ht, rfl⟩))
    hopened hlimit

/-- **Evaluations end within the depth of their projection**, whatever the resolver answers and
however it refers back, where no document stores a key that its fields declare as a connection.
Every schedule comes to an end and begins as many passes at most, though the resolver may change its
answers from call to call. One lookup after the other, an evaluation makes as many passes at most,
and would not make more if more were allowed. -/
theorem ends_within_depth :
    (∀ (resolver : Resolver) (docs : List Document),
      (∀ doc ∈ docs, Site.Clear ⟨p, doc, fields⟩) →
        State.EndsWithin (e.passes catalog resolver) (Projection.depth p)
            (e.startAll catalog resolver p fields docs) ∧
          ∀ doc ∈ docs, State.EndsWithin (e.passes catalog resolver) (Projection.depth p)
            (e.start catalog resolver p fields doc)) ∧
      (∀ (resolver : Resolver) (docs : List Document),
        (∀ a, e.Walks catalog resolver p fields docs a → a.Clear) →
          (e.evalAll catalog resolver p fields docs).passes ≤ Projection.depth p ∧
            ∀ limit, Projection.depth p ≤ limit →
              e.evalAll catalog resolver p fields docs =
                e.evalAllWithin catalog resolver p fields limit docs) ∧
      ∀ (resolver : Resolver) (doc : Document),
        (∀ a, e.Walks catalog resolver p fields [doc] a → a.Clear) →
          (e.eval catalog resolver p fields doc).passes ≤ Projection.depth p ∧
            ∀ limit, Projection.depth p ≤ limit →
              e.eval catalog resolver p fields doc =
                e.evalWithin catalog resolver p fields limit doc := by
  have hallowed : Projection.depth p ≤ passLimit p := Nat.le_add_right _ _
  refine ⟨fun resolver docs hclear => ?_, fun resolver docs hclear => ?_,
    fun resolver doc hclear => ?_⟩
  · exact ⟨e.endsWithin_startAll catalog p fields resolver hclear,
      fun doc hdoc => e.endsWithin_start catalog p fields resolver (hclear doc hdoc)⟩
  · obtain ⟨hsame, hpasses⟩ := e.evalAllWithin_spec catalog p fields resolver hclear hallowed
    rw [evalAll, hsame]
    refine ⟨hpasses, fun limit hlimit => ?_⟩
    exact (e.evalAllWithin_spec catalog p fields resolver hclear hlimit).1.symm
  · obtain ⟨hsame, hpasses⟩ := e.evalWithin_spec catalog p fields resolver hclear hallowed
    rw [eval, hsame]
    refine ⟨hpasses, fun limit hlimit => ?_⟩
    exact (e.evalWithin_spec catalog p fields resolver hclear hlimit).1.symm

end Evaluator

/-! ## Somebody who is their own friend -/

end

namespace Bookshelf

def personFields : Schema :=
  [("friend", .mk { } (.reference "/people" "person")),
    ("friends", .mk { } (.connection "/people" "friend" "person")), ("name", .mk { } .scalar)]

def echo : Document :=
  [("id", .string "echo"), ("name", .string "Echo"), ("friend", .string "echo")]

/-- Answers every question with the same person. -/
def alone : Resolver := fun _ _ => .ok ⟨[echo], personFields⟩

/-- The name of a friend's friend. -/
def friendOfFriend : Projection :=
  let friend : Selection := { name := "friend", children := some [{ name := "name" }] }
  [{ name := "friend", children := some [friend] }]

theorem clear_echo (p : Projection) : Site.Clear ⟨p, echo, personFields⟩ := by
  have hkinds : ∀ {name : String} {f : Field}, Schema.lookup personFields name = some f →
      ∀ v, f.parts v = [] := by
    intro name f hf v
    have hmem := Schema.mem_of_lookup (by simp [personFields, Field.kind]) hf
    simp only [personFields, List.map_cons, List.map_nil, List.mem_cons, List.not_mem_nil,
      or_false] at hmem
    rcases hmem with rfl | rfl | rfl <;> simp [Field.parts]
  intro b hb
  rcases Relation.ReflTransGen.cases_head hb with rfl | ⟨c, hpart, -⟩
  · intro key hkey f hf path field target
    simp only [Assoc.keys, echo, List.map_cons, List.map_nil, List.mem_cons, List.not_mem_nil,
      or_false] at hkey
    rcases hkey with rfl | rfl | rfl
    · cases hf
    all_goals
      cases hf
      rintro ⟨⟩
  · obtain ⟨_, _, hf, _, _, _, hmem⟩ := hpart
    rw [hkinds hf] at hmem
    cases hmem

theorem clear_of_walks {a : Site}
    (h : evaluator.Walks [("person", personFields)] alone friendOfFriend personFields [echo] a) :
    a.Clear := by
  have hopened : ∀ {ts a}, (evaluator.passes [("person", personFields)] alone).Opens ts a →
      a.Clear := by
    intro ts a h
    induction h with
    | @now ts b answer w a waits answered part opened =>
      obtain ⟨t, rfl⟩ := (Batch.wellFormed_ofTickets ts b waits).eq_single
      obtain rfl := Except.ok.inj answered
      obtain rfl := List.mem_singleton.1 part
      obtain ⟨doc, hdoc, rfl⟩ := List.mem_map.1 opened
      obtain rfl := List.mem_singleton.1 (Pick.mem_of_mem_documents hdoc)
      exact clear_echo _
    | next _ _ ih => exact ih
  cases h with
  | given mem =>
    obtain rfl := List.mem_singleton.1 mem
    exact clear_echo _
  | opened _ opened => exact hopened opened

/-- However long the circle of friends, three passes are enough. -/
theorem eval_echo :
    State.EndsWithin (evaluator.passes [("person", personFields)] alone) 3
        (evaluator.startAll [("person", personFields)] alone friendOfFriend personFields [echo]) ∧
      (evaluator.eval [("person", personFields)] alone friendOfFriend personFields echo).passes ≤
        3 := by
  have hends := evaluator.ends_within_depth [("person", personFields)] friendOfFriend personFields
  constructor
  · refine (hends.1 alone [echo] fun doc hdoc => ?_).1
    obtain rfl := List.mem_singleton.1 hdoc
    exact clear_echo _
  · exact (hends.2.2 alone echo fun a ha => clear_of_walks ha).1

end Bookshelf

end DocQuery
