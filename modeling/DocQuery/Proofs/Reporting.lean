import DocQuery.Evaluation.Report
import DocQuery.Proofs.DirectEvaluation

/-!
# The log of an evaluation tells its run

What an evaluation reports follows its passes: one event for each that goes through, under its
number and with the number of its lookups, then the failure of a pass or the completion. A logger
writes those that are severe enough, and the evaluation does not depend on it.

* `Passes.settles` — how passes end, by induction on how many are allowed.
* `Assembly.tells_or_breaksOff`, `Assembly.tells_of_comeTo` — how evaluations end.
* `Logger.lines_atLeast` — the lines at or above a severity.
* `Evaluator.log_tells_run` — how an evaluation ends, what it reports and what is written of it.
-/

set_option autoImplicit false

namespace DocQuery

section

variable [RegexEngine]

namespace LogEntry

theorem through_cons (first : Nat) (pass : List Batch) (passes : List (List Batch)) :
    through first (pass :: passes) =
      .ofEvent .passResolved
        [("pass", toString first), ("requests", toString pass.length)] ::
        through (first + 1) passes := by
  rw [through, List.zipIdx_cons, List.map_cons, through]

end LogEntry

namespace Passes

variable {ps : Passes}

theorem lookups_cons (pass : List Batch) (passes : List (List Batch)) :
    lookups (pass :: passes) = pass.map Batch.lookup ++ lookups passes := by
  rw [lookups, List.flatten_cons, List.map_append, lookups]

/-- The first pass fails. -/
theorem settle_of_fails {limit : Nat} (done : Nat) {t : Ticket} {ts : List Ticket} {e : Error}
    (h : ps.resumeAll (Batch.ofTickets ps.coalesce (t :: ts)) = .error e) :
    ps.settle (limit + 1) done (t :: ts) =
      ⟨.error e, lookups [Batch.ofTickets ps.coalesce (t :: ts)], [.failed (done + 1) e]⟩ := by
  rw [settle, lookups, List.flatten_singleton]
  simp only [h]
  show Run.mk _ (_ ++ []) _ = _
  rw [List.append_nil]
  rfl

/-- The first pass goes through, and the others go on from what it leaves. -/
theorem settle_of_through {limit done : Nat} {t : Ticket} {ts : List Ticket}
    {resumed : List (Nat × Draft Request)}
    (h : ps.resumeAll (Batch.ofTickets ps.coalesce (t :: ts)) = .ok resumed)
    {drafts : List (Draft (Request × Nat))}
    (hdrafts : drafts = Draft.numberItems 0 (resumed.map Prod.snd)) {rest : Run (Answers × Nat)}
    (hrest : ps.settle limit (done + 1) (Draft.requestsOfItems drafts) = rest) :
    ps.settle (limit + 1) done (t :: ts) =
      ⟨rest.result.map fun a =>
          (place ((resumed.map Prod.fst).zip (Draft.bindItems (fun u => a.1 u.2) drafts)), a.2),
        (Batch.ofTickets ps.coalesce (t :: ts)).map Batch.lookup ++ rest.lookups,
        .ofEvent .passResolved [("pass", toString (done + 1)),
          ("requests", toString (Batch.ofTickets ps.coalesce (t :: ts)).length)] :: rest.log⟩ := by
  subst hdrafts
  rw [settle]
  simp only [h, hrest]
  obtain ⟨result, lookups, log⟩ := rest
  cases result with
  | error e => rfl
  | ok a =>
    show Run.mk _ (_ ++ ([] ++ (lookups ++ []))) (_ ++ (_ ++ (log ++ []))) = _
    rw [List.append_nil, List.append_nil]
    rfl

/-- **How passes end**: by induction on how many are allowed. -/
theorem settles (ps : Passes) (limit done : Nat) (ts : List Ticket) :
    ps.Settles limit done ts (ps.settle limit done ts) := by
  induction limit generalizing done ts with
  | zero =>
    cases ts with
    | nil => exact .through .stop (Nat.le_refl 0)
    | cons t ts => exact .unfinished .stop (List.cons_ne_nil t ts) rfl
  | succ limit ih =>
    cases ts with
    | nil => exact .through .stop (Nat.zero_le _)
    | cons t ts =>
      have hwaits := List.cons_ne_nil t ts
      cases hpass : ps.resumeAll (Batch.ofTickets ps.coalesce (t :: ts)) with
      | error e =>
        rw [settle_of_fails done hpass]
        exact .failed .stop hwaits hpass (Nat.zero_lt_succ limit)
      | ok resumed =>
        have hrest := ih (done + 1)
          (Draft.requestsOfItems (Draft.numberItems 0 (resumed.map Prod.snd)))
        rw [settle_of_through hpass rfl rfl]
        -- What the first pass leaves stands in front of what the others do.
        generalize ps.settle limit (done + 1)
          (Draft.requestsOfItems (Draft.numberItems 0 (resumed.map Prod.snd))) = rest at hrest
        have hcount : ∀ passes : List (List Batch), done + 1 + passes.length =
            done + (Batch.ofTickets ps.coalesce (t :: ts) :: passes).length := by
          intro passes
          rw [List.length_cons]
          omega
        cases hrest with
        | through goes enough =>
          simp only [Except.map, ← lookups_cons, ← LogEntry.through_cons, hcount]
          exact .through (.pass hwaits hpass goes) (Nat.succ_le_succ enough)
        | failed goes waits fails enough =>
          simp only [Except.map, ← lookups_cons, ← List.cons_append, ← LogEntry.through_cons, hcount]
          exact .failed (.pass hwaits hpass goes) waits fails (Nat.succ_lt_succ enough)
        | unfinished goes waits spent =>
          simp only [Except.map, ← lookups_cons, ← LogEntry.through_cons]
          exact .unfinished (.pass hwaits hpass goes) waits (congrArg (· + 1) spent)

/-- Where numbers of passes make no difference for what waits after some passes, they make none
before. -/
theorem Goes.settle_congr {ts waiting : List Ticket} {passes : List (List Batch)}
    (h : ps.Goes ts passes waiting) {more limit : Nat}
    (hrest : ∀ done, ps.settle more done waiting = ps.settle limit done waiting) (done : Nat) :
    ps.settle (more + passes.length) done ts = ps.settle (limit + passes.length) done ts := by
  induction h generalizing done with
  | stop => exact hrest done
  | @pass ts _ _ _ waits through _ ih =>
    obtain ⟨t, ts, rfl⟩ := List.exists_cons_of_ne_nil waits
    rw [List.length_cons, ← Nat.add_assoc, ← Nat.add_assoc,
      settle_of_through through rfl (ih hrest (done + 1)), settle_of_through through rfl rfl]

/-- Once no request waits, further passes are not made though they are allowed. -/
theorem Goes.settle_eq {ts : List Ticket} {passes : List (List Batch)} (h : ps.Goes ts passes [])
    {limit : Nat} (enough : passes.length ≤ limit) (done : Nat) :
    ps.settle limit done ts = ps.settle passes.length done ts := by
  have heq := h.settle_congr (fun done => (settle_nil ps (limit - passes.length) done).trans
    (settle_nil ps 0 done).symm) done
  rwa [Nat.sub_add_cancel enough, Nat.zero_add] at heq

/-- Nor are they once a pass has failed. -/
theorem Goes.settle_eq_of_fails {ts waiting : List Ticket} {passes : List (List Batch)}
    (h : ps.Goes ts passes waiting) (waits : waiting ≠ []) {e : Error}
    (fails : ps.resumeAll (Batch.ofTickets ps.coalesce waiting) = .error e) {limit : Nat}
    (enough : passes.length < limit) (done : Nat) :
    ps.settle limit done ts = ps.settle (passes.length + 1) done ts := by
  obtain ⟨t, waiting, rfl⟩ := List.exists_cons_of_ne_nil waits
  obtain ⟨spare, rfl⟩ := Nat.exists_eq_add_of_lt enough
  have hfails (done : Nat) : ps.settle (spare + 1) done (t :: waiting) =
      ps.settle (0 + 1) done (t :: waiting) :=
    (settle_of_fails done fails).trans (settle_of_fails done fails).symm
  have heq := h.settle_congr hfails done
  rwa [Nat.add_comm, ← Nat.add_assoc, Nat.add_comm (0 + 1)] at heq

/-- Each pass that goes through is reported, and the next one is as well if it is allowed. -/
theorem Goes.lt_length_log {ts waiting : List Ticket} {passes : List (List Batch)}
    (h : ps.Goes ts passes waiting) (waits : waiting ≠ []) {limit : Nat}
    (hlimit : passes.length < limit) (done : Nat) :
    passes.length < (ps.settle limit done ts).log.length := by
  induction h generalizing limit done with
  | stop =>
    obtain ⟨t, ts, rfl⟩ := List.exists_cons_of_ne_nil waits
    obtain ⟨limit, rfl⟩ := Nat.exists_eq_succ_of_ne_zero (Nat.ne_of_gt hlimit)
    cases hpass : ps.resumeAll (Batch.ofTickets ps.coalesce (t :: ts)) with
    | error e =>
      rw [settle_of_fails done hpass]
      exact Nat.zero_lt_succ 0
    | ok resumed =>
      rw [settle_of_through hpass rfl rfl]
      exact Nat.zero_lt_succ _
  | pass hts through _ ih =>
    obtain ⟨t, ts, rfl⟩ := List.exists_cons_of_ne_nil hts
    obtain ⟨limit, rfl⟩ := Nat.exists_eq_succ_of_ne_zero (Nat.ne_of_gt (Nat.zero_lt_of_lt hlimit))
    rw [settle_of_through through rfl rfl]
    exact Nat.succ_lt_succ (ih waits (Nat.lt_of_succ_lt_succ hlimit) (done + 1))

end Passes

namespace Logger

omit [RegexEngine] in
/-- Of the lines of a log those at or above a severity are written. -/
theorem lines_atLeast (min : Severity) (es : List LogEntry) :
    (atLeast min).lines es =
      (es.filter fun entry => min.level ≤ entry.severity.level).map LogEntry.line := by
  induction es with
  | nil => rfl
  | cons entry es ih =>
    unfold lines at ih ⊢
    by_cases h : min.level ≤ entry.severity.level
    · have hwrite : (atLeast min).write? entry = some entry.line := by
        simp [write?, enabled, atLeast, h]
      rw [List.filterMap_cons_some hwrite, ih, List.filter_cons_of_pos (by simpa using h),
        List.map_cons]
    · have hwrite : (atLeast min).write? entry = none := by
        simp [write?, enabled, atLeast, h]
      rw [List.filterMap_cons_none hwrite, ih, List.filter_cons_of_neg (by simpa using h)]

end Logger

namespace Run

variable {α β : Type} {ls : List Lookup} {log : List LogEntry}

theorem bind_of_error (e : Error) (f : α → Run β) :
    ((⟨.error e, ls, log⟩ : Run α) >>= f) = ⟨.error e, ls, log⟩ := rfl

theorem bind_of_ok (a : α) (f : α → Run β) : ((⟨.ok a, ls, log⟩ : Run α) >>= f) =
    ⟨(f a).result, ls ++ (f a).lookups, log ++ (f a).log⟩ := rfl

theorem length_log_le_bind (r : Run α) (f : α → Run β) : r.log.length ≤ (r >>= f).log.length := by
  obtain ⟨result, ls, log⟩ := r
  cases result with
  | error e => exact Nat.le_refl _
  | ok a =>
    rw [bind_of_ok, List.length_append]
    exact Nat.le_add_right _ _

end Run

namespace Assembly

variable {δ α : Type} (A : Assembly δ α) (ps : Passes)

theorem finish_of_error (passes : Nat) (e : Error) :
    Evaluator.finish A.unit A.size passes (.error e) = ⟨.error e, [], []⟩ := rfl

theorem finish_of_ok (passes : Nat) (out : α) :
    Evaluator.finish A.unit A.size passes (.ok out) =
      ⟨.ok out, [], [.completed A.unit (A.size out) passes]⟩ := rfl

theorem run_of_ok (limit : Nat) (draft : δ) : A.run ps limit (.ok draft) =
    ps.settle limit 0 (A.tickets draft) >>= fun a =>
      Evaluator.finish A.unit A.size a.2 (A.render draft a.1) :=
  Run.pure_bind _ _

/-- **How an evaluation in so many passes ends, or where it breaks off.** What follows the passes
adds nothing if they fail, and else the completion if the rendering succeeds. If it ends, then no
larger number of passes changes it. -/
theorem tells_or_breaksOff (limit : Nat) (walk : Except Error δ) :
    A.Tells ps walk (A.run ps limit walk) ∧
        (∀ more, limit ≤ more → A.run ps more walk = A.run ps limit walk) ∨
      A.BreaksOff ps limit walk (A.run ps limit walk) := by
  cases walk with
  | error e => exact .inl ⟨.unwalked, fun _ _ => rfl⟩
  | ok draft =>
    simp only [run_of_ok]
    have hsettles := ps.settles limit 0 (A.tickets draft)
    generalize hrun : ps.settle limit 0 (A.tickets draft) = run at hsettles ⊢
    cases hsettles with
    | @through passes answers goes enough =>
      refine .inl ⟨?_, fun more hmore => ?_⟩
      · have hsettled : (ps.settle passes.length 0 (A.tickets draft)).result =
            .ok (answers, passes.length) := by
          rw [← goes.settle_eq enough, hrun, Nat.zero_add]
        rw [Nat.zero_add, Run.bind_of_ok]
        cases hrendered : A.render draft answers with
        | error e =>
          rw [finish_of_error, List.append_nil, List.append_nil]
          exact .unrendered goes hsettled hrendered
        | ok out =>
          rw [finish_of_ok, List.append_nil]
          exact .completed goes hsettled hrendered
      · rw [← hrun, goes.settle_eq (Nat.le_trans enough hmore), goes.settle_eq enough]
    | failed goes waits fails enough =>
      refine .inl ⟨?_, fun more hmore => ?_⟩
      · rw [Run.bind_of_error, Nat.zero_add, Nat.zero_add]
        exact .failed goes waits fails
      · rw [← hrun, goes.settle_eq_of_fails waits fails (Nat.lt_of_lt_of_le enough hmore),
          goes.settle_eq_of_fails waits fails enough]
    | unfinished goes waits spent =>
      rw [Run.bind_of_error]
      exact .inr (.intro goes waits spent)

/-- Whatever ends in so many passes is what an evaluation in any number of them comes to. -/
theorem comeTo_or_breaksOff (limit : Nat) (walk : Except Error δ) :
    Run.ComeTo (fun limit => A.run ps limit walk) (A.run ps limit walk) ∨
      A.BreaksOff ps limit walk (A.run ps limit walk) :=
  (A.tells_or_breaksOff ps limit walk).imp_left fun h => ⟨limit, h.2⟩

variable {A ps}

theorem BreaksOff.result_eq {limit : Nat} {walk : Except Error δ} {run : Run α}
    (h : A.BreaksOff ps limit walk run) : run.result = .error Passes.unfinished := by
  cases h
  rfl

/-- Where an evaluation breaks off, it goes on if it may. -/
theorem BreaksOff.run_ne {limit : Nat} {walk : Except Error δ} {run : Run α}
    (h : A.BreaksOff ps limit walk run) : A.run ps (limit + 1) walk ≠ run := by
  cases h with
  | @intro draft passes waiting goes waits spent =>
    intro heq
    have hlog := goes.lt_length_log waits (Nat.lt_succ_of_le (Nat.le_of_eq spent)) 0
    have hle := Run.length_log_le_bind (ps.settle (limit + 1) 0 (A.tickets draft)) fun a =>
      Evaluator.finish A.unit A.size a.2 (A.render draft a.1)
    rw [← run_of_ok, heq] at hle
    have hlength : (LogEntry.through 1 passes).length = passes.length := by
      rw [LogEntry.through, List.length_map, List.length_zipIdx]
    exact Nat.not_lt.2 (Nat.le_trans hle (Nat.le_of_eq hlength)) hlog

/-- **How an evaluation ends.** -/
theorem tells_of_comeTo {walk : Except Error δ} {run : Run α}
    (h : Run.ComeTo (fun limit => A.run ps limit walk) run) : A.Tells ps walk run := by
  obtain ⟨enough, hrun⟩ := h
  have hsame : A.run ps enough walk = run := hrun enough (Nat.le_refl _)
  rcases tells_or_breaksOff A ps enough walk with ⟨htells, -⟩ | hbreaks
  · exact hsame ▸ htells
  · rw [hsame] at hbreaks
    exact absurd (hrun (enough + 1) (Nat.le_succ _)) hbreaks.run_ne

end Assembly

namespace Evaluator

variable (e : Evaluator) (catalog : Catalog) (resolver : Resolver) (p : Projection)
  (fields : Schema)

theorem evaluatesTo_or_breaksOff (limit : Nat) (doc : Document) :
    e.EvaluatesTo catalog resolver p fields doc (e.evalWithin catalog resolver p fields limit doc) ∨
      Assembly.document.BreaksOff (e.passes catalog resolver) limit
        (p.draft (e.passes catalog resolver).scope doc fields)
        (e.evalWithin catalog resolver p fields limit doc) :=
  Assembly.document.comeTo_or_breaksOff (e.passes catalog resolver) limit _

/-- What is not cut short is the end of the evaluation. -/
theorem evaluatesTo_of_ne {limit : Nat} {doc : Document}
    (h : (e.evalWithin catalog resolver p fields limit doc).result ≠ .error Passes.unfinished) :
    e.EvaluatesTo catalog resolver p fields doc
      (e.evalWithin catalog resolver p fields limit doc) :=
  (e.evaluatesTo_or_breaksOff catalog resolver p fields limit doc).resolve_right
    fun hbreaks => h hbreaks.result_eq

theorem EvaluatesTo.tells {doc : Document} {run : Run Document}
    (h : e.EvaluatesTo catalog resolver p fields doc run) :
    Assembly.document.Tells (e.passes catalog resolver)
      (p.draft (e.passes catalog resolver).scope doc fields) run :=
  Assembly.tells_of_comeTo h

theorem evaluatesAllTo_or_breaksOff (limit : Nat) (docs : List Document) :
    e.EvaluatesAllTo catalog resolver p fields docs
        (e.evalAllWithin catalog resolver p fields limit docs) ∨
      Assembly.documents.BreaksOff (e.passes catalog resolver) limit
        (docs.mapM fun doc => p.draft (e.passes catalog resolver).scope doc fields)
        (e.evalAllWithin catalog resolver p fields limit docs) :=
  Assembly.documents.comeTo_or_breaksOff (e.passes catalog resolver) limit _

theorem evaluatesAllTo_of_ne {limit : Nat} {docs : List Document}
    (h : (e.evalAllWithin catalog resolver p fields limit docs).result ≠
      .error Passes.unfinished) :
    e.EvaluatesAllTo catalog resolver p fields docs
      (e.evalAllWithin catalog resolver p fields limit docs) :=
  (e.evaluatesAllTo_or_breaksOff catalog resolver p fields limit docs).resolve_right
    fun hbreaks => h hbreaks.result_eq

theorem EvaluatesAllTo.tells {docs : List Document} {run : Run (List Document)}
    (h : e.EvaluatesAllTo catalog resolver p fields docs run) :
    Assembly.documents.Tells (e.passes catalog resolver)
      (docs.mapM fun doc => p.draft (e.passes catalog resolver).scope doc fields) run :=
  Assembly.tells_of_comeTo h

end Evaluator

end

namespace Bookshelf

end Bookshelf

end DocQuery
