import DocQuery.Evaluation.Evaluator
import DocQuery.Proofs.Answering
import DocQuery.Proofs.Batches

/-!
# The outcome of passes

Passes resolve requests level by level, in lookups that requests may share. What comes out for a
request is what it comes to alone: its draft, with the requests of the draft resolved in turn.

* `Passes.resolveWithin` — a request resolved alone, some levels down at most.
* `Passes.Follows` — every lookup answers each of its requests as the request alone is answered.
* `Passes.follows_alone` — which is so where requests are not coalesced.
* `Passes.settle_result` — then passes come out as requests resolved alone do.
* `Evaluator.eval_result` — an evaluation is the walk, the resolution of what it asks for, and the
  rendering.

Failures are told apart nowhere here: lookups meet them in an order of their own.
-/

set_option autoImplicit false

namespace DocQuery

variable [RegexEngine]

namespace Passes

/-- A request resolved alone: its draft, with every request of the draft resolved in turn, down to
`n` levels. -/
def resolveWithin (step : Request → Except Error (Draft Request)) :
    Nat → Request → Except Error (Draft Empty)
  | 0, _ => .error unfinished
  | n + 1, r => (step r).bind (Draft.traverse (resolveWithin step n))

/-- Lookups for requests that satisfy `Q` answer each of them as `step` does, and lead to requests
that satisfy `Q` again. -/
structure Follows (ps : Passes) (Q : Request → Prop)
    (step : Request → Except Error (Draft Request)) : Prop where
  closed {r : Request} {d : Draft Request} : Q r → step r = .ok d → ∀ u ∈ d.requests, Q u
  resume {b : Batch} : b.WellFormed ps.coalesce → (∀ t ∈ b.tickets, Q t.1) →
    (b.resume ps).toOption = b.tickets.mapM fun t => (step t.1).toOption.map fun d => (t.2, d)

variable {ps : Passes} {Q : Request → Prop} {step : Request → Except Error (Draft Request)}

/-! ## One pass -/

/-- A pass answers every request that waits for one of its lookups. -/
theorem toOption_resumeAll (hf : ps.Follows Q step) {bs : List Batch}
    (hbs : ∀ b ∈ bs, b.WellFormed ps.coalesce) (hQ : ∀ t ∈ bs.flatMap Batch.tickets, Q t.1) :
    (ps.resumeAll bs).toOption =
      (bs.flatMap Batch.tickets).mapM fun t => (step t.1).toOption.map fun d => (t.2, d) := by
  rw [resumeAll, toOption_map, toOption_mapM, mapM_flatMap]
  congr 1
  apply mapM_congr
  intro b hb
  apply hf.resume (hbs b hb)
  intro t ht
  exact hQ t (List.mem_flatMap.2 ⟨b, hb, ht⟩)

/-- A pass answers all requests that wait, in an order of its own, or it fails and one of them
does. -/
theorem resumeAll_ofTickets (hf : ps.Follows Q step) {ts : List Ticket} (hQ : ∀ t ∈ ts, Q t.1) :
    (∃ (us : List Ticket) (D : Ticket → Draft Request), us.Perm ts ∧
        (∀ t ∈ us, (step t.1).toOption = some (D t)) ∧
        ps.resumeAll (Batch.ofTickets ps.coalesce ts) = .ok (us.map fun t => (t.2, D t))) ∨
      ∃ t ∈ ts, (step t.1).toOption = none ∧
        ∃ e, ps.resumeAll (Batch.ofTickets ps.coalesce ts) = .error e := by
  have hperm := Batch.tickets_ofTickets ps.coalesce ts
  have hpass := toOption_resumeAll hf (Batch.wellFormed_ofTickets ts) fun t ht =>
    hQ t (hperm.subset ht)
  cases hresumed : ps.resumeAll (Batch.ofTickets ps.coalesce ts) with
  | error e =>
    rw [hresumed, toOption_error] at hpass
    obtain ⟨t, ht, hnone⟩ := mapM_eq_none_iff.1 hpass.symm
    exact .inr ⟨t, hperm.subset ht, Option.map_eq_none_iff.1 hnone, e, rfl⟩
  | ok resumed =>
    rw [hresumed, toOption_ok] at hpass
    obtain ⟨D, hD, rfl⟩ := exists_map_of_mapM hpass.symm
    exact .inl ⟨_, D, hperm, hD, rfl⟩

/-- A request of the drafts is one of the draft of some request. -/
theorem exists_draft_of_mem {us : List Ticket} {D : Ticket → Draft Request} {u : Ticket}
    (hu : u ∈ Draft.requestsOfItems (Draft.numberItems 0 (us.map D))) :
    ∃ t ∈ us, u.1 ∈ (D t).requests := by
  obtain ⟨d, hd, hr⟩ := Draft.exists_numberItems_iff.1 ⟨u, hu, rfl⟩
  obtain ⟨t, ht, rfl⟩ := List.mem_map.1 hd
  exact ⟨t, ht, hr⟩

/-- The requests of the next pass satisfy what those of a pass do. -/
theorem Follows.next (hf : ps.Follows Q step) {us : List Ticket} {D : Ticket → Draft Request}
    (hQ : ∀ t ∈ us, Q t.1) (hD : ∀ t ∈ us, (step t.1).toOption = some (D t)) :
    ∀ u ∈ Draft.requestsOfItems (Draft.numberItems 0 (us.map D)), Q u.1 := by
  intro u hu
  obtain ⟨t, ht, hr⟩ := exists_draft_of_mem hu
  exact hf.closed (hQ t ht) (toOption_eq_some_iff.1 (hD t ht)) _ hr

omit [RegexEngine] in
/-- A draft is found by the number of its request. -/
theorem place_of_mem {α : Type} {ts : List (α × Nat)} (hts : (ts.map Prod.snd).Nodup)
    (f : α × Nat → Draft Empty) {t : α × Nat} (ht : t ∈ ts) :
    place (ts.map fun t => (t.2, f t)) t.2 = f t := by
  unfold place
  induction ts with
  | nil => cases ht
  | cons u ts ih =>
    rw [List.map_cons, List.nodup_cons] at hts
    rcases List.mem_cons.1 ht with rfl | ht
    · simp
    · have hne : u.2 ≠ t.2 := by
        intro h
        exact hts.1 (h ▸ List.mem_map_of_mem ht)
      rw [List.map_cons, List.find?_cons_of_neg (by simpa using hne)]
      exact ih hts.2 ht

/-- The draft of a request that is looked up alone. -/
def alone (ps : Passes) (r : Request) : Except Error (Draft Request) :=
  (ps.resolver r.path r.query).bind (r.resume (Projection.draft ps.scope))

theorem toOption_resume_single (ps : Passes) (t : Ticket) :
    ((Batch.single t).resume ps).toOption =
      [t].mapM fun t => (ps.alone t.1).toOption.map fun d => (t.2, d) := by
  simp only [Batch.resume, Batch.lookup, Batch.answers, alone, toOption_monadBind, toOption_bind,
    List.mapM_cons, List.mapM_nil, toOption_map]
  cases (ps.resolver t.1.path t.1.query).toOption <;> rfl

/-- Where requests are not coalesced every request is looked up alone. -/
theorem follows_alone (h : ps.coalesce = false) : ps.Follows (fun _ => True) ps.alone where
  closed _ _ _ _ := trivial
  resume := by
    intro b hb _
    rw [h] at hb
    obtain ⟨t, rfl⟩ := hb.eq_single
    exact toOption_resume_single ps t

/-! ## All passes -/

theorem settle_succ_result (ps : Passes) (limit done : Nat) (t : Ticket) (ts : List Ticket) :
    (ps.settle (limit + 1) done (t :: ts)).result =
      (ps.resumeAll (Batch.ofTickets ps.coalesce (t :: ts))).bind fun resumed =>
        let drafts := Draft.numberItems 0 (resumed.map Prod.snd)
        (ps.settle limit (done + 1) (Draft.requestsOfItems drafts)).result.map fun a =>
          (place ((resumed.map Prod.fst).zip (Draft.bindItems (fun u => a.1 u.2) drafts)),
            a.2) := by
  rw [settle]
  simp only [Run.result_bind, Run.result_look, Except.bind]
  cases ps.resumeAll (Batch.ofTickets ps.coalesce (t :: ts)) with
  | error e => rfl
  | ok resumed =>
    simp only [Run.result_bind, Run.result_report, Except.bind]
    cases (ps.settle limit (done + 1) (Draft.requestsOfItems
      (Draft.numberItems 0 (resumed.map Prod.snd)))).result <;> rfl

/-- The drafts of requests, with the answers of their own requests in place, are the requests
resolved alone one level further down. -/
theorem place_bindItems {limit : Nat} {us : List Ticket} {D : Ticket → Draft Request}
    (hus : (us.map Prod.snd).Nodup) (hD : ∀ t ∈ us, (step t.1).toOption = some (D t))
    {answers : Answers}
    (ha : ∀ u ∈ Draft.requestsOfItems (Draft.numberItems 0 (us.map D)),
      (resolveWithin step limit u.1).toOption = some (answers u.2))
    {t : Ticket} (ht : t ∈ us) :
    (resolveWithin step (limit + 1) t.1).toOption =
      some (place ((us.map Prod.snd).zip (Draft.bindItems (fun u => answers u.2)
        (Draft.numberItems 0 (us.map D)))) t.2) := by
  have hbind : Draft.bindItems (fun u => answers u.2) (Draft.numberItems 0 (us.map D)) =
      us.map fun t => (D t).bind fun r => (resolveWithin step limit r).toOption.getD default := by
    have hanswer : ∀ u ∈ Draft.requestsOfItems (Draft.numberItems 0 (us.map D)),
        answers u.2 = (resolveWithin step limit u.1).toOption.getD default := by
      intro u hu
      rw [ha u hu, Option.getD_some]
    rw [Draft.bindItems_numberItems_eq
      (g := fun r => (resolveWithin step limit r).toOption.getD default) 0 (us.map D) hanswer,
      Draft.bindItems_eq_map, List.map_map]
    rfl
  have hsome : ∀ r ∈ (D t).requests, (resolveWithin step limit r).toOption.isSome := by
    intro r hr
    obtain ⟨u, hu, rfl⟩ : ∃ u ∈ Draft.requestsOfItems (Draft.numberItems 0 (us.map D)), u.1 = r :=
      Draft.exists_numberItems_iff.2 ⟨D t, List.mem_map_of_mem ht, hr⟩
    rw [ha u hu]
    rfl
  rw [hbind, List.zip_map', place_of_mem hus _ ht, resolveWithin, toOption_bind, hD t ht,
    Option.bind_some]
  exact (Draft.traverse_eq_some_iff _ _ _).2 ⟨hsome, rfl⟩

/-- A request of a draft that fails makes the request that the draft is for fail. -/
theorem resolveWithin_eq_none {limit : Nat} {r : Request} {d : Draft Request}
    (hd : (step r).toOption = some d) {u : Request} (hu : u ∈ d.requests)
    (hnone : (resolveWithin step limit u).toOption = none) :
    (resolveWithin step (limit + 1) r).toOption = none := by
  rw [resolveWithin, toOption_bind, hd, Option.bind_some, Option.eq_none_iff_forall_ne_some]
  intro e he
  obtain ⟨hall, -⟩ := (Draft.traverse_eq_some_iff _ _ e).1 he
  have hsome := hall u hu
  simp [hnone] at hsome

/-- **Passes come out as requests resolved alone do**: each request has its answer under its
number, and there is a failure just where one of the requests fails. -/
theorem settle_result (hf : ps.Follows Q step) (limit done : Nat) {ts : List Ticket}
    (hts : (ts.map Prod.snd).Nodup) (hQ : ∀ t ∈ ts, Q t.1) :
    ((ps.settle limit done ts).result.toOption.map fun a => ts.map fun t => a.1 t.2) =
      ts.mapM fun t => (resolveWithin step limit t.1).toOption := by
  induction limit generalizing done ts with
  | zero =>
    cases ts with
    | nil => rfl
    | cons t ts => exact (mapM_eq_none_iff.2 ⟨t, List.mem_cons_self, rfl⟩).symm
  | succ limit ih =>
    cases ts with
    | nil => rfl
    | cons t₀ ts₀ =>
      rw [settle_succ_result, toOption_bind]
      rcases resumeAll_ofTickets hf hQ with
        ⟨us, D, hperm, hD, hresumed⟩ | ⟨t, ht, hnone, e, herror⟩
      · have hnodup : (us.map Prod.snd).Nodup := (hperm.map Prod.snd).nodup_iff.2 hts
        have hQnext := hf.next (fun t ht => hQ t (hperm.subset ht)) hD
        have hnext := ih (done + 1) (Draft.nodup_requests_numberItems 0 (us.map D)) hQnext
        rw [hresumed]
        simp only [toOption_ok, Option.bind_some, toOption_map, List.map_map, Function.comp_def]
        cases hs : (ps.settle limit (done + 1)
            (Draft.requestsOfItems (Draft.numberItems 0 (us.map D)))).result.toOption with
        | none =>
          rw [hs] at hnext
          obtain ⟨u, hu, hnone⟩ := mapM_eq_none_iff.1 hnext.symm
          obtain ⟨t, ht, hr⟩ := exists_draft_of_mem hu
          have hfail := resolveWithin_eq_none (hD t ht) hr hnone
          exact (mapM_eq_none_iff.2 ⟨t, hperm.subset ht, hfail⟩).symm
        | some a =>
          rw [hs, Option.map_some] at hnext
          have ha := mapM_eq_some_iff.1 hnext.symm
          rw [List.map_map] at ha
          refine (mapM_eq_some_iff.2 ?_).symm
          rw [List.map_map]
          apply List.map_congr_left
          intro t ht
          exact place_bindItems hnodup hD (List.map_inj_left.1 ha) (hperm.mem_iff.2 ht)
      · have hfail : (resolveWithin step (limit + 1) t.1).toOption = none := by
          rw [resolveWithin, toOption_bind, hnone, Option.bind_none]
        rw [herror, toOption_error, Option.bind_none, Option.map_none]
        exact (mapM_eq_none_iff.2 ⟨t, ht, hfail⟩).symm

end Passes

namespace Evaluator

theorem toOption_finish {α : Type} (unit : String) (size : α → Nat) (passes : Nat)
    (rendered : Except Error α) :
    (finish unit size passes rendered).result.toOption = rendered.toOption := by
  simp only [finish, Run.result_bind, Run.result_ofExcept, Run.result_report, Run.result_pure,
    toOption_bind, toOption_ok, Option.bind_some, Option.bind_fun_some]

end Evaluator

namespace Assembly

variable {δ α : Type} (A : Assembly δ α) (ps : Passes) (limit : Nat)

/-- An evaluation is a walk, its passes and the rendering. -/
theorem toOption_run (walk : Except Error δ) :
    (A.run ps limit walk).result.toOption = walk.toOption.bind fun draft =>
      (ps.settle limit 0 (A.tickets draft)).result.toOption.bind fun a =>
        (A.render draft a.1).toOption := by
  unfold run
  simp only [Run.result_bind, Run.result_ofExcept, toOption_bind]
  exact Option.bind_congr fun _ _ => Option.bind_congr fun _ _ => Evaluator.toOption_finish _ _ _ _

end Assembly

namespace Evaluator

/-- **An evaluation is the walk, the resolution of its requests, and the rendering.** -/
theorem eval_result (e : Evaluator) (catalog : Catalog) (resolver : Resolver) (p : Projection)
    (fields : Schema) (doc : Document) {Q : Request → Prop}
    {step : Request → Except Error (Draft Request)}
    (hf : (e.passes catalog resolver).Follows Q step)
    (hQ : ∀ writes, p.draft (e.passes catalog resolver).scope doc fields = .ok writes →
      ∀ r ∈ Draft.requestsOfWrites writes, Q r) :
    (e.eval catalog resolver p fields doc).result.toOption =
      (p.draft (e.passes catalog resolver).scope doc fields).toOption.bind fun writes =>
        (Draft.traverseWrites (Passes.resolveWithin step (passLimit p)) writes).toOption.bind
          fun answered => (Draft.renderDocument answered).toOption := by
  refine (Assembly.document.toOption_run _ _ _).trans (Option.bind_congr ?_)
  intro writes hw
  have hQall : ∀ t ∈ Draft.requestsOfWrites (Draft.numberWrites 0 writes), Q t.1 := by
    intro t ht
    have hasked := Draft.exists_numberWrites_iff.1 ⟨t, ht, rfl⟩
    exact hQ writes (toOption_eq_some_iff.1 hw) t.1 hasked
  have hsettled := Passes.settle_result hf (passLimit p) 0
    (Draft.nodup_requests_numberWrites 0 writes) hQall
  rw [← Draft.toOption_traverseWrites_number hsettled, Option.bind_map]
  rfl

end Evaluator

end DocQuery
