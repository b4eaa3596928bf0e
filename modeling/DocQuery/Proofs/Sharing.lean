import DocQuery.Proofs.Settling

/-!
# Requests that share a lookup

Where requests are coalesced, the requests for one id each are put to a path in one lookup for all
their ids, and every one of them takes its own document from the answer. If the answer holds the
same document for an id whatever the other ids are, a request gets what it would get from a lookup
for its id alone.

* `Batch.Covers` — the ids of a lookup cover every id that waits for it.
* `Resolver.SteadyOn` — what is relied on of the answers.
* `Passes.step` — the draft of a request, looked up by its id where it may share a lookup.
* `Passes.toOption_resume` — every lookup, shared or not, answers its requests so.
* `Passes.Steady` — what is relied on of an evaluation.
-/

set_option autoImplicit false

namespace DocQuery

namespace Batch

/-- One of the ids is the id, or alike to it. -/
def Covers (ids : List Value) (id : Value) : Prop := ∃ k ∈ ids, k = id ∨ k.alike id = true

theorem Covers.mono {ids ids' : List Value} {id : Value} (h : Covers ids id) (hsub : ids ⊆ ids') :
    Covers ids' id := by
  obtain ⟨k, hk, hid⟩ := h
  exact ⟨k, hsub hk, hid⟩

/-- One step of leaving out ids that are alike to an earlier one. -/
def insertDistinct (known : List Value) (id : Value) : List Value :=
  if known.any fun k => k.alike id then known else known ++ [id]

theorem subset_insertDistinct (known : List Value) (id : Value) :
    known ⊆ insertDistinct known id := by
  unfold insertDistinct
  split
  · intro _ hk
    exact hk
  · exact List.subset_append_left known [id]

theorem covers_insertDistinct (known : List Value) (id : Value) :
    Covers (insertDistinct known id) id := by
  unfold insertDistinct
  split
  · rename_i hany
    obtain ⟨k, hk, halike⟩ := List.any_eq_true.1 hany
    exact ⟨k, hk, .inr halike⟩
  · exact ⟨id, by simp, .inl rfl⟩

/-- The ids that are asked for cover every id that waits. -/
theorem covers_distinct {ids : List Value} {id : Value} (h : id ∈ ids) :
    Covers (distinct ids) id := by
  suffices hfold : ∀ (rest known : List Value), id ∈ rest ∨ Covers known id →
      Covers (rest.foldl insertDistinct known) id from hfold ids [] (.inl h)
  intro rest
  induction rest with
  | nil =>
    intro known hid
    exact hid.resolve_left nofun
  | cons id' rest ih =>
    intro known hid
    apply ih
    rcases hid with hmem | hknown
    · rcases List.mem_cons.1 hmem with rfl | hmem
      · exact .inr (covers_insertDistinct known _)
      · exact .inl hmem
    · exact .inr (hknown.mono (subset_insertDistinct known id'))

/-- No other ids are asked for. -/
theorem distinct_subset (ids : List Value) : distinct ids ⊆ ids := by
  suffices hfold : ∀ rest known : List Value, known ⊆ ids → rest ⊆ ids →
      rest.foldl insertDistinct known ⊆ ids from
    hfold ids [] (List.nil_subset ids) (List.Subset.refl ids)
  intro rest
  induction rest with
  | nil => exact fun known hknown _ => hknown
  | cons id rest ih =>
    intro known hknown hrest
    have hstep : insertDistinct known id ⊆ ids := by
      unfold insertDistinct
      split
      · exact hknown
      · exact List.append_subset.2 ⟨hknown, by simpa using hrest List.mem_cons_self⟩
    have htail : rest ⊆ ids := by
      intro k hk
      exact hrest (List.mem_cons_of_mem id hk)
    exact ih _ hstep htail

end Batch

namespace Resolved

/-- What an answer holds for an id: its document, with the fields of the collection. -/
def entry? (r : Resolved) (id : Value) : Option (Document × Schema) :=
  (r.find? id).map fun doc => (doc, r.fields)

end Resolved

variable [RegexEngine]

/-- What is relied on of a resolver where lookups are shared: whether it fails depends on the path
only, and what an answer to a query for ids holds for one of them depends on that id only. The ids
are those that satisfy `P`. -/
structure Resolver.SteadyOn (P : Value → Prop) (resolver : Resolver) : Prop where
  failure {path : String} {q : Query} {answer : Resolved} :
    resolver path q = .ok answer → ∀ q', ∃ answer', resolver path q' = .ok answer'
  entry {path : String} {ids ids' : List Value} {id : Value} {answer answer' : Resolved} :
    (∀ k ∈ ids, P k) → (∀ k ∈ ids', P k) → P id → Batch.Covers ids id → Batch.Covers ids' id →
    resolver path (.ofIds ids) = .ok answer → resolver path (.ofIds ids') = .ok answer' →
    answer.entry? id = answer'.entry? id

namespace Passes

variable {ps : Passes} {P : Value → Prop}

/-- The draft of a request: looked up by its id where it may share a lookup, else alone. -/
def step (ps : Passes) (r : Request) : Except Error (Draft Request) :=
  match if ps.coalesce then r.query.singleId? else none with
  | some id => (ps.resolver r.path (.ofIds [id])).bind fun answer =>
      r.resume (Projection.draft ps.scope) (answer.only id)
  | none => ps.alone r

theorem step_of_sharedId? {t : Ticket} {id : Value}
    (h : Batch.sharedId? ps.coalesce t = some id) :
    ps.step t.1 = (ps.resolver t.1.path (.ofIds [id])).bind fun answer =>
      t.1.resume (Projection.draft ps.scope) (answer.only id) := by
  rw [Batch.sharedId?] at h
  rw [step, h]

theorem step_of_alone {t : Ticket} (h : Batch.sharedId? ps.coalesce t = none) :
    ps.step t.1 = ps.alone t.1 := by
  rw [Batch.sharedId?] at h
  rw [step, h]

/-- A request gets the same of two answers that hold the same for its id. -/
theorem resume_only_congr {draft : Projection → Document → Schema →
      Except Error (Draft.Writes Request)} {r : Request} {id : Value} {answer answer' : Resolved}
    (h : answer.entry? id = answer'.entry? id) :
    r.resume draft (answer.only id) = r.resume draft (answer'.only id) := by
  unfold Resolved.entry? at h
  unfold Resolved.only
  cases hfind : answer.find? id with
  | none =>
    rw [hfind, Option.map_none, eq_comm, Option.map_eq_none_iff] at h
    rw [h]
    -- Without documents the fields do not matter.
    unfold Request.resume
    cases r.pick with
    | first => rfl
    | each ids =>
      have hnone : ∀ fields : Schema,
          ids.filterMap (Resolved.find? ⟨Option.none.toList, fields⟩) = [] := by
        intro fields
        rw [List.filterMap_eq_nil_iff]
        intro _ _
        exact rfl
      simp only [hnone, List.mapM_nil]
    | all => rfl
  | some doc =>
    rw [hfind, Option.map_some, eq_comm, Option.map_eq_some_iff] at h
    obtain ⟨doc', hfind', heq⟩ := h
    obtain ⟨rfl, hfields⟩ := Prod.mk.inj heq
    rw [hfind', hfields]

/-- What a waiting request gets of an answer is what `step` gives it. -/
theorem resume_eq_step (hs : ps.resolver.SteadyOn P) {b : Batch} (hb : b.WellFormed ps.coalesce)
    (hP : ∀ t ∈ b.tickets, ∀ id, Batch.sharedId? ps.coalesce t = some id → P id)
    {answer : Resolved} (hanswer : ps.resolver b.lookup.path b.lookup.query = .ok answer)
    {w : Ticket × Resolved} (hw : w ∈ b.answers answer) :
    w.1.1.resume (Projection.draft ps.scope) w.2 = ps.step w.1.1 := by
  cases hb with
  | @single t alone =>
    obtain rfl := List.mem_singleton.1 hw
    rw [step_of_alone alone, Passes.alone]
    show _ = (ps.resolver (Batch.single t).lookup.path (Batch.single t).lookup.query).bind _
    rw [hanswer]
    rfl
  | @shared path waiting some_waits own =>
    have hPw : ∀ u ∈ waiting, P u.1 := by
      intro u hu
      exact hP u.2 (List.mem_map_of_mem hu) u.1 (own u hu).1
    obtain ⟨u, hu, rfl⟩ := List.mem_map.1 hw
    obtain ⟨answer', hone⟩ := hs.failure hanswer (.ofIds [u.1])
    have hids : ∀ k ∈ Batch.distinct (waiting.map Prod.fst), P k := by
      intro k hk
      obtain ⟨v, hv, rfl⟩ := List.mem_map.1 (Batch.distinct_subset _ hk)
      exact hPw v hv
    have hone' : ∀ k ∈ [u.1], P k := by
      intro k hk
      rw [List.mem_singleton.1 hk]
      exact hPw u hu
    have hcovers : Batch.Covers (Batch.distinct (waiting.map Prod.fst)) u.1 :=
      Batch.covers_distinct (List.mem_map_of_mem hu)
    have hcovers' : Batch.Covers [u.1] u.1 := ⟨u.1, List.mem_singleton_self _, .inl rfl⟩
    have hentry := hs.entry hids hone' (hPw u hu) hcovers hcovers' hanswer hone
    rw [step_of_sharedId? (own u hu).1, (own u hu).2]
    show _ = (ps.resolver path (.ofIds [u.1])).bind _
    have hone : ps.resolver path (.ofIds [u.1]) = .ok answer' := hone
    rw [hone, resume_only_congr hentry]
    rfl

/-- Where a lookup fails, `step` fails for all of its requests. -/
theorem step_of_error (hs : ps.resolver.SteadyOn P) {b : Batch} (hb : b.WellFormed ps.coalesce)
    {e : Error} (herror : ps.resolver b.lookup.path b.lookup.query = .error e) {t : Ticket}
    (ht : t ∈ b.tickets) : (ps.step t.1).toOption = none := by
  cases hb with
  | single alone =>
    obtain rfl := List.mem_singleton.1 ht
    rw [step_of_alone alone, Passes.alone, toOption_bind]
    apply Option.bind_eq_none_iff.2
    intro answer hanswer
    cases herror.symm.trans (toOption_eq_some_iff.1 hanswer)
  | @shared path waiting some_waits own =>
    obtain ⟨u, hu, rfl⟩ := List.mem_map.1 ht
    rw [step_of_sharedId? (own u hu).1, (own u hu).2, toOption_bind]
    apply Option.bind_eq_none_iff.2
    intro answer' hone
    obtain ⟨answer, hanswer⟩ := hs.failure (toOption_eq_some_iff.1 hone)
      (Batch.lookup (.shared path waiting)).query
    cases herror.symm.trans hanswer

/-- **Every lookup answers each of its requests** as `step` does. -/
theorem toOption_resume (hs : ps.resolver.SteadyOn P) {b : Batch} (hb : b.WellFormed ps.coalesce)
    (hP : ∀ t ∈ b.tickets, ∀ id, Batch.sharedId? ps.coalesce t = some id → P id) :
    (b.resume ps).toOption =
      b.tickets.mapM fun t => (ps.step t.1).toOption.map fun d => (t.2, d) := by
  rw [Batch.resume, toOption_monadBind]
  cases hanswer : ps.resolver b.lookup.path b.lookup.query with
  | error e =>
    obtain ⟨t, ht⟩ := hb.exists_ticket
    refine (mapM_eq_none_iff.2 ⟨t, ht, ?_⟩).symm
    rw [step_of_error hs hb hanswer ht, Option.map_none]
  | ok answer =>
    rw [toOption_ok, Option.bind_some, toOption_mapM, ← Batch.fst_answers answer b, List.mapM_map]
    apply mapM_congr
    intro w hw
    rw [toOption_map, resume_eq_step hs hb hP hanswer hw]
    rfl

/-- Answers are steady for the ids that requests ask for, throughout an evaluation: `Q` holds of its
requests, and leads to `P` of their ids. -/
structure Steady (ps : Passes) (P : Value → Prop) (Q : Request → Prop) : Prop where
  answers : ps.resolver.SteadyOn P
  ids {r : Request} {id : Value} : Q r → r.query.singleId? = some id → P id
  closed {r : Request} {d : Draft Request} : Q r → ps.step r = .ok d → ∀ u ∈ d.requests, Q u

variable {Q : Request → Prop}

theorem Steady.of_sharedId? (h : ps.Steady P Q) {t : Ticket} (ht : Q t.1) {id : Value}
    (hid : Batch.sharedId? ps.coalesce t = some id) : P id := by
  unfold Batch.sharedId? at hid
  split at hid
  · exact h.ids ht hid
  · cases hid

/-- Where answers are steady, lookups answer each request as `step` does. -/
theorem Steady.follows_step (h : ps.Steady P Q) : ps.Follows Q ps.step where
  closed := h.closed
  resume := by
    intro b hb hQ
    apply toOption_resume h.answers hb
    intro t ht id hid
    exact h.of_sharedId? (hQ t ht) hid

end Passes

end DocQuery
