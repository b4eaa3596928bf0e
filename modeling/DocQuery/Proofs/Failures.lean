import DocQuery.Evaluation.Trace
import DocQuery.Proofs.Ending
import DocQuery.Proofs.Faults
import DocQuery.Proofs.Schedules

/-!
# Where the failures of an evaluation come from

A request is made on the way that evaluation has come, and so are the requests of the documents
that come back for it. This holds of every request that waits, pass after pass and in every
schedule, so that a failure is one of a lookup or a fault on a way from the document of the
evaluation. Its text tells the fields of the way from the last one whose documents were fetched: a
walk of documents that came back tells the field that asked for them, not those before.

* `Passes.Fails` — the failures of an evaluation with their texts.
* `Request.outcome_resume` — what an answered request fails at and what it leaves.
* `Passes.Goes.asked`, `Passes.Goes.levels_lt` — the requests that wait after passes.
* `Evaluator.EvaluatesTo.outcome` — what an evaluation fails at, one lookup after the other;
  `State.Explained.step` — one step of a schedule.
* `Evaluator.eval_failure_told` — the failures of an evaluation.
-/

set_option autoImplicit false

namespace DocQuery

/-! ## What is sought, and what fails -/

section

variable [RegexEngine]

/-- A registered lookup of requests that are made on the way. -/
structure Batch.Sought (ps : Passes) (root : Site) (b : Batch) : Prop where
  wellFormed : b.WellFormed ps.coalesce
  asked : ∀ t ∈ b.tickets, ps.Asked root t.1

/-- The failures of an evaluation that begins at a site, with what they tell. -/
inductive Passes.Fails (ps : Passes) (root : Site) : Error → Prop
  /-- The resolver's own failure. -/
  | lookup {b : Batch} {e : Error} (sought : b.Sought ps root)
    (refused : ps.resolver b.lookup.path b.lookup.query = .error e) : Fails ps root e
  /-- The walk of a document at the end of a way. -/
  | walk {hops : List Hop} {a : Site} {fault : String} (way : ps.Way root hops a)
    (faulty : a.Fault ps.scope fault) : Fails ps root (.inapplicable (Hop.tell hops fault))
  /-- The rendering of what is shown of a document at the end of a way; nothing of the way is
  told. -/
  | rendering {hops : List Hop} {a : Site} {fault : String} (way : ps.Way root hops a)
    (faulty : a.LateFault fault) : Fails ps root (.inapplicable fault)

namespace Batch

variable {ps : Passes} {root : Site}

theorem sought_register {bs : List Batch} (h : ∀ b ∈ bs, b.Sought ps root) {t : Ticket}
    (ht : ps.Asked root t.1) : ∀ b ∈ register ps.coalesce bs t, b.Sought ps root := by
  intro b hb
  refine ⟨wellFormed_register (fun b hb => (h b hb).wellFormed) t b hb, fun u hu => ?_⟩
  have hmem := (tickets_register ps.coalesce bs t).subset (List.mem_flatMap.2 ⟨b, hb, hu⟩)
  rcases List.mem_append.1 hmem with hmem | hmem
  · obtain ⟨b', hb', hu⟩ := List.mem_flatMap.1 hmem
    exact (h b' hb').asked u hu
  · rw [List.mem_singleton.1 hmem]
    exact ht

theorem sought_ofTickets {ts : List Ticket} (h : ∀ t ∈ ts, ps.Asked root t.1) :
    ∀ b ∈ ofTickets ps.coalesce ts, b.Sought ps root := by
  intro b hb
  refine ⟨wellFormed_ofTickets ts b hb, fun t ht => h t ?_⟩
  exact (tickets_ofTickets ps.coalesce ts).subset (List.mem_flatMap.2 ⟨b, hb, ht⟩)

end Batch

/-! ## Answered requests -/

theorem Site.Asks.field_eq {scope : Scope} {a : Site} {s : Selection} {r : Request}
    (h : a.Asks scope s r) : r.field = s.name := by
  cases h with
  | reference => rfl
  | references => rfl
  | connection _ _ made =>
    obtain ⟨_, _, _, -, -, -, rfl⟩ := Request.ofConnection_eq_ok made
    rfl

theorem Site.Asks.transforms {scope : Scope} {a : Site} {s : Selection} {r : Request}
    (h : a.Asks scope s r) : a.Transforms r.transform := by
  cases h with
  | @reference f _ _ _ _ displays => exact ⟨s, f, displays, f, f.mem_layers_self, rfl⟩
  | @references _ _ element _ _ _ _ _ displays layer =>
    exact ⟨s, _, displays, element, Field.mem_layers_array layer, rfl⟩
  | @connection f _ _ _ _ displays _ made =>
    obtain ⟨_, _, _, -, -, -, rfl⟩ := Request.ofConnection_eq_ok made
    exact ⟨s, f, displays, f, f.mem_layers_self, rfl⟩

/-- **What an answered request fails at and what it leaves**, as the walks of its documents do. -/
theorem Request.outcome_resume {E : Error → Prop} {R : Request → Prop} {T : Transform → Prop}
    {draft : Projection → Document → Schema → Except Error (Draft.Writes Request)} {r : Request}
    {answer : Resolved}
    (hwalk : ∀ doc ∈ r.pick.documents answer, Outcome (fun e => E (e.within r.field))
      (fun writes => (Draft.document writes).Holds R T)
      (draft r.query.projection doc answer.fields))
    (ht : T r.transform) : Outcome E (Draft.Holds R T) (r.resume draft answer) := by
  have hitem : ∀ doc ∈ r.pick.documents answer, Outcome E (Draft.Holds R T)
      ((underField r.field (draft r.query.projection doc answer.fields)).map .document) :=
    fun doc hdoc => .map (.underField (hwalk doc hdoc)) fun _ hwrites => hwrites
  unfold resume
  cases hpick : r.pick with
  | first =>
    rw [hpick] at hitem
    dsimp only
    split
    · exact .ok (Draft.holds_value _)
    · rename_i doc docs hitems
      have hdoc : doc ∈ Pick.first.documents answer := by simp [Pick.documents, hitems]
      exact .map (hitem doc hdoc) fun d hd => hd.transformed ht
  | each ids =>
    rw [hpick] at hitem
    refine .map (.mapM fun doc hdoc => ?_) fun docs => Draft.holds_list
    exact .map (hitem doc hdoc) fun d hd => hd.transformed ht
  | all =>
    rw [hpick] at hitem
    exact .map (.mapM hitem) fun docs hdocs => (Draft.holds_list hdocs).transformed ht

namespace Passes

variable {ps : Passes} {root a : Site}

theorem Stops.fails {e : Error} (h : ps.Stops root e) : ps.Fails root e := by
  obtain ⟨hops, b, fault, way, -, faulty, rfl⟩ := h
  exact .walk way faulty

/-- What the walk of a document that came back fails at is told with the field that asked. -/
theorem Stops.fetched {hops : List Hop} {s : Selection} {b : Site} {e : Error}
    (way : ps.Way root hops a) (fetches : a.Fetches ps s b) (h : ps.Stops b e) :
    ps.Fails root (e.within s.name) := by
  obtain ⟨rest, c, fault, onward, near, faulty, rfl⟩ := h
  have htold : Hop.told (hops ++ ⟨s.name, true⟩ :: rest) = s.name :: Hop.told rest := by
    rw [Hop.told_append near, Hop.told_eq_map fun hop hmem => near hop (List.mem_of_mem_tail hmem)]
  rw [Hop.within_tell htold]
  refine .walk ?_ faulty
  rw [List.append_cons]
  exact (way.fetched fetches).trans onward

/-- A transform that turns a value away is met on the way. -/
theorem Transforms.outcome_apply {t : Transform} (h : ps.Transforms root t) (v : Value) :
    Outcome (ps.Fails root) (fun _ => True) (t.apply v) := by
  refine (t.outcome_apply v).mono ?_ fun _ h => h
  rintro _ ⟨problem, refuses, rfl⟩
  obtain ⟨hops, a, way, transforms⟩ := h
  exact .rendering way (.intro transforms refuses)

/-- What an answered request comes to. -/
abbrev AnswerOutcome (ps : Passes) (root : Site) : Except Error (Draft Request) → Prop :=
  Outcome (ps.Fails root) (Draft.Holds (ps.Asked root) (ps.Transforms root))

/-- The requests of a lookup with their parts of its answer. -/
theorem outcome_answers {b : Batch} (hb : b.Sought ps root) {answer : Resolved}
    (answered : ps.resolver b.lookup.path b.lookup.query = .ok answer) :
    ∀ w ∈ b.answers answer,
      ps.AnswerOutcome root (w.1.1.resume (Projection.draft ps.scope) w.2) := by
  rintro ⟨t, part⟩ hw
  have ht : t ∈ b.tickets := by
    rw [← b.fst_answers answer]
    exact List.mem_map_of_mem hw
  obtain ⟨hops, a, s, way, asks⟩ := hb.asked t ht
  refine Request.outcome_resume (fun doc hdoc => ?_) ⟨hops, a, way, asks.transforms⟩
  have fetches : a.Fetches ps s ⟨t.1.query.projection, doc, part.fields⟩ :=
    .intro asks hb.wellFormed answered hw hdoc
  have onward := way.fetched fetches
  refine (Site.outcome_walk ps ⟨t.1.query.projection, doc, part.fields⟩).mono ?_ ?_
  · intro e he
    rw [asks.field_eq]
    exact he.fetched way fetches
  · intro writes hwrites
    exact hwrites.mono (fun r hr => hr.of_way onward) fun u hu => hu.of_way onward

/-! ## Passes, one lookup after the other -/

theorem outcome_resume {b : Batch} (hb : b.Sought ps root) :
    Outcome (ps.Fails root)
      (fun drafts => ∀ d ∈ drafts, d.2.Holds (ps.Asked root) (ps.Transforms root))
      (b.resume ps) := by
  unfold Batch.resume
  cases hanswer : ps.resolver b.lookup.path b.lookup.query with
  | error e => exact .error (.lookup hb hanswer)
  | ok answer =>
    exact .mapM fun w hw => .map (outcome_answers hb hanswer w hw) fun d hd => hd

theorem outcome_resumeAll {bs : List Batch} (hbs : ∀ b ∈ bs, b.Sought ps root) :
    Outcome (ps.Fails root)
      (fun drafts => ∀ d ∈ drafts, d.2.Holds (ps.Asked root) (ps.Transforms root))
      (ps.resumeAll bs) := by
  refine .map (.mapM fun b hb => outcome_resume (hbs b hb)) fun drafts hdrafts d hd => ?_
  obtain ⟨own, hown, hd⟩ := List.mem_flatten.1 hd
  exact hdrafts own hown d hd

omit [RegexEngine] in
theorem exists_of_mem_place {drafts : List (Nat × Draft Empty)} {n : Nat} {t : Transform}
    (h : t ∈ (place drafts n).transforms) : ∃ d ∈ drafts, t ∈ d.2.transforms := by
  unfold place at h
  cases hfound : drafts.find? fun d => d.1 == n with
  | none =>
    rw [hfound] at h
    cases h
  | some d =>
    rw [hfound] at h
    exact ⟨d, List.mem_of_find?_eq_some hfound, h⟩

/-- The requests of the next pass are made on the way. -/
theorem asked_of_resumeAll {bs : List Batch} (hbs : ∀ b ∈ bs, b.Sought ps root)
    {resumed : List (Nat × Draft Request)} (h : ps.resumeAll bs = .ok resumed) :
    ∀ u ∈ Draft.requestsOfItems (Draft.numberItems 0 (resumed.map Prod.snd)),
      ps.Asked root u.1 := by
  intro u hu
  obtain ⟨d, hd, hr⟩ := Draft.exists_numberItems_iff.1 ⟨u, hu, rfl⟩
  obtain ⟨w, hw, rfl⟩ := List.mem_map.1 hd
  exact ((outcome_resumeAll hbs).of_eq_ok h w hw).requests _ hr

/-- The documents that passes come across are on the way. -/
theorem Opens.way {ts : List Ticket} (hts : ∀ t ∈ ts, ps.Asked root t.1) (h : ps.Opens ts a) :
    ∃ hops, ps.Way root hops a := by
  induction h with
  | @now ts b answer w a waits answered part opened =>
    have hb := Batch.sought_ofTickets hts b waits
    have hw : w.1 ∈ b.tickets := b.fst_answers answer ▸ List.mem_map_of_mem part
    obtain ⟨hops, c, s, way, asks⟩ := hb.asked w.1 hw
    obtain ⟨doc, hdoc, rfl⟩ := List.mem_map.1 opened
    exact ⟨_, way.fetched (.intro asks hb.wellFormed answered part hdoc)⟩
  | next through _ ih => exact ih (asked_of_resumeAll (Batch.sought_ofTickets hts) through)

/-- A document on the way stores a connection. -/
def StoresConnection (ps : Passes) (root : Site) : Prop :=
  ∃ hops a, ps.Way root hops a ∧ ¬ a.StoresNoConnection

theorem Way.clear {hops : List Hop} (way : ps.Way root hops a) (h : ¬ ps.StoresConnection root) :
    a.Clear := by
  intro b hinside
  by_contra hb
  obtain ⟨hops', hway⟩ := way.inside hinside
  exact h ⟨hops', b, hway, hb⟩

/-- What waits after passes is made on the way. -/
theorem Goes.asked {ts waiting : List Ticket} {passes : List (List Batch)}
    (h : ps.Goes ts passes waiting) (hts : ∀ t ∈ ts, ps.Asked root t.1) :
    ∀ t ∈ waiting, ps.Asked root t.1 := by
  induction h with
  | stop => exact hts
  | pass _ through _ ih => exact ih (asked_of_resumeAll (Batch.sought_ofTickets hts) through)

/-- Each pass leaves requests for a level less, unless a document on the way stores a connection. -/
theorem Goes.levels_lt {ts waiting : List Ticket} {passes : List (List Batch)} {n : Nat}
    (h : ps.Goes ts passes waiting) (hts : ∀ t ∈ ts, ps.Asked root t.1)
    (hnone : ¬ ps.StoresConnection root) (hlevels : ∀ t ∈ ts, t.1.levels < n) :
    ∀ t ∈ waiting, t.1.levels + passes.length < n := by
  induction h generalizing n with
  | stop => exact hlevels
  | @pass ts _ passes _ waits through _ ih =>
    have hclear : ∀ a, ps.Opens ts a → a.Clear := by
      intro a ha
      obtain ⟨hops, way⟩ := ha.way hts
      exact way.clear hnone
    obtain ⟨t₀, ht₀⟩ := List.exists_mem_of_ne_nil ts waits
    obtain ⟨m, rfl⟩ := Nat.exists_eq_succ_of_ne_zero (Nat.ne_of_gt (Nat.zero_lt_of_lt
      (hlevels t₀ ht₀)))
    intro t ht
    have hnext := asked_of_resumeAll (Batch.sought_ofTickets hts) through
    have hlt := ih hnext (levels_lt_of_resumeAll hlevels hclear through) t ht
    exact Nat.succ_lt_succ hlt

/-- **What passes answer** shows only transforms that are met on the way. -/
theorem transforms_settle {limit done : Nat} {ts : List Ticket} {a : Answers × Nat}
    (hts : ∀ t ∈ ts, ps.Asked root t.1) (h : (ps.settle limit done ts).result = .ok a) (n : Nat) :
    ∀ t ∈ (a.1 n).transforms, ps.Transforms root t := by
  induction limit generalizing done ts a n with
  | zero =>
    cases ts with
    | nil =>
      cases h
      exact nofun
    | cons t ts => cases h
  | succ limit ih =>
    cases ts with
    | nil =>
      cases h
      exact nofun
    | cons t ts =>
      have hsought := Batch.sought_ofTickets hts
      rw [settle_succ_result] at h
      obtain ⟨resumed, hthrough, h⟩ := bind_eq_ok_iff.1 h
      obtain ⟨answers, hanswers, rfl⟩ := map_eq_ok_iff.1 h
      have hresumed := (outcome_resumeAll hsought).of_eq_ok hthrough
      intro t ht
      -- An answer is a draft of this pass with answers of the later ones in it.
      obtain ⟨d, hd, ht⟩ := exists_of_mem_place ht
      have hmem := Draft.mem_transformsOfItems_iff.2 ⟨d.2, (List.of_mem_zip hd).2, ht⟩
      rcases (Draft.mem_transformsOfItems_bindItems_iff _ _).1 hmem with ht | ⟨u, -, ht⟩
      · have hmem := Draft.mem_transformsOfItems_numberItems_iff.1 ht
        obtain ⟨d, hd, ht⟩ := Draft.mem_transformsOfItems_iff.1 hmem
        obtain ⟨w, hw, rfl⟩ := List.mem_map.1 hd
        exact (hresumed w hw).transforms t ht
      · exact ih (asked_of_resumeAll hsought hthrough) hanswers u.2 t ht

end Passes

/-! ## Any schedule -/

/-- What is shared shows only transforms that are met on the way; what is pending is for requests
that are made on it, unless something has failed. -/
structure Shared.Traced (ps : Passes) (root : Site) (errors : List Error) (s : Shared) : Prop where
  pending : errors = [] → ∀ b ∈ s.pending, b.Sought ps root
  transforms : ∀ t ∈ s.tree.transforms, ps.Transforms root t
  errors : ∀ e ∈ errors, ps.Fails root e

/-- What is left of a task is for requests that are made on the way. -/
def Task.Traced (ps : Passes) (root : Site) : Task → Prop
  | asking b => b.Sought ps root
  | resuming waiting => ∀ w ∈ waiting,
    ps.AnswerOutcome root (w.1.1.resume (Projection.draft ps.scope) w.2)
  | registering _ d _ waiting => d.Holds (ps.Asked root) (ps.Transforms root) ∧ ∀ w ∈ waiting,
    ps.AnswerOutcome root (w.1.1.resume (Projection.draft ps.scope) w.2)

/-- The transforms of an output in which a place is filled. -/
theorem Shared.mem_transforms_fill {s : Shared} {t : Ticket} {D : Draft Ticket} {u : Transform}
    (h : u ∈ (s.fill t D).tree.transforms) : u ∈ s.tree.transforms ∨ u ∈ D.transforms := by
  rcases (Draft.mem_transforms_bind_iff _ _).1 h with hu | ⟨r, -, hu⟩
  · exact .inl hu
  · split at hu
    · exact .inr hu
    · cases hu

theorem Draft.mem_transforms_label_iff {d : Draft Request} {numbers : List Nat} {u : Transform} :
    u ∈ (d.label numbers).transforms ↔ u ∈ d.transforms := by
  rw [label, mem_transforms_bind_iff, mem_transforms_number_iff]
  simp [transforms]

variable {ps : Passes} {root : Site}

/-- **One step of a task** fails only as an evaluation does, and goes on with requests that are made
on the way. -/
theorem Task.Step.traced {s s' : Shared} {task : Task} {rest : Option Task}
    {errors failed : List Error} (h : task.Step ps s s' rest failed)
    (hs : s.Traced ps root errors) (htask : task.Traced ps root) :
    s'.Traced ps root (errors ++ failed) ∧ ∀ task' ∈ rest.toList, task'.Traced ps root := by
  cases h with
  | answered answer_eq =>
    rw [List.append_nil]
    exact ⟨hs, List.forall_mem_singleton.2 (Passes.outcome_answers htask answer_eq)⟩
  | @unanswered b e error_eq =>
    refine ⟨⟨fun hnil => absurd hnil (by simp), hs.transforms, ?_⟩, nofun⟩
    exact List.forall_mem_append.2
      ⟨hs.errors, List.forall_mem_singleton.2 (.lookup htask error_eq)⟩
  | walked draft_eq =>
    obtain ⟨hwalk, hwaiting⟩ := List.forall_mem_cons.1 htask
    rw [List.append_nil]
    exact ⟨hs, List.forall_mem_singleton.2 ⟨hwalk.of_eq_ok draft_eq, hwaiting⟩⟩
  | unwalked error_eq next pending =>
    obtain ⟨hwalk, -⟩ := List.forall_mem_cons.1 htask
    refine ⟨⟨fun hnil => absurd hnil (by simp), hs.transforms, ?_⟩, nofun⟩
    exact List.forall_mem_append.2
      ⟨hs.errors, List.forall_mem_singleton.2 (hwalk.of_eq_error error_eq)⟩
  | registered request_eq =>
    have hasked := htask.1.requests _ (List.mem_of_getElem? request_eq)
    rw [List.append_nil]
    refine ⟨⟨fun hnil => ?_, hs.transforms, hs.errors⟩, List.forall_mem_singleton.2 htask⟩
    exact Batch.sought_register (hs.pending hnil) hasked
  | filled all =>
    obtain ⟨hd, hwaiting⟩ := htask
    rw [List.append_nil]
    refine ⟨⟨hs.pending, fun u hu => ?_, hs.errors⟩, List.forall_mem_singleton.2 hwaiting⟩
    rcases Shared.mem_transforms_fill hu with hu | hu
    · exact hs.transforms u hu
    · exact hd.transforms u (Draft.mem_transforms_label_iff.1 hu)
  | ended =>
    rw [List.append_nil]
    exact ⟨hs, nofun⟩

/-- A finished output fails only as an evaluation does. -/
theorem Shared.Traced.outcome_render {errors : List Error} {s : Shared}
    (h : s.Traced ps root errors) : Outcome (ps.Fails root) (fun _ => True) s.render := by
  refine Draft.outcome_render _ fun t ht v => Passes.Transforms.outcome_apply ?_ v
  rcases (Draft.mem_transforms_bind_iff _ _).1 ht with ht | ⟨r, -, ht⟩
  · exact h.transforms t ht
  · cases ht

namespace State

/-- All that is on its way in an evaluation is made on the way, and all that has failed has a
failure's text. -/
def Explained (ps : Passes) (root : Site) : State → Prop
  | running s tasks errors => s.Traced ps root errors ∧ ∀ task ∈ tasks, task.Traced ps root
  | done outcome => Outcome (ps.Fails root) (fun _ => True) outcome

/-- **Any step of any schedule** keeps what is said of failures. -/
theorem Explained.step {st st' : State} (h : st.Explained ps root) (hstep : Step ps st st') :
    st'.Explained ps root := by
  cases hstep with
  | @task s s' task rest before after errors failed step =>
    obtain ⟨hs, htasks⟩ := h
    obtain ⟨hs', hrest⟩ := step.traced hs (htasks task (by simp))
    exact ⟨hs', Task.forall_mem_middle htasks hrest⟩
  | pass waits =>
    obtain ⟨hs, -⟩ := h
    refine ⟨⟨fun _ => nofun, hs.transforms, nofun⟩, fun task htask => ?_⟩
    obtain ⟨b, hb, rfl⟩ := List.mem_map.1 htask
    exact hs.pending rfl b hb
  | failed mem => exact .error (h.1.errors _ mem)
  | finished nothing_waits => exact h.1.outcome_render

theorem Explained.leads {st st' : State} (h : st.Explained ps root) (hleads : Leads ps st st') :
    st'.Explained ps root := by
  induction hleads with
  | refl => exact h
  | tail _ hstep ih => exact ih.step hstep

end State

/-! ## Evaluations -/

namespace Evaluator

variable (e : Evaluator) (catalog : Catalog) (resolver : Resolver) (p : Projection)
  (fields : Schema) (doc : Document)

theorem explained_start :
    (e.start catalog resolver p fields doc).Explained (e.passes catalog resolver)
      ⟨p, doc, fields⟩ := by
  have hwalk := Site.outcome_walk (e.passes catalog resolver) ⟨p, doc, fields⟩
  unfold start
  cases hw : p.draft (e.passes catalog resolver).scope doc fields with
  | error err =>
    simp only [hw]
    exact .error (hwalk.of_eq_error hw).fails
  | ok writes =>
    simp only [hw]
    have hholds := hwalk.of_eq_ok hw
    refine ⟨⟨fun _ => Batch.sought_ofTickets fun t ht => ?_, fun t ht => ?_, nofun⟩, nofun⟩
    · exact hholds.requests _ (Draft.exists_numberWrites_iff.1 ⟨t, ht, rfl⟩)
    · exact hholds.transforms t (Draft.mem_transformsOfWrites_numberWrites_iff.1 ht)

variable {e catalog resolver p fields doc}

theorem asked_of_draft {writes : Draft.Writes Request}
    (hw : p.draft (e.passes catalog resolver).scope doc fields = .ok writes) :
    ∀ t ∈ Assembly.document.tickets writes,
      (e.passes catalog resolver).Asked ⟨p, doc, fields⟩ t.1 := by
  intro t ht
  have hwalk := Site.outcome_walk (e.passes catalog resolver) ⟨p, doc, fields⟩
  exact (hwalk.of_eq_ok hw).requests _ (Draft.exists_numberWrites_iff.1 ⟨t, ht, rfl⟩)

/-- What an evaluation fails at. -/
theorem EvaluatesTo.outcome {run : Run Document}
    (h : e.EvaluatesTo catalog resolver p fields doc run) :
    Outcome ((e.passes catalog resolver).Fails ⟨p, doc, fields⟩) (fun _ => True) run.result := by
  have hwalk := Site.outcome_walk (e.passes catalog resolver) ⟨p, doc, fields⟩
  have htells := h.tells
  generalize hw : p.draft (e.passes catalog resolver).scope doc fields = walk at htells
  cases htells with
  | unwalked => exact .error (hwalk.of_eq_error hw).fails
  | failed goes _ fails =>
    have hsought := Batch.sought_ofTickets (goes.asked (asked_of_draft hw))
    exact .error ((Passes.outcome_resumeAll hsought).of_eq_error fails)
  | @unrendered writes _ answers _ _ settled fails =>
    have hrender : Outcome ((e.passes catalog resolver).Fails ⟨p, doc, fields⟩) (fun _ => True)
        (Assembly.document.render writes answers) := by
      refine Draft.outcome_renderDocument fun t ht v => Passes.Transforms.outcome_apply ?_ v
      rcases (Draft.mem_transformsOfWrites_bindWrites_iff _ _).1 ht with ht | ⟨u, -, ht⟩
      · exact (hwalk.of_eq_ok hw).transforms t (Draft.mem_transformsOfWrites_numberWrites_iff.1 ht)
      · exact Passes.transforms_settle (asked_of_draft hw) settled u.2 t ht
    exact .error (hrender.of_eq_error fails)
  | completed => exact .ok trivial

/-- An evaluation ends within the levels of its projection, unless a document on the way stores a
connection. -/
theorem evaluatesTo_or_storesConnection {limit : Nat} (hlimit : Projection.depth p ≤ limit) :
    e.EvaluatesTo catalog resolver p fields doc
        (e.evalWithin catalog resolver p fields limit doc) ∨
      (e.passes catalog resolver).StoresConnection ⟨p, doc, fields⟩ := by
  refine (e.evaluatesTo_or_breaksOff catalog resolver p fields limit doc).imp_right fun hbreaks => ?_
  generalize hw : p.draft (e.passes catalog resolver).scope doc fields = walk at hbreaks
  generalize e.evalWithin catalog resolver p fields limit doc = run at hbreaks
  cases hbreaks with
  | @intro writes passes waiting goes waits spent =>
    by_contra hnone
    have hlevels : ∀ t ∈ Assembly.document.tickets writes, t.1.levels < Projection.depth p :=
      fun t ht => Site.levels_lt_of_walk (Passes.Way.here.clear hnone) hw
        (Draft.exists_numberWrites_iff.1 ⟨t, ht, rfl⟩)
    obtain ⟨t, ht⟩ := List.exists_mem_of_ne_nil waiting waits
    have hlt := goes.levels_lt (asked_of_draft hw) hnone hlevels t ht
    omega

variable (e catalog resolver p fields doc)

/-- **Failures and their texts.** An evaluation fails as a lookup does, or at a fault of a document
that it comes to. A fault of a walk is told with the fields of the way from the last one whose
documents were fetched, which are all of them where none but the first are fetched; a fault of the
rendering is told with its own field alone. This holds of the lookups one after the other, in as many
passes as it takes, and of every schedule. -/
theorem eval_failure_told :
    (∀ run err, e.EvaluatesTo catalog resolver p fields doc run → run.result = .error err →
        (e.passes catalog resolver).Fails ⟨p, doc, fields⟩ err) ∧
      (∀ err, State.Leads (e.passes catalog resolver) (e.start catalog resolver p fields doc)
          (.done (.error err)) → (e.passes catalog resolver).Fails ⟨p, doc, fields⟩ err) ∧
        ∀ hops fault, (∀ hop ∈ hops.tail, hop.away = false) →
          Hop.tell hops fault = ".".intercalate (hops.map Hop.name ++ [fault]) := by
  refine ⟨fun run err h herr => ?_, fun err h => ?_, fun hops fault h => ?_⟩
  · exact h.outcome.of_eq_error herr
  · exact ((e.explained_start catalog resolver p fields doc).leads h).of_eq_error rfl
  · rw [Hop.tell, Hop.told_eq_map h]

end Evaluator

/-! ## A record that its author has signed -/

end

namespace Bookshelf

/-- The author is referred to from inside `meta`. -/
def signatureFields : Schema := [("author", .mk { } (.reference "/authors" "author"))]

def signedFields : Schema := [("meta", .mk { } (.object signatureFields))]

def signature : Document := [("author", .string "ann")]

def signed : Document := [("meta", .object signature)]

/-- A part of a name that has no parts. -/
def firstName : Selection := { name := "name", children := some [{ name := "first" }] }

def signatory : Selection := { name := "author", children := some [firstName] }

def signing : Selection := { name := "meta", children := some [signatory] }

def signedText : String := "author.name: field has no children"

theorem eval_signed :
    (evaluator.eval catalog resolver [signing] signedFields signed).result =
      .error (.inapplicable signedText) := by rfl

/-- A schedule of the evaluation: a single task, whose walk fails. -/
theorem leads_signed :
    State.Leads (evaluator.passes catalog resolver)
      (evaluator.start catalog resolver [signing] signedFields signed)
      (.done (.error (.inapplicable signedText))) := by
  have start := @State.Trace.begun _ (evaluator.passes catalog resolver)
    (evaluator.start catalog resolver [signing] signedFields signed)
  have asking := start.pass (fun h => nomatch h)
  have answered := asking.only (.answered rfl)
  have failed := @State.Trace.task _ _ _ _ _ _ _ _ [] [] [] _ answered (.unwalked rfl 0 [])
  exact failed.leads.tail (.failed (List.mem_singleton_self _))

/-- The failure of the author's name comes from its document, one lookup after the other and in a
schedule; a fault of the author itself would be told in full. -/
theorem eval_signed_told :
    (∃ err, (evaluator.eval catalog resolver [signing] signedFields signed).result = .error err ∧
        (evaluator.passes catalog resolver).Fails ⟨[signing], signed, signedFields⟩ err) ∧
      (∃ err, State.Leads (evaluator.passes catalog resolver)
          (evaluator.start catalog resolver [signing] signedFields signed) (.done (.error err)) ∧
        (evaluator.passes catalog resolver).Fails ⟨[signing], signed, signedFields⟩ err) ∧
      Hop.tell [⟨"meta", false⟩] "author: invalid value: not a dict" =
        "meta.author: invalid value: not a dict" := by
  have htold := evaluator.eval_failure_told catalog resolver [signing] signedFields signed
  have hends := evaluator.evaluatesTo_of_ne catalog resolver [signing] signedFields
    (fun hcut => nomatch eval_signed.symm.trans hcut)
  exact ⟨⟨_, eval_signed, htold.1 _ _ hends eval_signed⟩,
    ⟨_, leads_signed, htold.2.1 _ leads_signed⟩, htold.2.2 _ _ nofun⟩

/-- What is asked for the author. -/
def signedRequest : Request :=
  .ofReference signatory (.mk { } (.reference "/authors" "author")) "/authors" [firstName]
    (.string "ann")

theorem way_signed :
    (evaluator.passes catalog resolver).Way ⟨[signing], signed, signedFields⟩
      [⟨"meta", false⟩, ⟨"author", true⟩] ⟨[firstName], ann, authorFields⟩ := by
  have displaysMeta : Site.Displays ⟨[signing], signed, signedFields⟩ signing
      (.mk { } (.object signatureFields)) :=
    ⟨⟨_, rfl, List.mem_singleton_self _⟩, rfl, rfl⟩
  have opensMeta : Site.Opens ⟨[signing], signed, signedFields⟩ signing [signatory]
      (.object signature) := ⟨rfl, rfl, rfl⟩
  have under := Site.Under.intro displaysMeta opensMeta
    (List.mem_singleton_self (signature, signatureFields))
  have displaysAuthor : Site.Displays ⟨[signatory], signature, signatureFields⟩ signatory
      (.mk { } (.reference "/authors" "author")) :=
    ⟨⟨_, rfl, List.mem_singleton_self _⟩, rfl, rfl⟩
  have opensAuthor : Site.Opens ⟨[signatory], signature, signatureFields⟩ signatory [firstName]
      (.string "ann") := ⟨rfl, rfl, rfl⟩
  have asks : Site.Asks scope ⟨[signatory], signature, signatureFields⟩ signatory signedRequest :=
    .reference displaysAuthor rfl opensAuthor
  have fetches := @Site.Fetches.intro _ (evaluator.passes catalog resolver)
    ⟨[signatory], signature, signatureFields⟩ signatory (signedRequest, 0)
    (.single (signedRequest, 0)) ⟨[ann], authorFields⟩ ⟨[ann], authorFields⟩ ann asks
    (.single rfl) rfl (List.mem_singleton_self _) (List.mem_singleton_self ann)
  exact (Passes.Way.here.stored under).fetched fetches

/-- **A failure need not tell all fields of its way**: the author is fetched from elsewhere, so
`meta` is lost. -/
theorem untold_signed :
    ∃ a, (evaluator.passes catalog resolver).Way ⟨[signing], signed, signedFields⟩
        [⟨"meta", false⟩, ⟨"author", true⟩] a ∧
      a.Problem scope firstName "field has no children" ∧
        (evaluator.eval catalog resolver [signing] signedFields signed).result =
            .error (.inapplicable signedText) ∧
          ¬ "meta.author.name:".toList <+: signedText.toList := by
  have displays : Site.Displays ⟨[firstName], ann, authorFields⟩ firstName (.mk { } .scalar) :=
    ⟨⟨_, rfl, List.mem_singleton_self _⟩, rfl, rfl⟩
  exact ⟨_, way_signed, .misshapen displays ⟨rfl, rfl, rfl⟩ (.childless rfl), eval_signed,
    by decide⟩

end Bookshelf

end DocQuery
