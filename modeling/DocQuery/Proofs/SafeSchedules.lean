import DocQuery.Proofs.Progress
import DocQuery.Proofs.Schedules

/-!
# Validated projections do not go wrong

A walk of a conforming document leaves requests that are safe: they are answered, with documents
whose walks leave safe requests again, for a level less of the projection. No step of a task loses
this, whichever task it is, so no pass fails and each is for fewer levels than the one before.

* `Shared.Safe`, `Task.Safe` — what is shared and what is left of a task where nothing can fail.
* `Task.Step.safe` — any step of a task keeps it.
* `State.inevitable_of_safe` — so every schedule comes to a document.
* `Evaluator.eval_of_validate` — an evaluation of a validated projection does.
-/

set_option autoImplicit false

namespace DocQuery

section

variable [RegexEngine]

namespace Draft

variable {ρ : Type}

omit [RegexEngine] in
theorem renders_number {n : Nat} {d : Draft ρ} (h : d.Renders) : (d.number n).Renders := by
  rw [← bind_number n d, renders_bind_iff] at h
  exact h.1

theorem renders_label {d : Draft Request} (h : d.Renders) (numbers : List Nat) :
    (d.label numbers).Renders :=
  (renders_bind_iff _ _).2 ⟨renders_number h, fun _ _ => trivial⟩

end Draft

/-! ## One step of a task -/

/-- The output is a document that can be rendered, and what is pending is for safe requests. -/
structure Shared.Safe (ps : Passes) (root : Schema) (levels : Nat) (s : Shared) : Prop where
  shape : ∃ writes, s.tree = .document writes
  renders : s.tree.Renders
  wellFormed : ∀ b ∈ s.pending, b.WellFormed ps.coalesce
  safe : ∀ b ∈ s.pending, ∀ t ∈ b.tickets, t.1.Safe ps root levels

/-- What is left of a task succeeds, and leaves safe requests. -/
def Task.Safe (ps : Passes) (root : Schema) (levels : Nat) : Task → Prop
  | asking b => b.WellFormed ps.coalesce ∧ ∀ t ∈ b.tickets, t.1.Safe ps root (levels + 1)
  | resuming waiting => ∀ w ∈ waiting, ∃ d,
    w.1.1.resume (Projection.draft ps.scope) w.2 = .ok d ∧ d.Sound ps root levels
  | registering _ d _ waiting => d.Sound ps root levels ∧ ∀ w ∈ waiting, ∃ d,
    w.1.1.resume (Projection.draft ps.scope) w.2 = .ok d ∧ d.Sound ps root levels

variable {ps : Passes} {root : Schema} {n : Nat}

namespace Shared.Safe

variable {s : Shared}

theorem register (h : s.Safe ps root n) {r : Request} (hr : r.Safe ps root n) :
    (s.register ps.coalesce r).Safe ps root n where
  shape := h.shape
  renders := h.renders
  wellFormed := Batch.wellFormed_register h.wellFormed _
  safe := by
    intro b hb t ht
    have hmem := (Batch.tickets_register ps.coalesce s.pending (r, s.next)).subset
      (List.mem_flatMap.2 ⟨b, hb, ht⟩)
    rcases List.mem_append.1 hmem with hmem | hmem
    · obtain ⟨b', hb', ht⟩ := List.mem_flatMap.1 hmem
      exact h.safe b' hb' t ht
    · rw [List.mem_singleton.1 hmem]
      exact hr

theorem fill (h : s.Safe ps root n) {D : Draft Ticket} (hD : D.Renders) (t : Ticket) :
    (s.fill t D).Safe ps root n where
  shape := by
    obtain ⟨writes, hwrites⟩ := h.shape
    rw [Shared.fill, hwrites]
    exact ⟨_, rfl⟩
  renders := by
    refine (Draft.renders_bind_iff _ _).2 ⟨h.renders, fun u _ => ?_⟩
    split
    · exact hD
    · trivial
  wellFormed := h.wellFormed
  safe := h.safe

/-- The output of a safe state is a document. -/
theorem exists_render (h : s.Safe ps root n) : ∃ shown, s.render = .ok (.object shown) := by
  obtain ⟨writes, hwrites⟩ := h.shape
  have hrenders := h.renders
  rw [hwrites] at hrenders
  have hanswered := (Draft.rendersWrites_bindWrites_iff
    (fun _ => (.value .null : Draft Empty)) writes).2 ⟨hrenders, fun _ _ => trivial⟩
  obtain ⟨shown, hshown⟩ := Draft.exists_renderDocument hanswered
  refine ⟨shown, ?_⟩
  rw [render, hwrites, Draft.bind, Draft.render, ← Draft.renderDocument, hshown]
  rfl

/-- Before the first pass, the draft of the document is the output. -/
theorem of_draft {writes : Draft.Writes Request} (h : (Draft.document writes).Sound ps root n)
    (next : Nat) :
    Shared.Safe ps root n ⟨.document (Draft.numberWrites 0 writes), next,
      Batch.ofTickets ps.coalesce (Draft.requestsOfWrites (Draft.numberWrites 0 writes))⟩ where
  shape := ⟨_, rfl⟩
  renders := Draft.rendersWrites_numberWrites h.1
  wellFormed := Batch.wellFormed_ofTickets _
  safe := by
    intro b hb t ht
    have hmem := (Batch.tickets_ofTickets _ _).subset (List.mem_flatMap.2 ⟨b, hb, ht⟩)
    exact h.2 t.1 (Draft.exists_numberWrites_iff.1 ⟨t, hmem, rfl⟩)

end Shared.Safe

/-- **A step of a task does not fail**, and goes on with safe requests. -/
theorem Task.Step.safe (hrel : ps.scope.catalog.Reliable ps.resolver root) {s s' : Shared}
    {task : Task} {rest : Option Task} {failed : List Error} (h : task.Step ps s s' rest failed)
    (hs : s.Safe ps root n) (htask : task.Safe ps root n) :
    failed = [] ∧ s'.Safe ps root n ∧ ∀ task' ∈ rest.toList, task'.Safe ps root n := by
  cases h with
  | answered answer_eq =>
    obtain ⟨answer, hanswer, hresume⟩ := Batch.exists_answers hrel htask.1 htask.2
    obtain rfl := Except.ok.inj (hanswer.symm.trans answer_eq)
    exact ⟨rfl, hs, List.forall_mem_singleton.2 hresume⟩
  | unanswered error_eq =>
    obtain ⟨answer, hanswer, -⟩ := Batch.exists_answers hrel htask.1 htask.2
    cases hanswer.symm.trans error_eq
  | walked draft_eq =>
    obtain ⟨⟨d, hd, hsound⟩, hwaiting⟩ := List.forall_mem_cons.1 htask
    obtain rfl := Except.ok.inj (hd.symm.trans draft_eq)
    exact ⟨rfl, hs, List.forall_mem_singleton.2 ⟨hsound, hwaiting⟩⟩
  | unwalked error_eq next pending =>
    obtain ⟨⟨d, hd, -⟩, -⟩ := List.forall_mem_cons.1 htask
    cases hd.symm.trans error_eq
  | registered request_eq =>
    exact ⟨rfl, hs.register (htask.1.2 _ (List.mem_of_getElem? request_eq)),
      List.forall_mem_singleton.2 htask⟩
  | filled all =>
    obtain ⟨⟨hrenders, -⟩, hwaiting⟩ := htask
    exact ⟨rfl, hs.fill (Draft.renders_label hrenders _) _,
      List.forall_mem_singleton.2 hwaiting⟩
  | ended => exact ⟨rfl, hs, nofun⟩

/-! ## Any schedule -/

namespace State

/-- In the middle of a pass that cannot fail. -/
def SafeAmid (ps : Passes) (root : Schema) (levels : Nat) (s : Shared) (tasks : List Task)
    (errors : List Error) : Prop :=
  errors = [] ∧ s.Safe ps root levels ∧ ∀ task ∈ tasks, task.Safe ps root levels

theorem SafeAmid.step (hrel : ps.scope.catalog.Reliable ps.resolver root) {s s' : Shared}
    {task : Task} {rest : Option Task} {before after : List Task} {errors failed : List Error}
    (h : SafeAmid ps root n s (before ++ task :: after) errors)
    (hstep : task.Step ps s s' rest failed) :
    SafeAmid ps root n s' (before ++ rest.toList ++ after) (errors ++ failed) := by
  obtain ⟨rfl, hs, htasks⟩ := h
  obtain ⟨rfl, hs', hrest⟩ := hstep.safe hrel hs (htasks task (by simp))
  exact ⟨rfl, hs', Task.forall_mem_middle htasks hrest⟩

/-- **Every schedule of safe tasks comes to a document**: the pass ends, and the next one is for a
level less. -/
theorem inevitable_of_safe (hrel : ps.scope.catalog.Reliable ps.resolver root) {s : Shared}
    {tasks : List Task} (hs : s.Safe ps root n) (htasks : ∀ task ∈ tasks, task.Safe ps root n) :
    Inevitable ps (fun st => ∃ shown, st = done (.ok (.object shown))) (running s tasks []) := by
  induction n using Nat.strongRecOn generalizing s tasks with
  | ind n ih =>
    have hamid : SafeAmid ps root n s tasks [] := ⟨rfl, hs, htasks⟩
    refine (inevitable_end (fun h hstep => h.step hrel hstep) hamid).trans ?_
    rintro _ ⟨s, _, rfl, rfl, hs, -⟩
    by_cases hnil : s.pending = []
    · obtain ⟨shown, hshown⟩ := hs.exists_render
      refine .later ⟨_, .finished hnil⟩ fun st hst => .now ⟨shown, ?_⟩
      rcases hst.of_ready with ⟨hne, -⟩ | ⟨-, rfl⟩
      · exact absurd hnil hne
      · rw [hshown]
    · -- A request that waits is for less than `n` levels, so the next pass is for fewer.
      obtain ⟨b, hb⟩ := List.exists_mem_of_ne_nil _ hnil
      obtain ⟨t, ht⟩ := (hs.wellFormed b hb).exists_ticket
      obtain ⟨m, rfl⟩ := Nat.exists_eq_add_of_lt (hs.safe b hb t ht).depth_lt
      refine .later ⟨_, .pass hnil⟩ fun st hst => ?_
      rcases hst.of_ready with ⟨-, rfl⟩ | ⟨hpending, -⟩
      · refine ih _ (Nat.lt_succ_self _) ⟨hs.shape, hs.renders, nofun, nofun⟩ fun task htask => ?_
        obtain ⟨b, hb, rfl⟩ := List.mem_map.1 htask
        exact ⟨hs.wellFormed b hb, hs.safe b hb⟩
      · exact absurd hpending hnil

end State

namespace Evaluator

variable (e : Evaluator) (catalog : Catalog) (resolver : Resolver) (p : Projection)
  (fields : Schema) (doc : Document)

/-- **A validated projection does not go wrong** on a document that conforms to the schema it was
validated against: its evaluation comes to a document, with one lookup after the other and in every
schedule. -/
theorem eval_of_validate (hvalid : (p.validate catalog fields).failure = none)
    (hstars : p.LoneStars) (hnarrowing : catalog.KeepsNarrowing fields)
    (hdoc : fields.Admits doc) (hrel : catalog.Reliable resolver fields) :
    (∃ shown, (e.eval catalog resolver (p.validate catalog fields).value fields doc).result =
        .ok shown) ∧
      State.Inevitable (e.passes catalog resolver)
        (fun st => ∃ shown, st = .done (.ok (.object shown)))
        (e.start catalog resolver (p.validate catalog fields).value fields doc) := by
  have hfits := Projection.fits_of_validate hnarrowing .refl hstars hvalid
  generalize (p.validate catalog fields).value = validated at hfits ⊢
  have hrel' : (e.passes catalog resolver).scope.catalog.Reliable
    (e.passes catalog resolver).resolver fields := hrel
  obtain ⟨writes, hw, hrenders, hsafe⟩ := Projection.exists_draft hrel' .refl hfits hdoc
  constructor
  · have hrequests : ∀ t ∈ Draft.requestsOfWrites (Draft.numberWrites 0 writes),
        t.1.Safe (e.passes catalog resolver) fields (passLimit validated) := by
      intro t ht
      have hr := Draft.exists_numberWrites_iff.1 ⟨t, ht, rfl⟩
      exact (hsafe t.1 hr).mono (Nat.le_add_right _ _)
    obtain ⟨a, ha, hanswers⟩ := Passes.exists_settle hrel' (passLimit validated) 0 hrequests
    have hanswered := (Draft.rendersWrites_bindWrites_iff (fun t => a.1 t.2) _).2
      ⟨Draft.rendersWrites_numberWrites (n := 0) hrenders, fun t _ => hanswers t.2⟩
    obtain ⟨shown, hshown⟩ := Draft.exists_renderDocument hanswered
    refine ⟨shown, toOption_eq_some_iff.1 ?_⟩
    refine (Assembly.document.toOption_run _ _ _).trans ?_
    have hrendered : (Assembly.document.render writes a.1).toOption = some shown :=
      congrArg Except.toOption hshown
    rw [hw, toOption_ok, Option.bind_some, Assembly.document, ha, toOption_ok, Option.bind_some]
    exact hrendered
  · have hstart : ∃ next, e.start catalog resolver validated fields doc =
        .running ⟨.document (Draft.numberWrites 0 writes), next, Batch.ofTickets
          (e.passes catalog resolver).coalesce
          (Draft.requestsOfWrites (Draft.numberWrites 0 writes))⟩ [] [] := by
      unfold start
      simp only [hw]
      exact ⟨_, rfl⟩
    obtain ⟨next, hstart⟩ := hstart
    rw [hstart]
    exact State.inevitable_of_safe hrel' (.of_draft ⟨hrenders, hsafe⟩ next) nofun

end Evaluator

end

namespace Bookshelf

/-- Somebody with the title of one book. -/
def withBook : Projection :=
  let limit : String × Value := ("limit", .integer 1)
  [{ name := "*" }, { name := "books", params := [limit], children := some [{ name := "title" }] }]

/-- A book with its author. -/
def tale : Projection := [{ name := "*" }, { name := "author", children := some withBook }]

/-- Answers whatever is asked. -/
def library : Resolver := fun path _ =>
  if path = "/books" then .ok ⟨[book], bookFields⟩ else .ok ⟨authors, authorFields⟩

theorem mem_of_lookup {sub : Schema} (hsub : sub = bookFields ∨ sub = authorFields) {name : String}
    {f : Field} (hf : Schema.lookup sub name = some f) :
    f.capabilities.handler = none ∧ f.capabilities.validator = none ∧ f.params = [] ∧
      f.isStructured = false ∧ (f.kind = .scalar ∨ f.kind = .reference "/authors" "author" ∨
        sub = authorFields ∧ f.kind = .connection "/books" "author" "book") := by
  rcases hsub with rfl | rfl
  · have hmem := Schema.mem_of_lookup (by simp [bookFields, Field.kind]) hf
    simp only [bookFields, List.map_cons, List.map_nil, List.mem_cons, List.not_mem_nil,
      or_false] at hmem
    rcases hmem with rfl | rfl | rfl <;> simp [Field.capabilities, Field.params, Field.kind,
      Field.isStructured]
  · have hmem := Schema.mem_of_lookup (by simp [authorFields, Field.kind]) hf
    simp only [authorFields, List.map_cons, List.map_nil, List.mem_cons, List.not_mem_nil,
      or_false] at hmem
    rcases hmem with rfl | rfl <;> simp [Field.capabilities, Field.params, Field.kind,
      Field.isStructured]

theorem of_reaches {sub : Schema} (h : catalog.Reaches bookFields sub) :
    sub = bookFields ∨ sub = authorFields := by
  induction h with
  | refl => exact .inl rfl
  | tail _ hstep ih =>
    obtain ⟨name, f, hf, hsub⟩ := hstep
    obtain ⟨capabilities, kind⟩ := f
    obtain ⟨-, -, -, -, hkind⟩ := mem_of_lookup ih hf
    rcases hkind with rfl | rfl | ⟨-, rfl⟩ <;> cases hsub
    · exact .inr rfl
    · exact .inl rfl

theorem admits {sub : Schema} (hsub : sub = bookFields ∨ sub = authorFields) {doc : Document}
    (hid : ∃ id, Assoc.get? doc "id" = some id)
    (hkeys : ∀ key ∈ Assoc.keys doc, ∀ f, Schema.lookup sub key = some f →
      ∀ path field target, f.kind ≠ .connection path field target) : sub.Admits doc :=
  .intro (fun _ _ _ _ hf => .plain (mem_of_lookup hsub hf).2.2.2.1) hkeys fun _ _ _ _ _ _ _ => hid

theorem admits_book : bookFields.Admits book := by
  refine admits (.inl rfl) ⟨_, rfl⟩ fun key _ f hf path field target hkind => ?_
  rcases (mem_of_lookup (.inl rfl) hf).2.2.2.2 with h | h | ⟨h, -⟩
  · cases h.symm.trans hkind
  · cases h.symm.trans hkind
  · exact absurd (congrArg List.length h) (by decide)

theorem admits_author {doc : Document} (h : doc ∈ authors) : authorFields.Admits doc := by
  have hdoc : Assoc.keys doc = ["id", "name"] ∧ ∃ id, Assoc.get? doc "id" = some id := by
    rcases List.mem_cons.1 h with rfl | h
    · exact ⟨rfl, _, rfl⟩
    · rw [List.mem_singleton.1 h]
      exact ⟨rfl, _, rfl⟩
  refine admits (.inr rfl) hdoc.2 fun key hkey f hf path field target hkind => ?_
  rw [hdoc.1, List.mem_cons, List.mem_singleton] at hkey
  rcases hkey with rfl | rfl
  · cases hf
  · cases hf
    cases hkind

theorem reliable : catalog.Reliable library bookFields where
  total := by
    intro sub name f hreach hf
    obtain ⟨capabilities, kind⟩ := f
    obtain ⟨hhandler, hvalidator, -, -, hkind⟩ := mem_of_lookup (of_reaches hreach) hf
    refine ⟨⟨fun h hh => ?_, fun t ht => ?_⟩, fun element helement => ?_⟩
    · cases hhandler.symm.trans hh
    · cases hvalidator.symm.trans ht
    · rcases hkind with rfl | rfl | ⟨-, rfl⟩ <;> cases helement
  answers := by
    intro sub name f path target hreach hf htarget q
    obtain ⟨capabilities, kind⟩ := f
    obtain ⟨-, -, -, -, hkind⟩ := mem_of_lookup (of_reaches hreach) hf
    rcases hkind with rfl | rfl | ⟨-, rfl⟩ <;> cases htarget
    · exact ⟨⟨authors, authorFields⟩, rfl, rfl, fun doc => admits_author⟩
    · refine ⟨⟨[book], bookFields⟩, rfl, rfl, fun doc hdoc => ?_⟩
      rw [List.mem_singleton.1 hdoc]
      exact admits_book

theorem keepsNarrowing : catalog.KeepsNarrowing bookFields := by
  intro sub name f path field target hreach hf hkind p hp
  rw [(mem_of_lookup (of_reaches hreach) hf).2.2.1]
  rfl

theorem loneStars_tale : tale.LoneStars := by
  have hleaf : Projection.LoneStars [{ name := "title" }] := by
    refine .intro (by decide) (fun s hs _ => ?_) fun s hs children hc => ?_ <;>
      cases List.mem_singleton.1 hs
    · rfl
    · cases hc
  have hwithBook : withBook.LoneStars := by
    refine .intro (by decide +kernel) (fun s hs hstar => ?_) fun s hs children hc => ?_ <;>
      simp only [withBook, List.mem_cons, List.not_mem_nil, or_false] at hs <;>
      rcases hs with rfl | rfl
    · rfl
    · cases hstar
    · cases hc
    · cases hc
      exact hleaf
  refine .intro (by decide +kernel) (fun s hs hstar => ?_) fun s hs children hc => ?_ <;>
    simp only [tale, List.mem_cons, List.not_mem_nil, or_false] at hs <;> rcases hs with rfl | rfl
  · rfl
  · cases hstar
  · cases hc
  · cases hc
    exact hwithBook

/-- The book with its author and a book of the author, in every schedule. -/
theorem eval_tale :
    (∃ shown, (evaluator.eval catalog library (tale.validate catalog bookFields).value bookFields
        book).result = .ok shown) ∧
      State.Inevitable (evaluator.passes catalog library)
        (fun st => ∃ shown, st = .done (.ok (.object shown)))
        (evaluator.start catalog library (tale.validate catalog bookFields).value bookFields book) :=
  evaluator.eval_of_validate catalog library tale bookFields book
    (Option.isNone_iff_eq_none.1 (by decide +kernel)) loneStars_tale keepsNarrowing admits_book
    reliable

end Bookshelf

end DocQuery
