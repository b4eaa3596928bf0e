import DocQuery.Proofs.Ending
import DocQuery.Proofs.Schedules

/-!
# Documents that share their passes

Several documents are evaluated as one output, the list of their drafts: all their requests wait for
the same passes, and those for one id each share lookups across documents. Still every place gets
what its own document asks for, so that the list comes to what the documents come to one by one.

* `Draft.toOption_traverse_documents` — the drafts of several documents, answered together.
* `Evaluator.evalAll_result` — an evaluation of several documents is a round over evaluations.
* `Evaluator.EvaluatesAllTo.rounds` — an evaluation comes to what the rounds come to.
* `Evaluator.EvaluatesAllTo.inevitable` — every schedule comes to what the evaluation comes to.
* `Evaluator.evalAll_eq_each` — sharing passes does not mix documents, under any schedule.
-/

set_option autoImplicit false

namespace DocQuery

/-! ## The drafts of several documents -/

namespace Draft

variable {ρ σ : Type}

/-- The output of several documents. -/
def documents (drafts : List (Writes ρ)) : Draft ρ := list (drafts.map document)

theorem documents_injective : Function.Injective (documents : List (Writes ρ) → Draft ρ) :=
  fun _ _ h => List.map_injective_iff.2 (fun _ _ => document.inj) (list.inj h)

theorem requests_documents (drafts : List (Writes ρ)) :
    (documents drafts).requests = drafts.flatMap requestsOfWrites := by
  show requestsOfItems (drafts.map document) = _
  rw [requestsOfItems_eq_flatMap, List.flatMap_map]
  rfl

theorem bind_documents (f : ρ → Draft σ) (drafts : List (Writes ρ)) :
    (documents drafts).bind f = documents (drafts.map (bindWrites f)) := by
  show list (bindItems f (drafts.map document)) = _
  rw [bindItems_eq_map, documents, List.map_map, List.map_map]
  rfl

/-- Documents are numbered on and on, as the items of a list are. -/
theorem number_documents (n : Nat) (drafts : List (Writes ρ)) :
    (documents drafts).number n = documents (numberDocuments n drafts) := by
  refine congrArg list ?_
  induction drafts generalizing n with
  | nil => rfl
  | cons d drafts ih =>
    rw [List.map_cons, numberItems, numberDocuments, List.map_cons]
    exact congrArg _ (ih _)

theorem toOption_traverse_documents (f : ρ → Except Error (Draft σ)) (drafts : List (Writes ρ)) :
    ((documents drafts).traverse f).toOption =
      (drafts.mapM fun d => (traverseWrites f d).toOption).map documents := by
  have hdocument : ∀ d : Writes ρ,
      ((document d).traverse f).toOption = (traverseWrites f d).toOption.map document := by
    intro d
    rw [traverse, toOption_map]
  rw [documents, traverse, toOption_map, toOption_traverseItems, List.mapM_map]
  simp only [Function.comp_def, hdocument]
  rw [mapM_map_result, Option.map_map]
  rfl

/-- Several documents are rendered one by one. -/
theorem toOption_render_documents (drafts : List (Writes Empty)) :
    (documents drafts).render.toOption =
      (drafts.mapM fun d => (renderDocument d).toOption).map fun outs =>
        .array (outs.map .object) := by
  have hdocument : ∀ d : Writes Empty,
      (document d).render.toOption = (renderDocument d).toOption.map .object := by
    intro d
    rw [render, ← renderDocument, toOption_map]
  rw [documents, toOption_render_list, List.mapM_map]
  simp only [Function.comp_def, hdocument]
  rw [mapM_map_result, Option.map_map]
  rfl

end Draft

/-! ## Schedules of a draft -/

section

variable [RegexEngine]

/-- A draft whose requests are numbered is ready for the first pass. -/
theorem Shared.ready_of_draft (ps : Passes) (G : Draft Request) :
    Ready ps G ⟨G.number 0, (G.number 0).requests.length,
      Batch.ofTickets ps.coalesce (G.number 0).requests⟩ where
  tree := Draft.bind_number 0 G
  waiting := Batch.tickets_ofTickets _ _
  numbers := by
    rw [Draft.requests_number, List.zipIdx_map_snd]
    exact List.nodup_range'
  fresh := by
    intro u hu
    rw [Draft.requests_number] at hu ⊢
    rw [List.length_zipIdx]
    exact (List.mem_zipIdx' hu).1
  wellFormed := Batch.wellFormed_ofTickets _

/-! ## Evaluations of several documents -/

namespace Evaluator

variable (e : Evaluator) (catalog : Catalog) (resolver : Resolver) (p : Projection)
  (fields : Schema) (docs : List Document)

/-- What is so for the requests of every walk is so for those of the output. -/
theorem requests_of_drafts {Q : Request → Prop}
    (hQ : ∀ doc ∈ docs, ∀ writes,
      p.draft (e.passes catalog resolver).scope doc fields = .ok writes →
        ∀ r ∈ Draft.requestsOfWrites writes, Q r) {drafts : List (Draft.Writes Request)}
    (h : (docs.mapM fun doc => p.draft (e.passes catalog resolver).scope doc fields) =
      .ok drafts) : ∀ r ∈ (Draft.documents drafts).requests, Q r := by
  intro r hr
  rw [Draft.requests_documents, List.mem_flatMap] at hr
  obtain ⟨writes, hwrites, hr⟩ := hr
  obtain ⟨doc, hdoc, hw⟩ := exists_of_mem_mapM h hwrites
  exact hQ doc hdoc writes hw r hr

/-- **An evaluation of several documents is a round over their evaluations**, failures not told
apart. -/
theorem evalAll_result {Q : Request → Prop} {step : Request → Except Error (Draft Request)}
    (hf : (e.passes catalog resolver).Follows Q step)
    (hQ : ∀ doc ∈ docs, ∀ writes,
      p.draft (e.passes catalog resolver).scope doc fields = .ok writes →
        ∀ r ∈ Draft.requestsOfWrites writes, Q r) :
    (e.evalAll catalog resolver p fields docs).result.toOption =
      docs.mapM fun doc => (e.eval catalog resolver p fields doc).result.toOption := by
  have heach : ∀ doc ∈ docs, (e.eval catalog resolver p fields doc).result.toOption =
      (p.draft (e.passes catalog resolver).scope doc fields).toOption.bind fun writes =>
        (Draft.traverseWrites (Passes.resolveWithin step (passLimit p)) writes).toOption.bind
          fun answered => (Draft.renderDocument answered).toOption :=
    fun doc hdoc => eval_result e catalog resolver p fields doc hf (hQ doc hdoc)
  rw [mapM_congr heach, ← mapM_bind_mapM, ← toOption_mapM]
  cases hdrafts : docs.mapM fun doc => p.draft (e.passes catalog resolver).scope doc fields with
  | error err =>
    have hfails : (e.evalAll catalog resolver p fields docs).result = .error err :=
      Run.result_bind_of_error _ hdrafts
    rw [hfails]
    rfl
  | ok drafts =>
    have hQall := requests_of_drafts e catalog resolver p fields docs hQ hdrafts
    have hplaces := Passes.settle_number hf (passLimit p) hQall
    rw [Draft.toOption_traverse_documents] at hplaces
    simp only [Draft.number_documents, Draft.bind_documents] at hplaces
    have hanswered := Option.map_injective Draft.documents_injective
      ((Option.map_map _ _ _).trans hplaces)
    rw [toOption_ok, Option.bind_some, ← mapM_bind_mapM, ← hanswered, Option.bind_map]
    refine (Assembly.documents.toOption_run _ _ _).trans ?_
    rw [hdrafts, toOption_ok, Option.bind_some, Draft.requests_documents]
    refine Option.bind_congr fun a _ => ?_
    rw [Assembly.documents, toOption_mapM, Function.comp_apply, List.mapM_map]
    rfl

/-- Once the documents are walked, the requests of their drafts wait. -/
theorem startAll_of_drafts {drafts : List (Draft.Writes Request)}
    (h : (docs.mapM fun doc => p.draft (e.passes catalog resolver).scope doc fields) =
      .ok drafts) :
    ∃ s, e.startAll catalog resolver p fields docs = .running s [] [] ∧
      Shared.Ready (e.passes catalog resolver) (.documents drafts) s := by
  refine ⟨_, ?_, Shared.ready_of_draft (e.passes catalog resolver) (.documents drafts)⟩
  unfold startAll
  simp only [h, Draft.number_documents, Draft.requests_documents]
  rfl

variable {e catalog resolver p fields docs} in
/-- One lookup after the other, an evaluation of several documents comes to what the rounds come
to. -/
theorem EvaluatesAllTo.rounds {run : Run (List Document)}
    (h : e.EvaluatesAllTo catalog resolver p fields docs run) {Q : Request → Prop}
    {step : Request → Except Error (Draft Request)}
    (hf : (e.passes catalog resolver).Follows Q step) {drafts : List (Draft.Writes Request)}
    (hdrafts : (docs.mapM fun doc => p.draft (e.passes catalog resolver).scope doc fields) =
      .ok drafts) (hQ : ∀ r ∈ (Draft.documents drafts).requests, Q r) :
    Rounds step (.documents drafts)
      (run.result.toOption.map fun outs => .array (outs.map .object)) := by
  have htells := h.tells
  rw [hdrafts] at htells
  refine htells.rounds hf hQ ?_ fun answers => ?_
  · rw [Draft.number_documents, Draft.requests_documents]
    rfl
  · rw [Draft.number_documents, Draft.bind_documents, Draft.toOption_render_documents,
      List.mapM_map, Assembly.documents, toOption_mapM]
    rfl

variable {e catalog resolver p fields docs} in
/-- Every schedule of the shared passes comes to what an evaluation of several documents comes
to. -/
theorem EvaluatesAllTo.inevitable {run : Run (List Document)}
    (h : e.EvaluatesAllTo catalog resolver p fields docs run) {P : Value → Prop}
    {Q : Request → Prop} (hsteady : (e.passes catalog resolver).Steady P Q)
    (hQ : ∀ doc ∈ docs, ∀ writes,
      p.draft (e.passes catalog resolver).scope doc fields = .ok writes →
        ∀ r ∈ Draft.requestsOfWrites writes, Q r) :
    State.Inevitable (e.passes catalog resolver)
      (State.Ends (run.result.toOption.map fun outs => .array (outs.map .object)))
      (e.startAll catalog resolver p fields docs) := by
  cases hdrafts : docs.mapM fun doc => p.draft (e.passes catalog resolver).scope doc fields with
  | error err =>
    have htells := h.tells
    rw [hdrafts] at htells
    have hstart : e.startAll catalog resolver p fields docs = .done (.error err) := by
      unfold startAll
      simp only [hdrafts]
    cases htells
    rw [hstart]
    exact .now ⟨_, rfl, rfl⟩
  | ok drafts =>
    obtain ⟨s, hstart, hready⟩ := e.startAll_of_drafts catalog resolver p fields docs hdrafts
    have hQall := requests_of_drafts e catalog resolver p fields docs hQ hdrafts
    rw [hstart]
    exact .of_rounds hsteady (h.rounds hsteady.follows_step hdrafts hQall) hQall hready

/-- **Sharing passes does not mix documents.** Over a resolver whose failures depend on the path
only, and whose answers hold the same for an id whatever the other ids are, several documents come
to the list of what each of them comes to, or fail where one of them fails. What they come to, in as
many passes as it takes, every schedule of the shared passes comes to. No document has a key
twice. -/
theorem evalAll_eq_each (hs : resolver.SteadyOn Value.KeysDistinct)
    (hres : resolver.KeysDistinct) (hdocs : ∀ doc ∈ docs, (Value.object doc).KeysDistinct) :
    (∀ outs, (e.evalAll catalog resolver p fields docs).result = .ok outs ↔
        List.Forall₂ (fun doc out => (e.eval catalog resolver p fields doc).result = .ok out)
          docs outs) ∧
      ((∃ err, (e.evalAll catalog resolver p fields docs).result = .error err) ↔
        ∃ doc ∈ docs, ∃ err, (e.eval catalog resolver p fields doc).result = .error err) ∧
      (∀ outs, (e.evalAll catalog resolver p fields docs).result = .ok outs →
        State.Inevitable (e.passes catalog resolver)
          (fun st => st = .done (.ok (.array (outs.map .object))))
          (e.startAll catalog resolver p fields docs)) ∧
      ∀ run err, e.EvaluatesAllTo catalog resolver p fields docs run → run.result = .error err →
        State.Inevitable (e.passes catalog resolver) (fun st => ∃ err', st = .done (.error err'))
          (e.startAll catalog resolver p fields docs) := by
  have hsteady : (e.passes catalog resolver).Steady Value.KeysDistinct Request.KeysDistinct :=
    Passes.steady_of_keysDistinct hs hres
  have hQ : ∀ doc ∈ docs, ∀ writes,
      p.draft (e.passes catalog resolver).scope doc fields = .ok writes →
        ∀ r ∈ Draft.requestsOfWrites writes, r.KeysDistinct :=
    fun doc hdoc _ hw => Site.keysDistinct_of_draft (hdocs doc hdoc) hw
  have hresult := e.evalAll_result catalog resolver p fields docs hsteady.follows_step hQ
  refine ⟨?_, ?_, ?_, ?_⟩
  · intro outs
    rw [← toOption_eq_some_iff, hresult, mapM_eq_some_iff, ← List.forall₂_eq_eq_eq,
      List.forall₂_map_left_iff, List.forall₂_map_right_iff]
    simp only [toOption_eq_some_iff]
  · rw [← toOption_eq_none_iff, hresult, mapM_eq_none_iff]
    simp only [toOption_eq_none_iff]
  · intro outs hout
    rw [evalAll] at hout
    have hrun := e.evaluatesAllTo_of_ne catalog resolver p fields (hout.trans_ne (by simp))
    have hevery := hrun.inevitable hsteady hQ
    rw [hout] at hevery
    exact hevery.done_ok
  · intro run err hrun herr
    have hevery := hrun.inevitable hsteady hQ
    rw [herr] at hevery
    exact hevery.done_error

end Evaluator

end

namespace Bookshelf

/-- A sequel by the editor of the book. -/
def sequel : Document :=
  [("id", .string "sequel"), ("title", .string "Another tale"), ("author", .string "bob"),
    ("editor", .string "cid")]

/-- Two books whose four lookups are one, each with its own author and editor. -/
theorem evalAll_books :
    ((evaluator.coalescing true).evalAll catalog
        (Resolver.ofResources store.resource Access.ofQuery) projection bookFields
        [book, sequel]).result =
      .ok [[("title", .string "A tale"), ("author", .object [("name", .string "Ann")]),
          ("editor", .object [("name", .string "Bob")])],
        [("title", .string "Another tale"), ("author", .object [("name", .string "Bob")]),
          ("editor", .null)]] := by
  have hkeys : ∀ doc ∈ [book, sequel], (Value.object doc).KeysDistinct := by
    simp [Value.KeysDistinct, Value.keysDistinctEntries, Assoc.keys, book, sequel]
  exact (((evaluator.coalescing true).evalAll_eq_each catalog
    (Resolver.ofResources store.resource Access.ofQuery) projection bookFields [book, sequel]
    stored.steadyOn stored.keysDistinct hkeys).1 _).2 (.cons (by rfl) (.cons (by rfl) .nil))

end Bookshelf

end DocQuery
