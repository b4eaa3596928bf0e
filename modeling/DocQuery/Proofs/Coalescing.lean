import DocQuery.Proofs.DirectEvaluation
import DocQuery.Proofs.DistinctKeys

/-!
# Coalescing is transparent

Over resources that hold documents, an evaluation that coalesces its requests comes to what one
comes to that does not. A shared lookup gets documents by their ids, a request alone searches for
its id; both find the first document of the id.

* `Stored` — the documents that resources hold.
* `Site.JoinsNotOnId` — connections that no query for one id can be mistaken for.
* `Stored.steadyOn` — what an answer holds for an id does not depend on the other ids.
* `Evaluator.eval_coalescing` — coalescing changes no result.
-/

set_option autoImplicit false

namespace DocQuery

/-! ## Documents by id -/

section

variable [RegexEngine]

namespace Document

/-- A document of a collection: no key stands twice in it, at any depth, and its id is no list. -/
structure Storable (doc : Document) : Prop where
  keys : (Value.object doc).KeysDistinct
  plainId {items : List Value} : Assoc.get? doc "id" ≠ some (.array items)

omit [RegexEngine] in
theorem hasId_congr {k id : Value} (hk : k.KeysDistinct) (hid : id.KeysDistinct)
    (h : k = id ∨ k.alike id = true) : hasId k = hasId id := by
  rcases h with rfl | h
  · rfl
  · funext doc
    unfold hasId
    cases Assoc.get? doc "id" with
    | none => rfl
    | some v => exact Value.alike_congr hk hid h

omit [RegexEngine] in
/-- Two ids of one document are ids of the same documents. -/
theorem hasId_eq_of_hasId {doc : Document} (hdoc : (Value.object doc).KeysDistinct) {k id : Value}
    (hk : k.KeysDistinct) (hid : id.KeysDistinct) (h₁ : hasId k doc = true)
    (h₂ : hasId id doc = true) : hasId k = hasId id := by
  unfold hasId at h₁ h₂
  cases hv : Assoc.get? doc "id" with
  | none => rw [hv] at h₁; cases h₁
  | some v =>
    rw [hv] at h₁ h₂
    have hkv : k.alike v = true := v.alike_symm k (hdoc.of_get? hv) hk h₁
    exact hasId_congr hk hid (.inr (k.alike_trans v id hkv h₂))

/-- A search for an id finds the documents of the id. -/
theorem accepts_equal_id {doc : Document} (hdoc : doc.Storable) {id : Value}
    (hid : id.isNull = false) : Predicate.accepts [.equal "id" id] doc = hasId id doc := by
  have hlookup : lookup doc "id" = Assoc.get? doc "id" := rfl
  rw [Predicate.accepts, Expression.acceptsAll, Expression.acceptsAll, Bool.and_true,
    Expression.accepts, valueAt, hlookup, hasId]
  cases hv : Assoc.get? doc "id" with
  | none => cases id <;> first | rfl | cases hid
  | some v =>
    cases v with
    | array items => exact absurd hv hdoc.plainId
    | _ => rfl

end Document

omit [RegexEngine] in
/-- Among the documents found for several ids, the first one of a covered id is that of the id. -/
theorem find?_filterMap_find? {docs : List Document}
    (hdocs : ∀ doc ∈ docs, (Value.object doc).KeysDistinct) {ids : List Value}
    (hids : ∀ k ∈ ids, k.KeysDistinct) {id : Value} (hid : id.KeysDistinct)
    (hcovers : Batch.Covers ids id) :
    (ids.filterMap fun k => docs.find? (Document.hasId k)).find? (Document.hasId id) =
      docs.find? (Document.hasId id) := by
  have hmem : ∀ {found : List Value} {doc : Document},
      doc ∈ (found.filterMap fun k => docs.find? (Document.hasId k)) → doc ∈ docs := by
    intro found doc hdoc
    obtain ⟨k, -, hk⟩ := List.mem_filterMap.1 hdoc
    exact List.mem_of_find?_eq_some hk
  cases hfind : docs.find? (Document.hasId id) with
  | none =>
    rw [List.find?_eq_none] at hfind ⊢
    intro doc hdoc
    exact hfind doc (hmem hdoc)
  | some doc =>
    induction ids with
    | nil =>
      obtain ⟨k, hk, -⟩ := hcovers
      cases hk
    | cons k ids ih =>
      have hids' : ∀ k ∈ ids, k.KeysDistinct := by
        intro k' hk'
        exact hids k' (List.mem_cons_of_mem k hk')
      have hk := hids k List.mem_cons_self
      have hrest : Document.hasId k ≠ Document.hasId id → Batch.Covers ids id := by
        intro hne
        obtain ⟨k', hk', hsame⟩ := hcovers
        rcases List.mem_cons.1 hk' with rfl | hk'
        · exact absurd (Document.hasId_congr hk hid hsame) hne
        · exact ⟨k', hk', hsame⟩
      cases hfound : docs.find? (Document.hasId k) with
      | none =>
        rw [List.filterMap_cons, hfound]
        refine ih hids' (hrest fun heq => ?_)
        rw [heq, hfind] at hfound
        cases hfound
      | some found =>
        rw [List.filterMap_cons, hfound]
        simp only
        by_cases hhas : Document.hasId id found = true
        · have hin := hdocs found (List.mem_of_find?_eq_some hfound)
          have heq := Document.hasId_eq_of_hasId hin hk hid (List.find?_some hfound) hhas
          rw [heq, hfind] at hfound
          rw [List.find?_cons_of_pos hhas, Option.some.inj hfound]
        · rw [List.find?_cons_of_neg hhas]
          refine ih hids' (hrest fun heq => hhas ?_)
          rw [← heq]
          exact List.find?_some hfound

/-! ## Resources that hold documents -/

/-- The resources behind paths hold documents. -/
def Stored (resources : String → Except Error Resource) : Prop :=
  ∀ path r, resources path = .ok r →
    ∃ docs, r.Serves docs ∧ ∀ doc ∈ docs, doc.Storable

namespace Stored

variable {resources : String → Except Error Resource} {path : String}

theorem resolve_ofIds {r : Resource} (hr : resources path = .ok r) {docs : List Document}
    (hdocs : r.Serves docs) (ids : List Value) :
    Resolver.ofResources resources Access.ofQuery path (.ofIds ids) =
      .ok ⟨ids.filterMap fun id => docs.find? (Document.hasId id), r.fields⟩ := by
  rw [Resolver.ofResources_of_ok hr, Access.ofQuery_ofIds, hdocs.read_multiGet]
  rfl

/-- A search for an id comes back with the documents of the id. -/
theorem resolve_equal_id {r : Resource} (hr : resources path = .ok r) {docs : List Document}
    (hdocs : r.Serves docs) (hstorable : ∀ doc ∈ docs, doc.Storable) {id : Value}
    (hid : id.isNull = false) {p : Projection} :
    Resolver.ofResources resources Access.ofQuery path
        { projection := p, predicate := [.equal "id" id] } =
      .ok ⟨docs.filter (Document.hasId id), r.fields⟩ := by
  have haccepts : ∀ doc ∈ docs,
      Predicate.accepts [.equal "id" id] doc = Document.hasId id doc := by
    intro doc hdoc
    exact Document.accepts_equal_id (hstorable doc hdoc) hid
  rw [Resolver.ofResources_of_ok hr]
  show (r.read path (.find _)).map _ = _
  rw [hdocs.read_find]
  simp only [Query.apply, SortOrder.apply_nil, Except.map]
  rw [List.filter_congr haccepts]

/-- Documents that come back are stored. -/
theorem storable_of_resolve (hs : Stored resources) {q : Query} {answer : Resolved}
    (h : Resolver.ofResources resources Access.ofQuery path q = .ok answer) {doc : Document}
    (hdoc : doc ∈ answer.items) : doc.Storable := by
  cases hr : resources path with
  | error e =>
    rw [Resolver.ofResources_of_error hr] at h
    cases h
  | ok r =>
    obtain ⟨docs, hdocs, hstorable⟩ := hs path r hr
    rw [Resolver.ofResources_of_ok hr] at h
    cases hread : r.read path (Access.ofQuery q) with
    | error e => rw [hread] at h; cases h
    | ok found =>
      rw [hread] at h
      cases h
      exact hstorable doc (hdocs.mem_of_read hread hdoc)

theorem keysDistinct (hs : Stored resources) :
    (Resolver.ofResources resources Access.ofQuery).KeysDistinct := by
  intro path q answer h doc hdoc
  exact (hs.storable_of_resolve h hdoc).keys

/-- **What an answer holds for an id does not depend on the other ids.** -/
theorem steadyOn (hs : Stored resources) :
    (Resolver.ofResources resources Access.ofQuery).SteadyOn Value.KeysDistinct where
  failure := by
    intro path q answer h q'
    cases hr : resources path with
    | error e =>
      rw [Resolver.ofResources_of_error hr] at h
      cases h
    | ok r =>
      obtain ⟨docs, hdocs, -⟩ := hs path r hr
      rw [Resolver.ofResources_of_ok hr]
      cases Access.ofQuery q' with
      | find q' => exact ⟨_, by rw [hdocs.read_find]; rfl⟩
      | multiGet ids => exact ⟨_, by rw [hdocs.read_multiGet]; rfl⟩
  entry := by
    intro path ids ids' id answer answer' hids hids' hid hcovers hcovers' h h'
    cases hr : resources path with
    | error e =>
      rw [Resolver.ofResources_of_error hr] at h
      cases h
    | ok r =>
      obtain ⟨docs, hdocs, hstorable⟩ := hs path r hr
      have hkeys : ∀ doc ∈ docs, (Value.object doc).KeysDistinct := by
        intro doc hdoc
        exact (hstorable doc hdoc).keys
      rw [resolve_ofIds hr hdocs] at h h'
      cases h
      cases h'
      unfold Resolved.entry? Resolved.find?
      rw [find?_filterMap_find? hkeys hids hid hcovers,
        find?_filterMap_find? hkeys hids' hid hcovers']

end Stored

/-! ## Requests of reached documents -/

namespace Site

variable {scope : Scope} {resolver : Resolver} {a b : Site}

/-- No field of the document is a connection that joins on `id`. -/
def JoinsNotOnId (a : Site) : Prop :=
  ∀ name f path target, Schema.lookup a.fields name = some f →
    f.kind ≠ .connection path "id" target

/-- A request is left by the walk of a document that is come across from `a`. -/
def Leads (scope : Scope) (resolver : Resolver) (a : Site) (r : Request) : Prop :=
  ∃ b, Reaches scope resolver a b ∧ ∃ writes,
    b.projection.draft scope b.doc b.fields = .ok writes ∧ r ∈ Draft.requestsOfWrites writes

/-- Requests of the draft of a request are come across as well. -/
theorem Leads.alone {ps : Passes} {r u : Request} (h : Leads ps.scope ps.resolver a r)
    {d : Draft Request} (hd : ps.alone r = .ok d) (hu : u ∈ d.requests) :
    Leads ps.scope ps.resolver a u := by
  obtain ⟨b, hb, writes, hw, hr⟩ := h
  unfold Passes.alone at hd
  cases hanswer : ps.resolver r.path r.query with
  | error e => rw [hanswer] at hd; cases hd
  | ok answer =>
    rw [hanswer] at hd
    obtain ⟨doc, hdoc, writes', hw', hu⟩ := Request.mem_resume hd hu
    exact ⟨_, .answer hb (.intro hw hr hanswer hdoc), writes', hw', hu⟩

/-- Only a reference makes a query for one id. -/
theorem Made.eq_ofReference (ha : a.JoinsNotOnId) {r : Request} (h : Made scope a r) {id : Value}
    (hid : r.query.singleId? = some id) :
    ∃ s f path children, r = .ofReference s f path children id ∧ id.isNull = false := by
  cases h with
  | reference _ _ _ _ present =>
    cases hid
    exact ⟨_, _, _, _, rfl, present⟩
  | references _ _ _ _ _ => cases hid
  | connection _ _ declared kind made =>
    obtain ⟨id', filter, order, -, -, -, rfl⟩ := Request.ofConnection_eq_ok made
    rw [Query.singleId?] at hid
    split at hid
    · cases filter with
      | nil =>
        simp only [Predicate.singleId?] at hid
        split at hid
        · rename_i hfield
          exact absurd (hfield ▸ kind) (ha _ _ _ _ declared)
        · cases hid
      | cons _ _ => cases hid
    · cases hid

end Site

/-! ## Shared and alone -/

/-- A request that shows the first document depends on nothing else of an answer. -/
theorem Request.resume_first {draft : Projection → Document → Schema →
      Except Error (Draft.Writes Request)} {r : Request} (hr : r.pick = .first)
    {answer answer' : Resolved} (hitems : answer.items.head? = answer'.items.head?)
    (hfields : answer.fields = answer'.fields) :
    r.resume draft answer = r.resume draft answer' := by
  unfold Request.resume
  rw [hr]
  simp only
  obtain ⟨items, fields⟩ := answer
  obtain ⟨items', fields'⟩ := answer'
  obtain rfl : fields = fields' := hfields
  cases items with
  | nil =>
    obtain rfl := List.head?_eq_none_iff.1 hitems.symm
    rfl
  | cons doc docs =>
    obtain ⟨docs', rfl⟩ := List.head?_eq_some_iff.1 hitems.symm
    rfl

/-- The document of a reference is the same, got by its id or searched for. -/
theorem Stored.step_ofReference {resources : String → Except Error Resource}
    (hs : Stored resources) {ps : Passes}
    (hps : ps.resolver = Resolver.ofResources resources Access.ofQuery) {s : Selection} {f : Field}
    {path : String} {children : Projection} {id : Value} (hid : id.isNull = false)
    (hkeys : id.KeysDistinct) :
    ps.step (.ofReference s f path children id) = ps.alone (.ofReference s f path children id) := by
  have hquery : (Request.ofReference s f path children id).query =
      { projection := children, predicate := [.equal "id" id] } := rfl
  rw [Passes.step]
  split
  · rename_i id' hid'
    have hid' : some id = some id' := by
      split at hid'
      · exact hid'
      · cases hid'
    cases hid'
    rw [Passes.alone, hps, hquery]
    show (Resolver.ofResources resources Access.ofQuery path (.ofIds [id])).bind _ =
      (Resolver.ofResources resources Access.ofQuery path _).bind _
    cases hr : resources path with
    | error e => rw [Resolver.ofResources_of_error hr, Resolver.ofResources_of_error hr]; rfl
    | ok r =>
      obtain ⟨docs, hdocs, hstorable⟩ := hs path r hr
      rw [Stored.resolve_ofIds hr hdocs, Stored.resolve_equal_id hr hdocs hstorable hid]
      have hfirst : (Request.ofReference s f path children id).pick = .first := rfl
      refine Request.resume_first hfirst ?_ rfl
      have hcovers : Batch.Covers [id] id := ⟨id, List.mem_singleton_self id, .inl rfl⟩
      have hids : ∀ k ∈ [id], k.KeysDistinct := by
        intro k hk
        rw [List.mem_singleton.1 hk]
        exact hkeys
      have hdocsKeys : ∀ doc ∈ docs, (Value.object doc).KeysDistinct := by
        intro doc hdoc
        exact (hstorable doc hdoc).keys
      show (List.find? _ _).toList.head? = _
      rw [find?_filterMap_find? hdocsKeys hids hkeys hcovers, List.head?_filter]
      cases docs.find? (Document.hasId id) <;> rfl
  · rfl

/-- **Lookups answer each request as it is answered alone**, shared or not. -/
theorem Stored.follows_alone {resources : String → Except Error Resource} (hs : Stored resources)
    {ps : Passes} (hps : ps.resolver = Resolver.ofResources resources Access.ofQuery) {a : Site}
    (ha : (Value.object a.doc).KeysDistinct)
    (hjoin : ∀ b, Site.Reaches ps.scope ps.resolver a b → b.JoinsNotOnId) :
    ps.Follows (Site.Leads ps.scope ps.resolver a) ps.alone where
  closed h hd _ hu := h.alone hd hu
  resume := by
    intro b hb hleads
    have hsingle : ∀ t ∈ b.tickets, ∀ id, t.1.query.singleId? = some id →
        ∃ s f path children, t.1 = .ofReference s f path children id ∧ id.isNull = false ∧
          id.KeysDistinct := by
      intro t ht id hid
      obtain ⟨c, hc, writes, hw, hr⟩ := hleads t ht
      obtain ⟨site, hinside, hmade⟩ := Site.made_of_mem hw hr
      have hsite := hc.trans hinside.reaches
      obtain ⟨s, f, path, children, heq, hnull⟩ := hmade.eq_ofReference (hjoin site hsite) hid
      have hsiteKeys : (Value.object site.doc).KeysDistinct :=
        hsite.keysDistinct (hps ▸ hs.keysDistinct) ha
      exact ⟨s, f, path, children, heq, hnull, hmade.keysDistinct hsiteKeys id hid⟩
    have hshared : ∀ {t : Ticket} {id : Value}, Batch.sharedId? ps.coalesce t = some id →
        t.1.query.singleId? = some id := by
      intro t id h
      unfold Batch.sharedId? at h
      split at h
      · exact h
      · cases h
    have hidKeys : ∀ t ∈ b.tickets, ∀ id, Batch.sharedId? ps.coalesce t = some id →
        id.KeysDistinct := by
      intro t ht id hid
      obtain ⟨_, _, _, _, -, -, hkeys⟩ := hsingle t ht id (hshared hid)
      exact hkeys
    rw [Passes.toOption_resume (hps ▸ hs.steadyOn) hb hidKeys]
    apply mapM_congr
    intro t ht
    cases hid : Batch.sharedId? ps.coalesce t with
    | none => rw [Passes.step_of_alone hid]
    | some id =>
      obtain ⟨s, f, path, children, heq, hnull, hkeys⟩ := hsingle t ht id (hshared hid)
      rw [heq, hs.step_ofReference hps hnull hkeys]

namespace Evaluator

/-- The same evaluator, coalescing or not. -/
def coalescing (e : Evaluator) (coalesce : Bool) : Evaluator :=
  { e with config := { e.config with coalesceReferences := coalesce } }

/-- **Coalescing is transparent.** Over resources that hold documents, and as long as no connection
joins on `id`, evaluation has the same result whether it coalesces or not, or fails in both cases.
-/
theorem eval_coalescing (e : Evaluator) (catalog : Catalog)
    (resources : String → Except Error Resource) (p : Projection) (fields : Schema)
    (doc : Document) (hstored : Stored resources) (hdoc : (Value.object doc).KeysDistinct)
    (hjoin : ∀ b, Site.Reaches ⟨catalog, e.config.connectionLimit⟩
      (Resolver.ofResources resources Access.ofQuery) ⟨p, doc, fields⟩ b → b.JoinsNotOnId) :
    let result (coalesce : Bool) := ((e.coalescing coalesce).eval catalog
      (Resolver.ofResources resources Access.ofQuery) p fields doc).result
    (∀ out, result true = .ok out ↔ result false = .ok out) ∧
      ((∃ err, result true = .error err) ↔ ∃ err, result false = .error err) := by
  intro result
  let resolver := Resolver.ofResources resources Access.ofQuery
  have hresult : ∀ coalesce, (result coalesce).toOption =
      (p.draft ⟨catalog, e.config.connectionLimit⟩ doc fields).toOption.bind
        (Draft.outcomeOfWrites (Passes.resolveWithin
          ((e.coalescing false).passes catalog resolver).alone (passLimit p))) := by
    intro coalesce
    have hf : ((e.coalescing coalesce).passes catalog resolver).Follows
        (Site.Leads ⟨catalog, e.config.connectionLimit⟩ resolver ⟨p, doc, fields⟩)
        ((e.coalescing coalesce).passes catalog resolver).alone :=
      hstored.follows_alone rfl hdoc hjoin
    apply eval_result (e.coalescing coalesce) catalog resolver p fields doc hf
    intro writes hw r hr
    exact ⟨_, .self, writes, hw, hr⟩
  exact agree_of_toOption_eq ((hresult true).trans (hresult false).symm)

end Evaluator

end

namespace Bookshelf

theorem storable_author {doc : Document} (h : doc ∈ authors) : doc.Storable := by
  rcases List.mem_cons.1 h with rfl | h
  · exact ⟨by simp [Value.KeysDistinct, Value.keysDistinctEntries, Assoc.keys, ann],
      by rintro _ ⟨⟩⟩
  · rw [List.mem_singleton.1 h]
    exact ⟨by simp [Value.KeysDistinct, Value.keysDistinctEntries, Assoc.keys, bob],
      by rintro _ ⟨⟩⟩

theorem stored : Stored store.resource := by
  intro path r hr
  unfold Store.resource at hr
  cases hc : Assoc.get? store path with
  | none => rw [hc] at hr; cases hr
  | some c =>
    rw [hc] at hr
    cases hr
    rcases List.mem_cons.1 (Assoc.mem_of_get? hc) with heq | hmem
    · obtain ⟨-, rfl⟩ := Prod.mk.inj heq
      exact ⟨_, Collection.serves_resource _ path rfl, fun doc => storable_author⟩
    · cases hmem

theorem joinsNotOnId {a : Site} (ha : Visited a) : a.JoinsNotOnId := by
  intro name f path target hf
  rcases ha with rfl | ⟨doc, -, rfl⟩
  · have hmem := Schema.mem_of_lookup (by simp [bookFields, Field.kind]) hf
    simp only [bookFields, List.map_cons, List.map_nil, List.mem_cons, List.not_mem_nil,
      or_false] at hmem
    rcases hmem with rfl | rfl | rfl <;> rintro ⟨⟩
  · have hmem := Schema.mem_of_lookup (by simp [authorFields, Field.kind]) hf
    simp only [authorFields, List.map_cons, List.map_nil, List.mem_cons, List.not_mem_nil,
      or_false] at hmem
    rcases hmem with rfl | rfl
    · simp [Field.kind]
    · rintro ⟨⟩

/-- The book with its author and editor, who are got in one lookup. -/
theorem eval_book :
    ((evaluator.coalescing true).eval catalog (Resolver.ofResources store.resource Access.ofQuery)
        projection bookFields book).result =
      .ok [("title", .string "A tale"), ("author", .object [("name", .string "Ann")]),
        ("editor", .object [("name", .string "Bob")])] := by
  have hkeys : (Value.object book).KeysDistinct := by
    simp [Value.KeysDistinct, Value.keysDistinctEntries, Assoc.keys, book]
  exact ((evaluator.eval_coalescing catalog store.resource projection bookFields book stored hkeys
    fun b hb => joinsNotOnId (.of_reaches hb)).1 _).2 (by rfl)

end Bookshelf

end DocQuery
