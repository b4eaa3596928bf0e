import DocQuery.Proofs.Coalescing

/-!
# Getting documents by id is searching for them

A query for ids alone may be answered by getting the documents of the ids, in the order of the ids
and as often as they are asked for, or by searching, in the order of the collection. The two answers
are lists of their own; but whoever asks for ids takes the first document of each id from the
answer, and there they agree.

* `Access.Routes` — ids alone may be got, all else is searched for.
* `Stored.exists_resolve_ids` — an answer to a query for ids holds the first document of each id.
* `Request.ById` — what a request that asks for ids does with the answer.
* `Stored.step_routing` — a request gets the same on every route.
* `Evaluator.eval_multiGet_eq_find` — so does a whole evaluation.
-/

set_option autoImplicit false

namespace DocQuery

/-! ## Routes -/

section

variable [RegexEngine]

namespace Access

/-- Ids alone are got at once or searched for, query by query; all else is searched for. -/
def Routes (access : Query → Access) : Prop :=
  ∀ q, access q = .find q ∨ ∃ ids, q.idList? = some ids ∧ access q = .multiGet ids

theorem routes_find : Routes find := fun _ => .inl rfl

theorem routes_ofQuery : Routes ofQuery := by
  intro q
  unfold ofQuery
  cases hids : q.idList? with
  | none => exact .inl rfl
  | some ids => exact .inr ⟨ids, rfl, rfl⟩

/-- What is no query for ids alone is searched for. -/
theorem Routes.eq_find {access : Query → Access} (h : Routes access) {q : Query}
    (hq : q.idList? = none) : access q = .find q := by
  rcases h q with hfind | ⟨ids, hids, -⟩
  · exact hfind
  · rw [hq] at hids
    cases hids

end Access

namespace Query

theorem idList?_ofIds (ids : List Value) : (ofIds ids).idList? = some ids := by
  simp [idList?, isUnordered, ofIds, ofPredicate, Predicate.idList?]

/-- A query for ids alone asks for nothing else. -/
theorem eq_of_idList? {q : Query} {ids : List Value} (h : q.idList? = some ids) :
    q = ⟨q.projection, [.among "id" ids], [], none⟩ := by
  obtain ⟨projection, predicate, order, window⟩ := q
  unfold idList? at h
  split at h
  · rename_i hunordered
    obtain ⟨horder, hwindow⟩ := Bool.and_eq_true_iff.1 hunordered
    obtain rfl : order = [] := List.isEmpty_iff.1 horder
    obtain rfl : window = none := Option.isNone_iff_eq_none.1 hwindow
    replace h : predicate.idList? = some ids := h
    unfold Predicate.idList? at h
    split at h
    · split at h
      · rename_i hfield
        obtain rfl := Option.some.inj h
        rw [hfield]
      · cases h
    · cases h
  · cases h

end Query

/-! ## Answers -/

/-- A search among ids finds every document of one of them. -/
theorem Document.accepts_among_id {doc : Document} (hdoc : doc.Storable) {ids : List Value}
    (hids : ∀ k ∈ ids, k.KeysDistinct) {id : Value} (hid : id.KeysDistinct)
    (hcovers : Batch.Covers ids id) (h : hasId id doc = true) :
    Predicate.accepts [.among "id" ids] doc = true := by
  obtain ⟨k, hk, hsame⟩ := hcovers
  rw [← hasId_congr (hids k hk) hid hsame] at h
  have hlookup : lookup doc "id" = Assoc.get? doc "id" := rfl
  rw [Predicate.accepts, Expression.acceptsAll, Expression.acceptsAll, Bool.and_true,
    Expression.accepts, valueAt, hlookup]
  unfold hasId at h
  cases hv : Assoc.get? doc "id" with
  | none => rw [hv] at h; cases h
  | some v =>
    rw [hv] at h
    have hkv : k.alike v = true := v.alike_symm k (hdoc.keys.of_get? hv) (hids k hk) h
    have hany : (ids.any fun c => c.alike v) = true := List.any_eq_true.2 ⟨k, hk, hkv⟩
    cases v with
    | array items => exact absurd hv hdoc.plainId
    | _ => exact hany

omit [RegexEngine] in
/-- Leaving out what is not looked for changes nothing. -/
theorem find?_filter_of_forall {α : Type} {p q : α → Bool} {l : List α}
    (h : ∀ a ∈ l, q a = true → p a = true) : (l.filter p).find? q = l.find? q := by
  induction l with
  | nil => rfl
  | cons a l ih =>
    have hrest := ih fun b hb => h b (List.mem_cons_of_mem a hb)
    by_cases hp : p a = true
    · rw [List.filter_cons_of_pos hp, List.find?_cons, List.find?_cons, hrest]
    · have hq : ¬q a = true := fun hq => hp (h a List.mem_cons_self hq)
      rw [List.filter_cons_of_neg hp, List.find?_cons_of_neg hq, hrest]

/-- Among the documents found by a search, the first one of a covered id is that of the id. -/
theorem find?_filter_among {docs : List Document} (hdocs : ∀ doc ∈ docs, doc.Storable)
    {ids : List Value} (hids : ∀ k ∈ ids, k.KeysDistinct) {id : Value} (hid : id.KeysDistinct)
    (hcovers : Batch.Covers ids id) :
    (docs.filter (Predicate.accepts [.among "id" ids])).find? (Document.hasId id) =
      docs.find? (Document.hasId id) := by
  apply find?_filter_of_forall
  intro doc hdoc h
  exact Document.accepts_among_id (hdocs doc hdoc) hids hid hcovers h

namespace Stored

variable {resources : String → Except Error Resource} {access access' : Query → Access}
  {path : String}

/-- **An answer to a query for ids holds the first document of each id**, whichever way it was
come by. -/
theorem exists_resolve_ids (haccess : Access.Routes access) {r : Resource}
    (hr : resources path = .ok r) {docs : List Document} (hdocs : r.Serves docs)
    (hstorable : ∀ doc ∈ docs, doc.Storable) {q : Query} {ids : List Value}
    (hq : q.idList? = some ids) (hids : ∀ k ∈ ids, k.KeysDistinct) :
    ∃ items, Resolver.ofResources resources access path q = .ok ⟨items, r.fields⟩ ∧
      ∀ id, id.KeysDistinct → Batch.Covers ids id →
        items.find? (Document.hasId id) = docs.find? (Document.hasId id) := by
  rw [Resolver.ofResources_of_ok hr]
  rcases haccess q with hfind | ⟨ids', hids', hget⟩
  · rw [hfind, hdocs.read_find]
    refine ⟨_, rfl, ?_⟩
    intro id hid hcovers
    rw [Query.eq_of_idList? hq]
    simp only [Query.apply, SortOrder.apply_nil]
    exact find?_filter_among hstorable hids hid hcovers
  · obtain rfl := Option.some.inj (hq.symm.trans hids')
    rw [hget, hdocs.read_multiGet]
    refine ⟨_, rfl, ?_⟩
    intro id hid hcovers
    exact find?_filterMap_find? (fun doc hdoc => (hstorable doc hdoc).keys) hids hid hcovers

/-- Documents that come back are stored, whichever way. -/
theorem keysDistinct_ofResources (hs : Stored resources) (access : Query → Access) :
    (Resolver.ofResources resources access).KeysDistinct := by
  intro path q answer h doc hdoc
  obtain ⟨r, hr, h⟩ := bind_eq_ok_iff.1 h
  obtain ⟨items, hitems, h⟩ := bind_eq_ok_iff.1 h
  cases h
  obtain ⟨docs, hdocs, hstorable⟩ := hs path r hr
  exact (hstorable doc (hdocs.mem_of_read hitems hdoc)).keys

/-- What an answer holds for an id does not depend on the other ids, whichever way. -/
theorem steadyOn_ofResources (hs : Stored resources) (haccess : Access.Routes access) :
    (Resolver.ofResources resources access).SteadyOn Value.KeysDistinct where
  failure := by
    intro path q answer h q'
    obtain ⟨r, hr, -⟩ := bind_eq_ok_iff.1 h
    obtain ⟨docs, hdocs, -⟩ := hs path r hr
    rw [Resolver.ofResources_of_ok hr]
    cases access q' with
    | find q' => exact ⟨_, by rw [hdocs.read_find]; rfl⟩
    | multiGet ids => exact ⟨_, by rw [hdocs.read_multiGet]; rfl⟩
  entry := by
    intro path ids ids' id answer answer' hids hids' hid hcovers hcovers' h h'
    obtain ⟨r, hr, -⟩ := bind_eq_ok_iff.1 h
    obtain ⟨docs, hdocs, hstorable⟩ := hs path r hr
    obtain ⟨items, hitems, hfind⟩ :=
      exists_resolve_ids haccess hr hdocs hstorable (Query.idList?_ofIds ids) hids
    obtain ⟨items', hitems', hfind'⟩ :=
      exists_resolve_ids haccess hr hdocs hstorable (Query.idList?_ofIds ids') hids'
    cases hitems.symm.trans h
    cases hitems'.symm.trans h'
    unfold Resolved.entry? Resolved.find?
    rw [hfind id hid hcovers, hfind' id hid hcovers']

end Stored

/-! ## Requests by id -/

/-- A request for the documents of ids shows the first one of each, and no id has a key twice. -/
structure Request.ById (r : Request) : Prop where
  single : r.KeysDistinct
  pick {ids : List Value} : r.query.idList? = some ids → r.pick = .each ids
  several {ids : List Value} : r.query.idList? = some ids → ∀ id ∈ ids, id.KeysDistinct

/-- A request that shows the document of each id depends on nothing else of an answer. -/
theorem Request.resume_each {draft : Projection → Document → Schema →
      Except Error (Draft.Writes Request)} {r : Request} {ids : List Value}
    (hr : r.pick = .each ids) {answer answer' : Resolved}
    (hfind : ∀ id ∈ ids, answer.find? id = answer'.find? id)
    (hfields : answer.fields = answer'.fields) :
    r.resume draft answer = r.resume draft answer' := by
  have hitems : ids.filterMap answer.find? = ids.filterMap answer'.find? :=
    List.filterMap_congr hfind
  unfold Request.resume
  rw [hr]
  simp only [hitems, hfields]

omit [RegexEngine] in
/-- An item of a list has no key twice if the list has none. -/
theorem Value.Listed.keysDistinct {v id : Value} (h : v.Listed id) (hv : v.KeysDistinct) :
    id.KeysDistinct := by
  induction h with
  | item hmem => exact hv.of_mem hmem
  | within hmem _ ih => exact ih (hv.of_mem hmem)

/-- A request that a document makes takes the first document of each id that it asks for. -/
theorem Site.Made.byId {scope : Scope} {a : Site} {r : Request} (h : Made scope a r)
    (ha : (Value.object a.doc).KeysDistinct) : r.ById := by
  have hids : ∀ {ids}, r.query.idList? = some ids →
      r.pick = .each ids ∧ ∀ id ∈ ids, id.KeysDistinct := by
    intro ids hids
    have hquery := Query.eq_of_idList? hids
    cases h with
    | reference _ _ _ _ _ => cases hids
    | references _ _ _ stored listed =>
      cases hids
      exact ⟨rfl, fun id hid => (listed id hid).keysDistinct (ha.of_get? stored)⟩
    | connection _ _ _ _ made =>
      obtain ⟨id, filter, order, -, -, -, rfl⟩ := Request.ofConnection_eq_ok made
      cases congrArg Query.predicate hquery
  exact ⟨h.keysDistinct ha, fun h => (hids h).1, fun h => (hids h).2⟩

/-! ## The same on every route -/

namespace Passes

variable {Q : Request → Prop} {step step' : Request → Except Error (Draft Request)}

/-- Requests that are answered alike come to the same, as far down as they are resolved. -/
theorem toOption_resolveWithin_congr
    (closed : ∀ {r d}, Q r → step r = .ok d → ∀ u ∈ d.requests, Q u)
    (h : ∀ r, Q r → step r = step' r) (n : Nat) {r : Request} (hr : Q r) :
    (resolveWithin step n r).toOption = (resolveWithin step' n r).toOption := by
  induction n generalizing r with
  | zero => rfl
  | succ n ih =>
    rw [resolveWithin, resolveWithin, toOption_bind, toOption_bind, ← h r hr]
    apply Option.bind_congr
    intro d hd
    apply Draft.toOption_traverse_congr
    intro u hu
    exact ih (closed hr (toOption_eq_some_iff.1 hd) u hu)

end Passes

namespace Stored

variable {resources : String → Except Error Resource} {access access' : Query → Access}

/-- Requests by id stay such throughout an evaluation. -/
theorem steady_byId (hs : Stored resources) (haccess : Access.Routes access) (scope : Scope)
    (coalesce : Bool) :
    (Passes.mk scope coalesce (Resolver.ofResources resources access)).Steady Value.KeysDistinct
      Request.ById where
  answers := hs.steadyOn_ofResources haccess
  ids hr hid := hr.single _ hid
  closed := by
    intro r d _ hd u hu
    obtain ⟨q, answer, doc, writes, hanswer, hdoc, hw, hu⟩ := Passes.mem_step hd hu
    obtain ⟨b, hb, hmade⟩ := Site.made_of_mem hw hu
    exact hmade.byId (hb.keysDistinct (hs.keysDistinct_ofResources access hanswer doc hdoc))

/-- What is done with an answer to a query for ids comes to the same on every route, if it depends
on the documents of the ids only. -/
theorem bind_routing (hs : Stored resources) (haccess : Access.Routes access)
    (haccess' : Access.Routes access') {path : String} {q : Query} {ids : List Value}
    (hq : q.idList? = some ids) (hids : ∀ k ∈ ids, k.KeysDistinct) {β : Type}
    {f : Resolved → Except Error β}
    (hf : ∀ answer answer' : Resolved, answer.fields = answer'.fields →
      (∀ id, id.KeysDistinct → Batch.Covers ids id → answer.find? id = answer'.find? id) →
        f answer = f answer') :
    (Resolver.ofResources resources access path q).bind f =
      (Resolver.ofResources resources access' path q).bind f := by
  cases hr : resources path with
  | error e => rw [Resolver.ofResources_of_error hr, Resolver.ofResources_of_error hr]
  | ok r =>
    obtain ⟨docs, hdocs, hstorable⟩ := hs path r hr
    obtain ⟨items, hitems, hfind⟩ :=
      exists_resolve_ids haccess hr hdocs hstorable hq hids
    obtain ⟨items', hitems', hfind'⟩ :=
      exists_resolve_ids haccess' hr hdocs hstorable hq hids
    rw [hitems, hitems']
    apply hf ⟨items, r.fields⟩ ⟨items', r.fields⟩ rfl
    intro id hid hcovers
    exact (hfind id hid hcovers).trans (hfind' id hid hcovers).symm

/-- What is no query for ids alone has one route only. -/
theorem resolve_routing (haccess : Access.Routes access) (haccess' : Access.Routes access')
    (path : String) {q : Query} (hq : q.idList? = none) :
    Resolver.ofResources resources access path q =
      Resolver.ofResources resources access' path q := by
  unfold Resolver.ofResources
  rw [haccess.eq_find hq, haccess'.eq_find hq]

/-- A request that is looked up alone gets the same on every route. -/
theorem alone_routing (hs : Stored resources) (haccess : Access.Routes access)
    (haccess' : Access.Routes access') (scope : Scope) (coalesce : Bool) {r : Request}
    (hr : r.ById) :
    (Passes.mk scope coalesce (Resolver.ofResources resources access)).alone r =
      (Passes.mk scope coalesce (Resolver.ofResources resources access')).alone r := by
  cases hids : r.query.idList? with
  | none =>
    unfold Passes.alone
    dsimp only
    rw [resolve_routing haccess haccess' r.path hids]
  | some ids =>
    refine hs.bind_routing haccess haccess' hids (hr.several hids) ?_
    intro answer answer' hfields hfind
    refine Request.resume_each (hr.pick hids) ?_ hfields
    intro id hid
    exact hfind id (hr.several hids id hid) ⟨id, hid, .inl rfl⟩

/-- **A request gets the same on every route.** -/
theorem step_routing (hs : Stored resources) (haccess : Access.Routes access)
    (haccess' : Access.Routes access') (scope : Scope) (coalesce : Bool) {r : Request}
    (hr : r.ById) :
    (Passes.mk scope coalesce (Resolver.ofResources resources access)).step r =
      (Passes.mk scope coalesce (Resolver.ofResources resources access')).step r := by
  unfold Passes.step
  dsimp only
  cases hid : if coalesce then r.query.singleId? else none with
  | some id =>
    have hkeys : id.KeysDistinct := by
      cases coalesce with
      | false => cases hid
      | true => exact hr.single id hid
    refine hs.bind_routing haccess haccess' (Query.idList?_ofIds [id]) (by simpa using hkeys) ?_
    intro answer answer' hfields hfind
    apply Passes.resume_only_congr
    unfold Resolved.entry?
    rw [hfind id hkeys ⟨id, List.mem_singleton_self id, .inl rfl⟩, hfields]
  | none => exact hs.alone_routing haccess haccess' scope coalesce hr

end Stored

namespace Evaluator

/-- An evaluation comes to the same on every route. -/
theorem toOption_eval_routing (e : Evaluator) (catalog : Catalog)
    {resources : String → Except Error Resource} {access access' : Query → Access} (p : Projection)
    (fields : Schema) {doc : Document} (hs : Stored resources) (haccess : Access.Routes access)
    (haccess' : Access.Routes access') (hdoc : (Value.object doc).KeysDistinct) :
    (e.eval catalog (Resolver.ofResources resources access) p fields doc).result.toOption =
      (e.eval catalog (Resolver.ofResources resources access') p fields doc).result.toOption := by
  have hsteady : ∀ {access}, Access.Routes access →
      (e.passes catalog (Resolver.ofResources resources access)).Steady Value.KeysDistinct
        Request.ById :=
    fun haccess => hs.steady_byId haccess _ _
  have hQ : ∀ writes, p.draft ⟨catalog, e.config.connectionLimit⟩ doc fields = .ok writes →
      ∀ r ∈ Draft.requestsOfWrites writes, r.ById := by
    intro writes hw r hr
    obtain ⟨b, hb, hmade⟩ := Site.made_of_mem hw hr
    exact hmade.byId (hb.keysDistinct hdoc)
  rw [e.eval_result catalog _ p fields doc (hsteady haccess).follows_step hQ,
    e.eval_result catalog _ p fields doc (hsteady haccess').follows_step hQ]
  apply Option.bind_congr
  intro writes hw
  rw [Draft.toOption_traverseWrites_congr]
  intro r hr
  refine Passes.toOption_resolveWithin_congr (hsteady haccess).closed ?_ (passLimit p)
    (hQ writes (toOption_eq_some_iff.1 hw) r hr)
  intro r hr
  exact hs.step_routing haccess haccess' _ _ hr

/-- **Getting documents by id is searching for them.** Over resources that hold documents,
evaluation has the same result whether ids alone are got at once or every query is searched for, or
fails in both cases. -/
theorem eval_multiGet_eq_find (e : Evaluator) (catalog : Catalog)
    (resources : String → Except Error Resource) (p : Projection) (fields : Schema)
    (doc : Document) (hs : Stored resources) (hdoc : (Value.object doc).KeysDistinct) :
    let result (access : Query → Access) :=
      (e.eval catalog (Resolver.ofResources resources access) p fields doc).result
    (∀ out, result Access.ofQuery = .ok out ↔ result Access.find = .ok out) ∧
      ((∃ err, result Access.ofQuery = .error err) ↔ ∃ err, result Access.find = .error err) :=
  agree_of_toOption_eq
    (e.toOption_eval_routing catalog p fields hs Access.routes_ofQuery Access.routes_find hdoc)

end Evaluator

end

namespace Bookshelf

def anthologyFields : Schema :=
  [("authors", .mk { } (.array (.mk { } (.reference "/authors" "author")))),
    ("id", .mk { } .scalar)]

/-- A collection by several authors, one of them named twice and one unknown. -/
def anthology : Document :=
  [("id", .string "tales"),
    ("authors", .array [.string "bob", .string "cid", .string "ann", .string "bob"])]

/-- The authors in the order in which they are named, whichever way they were come by. -/
theorem eval_anthology :
    (evaluator.eval catalog (Resolver.ofResources store.resource Access.ofQuery)
        [byName "authors"] anthologyFields anthology).result =
      .ok [("authors", .array [.object [("name", .string "Bob")],
        .object [("name", .string "Ann")], .object [("name", .string "Bob")]])] := by
  have hkeys : (Value.object anthology).KeysDistinct := by
    simp [Value.KeysDistinct, Value.keysDistinctEntries, Value.keysDistinctItems, Assoc.keys,
      anthology]
  exact ((evaluator.eval_multiGet_eq_find catalog store.resource [byName "authors"] anthologyFields
    anthology stored hkeys).1 _).2 (by rfl)

end Bookshelf

end DocQuery
