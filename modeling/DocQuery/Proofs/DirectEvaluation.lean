import DocQuery.Proofs.Displaying
import DocQuery.Proofs.Settling
import DocQuery.Store

/-!
# Evaluation in passes is direct evaluation

An evaluation that resolves its requests pass after pass comes to what direct evaluation comes to,
which asks on the spot. Requests of a walk go a level down the projection, so that the induction is
on the depth of the projection, and the passes of a request are those of the documents that answer
it.

* `Request.toOption_display` — the value of an answered request, displayed and drafted.
* `Projection.toOption_direct` — direct evaluation is the walk, the resolution of its requests, and
  the rendering.
* `Evaluator.eval_eq_direct` — the two evaluations succeed and fail together.
-/

set_option autoImplicit false

namespace DocQuery

/-! ## One request -/

section

variable [RegexEngine]

/-- An answered request comes to the same, displayed and drafted, if the documents that it shows
do. -/
theorem Request.toOption_display {evaluate : Document → Schema → Except Error Document}
    {draft : Projection → Document → Schema → Except Error (Draft.Writes Request)}
    {ask : Request → Except Error (Draft Empty)} {r : Request} {answer : Resolved}
    (h : ∀ doc ∈ r.pick.documents answer, (evaluate doc answer.fields).toOption =
      (draft r.query.projection doc answer.fields).toOption.bind (Draft.outcomeOfWrites ask)) :
    (r.display evaluate answer).toOption =
      (r.resume draft answer).toOption.bind (Draft.outcome ask) := by
  have hitem : ∀ doc ∈ r.pick.documents answer,
      ((underField r.field (evaluate doc answer.fields)).map Value.object).toOption =
        ((underField r.field (draft r.query.projection doc answer.fields)).map
          Draft.document).toOption.bind (Draft.outcome ask) := by
    intro doc hdoc
    rw [toOption_map, toOption_underField, h doc hdoc, toOption_map, toOption_underField,
      Option.bind_map, Option.map_bind]
    exact Option.bind_congr fun writes _ => (Draft.outcome_document ask writes).symm
  unfold Request.display Request.resume
  cases hpick : r.pick with
  | first =>
    rw [hpick] at hitem
    simp only
    cases hitems : answer.items with
    | nil => rfl
    | cons doc docs =>
      simp only [toOption_bind]
      rw [Draft.outcome_map_transformed, hitem doc (by simp [Pick.documents, hitems])]
  | each ids =>
    rw [hpick] at hitem
    simp only
    rw [Draft.outcome_map_list, toOption_map, toOption_mapM]
    refine congrArg (Option.map _) (mapM_congr fun doc hdoc => ?_)
    rw [Draft.outcome_map_transformed, toOption_bind, hitem doc hdoc]
  | all =>
    rw [hpick, Pick.documents] at hitem
    simp only
    rw [toOption_bind, toOption_mapM, mapM_congr hitem, toOption_map, toOption_mapM,
      Option.bind_map, ← mapM_bind_mapM, Option.bind_assoc]
    apply Option.bind_congr
    intro ds _
    rw [Function.comp_apply, Draft.outcome_transformed, Draft.outcome_list, Option.bind_map]
    rfl

/-! ## All requests of a walk -/

namespace Site

/-- What direct evaluation relies on at every document that it comes across. -/
def Plain (scope : Scope) (resolver : Resolver) (a : Site) : Prop :=
  ∀ b, Reaches scope resolver a b → b.StoresNoConnection ∧ b.WritesOnce scope

variable {scope : Scope} {resolver : Resolver} {a b : Site}

theorem Plain.of_reaches (ha : Plain scope resolver a) (h : Reaches scope resolver a b) :
    Plain scope resolver b := fun _ hc => ha _ (h.trans hc)

/-- The requests of a walk go a level down. -/
theorem Plain.depth_lt (ha : Plain scope resolver a) {writes : Draft.Writes Request}
    (hw : a.projection.draft scope a.doc a.fields = .ok writes) {r : Request}
    (hr : r ∈ Draft.requestsOfWrites writes) :
    Projection.depth r.query.projection < Projection.depth a.projection := by
  obtain ⟨b, hb, hmade⟩ := made_of_mem hw hr
  exact Nat.lt_of_lt_of_le (depth_lt_of_made (ha b hb.reaches).1 hmade) hb.depth_le

end Site

namespace Projection

theorem direct_eq_display (scope : Scope) (resolver : Resolver) (p : Projection) (doc : Document)
    (fields : Schema) :
    ∃ reach, p.direct scope resolver doc fields = p.display reach scope doc fields ∧
      ∀ r : Request, depth r.query.projection < depth p → reach r =
        (resolver r.path r.query).bind (r.display (direct scope resolver r.query.projection)) := by
  rw [direct]
  exact ⟨_, rfl, fun r h => dif_pos h⟩

variable (ps : Passes)

/-- **Direct evaluation is the walk, the resolution of what it asks for, and the rendering**, once
requests may go as many levels down as the projection has. -/
theorem toOption_direct (n : Nat) {p : Projection} {doc : Document} {fields : Schema}
    (ha : Site.Plain ps.scope ps.resolver ⟨p, doc, fields⟩) (hn : depth p ≤ n) :
    (p.direct ps.scope ps.resolver doc fields).toOption =
      (p.draft ps.scope doc fields).toOption.bind
        (Draft.outcomeOfWrites (Passes.resolveWithin ps.alone n)) := by
  induction n using Nat.strongRecOn generalizing p doc fields with
  | ind n ih =>
    classical
    obtain ⟨reach, hdirect, hreach⟩ := direct_eq_display ps.scope ps.resolver p doc fields
    -- A request of the walk is resolved alone; of others nothing needs to be known.
    let Asked (r : Request) : Prop :=
      ∃ writes, p.draft ps.scope doc fields = .ok writes ∧ r ∈ Draft.requestsOfWrites writes
    let ask (r : Request) : Except Error (Draft Empty) :=
      if Asked r then Passes.resolveWithin ps.alone n r else (reach r).map Draft.value
    have hask : ∀ r, (reach r).toOption = Draft.outcome ask (.pending r) := by
      intro r
      rw [Draft.outcome_pending]
      by_cases hr : Asked r
      · simp only [ask, if_pos hr]
        obtain ⟨writes, hw, hr⟩ := hr
        have hlt : depth r.query.projection < depth p := ha.depth_lt hw hr
        obtain ⟨m, rfl⟩ : ∃ m, n = m + 1 := ⟨n - 1, by omega⟩
        rw [hreach r hlt, toOption_bind, Passes.resolveWithin, toOption_bind, Passes.alone,
          toOption_bind, Option.bind_assoc, Option.bind_assoc]
        apply Option.bind_congr
        intro answer hanswer
        -- The projection is less deep for every document that came back.
        apply Request.toOption_display
        intro doc' hdoc'
        refine ih m (by omega) (ha.of_reaches ?_) (by omega)
        exact .answer .self (.intro hw hr (toOption_eq_some_iff.1 hanswer) hdoc')
      · simp only [ask, if_neg hr, toOption_map, Option.bind_map]
        cases reach r <;> rfl
    rw [hdirect, toOption_display hask fun b hb => (ha b hb.reaches).2]
    apply Option.bind_congr
    intro writes hw
    unfold Draft.outcomeOfWrites
    rw [Draft.toOption_traverseWrites_congr]
    intro r hr
    simp only [ask]
    rw [if_pos ⟨writes, toOption_eq_some_iff.1 hw, hr⟩]

end Projection

namespace Evaluator

/-- **Evaluation in passes is direct evaluation.** Without coalescing, and as long as no document
that is come across stores a key declared as a connection or has a key of the output written twice,
both have the same result, or both fail. -/
theorem eval_eq_direct (e : Evaluator) (catalog : Catalog) (resolver : Resolver) (p : Projection)
    (fields : Schema) (doc : Document) (halone : e.config.coalesceReferences = false)
    (hplain : Site.Plain ⟨catalog, e.config.connectionLimit⟩ resolver ⟨p, doc, fields⟩) :
    (∀ out, (e.eval catalog resolver p fields doc).result = .ok out ↔
        p.direct ⟨catalog, e.config.connectionLimit⟩ resolver doc fields = .ok out) ∧
      ((∃ err, (e.eval catalog resolver p fields doc).result = .error err) ↔
        ∃ err, p.direct ⟨catalog, e.config.connectionLimit⟩ resolver doc fields = .error err) := by
  refine agree_of_toOption_eq ?_
  rw [eval_result e catalog resolver p fields doc (Passes.follows_alone halone)
    fun _ _ _ _ => trivial]
  exact (Projection.toOption_direct (e.passes catalog resolver) (passLimit p) hplain
    (Nat.le_add_right _ _)).symm

end Evaluator

/-! ## A book and its authors -/

end

namespace Bookshelf

def bookFields : Schema :=
  [("author", .mk { } (.reference "/authors" "author")),
    ("editor", .mk { } (.reference "/authors" "author")), ("title", .mk { } .scalar)]

def authorFields : Schema :=
  [("books", .mk { } (.connection "/books" "author" "book")), ("name", .mk { } .scalar)]

def book : Document :=
  [("id", .string "tale"), ("title", .string "A tale"), ("author", .string "ann"),
    ("editor", .string "bob")]

def ann : Document := [("id", .string "ann"), ("name", .string "Ann")]

def bob : Document := [("id", .string "bob"), ("name", .string "Bob")]

def authors : List Document := [ann, bob]

def catalog : Catalog := [("author", authorFields), ("book", bookFields)]

def store : Store := [("/authors", { fields := authorFields, docs := authors })]

/-- Somebody by name. -/
def byName (field : String) : Selection := { name := field, children := some [{ name := "name" }] }

def projection : Projection := [{ name := "title" }, byName "author", byName "editor"]

/-- Requests are looked up alone. -/
def evaluator : Evaluator := { config := { coalesceReferences := false } }

def resolver : Resolver := store.resolver Access.ofQuery

def scope : Scope := ⟨catalog, evaluator.config.connectionLimit⟩

/-- What is asked for somebody. -/
def request (field id : String) : Request :=
  .ofReference (byName field) (.mk { } (.reference "/authors" "author")) "/authors"
    [{ name := "name" }] (.string id)

theorem draft_book : projection.draft scope book bookFields =
    .ok [("title", .value (.string "A tale")), ("author", .pending (request "author" "ann")),
      ("editor", .pending (request "editor" "bob"))] := rfl

theorem draft_author {doc : Document} (h : doc ∈ authors) : ∃ name,
    Projection.draft scope [{ name := "name" }] doc authorFields = .ok [("name", .value name)] := by
  rcases List.mem_cons.1 h with rfl | h
  · exact ⟨.string "Ann", rfl⟩
  · rw [List.mem_singleton.1 h]
    exact ⟨.string "Bob", rfl⟩

theorem resolver_request {r : Request} (h : r ∈ [request "author" "ann", request "editor" "bob"]) :
    r.query.projection = [{ name := "name" }] ∧
      ∃ doc ∈ authors, resolver r.path r.query = .ok ⟨[doc], authorFields⟩ := by
  rcases List.mem_cons.1 h with rfl | h
  · exact ⟨rfl, ann, by simp [authors], rfl⟩
  · rw [List.mem_singleton.1 h]
    exact ⟨rfl, bob, by simp [authors], rfl⟩

/-- Evaluation comes across the book and its authors. -/
def Visited (a : Site) : Prop :=
  a = ⟨projection, book, bookFields⟩ ∨
    ∃ doc ∈ authors, a = ⟨[{ name := "name" }], doc, authorFields⟩

theorem Visited.part {a b : Site} (ha : Visited a) (h : Site.Part a b) : Visited b := by
  obtain ⟨hss, hs, hf, -, -, hc, hpart⟩ := h
  rcases ha with rfl | ⟨doc, -, rfl⟩
  · cases hss
    rcases List.mem_cons.1 hs with rfl | hs
    · cases hc
    · rcases List.mem_cons.1 hs with rfl | hs
      · cases hf
        cases hpart
      · obtain rfl := List.mem_singleton.1 hs
        cases hf
        cases hpart
  · cases hss
    obtain rfl := List.mem_singleton.1 hs
    cases hc

theorem Visited.answer {a b : Site} (ha : Visited a) (h : Site.Answer scope resolver a b) :
    Visited b := by
  obtain ⟨hw, hr, hanswer, hdoc⟩ := h
  rcases ha with rfl | ⟨doc, hmem, rfl⟩
  · obtain rfl := Except.ok.inj (draft_book.symm.trans hw)
    obtain ⟨hprojection, doc, hmem, hresolve⟩ := resolver_request hr
    obtain rfl := Except.ok.inj (hresolve.symm.trans hanswer)
    have hpick : _ = doc := List.mem_singleton.1 (Pick.mem_of_mem_documents hdoc)
    exact .inr ⟨doc, hmem, by rw [hprojection, hpick]⟩
  · obtain ⟨name, hdraft⟩ := draft_author hmem
    obtain rfl := Except.ok.inj (hdraft.symm.trans hw)
    cases hr

theorem Visited.of_reaches {a : Site}
    (h : Site.Reaches scope resolver ⟨projection, book, bookFields⟩ a) : Visited a := by
  induction h with
  | self => exact .inl rfl
  | part _ hpart ih => exact ih.part hpart
  | answer _ hanswer ih => exact ih.answer hanswer

theorem plain : Site.Plain scope resolver ⟨projection, book, bookFields⟩ := by
  intro a ha
  rcases Visited.of_reaches ha with rfl | ⟨doc, hmem, rfl⟩
  · constructor
    · intro key hkey f hf path field target
      simp only [Assoc.keys, book, List.map_cons, List.map_nil, List.mem_cons, List.not_mem_nil,
        or_false] at hkey
      rcases hkey with rfl | rfl | rfl | rfl
      · cases hf
      all_goals
        cases hf
        rintro ⟨⟩
    · apply Site.writesOnce_of_outputNames
      intro ss hss
      cases hss
      decide
  · constructor
    · intro key hkey f hf path field target
      have hkeys : Assoc.keys doc = ["id", "name"] := by
        rcases List.mem_cons.1 hmem with rfl | hmem
        · rfl
        · rw [List.mem_singleton.1 hmem]
          rfl
      simp only [hkeys, List.mem_cons, List.not_mem_nil, or_false] at hkey
      rcases hkey with rfl | rfl
      · cases hf
      · cases hf
        rintro ⟨⟩
    · apply Site.writesOnce_of_outputNames
      intro ss hss
      cases hss
      exact List.pairwise_singleton _ _

/-- The book with its authors, evaluated on the spot. -/
theorem direct_book :
    projection.direct scope resolver book bookFields =
      .ok [("title", .string "A tale"), ("author", .object [("name", .string "Ann")]),
        ("editor", .object [("name", .string "Bob")])] :=
  ((evaluator.eval_eq_direct catalog resolver projection bookFields book rfl plain).1 _).1 (by rfl)

end Bookshelf

end DocQuery
