import DocQuery.Proofs.DirectEvaluation
import DocQuery.Proofs.Fitting
import DocQuery.Proofs.Rendering
import DocQuery.Proofs.Settling

/-!
# Walks and passes that do not fail

A validated projection is walked without a failure on every document that conforms to the schema it
was validated against, where every collection answers with documents that conform to the schema that
is declared for it, and no field type turns away a value on its way out.

* `Catalog.Reliable` — what is relied on of collections and field types.
* `Request.Safe`, `Draft.Sound` — a request whose answer can be walked some levels down, and a draft
  of such requests.
* `Projection.exists_draft` — the walk of a document succeeds, and leaves safe requests.
* `Passes.exists_settle` — passes answer safe requests.
-/

set_option autoImplicit false

namespace DocQuery

/-- The documents of an answer conform to a schema, which is the one that comes with them. -/
def Resolved.Conforms (answer : Resolved) (fields : Schema) : Prop :=
  answer.fields = fields ∧ ∀ doc ∈ answer.items, fields.Admits doc

variable [RegexEngine]

/-- What is relied on, for the fields of a schema and of all schemas that it leads to. -/
structure Catalog.Reliable (catalog : Catalog) (resolver : Resolver) (root : Schema) : Prop where
  /-- No field type turns away a value on its way out. -/
  total {sub : Schema} {name : String} {f : Field} :
    catalog.Reaches root sub → Schema.lookup sub name = some f → f.Total
  /-- Every collection answers with documents that conform to the declared schema. -/
  answers {sub : Schema} {name : String} {f : Field} {path target : String} :
    catalog.Reaches root sub → Schema.lookup sub name = some f → f.target? = some (path, target) →
      ∀ q, ∃ answer, resolver path q = .ok answer ∧ answer.Conforms (catalog.schema target)

omit [RegexEngine] in
theorem Field.childFields_of_target? {catalog : Catalog} {f : Field} {path target : String}
    (h : f.target? = some (path, target)) :
    f.childFields catalog = some (catalog.schema target) := by
  unfold target? at h
  split at h <;> cases h <;> rfl

/-- A request whose answer can be walked, with fewer levels of projection than `levels`. -/
structure Request.Safe (ps : Passes) (root : Schema) (levels : Nat) (r : Request) : Prop where
  total : r.transform.Total
  depth_lt : Projection.depth r.query.projection < levels
  answered : ∃ fields, ps.scope.catalog.Reaches root fields ∧
    r.query.projection.Fits ps.scope.catalog fields ∧
      ∀ q, ∃ answer, ps.resolver r.path q = .ok answer ∧ answer.Conforms fields

theorem Request.Safe.mono {ps : Passes} {root : Schema} {n m : Nat} {r : Request}
    (h : r.Safe ps root n) (hnm : n ≤ m) : r.Safe ps root m :=
  ⟨h.total, Nat.lt_of_lt_of_le h.depth_lt hnm, h.answered⟩

variable {ps : Passes} {root : Schema} {n : Nat}

/-! ## Drafts -/

namespace Draft

/-- A draft that can be rendered once its requests are answered, all of which are safe. -/
def Sound (ps : Passes) (root : Schema) (levels : Nat) (d : Draft Request) : Prop :=
  d.Renders ∧ ∀ r ∈ d.requests, r.Safe ps root levels

theorem sound_value (v : Value) : (value v : Draft Request).Sound ps root n := ⟨trivial, nofun⟩

theorem sound_pending {r : Request} (h : r.Safe ps root n) : (pending r).Sound ps root n :=
  ⟨trivial, fun _ hu => List.mem_singleton.1 hu ▸ h⟩

theorem Sound.transformed {d : Draft Request} {t : Transform} (h : d.Sound ps root n)
    (ht : t.Total) : (transformed d t).Sound ps root n :=
  ⟨⟨h.1, ht⟩, h.2⟩

theorem Sound.mono {m : Nat} {d : Draft Request} (h : d.Sound ps root n) (hnm : n ≤ m) :
    d.Sound ps root m :=
  ⟨h.1, fun r hr => (h.2 r hr).mono hnm⟩

theorem sound_list {items : List (Draft Request)} (h : ∀ d ∈ items, d.Sound ps root n) :
    (list items).Sound ps root n := by
  refine ⟨rendersItems_iff.2 fun d hd => (h d hd).1, fun r hr => ?_⟩
  rw [requests, requestsOfItems_eq_flatMap] at hr
  obtain ⟨d, hd, hr⟩ := List.mem_flatMap.1 hr
  exact (h d hd).2 r hr

theorem sound_document {writes : Writes Request} (h : ∀ w ∈ writes, w.2.Sound ps root n) :
    (document writes).Sound ps root n := by
  refine ⟨rendersWrites_iff.2 fun w hw => (h w hw).1, fun r hr => ?_⟩
  rw [requests, requestsOfWrites_eq_flatMap] at hr
  obtain ⟨w, hw, hr⟩ := List.mem_flatMap.1 hr
  exact (h w hw).2 r hr

theorem Sound.of_mem_writes {writes : Writes Request} (h : (document writes).Sound ps root n)
    {w : String × Draft Request} (hw : w ∈ writes) : w.2.Sound ps root n := by
  refine ⟨rendersWrites_iff.1 h.1 w hw, fun r hr => h.2 r ?_⟩
  rw [requests, requestsOfWrites_eq_flatMap]
  exact List.mem_flatMap.2 ⟨w, hw, hr⟩

theorem sound_flatten {parts : List (Writes Request)}
    (h : ∀ writes ∈ parts, (document writes).Sound ps root n) :
    (document parts.flatten).Sound ps root n := by
  refine sound_document fun w hw => ?_
  obtain ⟨writes, hwrites, hw⟩ := List.mem_flatten.1 hw
  exact (h writes hwrites).of_mem_writes hw

/-- A list is drafted where its items are. -/
theorem exists_list {α : Type} {g : α → Except Error (Draft Request)} {items : List α}
    (h : ∀ a ∈ items, ∃ d, g a = .ok d ∧ d.Sound ps root n) :
    ∃ d, (items.mapM g).map list = .ok d ∧ d.Sound ps root n := by
  obtain ⟨ds, hds, hsound⟩ := exists_mapM h
  exact ⟨list ds, by rw [hds]; rfl, sound_list hsound⟩

theorem exists_transformed {x : Except Error (Draft Request)} {t : Transform}
    (h : ∃ d, x = .ok d ∧ d.Sound ps root n) (ht : t.Total) :
    ∃ d, x.map (transformed · t) = .ok d ∧ d.Sound ps root n := by
  obtain ⟨d, rfl, hd⟩ := h
  exact ⟨_, rfl, hd.transformed ht⟩

theorem exists_underField {x : Except Error (Writes Request)} (parent : String)
    (h : ∃ writes, x = .ok writes ∧ (document writes).Sound ps root n) :
    ∃ d, (underField parent x).map document = .ok d ∧ d.Sound ps root n := by
  obtain ⟨writes, rfl, hw⟩ := h
  exact ⟨_, rfl, hw⟩

end Draft

/-! ## The walk of a document -/

/-- A connection asks for its documents where the document has an id and its parameters can be
read. -/
theorem Request.exists_ofConnection {scope : Scope} {s : Selection} {f : Field}
    {path field target : String} {doc : Document} {id : Value}
    (hid : Assoc.get? doc "id" = some id) (h : s.Narrows (scope.catalog.schema target)) :
    ∃ r, ofConnection scope s f path field target doc = .ok r ∧ r.path = path ∧
      r.query.projection = s.children.getD [] ∧ r.transform = .ofSelection s (some f) := by
  obtain ⟨⟨filter, hfilter⟩, order, horder⟩ := h
  refine ⟨⟨path, ⟨s.children.getD [], .equal field id :: filter, order, windowOf scope s⟩, s.name,
    .ofSelection s (some f), .all⟩, ?_, rfl, rfl, rfl⟩
  unfold ofConnection connectionQuery
  rw [hid]
  simp only [hfilter, horder]
  rfl

namespace Branch

variable {b : Branch (Draft Request)} {f : Field} {v : Value}

/-- What is below a branch can be walked on every document of a schema. -/
def WalksBelow (b : Branch (Draft Request)) (ps : Passes) (root : Schema) (levels : Nat)
    (sub : Schema) : Prop :=
  ∀ doc, sub.Admits doc → ∃ writes, b.below doc sub = .ok writes ∧
    (Draft.document writes).Sound ps root levels

/-- What a branch asks a collection for is safe. -/
def AsksSafely (b : Branch (Draft Request)) (ps : Passes) (root : Schema) (levels : Nat)
    (f : Field) : Prop :=
  ∀ path target, f.target? = some (path, target) → ∀ r : Request, r.path = path →
    r.query.projection = b.selection.children.getD [] → r.transform.Total → r.Safe ps root levels

theorem exists_draftWhole {s : Selection} {f : Option Field}
    (ht : (Transform.ofSelection s f).Total) (v : Value) :
    ∃ d, ((Transform.ofSelection s f).apply v).map Draft.value = .ok d ∧
      d.Sound ps root n := by
  obtain ⟨w, hw⟩ := ht v
  exact ⟨.value w, by rw [hw]; rfl, Draft.sound_value w⟩

theorem exists_draftDocument {sub : Schema} {doc : Document} (hf : f.capabilities.Total)
    (hbelow : b.WalksBelow ps root n sub) (hdoc : sub.Admits doc) :
    ∃ d, b.draftDocument f sub (.object doc) = .ok d ∧ d.Sound ps root n := by
  obtain ⟨writes, hw, hsound⟩ := hbelow doc hdoc
  refine ⟨_, ?_, hsound.transformed (Transform.total_ofSelection hf b.selection)⟩
  rw [draftDocument, hw]
  rfl

/-- A list that a field describes is shown with a projection of its own. -/
theorem exists_draftItems {children : Projection} {element : Field} {items : List Value}
    (hdrafts : ∃ d, b.draftItems children element items = .ok d ∧ d.Sound ps root n)
    {capabilities : Capabilities} (hf : capabilities.Total) :
    ∃ d, b.draftChildren children (.mk capabilities (.array element)) (.array items) = .ok d ∧
      d.Sound ps root n :=
  Draft.exists_transformed hdrafts
    (Transform.total_ofSelection (f := .mk capabilities (.array element)) hf b.selection)

/-- A value that a field describes is shown with a projection of its own, where the field leads to
documents. -/
theorem exists_draftChildren {children : Projection} {sub : Schema} {catalog : Catalog}
    (hc : b.selection.children = some children) (hf : f.Total) (hv : f.Admits v)
    (hnull : v.isNull = false) (hsub : f.childFields catalog = some sub)
    (hstored : ∀ path field target, f.kind ≠ .connection path field target)
    (hbelow : b.WalksBelow ps root n sub) (hasks : b.AsksSafely ps root n f) :
    ∃ d, b.draftChildren children f v = .ok d ∧ d.Sound ps root n := by
  cases hv with
  | null => cases hnull
  | document doc_admitted =>
    cases hsub
    exact exists_draftDocument hf.own hbelow doc_admitted
  | @documents capabilities element fields docs docs_admitted =>
    cases hsub
    refine exists_draftItems ?_ hf.own
    rw [draftItems]
    refine Draft.exists_list fun v hv => ?_
    obtain ⟨doc, hdoc, rfl⟩ := List.mem_map.1 hv
    exact exists_draftDocument (hf.element _ rfl) hbelow (docs_admitted doc hdoc)
  | @ids capabilities element path target items =>
    refine exists_draftItems ?_ hf.own
    rw [draftItems]
    simp only
    split
    · exact ⟨_, rfl, Draft.sound_list (List.forall_mem_nil _)⟩
    · refine ⟨_, rfl, Draft.sound_pending (hasks path target rfl _ rfl ?_ ?_)⟩
      · rw [hc]
        rfl
      · exact Transform.total_ofSelection (hf.element _ rfl) b.selection
  | plain unstructured =>
    obtain ⟨capabilities, kind⟩ := f
    cases kind with
    | scalar => cases hsub
    | object fields => cases unstructured
    | array element =>
      obtain ⟨c, kind⟩ := element
      cases kind with
      | object fields | reference path target => cases unstructured
      | _ => cases hsub
    | reference path target =>
      refine ⟨_, rfl, Draft.sound_pending (hasks path target rfl _ rfl ?_ ?_)⟩
      · rw [hc]
        rfl
      · exact Transform.total_ofSelection hf.own b.selection
    | connection path field target => exact absurd rfl (hstored path field target)

/-- A value that a field describes is shown, whole or with a projection of its own. -/
theorem exists_draftValue {catalog : Catalog} (hf : f.Total) (hv : f.Admits v)
    (hstored : ∀ path field target, f.kind ≠ .connection path field target)
    (hleads : ∀ children, b.selection.children = some children →
      ∃ sub, f.childFields catalog = some sub ∧ b.WalksBelow ps root n sub ∧
        b.AsksSafely ps root n f) :
    ∃ d, b.draftValue (some f) v = .ok d ∧ d.Sound ps root n := by
  have hwhole : ∃ d, ((Transform.ofSelection b.selection (some f)).apply v).map Draft.value =
      .ok d ∧ d.Sound ps root n :=
    exists_draftWhole (Transform.total_ofSelection hf.own b.selection) v
  unfold draftValue
  cases hc : b.selection.children with
  | none => exact hwhole
  | some children =>
    obtain ⟨sub, hsub, hbelow, hasks⟩ := hleads children hc
    cases hnull : v.isNull with
    | true => exact hwhole
    | false => exact exists_draftChildren hc hf hv hnull hsub hstored hbelow hasks

theorem exists_draftStored {f : Option Field} {doc : Document}
    (h : ∀ v, Assoc.get? doc b.selection.name = some v →
      ∃ d, b.draftValue f v = .ok d ∧ d.Sound ps root n) :
    ∃ writes, b.draftStored f doc = .ok writes ∧ (Draft.document writes).Sound ps root n := by
  rcases b.draftStored_cases f doc with ⟨-, heq⟩ | ⟨v, hv, heq⟩ <;> rw [heq]
  · exact ⟨[], rfl, Draft.sound_document (List.forall_mem_nil _)⟩
  · obtain ⟨d, hd, hsound⟩ := h v hv
    refine ⟨_, map_eq_ok_iff.2 ⟨d, hd, rfl⟩, Draft.sound_document fun w hw => ?_⟩
    rw [List.mem_singleton.1 hw]
    exact hsound

/-- What a selection writes of a conforming document. -/
theorem exists_draft {doc : Document} {fields : Schema} (hdoc : fields.Admits doc)
    (htotal : ∀ f, Schema.lookup fields b.selection.name = some f → f.Total)
    (hunknown : Schema.lookup fields b.selection.name = none → b.selection.children = none)
    (hleads : ∀ f, Schema.lookup fields b.selection.name = some f →
      ∀ children, b.selection.children = some children →
        ∃ sub, f.childFields ps.scope.catalog = some sub ∧ b.WalksBelow ps root n sub ∧
          b.AsksSafely ps root n f)
    (hconnects : ∀ f, Schema.lookup fields b.selection.name = some f →
      ∀ path field target, f.kind = .connection path field target →
        b.selection.Narrows (ps.scope.catalog.schema target) ∧ b.AsksSafely ps root n f) :
    ∃ writes, b.draft ps.scope doc fields = .ok writes ∧
      (Draft.document writes).Sound ps root n := by
  obtain ⟨values, -, has_id⟩ := hdoc
  rcases draft_cases ps.scope b fields with ⟨hf, heq⟩ | ⟨f, hf, ⟨-, heq⟩ | ⟨-,
    ⟨path, field, target, hkind, heq⟩ | ⟨hstored, heq⟩⟩⟩ <;> rw [heq]
  · refine exists_draftStored fun v _ => ?_
    rw [draftValue, hunknown hf]
    exact exists_draftWhole (Transform.total_ofSelection_none b.selection) v
  · exact ⟨[], rfl, Draft.sound_document (List.forall_mem_nil _)⟩
  · obtain ⟨id, hid⟩ := has_id _ f path field target hf hkind
    obtain ⟨hnarrows, hasks⟩ := hconnects f hf path field target hkind
    obtain ⟨r, hr, hpath, hprojection, htransform⟩ :=
      @Request.exists_ofConnection _ _ _ f path field _ _ _ hid hnarrows
    have htarget : f.target? = some (path, target) := by
      obtain ⟨capabilities, kind⟩ := f
      cases hkind
      rfl
    have hsafe : r.Safe ps root n := hasks path target htarget r hpath hprojection
      (htransform ▸ Transform.total_ofSelection (htotal f hf).own b.selection)
    refine ⟨_, map_eq_ok_iff.2 ⟨r, hr, rfl⟩, Draft.sound_document fun w hw => ?_⟩
    rw [List.mem_singleton.1 hw]
    exact Draft.sound_pending hsafe
  · refine exists_draftStored fun v hv => ?_
    exact exists_draftValue (htotal f hf) (values _ v f hv hf) hstored (hleads f hf)

end Branch

namespace Projection

omit [RegexEngine] in
/-- A projection with one `*` at most stands for some selections: for those of its own and, where it
is empty or has a `*`, for keys of the document, shown whole. -/
theorem exists_expand {p : Projection} (one : p.countP (·.isWildcard) ≤ 1)
    (bare : ∀ s ∈ p, s.isWildcard = true → s.children = none) (doc : Document) :
    ∃ ss, p.expand doc = .ok ss ∧ ∀ s ∈ ss,
      (s ∈ p ∧ s.isWildcard = false) ∨ s.name ∈ Assoc.keys doc ∧ s.children = none := by
  have hss : ∃ ss, p.expand doc = .ok ss := by
    unfold expand
    rw [if_neg (Nat.not_lt.2 one)]
    split <;> exact ⟨_, rfl⟩
  obtain ⟨ss, hss⟩ := hss
  refine ⟨ss, hss, fun s hs => ?_⟩
  rcases mem_expand hss hs with hown | ⟨hkey, hnone | ⟨star, hstar, hwild, hsame⟩⟩
  · exact .inl hown
  · exact .inr ⟨hkey, hnone⟩
  · exact .inr ⟨hkey, hsame.trans (bare star hstar hwild)⟩

variable {p : Projection} {doc : Document} {fields : Schema}

/-- What the walk of a fitting projection asks for below a field of its own is answered. -/
theorem Fits.asksSafely (h : p.Fits ps.scope.catalog fields)
    (hrel : ps.scope.catalog.Reliable ps.resolver root)
    (hreach : ps.scope.catalog.Reaches root fields) {s : Selection} (hs : s ∈ p) {f : Field}
    (hf : Schema.lookup fields s.name = some f) :
    (branch ps.scope s).AsksSafely ps root (depth p) f := by
  obtain ⟨-, -, -, below⟩ := h
  intro path target htarget r hpath hprojection htotal
  rw [branch_selection] at hprojection
  have hsub := @Field.childFields_of_target? ps.scope.catalog _ _ _ htarget
  refine ⟨htotal, ?_, _, hreach.tail ⟨s.name, f, hf, hsub⟩, ?_, fun q => ?_⟩
  · rw [hprojection, depth_getD_children]
    exact depthBelow_lt_of_mem hs
  · rw [hprojection]
    cases hc : s.children with
    | none => exact fits_nil _ _
    | some children => exact below s hs f children _ hf hc hsub
  · rw [hpath]
    exact hrel.answers hreach hf htarget q

/-- **The walk of a conforming document succeeds**, and leaves requests that are safe with fewer
levels than the projection has. -/
theorem exists_draft (hrel : ps.scope.catalog.Reliable ps.resolver root)
    (hreach : ps.scope.catalog.Reaches root fields) (hp : p.Fits ps.scope.catalog fields)
    (hdoc : fields.Admits doc) :
    ∃ writes, p.draft ps.scope doc fields = .ok writes ∧
      (Draft.document writes).Sound ps root (depth p) := by
  induction hn : depth p using Nat.strongRecOn generalizing p doc fields with
  | ind n ih =>
    have hfits := hp
    obtain ⟨one, bare, known, below⟩ := hp
    obtain ⟨values, stores_no_connection, has_id⟩ := hdoc
    obtain ⟨ss, hss, hmem⟩ := exists_expand one bare doc
    have hasks : ∀ {s}, s ∈ p → ∀ {f}, Schema.lookup fields s.name = some f →
        (branch ps.scope s).AsksSafely ps root n f :=
      fun hs _ hf => hn ▸ hfits.asksSafely hrel hreach hs hf
    have hselection : ∀ s ∈ ss, ∃ writes, (branch ps.scope s).draft ps.scope doc fields =
        .ok writes ∧ (Draft.document writes).Sound ps root n := by
      intro s hs
      apply Branch.exists_draft ⟨values, stores_no_connection, has_id⟩
      all_goals rw [branch_selection]
      · exact fun f hf => hrel.total hreach hf
      -- A key that an empty projection or a `*` stands for may be undeclared: it is shown whole.
      · intro hf
        rcases hmem s hs with ⟨hown, hwild⟩ | ⟨-, hnone⟩
        · obtain ⟨f, hsuits⟩ := known s hown hwild
          cases hf.symm.trans hsuits.declared
        · exact hnone
      · intro f hf children hc
        rcases hmem s hs with ⟨hown, hwild⟩ | ⟨-, hnone⟩
        · obtain ⟨sub, hsub⟩ := (hfits.suits hown hwild hf).leads children hc
          refine ⟨sub, hsub, fun doc hdoc => ?_, hasks hown hf⟩
          have hlt : depth children < n := by
            rw [← hn, ← depthBelow_of_children hc]
            exact depthBelow_lt_of_mem hown
          obtain ⟨writes, hw, hsound⟩ := ih _ hlt (hreach.tail ⟨s.name, f, hf, hsub⟩)
            (below s hown f children sub hf hc hsub) hdoc rfl
          exact ⟨writes, branch_below ps.scope hc ▸ hw, hsound.mono (Nat.le_of_lt hlt)⟩
        · cases hnone.symm.trans hc
      · intro f hf path field target hkind
        rcases hmem s hs with ⟨hown, hwild⟩ | ⟨hkey, -⟩
        · exact ⟨(hfits.suits hown hwild hf).narrows path field target hkind, hasks hown hf⟩
        · exact absurd hkind (stores_no_connection _ hkey f hf path field target)
    obtain ⟨parts, hparts, hsound⟩ := exists_mapM hselection
    refine ⟨parts.flatten, ?_, Draft.sound_flatten hsound⟩
    rw [draft_of_expand hss, hparts]
    rfl

end Projection

/-! ## Passes -/

omit [RegexEngine] in
theorem Resolved.Conforms.only {answer : Resolved} {fields : Schema} (h : answer.Conforms fields)
    (id : Value) : (answer.only id).Conforms fields :=
  ⟨h.1, fun doc hdoc => h.2 doc (List.mem_of_find?_eq_some (Option.mem_toList.1 hdoc))⟩

/-- The answer of a safe request is walked, which leaves requests that are safe with a level
less. -/
theorem Request.exists_resume (hrel : ps.scope.catalog.Reliable ps.resolver root) {r : Request}
    {answer : Resolved} {fields : Schema} (htotal : r.transform.Total)
    (hdepth : Projection.depth r.query.projection < n + 1)
    (hreach : ps.scope.catalog.Reaches root fields)
    (hfits : r.query.projection.Fits ps.scope.catalog fields) (hanswer : answer.Conforms fields) :
    ∃ d, r.resume (Projection.draft ps.scope) answer = .ok d ∧ d.Sound ps root n := by
  obtain ⟨hfields, hdocs⟩ := hanswer
  have hitem : ∀ doc ∈ answer.items, ∃ d,
      (underField r.field (Projection.draft ps.scope r.query.projection doc answer.fields)).map
        Draft.document = .ok d ∧ d.Sound ps root n := by
    intro doc hdoc
    obtain ⟨writes, hw, hsound⟩ := Projection.exists_draft hrel hreach hfits (hdocs doc hdoc)
    exact Draft.exists_underField _
      ⟨writes, hfields ▸ hw, hsound.mono (Nat.le_of_lt_succ hdepth)⟩
  unfold resume
  cases r.pick with
  | first =>
    cases hitems : answer.items with
    | nil => exact ⟨_, rfl, Draft.sound_value .null⟩
    | cons doc docs =>
      exact Draft.exists_transformed (hitem doc (by rw [hitems]; exact List.mem_cons_self)) htotal
  | each ids =>
    refine Draft.exists_list fun doc hdoc => Draft.exists_transformed (hitem doc ?_) htotal
    obtain ⟨id, -, hid⟩ := List.mem_filterMap.1 hdoc
    exact List.mem_of_find?_eq_some hid
  | all =>
    obtain ⟨ds, hds, hsound⟩ := exists_mapM hitem
    refine ⟨_, ?_, (Draft.sound_list hsound).transformed htotal⟩
    simp only [hds]
    rfl

namespace Batch

/-- A waiting request gets the answer, or what the answer holds for its id. -/
theorem mem_answers {b : Batch} {answer : Resolved} {w : Ticket × Resolved}
    (hw : w ∈ b.answers answer) :
    w.1 ∈ b.tickets ∧ (w.2 = answer ∨ ∃ id, w.2 = answer.only id) := by
  refine ⟨b.fst_answers answer ▸ List.mem_map_of_mem hw, ?_⟩
  cases b with
  | single t =>
    rw [List.mem_singleton.1 hw]
    exact .inl rfl
  | shared path waiting =>
    obtain ⟨v, -, rfl⟩ := List.mem_map.1 hw
    exact .inr ⟨v.1, rfl⟩

/-- A lookup for safe requests is answered, and each of them can be resumed. -/
theorem exists_answers (hrel : ps.scope.catalog.Reliable ps.resolver root) {b : Batch}
    (hb : b.WellFormed ps.coalesce) (h : ∀ t ∈ b.tickets, t.1.Safe ps root (n + 1)) :
    ∃ answer, ps.resolver b.lookup.path b.lookup.query = .ok answer ∧
      ∀ w ∈ b.answers answer, ∃ d, w.1.1.resume (Projection.draft ps.scope) w.2 = .ok d ∧
        d.Sound ps root n := by
  have hanswered : ∀ t ∈ b.tickets, ∃ fields, ps.scope.catalog.Reaches root fields ∧
      t.1.query.projection.Fits ps.scope.catalog fields ∧
        ∃ answer, ps.resolver b.lookup.path b.lookup.query = .ok answer ∧
          answer.Conforms fields := by
    intro t ht
    obtain ⟨fields, hreach, hfits, hanswers⟩ := (h t ht).answered
    exact ⟨fields, hreach, hfits, hb.path_eq ht ▸ hanswers b.lookup.query⟩
  obtain ⟨t, ht⟩ := hb.exists_ticket
  obtain ⟨-, -, -, answer, hanswer, -⟩ := hanswered t ht
  refine ⟨answer, hanswer, fun w hw => ?_⟩
  obtain ⟨hticket, hpart⟩ := mem_answers hw
  obtain ⟨fields, hreach, hfits, answer', hanswer', hconforms⟩ := hanswered w.1 hticket
  obtain rfl := Except.ok.inj (hanswer.symm.trans hanswer')
  have hown : w.2.Conforms fields := by
    rcases hpart with heq | ⟨id, heq⟩ <;> rw [heq]
    · exact hconforms
    · exact hconforms.only id
  exact Request.exists_resume hrel (h w.1 hticket).total (h w.1 hticket).depth_lt hreach hfits hown

/-- A lookup for safe requests succeeds, and leaves drafts that are sound. -/
theorem exists_resume (hrel : ps.scope.catalog.Reliable ps.resolver root) {b : Batch}
    (hb : b.WellFormed ps.coalesce) (h : ∀ t ∈ b.tickets, t.1.Safe ps root (n + 1)) :
    ∃ resumed, b.resume ps = .ok resumed ∧ ∀ w ∈ resumed, w.2.Sound ps root n := by
  obtain ⟨answer, hanswer, hresume⟩ := exists_answers hrel hb h
  have hlabelled : ∀ w ∈ b.answers answer, ∃ p,
      ((w.1.1.resume (Projection.draft ps.scope) w.2).map fun d => (w.1.2, d)) = .ok p ∧
        p.2.Sound ps root n := by
    intro w hw
    obtain ⟨d, hd, hsound⟩ := hresume w hw
    exact ⟨_, map_eq_ok_iff.2 ⟨d, hd, rfl⟩, hsound⟩
  obtain ⟨resumed, hresumed, hsound⟩ := exists_mapM hlabelled
  refine ⟨resumed, ?_, hsound⟩
  rw [resume, hanswer]
  exact hresumed

end Batch

namespace Passes

/-- A pass over safe requests succeeds. -/
theorem exists_resumeAll (hrel : ps.scope.catalog.Reliable ps.resolver root) {ts : List Ticket}
    (h : ∀ t ∈ ts, t.1.Safe ps root (n + 1)) :
    ∃ resumed, ps.resumeAll (Batch.ofTickets ps.coalesce ts) = .ok resumed ∧
      ∀ w ∈ resumed, w.2.Sound ps root n := by
  have hbatch : ∀ b ∈ Batch.ofTickets ps.coalesce ts, ∃ resumed, b.resume ps = .ok resumed ∧
      ∀ w ∈ resumed, w.2.Sound ps root n := by
    intro b hb
    refine Batch.exists_resume hrel (Batch.wellFormed_ofTickets ts b hb) fun t ht => h t ?_
    exact (Batch.tickets_ofTickets ps.coalesce ts).subset (List.mem_flatMap.2 ⟨b, hb, ht⟩)
  obtain ⟨parts, hparts, hsound⟩ := exists_mapM hbatch
  refine ⟨parts.flatten, by rw [resumeAll, hparts]; rfl, fun w hw => ?_⟩
  obtain ⟨part, hpart, hw⟩ := List.mem_flatten.1 hw
  exact hsound part hpart w hw

omit [RegexEngine] in
theorem renders_place {drafts : List (Nat × Draft Empty)} (h : ∀ p ∈ drafts, p.2.Renders)
    (k : Nat) : (place drafts k).Renders := by
  unfold place
  cases hfound : drafts.find? fun p => p.1 == k with
  | none => exact trivial
  | some p => exact h p (List.mem_of_find?_eq_some hfound)

/-- **Passes answer safe requests**, as long as there are passes for all levels of their
projections, and the answers can be rendered. -/
theorem exists_settle (hrel : ps.scope.catalog.Reliable ps.resolver root) (limit done : Nat)
    {ts : List Ticket} (h : ∀ t ∈ ts, t.1.Safe ps root limit) :
    ∃ a, (ps.settle limit done ts).result = .ok a ∧ ∀ k, (a.1 k).Renders := by
  induction limit generalizing done ts with
  | zero =>
    cases ts with
    | nil => exact ⟨(place [], done), rfl, fun _ => trivial⟩
    | cons t ts => exact absurd (h t List.mem_cons_self).depth_lt (Nat.not_lt_zero _)
  | succ limit ih =>
    cases ts with
    | nil => exact ⟨(place [], done), rfl, fun _ => trivial⟩
    | cons t ts =>
      -- A pass answers one level: what its answers ask for in turn has a level less.
      obtain ⟨resumed, hresumed, hsound⟩ := exists_resumeAll hrel h
      have hdrafts : ∀ d ∈ resumed.map Prod.snd, d.Sound ps root limit := by
        intro d hd
        obtain ⟨w, hw, rfl⟩ := List.mem_map.1 hd
        exact hsound w hw
      have hnext : ∀ u ∈ Draft.requestsOfItems (Draft.numberItems 0 (resumed.map Prod.snd)),
          u.1.Safe ps root limit := by
        intro u hu
        obtain ⟨d, hd, hr⟩ := Draft.exists_numberItems_iff.1 ⟨u, hu, rfl⟩
        exact (hdrafts d hd).2 _ hr
      obtain ⟨a, ha, hrenders⟩ := ih (done + 1) hnext
      refine ⟨_, by rw [settle_succ_result, hresumed]; exact map_eq_ok_iff.2 ⟨a, ha, rfl⟩, ?_⟩
      refine renders_place fun p hp => ?_
      have hitems : Draft.RendersItems (Draft.numberItems 0 (resumed.map Prod.snd)) :=
        Draft.rendersItems_numberItems (Draft.rendersItems_iff.2 fun d hd => (hdrafts d hd).1)
      have hanswered := (Draft.rendersItems_bindItems_iff (fun u => a.1 u.2) _).2
        ⟨hitems, fun u _ => hrenders u.2⟩
      exact Draft.rendersItems_iff.1 hanswered _ (List.of_mem_zip hp).2

end Passes

end DocQuery
