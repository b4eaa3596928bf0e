import DocQuery.Evaluation.Pass
import DocQuery.Proofs.Batches
import DocQuery.Proofs.Requests
import DocQuery.Proofs.Transforms

/-!
# What an evaluation fails at, and what it tells

An evaluation comes from its document to others, down into stored documents and across to those
that come back for a request, and may fail at any of them. The text of a failure starts with names
of the fields on the way.

* `Field.Misshapes`, `Site.Problem` — what may be wrong with a field.
* `Site.Under`, `Site.Asks`, `Site.Fetches` — how evaluation goes from one document to the next.
* `Hop`, `Passes.Way` — the fields on the way from one document to another.
* `Hop.told` — those that a failure tells: from the last field whose documents were fetched.
* `Site.Fault`, `Site.LateFault` — failures of a walk, and of the rendering.
* `Site.outcome_walk` — a walk fails only at one of its faults, and tells all fields on the way to
  it; what it leaves comes from documents on such ways.
-/

set_option autoImplicit false

namespace DocQuery

/-! ## What may be wrong with a field -/

namespace Field

/-- Whether nothing can be below a field. -/
def isLeaf (f : Field) : Bool :=
  match f.kind with
  | .scalar | .connection _ _ _ => true
  | _ => false

/-- A field, and the elements of its lists. -/
def layers : Field → List Field
  | .mk capabilities (.array element) => .mk capabilities (.array element) :: layers element
  | f => [f]

/-- A value is not what a field with a projection of its own needs. -/
inductive Misshapes : Field → Value → String → Prop
  | childless {f : Field} {v : Value} (leaf : f.isLeaf = true) :
    Misshapes f v "field has no children"
  | notDocument {c : Capabilities} {fields : Schema} {v : Value} (other : ∀ doc, v ≠ .object doc) :
    Misshapes (.mk c (.object fields)) v "invalid value: not a dict"
  | notList {c : Capabilities} {element : Field} {v : Value} (other : ∀ items, v ≠ .array items) :
    Misshapes (.mk c (.array element)) v "invalid value: not an array"
  | childlessElements {c : Capabilities} {element : Field} {items : List Value}
    (leaf : element.isLeaf = true) :
    Misshapes (.mk c (.array element)) (.array items) "field has no children"
  | item {c : Capabilities} {element : Field} {items : List Value} {v : Value} {problem : String}
    (mem : v ∈ items) (misshapen : Misshapes element v problem) :
    Misshapes (.mk c (.array element)) (.array items) problem

theorem mem_layers_self (f : Field) : f ∈ f.layers := by
  obtain ⟨capabilities, kind⟩ := f
  cases kind <;> simp [layers]

theorem mem_layers_array {c : Capabilities} {element g : Field} (h : g ∈ element.layers) :
    g ∈ (Field.mk c (.array element)).layers := by
  rw [layers]
  exact List.mem_cons_of_mem _ h

end Field

variable [RegexEngine]

namespace Site

/-- A selection that a site's projection stands for. -/
def Selects (a : Site) (s : Selection) : Prop := ∃ ss, a.projection.expand a.doc = .ok ss ∧ s ∈ ss

/-- A selection of a field that is shown. -/
structure Displays (a : Site) (s : Selection) (f : Field) : Prop where
  selected : a.Selects s
  declared : Schema.lookup a.fields s.name = some f
  visible : f.hidden = false

/-- A stored value with a projection of its own. -/
structure Opens (a : Site) (s : Selection) (children : Projection) (v : Value) : Prop where
  below : s.children = some children
  stored : Assoc.get? a.doc s.name = some v
  present : v.isNull = false

/-- What is wrong with a selection at a site. -/
inductive Problem (scope : Scope) (a : Site) (s : Selection) : String → Prop
  | undeclared {children : Projection} {v : Value} (selected : a.Selects s)
    (unknown : Schema.lookup a.fields s.name = none) (opens : a.Opens s children v) :
    Problem scope a s "field has no children"
  | misshapen {f : Field} {children : Projection} {v : Value} {problem : String}
    (displays : a.Displays s f) (opens : a.Opens s children v)
    (misshapes : f.Misshapes v problem) : Problem scope a s problem
  | refused {f : Field} {v : Value} {problem : String} (displays : a.Displays s f)
    (stored : Assoc.get? a.doc s.name = some v)
    (whole : s.children = none ∨ v.isNull = true)
    (refuses : (Transform.ofSelection s (some f)).Refuses v problem) : Problem scope a s problem
  | lacksId {f : Field} {path field target : String} (displays : a.Displays s f)
    (kind : f.kind = .connection path field target) (lacks : Assoc.get? a.doc "id" = none) :
    Problem scope a s "error applying projection on sub-resource: item lacks ID field"
  | unreadable {f : Field} {path field target problem : String} (displays : a.Displays s f)
    (kind : f.kind = .connection path field target)
    (unread : Request.filterOf s (scope.catalog.schema target) = .error (s.failure problem) ∨
      Request.orderOf s = .error (s.failure problem)) : Problem scope a s problem

/-- What the walk of a site fails at, as it is told at the site itself. -/
inductive Fault (scope : Scope) (a : Site) : String → Prop
  | projection {text : String}
    (unexpanded : a.projection.expand a.doc = .error (.inapplicable text)) : Fault scope a text
  | selection {s : Selection} {problem : String} (wrong : a.Problem scope s problem) :
    Fault scope a (s.name ++ ": " ++ problem)

/-- The transform of a selection at a site, or of the elements of its lists. -/
def Transforms (a : Site) (t : Transform) : Prop :=
  ∃ s f, a.Displays s f ∧ ∃ g ∈ f.layers, t = .ofSelection s (some g)

/-- What the rendering fails at: a transform of the site turns away what is shown below. -/
inductive LateFault (a : Site) : String → Prop
  | intro {t : Transform} {v : Value} {problem : String} (transforms : a.Transforms t)
    (refuses : t.Refuses v problem) : LateFault a (t.name ++ ": " ++ problem)

/-! ## From one document to the next -/

/-- A document stored under a selection. -/
inductive Under (a : Site) (s : Selection) : Site → Prop
  | intro {f : Field} {children : Projection} {v : Value} {doc : Document} {fields : Schema}
    (displays : a.Displays s f) (opens : a.Opens s children v) (part : (doc, fields) ∈ f.parts v) :
    Under a s ⟨children, doc, fields⟩

/-- The requests of a selection at a site. -/
inductive Asks (scope : Scope) (a : Site) (s : Selection) : Request → Prop
  | reference {f : Field} {path target : String} {children : Projection} {id : Value}
    (displays : a.Displays s f) (kind : f.kind = .reference path target)
    (opens : a.Opens s children id) : Asks scope a s (.ofReference s f path children id)
  | references {c : Capabilities} {inner element : Field} {path target : String}
    {children : Projection} {v : Value} {ids : List Value}
    (displays : a.Displays s (.mk c (.array inner))) (layer : element ∈ inner.layers)
    (kind : element.kind = .reference path target) (opens : a.Opens s children v)
    (listed : ∀ id ∈ ids, v.Listed id) : Asks scope a s (.ofReferences s element path children ids)
  | connection {f : Field} {path field target : String} {r : Request} (displays : a.Displays s f)
    (kind : f.kind = .connection path field target)
    (made : Request.ofConnection scope s f path field target a.doc = .ok r) : Asks scope a s r

/-- A document that comes back for a request of a selection, in whatever lookup it waited for. -/
inductive Fetches (ps : Passes) (a : Site) (s : Selection) : Site → Prop
  | intro {t : Ticket} {b : Batch} {answer part : Resolved} {doc : Document}
    (asked : a.Asks ps.scope s t.1) (lookup : b.WellFormed ps.coalesce)
    (answered : ps.resolver b.lookup.path b.lookup.query = .ok answer)
    (given : (t, part) ∈ b.answers answer) (picked : doc ∈ t.1.pick.documents part) :
    Fetches ps a s ⟨t.1.query.projection, doc, part.fields⟩

end Site

/-! ## The way to a document -/

/-- A field on the way: its name, and whether its documents were fetched from elsewhere. -/
structure Hop where
  name : String
  away : Bool
  deriving DecidableEq, Repr

namespace Hop

/-- The names that a failure tells of a way: those from the last field whose documents were
fetched, or all of them where none were. -/
def told : List Hop → List String
  | [] => []
  | hop :: hops => if hops.any away then told hops else (hop :: hops).map name

/-- A failure at the end of a way, as it is told. -/
def tell (hops : List Hop) (fault : String) : String := ".".intercalate (told hops ++ [fault])

omit [RegexEngine] in
/-- **All fields of a way are told** where none but the first fetches its documents. -/
theorem told_eq_map {hops : List Hop} (h : ∀ hop ∈ hops.tail, hop.away = false) :
    told hops = hops.map name := by
  cases hops with
  | nil => rfl
  | cons hop hops =>
    have hnone : hops.any away = false := List.any_eq_false.2 fun hop hmem => by simp [h hop hmem]
    rw [told, hnone, if_neg Bool.false_ne_true]

omit [RegexEngine] in
/-- What lies before the last field that fetches is not told. -/
theorem told_append {before after : List Hop} {n : String}
    (h : ∀ hop ∈ after, hop.away = false) :
    told (before ++ ⟨n, true⟩ :: after) = n :: after.map name := by
  induction before with
  | nil => exact told_eq_map h
  | cons hop before ih =>
    have hsome : (before ++ ⟨n, true⟩ :: after).any away = true := by simp
    rw [List.cons_append, told, hsome, if_pos rfl, ih]

omit [RegexEngine] in
/-- A failure is widened under the field whose name is told before. -/
theorem within_tell {hops hops' : List Hop} {n : String} (h : told hops' = n :: told hops)
    (fault : String) :
    Error.within n (.inapplicable (tell hops fault)) = .inapplicable (tell hops' fault) := by
  have htext : ".".intercalate (n :: (told hops ++ [fault])) =
      n ++ "." ++ ".".intercalate (told hops ++ [fault]) :=
    String.intercalate_cons_of_ne_nil (by simp)
  rw [tell, tell, h, List.cons_append, htext]
  rfl

end Hop

/-- The way that an evaluation comes from one document to another, field by field. -/
inductive Passes.Way (ps : Passes) (a : Site) : List Hop → Site → Prop
  | here : Way ps a [] a
  | stored {hops : List Hop} {b c : Site} {s : Selection} (way : Way ps a hops b)
    (under : b.Under s c) : Way ps a (hops ++ [⟨s.name, false⟩]) c
  | fetched {hops : List Hop} {b c : Site} {s : Selection} (way : Way ps a hops b)
    (fetches : b.Fetches ps s c) : Way ps a (hops ++ [⟨s.name, true⟩]) c

omit [RegexEngine] in
/-- What evaluation goes down to is on the way. -/
theorem Site.Part.under {a b : Site} (h : Part a b) : ∃ s, a.Under s b := by
  cases h with
  | @intro ss s f v children doc fields expanded selected declared shown stored below part =>
    have hpresent : v.isNull = false := by
      cases v with
      | null => simp [Field.parts] at part
      | _ => rfl
    have displays : a.Displays s f := ⟨⟨ss, expanded, selected⟩, declared, shown⟩
    exact ⟨s, .intro displays ⟨below, stored, hpresent⟩ part⟩

theorem Passes.Way.inside {ps : Passes} {a b c : Site} {hops : List Hop} (h : ps.Way a hops b)
    (hinside : Site.Inside b c) : ∃ hops', ps.Way a hops' c := by
  induction hinside with
  | refl => exact ⟨hops, h⟩
  | tail _ hpart ih =>
    obtain ⟨hops', hway⟩ := ih
    obtain ⟨s, hunder⟩ := hpart.under
    exact ⟨_, hway.stored hunder⟩

theorem Passes.Way.trans {ps : Passes} {a b c : Site} {hops hops' : List Hop}
    (hab : ps.Way a hops b) (hbc : ps.Way b hops' c) : ps.Way a (hops ++ hops') c := by
  induction hbc with
  | here => rwa [List.append_nil]
  | stored _ under ih => exact List.append_assoc hops _ _ ▸ ih.stored under
  | fetched _ fetches ih => exact List.append_assoc hops _ _ ▸ ih.fetched fetches

/-! ## What a walk fails at and what it leaves -/

/-- The requests of a draft satisfy `R`, and its transforms `T`. -/
structure Draft.Holds (R : Request → Prop) (T : Transform → Prop) (d : Draft Request) : Prop where
  requests : ∀ r ∈ d.requests, R r
  transforms : ∀ t ∈ d.transforms, T t

namespace Draft

variable {R : Request → Prop} {T : Transform → Prop}

theorem holds_value (v : Value) : (value v : Draft Request).Holds R T := ⟨nofun, nofun⟩

theorem holds_nil : (list [] : Draft Request).Holds R T := ⟨nofun, nofun⟩

theorem holds_pending {r : Request} (h : R r) : (pending r).Holds R T where
  requests := by
    intro u hu
    rw [List.mem_singleton.1 hu]
    exact h
  transforms := nofun

theorem Holds.transformed {d : Draft Request} {t : Transform} (h : d.Holds R T) (ht : T t) :
    (transformed d t).Holds R T where
  requests := h.requests
  transforms := List.forall_mem_append.2 ⟨h.transforms, List.forall_mem_singleton.2 ht⟩

theorem holds_list {items : List (Draft Request)} (h : ∀ d ∈ items, d.Holds R T) :
    (list items).Holds R T where
  requests := by
    intro r hr
    rw [requests, requestsOfItems_eq_flatMap] at hr
    obtain ⟨d, hd, hr⟩ := List.mem_flatMap.1 hr
    exact (h d hd).requests r hr
  transforms := by
    intro t ht
    obtain ⟨d, hd, ht⟩ := mem_transformsOfItems_iff.1 ht
    exact (h d hd).transforms t ht

theorem holds_document_flatten {parts : List (Writes Request)}
    (h : ∀ writes ∈ parts, (document writes).Holds R T) : (document parts.flatten).Holds R T where
  requests := by
    intro r hr
    obtain ⟨writes, hwrites, hr⟩ := mem_requestsOfWrites_flatten.1 hr
    exact (h writes hwrites).requests r hr
  transforms := by
    intro t ht
    obtain ⟨w, hw, ht⟩ := mem_transformsOfWrites_iff.1 ht
    obtain ⟨writes, hwrites, hw⟩ := List.mem_flatten.1 hw
    exact (h writes hwrites).transforms t (mem_transformsOfWrites_iff.2 ⟨w, hw, ht⟩)

theorem holds_document_singleton {key : String} {d : Draft Request} (h : d.Holds R T) :
    (document [(key, d)]).Holds R T where
  requests := by simpa [requests, requestsOfWrites] using h.requests
  transforms := by simpa [transforms, transformsOfWrites] using h.transforms

theorem Holds.mono {R' : Request → Prop} {T' : Transform → Prop} {d : Draft Request}
    (h : d.Holds R T) (hR : ∀ r, R r → R' r) (hT : ∀ t, T t → T' t) : d.Holds R' T' :=
  ⟨fun r hr => hR r (h.requests r hr), fun t ht => hT t (h.transforms t ht)⟩

end Draft

/-! ### One field -/

namespace Branch

/-- What a field with a projection of its own meets in a value: its misshapes fail as `E` allows,
and so do the walks of the documents inside; what they leave satisfies `R` and `T`, and so do the
requests for ids in its lists, and its transforms. -/
structure Meets (b : Branch (Draft Request)) (E : Error → Prop) (R : Request → Prop)
    (T : Transform → Prop) (children : Projection) (f : Field) (v : Value) : Prop where
  misshapes : ∀ problem, f.Misshapes v problem → E (b.selection.failure problem)
  below : ∀ part ∈ f.parts v, Outcome (fun e => E (e.within b.selection.name))
    (fun writes => (Draft.document writes).Holds R T) (b.below part.1 part.2)
  references : ∀ inner, f.kind = .array inner → ∀ element ∈ inner.layers, ∀ path target,
    element.kind = .reference path target → ∀ ids, (∀ id ∈ ids, v.Listed id) →
      R (.ofReferences b.selection element path children ids)
  transforms : ∀ g ∈ f.layers, T (.ofSelection b.selection (some g))

variable {b : Branch (Draft Request)} {E : Error → Prop} {R : Request → Prop}
  {T : Transform → Prop} {children : Projection}

/-- What a list meets, its items do. -/
theorem Meets.item {c : Capabilities} {element : Field} {items : List Value} {v : Value}
    (h : b.Meets E R T children (.mk c (.array element)) (.array items)) (hv : v ∈ items) :
    b.Meets E R T children element v where
  misshapes problem hproblem := h.misshapes problem (.item hv hproblem)
  below part hpart := by
    refine h.below part ?_
    rw [Field.parts_array]
    exact List.mem_flatMap.2 ⟨v, hv, hpart⟩
  references inner hinner g hg path target hkind ids hids := by
    obtain ⟨capabilities, kind⟩ := element
    cases hinner
    exact h.references _ rfl g (Field.mem_layers_array hg) path target hkind ids
      fun id hid => .within hv (hids id hid)
  transforms g hg := h.transforms g (Field.mem_layers_array hg)

theorem outcome_draftDocument {c : Capabilities} {fields : Schema} {v : Value}
    (h : b.Meets E R T children (.mk c (.object fields)) v) :
    Outcome E (Draft.Holds R T) (b.draftDocument (.mk c (.object fields)) fields v) := by
  unfold draftDocument
  split
  · rename_i doc
    refine .map (.underField (h.below (doc, fields) (by simp))) fun writes hwrites => ?_
    exact hwrites.transformed (h.transforms _ (Field.mem_layers_self _))
  · rename_i hother
    exact .error (h.misshapes _ (.notDocument hother))

/-- The items of a list of lists are lists with a projection of their own. -/
theorem draftItems_array {c : Capabilities} {inner : Field} {items : List Value} :
    b.draftItems children (.mk c (.array inner)) items =
      (items.mapM (b.draftChildren children (.mk c (.array inner)))).map .list := by
  rw [draftItems]
  rfl

/-- A list, its items being as they should. -/
theorem outcome_draftList {c : Capabilities} {element : Field} {v : Value}
    (h : b.Meets E R T children (.mk c (.array element)) v)
    (hitems : ∀ items, v = .array items →
      Outcome E (Draft.Holds R T) (b.draftItems children element items)) :
    Outcome E (Draft.Holds R T) (b.draftChildren children (.mk c (.array element)) v) := by
  unfold draftChildren
  dsimp only [Field.kind]
  split
  · rename_i items
    refine .map (hitems items rfl) fun d hd => ?_
    exact hd.transformed (h.transforms _ (Field.mem_layers_self _))
  · rename_i hother
    exact .error (h.misshapes _ (.notList hother))

theorem outcome_draftItems {c : Capabilities} {element : Field} {items : List Value}
    (h : b.Meets E R T children (.mk c (.array element)) (.array items)) :
    Outcome E (Draft.Holds R T) (b.draftItems children element items) := by
  cases element with
  | mk capabilities kind =>
    cases kind with
    | object fields =>
      rw [draftItems]
      exact .map (.mapM fun v hv => outcome_draftDocument (h.item hv)) fun _ => Draft.holds_list
    | reference path target =>
      rw [draftItems]
      dsimp only
      split
      · exact .ok Draft.holds_nil
      · refine .ok (Draft.holds_pending ?_)
        refine h.references _ rfl _ (Field.mem_layers_self _) path target rfl _ fun id hid => ?_
        exact .item (List.mem_filter.1 hid).1
    | array inner =>
      rw [draftItems_array]
      refine .map (.mapM fun v hv => ?_) fun _ => Draft.holds_list
      exact outcome_draftList (h.item hv) fun sub hsub => outcome_draftItems (hsub ▸ h.item hv)
    | scalar => exact .error (h.misshapes _ (.childlessElements rfl))
    | connection path field target => exact .error (h.misshapes _ (.childlessElements rfl))

theorem outcome_draftChildren {f : Field} {v : Value} (h : b.Meets E R T children f v)
    (href : ∀ path target, f.kind = .reference path target →
      R (.ofReference b.selection f path children v)) :
    Outcome E (Draft.Holds R T) (b.draftChildren children f v) := by
  obtain ⟨c, kind⟩ := f
  cases kind with
  | scalar => exact .error (h.misshapes _ (.childless rfl))
  | object fields => exact outcome_draftDocument h
  | array element => exact outcome_draftList h fun items hitems => outcome_draftItems (hitems ▸ h)
  | reference path target => exact .ok (Draft.holds_pending (href path target rfl))
  | connection path field target => exact .error (h.misshapes _ (.childless rfl))

end Branch

/-! ### The request of a connection -/

namespace Request

theorem filterOf_eq_error {s : Selection} {fields : Schema} {e : Error}
    (h : filterOf s fields = .error e) : ∃ problem, e = s.failure problem := by
  unfold filterOf at h
  split at h
  · cases h
  · rename_i text _
    cases hread : (Predicate.parse text).bind fun p => (p.validate fields).toExcept with
    | ok p => rw [hread] at h; cases h
    | error e' =>
      rw [hread] at h
      cases h
      exact ⟨_, rfl⟩

omit [RegexEngine] in
theorem orderOf_eq_error {s : Selection} {e : Error} (h : orderOf s = .error e) :
    ∃ problem, e = s.failure problem := by
  unfold orderOf at h
  split at h
  · cases h
  · rename_i text _
    cases hread : SortOrder.parse text with
    | ok order => rw [hread] at h; cases h
    | error e' =>
      rw [hread] at h
      cases h
      exact ⟨_, rfl⟩

/-- What the request of a connection fails at. -/
theorem ofConnection_eq_error {scope : Scope} {s : Selection} {f : Field}
    {path field target : String} {doc : Document} {e : Error}
    (h : ofConnection scope s f path field target doc = .error e) :
    (Assoc.get? doc "id" = none ∧
        e = s.failure "error applying projection on sub-resource: item lacks ID field") ∨
      ∃ problem, (filterOf s (scope.catalog.schema target) = .error (s.failure problem) ∨
        orderOf s = .error (s.failure problem)) ∧ e = s.failure problem := by
  unfold ofConnection connectionQuery at h
  split at h
  · rename_i lacks
    cases h
    exact .inl ⟨lacks, rfl⟩
  · right
    cases hfilter : filterOf s (scope.catalog.schema target) with
    | error e' =>
      rw [hfilter] at h
      cases h
      obtain ⟨problem, rfl⟩ := filterOf_eq_error hfilter
      exact ⟨problem, .inl rfl, rfl⟩
    | ok filter =>
      cases horder : orderOf s with
      | error e' =>
        rw [hfilter, horder] at h
        cases h
        obtain ⟨problem, rfl⟩ := orderOf_eq_error horder
        exact ⟨problem, .inr rfl, rfl⟩
      | ok order =>
        rw [hfilter, horder] at h
        cases h

end Request

/-! ### One selection -/

namespace Passes

variable (ps : Passes) (a : Site)

/-- What a walk fails at: a fault on a way through stored documents, all fields of which are
told. -/
def Stops (e : Error) : Prop :=
  ∃ hops b fault, ps.Way a hops b ∧ (∀ hop ∈ hops, hop.away = false) ∧ b.Fault ps.scope fault ∧
    e = .inapplicable (Hop.tell hops fault)

/-- A request that is made on the way. -/
def Asked (r : Request) : Prop := ∃ hops b s, ps.Way a hops b ∧ b.Asks ps.scope s r

/-- A transform that is met on the way. -/
def Transforms (t : Transform) : Prop := ∃ hops b, ps.Way a hops b ∧ b.Transforms t

/-- What the walk of a site comes to. -/
abbrev WalkOutcome : Except Error (Draft.Writes Request) → Prop :=
  Outcome (ps.Stops a) fun writes => (Draft.document writes).Holds (ps.Asked a) (ps.Transforms a)

variable {ps : Passes} {a b : Site}

theorem Stops.here {fault : String} (h : a.Fault ps.scope fault) :
    ps.Stops a (.inapplicable fault) := by
  refine ⟨[], a, fault, .here, nofun, h, ?_⟩
  rw [Hop.tell, Hop.told, List.nil_append, String.intercalate_singleton]

theorem Stops.selection {s : Selection} {problem : String} (h : a.Problem ps.scope s problem) :
    ps.Stops a (s.failure problem) :=
  .here (.selection h)

/-- What a walk further inside fails at is told with the field above. -/
theorem Stops.within {s : Selection} {e : Error} (under : a.Under s b) (h : ps.Stops b e) :
    ps.Stops a (e.within s.name) := by
  obtain ⟨hops, c, fault, way, near, faulty, rfl⟩ := h
  have hnear : ∀ hop ∈ ⟨s.name, false⟩ :: hops, hop.away = false :=
    List.forall_mem_cons.2 ⟨rfl, near⟩
  refine ⟨_, c, fault, (Way.here.stored under).trans way, hnear, faulty, ?_⟩
  apply Hop.within_tell
  have htold : Hop.told hops = hops.map Hop.name :=
    Hop.told_eq_map fun hop hmem => near hop (List.mem_of_mem_tail hmem)
  rw [htold]
  exact Hop.told_eq_map near

theorem Asked.of_way {hops : List Hop} {r : Request} (way : ps.Way a hops b)
    (h : ps.Asked b r) : ps.Asked a r := by
  obtain ⟨_, c, s, rest, asks⟩ := h
  exact ⟨_, c, s, way.trans rest, asks⟩

theorem Transforms.of_way {hops : List Hop} {t : Transform} (way : ps.Way a hops b)
    (h : ps.Transforms b t) : ps.Transforms a t := by
  obtain ⟨_, c, rest, shows⟩ := h
  exact ⟨_, c, way.trans rest, shows⟩

end Passes

namespace Site

variable {ps : Passes} {a : Site} {s : Selection} {f : Field}

theorem Displays.transforms (h : a.Displays s f) {g : Field} (hg : g ∈ f.layers) :
    ps.Transforms a (.ofSelection s (some g)) :=
  ⟨[], a, .here, s, f, h, g, hg, rfl⟩

/-- What a displayed field meets in its value, the walks inside being as they should. -/
theorem Displays.meets (h : a.Displays s f) {children : Projection} {v : Value}
    (opens : a.Opens s children v)
    (hunder : ∀ c, a.Under s c →
      ps.WalkOutcome c (c.projection.draft ps.scope c.doc c.fields)) :
    (Projection.branch ps.scope s).Meets (ps.Stops a) (ps.Asked a) (ps.Transforms a) children f
      v where
  misshapes problem hproblem := by
    rw [Projection.branch_selection]
    exact .selection (.misshapen h opens hproblem)
  below := by
    rintro ⟨doc, fields⟩ hpart
    rw [Projection.branch_selection, Projection.branch_below ps.scope opens.below]
    have under : a.Under s ⟨children, doc, fields⟩ := .intro h opens hpart
    have way := (@Passes.Way.here _ ps a).stored under
    refine (hunder _ under).mono (fun e he => he.within under) fun writes hwrites => ?_
    exact hwrites.mono (fun r hr => hr.of_way way) fun t ht => ht.of_way way
  references := by
    intro inner hinner element helement path target hkind ids hids
    rw [Projection.branch_selection]
    obtain ⟨c, kind⟩ := f
    cases hinner
    exact ⟨[], a, s, .here, .references h helement hkind opens hids⟩
  transforms g hg := by
    rw [Projection.branch_selection]
    exact h.transforms hg

/-- A value that is shown whole. -/
theorem Displays.outcome_apply (h : a.Displays s f) {v : Value}
    (stored : Assoc.get? a.doc s.name = some v) (whole : s.children = none ∨ v.isNull = true) :
    Outcome (ps.Stops a) (Draft.Holds (ps.Asked a) (ps.Transforms a))
      (((Transform.ofSelection s (some f)).apply v).map Draft.value) := by
  refine .map ((Transform.outcome_apply _ v).mono (fun e he => ?_) fun _ h => h) fun w _ =>
    Draft.holds_value w
  obtain ⟨problem, refuses, rfl⟩ := he
  exact .selection (.refused h stored whole refuses)

/-- A stored value of a displayed field. -/
theorem Displays.outcome_draftValue (h : a.Displays s f) {v : Value}
    (stored : Assoc.get? a.doc s.name = some v)
    (hunder : ∀ c, a.Under s c →
      ps.WalkOutcome c (c.projection.draft ps.scope c.doc c.fields)) :
    Outcome (ps.Stops a) (Draft.Holds (ps.Asked a) (ps.Transforms a))
      ((Projection.branch ps.scope s).draftValue (some f) v) := by
  unfold Branch.draftValue
  rw [Projection.branch_selection]
  cases hchildren : s.children with
  | none => exact h.outcome_apply stored (.inl hchildren)
  | some children =>
    cases hnull : v.isNull with
    | true => exact h.outcome_apply stored (.inr hnull)
    | false =>
      have opens : a.Opens s children v := ⟨hchildren, stored, hnull⟩
      refine Branch.outcome_draftChildren (h.meets opens hunder) fun path target hkind => ?_
      rw [Projection.branch_selection]
      exact ⟨[], a, s, .here, .reference h hkind opens⟩

/-- A stored value of a field that is not declared. -/
theorem outcome_draftValue_none (selected : a.Selects s)
    (unknown : Schema.lookup a.fields s.name = none) {v : Value}
    (stored : Assoc.get? a.doc s.name = some v) :
    Outcome (ps.Stops a) (Draft.Holds (ps.Asked a) (ps.Transforms a))
      ((Projection.branch ps.scope s).draftValue none v) := by
  unfold Branch.draftValue
  rw [Projection.branch_selection]
  cases hchildren : s.children with
  | none => exact .ok (Draft.holds_value v)
  | some children =>
    cases hnull : v.isNull with
    | true => exact .ok (Draft.holds_value v)
    | false => exact .error (.selection (.undeclared selected unknown ⟨hchildren, stored, hnull⟩))

/-- The stored value of a selection, if there is one. -/
theorem outcome_draftStored {f : Option Field}
    (h : ∀ v, Assoc.get? a.doc s.name = some v →
      Outcome (ps.Stops a) (Draft.Holds (ps.Asked a) (ps.Transforms a))
        ((Projection.branch ps.scope s).draftValue f v)) :
    ps.WalkOutcome a ((Projection.branch ps.scope s).draftStored f a.doc) := by
  rcases (Projection.branch ps.scope s).draftStored_cases f a.doc with ⟨-, heq⟩ | ⟨v, stored, heq⟩
  · rw [heq]
    exact .ok ⟨nofun, nofun⟩
  · rw [Projection.branch_selection] at stored
    rw [heq]
    exact .map (h v stored) fun d => Draft.holds_document_singleton

/-- The request of a connection. -/
theorem Displays.outcome_ofConnection (h : a.Displays s f) {path field target : String}
    (hkind : f.kind = .connection path field target) :
    Outcome (ps.Stops a) (ps.Asked a)
      (Request.ofConnection ps.scope s f path field target a.doc) := by
  cases hmade : Request.ofConnection ps.scope s f path field target a.doc with
  | ok r => exact .ok ⟨[], a, s, .here, .connection h hkind hmade⟩
  | error e =>
    rcases Request.ofConnection_eq_error hmade with ⟨lacks, rfl⟩ | ⟨problem, unread, rfl⟩
    · exact .error (.selection (.lacksId h hkind lacks))
    · exact .error (.selection (.unreadable h hkind unread))

/-- **What a selection fails at and what it leaves**, the walks inside being as they should. -/
theorem outcome_selection (selected : a.Selects s)
    (hunder : ∀ c, a.Under s c →
      ps.WalkOutcome c (c.projection.draft ps.scope c.doc c.fields)) :
    ps.WalkOutcome a ((Projection.branch ps.scope s).draft ps.scope a.doc a.fields) := by
  have hcases := Branch.draft_cases ps.scope (Projection.branch ps.scope s) a.fields
  rw [Projection.branch_selection] at hcases
  rcases hcases with ⟨unknown, heq⟩ | ⟨f, declared, ⟨-, heq⟩ |
    ⟨visible, ⟨path, field, target, hkind, heq⟩ | ⟨-, heq⟩⟩⟩ <;> rw [heq]
  · exact outcome_draftStored fun v => outcome_draftValue_none selected unknown
  · exact .ok ⟨nofun, nofun⟩
  · have displays : a.Displays s f := ⟨selected, declared, visible⟩
    exact .map (displays.outcome_ofConnection hkind) fun r hr =>
      Draft.holds_document_singleton (Draft.holds_pending hr)
  · have displays : a.Displays s f := ⟨selected, declared, visible⟩
    exact outcome_draftStored fun v stored => displays.outcome_draftValue stored hunder

omit [RegexEngine] in
theorem Under.depth_lt {b : Site} (h : a.Under s b) :
    Projection.depth b.projection < Projection.depth a.projection := by
  obtain ⟨⟨⟨ss, expanded, mem⟩, -, -⟩, opens, -⟩ := h
  exact Projection.depth_children_lt expanded mem opens.below

/-- **What a walk fails at and what it leaves.** -/
theorem outcome_walk (ps : Passes) (a : Site) :
    ps.WalkOutcome a (a.projection.draft ps.scope a.doc a.fields) := by
  induction hn : Projection.depth a.projection using Nat.strongRecOn generalizing a with
  | ind n ih =>
    cases hexpand : a.projection.expand a.doc with
    | error e =>
      obtain ⟨-, rfl⟩ := Projection.expand_eq_error hexpand
      rw [Projection.draft_of_expand_error hexpand]
      exact .error (.here (.projection hexpand))
    | ok ss =>
      rw [Projection.draft_of_expand hexpand]
      refine .map (.mapM fun s hs => ?_) fun parts => Draft.holds_document_flatten
      refine outcome_selection ⟨ss, hexpand, hs⟩ fun c under => ?_
      exact ih _ (hn ▸ under.depth_lt) c rfl

end Site

end DocQuery
