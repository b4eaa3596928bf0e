import DocQuery.Evaluation.Drafting

/-!
# Direct evaluation

The one-phase reading of a projection: wherever the walk of a document meets a reference or a
connection, the resolver is asked on the spot and the walk goes on with the documents that come
back. No draft is built and no request waits for a pass.

* `Branch.display`, `Projection.display` — the walk of a document, given the values of its requests.
* `Request.display` — the value of a request, given the evaluation of the documents that come back.
* `Projection.direct` — direct evaluation; it goes a level down the projection with every request.
* `Site`, `Site.Reaches` — the documents that an evaluation comes across, with the projection and
  the fields that each is evaluated with.
-/

set_option autoImplicit false

namespace DocQuery

variable [RegexEngine]

namespace Branch

variable (reach : Request → Except Error Value)

/-- A value that has to be a document, shown as the field `f` shows it. -/
def displayDocument (b : Branch Value) (f : Field) (fields : Schema) : Value → Except Error Value
  | .object doc => do
    let shown ← underField b.selection.name (b.below doc fields)
    (Transform.ofSelection b.selection (some f)).apply (.object shown)
  | _ => .error (b.selection.failure "invalid value: not a dict")

/-- The items of a list whose elements are documents, references or such lists. -/
def displayItems (b : Branch Value) (children : Projection) :
    Field → List Value → Except Error Value
  | .mk capabilities (.object fields), items =>
    (items.mapM (b.displayDocument (.mk capabilities (.object fields)) fields)).map .array
  | .mk capabilities (.reference path target), items =>
    let ids := items.filter (!·.isNull)
    if ids.isEmpty then .ok (.array [])
    else
      let element := Field.mk capabilities (.reference path target)
      reach (.ofReferences b.selection element path children ids)
  | .mk capabilities (.array element), items =>
    let t := Transform.ofSelection b.selection (some (.mk capabilities (.array element)))
    let item (value : Value) : Except Error Value :=
      match value with
      | .array sub => (displayItems b children element sub).bind t.apply
      | _ => .error (b.selection.failure "invalid value: not an array")
    (items.mapM item).map .array
  | _, _ => .error (b.selection.failure "field has no children")

/-- A value with a projection of its own. -/
def displayChildren (b : Branch Value) (children : Projection) (f : Field) (value : Value) :
    Except Error Value :=
  match f.kind with
  | .object fields => b.displayDocument f fields value
  | .reference path _ => reach (.ofReference b.selection f path children value)
  | .array element =>
    match value with
    | .array items =>
      (b.displayItems reach children element items).bind
        (Transform.ofSelection b.selection (some f)).apply
    | _ => .error (b.selection.failure "invalid value: not an array")
  | _ => .error (b.selection.failure "field has no children")

/-- A stored value; null is shown as it is, whatever is below. -/
def displayValue (b : Branch Value) (f : Option Field) (value : Value) : Except Error Value :=
  let whole := (Transform.ofSelection b.selection f).apply value
  match b.selection.children with
  | none => whole
  | some children =>
    if value.isNull then whole
    else
      match f with
      | none => .error (b.selection.failure "field has no children")
      | some f => b.displayChildren reach children f value

/-- A selected field of a document, if it is stored. -/
def displayStored (b : Branch Value) (f : Option Field) (doc : Document) : Except Error Document :=
  match Assoc.get? doc b.selection.name with
  | none => .ok []
  | some value => (b.displayValue reach f value).map fun v => [(b.selection.outputName, v)]

/-- What a selection shows: nothing for a hidden field, the documents of a connection whether or not
something is stored under its name, else the stored value. -/
def display (scope : Scope) (b : Branch Value) (doc : Document) (fields : Schema) :
    Except Error Document :=
  match Schema.lookup fields b.selection.name with
  | none => b.displayStored reach none doc
  | some f =>
    if f.hidden then .ok []
    else
      match f.kind with
      | .connection path field target => do
        let r ← Request.ofConnection scope b.selection f path field target doc
        (reach r).map fun v => [(b.selection.outputName, v)]
      | _ => b.displayStored reach f doc

/-- The walk of several branches; a key that is shown twice keeps its first place. -/
def displayAll (scope : Scope) (bs : List (Branch Value)) (doc : Document) (fields : Schema) :
    Except Error Document := do
  let bs ← expand bs doc
  let shown ← bs.mapM fun b => b.display reach scope doc fields
  .ok (Assoc.ofWrites shown.flatten)

end Branch

namespace Projection

mutual

/-- A selection with the walk of what is below it. -/
def displayBranch (reach : Request → Except Error Value) (scope : Scope) : Selection → Branch Value
  | ⟨name, shownAs, params, none⟩ => ⟨⟨name, shownAs, params, none⟩, fun _ _ => .ok []⟩
  | ⟨name, shownAs, params, some children⟩ =>
    ⟨⟨name, shownAs, params, some children⟩,
      Branch.displayAll reach scope (displayBranches reach scope children)⟩

def displayBranches (reach : Request → Except Error Value) (scope : Scope) :
    List Selection → List (Branch Value)
  | [] => []
  | s :: r => displayBranch reach scope s :: displayBranches reach scope r

end

/-- What a projection shows of a document, given the values of the requests that it meets. -/
def display (reach : Request → Except Error Value) (scope : Scope) (p : Projection)
    (doc : Document) (fields : Schema) : Except Error Document :=
  Branch.displayAll reach scope (displayBranches reach scope p) doc fields

end Projection

/-- The value of an answered request; `evaluate` is the evaluation of the request's projection. -/
def Request.display (evaluate : Document → Schema → Except Error Document) (r : Request)
    (answer : Resolved) : Except Error Value :=
  let item (doc : Document) : Except Error Value :=
    (underField r.field (evaluate doc answer.fields)).map .object
  match r.pick with
  | .first =>
    match answer.items with
    | [] => .ok .null
    | doc :: _ => (item doc).bind r.transform.apply
  | .each ids =>
    ((ids.filterMap answer.find?).mapM fun doc => (item doc).bind r.transform.apply).map .array
  | .all => (answer.items.mapM item).bind fun docs => r.transform.apply (.array docs)

/-- Direct evaluation of a projection on one document. A request goes a level down; one that does
not comes from a connection among all the keys of a document, where there is no end in sight. -/
def Projection.direct (scope : Scope) (resolver : Resolver) (p : Projection) (doc : Document)
    (fields : Schema) : Except Error Document :=
  let reach (r : Request) : Except Error Value :=
    if _h : Projection.depth r.query.projection < Projection.depth p then do
      let answer ← resolver r.path r.query
      r.display (Projection.direct scope resolver r.query.projection) answer
    else .error (.internal "references without end")
  Projection.display reach scope p doc fields
termination_by Projection.depth p

/-! ## What an evaluation comes across -/

/-- The documents inside a value that a field describes, each with its fields. -/
def Field.parts : Field → Value → List (Document × Schema)
  | .mk _ (.object fields), .object doc => [(doc, fields)]
  | .mk _ (.array element), .array items => items.flatMap (parts element)
  | _, _ => []

omit [RegexEngine] in
@[simp] theorem Field.parts_object (capabilities : Capabilities) (fields : Schema)
    (doc : Document) :
    (Field.mk capabilities (.object fields)).parts (.object doc) = [(doc, fields)] := by
  rw [parts]

omit [RegexEngine] in
@[simp] theorem Field.parts_array (capabilities : Capabilities) (element : Field)
    (items : List Value) :
    (Field.mk capabilities (.array element)).parts (.array items) =
      items.flatMap element.parts := by
  rw [parts]

/-- A projection with a document that it is evaluated on, and the document's fields. -/
structure Site where
  projection : Projection
  doc : Document
  fields : Schema

namespace Site

/-- Evaluation goes down into a stored document. -/
inductive Part : Site → Site → Prop
  | intro {a : Site} {ss : Projection} {s : Selection} {f : Field} {v : Value}
    {children : Projection} {doc : Document} {fields : Schema}
    (expanded : a.projection.expand a.doc = .ok ss) (selected : s ∈ ss)
    (declared : Schema.lookup a.fields s.name = some f) (shown : f.hidden = false)
    (stored : Assoc.get? a.doc s.name = some v) (below : s.children = some children)
    (part : (doc, fields) ∈ f.parts v) : Part a ⟨children, doc, fields⟩

/-- Evaluation goes on with a document that came back for a request. -/
inductive Answer (scope : Scope) (resolver : Resolver) : Site → Site → Prop
  | intro {a : Site} {writes : Draft.Writes Request} {r : Request} {answer : Resolved}
    {doc : Document} (walked : a.projection.draft scope a.doc a.fields = .ok writes)
    (asked : r ∈ Draft.requestsOfWrites writes) (answered : resolver r.path r.query = .ok answer)
    (picked : doc ∈ r.pick.documents answer) :
    Answer scope resolver a ⟨r.query.projection, doc, answer.fields⟩

/-- One site leads to another through stored documents and answers. -/
inductive Reaches (scope : Scope) (resolver : Resolver) (a : Site) : Site → Prop
  | self : Reaches scope resolver a a
  | part {b c : Site} : Reaches scope resolver a b → Part b c → Reaches scope resolver a c
  | answer {b c : Site} :
    Reaches scope resolver a b → Answer scope resolver b c → Reaches scope resolver a c

/-- No key of the document is declared as a connection. -/
def StoresNoConnection (a : Site) : Prop :=
  ∀ key ∈ Assoc.keys a.doc, ∀ f, Schema.lookup a.fields key = some f →
    ∀ path field target, f.kind ≠ .connection path field target

/-- No two fields are written under one key. -/
def WritesOnce (scope : Scope) (a : Site) : Prop :=
  ∀ writes, a.projection.draft scope a.doc a.fields = .ok writes → (writes.map Prod.fst).Nodup

end Site

end DocQuery
