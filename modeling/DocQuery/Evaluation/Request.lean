import DocQuery.Evaluation.Draft
import DocQuery.Query

/-!
# Requests for documents of other collections

A reference asks another collection for the document of an id, a list of references for those of
several ids, a connection for the documents that point back. A request keeps the query, and says
which of the documents that come back it shows and how.

* `Request`, `Pick`, `Pick.documents` — what is asked for, and what is shown of the answer.
* `Request.ofReference`, `Request.ofReferences`, `Request.ofConnection` — the requests of a field.
* `Resolved`, `Resolver`, `Request.resume` — an answer, who gives it, and the draft that takes the
  place of the request.
-/

set_option autoImplicit false

namespace DocQuery

/-- What the walk of a projection needs to know besides the document. -/
structure Scope where
  catalog : Catalog
  /-- The items of a connection's page where no parameter says it. -/
  connectionLimit : Int

/-- The documents that came back, with the fields of their collection. -/
structure Resolved where
  items : List Document
  fields : Schema

variable [RegexEngine]

/-- Answers the query of a path. -/
abbrev Resolver := String → Query → Except Error Resolved

/-- Whether a document has an id. -/
def Document.hasId (id : Value) (doc : Document) : Bool :=
  match Assoc.get? doc "id" with
  | some v => v.alike id
  | none => false

namespace Resolved

/-- The first document of an id. -/
def find? (r : Resolved) (id : Value) : Option Document := r.items.find? (Document.hasId id)

/-- The answer for one id. -/
def only (r : Resolved) (id : Value) : Resolved := ⟨(r.find? id).toList, r.fields⟩

end Resolved

/-- What a request shows of the documents that come back. -/
inductive Pick
  /-- The first one, or null. -/
  | first
  /-- The first one of each id; an id without document is left out. -/
  | each (ids : List Value)
  /-- All of them, as a list. -/
  | all

/-- The documents of an answer that are shown. -/
def Pick.documents (answer : Resolved) : Pick → List Document
  | first => answer.items.take 1
  | each ids => ids.filterMap answer.find?
  | all => answer.items

/-- What a field asks another collection for. -/
structure Request where
  path : String
  /-- Its projection is applied to the documents that come back. -/
  query : Query
  /-- The field that asks. -/
  field : String
  transform : Transform
  pick : Pick

/-- A failure at a field. -/
def Selection.failure (s : Selection) (problem : String) : Error :=
  .inapplicable (s.name ++ ": " ++ problem)

namespace Request

/-- The document of one id. -/
def ofReference (s : Selection) (f : Field) (path : String) (children : Projection) (id : Value) :
    Request where
  path := path
  query := { projection := children, predicate := [.equal "id" id] }
  field := s.name
  transform := .ofSelection s (some f)
  pick := .first

/-- The documents of several ids. -/
def ofReferences (s : Selection) (element : Field) (path : String) (children : Projection)
    (ids : List Value) : Request where
  path := path
  query := { projection := children, predicate := [.among "id" ids] }
  field := s.name
  transform := .ofSelection s (some element)
  pick := .each ids

/-- The conditions that a `filter` parameter adds. -/
def filterOf (s : Selection) (fields : Schema) : Except Error Predicate :=
  match (Assoc.get? s.params ConnectionParam.filter.name).bind Value.string? with
  | none => .ok []
  | some text =>
    ((Predicate.parse text).bind fun p => (p.validate fields).toExcept).mapError fun e =>
      s.failure ("invalid filter: " ++ e.message)

/-- The order that a `sort` parameter asks for. -/
def orderOf (s : Selection) : Except Error SortOrder :=
  match (Assoc.get? s.params ConnectionParam.order.name).bind Value.string? with
  | none => .ok []
  | some text => (SortOrder.parse text).mapError fun e => s.failure ("invalid sort: " ++ e.message)

/-- The whole number of a parameter, held within the signed words. -/
def countOf (s : Selection) (param : ConnectionParam) (default : Int) : Int :=
  match (Assoc.get? s.params param.name).bind Value.bound? with
  | some (.finite d) => d.toInt64
  | _ => default

/-- The page that the parameters of a connection ask for. -/
def windowOf (scope : Scope) (s : Selection) : Option Window :=
  Window.page (countOf s .page 1) (countOf s .limit scope.connectionLimit) (countOf s .skip 0)

/-- The query of the documents whose `field` holds `id`, narrowed by the parameters. -/
def connectionQuery (scope : Scope) (s : Selection) (field : String) (target : String)
    (id : Value) : Except Error Query := do
  let filter ← filterOf s (scope.catalog.schema target)
  let order ← orderOf s
  .ok ⟨s.children.getD [], .equal field id :: filter, order, windowOf scope s⟩

/-- The documents of another collection that point at `doc`. -/
def ofConnection (scope : Scope) (s : Selection) (f : Field) (path field target : String)
    (doc : Document) : Except Error Request :=
  match Assoc.get? doc "id" with
  | none => .error (s.failure "error applying projection on sub-resource: item lacks ID field")
  | some id => do
    let query ← connectionQuery scope s field target id
    .ok ⟨path, query, s.name, .ofSelection s (some f), .all⟩

/-- The draft of an answer; `draft` walks a projection over one document. -/
def resume (draft : Projection → Document → Schema → Except Error (Draft.Writes Request))
    (r : Request) (answer : Resolved) : Except Error (Draft Request) :=
  let item (doc : Document) : Except Error (Draft Request) :=
    (underField r.field (draft r.query.projection doc answer.fields)).map .document
  match r.pick with
  | .first =>
    match answer.items with
    | [] => .ok (.value .null)
    | doc :: _ => (item doc).map (.transformed · r.transform)
  | .each ids =>
    ((ids.filterMap answer.find?).mapM fun doc =>
      (item doc).map (.transformed · r.transform)).map .list
  | .all => (answer.items.mapM item).map fun docs => .transformed (.list docs) r.transform

end Request

end DocQuery
