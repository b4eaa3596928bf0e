import DocQuery.Schema.Basic

/-!
# Documents that conform to a schema

What a schema says of the documents it describes: where a field has fields of its own there is a
document or a list of documents, where it leads to other collections there are ids, and the
documents of a connection are found by the document's own id and never stored. Null is stored under
any field.

* `Schema.Admits`, `Field.Admits` — the documents and values that fields describe.
* `Field.target?` — the collection that a field leads to.
* `Field.Total` — a field type that turns away no value on its way out.
-/

set_option autoImplicit false

namespace DocQuery

namespace Field

/-- Whether the field says of what is stored that it is a document or a list. -/
def isStructured : Field → Bool
  | .mk _ (.object _) => true
  | .mk _ (.array (.mk _ (.object _))) => true
  | .mk _ (.array (.mk _ (.reference _ _))) => true
  | _ => false

/-- The path of the collection that a field or its list leads to, and the schema that is declared
for its documents. -/
def target? : Field → Option (String × String)
  | .mk _ (.reference path target) => some (path, target)
  | .mk _ (.connection path _ target) => some (path, target)
  | .mk _ (.array (.mk _ (.reference path target))) => some (path, target)
  | _ => none

end Field

mutual

/-- The documents that a schema describes. -/
inductive Schema.Admits : Schema → Document → Prop
  | intro {fields : Schema} {doc : Document}
    (values : ∀ key v f, Assoc.get? doc key = some v → Schema.lookup fields key = some f →
      Field.Admits f v)
    (stores_no_connection : ∀ key ∈ Assoc.keys doc, ∀ f, Schema.lookup fields key = some f →
      ∀ path field target, f.kind ≠ .connection path field target)
    (has_id : ∀ name f path field target, Schema.lookup fields name = some f →
      f.kind = .connection path field target → ∃ id, Assoc.get? doc "id" = some id) :
    Schema.Admits fields doc

/-- The values that a field describes. -/
inductive Field.Admits : Field → Value → Prop
  | null {f : Field} : Field.Admits f .null
  | document {capabilities : Capabilities} {fields : Schema} {doc : Document}
    (doc_admitted : Schema.Admits fields doc) :
    Field.Admits (.mk capabilities (.object fields)) (.object doc)
  | documents {capabilities element : Capabilities} {fields : Schema} {docs : List Document}
    (docs_admitted : ∀ doc ∈ docs, Schema.Admits fields doc) :
    Field.Admits (.mk capabilities (.array (.mk element (.object fields))))
      (.array (docs.map .object))
  | ids {capabilities element : Capabilities} {path target : String} {items : List Value} :
    Field.Admits (.mk capabilities (.array (.mk element (.reference path target)))) (.array items)
  | plain {f : Field} {v : Value} (unstructured : f.isStructured = false) : Field.Admits f v

end

/-- The handler and the output form never fail. -/
structure Capabilities.Total (c : Capabilities) : Prop where
  handler : ∀ h, c.handler = some h → ∀ v params, ∃ w, h v params = .ok w
  serializer : ∀ t, c.validator = some t → ∀ v, ∃ w, t.serialize v = .ok w

/-- No value is turned away on its way out, nor an element of a list. -/
structure Field.Total (f : Field) : Prop where
  own : f.capabilities.Total
  element : ∀ e, f.kind = .array e → e.capabilities.Total

end DocQuery
