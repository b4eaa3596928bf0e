import DocQuery.Error
import DocQuery.Projection.Basic

/-!
# Drafts of an output

A draft is an output under construction: a tree of values in which the places of documents from
other collections are still pending. Every request of a draft is answered by another draft, which
takes its place; a draft without requests is rendered.

* `Transform` — what a field does to its value on the way out.
* `Draft`, `Draft.requests`, `Draft.bind` — the tree, its pending requests from left to right, and
  answering them.
* `Draft.number` — gives every request a number of its own.
* `Draft.render` — the value of a draft. A key that was written twice shows what was written last,
  in the place of the first.

Main statements: `Draft.requests_bind`, `Draft.requests_number`, `Draft.bind_number`.
-/

set_option autoImplicit false

namespace DocQuery

/-! ## Transforms -/

/-- The handler and the output form of a field, with the parameters that a selection passes. -/
structure Transform where
  name : String
  params : Params
  handler : Option Handler
  serializer : Option Validator

namespace Transform

/-- The transform of a selected field; a field without definition is shown as it is stored. -/
def ofSelection (s : Selection) (f : Option Field) : Transform :=
  ⟨s.name, s.params, f.bind Field.handler, f.bind Field.validator⟩

/-- A failure of the handler or of the output form. -/
def failure (t : Transform) (problem : String) : Error := .inapplicable (t.name ++ ": " ++ problem)

/-- The handler runs only when the selection passes parameters. -/
def handle (t : Transform) (value : Value) : Except Error Value :=
  match t.handler with
  | some h => if t.params.isEmpty then .ok value else (h value t.params).mapError t.failure
  | none => .ok value

def serialize (t : Transform) (value : Value) : Except Error Value :=
  match t.serializer with
  | some v => (v.serialize value).mapError t.failure
  | none => .ok value

/-- The handler, then the output form. -/
def apply (t : Transform) (value : Value) : Except Error Value := do
  t.serialize (← t.handle value)

end Transform

/-! ## Drafts -/

/-- An output with requests of type `ρ` in the places that are still pending. -/
inductive Draft (ρ : Type)
  | value (v : Value)
  /-- The entries in the order in which they were written. -/
  | document (writes : List (String × Draft ρ))
  | list (items : List (Draft ρ))
  | pending (request : ρ)
  /-- Transformed once what is inside is rendered. -/
  | transformed (inner : Draft ρ) (t : Transform)

namespace Draft

variable {ρ σ : Type}

/-- The draft of a document. -/
abbrev Writes (ρ : Type) := List (String × Draft ρ)

mutual

/-- The pending requests from left to right, those of overwritten entries included. -/
def requests : Draft ρ → List ρ
  | value _ => []
  | document writes => requestsOfWrites writes
  | list items => requestsOfItems items
  | pending request => [request]
  | transformed inner _ => inner.requests

def requestsOfWrites : List (String × Draft ρ) → List ρ
  | [] => []
  | (_, d) :: r => d.requests ++ requestsOfWrites r

def requestsOfItems : List (Draft ρ) → List ρ
  | [] => []
  | d :: r => d.requests ++ requestsOfItems r

end

mutual

/-- Puts the answer of every request in its place. -/
def bind (f : ρ → Draft σ) : Draft ρ → Draft σ
  | value v => value v
  | document writes => document (bindWrites f writes)
  | list items => list (bindItems f items)
  | pending request => f request
  | transformed inner t => transformed (bind f inner) t

def bindWrites (f : ρ → Draft σ) : List (String × Draft ρ) → List (String × Draft σ)
  | [] => []
  | (k, d) :: r => (k, bind f d) :: bindWrites f r

def bindItems (f : ρ → Draft σ) : List (Draft ρ) → List (Draft σ)
  | [] => []
  | d :: r => bind f d :: bindItems f r

end

mutual

/-- Numbers the requests from left to right, the first one being `n`. -/
def number (n : Nat) : Draft ρ → Draft (ρ × Nat)
  | value v => value v
  | document writes => document (numberWrites n writes)
  | list items => list (numberItems n items)
  | pending request => pending (request, n)
  | transformed inner t => transformed (number n inner) t

def numberWrites (n : Nat) : List (String × Draft ρ) → List (String × Draft (ρ × Nat))
  | [] => []
  | (k, d) :: r => (k, number n d) :: numberWrites (n + d.requests.length) r

def numberItems (n : Nat) : List (Draft ρ) → List (Draft (ρ × Nat))
  | [] => []
  | d :: r => number n d :: numberItems (n + d.requests.length) r

end

/-- Numbers the requests of several documents on and on. -/
def numberDocuments (n : Nat) : List (Writes ρ) → List (Writes (ρ × Nat))
  | [] => []
  | d :: r => numberWrites n d :: numberDocuments (n + (requestsOfWrites d).length) r

/-- A document once all its entries are rendered; the first failure in the order of keys wins. -/
def gather : Assoc (Except Error Value) → Except Error Document
  | [] => .ok []
  | (k, outcome) :: r => do
    let v ← outcome
    let vs ← gather r
    .ok ((k, v) :: vs)

/-- The items of a list once all are rendered. -/
def gatherItems : List (Except Error Value) → Except Error (List Value)
  | [] => .ok []
  | outcome :: r => do
    let v ← outcome
    let vs ← gatherItems r
    .ok (v :: vs)

mutual

/-- The value of a draft in which nothing is pending. -/
def render : Draft Empty → Except Error Value
  | value v => .ok v
  | document writes => (gather (Assoc.ofWrites (outcomesOfWrites writes))).map .object
  | list items => (gatherItems (outcomesOfItems items)).map .array
  | pending request => nomatch request
  | transformed inner t => inner.render.bind t.apply

def outcomesOfWrites : List (String × Draft Empty) → List (String × Except Error Value)
  | [] => []
  | (k, d) :: r => (k, d.render) :: outcomesOfWrites r

def outcomesOfItems : List (Draft Empty) → List (Except Error Value)
  | [] => []
  | d :: r => d.render :: outcomesOfItems r

end

/-- The document of a draft. -/
def renderDocument (writes : Writes Empty) : Except Error Document :=
  gather (Assoc.ofWrites (outcomesOfWrites writes))

mutual

theorem requests_bind (f : ρ → Draft σ) (d : Draft ρ) :
    (d.bind f).requests = d.requests.flatMap fun r => (f r).requests := by
  cases d with
  | value v => rfl
  | document writes => exact requests_bindWrites f writes
  | list items => exact requests_bindItems f items
  | pending request => simp [bind, requests]
  | transformed inner t => exact requests_bind f inner

theorem requests_bindWrites (f : ρ → Draft σ) (writes : List (String × Draft ρ)) :
    requestsOfWrites (bindWrites f writes) =
      (requestsOfWrites writes).flatMap fun r => (f r).requests := by
  match writes with
  | [] => rfl
  | (k, d) :: r =>
    simp only [bindWrites, requestsOfWrites, List.flatMap_append, requests_bind f d,
      requests_bindWrites f r]

theorem requests_bindItems (f : ρ → Draft σ) (items : List (Draft ρ)) :
    requestsOfItems (bindItems f items) =
      (requestsOfItems items).flatMap fun r => (f r).requests := by
  match items with
  | [] => rfl
  | d :: r =>
    simp only [bindItems, requestsOfItems, List.flatMap_append, requests_bind f d,
      requests_bindItems f r]

end

mutual

theorem requests_number (n : Nat) (d : Draft ρ) : (d.number n).requests = d.requests.zipIdx n := by
  cases d with
  | value v => rfl
  | document writes => exact requests_numberWrites n writes
  | list items => exact requests_numberItems n items
  | pending request => rfl
  | transformed inner t => exact requests_number n inner

theorem requests_numberWrites (n : Nat) (writes : List (String × Draft ρ)) :
    requestsOfWrites (numberWrites n writes) = (requestsOfWrites writes).zipIdx n := by
  match writes with
  | [] => rfl
  | (k, d) :: r =>
    simp only [numberWrites, requestsOfWrites, List.zipIdx_append, requests_number n d,
      requests_numberWrites _ r]

theorem requests_numberItems (n : Nat) (items : List (Draft ρ)) :
    requestsOfItems (numberItems n items) = (requestsOfItems items).zipIdx n := by
  match items with
  | [] => rfl
  | d :: r =>
    simp only [numberItems, requestsOfItems, List.zipIdx_append, requests_number n d,
      requests_numberItems _ r]

end

mutual

/-- Numbering forgets nothing. -/
theorem bind_number (n : Nat) (d : Draft ρ) : (d.number n).bind (fun t => pending t.1) = d := by
  cases d with
  | value v => rfl
  | document writes => rw [number, bind, bindWrites_numberWrites n writes]
  | list items => rw [number, bind, bindItems_numberItems n items]
  | pending request => rfl
  | transformed inner t => rw [number, bind, bind_number n inner]

theorem bindWrites_numberWrites (n : Nat) (writes : List (String × Draft ρ)) :
    bindWrites (fun t => pending t.1) (numberWrites n writes) = writes := by
  match writes with
  | [] => rfl
  | (k, d) :: r => rw [numberWrites, bindWrites, bind_number n d, bindWrites_numberWrites _ r]

theorem bindItems_numberItems (n : Nat) (items : List (Draft ρ)) :
    bindItems (fun t => pending t.1) (numberItems n items) = items := by
  match items with
  | [] => rfl
  | d :: r => rw [numberItems, bindItems, bind_number n d, bindItems_numberItems _ r]

end

end Draft

end DocQuery
