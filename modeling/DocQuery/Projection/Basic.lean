import DocQuery.Schema.Basic
import DocQuery.Value.Text

/-!
# Projections

A projection lists the fields of a document to keep and how each is shown: under which key, with
which parameters, and with which projection of its own. The empty projection keeps every field. The
name `*` stands for all fields that are not named otherwise.

* `Selection`, `Projection` — the types.
* `Projection.depth` — how deep projections nest.
* `Projection.text` — the written form.
* `Projection.same` — equality of form.
-/

set_option autoImplicit false

namespace DocQuery

/-- One field of a projection. -/
structure Selection where
  name : String
  /-- The key in the output, the name where there is none. -/
  shownAs : Option String := none
  params : List (String × Value) := []
  /-- The projection of the field's own document; the empty one keeps it whole. -/
  children : Option (List Selection) := none
  deriving Inhabited

abbrev Projection := List Selection

namespace Selection

/-- Stands for every field that is not named otherwise. -/
def wildcardName : String := "*"

def isWildcard (s : Selection) : Bool := s.name == wildcardName

/-- The key in the output. -/
def outputName (s : Selection) : String := s.shownAs.getD s.name

end Selection

namespace Projection

mutual

/-- The levels of projections below a field. -/
def depthBelow : Selection → Nat
  | ⟨_, _, _, none⟩ => 0
  | ⟨_, _, _, some children⟩ => depth children

/-- The levels of a projection: none if it is empty, else one more than below any field. -/
def depth : List Selection → Nat
  | [] => 0
  | s :: r => max (depthBelow s + 1) (depth r)

end

/-! ## Text -/

/-- The text of a parameter's value; every number as a float. -/
def paramChars : Value → List Char
  | .string s => quoteChars s
  | .number n => n.bound.chars
  | v => v.compactChars

/-- The parameters between parentheses, in name order; nothing where there are none. -/
def paramsChars (params : Params) : List Char :=
  if params.isEmpty then []
  else
    let texts := (Assoc.sorted params).map fun p => p.1.toList ++ ':' :: paramChars p.2
    '(' :: (joinChars [','] texts ++ [')'])

mutual

/-- The text of one field. -/
def selectionChars : Selection → List Char
  | ⟨name, shownAs, params, children⟩ =>
    (match shownAs with
      | some a => a.toList ++ [':']
      | none => []) ++
    name.toList ++ paramsChars params ++
    (match children with
      | some c => '\x7b' :: (joinChars [','] (selectionTexts c) ++ ['\x7d'])
      | none => [])

def selectionTexts : List Selection → List (List Char)
  | [] => []
  | s :: r => selectionChars s :: selectionTexts r

end

def chars (p : Projection) : List Char := joinChars [','] (selectionTexts p)

def text (p : Projection) : String := String.ofList p.chars

/-! ## Equality of form -/

/-- Parameters are the same whatever their order. -/
def sameParams (a b : Params) : Bool := a.length == b.length && Value.sameEntries a b

mutual

def sameSelection : Selection → Selection → Bool
  | ⟨n, a, ps, c⟩, ⟨m, b, qs, d⟩ =>
    n == m && a == b && sameParams ps qs &&
      (match c, d with
      | none, none => true
      | some c, some d => same c d
      | _, _ => false)

def same : List Selection → List Selection → Bool
  | [], [] => true
  | s :: r, t :: u => sameSelection s t && same r u
  | _, _ => false

end

end Projection

end DocQuery
