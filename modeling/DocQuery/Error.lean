/-!
# Errors of queries

Every failure has a kind, which says who is to blame, and a text. Failures of validation and of
evaluation start with the path of the field they arose at, which grows as they pass outward.

* `Error`, `Error.message`, `Error.code`, `Error.isClientError`.
* `Error.within` — the same failure seen from the parent field.

Main statements: `Error.code_within`, `Error.isClientError_within`.
-/

set_option autoImplicit false

namespace DocQuery

/-- A failure: its kind and its text. -/
inductive Error
  /-- The text of a query part breaks its grammar at a byte position. -/
  | malformed (position : Nat) (problem : String)
  /-- A query part breaks its grammar where no position can be told. -/
  | unreadable (problem : String)
  /-- A query does not fit the fields it is used on. -/
  | invalid (problem : String)
  /-- A projection cannot be applied to a document. -/
  | inapplicable (problem : String)
  /-- A resolver answered with a failure of its own. -/
  | unresolved (problem : String)
  /-- A part outside of queries broke its contract. -/
  | internal (problem : String)
  deriving DecidableEq, Repr

namespace Error

def message : Error → String
  | .malformed position problem => "char " ++ toString position ++ ": " ++ problem
  | .unreadable problem => problem
  | .invalid problem => problem
  | .inapplicable problem => problem
  | .unresolved problem => problem
  | .internal problem => "Internal error: " ++ problem

def code : Error → String
  | .malformed _ _ => "AERO_QUERY_SYNTAX"
  | .unreadable _ => "AERO_QUERY_INVALID"
  | .invalid _ => "AERO_QUERY_VALIDATION"
  | .inapplicable _ => "AERO_QUERY_EVALUATION"
  | .unresolved _ => "AERO_QUERY_RESOLVER"
  | .internal _ => "AERO_QUERY_INTERNAL"

/-- Whether the query's author caused the failure. -/
def isClientError : Error → Bool
  | .malformed _ _ | .unreadable _ | .invalid _ => true
  | _ => false

/-- The failure seen from the field `parent`: the path of a field failure grows at its front. -/
def within (parent : String) : Error → Error
  | .invalid problem => .invalid (parent ++ "." ++ problem)
  | .inapplicable problem => .inapplicable (parent ++ "." ++ problem)
  | e => e

theorem code_within (parent : String) (e : Error) : (e.within parent).code = e.code := by
  cases e <;> rfl

theorem isClientError_within (parent : String) (e : Error) :
    (e.within parent).isClientError = e.isClientError := by
  cases e <;> rfl

end Error

/-- Widens the failure of a computation under the field `parent`. -/
def underField {α : Type} (parent : String) (r : Except Error α) : Except Error α :=
  r.mapError (Error.within parent)

end DocQuery
