import DocQuery.Coercion
import DocQuery.Predicate.Basic
import DocQuery.Schema.Basic
import DocQuery.Value.Text

/-!
# Validation of predicates

Every field of a predicate has to be known and filterable, and its literals are coerced by the
field's type. A comparison asks for a numeric type, or for none; a test of list elements for a list
of documents, whose fields are those of the nested predicate.

* `Expression.validate`, `Predicate.validate` — expressions from left to right, the first failure
  wins and earlier literals stay coerced.
-/

set_option autoImplicit false

namespace DocQuery

/-- Why a predicate does not fit the fields that it is used on. -/
inductive Predicate.Misfit
  | unknownField
  | notFilterable
  | badLiteral (problem : String)
  | badListLiteral (value : Value) (problem : String)
  | notNumeric (c : Comparison)
  | boundNotNumber
  | coercedNotNumber (value : Value)
  | notList
  | elementsNotDocuments

namespace Predicate.Misfit

def text : Predicate.Misfit → String
  | unknownField => "unknown query field"
  | notFilterable => "field is not filterable"
  | badLiteral problem => "invalid query expression: " ++ problem
  | badListLiteral value problem =>
    "invalid query expression `" ++ value.text ++ "': " ++ problem
  | notNumeric c => "cannot apply " ++ c.name ++ " operation on a non numerical field"
  | boundNotNumber => "invalid query expression: not a number"
  | coercedNotNumber value => "invalid query expression: " ++ value.text ++ " is not a number"
  | notList => "is not an array"
  | elementsNotDocuments => "array elements are not documents"

/-- The failure at a field. -/
def onField (field : String) (m : Predicate.Misfit) : Error := .invalid (field ++ ": " ++ m.text)

end Predicate.Misfit

variable [RegexEngine]

namespace Predicate

/-- The definition of a field that a predicate may test. -/
def filterableField (fields : Schema) (name : String) : Except Error Field :=
  match Schema.lookup fields name with
  | none => .error (Misfit.unknownField.onField name)
  | some f => if f.filterable then .ok f else .error (Misfit.notFilterable.onField name)

/-- A literal as the field's type takes it. -/
def coerceLiteral (f : Field) (name : String) (value : Value) : Except Error Value :=
  match f.validator with
  | none => .ok value
  | some v => (v.validateQuery value).mapError fun p => (Misfit.badLiteral p).onField name

/-- A literal of a list as the field's type takes it. -/
def coerceListLiteral (f : Field) (name : String) (value : Value) : Coercion Value :=
  match f.validator with
  | none => .done value
  | some v =>
    .replace value
      ((v.validateQuery value).mapError fun p => (Misfit.badListLiteral value p).onField name)

/-- The bound of a comparison as the field's type takes it; it stays a float. -/
def coerceBound (fields : Schema) (name : String) (c : Comparison) (bound : Bound) :
    Except Error Bound := do
  let f ← filterableField fields name
  if f.validator.isSome && !f.isNumeric then .error ((Misfit.notNumeric c).onField name)
  else
    match Value.ofBound? bound with
    | none => .error (Misfit.boundNotNumber.onField name)
    | some value => do
      let coerced ← coerceLiteral f name value
      match coerced.bound? with
      | some b => .ok b
      | none => .error ((Misfit.coercedNotNumber coerced).onField name)

/-- The fields of the documents in a list field. -/
def elementFields (f : Field) (name : String) : Except Error Schema :=
  match f.kind with
  | .array element =>
    match element.kind with
    | .object fields => .ok fields
    | _ => .error (Misfit.elementsNotDocuments.onField name)
  | _ => .error (Misfit.notList.onField name)

/-- Coerces the one literal of an equality. -/
def coerceEquality (fields : Schema) (name : String) (value : Value) : Coercion Value :=
  .replace value do
    let f ← filterableField fields name
    coerceLiteral f name value

/-- Coerces the literals of a membership test. -/
def coerceMembers (fields : Schema) (name : String) (values : List Value) : Coercion (List Value) :=
  match filterableField fields name with
  | .error e => .stop values e
  | .ok f => Coercion.all (coerceListLiteral f name) values

/-- Checks that a field may be tested. -/
def checkField (fields : Schema) (name : String) : Except Error Unit :=
  (filterableField fields name).map fun _ => ()

/-- Checks the source of a pattern as a literal. -/
def checkPattern (fields : Schema) (name : String) (pattern : Pattern) : Except Error Unit := do
  let f ← filterableField fields name
  (coerceLiteral f name (.string pattern.source)).map fun _ => ()

end Predicate

namespace Expression

open Predicate

mutual

/-- Checks an expression and coerces its literals. -/
def validate : Expression → Schema → Coercion Expression
  | and subs, fields => (validateAll subs fields).map and
  | or subs, fields => (validateAll subs fields).map or
  | equal field value, fields => (coerceEquality fields field value).map (equal field)
  | notEqual field value, fields => (coerceEquality fields field value).map (notEqual field)
  | among field values, fields => (coerceMembers fields field values).map (among field)
  | notAmong field values, fields => (coerceMembers fields field values).map (notAmong field)
  | exist field, fields => .check (exist field) (checkField fields field)
  | notExist field, fields => .check (notExist field) (checkField fields field)
  | compare c field bound, fields =>
    (Coercion.replace bound (coerceBound fields field c bound)).map (compare c field)
  | regex field pattern, fields =>
    .check (regex field pattern) (checkPattern fields field pattern)
  | anyElement field exprs, fields =>
    match (filterableField fields field).bind fun f => elementFields f field with
    | .error e => .stop (anyElement field exprs) e
    | .ok sub => ((validateAll exprs sub).within field).map (anyElement field)

/-- Expressions from left to right. -/
def validateAll : List Expression → Schema → Coercion (List Expression)
  | [], _ => .done []
  | e :: es, fields =>
    match e.validate fields with
    | ⟨e', some failure⟩ => ⟨e' :: es, some failure⟩
    | ⟨e', none⟩ => (validateAll es fields).map (e' :: ·)

end

theorem validateAll_eq_all (es : List Expression) (fields : Schema) :
    validateAll es fields = Coercion.all (fun e => e.validate fields) es := by
  induction es with
  | nil => rfl
  | cons e es ih =>
    rw [validateAll, Coercion.all]
    cases e.validate fields with
    | mk e' failure => cases failure <;> simp [ih]

end Expression

/-- Checks a predicate against the fields that it is used on, and coerces its literals. -/
def Predicate.validate (p : Predicate) (fields : Schema) : Coercion Predicate :=
  Expression.validateAll p fields

end DocQuery
