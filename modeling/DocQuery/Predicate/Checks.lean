import DocQuery.Check
import DocQuery.Predicate.Validate

/-!
# The checks of predicates

* `Expression.operands`, `Expression.blank` — a predicate taken apart into its literals, from left
  to right, and the rest.
* `Expression.checks` — what validation asks of a predicate, from left to right: of each expression
  that it tests a known field that may be tested, that the field suits the test, and that its type
  takes the literals.
* `Predicate.Overwritten` — a predicate whose first literals are replaced.
-/

set_option autoImplicit false

namespace DocQuery

/-- What validation may replace in a predicate. -/
inductive Operand
  | value (v : Value)
  | bound (b : Bound)

namespace Field

/-- A literal as the field's type takes it; without a type, as it is. -/
def acceptLiteral (f : Field) (value : Value) : Except String Value :=
  match f.validator with
  | none => .ok value
  | some t => t.validateQuery value

def isList (f : Field) : Bool :=
  match f.kind with
  | .array _ => true
  | _ => false

/-- The fields of the documents in a list. -/
def elementFields? (f : Field) : Option Schema :=
  match f.kind with
  | .array (.mk _ (.object fields)) => some fields
  | _ => none

end Field

variable [RegexEngine]

namespace Expression

mutual

/-- The literals that validation may replace, from left to right. -/
def operands : Expression → List Operand
  | and subs | or subs | anyElement _ subs => operandsAll subs
  | equal _ value | notEqual _ value => [.value value]
  | among _ values | notAmong _ values => values.map .value
  | compare _ _ bound => [.bound bound]
  | exist _ | notExist _ | regex _ _ => []

def operandsAll : List Expression → List Operand
  | [] => []
  | e :: es => e.operands ++ operandsAll es

end

mutual

/-- The expression without its literals, each in its place replaced by one and the same. -/
def blank : Expression → Expression
  | and subs => and (blankAll subs)
  | or subs => or (blankAll subs)
  | anyElement field subs => anyElement field (blankAll subs)
  | equal field _ => equal field .null
  | notEqual field _ => notEqual field .null
  | among field values => among field (values.map fun _ => .null)
  | notAmong field values => notAmong field (values.map fun _ => .null)
  | compare c field _ => compare c field .nan
  | exist field => exist field
  | notExist field => notExist field
  | regex field pattern => regex field pattern

def blankAll : List Expression → List Expression
  | [] => []
  | e :: es => e.blank :: blankAll es

end

open Predicate in
/-- The checks of a test of one field: that it is known, that it may be tested, and `more`. -/
def fieldChecks (fields : Schema) (name : String) (more : Field → List (Check Operand)) :
    List (Check Operand) :=
  .demand name (Schema.lookup fields name).isSome Misfit.unknownField.text ::
    match Schema.lookup fields name with
    | none => []
    | some f => .demand name f.filterable Misfit.notFilterable.text :: more f

open Predicate in
/-- The check of the one literal of an equality. -/
def equalityCheck (name : String) (value : Value) (f : Field) : Check Operand :=
  .literal name (((f.acceptLiteral value).mapError fun p => (Misfit.badLiteral p).text).map .value)

open Predicate in
/-- The check of one literal of a membership test. -/
def memberCheck (name : String) (f : Field) (value : Value) : Check Operand :=
  .literal name
    (((f.acceptLiteral value).mapError fun p => (Misfit.badListLiteral value p).text).map .value)

open Predicate in
/-- The check of a pattern: its source has to be accepted, and stays as it is. -/
def patternCheck (name : String) (pattern : Pattern) (f : Field) : Check Operand :=
  ⟨[], name, ((f.acceptLiteral (.string pattern.source)).mapError fun p =>
    (Misfit.badLiteral p).text).map fun _ => none⟩

open Predicate in
/-- The bound of a comparison as the field's type takes it: a number that becomes a number. -/
def acceptBound (f : Field) (bound : Bound) : Except String Bound :=
  match Value.ofBound? bound with
  | none => .error Misfit.boundNotNumber.text
  | some value => do
    let coerced ← (f.acceptLiteral value).mapError fun p => (Misfit.badLiteral p).text
    match coerced.bound? with
    | none => .error (Misfit.coercedNotNumber coerced).text
    | some b => .ok b

/-- The check of the bound of a comparison. -/
def boundCheck (name : String) (bound : Bound) (f : Field) : Check Operand :=
  .literal name ((acceptBound f bound).map .bound)

open Predicate in
mutual

/-- The checks of an expression, in order. -/
def checks : Expression → Schema → List (Check Operand)
  | and subs, fields | or subs, fields => checksAll subs fields
  | exist name, fields | notExist name, fields => fieldChecks fields name fun _ => []
  | equal name value, fields | notEqual name value, fields =>
    fieldChecks fields name fun f => [equalityCheck name value f]
  | among name values, fields | notAmong name values, fields =>
    fieldChecks fields name fun f => values.map (memberCheck name f)
  | regex name pattern, fields => fieldChecks fields name fun f => [patternCheck name pattern f]
  | compare c name bound, fields =>
    fieldChecks fields name fun f =>
      [.demand name (f.validator.isNone || f.isNumeric) (Misfit.notNumeric c).text,
        boundCheck name bound f]
  | anyElement name subs, fields =>
    fieldChecks fields name fun f =>
      .demand name f.isList Misfit.notList.text ::
        .demand name f.elementFields?.isSome Misfit.elementsNotDocuments.text ::
          match f.elementFields? with
          | none => []
          | some sub => (checksAll subs sub).map (Check.within name)

/-- The checks of expressions, from left to right. -/
def checksAll : List Expression → Schema → List (Check Operand)
  | [], _ => []
  | e :: es, fields => e.checks fields ++ checksAll es fields

end

end Expression

namespace Predicate

/-- The literals that validation may replace, from left to right. -/
def operands (p : Predicate) : List Operand := Expression.operandsAll p

/-- The predicate without its literals. -/
def blank (p : Predicate) : Predicate := Expression.blankAll p

/-- What validation asks of a predicate on documents with these fields, in order. -/
def checks (p : Predicate) (fields : Schema) : List (Check Operand) :=
  Expression.checksAll p fields

/-- That `q` is `p` with `first` in place of its first literals, and nothing else replaced. -/
abbrev Overwritten (p : Predicate) (first : List Operand) (q : Predicate) : Prop :=
  Coercion.Overwrites operands blank p first q

end Predicate

end DocQuery
