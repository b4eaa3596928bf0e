import DocQuery.Pattern.Basic
import DocQuery.Value.Path

/-!
# Predicates

A predicate is a list of expressions that all have to hold of a document. An expression tests one
field, or joins other expressions.

* `Expression`, `Predicate`, `Operator` — the types.
* `Expression.accepts`, `Predicate.accepts` — when a document passes.
* `Predicate.singleId?`, `Predicate.idList?` — the predicates that look documents up by id.
* `Predicate.same` — equality of form.

Main statements: `Operator.ofName?_name`, `Predicate.accepts_append`.
-/

set_option autoImplicit false

namespace DocQuery

/-- The order comparisons. -/
inductive Comparison
  | less | lessOrEqual | greater | greaterOrEqual
  deriving DecidableEq, Repr

/-- The operators that stand before an operand under a field. -/
inductive Operator
  | exist | among | notAmong | notEqual | regex | anyElement
  | compare (c : Comparison)
  deriving DecidableEq, Repr

variable [RegexEngine]

/-- A test of a document. -/
inductive Expression
  | and (subs : List Expression)
  | or (subs : List Expression)
  | equal (field : String) (value : Value)
  | notEqual (field : String) (value : Value)
  | among (field : String) (values : List Value)
  | notAmong (field : String) (values : List Value)
  /-- The field is present, even when it is null. -/
  | exist (field : String)
  | notExist (field : String)
  | compare (c : Comparison) (field : String) (bound : Bound)
  | regex (field : String) (pattern : Pattern)
  /-- Some element of the list is a document of which all expressions hold. -/
  | anyElement (field : String) (exprs : List Expression)
  deriving Inhabited

/-- Expressions that all have to hold. -/
abbrev Predicate := List Expression

namespace Comparison

def name : Comparison → String
  | less => "$lt"
  | lessOrEqual => "$lte"
  | greater => "$gt"
  | greaterOrEqual => "$gte"

/-- Whether a number compares with a bound as asked. -/
def holds : Comparison → Bound → Bound → Bool
  | less, n, b => n.less b
  | lessOrEqual, n, b => n.lessOrEqual b
  | greater, n, b => b.less n
  | greaterOrEqual, n, b => b.lessOrEqual n

end Comparison

namespace Operator

def name : Operator → String
  | exist => "$exists"
  | among => "$in"
  | notAmong => "$nin"
  | notEqual => "$ne"
  | regex => "$regex"
  | anyElement => "$elemMatch"
  | compare c => c.name

def all : List Operator :=
  [exist, among, notAmong, notEqual, regex, anyElement, compare .less, compare .lessOrEqual,
    compare .greater, compare .greaterOrEqual]

def ofName? (s : String) : Option Operator := all.find? fun o => o.name == s

omit [RegexEngine] in
theorem ofName?_name (o : Operator) : ofName? o.name = some o := by
  cases o with
  | compare c => cases c <;> decide
  | _ => decide

/-- The label of a conjunction. -/
def andName : String := "$and"

/-- The label of a disjunction. -/
def orName : String := "$or"

end Operator

/-! ## Matching -/

/-- The value of a field, null where it is absent. -/
def valueAt (doc : Document) (field : String) : Value := (Document.lookup doc field).getD .null

/-- A list also equals a value that is no list when one of its items does. -/
def equalTo (actual expected : Value) : Bool :=
  match actual with
  | .array items =>
    if expected.isArray then actual.alike expected else items.any fun i => i.alike expected
  | _ => actual.alike expected

/-- A list is among candidates when one of its items is. -/
def isAmong (actual : Value) (candidates : List Value) : Bool :=
  match actual with
  | .array items => candidates.any fun c => items.any fun i => c.alike i
  | _ => candidates.any fun c => c.alike actual

namespace Expression

mutual

/-- Whether the test holds of a document. -/
def accepts : Expression → Document → Bool
  | and subs, doc => acceptsAll subs doc
  | or subs, doc => acceptsAny subs doc
  | equal field value, doc => equalTo (valueAt doc field) value
  | notEqual field value, doc => !equalTo (valueAt doc field) value
  | among field values, doc => isAmong (valueAt doc field) values
  | notAmong field values, doc => !isAmong (valueAt doc field) values
  | exist field, doc => (Document.lookup doc field).isSome
  | notExist field, doc => (Document.lookup doc field).isNone
  | compare c field bound, doc =>
    match (Document.lookup doc field).bind Value.bound? with
    | some n => c.holds n bound
    | none => false
  | regex field pattern, doc =>
    match Document.lookup doc field with
    | some (.string s) => pattern.isMatch s
    | _ => false
  | anyElement field exprs, doc =>
    match Document.lookup doc field with
    | some (.array items) => items.any fun
      | .object sub => acceptsAll exprs sub
      | _ => false
    | _ => false

/-- Whether all tests hold. -/
def acceptsAll : List Expression → Document → Bool
  | [], _ => true
  | e :: es, doc => e.accepts doc && acceptsAll es doc

/-- Whether some test holds. -/
def acceptsAny : List Expression → Document → Bool
  | [], _ => false
  | e :: es, doc => e.accepts doc || acceptsAny es doc

end

/-- The field that is tested; joined expressions have none. -/
def field? : Expression → Option String
  | and _ | or _ => none
  | equal field _ | notEqual field _ | among field _ | notAmong field _ => some field
  | exist field | notExist field => some field
  | compare _ field _ | regex field _ | anyElement field _ => some field

mutual

/-- Equality of form. -/
def same : Expression → Expression → Bool
  | and as, and bs => sameAll as bs
  | or as, or bs => sameAll as bs
  | equal f v, equal g w => f == g && v.same w
  | notEqual f v, notEqual g w => f == g && v.same w
  | among f vs, among g ws => f == g && Value.sameItems vs ws
  | notAmong f vs, notAmong g ws => f == g && Value.sameItems vs ws
  | exist f, exist g => f == g
  | notExist f, notExist g => f == g
  | compare c f a, compare d g b => c == d && f == g && a.alike b
  | regex f p, regex g q => f == g && p.source == q.source
  | anyElement f as, anyElement g bs => f == g && sameAll as bs
  | _, _ => false

def sameAll : List Expression → List Expression → Bool
  | [], [] => true
  | a :: as, b :: bs => a.same b && sameAll as bs
  | _, _ => false

end

theorem acceptsAll_eq_all (es : List Expression) (doc : Document) :
    acceptsAll es doc = es.all fun e => e.accepts doc := by
  induction es with
  | nil => rfl
  | cons e es ih => simp [acceptsAll, ih]

end Expression

namespace Predicate

/-- Whether a document passes; the empty predicate passes every one. -/
def accepts (p : Predicate) (doc : Document) : Bool := Expression.acceptsAll p doc

/-- The id of a lookup by one id and nothing else. -/
def singleId? : Predicate → Option Value
  | [.equal field value] => if field = "id" then some value else none
  | _ => none

/-- The ids of a lookup by ids and nothing else. -/
def idList? : Predicate → Option (List Value)
  | [.among field values] => if field = "id" then some values else none
  | _ => none

def same (p q : Predicate) : Bool := Expression.sameAll p q

theorem accepts_append (p q : Predicate) (doc : Document) :
    accepts (p ++ q) doc = (accepts p doc && accepts q doc) := by
  simp [accepts, Expression.acceptsAll_eq_all]

end Predicate

end DocQuery
