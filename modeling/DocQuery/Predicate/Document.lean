import DocQuery.Error
import DocQuery.Predicate.Basic

/-!
# Predicates given as documents

A predicate may come as a document instead of a text. It is read more strictly: an object under a
field is an operator block unless it is empty, and the elements under `$and` and `$or` have to be
objects, at least two of them.

* `Predicate.ofValue` — the predicate of a document.
* `DocumentOperator` — the operators that may stand in such a document.

Main statement: `DocumentOperator.ofName?_name`.
-/

set_option autoImplicit false

namespace DocQuery

/-- The operators that documents know; there is none for the elements of a list. -/
inductive DocumentOperator
  | regex | exist | notEqual | among | notAmong
  | compare (c : Comparison)
  deriving DecidableEq, Repr

namespace DocumentOperator

def name : DocumentOperator → String
  | regex => Operator.regex.name
  | exist => Operator.exist.name
  | notEqual => Operator.notEqual.name
  | among => Operator.among.name
  | notAmong => Operator.notAmong.name
  | compare c => c.name

def all : List DocumentOperator :=
  [regex, exist, notEqual, among, notAmong, compare .less, compare .lessOrEqual, compare .greater,
    compare .greaterOrEqual]

def ofName? (s : String) : Option DocumentOperator := all.find? fun o => o.name == s

theorem ofName?_name (o : DocumentOperator) : ofName? o.name = some o := by
  cases o with
  | compare c => cases c <;> decide
  | _ => decide

end DocumentOperator

/-- Why a document is no predicate. -/
inductive DocumentProblem
  | notDocument
  | notList (label : String)
  | tooFew (label : String)
  | topLevelOperator (op : DocumentOperator)
  | notOperator (field : String)
  | notString (field : String)
  | badPattern (p : Pattern.Problem)
  | notBoolean
  | documentOperand (field : String) (op : DocumentOperator)
  | notNumber (field : String) (op : DocumentOperator)
  deriving DecidableEq, Repr

namespace DocumentProblem

def text : DocumentProblem → String
  | notDocument => "predicate must be a dict"
  | notList label => "value for " ++ label ++ " must be an array of dicts"
  | tooFew label => label ++ " must contain at least two elements"
  | topLevelOperator op => op.name ++ " can't be at first level"
  | notOperator field => field ++ ": invalid expression"
  | notString field => field ++ ": value for " ++ Operator.regex.name ++ " must be a string"
  | badPattern p => Operator.regex.name ++ ": invalid regex: " ++ p.text
  | notBoolean => Operator.exist.name ++ " can only get Boolean as value"
  | documentOperand field op => field ++ ": value for " ++ op.name ++ " can't be a dict"
  | notNumber field op => field ++ ": value for " ++ op.name ++ " must be a number"

end DocumentProblem

variable [RegexEngine]

namespace Predicate

/-- The candidates of a membership test: a value that is no list is the only one. -/
def candidates (field : String) (op : DocumentOperator) :
    Value → Except DocumentProblem (List Value)
  | .object _ => .error (.documentOperand field op)
  | .array items => .ok items
  | v => .ok [v]

/-- An operator with its operand, on a field. -/
def ofOperation (field : String) (op : DocumentOperator) (operand : Value) :
    Except DocumentProblem Expression :=
  match op with
  | .regex =>
    match operand with
    | .string source =>
      match Pattern.ofSource source with
      | .ok pattern => .ok (.regex field pattern)
      | .error p => .error (.badPattern p)
    | _ => .error (.notString field)
  | .exist =>
    match operand with
    | .bool b => .ok (if b then .exist field else .notExist field)
    | _ => .error .notBoolean
  | .notEqual => .ok (.notEqual field operand)
  | .among => (candidates field op operand).map (.among field)
  | .notAmong => (candidates field op operand).map (.notAmong field)
  | .compare c =>
    match operand.bound? with
    | some bound => .ok (.compare c field bound)
    | none => .error (.notNumber field op)

/-- What an element under `$and` or `$or` stands for. -/
def ofElement : List Expression → Expression
  | [e] => e
  | es => .and es

/-- An entry that holds no further entries to read: an operator with its operand under a field, or
a field with the value that it has to equal. -/
def ofPlain (parent : Option String) (key : String) (value : Value) :
    Except DocumentProblem (List Expression) :=
  match DocumentOperator.ofName? key, parent with
  | some op, none => .error (.topLevelOperator op)
  | some op, some field => (ofOperation field op value).map ([·])
  | none, some field => .error (.notOperator field)
  | none, none => .ok [.equal key value]

mutual

/-- The expressions of a document's entries, which stand under the field `parent` if there is
one. -/
def ofEntries (parent : Option String) :
    List (String × Value) → Except DocumentProblem (List Expression)
  | [] => .ok []
  | (key, value) :: entries => do
    let here ← ofEntry parent key value
    let rest ← ofEntries parent entries
    .ok (here ++ rest)

/-- The expressions of one entry. -/
def ofEntry (parent : Option String) (key : String) :
    Value → Except DocumentProblem (List Expression)
  | .array items =>
    if key = Operator.andName ∨ key = Operator.orName then
      if items.length < 2 then .error (.tooFew key)
      else do
        let subs ← ofElements key items
        .ok [if key = Operator.andName then .and subs else .or subs]
    else ofPlain parent key (.array items)
  | .object entries =>
    if key = Operator.andName ∨ key = Operator.orName then .error (.notList key)
    else
      match DocumentOperator.ofName? key, parent, entries with
      | none, none, _ :: _ => ofEntries (some key) entries
      | _, _, _ => ofPlain parent key (.object entries)
  | value =>
    if key = Operator.andName ∨ key = Operator.orName then .error (.notList key)
    else ofPlain parent key value

/-- The elements under `$and` or `$or`. -/
def ofElements (label : String) : List Value → Except DocumentProblem (List Expression)
  | [] => .ok []
  | .object entries :: rest => do
    let es ← ofEntries none entries
    let others ← ofElements label rest
    .ok (ofElement es :: others)
  | _ :: _ => .error (.notList label)

end

/-- The predicate that a document stands for. -/
def ofDocument? : Value → Except DocumentProblem Predicate
  | .object entries => ofEntries none entries
  | _ => .error .notDocument

def ofValue (v : Value) : Except Error Predicate :=
  (ofDocument? v).mapError fun p => .unreadable p.text

end Predicate

end DocQuery
