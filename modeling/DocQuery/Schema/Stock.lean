import DocQuery.Schema.Basic
import DocQuery.Value.Text

/-!
# Stock field types and handlers

The field types and handlers that schemas refer to by name.

* `Validator.named` — field types: strings, integers, booleans, floats and a few with a rule or an
  output form of their own. A name that is not known accepts everything.
* `Handler.named` — handlers; a name that is not known always fails.
-/

set_option autoImplicit false

namespace DocQuery

namespace Validator

/-- Accepts everything as it is. -/
def any : Validator := ⟨.ok, .ok, false, none, .ok⟩

/-- The same rule for stored values and for the literals of predicates. -/
def ofRule (rule : Value → Except String Value) : Validator :=
  { any with validate := rule, validateQuery := rule }

def stringRule : Value → Except String Value
  | .string s => .ok (.string s)
  | _ => .error "not a string"

/-- Whole numbers become integers, held within 64 bits. -/
def integerRule (v : Value) : Except String Value :=
  match v.bound? with
  | some (.finite d) => if d.isWhole then .ok (.integer d.toInt64) else .error "not an integer"
  | _ => .error "not an integer"

def boolRule : Value → Except String Value
  | .bool b => .ok (.bool b)
  | _ => .error "not a Boolean"

def floatRule : Value → Except String Value
  | .number n => .ok (.number n)
  | _ => .error "not a number"

/-- Twice the number as a float, null when that is too large. -/
def doubleRule (v : Value) : Except String Value :=
  match v.bound? with
  | some (.finite d) => .ok ((Value.ofBound? d.twice).getD .null)
  | _ => .error "not a number"

/-- At most five bytes. -/
def shortRule : Value → Except String Value
  | .string s => if s.utf8ByteSize ≤ 5 then .ok (.string s) else .error "too long"
  | _ => .error "not a string"

def lowerRule : Value → Except String Value
  | .string s => .ok (.string (s.map Char.toLower))
  | _ => .error "not a string"

/-- Strings by code points. -/
def lessString : Value → Value → Bool
  | .string a, .string b => a < b
  | _, _ => false

def lessNumber (a b : Value) : Bool :=
  match a.bound?, b.bound? with
  | some a, some b => a.less b
  | _, _ => false

def string : Validator := { ofRule stringRule with less? := some lessString }

def integer : Validator := { ofRule integerRule with isNumeric := true, less? := some lessNumber }

def bool : Validator := ofRule boolRule

def float : Validator := { ofRule floatRule with isNumeric := true }

def double : Validator := { ofRule doubleRule with isNumeric := true }

def stringify : Validator := { ofRule fun _ => .ok (.string "text") with isNumeric := true }

def short : Validator := { any with validate := shortRule, validateQuery := stringRule }

def lower : Validator := ofRule lowerRule

/-- Integers in falling order. -/
def descending : Validator := { integer with less? := some fun a b => lessNumber b a }

def upperOutput : Value → Except String Value
  | .string s => .ok (.string (s.map Char.toUpper))
  | v => .ok v

def upper : Validator := { any with serialize := upperOutput }

def wrap : Validator := { any with serialize := fun v => .ok (.object [("wrapped", v)]) }

def unserializable : Validator := { any with serialize := fun _ => .error "cannot serialize" }

/-- The field type of a name. -/
def named : String → Validator
  | "string" => string
  | "integer" => integer
  | "bool" => bool
  | "float" => float
  | "double" => double
  | "stringify" => stringify
  | "short" => short
  | "lower" => lower
  | "revint" => descending
  | "upper" => upper
  | "wrap" => wrap
  | "badser" => unserializable
  | _ => any

end Validator

namespace Handler

/-- The first characters of a string, as many as the parameter `max` says. -/
def truncate : Handler := fun value params =>
  let max : Option Nat :=
    match (Assoc.get? params "max").bind Value.bound? with
    | some (.finite d) => some d.toUInt64
    | some (.infinite negative) => some (if negative then 0 else Word.greatestUnsigned)
    | _ => none
  match max with
  | none => .error "bad max"
  | some n =>
    match value with
    | .string s => .ok (.string (String.ofList (s.toList.take n)))
    | _ => .error "not a string"

/-- The value and the parameters. -/
def echo : Handler := fun value params =>
  .ok (.object [("value", value), ("params", .object params)])

def null : Handler := fun _ _ => .ok .null

def failing : Handler := fun _ _ => .error "handler failed"

/-- The handler of a name. -/
def named : String → Handler
  | "truncate" => truncate
  | "echo" => echo
  | "null" => null
  | _ => failing

end Handler

end DocQuery
