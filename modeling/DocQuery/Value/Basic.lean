import DocQuery.Assoc
import DocQuery.Number.Decimal

/-!
# Values and documents

A value is null, a boolean, a number, a string, an array or an object. A number is an integer of 64
bits, signed or not, or a finite floating point number; the two forms of one number are alike but
not the same. A document is an object's list of entries.

* `Value`, `Number`, `Document` — the types.
* `Value.alike` — equality of meaning: numbers by their floating point value, objects whatever the
  order of their keys.
* `Value.same` — equality of form: as `alike`, but an integer and a float are different.
* `Value.NumbersFloat`, `Value.KeysDistinct` — what reading text guarantees.
-/

set_option autoImplicit false

namespace DocQuery

/-- A number, kept in the form it came in. -/
inductive Number
  | integer (value : Int)
  | float (value : Double)
  deriving DecidableEq, Repr

namespace Number

/-- The floating point number nearest to a number. -/
def bound : Number → Bound
  | .integer i => .ofInt i
  | .float d => .finite d

def alike (a b : Number) : Bool := a.bound.alike b.bound

def same : Number → Number → Bool
  | .integer i, .integer j => i == j
  | .float a, .float b => (Bound.finite a).alike (.finite b)
  | _, _ => false

end Number

inductive Value
  | null
  | bool (value : Bool)
  | number (value : Number)
  | string (value : String)
  | array (items : List Value)
  | object (entries : List (String × Value))
  deriving Repr, Inhabited

/-- The entries of an object, in insertion order. -/
abbrev Document := Assoc Value

namespace Value

def integer (i : Int) : Value := .number (.integer i)

def float (d : Double) : Value := .number (.float d)

/-- A bound as a value; the bounds that are not numbers have none. -/
def ofBound? : Bound → Option Value
  | .finite d => some (.float d)
  | _ => none

/-- The floating point number of a numeric value. -/
def bound? : Value → Option Bound
  | .number n => some n.bound
  | _ => none

def string? : Value → Option String
  | .string s => some s
  | _ => none

def document? : Value → Option Document
  | .object entries => some entries
  | _ => none

def isNull : Value → Bool
  | .null => true
  | _ => false

def isArray : Value → Bool
  | .array _ => true
  | _ => false

mutual

/-- Equality of meaning. -/
def alike : Value → Value → Bool
  | .null, .null => true
  | .bool a, .bool b => a == b
  | .number a, .number b => a.alike b
  | .string a, .string b => a == b
  | .array as, .array bs => alikeItems as bs
  | .object as, .object bs => as.length == bs.length && alikeEntries as bs
  | _, _ => false

/-- Arrays are alike item by item. -/
def alikeItems : List Value → List Value → Bool
  | [], [] => true
  | a :: as, b :: bs => a.alike b && alikeItems as bs
  | _, _ => false

/-- Every entry has an alike value under its key in `bs`. -/
def alikeEntries : List (String × Value) → List (String × Value) → Bool
  | [], _ => true
  | (k, a) :: as, bs =>
    (match Assoc.get? bs k with
    | some b => a.alike b
    | none => false) && alikeEntries as bs

end

mutual

/-- Equality of form. -/
def same : Value → Value → Bool
  | .null, .null => true
  | .bool a, .bool b => a == b
  | .number a, .number b => a.same b
  | .string a, .string b => a == b
  | .array as, .array bs => sameItems as bs
  | .object as, .object bs => as.length == bs.length && sameEntries as bs
  | _, _ => false

def sameItems : List Value → List Value → Bool
  | [], [] => true
  | a :: as, b :: bs => a.same b && sameItems as bs
  | _, _ => false

def sameEntries : List (String × Value) → List (String × Value) → Bool
  | [], _ => true
  | (k, a) :: as, bs =>
    (match Assoc.get? bs k with
    | some b => a.same b
    | none => false) && sameEntries as bs

end

mutual

/-- No object, at any depth, has a key twice. -/
def KeysDistinct : Value → Prop
  | .array items => keysDistinctItems items
  | .object entries => (Assoc.keys entries).Nodup ∧ keysDistinctEntries entries
  | _ => True

def keysDistinctItems : List Value → Prop
  | [] => True
  | v :: vs => v.KeysDistinct ∧ keysDistinctItems vs

def keysDistinctEntries : List (String × Value) → Prop
  | [] => True
  | (_, v) :: vs => v.KeysDistinct ∧ keysDistinctEntries vs

end

mutual

/-- Every number, at any depth, is in floating point form. -/
def NumbersFloat : Value → Prop
  | .number (.integer _) => False
  | .array items => numbersFloatItems items
  | .object entries => numbersFloatEntries entries
  | _ => True

def numbersFloatItems : List Value → Prop
  | [] => True
  | v :: vs => v.NumbersFloat ∧ numbersFloatItems vs

def numbersFloatEntries : List (String × Value) → Prop
  | [] => True
  | (_, v) :: vs => v.NumbersFloat ∧ numbersFloatEntries vs

end

end Value

end DocQuery
