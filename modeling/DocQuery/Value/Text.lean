import DocQuery.Value.Basic
import DocQuery.Text.Quoted

/-!
# Text of values

* `Value.chars` — the form that predicates are written in: a comma and a space between items, whole
  floats without a fraction.
* `Value.compact` — the form of data files: no spaces, floats always with a fraction or exponent.
-/

set_option autoImplicit false

namespace DocQuery

/-- Joins texts with a separator between them. -/
def joinChars (separator : List Char) : List (List Char) → List Char
  | [] => []
  | [s] => s
  | s :: t :: r => s ++ separator ++ joinChars separator (t :: r)

namespace Number

/-- The text of a number in predicates. -/
def chars : Number → List Char
  | .integer i => integerChars i
  | .float d => d.chars

/-- The text of a number in data files. -/
def compact : Number → List Char
  | .integer i => integerChars i
  | .float d => d.scientificText.toList

end Number

def boolChars (b : Bool) : List Char :=
  if b then ['t', 'r', 'u', 'e'] else ['f', 'a', 'l', 's', 'e']

namespace Value

mutual

/-- The form that predicates are written in. -/
def chars : Value → List Char
  | .null => ['n', 'u', 'l', 'l']
  | .bool b => boolChars b
  | .number n => n.chars
  | .string s => quoteChars s
  | .array items => '[' :: (joinChars [',', ' '] (charsItems items) ++ [']'])
  | .object entries => '\x7b' :: (joinChars [',', ' '] (charsEntries entries) ++ ['\x7d'])

def charsItems : List Value → List (List Char)
  | [] => []
  | v :: vs => v.chars :: charsItems vs

def charsEntries : List (String × Value) → List (List Char)
  | [] => []
  | (k, v) :: vs => (quoteChars k ++ ':' :: ' ' :: v.chars) :: charsEntries vs

end

def text (v : Value) : String := String.ofList v.chars

/-- Several values between commas. -/
def joined (vs : List Value) : List Char := joinChars [',', ' '] (charsItems vs)

mutual

/-- The form of data files. -/
def compactChars : Value → List Char
  | .null => ['n', 'u', 'l', 'l']
  | .bool b => boolChars b
  | .number n => n.compact
  | .string s => quoteChars s
  | .array items => '[' :: (joinChars [','] (compactItems items) ++ [']'])
  | .object entries => '\x7b' :: (joinChars [','] (compactEntries entries) ++ ['\x7d'])

def compactItems : List Value → List (List Char)
  | [] => []
  | v :: vs => v.compactChars :: compactItems vs

def compactEntries : List (String × Value) → List (List Char)
  | [] => []
  | (k, v) :: vs => (quoteChars k ++ ':' :: v.compactChars) :: compactEntries vs

end

def compact (v : Value) : String := String.ofList v.compactChars

end Value

end DocQuery
