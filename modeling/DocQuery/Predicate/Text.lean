import DocQuery.Predicate.Basic
import DocQuery.Value.Text

/-!
# Text of predicates

A predicate is written as a block in braces: a quoted field name, a colon, then a value or an
operator block.

* `Expression.chars`, `Predicate.chars`, `Predicate.text`.
-/

set_option autoImplicit false

namespace DocQuery

/-- A text between braces. -/
def braced (s : List Char) : List Char := '\x7b' :: (s ++ ['\x7d'])

/-- A text between brackets. -/
def bracketed (s : List Char) : List Char := '[' :: (s ++ [']'])

/-- A label and what stands after it. -/
def labelled (label operand : List Char) : List Char := label ++ ':' :: ' ' :: operand

variable [RegexEngine]

namespace Expression

/-- A quoted field name with an operator block. -/
def operation (field : String) (op : Operator) (operand : List Char) : List Char :=
  labelled (quoteChars field) (braced (labelled op.name.toList operand))

mutual

def chars : Expression → List Char
  | and subs =>
    labelled Operator.andName.toList (bracketed (joinChars [',', ' '] (blockTexts subs)))
  | or subs =>
    labelled Operator.orName.toList (bracketed (joinChars [',', ' '] (blockTexts subs)))
  | equal field value => labelled (quoteChars field) value.chars
  | notEqual field value => operation field .notEqual value.chars
  | among field values => operation field .among (bracketed (Value.joined values))
  | notAmong field values => operation field .notAmong (bracketed (Value.joined values))
  | exist field => operation field .exist (boolChars true)
  | notExist field => operation field .exist (boolChars false)
  | compare c field bound => operation field (.compare c) bound.chars
  | regex field pattern => operation field .regex (quoteChars pattern.source)
  | anyElement field exprs =>
    operation field .anyElement (braced (joinChars [',', ' '] (texts exprs)))

/-- Each expression as it stands in a block. -/
def texts : List Expression → List (List Char)
  | [] => []
  | e :: es => e.chars :: texts es

/-- Each expression in a block of its own. -/
def blockTexts : List Expression → List (List Char)
  | [] => []
  | e :: es => braced e.chars :: blockTexts es

end

end Expression

def Predicate.chars (p : Predicate) : List Char :=
  braced (joinChars [',', ' '] (Expression.texts p))

def Predicate.text (p : Predicate) : String := String.ofList p.chars

end DocQuery
