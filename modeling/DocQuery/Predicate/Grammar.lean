import DocQuery.Predicate.Parser
import DocQuery.Predicate.WellFormed

/-!
# The grammar of predicates

Which texts stand for which predicates, apart from how they are read. Every relation here ties a
text to what it stands for; its rules put texts together by concatenation and say nothing of the
order in which readers try them, of look-ahead, or of how far a scan goes.

* `Blanks` — what may stand between tokens.
* `StringText`, `NumberText`, `LabelText` — the tokens that carry something.
* `ListText` — items between an opening and a closing character, commas between them.
* `ValueText`, `OperandText`, `CommandText`, `ExpressionText`, `PredicateText` — the rules, from
  values up to a whole text.
-/

set_option autoImplicit false

namespace DocQuery.Grammar

/-- What may stand between two tokens: any run of spaces, tabs, carriage returns and line feeds. -/
def Blanks (w : List Char) : Prop := ∀ c ∈ w, isGap c = true

/-! ## Strings -/

/-- The inside of a string with escapes: a character for itself, a letter behind a backslash, or
four hexadecimal digits, twice where they are surrogates. -/
inductive Escapes : List Char → List Char → Prop
  | nil : Escapes [] []
  | plain {c : Char} {w s : List Char} (backslash : c ≠ '\\') (quoteMark : c ≠ '"')
    (printable : 32 ≤ c.toNat) (more : Escapes w s) : Escapes (c :: w) (c :: s)
  | letter {c d : Char} {w s : List Char} (known : Quoted.escaped c = some d)
    (more : Escapes w s) : Escapes ('\\' :: c :: w) (d :: s)
  | unit {a b c d : Char} {n : Nat} {w s : List Char} (digits : Quoted.hexNumber a b c d = some n)
    (trailing : Quoted.isTrailing n = false) (leading : Quoted.isLeading n = false)
    (more : Escapes w s) : Escapes ('\\' :: 'u' :: a :: b :: c :: d :: w) (Char.ofNat n :: s)
  | pair {a b c d e f g h : Char} {n m : Nat} {w s : List Char}
    (lead : Quoted.hexNumber a b c d = some n) (leading : Quoted.isLeading n = true)
    (trail : Quoted.hexNumber e f g h = some m) (trailing : Quoted.isTrailing m = true)
    (more : Escapes w s) :
    Escapes ('\\' :: 'u' :: a :: b :: c :: d :: '\\' :: 'u' :: e :: f :: g :: h :: w)
      (Quoted.joinSurrogates n m :: s)

/-- A string between quotes. Without any backslash it may hold every character but a quote. -/
inductive StringText : List Char → String → Prop
  | plain {w : List Char} (backslash : '\\' ∉ w) (quoteMark : '"' ∉ w) :
    StringText ('"' :: (w ++ ['"'])) (String.ofList w)
  | escaped {w s : List Char} (inside : Escapes w s) :
    StringText ('"' :: (w ++ ['"'])) (String.ofList s)

/-! ## Numbers -/

/-- Digits, at least one. -/
def Digits (w : List Char) : Prop := w ≠ [] ∧ ∀ c ∈ w, c.isDigit = true

/-- Nothing, or a point and any digits after it. -/
inductive FractionText : List Char → List Char → Prop
  | absent : FractionText [] []
  | point {digits : List Char} (all : ∀ c ∈ digits, c.isDigit = true) :
    FractionText ('.' :: digits) digits

/-- Nothing, or an `e` and a power of ten with an optional sign. -/
inductive PowerText : List Char → Int → Prop
  | absent : PowerText [] 0
  | unsigned {w : List Char} (digits : Digits w) : PowerText ('e' :: w) (numberOf w)
  | plus {w : List Char} (digits : Digits w) : PowerText ('e' :: '+' :: w) (numberOf w)
  | minus {w : List Char} (digits : Digits w) : PowerText ('e' :: '-' :: w) (-(numberOf w : Int))

/-- A numeral without a sign. -/
inductive DecimalText : List Char → Decimal → Prop
  | intro {whole w digits u : List Char} {power : Int} (integer : Digits whole)
    (fraction : FractionText w digits) (exponent : PowerText u power) :
    DecimalText (whole ++ (w ++ u)) ⟨numberOf (whole ++ digits), power - digits.length⟩

/-- A numeral whose nearest float is finite. -/
inductive NumberText : List Char → Double → Prop
  | unsigned {w : List Char} {x : Decimal} {d : Double} (numeral : DecimalText w x)
    (finite : Bound.ofDecimal false x.coefficient x.exponent = .finite d) : NumberText w d
  | negative {w : List Char} {x : Decimal} {d : Double} (numeral : DecimalText w x)
    (finite : Bound.ofDecimal true x.coefficient x.exponent = .finite d) : NumberText ('-' :: w) d

/-! ## Other tokens -/

inductive BoolText : List Char → Bool → Prop
  | yes : BoolText ['t', 'r', 'u', 'e'] true
  | no : BoolText ['f', 'a', 'l', 's', 'e'] false

/-- A label is a quoted string or a run of letters, digits and `$`, `.`, `_`, `-`. -/
inductive LabelText : List Char → String → Prop
  | quoted {w : List Char} {label : String} (string : StringText w label) : LabelText w label
  | bare {w : List Char} (nonempty : w ≠ []) (all : ∀ c ∈ w, Predicate.isLabelChar c = true) :
    LabelText w (String.ofList w)

/-- A label and the colon after it, up to what the colon introduces. -/
inductive HeaderText : List Char → String → Prop
  | intro {w b b' : List Char} {label : String} (text : LabelText w label) (before : Blanks b)
    (after : Blanks b') : HeaderText (w ++ (b ++ ':' :: b')) label

/-! ## Lists -/

section Lists

variable {α : Type}

/-- One item or more with commas between them, blanks around each. -/
inductive SeriesText (R : List Char → α → Prop) : List Char → List α → Prop
  | last {b w b' : List Char} {a : α} (before : Blanks b) (item : R w a) (after : Blanks b') :
    SeriesText R (b ++ (w ++ b')) [a]
  | cons {b w b' u : List Char} {a : α} {as : List α} (before : Blanks b) (item : R w a)
    (after : Blanks b') (more : SeriesText R u as) :
    SeriesText R (b ++ (w ++ (b' ++ ',' :: u))) (a :: as)

/-- A list between an opening and a closing character; it may be empty. -/
inductive ListText (R : List Char → α → Prop) (opening closing : Char) :
    List Char → List α → Prop
  | empty {b : List Char} (blanks : Blanks b) :
    ListText R opening closing (opening :: (b ++ [closing])) []
  | items {w : List Char} {as : List α} (series : SeriesText R w as) :
    ListText R opening closing (opening :: (w ++ [closing])) as

/-- Something under a label. -/
inductive EntryText (R : List Char → α → Prop) : List Char → String × α → Prop
  | intro {h w : List Char} {label : String} {a : α} (header : HeaderText h label)
    (item : R w a) : EntryText R (h ++ w) (label, a)

end Lists

/-! ## Values -/

/-- A value. In a document a repeated key keeps its place and takes the last value. -/
inductive ValueText : List Char → Value → Prop
  | null : ValueText ['n', 'u', 'l', 'l'] .null
  | bool {w : List Char} {b : Bool} (text : BoolText w b) : ValueText w (.bool b)
  | number {w : List Char} {d : Double} (text : NumberText w d) : ValueText w (.float d)
  | string {w : List Char} {s : String} (text : StringText w s) : ValueText w (.string s)
  | array {w : List Char} {items : List Value} (list : ListText ValueText '[' ']' w items) :
    ValueText w (.array items)
  | object {w : List Char} {entries : List (String × Value)}
    (list : ListText (EntryText ValueText) '\x7b' '\x7d' w entries) :
    ValueText w (.object (Assoc.ofWrites entries))

/-! ## Expressions -/

variable [RegexEngine]

/-- The operand that an operator takes, with the expression on `field` that it makes; `Block` is the
rule for blocks. -/
inductive OperandText (Block : List Char → List Expression → Prop) :
    Operator → String → List Char → Expression → Prop
  | exist {field : String} {w : List Char} (text : BoolText w true) :
    OperandText Block .exist field w (.exist field)
  | notExist {field : String} {w : List Char} (text : BoolText w false) :
    OperandText Block .exist field w (.notExist field)
  | among {field : String} {w : List Char} {values : List Value}
    (list : ListText ValueText '[' ']' w values) :
    OperandText Block .among field w (.among field values)
  | notAmong {field : String} {w : List Char} {values : List Value}
    (list : ListText ValueText '[' ']' w values) :
    OperandText Block .notAmong field w (.notAmong field values)
  | notEqual {field : String} {w : List Char} {v : Value} (value : ValueText w v) :
    OperandText Block .notEqual field w (.notEqual field v)
  | compare {c : Comparison} {field : String} {w : List Char} {d : Double}
    (number : NumberText w d) :
    OperandText Block (.compare c) field w (.compare c field (.finite d))
  | regex {field : String} {w : List Char} {source : String} {pattern : Pattern}
    (string : StringText w source) (valid : Pattern.ofSource source = .ok pattern) :
    OperandText Block .regex field w (.regex field pattern)
  | anyElement {field : String} {w : List Char} {es : List Expression} (block : Block w es) :
    OperandText Block .anyElement field w (.anyElement field es)

/-- The command of a field: an operator with its operand between braces, or a value. A document
whose first key is an operator is no value here. -/
inductive CommandText (Block : List Char → List Expression → Prop) :
    List Char → String → Expression → Prop
  | operation {b h w b' : List Char} {field : String} {op : Operator} {e : Expression}
    (before : Blanks b) (operator : HeaderText h op.name)
    (operand : OperandText Block op field w e) (after : Blanks b') :
    CommandText Block ('\x7b' :: (b ++ (h ++ (w ++ (b' ++ ['\x7d']))))) field e
  | equality {w : List Char} {field : String} {v : Value} (value : ValueText w v)
    (plain : v.opensOperation = false) : CommandText Block w field (.equal field v)

/-- An expression. Under `$and` and `$or` stand blocks, of which at least two hold something; each
stands for its expressions together. No operator is a field. -/
inductive ExpressionText : List Char → Expression → Prop
  | and {h w : List Char} {blocks : List (List Expression)}
    (header : HeaderText h Operator.andName)
    (list : ListText (ListText ExpressionText '\x7b' '\x7d') '[' ']' w blocks)
    (two : 2 ≤ (blocks.flatMap Predicate.ofBlock).length) :
    ExpressionText (h ++ w) (.and (blocks.flatMap Predicate.ofBlock))
  | or {h w : List Char} {blocks : List (List Expression)}
    (header : HeaderText h Operator.orName)
    (list : ListText (ListText ExpressionText '\x7b' '\x7d') '[' ']' w blocks)
    (two : 2 ≤ (blocks.flatMap Predicate.ofBlock).length) :
    ExpressionText (h ++ w) (.or (blocks.flatMap Predicate.ofBlock))
  | field {h w : List Char} {label : String} {e : Expression} (header : HeaderText h label)
    (unreserved : label ∉ Operator.reserved)
    (command : CommandText (ListText ExpressionText '\x7b' '\x7d') w label e) :
    ExpressionText (h ++ w) e

/-- A block: expressions between braces. -/
abbrev BlockText : List Char → List Expression → Prop := ListText ExpressionText '\x7b' '\x7d'

/-- A whole text: a block with blanks around it. -/
inductive PredicateText : List Char → Predicate → Prop
  | intro {b w b' : List Char} {p : Predicate} (before : Blanks b) (block : BlockText w p)
    (after : Blanks b') : PredicateText (b ++ (w ++ b')) p

end DocQuery.Grammar
