import DocQuery.Error
import DocQuery.Predicate.Basic
import DocQuery.Text.Literal

/-!
# Reading predicates

The grammar, with blanks allowed between all tokens:

* a block is a list of expressions between braces;
* an expression is a label, a colon and a command; under `$and` and `$or` stands a list of blocks,
  of which at least two must hold something;
* a command is an operator block — one operator with its operand between braces — or a value;
* a label is a quoted string or a run of letters, digits and `$`, `.`, `_`, `-`.

A block under `$and` or `$or` stands for its expressions together; an empty one is dropped.

* `Value.read`, `Predicate.readBlock` — the readers.
* `Predicate.parse` — a whole text; the empty text is the empty predicate.
-/

set_option autoImplicit false

namespace DocQuery

/-- Why a predicate's text cannot be read. -/
inductive Predicate.Problem
  /-- Something else than `wanted` stands next. -/
  | expected (wanted : String) (found : Option Char)
  | unexpected (found : Option Char)
  | notBoolean
  | notNull
  | literal (p : Literal.Problem)
  | badPattern (p : Pattern.Problem)
  | twoRequired
  | misplaced
  | nestedTooDeep
  /-- The problem arose under a label. -/
  | under (label : String) (p : Predicate.Problem)
  deriving Repr

namespace Predicate.Problem

def text : Predicate.Problem → String
  | expected wanted found => "expected " ++ wanted ++ " got " ++ shownNext found
  | unexpected found => "unexpected char " ++ shownNext found
  | notBoolean => "not a boolean"
  | notNull => "not null"
  | literal p => p.quotingText
  | badPattern p => "invalid regex: " ++ p.text
  | twoRequired => "two expressions or more required"
  | misplaced => "invalid placement"
  | nestedTooDeep => "nested too deep"
  | under label p => label ++ ": " ++ p.text

end Predicate.Problem

variable [RegexEngine]

namespace Predicate

/-- Sees the failure of a reading under a label. -/
def labelFault {α : Type} (label : String) (r : Except (Fault Problem) α) :
    Except (Fault Problem) α :=
  r.mapError (Fault.map (.under label))

/-- A literal in a predicate. -/
def readLiteral {α : Type} (r : Reader Literal.Problem α) : Reader Problem α := fun s =>
  (r s).mapError (Fault.map .literal)

def readString : Reader Problem String := readLiteral (Literal.string '"')

def readNumber : Reader Problem Double := readLiteral Literal.number

def readBool : Reader Problem Bool
  | 't' :: 'r' :: 'u' :: 'e' :: s => .ok (true, s)
  | 'f' :: 'a' :: 'l' :: 's' :: 'e' :: s => .ok (false, s)
  | s => fault s .notBoolean

def readNull : Reader Problem Unit
  | 'n' :: 'u' :: 'l' :: 'l' :: s => .ok ((), s)
  | s => fault s .notNull

/-- The characters of a label without quotes. -/
def isLabelChar (c : Char) : Bool :=
  c.isAlphanum || c == '$' || c == '.' || c == '_' || c == '-'

/-- A label without quotes. -/
def readBareLabel : Reader Problem String := fun s =>
  let label := s.takeWhile isLabelChar
  if label = [] then fault s (.expected "a label" s.head?)
  else .ok (String.ofList label, s.dropWhile isLabelChar)

/-- A label and the colon after it. -/
def readLabel : Reader Problem String := fun s => do
  let (label, s) ← match s with
    | '"' :: _ => labelFault "invalid label" (readString s)
    | _ => readBareLabel s
  let (_, s) ← expect ':' (.expected "':'") (skipBlanks s)
  .ok (label, s)

/-- A list between brackets whose items are told by their number when they fail. -/
def readItems (item : Reader Problem Value) : Reader Problem (List Value) := fun s => do
  let (_, s) ← expect '[' (.expected "'['") s
  separated ']' (.expected "',' or ']'")
    (fun index s => labelFault ("item #" ++ toString index) (item s)) s

/-- A label with its value. -/
def readEntry (value : Reader Problem Value) : Reader Problem (String × Value) := fun s => do
  let (label, s) ← readLabel s
  let (v, s) ← value (skipBlanks s)
  .ok ((label, v), s)

/-- A document; a repeated key keeps its place and takes the last value. -/
def readDocument (value : Reader Problem Value) : Reader Problem Document := fun s => do
  let (_, s) ← expect '\x7b' (.expected "'\x7b'") s
  let (entries, s) ← separated '\x7d' (.expected "'\x7d'") (fun _ => readEntry value) s
  .ok (Assoc.ofWrites entries, s)

/-- A value nested at most `fuel` deep. -/
def readValueWithin : Nat → Reader Problem Value
  | 0, s => fault s .nestedTooDeep
  | fuel + 1, s =>
    match s with
    | [] => fault s (.unexpected none)
    | c :: _ =>
      if c = '"' then (readString s).map fun p => (.string p.1, p.2)
      else if c = '\x7b' then
        (readDocument (readValueWithin fuel) s).map fun p => (.object p.1, p.2)
      else if c = '[' then (readItems (readValueWithin fuel) s).map fun p => (.array p.1, p.2)
      else if c = 't' ∨ c = 'f' then (readBool s).map fun p => (.bool p.1, p.2)
      else if c = 'n' then (readNull s).map fun p => (.null, p.2)
      else if c.isDigit ∨ c = '-' then (readNumber s).map fun p => (.float p.1, p.2)
      else fault s (.unexpected c)

/-- A value: nesting takes a character for each level, so the length of the text bounds it. -/
def readValue : Reader Problem Value := fun s => readValueWithin (s.length + 1) s

/-- The operand of an operator, as an expression on `field`. -/
def readOperand (block : Reader Problem (List Expression)) (field : String) :
    Operator → Reader Problem Expression
  | .exist, s => (readBool s).map fun p => (if p.1 then .exist field else .notExist field, p.2)
  | .among, s => (readItems readValue s).map fun p => (.among field p.1, p.2)
  | .notAmong, s => (readItems readValue s).map fun p => (.notAmong field p.1, p.2)
  | .notEqual, s => (readValue s).map fun p => (.notEqual field p.1, p.2)
  | .compare c, s => (readNumber s).map fun p => (.compare c field (.finite p.1), p.2)
  | .anyElement, s => (block s).map fun p => (.anyElement field p.1, p.2)
  | .regex, s => do
    let (source, s) ← readString s
    match Pattern.ofSource source with
    | .ok pattern => .ok (.regex field pattern, s)
    | .error p => fault s (.badPattern p)

/-- An operand and the brace that closes its operator block. -/
def readOperation (block : Reader Problem (List Expression)) (field : String) (op : Operator) :
    Reader Problem Expression := fun s =>
  labelFault op.name do
    let (e, s) ← readOperand block field op s
    let (_, s) ← expect '\x7d' (.expected "'\x7d'") (skipBlanks s)
    .ok (e, s)

/-- A value as the command of a field. -/
def readEquality (field : String) : Reader Problem Expression := fun s =>
  (readValue s).map fun p => (.equal field p.1, p.2)

/-- A command: an operator block where a brace and the label of an operator stand next, otherwise a
value. -/
def readCommand (block : Reader Problem (List Expression)) (field : String) :
    Reader Problem Expression := fun s =>
  match s with
  | '\x7b' :: r =>
    match skipBlanks r with
    | '\x7d' :: _ => readEquality field s
    | r => do
      let (label, r) ← readLabel r
      match Operator.ofName? label with
      | some op => readOperation block field op (skipBlanks r)
      | none => readEquality field s
  | _ => readEquality field s

/-- What a block under `$and` or `$or` stands for, nothing where it is empty. -/
def ofBlock : List Expression → List Expression
  | [] => []
  | [e] => [e]
  | es => [.and es]

/-- The blocks under `$and` or `$or`. -/
def readJunction (block : Reader Problem (List Expression)) (label : String)
    (join : List Expression → Expression) : Reader Problem Expression := fun s =>
  labelFault label do
    let (_, s) ← expect '[' (.expected "'['") s
    let (blocks, s) ← separated ']' (.expected "']'") (fun _ => block) s
    let subs := blocks.flatMap ofBlock
    if subs.length < 2 then fault s .twoRequired else .ok (join subs, s)

/-- A label with its command. An operator has no place here; its failure is told at the label. -/
def readExpression (block : Reader Problem (List Expression)) : Reader Problem Expression :=
  fun s => do
    let (label, r) ← readLabel s
    let r := skipBlanks r
    if label = Operator.andName then readJunction block label .and r
    else if label = Operator.orName then readJunction block label .or r
    else if (Operator.ofName? label).isSome then labelFault label (fault s .misplaced)
    else labelFault label (readCommand block label r)

/-- A block nested at most `fuel` deep. -/
def readBlockWithin : Nat → Reader Problem (List Expression)
  | 0, s => fault s .nestedTooDeep
  | fuel + 1, s => do
    let (_, s) ← expect '\x7b' (.expected "'\x7b'") s
    separated '\x7d' (.expected "'\x7d'") (fun _ => readExpression (readBlockWithin fuel)) s

/-- A block; the length of the text bounds its nesting. -/
def readBlock : Reader Problem (List Expression) := fun s => readBlockWithin (s.length + 1) s

/-- A whole text: a block with blanks around it. -/
def readAll (s : List Char) : Except (Fault Problem) Predicate := do
  let (p, s) ← readBlock (skipBlanks s)
  match skipBlanks s with
  | [] => .ok p
  | c :: r => fault (c :: r) (.expected "EOF" c)

/-- Reads the text of a predicate. -/
def parse (text : String) : Except Error Predicate :=
  if text.isEmpty then .ok []
  else (readAll text.toList).mapError fun f => .malformed (f.offset text.toList) f.problem.text

end Predicate

end DocQuery
