import DocQuery.Predicate.Parser
import DocQuery.Text.Scan

/-!
# Scanning predicates

The parser of predicates as it moves over the bytes of a text. It goes back to a place it has kept
where a brace turns out to open a document and no operator block, and where an operator stands in
place of a field.

* `Predicate.scanValue`, `Predicate.scanBlock` — values and blocks.
* `Predicate.scan` — a whole text.
-/

set_option autoImplicit false

namespace DocQuery.Predicate

open Scan

def scanString : Scan String := quoted '"'

def scanNumber : Scan Double :=
  float fun digits => "not a number: parsing " ++ shownString digits ++ ": invalid float literal"

def scanBool : Scan Bool := do
  if ← startsWith "true" then
    moveTo ((← cursor) + 4)
    pure true
  else if ← startsWith "false" then
    moveTo ((← cursor) + 5)
    pure false
  else fail "not a boolean"

def scanNull : Scan Unit := do
  if ← startsWith "null" then moveTo ((← cursor) + 4) else fail "not null"

def scanBareLabel : Scan String := do
  let start ← cursor
  let stop ← runEnd isLabelChar start
  if stop = start then missing "a label"
  else
    let label ← slice start stop
    moveTo stop
    pure label

def scanLabelText : Scan String := do
  if (← peek) == ascii '"' then under "invalid label" scanString else scanBareLabel

/-- A label and the colon after it. -/
def scanLabel : Scan String := do
  let label ← scanLabelText
  skipGaps
  require ':' "':'"
  pure label

def scanItems (item : Scan Value) : Scan (List Value) :=
  enclosed '[' "'['" ']' "',' or ']'" fun index => under ("item #" ++ toString index) item

def scanEntry (value : Scan Value) : Scan (String × Value) := do
  let label ← scanLabel
  skipGaps
  let v ← value
  pure (label, v)

def scanDocument (value : Scan Value) : Scan Document :=
  Assoc.ofWrites <$> enclosed '\x7b' "'\x7b'" '\x7d' "'\x7d'" fun _ => scanEntry value

def scanValueWithin : Nat → Scan Value
  | 0 => breach .endless
  | fuel + 1 => do
    let b ← peek
    if b == ascii '"' then Value.string <$> scanString
    else if b == ascii '\x7b' then Value.object <$> scanDocument (scanValueWithin fuel)
    else if b == ascii '[' then Value.array <$> scanItems (scanValueWithin fuel)
    else if b == ascii 't' || b == ascii 'f' then Value.bool <$> scanBool
    else if b == ascii 'n' then (fun _ => Value.null) <$> scanNull
    else if isAscii Char.isDigit b || b == ascii '-' then Value.float <$> scanNumber
    else fail ("unexpected char " ++ shownByte b)

def scanValue : Scan Value := do
  scanValueWithin ((← size) + 1)

variable [RegexEngine]

/-- The operand of an operator, as an expression on `field`. -/
def scanOperand (block : Scan (List Expression)) (field : String) : Operator → Scan Expression
  | .exist => (fun b => if b then .exist field else .notExist field) <$> scanBool
  | .among => Expression.among field <$> scanItems scanValue
  | .notAmong => Expression.notAmong field <$> scanItems scanValue
  | .notEqual => Expression.notEqual field <$> scanValue
  | .compare c => (fun d => Expression.compare c field (.finite d)) <$> scanNumber
  | .anyElement => Expression.anyElement field <$> block
  | .regex => do
    let source ← scanString
    match Pattern.ofSource source with
    | .ok pattern => pure (.regex field pattern)
    | .error p => fail ("invalid regex: " ++ p.text)

/-- An operand and the brace that closes its operator block. -/
def scanOperation (block : Scan (List Expression)) (field : String) (op : Operator) :
    Scan Expression :=
  under op.name do
    let e ← scanOperand block field op
    skipGaps
    require '\x7d' "'\x7d'"
    pure e

/-- A value as the command of a field, from `start` on. -/
def scanEquality (field : String) (start : Nat) : Scan Expression := do
  moveTo start
  Expression.equal field <$> scanValue

/-- An operator block, or else a value. -/
def scanCommand (block : Scan (List Expression)) (field : String) : Scan Expression := do
  let start ← cursor
  if ← accept '\x7b' then
    skipGaps
    if ← accept '\x7d' then scanEquality field start
    else
      let label ← scanLabel
      skipGaps
      match Operator.ofName? label with
      | some op => scanOperation block field op
      | none => scanEquality field start
  else scanEquality field start

/-- The blocks under `$and` or `$or`. -/
def scanJunction (block : Scan (List Expression)) (label : String)
    (join : List Expression → Expression) : Scan Expression :=
  under label do
    let blocks ← enclosed '[' "'['" ']' "']'" fun _ => block
    let subs := blocks.flatMap ofBlock
    if subs.length < 2 then fail "two expressions or more required" else pure (join subs)

def scanExpression (block : Scan (List Expression)) : Scan Expression := do
  let start ← cursor
  let label ← scanLabel
  skipGaps
  if label = Operator.andName then scanJunction block label .and
  else if label = Operator.orName then scanJunction block label .or
  else if (Operator.ofName? label).isSome then
    moveTo start
    under label (fail "invalid placement")
  else under label (scanCommand block label)

def scanBlockWithin : Nat → Scan (List Expression)
  | 0 => breach .endless
  | fuel + 1 =>
    enclosed '\x7b' "'\x7b'" '\x7d' "'\x7d'" fun _ => scanExpression (scanBlockWithin fuel)

def scanBlock : Scan (List Expression) := do
  scanBlockWithin ((← size) + 1)

/-- A block with blanks around it. -/
def scanAll : Scan Predicate := do
  skipGaps
  let p ← scanBlock
  skipGaps
  if ← more then missing "EOF" else pure p

/-- Scans the text of a predicate; a failure is told at the cursor. -/
def scan (text : String) : Except Breach (Except Error Predicate) :=
  if text.isEmpty then .ok (.ok [])
  else (scanAll text 0).map fun r => r.1.mapError (.malformed r.2)

end DocQuery.Predicate
