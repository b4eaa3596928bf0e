import DocQuery.Projection.Parser
import DocQuery.Text.Scan

/-!
# Scanning projections

The parser of projections as it moves over the bytes of a text. It goes back to where a field starts
if a colon stands there without an alias.

* `Projection.scanField`, `Projection.scanSelection` — fields and selections.
* `Projection.scan` — a whole text.
-/

set_option autoImplicit false

namespace DocQuery.Projection

open Scan

/-- Moves over a name or a lone `*`; the name is empty where none stands. -/
def scanNameText : Scan String := do
  let start ← cursor
  if (← peek) == ascii '*' then
    moveTo (start + 1)
    pure "*"
  else
    skipRun isNameChar
    slice start (← cursor)

def scanFloat : Scan Double := float fun _ => "not a number: invalid float literal"

/-- The value of a parameter. -/
def scanParamValue : Scan Value := do
  let b ← peek
  if b == ascii '"' then Value.string <$> quoted '"'
  else if b == ascii '\'' then Value.string <$> quoted '\''
  else if isAscii Char.isDigit b || b == ascii '-' then Value.float <$> scanFloat
  else if b == ascii 't' then
    if ← startsWith "true" then
      moveTo ((← cursor) + 4)
      pure (.bool true)
    else fail "looking for value"
  else if b == ascii 'f' then
    if ← startsWith "false" then
      moveTo ((← cursor) + 5)
      pure (.bool false)
    else fail "looking for value"
  else fail "looking for value"

/-- The sign between the name of a parameter and its value. -/
def scanSign : Scan Unit := do
  if ← accept ':' then pure ()
  else if ← accept '=' then pure ()
  else fail "looking for `:' or `='"

/-- One parameter. -/
def scanParam : Scan (String × Value) := do
  let name ← scanNameText
  if name.isEmpty || name == "*" then fail "looking for parameter name"
  else
    skipGaps
    scanSign
    skipGaps
    let value ← scanParamValue
    pure (name, value)

def scanParamsWithin : Nat → Scan (List (String × Value))
  | 0 => breach .endless
  | fuel + 1 => do
    skipGaps
    let p ← scanParam
    skipGaps
    let b ← peek
    if b == ascii ')' then
      moveTo ((← cursor) + 1)
      pure [p]
    else if b == ascii ',' then
      moveTo ((← cursor) + 1)
      let ps ← scanParamsWithin fuel
      pure (p :: ps)
    else fail "looking for `,' or `)'"

/-- The parameters up to and with the closing parenthesis. -/
def scanParams : Scan Params := do
  Assoc.ofWrites <$> scanParamsWithin ((← size) + 1)

/-- The name of a field and its alias, with the blanks behind them. -/
def scanTitle : Scan (String × Option String) := do
  let start ← cursor
  let first ← scanNameText
  skipGaps
  if ← accept ':' then
    if first.isEmpty then
      moveTo start
      fail "looking for field name"
    else
      skipGaps
      let name ← scanNameText
      if name.isEmpty then fail "looking for field name"
      else
        skipGaps
        pure (name, some first)
  else if first.isEmpty then fail "looking for field name"
  else
    skipGaps
    pure (first, none)

def scanOptionalParams : Scan Params := do
  if ← accept '(' then
    let params ← scanParams
    skipGaps
    pure params
  else pure []

/-- One field; `children` scans a selection after its opening brace. -/
def scanField (children : Scan Projection) : Scan Selection := do
  let (name, shownAs) ← scanTitle
  let params ← scanOptionalParams
  if ← accept '\x7b' then
    let c ← children
    pure ⟨name, shownAs, params, some c⟩
  else pure ⟨name, shownAs, params, none⟩

/-- Fields between commas, up to the end of the text or, where `opened`, a closing brace. -/
def scanFieldsWithin (opened : Bool) (field : Scan Selection) : Nat → Scan Projection
  | 0 => breach .endless
  | fuel + 1 => do
    skipGaps
    let f ← field
    skipGaps
    let b ← peek
    if b == ascii ',' then
      moveTo ((← cursor) + 1)
      let fs ← scanFieldsWithin opened field fuel
      pure (f :: fs)
    else if b == ascii '\x7d' then
      if opened then
        moveTo ((← cursor) + 1)
        pure [f]
      else fail "looking for field name and got `\x7d'"
    else if ← more then fail ("invalid char `" ++ (Char.ofNat b.toNat).toString ++ "`")
    else if opened then fail "looking for `\x7d'"
    else pure [f]

/-- A selection after its opening brace, up to and with the closing one. -/
def scanChildrenWithin : Nat → Scan Projection
  | 0 => breach .endless
  | fuel + 1 => do
    skipGaps
    if ← accept '\x7d' then pure []
    else scanFieldsWithin true (scanField (scanChildrenWithin fuel)) ((← size) + 1)

def scanAll : Scan Projection := do
  scanFieldsWithin false (scanField (scanChildrenWithin ((← size) + 1))) ((← size) + 1)

/-- Scans the text of a projection; a failure is told at the cursor. -/
def scan (text : String) : Except Breach (Except Error Projection) :=
  if text.toList.all isBlank then .ok (.ok [])
  else (scanAll text 0).map fun r => r.1.mapError (.malformed r.2)

end DocQuery.Projection
