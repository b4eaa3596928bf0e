import DocQuery.Text.Literal

/-!
# Scanning the bytes of a text

The parsers walk over the bytes of a text with a cursor. Nothing in a byte says where characters
start, so every use of a place is checked here: a byte is read inside the text only, and the cursor
and the ends of a slice stand at boundaries between characters only. A scan that does otherwise is
in breach, as is one whose loop takes more turns than the text has bytes.

* `Breach`, `Scan` — a scan gives a value or a message, with the cursor where it stands then.
* `Scan.moveTo`, `Scan.byteAt`, `Scan.slice` — the checked uses of a place.
* `Scan.accept`, `Scan.skipGaps`, `Scan.skipRun`, `Scan.enclosed` — moving over tokens and lists.
* `Scan.runEnd`, `Scan.numberEnd`, `Scan.string` — where names, numbers and strings end.
-/

set_option autoImplicit false

namespace DocQuery

/-- What a scan must never do. -/
inductive Breach
  | outOfBounds (place : Nat)
  | offBoundary (place : Nat)
  | reversed (start stop : Nat)
  | endless
  deriving DecidableEq, Repr

/-- From a text and the cursor to a value or a message, and the cursor. -/
def Scan (α : Type) := String → Nat → Except Breach (Except String α × Nat)

namespace Scan

variable {α β : Type}

instance : Monad Scan where
  pure a := fun _ p => .ok (.ok a, p)
  bind m k := fun text p =>
    match m text p with
    | .ok (.ok a, q) => k a text q
    | .ok (.error message, q) => .ok (.error message, q)
    | .error b => .error b

def fail (message : String) : Scan α := fun _ p => .ok (.error message, p)

def breach (b : Breach) : Scan α := fun _ _ => .error b

/-- Sees the failure of a scan under a label. -/
def under (label : String) (m : Scan α) : Scan α := fun text p =>
  (m text p).map fun r => (r.1.mapError fun message => label ++ ": " ++ message, r.2)

/-! ## Places -/

def cursor : Scan Nat := fun _ p => .ok (.ok p, p)

/-- The length of the text. -/
def size : Scan Nat := fun text p => .ok (.ok text.utf8ByteSize, p)

/-- Whether a place is a boundary between characters or an end of the text. -/
def isBoundary (text : String) (i : Nat) : Bool := String.Pos.Raw.isValid text ⟨i⟩

/-- Sets the cursor, at a boundary only. -/
def moveTo (i : Nat) : Scan Unit := fun text _ =>
  if isBoundary text i then .ok (.ok (), i) else .error (.offBoundary i)

/-- The byte at a place, none behind the end. -/
def byteAt? (i : Nat) : Scan (Option UInt8) := fun text p => .ok (.ok text.toUTF8[i]?, p)

/-- The byte at a place inside the text. -/
def byteAt (i : Nat) : Scan UInt8 := do
  match ← byteAt? i with
  | some b => pure b
  | none => breach (.outOfBounds i)

/-- The text between two places. -/
def slice (i j : Nat) : Scan String := fun text p =>
  if !isBoundary text i then .error (.offBoundary i)
  else if !isBoundary text j then .error (.offBoundary j)
  else if j < i then .error (.reversed i j)
  else .ok (.ok (String.Pos.Raw.extract text ⟨i⟩ ⟨j⟩), p)

/-! ## Bytes -/

/-- The byte of an ASCII character. -/
def ascii (c : Char) : UInt8 := UInt8.ofNat c.toNat

/-- Whether a byte is an ASCII character of a kind. -/
def isAscii (kind : Char → Bool) (b : UInt8) : Bool := b.toNat < 128 && kind (Char.ofNat b.toNat)

/-- A byte in a message. -/
def shownByte (b : UInt8) : String :=
  if b = 0 then "'\\x00'" else "'" ++ shownChar '\'' (Char.ofNat b.toNat) ++ "'"

/-- The byte at the cursor, zero at the end. -/
def peek : Scan UInt8 := do
  let b ← byteAt? (← cursor)
  pure (b.getD 0)

def more : Scan Bool := do
  pure (decide ((← cursor) < (← size)))

/-- Moves over one given character if it stands next. -/
def accept (c : Char) : Scan Bool := do
  if (← more) && (← peek) == ascii c then
    moveTo ((← cursor) + 1)
    pure true
  else pure false

def skipGapsWithin : Nat → Scan Unit
  | 0 => breach .endless
  | fuel + 1 => do
    if isAscii isGap (← peek) then
      moveTo ((← cursor) + 1)
      skipGapsWithin fuel
    else pure ()

def skipGaps : Scan Unit := do
  skipGapsWithin ((← size) + 1)

def skipRunWithin (kind : Char → Bool) : Nat → Scan Unit
  | 0 => breach .endless
  | fuel + 1 => do
    if ← more then
      if isAscii kind (← byteAt (← cursor)) then
        moveTo ((← cursor) + 1)
        skipRunWithin kind fuel
      else pure ()
    else pure ()

/-- Moves over the run of characters of a kind that stands next. -/
def skipRun (kind : Char → Bool) : Scan Unit := do
  skipRunWithin kind ((← size) + 1)

/-- Whether a word stands next. -/
def startsWith (word : String) : Scan Bool := do
  let rest ← slice (← cursor) (← size)
  pure (word.toList.isPrefixOf rest.toList)

/-- Fails at what stands next. -/
def missing (wanted : String) : Scan α := do
  fail ("expected " ++ wanted ++ " got " ++ shownByte (← peek))

def require (c : Char) (wanted : String) : Scan Unit := do
  if ← accept c then pure () else missing wanted

/-! ## Lists -/

/-- Items between commas, up to and with `closing`. -/
def items (closing : Char) (wanted : String) (item : Nat → Scan α) : Nat → Nat → Scan (List α)
  | 0, _ => breach .endless
  | fuel + 1, index => do
    skipGaps
    let a ← item index
    skipGaps
    if ← accept ',' then
      let as ← items closing wanted item fuel (index + 1)
      pure (a :: as)
    else
      require closing wanted
      pure [a]

/-- A list whose opening character is behind. -/
def list (closing : Char) (wanted : String) (item : Nat → Scan α) : Scan (List α) := do
  skipGaps
  if ← accept closing then pure [] else items closing wanted item ((← size) + 1) 0

/-- A list between an opening and a closing character. -/
def enclosed (opening : Char) (start : String) (closing : Char) (stop : String)
    (item : Nat → Scan α) : Scan (List α) := do
  require opening start
  list closing stop item

/-! ## Where tokens end -/

def runEndWithin (kind : Char → Bool) : Nat → Nat → Scan Nat
  | 0, _ => breach .endless
  | fuel + 1, i => do
    if i < (← size) then
      if isAscii kind (← byteAt i) then runEndWithin kind fuel (i + 1) else pure i
    else pure i

/-- The end of the run of characters of a kind that starts at a place. -/
def runEnd (kind : Char → Bool) (start : Nat) : Scan Nat := do
  runEndWithin kind ((← size) + 1) start

/-- Whether the byte in front of a sign makes it the sign of an exponent. -/
def signsExponent (i : Nat) (b : UInt8) : Scan Bool := do
  if b == ascii '-' || b == ascii '+' then
    let before ← byteAt (i - 1)
    pure (before == ascii 'e')
  else pure false

def numberTailEnd : Nat → Nat → Scan Nat
  | 0, _ => breach .endless
  | fuel + 1, i => do
    match ← byteAt? i with
    | none => pure i
    | some b =>
      let signed ← signsExponent i b
      if isAscii Char.isDigit b || b == ascii '.' || b == ascii 'e' || signed then
        numberTailEnd fuel (i + 1)
      else pure i

/-- The end of what looks like a number without a sign and starts at a place. -/
def unsignedEnd (start : Nat) : Scan (Option Nat) := do
  let digit ← byteAt? start
  if digit.any (isAscii Char.isDigit) then
    let stop ← numberTailEnd ((← size) + 1) (start + 1)
    pure (some stop)
  else pure none

/-- The end of what looks like a number and starts at a place. -/
def numberEnd (start : Nat) : Scan (Option Nat) := do
  let sign ← byteAt? start
  if sign == some (ascii '-') then unsignedEnd (start + 1) else unsignedEnd start

/-- The place behind the quote that closes a string, and whether no backslash stands before it.
`escaped` tells that a backslash stands in front of `i`. -/
def stringEndWithin (quoteMark : Char) : Nat → Nat → Bool → Bool → Scan (Option (Nat × Bool))
  | 0, _, _, _ => breach .endless
  | fuel + 1, i, escaped, simple => do
    if i < (← size) then
      let b ← byteAt i
      if escaped then stringEndWithin quoteMark fuel (i + 1) false simple
      else if b == ascii '\\' then stringEndWithin quoteMark fuel (i + 1) true false
      else if b == ascii quoteMark then pure (some (i + 1, simple))
      else stringEndWithin quoteMark fuel (i + 1) false simple
    else pure none

/-- The string that starts at a place, and the place behind it. -/
def string (quoteMark : Char) (start : Nat) : Scan (String × Nat) := do
  let opening ← byteAt? start
  if opening == some (ascii quoteMark) then
    match ← stringEndWithin quoteMark ((← size) + 1) (start + 1) false true with
    | none => fail "not a string: unexpected EOF"
    | some (stop, simple) =>
      let inner ← slice (start + 1) (stop - 1)
      if simple then pure (inner, stop)
      else
        match Literal.contents quoteMark inner.toList with
        | .ok cs => pure (String.ofList cs, stop)
        | .error p => fail p.text
  else fail "not a string"

/-- Moves over a string. -/
def quoted (quoteMark : Char) : Scan String := do
  let (value, stop) ← string quoteMark (← cursor)
  moveTo stop
  pure value

/-- Moves over a finite number; `bad` tells of what only looks like one. -/
def float (bad : String → String) : Scan Double := do
  let start ← cursor
  match ← numberEnd start with
  | none => fail "not a number"
  | some stop =>
    let digits ← slice start stop
    match Bound.ofChars digits.toList with
    | some (.finite d) =>
      moveTo stop
      pure d
    | some _ => fail "not a number: out of range"
    | none => fail (bad digits)

end Scan

end DocQuery
