import DocQuery.Pattern.Size
import DocQuery.Text.CaseFolding

/-!
# Reading regular expressions

The usual notation: alternation, grouping, repetition with `?`, `*`, `+` and counts, bracketed
classes with nested classes and set operations, escapes, anchors, named properties, and flags for a
group or for what follows. Look-around and back references are refused.

* `Regex.parse` — the expression of a pattern's text, or what is wrong with it.
-/

set_option autoImplicit false

namespace DocQuery

namespace Regex

/-- What is wrong with a pattern. -/
inductive Problem
  | classUnclosed | classRangeInvalid | classRangeLiteral | classEscapeInvalid
  | decimalInvalid | escapeUnfinished | escapeUnknown | escapeHexEmpty | escapeHexInvalid
  | backReference | flagUnknown | flagRepeated | flagsUnfinished | flagNegationDangling
  | groupNameDuplicate | groupNameEmpty | groupNameInvalid | groupNameUnfinished
  | groupUnclosed | groupUnopened | lookAround | nestingTooDeep
  | repetitionCountInvalid | repetitionCountUnclosed | repetitionCountEmpty | repetitionMissing
  | wordBoundaryUnclosed | wordBoundaryUnknown
  | propertyUnknown | unicodeNotAllowed | notText | tooLarge
  deriving DecidableEq, Repr

namespace Problem

def text : Problem → String
  | classUnclosed => "unclosed character class"
  | classRangeInvalid => "invalid character class range, the start must be <= the end"
  | classRangeLiteral => "invalid range boundary, must be a literal"
  | classEscapeInvalid => "invalid escape sequence found in character class"
  | decimalInvalid => "decimal literal invalid"
  | escapeUnfinished => "incomplete escape sequence, reached end of pattern prematurely"
  | escapeUnknown => "unrecognized escape sequence"
  | escapeHexEmpty => "hexadecimal literal empty"
  | escapeHexInvalid => "hexadecimal literal is not a Unicode scalar value"
  | backReference => "backreferences are not supported"
  | flagUnknown => "unrecognized flag"
  | flagRepeated => "duplicate flag"
  | flagsUnfinished => "expected flag but got end of regex"
  | flagNegationDangling => "dangling flag negation operator"
  | groupNameDuplicate => "duplicate capture group name"
  | groupNameEmpty => "empty capture group name"
  | groupNameInvalid => "invalid capture group character"
  | groupNameUnfinished => "unclosed capture group name"
  | groupUnclosed => "unclosed group"
  | groupUnopened => "unopened group"
  | lookAround => "look-around, including look-ahead and look-behind, is not supported"
  | nestingTooDeep => "exceed the maximum number of nested parentheses/brackets"
  | repetitionCountInvalid =>
    "invalid repetition count range, the start must be <= the end"
  | repetitionCountUnclosed => "unclosed counted repetition"
  | repetitionCountEmpty => "repetition quantifier expects a valid decimal"
  | repetitionMissing => "repetition operator missing expression"
  | wordBoundaryUnclosed => "special word boundary assertion is unclosed"
  | wordBoundaryUnknown => "unrecognized special word boundary assertion"
  | propertyUnknown => "Unicode property not found"
  | unicodeNotAllowed => "Unicode not allowed here"
  | notText => "pattern can match invalid UTF-8"
  | tooLarge => "compiled regex exceeds size limit"

end Problem

/-- The flags in force at a place of the pattern. -/
structure Flags where
  ignoreCase : Bool := false
  multiLine : Bool := false
  dotAll : Bool := false
  crlf : Bool := false
  unicode : Bool := true
  spaced : Bool := false
  deriving Repr

/-- An expression with the depth of its nesting. -/
structure Piece where
  regex : Regex
  depth : Nat
  /-- Flags stand between expressions and cannot be repeated. -/
  repeatable : Bool := true

/-- Skips a comment up to its line end. -/
def skipComment : List Char → List Char
  | [] => []
  | '\n' :: s => s
  | _ :: s => skipComment s

/-- Skips blanks and comments, where the flags say that they do not count. -/
def skipSpaced (flags : Flags) : Nat → List Char → List Char
  | 0, s => s
  | _ + 1, [] => []
  | fuel + 1, c :: s =>
    if !flags.spaced then c :: s
    else if isBlank c then skipSpaced flags fuel s
    else if c = '#' then skipSpaced flags fuel (skipComment s)
    else c :: s

def skip (flags : Flags) (s : List Char) : List Char := skipSpaced flags (s.length + 1) s

/-! ## Escapes -/

/-- What an escape stands for. -/
inductive Escape
  | literal (c : Char) (isByte : Bool)
  | set (s : CharSet)
  | place (a : Assertion)

def isHexDigit (c : Char) : Bool :=
  ('0' ≤ c && c ≤ '9') || ('a' ≤ c && c ≤ 'f') || ('A' ≤ c && c ≤ 'F')

def hexValue (c : Char) : Nat :=
  if c ≤ '9' then c.toNat - 48 else if c ≤ 'F' then c.toNat - 55 else c.toNat - 87

/-- The character of hexadecimal digits. -/
def hexChar (digits : List Char) : Except Problem Char :=
  let n := digits.foldl (fun n c => n * 16 + hexValue c) 0
  if h : n.isValidChar then .ok (Char.ofNatAux n h) else .error .escapeHexInvalid

/-- A given number of hexadecimal digits. -/
def hexFixed (flags : Flags) : Nat → List Char → Except Problem (List Char × List Char)
  | 0, s => .ok ([], s)
  | n + 1, s =>
    match skip flags s with
    | [] => .error .escapeUnfinished
    | c :: r =>
      if isHexDigit c then do
        let (ds, r) ← hexFixed flags n r
        .ok (c :: ds, r)
      else .error .escapeHexInvalid

/-- Characters up to a closing brace. -/
def untilBrace (flags : Flags) : Nat → List Char → Except Problem (List Char × List Char)
  | 0, _ => .error .escapeUnfinished
  | fuel + 1, s =>
    match skip flags s with
    | [] => .error .escapeUnfinished
    | c :: r =>
      if c = '\x7d' then .ok ([], r)
      else do
        let (cs, r) ← untilBrace flags fuel r
        .ok (c :: cs, r)

/-- The digits after `x`, `u` or `U`: in braces, or `count` of them. -/
def hexEscape (flags : Flags) (count : Nat) (s : List Char) : Except Problem (Escape × List Char) :=
  match skip flags s with
  | [] => .error .escapeUnfinished
  | c :: r =>
    if c = '\x7b' then do
      let (ds, r) ← untilBrace flags (r.length + 1) r
      if !ds.all isHexDigit then .error .escapeHexInvalid
      else if ds = [] then .error .escapeHexEmpty
      else if (ds.dropWhile (· == '0')).length > 8 then .error .escapeHexInvalid
      else .ok (.literal (← hexChar ds) false, r)
    else do
      let (ds, r) ← hexFixed flags count (c :: r)
      .ok (.literal (← hexChar ds) (count = 2), r)

/-- A set or its complement. A complement holds characters beyond ASCII, which have no place in a
pattern that is not Unicode. -/
def negateIf (flags : Flags) (negated : Bool) (s : CharSet) : Except Problem CharSet :=
  if !negated then .ok s
  else if flags.unicode then .ok s.complement
  else .error .notText

def foldIf (flags : Flags) (s : CharSet) : CharSet :=
  if !flags.ignoreCase then s else if flags.unicode then s.foldCase else s.foldAsciiCase

/-- A set with its letter cases, or the complement of that. -/
def foldAndNegate (flags : Flags) (negated : Bool) (s : CharSet) : Except Problem CharSet :=
  negateIf flags negated (foldIf flags s)

/-- What stands in front of `mark` and behind it, at its first place. -/
def splitAtMark (mark : List Char) : List Char → Option (List Char × List Char)
  | [] => none
  | c :: s =>
    if mark.isPrefixOf (c :: s) then some ([], (c :: s).drop mark.length)
    else (splitAtMark mark s).map fun p => (c :: p.1, p.2)

/-- The set that a name between braces stands for: a name alone or a name and a value, which may be
denied. -/
def propertySet (flags : Flags) (negated : Bool) (name : List Char) : Except Problem CharSet :=
  let build (found : Option CharSet) (negated : Bool) : Except Problem CharSet :=
    match found with
    | some s => foldAndNegate flags negated s
    | none => .error .propertyUnknown
  if !flags.unicode then .error .unicodeNotAllowed
  else match splitAtMark ['!', '='] name with
    | some (kind, value) => build (CharSet.valued? kind value) (!negated)
    | none =>
      match splitAtMark [':'] name <|> splitAtMark ['='] name with
      | some (kind, value) => build (CharSet.valued? kind value) negated
      | none => build (CharSet.named? name) negated

/-- The property after `p` or, denied, after `P`: a name in braces or a single letter. -/
def propertyEscape (flags : Flags) (negated : Bool) (s : List Char) :
    Except Problem (Escape × List Char) :=
  match skip flags s with
  | [] => .error .escapeUnfinished
  | c :: r =>
    if c = '\x7b' then do
      let (name, r) ← untilBrace flags (r.length + 1) r
      .ok (.set (← propertySet flags negated name), r)
    else if c = '\\' then .error .propertyUnknown
    else do
      .ok (.set (← propertySet flags negated [c]), r)

/-- The characters of the names of word boundaries. -/
def isBoundaryChar (c : Char) : Bool := c.isAlpha || c == '-'

/-- The name of a word boundary, and what follows it. -/
def boundaryName (flags : Flags) : Nat → List Char → List Char × List Char
  | 0, s => ([], s)
  | _ + 1, [] => ([], [])
  | fuel + 1, c :: s =>
    if isBoundaryChar c then
      let (name, rest) := boundaryName flags fuel (skip flags s)
      (c :: name, rest)
    else ([], c :: s)

/-- The word boundary after `b`: a special one, if its name follows in braces. Braces that hold
something else are left for a repetition. -/
def wordBoundary (flags : Flags) (s : List Char) : Except Problem (Assertion × List Char) :=
  let ascii := !flags.unicode
  match s with
  | '\x7b' :: r =>
    match skip flags r with
    | [] => .error .wordBoundaryUnclosed
    | c :: r =>
      if !isBoundaryChar c then .ok (.wordBoundary ascii, s)
      else
        match boundaryName flags (r.length + 1) (c :: r) with
        | (name, '\x7d' :: rest) =>
          if name = "start".toList then .ok (.wordStart ascii, rest)
          else if name = "end".toList then .ok (.wordEnd ascii, rest)
          else if name = "start-half".toList then .ok (.wordStartHalf ascii, rest)
          else if name = "end-half".toList then .ok (.wordEndHalf ascii, rest)
          else .error .wordBoundaryUnknown
        | _ => .error .wordBoundaryUnclosed
  | s => .ok (.wordBoundary ascii, s)

/-- The set of one of the letters `d`, `s` and `w`. -/
def perlSet (flags : Flags) (letter : Char) : CharSet :=
  match letter with
  | 'd' => if flags.unicode then CharSet.digits else CharSet.asciiDigits
  | 's' => if flags.unicode then CharSet.blanks else CharSet.asciiBlanks
  | _ => if flags.unicode then CharSet.wordChars else CharSet.asciiWordChars

/-- Characters that may be escaped though they would stand for themselves. -/
def isEscapable (c : Char) : Bool :=
  c.toNat < 0x80 && !c.isAlphanum && c != '<' && c != '>'

/-- What stands after a backslash. -/
def escape (flags : Flags) (s : List Char) : Except Problem (Escape × List Char) :=
  let ascii := !flags.unicode
  match s with
  | [] => .error .escapeUnfinished
  | c :: r =>
    if c.isDigit then .error .backReference
    else if c = 'x' then hexEscape flags 2 r
    else if c = 'u' then hexEscape flags 4 r
    else if c = 'U' then hexEscape flags 8 r
    else if c = 'p' then propertyEscape flags false r
    else if c = 'P' then propertyEscape flags true r
    else if c = 'd' ∨ c = 's' ∨ c = 'w' then .ok (.set (perlSet flags c), r)
    else if c = 'D' ∨ c = 'S' ∨ c = 'W' then do
      .ok (.set (← negateIf flags true (perlSet flags c.toLower)), r)
    else if isEscapable c then .ok (.literal c false, r)
    else
      match c with
      | 'a' => .ok (.literal '\x07' false, r)
      | 'f' => .ok (.literal '\x0c' false, r)
      | 't' => .ok (.literal '\t' false, r)
      | 'n' => .ok (.literal '\n' false, r)
      | 'r' => .ok (.literal '\r' false, r)
      | 'v' => .ok (.literal '\x0b' false, r)
      | 'A' => .ok (.place .textStart, r)
      | 'z' => .ok (.place .textEnd, r)
      | 'b' => (wordBoundary flags r).map fun p => (.place p.1, p.2)
      | 'B' => .ok (.place (.notWordBoundary ascii), r)
      | '<' => .ok (.place (.wordStart ascii), r)
      | '>' => .ok (.place (.wordEnd ascii), r)
      | _ => .error .escapeUnknown

/-! ## Classes in brackets -/

/-- An ASCII class such as `[:alpha:]`, if one stands after an opening bracket: the class, whether
it is denied, and the rest. -/
def asciiClass (s : List Char) : Option ((CharSet × Bool) × List Char) :=
  match s with
  | ':' :: r =>
    let negated := r.head? = some '^'
    let r := if negated then r.drop 1 else r
    let name := r.takeWhile (· != ':')
    match r.drop name.length with
    | ':' :: ']' :: rest =>
      (CharSet.asciiClass? (String.ofList name)).map fun set => ((set, negated), rest)
    | _ => none
  | _ => none

/-- One item of a class: a literal, which may bound a range, or a set. -/
def classItem (flags : Flags) (s : List Char) : Except Problem (Escape × List Char) :=
  match s with
  | [] => .error .classUnclosed
  | '\\' :: r => escape flags r
  | c :: r => .ok (.literal c false, r)

/-- The code point of a literal in a class. -/
def classLiteral (flags : Flags) : Escape → Except Problem Nat
  | .literal c isByte =>
    if flags.unicode || c.toNat < 0x80 then .ok c.toNat
    else if isByte then .error .notText
    else .error .unicodeNotAllowed
  | _ => .error .classRangeLiteral

def itemSet (flags : Flags) (e : Escape) : Except Problem CharSet :=
  match e with
  | .set s => .ok s
  | .place _ => .error .classEscapeInvalid
  | e => do
    let n ← classLiteral flags e
    .ok (CharSet.range n n)

/-- The character that is taken to come next after a hyphen. Behind blanks it is the first that is
none; a comment among them is not skipped to its end, but looked into. -/
def peekNext (flags : Flags) (s : List Char) : Option Char :=
  if !flags.spaced then s.head?
  else match s.dropWhile isBlank with
    | [] => s.head?
    | '#' :: r => (r.dropWhile isBlank).head? <|> s.head?
    | c :: _ => some c

/-- One item or a range of literals. -/
def classRange (flags : Flags) (s : List Char) : Except Problem (CharSet × List Char) := do
  let (first, r) ← classItem flags s
  match skip flags r with
  | [] => .error .classUnclosed
  | c :: r' =>
    let next := peekNext flags r'
    if c ≠ '-' ∨ next = some ']' ∨ next = some '-' then
      .ok (← itemSet flags first, c :: r')
    else
      match skip flags r' with
      | [] => .error .classUnclosed
      | r' => do
        let (second, r) ← classItem flags r'
        let a ← classLiteral flags first
        let b ← classLiteral flags second
        if a ≤ b then .ok (CharSet.range a b, r) else .error .classRangeInvalid

/-- The operations between the parts of a class. -/
inductive ClassOperation
  | inter | diff | symmDiff

def ClassOperation.apply : ClassOperation → CharSet → CharSet → CharSet
  | .inter, s, t => s.inter t
  | .diff, s, t => s.diff t
  | .symmDiff, s, t => s.symmDiff t

/-- A set with the depth of the nesting that it was written in. -/
structure Nested where
  set : CharSet
  depth : Nat

/-- The items of a part of a class. -/
structure Items where
  count : Nat := 0
  set : CharSet := .empty
  depth : Nat := 0

def Items.push (items : Items) (item : Nested) : Items :=
  ⟨items.count + 1, items.set.union item.set, Nat.max items.depth item.depth⟩

/-- Several items are nested in their union. -/
def Items.close (items : Items) : Nested :=
  ⟨items.set, if items.count ≤ 1 then items.depth else items.depth + 1⟩

/-- What was read of a class: the parts in front of the last operation, and the current part. -/
structure ClassState where
  pending : Option (ClassOperation × Nested) := none
  current : Items := {}

def ClassState.push (st : ClassState) (item : Nested) : ClassState :=
  { st with current := st.current.push item }

/-- Applies the pending operation. -/
def ClassState.close (flags : Flags) (st : ClassState) : Nested :=
  let right := st.current.close
  match st.pending with
  | none => right
  | some (op, left) =>
    ⟨op.apply (foldIf flags left.set) (foldIf flags right.set), Nat.max left.depth right.depth + 1⟩

/-- Starts the part behind an operation. -/
def ClassState.operate (flags : Flags) (st : ClassState) (op : ClassOperation) : ClassState :=
  ⟨some (op, st.close flags), {}⟩

/-- The hyphens that stand for themselves at the front of a class. -/
def classHyphens (flags : Flags) : Nat → Items → List Char → Items × List Char
  | 0, items, s => (items, s)
  | fuel + 1, items, s =>
    match skip flags s with
    | '-' :: r => classHyphens flags fuel (items.push ⟨CharSet.single '-', 0⟩) r
    | r => (items, r)

/-- The hyphens and the bracket that stand for themselves at the front of a class. -/
def classFront (flags : Flags) (s : List Char) : Except Problem (Items × List Char) :=
  match classHyphens flags (s.length + 1) {} s with
  | (_, []) => .error .classUnclosed
  | (items, ']' :: r) =>
    if items.count ≠ 0 then .ok (items, ']' :: r)
    else if skip flags r = [] then .error .classUnclosed
    else .ok (items.push ⟨CharSet.single ']', 0⟩, r)
  | (items, r) => .ok (items, r)

mutual

/-- A class after its opening bracket, up to and with its closing one. -/
def bracketed (flags : Flags) : Nat → List Char → Except Problem (Nested × List Char)
  | 0, _ => .error .classUnclosed
  | fuel + 1, s =>
    match skip flags s with
    | [] => .error .classUnclosed
    | c :: r => do
      let negated := c = '^'
      let (front, r) ← classFront flags (if negated then r else c :: r)
      let (inside, r) ← classItems flags fuel ⟨none, front⟩ r
      .ok (⟨← foldAndNegate flags negated inside.set, inside.depth + 1⟩, r)

/-- The items of a class. -/
def classItems (flags : Flags) : Nat → ClassState → List Char → Except Problem (Nested × List Char)
  | 0, _, _ => .error .classUnclosed
  | fuel + 1, st, s =>
    match skip flags s with
    | [] => .error .classUnclosed
    | '[' :: r =>
      match asciiClass r with
      | some ((set, negated), r) => do
        let set ← foldAndNegate flags negated set
        classItems flags fuel (st.push ⟨set, 0⟩) r
      | none => do
        let (inner, r) ← bracketed flags fuel r
        classItems flags fuel (st.push inner) r
    | ']' :: r => .ok (st.close flags, r)
    | '&' :: '&' :: r => classItems flags fuel (st.operate flags .inter) r
    | '-' :: '-' :: r => classItems flags fuel (st.operate flags .diff) r
    | '~' :: '~' :: r => classItems flags fuel (st.operate flags .symmDiff) r
    | s => do
      let (set, r) ← classRange flags s
      classItems flags fuel (st.push ⟨set, 0⟩) r

end

/-! ## Flags and groups -/

/-- One flag turned on or off. -/
def setFlag (flags : Flags) (c : Char) (on : Bool) : Except Problem Flags :=
  match c with
  | 'i' => .ok { flags with ignoreCase := on }
  | 'm' => .ok { flags with multiLine := on }
  | 's' => .ok { flags with dotAll := on }
  | 'R' => .ok { flags with crlf := on }
  | 'u' => .ok { flags with unicode := on }
  | 'x' => .ok { flags with spaced := on }
  | 'U' => .ok flags
  | _ => .error .flagUnknown

/-- Flags up to a colon or a closing parenthesis, which is left; `seen` holds what was read. -/
def readFlags : Flags → List Char → List Char → Except Problem (Flags × List Char × List Char)
  | flags, seen, s =>
    match s with
    | [] => .error .flagsUnfinished
    | c :: r =>
      if c = ':' ∨ c = ')' then
        if seen.head? = some '-' then .error .flagNegationDangling else .ok (flags, seen, c :: r)
      else if c = '-' then
        if seen.contains '-' then .error .flagRepeated
        else if r = [] then .error .flagsUnfinished
        else readFlags flags ('-' :: seen) r
      else
        match setFlag flags c (!seen.contains '-') with
        | .error e => .error e
        | .ok flags' =>
          if seen.contains c then .error .flagRepeated
          else if r = [] then .error .flagsUnfinished
          else readFlags flags' (c :: seen) r

/-- The name of a group up to `>`. -/
def groupName (names : List String) (s : List Char) : Except Problem (String × List Char) :=
  let name := s.takeWhile (· != '>')
  let okFirst (c : Char) : Bool := c == '_' || isAlphabetic c
  let okLater (c : Char) : Bool :=
    c == '_' || c == '.' || c == '[' || c == ']' || isAlphanumeric c
  let valid : Bool := match name with
    | [] => true
    | c :: cs => okFirst c && cs.all okLater
  if !valid then .error .groupNameInvalid
  else
    match s.drop name.length with
    | [] => .error .groupNameUnfinished
    | _ :: r =>
      if name = [] then .error .groupNameEmpty
      else if names.contains (String.ofList name) then .error .groupNameDuplicate
      else .ok (String.ofList name, r)

/-- What an opening parenthesis starts. -/
inductive Opening
  /-- A group that is not counted, with its flags. -/
  | group (flags : Flags)
  /-- A counted group and, if it has one, its name. -/
  | counted (name : Option String)
  /-- Flags for what follows. -/
  | switch (flags : Flags)

def opening (flags : Flags) (names : List String) (s : List Char) :
    Except Problem (Opening × List Char) :=
  match skip flags s with
  | '?' :: '=' :: _ => .error .lookAround
  | '?' :: '!' :: _ => .error .lookAround
  | '?' :: '<' :: '=' :: _ => .error .lookAround
  | '?' :: '<' :: '!' :: _ => .error .lookAround
  | '?' :: 'P' :: '<' :: r => (groupName names r).map fun p => (.counted (some p.1), p.2)
  | '?' :: '<' :: r => (groupName names r).map fun p => (.counted (some p.1), p.2)
  | '?' :: r =>
    if r = [] then .error .groupUnclosed
    else
      match readFlags flags [] r with
      | .error e => .error e
      | .ok (flags', seen, ')' :: r) =>
        if seen = [] then .error .repetitionMissing else .ok (.switch flags', r)
      | .ok (flags', _, _ :: r) => .ok (.group flags', r)
      | .ok (_, _, []) => .error .flagsUnfinished
  | r => .ok (.counted none, r)

/-! ## Repetition -/

/-- Digits in a row, and what follows them. -/
def digitRun (flags : Flags) : Nat → List Char → List Char × List Char
  | 0, s => ([], s)
  | _ + 1, [] => ([], [])
  | fuel + 1, c :: s =>
    if c.isDigit then
      let (digits, rest) := digitRun flags fuel (skip flags s)
      (c :: digits, rest)
    else ([], c :: s)

/-- A decimal number between optional blanks. -/
def decimal (flags : Flags) (s : List Char) : Except Problem (Nat × List Char) :=
  let (digits, rest) := digitRun flags s.length (s.dropWhile isBlank)
  if digits = [] then .error .repetitionCountEmpty
  else
    let n := digits.foldl (fun n c => 10 * n + (c.toNat - 48)) 0
    if n < 4294967296 then .ok (n, rest.dropWhile isBlank) else .error .decimalInvalid

/-- A counted repetition after its opening brace. -/
def counted (flags : Flags) (s : List Char) : Except Problem ((Nat × Option Nat) × List Char) := do
  match skip flags s with
  | [] => .error .repetitionCountUnclosed
  | s => do
    let (min, r) ← decimal flags s
    match r with
    | [] => .error .repetitionCountUnclosed
    | ',' :: r =>
      match skip flags r with
      | [] => .error .repetitionCountUnclosed
      | '\x7d' :: r => .ok ((min, none), r)
      | r => do
        let (max, r) ← decimal flags r
        match r with
        | '\x7d' :: r =>
          if min ≤ max then .ok ((min, some max), r) else .error .repetitionCountInvalid
        | _ => .error .repetitionCountUnclosed
    | '\x7d' :: r => .ok ((min, some min), r)
    | _ => .error .repetitionCountUnclosed

/-- Repeats the last item. -/
def repeatLast (min : Nat) (max : Option Nat) : List Piece → Except Problem (List Piece)
  | [] => .error .repetitionMissing
  | p :: ps =>
    if p.repeatable then .ok (⟨p.regex.times min max, p.depth + 1, true⟩ :: ps)
    else .error .repetitionMissing

/-- Drops the mark of a lazy repetition. -/
def dropLazy : List Char → List Char
  | '?' :: r => r
  | r => r

/-! ## Expressions -/

/-- A character as an expression. -/
def literal (flags : Flags) (c : Char) (isByte : Bool) : Except Problem Piece :=
  if !flags.unicode && isByte && 0x80 ≤ c.toNat then .error .notText
  else .ok ⟨.chars (foldIf flags (CharSet.single c)), 0, true⟩

def dotSet (flags : Flags) : CharSet :=
  if flags.dotAll then .all
  else if flags.crlf then CharSet.complement ⟨[(10, 10), (13, 13)]⟩
  else CharSet.complement ⟨[(10, 10)]⟩

/-- An escape as an expression. -/
def escapePiece (flags : Flags) : Escape → Except Problem Piece
  | .literal c isByte => literal flags c isByte
  | .set s => .ok ⟨.chars s, 0, true⟩
  | .place a => .ok ⟨.assert a, 0, true⟩

/-- The items of a branch, last first, as one piece. -/
def closeBranch : List Piece → Piece
  | [] => ⟨.empty, 0, true⟩
  | [p] => ⟨p.regex, p.depth, true⟩
  | ps =>
    ⟨.sequence (ps.reverse.map (·.regex)), (ps.map (·.depth)).foldl Nat.max 0 + 1, true⟩

/-- The branches of an alternation, last first, as one piece. -/
def closeBranches : List Piece → Piece
  | [] => ⟨.empty, 0, true⟩
  | [p] => p
  | ps => ⟨.choice (ps.reverse.map (·.regex)), (ps.map (·.depth)).foldl Nat.max 0 + 1, true⟩

/-- The counted groups up to a place: how many, and the names among them. -/
structure Groups where
  count : Nat := 0
  names : List String := []

/-- One more group. -/
def Groups.push (groups : Groups) (name : Option String) : Groups :=
  ⟨groups.count + 1, name.toList ++ groups.names⟩

/-- What was read of a group's inside, last first. -/
structure BodyState where
  flags : Flags
  groups : Groups
  branches : List Piece := []
  items : List Piece := []

def BodyState.push (st : BodyState) (p : Piece) : BodyState := { st with items := p :: st.items }

def BodyState.close (st : BodyState) : Piece :=
  closeBranches (closeBranch st.items :: st.branches)

/-- The inside of a group or, at the top, the whole pattern; also the groups up to its end. -/
def body (inGroup : Bool) : Nat → BodyState → List Char →
    Except Problem ((Piece × Groups) × List Char)
  | 0, _, _ => .error .groupUnclosed
  | fuel + 1, st, s =>
    match skip st.flags s with
    | [] => if inGroup then .error .groupUnclosed else .ok ((st.close, st.groups), [])
    | ')' :: r => if inGroup then .ok ((st.close, st.groups), r) else .error .groupUnopened
    | '(' :: r => do
      match ← opening st.flags st.groups.names r with
      | (.switch flags, r) =>
        body inGroup fuel ({ st with flags := flags }.push ⟨.empty, 0, false⟩) r
      | (.group flags, r) => do
        let ((inner, groups), r) ← body true fuel ⟨flags, st.groups, [], []⟩ r
        let piece : Piece := ⟨inner.regex, inner.depth + 1, true⟩
        body inGroup fuel ({ st with groups := groups }.push piece) r
      | (.counted name, r) => do
        let opened := st.groups.push name
        let ((inner, groups), r) ← body true fuel ⟨st.flags, opened, [], []⟩ r
        let piece : Piece := ⟨.group opened.count inner.regex, inner.depth + 1, true⟩
        body inGroup fuel ({ st with groups := groups }.push piece) r
    | '|' :: r =>
      body inGroup fuel
        { st with branches := closeBranch st.items :: st.branches, items := [] } r
    | '[' :: r => do
      let (inner, r) ← bracketed st.flags (2 * r.length + 2) r
      body inGroup fuel (st.push ⟨.chars inner.set, inner.depth, true⟩) r
    | '?' :: r => do
      let items ← repeatLast 0 (some 1) st.items
      body inGroup fuel { st with items := items } (dropLazy r)
    | '*' :: r => do
      let items ← repeatLast 0 none st.items
      body inGroup fuel { st with items := items } (dropLazy r)
    | '+' :: r => do
      let items ← repeatLast 1 none st.items
      body inGroup fuel { st with items := items } (dropLazy r)
    | '\x7b' :: r => do
      let _ ← repeatLast 0 none st.items
      let ((min, max), r) ← counted st.flags r
      let items ← repeatLast min max st.items
      body inGroup fuel { st with items := items } (dropLazy (skip st.flags r))
    | '\\' :: r => do
      let (e, r) ← escape st.flags r
      let p ← escapePiece st.flags e
      body inGroup fuel (st.push p) r
    | '.' :: r =>
      if !st.flags.unicode then .error .notText
      else body inGroup fuel (st.push ⟨.chars (dotSet st.flags), 0, true⟩) r
    | '^' :: r =>
      let a : Assertion := if st.flags.multiLine then .lineStart st.flags.crlf else .textStart
      body inGroup fuel (st.push ⟨.assert a, 0, true⟩) r
    | '$' :: r =>
      let a : Assertion := if st.flags.multiLine then .lineEnd st.flags.crlf else .textEnd
      body inGroup fuel (st.push ⟨.assert a, 0, true⟩) r
    | c :: r => do
      let p ← literal st.flags c false
      body inGroup fuel (st.push p) r

/-- The depth of nesting that is still accepted. -/
def maxDepth : Nat := 250

/-- The bytes of a matching program that are still accepted. -/
def maxBytes : Nat := 10 * 1048576

/-- Reads a pattern. -/
def parse (text : List Char) : Except Problem Regex := do
  let ((piece, _), _) ← body false (text.length + 1) ⟨{}, {}, [], []⟩ text
  if maxDepth < piece.depth then .error .nestingTooDeep
  else if !piece.regex.fits maxBytes then .error .tooLarge
  else .ok piece.regex

end Regex

end DocQuery
