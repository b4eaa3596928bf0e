import DocQuery.Pattern.Regex

/-!
# The size of a matching program

A pattern is searched for by a program that reads bytes of UTF-8, once forward and once backward,
and neither program may be too large. A program is counted in steps of 32 bytes, with eight bytes
for each range of bytes that a step tells apart and four for each of the ways that go on from a
fork.

* `byteRows` — the code points of a range as rows of byte ranges.
* `Outline`, `Outline.grow` — what a program is made of, and what becomes of its size.
* `Regex.program` — the outline of the program for an expression, in either direction.
* `Regex.fits` — whether both programs stay within a limit.

Main statements: `Size.bytes_add`, `Outline.grow_both`.
-/

set_option autoImplicit false

namespace DocQuery

/-! ## Ranges of code points as bytes -/

/-- The bytes of a code point. -/
def codeBytes (n : Nat) : List Nat := (String.utf8EncodeChar (Char.ofNat n)).map UInt8.toNat

/-- The code points from `a` to `b` as rows of byte ranges, in rising order: a row stands for all
code points whose bytes fall into its ranges. The range is cut where the number of bytes changes
and until all bytes but the first differing one run through their full range. -/
def byteRows : Nat → Nat → Nat → List (List (Nat × Nat))
  | 0, _, _ => []
  | fuel + 1, a, b =>
    let cut (m : Nat) := byteRows fuel a m ++ byteRows fuel (m + 1) b
    if b < a then []
    else if a < 0xe000 ∧ 0xd7ff < b then byteRows fuel a 0xd7ff ++ byteRows fuel 0xe000 b
    else match [0x7f, 0x7ff, 0xffff].find? fun m => a ≤ m && m < b with
      | some m => cut m
      | none =>
        if b ≤ 0x7f then [[(a, b)]]
        else match [64, 4096, 262144].find? fun unit =>
            a / unit ≠ b / unit && (a % unit ≠ 0 || b % unit ≠ unit - 1) with
          | some unit =>
            if a % unit ≠ 0 then cut (a / unit * unit + unit - 1) else cut (b / unit * unit - 1)
          | none => [(codeBytes a).zip (codeBytes b)]

/-- The rows of a set. -/
def CharSet.byteRows (s : CharSet) : List (List (Nat × Nat)) :=
  s.ranges.flatMap fun r => DocQuery.byteRows 32 r.1 r.2

/-! ## Sizes -/

/-- The size of a program: its steps, and the bytes that they take beside their own. -/
structure Size where
  steps : Nat
  extra : Nat
  deriving DecidableEq, Repr

namespace Size

def zero : Size := ⟨0, 0⟩

def bytes (s : Size) : Nat := 32 * s.steps + s.extra

instance : Add Size := ⟨fun s t => ⟨s.steps + t.steps, s.extra + t.extra⟩⟩

theorem bytes_add (s t : Size) : (s + t).bytes = s.bytes + t.bytes := by
  change 32 * (s.steps + t.steps) + (s.extra + t.extra) = _
  unfold bytes
  omega

/-- The size of several parts. -/
def sum (sizes : List Size) : Size := sizes.foldr (· + ·) zero

end Size

/-! ## Sets of characters, forward -/

/-- The rows without the first range, those with the same first range together. -/
def nextRows : List (List (Nat × Nat)) → List ((Nat × Nat) × List (List (Nat × Nat)))
  | [] => []
  | [] :: rows => nextRows rows
  | (first :: rest) :: rows =>
    match nextRows rows with
    | (range, tails) :: others =>
      if range = first then (range, rest :: tails) :: others
      else (first, [rest]) :: (range, tails) :: others
    | [] => [(first, [rest])]

/-- All sets of rows that are left to read at some place, the whole set included. -/
def openRows : Nat → List (List (Nat × Nat)) → List (List (List (Nat × Nat)))
  | 0, _ => []
  | depth + 1, rows =>
    let next := nextRows rows
    if next.isEmpty then [] else rows :: next.flatMap fun n => openRows depth n.2

/-- A step for each different set of rows that may be left to read, and one at the end. -/
def forwardSize (rows : List (List (Nat × Nat))) : Size :=
  .sum (⟨1, 0⟩ :: (openRows 4 rows).eraseDups.map fun left => ⟨1, 8 * (nextRows left).length⟩)

/-! ## Sets of characters, backward -/

/-- What a memory of steps knows: from where, for which bytes, and the step. -/
structure Known where
  origin : Nat
  range : Nat × Nat
  step : Nat

/-- The number of steps that the memory holds; a newer one takes the place of an older one. -/
def memorySize : Nat := 1000

/-- The place of a step in the memory. -/
def memoryPlace (origin : Nat) (range : Nat × Nat) : Nat :=
  let mix (h : UInt64) (n : Nat) : UInt64 := (h ^^^ n.toUInt64) * 1099511628211
  (mix (mix (mix 14695981039346656037 origin) range.1) range.2).toNat % memorySize

/-- A row read backward from its end, which is the step `origin`: known steps are used again. -/
def growRow : List (Nat × Nat) → Nat → Size × Array (Option Known) → Size × Array (Option Known)
  | [], _, state => state
  | range :: row, origin, (size, memory) =>
    let place := memoryPlace origin range
    let known := ((memory[place]?).getD none).filter fun k =>
      k.origin == origin && k.range == range
    match known with
    | some k => growRow row k.step (size, memory)
    | none =>
      growRow row size.steps
        (size + ⟨1, 0⟩, memory.set! place (some ⟨origin, range, size.steps⟩))

/-- A fork to all rows, and the step that they have in common. -/
def growRows (rows : List (List (Nat × Nat))) (size : Size) : Size :=
  let origin := size.steps + 1
  let start := (size + ⟨2, 0⟩, Array.replicate memorySize none)
  (rows.foldl (fun state row =>
    let (size, memory) := growRow row origin state
    (size + ⟨0, 4⟩, memory)) start).1

/-! ## Outlines -/

/-- What a program is made of. -/
inductive Outline
  /-- Parts of a known size. -/
  | fixed (size : Size)
  /-- A set of characters read backward. -/
  | rows (rows : List (List (Nat × Nat)))
  | both (first second : Outline)
  | copies (count : Nat) (part : Outline)
  deriving Repr

namespace Outline

/-- Applies a step of growth a number of times, or until the limit is passed. -/
def growTimes (limit : Nat) (grow : Size → Size) : Nat → Size → Size
  | 0, size => size
  | n + 1, size => if limit < size.bytes then size else growTimes limit grow n (grow size)

/-- The size of a program that an outline is added to. -/
def grow (limit : Nat) : Outline → Size → Size
  | .fixed added, size => size + added
  | .rows rs, size => growRows rs size
  | .both p q, size => grow limit q (grow limit p size)
  | .copies n p, size => growTimes limit (grow limit p) n size

theorem grow_both (limit : Nat) (p q : Outline) (size : Size) :
    grow limit (.both p q) size = grow limit q (grow limit p size) := rfl

/-- One outline after another. -/
def inOrder : List Outline → Outline
  | [] => .fixed .zero
  | [p] => p
  | p :: q :: ps => .both p (inOrder (q :: ps))

end Outline

/-! ## Words to choose from -/

/-- The size of a program that tells words apart byte by byte. The empty word among them ends the
words before it, so that those behind it begin anew. -/
def wordsSize : Nat → List (List Nat) → Size
  | 0, _ => .zero
  | fuel + 1, words =>
    let bytesOf (ws : List (List Nat)) : List Nat := (ws.filterMap List.head?).eraseDups
    let runs := (words.splitOnP List.isEmpty).map fun ws => bytesOf ws
    let filled := runs.filter (· ≠ [])
    if filled = [] then .zero
    else
      let fork : Size := ⟨1, 4 * (filled.length + (runs.length - 1))⟩
      let told := filled.map fun bs =>
        if bs.length = 1 then (⟨1, 0⟩ : Size) else ⟨1, 8 * bs.length⟩
      let tails := (words.splitOnP List.isEmpty).flatMap fun ws =>
        (bytesOf ws).map fun b =>
          (ws.filter fun w => w.head? = some b).map List.tail
      fork + .sum told + .sum (tails.map (wordsSize fuel))

namespace Regex

/-- The characters of a text that is the only one to match. -/
def word? (r : Regex) : Option (List Char) :=
  if r.parts = [] then none else r.parts.mapM character?

/-- The least number of characters of a match, unless nothing matches. -/
def minWidth : Regex → Option Nat
  | .empty => some 0
  | .chars set => if set.ranges = [] then none else some 1
  | .assert _ => some 0
  | .seq r s => do some ((← minWidth r) + (← minWidth s))
  | .alt r s => do some (Nat.min (← minWidth r) (← minWidth s))
  | .repeated r min _ => (minWidth r).map (· * min)
  | .group _ r => minWidth r

/-- Whether matches start at the start of the text only. -/
def startsText : Regex → Bool
  | .assert a => a == .textStart
  | .seq r s => startsText r || (isZeroWidth r && startsText s)
  | .alt r s => startsText r && startsText s
  | .repeated r min _ => 0 < min && startsText r
  | .group _ r => startsText r
  | _ => false

/-- Whether matches end at the end of the text only. -/
def endsText : Regex → Bool
  | .assert a => a == .textEnd
  | .seq r s => endsText s || (isZeroWidth s && endsText r)
  | .alt r s => endsText r && endsText s
  | .repeated r min _ => 0 < min && endsText r
  | .group _ r => endsText r
  | _ => false

/-- The outline for a set of characters. -/
def setOutline (backward : Bool) (set : CharSet) : Outline :=
  match set.single? with
  | some c => .fixed ⟨c.utf8Size, 0⟩
  | none =>
    if set.isAscii then .fixed ⟨2, 8 * set.ranges.length⟩
    else if backward then .rows set.byteRows
    else .fixed (forwardSize set.byteRows)

/-- The outline of a repetition whose body has the outline `body` and `width`. A fork has two ways
to go on. -/
def repeatOutline (body : Outline) (width : Option Nat) (min : Nat) (max : Option Nat) : Outline :=
  let fork : Outline := .fixed ⟨1, 8⟩
  let place : Outline := .fixed ⟨1, 0⟩
  match min, max with
  | 0, some 1 => .inOrder [fork, body, place]
  | 0, none =>
    if (width.getD 0) = 0 then .inOrder [body, fork, fork, place] else .inOrder [fork, body]
  | n, none => .inOrder [.copies n body, fork]
  | n, some m =>
    let least := if n = 0 then place else .copies n body
    if n = m then least
    else .inOrder [least, place, .copies (m - n) (.both fork body)]

/-- Branches to choose from: the fork and the place where they meet stand behind the second. -/
def forkOutline : List Outline → Outline
  | p :: q :: ps => .inOrder ([p, q, .fixed ⟨2, 8⟩] ++ ps.flatMap fun p => [p, .fixed ⟨0, 4⟩])
  | ps => .inOrder ps

/-- The outline for words to choose from. -/
def wordsOutline (backward : Bool) (words : List (List Char)) : Outline :=
  let rows := words.map fun w =>
    let bytes := w.flatMap fun c => codeBytes c.toNat
    if backward then bytes.reverse else bytes
  .fixed (⟨1, 0⟩ + wordsSize (rows.foldl (fun n w => Nat.max n w.length) 0 + 1) rows)

/-- The outline of the program for an expression, and those of its branches. -/
def outlines (backward : Bool) : Regex → Outline × List Outline
  | .empty => one (.fixed ⟨1, 0⟩)
  | .chars set => one (setOutline backward set)
  | .assert _ => one (.fixed ⟨1, 0⟩)
  | .seq r s =>
    let first := (outlines backward r).1
    let second := (outlines backward s).1
    one (if backward then .both second first else .both first second)
  | .alt r s =>
    let parts := (outlines backward r).2 ++ (outlines backward s).2
    match (branches (.alt r s)).mapM word? with
    | some words => (wordsOutline backward words, parts)
    | none => (forkOutline parts, parts)
  | .repeated r min max => one (repeatOutline (outlines backward r).1 (minWidth r) min max)
  | .group _ r =>
    let body := (outlines backward r).1
    one (if backward then body else .inOrder [.fixed ⟨1, 0⟩, body, .fixed ⟨1, 0⟩])
where
  one (o : Outline) : Outline × List Outline := (o, [o])

/-- The outline of the whole program: an entry that passes over what comes before a match, unless
matches are at the edge of the text, then the expression, between two marks when it is read
forward, and the end. -/
def program (backward : Bool) (r : Regex) : Outline :=
  let atEdge := if backward then endsText r else startsText r
  let entry : Outline := .fixed (if atEdge then ⟨1, 0⟩ else ⟨3, 16⟩)
  let body := (outlines backward r).1
  let mark : Outline := .fixed ⟨1, 0⟩
  .inOrder (if backward then [entry, body, mark] else [entry, mark, body, mark, mark])

/-- The bytes of the program in one direction, or more than the limit if they pass it. -/
def programBytes (limit : Nat) (backward : Bool) (r : Regex) : Nat :=
  ((program backward r).grow limit .zero).bytes

/-- Whether the programs of both directions stay within the limit. -/
def fits (limit : Nat) (r : Regex) : Bool :=
  programBytes limit false r ≤ limit && programBytes limit true r ≤ limit

end Regex

end DocQuery
