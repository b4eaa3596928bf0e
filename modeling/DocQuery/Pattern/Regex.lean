import DocQuery.Pattern.Named

/-!
# Regular expressions and what they match

* `Regex`, `Assertion` — expressions over sets of characters, with conditions on places.
* `Regex.sequence`, `Regex.choice`, `Regex.times` — put expressions together, leaving out what adds
  nothing and sharing what the branches of a choice start with.
* `Regex.advance` — from the places where a match may start to those where it may end.
* `Regex.isMatch` — whether a text has a match anywhere.

Main statements: `Regex.advance_empty`, `Regex.advance_sequence`.
-/

set_option autoImplicit false

namespace DocQuery

/-- A condition on a place between two characters. -/
inductive Assertion
  | textStart
  | textEnd
  /-- At the start of a text or after a line feed; with `crlf` also after a carriage return that no
  line feed follows. -/
  | lineStart (crlf : Bool)
  | lineEnd (crlf : Bool)
  /-- Between a word character and another or the edge; `ascii` restricts word characters. -/
  | wordBoundary (ascii : Bool)
  | notWordBoundary (ascii : Bool)
  | wordStart (ascii : Bool)
  | wordEnd (ascii : Bool)
  /-- No word character in front. -/
  | wordStartHalf (ascii : Bool)
  /-- No word character behind. -/
  | wordEndHalf (ascii : Bool)
  deriving DecidableEq, Repr

inductive Regex
  | empty
  | chars (set : CharSet)
  | assert (a : Assertion)
  | seq (first second : Regex)
  | alt (first second : Regex)
  /-- At least `min` times, at most `max` if there is one. -/
  | repeated (body : Regex) (min : Nat) (max : Option Nat)
  /-- A group in parentheses that is counted; it matches what its body matches. -/
  | group (number : Nat) (body : Regex)
  deriving DecidableEq, Repr, Inhabited

namespace Assertion

/-- Whether the place between `before` and `after` meets the condition. -/
def holds (before after : Option Char) : Assertion → Bool
  | .textStart => before.isNone
  | .textEnd => after.isNone
  | .lineStart false => before.isNone || before == some '\n'
  | .lineStart true =>
    before.isNone || before == some '\n' || (before == some '\r' && after != some '\n')
  | .lineEnd false => after.isNone || after == some '\n'
  | .lineEnd true =>
    after.isNone || after == some '\r' || (after == some '\n' && before != some '\r')
  | .wordBoundary ascii => word ascii before != word ascii after
  | .notWordBoundary ascii => word ascii before == word ascii after
  | .wordStart ascii => !word ascii before && word ascii after
  | .wordEnd ascii => word ascii before && !word ascii after
  | .wordStartHalf ascii => !word ascii before
  | .wordEndHalf ascii => !word ascii after
where
  word (ascii : Bool) : Option Char → Bool
    | none => false
    | some c => if ascii then CharSet.asciiWordChars.contains c else isWordChar c

end Assertion

namespace Regex

/-! ## Putting together -/

/-- The parts of a sequence. -/
def parts : Regex → List Regex
  | .empty => []
  | .seq r s => parts r ++ parts s
  | r => [r]

/-- The branches of a choice. -/
def branches : Regex → List Regex
  | .alt r s => branches r ++ branches s
  | r => [r]

/-- Expressions one after the other, as they are. -/
def chain : List Regex → Regex
  | [] => empty
  | [r] => r
  | r :: s :: rs => seq r (chain (s :: rs))

/-- Expressions one after the other; sequences among them dissolve. -/
def sequence (rs : List Regex) : Regex := chain (rs.flatMap parts)

/-- Whether only the empty text can match. -/
def isZeroWidth : Regex → Bool
  | .empty => true
  | .chars _ => false
  | .assert _ => true
  | .seq r s => isZeroWidth r && isZeroWidth s
  | .alt r s => isZeroWidth r && isZeroWidth s
  | .repeated r _ max => max.isSome && isZeroWidth r
  | .group _ r => isZeroWidth r

/-- An expression again and again. What matches no more than the empty text is needed once at most,
nothing is left of what may not occur, and what occurs once stands for itself. -/
def times (r : Regex) (min : Nat) (max : Option Nat) : Regex :=
  let least := if r.isZeroWidth then Nat.min min 1 else min
  let most := if r.isZeroWidth then some ((max.map (Nat.min 1)).getD 1) else max
  if least = 0 ∧ most = some 0 then .empty
  else if least = 1 ∧ most = some 1 then r
  else .repeated r least most

/-- The only character that an expression matches. -/
def character? : Regex → Option Char
  | .chars set => set.single?
  | _ => none

/-- The characters of a set that is not a single one. -/
def class? : Regex → Option CharSet
  | .chars set => if set.single?.isNone then some set else none
  | _ => none

/-- The parts of a sequence with the characters in a row taken together. -/
def phrases : List Regex → List (List Regex)
  | [] => []
  | r :: rs =>
    match phrases rs with
    | (s :: p) :: ps =>
      if r.character?.isSome && s.character?.isSome then (r :: s :: p) :: ps
      else [r] :: (s :: p) :: ps
    | ps => [r] :: ps

/-- What two lists have in common at the front. -/
def commonFront : List (List Regex) → List (List Regex) → List (List Regex)
  | p :: ps, q :: qs => if p = q then p :: commonFront ps qs else []
  | _, _ => []

/-- The branches of a choice as one set of characters, if all of them are single characters or all
of them are other sets. -/
def asSet? (rs : List Regex) : Option CharSet :=
  if rs.all fun r => r.character?.isSome then
    some (.ofRanges ((rs.filterMap character?).map fun c => (c.toNat, c.toNat)))
  else if rs.all fun r => r.class?.isSome then
    some (.ofRanges ((rs.filterMap class?).flatMap (·.ranges)))
  else none

/-- Expressions to choose from, as they are. -/
def alternatives : List Regex → Regex
  | [] => .chars .empty
  | [r] => r
  | r :: s :: rs => alt r (alternatives (s :: rs))

/-- Expressions to choose from; sets of characters become one set. -/
def union (rs : List Regex) : Regex :=
  match rs.flatMap branches with
  | [r] => r
  | rs => match asSet? rs with
    | some set => .chars set
    | none => alternatives rs

/-- Expressions to choose from. What all of them start with is written once. -/
def choice (rs : List Regex) : Regex :=
  match union rs with
  | .alt r s =>
    let rows := (branches (.alt r s)).map fun b => phrases b.parts
    match rows with
    | [] => .alt r s
    | row :: rest =>
      let front := rest.foldl commonFront row
      if front = [] || rows.any fun row => row.length < 2 then .alt r s
      else
        let tails := rows.map fun row => chain (row.drop front.length).flatten
        sequence (front.flatten ++ [union tails])
  | r => r

/-! ## Matching -/

/-- A set of places, in rising order. -/
abbrev Places := List Nat

/-- The places in one of two sets. -/
def mergePlaces : Places → Places → Places
  | [], t => t
  | s, [] => s
  | a :: s, b :: t =>
    if a < b then a :: mergePlaces s (b :: t)
    else if b < a then b :: mergePlaces (a :: s) t
    else a :: mergePlaces s t
termination_by s t => s.length + t.length

/-- The places of `s` that are not in `t`. -/
def removePlaces (s t : Places) : Places := s.filter fun p => !t.contains p

/-- Applies `step` a number of times; nothing comes of nothing. -/
def iterate (step : Places → Places) : Nat → Places → Places
  | 0, s => s
  | _ + 1, [] => []
  | n + 1, s => iterate step n (step s)

/-- Everything reachable from `frontier` in at most `fuel` steps, together with `seen`. -/
def reach (step : Places → Places) : Nat → Places → Places → Places
  | 0, seen, _ => seen
  | _ + 1, seen, [] => seen
  | fuel + 1, seen, frontier =>
    let new := removePlaces (step frontier) seen
    reach step fuel (mergePlaces seen new) new

/-- The places where matches that start in `starts` end. -/
def advance (text : Array Char) : Regex → Places → Places
  | .empty, starts => starts
  | .chars set, starts =>
    starts.filterMap fun p =>
      match text[p]? with
      | some c => if set.contains c then some (p + 1) else none
      | none => none
  | .assert a, starts =>
    starts.filter fun p => a.holds (if p = 0 then none else text[p - 1]?) text[p]?
  | .seq r s, starts => advance text s (advance text r starts)
  | .alt r s, starts => mergePlaces (advance text r starts) (advance text s starts)
  | .repeated r min max, starts =>
    let step := advance text r
    let minimal := iterate step min starts
    match max with
    | none => reach step (text.size + 1) minimal minimal
    | some max => reach step (max - min) minimal minimal
  | .group _ r, starts => advance text r starts

/-- Whether the text has a match anywhere. -/
def isMatch (r : Regex) (text : List Char) : Bool :=
  let text := text.toArray
  !(r.advance text (List.range (text.size + 1))).isEmpty

theorem advance_empty (text : Array Char) (starts : Places) :
    advance text .empty starts = starts := rfl

theorem advance_chain (text : Array Char) (rs : List Regex) (starts : Places) :
    advance text (chain rs) starts = rs.foldl (fun places r => advance text r places) starts := by
  induction rs generalizing starts with
  | nil => rfl
  | cons r rs ih =>
    cases rs with
    | nil => rfl
    | cons s rs => exact ih (advance text r starts)

theorem advance_parts (text : Array Char) (r : Regex) (starts : Places) :
    r.parts.foldl (fun places r => advance text r places) starts = advance text r starts := by
  induction r generalizing starts with
  | seq r s ihr ihs => rw [parts, List.foldl_append, ihr, ihs]; rfl
  | _ => rfl

/-- A sequence is matched part by part. -/
theorem advance_sequence (text : Array Char) (rs : List Regex) (starts : Places) :
    advance text (sequence rs) starts =
      rs.foldl (fun places r => advance text r places) starts := by
  unfold sequence
  rw [advance_chain]
  induction rs generalizing starts with
  | nil => rfl
  | cons r rs ih => rw [List.flatMap_cons, List.foldl_append, advance_parts, ih]; rfl

end Regex

end DocQuery
