/-!
# Reading from the front of a text

A reader takes what is left of a text and gives back a value and what is left after it. A failure
keeps the text that was left where it arose, so its position is the length of what was consumed
and always falls between two characters.

* `Reader`, `Fault` — the types; `Fault.offset` the position in bytes.
* `expect` — one given character; `skipBlanks` — space, tab, line feed and carriage return.
* `separated` — items between commas up to a closing character.

Main statements: `byteLength_append`, `skipBlanks_suffix`.
-/

set_option autoImplicit false

namespace DocQuery

/-- What was left of the text where reading failed, and why it did. -/
structure Fault (ε : Type) where
  rest : List Char
  problem : ε
  deriving Repr

/-- Reads a value from the front of a text. -/
abbrev Reader (ε α : Type) := List Char → Except (Fault ε) (α × List Char)

/-- The bytes of a text. -/
def bytes (s : List Char) : List UInt8 := s.flatMap String.utf8EncodeChar

/-- The length of a text in bytes. -/
def byteLength (s : List Char) : Nat := s.foldr (fun c n => c.utf8Size + n) 0

theorem byteLength_append (s t : List Char) :
    byteLength (s ++ t) = byteLength s + byteLength t := by
  induction s with
  | nil => simp [byteLength]
  | cons c s ih =>
    simp only [byteLength, List.cons_append, List.foldr_cons] at ih ⊢
    omega

theorem byteLength_le_of_suffix {s t : List Char} (h : s <:+ t) : byteLength s ≤ byteLength t := by
  obtain ⟨u, rfl⟩ := h
  simp [byteLength_append]

namespace Fault

variable {ε δ : Type}

/-- The number of bytes of `text` in front of the failure. -/
def offset (f : Fault ε) (text : List Char) : Nat := byteLength text - byteLength f.rest

/-- The same failure with its problem seen in a wider context. -/
def map (g : ε → δ) (f : Fault ε) : Fault δ := ⟨f.rest, g f.problem⟩

end Fault

variable {ε α : Type}

/-- A failure in front of `rest`. -/
def fault (rest : List Char) (problem : ε) : Except (Fault ε) α := .error ⟨rest, problem⟩

/-- The characters that may stand between tokens. -/
def isGap (c : Char) : Bool := c == ' ' || c == '\n' || c == '\r' || c == '\t'

def skipBlanks (s : List Char) : List Char := s.dropWhile isGap

theorem skipBlanks_suffix (s : List Char) : skipBlanks s <:+ s := List.dropWhile_suffix _

/-- Reads one given character. -/
def expect (c : Char) (problem : Option Char → ε) : Reader ε Unit := fun s =>
  match s with
  | d :: r => if d = c then .ok ((), r) else fault s (problem d)
  | [] => fault s (problem none)

/-- The items after the first comma or the opening character, each after its number. A comma asks
for another item, `closing` ends the list. -/
def itemsUntil (closing : Char) (problem : Option Char → ε) (item : Nat → Reader ε α) :
    Nat → Nat → Reader ε (List α)
  | 0, _, s => fault s (problem none)
  | fuel + 1, index, s => do
    let (a, s) ← item index (skipBlanks s)
    match skipBlanks s with
    | [] => fault [] (problem none)
    | c :: r =>
      if c = ',' then
        let (as, s) ← itemsUntil closing problem item fuel (index + 1) r
        .ok (a :: as, s)
      else if c = closing then .ok ([a], r)
      else fault (c :: r) (problem c)

/-- A list of items between commas, up to and with `closing`; the opening character is behind. -/
def separated (closing : Char) (problem : Option Char → ε) (item : Nat → Reader ε α) :
    Reader ε (List α) := fun s =>
  match skipBlanks s with
  | [] => itemsUntil closing problem item 1 0 []
  | c :: r =>
    if c = closing then .ok ([], r)
    else itemsUntil closing problem item (r.length + 1) 0 (c :: r)

end DocQuery
