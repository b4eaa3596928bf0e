import DocQuery.Text.Reading

/-!
# Quoted strings

A string is written between double quotes; inside, a quote, a backslash and the control characters
below U+0020 are escaped, all else stands for itself. Reading accepts every escape of the format:
one letter, or `u` and four hexadecimal digits, two such in a row for a character beyond U+FFFF.

* `Quoted.encode`, `quote` — writing.
* `Quoted.decode` — reading what stands between the quotes.

Main statement: `Quoted.decode_encode`.
-/

set_option autoImplicit false

namespace DocQuery.Quoted

open DocQuery

/-- What is wrong with the inside of a quoted string. -/
inductive Problem
  | invalidEscape
  | invalidDigits
  | controlCharacter
  | loneSurrogate
  | unfinishedSurrogate
  | unfinishedEscape
  | strayQuote
  deriving DecidableEq, Repr

def Problem.text : Problem → String
  | .invalidEscape | .invalidDigits => "invalid escape"
  | .controlCharacter => "control character (\\u0000-\\u001F) found while parsing a string"
  | .loneSurrogate => "lone leading surrogate in hex escape"
  | .unfinishedSurrogate => "unexpected end of hex escape"
  | .unfinishedEscape => "EOF while parsing a string"
  | .strayQuote => "trailing characters"

/-- How many bytes are taken of what is left and of the closing quote before a problem shows: the
escape or what stands in the place of one, all four digits, all blanks and what comes after them, or
everything. -/
def Problem.taken (rest : List Char) : Problem → Nat
  | .controlCharacter | .loneSurrogate => 0
  | .invalidEscape | .unfinishedSurrogate => 1
  | .invalidDigits => 4
  | .strayQuote => (rest.takeWhile isGap).length + 1
  | .unfinishedEscape => byteLength rest + 1

/-! ## Hexadecimal digits -/

def hexDigit (n : Nat) : Char := if n < 10 then Char.ofNat (48 + n) else Char.ofNat (87 + n)

def hexValue (c : Char) : Option Nat :=
  if '0' ≤ c ∧ c ≤ '9' then some (c.toNat - 48)
  else if 'a' ≤ c ∧ c ≤ 'f' then some (c.toNat - 87)
  else if 'A' ≤ c ∧ c ≤ 'F' then some (c.toNat - 55)
  else none

/-- The number of four hexadecimal digits. -/
def hexNumber (a b c d : Char) : Option Nat :=
  match hexValue a, hexValue b, hexValue c, hexValue d with
  | some a, some b, some c, some d => some (((a * 16 + b) * 16 + c) * 16 + d)
  | _, _, _, _ => none

/-- Four hexadecimal digits of a number. -/
def hexDigits (n : Nat) : List Char :=
  [hexDigit (n / 4096 % 16), hexDigit (n / 256 % 16), hexDigit (n / 16 % 16), hexDigit (n % 16)]

/-! ## Writing -/

def encodeChar (c : Char) : List Char :=
  if c = '"' then ['\\', '"']
  else if c = '\\' then ['\\', '\\']
  else if c = '\x08' then ['\\', 'b']
  else if c = '\x0c' then ['\\', 'f']
  else if c = '\n' then ['\\', 'n']
  else if c = '\r' then ['\\', 'r']
  else if c = '\t' then ['\\', 't']
  else if c.toNat < 32 then '\\' :: 'u' :: hexDigits c.toNat
  else [c]

def encode (s : List Char) : List Char := s.flatMap encodeChar

/-! ## Reading -/

/-- The character that one letter after a backslash stands for. -/
def escaped : Char → Option Char
  | '"' => some '"'
  | '\\' => some '\\'
  | '/' => some '/'
  | 'b' => some '\x08'
  | 'f' => some '\x0c'
  | 'n' => some '\n'
  | 'r' => some '\r'
  | 't' => some '\t'
  | _ => none

def isTrailing (n : Nat) : Bool := 0xdc00 ≤ n && n < 0xe000

def isLeading (n : Nat) : Bool := 0xd800 ≤ n && n < 0xdc00

/-- The character of a leading and a trailing surrogate. -/
def joinSurrogates (lead trail : Nat) : Char :=
  Char.ofNat (0x10000 + (lead - 0xd800) * 0x400 + (trail - 0xdc00))

/-- Puts a character in front of what the rest reads as. -/
def push (c : Char) (r : Except (Fault Problem) (List Char)) : Except (Fault Problem) (List Char) :=
  r.map (c :: ·)

/-- Less than four digits; the closing quote may be taken for one. -/
def fewDigits (rest : List Char) : Except (Fault Problem) (List Char) :=
  fault rest (if byteLength rest < 3 then .unfinishedEscape else .invalidDigits)

/-- Reads the inside of a quoted string. -/
def decode : List Char → Except (Fault Problem) (List Char)
  | [] => .ok []
  | '\\' :: 'u' :: a :: b :: c :: d :: r =>
    match hexNumber a b c d with
    | none => fault (a :: b :: c :: d :: r) .invalidDigits
    | some n =>
      if isTrailing n then fault r .loneSurrogate
      else if isLeading n then
        match r with
        | '\\' :: 'u' :: e :: f :: g :: h :: r =>
          match hexNumber e f g h with
          | none => fault (e :: f :: g :: h :: r) .invalidDigits
          | some m => if isTrailing m then push (joinSurrogates n m) (decode r)
            else fault r .loneSurrogate
        | '\\' :: 'u' :: r => fewDigits r
        | '\\' :: r => fault r .unfinishedSurrogate
        | r => fault r .unfinishedSurrogate
      else push (Char.ofNat n) (decode r)
  | '\\' :: c :: r =>
    if c = 'u' then fewDigits r
    else
      match escaped c with
      | some d => push d (decode r)
      | none => fault (c :: r) .invalidEscape
  | c :: r =>
    if c = '\\' then fault r .unfinishedEscape
    else if c = '"' then fault r .strayQuote
    else if c.toNat < 32 then fault r .controlCharacter
    else push c (decode r)

theorem hexValue_hexDigit : ∀ n, n < 16 → hexValue (hexDigit n) = some n := by decide

theorem hexNumber_hexDigits {n : Nat} (h : n < 65536) :
    hexNumber (hexDigit (n / 4096 % 16)) (hexDigit (n / 256 % 16)) (hexDigit (n / 16 % 16))
      (hexDigit (n % 16)) = some n := by
  simp only [hexNumber, hexValue_hexDigit _ (Nat.mod_lt _ (by decide : 0 < 16))]
  congr 1
  omega

theorem decode_encodeChar_append (c : Char) (r : List Char) :
    decode (encodeChar c ++ r) = push c (decode r) := by
  unfold encodeChar
  repeat' split
  all_goals try (subst_vars; simp [decode, escaped]; done)
  · rename_i h
    have hn : hexNumber _ _ _ _ = _ := hexNumber_hexDigits (Nat.lt_trans h (by decide))
    have ht : isTrailing c.toNat = false := by simp [isTrailing]; omega
    have hl : isLeading c.toNat = false := by simp [isLeading]; omega
    simp only [hexDigits, List.cons_append, List.nil_append]
    rw [decode]
    simp [hn, ht, hl, Char.ofNat_toNat]
  · rw [List.cons_append, List.nil_append, decode.eq_def]
    split <;> grind

/-- Reading undoes writing. -/
theorem decode_encode (s : List Char) : decode (encode s) = .ok s := by
  induction s with
  | nil => rfl
  | cons c s ih =>
    show decode (encodeChar c ++ encode s) = _
    rw [decode_encodeChar_append, ih]
    rfl

end DocQuery.Quoted

namespace DocQuery

/-- A string as a quoted literal. -/
def quoteChars (s : String) : List Char := '"' :: (Quoted.encode s.toList ++ ['"'])

def quote (s : String) : String := String.ofList (quoteChars s)

end DocQuery
