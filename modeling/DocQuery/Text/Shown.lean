import DocQuery.Text.Property

/-!
# Characters and strings as diagnostics show them

Visible characters stand for themselves; quotes, backslashes, line ends, tabs and everything
invisible are escaped.

* `shownString` — a string between double quotes.
* `shownNext` — the byte that stands next in a text, between single quotes; the end of the text is
  shown as a zero byte, and a byte beyond ASCII as the character of that code.
-/

set_option autoImplicit false

namespace DocQuery

/-- A code point in the braces of an escape. -/
def shownCode (c : Char) : String :=
  "\\u\x7b" ++ String.ofList (Nat.toDigits 16 c.toNat) ++ "\x7d"

/-- A character as it is shown between quotes of the kind `quoteMark`. -/
def shownChar (quoteMark : Char) (c : Char) : String :=
  if c = '\x00' then "\\0"
  else if c = '\t' then "\\t"
  else if c = '\r' then "\\r"
  else if c = '\n' then "\\n"
  else if c = '\\' ∨ c = quoteMark then String.ofList ['\\', c]
  else if extendsGrapheme c || !isPrintable c then shownCode c
  else c.toString

def shownString (s : String) : String :=
  "\"" ++ String.join (s.toList.map (shownChar '"')) ++ "\""

/-- The first byte of a character in UTF-8, as the character of that code. -/
def firstByte (c : Char) : Char :=
  let n := c.toNat
  if n < 0x80 then c
  else if n < 0x800 then Char.ofNat (0xc0 + n / 0x40)
  else if n < 0x10000 then Char.ofNat (0xe0 + n / 0x1000)
  else Char.ofNat (0xf0 + n / 0x40000)

/-- What stands next in a text. -/
def shownNext : Option Char → String
  | none => "'\\x00'"
  | some c => if c = '\x00' then "'\\x00'" else "'" ++ shownChar '\'' (firstByte c) ++ "'"

end DocQuery
