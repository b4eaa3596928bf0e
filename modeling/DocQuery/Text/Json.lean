import DocQuery.Text.Quoted

/-!
# Data files

The text of a data file in JSON, as a tree that keeps what was written: entries in their order,
repeated keys included, numbers and strings as they stand in the text. Strings are checked for
their shape only; what their escapes stand for is a question of its own.

* `Json` — the tree; `Json.parse` — reading a whole text.
* `Json.string?`, `Json.integer?` — the string and the integer that a leaf stands for.

Main statements: `Json.scanBody_append`, `Json.scanNumber_append`.
-/

set_option autoImplicit false

namespace DocQuery

/-- A data file. -/
inductive Json
  | null
  | bool (value : Bool)
  /-- A number as it is written. -/
  | number (text : List Char)
  /-- What stands between the quotes of a string. -/
  | string (body : List Char)
  | array (items : List Json)
  | object (entries : List (List Char × Json))
  deriving Inhabited

namespace Json

/-- Why a text is no data file. -/
inductive Problem
  | unexpectedEnd
  | unexpected (c : Char)
  | badString
  | badNumber
  deriving DecidableEq, Repr

namespace Problem

def text : Problem → String
  | unexpectedEnd => "unexpected end of text"
  | unexpected c => "unexpected `" ++ c.toString ++ "`"
  | badString => "malformed string"
  | badNumber => "malformed number"

/-- The problem of another character than the expected ones, or of none. -/
def ofNext : Option Char → Problem
  | some c => unexpected c
  | none => unexpectedEnd

end Problem

/-! ## Leaves -/

/-- What stands in front of the closing quote, and what comes after it. -/
def scanBody : List Char → Option (List Char × List Char)
  | [] => none
  | '\\' :: 'u' :: a :: b :: c :: d :: r =>
    if (Quoted.hexNumber a b c d).isSome then
      (scanBody r).map fun p => ('\\' :: 'u' :: a :: b :: c :: d :: p.1, p.2)
    else none
  | '\\' :: c :: r =>
    if (Quoted.escaped c).isSome then (scanBody r).map fun p => ('\\' :: c :: p.1, p.2) else none
  | c :: r =>
    if c = '"' then some ([], r)
    else if c = '\\' ∨ c.toNat < 32 then none
    else (scanBody r).map fun p => (c :: p.1, p.2)

theorem scanBody_append {s body rest : List Char} (h : scanBody s = some (body, rest)) :
    s = body ++ '"' :: rest := by
  fun_induction scanBody s generalizing body with
  | case1 => simp at h
  | case2 a b c d r _ ih =>
    obtain ⟨⟨i, r'⟩, hi, he⟩ := Option.map_eq_some_iff.1 h
    obtain ⟨rfl, rfl⟩ := Prod.mk.inj he
    simp [ih hi]
  | case3 => simp at h
  | case4 c r _ _ ih =>
    obtain ⟨⟨i, r'⟩, hi, he⟩ := Option.map_eq_some_iff.1 h
    obtain ⟨rfl, rfl⟩ := Prod.mk.inj he
    simp [ih hi]
  | case5 => simp at h
  | case6 r _ _ =>
    obtain ⟨rfl, rfl⟩ := Prod.mk.inj (Option.some.inj h)
    rfl
  | case7 => simp at h
  | case8 c r _ _ _ _ ih =>
    obtain ⟨⟨i, r'⟩, hi, he⟩ := Option.map_eq_some_iff.1 h
    obtain ⟨rfl, rfl⟩ := Prod.mk.inj he
    simp [ih hi]

/-- A run of digits, at least one. -/
def scanDigits (s : List Char) : Option (List Char × List Char) :=
  if (s.takeWhile Char.isDigit).isEmpty then none
  else some (s.takeWhile Char.isDigit, s.dropWhile Char.isDigit)

/-- The whole part of a number: a lone zero, or digits that do not start with one. -/
def scanWhole : List Char → Option (List Char × List Char)
  | '0' :: r => some (['0'], r)
  | s => scanDigits s

/-- A part of a number behind some mark. -/
def scanMarked (mark : List Char) (s : List Char) : Option (List Char × List Char) :=
  (scanDigits s).map fun p => (mark ++ p.1, p.2)

def scanFraction : List Char → Option (List Char × List Char)
  | '.' :: r => scanMarked ['.'] r
  | s => some ([], s)

def scanExponent : List Char → Option (List Char × List Char)
  | c :: r =>
    if c = 'e' ∨ c = 'E' then
      match r with
      | '+' :: r => scanMarked [c, '+'] r
      | '-' :: r => scanMarked [c, '-'] r
      | r => scanMarked [c] r
    else some ([], c :: r)
  | [] => some ([], [])

def scanUnsigned (s : List Char) : Option (List Char × List Char) := do
  let (whole, s) ← scanWhole s
  let (fraction, s) ← scanFraction s
  let (exponent, s) ← scanExponent s
  some (whole ++ (fraction ++ exponent), s)

/-- A number, and what comes after it. -/
def scanNumber : List Char → Option (List Char × List Char)
  | '-' :: r => (scanUnsigned r).map fun p => ('-' :: p.1, p.2)
  | s => scanUnsigned s

theorem scanDigits_append {s text rest : List Char} (h : scanDigits s = some (text, rest)) :
    s = text ++ rest := by
  simp only [scanDigits] at h
  split at h
  · simp at h
  · obtain ⟨rfl, rfl⟩ := Prod.mk.inj (Option.some.inj h)
    exact List.takeWhile_append_dropWhile.symm

theorem scanWhole_append {s text rest : List Char} (h : scanWhole s = some (text, rest)) :
    s = text ++ rest := by
  fun_cases scanWhole s
  · obtain ⟨rfl, rfl⟩ := Prod.mk.inj (Option.some.inj h)
    rfl
  · rw [scanWhole] at h
    · exact scanDigits_append h
    · assumption

theorem scanMarked_append {mark s text rest : List Char}
    (h : scanMarked mark s = some (text, rest)) : mark ++ s = text ++ rest := by
  obtain ⟨⟨i, r⟩, hi, he⟩ := Option.map_eq_some_iff.1 h
  obtain ⟨rfl, rfl⟩ := Prod.mk.inj he
  simp [scanDigits_append hi]

theorem scanFraction_append {s text rest : List Char} (h : scanFraction s = some (text, rest)) :
    s = text ++ rest := by
  unfold scanFraction at h
  split at h
  · exact scanMarked_append h
  · obtain ⟨rfl, rfl⟩ := Prod.mk.inj (Option.some.inj h)
    rfl

theorem scanExponent_append {s text rest : List Char} (h : scanExponent s = some (text, rest)) :
    s = text ++ rest := by
  unfold scanExponent at h
  split at h
  · split at h
    · split at h <;> exact scanMarked_append h
    · obtain ⟨rfl, rfl⟩ := Prod.mk.inj (Option.some.inj h)
      rfl
  · obtain ⟨rfl, rfl⟩ := Prod.mk.inj (Option.some.inj h)
    rfl

theorem scanUnsigned_append {s text rest : List Char} (h : scanUnsigned s = some (text, rest)) :
    s = text ++ rest := by
  simp only [scanUnsigned, Option.bind_eq_bind, Option.bind_eq_some_iff] at h
  obtain ⟨⟨whole, s₁⟩, hw, ⟨fraction, s₂⟩, hf, ⟨exponent, s₃⟩, he, h⟩ := h
  obtain ⟨rfl, rfl⟩ := Prod.mk.inj (Option.some.inj h)
  have hf := scanFraction_append hf
  have he := scanExponent_append he
  simp only at hf he
  simp [scanWhole_append hw, hf, he]

theorem scanNumber_append {s text rest : List Char} (h : scanNumber s = some (text, rest)) :
    s = text ++ rest := by
  unfold scanNumber at h
  split at h
  · obtain ⟨⟨i, r⟩, hi, he⟩ := Option.map_eq_some_iff.1 h
    obtain ⟨rfl, rfl⟩ := Prod.mk.inj he
    simp [scanUnsigned_append hi]
  · exact scanUnsigned_append h

/-! ## Trees -/

/-- A given word, which stands for `leaf`. -/
def readWord (word : List Char) (leaf : Json) : Reader Problem Json := fun s =>
  if word.isPrefixOf s then .ok (leaf, s.drop word.length)
  else fault s (.ofNext s.head?)

/-- What stands between the quotes of a string. -/
def readString : Reader Problem (List Char) := fun s =>
  match s with
  | '"' :: r =>
    match scanBody r with
    | some p => .ok p
    | none => fault s .badString
  | s => fault s (.ofNext s.head?)

def readNumber : Reader Problem Json := fun s =>
  match scanNumber s with
  | some (text, r) => .ok (.number text, r)
  | none => fault s .badNumber

/-- An entry of an object. -/
def readEntry (value : Reader Problem Json) : Reader Problem (List Char × Json) := fun s => do
  let (key, s) ← readString s
  let (_, s) ← expect ':' Problem.ofNext (skipBlanks s)
  let (v, s) ← value s
  .ok ((key, v), s)

/-- A tree that nests at most as deep as the number says. -/
def readWithin : Nat → Reader Problem Json
  | 0, s => fault s .unexpectedEnd
  | depth + 1, s =>
    match skipBlanks s with
    | [] => fault [] .unexpectedEnd
    | c :: r =>
      if c = '\x7b' then
        (separated '\x7d' Problem.ofNext (fun _ => readEntry (readWithin depth)) r).map fun p =>
          (.object p.1, p.2)
      else if c = '[' then
        (separated ']' Problem.ofNext (fun _ => readWithin depth) r).map fun p => (.array p.1, p.2)
      else if c = '"' then (readString (c :: r)).map fun p => (.string p.1, p.2)
      else if c = 'n' then readWord ['n', 'u', 'l', 'l'] .null (c :: r)
      else if c = 't' then readWord ['t', 'r', 'u', 'e'] (.bool true) (c :: r)
      else if c = 'f' then readWord ['f', 'a', 'l', 's', 'e'] (.bool false) (c :: r)
      else readNumber (c :: r)

/-- Reads a whole text. -/
def parse (text : String) : Except (Fault Problem) Json := do
  let s := text.toList
  let (tree, rest) ← readWithin (s.length + 1) s
  match skipBlanks rest with
  | [] => .ok tree
  | c :: r => fault (c :: r) (.unexpected c)

/-! ## What leaves stand for -/

/-- The text of a string with its escapes read; a lone surrogate stands for nothing. -/
def decodeBody? (body : List Char) : Option String :=
  match Quoted.decode body with
  | .ok s => some (String.ofList s)
  | .error _ => none

def string? : Json → Option String
  | string body => decodeBody? body
  | _ => none

def bool? : Json → Option Bool
  | bool b => some b
  | _ => none

/-- The integer of a number without point and exponent. A minus in front of zero makes a float. -/
def integer? : Json → Option Int
  | number ('-' :: ds) =>
    if ds.all Char.isDigit && ds != ['0'] then (String.ofList ds).toNat?.map fun n => -(n : Int)
    else none
  | number ds => if ds.all Char.isDigit then (String.ofList ds).toNat?.map Int.ofNat else none
  | _ => none

end Json

end DocQuery
