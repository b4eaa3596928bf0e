import DocQuery.Error
import DocQuery.Projection.Basic
import DocQuery.Text.Literal

/-!
# Reading projections

The grammar, with blanks allowed between all tokens and at both ends:

* a selection is a list of fields between commas;
* a field is an optional alias and a colon, a name, optional parameters between parentheses, and an
  optional selection between braces, which may be empty;
* a parameter is a name, a colon or an equals sign, and a string in either kind of quotes, a number
  or a boolean;
* a name is a run of letters, digits, `_` and `-`, or for a field a lone `*`.

* `Projection.parse` — a whole text; a blank text is the empty projection.
-/

set_option autoImplicit false

namespace DocQuery

namespace Projection

/-- Why a projection's text cannot be read. -/
inductive Problem
  | fieldName
  | fieldNameAtBrace
  | closingBrace
  | strayChar (c : Char)
  | paramName
  | paramSign
  | paramValue
  | paramEnd
  | literal (p : Literal.Problem)
  | nestedTooDeep
  deriving DecidableEq, Repr

def Problem.text : Problem → String
  | fieldName => "looking for field name"
  | fieldNameAtBrace => "looking for field name and got `\x7d'"
  | closingBrace => "looking for `\x7d'"
  | strayChar c => "invalid char `" ++ (firstByte c).toString ++ "`"
  | paramName => "looking for parameter name"
  | paramSign => "looking for `:' or `='"
  | paramValue => "looking for value"
  | paramEnd => "looking for `,' or `)'"
  | literal p => p.text
  | nestedTooDeep => "nested too deep"

def isNameChar (c : Char) : Bool := c.isAlphanum || c == '_' || c == '-'

/-- Splits a name off the front, the empty one where none stands there. -/
def scanName : List Char → List Char × List Char
  | '*' :: s => (['*'], s)
  | s => (s.takeWhile isNameChar, s.dropWhile isNameChar)

def readLiteral {α : Type} (r : Reader Literal.Problem α) : Reader Problem α := fun s =>
  (r s).mapError (Fault.map .literal)

/-- The value of a parameter. -/
def readParamValue : Reader Problem Value := fun s =>
  match s with
  | 't' :: 'r' :: 'u' :: 'e' :: r => .ok (.bool true, r)
  | 'f' :: 'a' :: 'l' :: 's' :: 'e' :: r => .ok (.bool false, r)
  | c :: _ =>
    if c = '"' ∨ c = '\'' then
      (readLiteral (Literal.string c) s).map fun p => (.string p.1, p.2)
    else if c.isDigit ∨ c = '-' then
      (readLiteral Literal.number s).map fun p => (.float p.1, p.2)
    else fault s .paramValue
  | [] => fault s .paramValue

/-- One parameter. -/
def readParam : Reader Problem (String × Value) := fun s =>
  let (name, r) := scanName s
  if name = [] ∨ name = ['*'] then fault r .paramName
  else
    match skipBlanks r with
    | ':' :: r => (readParamValue (skipBlanks r)).map fun p => ((String.ofList name, p.1), p.2)
    | '=' :: r => (readParamValue (skipBlanks r)).map fun p => ((String.ofList name, p.1), p.2)
    | r => fault r .paramSign

/-- The parameters up to and with the closing parenthesis. -/
def readParamsWithin : Nat → Reader Problem (List (String × Value))
  | 0, s => fault s .paramEnd
  | fuel + 1, s => do
    let (p, s) ← readParam (skipBlanks s)
    match skipBlanks s with
    | ')' :: r => .ok ([p], r)
    | ',' :: r => do
      let (ps, r) ← readParamsWithin fuel r
      .ok (p :: ps, r)
    | r => fault r .paramEnd

/-- The parameters; a repeated name keeps its place and takes the last value. -/
def readParams : Reader Problem Params := fun s =>
  (readParamsWithin (s.length + 1) s).map fun p => (Assoc.ofWrites p.1, p.2)

/-- The name of a field and its alias. -/
def readName : Reader Problem (String × Option String) := fun s =>
  let (first, r) := scanName s
  match skipBlanks r with
  | ':' :: r' =>
    if first = [] then fault s .fieldName
    else
      let (name, r) := scanName (skipBlanks r')
      if name = [] then fault r .fieldName
      else .ok ((String.ofList name, some (String.ofList first)), r)
  | r' =>
    if first = [] then fault r' .fieldName else .ok ((String.ofList first, none), r)

/-- One field; `children` reads a selection after its opening brace. -/
def readField (children : Reader Problem Projection) : Reader Problem Selection := fun s => do
  let ((name, shownAs), s) ← readName s
  let (params, s) ← match skipBlanks s with
    | '(' :: r => readParams r
    | r => .ok ([], r)
  match skipBlanks s with
  | '\x7b' :: r => do
    let (c, r) ← children r
    .ok (⟨name, shownAs, params, some c⟩, r)
  | r => .ok (⟨name, shownAs, params, none⟩, r)

/-- Fields between commas, up to the end of the text or, where `opened`, a closing brace. -/
def readFieldsWithin (opened : Bool) (field : Reader Problem Selection) :
    Nat → Reader Problem Projection
  | 0, s => fault s .fieldName
  | fuel + 1, s => do
    let (f, s) ← field (skipBlanks s)
    match skipBlanks s with
    | [] => if opened then fault [] .closingBrace else .ok ([f], [])
    | ',' :: r => do
      let (fs, r) ← readFieldsWithin opened field fuel r
      .ok (f :: fs, r)
    | '\x7d' :: r => if opened then .ok ([f], r) else fault ('\x7d' :: r) .fieldNameAtBrace
    | c :: r => fault (c :: r) (.strayChar c)

/-- A selection after its opening brace, up to and with the closing one. -/
def readChildrenWithin : Nat → Reader Problem Projection
  | 0, s => fault s .nestedTooDeep
  | fuel + 1, s =>
    match skipBlanks s with
    | '\x7d' :: r => .ok ([], r)
    | r => readFieldsWithin true (readField (readChildrenWithin fuel)) (r.length + 1) r

/-- A whole text. -/
def readAll (s : List Char) : Except (Fault Problem) Projection :=
  (readFieldsWithin false (readField (readChildrenWithin (s.length + 1))) (s.length + 1) s).map
    Prod.fst

/-- Reads the text of a projection. -/
def parse (text : String) : Except Error Projection :=
  if text.toList.all isBlank then .ok []
  else (readAll text.toList).mapError fun f => .malformed (f.offset text.toList) f.problem.text

end Projection

end DocQuery
