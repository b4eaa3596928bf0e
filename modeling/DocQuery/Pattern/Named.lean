import DocQuery.Text.AgeTable
import DocQuery.Text.Property
import DocQuery.Text.ScriptTable

/-!
# Sets that patterns know by name

* `CharSet.asciiClass?` — the classes written between `[:` and `:]`.
* `CharSet.named?` — the set of a single name: a property, a general category or a script.
* `CharSet.valued?` — the set of a name and a value: a general category, a script, the scripts in
  use, an age or a part in the division of texts.

Names are compared without case, spaces, hyphens and underscores. Where a name could mean several
things, a property goes before a category and a category before a script.

Main statement: `CharSet.isNamed_plainName`, each of the names is found however it is spaced.
-/

set_option autoImplicit false

namespace DocQuery

namespace CharSet

def asciiDigits : CharSet := range 48 57

def asciiBlanks : CharSet := ⟨[(9, 13), (32, 32)]⟩

def asciiWordChars : CharSet := ⟨[(48, 57), (65, 90), (95, 95), (97, 122)]⟩

/-- The ASCII classes written between `[:` and `:]`. -/
def asciiClasses : List (String × CharSet) :=
  [("alnum", ⟨[(48, 57), (65, 90), (97, 122)]⟩), ("alpha", ⟨[(65, 90), (97, 122)]⟩),
    ("ascii", ⟨[(0, 127)]⟩), ("blank", ⟨[(9, 9), (32, 32)]⟩),
    ("cntrl", ⟨[(0, 31), (127, 127)]⟩), ("digit", asciiDigits), ("graph", ⟨[(33, 126)]⟩),
    ("lower", ⟨[(97, 122)]⟩), ("print", ⟨[(32, 126)]⟩),
    ("punct", ⟨[(33, 47), (58, 64), (91, 96), (123, 126)]⟩), ("space", asciiBlanks),
    ("upper", ⟨[(65, 90)]⟩), ("word", asciiWordChars),
    ("xdigit", ⟨[(48, 57), (65, 70), (97, 102)]⟩)]

def asciiClass? (name : String) : Option CharSet := asciiClasses.lookup name

/-! ## Names -/

/-- A name as it is compared: in lower case, without a leading `is`, spaces, hyphens, underscores
and characters beyond ASCII. With the leading `is` alone `isc` is the name of a comment, not of the
category `c`. -/
def plainName (name : List Char) : String :=
  let keep (s : List Char) : List Char :=
    (s.filter fun c => c != ' ' && c != '-' && c != '_' && c.toNat < 0x80).map Char.toLower
  match name with
  | i :: s :: rest =>
    if i.toLower = 'i' ∧ s.toLower = 's' then
      if keep rest = ['c'] then "isc" else String.ofList (keep rest)
    else String.ofList (keep name)
  | _ => String.ofList (keep name)

/-- Whether a plain name is one of the names. -/
def isNamed (names : List String) (plain : String) : Bool :=
  names.any fun n => plainName n.toList == plain

theorem isNamed_plainName {names : List String} {n : String} (h : n ∈ names) :
    isNamed names (plainName n.toList) = true := by
  simp only [isNamed, List.any_eq_true, beq_iff_eq]
  exact ⟨n, h, rfl⟩

/-! ## General categories -/

/-- General categories and their groups, under their names. Surrogates are no characters. -/
def categoryGroups : List (List String × List Category) :=
  [(["L", "Letter"], [.lu, .ll, .lt, .lm, .lo]),
    (["LC", "Cased_Letter"], [.lu, .ll, .lt]),
    (["Lu", "Uppercase_Letter"], [.lu]), (["Ll", "Lowercase_Letter"], [.ll]),
    (["Lt", "Titlecase_Letter"], [.lt]), (["Lm", "Modifier_Letter"], [.lm]),
    (["Lo", "Other_Letter"], [.lo]),
    (["M", "Mark", "Combining_Mark"], [.mn, .mc, .me]),
    (["Mn", "Nonspacing_Mark"], [.mn]), (["Mc", "Spacing_Mark"], [.mc]),
    (["Me", "Enclosing_Mark"], [.me]),
    (["N", "Number"], [.nd, .nl, .no]),
    (["Nd", "Decimal_Number", "digit"], [.nd]), (["Nl", "Letter_Number"], [.nl]),
    (["No", "Other_Number"], [.no]),
    (["P", "Punctuation", "punct"], [.pc, .pd, .ps, .pe, .pi, .pf, .po]),
    (["Pc", "Connector_Punctuation"], [.pc]), (["Pd", "Dash_Punctuation"], [.pd]),
    (["Ps", "Open_Punctuation"], [.ps]), (["Pe", "Close_Punctuation"], [.pe]),
    (["Pi", "Initial_Punctuation"], [.pi]), (["Pf", "Final_Punctuation"], [.pf]),
    (["Po", "Other_Punctuation"], [.po]),
    (["S", "Symbol"], [.sm, .sc, .sk, .so]),
    (["Sm", "Math_Symbol"], [.sm]), (["Sc", "Currency_Symbol"], [.sc]),
    (["Sk", "Modifier_Symbol"], [.sk]), (["So", "Other_Symbol"], [.so]),
    (["Z", "Separator"], [.zs, .zl, .zp]),
    (["Zs", "Space_Separator"], [.zs]), (["Zl", "Line_Separator"], [.zl]),
    (["Zp", "Paragraph_Separator"], [.zp]),
    (["C", "Other"], [.cc, .cf, .cs, .co, .cn]),
    (["Cc", "Control", "cntrl"], [.cc]), (["Cf", "Format"], [.cf]),
    (["Co", "Private_Use"], [.co]), (["Cn", "Unassigned"], [.cn])]

def category? (plain : String) : Option CharSet :=
  if plain = "any" then some all
  else if plain = "ascii" then some (range 0 127)
  else if plain = "assigned" then some (ofCategories [.cn]).complement
  else (categoryGroups.find? fun g => isNamed g.1 plain).map fun g => ofCategories g.2

/-! ## Scripts -/

/-- The code of the script with a plain name. -/
def scriptCode? (plain : String) : Option String :=
  (scriptNames.find? fun s => isNamed (s.code :: s.names) plain).map (·.code)

/-- The characters of a script. -/
def ofScript (code : String) : CharSet := ofRuns (MarkRun.ofLines scriptRuns) [code]

/-- The characters that are used with a script. -/
def usedWith (code : String) : CharSet :=
  let elsewhere := ofRanges (scriptExtensions.flatMap (·.ranges))
  let extended := scriptExtensions.filter fun e => e.codes.contains code
  let shared := ofRanges (extended.flatMap (·.ranges))
  ((ofScript code).diff elsewhere).union shared

/-! ## Ages -/

/-- The characters of a version, which is named by its numbers, and of all versions before it. -/
def age? (plain : String) : Option CharSet :=
  let isVersion (v : String × Nat × Nat) : Bool :=
    plain == toString v.2.1 ++ "." ++ toString v.2.2 ||
      plain == "v" ++ toString v.2.1 ++ toString v.2.2
  (ageVersions.findIdx? isVersion).map fun i =>
    ofRuns (MarkRun.ofLines ageRuns) ((ageVersions.take (i + 1)).map (·.1))

/-! ## Division of texts -/

/-- The characters of a table whose mark has the plain name. -/
def ofBreak? (names : List (String × List String)) (lines : List String) (plain : String) :
    Option CharSet :=
  (names.find? fun n => isNamed n.2 plain).map fun n => ofRuns (MarkRun.ofLines lines) [n.1]

/-! ## Look-up -/

/-- The property with a plain name. Three short names stand for categories and scripts instead. -/
def property? (plain : String) : Option Property :=
  if plain = "cf" ∨ plain = "sc" ∨ plain = "lc" then none
  else Property.all.find? fun p => isNamed p.names plain

/-- The set of a single name. -/
def named? (name : List Char) : Option CharSet :=
  let plain := plainName name
  match property? plain with
  | some p => some p.members
  | none => category? plain <|> (scriptCode? plain).map ofScript

/-- The set of a name and a value. -/
def valued? (name value : List Char) : Option CharSet :=
  let kind := plainName name
  let plain := plainName value
  if kind = "gc" ∨ kind = "generalcategory" then category? plain
  else if kind = "sc" ∨ kind = "script" then (scriptCode? plain).map ofScript
  else if kind = "scx" ∨ kind = "scriptextensions" then (scriptCode? plain).map usedWith
  else if kind = "age" then age? plain
  else if kind = "gcb" ∨ kind = "graphemeclusterbreak" then
    ofBreak? graphemeBreakNames graphemeBreakRuns plain
  else if kind = "wb" ∨ kind = "wordbreak" then ofBreak? wordBreakNames wordBreakRuns plain
  else if kind = "sb" ∨ kind = "sentencebreak" then
    ofBreak? sentenceBreakNames sentenceBreakRuns plain
  else none

end CharSet

end DocQuery
