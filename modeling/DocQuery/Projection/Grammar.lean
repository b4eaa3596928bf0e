import DocQuery.Predicate.Grammar
import DocQuery.Projection.Parser

/-!
# The grammar of projections

Which texts stand for which projections, apart from how they are read. Strings between double
quotes, numbers, booleans, blanks and lists are those of predicates.

* `NameRun`, `NameText` — names.
* `SingleQuoted` — strings between single quotes.
* `ParamText`, `ParamsText` — parameters.
* `FieldText`, `ProjectionText` — fields, and a whole text.
-/

set_option autoImplicit false

namespace DocQuery.Grammar

/-! ## Names -/

/-- Letters, digits, `_` and `-`, at least one. -/
def NameRun (w : List Char) : Prop := w ≠ [] ∧ ∀ c ∈ w, Projection.isNameChar c = true

/-- The name of a field, or its alias. -/
inductive NameText : List Char → String → Prop
  | run {w : List Char} (name : NameRun w) : NameText w (String.ofList w)
  | star : NameText ['*'] (String.ofList ['*'])

/-! ## Parameters -/

/-- The inside of a string: a quote stands only behind a backslash, and no backslash stands last. -/
inductive Inside (quoteMark : Char) : List Char → Prop
  | nil : Inside quoteMark []
  | plain {c : Char} {w : List Char} (backslash : c ≠ '\\') (quote : c ≠ quoteMark)
    (more : Inside quoteMark w) : Inside quoteMark (c :: w)
  | escaped {c : Char} {w : List Char} (more : Inside quoteMark w) :
    Inside quoteMark ('\\' :: c :: w)

/-- A string between single quotes. Without any backslash it stands for itself; with one it stands
for what it would between double quotes, its single quotes without their backslashes and its double
quotes behind one. -/
inductive SingleQuoted : List Char → String → Prop
  | plain {w : List Char} (backslash : '\\' ∉ w) (inside : Inside '\'' w) :
    SingleQuoted ('\'' :: (w ++ ['\''])) (String.ofList w)
  | escaped {w s : List Char} (backslash : '\\' ∈ w) (inside : Inside '\'' w)
    (escapes : Escapes (Literal.escapeDouble (Literal.unescapeSingle w)) s) :
    SingleQuoted ('\'' :: (w ++ ['\''])) (String.ofList s)

inductive ParamValueText : List Char → Value → Prop
  | string {w : List Char} {s : String} (text : StringText w s) : ParamValueText w (.string s)
  | single {w : List Char} {s : String} (text : SingleQuoted w s) : ParamValueText w (.string s)
  | number {w : List Char} {d : Double} (text : NumberText w d) : ParamValueText w (.float d)
  | bool {w : List Char} {b : Bool} (text : BoolText w b) : ParamValueText w (.bool b)

/-- A parameter; a colon or an equals sign stands between its name and its value. -/
inductive ParamText : List Char → String × Value → Prop
  | intro {w b b' u : List Char} {sign : Char} {v : Value} (name : NameRun w) (before : Blanks b)
    (known : sign = ':' ∨ sign = '=') (after : Blanks b') (value : ParamValueText u v) :
    ParamText (w ++ (b ++ sign :: (b' ++ u))) (String.ofList w, v)

/-- The parameters of a field, if it has any. A repeated name keeps its place and takes the last
value. -/
inductive ParamsText : List Char → Params → Prop
  | absent : ParamsText [] []
  | present {b w : List Char} {params : List (String × Value)} (before : Blanks b)
    (series : SeriesText ParamText w params) :
    ParamsText (b ++ '(' :: (w ++ [')'])) (Assoc.ofWrites params)

/-! ## Fields -/

/-- The alias of a field and the colon after it, if it has one. -/
inductive AliasText : List Char → Option String → Prop
  | absent : AliasText [] none
  | present {w b b' : List Char} {shownAs : String} (name : NameText w shownAs) (before : Blanks b)
    (after : Blanks b') : AliasText (w ++ (b ++ ':' :: b')) (some shownAs)

/-- A field: an alias, a name, parameters, and a selection between braces, which may be empty and is
not the same as none. -/
inductive FieldText : List Char → Selection → Prop
  | leaf {h w g : List Char} {shownAs : Option String} {name : String} {params : Params}
    (label : AliasText h shownAs) (text : NameText w name) (passed : ParamsText g params) :
    FieldText (h ++ (w ++ g)) ⟨name, shownAs, params, none⟩
  | parent {h w g b u : List Char} {shownAs : Option String} {name : String} {params : Params}
    {children : List Selection} (label : AliasText h shownAs) (text : NameText w name)
    (passed : ParamsText g params) (before : Blanks b)
    (list : ListText FieldText '\x7b' '\x7d' u children) :
    FieldText (h ++ (w ++ (g ++ (b ++ u)))) ⟨name, shownAs, params, some children⟩

/-- A whole text: one field or more with commas between them. -/
abbrev ProjectionText : List Char → Projection → Prop := SeriesText FieldText

end DocQuery.Grammar
