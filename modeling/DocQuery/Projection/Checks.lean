import DocQuery.Check
import DocQuery.Projection.Validate

/-!
# The checks of projections

* `ConnectionParam.Takes`, `Field.TakesParam` — which values a parameter takes, and what they become.
* `Selection.Valid`, `Projection.Valid` — projections that fit the fields of a document.
* `Selection.arguments`, `Selection.blank` — a projection taken apart into the values of its
  parameters, from left to right, and the rest. What hangs on a `*` belongs to the rest.
* `Selection.checks` — what validation asks of a projection, from left to right, what is below a
  field before its parameters.
* `Projection.Overwritten` — a projection whose first parameters are replaced.
-/

set_option autoImplicit false

namespace DocQuery

/-! ## What fits -/

variable [RegexEngine]

/-- Which values the parameters of a connection to documents with these fields take, and what they
become: texts of predicates and orders that fit stay as they are, counts become integers. -/
inductive ConnectionParam.Takes (fields : Schema) : ConnectionParam → Value → Value → Prop
  | filter {text : String} {p : Predicate} (parsed : Predicate.parse text = .ok p)
    (valid : (p.validate fields).failure = none) :
    Takes fields .filter (.string text) (.string text)
  | order {text : String} {order : SortOrder} (parsed : SortOrder.parse text = .ok order)
    (valid : order.validate fields = .ok ()) :
    Takes fields .order (.string text) (.string text)
  | count {p : ConnectionParam} {v : Value} {d : Double} (counts : p ∈ [.page, .limit, .skip])
    (number : v.bound? = some (.finite d)) (whole : d.isWhole = true)
    (fits : (d.truncate.natAbs : Int) ≤ Word.greatest) (sign : p = .limit ∨ 0 ≤ d.truncate) :
    Takes fields p v (.integer d.truncate)

variable (catalog : Catalog)

/-- The fields of the documents that a field leads to. -/
inductive Field.LeadsTo : Field → Schema → Prop
  | object {c : Capabilities} {fields : Schema} : LeadsTo (.mk c (.object fields)) fields
  | reference {c : Capabilities} {path target : String} :
    LeadsTo (.mk c (.reference path target)) (catalog.schema target)
  | connection {c : Capabilities} {path field target : String} :
    LeadsTo (.mk c (.connection path field target)) (catalog.schema target)
  | objects {c e : Capabilities} {fields : Schema} :
    LeadsTo (.mk c (.array (.mk e (.object fields)))) fields
  | references {c e : Capabilities} {path target : String} :
    LeadsTo (.mk c (.array (.mk e (.reference path target)))) (catalog.schema target)

/-- Which values a field takes as a parameter, and what they become: declared parameters go by their
type, those that it does not declare by the rule of connections. -/
inductive Field.TakesParam (f : Field) : String → Value → Value → Prop
  | untyped {name : String} {v : Value} (declared : Assoc.get? f.params name = some none) :
    TakesParam f name v v
  | typed {name : String} {t : Validator} {v w : Value}
    (declared : Assoc.get? f.params name = some (some t)) (accepted : t.validate v = .ok w) :
    TakesParam f name v w
  | narrowing {p : ConnectionParam} {path field target : String} {v w : Value}
    (undeclared : Assoc.get? f.params p.name = none)
    (connection : f.kind = .connection path field target)
    (taken : p.Takes (catalog.schema target) v w) : TakesParam f p.name v w

namespace Selection

/-- That a selection shows the field `f`, and passes it parameters that it takes. -/
structure Shows (fields : Schema) (s : Selection) (f : Field) : Prop where
  named : s.name ≠ wildcardName
  declared : Schema.lookup fields s.name = some f
  visible : f.hidden = false
  params : ∀ param ∈ s.params, ∃ w, f.TakesParam catalog param.1 param.2 w

/-- Selections that fit the fields of a document. Nothing is asked of what hangs on a `*`. -/
inductive Valid : Selection → Schema → Prop
  | wildcard {s : Selection} {fields : Schema} (star : s.name = wildcardName)
    (unaliased : s.shownAs = none) : Valid s fields
  | plain {s : Selection} {fields : Schema} {f : Field} (shows : s.Shows catalog fields f)
    (bare : s.children = none) : Valid s fields
  | nested {s : Selection} {fields sub : Schema} {f : Field} {below : List Selection}
    (shows : s.Shows catalog fields f) (children : s.children = some below)
    (leads : f.LeadsTo catalog sub) (fit : ∀ t ∈ below, Valid t sub) : Valid s fields

end Selection

/-- Projections that fit the fields of a document. -/
def Projection.Valid (p : Projection) (fields : Schema) : Prop := ∀ s ∈ p, s.Valid catalog fields

/-! ## Arguments and the rest -/

namespace Selection

mutual

/-- The values of parameters that validation may replace, from left to right. -/
def arguments : Selection → List Value
  | ⟨name, _, params, children⟩ =>
    if name = wildcardName then []
    else
      (match children with
        | none => []
        | some below => argumentsAll below) ++ params.map Prod.snd

def argumentsAll : List Selection → List Value
  | [] => []
  | s :: ss => s.arguments ++ argumentsAll ss

end

mutual

/-- The selection without the values of its parameters. -/
def blank : Selection → Selection
  | ⟨name, shownAs, params, children⟩ =>
    if name = wildcardName then ⟨name, shownAs, params, children⟩
    else
      ⟨name, shownAs, params.map fun param => (param.1, .null),
        match children with
        | none => none
        | some below => some (blankAll below)⟩

def blankAll : List Selection → List Selection
  | [] => []
  | s :: ss => s.blank :: blankAll ss

end

variable {name : String} {shownAs : Option String} {params : Params}
  {children : Option (List Selection)}

omit [RegexEngine] in
theorem arguments_of_wildcard (h : name = wildcardName) :
    arguments ⟨name, shownAs, params, children⟩ = [] := by
  cases children <;> exact if_pos h

omit [RegexEngine] in
theorem arguments_of_field (h : name ≠ wildcardName) :
    arguments ⟨name, shownAs, params, children⟩ =
      children.elim [] argumentsAll ++ params.map Prod.snd := by
  cases children <;> exact if_neg h

omit [RegexEngine] in
theorem blank_of_wildcard (h : name = wildcardName) :
    blank ⟨name, shownAs, params, children⟩ = ⟨name, shownAs, params, children⟩ := by
  cases children <;> exact if_pos h

omit [RegexEngine] in
theorem blank_of_field (h : name ≠ wildcardName) :
    blank ⟨name, shownAs, params, children⟩ =
      ⟨name, shownAs, params.map fun p => (p.1, .null), children.map blankAll⟩ := by
  cases children <;> exact if_neg h

/-! ## Checks -/

/-- What a parameter becomes, or why it is turned away. -/
def paramVerdict (f : Field) (param : String × Value) : Except String Value :=
  match Assoc.get? f.params param.1 with
  | some none => .ok param.2
  | some (some t) => (t.validate param.2).mapError fun p => (Misfit.badParam param.1 p).text
  | none =>
    match f.connected catalog, ConnectionParam.ofName? param.1 with
    | some fields, some p =>
      (p.coerce fields param.2).mapError fun problem => (Misfit.badParam param.1 problem).text
    | _, _ => .error (Misfit.unsupportedParam param.1).text

/-- The checks of the parameters that a field is passed. -/
def paramChecks (f : Field) (name : String) (params : Params) : List (Check Value) :=
  .demand name (params.isEmpty || !f.params.isEmpty || (f.connected catalog).isSome)
      Misfit.paramsNotAllowed.text ::
    params.map fun param => .literal name (paramVerdict catalog f param)

mutual

/-- The checks of a selection, in order. -/
def checks : Selection → Schema → List (Check Value)
  | ⟨name, shownAs, params, children⟩, fields =>
    if name = wildcardName then [.demand name shownAs.isNone Misfit.aliasedWildcard.text]
    else
      .demand name (Schema.lookup fields name).isSome Misfit.unknownField.text ::
        match Schema.lookup fields name with
        | none => []
        | some f =>
          .demand name (!f.hidden) Misfit.hiddenField.text ::
            (checksBelow children f name ++ paramChecks catalog f name params)

/-- The checks of what is below the field `f`. -/
def checksBelow : Option (List Selection) → Field → String → List (Check Value)
  | none, _, _ => []
  | some below, f, name =>
    .demand name (f.childFields catalog).isSome Misfit.noChildren.text ::
      match f.childFields catalog with
      | none => []
      | some sub => (checksAll below sub).map (Check.within name)

/-- The checks of selections, from left to right. -/
def checksAll : List Selection → Schema → List (Check Value)
  | [], _ => []
  | s :: ss, fields => s.checks fields ++ checksAll ss fields

end

end Selection

namespace Projection

/-- The values of parameters that validation may replace, from left to right. -/
def arguments (p : Projection) : List Value := Selection.argumentsAll p

/-- The projection without the values of its parameters. -/
def blank (p : Projection) : Projection := Selection.blankAll p

/-- What validation asks of a projection on documents with these fields, in order. -/
def checks (p : Projection) (fields : Schema) : List (Check Value) :=
  Selection.checksAll catalog p fields

/-- That `q` is `p` with `first` in place of its first parameters, and nothing else replaced. -/
abbrev Overwritten (p : Projection) (first : List Value) (q : Projection) : Prop :=
  Coercion.Overwrites arguments blank p first q

end Projection

end DocQuery
