import DocQuery.Coercion
import DocQuery.Predicate.Parser
import DocQuery.Predicate.Validate
import DocQuery.Projection.Basic
import DocQuery.SortOrder

/-!
# Validation of projections

Every field of a projection has to be known and visible, a projection of its own fits only a field
that leads to documents, and parameters have to be declared by the field. A connection also takes
the parameters that narrow its documents. Parameters are coerced by their type, or by the rule of
the connection parameter.

* `ConnectionParam.coerce` — the parameters of connections.
* `Selection.validate`, `Projection.validate` — selections from left to right, what is below a
  selection before its parameters; the first failure wins and earlier parameters stay coerced.

Main statement: `Selection.validateAll_eq_all`.
-/

set_option autoImplicit false

namespace DocQuery

/-- The parameters that every connection takes. -/
inductive ConnectionParam
  | filter | order | page | limit | skip
  deriving DecidableEq, Repr

variable [RegexEngine]

namespace ConnectionParam

def all : List ConnectionParam := [filter, order, page, limit, skip]

def name : ConnectionParam → String
  | filter => "filter"
  | order => "sort"
  | page => "page"
  | limit => "limit"
  | skip => "skip"

def ofName? (s : String) : Option ConnectionParam := all.find? fun p => p.name == s

omit [RegexEngine] in
theorem ofName?_name (p : ConnectionParam) : ofName? p.name = some p := by cases p <;> decide

/-- A count: a whole number within the signed words, negative only for a limit. -/
def coerceCount (p : ConnectionParam) (value : Value) : Except String Value :=
  match value.bound? with
  | some (.finite d) =>
    if !d.isWhole then .error "not an integer"
    else if Word.greatest < d.truncate.natAbs then .error "out of range"
    else if p ≠ limit ∧ d.truncate < 0 then .error "must be positive"
    else .ok (.integer d.truncate)
  | _ => .error "not an integer"

/-- The text of a predicate that fits the connected documents; it stays as it is written. -/
def checkFilter (fields : Schema) (value : Value) : Except String Value :=
  match value with
  | .string text =>
    match (Predicate.parse text).bind fun p => (p.validate fields).toExcept with
    | .ok _ => .ok value
    | .error e => .error e.message
  | _ => .error "not a string"

/-- The text of an order that fits the connected documents. -/
def checkOrder (fields : Schema) (value : Value) : Except String Value :=
  match value with
  | .string text =>
    match (SortOrder.parse text).bind fun o => o.validate fields with
    | .ok _ => .ok value
    | .error e => .error e.message
  | _ => .error "not a string"

/-- A parameter as a connection to documents with the fields `fields` takes it. -/
def coerce (p : ConnectionParam) (fields : Schema) (value : Value) : Except String Value :=
  match p with
  | filter => checkFilter fields value
  | order => checkOrder fields value
  | _ => coerceCount p value

end ConnectionParam

/-- The schema of the documents that a field leads to, one list of them included. -/
def Field.childFields (catalog : Catalog) (f : Field) : Option Schema :=
  match f.kind with
  | .scalar => none
  | .object fields => some fields
  | .reference _ target => some (catalog.schema target)
  | .connection _ _ target => some (catalog.schema target)
  | .array element =>
    match element.kind with
    | .object fields => some fields
    | .reference _ target => some (catalog.schema target)
    | _ => none

/-- The schema of the documents that a connection leads to. -/
def Field.connected (catalog : Catalog) (f : Field) : Option Schema :=
  match f.kind with
  | .connection _ _ target => some (catalog.schema target)
  | _ => none

/-- Why a selection does not fit the fields of a document. -/
inductive Selection.Misfit
  | aliasedWildcard
  | unknownField
  | hiddenField
  | noChildren
  | paramsNotAllowed
  | unsupportedParam (param : String)
  | badParam (param : String) (problem : String)

namespace Selection

def Misfit.text : Misfit → String
  | aliasedWildcard => "can't have an alias"
  | unknownField => "unknown field"
  | hiddenField => "hidden field"
  | noChildren => "field has no children"
  | paramsNotAllowed => "params not allowed"
  | unsupportedParam param => "unsupported param name: " ++ param
  | badParam param problem => "invalid param `" ++ param ++ "' value: " ++ problem

/-- The failure at a field. -/
def Misfit.onField (field : String) (m : Misfit) : Error := .invalid (field ++ ": " ++ m.text)

/-- The definition of a field that a selection may show. -/
def visibleField (fields : Schema) (name : String) : Except Error Field :=
  match Schema.lookup fields name with
  | none => .error (Misfit.unknownField.onField name)
  | some f => if f.hidden then .error (Misfit.hiddenField.onField name) else .ok f

/-- One parameter as the field takes it: declared parameters by their type, then those of a
connection. -/
def coerceParam (catalog : Catalog) (f : Field) (field : String) (param : String × Value) :
    Coercion (String × Value) :=
  let bad (problem : String) : Error := (Misfit.badParam param.1 problem).onField field
  match Assoc.get? f.params param.1 with
  | some none => .done param
  | some (some v) =>
    .replace param (((v.validate param.2).mapError bad).map fun value => (param.1, value))
  | none =>
    match f.connected catalog, ConnectionParam.ofName? param.1 with
    | some fields, some p =>
      .replace param (((p.coerce fields param.2).mapError bad).map fun value => (param.1, value))
    | _, _ => .stop param ((Misfit.unsupportedParam param.1).onField field)

/-- The parameters as the field takes them. -/
def coerceParams (catalog : Catalog) (f : Field) (field : String) (params : Params) :
    Coercion Params :=
  if params.isEmpty then .done params
  else if f.params.isEmpty && (f.connected catalog).isNone then
    .stop params (Misfit.paramsNotAllowed.onField field)
  else Coercion.all (coerceParam catalog f field) params

mutual

/-- Checks a selection and coerces its parameters. -/
def validate : Selection → Catalog → Schema → Coercion Selection
  | ⟨name, shownAs, params, children⟩, catalog, fields =>
    if name = wildcardName then
      let s : Selection := ⟨name, shownAs, params, children⟩
      if shownAs.isSome then .stop s (Misfit.aliasedWildcard.onField name) else .done s
    else
      match visibleField fields name with
      | .error e => .stop ⟨name, shownAs, params, children⟩ e
      | .ok f =>
        let ofParams (children : Option (List Selection)) : Coercion Selection :=
          (coerceParams catalog f name params).map fun ps => ⟨name, shownAs, ps, children⟩
        match children with
        | none => ofParams none
        | some below =>
          match f.childFields catalog with
          | none => .stop ⟨name, shownAs, params, some below⟩ (Misfit.noChildren.onField name)
          | some sub =>
            match (validateAll below catalog sub).within name with
            | ⟨below', some e⟩ => .stop ⟨name, shownAs, params, some below'⟩ e
            | ⟨below', none⟩ => ofParams (some below')

/-- Selections from left to right. -/
def validateAll : List Selection → Catalog → Schema → Coercion (List Selection)
  | [], _, _ => .done []
  | s :: r, catalog, fields =>
    match s.validate catalog fields with
    | ⟨s', some e⟩ => ⟨s' :: r, some e⟩
    | ⟨s', none⟩ => (validateAll r catalog fields).map (s' :: ·)

end

theorem validateAll_eq_all (ss : List Selection) (catalog : Catalog) (fields : Schema) :
    validateAll ss catalog fields = Coercion.all (fun s => s.validate catalog fields) ss := by
  induction ss with
  | nil => rfl
  | cons s ss ih =>
    rw [validateAll, Coercion.all]
    cases s.validate catalog fields with
    | mk s' failure => cases failure <;> simp [ih]

end Selection

/-- Checks a projection against the fields that it shows, and coerces its parameters. -/
def Projection.validate (p : Projection) (catalog : Catalog) (fields : Schema) :
    Coercion Projection :=
  Selection.validateAll p catalog fields

end DocQuery
