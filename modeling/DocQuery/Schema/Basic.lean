import DocQuery.Value.Path
import DocQuery.Text.Shown

/-!
# Schemas

A schema says what queries may do with the fields of a document: filter on them, sort by them, see
them, pass them parameters, follow them to another collection. Field types plug in as validators
and handlers; the engine knows only these capabilities.

* `Validator`, `Handler` — what a field type can do.
* `Field`, `Kind`, `Schema` — the fields of a document; references name the schema of their target.
* `Catalog` — schemas by name, so that schemas can refer to each other and to themselves.
* `Schema.lookup` — the field at a dotted path.

Main statements: `Schema.lookup_append`, `Schema.mem_of_lookup`.
-/

set_option autoImplicit false

namespace DocQuery

/-- The parameters that a projection passes to a field. -/
abbrev Params := Assoc Value

/-- A field type: it coerces the values of queries, orders values and prepares them for output. -/
structure Validator where
  /-- Accepts and normalises a value. -/
  validate : Value → Except String Value
  /-- The same for the literals of predicates, where some constraints make no sense. -/
  validateQuery : Value → Except String Value
  /-- Whether the order comparisons of predicates apply. -/
  isNumeric : Bool := false
  /-- Strict order for sorting. -/
  less? : Option (Value → Value → Bool) := none
  /-- The output form of a stored value. -/
  serialize : Value → Except String Value := .ok

/-- Transforms a field's value by the parameters that a projection passes. -/
abbrev Handler := Value → Params → Except String Value

/-- What queries may do with a field, its structure aside. -/
structure Capabilities where
  filterable : Bool := false
  sortable : Bool := false
  /-- Stored but never shown nor selectable. -/
  hidden : Bool := false
  validator : Option Validator := none
  /-- The parameters it accepts, in name order, each with the type of its values. -/
  params : Assoc (Option Validator) := []
  handler : Option Handler := none

mutual

/-- A field: its capabilities and its structure. -/
inductive Field
  | mk (capabilities : Capabilities) (kind : Kind)

/-- The structure of a field. -/
inductive Kind
  | scalar
  /-- A document with fields of its own. -/
  | object (fields : List (String × Field))
  /-- A list of elements of one kind. -/
  | array (element : Field)
  /-- The id of a document in another collection. -/
  | reference (path : String) (target : String)
  /-- The documents of another collection whose `field` holds this document's id; never stored. -/
  | connection (path : String) (field : String) (target : String)

end

instance : Inhabited Field := ⟨.mk { } .scalar⟩

/-- The fields of a document, in name order. -/
abbrev Schema := Assoc Field

/-- Schemas by name. -/
abbrev Catalog := Assoc Schema

/-- The schema of a name; an unknown one has no fields. -/
def Catalog.schema (c : Catalog) (name : String) : Schema := (Assoc.get? c name).getD []

namespace Kind

def name : Kind → String
  | scalar => "scalar"
  | object _ => "object"
  | array _ => "array"
  | reference _ _ => "reference"
  | connection _ _ _ => "connection"

end Kind

namespace Field

def capabilities : Field → Capabilities
  | mk c _ => c

def kind : Field → Kind
  | mk _ k => k

def filterable (f : Field) : Bool := f.capabilities.filterable

def sortable (f : Field) : Bool := f.capabilities.sortable

def hidden (f : Field) : Bool := f.capabilities.hidden

def validator (f : Field) : Option Validator := f.capabilities.validator

def params (f : Field) : Assoc (Option Validator) := f.capabilities.params

def handler (f : Field) : Option Handler := f.capabilities.handler

/-- Whether the order comparisons of predicates apply. -/
def isNumeric (f : Field) : Bool :=
  match f.validator with
  | some v => v.isNumeric
  | none => false

end Field

namespace Schema

/-- The field under the first name, followed through object fields under the others. -/
def follow (schema : Schema) : List String → Option Field
  | [] => none
  | [name] => Assoc.get? schema name
  | name :: names =>
    match Assoc.get? schema name with
    | some f =>
      match f.kind with
      | .object sub => follow sub names
      | _ => none
    | none => none

/-- The field at a dotted path. -/
def lookup (schema : Schema) (path : String) : Option Field := follow schema (Path.segments path)

theorem follow_append (schema : Schema) {ps qs : List String} (hp : ps ≠ []) (hq : qs ≠ []) :
    follow schema (ps ++ qs) =
      match (follow schema ps).map Field.kind with
      | some (.object sub) => follow sub qs
      | _ => none := by
  induction ps generalizing schema with
  | nil => exact absurd rfl hp
  | cons p ps ih =>
    cases ps with
    | nil =>
      cases qs with
      | nil => exact absurd rfl hq
      | cons q qs =>
        simp only [List.cons_append, List.nil_append, follow]
        cases Assoc.get? schema p with
        | none => rfl
        | some f => cases h : f.kind <;> simp [h]
    | cons p' ps =>
      simp only [List.cons_append] at ih ⊢
      rw [follow, follow]
      · cases Assoc.get? schema p with
        | none => rfl
        | some f =>
          cases h : f.kind with
          | object sub => simpa only [h] using ih sub (by simp)
          | _ => simp [h]
      · simp
      · simp

theorem lookup_append (schema : Schema) (p q : String) :
    lookup schema (p ++ "." ++ q) =
      match (lookup schema p).map Field.kind with
      | some (.object sub) => lookup sub q
      | _ => none := by
  simp only [lookup, Path.segments_append]
  exact follow_append schema (Path.segments_ne_nil p) (Path.segments_ne_nil q)

/-- Where no field is an object, a path names a field of the schema itself. -/
theorem mem_of_lookup {schema : Schema}
    (hflat : ∀ f ∈ schema.map Prod.snd, ∀ sub, f.kind ≠ .object sub)
    {path : String} {f : Field} (h : lookup schema path = some f) : f ∈ schema.map Prod.snd := by
  have hmem : ∀ {key : String} {g : Field}, Assoc.get? schema key = some g →
      g ∈ schema.map Prod.snd := fun hg => List.mem_map.2 ⟨_, Assoc.mem_of_get? hg, rfl⟩
  unfold lookup at h
  match hnames : Path.segments path with
  | [] => exact absurd hnames (Path.segments_ne_nil path)
  | [name] =>
    rw [hnames, follow] at h
    exact hmem h
  | name :: name' :: names =>
    rw [hnames, follow] at h
    · split at h
      · rename_i g hg
        split at h
        · rename_i sub hsub
          exact absurd hsub (hflat g (hmem hg) sub)
        · cases h
      · cases h
    · simp

end Schema

/-! ## As diagnostics show them -/

def shownBool (b : Bool) : String := if b then "true" else "false"

namespace Field

def shown (f : Field) : String :=
  "Field \x7b filterable: " ++ shownBool f.filterable ++ ", sortable: " ++ shownBool f.sortable ++
    ", hidden: " ++ shownBool f.hidden ++ ", validator: " ++ shownBool f.validator.isSome ++
    ", params: [" ++ ", ".intercalate ((Assoc.keys f.params).map shownString) ++ "], handler: " ++
    shownBool f.handler.isSome ++ ", kind: " ++ shownString f.kind.name ++ " \x7d"

end Field

/-- A parameter, of which only the presence of a type is told. -/
def shownParam (validator : Option Validator) : String :=
  "Param \x7b validator: " ++ shownBool validator.isSome ++ " \x7d"

def Schema.shown (schema : Schema) : String :=
  let entries := schema.map fun e => shownString e.1 ++ ": " ++ e.2.shown
  "\x7b" ++ ", ".intercalate entries ++ "\x7d"

end DocQuery
