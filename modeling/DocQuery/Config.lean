import DocQuery.Error
import DocQuery.Log
import DocQuery.Text.Json
import DocQuery.Value.Text

/-!
# Settings of evaluation

* `Config` — the settings and their defaults.
* `Config.ofText` — reads them from a data file: an object with the settings by name, of which
  every one may be missing and unknown ones are ignored, or a list of them in their order.
* `Config.text` — the data file of settings.

Main statement: `Config.ofJson_empty`.
-/

set_option autoImplicit false

namespace DocQuery

structure Config where
  /-- The items of a connection's page where no parameter says it. -/
  connectionLimit : Int := 20
  /-- Whether lookups by one id in the same collection are made together. -/
  coalesceReferences : Bool := true
  /-- The least severe events that are logged. -/
  logLevel : Severity := .info
  deriving DecidableEq, Repr, Inhabited

namespace Config

/-- Why a data file holds no settings. -/
inductive Problem
  | malformed (p : Json.Problem)
  | badKey
  | repeated (key : String)
  | badSetting (key : String)
  | tooMany
  | notSettings
  deriving DecidableEq, Repr

def Problem.text : Problem → String
  | malformed p => p.text
  | badKey => "malformed key"
  | repeated key => "duplicate field `" ++ key ++ "`"
  | badSetting key => "invalid value of `" ++ key ++ "`"
  | tooMany => "too many settings"
  | notSettings => "expected an object"

/-! ## Reading -/

/-- An integer that is a signed word of 64 bits. -/
def word? (j : Json) : Option Int :=
  j.integer?.bind fun i => if Word.least ≤ i ∧ i ≤ Word.greatest then some i else none

/-- The name of a severity, alone or as the only key of an object with nothing under it. -/
def severity? : Json → Option Severity
  | .object [(key, .null)] => (Json.decodeBody? key).bind Severity.ofName?
  | .string body => (Json.decodeBody? body).bind Severity.ofName?
  | _ => none

def limitKey : String := "connection_limit"

def coalesceKey : String := "coalesce_references"

def levelKey : String := "log_level"

/-- A setting that may be missing. -/
def setting {α : Type} (key : String) (read : Json → Option α) (default : α) :
    Option Json → Except Problem α
  | none => .ok default
  | some j => match read j with
    | some a => .ok a
    | none => .error (.badSetting key)

/-- The settings from what stands for each of them. -/
def ofParts (limit coalesce level : Option Json) : Except Problem Config := do
  let limit ← setting limitKey word? 20 limit
  let coalesce ← setting coalesceKey Json.bool? true coalesce
  let level ← setting levelKey severity? .info level
  .ok ⟨limit, coalesce, level⟩

/-- The entry of a key, which may be missing but not repeated. -/
def entry (entries : Assoc Json) (key : String) : Except Problem (Option Json) :=
  match entries.filter fun e => e.1 == key with
  | [] => .ok none
  | [e] => .ok (some e.2)
  | _ => .error (.repeated key)

/-- The entries of an object with their keys decoded. -/
def decodeKeys : List (List Char × Json) → Except Problem (Assoc Json)
  | [] => .ok []
  | (body, j) :: r =>
    match Json.decodeBody? body with
    | none => .error .badKey
    | some key => (decodeKeys r).map ((key, j) :: ·)

/-- The settings of a data file. -/
def ofJson : Json → Except Problem Config
  | .object raw => do
    let entries ← decodeKeys raw
    let limit ← entry entries limitKey
    let coalesce ← entry entries coalesceKey
    let level ← entry entries levelKey
    ofParts limit coalesce level
  | .array items =>
    if 3 < items.length then .error .tooMany else ofParts items[0]? items[1]? items[2]?
  | _ => .error .notSettings

/-- A failure to read settings. -/
def failure (p : Problem) : Error := .unreadable ("invalid config: " ++ p.text)

/-- Reads settings. -/
def ofText (text : String) : Except Error Config :=
  match Json.parse text with
  | .error f => .error (failure (.malformed f.problem))
  | .ok j => (ofJson j).mapError failure

/-! ## Writing -/

/-- The data file of settings, in their order. -/
def text (c : Config) : String :=
  (Value.object [(limitKey, .integer c.connectionLimit), (coalesceKey, .bool c.coalesceReferences),
    (levelKey, .string c.logLevel.name)]).compact

/-- The logger of the settings. -/
def logger (c : Config) : Logger := .atLeast c.logLevel

theorem ofJson_empty : ofJson (.object []) = .ok { } := rfl

end Config

end DocQuery
