import DocQuery.Config
import DocQuery.Evaluation.Pass

/-!
# Evaluation of projections

An evaluation walks the projection over the documents, resolves the requests that the walk leaves,
and renders the drafts. Several documents share their passes.

* `Evaluator` — the settings, and where events go; `withLogger`, `withConfig`.
* `Assembly` — what is done before and after the passes, for one document and for several.
* `Evaluator.evalWithin`, `Evaluator.evalAllWithin` — evaluation in so many passes at most.
* `Evaluator.EvaluatesTo`, `Evaluator.EvaluatesAllTo` — evaluation in any number of passes.
* `Evaluator.eval`, `Evaluator.evalAll` — evaluation in the passes that are allowed.

Main statement: `Evaluator.withConfig_logger`.
-/

set_option autoImplicit false

namespace DocQuery

/-- The settings of evaluations, and the logger of their events. -/
structure Evaluator where
  config : Config := { }
  logger : Logger := .discard
  /-- Whether the logger was given; the settings replace only one that was not. -/
  hasOwnLogger : Bool := false

variable [RegexEngine]

namespace Evaluator

def withLogger (e : Evaluator) (logger : Logger) : Evaluator :=
  { e with logger := logger, hasOwnLogger := true }

def withConfig (e : Evaluator) (config : Config) : Evaluator :=
  { e with config := config, logger := if e.hasOwnLogger then e.logger else config.logger }

omit [RegexEngine] in
theorem withConfig_logger (e : Evaluator) (config : Config) (logger : Logger) :
    ((e.withLogger logger).withConfig config).logger = logger := rfl

/-- What passes need to know. -/
def passes (e : Evaluator) (catalog : Catalog) (resolver : Resolver) : Passes :=
  ⟨⟨catalog, e.config.connectionLimit⟩, e.config.coalesceReferences, resolver⟩

/-- Finishes an evaluation: renders it and reports how much came out after how many passes. -/
def finish {α : Type} (unit : String) (size : α → Nat) (passes : Nat)
    (rendered : Except Error α) : Run α := do
  let result ← Run.ofExcept rendered
  Run.report .completed [(unit, toString (size result)), ("passes", toString passes)]
  pure result

end Evaluator

/-! ## Around the passes -/

/-- What an evaluation does before and after its passes: which requests a walk leaves, what is
rendered of their answers, and how the size of the result is reported. -/
structure Assembly (δ α : Type) where
  tickets : δ → List Ticket
  render : δ → Answers → Except Error α
  unit : String
  size : α → Nat

namespace Assembly

/-- One document. -/
def document : Assembly (Draft.Writes Request) Document where
  tickets draft := Draft.requestsOfWrites (Draft.numberWrites 0 draft)
  render draft answers :=
    Draft.renderDocument (Draft.bindWrites (fun t => answers t.2) (Draft.numberWrites 0 draft))
  unit := "fields"
  size := List.length

/-- Several documents, which share their passes. -/
def documents : Assembly (List (Draft.Writes Request)) (List Document) where
  tickets drafts := (Draft.numberDocuments 0 drafts).flatMap Draft.requestsOfWrites
  render drafts answers := (Draft.numberDocuments 0 drafts).mapM fun draft =>
    Draft.renderDocument (Draft.bindWrites (fun t => answers t.2) draft)
  unit := "items"
  size := List.length

/-- A walk, `limit` passes at most for what it asks for, and the rendering. -/
def run {δ α : Type} (A : Assembly δ α) (ps : Passes) (limit : Nat) (walk : Except Error δ) :
    Run α := do
  let draft ← Run.ofExcept walk
  let (answers, passes) ← ps.settle limit 0 (A.tickets draft)
  Evaluator.finish A.unit A.size passes (A.render draft answers)

end Assembly

/-- What runs come to that may take more and more passes: from some number of passes on, each of
them is this run. -/
def Run.ComeTo {α : Type} (runs : Nat → Run α) (run : Run α) : Prop :=
  ∃ enough, ∀ limit, enough ≤ limit → runs limit = run

namespace Evaluator

variable (e : Evaluator) (catalog : Catalog) (resolver : Resolver) (p : Projection)
  (fields : Schema)

/-! ## Evaluation in so many passes at most -/

/-- Evaluates a projection on one document in `limit` passes at most. -/
def evalWithin (limit : Nat) (doc : Document) : Run Document :=
  let ps := e.passes catalog resolver
  Assembly.document.run ps limit (p.draft ps.scope doc fields)

/-- Evaluates a projection on several documents, which share `limit` passes at most. -/
def evalAllWithin (limit : Nat) (docs : List Document) : Run (List Document) :=
  let ps := e.passes catalog resolver
  Assembly.documents.run ps limit (docs.mapM fun doc => p.draft ps.scope doc fields)

/-! ## Evaluation in any number of passes -/

/-- The evaluation of a projection on one document ends, and this is how. -/
def EvaluatesTo (doc : Document) (run : Run Document) : Prop :=
  Run.ComeTo (fun limit => e.evalWithin catalog resolver p fields limit doc) run

/-- The evaluation of a projection on several documents ends, and this is how. -/
def EvaluatesAllTo (docs : List Document) (run : Run (List Document)) : Prop :=
  Run.ComeTo (fun limit => e.evalAllWithin catalog resolver p fields limit docs) run

/-! ## Evaluation -/

/-- The passes that are allowed beyond the levels of a projection. -/
def sparePasses : Nat := 1000000

/-- How many passes are allowed where it has to come to an end. Each one goes a level down the
projection, except where a connection is found among all keys of a document. -/
def passLimit (p : Projection) : Nat := Projection.depth p + sparePasses

/-- Evaluates a projection on one document. -/
def eval (doc : Document) : Run Document :=
  e.evalWithin catalog resolver p fields (passLimit p) doc

/-- Evaluates a projection on several documents, which share their passes. -/
def evalAll (docs : List Document) : Run (List Document) :=
  e.evalAllWithin catalog resolver p fields (passLimit p) docs

end Evaluator

end DocQuery
