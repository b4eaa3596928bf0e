import DocQuery.Assoc
import DocQuery.Text.Category
import DocQuery.Text.Quoted

/-!
# The event log

A line of the log is one event: an object with the event's name, its severity and the event's
fields ordered by key. A logger writes the events at or above its severity, or none at all.

* `Severity`, `Event` — what is logged and how severe it is.
* `Logger`, `Logger.write?` — which events are written, and the line of each.

Main statements: `Severity.ofName?_name`, `Logger.write?_isSome_iff`.
-/

set_option autoImplicit false

namespace DocQuery

inductive Severity
  | trace | info | warn | error | fatal
  deriving DecidableEq, Repr, Inhabited

namespace Severity

/-- In rising order. -/
def all : List Severity := [trace, info, warn, error, fatal]

def name : Severity → String
  | trace => "TRACE"
  | info => "INFO"
  | warn => "WARN"
  | error => "ERROR"
  | fatal => "FATAL"

/-- The name in a record's display. -/
def shownName : Severity → String
  | trace => "Trace"
  | info => "Info"
  | warn => "Warn"
  | error => "Error"
  | fatal => "Fatal"

def ofName? (s : String) : Option Severity := all.find? fun v => v.name == s

def level : Severity → Nat
  | trace => 0
  | info => 1
  | warn => 2
  | error => 3
  | fatal => 4

theorem ofName?_name (s : Severity) : ofName? s.name = some s := by cases s <;> decide

theorem level_injective {s t : Severity} (h : s.level = t.level) : s = t := by
  cases s <;> cases t <;> simp_all [level]

end Severity

/-- What evaluation reports. -/
inductive Event
  /-- All requests of a resolution pass succeeded. -/
  | passResolved
  /-- A resolution pass ended with a failure. -/
  | passFailed
  /-- A projection was evaluated. -/
  | completed
  deriving DecidableEq, Repr

namespace Event

def name : Event → String
  | passResolved => "QUERY_RESOLUTION_PASS"
  | passFailed => "QUERY_RESOLUTION_FAILED"
  | completed => "QUERY_EVAL_COMPLETE"

def severity : Event → Severity
  | passResolved => .trace
  | passFailed => .error
  | completed => .info

def all : List Event := [passResolved, passFailed, completed]

def ofName? (s : String) : Option Event := all.find? fun e => e.name == s

theorem ofName?_name (e : Event) : ofName? e.name = some e := by cases e <;> decide

end Event

/-- An event with its fields, as handed to a logger. -/
structure LogEntry where
  severity : Severity
  event : String
  fields : List (String × String)
  deriving DecidableEq, Repr

namespace LogEntry

/-- An event at its own severity. -/
def ofEvent (e : Event) (fields : List (String × String)) : LogEntry := ⟨e.severity, e.name, fields⟩

def encodeChar (c : Char) : List Char :=
  if c = '"' then ['\\', '"']
  else if c = '\\' then ['\\', '\\']
  else if c = '\n' then ['\\', 'n']
  else if c = '\r' then ['\\', 'r']
  else if c = '\t' then ['\\', 't']
  else if isControl c then '\\' :: 'u' :: Quoted.hexDigits c.toNat
  else [c]

/-- A string between quotes, with every control character escaped. -/
def quoted (s : String) : List Char := '"' :: (s.toList.flatMap encodeChar ++ ['"'])

/-- Puts a pair in front of the first one with a greater key. -/
def insertByKey (p : String × String) : List (String × String) → List (String × String)
  | [] => [p]
  | q :: r => if q.1 < p.1 then q :: insertByKey p r else p :: q :: r

/-- The pairs ordered by key, those of one key in their order. -/
def orderedFields (fields : List (String × String)) : List (String × String) :=
  fields.foldr insertByKey []

/-- The line of an event, with its line end. -/
def line (e : LogEntry) : String :=
  let pairs := ("event", e.event) :: ("severity", e.severity.name) :: orderedFields e.fields
  let texts := pairs.map fun p => quoted p.1 ++ ':' :: quoted p.2
  String.ofList ('\x7b' :: (List.intercalate [','] texts ++ ['\x7d', '\n']))

end LogEntry

/-- Which events are written. -/
structure Logger where
  minSeverity : Severity
  hasSink : Bool
  deriving DecidableEq, Repr

namespace Logger

/-- Writes nothing. -/
def discard : Logger := ⟨.fatal, false⟩

/-- Writes every event at or above a severity. -/
def atLeast (min : Severity) : Logger := ⟨min, true⟩

def enabled (l : Logger) (s : Severity) : Bool := l.hasSink && l.minSeverity.level ≤ s.level

/-- The line that an event is written as, if it is written. -/
def write? (l : Logger) (e : LogEntry) : Option String :=
  if l.enabled e.severity then some e.line else none

/-- The lines of several events. -/
def lines (l : Logger) (es : List LogEntry) : List String := es.filterMap l.write?

/-- A logger as diagnostics show it. -/
def shown (l : Logger) : String :=
  "Logger \x7b min_severity: " ++ l.minSeverity.shownName ++ ", enabled: " ++
    (if l.hasSink then "true" else "false") ++ " \x7d"

theorem write?_isSome_iff (l : Logger) (e : LogEntry) :
    (l.write? e).isSome ↔ l.hasSink = true ∧ l.minSeverity.level ≤ e.severity.level := by
  simp [write?, enabled]

end Logger

end DocQuery
