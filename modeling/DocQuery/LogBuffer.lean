import DocQuery.Log
import DocQuery.Text.Bytes
import DocQuery.Text.Json
import DocQuery.Text.Split

/-!
# Logs in memory

A logger may write to memory, where the lines of the events stand one after the other until they
are read back.

* `LogBuffer`, `Logger.log`, `Logger.logAll` — what is written, by one event and by several.
* `textLines`, `LogBuffer.lines` — reading lines back.
* `LogEntry.StablySorts`, `LogEntry.Tells` — what a line says of its event, as specifications.

Main statement: `Logger.logAll_append`.
-/

set_option autoImplicit false

namespace DocQuery

/-! ## Writing -/

/-- What was written to memory. -/
structure LogBuffer where
  contents : String := ""
  deriving DecidableEq, Repr

namespace Logger

/-- Hands one event to a logger that writes to memory. -/
def log (l : Logger) (buffer : LogBuffer) (e : LogEntry) : LogBuffer :=
  match l.write? e with
  | some line => ⟨buffer.contents ++ line⟩
  | none => buffer

/-- Hands events to the logger, one after the other. -/
def logAll (l : Logger) (buffer : LogBuffer) (es : List LogEntry) : LogBuffer :=
  es.foldl l.log buffer

theorem logAll_append (l : Logger) (buffer : LogBuffer) (es es' : List LogEntry) :
    l.logAll buffer (es ++ es') = l.logAll (l.logAll buffer es) es' :=
  List.foldl_append

end Logger

/-! ## Reading back -/

/-- A line without the carriage return at its end. -/
def dropReturn (line : List Char) : List Char :=
  if line.getLast? = some '\r' then line.dropLast else line

/-- The lines of a text. Each ends with a line feed, which is dropped together with a carriage
return in front of it; what stands after the last line feed is a line if it is not empty. -/
def textLines (s : List Char) : List (List Char) :=
  let parts := splitAtEach '\n' s
  let last := parts.getLastD []
  parts.dropLast.map dropReturn ++ if last.isEmpty then [] else [last]

/-- The lines in memory. -/
def LogBuffer.lines (buffer : LogBuffer) : List String :=
  (textLines buffer.contents.toList).map String.ofList

/-! ## What a line says -/

/-- The keys of a tree with their strings, where it is an object of strings. -/
def Json.stringPairs? : Json → Option (List (String × String))
  | object entries => entries.mapM fun e =>
      (decodeBody? e.1).bind fun key => e.2.string?.map fun value => (key, value)
  | _ => none

namespace LogEntry

/-- The same pairs in the order of the bytes of their keys, those of one key in the order they came
in. -/
structure StablySorts (fields sorted : List (String × String)) : Prop where
  perm : sorted.Perm fields
  ordered : sorted.Pairwise fun p q => bytes p.1.toList ≤ bytes q.1.toList
  stable : ∀ key, sorted.filter (·.1 == key) = fields.filter (·.1 == key)

/-- A line tells an event: with a line feed it is what is written, it has no control character, and
with or without the line feed it is an object that holds the event's name, its severity and then
its fields in order. -/
structure Tells (e : LogEntry) (line : String) : Prop where
  written : e.line = line ++ "\n"
  clean : ∀ c ∈ line.toList, isControl c = false
  readable : ∃ tree sorted, Json.parse line = .ok tree ∧ Json.parse (line ++ "\n") = .ok tree ∧
    tree.stringPairs? = some (("event", e.event) :: ("severity", e.severity.name) :: sorted) ∧
      StablySorts e.fields sorted

end LogEntry

end DocQuery
