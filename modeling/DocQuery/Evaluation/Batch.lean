import DocQuery.Evaluation.Request

/-!
# Lookups of a pass

The requests of a pass become lookups. A request is a lookup of its own, unless requests are
coalesced and it asks for one id without order and window: all such requests of one path share a
single lookup for all their ids, in the place of the first of them.

* `Ticket` — a request with the number that its place in the drafts is known by.
* `Batch`, `Batch.register`, `Batch.ofTickets` — a lookup with the requests that wait for it.
* `Batch.lookup`, `Batch.answers` — what is asked, and what each waiting request gets of an answer.

Main statements: `Batch.tickets_register`, `Batch.tickets_ofTickets`.
-/

set_option autoImplicit false

namespace DocQuery

variable [RegexEngine]

/-- A request, and the number of its place. -/
abbrev Ticket := Request × Nat

/-- A query that is put to a path. -/
structure Lookup where
  path : String
  query : Query
  deriving Inhabited

namespace Query

/-- The id of a query for one id without order and window. -/
def singleId? (q : Query) : Option Value := if q.isUnordered then q.predicate.singleId? else none

/-- The ids of a query for several ids without order and window. -/
def idList? (q : Query) : Option (List Value) :=
  if q.isUnordered then q.predicate.idList? else none

/-- A query for the documents of several ids. -/
def ofIds (ids : List Value) : Query := .ofPredicate [.among "id" ids]

end Query

/-- A lookup with the requests that wait for it. -/
inductive Batch
  | single (ticket : Ticket)
  /-- Requests for one id each. -/
  | shared (path : String) (waiting : List (Value × Ticket))

namespace Batch

/-! ## Registration -/

/-- Adds a request for one id to the shared lookup of its path. -/
def join (path : String) (id : Value) (t : Ticket) : List Batch → List Batch
  | [] => [shared path [(id, t)]]
  | single u :: r => single u :: join path id t r
  | shared p waiting :: r =>
    if p = path then shared p (waiting ++ [(id, t)]) :: r else shared p waiting :: join path id t r

/-- The id by which a request may share a lookup. -/
def sharedId? (coalesce : Bool) (t : Ticket) : Option Value :=
  if coalesce then t.1.query.singleId? else none

/-- Registers one more request. -/
def register (coalesce : Bool) (batches : List Batch) (t : Ticket) : List Batch :=
  match sharedId? coalesce t with
  | some id => join t.1.path id t batches
  | none => batches ++ [single t]

/-- The lookups of requests in the order of their registration. -/
def ofTickets (coalesce : Bool) (tickets : List Ticket) : List Batch :=
  tickets.foldl (register coalesce) []

/-! ## Asking and answering -/

/-- Ids without those that are alike to an earlier one. -/
def distinct (ids : List Value) : List Value :=
  ids.foldl (fun known id => if known.any fun k => k.alike id then known else known ++ [id]) []

/-- The lookup that is made. -/
def lookup : Batch → Lookup
  | single t => ⟨t.1.path, t.1.query⟩
  | shared path waiting => ⟨path, .ofIds (distinct (waiting.map Prod.fst))⟩

/-- The requests that wait, in their order. -/
def tickets : Batch → List Ticket
  | single t => [t]
  | shared _ waiting => waiting.map Prod.snd

/-- What every waiting request gets of an answer. -/
def answers (answer : Resolved) : Batch → List (Ticket × Resolved)
  | single t => [(t, answer)]
  | shared _ waiting => waiting.map fun w => (w.2, answer.only w.1)

theorem fst_answers (answer : Resolved) (b : Batch) :
    (b.answers answer).map Prod.fst = b.tickets := by
  cases b <;> simp [answers, tickets]

theorem tickets_join (path : String) (id : Value) (t : Ticket) (bs : List Batch) :
    ((join path id t bs).flatMap tickets).Perm (bs.flatMap tickets ++ [t]) := by
  induction bs with
  | nil => simp [join, tickets]
  | cons b bs ih =>
    cases b with
    | single u =>
      simp only [join, List.flatMap_cons, List.append_assoc]
      exact ih.append_left _
    | shared p waiting =>
      simp only [join]
      split
      · simp only [List.flatMap_cons, tickets, List.map_append, List.map_cons, List.map_nil,
          List.append_assoc]
        exact (List.perm_append_comm).append_left _
      · simp only [List.flatMap_cons, List.append_assoc]
        exact ih.append_left _

/-- Registering loses no request and adds none but its own. -/
theorem tickets_register (coalesce : Bool) (bs : List Batch) (t : Ticket) :
    ((register coalesce bs t).flatMap tickets).Perm (bs.flatMap tickets ++ [t]) := by
  unfold register
  split
  · exact tickets_join _ _ _ _
  · simp [tickets]

theorem tickets_foldl (coalesce : Bool) (ts : List Ticket) (bs : List Batch) :
    ((ts.foldl (register coalesce) bs).flatMap tickets).Perm (bs.flatMap tickets ++ ts) := by
  induction ts generalizing bs with
  | nil => simp
  | cons t ts ih =>
    refine (ih _).trans ?_
    simpa using (tickets_register coalesce bs t).append_right ts

/-- Every request waits for exactly one lookup. -/
theorem tickets_ofTickets (coalesce : Bool) (ts : List Ticket) :
    ((ofTickets coalesce ts).flatMap tickets).Perm ts := by
  simpa [ofTickets] using tickets_foldl coalesce ts []

end Batch

end DocQuery
