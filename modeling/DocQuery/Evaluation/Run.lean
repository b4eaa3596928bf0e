import DocQuery.Evaluation.Batch
import DocQuery.Log

/-!
# What an evaluation leaves behind

Beside its result, an evaluation leaves the lookups that it made and the events that it reported,
both in order, also where it fails.

* `Run`, `Run.bind` — a result with its traces; going on where nothing failed.
* `Run.look`, `Run.report`, `Run.fail`, `Run.ofExcept` — the single steps.

Main statements: `Run.result_bind`, `Run.bind_assoc`, `Run.pure_bind`.
-/

set_option autoImplicit false

namespace DocQuery

variable [RegexEngine]

/-- The outcome of an evaluation with its traces. -/
structure Run (α : Type) where
  result : Except Error α
  lookups : List Lookup
  log : List LogEntry

namespace Run

variable {α β γ : Type}

/-- A result without traces. -/
def ofExcept (r : Except Error α) : Run α := ⟨r, [], []⟩

def fail (e : Error) : Run α := ofExcept (.error e)

/-- Goes on after a success. -/
def bind (r : Run α) (f : α → Run β) : Run β :=
  match r.result with
  | .error e => ⟨.error e, r.lookups, r.log⟩
  | .ok a => ⟨(f a).result, r.lookups ++ (f a).lookups, r.log ++ (f a).log⟩

instance : Monad Run where
  pure a := ofExcept (.ok a)
  bind := bind

/-- Makes lookups. -/
def look (ls : List Lookup) : Run Unit := ⟨.ok (), ls, []⟩

/-- Reports an event with its fields. -/
def report (e : Event) (fields : List (String × String)) : Run Unit :=
  ⟨.ok (), [], [.ofEvent e fields]⟩

@[simp] theorem result_bind (r : Run α) (f : α → Run β) :
    (r >>= f).result = r.result.bind fun a => (f a).result := by
  obtain ⟨result, ls, log⟩ := r
  cases result <;> rfl

@[simp] theorem result_pure (a : α) : (pure a : Run α).result = .ok a := rfl

@[simp] theorem result_look (ls : List Lookup) : (look ls).result = .ok () := rfl

@[simp] theorem result_report (e : Event) (fields : List (String × String)) :
    (report e fields).result = .ok () := rfl

@[simp] theorem result_ofExcept (r : Except Error α) : (ofExcept r).result = r := rfl

@[simp] theorem result_fail (e : Error) : (fail e : Run α).result = .error e := rfl

theorem result_bind_of_error {r : Run α} {e : Error} (f : α → Run β) (h : r.result = .error e) :
    (r >>= f).result = .error e := by
  rw [result_bind, h]
  rfl

theorem pure_bind (a : α) (f : α → Run β) : (ofExcept (.ok a)).bind f = f a := by
  simp [bind, ofExcept]

theorem bind_assoc (r : Run α) (f : α → Run β) (g : β → Run γ) :
    (r.bind f).bind g = r.bind fun a => (f a).bind g := by
  obtain ⟨result, ls, log⟩ := r
  cases result with
  | error e => rfl
  | ok a =>
    simp only [bind]
    cases (f a).result with
    | error e => rfl
    | ok b => simp

end Run

end DocQuery
