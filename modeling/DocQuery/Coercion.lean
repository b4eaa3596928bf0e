import DocQuery.Error

/-!
# Coercion in place

Validation converts the literals of a query one after the other and stops at the first failure.
What was converted before stays converted, so the outcome is a query in every case, and the failure
where there is one.

* `Coercion`, `Coercion.andThen` — an outcome, and going on where nothing failed.
* `Coercion.all` — a list from left to right.
-/

set_option autoImplicit false

namespace DocQuery

/-- What became of a value, and the failure that stopped its coercion. -/
structure Coercion (α : Type) where
  value : α
  failure : Option Error

namespace Coercion

variable {α β : Type}

/-- Nothing to coerce, nothing failed. -/
def done (a : α) : Coercion α := ⟨a, none⟩

/-- Stopped before `a` was touched. -/
def stop (a : α) (e : Error) : Coercion α := ⟨a, some e⟩

/-- A replacement, or the old value where none is found. -/
def replace (old : α) : Except Error α → Coercion α
  | .ok new => done new
  | .error e => stop old e

/-- A check that replaces nothing. -/
def check (a : α) : Except Error Unit → Coercion α
  | .ok _ => done a
  | .error e => stop a e

def map (f : α → β) (c : Coercion α) : Coercion β := ⟨f c.value, c.failure⟩

/-- Sees the failure under the field `parent`. -/
def within (parent : String) (c : Coercion α) : Coercion α :=
  ⟨c.value, c.failure.map (Error.within parent)⟩

/-- Goes on with what became of the value unless something failed. -/
def andThen (c : Coercion α) (f : α → Coercion α) : Coercion α :=
  match c.failure with
  | none => f c.value
  | some e => ⟨c.value, some e⟩

/-- The outcome as a value or a failure. -/
def toExcept (c : Coercion α) : Except Error α :=
  match c.failure with
  | none => .ok c.value
  | some e => .error e

/-- Coerces a list from left to right, up to the first failure. -/
def all (f : α → Coercion α) : List α → Coercion (List α)
  | [] => done []
  | a :: as =>
    match f a with
    | ⟨b, some e⟩ => ⟨b :: as, some e⟩
    | ⟨b, none⟩ => (all f as).map (b :: ·)

end Coercion

end DocQuery
