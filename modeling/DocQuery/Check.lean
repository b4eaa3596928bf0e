import DocQuery.Coercion

/-!
# Checks in order

What a validation asks of a query part, as a list: each check stands at a field, and finds a
problem or none. A check of a literal also says what the literal becomes. A validation that goes
through the list stops at the first problem.

* `Check` — one check, with the fields that enclose it.
* `Check.failure` — the problem of a check, told with the path of its field.
* `Check.firstFailure`, `Check.settled` — what a list of checks comes to: the first failure, and
  what the literals in front of it become.
* `Coercion.Overwrites` — a value whose first literals are replaced.
-/

set_option autoImplicit false

namespace DocQuery

/-- One check of a query part whose literals are of the type `α`. -/
structure Check (α : Type) where
  /-- The fields that enclose the checked one, the outermost first. -/
  inside : List String
  field : String
  /-- The problem; or, where there is none, what the check makes of the literal that it replaces. -/
  verdict : Except String (Option α)

namespace Check

variable {α : Type}

/-- A check that replaces nothing. -/
def demand (field : String) (met : Bool) (problem : String) : Check α :=
  ⟨[], field, if met then .ok none else .error problem⟩

/-- A check of a literal that becomes another one. -/
def literal (field : String) (verdict : Except String α) : Check α :=
  ⟨[], field, verdict.map some⟩

/-- The same check inside of the field `parent`. -/
def within (parent : String) (c : Check α) : Check α := { c with inside := parent :: c.inside }

def passes (c : Check α) : Bool := c.verdict.isOk

/-- What the literal becomes, where the check replaces one. -/
def coerced (c : Check α) : Option α :=
  match c.verdict with
  | .ok new => new
  | .error _ => none

/-- The names from the outermost field to the checked one, with dots between them. -/
def path (c : Check α) : String := ".".intercalate (c.inside ++ [c.field])

/-- The failure of the check, where it finds a problem. -/
def failure (c : Check α) : Option Error :=
  match c.verdict with
  | .ok _ => none
  | .error problem => some (.invalid (c.path ++ ": " ++ problem))

/-- The failure of the first check that finds a problem. -/
def firstFailure (checks : List (Check α)) : Option Error := checks.findSome? failure

/-- What becomes of the literals in front of the first check that finds a problem. -/
def settled (checks : List (Check α)) : List α := (checks.takeWhile passes).filterMap coerced

end Check

/-- That `new` is `old` with `first` in place of its first literals, and nothing else replaced: a
value is its literals, from left to right, and what is left without them. -/
structure Coercion.Overwrites {α β γ : Type} (literalsOf : β → List α) (blankOf : β → γ) (old : β)
    (first : List α) (new : β) : Prop where
  blank : blankOf new = blankOf old
  literals : literalsOf new = first ++ (literalsOf old).drop first.length

end DocQuery
