import DocQuery.Predicate.Basic

/-!
# Predicates that have a text

Every predicate can be written, but some texts say something else than the predicate they come
from: two expressions are needed to join them, operators are no field names, a document that begins
with an operator reads as an operation, and numbers are read as finite floats.

* `Expression.Every` — a condition on an expression and on all those inside it.
* `Expression.Writable`, `Expression.Unmistakable` — the conditions on one expression.
* `Predicate.WellFormed` — they hold throughout a predicate.
* `Predicate.KeysDistinct` — the invariant of documents, throughout a predicate.
-/

set_option autoImplicit false

namespace DocQuery

namespace Operator

/-- The labels that no field has. -/
def reserved : List String := andName :: orName :: all.map name

theorem ofName?_eq_none_iff {s : String} : ofName? s = none ↔ s ∉ all.map name := by
  unfold ofName?
  simp only [List.find?_eq_none, List.mem_map, beq_iff_eq, not_exists, not_and]

theorem name_of_ofName? {s : String} {o : Operator} (h : ofName? s = some o) : o.name = s := by
  have hname := @List.find?_some _ (fun o : Operator => o.name == s) o all h
  exact beq_iff_eq.1 hname

theorem not_mem_reserved_iff {s : String} :
    s ∉ reserved ↔ s ≠ andName ∧ s ≠ orName ∧ ofName? s = none := by
  rw [reserved, List.mem_cons, List.mem_cons, not_or, not_or, ofName?_eq_none_iff]

end Operator

/-- Whether a value, read as a command, is taken for an operation: an object whose first key is an
operator. -/
def Value.opensOperation : Value → Bool
  | .object ((key, _) :: _) => (Operator.ofName? key).isSome
  | _ => false

variable [RegexEngine]

namespace Expression

/-- The values in an expression, those in the expressions inside it apart. -/
def literals : Expression → List Value
  | equal _ value | notEqual _ value => [value]
  | among _ values | notAmong _ values => values
  | _ => []

/-- The blocks that an expression is written with: one around each joined expression, and the one
that an element is tested by. -/
def blocks : Expression → List (List Expression)
  | and subs | or subs => subs.map fun e => [e]
  | anyElement _ exprs => [exprs]
  | _ => []

mutual

/-- A condition on an expression and on all expressions inside it. -/
def Every (P : Expression → Prop) : Expression → Prop
  | and subs => P (and subs) ∧ everyOf P subs
  | or subs => P (or subs) ∧ everyOf P subs
  | anyElement field exprs => P (anyElement field exprs) ∧ everyOf P exprs
  | equal field value => P (equal field value)
  | notEqual field value => P (notEqual field value)
  | among field values => P (among field values)
  | notAmong field values => P (notAmong field values)
  | exist field => P (exist field)
  | notExist field => P (notExist field)
  | compare c field bound => P (compare c field bound)
  | regex field pattern => P (regex field pattern)

def everyOf (P : Expression → Prop) : List Expression → Prop
  | [] => True
  | e :: es => e.Every P ∧ everyOf P es

end

theorem everyOf_iff {P : Expression → Prop} {es : List Expression} :
    everyOf P es ↔ ∀ e ∈ es, e.Every P := by
  induction es with
  | nil => simp [everyOf]
  | cons e es ih => rw [everyOf, ih, List.forall_mem_cons]

mutual

theorem every_and {P Q : Expression → Prop} (e : Expression) :
    e.Every (fun e => P e ∧ Q e) ↔ e.Every P ∧ e.Every Q := by
  cases e with
  | and subs => rw [Every, Every, Every, everyOf_and subs, and_and_and_comm]
  | or subs => rw [Every, Every, Every, everyOf_and subs, and_and_and_comm]
  | anyElement field exprs => rw [Every, Every, Every, everyOf_and exprs, and_and_and_comm]
  | _ => exact Iff.rfl

theorem everyOf_and {P Q : Expression → Prop} (es : List Expression) :
    everyOf (fun e => P e ∧ Q e) es ↔ everyOf P es ∧ everyOf Q es := by
  match es with
  | [] => exact (and_self_iff).symm
  | e :: es => rw [everyOf, everyOf, everyOf, every_and e, everyOf_and es, and_and_and_comm]

end

theorem Every.self {P : Expression → Prop} {e : Expression} (h : e.Every P) : P e := by
  cases e with
  | and subs | or subs | anyElement field exprs => exact h.1
  | _ => exact h

theorem Every.of_mem_blocks {P : Expression → Prop} {e : Expression} (h : e.Every P)
    {es : List Expression} (hes : es ∈ e.blocks) {x : Expression} (hx : x ∈ es) : x.Every P := by
  have hjoined : ∀ {subs : List Expression}, everyOf P subs → es ∈ subs.map (fun e => [e]) →
      x.Every P := by
    intro subs hsubs hes
    obtain ⟨e, he, rfl⟩ := List.mem_map.1 hes
    rw [List.mem_singleton.1 hx]
    exact everyOf_iff.1 hsubs e he
  cases e with
  | and subs => exact hjoined h.2 hes
  | or subs => exact hjoined h.2 hes
  | anyElement field exprs =>
    rw [List.mem_singleton.1 hes] at hx
    exact everyOf_iff.1 h.2 x hx
  | _ => cases hes

/-- What writing an expression keeps: as many expressions as joining takes, a field that is no
operator, numbers that are floats, a finite bound. -/
def Writable : Expression → Prop
  | and subs | or subs => 2 ≤ subs.length
  | equal field value | notEqual field value => field ∉ Operator.reserved ∧ value.NumbersFloat
  | among field values | notAmong field values =>
    field ∉ Operator.reserved ∧ ∀ v ∈ values, v.NumbersFloat
  | compare _ field bound => field ∉ Operator.reserved ∧ bound.isFinite = true
  | exist field | notExist field | regex field _ | anyElement field _ =>
    field ∉ Operator.reserved

/-- No equality is taken for an operation. -/
def Unmistakable : Expression → Prop
  | equal _ value => value.opensOperation = false
  | _ => True

/-- No document in the values of an expression has a key twice. -/
def KeysDistinct (e : Expression) : Prop := ∀ v ∈ e.literals, v.KeysDistinct

theorem keysDistinct_of_literals_eq_nil {e : Expression} (h : e.literals = []) :
    e.KeysDistinct := by
  intro v hv
  rw [h] at hv
  cases hv

end Expression

namespace Predicate

/-- Throughout a predicate, every expression keeps its form when it is written, and no equality is
taken for an operation. -/
def WellFormed (p : Predicate) : Prop :=
  Expression.everyOf (fun e => e.Writable ∧ e.Unmistakable) p

/-- No document in a predicate has a key twice. -/
def KeysDistinct (p : Predicate) : Prop :=
  Expression.everyOf Expression.KeysDistinct p

end Predicate

end DocQuery
