import DocQuery.Predicate.WellFormed
import DocQuery.Value.Floats

/-!
# Predicates in floating point form

A predicate that came from a document compares with integers too, where one that is read from a text
has floats only.

* `Predicate.inFloats` — the predicate with a float for each number in a literal.
* `Expression.Recoverable` — what reading the text of an expression needs.
-/

set_option autoImplicit false

namespace DocQuery

variable [RegexEngine]

namespace Expression

mutual

/-- A float for each number in a literal. The bounds of comparisons are floats already. -/
def inFloats : Expression → Expression
  | and subs => and (inFloatsAll subs)
  | or subs => or (inFloatsAll subs)
  | equal field value => equal field value.inFloats
  | notEqual field value => notEqual field value.inFloats
  | among field values => among field (values.map Value.inFloats)
  | notAmong field values => notAmong field (values.map Value.inFloats)
  | exist field => exist field
  | notExist field => notExist field
  | compare c field bound => compare c field bound
  | regex field pattern => regex field pattern
  | anyElement field exprs => anyElement field (inFloatsAll exprs)

def inFloatsAll : List Expression → List Expression
  | [] => []
  | e :: es => e.inFloats :: inFloatsAll es

end

theorem inFloatsAll_eq (es : List Expression) : inFloatsAll es = es.map inFloats := by
  induction es with
  | nil => rfl
  | cons e es ih => rw [inFloatsAll, ih, List.map_cons]

/-- As many expressions as joining takes, a field that is no operator, a finite bound. -/
def Legible : Expression → Prop
  | and subs | or subs => 2 ≤ subs.length
  | compare _ field bound => field ∉ Operator.reserved ∧ bound.isFinite = true
  | equal field _ | notEqual field _ | among field _ | notAmong field _ | exist field
  | notExist field | regex field _ | anyElement field _ => field ∉ Operator.reserved

/-- An expression that can be told from its text, in which its numbers have become floats. -/
structure Recoverable (e : Expression) : Prop where
  legible : e.Legible
  unmistakable : e.Unmistakable
  literals : ∀ v ∈ e.literals, v.Storable

theorem Recoverable.of_no_literals {e : Expression} (hlegible : e.Legible)
    (hplain : e.Unmistakable) (hnone : e.literals = []) : e.Recoverable where
  legible := hlegible
  unmistakable := hplain
  literals v hv := by
    rw [hnone] at hv
    cases hv

theorem Recoverable.keysDistinct {e : Expression} (h : e.Recoverable) : e.KeysDistinct :=
  fun v hv => (h.literals v hv).keysDistinct

/-- A condition may be weakened throughout an expression. -/
theorem Every.mono {P Q : Expression → Prop} (himp : ∀ e, P e → Q e) {e : Expression}
    (h : e.Every P) : e.Every Q := by
  have hboth : (fun e => P e ∧ Q e) = P := by
    funext e
    exact propext (and_iff_left_of_imp (himp e))
  rw [← hboth] at h
  exact ((every_and e).1 h).2

theorem legible_of_writable {e : Expression} (h : e.Writable) : e.Legible := by
  cases e with
  | equal field value | notEqual field value | among field values | notAmong field values =>
    exact h.1
  | _ => exact h

theorem numbersFloat_of_writable {e : Expression} (h : e.Writable) :
    ∀ v ∈ e.literals, v.NumbersFloat := by
  cases e with
  | equal field value | notEqual field value => exact List.forall_mem_singleton.2 h.2
  | among field values | notAmong field values => exact h.2
  | _ => exact fun v hv => nomatch hv

theorem recoverable_of_writable {e : Expression} (h : e.Writable) (hplain : e.Unmistakable)
    (hkeys : e.KeysDistinct) : e.Recoverable where
  legible := legible_of_writable h
  unmistakable := hplain
  literals v hv :=
    ⟨v.wordSized_of_numbersFloat (numbersFloat_of_writable h v hv), hkeys v hv⟩

/-- What keeps its form when it is written can be told from its text. -/
theorem every_recoverable {e : Expression} (hwf : e.Every fun e => e.Writable ∧ e.Unmistakable)
    (hkeys : e.Every KeysDistinct) : e.Every Recoverable := by
  refine Every.mono ?_ ((every_and e).2 ⟨hwf, hkeys⟩)
  rintro e ⟨⟨hwritable, hplain⟩, hdistinct⟩
  exact recoverable_of_writable hwritable hplain hdistinct

omit [RegexEngine] in
theorem map_inFloats_of_numbersFloat {vs : List Value} (h : ∀ v ∈ vs, v.NumbersFloat) :
    vs.map Value.inFloats = vs := by
  rw [List.map_congr_left fun v hv => v.inFloats_of_numbersFloat (h v hv), List.map_id']

mutual

/-- What keeps its form when it is written has floats already. -/
theorem inFloats_of_writable (e : Expression) (h : e.Every Writable) : e.inFloats = e := by
  match e with
  | and subs => rw [inFloats, inFloatsAll_of_writable subs h.2]
  | or subs => rw [inFloats, inFloatsAll_of_writable subs h.2]
  | anyElement field exprs => rw [inFloats, inFloatsAll_of_writable exprs h.2]
  | equal field value => rw [inFloats, value.inFloats_of_numbersFloat h.2]
  | notEqual field value => rw [inFloats, value.inFloats_of_numbersFloat h.2]
  | among field values => rw [inFloats, map_inFloats_of_numbersFloat h.2]
  | notAmong field values => rw [inFloats, map_inFloats_of_numbersFloat h.2]
  | exist _ | notExist _ | compare _ _ _ | regex _ _ => rfl

theorem inFloatsAll_of_writable (es : List Expression) (h : everyOf Writable es) :
    inFloatsAll es = es := by
  match es with
  | [] => rfl
  | e :: es => rw [inFloatsAll, inFloats_of_writable e h.1, inFloatsAll_of_writable es h.2]

end

end Expression

/-- The predicate with a float for each number that it compares with. -/
def Predicate.inFloats (p : Predicate) : Predicate := p.map Expression.inFloats

end DocQuery
