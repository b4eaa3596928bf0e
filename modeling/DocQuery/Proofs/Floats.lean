import DocQuery.Predicate.Alike
import DocQuery.Predicate.Floats
import DocQuery.Proofs.ValueReading

/-!
# Floats for numbers keep the meaning

A number and the float nearest to it mean the same, and so do values, tests and predicates that
differ in nothing else.

* `Value.agrees_inFloats` — a value and its floating point form.
* `Expression.alike_inFloats` — tests that compare with them.
* `Predicate.accepts_inFloats` — predicates accept the same documents.
-/

set_option autoImplicit false

namespace DocQuery

theorem Number.alike_inFloats (n : Number) : n.alike n.inFloats = true := by
  unfold Number.alike
  rw [n.bound_inFloats]
  exact Bound.alike_refl n.bound_ne_nan

namespace Value

mutual

/-- **A value means the same in floating point form.** -/
theorem agrees_inFloats (v : Value) (h : v.KeysDistinct) : v.Agrees v.inFloats := by
  match v with
  | .null | .bool _ | .string _ => exact .refl h
  | .number n => exact ⟨trivial, trivial, n.alike_inFloats⟩
  | .array items =>
    rw [inFloats_array]
    exact agrees_array (agrees_inFloats_items items h)
  | .object entries =>
    rw [inFloats_object]
    exact agrees_object h.1 (agrees_inFloats_entries entries h.2)

theorem agrees_inFloats_items (vs : List Value) (h : keysDistinctItems vs) :
    List.Forall₂ Agrees vs (vs.map inFloats) := by
  match vs with
  | [] => exact .nil
  | v :: vs => exact .cons (agrees_inFloats v h.1) (agrees_inFloats_items vs h.2)

theorem agrees_inFloats_entries (es : List (String × Value)) (h : keysDistinctEntries es) :
    List.Forall₂ EntryAgrees es (es.map entryInFloats) := by
  match es with
  | [] => exact .nil
  | (_, v) :: es => exact .cons ⟨rfl, agrees_inFloats v h.1⟩ (agrees_inFloats_entries es h.2)

end

end Value

variable [RegexEngine]

namespace Expression

theorem literals_inFloats (e : Expression) :
    e.inFloats.literals = e.literals.map Value.inFloats := by
  cases e <;> rfl

theorem keysDistinct_inFloats {e : Expression} (h : e.KeysDistinct) :
    e.inFloats.KeysDistinct := by
  intro w hw
  rw [literals_inFloats] at hw
  obtain ⟨v, hv, rfl⟩ := List.mem_map.1 hw
  exact (v.agrees_inFloats (h v hv)).right

omit [RegexEngine] in
theorem alikeItems_inFloats {vs : List Value} (h : ∀ v ∈ vs, v.KeysDistinct) :
    Value.alikeItems vs (vs.map Value.inFloats) = true :=
  (Value.alikeItems_of_agrees
    (Value.agrees_inFloats_items vs (Value.keysDistinctItems_iff.2 h))).1

mutual

/-- **A test means the same with floats for its numbers.** -/
theorem alike_inFloats (e : Expression) (h : e.Every KeysDistinct) :
    e.Alike e.inFloats ∧ e.inFloats.Every KeysDistinct := by
  match e with
  | and subs =>
    obtain ⟨halike, hkeys⟩ := alikeAll_inFloats subs h.2
    exact ⟨halike, keysDistinct_inFloats h.1, hkeys⟩
  | or subs =>
    obtain ⟨halike, hkeys⟩ := alikeAll_inFloats subs h.2
    exact ⟨halike, keysDistinct_inFloats h.1, hkeys⟩
  | anyElement field exprs =>
    obtain ⟨halike, hkeys⟩ := alikeAll_inFloats exprs h.2
    exact ⟨⟨rfl, halike⟩, keysDistinct_inFloats h.1, hkeys⟩
  | equal field value =>
    have hvalue := value.agrees_inFloats (h value List.mem_cons_self)
    exact ⟨⟨rfl, hvalue.alike⟩, keysDistinct_inFloats h⟩
  | notEqual field value =>
    have hvalue := value.agrees_inFloats (h value List.mem_cons_self)
    exact ⟨⟨rfl, hvalue.alike⟩, keysDistinct_inFloats h⟩
  | among field values => exact ⟨⟨rfl, alikeItems_inFloats h⟩, keysDistinct_inFloats h⟩
  | notAmong field values => exact ⟨⟨rfl, alikeItems_inFloats h⟩, keysDistinct_inFloats h⟩
  | exist _ | notExist _ => exact ⟨rfl, h⟩
  | compare _ _ _ => exact ⟨⟨rfl, rfl, .inl rfl⟩, h⟩
  | regex _ _ => exact ⟨⟨rfl, rfl⟩, h⟩

theorem alikeAll_inFloats (es : List Expression) (h : everyOf KeysDistinct es) :
    AlikeAll es (inFloatsAll es) ∧ everyOf KeysDistinct (inFloatsAll es) := by
  match es with
  | [] => exact ⟨trivial, trivial⟩
  | e :: es =>
    obtain ⟨hhead, hheadKeys⟩ := alike_inFloats e h.1
    obtain ⟨htail, htailKeys⟩ := alikeAll_inFloats es h.2
    exact ⟨⟨hhead, htail⟩, hheadKeys, htailKeys⟩

end

end Expression

/-- **A predicate accepts the same documents with floats for its numbers.** -/
theorem Predicate.accepts_inFloats {p : Predicate} (h : p.KeysDistinct) {doc : Document}
    (hdoc : (Value.object doc).KeysDistinct) : p.inFloats.accepts doc = p.accepts doc := by
  obtain ⟨halike, hkeys⟩ := Expression.alikeAll_inFloats p h
  unfold Predicate.inFloats Predicate.accepts
  rw [← Expression.inFloatsAll_eq]
  exact (Expression.acceptsAll_congr p _ halike h hkeys (.refl hdoc)).symm

end DocQuery
