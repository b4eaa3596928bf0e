import DocQuery.Proofs.Matching
import DocQuery.Proofs.ProjectionChecks
import Mathlib.Logic.Relation

/-!
# Validated projections

What every selection of a validated projection is: a `*`, or a selection of a visible field with
parameters that the field took, and with a projection of its own only where that was validated
against the fields of the documents that the field leads to.

* `Selection.validate_cases` — what the validation of a selection says and leaves.
* `Selection.Validated`, `Projection.Validated` — what validation made of some projection.
* `Projection.Validated.selection`, `Selection.Validated.cases` — what is in such a projection.
* `Selection.ValidatedFor.taken` — its parameters are what the fields made of them.
-/

set_option autoImplicit false

namespace DocQuery

namespace Coercion

/-- A list is coerced where each of its elements is. -/
theorem all_of_success {α : Type} {f : α → Coercion α} {as : List α}
    (h : (all f as).failure = none) :
    (∀ a ∈ as, (f a).failure = none) ∧ (all f as).value = as.map fun a => (f a).value := by
  induction as with
  | nil => exact ⟨nofun, rfl⟩
  | cons a as ih =>
    rw [all] at h ⊢
    cases ha : f a with
    | mk b failure =>
      cases failure with
      | some e =>
        rw [ha] at h
        cases h
      | none =>
        rw [ha] at h
        obtain ⟨hrest, hvalue⟩ := ih h
        refine ⟨List.forall_mem_cons.2 ⟨by rw [ha], hrest⟩, ?_⟩
        rw [List.map_cons, ha, ← hvalue]
        rfl

theorem eq_done {α : Type} {c : Coercion α} (h : c.failure = none) : c = done c.value :=
  congrArg (Coercion.mk c.value) h

end Coercion

/-! ## What validation says -/

variable [RegexEngine]

namespace Selection

variable {catalog : Catalog} {fields : Schema}

/-- **What the validation of a selection says**, and what it leaves: `*` as it is, else a selection
of a visible field with its parameters coerced, and what is below it validated. -/
theorem validate_cases {s : Selection} (h : (s.validate catalog fields).failure = none) :
    (s.isWildcard = true ∧ (s.validate catalog fields).value = s) ∨
      s.isWildcard = false ∧ ∃ f, Schema.lookup fields s.name = some f ∧ f.hidden = false ∧
        (coerceParams catalog f s.name s.params).failure = none ∧
          ((s.children = none ∧ (s.validate catalog fields).value =
              { s with params := (coerceParams catalog f s.name s.params).value }) ∨
            ∃ below sub, s.children = some below ∧ f.childFields catalog = some sub ∧
              (validateAll below catalog sub).failure = none ∧
                (s.validate catalog fields).value =
                  { s with
                    params := (coerceParams catalog f s.name s.params).value
                    children := some (validateAll below catalog sub).value }) := by
  obtain ⟨name, shownAs, params, children⟩ := s
  rw [validate] at h ⊢
  by_cases hstar : name = wildcardName
  · rw [if_pos hstar] at h ⊢
    split at h
    · cases h
    · rename_i hshown
      rw [if_neg hshown]
      exact .inl ⟨beq_iff_eq.2 hstar, rfl⟩
  · rw [if_neg hstar] at h ⊢
    refine .inr ⟨beq_eq_false_iff_ne.2 hstar, ?_⟩
    unfold visibleField at h ⊢
    cases hf : Schema.lookup fields name with
    | none =>
      rw [hf] at h
      cases h
    | some f =>
      simp only [hf] at h ⊢
      cases hhidden : f.hidden with
      | true =>
        simp only [hhidden] at h
        cases h
      | false =>
        simp only [hhidden, Bool.false_eq_true, if_false] at h ⊢
        cases children with
        | none => exact ⟨f, rfl, hhidden, h, .inl ⟨rfl, rfl⟩⟩
        | some below =>
          simp only at h ⊢
          cases hsub : f.childFields catalog with
          | none =>
            simp only [hsub] at h
            cases h
          | some sub =>
            simp only [hsub] at h ⊢
            cases hbelow : validateAll below catalog sub with
            | mk below' failure =>
              cases failure with
              | some e =>
                rw [hbelow] at h
                cases h
              | none =>
                rw [hbelow] at h
                refine ⟨f, rfl, hhidden, h, .inr ⟨below, sub, rfl, hsub, ?_, ?_⟩⟩
                · rw [hbelow]
                · rw [hbelow]
                  rfl

theorem name_validate {s : Selection} (h : (s.validate catalog fields).failure = none) :
    (s.validate catalog fields).value.name = s.name := by
  rcases validate_cases h with
    ⟨-, heq⟩ | ⟨-, f, -, -, -, ⟨-, heq⟩ | ⟨below, sub, -, -, -, heq⟩⟩ <;> rw [heq]

end Selection

/-- The schemas that projections on documents of a schema come to. -/
abbrev Catalog.Reaches (catalog : Catalog) : Schema → Schema → Prop :=
  Relation.ReflTransGen fun a b =>
    ∃ name f, Schema.lookup a name = some f ∧ f.childFields catalog = some b

/-- What validation made of some selection. -/
def Selection.Validated (catalog : Catalog) (fields : Schema) (s : Selection) : Prop :=
  ∃ raw : Selection, raw.validate catalog fields = .done s

/-- What validation made of some projection. -/
def Projection.Validated (catalog : Catalog) (fields : Schema) (p : Projection) : Prop :=
  ∃ raw : Projection, raw.validate catalog fields = .done p

/-- A selection of the field `f` that was validated. -/
structure Selection.ValidatedFor (catalog : Catalog) (f : Field) (s : Selection) : Prop where
  visible : f.hidden = false
  params : ∃ raw, coerceParams catalog f s.name raw = .done s.params
  below {children : Projection} : s.children = some children →
    ∃ sub, f.childFields catalog = some sub ∧ children.Validated catalog sub

variable {catalog : Catalog} {fields : Schema}

namespace Projection

theorem validated_of_validate {p : Projection} (h : (p.validate catalog fields).failure = none) :
    (p.validate catalog fields).value.Validated catalog fields :=
  ⟨p, Coercion.eq_done h⟩

theorem Validated.selection {p : Projection} (h : p.Validated catalog fields) {s : Selection}
    (hs : s ∈ p) : s.Validated catalog fields := by
  obtain ⟨raw, hraw⟩ := h
  rw [validate, Selection.validateAll_eq_all] at hraw
  obtain ⟨hall, hvalue⟩ := Coercion.all_of_success (congrArg Coercion.failure hraw)
  rw [hraw, show (Coercion.done p).value = p from rfl] at hvalue
  rw [hvalue] at hs
  obtain ⟨t, ht, rfl⟩ := List.mem_map.1 hs
  exact ⟨t, Coercion.eq_done (hall t ht)⟩

end Projection

/-- A validated selection is a `*`, or one of a declared field. -/
theorem Selection.Validated.cases {s : Selection} (h : s.Validated catalog fields) :
    s.isWildcard = true ∨
      s.isWildcard = false ∧ ∃ f, Schema.lookup fields s.name = some f ∧
        s.ValidatedFor catalog f := by
  obtain ⟨raw, hraw⟩ := h
  have hvalue : (raw.validate catalog fields).value = s := congrArg Coercion.value hraw
  rcases validate_cases (congrArg Coercion.failure hraw) with
    ⟨hstar, heq⟩ | ⟨hstar, f, hf, hvisible, hparams,
      ⟨hnone, heq⟩ | ⟨below, sub, -, hsub, hbelow, heq⟩⟩
  · rw [← hvalue, heq]
    exact .inl hstar
  all_goals
    rw [hvalue] at heq
    subst heq
    refine .inr ⟨hstar, f, hf, hvisible, ⟨raw.params, Coercion.eq_done hparams⟩, fun hc => ?_⟩
  · cases hnone.symm.trans hc
  · cases hc
    exact ⟨sub, hsub, Projection.validated_of_validate hbelow⟩

theorem Selection.Validated.of_declared {s : Selection} {f : Field}
    (h : s.Validated catalog fields) (hno : s.isWildcard = false)
    (hf : Schema.lookup fields s.name = some f) : s.ValidatedFor catalog f := by
  rcases h.cases with hstar | ⟨-, g, hg, hs⟩
  · cases hstar.symm.trans hno
  · cases hf.symm.trans hg
    exact hs

/-- Every parameter of a validated selection is what the field made of some value. -/
theorem Selection.ValidatedFor.taken {s : Selection} {f : Field} (h : s.ValidatedFor catalog f)
    {name : String} {w : Value} (hw : Assoc.get? s.params name = some w) :
    ∃ v, f.TakesParam catalog name v w := by
  obtain ⟨raw, hraw⟩ := h.params
  unfold coerceParams at hraw
  split at hraw
  · rename_i hempty
    rw [← show raw = s.params from congrArg Coercion.value hraw, List.isEmpty_iff.1 hempty] at hw
    cases hw
  · split at hraw
    · cases hraw
    · obtain ⟨hall, hvalue⟩ := Coercion.all_of_success (congrArg Coercion.failure hraw)
      rw [hraw, show (Coercion.done s.params).value = s.params from rfl] at hvalue
      rw [hvalue] at hw
      obtain ⟨param, hparam, hcoerced⟩ := List.mem_map.1 (Assoc.mem_of_get? hw)
      have hnone := hall param hparam
      rw [coerceParam_eq] at hnone hcoerced
      have hok := Coercion.replace_value hnone
      rw [hcoerced] at hok
      obtain ⟨v, hv, heq⟩ := map_eq_ok_iff.1 (mapError_eq_ok_iff.1 hok)
      cases heq
      exact ⟨param.2, paramVerdict_eq_ok_iff.1 hv⟩

end DocQuery
