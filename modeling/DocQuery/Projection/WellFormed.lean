import DocQuery.Projection.Parser

/-!
# Projections that have a text

Every projection can be written, but some texts say something else than the projection they come
from: names are runs of a few characters, and a parameter is read as a string, a boolean or a float.

* `Selection.Every` — a condition on a selection and on all those below it.
* `Selection.Legible` — the condition on one selection.
* `Projection.WellFormed` — it holds throughout a projection.
* `Projection.KeysDistinct` — the invariant of parameters, throughout a projection.
* `Projection.ordered` — the parameters in the order in which they are written.
-/

set_option autoImplicit false

namespace DocQuery

/-- The values that parameters are read with. -/
def Value.IsParam : Value → Prop
  | .string _ | .bool _ | .number (.float _) => True
  | _ => False

instance (v : Value) : Decidable v.IsParam :=
  match v with
  | .string _ | .bool _ | .number (.float _) => isTrue trivial
  | .null | .number (.integer _) | .array _ | .object _ => isFalse id

namespace Selection

/-- Letters, digits, `_` and `-`, at least one. -/
def IsName (s : String) : Prop :=
  s.toList ≠ [] ∧ ∀ c ∈ s.toList, Projection.isNameChar c = true

instance (s : String) : Decidable (IsName s) :=
  decidable_of_iff (s.toList ≠ [] ∧ s.toList.all Projection.isNameChar = true)
    (and_congr_right' List.all_eq_true)

/-- What stands for fields: a name, or the name of all fields. -/
def IsFieldName (s : String) : Prop := s = wildcardName ∨ IsName s

instance (s : String) : Decidable (IsFieldName s) := inferInstanceAs (Decidable (_ ∨ _))

/-- What writing a selection keeps: the names of the field, of its alias and of its parameters, and
values that are no arrays, objects, nulls or integers. -/
structure Legible (s : Selection) : Prop where
  name : IsFieldName s.name
  shownAs : ∀ a ∈ s.shownAs, IsFieldName a
  params : ∀ e ∈ s.params, IsName e.1 ∧ e.2.IsParam

instance (s : Selection) : Decidable s.Legible :=
  decidable_of_iff (IsFieldName s.name ∧ (∀ a ∈ s.shownAs, IsFieldName a) ∧
    ∀ e ∈ s.params, IsName e.1 ∧ e.2.IsParam)
    ⟨fun h => ⟨h.1, h.2.1, h.2.2⟩, fun h => ⟨h.name, h.shownAs, h.params⟩⟩

/-- No parameter is given twice. -/
def KeysDistinct (s : Selection) : Prop := (Assoc.keys s.params).Nodup

instance (s : Selection) : Decidable s.KeysDistinct :=
  inferInstanceAs (Decidable (List.Nodup _))

mutual

/-- A condition on a selection and on all selections below it. -/
def Every (P : Selection → Prop) : Selection → Prop
  | ⟨name, shownAs, params, none⟩ => P ⟨name, shownAs, params, none⟩
  | ⟨name, shownAs, params, some children⟩ =>
    P ⟨name, shownAs, params, some children⟩ ∧ everyOf P children

def everyOf (P : Selection → Prop) : List Selection → Prop
  | [] => True
  | s :: ss => s.Every P ∧ everyOf P ss

end

theorem everyOf_iff {P : Selection → Prop} {ss : List Selection} :
    everyOf P ss ↔ ∀ s ∈ ss, s.Every P := by
  induction ss with
  | nil => simp [everyOf]
  | cons s ss ih => rw [everyOf, ih, List.forall_mem_cons]

mutual

theorem every_and {P Q : Selection → Prop} (s : Selection) :
    s.Every (fun s => P s ∧ Q s) ↔ s.Every P ∧ s.Every Q := by
  match s with
  | ⟨_, _, _, none⟩ => exact Iff.rfl
  | ⟨_, _, _, some children⟩ =>
    rw [Every, Every, Every, everyOf_and children, and_and_and_comm]

theorem everyOf_and {P Q : Selection → Prop} (ss : List Selection) :
    everyOf (fun s => P s ∧ Q s) ss ↔ everyOf P ss ∧ everyOf Q ss := by
  match ss with
  | [] => exact (and_self_iff).symm
  | s :: ss => rw [everyOf, everyOf, everyOf, every_and s, everyOf_and ss, and_and_and_comm]

end

mutual

instance decidableEvery (P : Selection → Prop) [DecidablePred P] : (s : Selection) →
    Decidable (s.Every P)
  | ⟨name, shownAs, params, none⟩ =>
    inferInstanceAs (Decidable (P ⟨name, shownAs, params, none⟩))
  | ⟨name, shownAs, params, some children⟩ =>
    have := decidableEveryOf P children
    inferInstanceAs (Decidable (P ⟨name, shownAs, params, some children⟩ ∧ everyOf P children))

instance decidableEveryOf (P : Selection → Prop) [DecidablePred P] : (ss : List Selection) →
    Decidable (everyOf P ss)
  | [] => isTrue trivial
  | s :: ss =>
    have := decidableEvery P s
    have := decidableEveryOf P ss
    inferInstanceAs (Decidable (s.Every P ∧ everyOf P ss))

end

mutual

/-- The parameters of a selection and of all selections below it in name order. -/
def ordered : Selection → Selection
  | ⟨name, shownAs, params, none⟩ => ⟨name, shownAs, Assoc.sorted params, none⟩
  | ⟨name, shownAs, params, some children⟩ =>
    ⟨name, shownAs, Assoc.sorted params, some (orderedAll children)⟩

def orderedAll : List Selection → List Selection
  | [] => []
  | s :: ss => s.ordered :: orderedAll ss

end

end Selection

namespace Projection

/-- Throughout a projection, every selection keeps its form when it is written. -/
def WellFormed (p : Projection) : Prop := Selection.everyOf Selection.Legible p

instance (p : Projection) : Decidable p.WellFormed :=
  inferInstanceAs (Decidable (Selection.everyOf _ p))

/-- Throughout a projection, no parameter of a selection is given twice. -/
def KeysDistinct (p : Projection) : Prop := Selection.everyOf Selection.KeysDistinct p

instance (p : Projection) : Decidable p.KeysDistinct :=
  inferInstanceAs (Decidable (Selection.everyOf _ p))

/-- The parameters in the order in which they are written. -/
def ordered (p : Projection) : Projection := Selection.orderedAll p

end Projection

end DocQuery
