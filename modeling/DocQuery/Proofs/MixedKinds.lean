import DocQuery.Proofs.Sorting

/-!
# Sorting values of several kinds

A field without a type of its own is ordered by `plainLess`, which orders numbers, strings and
Booleans among themselves and ties all else. Whatever the values are, turning them round turns the
outcome of the comparison round. Ties do not add up, though, where a value of one kind stands
between ordered values of another.

* `SortOrder.compareValues_plainLess_swap` — the comparison of values turned round.
* `SortOrder.intrudes_iff` — where the comparison is not transitive.
* `SortOrder.consistent_unless_intruded` — on which values it is a total preorder.
-/

set_option autoImplicit false

namespace DocQuery

/-! ## Kinds -/

namespace Value.SameKind

open SortOrder

variable {a b c : Value}

theorem symm (h : a.SameKind b) : b.SameKind a := by
  cases h <;> constructor

theorem trans (hab : a.SameKind b) (hbc : b.SameKind c) : a.SameKind c := by
  cases hab <;> cases hbc <;> constructor

theorem of_plainLess (h : plainLess a b = true) : a.SameKind b := by
  cases a <;> cases b <;> first | constructor | cases h

theorem oneKind (hab : a.SameKind b) (hac : a.SameKind c) : OneKind [a, b, c] := by
  cases hab with
  | numbers l m =>
    cases hac with
    | numbers _ n => exact .numbers [l, m, n]
  | strings s t =>
    cases hac with
    | strings _ u => exact .strings [s, t, u]
  | bools p q =>
    cases hac with
    | bools _ r => exact .bools [p, q, r]

end Value.SameKind

/-! ## The comparison -/

namespace SortOrder

open Std Value

variable {a b c : Value} {x y z : Option Value}

/-- Values of two kinds tie. -/
theorem compareValues_of_not_sameKind (h : ¬a.SameKind b) :
    compareValues plainLess (some a) (some b) = .eq := by
  have hab : ¬plainLess a b = true := fun hless => h (.of_plainLess hless)
  have hba : ¬plainLess b a = true := fun hless => h (SameKind.of_plainLess hless).symm
  simp [compareValues, hab, hba]

/-- **Turning the values round turns the outcome round**, of whatever kinds they are. -/
theorem compareValues_plainLess_swap (x y : Option Value) :
    compareValues plainLess y x = (compareValues plainLess x y).swap := by
  cases x with
  | none => cases y <;> rfl
  | some a =>
    cases y with
    | none => rfl
    | some b =>
      by_cases hkind : a.SameKind b
      · have hless := (hkind.oneKind hkind).strictWeakOn
        exact compareValues_swap hless (by simp) (by simp)
      · rw [compareValues_of_not_sameKind hkind,
          compareValues_of_not_sameKind fun hba => hkind hba.symm]
        rfl

theorem compareValues_eq_gt_iff :
    compareValues plainLess x z = .gt ↔ Lower plainLess z x := by
  rw [← compareValues_eq_lt_iff, compareValues_plainLess_swap, Ordering.swap_eq_gt]

/-- **The comparison is not transitive just where a value intrudes.** -/
theorem intrudes_iff : Intrudes x y z ↔
    compareValues plainLess x y ≠ .gt ∧ compareValues plainLess y z ≠ .gt ∧
      compareValues plainLess x z = .gt := by
  constructor
  · rintro ⟨hless, hother⟩
    have hca := SameKind.of_plainLess hless
    rw [compareValues_of_not_sameKind hother,
      compareValues_of_not_sameKind fun hbc => hother (hbc.trans hca).symm]
    exact ⟨nofun, nofun, compareValues_eq_gt_iff.2 hless⟩
  · rintro ⟨hxy, hyz, hxz⟩
    have hlower := compareValues_eq_gt_iff.1 hxz
    rw [Ne, compareValues_eq_gt_iff] at hxy hyz
    -- A missing value comes before all others, so none of the three is missing.
    cases x with
    | none => cases z <;> exact hlower.elim
    | some a =>
      cases y with
      | none => exact absurd trivial hxy
      | some b =>
        cases z with
        | none => exact absurd trivial hyz
        | some c =>
          refine .between hlower fun hab => ?_
          have hac := (SameKind.of_plainLess hlower).symm
          have hless := (hab.oneKind hac).strictWeakOn
          exact (lower_or_lower hless (by simp) (by simp) (by simp) hlower).elim hyz hxy

/-- The comparison is a total preorder on values just if none of them intrudes. -/
theorem transCmp_compareValues_iff (vs : List Value) :
    TransCmp (fun x y : {x : Option Value // ∀ v ∈ x, v ∈ vs} => compareValues plainLess x y) ↔
      ∀ a ∈ vs, ∀ b ∈ vs, ∀ c ∈ vs, ¬Intrudes (some a) (some b) (some c) := by
  constructor
  · intro htrans a ha b hb c hc hintrudes
    obtain ⟨hab, hbc, hac⟩ := intrudes_iff.1 hintrudes
    have hle := htrans.isLE_trans (a := ⟨some a, by simpa using ha⟩)
      (b := ⟨some b, by simpa using hb⟩) (c := ⟨some c, by simpa using hc⟩)
      (Ordering.isLE_iff_ne_gt.2 hab) (Ordering.isLE_iff_ne_gt.2 hbc)
    exact Ordering.isLE_iff_ne_gt.1 hle hac
  · intro h
    refine { eq_swap := compareValues_plainLess_swap _ _, isLE_trans := ?_ }
    rintro ⟨x, hx⟩ ⟨y, hy⟩ ⟨z, hz⟩ hxy hyz
    rw [Ordering.isLE_iff_ne_gt] at hxy hyz ⊢
    intro hxz
    obtain ⟨hless, hother⟩ := intrudes_iff.2 ⟨hxy, hyz, hxz⟩
    exact h _ (hx _ rfl) _ (hy _ rfl) _ (hz _ rfl) (.between hless hother)

/-- **The comparison of values without a type is consistent unless a value of another kind
intrudes.** Turning two values round turns the outcome round. Of three values the first is not above
the second nor the second above the third, and yet the first is above the third, just where the
second intrudes. So the comparison is a total preorder on those values among which none does. -/
theorem consistent_unless_intruded (vs : List Value) :
    (∀ x y, compareValues plainLess y x = (compareValues plainLess x y).swap) ∧
      (∀ x y z, compareValues plainLess x y ≠ .gt ∧ compareValues plainLess y z ≠ .gt ∧
        compareValues plainLess x z = .gt ↔ Intrudes x y z) ∧
      (TransCmp (fun x y : {x : Option Value // ∀ v ∈ x, v ∈ vs} => compareValues plainLess x y) ↔
        ∀ a ∈ vs, ∀ b ∈ vs, ∀ c ∈ vs, ¬Intrudes (some a) (some b) (some c)) :=
  ⟨compareValues_plainLess_swap, fun _ _ _ => intrudes_iff.symm, transCmp_compareValues_iff vs⟩

end SortOrder

namespace Bookshelf

open Std SortOrder

/-- Ranks without a type. -/
def untypedRanks : Schema := [("rank", .mk { sortable := true } .scalar)]

/-- Three books, the second of which has a word for its rank. -/
def oddlyRanked : List Document :=
  [[("id", .string "a"), ("rank", .integer 2)], [("id", .string "b"), ("rank", .string "none")],
    [("id", .string "c"), ("rank", .integer 1)]]

/-- A word intrudes between two ranks, but nothing does where there is one rank. -/
theorem transCmp_ranks :
    ¬TransCmp (fun x y : {x : Option Value //
        ∀ v ∈ x, v ∈ [.integer 2, .string "none", .integer 1]} => compareValues plainLess x y) ∧
      TransCmp (fun x y : {x : Option Value //
        ∀ v ∈ x, v ∈ [.integer 2, .string "none", .null]} => compareValues plainLess x y) := by
  have hconsistent (vs : List Value) := (SortOrder.consistent_unless_intruded vs).2.2
  rw [hconsistent, hconsistent]
  constructor
  · intro hnone
    exact hnone (.integer 2) (by simp) (.string "none") (by simp) (.integer 1) (by simp)
      (.between (by decide +kernel) nofun)
  · rintro a ha b - c hc ⟨hless, -⟩
    have hties : ∀ v ∈ [Value.integer 2, .string "none", .null],
        ∀ w ∈ [Value.integer 2, .string "none", .null], plainLess v w = false := by
      decide +kernel
    cases (hties c hc a ha).symm.trans hless

/-- The comparison is no total preorder on all values: 2 ties with a word and the word with 1, which
is less than 2. Sorted by their ranks, the books stay as they are, with 2 in front of 1. -/
theorem oddlyRanked_stay :
    ¬((∀ x y, compareValues plainLess y x = (compareValues plainLess x y).swap) ∧
        ∀ x y z, compareValues plainLess x y ≠ .gt → compareValues plainLess y z ≠ .gt →
          compareValues plainLess x z ≠ .gt) ∧
      SortOrder.apply [⟨"rank", false⟩] untypedRanks oddlyRanked = oddlyRanked := by
  constructor
  · rintro ⟨-, htrans⟩
    exact htrans (some (.integer 2)) (some (.string "none")) (some (.integer 1))
      (by decide +kernel) (by decide +kernel) (by decide +kernel)
  · rfl

end Bookshelf

end DocQuery
