import DocQuery.Value.Basic
import Mathlib.Data.List.Perm.Subperm

/-!
# Equality of meaning

Values of one meaning are alike. Objects are compared key by key, so that this is an equivalence on
the values in which no object has a key twice.

* `Value.alike_refl`, `Value.alike_symm`, `Value.alike_trans`.
* `Value.alike_congr` — alike values are alike to the same values.
* `Value.KeysDistinct.of_mem`, `Value.KeysDistinct.of_get?` — what is inside a value.
-/

set_option autoImplicit false

namespace DocQuery

namespace Number

theorem bound_ne_nan (n : Number) : n.bound ≠ .nan := by
  cases n with
  | float d => exact nofun
  | integer i =>
    simp only [bound, Bound.ofInt, Bound.ofQuotient]
    split <;> exact nofun

theorem alike_refl (n : Number) : n.alike n = true := Bound.alike_refl n.bound_ne_nan

theorem alike_symm {m n : Number} (h : m.alike n = true) : n.alike m = true := by
  rw [alike, Bound.alike_symm]
  exact h

theorem alike_trans {l m n : Number} (hlm : l.alike m = true) (hmn : m.alike n = true) :
    l.alike n = true :=
  Bound.alike_trans hlm hmn

end Number

/-- Lists with as many keys have the same keys if those of the one are keys of the other. -/
theorem Assoc.exists_mem_of_length_eq {α : Type} {as bs : Assoc α} (has : as.keys.Nodup)
    (hlength : as.length = bs.length) (hfound : ∀ x ∈ as, ∃ b, bs.get? x.1 = some b)
    {e : String × α} (he : e ∈ bs) : ∃ x ∈ as, x.1 = e.1 := by
  have hsub : as.keys ⊆ bs.keys := by
    intro k hk
    obtain ⟨x, hx, rfl⟩ := List.mem_map.1 hk
    obtain ⟨b, hb⟩ := hfound x hx
    exact List.mem_map.2 ⟨_, Assoc.mem_of_get? hb, rfl⟩
  have hperm : as.keys.Perm bs.keys := by
    refine (List.subperm_of_subset has hsub).perm_of_length_le ?_
    simp [Assoc.keys, hlength]
  exact List.mem_map.1 (hperm.symm.subset (List.mem_map_of_mem he))

namespace Value

/-! ## Entries and items -/

theorem alikeEntries_iff {as bs : Document} :
    alikeEntries as bs = true ↔ ∀ e ∈ as, ∃ b, Assoc.get? bs e.1 = some b ∧ e.2.alike b = true := by
  induction as with
  | nil => simp [alikeEntries]
  | cons e as ih =>
    obtain ⟨k, a⟩ := e
    rw [alikeEntries, Bool.and_eq_true, ih, List.forall_mem_cons]
    cases Assoc.get? bs k <;> simp

theorem keysDistinctItems_iff {vs : List Value} :
    keysDistinctItems vs ↔ ∀ v ∈ vs, v.KeysDistinct := by
  induction vs with
  | nil => simp [keysDistinctItems]
  | cons v vs ih => rw [keysDistinctItems, ih, List.forall_mem_cons]

theorem keysDistinctEntries_iff {es : Document} :
    keysDistinctEntries es ↔ ∀ e ∈ es, e.2.KeysDistinct := by
  induction es with
  | nil => simp [keysDistinctEntries]
  | cons e es ih =>
    obtain ⟨k, v⟩ := e
    rw [keysDistinctEntries, ih, List.forall_mem_cons]

theorem KeysDistinct.of_mem {items : List Value} (h : (array items).KeysDistinct) {v : Value}
    (hv : v ∈ items) : v.KeysDistinct := by
  rw [KeysDistinct] at h
  exact keysDistinctItems_iff.1 h v hv

theorem KeysDistinct.of_get? {doc : Document} (h : (object doc).KeysDistinct) {key : String}
    {v : Value} (hv : Assoc.get? doc key = some v) : v.KeysDistinct := by
  rw [KeysDistinct] at h
  exact keysDistinctEntries_iff.1 h.2 _ (Assoc.mem_of_get? hv)

/-! ## Reflexivity -/

mutual

theorem alike_refl (v : Value) (h : v.KeysDistinct) : v.alike v = true := by
  cases v with
  | null => rfl
  | bool b => simp [alike]
  | number n => exact n.alike_refl
  | string s => simp [alike]
  | array items =>
    rw [KeysDistinct] at h
    exact alikeItems_refl items h
  | object entries =>
    rw [KeysDistinct] at h
    have hget : ∀ e ∈ entries, Assoc.get? entries e.1 = some e.2 := by
      intro e he
      exact Assoc.get?_of_mem h.1 he
    rw [alike, beq_self_eq_true, Bool.true_and]
    exact alikeEntries_of_subset entries h.2 hget

theorem alikeItems_refl (vs : List Value) (h : keysDistinctItems vs) : alikeItems vs vs = true := by
  match vs with
  | [] => rfl
  | v :: vs =>
    rw [keysDistinctItems] at h
    rw [alikeItems, alike_refl v h.1, alikeItems_refl vs h.2, Bool.and_self]

theorem alikeEntries_of_subset {bs : Document} (as : List (String × Value))
    (h : keysDistinctEntries as) (hsub : ∀ e ∈ as, Assoc.get? bs e.1 = some e.2) :
    alikeEntries as bs = true := by
  match as with
  | [] => rfl
  | (k, a) :: as =>
    rw [keysDistinctEntries] at h
    have hk : Assoc.get? bs k = some a := hsub (k, a) List.mem_cons_self
    have hrest : ∀ e ∈ as, Assoc.get? bs e.1 = some e.2 := by
      intro e he
      exact hsub e (List.mem_cons_of_mem _ he)
    rw [alikeEntries, hk, alikeEntries_of_subset as h.2 hrest, Bool.and_true]
    exact alike_refl a h.1

end

/-! ## Symmetry -/

mutual

theorem alike_symm (a b : Value) (ha : a.KeysDistinct) (hb : b.KeysDistinct)
    (h : a.alike b = true) : b.alike a = true := by
  cases a with
  | null => cases b <;> first | rfl | cases h
  | bool x =>
    cases b with
    | bool y =>
      rw [alike, beq_iff_eq] at h ⊢
      exact h.symm
    | _ => cases h
  | number m =>
    cases b with
    | number n => exact Number.alike_symm h
    | _ => cases h
  | string s =>
    cases b with
    | string t =>
      rw [alike, beq_iff_eq] at h ⊢
      exact h.symm
    | _ => cases h
  | array as =>
    cases b with
    | array bs =>
      rw [KeysDistinct] at ha hb
      exact alikeItems_symm as bs ha hb h
    | _ => cases h
  | object as =>
    cases b with
    | object bs =>
      rw [KeysDistinct] at ha hb
      rw [alike, Bool.and_eq_true, beq_iff_eq] at h ⊢
      obtain ⟨hlength, hentries⟩ := h
      have hfound := alikeEntries_iff.1 hentries
      have hkeys : ∀ x ∈ as, ∃ b, Assoc.get? bs x.1 = some b := by
        intro x hx
        obtain ⟨b, hb, -⟩ := hfound x hx
        exact ⟨b, hb⟩
      refine ⟨hlength.symm, alikeEntries_iff.2 ?_⟩
      intro e he
      -- With as many entries on both sides, no key of the second object is missing in the first.
      obtain ⟨x, hx, hkey⟩ := Assoc.exists_mem_of_length_eq ha.1 hlength hkeys he
      obtain ⟨b, hget, hxb⟩ := hfound x hx
      rw [hkey, Assoc.get?_of_mem hb.1 he] at hget
      cases hget
      refine ⟨x.2, hkey ▸ Assoc.get?_of_mem ha.1 hx, ?_⟩
      exact entries_symm as ha.2 x hx e.2 (keysDistinctEntries_iff.1 hb.2 e he) hxb
    | _ => cases h

theorem alikeItems_symm (as bs : List Value) (ha : keysDistinctItems as)
    (hb : keysDistinctItems bs) (h : alikeItems as bs = true) : alikeItems bs as = true := by
  match as, bs with
  | [], [] => rfl
  | [], _ :: _ => cases h
  | _ :: _, [] => cases h
  | a :: as, b :: bs =>
    rw [keysDistinctItems] at ha hb
    rw [alikeItems, Bool.and_eq_true] at h ⊢
    exact ⟨alike_symm a b ha.1 hb.1 h.1, alikeItems_symm as bs ha.2 hb.2 h.2⟩

theorem entries_symm (as : List (String × Value)) (ha : keysDistinctEntries as) :
    ∀ e ∈ as, ∀ b : Value, b.KeysDistinct → e.2.alike b = true → b.alike e.2 = true := by
  match as with
  | [] =>
    intro e he
    cases he
  | (k, a) :: as =>
    rw [keysDistinctEntries] at ha
    intro e he b hb h
    rcases List.mem_cons.1 he with rfl | he
    · exact alike_symm a b ha.1 hb h
    · exact entries_symm as ha.2 e he b hb h

end

/-! ## Transitivity -/

mutual

theorem alike_trans (a b c : Value) (hab : a.alike b = true) (hbc : b.alike c = true) :
    a.alike c = true := by
  cases a with
  | null =>
    cases b with
    | null => exact hbc
    | _ => cases hab
  | bool x =>
    cases b with
    | bool y =>
      cases c with
      | bool z =>
        rw [alike, beq_iff_eq] at hab hbc ⊢
        exact hab.trans hbc
      | _ => cases hbc
    | _ => cases hab
  | number l =>
    cases b with
    | number m =>
      cases c with
      | number n => exact Number.alike_trans hab hbc
      | _ => cases hbc
    | _ => cases hab
  | string x =>
    cases b with
    | string y =>
      cases c with
      | string z =>
        rw [alike, beq_iff_eq] at hab hbc ⊢
        exact hab.trans hbc
      | _ => cases hbc
    | _ => cases hab
  | array as =>
    cases b with
    | array bs =>
      cases c with
      | array cs => exact alikeItems_trans as bs cs hab hbc
      | _ => cases hbc
    | _ => cases hab
  | object as =>
    cases b with
    | object bs =>
      cases c with
      | object cs =>
        rw [alike, Bool.and_eq_true, beq_iff_eq] at hab hbc ⊢
        exact ⟨hab.1.trans hbc.1, alikeEntries_trans as bs cs hab.2 hbc.2⟩
      | _ => cases hbc
    | _ => cases hab

theorem alikeItems_trans (as bs cs : List Value) (hab : alikeItems as bs = true)
    (hbc : alikeItems bs cs = true) : alikeItems as cs = true := by
  match as, bs, cs with
  | [], [], cs => exact hbc
  | [], _ :: _, _ => cases hab
  | _ :: _, [], _ => cases hab
  | _ :: _, _ :: _, [] => cases hbc
  | a :: as, b :: bs, c :: cs =>
    rw [alikeItems, Bool.and_eq_true] at hab hbc ⊢
    exact ⟨alike_trans a b c hab.1 hbc.1, alikeItems_trans as bs cs hab.2 hbc.2⟩

theorem alikeEntries_trans (as : List (String × Value)) (bs cs : Document)
    (hab : alikeEntries as bs = true) (hbc : alikeEntries bs cs = true) :
    alikeEntries as cs = true := by
  match as with
  | [] => rfl
  | (k, a) :: as =>
    obtain ⟨b, hb, hab'⟩ := alikeEntries_iff.1 hab (k, a) List.mem_cons_self
    obtain ⟨c, hc, hbc'⟩ := alikeEntries_iff.1 hbc (k, b) (Assoc.mem_of_get? hb)
    have hrest : alikeEntries as bs = true := by
      apply alikeEntries_iff.2
      intro e he
      exact alikeEntries_iff.1 hab e (List.mem_cons_of_mem _ he)
    simp only at hc
    rw [alikeEntries, hc, alikeEntries_trans as bs cs hrest hbc, Bool.and_true]
    exact alike_trans a b c hab' hbc'

end

/-- Alike values are alike to the same values. -/
theorem alike_congr {a b : Value} (ha : a.KeysDistinct) (hb : b.KeysDistinct)
    (h : a.alike b = true) {v : Value} : v.alike a = v.alike b := by
  rw [Bool.eq_iff_iff]
  constructor
  · intro hva
    exact alike_trans v a b hva h
  · intro hvb
    exact alike_trans v b a hvb (alike_symm a b ha hb h)

end Value

end DocQuery
