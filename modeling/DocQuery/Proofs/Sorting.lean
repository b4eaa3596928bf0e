import DocQuery.Proofs.Matching
import DocQuery.Schema.Stock
import DocQuery.Sorting
import Mathlib.Data.String.Basic
import Mathlib.Order.Compare

/-!
# Sorting is stable and lexicographic

Documents that every field of an order can order are totally preordered by the comparison of the
order, and sorting them by insertion is the one stable way to sort them.

* `SortOrder.transCmp_compareBy`, `SortOrder.transCmp_compare` — comparisons are total preorders.
* `SortOrder.compare_eq_lt_iff`, `SortOrder.compare_eq_eq_iff` — what they say.
* `SortOrder.pairwise_insert`, `SortOrder.filter_insert` — what an insertion keeps.
* `SortOrder.StablySorts.unique` — there is one stable way to sort.
* `SortOrder.apply_stable_lexicographic` — sorting is that way, and sorting twice is sorting once.
-/

set_option autoImplicit false

namespace DocQuery

/-! ## Values -/

theorem Bound.less_irrefl (a : Bound) : a.less a = false := by
  cases a with
  | finite d => simp [less]
  | infinite negative => cases negative <;> rfl
  | nan => rfl

theorem Bound.less_trans {a b c : Bound} (hab : a.less b = true) (hbc : b.less c = true) :
    a.less c = true := by
  cases a <;> cases b <;> cases c <;> simp_all [less]
  omega

/-- Numbers that are not told apart are equal. -/
theorem Bound.alike_iff_not_less {a b : Bound} (ha : a ≠ .nan) (hb : b ≠ .nan) :
    a.alike b = true ↔ a.less b = false ∧ b.less a = false := by
  cases a with
  | nan => exact absurd rfl ha
  | finite d =>
    cases b with
    | nan => exact absurd rfl hb
    | finite e =>
      simp only [alike, less, beq_iff_eq, decide_eq_false_iff_not]
      omega
    | infinite negative => cases negative <;> simp [alike, less]
  | infinite negative =>
    cases b with
    | nan => exact absurd rfl hb
    | finite e => cases negative <;> simp [alike, less]
    | infinite negative' => cases negative <;> cases negative' <;> simp [alike, less]

namespace StrictWeakOn

variable {less : Value → Value → Bool}

/-- A relation that comes from a linear order is a strict weak order. -/
theorem of_linearOrder {α : Type} [LinearOrder α] {put : α → Value}
    (h : ∀ a b, less (put a) (put b) = decide (a < b)) (as : List α) :
    StrictWeakOn less (as.map put) := by
  constructor
  all_goals simp only [List.forall_mem_map, h, decide_eq_true_eq, decide_eq_false_iff_not, not_lt]
  · exact fun a _ => le_refl a
  · exact fun a _ b _ c _ => lt_trans
  · exact fun a _ b _ c _ hba hab hcb hbc => ⟨hcb.trans hba, hab.trans hbc⟩

/-- So is the order of numbers, whatever their form. -/
theorem of_bounds (h : ∀ m n : Number, less (.number m) (.number n) = m.bound.less n.bound)
    (ns : List Number) : StrictWeakOn less (ns.map .number) := by
  constructor
  all_goals simp only [List.forall_mem_map, h]
  · exact fun n _ => n.bound.less_irrefl
  · exact fun l _ m _ n _ => Bound.less_trans
  · intro l _ m _ n _ hlm hml hmn hnm
    have halike := Bound.alike_trans
      ((Bound.alike_iff_not_less l.bound_ne_nan m.bound_ne_nan).2 ⟨hlm, hml⟩)
      ((Bound.alike_iff_not_less m.bound_ne_nan n.bound_ne_nan).2 ⟨hmn, hnm⟩)
    exact (Bound.alike_iff_not_less l.bound_ne_nan n.bound_ne_nan).1 halike

variable {vs : List Value} {a b c : Value}

theorem asymm (h : StrictWeakOn less vs) (ha : a ∈ vs) (hb : b ∈ vs) (hab : less a b = true) :
    less b a = false := by
  rw [Bool.eq_false_iff]
  intro hba
  cases (h.trans a ha b hb a ha hab hba).symm.trans (h.irrefl a ha)

/-- Where `a` is less than `c`, every other value is above `a` or below `c`. -/
theorem less_or_less (h : StrictWeakOn less vs) (ha : a ∈ vs) (hb : b ∈ vs) (hc : c ∈ vs)
    (hac : less a c = true) : less a b = true ∨ less b c = true := by
  by_contra hno
  simp only [not_or, Bool.not_eq_true] at hno
  obtain ⟨hab, hbc⟩ := hno
  have hba : less b a = false := by
    rw [Bool.eq_false_iff]
    intro hba
    cases (h.trans b hb a ha c hc hba hac).symm.trans hbc
  have hcb : less c b = false := by
    rw [Bool.eq_false_iff]
    intro hcb
    cases (h.trans a ha c hc b hb hac hcb).symm.trans hab
  cases (h.ties_trans a ha b hb c hc hab hba hbc hcb).1.symm.trans hac

end StrictWeakOn

theorem OneKind.strictWeakOn {vs : List Value} (h : OneKind vs) :
    StrictWeakOn SortOrder.plainLess vs := by
  cases h with
  | numbers ns => exact .of_bounds (fun _ _ => rfl) ns
  | strings ss => exact .of_linearOrder (fun _ _ => rfl) ss
  | bools bs => exact .of_linearOrder (by decide) bs

/-! ## Comparisons -/

namespace SortOrder

open Std

section Values

variable {less : Value → Value → Bool} {vs : List Value} {x y z : Option Value}

theorem compareValues_eq_lt_iff : compareValues less x y = .lt ↔ Value.Lower less x y := by
  cases x with
  | none => cases y <;> simp only [compareValues, Value.Lower, reduceCtorEq]
  | some a =>
    cases y with
    | none => simp only [compareValues, Value.Lower, reduceCtorEq]
    | some b =>
      simp only [compareValues, Value.Lower]
      cases less a b <;> cases less b a <;> decide

/-- Turning the values round turns the outcome round. -/
theorem compareValues_swap (h : StrictWeakOn less vs) (hx : ∀ a ∈ x, a ∈ vs)
    (hy : ∀ b ∈ y, b ∈ vs) : compareValues less x y = (compareValues less y x).swap := by
  cases x with
  | none => cases y <;> rfl
  | some a =>
    cases y with
    | none => rfl
    | some b =>
      have hab := h.asymm (hx a rfl) (hy b rfl)
      simp only [compareValues]
      cases h₁ : less a b <;> cases h₂ : less b a <;> simp_all

theorem isLE_compareValues_iff (h : StrictWeakOn less vs) (hx : ∀ a ∈ x, a ∈ vs)
    (hy : ∀ b ∈ y, b ∈ vs) : (compareValues less x y).isLE = true ↔ ¬Value.Lower less y x := by
  rw [Ordering.isLE_iff_ne_gt, ← compareValues_eq_lt_iff, compareValues_swap h hx hy,
    Ordering.swap_eq_gt]

theorem lower_or_lower (h : StrictWeakOn less vs) (hx : ∀ a ∈ x, a ∈ vs) (hy : ∀ b ∈ y, b ∈ vs)
    (hz : ∀ c ∈ z, c ∈ vs) (hxz : Value.Lower less x z) :
    Value.Lower less x y ∨ Value.Lower less y z := by
  cases z with
  | none => cases x <;> exact hxz.elim
  | some c =>
    cases y with
    | none => exact .inr trivial
    | some b =>
      cases x with
      | none => exact .inl trivial
      | some a => exact h.less_or_less (hx a rfl) (hy b rfl) (hz c rfl) hxz

theorem compareValues_isLE_trans (h : StrictWeakOn less vs) (hx : ∀ a ∈ x, a ∈ vs)
    (hy : ∀ b ∈ y, b ∈ vs) (hz : ∀ c ∈ z, c ∈ vs) (hxy : (compareValues less x y).isLE = true)
    (hyz : (compareValues less y z).isLE = true) : (compareValues less x z).isLE = true := by
  rw [isLE_compareValues_iff h hx hy] at hxy
  rw [isLE_compareValues_iff h hy hz] at hyz
  rw [isLE_compareValues_iff h hx hz]
  exact fun hzx => (lower_or_lower h hz hy hx hzx).elim hyz hxy

end Values

section Documents

variable {fields : Schema} {k : SortKey} {order : SortOrder} {docs : List Document}
  {a b c : Document}

theorem strictWeakOn_of_orders (h : k.Orders fields docs) :
    StrictWeakOn (lessOf fields k.name) (k.values docs) := by
  unfold SortKey.Orders at h
  unfold lessOf
  split at h
  · rename_i less hless
    rwa [hless]
  · rename_i hless
    rw [hless]
    exact h.strictWeakOn

theorem mem_values (ha : a ∈ docs) : ∀ v ∈ Document.lookup a k.name, v ∈ k.values docs :=
  fun _ hv => List.mem_filterMap.2 ⟨a, ha, hv⟩

/-- A reversed field turns the documents round. -/
theorem compareBy_eq (hk : k.Orders fields docs) (ha : a ∈ docs) (hb : b ∈ docs) :
    compareBy fields k a b =
      compareValues (lessOf fields k.name) (Document.lookup (if k.reversed then b else a) k.name)
        (Document.lookup (if k.reversed then a else b) k.name) := by
  unfold compareBy
  cases k.reversed with
  | false => rfl
  | true =>
    exact (compareValues_swap (strictWeakOn_of_orders hk) (mem_values hb) (mem_values ha)).symm

theorem compareBy_eq_lt_iff (hk : k.Orders fields docs) (ha : a ∈ docs) (hb : b ∈ docs) :
    compareBy fields k a b = .lt ↔ k.Precedes fields a b := by
  rw [compareBy_eq hk ha hb, compareValues_eq_lt_iff]
  rfl

/-- The comparison by one field is a total preorder. -/
theorem transCmp_compareBy (hk : k.Orders fields docs) :
    TransCmp fun a b : {doc // doc ∈ docs} => compareBy fields k a b where
  eq_swap {a b} := by
    rw [compareBy_eq hk a.2 b.2, compareBy_eq hk b.2 a.2]
    apply compareValues_swap (strictWeakOn_of_orders hk) <;> split <;>
      exact mem_values (Subtype.property _)
  isLE_trans {a b c} hab hbc := by
    have hless := strictWeakOn_of_orders hk
    rw [compareBy_eq hk a.2 b.2] at hab
    rw [compareBy_eq hk b.2 c.2] at hbc
    rw [compareBy_eq hk a.2 c.2]
    cases hreversed : k.reversed with
    | false =>
      simp only [hreversed, Bool.false_eq_true, if_false] at hab hbc ⊢
      exact compareValues_isLE_trans hless (mem_values a.2) (mem_values b.2) (mem_values c.2)
        hab hbc
    | true =>
      simp only [hreversed, if_true] at hab hbc ⊢
      exact compareValues_isLE_trans hless (mem_values c.2) (mem_values b.2) (mem_values a.2)
        hbc hab

/-- **The comparison by an order is a total preorder.** -/
theorem transCmp_compare (h : order.Orders fields docs) :
    TransCmp fun a b : {doc // doc ∈ docs} => compare order fields a b := by
  induction order with
  | nil => exact { eq_swap := rfl, isLE_trans := fun _ _ => rfl }
  | cons k ks ih =>
    have hfirst := transCmp_compareBy (h k (List.mem_cons_self ..))
    have hrest := ih fun j hj => h j (List.mem_cons_of_mem k hj)
    exact inferInstanceAs (TransCmp (compareLex
      (fun a b : {doc // doc ∈ docs} => compareBy fields k a b) fun a b => compare ks fields a b))

theorem compareBy_eq_eq_iff (hk : k.Orders fields docs) (ha : a ∈ docs) (hb : b ∈ docs) :
    compareBy fields k a b = .eq ↔ k.Ties fields a b := by
  have hswap : compareBy fields k a b = (compareBy fields k b a).swap :=
    (transCmp_compareBy hk).eq_swap (a := ⟨a, ha⟩) (b := ⟨b, hb⟩)
  unfold SortKey.Ties
  rw [← compareBy_eq_lt_iff hk ha hb, ← compareBy_eq_lt_iff hk hb ha, hswap]
  cases compareBy fields k b a <;> simp

theorem compare_eq_eq_iff (h : order.Orders fields docs) (ha : a ∈ docs) (hb : b ∈ docs) :
    compare order fields a b = .eq ↔ order.Ties fields a b := by
  induction order with
  | nil => exact ⟨fun _ => nofun, fun _ => rfl⟩
  | cons k ks ih =>
    rw [compare, Ordering.then_eq_eq, compareBy_eq_eq_iff (h k (List.mem_cons_self ..)) ha hb,
      ih fun j hj => h j (List.mem_cons_of_mem k hj)]
    simp only [Ties, List.forall_mem_cons]

/-- The first field that tells documents apart decides. -/
theorem compare_eq_lt_iff (h : order.Orders fields docs) (ha : a ∈ docs) (hb : b ∈ docs) :
    compare order fields a b = .lt ↔ order.Precedes fields a b := by
  induction order with
  | nil => exact ⟨nofun, fun ⟨before, k, after, hnil, _⟩ => by simp at hnil⟩
  | cons k ks ih =>
    have hk := h k (List.mem_cons_self ..)
    rw [compare, Ordering.then_eq_lt, compareBy_eq_lt_iff hk ha hb, compareBy_eq_eq_iff hk ha hb,
      ih fun j hj => h j (List.mem_cons_of_mem k hj)]
    constructor
    · rintro (hfirst | ⟨hties, before, j, after, rfl, hbefore, hj⟩)
      · exact ⟨[], k, ks, rfl, nofun, hfirst⟩
      · exact ⟨k :: before, j, after, rfl, List.forall_mem_cons.2 ⟨hties, hbefore⟩, hj⟩
    · rintro ⟨before, j, after, heq, hbefore, hj⟩
      cases before with
      | nil =>
        cases heq
        exact .inl hj
      | cons i before =>
        cases heq
        obtain ⟨hties, hbefore⟩ := List.forall_mem_cons.1 hbefore
        exact .inr ⟨hties, before, j, after, rfl, hbefore, hj⟩

theorem not_precedes_iff (h : order.Orders fields docs) (ha : a ∈ docs) (hb : b ∈ docs) :
    ¬order.Precedes fields a b ↔ (compare order fields a b).isGE = true := by
  rw [← compare_eq_lt_iff h ha hb, Ordering.isGE_iff_ne_lt]

theorem not_precedes_trans (h : order.Orders fields docs) (ha : a ∈ docs) (hb : b ∈ docs)
    (hc : c ∈ docs) (hab : ¬order.Precedes fields a b) (hbc : ¬order.Precedes fields b c) :
    ¬order.Precedes fields a c := by
  rw [not_precedes_iff h ha hb] at hab
  rw [not_precedes_iff h hb hc] at hbc
  rw [not_precedes_iff h ha hc]
  have := transCmp_compare h
  exact this.isGE_trans (a := ⟨a, ha⟩) (b := ⟨b, hb⟩) (c := ⟨c, hc⟩) hab hbc

theorem ties_iff (h : order.Orders fields docs) (ha : a ∈ docs) (hb : b ∈ docs) :
    order.Ties fields a b ↔ ¬order.Precedes fields a b ∧ ¬order.Precedes fields b a := by
  have hswap : compare order fields a b = (compare order fields b a).swap :=
    (transCmp_compare h).eq_swap (a := ⟨a, ha⟩) (b := ⟨b, hb⟩)
  rw [← compare_eq_eq_iff h ha hb, ← compare_eq_lt_iff h ha hb, ← compare_eq_lt_iff h hb ha, hswap]
  cases compare order fields b a <;> simp

theorem not_precedes_of_precedes (h : order.Orders fields docs) (ha : a ∈ docs) (hb : b ∈ docs)
    (hab : order.Precedes fields a b) : ¬order.Precedes fields b a := by
  have hswap : compare order fields b a = (compare order fields a b).swap :=
    (transCmp_compare h).eq_swap (a := ⟨b, hb⟩) (b := ⟨a, ha⟩)
  rw [← compare_eq_lt_iff h hb ha, hswap, (compare_eq_lt_iff h ha hb).2 hab]
  exact nofun

end Documents

/-! ## Insertion -/

section Insertion

variable {before : Document → Document → Bool} {R : Document → Document → Prop}
  {p : Document → Bool} {a : Document} {bs docs sorted all : List Document}

theorem forall_mem_insert {P : Document → Prop} (ha : P a) (hbs : ∀ b ∈ bs, P b) :
    ∀ b ∈ insert before a bs, P b := by
  intro b hb
  rcases List.mem_cons.1 ((insert_perm before a bs).mem_iff.1 hb) with rfl | hb
  · exact ha
  · exact hbs b hb

/-- A document is put where its order with the others is kept. -/
theorem pairwise_insert (hbefore : ∀ b ∈ bs, before a b = true → R b a)
    (hafter : ∀ b ∈ bs, before a b = false → R a b)
    (htrans : ∀ b ∈ bs, ∀ c ∈ bs, R a b → R b c → R a c) (hbs : bs.Pairwise R) :
    (insert before a bs).Pairwise R := by
  induction bs with
  | nil => exact List.pairwise_singleton R a
  | cons b bs ih =>
    obtain ⟨hb, hrest⟩ := List.pairwise_cons.1 hbs
    rw [insert]
    split
    · rename_i hab
      refine List.pairwise_cons.2
        ⟨forall_mem_insert (hbefore b (List.mem_cons_self ..) hab) hb, ih ?_ ?_ ?_ hrest⟩
      · exact fun c hc => hbefore c (List.mem_cons_of_mem b hc)
      · exact fun c hc => hafter c (List.mem_cons_of_mem b hc)
      · exact fun c hc d hd =>
          htrans c (List.mem_cons_of_mem b hc) d (List.mem_cons_of_mem b hd)
    · rename_i hab
      have hRab := hafter b (List.mem_cons_self ..) (Bool.eq_false_iff.2 hab)
      refine List.pairwise_cons.2 ⟨fun c hc => ?_, hbs⟩
      rcases List.mem_cons.1 hc with rfl | hc'
      · exact hRab
      · exact htrans b (List.mem_cons_self ..) c hc hRab (hb c hc')

theorem pairwise_foldl_insert (hdocs : ∀ a ∈ docs, a ∈ all) (hsorted : ∀ a ∈ sorted, a ∈ all)
    (hbefore : ∀ a ∈ all, ∀ b ∈ all, before a b = true → R b a)
    (hafter : ∀ a ∈ all, ∀ b ∈ all, before a b = false → R a b)
    (htrans : ∀ a ∈ all, ∀ b ∈ all, ∀ c ∈ all, R a b → R b c → R a c) (h : sorted.Pairwise R) :
    (docs.foldl (fun s a => insert before a s) sorted).Pairwise R := by
  induction docs generalizing sorted with
  | nil => exact h
  | cons a docs ih =>
    obtain ⟨ha, hdocs⟩ := List.forall_mem_cons.1 hdocs
    refine ih hdocs (forall_mem_insert ha hsorted) (pairwise_insert ?_ ?_ ?_ h)
    · exact fun b hb => hbefore a ha b (hsorted b hb)
    · exact fun b hb => hafter a ha b (hsorted b hb)
    · exact fun b hb c hc => htrans a ha b (hsorted b hb) c (hsorted c hc)

/-- Documents that are not told apart do not pass each other. -/
theorem filter_insert (h : ∀ b ∈ bs, p a = true → p b = true → before a b = false) :
    (insert before a bs).filter p = (a :: bs).filter p := by
  induction bs with
  | nil => rfl
  | cons b bs ih =>
    rw [insert]
    split
    · rename_i hab
      have hno : ¬(p a = true ∧ p b = true) := fun hp =>
        absurd hab (by rw [h b (List.mem_cons_self ..) hp.1 hp.2]; exact Bool.false_ne_true)
      have hrest := ih fun c hc => h c (List.mem_cons_of_mem b hc)
      simp only [List.filter_cons, hrest]
      cases hpa : p a <;> cases hpb : p b <;> simp_all
    · rfl

theorem filter_foldl_insert (hdocs : ∀ a ∈ docs, a ∈ all) (hsorted : ∀ a ∈ sorted, a ∈ all)
    (h : ∀ a ∈ all, ∀ b ∈ all, p a = true → p b = true → before a b = false) :
    (docs.foldl (fun s a => insert before a s) sorted).filter p =
      (docs.reverse ++ sorted).filter p := by
  induction docs generalizing sorted with
  | nil => rfl
  | cons a docs ih =>
    obtain ⟨ha, hdocs⟩ := List.forall_mem_cons.1 hdocs
    rw [List.foldl_cons, ih hdocs (forall_mem_insert ha hsorted), List.filter_append,
      filter_insert fun b hb => h a ha b (hsorted b hb), ← List.filter_append, List.reverse_cons,
      List.append_assoc, List.singleton_append]

end Insertion

/-! ## Sorting -/

section Sorting

variable {fields : Schema} {order : SortOrder} {docs l : List Document}

/-- **Sorting is stable.** -/
theorem stablySorts_apply (h : order.Orders fields docs) (hl : ∀ a ∈ l, a ∈ docs) :
    order.StablySorts fields l (order.apply fields l) := by
  have hnil : ∀ a ∈ ([] : List Document), a ∈ docs := nofun
  refine ⟨apply_perm order fields l, ?_, fun x hx => ?_⟩
  · rw [apply, List.pairwise_reverse]
    refine pairwise_foldl_insert hl hnil (fun a ha b hb hab => ?_) (fun a ha b hb hab => ?_)
      (fun a ha b hb c hc => not_precedes_trans h ha hb hc) .nil
    · exact not_precedes_of_precedes h ha hb ((compare_eq_lt_iff h ha hb).1 (beq_iff_eq.1 hab))
    · rw [← compare_eq_lt_iff h ha hb]
      exact beq_eq_false_iff_ne.1 hab
  · rw [apply, List.filter_reverse, filter_foldl_insert hl hnil, List.append_nil,
      List.filter_reverse, List.reverse_reverse]
    -- Of two documents that tie with `x`, neither precedes the other.
    intro a ha b hb hxa hxb
    rw [decide_eq_true_eq, ties_iff h (hl x hx) ‹_›] at hxa hxb
    rw [beq_eq_false_iff_ne, Ne, compare_eq_lt_iff h ha hb]
    exact not_precedes_trans h ha (hl x hx) hb hxa.2 hxb.1

theorem not_precedes_head {a b : Document} (h : order.Orders fields docs) (hb : b ∈ docs)
    (ha : a ∈ b :: l) (hl : (b :: l).Pairwise fun a b => ¬order.Precedes fields b a) :
    ¬order.Precedes fields a b := by
  rcases List.mem_cons.1 ha with rfl | ha
  · exact fun hself => not_precedes_of_precedes h hb hb hself hself
  · exact List.rel_of_pairwise_cons hl ha

/-- **There is one stable way to sort.** The documents in front of two of them tie, so they are the
first of their ties. -/
theorem eq_of_stable {l₁ l₂ : List Document} (h : order.Orders fields docs)
    (hmem : ∀ a ∈ l₁, a ∈ docs) (hperm : l₁.Perm l₂)
    (h₁ : l₁.Pairwise fun a b => ¬order.Precedes fields b a)
    (h₂ : l₂.Pairwise fun a b => ¬order.Precedes fields b a)
    (hstable : ∀ a ∈ l₁, l₁.filter (order.Ties fields a) = l₂.filter (order.Ties fields a)) :
    l₁ = l₂ := by
  induction l₁ generalizing l₂ with
  | nil => exact hperm.nil_eq
  | cons a l₁ ih =>
    cases l₂ with
    | nil => exact hperm.eq_nil
    | cons b l₂ =>
      have ha : a ∈ docs := hmem a (List.mem_cons_self ..)
      have hb₁ : b ∈ a :: l₁ := hperm.mem_iff.2 (List.mem_cons_self ..)
      have ha₂ : a ∈ b :: l₂ := hperm.mem_iff.1 (List.mem_cons_self ..)
      have hb : b ∈ docs := hmem b hb₁
      have hself : order.Ties fields a a := by
        have hno := not_precedes_head h ha (List.mem_cons_self ..) h₁
        exact (ties_iff h ha ha).2 ⟨hno, hno⟩
      have hties : order.Ties fields a b :=
        (ties_iff h ha hb).2 ⟨not_precedes_head h hb ha₂ h₂, not_precedes_head h ha hb₁ h₁⟩
      obtain rfl : a = b := by
        have hfront := hstable a (List.mem_cons_self ..)
        simp only [List.filter_cons, hself, hties, decide_true, if_true] at hfront
        exact (List.cons.inj hfront).1
      congr 1
      refine ih (fun c hc => hmem c (List.mem_cons_of_mem a hc)) hperm.cons_inv
        (List.pairwise_cons.1 h₁).2 (List.pairwise_cons.1 h₂).2 fun c hc => ?_
      have hrest := hstable c (List.mem_cons_of_mem a hc)
      simp only [List.filter_cons] at hrest
      split at hrest
      · exact (List.cons.inj hrest).2
      · exact hrest

theorem stablySorts_iff {sorted : List Document} (h : order.Orders fields docs) :
    order.StablySorts fields docs sorted ↔ sorted = order.apply fields docs := by
  have happly := stablySorts_apply h fun _ ha => ha
  constructor
  · rintro ⟨hperm, hordered, hstable⟩
    refine eq_of_stable h (fun a ha => hperm.mem_iff.1 ha) (hperm.trans happly.perm.symm) hordered
      happly.ordered fun a ha => ?_
    have ha := hperm.mem_iff.1 ha
    rw [hstable a ha, happly.stable a ha]
  · rintro rfl
    exact happly

/-- What is sorted stays as it is. -/
theorem apply_apply (h : order.Orders fields docs) :
    order.apply fields (order.apply fields docs) = order.apply fields docs := by
  have hmem : ∀ a ∈ order.apply fields docs, a ∈ docs := fun a ha =>
    (apply_perm order fields docs).mem_iff.1 ha
  have hagain := stablySorts_apply h hmem
  refine eq_of_stable h (fun a ha => hmem a (hagain.perm.mem_iff.1 ha)) hagain.perm hagain.ordered
    (stablySorts_apply h fun _ ha => ha).ordered fun a ha => ?_
  exact hagain.stable a (hagain.perm.mem_iff.1 ha)

/-- **Sorting is a stable lexicographic sort.** Where every field of the order orders the documents,
their comparison is a total preorder: the first field that tells two documents apart decides. The
documents come out in this order, those that no field tells apart as they came in, which no other
list of them does; and sorting them again changes nothing. -/
theorem apply_stable_lexicographic (h : order.Orders fields docs) :
    TransCmp (fun a b : {doc // doc ∈ docs} => order.compare fields a b) ∧
      (∀ a ∈ docs, ∀ b ∈ docs, (order.compare fields a b = .lt ↔ order.Precedes fields a b) ∧
        (order.compare fields a b = .eq ↔ order.Ties fields a b)) ∧
      (∀ sorted, order.StablySorts fields docs sorted ↔ sorted = order.apply fields docs) ∧
      order.apply fields (order.apply fields docs) = order.apply fields docs :=
  ⟨transCmp_compare h, fun _ ha _ hb => ⟨compare_eq_lt_iff h ha hb, compare_eq_eq_iff h ha hb⟩,
    fun _ => stablySorts_iff h, apply_apply h⟩

end Sorting

end SortOrder

namespace Bookshelf

def rankFields : Schema :=
  [("rank", .mk { sortable := true, validator := Validator.integer } .scalar),
    ("title", .mk { sortable := true } .scalar)]

/-- The best first, those of one rank by title. -/
def byRank : SortOrder := [⟨"rank", true⟩, ⟨"title", false⟩]

/-- Books of which the second has no rank and the fourth has no title. -/
def ranked : List Document :=
  [[("id", .string "a"), ("rank", .integer 2), ("title", .string "Sequel")],
    [("id", .string "b"), ("title", .string "Draft")],
    [("id", .string "c"), ("rank", .float ⟨false, 1024 * Double.binade, by decide⟩),
      ("title", .string "A tale")],
    [("id", .string "d"), ("rank", .integer 5)],
    [("id", .string "e"), ("rank", .integer 2), ("title", .string "A tale")]]

theorem orders_byRank : byRank.Orders rankFields ranked := by
  refine List.forall_mem_cons.2 ⟨?_, List.forall_mem_singleton.2 ?_⟩
  · exact .of_bounds (fun _ _ => rfl)
      [.integer 2, .float ⟨false, 1024 * Double.binade, by decide⟩, .integer 5, .integer 2]
  · exact .strings ["Sequel", "Draft", "A tale", "A tale"]

/-- The two books of one rank and title stay as they came, and the one without a rank is last. -/
theorem apply_byRank :
    (byRank.apply rankFields ranked).map (fun doc => (valueAt doc "id").string?) =
        [some "d", some "c", some "e", some "a", some "b"] ∧
      byRank.StablySorts rankFields ranked (byRank.apply rankFields ranked) ∧
      byRank.apply rankFields (byRank.apply rankFields ranked) =
        byRank.apply rankFields ranked := by
  obtain ⟨-, -, hstable, hagain⟩ := SortOrder.apply_stable_lexicographic orders_byRank
  exact ⟨by decide +kernel, (hstable _).2 rfl, hagain⟩

end Bookshelf

end DocQuery
