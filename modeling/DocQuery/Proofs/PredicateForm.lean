import DocQuery.Proofs.PredicateText

/-!
# The form of predicates

Predicates of one form have the same expressions in the same order, on values whose keys may come
in another order. Form decides whether a predicate can be written.

* `Value.same_refl`, `Expression.same_refl` — a value has its own form, and so has an expression
  that can be written.
* `Value.numbersFloat_of_same` — values of one form have floats in the same places.
* `Expression.writable_of_same` — what has the form of something that can be written can be written.
-/

set_option autoImplicit false

namespace DocQuery

/-! ## The form of values -/

namespace Value

theorem sameEntries_iff {as bs : Document} :
    sameEntries as bs = true ↔ ∀ e ∈ as, ∃ b, Assoc.get? bs e.1 = some b ∧ e.2.same b = true := by
  induction as with
  | nil => simp [sameEntries]
  | cons e as ih =>
    obtain ⟨k, a⟩ := e
    rw [sameEntries, Bool.and_eq_true, ih, List.forall_mem_cons]
    cases Assoc.get? bs k <;> simp

mutual

theorem same_refl (v : Value) (h : v.KeysDistinct) : v.same v = true := by
  cases v with
  | null => rfl
  | bool b => simp [same]
  | number n =>
    cases n with
    | integer i => exact beq_self_eq_true i
    | float d => exact @Bound.alike_refl (.finite d) nofun
  | string s => simp [same]
  | array items =>
    rw [KeysDistinct] at h
    exact sameItems_refl items h
  | object entries =>
    rw [KeysDistinct] at h
    have hget : ∀ e ∈ entries, Assoc.get? entries e.1 = some e.2 := by
      intro e he
      exact Assoc.get?_of_mem h.1 he
    rw [same, beq_self_eq_true, Bool.true_and]
    exact sameEntries_of_subset entries h.2 hget

theorem sameItems_refl (vs : List Value) (h : keysDistinctItems vs) : sameItems vs vs = true := by
  match vs with
  | [] => rfl
  | v :: vs =>
    rw [keysDistinctItems] at h
    rw [sameItems, same_refl v h.1, sameItems_refl vs h.2, Bool.and_self]

theorem sameEntries_of_subset {bs : Document} (as : List (String × Value))
    (h : keysDistinctEntries as) (hsub : ∀ e ∈ as, Assoc.get? bs e.1 = some e.2) :
    sameEntries as bs = true := by
  match as with
  | [] => rfl
  | (k, a) :: as =>
    rw [keysDistinctEntries] at h
    have hk : Assoc.get? bs k = some a := hsub (k, a) List.mem_cons_self
    have hrest : ∀ e ∈ as, Assoc.get? bs e.1 = some e.2 := by
      intro e he
      exact hsub e (List.mem_cons_of_mem _ he)
    rw [sameEntries, hk, sameEntries_of_subset as h.2 hrest, Bool.and_true]
    exact same_refl a h.1

end

mutual

/-- A value of the form of one whose numbers are floats is one too. -/
theorem numbersFloat_of_same (a b : Value) (ha : a.KeysDistinct) (hb : b.KeysDistinct)
    (h : a.same b = true) (hfloat : a.NumbersFloat) : b.NumbersFloat := by
  cases b with
  | number n =>
    cases n with
    | float d => trivial
    | integer i =>
      cases a with
      | number m =>
        cases m with
        | integer j => exact hfloat.elim
        | float d => cases h
      | _ => cases h
  | array bs =>
    cases a with
    | array as =>
      rw [KeysDistinct] at ha hb
      rw [NumbersFloat] at hfloat ⊢
      exact numbersFloatItems_of_same as bs ha hb h hfloat
    | _ => cases h
  | object bs =>
    cases a with
    | object as =>
      rw [KeysDistinct] at ha hb
      rw [NumbersFloat] at hfloat ⊢
      rw [same, Bool.and_eq_true, beq_iff_eq] at h
      obtain ⟨hlength, hentries⟩ := h
      have hfound := sameEntries_iff.1 hentries
      have hkeys : ∀ x ∈ as, ∃ b, Assoc.get? bs x.1 = some b := by
        intro x hx
        obtain ⟨b, hb, -⟩ := hfound x hx
        exact ⟨b, hb⟩
      apply numbersFloatEntries_iff.2
      intro e he
      obtain ⟨x, hx, hkey⟩ := Assoc.exists_mem_of_length_eq ha.1 hlength hkeys he
      obtain ⟨b, hget, hxb⟩ := hfound x hx
      rw [hkey, Assoc.get?_of_mem hb.1 he] at hget
      cases hget
      exact entries_numbersFloat as ha.2 hfloat x hx e.2
        (keysDistinctEntries_iff.1 hb.2 e he) hxb
    | _ => cases h
  | _ => trivial

theorem numbersFloatItems_of_same (as bs : List Value) (ha : keysDistinctItems as)
    (hb : keysDistinctItems bs) (h : sameItems as bs = true) (hfloat : numbersFloatItems as) :
    numbersFloatItems bs := by
  match as, bs with
  | [], [] => trivial
  | [], _ :: _ => cases h
  | _ :: _, [] => cases h
  | a :: as, b :: bs =>
    rw [keysDistinctItems] at ha hb
    rw [numbersFloatItems] at hfloat ⊢
    rw [sameItems, Bool.and_eq_true] at h
    constructor
    · exact numbersFloat_of_same a b ha.1 hb.1 h.1 hfloat.1
    · exact numbersFloatItems_of_same as bs ha.2 hb.2 h.2 hfloat.2

theorem entries_numbersFloat (as : List (String × Value)) (ha : keysDistinctEntries as)
    (hfloat : numbersFloatEntries as) :
    ∀ e ∈ as, ∀ b : Value, b.KeysDistinct → e.2.same b = true → b.NumbersFloat := by
  match as with
  | [] =>
    intro e he
    cases he
  | (k, a) :: as =>
    rw [keysDistinctEntries] at ha
    rw [numbersFloatEntries] at hfloat
    intro e he b hb h
    rcases List.mem_cons.1 he with rfl | he
    · exact numbersFloat_of_same a b ha.1 hb h hfloat.1
    · exact entries_numbersFloat as ha.2 hfloat.2 e he b hb h

end

end Value

/-! ## The form of expressions -/

variable [RegexEngine]

namespace Expression

mutual

theorem same_refl (e : Expression) (hwritable : e.Every Writable) (hkeys : e.Every KeysDistinct) :
    e.same e = true := by
  cases e with
  | and subs => exact sameAll_refl subs hwritable.2 hkeys.2
  | or subs => exact sameAll_refl subs hwritable.2 hkeys.2
  | equal field value | notEqual field value =>
    rw [same, beq_self_eq_true, Bool.true_and]
    exact value.same_refl (hkeys value List.mem_cons_self)
  | among field values | notAmong field values =>
    rw [same, beq_self_eq_true, Bool.true_and]
    exact Value.sameItems_refl values (Value.keysDistinctItems_iff.2 hkeys)
  | exist field | notExist field => exact beq_self_eq_true field
  | compare c field bound =>
    rw [same, beq_self_eq_true, beq_self_eq_true, Bool.true_and, Bool.true_and]
    apply Bound.alike_refl
    intro hnan
    rw [hnan] at hwritable
    cases hwritable.2
  | regex field pattern => rw [same, beq_self_eq_true, beq_self_eq_true, Bool.and_self]
  | anyElement field exprs =>
    rw [same, beq_self_eq_true, Bool.true_and]
    exact sameAll_refl exprs hwritable.2 hkeys.2

theorem sameAll_refl (es : List Expression) (hwritable : everyOf Writable es)
    (hkeys : everyOf KeysDistinct es) : sameAll es es = true := by
  match es with
  | [] => rfl
  | e :: es =>
    rw [sameAll, same_refl e hwritable.1 hkeys.1, sameAll_refl es hwritable.2 hkeys.2,
      Bool.and_self]

end

theorem length_eq_of_sameAll {as bs : List Expression} (h : sameAll as bs = true) :
    as.length = bs.length := by
  induction as generalizing bs with
  | nil =>
    cases bs with
    | nil => rfl
    | cons b bs => cases h
  | cons a as ih =>
    cases bs with
    | nil => cases h
    | cons b bs =>
      rw [sameAll, Bool.and_eq_true] at h
      rw [List.length_cons, List.length_cons, ih h.2]

omit [RegexEngine] in
/-- Lists of one form have values that all are floats, if those of the one are. -/
theorem numbersFloat_of_sameItems {as bs : List Value} (h : Value.sameItems as bs = true)
    (ha : ∀ v ∈ as, v.KeysDistinct) (hb : ∀ v ∈ bs, v.KeysDistinct)
    (hfloat : ∀ v ∈ as, v.NumbersFloat) : ∀ v ∈ bs, v.NumbersFloat := by
  rw [← Value.keysDistinctItems_iff] at ha hb
  rw [← Value.numbersFloatItems_iff] at hfloat ⊢
  exact Value.numbersFloatItems_of_same as bs ha hb h hfloat

theorem two_le_of_sameAll {as bs : List Expression} (h : sameAll as bs = true)
    (has : 2 ≤ as.length) : 2 ≤ bs.length := by
  rw [← length_eq_of_sameAll h]
  exact has

omit [RegexEngine] in
theorem isFinite_of_alike {a b : Bound} (h : a.alike b = true) (ha : a.isFinite = true) :
    b.isFinite = true := by
  cases a with
  | finite x =>
    cases b with
    | finite y => rfl
    | _ => cases h
  | _ => exact absurd ha Bool.false_ne_true

mutual

/-- What has the form of something that can be written can be written. -/
theorem writable_of_same (a b : Expression) (h : a.same b = true) (ha : a.Every Writable)
    (hkeys : a.Every KeysDistinct) (hb : b.Every KeysDistinct) : b.Every Writable := by
  cases a with
  | and as =>
    cases b with
    | and bs =>
      exact ⟨two_le_of_sameAll h ha.1, writableAll_of_sameAll as bs h ha.2 hkeys.2 hb.2⟩
    | _ => cases h
  | or as =>
    cases b with
    | or bs =>
      exact ⟨two_le_of_sameAll h ha.1, writableAll_of_sameAll as bs h ha.2 hkeys.2 hb.2⟩
    | _ => cases h
  | equal f v =>
    cases b with
    | equal g w =>
      rw [same, Bool.and_eq_true, beq_iff_eq] at h
      have hv : v.KeysDistinct := hkeys v List.mem_cons_self
      have hw : w.KeysDistinct := hb w List.mem_cons_self
      exact ⟨h.1 ▸ ha.1, v.numbersFloat_of_same w hv hw h.2 ha.2⟩
    | _ => cases h
  | notEqual f v =>
    cases b with
    | notEqual g w =>
      rw [same, Bool.and_eq_true, beq_iff_eq] at h
      have hv : v.KeysDistinct := hkeys v List.mem_cons_self
      have hw : w.KeysDistinct := hb w List.mem_cons_self
      exact ⟨h.1 ▸ ha.1, v.numbersFloat_of_same w hv hw h.2 ha.2⟩
    | _ => cases h
  | among f vs =>
    cases b with
    | among g ws =>
      rw [same, Bool.and_eq_true, beq_iff_eq] at h
      exact ⟨h.1 ▸ ha.1, numbersFloat_of_sameItems h.2 hkeys hb ha.2⟩
    | _ => cases h
  | notAmong f vs =>
    cases b with
    | notAmong g ws =>
      rw [same, Bool.and_eq_true, beq_iff_eq] at h
      exact ⟨h.1 ▸ ha.1, numbersFloat_of_sameItems h.2 hkeys hb ha.2⟩
    | _ => cases h
  | exist f =>
    cases b with
    | exist g => exact beq_iff_eq.1 h ▸ ha
    | _ => cases h
  | notExist f =>
    cases b with
    | notExist g => exact beq_iff_eq.1 h ▸ ha
    | _ => cases h
  | compare c f x =>
    cases b with
    | compare d g y =>
      rw [same, Bool.and_eq_true, Bool.and_eq_true, beq_iff_eq, beq_iff_eq] at h
      exact ⟨h.1.2 ▸ ha.1, isFinite_of_alike h.2 ha.2⟩
    | _ => cases h
  | regex f p =>
    cases b with
    | regex g q =>
      rw [same, Bool.and_eq_true, beq_iff_eq] at h
      exact h.1 ▸ ha
    | _ => cases h
  | anyElement f as =>
    cases b with
    | anyElement g bs =>
      rw [same, Bool.and_eq_true, beq_iff_eq] at h
      exact ⟨h.1 ▸ ha.1, writableAll_of_sameAll as bs h.2 ha.2 hkeys.2 hb.2⟩
    | _ => cases h

theorem writableAll_of_sameAll (as bs : List Expression) (h : sameAll as bs = true)
    (ha : everyOf Writable as) (hkeys : everyOf KeysDistinct as) (hb : everyOf KeysDistinct bs) :
    everyOf Writable bs := by
  match as, bs with
  | [], [] => trivial
  | [], _ :: _ => cases h
  | _ :: _, [] => cases h
  | a :: as, b :: bs =>
    rw [sameAll, Bool.and_eq_true] at h
    exact ⟨writable_of_same a b h.1 ha.1 hkeys.1 hb.1,
      writableAll_of_sameAll as bs h.2 ha.2 hkeys.2 hb.2⟩

end

end Expression

end DocQuery
