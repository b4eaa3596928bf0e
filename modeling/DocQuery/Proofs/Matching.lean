import DocQuery.Pattern.Engine
import DocQuery.Predicate.Alike
import DocQuery.Proofs.Alike
import DocQuery.Proofs.Success
import DocQuery.Schema.Stock

/-!
# What matching can see

Whether a document passes a predicate depends on the meaning of both alone: on no number's form and
on no order of keys, in the document as in the literals of the predicate.

* `Value.Agrees` — two values of one meaning, as documents and literals hold them.
* `Document.agrees_lookup` — documents of one meaning hold such values at every path.
* `equalTo_congr`, `isAmong_congr` — the tests on a value, lists included.
* `Expression.accepts_congr` — the tests on a document.
* `Predicate.alike_validate` — validation keeps the meaning of a predicate where field types do.
* `Predicate.accepts_of_alike` — alike predicates accept alike documents.
-/

set_option autoImplicit false

namespace DocQuery

/-! ## Related options and lists -/

/-- Options that are related are both absent, or hold values that are related. -/
theorem absent_or_related {α : Type} {R : α → α → Prop} {x y : Option α} (h : Option.Rel R x y) :
    (x = none ∧ y = none) ∨ ∃ a b, x = some a ∧ y = some b ∧ R a b := by
  cases h with
  | none => exact .inl ⟨rfl, rfl⟩
  | some hab => exact .inr ⟨_, _, rfl, rfl, hab⟩

theorem any_congr {α : Type} {R : α → α → Prop} {f g : α → Bool} {l l' : List α}
    (h : List.Forall₂ R l l') (hfg : ∀ x y, R x y → f x = g y) : l.any f = l'.any g := by
  induction h with
  | nil => rfl
  | cons hxy _ ih => rw [List.any_cons, List.any_cons, hfg _ _ hxy, ih]

/-! ## Values of one meaning -/

namespace Value

/-- Two values of one meaning, in neither of which an object has a key twice. -/
structure Agrees (a b : Value) : Prop where
  left : a.KeysDistinct
  right : b.KeysDistinct
  alike : a.alike b = true

variable {a b v w : Value} {as bs : List Value}

theorem Agrees.symm (h : a.Agrees b) : b.Agrees a :=
  ⟨h.right, h.left, a.alike_symm b h.left h.right h.alike⟩

/-- Values of one meaning are alike to the same values, on either side. -/
theorem Agrees.alike_congr (h : a.Agrees b) (hvw : v.Agrees w) : a.alike v = b.alike w := by
  rw [Value.alike_congr hvw.left hvw.right hvw.alike, Bool.eq_iff_iff]
  constructor
  · exact b.alike_trans a w h.symm.alike
  · exact a.alike_trans b w h.alike

theorem Agrees.isArray_eq (h : a.Agrees b) : a.isArray = b.isArray := by
  have halike := h.alike
  cases a <;> cases b <;> first | rfl | cases halike

theorem agrees_items (has : keysDistinctItems as) (hbs : keysDistinctItems bs)
    (h : alikeItems as bs = true) : List.Forall₂ Agrees as bs := by
  induction as generalizing bs with
  | nil =>
    cases bs with
    | nil => exact .nil
    | cons b bs => cases h
  | cons a as ih =>
    cases bs with
    | nil => cases h
    | cons b bs =>
      rw [alikeItems, Bool.and_eq_true] at h
      exact .cons ⟨has.1, hbs.1, h.1⟩ (ih has.2 hbs.2 h.2)

/-- What agrees with a list is a list of items that agree. -/
theorem Agrees.exists_items (h : (array as).Agrees b) :
    ∃ bs, b = array bs ∧ List.Forall₂ Agrees as bs := by
  obtain ⟨has, hb, halike⟩ := h
  cases b with
  | array bs =>
    rw [KeysDistinct] at has hb
    exact ⟨bs, rfl, agrees_items has hb halike⟩
  | _ => cases halike

/-- What agrees with a document is a document. -/
theorem Agrees.exists_document {doc : Document} (h : (object doc).Agrees b) :
    ∃ doc', b = object doc' := by
  have halike := h.alike
  cases b with
  | object doc' => exact ⟨doc', rfl⟩
  | _ => cases halike

/-- Numbers of one meaning are equal as floats. -/
theorem Agrees.bound? (h : a.Agrees b) :
    Option.Rel (fun x y => x.alike y = true) a.bound? b.bound? := by
  have halike := h.alike
  cases a with
  | number m =>
    cases b with
    | number n => exact .some halike
    | _ => cases halike
  | _ => cases b <;> first | exact .none | cases halike

end Value

/-! ## Documents of one meaning -/

namespace Document

open Value

variable {doc doc' : Document}

theorem exists_get?_of_agrees (h : (Value.object doc).Agrees (.object doc')) {key : String}
    {v : Value} (hv : Assoc.get? doc key = some v) :
    ∃ w, Assoc.get? doc' key = some w ∧ v.Agrees w := by
  have halike := h.alike
  rw [Value.alike, Bool.and_eq_true] at halike
  obtain ⟨w, hw, hvw⟩ := alikeEntries_iff.1 halike.2 (key, v) (Assoc.mem_of_get? hv)
  exact ⟨w, hw, h.left.of_get? hv, h.right.of_get? hw, hvw⟩

/-- Documents of one meaning have the same keys, with values of one meaning. -/
theorem agrees_get? (h : (Value.object doc).Agrees (.object doc')) (key : String) :
    Option.Rel Agrees (Assoc.get? doc key) (Assoc.get? doc' key) := by
  cases hv : Assoc.get? doc key with
  | some v =>
    obtain ⟨w, hw, hvw⟩ := exists_get?_of_agrees h hv
    rw [hw]
    exact .some hvw
  | none =>
    cases hw : Assoc.get? doc' key with
    | none => exact .none
    | some w =>
      obtain ⟨v, hv', -⟩ := exists_get?_of_agrees h.symm hw
      rw [hv] at hv'
      cases hv'

theorem agrees_follow (h : (Value.object doc).Agrees (.object doc')) (names : List String) :
    Option.Rel Agrees (follow doc names) (follow doc' names) := by
  induction names generalizing doc doc' with
  | nil => exact .none
  | cons name names ih =>
    have hget := agrees_get? h name
    cases names with
    | nil => exact hget
    | cons next names =>
      rw [follow, follow]
      · rcases absent_or_related hget with ⟨hv, hw⟩ | ⟨v, w, hv, hw, hvw⟩
        · rw [hv, hw]
          exact .none
        · rw [hv, hw]
          have halike := hvw.alike
          cases v with
          | object sub =>
            obtain ⟨sub', rfl⟩ := hvw.exists_document
            exact ih hvw
          | _ => cases w <;> first | exact .none | cases halike
      · simp
      · simp

/-- **Documents of one meaning hold values of one meaning** at every path, or none. -/
theorem agrees_lookup (h : (Value.object doc).Agrees (.object doc')) (path : String) :
    Option.Rel Agrees (lookup doc path) (lookup doc' path) :=
  agrees_follow h (Path.segments path)

theorem agrees_valueAt (h : (Value.object doc).Agrees (.object doc')) (field : String) :
    (valueAt doc field).Agrees (valueAt doc' field) := by
  unfold valueAt
  rcases absent_or_related (agrees_lookup h field) with ⟨hv, hw⟩ | ⟨v, w, hv, hw, hvw⟩
  · rw [hv, hw]
    exact ⟨trivial, trivial, rfl⟩
  · rw [hv, hw]
    exact hvw

end Document

/-! ## Tests of a value -/

section Tests

open Value

variable {a b v w : Value} {vs ws : List Value}

theorem equalTo_of_not_array (ha : a.isArray = false) (v : Value) : equalTo a v = a.alike v := by
  cases a <;> first | rfl | cases ha

theorem isAmong_of_not_array (ha : a.isArray = false) (vs : List Value) :
    isAmong a vs = vs.any fun c => c.alike a := by
  cases a <;> first | rfl | cases ha

theorem equalTo_congr (h : a.Agrees b) (hvw : v.Agrees w) : equalTo a v = equalTo b w := by
  cases ha : a.isArray with
  | false =>
    rw [equalTo_of_not_array ha, equalTo_of_not_array (h.isArray_eq ▸ ha)]
    exact h.alike_congr hvw
  | true =>
    cases a with
    | array as =>
      obtain ⟨bs, rfl, hitems⟩ := h.exists_items
      have hany : (as.any fun i => i.alike v) = bs.any fun i => i.alike w :=
        any_congr hitems fun _ _ hxy => hxy.alike_congr hvw
      simp only [equalTo, hvw.isArray_eq, h.alike_congr hvw, hany]
    | _ => cases ha

theorem isAmong_congr (h : a.Agrees b) (hvs : List.Forall₂ Agrees vs ws) :
    isAmong a vs = isAmong b ws := by
  cases ha : a.isArray with
  | false =>
    rw [isAmong_of_not_array ha, isAmong_of_not_array (h.isArray_eq ▸ ha)]
    exact any_congr hvs fun _ _ hxy => hxy.alike_congr h
  | true =>
    cases a with
    | array as =>
      obtain ⟨bs, rfl, hitems⟩ := h.exists_items
      exact any_congr hvs fun _ _ hxy => any_congr hitems fun _ _ hij => hxy.alike_congr hij
    | _ => cases ha

end Tests

/-! ## Comparisons -/

namespace Bound

variable {a b x y : Bound}

/-- Bounds are equal when they are one infinity, or finite numbers in one place. -/
theorem cases_of_alike (h : a.alike b = true) :
    (∃ d e, a = .finite d ∧ b = .finite e ∧ d.place = e.place) ∨
      ∃ negative, a = .infinite negative ∧ b = .infinite negative := by
  cases a with
  | finite d =>
    cases b with
    | finite e => exact .inl ⟨d, e, rfl, rfl, beq_iff_eq.1 h⟩
    | _ => cases h
  | infinite m =>
    cases b with
    | infinite n => exact .inr ⟨m, rfl, congrArg _ (beq_iff_eq.1 h).symm⟩
    | _ => cases h
  | nan => cases h

theorem less_congr_left (h : a.alike b = true) : a.less x = b.less x := by
  rcases cases_of_alike h with ⟨d, e, rfl, rfl, hplace⟩ | ⟨negative, rfl, rfl⟩
  · cases x <;> simp only [less, hplace]
  · rfl

theorem less_congr_right (h : x.alike y = true) : a.less x = a.less y := by
  rcases cases_of_alike h with ⟨d, e, rfl, rfl, hplace⟩ | ⟨negative, rfl, rfl⟩
  · cases a <;> simp only [less, hplace]
  · rfl

/-- Equal bounds stand in the same order to equal bounds. -/
theorem less_congr (hab : a = b ∨ a.alike b = true) (hxy : x = y ∨ x.alike y = true) :
    a.less x = b.less y := by
  have hleft : a.less x = b.less x := by
    rcases hab with rfl | hab
    · rfl
    · exact less_congr_left hab
  rcases hxy with rfl | hxy
  · exact hleft
  · exact hleft.trans (less_congr_right hxy)

theorem alike_congr_left (h : a.alike b = true) : a.alike x = b.alike x := by
  rw [Bool.eq_iff_iff]
  exact ⟨alike_trans (alike_symm a b ▸ h), alike_trans h⟩

theorem alike_congr (hab : a = b ∨ a.alike b = true) (hxy : x = y ∨ x.alike y = true) :
    a.alike x = b.alike y := by
  have hleft : a.alike x = b.alike x := by
    rcases hab with rfl | hab
    · rfl
    · exact alike_congr_left hab
  rcases hxy with rfl | hxy
  · exact hleft
  · rw [hleft, alike_symm b x, alike_symm b y, alike_congr_left hxy]

theorem holds_congr (c : Comparison) (hab : a = b ∨ a.alike b = true)
    (hxy : x = y ∨ x.alike y = true) : c.holds a x = c.holds b y := by
  cases c with
  | less => exact less_congr hab hxy
  | greater => exact less_congr hxy hab
  | lessOrEqual =>
    show (a.less x || a.alike x) = (b.less y || b.alike y)
    rw [less_congr hab hxy, alike_congr hab hxy]
  | greaterOrEqual =>
    show (x.less a || x.alike a) = (y.less b || y.alike b)
    rw [less_congr hxy hab, alike_congr hxy hab]

end Bound

/-! ## Tests of a document -/

namespace Expression

open Value

theorem agrees_literals {vs ws : List Value} {P : Prop} (hvs : ∀ v ∈ vs, v.KeysDistinct)
    (hws : ∀ w ∈ ws, w.KeysDistinct) (h : P ∧ alikeItems vs ws = true) :
    List.Forall₂ Agrees vs ws :=
  agrees_items (keysDistinctItems_iff.2 hvs) (keysDistinctItems_iff.2 hws) h.2

variable [RegexEngine]

mutual

/-- **A test cannot tell documents of one meaning apart**, nor literals of one meaning. -/
theorem accepts_congr (a b : Expression) (h : a.Alike b) (ha : a.Every KeysDistinct)
    (hb : b.Every KeysDistinct) {doc doc' : Document}
    (hdoc : (Value.object doc).Agrees (.object doc')) : a.accepts doc = b.accepts doc' := by
  cases a with
  | and as =>
    cases b with
    | and bs => exact acceptsAll_congr as bs h ha.2 hb.2 hdoc
    | _ => exact h.elim
  | or as =>
    cases b with
    | or bs => exact acceptsAny_congr as bs h ha.2 hb.2 hdoc
    | _ => exact h.elim
  | equal f v =>
    cases b with
    | equal g w =>
      obtain ⟨rfl, hvw⟩ := h
      exact equalTo_congr (Document.agrees_valueAt hdoc f)
        ⟨ha v List.mem_cons_self, hb w List.mem_cons_self, hvw⟩
    | _ => exact h.elim
  | notEqual f v =>
    cases b with
    | notEqual g w =>
      obtain ⟨rfl, hvw⟩ := h
      exact congrArg not (equalTo_congr (Document.agrees_valueAt hdoc f)
        ⟨ha v List.mem_cons_self, hb w List.mem_cons_self, hvw⟩)
    | _ => exact h.elim
  | among f vs =>
    cases b with
    | among g ws =>
      obtain rfl := h.1
      exact isAmong_congr (Document.agrees_valueAt hdoc f) (agrees_literals ha hb h)
    | _ => exact h.elim
  | notAmong f vs =>
    cases b with
    | notAmong g ws =>
      obtain rfl := h.1
      exact congrArg not (isAmong_congr (Document.agrees_valueAt hdoc f) (agrees_literals ha hb h))
    | _ => exact h.elim
  | exist f =>
    cases b with
    | exist g =>
      obtain rfl : f = g := h
      rw [accepts, accepts]
      rcases absent_or_related (Document.agrees_lookup hdoc f) with
        ⟨hv, hw⟩ | ⟨v, w, hv, hw, -⟩
      · rw [hv, hw]
      · rw [hv, hw]
        rfl
    | _ => exact h.elim
  | notExist f =>
    cases b with
    | notExist g =>
      obtain rfl : f = g := h
      rw [accepts, accepts]
      rcases absent_or_related (Document.agrees_lookup hdoc f) with
        ⟨hv, hw⟩ | ⟨v, w, hv, hw, -⟩
      · rw [hv, hw]
      · rw [hv, hw]
        rfl
    | _ => exact h.elim
  | compare c f x =>
    cases b with
    | compare d g y =>
      obtain ⟨rfl, rfl, hxy⟩ := h
      rw [accepts, accepts]
      rcases absent_or_related (Document.agrees_lookup hdoc f) with
        ⟨hv, hw⟩ | ⟨v, w, hv, hw, hvw⟩
      · rw [hv, hw]
        rfl
      · rw [hv, hw, Option.bind_some, Option.bind_some]
        rcases absent_or_related hvw.bound? with ⟨hm, hn⟩ | ⟨m, n, hm, hn, hmn⟩
        · rw [hm, hn]
        · rw [hm, hn]
          exact Bound.holds_congr c (.inr hmn) hxy
    | _ => exact h.elim
  | regex f p =>
    cases b with
    | regex g q =>
      obtain ⟨rfl, rfl⟩ := h
      rw [accepts, accepts]
      rcases absent_or_related (Document.agrees_lookup hdoc f) with
        ⟨hv, hw⟩ | ⟨v, w, hv, hw, hvw⟩
      · rw [hv, hw]
      · rw [hv, hw]
        have halike := hvw.alike
        cases v with
        | string s =>
          cases w with
          | string t =>
            rw [Value.alike, beq_iff_eq] at halike
            rw [halike]
          | _ => cases halike
        | _ => cases w <;> first | rfl | cases halike
    | _ => exact h.elim
  | anyElement f as =>
    cases b with
    | anyElement g bs =>
      obtain ⟨rfl, has⟩ := h
      rw [accepts, accepts]
      rcases absent_or_related (Document.agrees_lookup hdoc f) with
        ⟨hv, hw⟩ | ⟨v, w, hv, hw, hvw⟩
      · rw [hv, hw]
      · rw [hv, hw]
        have halike := hvw.alike
        cases v with
        | array items =>
          obtain ⟨items', rfl, hitems⟩ := hvw.exists_items
          apply any_congr hitems
          intro x y hxy
          have hitem := hxy.alike
          cases x with
          | object sub =>
            obtain ⟨sub', rfl⟩ := hxy.exists_document
            exact acceptsAll_congr as bs has ha.2 hb.2 hxy
          | _ => cases y <;> first | rfl | cases hitem
        | _ => cases w <;> first | rfl | cases halike
    | _ => exact h.elim

theorem acceptsAll_congr (as bs : List Expression) (h : AlikeAll as bs)
    (ha : everyOf KeysDistinct as) (hb : everyOf KeysDistinct bs) {doc doc' : Document}
    (hdoc : (Value.object doc).Agrees (.object doc')) :
    acceptsAll as doc = acceptsAll bs doc' := by
  match as, bs with
  | [], [] => rfl
  | [], _ :: _ | _ :: _, [] => exact h.elim
  | a :: as, b :: bs =>
    rw [acceptsAll, acceptsAll, accepts_congr a b h.1 ha.1 hb.1 hdoc,
      acceptsAll_congr as bs h.2 ha.2 hb.2 hdoc]

theorem acceptsAny_congr (as bs : List Expression) (h : AlikeAll as bs)
    (ha : everyOf KeysDistinct as) (hb : everyOf KeysDistinct bs) {doc doc' : Document}
    (hdoc : (Value.object doc).Agrees (.object doc')) :
    acceptsAny as doc = acceptsAny bs doc' := by
  match as, bs with
  | [], [] => rfl
  | [], _ :: _ | _ :: _, [] => exact h.elim
  | a :: as, b :: bs =>
    rw [acceptsAny, acceptsAny, accepts_congr a b h.1 ha.1 hb.1 hdoc,
      acceptsAny_congr as bs h.2 ha.2 hb.2 hdoc]

end

end Expression

/-! ## Validation -/

namespace Coercion

variable {α : Type} {R : α → α → Prop} {f : α → Coercion α} {as : List α}

/-- What a coercion that stops nowhere makes of every element, it makes of the list. -/
theorem forall₂_all (h : (all f as).failure = none)
    (hf : ∀ a ∈ as, (f a).failure = none → R a (f a).value) :
    List.Forall₂ R as (all f as).value := by
  induction as with
  | nil => exact .nil
  | cons a as ih =>
    obtain ⟨ha, hrest⟩ := List.forall_mem_cons.1 hf
    rw [all] at h ⊢
    cases hb : f a with
    | mk b failure =>
      rw [hb] at h ha
      cases failure with
      | some e => cases h
      | none => exact .cons (ha rfl) (ih h hrest)

theorem replace_value {old : α} {x : Except Error α} (h : (replace old x).failure = none) :
    x = .ok (replace old x).value := by
  cases x with
  | ok a => rfl
  | error e => cases h

theorem check_value {a : α} {x : Except Error Unit} : (check a x).value = a := by
  cases x <;> rfl

end Coercion

namespace Value

variable {v w : Value} {vs ws : List Value}

theorem Agrees.refl (h : v.KeysDistinct) : v.Agrees v := ⟨h, h, v.alike_refl h⟩

theorem alikeItems_of_agrees (h : List.Forall₂ Agrees vs ws) :
    alikeItems vs ws = true ∧ ∀ w ∈ ws, w.KeysDistinct := by
  induction h with
  | nil => exact ⟨rfl, nofun⟩
  | cons hvw _ ih =>
    refine ⟨?_, List.forall_mem_cons.2 ⟨hvw.right, ih.2⟩⟩
    rw [alikeItems, hvw.alike, ih.1, Bool.and_self]

end Value

namespace Predicate

open Value

variable {fields : Schema} {f : Field} {name : String} {v w : Value}

theorem lookup_of_filterableField (h : filterableField fields name = .ok f) :
    Schema.lookup fields name = some f := by
  unfold filterableField at h
  cases hl : Schema.lookup fields name with
  | none =>
    rw [hl] at h
    cases h
  | some g =>
    rw [hl] at h
    simp only at h
    split at h <;> cases h
    rfl

theorem coerceLiteral_agrees (hf : ∀ t, f.validator = some t → t.KeepsMeaning)
    (hv : v.KeysDistinct) (h : coerceLiteral f name v = .ok w) : v.Agrees w := by
  unfold coerceLiteral at h
  cases ht : f.validator with
  | none =>
    rw [ht] at h
    cases h
    exact .refl hv
  | some t =>
    rw [ht] at h
    have hok := mapError_eq_ok_iff.1 h
    exact ⟨hv, (hf t ht).keys hok hv, (hf t ht).alike hok⟩

theorem coerceListLiteral_agrees (hf : ∀ t, f.validator = some t → t.KeepsMeaning)
    (hv : v.KeysDistinct) (h : (coerceListLiteral f name v).failure = none) :
    v.Agrees (coerceListLiteral f name v).value := by
  unfold coerceListLiteral at h ⊢
  cases ht : f.validator with
  | none => exact .refl hv
  | some t =>
    rw [ht] at h
    have hok := mapError_eq_ok_iff.1 (Coercion.replace_value h)
    exact ⟨hv, (hf t ht).keys hok hv, (hf t ht).alike hok⟩

/-- An equality's literal is coerced to one that agrees with it. -/
theorem coerceEquality_agrees (hfields : fields.KeepsMeaning) (hv : v.KeysDistinct)
    (h : (coerceEquality fields name v).failure = none) :
    v.Agrees (coerceEquality fields name v).value := by
  obtain ⟨f, hf, hw⟩ := bind_eq_ok_iff.1 (Coercion.replace_value h)
  exact coerceLiteral_agrees (hfields f (.own (lookup_of_filterableField hf))) hv hw

theorem coerceMembers_agrees {values : List Value} (hfields : fields.KeepsMeaning)
    (hvalues : ∀ v ∈ values, v.KeysDistinct)
    (h : (coerceMembers fields name values).failure = none) :
    List.Forall₂ Agrees values (coerceMembers fields name values).value := by
  unfold coerceMembers at h ⊢
  cases hf : filterableField fields name with
  | error e =>
    rw [hf] at h
    cases h
  | ok f =>
    rw [hf] at h
    have htypes := hfields f (.own (lookup_of_filterableField hf))
    exact Coercion.forall₂_all h fun v hv hnone =>
      coerceListLiteral_agrees htypes (hvalues v hv) hnone

/-- The bound of a comparison is coerced to an equal one. -/
theorem coerceBound_alike {c : Comparison} {a b : Bound} (hfields : fields.KeepsMeaning)
    (h : coerceBound fields name c a = .ok b) : a.alike b = true := by
  obtain ⟨f, hf, hrest⟩ := bind_eq_ok_iff.1 h
  split at hrest
  · cases hrest
  · cases a with
    | finite d =>
      obtain ⟨w, hw, hb⟩ := bind_eq_ok_iff.1 hrest
      have hdw : (Value.float d).Agrees w :=
        coerceLiteral_agrees (hfields f (.own (lookup_of_filterableField hf))) trivial hw
      rcases absent_or_related hdw.bound? with ⟨hd, -⟩ | ⟨x, y, hx, hy, hxy⟩
      · cases hd
      · rw [hy] at hb
        cases hx
        cases hb
        exact hxy
    | _ => cases hrest

/-- Where a schema keeps meaning, so do the fields of the documents in its lists. -/
theorem keepsMeaning_elements (hfields : fields.KeepsMeaning) {sub : Schema}
    (h : ((filterableField fields name).bind fun f => elementFields f name) = .ok sub) :
    sub.KeepsMeaning := by
  obtain ⟨f, hf, hsub⟩ := bind_eq_ok_iff.1 h
  intro g hg
  exact hfields g (.element (lookup_of_filterableField hf) hsub hg)

end Predicate

namespace Expression

open Predicate Value

variable [RegexEngine]

mutual

/-- An expression that passes validation keeps its meaning. -/
theorem alike_validate (e : Expression) (fields : Schema) (hfields : fields.KeepsMeaning)
    (hkeys : e.Every KeysDistinct) (h : (e.validate fields).failure = none) :
    e.Alike (e.validate fields).value ∧ (e.validate fields).value.Every KeysDistinct := by
  cases e with
  | and subs =>
    obtain ⟨halike, hevery⟩ := alike_validateAll subs fields hfields hkeys.2 h
    exact ⟨halike, keysDistinct_of_literals_eq_nil rfl, hevery⟩
  | or subs =>
    obtain ⟨halike, hevery⟩ := alike_validateAll subs fields hfields hkeys.2 h
    exact ⟨halike, keysDistinct_of_literals_eq_nil rfl, hevery⟩
  | equal f v =>
    have hv := coerceEquality_agrees hfields (hkeys v List.mem_cons_self) h
    exact ⟨⟨rfl, hv.alike⟩, List.forall_mem_singleton.2 hv.right⟩
  | notEqual f v =>
    have hv := coerceEquality_agrees hfields (hkeys v List.mem_cons_self) h
    exact ⟨⟨rfl, hv.alike⟩, List.forall_mem_singleton.2 hv.right⟩
  | among f vs =>
    obtain ⟨halike, hws⟩ := alikeItems_of_agrees (coerceMembers_agrees hfields hkeys h)
    exact ⟨⟨rfl, halike⟩, hws⟩
  | notAmong f vs =>
    obtain ⟨halike, hws⟩ := alikeItems_of_agrees (coerceMembers_agrees hfields hkeys h)
    exact ⟨⟨rfl, halike⟩, hws⟩
  | compare c f b =>
    have hb := coerceBound_alike hfields (Coercion.replace_value h)
    exact ⟨⟨rfl, rfl, .inr hb⟩, keysDistinct_of_literals_eq_nil rfl⟩
  | exist f | notExist f =>
    rw [validate, Coercion.check_value]
    exact ⟨rfl, hkeys⟩
  | regex f p =>
    rw [validate, Coercion.check_value]
    exact ⟨⟨rfl, rfl⟩, hkeys⟩
  | anyElement f es =>
    rw [validate] at h ⊢
    cases hsub : (filterableField fields f).bind fun g => elementFields g f with
    | error e =>
      rw [hsub] at h
      cases h
    | ok sub =>
      rw [hsub] at h
      have hnone : (validateAll es sub).failure = none := Option.map_eq_none_iff.1 h
      obtain ⟨halike, hevery⟩ :=
        alike_validateAll es sub (keepsMeaning_elements hfields hsub) hkeys.2 hnone
      exact ⟨⟨rfl, halike⟩, keysDistinct_of_literals_eq_nil rfl, hevery⟩

theorem alike_validateAll (es : List Expression) (fields : Schema) (hfields : fields.KeepsMeaning)
    (hkeys : everyOf KeysDistinct es) (h : (validateAll es fields).failure = none) :
    AlikeAll es (validateAll es fields).value ∧
      everyOf KeysDistinct (validateAll es fields).value := by
  match es with
  | [] => exact ⟨trivial, trivial⟩
  | e :: es =>
    have he := alike_validate e fields hfields hkeys.1
    have hes := alike_validateAll es fields hfields hkeys.2
    rw [validateAll] at h ⊢
    cases hc : e.validate fields with
    | mk e' failure =>
      rw [hc] at h he
      cases failure with
      | some f => cases h
      | none =>
        exact ⟨⟨(he rfl).1, (hes h).1⟩, (he rfl).2, (hes h).2⟩

end

end Expression

namespace Predicate

variable [RegexEngine]

/-- A predicate that passes validation is alike to what it was, where field types keep meaning. -/
theorem alike_validate {p : Predicate} {fields : Schema} (hfields : fields.KeepsMeaning)
    (hkeys : p.KeysDistinct) (h : (p.validate fields).failure = none) :
    p.Alike (p.validate fields).value ∧ (p.validate fields).value.KeysDistinct :=
  Expression.alike_validateAll p fields hfields hkeys h

/-- **Matching depends on meaning alone.** Alike predicates accept alike documents, whichever form
their numbers have and in whichever order their keys come. So validation never changes which
documents a predicate accepts, where no field type changes the meaning of a literal. -/
theorem accepts_of_alike :
    (∀ p p' : Predicate, p.KeysDistinct → p'.KeysDistinct → p.Alike p' →
      ∀ doc doc' : Document, (Value.object doc).KeysDistinct → (Value.object doc').KeysDistinct →
        (Value.object doc).alike (.object doc') = true → p.accepts doc = p'.accepts doc') ∧
    (∀ (p : Predicate) (fields : Schema), p.KeysDistinct → fields.KeepsMeaning →
      (p.validate fields).failure = none →
        ∀ doc : Document, (Value.object doc).KeysDistinct →
          (p.validate fields).value.accepts doc = p.accepts doc) := by
  constructor
  · intro p p' hp hp' hpp' doc doc' hdoc hdoc' halike
    exact Expression.acceptsAll_congr p p' hpp' hp hp' ⟨hdoc, hdoc', halike⟩
  · intro p fields hp hfields hvalid doc hdoc
    obtain ⟨halike, hkeys⟩ := alike_validate hfields hp hvalid
    exact (Expression.acceptsAll_congr p _ halike hp hkeys (.refl hdoc)).symm

end Predicate

/-! ## Books by their pages -/

namespace Bookshelf

/-- Whole numbers become integers where nothing is lost. -/
def exactInteger : Validator :=
  .ofRule fun v => (Validator.integerRule v).bind fun w =>
    if v.alike w then .ok w else .error "too large"

theorem exactInteger_keepsMeaning : exactInteger.KeepsMeaning := by
  have hinvert : ∀ {v w : Value}, exactInteger.validateQuery v = .ok w →
      Validator.integerRule v = .ok w ∧ v.alike w = true := by
    intro v w h
    obtain ⟨u, hu, hw⟩ := bind_eq_ok_iff.1 h
    split at hw
    · cases hw
      exact ⟨hu, ‹_›⟩
    · cases hw
  constructor
  · intro v w h
    exact (hinvert h).2
  · intro v w h _
    obtain ⟨hrule, -⟩ := hinvert h
    unfold Validator.integerRule at hrule
    split at hrule
    · split at hrule
      · cases hrule
        trivial
      · cases hrule
    · cases hrule

def lengthFields : Schema :=
  [("pages", .mk { filterable := true, validator := some exactInteger } .scalar),
    ("title", .mk { filterable := true } .scalar)]

theorem lengthFields_keepsMeaning : lengthFields.KeepsMeaning := by
  have hmem : ∀ {name : String} {f : Field}, Schema.lookup lengthFields name = some f →
      f ∈ lengthFields.map Prod.snd :=
    Schema.mem_of_lookup (by simp [lengthFields, Field.kind])
  intro f hf t ht
  cases hf with
  | own declared =>
    rcases List.mem_cons.1 (hmem declared) with rfl | hlast
    · cases ht
      exact exactInteger_keepsMeaning
    · rw [List.mem_singleton.1 hlast] at ht
      cases ht
  | element declared elements _ =>
    rcases List.mem_cons.1 (hmem declared) with rfl | hlast
    · cases elements
    · rw [List.mem_singleton.1 hlast] at elements
      cases elements

/-- The number one. -/
def one : Double := ⟨false, 1023 * Double.binade, by decide⟩

def leaflet : Document := [("title", .string "A leaflet"), ("pages", .integer 1)]

/-- The same in other words. -/
def leafletAgain : Document := [("pages", .float one), ("title", .string "A leaflet")]

/-- What has one page, or none. -/
def leaflets (n : Value) : Predicate := [.or [.equal "pages" n, .notExist "pages"]]

theorem leaflets_keysDistinct {n : Value} (hn : n.KeysDistinct) : (leaflets n).KeysDistinct := by
  simp [leaflets, Predicate.KeysDistinct, Expression.everyOf, Expression.Every,
    Expression.KeysDistinct, Expression.literals, hn]

theorem accepts_leaflet :
    (leaflets (.float one)).accepts leaflet = (leaflets (.integer 1)).accepts leafletAgain ∧
      ((leaflets (.float one)).validate lengthFields).value.accepts leaflet =
        (leaflets (.float one)).accepts leaflet := by
  have hone : (Value.float one).KeysDistinct := trivial
  have hinteger : (Value.integer 1).KeysDistinct := trivial
  have hleaflet : (Value.object leaflet).KeysDistinct := ⟨by decide, trivial, trivial, trivial⟩
  have hagain : (Value.object leafletAgain).KeysDistinct := ⟨by decide, trivial, trivial, trivial⟩
  constructor
  · exact Predicate.accepts_of_alike.1 _ _ (leaflets_keysDistinct hone)
      (leaflets_keysDistinct hinteger) ⟨⟨⟨rfl, by decide +kernel⟩, rfl, trivial⟩, trivial⟩ _ _
      hleaflet hagain (by decide +kernel)
  · exact Predicate.accepts_of_alike.2 _ _ (leaflets_keysDistinct hone) lengthFields_keepsMeaning
      (by decide +kernel) _ hleaflet

end Bookshelf

end DocQuery
