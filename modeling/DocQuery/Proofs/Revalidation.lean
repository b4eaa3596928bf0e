import DocQuery.Pattern.Engine
import DocQuery.Proofs.Numerals
import DocQuery.Proofs.Validated
import DocQuery.Query
import DocQuery.Schema.Stock

/-!
# Validating twice

What validation makes of a query, it leaves as it is: a query that was validated is valid, and
nothing in it is coerced any further. This asks as much of the field types that the query can come
to. The parameters of connections come as floats and become integers, which are floats again when
they are checked; no whole number changes on that way, up to the limit of a word.

* `Coercion.Settles` — a coercion that leaves its own outcome as it is.
* `Validator.Stable`, `Catalog.Stable` — field types that take what they gave.
* `Expression.settles_validate`, `Selection.settles_validate` — the parts of a query.
* `Query.validate_validate` — validating twice is validating once.
-/

set_option autoImplicit false

namespace DocQuery

/-! ## Coercions that settle -/

namespace Coercion

variable {α β δ : Type}

/-- What the coercion makes of `a`, it leaves as it is. -/
def Settles (f : α → Coercion α) (a : α) : Prop :=
  (f a).failure = none → f (f a).value = done (f a).value

variable {f : α → Coercion α} {g : β → Coercion β} {k : δ → Coercion δ} {a : α} {b : β}

theorem Settles.replace {rule : α → Except Error α}
    (h : ∀ {w}, rule a = .ok w → rule w = .ok w) : Settles (fun a => replace a (rule a)) a := by
  intro hnone
  dsimp only at hnone ⊢
  rw [h (replace_value hnone)]
  rfl

/-- A coercion that replaces nothing. -/
theorem Settles.of_unchanged (h : (f a).value = a) : Settles f a := by
  intro hnone
  rw [h]
  exact congrArg₂ Coercion.mk h hnone

theorem Settles.map {put : α → δ} (hk : ∀ a, k (put a) = (f a).map put) (h : Settles f a) :
    Settles k (put a) := by
  intro hnone
  rw [hk] at hnone ⊢
  rw [show ((f a).map put).value = put (f a).value from rfl, hk, h hnone]
  rfl

theorem Settles.within (parent : String) (h : Settles f a) :
    Settles (fun a => (f a).within parent) a := by
  intro hnone
  show (f (f a).value).within parent = _
  rw [h (Option.map_eq_none_iff.1 hnone)]
  rfl

/-- Two parts, one after the other. -/
theorem Settles.both (put : α → β → δ) (hk : ∀ a b, k (put a b) = Coercion.both put (f a) b (g b))
    (ha : Settles f a) (hb : Settles g b) : Settles k (put a b) := by
  intro hnone
  rw [hk] at hnone ⊢
  cases hfirst : f a with
  | mk a' failure =>
    cases failure with
    | some e =>
      rw [hfirst] at hnone
      cases hnone
    | none =>
      have ha' : f a' = done a' := by
        have h := ha (by rw [hfirst])
        rwa [hfirst] at h
      rw [hfirst] at hnone
      show k (put a' (g b).value) = _
      rw [hk, ha', show Coercion.both put (done a') (g b).value (g (g b).value) =
        (g (g b).value).map (put a') from rfl, hb hnone]
      rfl

/-- A list from left to right. -/
theorem Settles.all {as : List α} (h : ∀ a ∈ as, Settles f a) : Settles (Coercion.all f) as := by
  induction as with
  | nil => exact fun _ => rfl
  | cons a as ih =>
    exact .both List.cons (fun a as => all_cons f a as) (h a (List.mem_cons_self ..))
      (ih fun b hb => h b (List.mem_cons_of_mem a hb))

end Coercion

/-! ## Field types -/

/-- A field type that takes what it gave, as it is, and the literals of predicates in either form of
a number. The integers that it makes of floats are words of 64 bits, signed or not. -/
structure Validator.Stable (t : Validator) : Prop where
  validate {v w : Value} : t.validate v = .ok w → t.validate w = .ok w
  validateQuery {v w : Value} : t.validateQuery v = .ok w → t.validateQuery w = .ok w
  forms {i : Int} {d : Double} {w : Value} : Bound.ofInt i = .finite d →
    t.validateQuery (.integer i) = .ok w →
      ∃ w', t.validateQuery (.float d) = .ok w' ∧ w'.bound? = w.bound?
  words {d : Double} {i : Int} : t.validateQuery (.float d) = .ok (.integer i) →
    i.natAbs ≤ Word.greatestUnsigned

/-- The type of a field and those of its parameters are stable. -/
structure Field.Stable (f : Field) : Prop where
  type {t : Validator} : f.validator = some t → t.Stable
  params {name : String} {t : Validator} : Assoc.get? f.params name = some (some t) → t.Stable

/-- All field types are stable that queries on documents with the fields `fields` can come to. -/
def Catalog.Stable (catalog : Catalog) (fields : Schema) : Prop :=
  ∀ {sub name f}, catalog.Reaches fields sub → Schema.lookup sub name = some f → f.Stable

theorem Catalog.Stable.below {catalog : Catalog} {fields sub : Schema} {name : String} {f : Field}
    (h : catalog.Stable fields) (hf : Schema.lookup fields name = some f)
    (hsub : f.childFields catalog = some sub) : catalog.Stable sub :=
  fun hreach hg => h (.head ⟨name, f, hf, hsub⟩ hreach) hg

namespace Field.Stable

variable {f : Field} {v w : Value}

theorem acceptLiteral (hf : f.Stable) (h : f.acceptLiteral v = .ok w) :
    f.acceptLiteral w = .ok w := by
  unfold Field.acceptLiteral at h ⊢
  cases ht : f.validator with
  | none => rfl
  | some t =>
    rw [ht] at h
    exact (hf.type ht).validateQuery h

/-- A number that a field type gives is finite, and is taken as the same number when it comes as a
float. -/
theorem exists_bound (hf : f.Stable) {d : Double} {b : Bound}
    (h : f.acceptLiteral (.float d) = .ok w) (hb : w.bound? = some b) :
    ∃ e w', b = .finite e ∧ f.acceptLiteral (.float e) = .ok w' ∧ w'.bound? = some b := by
  have hw := hf.acceptLiteral h
  unfold Field.acceptLiteral at h hw ⊢
  cases ht : f.validator with
  | none =>
    rw [ht] at h
    cases h
    cases hb
    exact ⟨d, .float d, rfl, rfl, rfl⟩
  | some t =>
    rw [ht] at h hw
    cases w with
    | number n =>
      cases hb
      cases n with
      | float e => exact ⟨e, .float e, rfl, hw, rfl⟩
      | integer i =>
        obtain ⟨e, he⟩ := Double.exists_ofInt ((hf.type ht).words h)
        obtain ⟨w', hw', hbound⟩ := (hf.type ht).forms he hw
        exact ⟨e, w', he, hw', hbound⟩
    | _ => cases hb

end Field.Stable

namespace Validator

theorem stable_string : string.Stable := by
  have again {v w : Value} (h : stringRule v = .ok w) : stringRule w = .ok w := by
    cases v <;> cases h
    rfl
  exact {
    validate := again
    validateQuery := again
    forms := nofun
    words := nofun }

theorem integerRule_eq_ok_iff {v w : Value} :
    integerRule v = .ok w ↔
      ∃ d, v.bound? = some (.finite d) ∧ d.isWhole = true ∧ w = .integer d.toInt64 := by
  unfold integerRule
  constructor
  · intro h
    split at h
    · rename_i d hbound
      split at h <;> cases h
      exact ⟨d, hbound, ‹_›, rfl⟩
    · cases h
  · rintro ⟨d, hbound, hwhole, rfl⟩
    simp only [hbound, hwhole, if_true]

/-- An integer that a word holds is taken as it is, as are the limits of a word. -/
theorem integerRule_toInt64 {d : Double} (h : d.isWhole = true) :
    integerRule (.integer d.toInt64) = .ok (.integer d.toInt64) := by
  have hclamp : Word.clamp d.truncate = d.truncate ∨ Word.clamp d.truncate = Word.greatest ∨
      Word.clamp d.truncate = Word.least := by
    unfold Word.clamp Word.greatest Word.least
    omega
  unfold Double.toInt64
  rcases hclamp with heq | heq | heq
  · obtain ⟨e, he, hwhole, htruncate⟩ := Double.exists_ofInt_truncate h
    refine integerRule_eq_ok_iff.2 ⟨e, by rw [heq]; exact congrArg some he, hwhole, ?_⟩
    rw [Double.toInt64, htruncate]
  · let e : Double := ⟨false, 1086 * Double.binade, by decide⟩
    have he : Bound.ofInt Word.greatest = .finite e := by decide +kernel
    refine integerRule_eq_ok_iff.2 ⟨e, by rw [heq]; exact congrArg some he, by decide +kernel, ?_⟩
    rw [heq, show e.toInt64 = Word.greatest by decide +kernel]
  · let e : Double := ⟨true, 1086 * Double.binade, by decide⟩
    have he : Bound.ofInt Word.least = .finite e := by decide +kernel
    refine integerRule_eq_ok_iff.2 ⟨e, by rw [heq]; exact congrArg some he, by decide +kernel, ?_⟩
    rw [heq, show e.toInt64 = Word.least by decide +kernel]

theorem stable_integer : integer.Stable := by
  have again {v w : Value} (h : integerRule v = .ok w) : integerRule w = .ok w := by
    obtain ⟨d, -, hwhole, rfl⟩ := integerRule_eq_ok_iff.1 h
    exact integerRule_toInt64 hwhole
  have forms {i : Int} {d : Double} {w : Value} (hi : Bound.ofInt i = .finite d)
      (h : integerRule (.integer i) = .ok w) :
      ∃ w', integerRule (.float d) = .ok w' ∧ w'.bound? = w.bound? := by
    obtain ⟨e, hbound, hwhole, rfl⟩ := integerRule_eq_ok_iff.1 h
    cases hi.symm.trans (Option.some.inj hbound)
    exact ⟨_, integerRule_eq_ok_iff.2 ⟨d, rfl, hwhole, rfl⟩, rfl⟩
  have words {d : Double} {i : Int} (h : integerRule (.float d) = .ok (.integer i)) :
      i.natAbs ≤ Word.greatestUnsigned := by
    obtain ⟨e, -, -, hi⟩ := integerRule_eq_ok_iff.1 h
    cases hi
    unfold Double.toInt64 Word.clamp Word.greatest Word.least Word.greatestUnsigned
    omega
  exact ⟨again, again, forms, words⟩

end Validator

/-! ## Predicates -/

namespace Predicate

variable {catalog : Catalog} {fields : Schema} {name : String} {f : Field} {v w : Value}

theorem coerceLiteral_stable (hf : f.Stable) (h : coerceLiteral f name v = .ok w) :
    coerceLiteral f name w = .ok w := by
  rw [Expression.coerceLiteral_eq] at h ⊢
  exact mapError_eq_ok_iff.2 (hf.acceptLiteral (mapError_eq_ok_iff.1 h))

theorem stable_of_filterableField (hstable : catalog.Stable fields)
    (h : filterableField fields name = .ok f) : f.Stable :=
  hstable .refl (lookup_of_filterableField h)

theorem settles_coerceEquality (hstable : catalog.Stable fields) (name : String) (v : Value) :
    Coercion.Settles (coerceEquality fields name) v := by
  refine .replace fun {w} h => ?_
  obtain ⟨f, hf, hw⟩ := bind_eq_ok_iff.1 h
  exact bind_eq_ok_iff.2 ⟨f, hf, coerceLiteral_stable (stable_of_filterableField hstable hf) hw⟩

theorem settles_coerceMembers (hstable : catalog.Stable fields) (name : String)
    (values : List Value) : Coercion.Settles (coerceMembers fields name) values := by
  unfold coerceMembers
  cases hf : filterableField fields name with
  | error e => exact nofun
  | ok f =>
    refine .all fun v _ => ?_
    rw [funext (Expression.coerceListLiteral_eq f name)]
    refine .replace fun h => ?_
    exact mapError_eq_ok_iff.2
      ((stable_of_filterableField hstable hf).acceptLiteral (mapError_eq_ok_iff.1 h))

/-- A bound that was coerced is accepted as it is. -/
theorem coerceBound_stable (hstable : catalog.Stable fields) {c : Comparison} {a b : Bound}
    (h : coerceBound fields name c a = .ok b) : coerceBound fields name c b = .ok b := by
  obtain ⟨f, hf, hrest⟩ := bind_eq_ok_iff.1 h
  refine bind_eq_ok_iff.2 ⟨f, hf, ?_⟩
  split at hrest
  · cases hrest
  · rename_i hnumeric
    rw [if_neg hnumeric]
    cases a with
    | finite d =>
      obtain ⟨w, hw, hb⟩ := bind_eq_ok_iff.1 hrest
      rw [Expression.coerceLiteral_eq] at hw
      have hbound : w.bound? = some b := by
        split at hb <;> cases hb
        assumption
      obtain ⟨e, w', rfl, hw', hbound'⟩ :=
        (stable_of_filterableField hstable hf).exists_bound (mapError_eq_ok_iff.1 hw) hbound
      refine bind_eq_ok_iff.2 ⟨w', ?_, ?_⟩
      · rw [Expression.coerceLiteral_eq]
        exact mapError_eq_ok_iff.2 hw'
      · rw [hbound']
    | _ => cases hrest

/-- The documents in a list field are among those that a projection may show. -/
theorem childFields_of_elementFields {sub : Schema} (h : elementFields f name = .ok sub) :
    f.childFields catalog = some sub := by
  unfold elementFields at h
  unfold Field.childFields
  split at h
  · rename_i element hkind
    split at h
    · rename_i sub' helement
      cases h
      simp only [hkind, helement]
    · cases h
  · cases h

end Predicate

section

variable [RegexEngine]

namespace Expression

open Predicate

variable {catalog : Catalog}

mutual

/-- **Validating an expression twice is validating it once.** -/
theorem settles_validate (e : Expression) (fields : Schema) (hstable : catalog.Stable fields) :
    Coercion.Settles (fun e => e.validate fields) e := by
  cases e with
  | and subs => exact .map (fun _ => rfl) (settles_validateAll subs fields hstable)
  | or subs => exact .map (fun _ => rfl) (settles_validateAll subs fields hstable)
  | equal name v => exact .map (fun _ => rfl) (settles_coerceEquality hstable name v)
  | notEqual name v => exact .map (fun _ => rfl) (settles_coerceEquality hstable name v)
  | among name vs => exact .map (fun _ => rfl) (settles_coerceMembers hstable name vs)
  | notAmong name vs => exact .map (fun _ => rfl) (settles_coerceMembers hstable name vs)
  | compare c name b =>
    have hbound : Coercion.Settles (fun b => .replace b (coerceBound fields name c b)) b :=
      .replace (coerceBound_stable hstable)
    exact .map (fun _ => rfl) hbound
  | exist name | notExist name | regex name pattern => exact .of_unchanged Coercion.check_value
  | anyElement name subs =>
    cases hsub : (filterableField fields name).bind fun f => elementFields f name with
    | error e =>
      intro hnone
      simp only [validate, hsub] at hnone
      cases hnone
    | ok sub =>
      obtain ⟨f, hf, helements⟩ := bind_eq_ok_iff.1 hsub
      have hbelow : catalog.Stable sub :=
        hstable.below (lookup_of_filterableField hf) (childFields_of_elementFields helements)
      refine .map (fun subs => ?_) ((settles_validateAll subs sub hbelow).within name)
      rw [validate, hsub]

/-- The same of expressions from left to right. -/
theorem settles_validateAll (es : List Expression) (fields : Schema)
    (hstable : catalog.Stable fields) :
    Coercion.Settles (fun es => validateAll es fields) es := by
  cases es with
  | nil => exact fun _ => rfl
  | cons e es =>
    refine .both List.cons (fun e es => ?_) (settles_validate e fields hstable)
      (settles_validateAll es fields hstable)
    rw [validateAll_eq_all, validateAll_eq_all, Coercion.all_cons]

end

end Expression

/-! ## Projections -/

/-- What a parameter of connections becomes, it takes as it is. -/
theorem ConnectionParam.takes_of_takes {p : ConnectionParam} {fields : Schema} {v w : Value}
    (h : p.Takes fields v w) : p.Takes fields w w := by
  cases h with
  | filter parsed valid => exact .filter parsed valid
  | order parsed valid => exact .order parsed valid
  | @count _ _ d counts number whole fits sign =>
    obtain ⟨e, he, hwhole, htruncate⟩ := Double.exists_ofInt_truncate whole
    have hcount : p.Takes fields (.integer d.truncate) (.integer e.truncate) :=
      .count counts (congrArg some he) hwhole (by rwa [htruncate]) (by rwa [htruncate])
    rwa [htruncate] at hcount

namespace Selection

variable {catalog : Catalog}

omit [RegexEngine] in
theorem lookup_of_visibleField {fields : Schema} {name : String} {f : Field}
    (h : visibleField fields name = .ok f) : Schema.lookup fields name = some f := by
  unfold visibleField at h
  split at h
  · cases h
  · split at h <;> cases h
    assumption

theorem takesParam_of_takesParam {f : Field} (hf : f.Stable) {name : String} {v w : Value}
    (h : f.TakesParam catalog name v w) : f.TakesParam catalog name w w := by
  cases h with
  | untyped declared => exact .untyped declared
  | typed declared accepted => exact .typed declared ((hf.params declared).validate accepted)
  | narrowing undeclared connection taken =>
    exact .narrowing undeclared connection (ConnectionParam.takes_of_takes taken)

theorem settles_coerceParam {f : Field} (hf : f.Stable) (name : String) (param : String × Value) :
    Coercion.Settles (coerceParam catalog f name) param := by
  rw [funext (coerceParam_eq name)]
  refine .replace fun {q} h => ?_
  obtain ⟨w, hw, rfl⟩ := map_eq_ok_iff.1 (mapError_eq_ok_iff.1 h)
  have hagain := takesParam_of_takesParam hf (paramVerdict_eq_ok_iff.1 hw)
  exact mapError_eq_ok_iff.2 (map_eq_ok_iff.2 ⟨w, paramVerdict_eq_ok_iff.2 hagain, rfl⟩)

theorem settles_coerceParams {f : Field} (hf : f.Stable) (name : String) (params : Params) :
    Coercion.Settles (coerceParams catalog f name) params := by
  cases hallowed : f.params.isEmpty && (f.connected catalog).isNone with
  | true =>
    -- Only the empty list is taken here.
    intro hnone
    unfold coerceParams at hnone ⊢
    rw [hallowed] at hnone ⊢
    cases params with
    | nil => rfl
    | cons param params => cases hnone
  | false =>
    have hall : coerceParams catalog f name = Coercion.all (coerceParam catalog f name) := by
      funext params
      unfold coerceParams
      rw [hallowed]
      cases params <;> rfl
    rw [hall]
    exact .all fun param _ => settles_coerceParam hf name param

mutual

/-- **Validating a selection twice is validating it once.** -/
theorem settles_validate (s : Selection) (fields : Schema) (hstable : catalog.Stable fields) :
    Coercion.Settles (fun s => s.validate catalog fields) s := by
  obtain ⟨name, shownAs, params, children⟩ := s
  by_cases hstar : name = wildcardName
  · refine .of_unchanged ?_
    rw [validate, if_pos hstar]
    cases shownAs <;> rfl
  · cases hvisible : visibleField fields name with
    | error e =>
      refine .of_unchanged ?_
      rw [validate_of_field hstar, hvisible]
      rfl
    | ok f =>
      have hf : Schema.lookup fields name = some f := lookup_of_visibleField hvisible
      refine .both (g := coerceParams catalog f name)
        (fun children params => mk name shownAs params children) (fun _ _ => ?_)
        (settles_coerceBelow children name fields hstable hf)
        (settles_coerceParams (hstable .refl hf) name params)
      rw [validate_of_field hstar, hvisible]

/-- The same of what is below a field. -/
theorem settles_coerceBelow {f : Field} (children : Option (List Selection)) (name : String)
    (fields : Schema) (hstable : catalog.Stable fields)
    (hf : Schema.lookup fields name = some f) :
    Coercion.Settles (coerceBelow catalog f name) children := by
  cases children with
  | none => exact fun _ => rfl
  | some below =>
    cases hsub : f.childFields catalog with
    | none =>
      intro hnone
      rw [coerceBelow, hsub] at hnone
      cases hnone
    | some sub =>
      refine .map (fun below => ?_)
        ((settles_validateAll below sub (hstable.below hf hsub)).within name)
      rw [coerceBelow, hsub]

/-- The same of selections from left to right. -/
theorem settles_validateAll (ss : List Selection) (fields : Schema)
    (hstable : catalog.Stable fields) :
    Coercion.Settles (fun ss => validateAll ss catalog fields) ss := by
  cases ss with
  | nil => exact fun _ => rfl
  | cons s ss =>
    refine .both List.cons (fun s ss => ?_) (settles_validate s fields hstable)
      (settles_validateAll ss fields hstable)
    rw [validateAll_eq_all, validateAll_eq_all, Coercion.all_cons]

end

end Selection

/-! ## Queries -/

namespace Query

variable {catalog : Catalog} {fields : Schema} {q : Query}

/-- A query is valid where each of its parts is. -/
theorem validate_of_success (h : (q.validate catalog fields).failure = none) :
    (q.projection.validate catalog fields).failure = none ∧
      (q.predicate.validate fields).failure = none ∧ q.order.validate fields = .ok () ∧
        (q.validate catalog fields).value =
          { q with
            projection := (q.projection.validate catalog fields).value
            predicate := (q.predicate.validate fields).value } := by
  simp only [validate, validateProjection, validatePredicate, validateOrder, Coercion.map,
    Coercion.andThen] at h ⊢
  cases hprojection : (q.projection.validate catalog fields).failure with
  | some e => simp [hprojection] at h
  | none =>
    cases hpredicate : (q.predicate.validate fields).failure with
    | some e => simp [hprojection, hpredicate] at h
    | none =>
      simp only [hprojection, hpredicate] at h ⊢
      cases horder : q.order.validate fields with
      | error e =>
        rw [horder] at h
        cases h
      | ok u => exact ⟨trivial, trivial, rfl, rfl⟩

theorem validate_eq_done {p : Projection} {r : Predicate}
    (hp : q.projection.validate catalog fields = .done p)
    (hr : q.predicate.validate fields = .done r) (ho : q.order.validate fields = .ok ()) :
    q.validate catalog fields = .done { q with projection := p, predicate := r } := by
  simp only [validate, validateProjection, validatePredicate, validateOrder, Coercion.map,
    Coercion.andThen, hp, hr, ho, Coercion.done, Coercion.check]

/-- **Validating a query twice is validating it once**, if the field types that it can come to are
stable: what was coerced is valid, and is not changed any more. -/
theorem validate_validate (hstable : catalog.Stable fields)
    (h : (q.validate catalog fields).failure = none) :
    (q.validate catalog fields).value.validate catalog fields =
      .done (q.validate catalog fields).value := by
  obtain ⟨hprojection, hpredicate, horder, hvalue⟩ := validate_of_success h
  rw [hvalue]
  exact validate_eq_done
    (Selection.settles_validateAll q.projection fields hstable hprojection)
    (Expression.settles_validateAll q.predicate fields hstable hpredicate) horder

end Query

end

namespace Bookshelf

def rowFields : Schema :=
  [("year", .mk { filterable := true, validator := Validator.integer } .scalar)]

def saleFields : Schema :=
  [("price", .mk { filterable := true, sortable := true, validator := Validator.integer } .scalar)]

def shopFields : Schema :=
  [("books", .mk { filterable := true } (.array (.mk { } (.object rowFields)))),
    ("name", .mk { filterable := true, sortable := true, validator := Validator.string } .scalar),
    ("sales", .mk { } (.connection "/sales" "shop" "sale"))]

def sales : Catalog := [("sale", saleFields)]

theorem of_lookup_shop {sub : Schema} (hsub : sub = shopFields ∨ sub = rowFields ∨ sub = saleFields)
    {name : String} {f : Field} (hf : Schema.lookup sub name = some f) :
    f.Stable ∧ ∀ below, f.childFields sales = some below →
      below = shopFields ∨ below = rowFields ∨ below = saleFields := by
  have hscalar {c : Capabilities} (ht : ∀ {t}, c.validator = some t → t.Stable)
      (hparams : c.params = []) :
      (Field.mk c .scalar).Stable ∧ ∀ below, (Field.mk c .scalar).childFields sales = some below →
        below = shopFields ∨ below = rowFields ∨ below = saleFields :=
    ⟨⟨ht, fun {name t} h => by cases (congrArg (Assoc.get? · name) hparams).symm.trans h⟩,
      fun _ h => by cases h⟩
  have hbare {kind : Kind} :
      (Field.mk { } kind).Stable ∧ (Field.mk { filterable := true } kind).Stable :=
    ⟨⟨fun h => (by cases h), fun h => (by cases h)⟩, ⟨fun h => (by cases h), fun h => (by cases h)⟩⟩
  rcases hsub with rfl | rfl | rfl
  · have hmem := Schema.mem_of_lookup (by simp [shopFields, Field.kind]) hf
    simp only [shopFields, List.map_cons, List.map_nil, List.mem_cons, List.not_mem_nil,
      or_false] at hmem
    rcases hmem with rfl | rfl | rfl
    · exact ⟨hbare.2, fun below h => .inr (.inl (Option.some.inj h).symm)⟩
    · exact hscalar (fun h => Option.some.inj h ▸ Validator.stable_string) rfl
    · exact ⟨hbare.1, fun below h => .inr (.inr (Option.some.inj h).symm)⟩
  · have hmem := Schema.mem_of_lookup (by simp [rowFields, Field.kind]) hf
    rw [List.mem_singleton.1 hmem]
    exact hscalar (fun h => Option.some.inj h ▸ Validator.stable_integer) rfl
  · have hmem := Schema.mem_of_lookup (by simp [saleFields, Field.kind]) hf
    rw [List.mem_singleton.1 hmem]
    exact hscalar (fun h => Option.some.inj h ▸ Validator.stable_integer) rfl

theorem stable_shop : sales.Stable shopFields := by
  intro sub name f hreach hf
  refine (of_lookup_shop ?_ hf).1
  clear hf
  induction hreach with
  | refl => exact .inl rfl
  | tail _ hstep ih =>
    obtain ⟨name, f, hf, hsub⟩ := hstep
    exact (of_lookup_shop ih hf).2 _ hsub

/-- The greatest float that a word holds. -/
def greatLimit : Double := ⟨false, 1084 * Double.binade + 9007199254740991, by decide⟩

/-- Shops with a book of this century, and more of their dear sales than anybody can count. -/
def dearSales : Query where
  projection :=
    [{ name := "sales"
       params := [("filter", .string "\x7bprice: \x7b$gt: 5\x7d\x7d"),
         ("limit", .float greatLimit)]
       children := some [{ name := "price" }] }]
  predicate :=
    [.anyElement "books" [.compare .greater "year" (Bound.ofInt 1999)],
      .equal "name" (.string "Ann")]
  order := [⟨"name", true⟩]

/-- The limit becomes the greatest integer that is the size of a float and of a word; validated
again, it stays. -/
theorem validate_dearSales :
    ((dearSales.validate sales shopFields).value.projection.arguments.map Value.compact =
        ["\"\x7bprice: \x7b$gt: 5\x7d\x7d\"", "9223372036854774784"]) ∧
      (dearSales.validate sales shopFields).value.validate sales shopFields =
        .done (dearSales.validate sales shopFields).value :=
  ⟨by decide +kernel, Query.validate_validate stable_shop
    (Option.isNone_iff_eq_none.1 (by decide +kernel))⟩

end Bookshelf

end DocQuery
