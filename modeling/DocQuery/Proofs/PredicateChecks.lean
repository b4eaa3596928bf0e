import DocQuery.Pattern.Engine
import DocQuery.Predicate.Checks
import DocQuery.Proofs.Checks
import DocQuery.Proofs.Success
import DocQuery.Schema.Stock

/-!
# Validation of predicates in order

* `Predicate.overwritten_unique` — a predicate is its literals and the rest.
* `Expression.follows_checks` — the validation of an expression goes through its checks.
* `Predicate.validate_in_order` — validation is a coercion from left to right.
-/

set_option autoImplicit false

namespace DocQuery

/-! ## Literals and the rest -/

namespace Expression

variable [RegexEngine]

mutual

theorem length_operands_blank (e : Expression) : e.blank.operands.length = e.operands.length := by
  cases e with
  | and subs | or subs | anyElement field subs =>
    simp only [blank, operands, length_operands_blankAll subs]
  | among field values | notAmong field values => simp only [blank, operands, List.length_map]
  | _ => rfl

theorem length_operands_blankAll (es : List Expression) :
    (operandsAll (blankAll es)).length = (operandsAll es).length := by
  cases es with
  | nil => rfl
  | cons e es =>
    simp only [blankAll, operandsAll, List.length_append, length_operands_blank e,
      length_operands_blankAll es]

end

mutual

/-- An expression is its literals and the rest. -/
theorem eq_of_blank_eq (a b : Expression) (h : a.blank = b.blank)
    (hoperands : a.operands = b.operands) : a = b := by
  cases a with
  | and as | or as | anyElement field as =>
    cases b <;> simp only [blank, reduceCtorEq, and.injEq, or.injEq, anyElement.injEq] at h
    all_goals simp only [h, eqAll_of_blank_eq as _ (by simp_all) hoperands]
  | among field vs | notAmong field vs =>
    cases b <;> simp only [blank, reduceCtorEq, among.injEq, notAmong.injEq] at h
    all_goals
      have hvalues := (List.map_inj_right fun _ _ => Operand.value.inj).1 hoperands
      rw [h.1, hvalues]
  | equal field v | notEqual field v | compare c field v =>
    cases b <;> simp_all [blank, operands]
  | exist field | notExist field | regex field pattern =>
    cases b <;> simp_all [blank]

/-- The same of a list of expressions. -/
theorem eqAll_of_blank_eq (as bs : List Expression) (h : blankAll as = blankAll bs)
    (hoperands : operandsAll as = operandsAll bs) : as = bs := by
  cases as with
  | nil =>
    cases bs with
    | nil => rfl
    | cons b bs => cases h
  | cons a as =>
    cases bs with
    | nil => cases h
    | cons b bs =>
      obtain ⟨hhead, htail⟩ := List.cons.inj h
      have hlength : a.operands.length = b.operands.length := by
        rw [← length_operands_blank a, ← length_operands_blank b, hhead]
      obtain ⟨hoperands, hrest⟩ := List.append_inj hoperands hlength
      rw [eq_of_blank_eq a b hhead hoperands, eqAll_of_blank_eq as bs htail hrest]

end

end Expression

/-- Overwriting the first literals of a predicate has one outcome. -/
theorem Predicate.overwritten_unique [RegexEngine] {p q q' : Predicate} {first : List Operand}
    (h : p.Overwritten first q) (h' : p.Overwritten first q') : q = q' :=
  Expression.eqAll_of_blank_eq q q' (h.blank.trans h'.blank.symm)
    (h.literals.trans h'.literals.symm)

/-! ## Tests of fields -/

namespace Expression

open Coercion Predicate

variable {β γ : Type} {literalsOf : β → List Operand} {blankOf : β → γ} {b : β}

/-- A test of a field goes through its checks if what follows the look-up does. -/
theorem follows_fieldChecks {fields : Schema} {name : String} {more : Field → List (Check Operand)}
    {k : Field → Coercion β} (h : ∀ f, Follows literalsOf blankOf (more f) b (k f)) :
    Follows literalsOf blankOf (fieldChecks fields name more) b
      (.given b (filterableField fields name) k) := by
  unfold fieldChecks filterableField
  cases Schema.lookup fields name with
  | none => exact .stop Check.failure_of_error
  | some f =>
    refine .cons rfl rfl ?_
    dsimp only
    cases f.filterable with
    | false => exact .stop Check.failure_of_error
    | true => exact .cons rfl rfl (h f)

theorem coerceLiteral_eq (f : Field) (name : String) (value : Value) :
    coerceLiteral f name value =
      (f.acceptLiteral value).mapError fun p => (Misfit.badLiteral p).onField name := by
  unfold coerceLiteral Field.acceptLiteral
  cases f.validator <;> rfl

theorem coerceListLiteral_eq (f : Field) (name : String) (value : Value) :
    coerceListLiteral f name value = .replace value
      ((f.acceptLiteral value).mapError fun p => (Misfit.badListLiteral value p).onField name) := by
  unfold coerceListLiteral Field.acceptLiteral
  cases f.validator <;> rfl

/-- The one literal of an equality. -/
theorem follows_equality (fields : Schema) (name : String) (value : Value) :
    Follows (fun v => [Operand.value v]) (fun _ => Value.null)
      (fieldChecks fields name fun f => [equalityCheck name value f]) value
      (coerceEquality fields name value) := by
  rw [coerceEquality, replace_bind]
  refine follows_fieldChecks fun f => .replace (fun _ => rfl) (fun _ _ => rfl) ?_
  rw [coerceLiteral_eq, mapError_mapError]
  rfl

/-- The literals of a membership test. -/
theorem follows_members (fields : Schema) (name : String) (values : List Value) :
    Follows (List.map Operand.value) (List.map fun _ => Value.null)
      (fieldChecks fields name fun f => values.map (memberCheck name f)) values
      (coerceMembers fields name values) := by
  have hoperands : List.map Operand.value = fun vs => vs.flatMap fun v => [Operand.value v] :=
    funext fun vs => List.map_eq_flatMap
  have hgiven : coerceMembers fields name values =
      .given values (filterableField fields name) fun f =>
        Coercion.all (coerceListLiteral f name) values := by
    unfold coerceMembers
    cases filterableField fields name <;> rfl
  rw [hoperands, hgiven]
  refine follows_fieldChecks fun f => ?_
  rw [List.map_eq_flatMap]
  refine .all fun v _ => ?_
  rw [coerceListLiteral_eq]
  refine .replace (fun _ => rfl) (fun _ _ => rfl) ?_
  rw [mapError_mapError]
  rfl

/-- The bound of a comparison. -/
theorem follows_bound (fields : Schema) (name : String) (c : Comparison) (bound : Bound) :
    Follows (fun b => [Operand.bound b]) (fun _ => Bound.nan)
      (fieldChecks fields name fun f =>
        [.demand name (f.validator.isNone || f.isNumeric) (Misfit.notNumeric c).text,
          boundCheck name bound f])
      bound (.replace bound (coerceBound fields name c bound)) := by
  rw [coerceBound, replace_bind]
  refine follows_fieldChecks fun f => ?_
  have hnumeric : (f.validator.isSome && !f.isNumeric) =
      !(f.validator.isNone || f.isNumeric) := by
    cases f.validator <;> rfl
  simp only [hnumeric]
  cases f.validator.isNone || f.isNumeric with
  | false => exact .stop Check.failure_of_error
  | true =>
    refine .cons rfl rfl (.replace (fun _ => rfl) (fun _ _ => rfl) ?_)
    unfold acceptBound
    cases Value.ofBound? bound with
    | none => rfl
    | some value =>
      simp only [Bool.not_true, Bool.false_eq_true, if_false, coerceLiteral_eq]
      cases f.acceptLiteral value with
      | error problem => rfl
      | ok coerced =>
        simp only [mapError_ok, bind, Except.bind]
        cases coerced.bound? <;> rfl

/-- That a field may be tested. -/
theorem follows_field {β : Type} {literalsOf : β → List Operand} {blankOf : β → γ} {b : β}
    (hnone : literalsOf b = []) (fields : Schema) (name : String) :
    Follows literalsOf blankOf (fieldChecks fields name fun _ => []) b
      (.check b (checkField fields name)) := by
  rw [checkField, check_map]
  exact follows_fieldChecks fun f => .of_no_literals hnone rfl nofun rfl

variable [RegexEngine]

/-- The source of a pattern. -/
theorem follows_pattern {β : Type} {literalsOf : β → List Operand} {blankOf : β → γ} {b : β}
    (hnone : literalsOf b = []) (fields : Schema) (name : String) (pattern : Pattern) :
    Follows literalsOf blankOf (fieldChecks fields name fun f => [patternCheck name pattern f]) b
      (.check b (checkPattern fields name pattern)) := by
  rw [checkPattern, check_bind]
  refine follows_fieldChecks fun f => ?_
  rw [coerceLiteral_eq, patternCheck]
  cases f.acceptLiteral (.string pattern.source) with
  | error problem => exact .stop Check.failure_of_error
  | ok value => exact .cons rfl rfl (.of_no_literals hnone rfl nofun rfl)

omit [RegexEngine] in
/-- The fields of the documents in a list field. -/
theorem elementFields_eq (f : Field) (name : String) :
    elementFields f name =
      if f.isList then
        f.elementFields?.elim (.error (Misfit.elementsNotDocuments.onField name)) .ok
      else .error (Misfit.notList.onField name) := by
  unfold elementFields Field.isList Field.elementFields?
  obtain ⟨-, kind⟩ := f
  cases kind with
  | array element =>
    obtain ⟨-, kind⟩ := element
    cases kind <;> rfl
  | _ => rfl

/-- A test of the elements of a list, if the tests of the elements go through their checks. -/
theorem follows_elements {fields : Schema} {name : String} {es : List Expression}
    (h : ∀ sub, Follows operandsAll blankAll (checksAll es sub) es (validateAll es sub)) :
    Follows operands blank ((anyElement name es).checks fields) (anyElement name es)
      ((anyElement name es).validate fields) := by
  have hgiven : (anyElement name es).validate fields =
      .given (anyElement name es)
        ((filterableField fields name).bind fun f => elementFields f name) fun sub =>
          ((validateAll es sub).within name).map (anyElement name) := by
    rw [validate]
    cases (filterableField fields name).bind fun f => elementFields f name <;> rfl
  rw [hgiven, given_bind, checks]
  refine follows_fieldChecks fun f => ?_
  rw [elementFields_eq]
  cases f.isList with
  | false => exact .stop Check.failure_of_error
  | true =>
    refine .cons rfl rfl ?_
    cases f.elementFields? with
    | none => exact .stop Check.failure_of_error
    | some sub =>
      refine .cons rfl rfl (.map ((h sub).within name) (fun _ => rfl) fun x y hxy => ?_)
      rw [blank, blank, hxy]

mutual

/-- **The validation of an expression goes through its checks.** -/
theorem follows_checks (e : Expression) (fields : Schema) :
    Follows operands blank (e.checks fields) e (e.validate fields) := by
  cases e with
  | and subs | or subs =>
    refine .map (follows_checksAll subs fields) (fun _ => rfl) fun x y hxy => ?_
    rw [blank, blank, hxy]
  | equal name value | notEqual name value =>
    exact .map (follows_equality fields name value) (fun _ => rfl) fun _ _ _ => rfl
  | among name values | notAmong name values =>
    refine .map (follows_members fields name values) (fun _ => rfl) fun x y hxy => ?_
    rw [blank, blank, hxy]
  | exist name | notExist name => exact follows_field rfl fields name
  | compare c name bound =>
    exact .map (follows_bound fields name c bound) (fun _ => rfl) fun _ _ _ => rfl
  | regex name pattern => exact follows_pattern rfl fields name pattern
  | anyElement name subs => exact follows_elements fun sub => follows_checksAll subs sub

/-- The same of expressions from left to right. -/
theorem follows_checksAll (es : List Expression) (fields : Schema) :
    Follows operandsAll blankAll (checksAll es fields) es (validateAll es fields) := by
  cases es with
  | nil => exact .of_no_literals rfl rfl nofun rfl
  | cons e es =>
    have hcons : validateAll (e :: es) fields =
        Coercion.both List.cons (e.validate fields) es (validateAll es fields) := by
      rw [validateAll_eq_all, validateAll_eq_all, Coercion.all_cons]
    rw [hcons, checksAll]
    refine .both (follows_checks e fields) (follows_checksAll es fields) (fun _ _ => rfl)
      fun x x' y y' hx hy => ?_
    rw [blankAll, blankAll, hx, hy]

end

end Expression

/-- **Validation is a coercion from left to right.** It succeeds where every check of the predicate
passes; then every literal is what its check makes of it. Otherwise the first failing check is the
failure, and the literals checked before it are replaced. Nothing else ever changes. -/
theorem Predicate.validate_in_order [RegexEngine] (p : Predicate) (fields : Schema) :
    ((p.validate fields).failure = none ↔ ∀ c ∈ p.checks fields, c.passes = true) ∧
      ((∀ c ∈ p.checks fields, c.passes = true) →
        p.Overwritten ((p.checks fields).filterMap Check.coerced) (p.validate fields).value ∧
          (p.validate fields).value.operands = (p.checks fields).filterMap Check.coerced) ∧
      ∀ before c after, p.checks fields = before ++ c :: after →
        (∀ b ∈ before, b.passes = true) → c.passes = false →
          (p.validate fields).failure = c.failure ∧
            p.Overwritten (before.filterMap Check.coerced) (p.validate fields).value := by
  have h := Expression.follows_checksAll p fields
  refine ⟨h.failure_eq_none_iff, h.of_passes, fun before c after hchecks hbefore hc => ?_⟩
  rw [show Expression.checksAll p fields = before ++ c :: after from hchecks] at h
  exact h.of_first_failing hbefore hc

namespace Bookshelf

/-- Takes Booleans, and turns them into words. -/
def yesOrNo : Validator :=
  .ofRule fun
    | .bool b => .ok (.string (if b then "yes" else "no"))
    | _ => .error "not a Boolean"

def shelfFields : Schema :=
  [("books", .mk { filterable := true }
    (.array (.mk { } (.object [("lent", .mk { filterable := true, validator := yesOrNo } .scalar)]))))]

/-- Shelves with a book of which `lent` is one of three values, the second being none. -/
def lent : Predicate := [.anyElement "books" [.among "lent" [.bool true, .null, .bool false]]]

/-- The second literal is turned away under the path of its field, and the first one replaced. -/
theorem lent_stops :
    (lent.validate shelfFields).failure =
        some (.invalid "books.lent: invalid query expression `null': not a Boolean") ∧
      lent.Overwritten [.value (.string "yes")] (lent.validate shelfFields).value := by
  obtain ⟨hfailure, hvalue⟩ := (Predicate.validate_in_order lent shelfFields).2.2
    ((lent.checks shelfFields).take 7)
    ⟨["books"], "lent", .error "invalid query expression `null': not a Boolean"⟩
    ((lent.checks shelfFields).drop 8) rfl (by decide) rfl
  exact ⟨hfailure.trans (by decide), hvalue⟩

end Bookshelf

end DocQuery
