import DocQuery.Predicate.DocumentLevels
import DocQuery.Proofs.DocumentText

/-!
# What stands under a field

An object that a document binds to a field holds operators, and the field is that of each test they
come to. The reader passes the field down to them; it takes `$and` and `$or` there as well, and
reads what they join as if no field stood above it.

* `PredicateDocument.level_of_ofEntries` — every level of a document is one of its predicate.
* `PredicateDocument.field?_of_ofOperation` — an operator tests its field.
* `PredicateDocument.fields_of_bound` — the fields of what stands under a field.
* `PredicateDocument.field_of_bound_iff` — it keeps the field just if it holds no junction.
-/

set_option autoImplicit false

namespace DocQuery.PredicateDocument

open Operator Expression Predicate

/-! ## Levels -/

variable [RegexEngine]

/-- What stands before and behind some entries is read apart from them. -/
theorem ofEntries_append_eq_ok {parent : Option String} {before after : List (String × Value)}
    {es : List Expression} (h : ofEntries parent (before ++ after) = .ok es) :
    ∃ xs ys, ofEntries parent before = .ok xs ∧ ofEntries parent after = .ok ys ∧
      es = xs ++ ys := by
  induction before generalizing es with
  | nil => exact ⟨[], es, rfl, h, rfl⟩
  | cons e before ih =>
    obtain ⟨here, others, hhere, hothers, rfl⟩ := ofEntries_cons_eq_ok h
    obtain ⟨xs, ys, hxs, hys, rfl⟩ := ih hothers
    refine ⟨here ++ xs, ys, ?_, hys, (List.append_assoc _ _ _).symm⟩
    rw [ofEntries, hhere, hxs]
    rfl

/-- Each element of a junction is one of the expressions that are joined. -/
theorem ofElement_mem_of_ofElements {label : String} {items : List Value} {subs : List Expression}
    (h : ofElements label items = .ok subs) {sub : List (String × Value)}
    (hsub : .object sub ∈ items) : ∃ es, ofEntries none sub = .ok es ∧ ofElement es ∈ subs := by
  induction items generalizing subs with
  | nil => cases hsub
  | cons item items ih =>
    obtain ⟨first, es, others, rfl, hes, hothers, rfl⟩ := ofElements_cons_eq_ok h
    rcases List.mem_cons.1 hsub with heq | hsub
    · obtain rfl := Value.object.inj heq
      exact ⟨es, hes, List.mem_cons_self⟩
    · obtain ⟨es', hes', hmem⟩ := ih hothers hsub
      exact ⟨es', hes', List.mem_cons_of_mem _ hmem⟩

/-- A junction among the entries is one among the expressions. -/
theorem junction_mem_of_ofEntries {parent : Option String} {entries : List (String × Value)}
    {es : List Expression} (h : ofEntries parent entries = .ok es) {key : String}
    {items : List Value} (hmem : (key, .array items) ∈ entries) (hjunction : IsJunction key) :
    ∃ subs, ofElements key items = .ok subs ∧ (.and subs ∈ es ∨ .or subs ∈ es) := by
  obtain ⟨before, after, rfl⟩ := List.append_of_mem hmem
  obtain ⟨xs, ys, -, hys, rfl⟩ := ofEntries_append_eq_ok h
  obtain ⟨here, others, hhere, -, rfl⟩ := ofEntries_cons_eq_ok hys
  obtain ⟨_, subs, ⟨⟩, -, hsubs, rfl⟩ := exists_of_junction hjunction hhere
  refine ⟨subs, hsubs, ?_⟩
  by_cases hand : key = andName
  · simp [hand]
  · simp [hand]

/-- The key of an object that holds something is a field. -/
theorem isFieldKey_of_ofEntry {key : String} {e : String × Value} {sub : List (String × Value)}
    {here : List Expression} (h : ofEntry none key (.object (e :: sub)) = .ok here) :
    IsFieldKey key := by
  unfold ofEntry at h
  by_cases hjunction : key = andName ∨ key = orName
  · simp only [if_pos hjunction] at h
    cases h
  · cases hop : DocumentOperator.ofName? key with
    | none => exact ⟨hjunction, hop⟩
    | some op =>
      simp only [if_neg hjunction, hop, ofPlain] at h
      cases h

/-- What stands under a field is read in its place. -/
theorem ofEntries_bound {field : String} {sub : List (String × Value)} (hsub : sub ≠ [])
    {here : List Expression} (h : ofEntry none field (.object sub) = .ok here) :
    ofEntries (some field) sub = .ok here := by
  cases sub with
  | nil => exact absurd rfl hsub
  | cons e sub => rwa [← ofEntry_object (isFieldKey_of_ofEntry h)]

/-- What junctions join at a level is joined in its expressions. -/
theorem joined_of_joins {level : List (String × Value)} {es : List Expression}
    (h : ofEntries none level = .ok es) {items : List Value} (hjoins : Joins level items) :
    ∃ label subs, ofElements label items = .ok subs ∧ (.and subs ∈ es ∨ .or subs ∈ es) := by
  cases hjoins with
  | own hmem hjunction => exact ⟨_, junction_mem_of_ofEntries h hmem hjunction⟩
  | bound houter hmem hjunction =>
    obtain ⟨before, after, rfl⟩ := List.append_of_mem houter
    obtain ⟨xs, ys, -, hys, rfl⟩ := ofEntries_append_eq_ok h
    obtain ⟨here, others, hhere, -, rfl⟩ := ofEntries_cons_eq_ok hys
    obtain ⟨subs, hsubs, hin⟩ := junction_mem_of_ofEntries
      (ofEntries_bound (List.ne_nil_of_mem hmem) hhere) hmem hjunction
    refine ⟨_, subs, hsubs, hin.imp ?_ ?_⟩
    · exact fun hin => List.mem_append_right _ (List.mem_append_left _ hin)
    · exact fun hin => List.mem_append_right _ (List.mem_append_left _ hin)

/-- **Every level of a document is read as a level of its predicate.** -/
theorem level_of_ofEntries {entries level : List (String × Value)} (hlevel : Level entries level)
    {p : List Expression} (h : ofEntries none entries = .ok p) :
    ∃ es, ofEntries none level = .ok es ∧ Predicate.Level p es := by
  induction hlevel generalizing p with
  | top => exact ⟨p, h, .top⟩
  | joined hjoins helement _ ih =>
    obtain ⟨label, subs, hsubs, hin⟩ := joined_of_joins h hjoins
    obtain ⟨inner, hinner, hmem⟩ := ofElement_mem_of_ofElements hsubs helement
    obtain ⟨es, hes, hlevel⟩ := ih hinner
    exact ⟨es, hes, .joined hin hmem hlevel⟩

/-! ## Fields -/

/-- An operator tests the field above it. -/
theorem field?_of_ofOperation {field : String} {op : DocumentOperator} {operand : Value}
    {x : Expression} (h : ofOperation field op operand = .ok x) : x.field? = some field := by
  cases op with
  | regex =>
    obtain ⟨source, rfl⟩ : ∃ source, operand = .string source := by
      cases operand with
      | string source => exact ⟨source, rfl⟩
      | _ => cases h
    simp only [ofOperation] at h
    split at h
    · cases h
      rfl
    · cases h
  | exist =>
    cases operand with
    | bool b =>
      cases b with
      | true | false =>
        cases h
        rfl
    | _ => cases h
  | notEqual =>
    cases h
    rfl
  | among | notAmong =>
    obtain ⟨values, -, rfl⟩ := map_eq_ok_iff.1 h
    rfl
  | compare c =>
    simp only [ofOperation] at h
    split at h
    · cases h
      rfl
    · cases h

/-- The field of what an entry under `field` comes to; a junction has none. -/
def fieldUnder (field : String) (e : String × Value) : Option String :=
  if IsJunction e.1 then none else some field

/-- **Each entry under a field comes to one expression**, of that field unless it is a junction. -/
theorem fields_of_bound {field : String} {sub : List (String × Value)} {here : List Expression}
    (h : ofEntries (some field) sub = .ok here) :
    here.map field? = sub.map (fieldUnder field) := by
  induction sub generalizing here with
  | nil =>
    cases h
    rfl
  | cons e sub ih =>
    obtain ⟨first, others, hfirst, hothers, rfl⟩ := ofEntries_cons_eq_ok h
    have hhead : first.map field? = [fieldUnder field e] := by
      by_cases hjunction : IsJunction e.1
      · obtain ⟨items, subs, -, -, -, rfl⟩ := exists_of_junction hjunction hfirst
        rw [fieldUnder, if_pos hjunction, List.map_singleton]
        split <;> rfl
      · obtain ⟨op, x, -, hx, rfl⟩ := exists_operation_of_ofEntry hjunction hfirst
        rw [fieldUnder, if_neg hjunction, List.map_singleton, field?_of_ofOperation hx]
    rw [List.map_append, hhead, ih hothers, List.map_cons, List.singleton_append]

omit [RegexEngine] in
theorem fieldUnder_eq_iff {field : String} {e : String × Value} :
    fieldUnder field e = some field ↔ ¬IsJunction e.1 := by
  by_cases hjunction : IsJunction e.1
  · simp [fieldUnder, hjunction]
  · simp [fieldUnder, hjunction]

/-- **An object that is bound to a field keeps the field just if it holds no junction.** At every
level of a document, the expressions of such an object stand between those of the entries before
and behind it, on a level of the predicate; there is one for each entry of the object, and its
field is the one above it, but that a junction has none. -/
theorem field_of_bound_iff {q : Value} {p : Predicate} (h : Predicate.ofValue q = .ok p) :
    ∃ entries, q = .object entries ∧
      ∀ before field sub after, Level entries (before ++ (field, .object sub) :: after) →
        sub ≠ [] →
        ∃ xs here ys, ofEntries none before = .ok xs ∧
          ofEntry none field (.object sub) = .ok here ∧ ofEntries none after = .ok ys ∧
          Predicate.Level p (xs ++ here ++ ys) ∧ here.map field? = sub.map (fieldUnder field) ∧
          ((∀ x ∈ here, x.field? = some field) ↔ ∀ e ∈ sub, ¬IsJunction e.1) := by
  have hread : ofDocument? q = .ok p := mapError_eq_ok_iff.1 h
  cases q with
  | object entries =>
    refine ⟨entries, rfl, fun before field sub after hlevel hsub => ?_⟩
    obtain ⟨es, hes, hinside⟩ := level_of_ofEntries hlevel hread
    obtain ⟨xs, others, hxs, hothers, rfl⟩ := ofEntries_append_eq_ok hes
    obtain ⟨here, ys, hhere, hys, rfl⟩ := ofEntries_cons_eq_ok hothers
    have hfields := fields_of_bound (ofEntries_bound hsub hhere)
    refine ⟨xs, here, ys, hxs, hhere, hys, ?_, hfields, ?_⟩
    · rwa [List.append_assoc]
    · have hall : (∀ o ∈ here.map field?, o = some field) ↔
          ∀ o ∈ sub.map (fieldUnder field), o = some field := by rw [hfields]
      simpa only [List.forall_mem_map, fieldUnder_eq_iff] using hall
  | _ => cases hread

end DocQuery.PredicateDocument

namespace DocQuery.Bookshelf

open Predicate PredicateDocument

/-- The tests of the year keep the year, inside of the choice. -/
theorem newTales_keep_year :
    ∃ here, ofEntry none "year" (.object
        [("$exists", .bool true), ("$gte", .number (.integer 2000))]) = .ok here ∧
      here.length = 2 ∧ ∀ x ∈ here, x.field? = some "year" := by
  obtain ⟨_, ⟨⟩, hbound⟩ := PredicateDocument.field_of_bound_iff (q := .object newTales) rfl
  obtain ⟨xs, here, ys, -, hhere, -, -, hfields, hkept⟩ := hbound [] "year"
    [("$exists", .bool true), ("$gte", .number (.integer 2000))] []
    (.joined (.own List.mem_cons_self (.inr rfl)) (List.mem_cons_of_mem _ List.mem_cons_self) .top)
    (List.cons_ne_nil _ _)
  refine ⟨here, hhere, ?_, hkept.2 (by decide)⟩
  simpa using congrArg List.length hfields

/-- Books whose author was born in 1900 or is known. -/
def authorEither : List (String × Value) :=
  [("author", .object [("$or", .array
    [.object [("born", .number (.integer 1900))], .object [("known", .bool true)]])])]

/-- What is found are books that were born in 1900 or are known: the author is lost. -/
theorem authorEither_loses_author :
    ¬∀ (entries : List (String × Value)) (p : Predicate),
      Predicate.ofValue (.object entries) = .ok p →
        ∀ before field sub after, entries = before ++ (field, .object sub) :: after → sub ≠ [] →
          ∀ xs here ys, ofEntries none before = .ok xs → ofEntries none after = .ok ys →
            p = xs ++ here ++ ys → ∀ x ∈ here, x.field? = some field := by
  intro h
  have hkept := h authorEither _ rfl [] _ _ [] rfl (List.cons_ne_nil _ _) [] _ [] rfl rfl
    (List.append_nil _).symm _ List.mem_cons_self
  cases hkept

end DocQuery.Bookshelf
