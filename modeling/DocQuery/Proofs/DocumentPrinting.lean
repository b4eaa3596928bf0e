import DocQuery.Proofs.FieldBinding
import DocQuery.Proofs.Floats

/-!
# Predicates of documents, written and read

The reader of documents builds trees that the reader of texts can tell from how they are written, as
long as no element of a junction is empty and no field is named like the operator on elements. In
the text the integers become floats, so what is read back is the predicate in floating point form.

* `PredicateDocument.recoverable_operation` — an operator on a field can be told from its text.
* `PredicateDocument.recoverable_entries` — the expressions of a document, by recursion on it.
* `PredicateDocument.parse_text_of_document` — the predicate of a document keeps its meaning.
-/

set_option autoImplicit false

namespace DocQuery.PredicateDocument

open Operator Expression Predicate

/-! ## Printable documents -/

section Printable

variable {entries sub level : List (String × Value)} {e : String × Value} {items : List Value}

theorem Joins.of_mem (he : e ∈ entries) (h : Joins [e] items) : Joins entries items := by
  cases h with
  | own hmem hjunction => exact .own (List.mem_singleton.1 hmem ▸ he) hjunction
  | bound houter hmem hjunction => exact .bound (List.mem_singleton.1 houter ▸ he) hmem hjunction

theorem Printable.of_mem (h : Printable entries) (he : e ∈ entries) : Printable [e] where
  elements hlevel hjoins := by
    cases hlevel with
    | top => exact h.elements .top (hjoins.of_mem he)
    | joined houter helement hinside =>
      exact h.elements (.joined (houter.of_mem he) helement hinside) hjoins
  fields hlevel := by
    cases hlevel with
    | top => exact List.forall_mem_singleton.2 (h.fields .top e he)
    | joined houter helement hinside =>
      exact h.fields (.joined (houter.of_mem he) helement hinside)

/-- The elements of a junction hold something, and are printable themselves. -/
def ElementsPrintable (items : List Value) : Prop :=
  .object [] ∉ items ∧ ∀ sub, .object sub ∈ items → Printable sub

theorem Printable.joined (h : Printable entries) (hjoins : Joins entries items) :
    ElementsPrintable items := by
  refine ⟨h.elements .top hjoins, fun sub hsub => ⟨?_, ?_⟩⟩
  · exact fun hlevel hinner => h.elements (.joined hjoins hsub hlevel) hinner
  · exact fun hlevel => h.fields (.joined hjoins hsub hlevel)

theorem printable_iff :
    Printable entries ↔ (∀ e ∈ entries, e.1 ≠ anyElement.name) ∧
      ∀ items, Joins entries items → ElementsPrintable items := by
  constructor
  · exact fun h => ⟨h.fields .top, fun _ hjoins => h.joined hjoins⟩
  · rintro ⟨hfields, hjoined⟩
    constructor
    · intro level items hlevel hjoins
      cases hlevel with
      | top => exact (hjoined items hjoins).1
      | joined houter helement hinside =>
        exact ((hjoined _ houter).2 _ helement).elements hinside hjoins
    · intro level hlevel
      cases hlevel with
      | top => exact hfields
      | joined houter helement hinside => exact ((hjoined _ houter).2 _ helement).fields hinside

/-- What an entry under `parent` has to be for its expressions to be told from their texts. -/
def EntryPrintable (parent : Option String) (e : String × Value) : Prop :=
  match parent with
  | none => Printable [e]
  | some field => field ∉ reserved ∧
      ∀ items, e.2 = .array items → IsJunction e.1 → ElementsPrintable items

theorem EntryPrintable.joined {parent : Option String} {key : String}
    (h : EntryPrintable parent (key, .array items)) (hjunction : IsJunction key) :
    ElementsPrintable items := by
  cases parent with
  | none => exact Printable.joined h (.own (List.mem_singleton_self _) hjunction)
  | some field => exact h.2 items rfl hjunction

end Printable

/-- A field is not reserved, unless it has the name of the operator on elements. -/
theorem not_mem_reserved_of_isFieldKey {key : String} (hkey : IsFieldKey key)
    (hne : key ≠ anyElement.name) : key ∉ reserved := by
  obtain ⟨hand, hor⟩ := not_or.1 hkey.1
  refine not_mem_reserved_iff.2 ⟨hand, hor, Option.eq_none_iff_forall_ne_some.2 fun op hop => ?_⟩
  obtain rfl := name_of_ofName? hop
  have hknown : ∀ o : DocumentOperator, o.name = op.name → False := by
    intro o ho
    have hnone := hkey.2
    rw [← ho, DocumentOperator.ofName?_name] at hnone
    cases hnone
  cases op with
  | anyElement => exact hne rfl
  | regex => exact hknown .regex rfl
  | exist => exact hknown .exist rfl
  | notEqual => exact hknown .notEqual rfl
  | among => exact hknown .among rfl
  | notAmong => exact hknown .notAmong rfl
  | compare c => exact hknown (.compare c) rfl

/-! ## Single expressions -/

theorem storable_candidates {field : String} {op : DocumentOperator} {operand : Value}
    (hoperand : operand.Storable) {values : List Value}
    (h : candidates field op operand = .ok values) : ∀ v ∈ values, v.Storable := by
  cases operand with
  | object entries => cases h
  | array items =>
    cases h
    exact fun v hv => hoperand.of_mem hv
  | _ =>
    cases h
    exact List.forall_mem_singleton.2 hoperand

variable [RegexEngine]

/-- **An operator on a field can be told from its text.** -/
theorem recoverable_operation {field : String} (hfield : field ∉ reserved)
    {op : DocumentOperator} {operand : Value} (hoperand : operand.Storable) {x : Expression}
    (h : ofOperation field op operand = .ok x) : x.Every Recoverable := by
  cases op with
  | regex =>
    cases operand with
    | string source =>
      unfold ofOperation at h
      cases hpattern : Pattern.ofSource source with
      | ok pattern =>
        simp only [hpattern, Except.ok.injEq] at h
        rw [← h]
        exact .of_no_literals hfield trivial rfl
      | error problem => simp [hpattern] at h
    | _ => cases h
  | exist =>
    cases operand with
    | bool b =>
      cases b with
      | true | false =>
        cases h
        exact .of_no_literals hfield trivial rfl
    | _ => cases h
  | notEqual =>
    cases h
    exact ⟨hfield, trivial, List.forall_mem_singleton.2 hoperand⟩
  | among | notAmong =>
    obtain ⟨values, hvalues, rfl⟩ := map_eq_ok_iff.1 h
    exact ⟨hfield, trivial, storable_candidates hoperand hvalues⟩
  | compare c =>
    cases operand with
    | number n =>
      obtain ⟨d, hbound⟩ := Number.WordSized.exists_bound hoperand.wordSized
      cases h
      exact .of_no_literals ⟨hfield, congrArg Bound.isFinite hbound⟩ trivial rfl
    | _ => cases h

/-- Without a field above it, an entry that holds no further entries is an equality. -/
theorem equality_of_ofPlain {key : String} {value : Value} {here : List Expression}
    (h : ofPlain none key value = .ok here) :
    DocumentOperator.ofName? key = none ∧ here = [.equal key value] := by
  unfold ofPlain at h
  cases hop : DocumentOperator.ofName? key with
  | some op =>
    rw [hop] at h
    cases h
  | none =>
    rw [hop] at h
    cases h
    exact ⟨rfl, rfl⟩

/-- So can an entry that holds no further entries to read. -/
theorem recoverable_plain {parent : Option String} {key : String} {value : Value}
    (hkey : ¬IsJunction key)
    (hvalue : parent = none → ∀ e entries, value ≠ .object (e :: entries))
    (hprintable : EntryPrintable parent (key, value)) (hstorable : value.Storable)
    {here : List Expression} (h : ofEntry parent key value = .ok here) :
    everyOf Recoverable here := by
  cases parent with
  | some field =>
    obtain ⟨op, x, -, hx, rfl⟩ := exists_operation_of_ofEntry hkey h
    exact ⟨recoverable_operation hprintable.1 hstorable hx, trivial⟩
  | none =>
    rw [ofEntry_eq_ofPlain hkey hvalue] at h
    obtain ⟨hop, rfl⟩ := equality_of_ofPlain h
    have hne := hprintable.fields .top (key, value) (List.mem_singleton_self _)
    have hplain : value.opensOperation = false := by
      cases value with
      | object entries =>
        cases entries with
        | nil => rfl
        | cons e entries => exact absurd rfl (hvalue rfl e entries)
      | _ => rfl
    exact ⟨⟨not_mem_reserved_of_isFieldKey ⟨hkey, hop⟩ hne, hplain,
      List.forall_mem_singleton.2 hstorable⟩, trivial⟩

/-! ## Junctions -/

/-- Every entry comes to an expression at least. -/
theorem ne_nil_of_ofEntry {parent : Option String} {key : String} {value : Value}
    {here : List Expression} (h : ofEntry parent key value = .ok here) : here ≠ [] := by
  by_cases hjunction : IsJunction key
  · obtain ⟨items, subs, -, -, -, rfl⟩ := exists_of_junction hjunction h
    exact List.cons_ne_nil _ _
  · cases parent with
    | some field =>
      obtain ⟨op, x, -, -, rfl⟩ := exists_operation_of_ofEntry hjunction h
      exact List.cons_ne_nil _ _
    | none =>
      by_cases hobject : ∃ e entries, value = .object (e :: entries)
      · obtain ⟨e, entries, rfl⟩ := hobject
        have hfields := fields_of_bound (ofEntries_bound (List.cons_ne_nil e entries) h)
        rintro rfl
        cases hfields
      · have hvalue : ∀ e entries, value ≠ .object (e :: entries) :=
          fun e entries heq => hobject ⟨e, entries, heq⟩
        rw [ofEntry_eq_ofPlain hjunction fun _ => hvalue] at h
        obtain ⟨-, rfl⟩ := equality_of_ofPlain h
        exact List.cons_ne_nil _ _

/-- What stands for an element that holds something has as many expressions as a junction takes. -/
theorem recoverable_ofElement {sub : List (String × Value)} (hsub : sub ≠ [])
    {es : List Expression} (hread : ofEntries none sub = .ok es) (hes : everyOf Recoverable es) :
    (ofElement es).Every Recoverable := by
  match es with
  | [] =>
    obtain ⟨e, entries, rfl⟩ := List.exists_cons_of_ne_nil hsub
    obtain ⟨here, others, hhere, -, hnil⟩ := ofEntries_cons_eq_ok hread
    exact absurd (List.append_eq_nil_iff.1 hnil.symm).1 (ne_nil_of_ofEntry hhere)
  | [e] => exact hes.1
  | _ :: _ :: es => exact ⟨.of_no_literals (Nat.le_add_left 2 es.length) trivial rfl, hes⟩

theorem length_of_ofElements {label : String} {items : List Value} {subs : List Expression}
    (h : ofElements label items = .ok subs) : subs.length = items.length := by
  induction items generalizing subs with
  | nil =>
    cases h
    rfl
  | cons item items ih =>
    obtain ⟨sub, es, others, -, -, hothers, rfl⟩ := ofElements_cons_eq_ok h
    rw [List.length_cons, List.length_cons, ih hothers]

/-- A junction can be told from its text if what it joins can. -/
theorem recoverable_junction {label : String} {items : List Value} (hlength : 2 ≤ items.length)
    {subs : List Expression} (hsubs : ofElements label items = .ok subs)
    (hall : everyOf Recoverable subs) :
    everyOf Recoverable [if label = andName then Expression.and subs else .or subs] := by
  rw [← length_of_ofElements hsubs] at hlength
  split
  · exact ⟨⟨.of_no_literals hlength trivial rfl, hall⟩, trivial⟩
  · exact ⟨⟨.of_no_literals hlength trivial rfl, hall⟩, trivial⟩

/-! ## Whole documents -/

theorem everyOf_append {P : Expression → Prop} {xs ys : List Expression} (hxs : everyOf P xs)
    (hys : everyOf P ys) : everyOf P (xs ++ ys) := by
  rw [everyOf_iff] at hxs hys ⊢
  exact List.forall_mem_append.2 ⟨hxs, hys⟩

omit [RegexEngine] in
/-- The entries of an object under a field are printable if the object's own entry is. -/
theorem EntryPrintable.bound {field : String} {sub : List (String × Value)}
    (h : EntryPrintable none (field, .object sub)) (hkey : IsFieldKey field) :
    ∀ e ∈ sub, EntryPrintable (some field) e := by
  have hprintable : Printable [(field, .object sub)] := h
  have hne := hprintable.fields .top _ (List.mem_singleton_self _)
  rintro ⟨key, value⟩ he
  refine ⟨not_mem_reserved_of_isFieldKey hkey hne, ?_⟩
  rintro items rfl hjunction
  exact hprintable.joined (.bound (List.mem_singleton_self _) he hjunction)

mutual

/-- **The expressions of a document can be told from their texts.** -/
theorem recoverable_entries (parent : Option String) (entries : List (String × Value))
    (hprintable : ∀ e ∈ entries, EntryPrintable parent e)
    (hstorable : ∀ e ∈ entries, e.2.Storable) {es : List Expression}
    (h : ofEntries parent entries = .ok es) : everyOf Recoverable es := by
  match entries with
  | [] =>
    cases h
    trivial
  | (key, value) :: entries =>
    obtain ⟨here, others, hhere, hothers, rfl⟩ := ofEntries_cons_eq_ok h
    obtain ⟨hprintable, hprintables⟩ := List.forall_mem_cons.1 hprintable
    obtain ⟨hstorable, hstorables⟩ := List.forall_mem_cons.1 hstorable
    exact everyOf_append (recoverable_entry parent key value hprintable hstorable hhere)
      (recoverable_entries parent entries hprintables hstorables hothers)

theorem recoverable_entry (parent : Option String) (key : String) (value : Value)
    (hprintable : EntryPrintable parent (key, value)) (hstorable : value.Storable)
    {here : List Expression} (h : ofEntry parent key value = .ok here) :
    everyOf Recoverable here := by
  match value with
  | .array items =>
    by_cases hjunction : IsJunction key
    · obtain ⟨_, subs, ⟨⟩, hlength, hsubs, rfl⟩ := exists_of_junction hjunction h
      exact recoverable_junction hlength hsubs (recoverable_elements key items
        (hprintable.joined hjunction) (fun v hv => hstorable.of_mem hv) hsubs)
    · exact recoverable_plain hjunction (by rintro - _ _ ⟨⟩) hprintable hstorable h
  | .object (e :: entries) =>
    have hjunction : ¬IsJunction key := by
      intro hjunction
      obtain ⟨_, _, ⟨⟩, -⟩ := exists_of_junction hjunction h
    cases parent with
    | some field =>
      exact recoverable_plain hjunction (by rintro ⟨⟩) hprintable hstorable h
    | none =>
      have hkey := isFieldKey_of_ofEntry h
      exact recoverable_entries (some key) (e :: entries) (hprintable.bound hkey)
        (fun e' he' => hstorable.of_entry he') (ofEntries_bound (List.cons_ne_nil _ _) h)
  | .object [] | .null | .bool _ | .number _ | .string _ =>
    have hjunction : ¬IsJunction key := by
      intro hjunction
      obtain ⟨_, _, ⟨⟩, -⟩ := exists_of_junction hjunction h
    exact recoverable_plain hjunction (by rintro - _ _ ⟨⟩) hprintable hstorable h

theorem recoverable_elements (label : String) (items : List Value)
    (hprintable : ElementsPrintable items) (hstorable : ∀ v ∈ items, v.Storable)
    {subs : List Expression} (h : ofElements label items = .ok subs) :
    everyOf Recoverable subs := by
  match items with
  | [] =>
    cases h
    trivial
  | .object sub :: items =>
    obtain ⟨_, es, others, ⟨⟩, hes, hothers, rfl⟩ := ofElements_cons_eq_ok h
    obtain ⟨hstorable, hstorables⟩ := List.forall_mem_cons.1 hstorable
    have hne : sub ≠ [] := by
      rintro rfl
      exact hprintable.1 List.mem_cons_self
    have hsub := hprintable.2 sub List.mem_cons_self
    have hhead := recoverable_entries none sub (fun e he => hsub.of_mem he)
      (fun e he => hstorable.of_entry he) hes
    have hothers := recoverable_elements label items
      ⟨fun hmem => hprintable.1 (List.mem_cons_of_mem _ hmem),
        fun sub' hsub' => hprintable.2 sub' (List.mem_cons_of_mem _ hsub')⟩ hstorables hothers
    exact ⟨recoverable_ofElement hne hes hhead, hothers⟩
  | .null :: _ | .bool _ :: _ | .number _ :: _ | .string _ :: _ | .array _ :: _ => cases h

end

/-- **The predicate of a document keeps its meaning when it is written.** As long as no element of a
junction is empty and no field is named like the operator on elements, its text is read as the
predicate in floating point form, which accepts the documents that the predicate accepts. -/
theorem parse_text_of_document {q : Value} (hq : q.Storable)
    (hprintable : ∀ entries, q = .object entries → Printable entries) {p : Predicate}
    (h : Predicate.ofValue q = .ok p) :
    Predicate.parse p.text = .ok p.inFloats ∧
      ∀ doc, (Value.object doc).KeysDistinct → p.inFloats.accepts doc = p.accepts doc := by
  have hread : ofDocument? q = .ok p := mapError_eq_ok_iff.1 h
  cases q with
  | object entries =>
    have hall : everyOf Recoverable p :=
      recoverable_entries none entries (fun e he => (hprintable entries rfl).of_mem he)
        (fun e he => hq.of_entry he) hread
    have hkeys : p.KeysDistinct := by
      refine everyOf_iff.2 fun e he => ?_
      exact (everyOf_iff.1 hall e he).mono fun _ hx => hx.keysDistinct
    exact ⟨parse_inFloats hall, fun doc hdoc => accepts_inFloats hkeys hdoc⟩
  | _ => cases hread

end DocQuery.PredicateDocument

namespace DocQuery.Bookshelf

open PredicateDocument

/-- Tales of this century, of one page or by Ann and short. -/
def shortTales : List (String × Value) :=
  [("$or", .array
      [.object [("pages", .number (.integer 1))],
        .object [("author", .string "ann"),
          ("pages", .object [("$in", .array [.number (.integer 1), .number (.integer 2)])])]]),
    ("year", .object [("$gte", .number (.integer 2000))])]

theorem shortTales_storable : (Value.object shortTales).Storable := by
  constructor
  · simp [shortTales, Value.WordSized, Value.wordSizedEntries, Value.wordSizedItems,
      Number.WordSized, Word.least, Word.greatestUnsigned]
  · simp [shortTales, Value.KeysDistinct, Value.keysDistinctEntries, Value.keysDistinctItems,
      Assoc.keys]

theorem shortTales_printable : Printable shortTales := by
  refine printable_iff.2 ⟨by decide, fun items hjoins => ?_⟩
  cases hjoins with
  | bound houter hmem hjunction =>
    simp only [shortTales, List.mem_cons, List.not_mem_nil, Prod.mk.injEq, or_false, reduceCtorEq,
      and_false, false_or, Value.object.injEq] at houter
    obtain ⟨rfl, rfl⟩ := houter
    simp at hmem
  | own hmem hjunction =>
    simp only [shortTales, List.mem_cons, List.not_mem_nil, Prod.mk.injEq, or_false, reduceCtorEq,
      and_false, Value.array.injEq] at hmem
    obtain ⟨rfl, rfl⟩ := hmem
    refine ⟨by simp, fun sub hsub => printable_iff.2 ?_⟩
    simp only [List.mem_cons, List.not_mem_nil, or_false, Value.object.injEq] at hsub
    rcases hsub with rfl | rfl
    · refine ⟨by decide, fun items hjoins => ?_⟩
      cases hjoins <;> simp_all
    · refine ⟨by decide, fun items hjoins => ?_⟩
      cases hjoins with
      | own hmem hjunction => simp at hmem
      | bound houter hmem hjunction =>
        simp only [List.mem_cons, List.not_mem_nil, Prod.mk.injEq, or_false, reduceCtorEq,
          and_false, false_or, Value.object.injEq] at houter
        obtain ⟨rfl, rfl⟩ := houter
        simp only [List.mem_cons, List.not_mem_nil, Prod.mk.injEq, or_false] at hmem
        obtain ⟨rfl, -⟩ := hmem
        exact absurd hjunction (by decide)

/-- The text of the predicate is read with floats, and finds the tale of one page. -/
theorem shortTales_text :
    ∃ p p', Predicate.ofValue (.object shortTales) = .ok p ∧ Predicate.parse p.text = .ok p' ∧
      p'.accepts [("pages", .number (.integer 1)), ("year", .number (.integer 2020))] = true := by
  have hread : ((Predicate.ofValue (.object shortTales)).toOption.map fun p =>
      p.accepts [("pages", .number (.integer 1)), ("year", .number (.integer 2020))]) =
    some true := by decide +kernel
  obtain ⟨p, hp, haccepts⟩ := Option.map_eq_some_iff.1 hread
  have hvalue := toOption_eq_some_iff.1 hp
  obtain ⟨hparse, hsame⟩ := PredicateDocument.parse_text_of_document shortTales_storable
    (by rintro _ ⟨⟩; exact shortTales_printable) hvalue
  refine ⟨p, p.inFloats, hvalue, hparse, ?_⟩
  rw [hsame _ (by simp [Value.KeysDistinct, Value.keysDistinctEntries, Assoc.keys])]
  exact haccepts

end DocQuery.Bookshelf
