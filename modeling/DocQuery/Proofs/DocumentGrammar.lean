import DocQuery.Pattern.Engine
import DocQuery.Predicate.DocumentGrammar
import DocQuery.Proofs.Success

/-!
# Documents are read as the predicates that they stand for

Acceptance and meaning are followed together through a document: every part of the reader either
comes to expressions that hold just where the part of the document does, and then the part is
acceptable, or fails, and then it is not.

* `PredicateDocument.Reads`, `PredicateDocument.Means` — what a reading comes to.
* `PredicateDocument.operation_reads`, `PredicateDocument.means_operators` — operators on a field.
* `PredicateDocument.means_entries` — the entries of a document.
* `PredicateDocument.ofValue_iff` — documents are read as the predicates that they stand for.
-/

set_option autoImplicit false

namespace DocQuery.PredicateDocument

open Operator Predicate Expression

/-! ## Junctions apart from fields -/

/-- What stands in entries stands in more of them. -/
theorem Stated.mono {entries entries' : List (String × Value)} {e : String × Value}
    (h : Stated entries e) (hsub : entries ⊆ entries') : Stated entries' e := by
  cases h with
  | own hmem => exact .own (hsub hmem)
  | joined hmem hjunction helement hstated =>
    exact .joined (hsub hmem) hjunction helement hstated

theorem JunctionsApart.mono {entries entries' : List (String × Value)}
    (h : JunctionsApart entries') (hsub : entries ⊆ entries') : JunctionsApart entries :=
  fun key sub hstated => h key sub (hstated.mono hsub)

/-- Junctions stand apart from fields where each entry keeps them apart. -/
theorem junctionsApart_iff {entries : List (String × Value)} :
    JunctionsApart entries ↔ ∀ e ∈ entries,
      (IsFieldKey e.1 → ∀ sub, e.2 = .object sub → ∀ e' ∈ sub, ¬IsJunction e'.1) ∧
        (IsJunction e.1 → ∀ items, e.2 = .array items → ∀ sub, .object sub ∈ items →
          JunctionsApart sub) := by
  constructor
  · rintro h ⟨key, value⟩ hmem
    refine ⟨?_, ?_⟩
    · rintro hfield sub rfl
      exact h key sub (.own hmem) hfield
    · rintro hjunction items rfl sub helement field inner hstated
      exact h field inner (.joined hmem hjunction helement hstated)
  · rintro h key sub (hmem | ⟨hmem, hjunction, helement, hstated⟩) hfield
    · exact (h _ hmem).1 hfield sub rfl
    · exact (h _ hmem).2 hjunction _ rfl _ helement key sub hstated hfield

/-- Operators alone stand under a field. -/
theorem junctionsApart_operators {key : String} {sub : List (String × Value)}
    (hkey : ¬IsJunction key) (hsub : ∀ e ∈ sub, ¬IsJunction e.1) :
    JunctionsApart [(key, .object sub)] := by
  rw [junctionsApart_iff, List.forall_mem_singleton]
  refine ⟨?_, fun h => absurd h hkey⟩
  rintro - _ ⟨⟩
  exact hsub

theorem JunctionsApart.element {key : String} {items : List Value} {sub : List (String × Value)}
    (h : JunctionsApart [(key, .array items)]) (hjunction : IsJunction key)
    (helement : .object sub ∈ items) : JunctionsApart sub :=
  (junctionsApart_iff.1 h _ (List.mem_singleton_self _)).2 hjunction items rfl sub helement

/-! ## Readings -/

/-- A reading succeeds just on what is acceptable, with a result that is `sound`. -/
def Reads {α : Type} (outcome : Except DocumentProblem α) (acceptable : Prop) (sound : α → Prop) :
    Prop :=
  match outcome with
  | .ok a => acceptable ∧ sound a
  | .error _ => ¬acceptable

namespace Reads

variable {α β : Type} {outcome : Except DocumentProblem α} {acceptable acceptable' : Prop}
  {sound : α → Prop} {sound' : β → Prop}

theorem exists_ok_iff (h : Reads outcome acceptable sound) :
    (∃ a, outcome = .ok a) ↔ acceptable := by
  cases outcome with
  | ok a => exact ⟨fun _ => h.1, fun _ => ⟨a, rfl⟩⟩
  | error p => exact ⟨nofun, fun ha => absurd ha h⟩

theorem sound_of_ok (h : Reads outcome acceptable sound) {a : α} (ha : outcome = .ok a) :
    sound a := by
  subst ha
  exact h.2

theorem congr (h : Reads outcome acceptable sound) (heq : acceptable ↔ acceptable') :
    Reads outcome acceptable' sound := by
  rwa [← propext heq]

theorem map (h : Reads outcome acceptable sound) {f : α → β} (hf : ∀ a, sound a → sound' (f a)) :
    Reads (outcome.map f) acceptable sound' := by
  cases outcome with
  | ok a => exact ⟨h.1, hf a h.2⟩
  | error p => exact h

/-- Two readings, one after the other. -/
theorem andThen (h : Reads outcome acceptable sound) {rest : Except DocumentProblem β}
    (hrest : Reads rest acceptable' sound') {γ : Type} {join : α → β → γ} {sound'' : γ → Prop}
    (hjoin : ∀ a b, sound a → sound' b → sound'' (join a b)) :
    Reads (do let a ← outcome; let b ← rest; .ok (join a b)) (acceptable ∧ acceptable')
      sound'' := by
  cases outcome with
  | error p => exact fun hboth => h hboth.1
  | ok a =>
    cases rest with
    | error p => exact fun hboth => hrest hboth.2
    | ok b => exact ⟨⟨h.1, hrest.1⟩, hjoin a b h.2 hrest.2⟩

end Reads

variable [RegexEngine]

/-- A reading comes to expressions that hold together just where `holds` does. -/
abbrev Means (outcome : Except DocumentProblem (List Expression)) (acceptable : Prop)
    (holds : Document → Prop) : Prop :=
  Reads outcome acceptable fun es => ∀ doc, acceptsAll es doc = true ↔ holds doc

/-- Expressions for entries one after the other hold together where all of them do. -/
theorem Means.append {first rest : Except DocumentProblem (List Expression)}
    {acceptable acceptable' : Prop} {holds holds' : Document → Prop}
    (hfirst : Means first acceptable holds) (hrest : Means rest acceptable' holds') :
    Means (do let here ← first; let others ← rest; .ok (here ++ others))
      (acceptable ∧ acceptable') fun doc => holds doc ∧ holds' doc := by
  refine hfirst.andThen hrest ?_
  intro es es' hes hes' doc
  show accepts (es ++ es') doc = true ↔ holds doc ∧ holds' doc
  rw [accepts_append, Bool.and_eq_true]
  exact and_congr (hes doc) (hes' doc)

/-! ## Operators on a field -/

omit [RegexEngine] in
theorem candidates_reads (field : String) (op : DocumentOperator) (operand : Value) :
    Reads (candidates field op operand) (∀ entries, operand ≠ .object entries)
      fun vs => vs = operand.members := by
  cases operand with
  | object entries => exact fun h => h entries rfl
  | _ => exact ⟨nofun, rfl⟩

/-- An operator with its operand is read as the test that it stands for. -/
theorem operation_reads (field : String) (op : DocumentOperator) (operand : Value) :
    Reads (ofOperation field op operand) (op.Admits operand) fun e =>
      ∀ doc, e.accepts doc = true ↔ op.Holds doc field operand := by
  cases op with
  | regex =>
    unfold ofOperation
    cases operand with
    | string source =>
      dsimp only
      cases hpattern : Pattern.ofSource source with
      | error p =>
        rintro ⟨source', pattern, hsource, hok⟩
        cases hsource
        cases hpattern.symm.trans hok
      | ok pattern =>
        refine ⟨⟨source, pattern, rfl, hpattern⟩, fun doc => ?_⟩
        rw [Expression.accepts]
        constructor
        · intro h
          split at h
          · rename_i text htext
            exact ⟨source, pattern, text, rfl, hpattern, htext, h⟩
          · cases h
        · rintro ⟨source', pattern', text, hsource, hpattern', htext, hmatch⟩
          cases hsource
          cases hpattern.symm.trans hpattern'
          rw [htext]
          exact hmatch
    | _ =>
      rintro ⟨source, pattern, hsource, -⟩
      cases hsource
  | exist =>
    unfold ofOperation
    cases operand with
    | bool b =>
      refine ⟨⟨b, rfl⟩, fun doc => ?_⟩
      rw [DocumentOperator.Holds, Value.bool.injEq]
      cases b with
      | false =>
        show (Document.lookup doc field).isNone = true ↔ _
        cases Document.lookup doc field <;> simp
      | true =>
        show (Document.lookup doc field).isSome = true ↔ _
        exact eq_comm
    | _ =>
      rintro ⟨b, hb⟩
      cases hb
  | notEqual =>
    refine ⟨trivial, fun doc => ?_⟩
    rw [Expression.accepts, Bool.not_eq_true', DocumentOperator.Holds, Bool.not_eq_true]
  | among =>
    refine (candidates_reads field .among operand).map ?_
    rintro vs rfl doc
    rw [Expression.accepts, DocumentOperator.Holds]
  | notAmong =>
    refine (candidates_reads field .notAmong operand).map ?_
    rintro vs rfl doc
    rw [Expression.accepts, Bool.not_eq_true', DocumentOperator.Holds, Bool.not_eq_true]
  | compare c =>
    unfold ofOperation
    dsimp only
    cases hbound : operand.bound? with
    | none =>
      rintro ⟨bound, h⟩
      cases hbound.symm.trans h
    | some bound =>
      refine ⟨⟨bound, hbound⟩, fun doc => ?_⟩
      rw [Expression.accepts, DocumentOperator.Holds]
      constructor
      · intro h
        split at h
        · rename_i n hn
          exact ⟨n, bound, hn, hbound, h⟩
        · cases h
      · rintro ⟨n, bound', hn, hbound', h⟩
        cases hbound.symm.trans hbound'
        rw [hn]
        exact h

/-- What is neither a junction nor a field with a document holds no further entries to read. -/
theorem ofEntry_eq_ofPlain {parent : Option String} {key : String} {value : Value}
    (hkey : ¬IsJunction key)
    (hvalue : parent = none → ∀ e entries, value ≠ .object (e :: entries)) :
    ofEntry parent key value = ofPlain parent key value := by
  have hjoins : ¬(key = andName ∨ key = orName) := hkey
  unfold ofEntry
  cases value with
  | object entries =>
    simp only [if_neg hjoins]
    split
    · rename_i e entries _
      exact absurd rfl (hvalue rfl e entries)
    · rfl
  | _ => simp only [if_neg hjoins]

theorem means_operator (field : String) {key : String} (hkey : ¬IsJunction key) (value : Value) :
    Means (ofEntry (some field) key value)
      (∃ op, DocumentOperator.ofName? key = some op ∧ op.Admits value)
      fun doc => ∃ op, DocumentOperator.ofName? key = some op ∧ op.Holds doc field value := by
  have hplain : ofEntry (some field) key value = ofPlain (some field) key value :=
    ofEntry_eq_ofPlain hkey nofun
  rw [hplain]
  unfold ofPlain
  cases hop : DocumentOperator.ofName? key with
  | none =>
    rintro ⟨op, h, -⟩
    cases h
  | some op =>
    have hadmits : op.Admits value ↔ ∃ op', some op = some op' ∧ op'.Admits value := by simp
    refine ((operation_reads field op value).congr hadmits).map ?_
    intro e he doc
    rw [acceptsAll, acceptsAll, Bool.and_true, he doc]
    simp

/-- What stands under a field, where no junction does. -/
theorem means_operators (field : String) {entries : List (String × Value)}
    (hplain : ∀ e ∈ entries, ¬IsJunction e.1) :
    Means (ofEntries (some field) entries)
      (∀ e ∈ entries, ∃ op, DocumentOperator.ofName? e.1 = some op ∧ op.Admits e.2)
      fun doc => ∀ e ∈ entries, ∃ op,
        DocumentOperator.ofName? e.1 = some op ∧ op.Holds doc field e.2 := by
  induction entries with
  | nil => exact ⟨nofun, fun doc => ⟨fun _ => nofun, fun _ => rfl⟩⟩
  | cons e entries ih =>
    obtain ⟨key, value⟩ := e
    obtain ⟨hkey, hrest⟩ := List.forall_mem_cons.1 hplain
    simp only [List.forall_mem_cons]
    rw [ofEntries]
    exact (means_operator field hkey value).append (ih hrest)

/-! ## Entries -/

/-- The expression of an element holds where the expressions of its entries do. -/
theorem accepts_ofElement (es : List Expression) (doc : Document) :
    (ofElement es).accepts doc = acceptsAll es doc := by
  unfold ofElement
  split
  · rw [acceptsAll, acceptsAll, Bool.and_true]
  · rw [Expression.accepts]

/-- The readings of the elements of a junction: what they come to holds together, or somewhere,
where the elements do. -/
abbrev MeansEach (items : List Value) (outcome : Except DocumentProblem (List Expression)) : Prop :=
  Reads outcome (elementsAcceptable items) fun es => ∀ doc,
    (acceptsAll es doc = true ↔ everyElementHolds doc items) ∧
      (acceptsAny es doc = true ↔ someElementHolds doc items)

/-- An equality. -/
theorem means_plain {key : String} {value : Value} (hjunction : ¬IsJunction key) :
    Means (ofPlain none key value) (IsFieldKey key)
      fun doc => equalTo (valueAt doc key) value = true := by
  unfold ofPlain
  cases hop : DocumentOperator.ofName? key with
  | some op =>
    intro h
    rw [h.2] at hop
    cases hop
  | none =>
    refine ⟨⟨hjunction, hop⟩, fun doc => ?_⟩
    rw [acceptsAll, acceptsAll, Bool.and_true, Expression.accepts]

/-- A junction of documents. -/
theorem means_junction {key : String} (hjunction : IsJunction key) {items : List Value}
    (h : MeansEach items (ofElements key items)) :
    Means (ofEntry none key (.array items)) (entryAcceptable key (.array items))
      fun doc => entryHolds doc key (.array items) := by
  have hjoins : key = andName ∨ key = orName := hjunction
  have hfield : ¬IsFieldKey key := fun hfield => hfield.1 hjunction
  rw [ofEntry, entryAcceptable, if_pos hjoins]
  split
  · rintro (⟨-, hlength, -⟩ | hfield')
    · omega
    · exact hfield hfield'
  · rename_i hlength
    have hacceptable : elementsAcceptable items ↔
        IsJunction key ∧ 2 ≤ items.length ∧ elementsAcceptable items ∨ IsFieldKey key := by
      constructor
      · intro hall
        exact .inl ⟨hjunction, by omega, hall⟩
      · rintro (⟨-, -, hall⟩ | hfield')
        · exact hall
        · exact absurd hfield' hfield
    refine (h.map fun es hes doc => ?_).congr hacceptable
    show acceptsAll _ doc = true ↔ entryHolds doc key (.array items)
    rw [acceptsAll, acceptsAll, Bool.and_true]
    unfold entryHolds
    split
    · rw [Expression.accepts]
      exact (hes doc).1
    · rename_i hand
      rw [Expression.accepts, if_pos (hjoins.resolve_left hand)]
      exact (hes doc).2

/-- Nothing but a list can be joined. -/
theorem means_no_junction {key : String} (hjunction : IsJunction key) {value : Value}
    (hvalue : ∀ items, value ≠ .array items) :
    Means (ofEntry none key value) (entryAcceptable key value)
      fun doc => entryHolds doc key value := by
  have hjoins : key = andName ∨ key = orName := hjunction
  have hfield : ¬IsFieldKey key := fun hfield => hfield.1 hjunction
  unfold ofEntry entryAcceptable
  cases value with
  | array items => exact absurd rfl (hvalue items)
  | object entries =>
    simp only [if_pos hjoins]
    exact fun h => hfield h.1
  | _ =>
    simp only [if_pos hjoins]
    exact hfield

/-- An equality with any value but a document that is not empty. -/
theorem means_equality {key : String} (hjunction : ¬IsJunction key) {value : Value}
    (hvalue : ∀ e entries, value ≠ .object (e :: entries)) :
    Means (ofEntry none key value) (entryAcceptable key value)
      fun doc => entryHolds doc key value := by
  have hjoins : ¬(key = andName ∨ key = orName) := hjunction
  obtain ⟨hand, hor⟩ := not_or.1 hjoins
  rw [ofEntry_eq_ofPlain hjunction fun _ => hvalue]
  unfold entryAcceptable entryHolds
  cases value with
  | array items =>
    simp only [if_neg hand, if_neg hor]
    exact (means_plain hjunction).congr (by simp [hjunction])
  | object entries =>
    cases entries with
    | nil => exact (means_plain hjunction).congr (by simp)
    | cons e entries => exact absurd rfl (hvalue e entries)
  | _ => exact means_plain hjunction

/-- The operators on a field. -/
theorem means_object {key : String} (hjunction : ¬IsJunction key) {e : String × Value}
    {entries : List (String × Value)}
    (h : IsFieldKey key → ∀ e' ∈ e :: entries, ¬IsJunction e'.1) :
    Means (ofEntry none key (.object (e :: entries))) (entryAcceptable key (.object (e :: entries)))
      fun doc => entryHolds doc key (.object (e :: entries)) := by
  have hjoins : ¬(key = andName ∨ key = orName) := hjunction
  unfold ofEntry entryAcceptable entryHolds
  simp only [if_neg hjoins]
  cases hop : DocumentOperator.ofName? key with
  | some op =>
    simp only [ofPlain, hop]
    intro hacceptable
    rw [hacceptable.1.2] at hop
    cases hop
  | none =>
    have hfield : IsFieldKey key := ⟨hjunction, hop⟩
    exact (means_operators key (h hfield)).congr (by simp [hfield])

mutual

/-- **Entries are read as the expressions that they stand for.** -/
theorem means_entries (entries : List (String × Value)) (h : JunctionsApart entries) :
    Means (ofEntries none entries) (entriesAcceptable entries)
      fun doc => entriesHold doc entries := by
  match entries with
  | [] => exact ⟨trivial, fun doc => ⟨fun _ => trivial, fun _ => rfl⟩⟩
  | (key, value) :: entries =>
    have hfirst := means_entry key value (h.mono (by simp))
    have hrest := means_entries entries (h.mono (List.subset_cons_self _ _))
    rw [ofEntries, entriesAcceptable]
    simp only [entriesHold]
    exact hfirst.append hrest

theorem means_entry (key : String) (value : Value) (h : JunctionsApart [(key, value)]) :
    Means (ofEntry none key value) (entryAcceptable key value)
      fun doc => entryHolds doc key value := by
  by_cases hjunction : IsJunction key
  · match value with
    | .array items =>
      exact means_junction hjunction
        (means_elements key items fun sub hsub => h.element hjunction hsub)
    | .object _ | .null | .bool _ | .number _ | .string _ =>
      exact means_no_junction hjunction nofun
  · match value with
    | .object (e :: entries) =>
      exact means_object hjunction (h key (e :: entries) (.own (List.mem_singleton_self _)))
    | .object [] | .array _ | .null | .bool _ | .number _ | .string _ =>
      exact means_equality hjunction nofun

theorem means_elements (label : String) (items : List Value)
    (h : ∀ sub, .object sub ∈ items → JunctionsApart sub) :
    MeansEach items (ofElements label items) := by
  match items with
  | [] =>
    refine ⟨trivial, fun doc => ⟨⟨fun _ => trivial, fun _ => rfl⟩, ?_⟩⟩
    exact ⟨nofun, nofun⟩
  | .object entries :: items =>
    have helement := means_entries entries (h entries List.mem_cons_self)
    have hrest := means_elements label items fun sub hsub => h sub (List.mem_cons_of_mem _ hsub)
    rw [ofElements]
    refine helement.andThen hrest ?_
    intro es others hes hothers doc
    rw [acceptsAll, acceptsAny, accepts_ofElement, Bool.and_eq_true, Bool.or_eq_true]
    exact ⟨and_congr (hes doc) (hothers doc).1, or_congr (hes doc) (hothers doc).2⟩
  | .array _ :: _ | .null :: _ | .bool _ :: _ | .number _ :: _ | .string _ :: _ => exact id

end

/-- **Documents are read as the predicates that they stand for.** As long as no document that is
bound to a field holds `$and` or `$or`, just the acceptable values are read, and the predicate that
comes out accepts the documents of which they hold. -/
theorem ofValue_iff (q : Value) (h : ∀ entries, q = .object entries → JunctionsApart entries) :
    ((∃ p, Predicate.ofValue q = .ok p) ↔ Acceptable q) ∧
      ∀ p, Predicate.ofValue q = .ok p → ∀ doc, p.accepts doc = true ↔ Holds doc q := by
  have hreads : Reads (ofDocument? q) (Acceptable q) fun p => ∀ doc,
      p.accepts doc = true ↔ Holds doc q := by
    cases q with
    | object entries => exact means_entries entries (h entries rfl)
    | _ => exact id
  unfold Predicate.ofValue
  simp only [mapError_eq_ok_iff]
  exact ⟨hreads.exists_ok_iff, fun p hp => hreads.sound_of_ok hp⟩

end DocQuery.PredicateDocument

namespace DocQuery.Bookshelf

/-- Tales with a test of their author or a test of their year. -/
def tales (authorTests yearTests : List (String × Value)) : List (String × Value) :=
  [("$or", .array
      [.object [("author", .object authorTests)], .object [("year", .object yearTests)]]),
    ("title", .string "A tale")]

theorem tales_junctionsApart {authorTests yearTests : List (String × Value)}
    (hauthor : ∀ e ∈ authorTests, ¬Operator.IsJunction e.1)
    (hyear : ∀ e ∈ yearTests, ¬Operator.IsJunction e.1) :
    PredicateDocument.JunctionsApart (tales authorTests yearTests) := by
  rw [PredicateDocument.junctionsApart_iff]
  rintro e he
  simp only [tales, List.mem_cons, List.not_mem_nil, or_false] at he
  rcases he with rfl | rfl
  · refine ⟨fun h => absurd (.inr rfl) h.1, ?_⟩
    rintro - _ ⟨⟩ sub hsub
    simp only [List.mem_cons, List.not_mem_nil, or_false, Value.object.injEq] at hsub
    rcases hsub with rfl | rfl
    · exact PredicateDocument.junctionsApart_operators (by decide) hauthor
    · exact PredicateDocument.junctionsApart_operators (by decide) hyear
  · exact ⟨fun _ _ => nofun, fun _ _ => nofun⟩

/-- Tales by Ann, or of this century. -/
def newTales : List (String × Value) :=
  tales [("$in", .string "ann")] [("$exists", .bool true), ("$gte", .number (.integer 2000))]

/-- The book is one of them, whatever its year. -/
theorem holds_newTales :
    PredicateDocument.Acceptable (.object newTales) ∧
      PredicateDocument.Holds
        [("title", .string "A tale"), ("author", .array [.string "bob", .string "ann"])]
        (.object newTales) := by
  obtain ⟨haccept, hmeans⟩ := PredicateDocument.ofValue_iff (.object newTales) (by
    rintro _ ⟨⟩
    exact tales_junctionsApart (by decide) (by decide))
  exact ⟨haccept.1 ⟨_, rfl⟩, (hmeans _ rfl _).1 (by rfl)⟩

end DocQuery.Bookshelf
