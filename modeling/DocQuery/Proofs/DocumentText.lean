import DocQuery.Proofs.DocumentGrammar
import DocQuery.Proofs.PredicateText
import DocQuery.Proofs.ValueReading

/-!
# Predicates as documents and as texts

The text of a document can be read as a predicate too. The two readers are written apart: the one
for texts takes one operator to a block, reads numbers as floats and drops the empty documents under
a junction. As far as both read a document they come to one predicate, but that a disjunction is
stricter without its empty documents, which hold everywhere.

* `PredicateDocument.Relaxes` — a test that is looser than another, or the same.
* `Predicate.accepts_of_readOperand` — operators mean the same in both.
* `PredicateDocument.follows_elements` — what is joined follows from what stands in the blocks.
* `PredicateDocument.readsFollowing_readBlockWithin` — a block, by induction on its nesting.
* `PredicateDocument.accepts_document_of_accepts_text` — a document and its text.
-/

set_option autoImplicit false

namespace DocQuery

open Expression Predicate

/-! ## Operators -/

namespace DocumentOperator

/-- The operator of the same name in texts. -/
def operator : DocumentOperator → Operator
  | regex => .regex
  | exist => .exist
  | notEqual => .notEqual
  | among => .among
  | notAmong => .notAmong
  | compare c => .compare c

theorem name_operator (op : DocumentOperator) : op.operator.name = op.name := by
  cases op <;> rfl

theorem operator_of_ofName? {key : String} {op : DocumentOperator} (h : ofName? key = some op) :
    Operator.ofName? key = some op.operator := by
  have hname : op.name = key :=
    beq_iff_eq.1 (@List.find?_some _ (fun o : DocumentOperator => o.name == key) op all h)
  rw [← hname, ← op.name_operator, Operator.ofName?_name]

end DocumentOperator

/-- Two tests that no document tells apart. -/
def Expression.Equivalent [RegexEngine] (a b : Expression) : Prop :=
  ∀ doc : Document, (Value.object doc).KeysDistinct → a.accepts doc = b.accepts doc

namespace Expression

variable {field : String} {v w : Value} {vs ws : List Value}

variable [RegexEngine]

theorem equivalent_refl (a : Expression) : a.Equivalent a := fun _ _ => rfl

/-- Literals of one meaning make tests of one meaning. -/
theorem equivalent_equal (h : v.Agrees w) :
    (equal field v).Equivalent (equal field w) ∧
      (notEqual field v).Equivalent (notEqual field w) := by
  have hequal : ∀ doc : Document, (Value.object doc).KeysDistinct →
      equalTo (valueAt doc field) v = equalTo (valueAt doc field) w := by
    intro doc hdoc
    exact equalTo_congr (Document.agrees_valueAt (.refl hdoc) field) h
  constructor
  · intro doc hdoc
    simp only [accepts, hequal doc hdoc]
  · intro doc hdoc
    simp only [accepts, hequal doc hdoc]

theorem equivalent_among (h : List.Forall₂ Value.Agrees vs ws) :
    (among field vs).Equivalent (among field ws) ∧
      (notAmong field vs).Equivalent (notAmong field ws) := by
  have hamong : ∀ doc : Document, (Value.object doc).KeysDistinct →
      isAmong (valueAt doc field) vs = isAmong (valueAt doc field) ws := by
    intro doc hdoc
    exact isAmong_congr (Document.agrees_valueAt (.refl hdoc) field) h
  constructor
  · intro doc hdoc
    simp only [accepts, hamong doc hdoc]
  · intro doc hdoc
    simp only [accepts, hamong doc hdoc]

end Expression

namespace Predicate

variable [RegexEngine]
variable {block : Reader Problem (List Expression)} {field : String} {rest : List Char}

omit [RegexEngine] in
/-- Only the text of a list is read as a list. -/
theorem exists_items_of_readItems {item : Reader Problem Value} {v : Value}
    {p : List Value × List Char} (h : readItems item (v.chars ++ rest) = .ok p) :
    ∃ items, v = .array items := by
  have hopen : ∀ {c s}, c ≠ '[' → v.chars = c :: s → False := by
    intro c s hc hchars
    rw [hchars] at h
    unfold readItems at h
    simp only [List.cons_append, expect, if_neg hc] at h
    cases h
  cases v with
  | array items => exact ⟨items, rfl⟩
  | null => exact (hopen (by decide) rfl).elim
  | bool b => cases b <;> exact (hopen (by decide) rfl).elim
  | string s => exact (hopen (by decide) rfl).elim
  | number n =>
    obtain ⟨c, s, hchars, hc⟩ := n.exists_chars_cons
    exact (hopen (hc.ne (by decide) (by decide)) hchars).elim
  | object entries => exact (hopen (by decide) (Value.chars_object entries)).elim

omit [RegexEngine] in
/-- A list of candidates is read as candidates of the same meaning. -/
theorem agrees_of_readMembers {operand : Value} (hkeys : operand.KeysDistinct)
    {op : DocumentOperator} {vs : List Value} (hvs : candidates field op operand = .ok vs)
    {p : List Value × List Char}
    (h : readItems readValue (operand.chars ++ rest) = .ok p) :
    List.Forall₂ Value.Agrees vs p.1 ∧ p.2 = rest := by
  obtain ⟨items, rfl⟩ := exists_items_of_readItems h
  cases hvs
  rw [Value.chars_array] at h
  exact agrees_of_readItems (fun v hv => agrees_of_readValue (hkeys.of_mem hv)) h

/-- **An operator means the same in a text**, if its operand is read there. -/
theorem accepts_of_readOperand {op : DocumentOperator} {operand : Value}
    (hkeys : operand.KeysDistinct) {e : Expression} (he : ofOperation field op operand = .ok e)
    (hrest : Delimited rest) {p : Expression × List Char}
    (h : readOperand block field op.operator (operand.chars ++ rest) = .ok p) :
    e.Equivalent p.1 ∧ p.2 = rest := by
  cases op with
  | regex =>
    unfold ofOperation at he
    cases operand with
    | string source =>
      have hread := readString_quoteChars source rest
      have hchars : (Value.string source).chars = quoteChars source := rfl
      simp only [DocumentOperator.operator, readOperand, hchars, hread, bind, Except.bind] at h he
      cases hpattern : Pattern.ofSource source with
      | ok pattern =>
        simp only [hpattern, Except.ok.injEq] at h he
        rw [← h, ← he]
        exact ⟨equivalent_refl _, rfl⟩
      | error problem => simp [hpattern] at he
    | _ => cases he
  | exist =>
    unfold ofOperation at he
    cases operand with
    | bool b =>
      cases he
      cases b with
      | true | false =>
        cases h
        exact ⟨equivalent_refl _, rfl⟩
    | _ => cases he
  | notEqual =>
    cases he
    obtain ⟨q, hq, rfl⟩ := map_eq_ok_iff.1 h
    obtain ⟨hagree, hq2⟩ := agrees_of_readValue hkeys rest q hrest hq
    exact ⟨(equivalent_equal hagree).2, hq2⟩
  | among =>
    obtain ⟨vs, hvs, rfl⟩ := map_eq_ok_iff.1 he
    obtain ⟨q, hq, rfl⟩ := map_eq_ok_iff.1 h
    obtain ⟨hagree, hq2⟩ := agrees_of_readMembers hkeys hvs hq
    exact ⟨(equivalent_among hagree).1, hq2⟩
  | notAmong =>
    obtain ⟨vs, hvs, rfl⟩ := map_eq_ok_iff.1 he
    obtain ⟨q, hq, rfl⟩ := map_eq_ok_iff.1 h
    obtain ⟨hagree, hq2⟩ := agrees_of_readMembers hkeys hvs hq
    exact ⟨(equivalent_among hagree).2, hq2⟩
  | compare c =>
    unfold ofOperation at he
    cases operand with
    | number n =>
      cases he
      obtain ⟨q, hq, rfl⟩ := map_eq_ok_iff.1 h
      obtain ⟨hbound, hq2⟩ := bound_of_readNumber hrest hq
      rw [hbound]
      exact ⟨equivalent_refl _, hq2⟩
    | _ => cases he

/-- Behind an operand, its block is closed. -/
theorem closed_of_readOperation {op : DocumentOperator} {operand : Value}
    (hkeys : operand.KeysDistinct) {e : Expression} (he : ofOperation field op operand = .ok e)
    {t : List Char} (ht : Delimited t) {p : Expression × List Char}
    (h : readOperation block field op.operator (operand.chars ++ t) = .ok p) :
    e.Equivalent p.1 ∧ t = '\x7d' :: p.2 := by
  obtain ⟨q, hq, hrest⟩ := bind_eq_ok_iff.1 (labelFault_eq_ok_iff.1 h)
  obtain ⟨hequivalent, hq2⟩ := accepts_of_readOperand hkeys he ht hq
  obtain ⟨u, hu, hp⟩ := bind_eq_ok_iff.1 hrest
  rw [hq2, skipBlanks_of_solid ht.solid] at hu
  obtain ⟨c, r, rfl, -⟩ := ht
  by_cases hc : c = '\x7d'
  · simp only [expect, if_pos hc, Except.ok.injEq] at hu
    cases hu
    cases hp
    exact ⟨hequivalent, by rw [hc]⟩
  · simp [expect, hc, fault] at hu

end Predicate

namespace PredicateDocument

open Operator

/-! ## Looser tests -/

/-- A test that holds where another does, and only there as long as `exact` is the case. -/
structure Relaxes (exact : Prop) (loose strict : Bool) : Prop where
  le : strict = true → loose = true
  eq : exact → loose = strict

namespace Relaxes

variable {P Q : Prop} {a a' b b' : Bool}

theorem of_eq (h : a = a') : Relaxes P a a' := ⟨fun ha => h.trans ha, fun _ => h⟩

theorem mono (h : Relaxes P a a') (himp : Q → P) : Relaxes Q a a' :=
  ⟨h.le, fun hQ => h.eq (himp hQ)⟩

theorem and (ha : Relaxes P a a') (hb : Relaxes P b b') : Relaxes P (a && b) (a' && b') where
  le := by
    simp only [Bool.and_eq_true]
    exact And.imp ha.le hb.le
  eq hP := by rw [ha.eq hP, hb.eq hP]

theorem or (ha : Relaxes P a a') (hb : Relaxes P b b') : Relaxes P (a || b) (a' || b') where
  le := by
    simp only [Bool.or_eq_true]
    exact Or.imp ha.le hb.le
  eq hP := by rw [ha.eq hP, hb.eq hP]

end Relaxes

variable [RegexEngine]

/-- The expressions of a document's text, `es'`, follow those of the document: they are as strict,
or stricter by the empty disjuncts. -/
def Follows (entries : List (String × Value)) (es es' : List Expression) : Prop :=
  ∀ doc : Document, (Value.object doc).KeysDistinct →
    Relaxes (DisjunctsProper entries) (acceptsAll es doc) (acceptsAll es' doc)

omit [RegexEngine] in
theorem DisjunctsProper.mono {entries entries' : List (String × Value)}
    (h : DisjunctsProper entries') (hsub : entries ⊆ entries') : DisjunctsProper entries :=
  fun items hstated => h items (hstated.mono hsub)

omit [RegexEngine] in
/-- Disjuncts are proper where those of each entry are. -/
theorem disjunctsProper_iff {entries : List (String × Value)} :
    DisjunctsProper entries ↔ ∀ e ∈ entries, ∀ items, e.2 = .array items →
      (e.1 = orName → .object [] ∉ items) ∧
        (IsJunction e.1 → ∀ sub, .object sub ∈ items → DisjunctsProper sub) := by
  constructor
  · rintro h ⟨key, value⟩ hmem items rfl
    refine ⟨?_, ?_⟩
    · rintro rfl
      exact h items (.own hmem)
    · intro hjunction sub helement inner hstated
      exact h inner (.joined hmem hjunction helement hstated)
  · rintro h items (hmem | ⟨hmem, hjunction, helement, hstated⟩)
    · exact (h _ hmem items rfl).1 rfl
    · exact (h _ hmem _ rfl).2 hjunction _ helement items hstated

theorem follows_of_equivalent {entries : List (String × Value)} {e e' : Expression}
    (h : e.Equivalent e') : Follows entries [e] [e'] := by
  intro doc hdoc
  refine .of_eq ?_
  simp only [acceptsAll, h doc hdoc]

/-! ## Documents that are read -/

/-- Entries are read one after the other. -/
theorem ofEntries_cons_eq_ok {parent : Option String} {e : String × Value}
    {entries : List (String × Value)} {es : List Expression}
    (h : ofEntries parent (e :: entries) = .ok es) :
    ∃ here others, ofEntry parent e.1 e.2 = .ok here ∧ ofEntries parent entries = .ok others ∧
      es = here ++ others := by
  obtain ⟨key, value⟩ := e
  rw [ofEntries] at h
  obtain ⟨here, hhere, hmore⟩ := bind_eq_ok_iff.1 h
  obtain ⟨others, hothers, hjoined⟩ := bind_eq_ok_iff.1 hmore
  exact ⟨here, others, hhere, hothers, (Except.ok.inj hjoined).symm⟩

theorem exists_of_ofEntries {parent : Option String} {entries : List (String × Value)}
    {es : List Expression} (h : ofEntries parent entries = .ok es) {e : String × Value}
    (he : e ∈ entries) : ∃ here, ofEntry parent e.1 e.2 = .ok here := by
  induction entries generalizing es with
  | nil => cases he
  | cons first entries ih =>
    obtain ⟨here, others, hhere, hothers, -⟩ := ofEntries_cons_eq_ok h
    rcases List.mem_cons.1 he with rfl | he
    · exact ⟨here, hhere⟩
    · exact ih hothers he

/-- Elements are documents, and are read one after the other. -/
theorem ofElements_cons_eq_ok {label : String} {item : Value} {items : List Value}
    {subs : List Expression} (h : ofElements label (item :: items) = .ok subs) :
    ∃ sub es others, item = .object sub ∧ ofEntries none sub = .ok es ∧
      ofElements label items = .ok others ∧ subs = ofElement es :: others := by
  cases item with
  | object sub =>
    rw [ofElements] at h
    obtain ⟨es, hes, hmore⟩ := bind_eq_ok_iff.1 h
    obtain ⟨others, hothers, hjoined⟩ := bind_eq_ok_iff.1 hmore
    exact ⟨sub, es, others, rfl, hes, hothers, (Except.ok.inj hjoined).symm⟩
  | _ => cases h

theorem exists_of_ofElements {label : String} {items : List Value} {subs : List Expression}
    (h : ofElements label items = .ok subs) {v : Value} (hv : v ∈ items) :
    ∃ sub es, v = .object sub ∧ ofEntries none sub = .ok es := by
  induction items generalizing subs with
  | nil => cases hv
  | cons item items ih =>
    obtain ⟨sub, es, others, hsub, hes, hothers, -⟩ := ofElements_cons_eq_ok h
    rcases List.mem_cons.1 hv with rfl | hv
    · exact ⟨sub, es, hsub, hes⟩
    · exact ih hothers hv

/-- A junction joins the elements of a list, two of them at least. -/
theorem exists_of_junction {parent : Option String} {key : String} (hjunction : IsJunction key)
    {value : Value} {here : List Expression} (h : ofEntry parent key value = .ok here) :
    ∃ items subs, value = .array items ∧ 2 ≤ items.length ∧ ofElements key items = .ok subs ∧
      here = [if key = andName then .and subs else .or subs] := by
  have hjoins : key = andName ∨ key = orName := hjunction
  unfold ofEntry at h
  cases value with
  | array items =>
    simp only [if_pos hjoins] at h
    split at h
    · cases h
    · rename_i hlength
      obtain ⟨subs, hsubs, hhere⟩ := bind_eq_ok_iff.1 h
      exact ⟨items, subs, rfl, Nat.not_lt.1 hlength, hsubs, (Except.ok.inj hhere).symm⟩
  | _ =>
    simp only [if_pos hjoins] at h
    cases h

/-- The object under a field holds operators. -/
theorem ofEntry_object {key : String} (hkey : IsFieldKey key) (e : String × Value)
    (entries : List (String × Value)) :
    ofEntry none key (.object (e :: entries)) = ofEntries (some key) (e :: entries) := by
  have hjoins : ¬(key = andName ∨ key = orName) := hkey.1
  unfold ofEntry
  simp only [if_neg hjoins, hkey.2]

/-- Under a field stands an operator with its operand, where no junction does. -/
theorem exists_operation_of_ofEntry {field label : String} (hlabel : ¬IsJunction label)
    {operand : Value} {here : List Expression} (h : ofEntry (some field) label operand = .ok here) :
    ∃ op x, DocumentOperator.ofName? label = some op ∧ ofOperation field op operand = .ok x ∧
      here = [x] := by
  have hplain : ofEntry (some field) label operand = ofPlain (some field) label operand :=
    ofEntry_eq_ofPlain hlabel fun h => absurd h (Option.some_ne_none field)
  rw [hplain] at h
  unfold ofPlain at h
  cases hop : DocumentOperator.ofName? label with
  | none =>
    rw [hop] at h
    cases h
  | some op =>
    rw [hop] at h
    obtain ⟨x, hx, rfl⟩ := map_eq_ok_iff.1 h
    exact ⟨op, x, rfl, hx, rfl⟩

/-! ## Junctions -/

theorem acceptsAll_ofBlock (es : List Expression) (others : List Expression) (doc : Document) :
    acceptsAll (ofBlock es ++ others) doc = (acceptsAll es doc && acceptsAll others doc) := by
  match es with
  | [] => rfl
  | [e] => simp [ofBlock, acceptsAll]
  | e :: e' :: es => simp [ofBlock, acceptsAll, Expression.accepts]

theorem acceptsAny_ofBlock {es : List Expression} (hes : es ≠ []) (others : List Expression)
    (doc : Document) :
    acceptsAny (ofBlock es ++ others) doc = (acceptsAll es doc || acceptsAny others doc) := by
  match es with
  | [e] => simp [ofBlock, acceptsAll, acceptsAny]
  | e :: e' :: es => simp [ofBlock, acceptsAll, acceptsAny, Expression.accepts]

/-- What a block in a text comes to, for the document that it was written from. -/
def BlockFollows (sub : List (String × Value)) (block : List Expression) : Prop :=
  (block = [] ↔ sub = []) ∧ ∃ es, ofEntries none sub = .ok es ∧ Follows sub es block

/-- A block of a text, for the element that it was written from. -/
def ElementFollows (item : Value) (block : List Expression) : Prop :=
  ∃ sub, item = .object sub ∧ BlockFollows sub block

/-- **What is joined follows** from what stands in the blocks. -/
theorem follows_elements {label : String} {items : List Value} {blocks : List (List Expression)}
    (h : List.Forall₂ ElementFollows items blocks) {subs : List Expression}
    (hsubs : ofElements label items = .ok subs) {doc : Document}
    (hdoc : (Value.object doc).KeysDistinct) :
    Relaxes (∀ sub, .object sub ∈ items → DisjunctsProper sub) (acceptsAll subs doc)
        (acceptsAll (blocks.flatMap ofBlock) doc) ∧
      Relaxes ((∀ sub, .object sub ∈ items → DisjunctsProper sub) ∧ .object [] ∉ items)
        (acceptsAny subs doc) (acceptsAny (blocks.flatMap ofBlock) doc) := by
  induction h generalizing subs with
  | nil =>
    cases hsubs
    exact ⟨.of_eq rfl, .of_eq rfl⟩
  | @cons item block items blocks hitem _ ih =>
    obtain ⟨sub, rfl, hempty, es, hes, hfollows⟩ := hitem
    obtain ⟨_, es', others, ⟨⟩, hes', hothers, rfl⟩ := ofElements_cons_eq_ok hsubs
    obtain rfl : es = es' := Except.ok.inj (hes.symm.trans hes')
    obtain ⟨hall, hany⟩ := ih hothers
    have hhead := hfollows doc hdoc
    have hproper : (∀ sub', .object sub' ∈ Value.object sub :: items → DisjunctsProper sub') →
        DisjunctsProper sub ∧ ∀ sub', .object sub' ∈ items → DisjunctsProper sub' := by
      intro hproper
      exact ⟨hproper sub List.mem_cons_self,
        fun sub' hsub' => hproper sub' (List.mem_cons_of_mem _ hsub')⟩
    simp only [List.flatMap_cons, acceptsAll, acceptsAny, accepts_ofElement]
    constructor
    · rw [acceptsAll_ofBlock]
      exact (hhead.mono fun hp => (hproper hp).1).and (hall.mono fun hp => (hproper hp).2)
    · by_cases hblock : block = []
      · -- The empty disjunct holds everywhere, and is missing among the blocks.
        obtain rfl := hempty.1 hblock
        rw [hblock]
        refine ⟨fun hothers => ?_, fun hp => absurd List.mem_cons_self hp.2⟩
        rw [hany.le hothers, Bool.or_true]
      · rw [acceptsAny_ofBlock hblock]
        refine (hhead.mono fun hp => (hproper hp.1).1).or (hany.mono fun hp => ?_)
        exact ⟨(hproper hp.1).2, fun hmem => hp.2 (List.mem_cons_of_mem _ hmem)⟩

/-- A reader of blocks takes the text of a document for what follows from the document. -/
def ReadsFollowing (block : Reader Problem (List Expression)) : Prop :=
  ∀ sub es rest p, (Value.object sub).KeysDistinct → JunctionsApart sub →
    ofEntries none sub = .ok es → block ((Value.object sub).chars ++ rest) = .ok p →
      BlockFollows sub p.1 ∧ p.2 = rest

section Entries

variable {block : Reader Problem (List Expression)} {key : String} {value : Value}
  {here : List Expression} {rest : List Char} {p : Expression × List Char}

/-- The blocks of a junction stand for its elements. -/
theorem blocks_of_readJunction (hblock : ReadsFollowing block) {items : List Value}
    (hkeys : (Value.array items).KeysDistinct)
    (hapart : ∀ sub, .object sub ∈ items → JunctionsApart sub) {label : String}
    {subs : List Expression} (hsubs : ofElements label items = .ok subs)
    {join : List Expression → Expression}
    (h : readJunction block label join ((Value.array items).chars ++ rest) = .ok p) :
    ∃ blocks, List.Forall₂ ElementFollows items blocks ∧
      p = (join (blocks.flatMap ofBlock), rest) := by
  rw [Value.chars_array] at h
  have hread : readJunction block label join (bracketed (joinedBy Value.chars items) ++ rest) =
    .ok p := h
  rw [bracketed_append, readJunction, expect_cons] at hread
  obtain ⟨u, hu, hread⟩ := bind_eq_ok_iff.1 (labelFault_eq_ok_iff.1 hread)
  cases hu
  obtain ⟨⟨blocks, r⟩, hblocks, hread⟩ := bind_eq_ok_iff.1 hread
  have helement : ∀ v ∈ items, ReadsOnly (fun _ => block) v.chars (ElementFollows v) := by
    intro v hv _ rest q _ hq
    obtain ⟨sub, es, rfl, hes⟩ := exists_of_ofElements hsubs hv
    obtain ⟨hfollows, hr⟩ := hblock sub es rest q (hkeys.of_mem hv) (hapart sub hv) hes hq
    exact ⟨⟨sub, rfl, hfollows⟩, hr⟩
  obtain ⟨hitems, hr⟩ :=
    related_of_separated closes_bracket Value.opens_chars items helement hblocks
  simp only at hread hr
  split at hread
  · cases hread
  · cases hread
    exact ⟨blocks, hitems, by rw [hr]⟩

theorem follows_of_readJunction (hblock : ReadsFollowing block) (hjunction : IsJunction key)
    (hkeys : value.KeysDistinct) (hapart : JunctionsApart [(key, value)])
    (hhere : ofEntry none key value = .ok here) {join : List Expression → Expression}
    (hjoin : ∀ subs, (if key = andName then Expression.and subs else .or subs) = join subs)
    (h : readJunction block key join (value.chars ++ rest) = .ok p) :
    Follows [(key, value)] here [p.1] ∧ p.2 = rest := by
  obtain ⟨items, subs, rfl, -, hsubs, rfl⟩ := exists_of_junction hjunction hhere
  obtain ⟨blocks, hitems, rfl⟩ :=
    blocks_of_readJunction hblock hkeys (fun sub hsub => hapart.element hjunction hsub) hsubs h
  have hproper : DisjunctsProper [(key, .array items)] → (key = orName → .object [] ∉ items) ∧
      (IsJunction key → ∀ sub, .object sub ∈ items → DisjunctsProper sub) :=
    fun hp => disjunctsProper_iff.1 hp _ (List.mem_singleton_self _) items rfl
  refine ⟨fun doc hdoc => ?_, rfl⟩
  obtain ⟨hall, hany⟩ := follows_elements hitems hsubs hdoc
  simp only [acceptsAll, Bool.and_true]
  rw [← hjoin]
  split
  · simp only [Expression.accepts]
    exact hall.mono fun hp => (hproper hp).2 hjunction
  · rename_i hand
    have hor : key = orName := hjunction.resolve_left hand
    simp only [Expression.accepts]
    exact hany.mono fun hp => ⟨(hproper hp).2 hjunction, (hproper hp).1 hor⟩

/-- A value that a field has to equal. -/
theorem follows_of_readEquality (hkey : IsFieldKey key)
    (hvalue : ∀ e entries, value ≠ .object (e :: entries)) (hkeys : value.KeysDistinct)
    (hhere : ofEntry none key value = .ok here) (hrest : Delimited rest)
    (h : readCommand block key (value.chars ++ rest) = .ok p) :
    Follows [(key, value)] here [p.1] ∧ p.2 = rest := by
  have hopens : value.opensOperation = false := by
    cases value with
    | object entries =>
      cases entries with
      | nil => rfl
      | cons e entries => exact absurd rfl (hvalue e entries)
    | _ => rfl
  rw [ofEntry_eq_ofPlain hkey.1 fun _ => hvalue] at hhere
  unfold ofPlain at hhere
  rw [hkey.2] at hhere
  rw [readCommand_chars hopens] at h
  obtain ⟨q, hq, rfl⟩ := map_eq_ok_iff.1 h
  obtain ⟨hagree, hq2⟩ := agrees_of_readValue hkeys rest q hrest hq
  cases hhere
  exact ⟨follows_of_equivalent (equivalent_equal hagree).1, hq2⟩

/-- Operators on a field; in a text there is one to a block. -/
theorem follows_of_readOperators (hkey : IsFieldKey key) {e : String × Value}
    {entries : List (String × Value)} (hkeys : (Value.object (e :: entries)).KeysDistinct)
    (hapart : ∀ e' ∈ e :: entries, ¬IsJunction e'.1)
    (hhere : ofEntry none key (.object (e :: entries)) = .ok here)
    (h : readCommand block key ((Value.object (e :: entries)).chars ++ rest) = .ok p) :
    Follows [(key, .object (e :: entries))] here [p.1] ∧ p.2 = rest := by
  rw [ofEntry_object hkey] at hhere
  obtain ⟨_, others, hfirst, hothers, rfl⟩ := ofEntries_cons_eq_ok hhere
  obtain ⟨op, x, hop, hx, rfl⟩ := exists_operation_of_ofEntry (hapart e List.mem_cons_self) hfirst
  obtain ⟨t, ht, hdelimited⟩ :=
    @exists_joinedBy_cons _ _ Value.entryChars closes_brace e entries rest
  have htext : (Value.object (e :: entries)).chars ++ rest =
      '\x7b' :: (Value.entryChars e ++ t) := by
    rw [Value.chars_object, ← ht]
    exact braced_append _ _
  rw [htext, readCommand_entryChars, DocumentOperator.operator_of_ofName? hop] at h
  rw [Value.KeysDistinct, Value.keysDistinctEntries_iff] at hkeys
  obtain ⟨hequivalent, hclosed⟩ :=
    closed_of_readOperation (hkeys.2 e List.mem_cons_self) hx hdelimited h
  cases entries with
  | nil =>
    cases hothers
    have hend : '\x7d' :: rest = '\x7d' :: p.2 := hclosed ▸ List.append_cancel_left ht
    exact ⟨follows_of_equivalent hequivalent, (List.cons.inj hend).2.symm⟩
  | cons e' entries =>
    -- Behind the operand stands a comma, where the text has to close the block.
    rw [joinedBy_cons_cons, hclosed] at ht
    exact absurd (List.cons.inj (List.append_cancel_left ht)).1 (by decide)

/-- **An entry is read as what follows from it**, if the blocks in it are. -/
theorem follows_of_readExpression (hblock : ReadsFollowing block) (hkeys : value.KeysDistinct)
    (hapart : JunctionsApart [(key, value)]) (hhere : ofEntry none key value = .ok here)
    (hrest : Delimited rest)
    (h : readExpression block (Value.entryChars (key, value) ++ rest) = .ok p) :
    Follows [(key, value)] here [p.1] ∧ p.2 = rest := by
  rw [Value.entryChars, labelled_append,
    readExpression_quoteChars key (value.opens_chars.append rest).solid] at h
  by_cases hand : key = andName
  · rw [if_pos hand] at h
    exact follows_of_readJunction hblock (.inl hand) hkeys hapart hhere (fun _ => if_pos hand) h
  by_cases hor : key = orName
  · rw [if_neg hand, if_pos hor] at h
    exact follows_of_readJunction hblock (.inr hor) hkeys hapart hhere (fun _ => if_neg hand) h
  rw [if_neg hand, if_neg hor] at h
  cases hop : DocumentOperator.ofName? key with
  | some op =>
    simp only [DocumentOperator.operator_of_ofName? hop, Option.isSome_some, if_true] at h
    cases labelFault_eq_ok_iff.1 h
  | none =>
    have hkey : IsFieldKey key := ⟨not_or.2 ⟨hand, hor⟩, hop⟩
    split at h
    · cases labelFault_eq_ok_iff.1 h
    · have hcommand := labelFault_eq_ok_iff.1 h
      by_cases hobject : ∃ e entries, value = .object (e :: entries)
      · obtain ⟨e, entries, rfl⟩ := hobject
        have hplain := hapart key (e :: entries) (.own (List.mem_singleton_self _)) hkey
        exact follows_of_readOperators hkey hkeys hplain hhere hcommand
      · have hvalue : ∀ e entries, value ≠ .object (e :: entries) :=
          fun e entries heq => hobject ⟨e, entries, heq⟩
        exact follows_of_readEquality hkey hvalue hkeys hhere hrest hcommand

end Entries

/-! ## Blocks -/

/-- An expression of a text, for the entry that it was written from. -/
def EntryFollows (e : String × Value) (x : Expression) : Prop :=
  ∃ here, ofEntry none e.1 e.2 = .ok here ∧ Follows [e] here [x]

theorem follows_entries {entries : List (String × Value)} {xs : List Expression}
    (h : List.Forall₂ EntryFollows entries xs) {es : List Expression}
    (hes : ofEntries none entries = .ok es) : Follows entries es xs := by
  induction h generalizing es with
  | nil =>
    cases hes
    exact fun _ _ => .of_eq rfl
  | @cons e x entries xs hx _ ih =>
    obtain ⟨here, hhere, hfollows⟩ := hx
    obtain ⟨here', others, hhere', hothers, rfl⟩ := ofEntries_cons_eq_ok hes
    obtain rfl : here = here' := Except.ok.inj (hhere.symm.trans hhere')
    intro doc hdoc
    have hleft : acceptsAll (here ++ others) doc = (acceptsAll here doc && acceptsAll others doc) :=
      accepts_append here others doc
    have hright : acceptsAll (x :: xs) doc = (acceptsAll [x] doc && acceptsAll xs doc) :=
      accepts_append [x] xs doc
    rw [hleft, hright]
    exact ((hfollows doc hdoc).mono fun hp => hp.mono (by simp)).and
      ((ih hothers doc hdoc).mono fun hp => hp.mono (List.subset_cons_self _ _))

/-- **A block is read as what follows from the document that it was written from.** -/
theorem readsFollowing_readBlockWithin (fuel : Nat) : ReadsFollowing (readBlockWithin fuel) := by
  induction fuel with
  | zero => exact fun _ _ _ _ _ _ _ h => nomatch h
  | succ fuel ih =>
    intro sub es rest p hkeys hapart hes h
    rw [Value.chars_object] at h
    have hread : readBlockWithin (fuel + 1) (braced (joinedBy Value.entryChars sub) ++ rest) =
      .ok p := h
    rw [braced_append, readBlockWithin, expect_cons] at hread
    rw [Value.KeysDistinct] at hkeys
    have hentry : ∀ e ∈ sub, ReadsOnly (fun _ => readExpression (readBlockWithin fuel))
        (Value.entryChars e) (EntryFollows e) := by
      intro e he _ rest q hrest hq
      obtain ⟨here, hhere⟩ := exists_of_ofEntries hes he
      have hapart' : JunctionsApart [e] := hapart.mono (by simpa using he)
      obtain ⟨hfollows, hr⟩ := follows_of_readExpression ih
        (Value.keysDistinctEntries_iff.1 hkeys.2 e he) hapart' hhere hrest hq
      exact ⟨⟨here, hhere, hfollows⟩, hr⟩
    obtain ⟨hentries, hr⟩ :=
      related_of_separated closes_brace Value.opens_entryChars sub hentry hread
    have hempty : p.1 = [] ↔ sub = [] := by
      rw [← List.length_eq_zero_iff, ← hentries.length_eq, List.length_eq_zero_iff]
    exact ⟨⟨hempty, es, hes, follows_entries hentries hes⟩, hr⟩

/-- **A document and its text come to one predicate**, as far as both are read and no junction
stands under a field: what the predicate of the text accepts, that of the document accepts; and
unless a disjunction has an empty document in it, they accept the same. -/
theorem accepts_document_of_accepts_text {entries : List (String × Value)}
    (hkeys : (Value.object entries).KeysDistinct) (hapart : JunctionsApart entries)
    {p p' : Predicate} (hp : Predicate.ofValue (.object entries) = .ok p)
    (hp' : Predicate.parse (Value.object entries).text = .ok p') (doc : Document)
    (hdoc : (Value.object doc).KeysDistinct) :
    (p'.accepts doc = true → p.accepts doc = true) ∧
      (DisjunctsProper entries → p.accepts doc = p'.accepts doc) := by
  have hes : ofEntries none entries = .ok p := mapError_eq_ok_iff.1 hp
  have htext : (Value.object entries).text =
      String.ofList (braced (joinedBy Value.entryChars entries)) := by
    rw [Value.text, Value.chars_object]
    rfl
  rw [htext] at hp'
  obtain ⟨r, hread, -⟩ := parse_braced_eq_ok_iff.1 hp'
  obtain ⟨⟨-, es, hes', hfollows⟩, -⟩ :=
    readsFollowing_readBlockWithin _ entries p [] (p', r) hkeys hapart hes
      (by rw [Value.chars_object]; exact hread)
  obtain rfl : p = es := Except.ok.inj (hes.symm.trans hes')
  exact ⟨(hfollows doc hdoc).le, (hfollows doc hdoc).eq⟩

end PredicateDocument

namespace Bookshelf

/-- Any book, or those with a title, or those with an author that is known. -/
def openChoice : Value :=
  .object [("$or", .array
    [.object [], .object [("titled", .bool true)], .object [("known", .bool true)]])]

theorem openChoice_keysDistinct : openChoice.KeysDistinct := by
  simp [openChoice, Value.KeysDistinct, Value.keysDistinctEntries, Value.keysDistinctItems,
    Assoc.keys]

/-- In the text, the choice of any book is lost. -/
theorem openChoice_differs :
    ¬∀ (q : Value) (p p' : Predicate) (doc : Document), q.KeysDistinct →
      (Value.object doc).KeysDistinct → Predicate.ofValue q = .ok p →
        Predicate.parse q.text = .ok p' → p.accepts doc = p'.accepts doc := by
  intro h
  have hparse : ((Predicate.parse openChoice.text).toOption.map fun p' => p'.accepts []) =
    some false := by decide +kernel
  obtain ⟨p', hp', hrejects⟩ := Option.map_eq_some_iff.1 hparse
  have hsame := h openChoice _ p' [] openChoice_keysDistinct ⟨List.nodup_nil, trivial⟩ rfl
    (toOption_eq_some_iff.1 hp')
  rw [hrejects] at hsame
  exact absurd hsame (by decide)

/-- Tales by Ann, or of this century, in tests that a text can hold. -/
def annsTales : List (String × Value) :=
  tales [("$in", .array [.string "ann"])] [("$gte", .number (.integer 2000))]

theorem annsTales_keysDistinct : (Value.object annsTales).KeysDistinct := by
  simp [annsTales, tales, Value.KeysDistinct, Value.keysDistinctEntries, Value.keysDistinctItems,
    Assoc.keys]

theorem annsTales_disjunctsProper : PredicateDocument.DisjunctsProper annsTales := by
  rw [PredicateDocument.disjunctsProper_iff]
  rintro e he items hitems
  simp only [annsTales, tales, List.mem_cons, List.not_mem_nil, or_false] at he
  rcases he with rfl | rfl
  · cases hitems
    refine ⟨fun _ => by simp, fun _ sub hsub => ?_⟩
    simp only [List.mem_cons, List.not_mem_nil, or_false, Value.object.injEq] at hsub
    rw [PredicateDocument.disjunctsProper_iff]
    rcases hsub with rfl | rfl <;> simp
  · cases hitems

/-- The book is one of them for the reader of texts, as it is for that of documents. -/
theorem accepts_annsTales :
    ∃ p', Predicate.parse (Value.object annsTales).text = .ok p' ∧
      p'.accepts [("title", .string "A tale"), ("author", .string "ann")] = true := by
  have hparse : (Predicate.parse (Value.object annsTales).text).toOption.isSome = true := by
    decide +kernel
  obtain ⟨p', hp'⟩ := Option.isSome_iff_exists.1 hparse
  have hread := toOption_eq_some_iff.1 hp'
  obtain ⟨-, hsame⟩ := PredicateDocument.accepts_document_of_accepts_text annsTales_keysDistinct
    (tales_junctionsApart (by decide) (by decide)) rfl hread
    [("title", .string "A tale"), ("author", .string "ann")]
    (by simp [Value.KeysDistinct, Value.keysDistinctEntries, Assoc.keys])
  refine ⟨p', hread, ?_⟩
  rw [← hsame annsTales_disjunctsProper]
  rfl

end Bookshelf

end DocQuery
