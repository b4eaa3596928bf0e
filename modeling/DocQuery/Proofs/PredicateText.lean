import DocQuery.Predicate.Floats
import DocQuery.Predicate.WellFormed
import DocQuery.Proofs.ValueText

/-!
# Well-formed predicates read back

A predicate whose expressions are recoverable is read from its text with floats for its numbers, a
well-formed one as it was; and what is read from any text is well-formed.

* `Predicate.readExpression_inFloats` — an expression is read from its text.
* `Predicate.parse_inFloats`, `Predicate.parse_text` — and so is a predicate.
* `Predicate.wellFormed_of_parse` — what is read is well-formed.
-/

set_option autoImplicit false

namespace DocQuery

/-! ## How expressions are written -/

theorem opens_braced (s : List Char) : Opens (braced s) := opens_cons (by decide) (by decide) _

theorem opens_bracketed (s : List Char) : Opens (bracketed s) :=
  opens_cons (by decide) (by decide) _

theorem length_le_braced (s : List Char) : s.length ≤ (braced s).length := by
  rw [braced, List.length_cons, List.length_append]
  omega

namespace Operator

theorem exists_name_cons (o : Operator) : ∃ s, o.name.toList = '$' :: s := by
  cases o with
  | compare c => cases c <;> exact ⟨_, rfl⟩
  | _ => exact ⟨_, rfl⟩

theorem isLabelChar_of_mem_name (o : Operator) :
    ∀ c ∈ o.name.toList, Predicate.isLabelChar c = true := by
  rw [← List.all_eq_true]
  cases o with
  | compare c => cases c <;> decide
  | _ => decide

theorem opens_name (o : Operator) : Opens o.name.toList := by
  obtain ⟨s, hs⟩ := o.exists_name_cons
  rw [hs]
  exact opens_cons (by decide) (by decide) s

end Operator

variable [RegexEngine]

namespace Expression

theorem texts_eq (es : List Expression) : texts es = es.map chars := by
  induction es with
  | nil => rfl
  | cons e es ih => rw [texts, ih, List.map_cons]

/-- An expression in a block of its own. -/
def blockChars (e : Expression) : List Char := braced e.chars

theorem blockTexts_eq (es : List Expression) : blockTexts es = es.map blockChars := by
  induction es with
  | nil => rfl
  | cons e es ih =>
    rw [blockTexts, ih, List.map_cons]
    rfl

theorem chars_and (subs : List Expression) :
    (and subs).chars = labelled Operator.andName.toList (bracketed (joinedBy blockChars subs)) := by
  rw [chars, blockTexts_eq]
  rfl

theorem chars_or (subs : List Expression) :
    (or subs).chars = labelled Operator.orName.toList (bracketed (joinedBy blockChars subs)) := by
  rw [chars, blockTexts_eq]
  rfl

theorem chars_anyElement (field : String) (exprs : List Expression) :
    (anyElement field exprs).chars =
      operation field .anyElement (braced (joinedBy chars exprs)) := by
  rw [chars, texts_eq]
  rfl

theorem opens_chars (e : Expression) : Opens e.chars := by
  cases e with
  | and subs => exact opens_cons (by decide) (by decide) _
  | or subs => exact opens_cons (by decide) (by decide) _
  | _ => exact (opens_quoteChars _).append _

theorem opens_blockChars (e : Expression) : Opens e.blockChars := opens_braced _

omit [RegexEngine] in
theorem length_operation (field : String) (op : Operator) (operand : List Char) :
    operand.length < (operation field op operand).length := by
  rw [operation, labelled, braced, labelled]
  simp only [List.length_append, List.length_cons]
  omega

/-- What is inside an expression has a shorter text. -/
theorem length_lt_of_mem_blocks {e x : Expression} {es : List Expression} (hes : es ∈ e.blocks)
    (hx : x ∈ es) : x.chars.length < e.chars.length := by
  have hjoined : ∀ {subs : List Expression} {label : String}, es ∈ subs.map (fun e => [e]) →
      x.chars.length <
        (labelled label.toList (bracketed (joinedBy blockChars subs))).length := by
    intro subs label hes
    obtain ⟨e, he, rfl⟩ := List.mem_map.1 hes
    rw [List.mem_singleton.1 hx]
    have hle := @length_le_joinedBy _ blockChars e subs he
    have hbraced : e.chars.length ≤ (blockChars e).length := length_le_braced e.chars
    rw [labelled, bracketed]
    simp only [List.length_append, List.length_cons]
    omega
  cases e with
  | and subs =>
    rw [chars_and]
    exact hjoined hes
  | or subs =>
    rw [chars_or]
    exact hjoined hes
  | anyElement field exprs =>
    rw [List.mem_singleton.1 hes] at hx
    have hle := @length_le_joinedBy _ chars x exprs hx
    have hlt := length_operation field .anyElement (braced (joinedBy chars exprs))
    have hbraced := length_le_braced (joinedBy chars exprs)
    rw [chars_anyElement]
    omega
  | _ => cases hes

end Expression

namespace Predicate

variable {block : Reader Problem (List Expression)} {field : String} {rest u : List Char}

/-! ## Labels of expressions -/

omit [RegexEngine] in
theorem readLabel_name (o : Operator) (rest : List Char) :
    readLabel (o.name.toList ++ ':' :: rest) = .ok (o.name, rest) := by
  obtain ⟨s, hs⟩ := o.exists_name_cons
  have h := readLabel_bare o.isLabelChar_of_mem_name (hs ▸ List.cons_ne_nil _ _) rest
  rw [String.ofList_toList] at h
  exact h

/-- A quoted label decides how an expression is read. -/
theorem readExpression_quoteChars (label : String) (hu : Solid u) :
    readExpression block (quoteChars label ++ ':' :: ' ' :: u) =
      if label = Operator.andName then readJunction block label .and u
      else if label = Operator.orName then readJunction block label .or u
      else if (Operator.ofName? label).isSome then
        labelFault label (fault (quoteChars label ++ ':' :: ' ' :: u) .misplaced)
      else labelFault label (readCommand block label u) := by
  unfold readExpression
  simp only [readLabel_quoteChars, bind, Except.bind, skipBlanks_space_of_solid hu]

/-- An expression on a field is read from the command after the field. -/
theorem readExpression_field (hfield : field ∉ Operator.reserved) (hu : Solid u) :
    readExpression block (quoteChars field ++ ':' :: ' ' :: u) =
      labelFault field (readCommand block field u) := by
  obtain ⟨hand, hor, hop⟩ := Operator.not_mem_reserved_iff.1 hfield
  rw [readExpression_quoteChars field hu, if_neg hand, if_neg hor, hop]
  rfl

theorem readExpression_and (hu : Solid u) :
    readExpression block (Operator.andName.toList ++ ':' :: ' ' :: u) =
      readJunction block Operator.andName .and u := by
  have hlabel : readLabel (Operator.andName.toList ++ ':' :: ' ' :: u) =
      .ok (Operator.andName, ' ' :: u) :=
    readLabel_bare (List.all_eq_true.1 (by decide)) (by decide) _
  unfold readExpression
  simp only [hlabel, bind, Except.bind, skipBlanks_space_of_solid hu, if_true]

theorem readExpression_or (hu : Solid u) :
    readExpression block (Operator.orName.toList ++ ':' :: ' ' :: u) =
      readJunction block Operator.orName .or u := by
  have hlabel : readLabel (Operator.orName.toList ++ ':' :: ' ' :: u) =
      .ok (Operator.orName, ' ' :: u) :=
    readLabel_bare (List.all_eq_true.1 (by decide)) (by decide) _
  have hne : Operator.orName ≠ Operator.andName := by decide
  unfold readExpression
  simp only [hlabel, bind, Except.bind, skipBlanks_space_of_solid hu, if_neg hne, if_true]

/-! ## Commands -/

/-- After a brace and a label, the label decides how a command is read. -/
theorem readCommand_label {r s : List Char} {label : String} (hr : skipBlanks r = s) (hs : Opens s)
    (hlabel : readLabel s = .ok (label, u)) :
    readCommand block field ('\x7b' :: r) =
      match Operator.ofName? label with
      | some op => readOperation block field op (skipBlanks u)
      | none => readEquality field ('\x7b' :: r) := by
  obtain ⟨c, t, rfl, -, hclose⟩ := hs
  unfold readCommand
  simp only [hr]
  split
  · rename_i heq
    exact absurd (.inr (List.cons.inj heq).1) hclose
  · cases hop : Operator.ofName? label <;> simp only [hlabel, hop, bind, Except.bind]

/-- An operator block is read from the operand after the operator. -/
theorem readCommand_operation (op : Operator) (hu : Solid u) :
    readCommand block field ('\x7b' :: (op.name.toList ++ ':' :: ' ' :: u)) =
      readOperation block field op u := by
  have hopens := op.opens_name.append (':' :: ' ' :: u)
  rw [readCommand_label (skipBlanks_of_solid hopens.solid) hopens (readLabel_name op _),
    Operator.ofName?_name]
  show readOperation block field op (skipBlanks (' ' :: u)) = _
  rw [skipBlanks_space_of_solid hu]

theorem readOperation_of_operand {op : Operator} {e : Expression} {operand : List Char}
    (h : ∀ rest, Delimited rest → readOperand block field op (operand ++ rest) = .ok (e, rest)) :
    readOperation block field op (operand ++ '\x7d' :: rest) = .ok (e, rest) := by
  have hblank : skipBlanks ('\x7d' :: rest) = '\x7d' :: rest :=
    skipBlanks_of_solid ⟨_, _, rfl, by decide⟩
  unfold readOperation
  simp only [h _ (closes_brace.delimited rest), bind, Except.bind, hblank, expect_cons,
    labelFault_ok]

/-- An expression with an operator is read from its operator block. -/
theorem readExpression_operation {op : Operator} {operand : List Char}
    (hfield : field ∉ Operator.reserved) (hopens : Opens operand) :
    readExpression block (Expression.operation field op operand ++ rest) =
      labelFault field (readOperation block field op (operand ++ '\x7d' :: rest)) := by
  have htext : Expression.operation field op operand ++ rest = quoteChars field ++
      ':' :: ' ' :: ('\x7b' :: (op.name.toList ++ ':' :: ' ' :: (operand ++ '\x7d' :: rest))) := by
    rw [Expression.operation, labelled_append, braced_append, labelled_append]
  rw [htext, readExpression_field hfield ⟨_, _, rfl, by decide⟩,
    readCommand_operation op (hopens.append _).solid]

theorem readExpression_of_operand {op : Operator} {e : Expression} {operand : List Char}
    (hfield : field ∉ Operator.reserved) (hopens : Opens operand)
    (h : ∀ rest, Delimited rest → readOperand block field op (operand ++ rest) = .ok (e, rest)) :
    readExpression block (Expression.operation field op operand ++ rest) = .ok (e, rest) := by
  rw [readExpression_operation hfield hopens, readOperation_of_operand h, labelFault_ok]

/-- Without a brace, a command is a value. -/
theorem readCommand_of_ne {c : Char} (hc : c ≠ '\x7b') (s : List Char) :
    readCommand block field (c :: s) = readEquality field (c :: s) := by
  unfold readCommand
  split
  · rename_i heq
    exact absurd (List.cons.inj heq).1 hc
  · rfl

/-- Behind a brace, the key of an entry decides how a command is read. -/
theorem readCommand_entryChars (e : String × Value) (t : List Char) :
    readCommand block field ('\x7b' :: (Value.entryChars e ++ t)) =
      match Operator.ofName? e.1 with
      | some op => readOperation block field op (e.2.chars ++ t)
      | none => readEquality field ('\x7b' :: (Value.entryChars e ++ t)) := by
  have hopens := (Value.opens_entryChars e).append t
  have hblank := skipBlanks_space_of_solid (e.2.opens_chars.append t).solid
  rw [Value.entryChars, labelled_append] at hopens ⊢
  rw [readCommand_label (skipBlanks_of_solid hopens.solid) hopens (readLabel_quoteChars _ _),
    hblank]

/-- The first key of a document decides how it is read as a command. -/
theorem readCommand_object (e : String × Value) (entries : Document) (rest : List Char) :
    ∃ u, readCommand block field ((Value.object (e :: entries)).chars ++ rest) =
      match Operator.ofName? e.1 with
      | some op => readOperation block field op u
      | none => readEquality field ((Value.object (e :: entries)).chars ++ rest) := by
  obtain ⟨t, ht, -⟩ := @exists_joinedBy_cons _ _ Value.entryChars closes_brace e entries rest
  have htext : (Value.object (e :: entries)).chars ++ rest =
      '\x7b' :: (Value.entryChars e ++ t) := by
    rw [Value.chars_object, ← ht]
    exact braced_append _ _
  rw [htext]
  exact ⟨_, readCommand_entryChars e t⟩

/-- A value that is not taken for an operation is read as a value. -/
theorem readCommand_chars {v : Value} (hv : v.opensOperation = false) (rest : List Char) :
    readCommand block field (v.chars ++ rest) = readEquality field (v.chars ++ rest) := by
  cases v with
  | null => exact readCommand_of_ne (by decide) _
  | bool b => cases b <;> exact readCommand_of_ne (by decide) _
  | string s => exact readCommand_of_ne (by decide) _
  | number n =>
    obtain ⟨c, s, heq, hc⟩ := n.exists_chars_cons
    show readCommand block field (n.chars ++ rest) = readEquality field (n.chars ++ rest)
    rw [heq]
    exact readCommand_of_ne (hc.ne (by decide) (by decide)) _
  | array items =>
    rw [Value.chars_array]
    exact readCommand_of_ne (by decide) _
  | object entries =>
    cases entries with
    | nil => rfl
    | cons e entries =>
      have hkey : Operator.ofName? e.1 = none :=
        Option.not_isSome_iff_eq_none.1 (Bool.not_eq_true _ ▸ hv)
      obtain ⟨u, hu⟩ := @readCommand_object _ block field e entries rest
      rw [hu, hkey]

/-! ## Blocks -/

/-- A reader of blocks reads the expressions that stand between two braces. -/
def ReadsBlock (block : Reader Problem (List Expression)) (es : List Expression) : Prop :=
  ∀ rest, block (braced (joinedBy Expression.chars es) ++ rest) = .ok (es, rest)

/-- A reader of blocks reads the expressions between two braces with floats for their numbers. -/
def ReadsBlockInFloats (block : Reader Problem (List Expression)) (es : List Expression) : Prop :=
  ∀ rest, block (braced (joinedBy Expression.chars es) ++ rest) =
    .ok (es.map Expression.inFloats, rest)

theorem flatMap_ofBlock (subs : List Expression) :
    (subs.map fun e => [e]).flatMap ofBlock = subs := by
  rw [List.flatMap_map]
  exact List.flatMap_singleton' subs

/-- Joined expressions are read from the blocks around each of them. -/
theorem readJunction_blocks {subs : List Expression} (hlength : 2 ≤ subs.length)
    (h : ∀ e ∈ subs, ReadsBlockInFloats block [e]) (label : String)
    (join : List Expression → Expression) (rest : List Char) :
    readJunction block label join
      (bracketed (joinedBy Expression.blockChars subs) ++ rest) =
        .ok (join (subs.map Expression.inFloats), rest) := by
  have hlist : separated ']' (.expected "']'") (fun _ => block)
      (joinedBy Expression.blockChars subs ++ ']' :: rest) =
        .ok ((subs.map Expression.inFloats).map fun e => [e], rest) := by
    rw [List.map_map]
    exact separated_joinedBy closes_bracket Expression.opens_blockChars subs
      (fun e he _ rest _ => h e he rest) rest
  rw [← List.length_map Expression.inFloats] at hlength
  unfold readJunction
  rw [bracketed_append]
  simp only [expect_cons, bind, Except.bind, hlist, flatMap_ofBlock, if_neg (Nat.not_lt.2 hlength),
    labelFault_ok]

/-- **An expression is read from its text if the blocks in it are.** -/
theorem readExpression_inFloats_of_blocks {e : Expression} (he : e.Recoverable)
    (hblocks : ∀ es ∈ e.blocks, ReadsBlockInFloats block es) (hrest : Delimited rest) :
    readExpression block (e.chars ++ rest) = .ok (e.inFloats, rest) := by
  have hbool : ∀ b rest, readBool ((Value.bool b).chars ++ rest) = .ok (b, rest) := by
    intro b rest
    cases b <;> rfl
  have hvalue : ∀ v ∈ e.literals, ReadsInFloats readValue v :=
    fun v hv => readValue_inFloats (he.literals v hv)
  have hitems : ∀ vs : List Value, (∀ v ∈ vs, ReadsInFloats readValue v) → ∀ rest,
      readItems readValue (bracketed (Value.joined vs) ++ rest) =
        .ok (vs.map Value.inFloats, rest) := by
    intro vs hvs rest
    rw [Value.joined_eq]
    exact readItems_joinedBy hvs rest
  have hlegible := he.legible
  cases e with
  | and subs =>
    rw [Expression.chars_and, labelled_append,
      readExpression_and ((opens_bracketed _).append _).solid, Expression.inFloats,
      Expression.inFloatsAll_eq]
    exact readJunction_blocks hlegible (fun e he => hblocks _ (List.mem_map_of_mem he)) _ _ rest
  | or subs =>
    rw [Expression.chars_or, labelled_append,
      readExpression_or ((opens_bracketed _).append _).solid, Expression.inFloats,
      Expression.inFloatsAll_eq]
    exact readJunction_blocks hlegible (fun e he => hblocks _ (List.mem_map_of_mem he)) _ _ rest
  | equal field value =>
    have hread := hvalue value List.mem_cons_self rest hrest
    rw [Expression.chars, labelled_append,
      readExpression_field hlegible (value.opens_chars.append rest).solid,
      readCommand_chars he.unmistakable, readEquality, hread]
    rfl
  | notEqual field value =>
    apply readExpression_of_operand hlegible value.opens_chars
    intro rest hrest
    rw [readOperand, hvalue value List.mem_cons_self rest hrest]
    rfl
  | among field values =>
    apply readExpression_of_operand hlegible (opens_bracketed _)
    intro rest _
    rw [readOperand, hitems values hvalue rest]
    rfl
  | notAmong field values =>
    apply readExpression_of_operand hlegible (opens_bracketed _)
    intro rest _
    rw [readOperand, hitems values hvalue rest]
    rfl
  | exist field =>
    apply readExpression_of_operand hlegible (Value.bool true).opens_chars
    intro rest _
    rw [readOperand, hbool]
    rfl
  | notExist field =>
    apply readExpression_of_operand hlegible (Value.bool false).opens_chars
    intro rest _
    rw [readOperand, hbool]
    rfl
  | compare c field bound =>
    obtain ⟨hfield, hfinite⟩ := hlegible
    cases bound with
    | finite d =>
      apply readExpression_of_operand hfield (Value.float d).opens_chars
      intro rest hrest
      show readOperand block field (.compare c) (d.chars ++ rest) = _
      rw [readOperand, readNumber_chars d hrest]
      rfl
    | infinite negative => cases hfinite
    | nan => cases hfinite
  | regex field pattern =>
    apply readExpression_of_operand hlegible (opens_quoteChars _)
    intro rest _
    rw [readOperand, readString_quoteChars]
    simp only [bind, Except.bind, Pattern.ofSource_source]
    rfl
  | anyElement field exprs =>
    rw [Expression.chars_anyElement, Expression.inFloats, Expression.inFloatsAll_eq]
    apply readExpression_of_operand hlegible (opens_braced _)
    intro rest _
    rw [readOperand, hblocks exprs List.mem_cons_self rest]
    rfl

/-- A block is read if its expressions are. -/
theorem readBlockWithin_of_expressions {fuel : Nat} {value : Expression → Expression}
    {es : List Expression}
    (h : ∀ e ∈ es, ReadsBack (fun _ => readExpression (readBlockWithin fuel)) e.chars (value e))
    (rest : List Char) :
    readBlockWithin (fuel + 1) (braced (joinedBy Expression.chars es) ++ rest) =
      .ok (es.map value, rest) := by
  rw [braced_append, readBlockWithin]
  simp only [expect_cons, bind, Except.bind]
  exact separated_joinedBy closes_brace Expression.opens_chars es h rest

theorem readsBlock_of_expressions {fuel : Nat} {es : List Expression}
    (h : ∀ e ∈ es, ReadsBack (fun _ => readExpression (readBlockWithin fuel)) e.chars e) :
    ReadsBlock (readBlockWithin (fuel + 1)) es := by
  intro rest
  have hread := @readBlockWithin_of_expressions _ fuel (fun e => e) es h rest
  rwa [List.map_id'] at hread

/-- **An expression is read from its text**, with floats for its numbers. -/
theorem readExpression_inFloats {fuel : Nat} {e : Expression} (hfuel : e.chars.length ≤ fuel)
    (he : e.Every Expression.Recoverable) (hrest : Delimited rest) :
    readExpression (readBlockWithin fuel) (e.chars ++ rest) = .ok (e.inFloats, rest) := by
  induction fuel generalizing e rest with
  | zero =>
    have := e.opens_chars.solid.length_pos
    omega
  | succ fuel ih =>
    refine readExpression_inFloats_of_blocks he.self ?_ hrest
    intro es hes
    apply readBlockWithin_of_expressions
    intro x hx index rest hrest
    have hlt := Expression.length_lt_of_mem_blocks hes hx
    exact ih (by omega) (he.of_mem_blocks hes hx) hrest

/-- **A well-formed expression is read from its text.** -/
theorem readExpression_chars {fuel : Nat} {e : Expression} (hfuel : e.chars.length ≤ fuel)
    (hwf : e.Every fun e => e.Writable ∧ e.Unmistakable)
    (hkeys : e.Every Expression.KeysDistinct) (hrest : Delimited rest) :
    readExpression (readBlockWithin fuel) (e.chars ++ rest) = .ok (e, rest) := by
  have hfloats := Expression.inFloats_of_writable e ((Expression.every_and e).1 hwf).1
  rw [readExpression_inFloats hfuel (Expression.every_recoverable hwf hkeys) hrest, hfloats]

/-! ## What is read -/

/-- What reading guarantees of an expression. -/
def Guaranteed (e : Expression) : Prop :=
  (e.Writable ∧ e.Unmistakable) ∧ e.KeysDistinct

theorem every_guaranteed_and {subs : List Expression} (hlength : 2 ≤ subs.length)
    (hall : Expression.everyOf Guaranteed subs) : (Expression.and subs).Every Guaranteed :=
  ⟨⟨⟨hlength, trivial⟩, Expression.keysDistinct_of_literals_eq_nil rfl⟩, hall⟩

theorem every_guaranteed_or {subs : List Expression} (hlength : 2 ≤ subs.length)
    (hall : Expression.everyOf Guaranteed subs) : (Expression.or subs).Every Guaranteed :=
  ⟨⟨⟨hlength, trivial⟩, Expression.keysDistinct_of_literals_eq_nil rfl⟩, hall⟩

section Guarantees

variable {s : List Char}

omit [RegexEngine] in
/-- The first label between the braces is the first key of a document. -/
theorem exists_label_of_readDocument {item : Reader Problem Value} {r : List Char}
    {p : Document × List Char} (h : readDocument item ('\x7b' :: r) = .ok p) :
    p.1 = [] ∨ ∃ label u v entries, readLabel (skipBlanks r) = .ok (label, u) ∧
      p.1 = (label, v) :: entries := by
  unfold readDocument at h
  rw [expect_cons] at h
  obtain ⟨⟨⟨⟩, u⟩, hu, h⟩ := bind_eq_ok_iff.1 h
  obtain rfl : r = u := (Prod.mk.inj (Except.ok.inj hu)).2
  obtain ⟨⟨entries, t⟩, hentries, h⟩ := bind_eq_ok_iff.1 h
  rw [← Except.ok.inj h]
  rcases exists_item_of_separated hentries with hnil | ⟨e, u, es, he, hcons⟩
  · obtain rfl : entries = [] := hnil
    exact .inl rfl
  · obtain rfl : entries = e :: es := hcons
    unfold readEntry at he
    obtain ⟨⟨label, u'⟩, hlabel, he⟩ := bind_eq_ok_iff.1 he
    obtain ⟨⟨v, u''⟩, -, he⟩ := bind_eq_ok_iff.1 he
    obtain ⟨rfl, -⟩ := Prod.mk.inj (Except.ok.inj he)
    obtain ⟨a, r', hfirst⟩ := Assoc.exists_ofWrites_cons (label, v) es
    exact .inr ⟨label, u', a, r', hlabel, hfirst⟩

omit [RegexEngine] in
/-- Only behind a brace stands a value that could be taken for an operation. -/
theorem opensOperation_of_readValue_cons {c : Char} (hc : c ≠ '\x7b') {p : Value × List Char}
    (h : readValue (c :: s) = .ok p) : p.1.opensOperation = false := by
  rw [readValue, readValueWithin_cons] at h
  split at h
  · obtain ⟨q, -, rfl⟩ := map_eq_ok_iff.1 h
    rfl
  split at h
  · obtain ⟨q, -, rfl⟩ := map_eq_ok_iff.1 h
    rfl
  split at h
  · obtain ⟨q, -, rfl⟩ := map_eq_ok_iff.1 h
    rfl
  split at h
  · obtain ⟨q, -, rfl⟩ := map_eq_ok_iff.1 h
    rfl
  split at h
  · obtain ⟨q, -, rfl⟩ := map_eq_ok_iff.1 h
    rfl
  · cases h

omit [RegexEngine] in
/-- Behind a brace, the first label tells. -/
theorem opensOperation_of_readValue_brace {r : List Char} {p : Value × List Char}
    (hlabel : ∀ label u, readLabel (skipBlanks r) = .ok (label, u) →
      Operator.ofName? label = none)
    (h : readValue ('\x7b' :: r) = .ok p) : p.1.opensOperation = false := by
  rw [readValue, readValueWithin_cons, if_neg (by decide), if_pos rfl] at h
  obtain ⟨⟨entries, t⟩, hread, rfl⟩ := map_eq_ok_iff.1 h
  rcases exists_label_of_readDocument hread with hnil | ⟨label, u, v, es, hl, hcons⟩
  · obtain rfl : entries = [] := hnil
    rfl
  · obtain rfl : entries = (label, v) :: es := hcons
    show (Operator.ofName? label).isSome = false
    rw [hlabel label u hl]
    rfl

theorem of_readEquality {field : String} (hfield : field ∉ Operator.reserved)
    {p : Expression × List Char} (h : readEquality field s = .ok p)
    (hplain : ∀ q, readValue s = .ok q → q.1.opensOperation = false) :
    p.1.Every Guaranteed := by
  obtain ⟨q, hq, rfl⟩ := map_eq_ok_iff.1 h
  obtain ⟨hfloat, hkeys⟩ := of_readValue hq
  exact ⟨⟨⟨hfield, hfloat⟩, hplain q hq⟩, List.forall_mem_singleton.2 hkeys⟩

variable {block : Reader Problem (List Expression)}

/-- What an operand gives, the blocks in it being right. -/
theorem of_readOperand
    (hblock : ∀ s p, block s = .ok p → Expression.everyOf Guaranteed p.1) {field : String}
    (hfield : field ∉ Operator.reserved) {op : Operator} {p : Expression × List Char}
    (h : readOperand block field op s = .ok p) : p.1.Every Guaranteed := by
  cases op with
  | exist =>
    obtain ⟨⟨b, t⟩, -, rfl⟩ := map_eq_ok_iff.1 h
    cases b <;> exact ⟨⟨hfield, trivial⟩, Expression.keysDistinct_of_literals_eq_nil rfl⟩
  | among =>
    obtain ⟨⟨vs, t⟩, hvs, rfl⟩ := map_eq_ok_iff.1 h
    have hall := of_readItems of_readValue hvs
    exact ⟨⟨⟨hfield, fun v hv => (hall v hv).1⟩, trivial⟩, fun v hv => (hall v hv).2⟩
  | notAmong =>
    obtain ⟨⟨vs, t⟩, hvs, rfl⟩ := map_eq_ok_iff.1 h
    have hall := of_readItems of_readValue hvs
    exact ⟨⟨⟨hfield, fun v hv => (hall v hv).1⟩, trivial⟩, fun v hv => (hall v hv).2⟩
  | notEqual =>
    obtain ⟨q, hq, rfl⟩ := map_eq_ok_iff.1 h
    obtain ⟨hfloat, hkeys⟩ := of_readValue hq
    exact ⟨⟨⟨hfield, hfloat⟩, trivial⟩, List.forall_mem_singleton.2 hkeys⟩
  | compare c =>
    obtain ⟨q, -, rfl⟩ := map_eq_ok_iff.1 h
    exact ⟨⟨⟨hfield, rfl⟩, trivial⟩, Expression.keysDistinct_of_literals_eq_nil rfl⟩
  | anyElement =>
    obtain ⟨q, hq, rfl⟩ := map_eq_ok_iff.1 h
    exact ⟨⟨⟨hfield, trivial⟩, Expression.keysDistinct_of_literals_eq_nil rfl⟩, hblock _ _ hq⟩
  | regex =>
    obtain ⟨⟨source, t⟩, -, h⟩ := bind_eq_ok_iff.1 h
    simp only at h
    split at h
    · rw [← Except.ok.inj h]
      exact ⟨⟨hfield, trivial⟩, Expression.keysDistinct_of_literals_eq_nil rfl⟩
    · cases h

theorem of_readOperation
    (hblock : ∀ s p, block s = .ok p → Expression.everyOf Guaranteed p.1) {field : String}
    (hfield : field ∉ Operator.reserved) {op : Operator} {p : Expression × List Char}
    (h : readOperation block field op s = .ok p) : p.1.Every Guaranteed := by
  obtain ⟨⟨e, t⟩, he, h⟩ := bind_eq_ok_iff.1 (labelFault_eq_ok_iff.1 h)
  obtain ⟨u, -, h⟩ := bind_eq_ok_iff.1 h
  have hall := of_readOperand hblock hfield he
  rw [← Except.ok.inj h]
  exact hall

/-- A command is read as an operation, or as a value that is not taken for one. -/
theorem readCommand_cases {field : String} {p : Expression × List Char}
    (h : readCommand block field s = .ok p) :
    (∃ r label u op, s = '\x7b' :: r ∧ readLabel (skipBlanks r) = .ok (label, u) ∧
      Operator.ofName? label = some op ∧
        readOperation block field op (skipBlanks u) = .ok p) ∨
      readEquality field s = .ok p ∧ ∀ q, readValue s = .ok q → q.1.opensOperation = false := by
  unfold readCommand at h
  split at h
  · rename_i r
    split at h
    · rename_i t hclosed
      refine .inr ⟨h, fun q => opensOperation_of_readValue_brace ?_⟩
      intro label u hlabel
      rw [hclosed] at hlabel
      cases hlabel
    · rename_i r' hopen
      obtain ⟨⟨label, u⟩, hlabel, h⟩ := bind_eq_ok_iff.1 h
      simp only at h
      split at h
      · rename_i op hop
        exact .inl ⟨r, label, u, op, rfl, hlabel, hop, h⟩
      · rename_i hnone
        refine .inr ⟨h, fun q => opensOperation_of_readValue_brace ?_⟩
        intro label' u' hlabel'
        rw [hlabel] at hlabel'
        rw [← (Prod.mk.inj (Except.ok.inj hlabel')).1]
        exact hnone
  · rename_i hbrace
    refine .inr ⟨h, fun q hq => ?_⟩
    cases s with
    | nil => cases hq
    | cons c s => exact opensOperation_of_readValue_cons (fun hc => hbrace s (hc ▸ rfl)) hq

theorem of_readCommand
    (hblock : ∀ s p, block s = .ok p → Expression.everyOf Guaranteed p.1) {field : String}
    (hfield : field ∉ Operator.reserved) {p : Expression × List Char}
    (h : readCommand block field s = .ok p) : p.1.Every Guaranteed := by
  rcases readCommand_cases h with ⟨_, _, _, _, -, -, -, h⟩ | ⟨h, hplain⟩
  · exact of_readOperation hblock hfield h
  · exact of_readEquality hfield h hplain

/-- What a block stands for under a junction has as many expressions as a junction takes. -/
theorem every_of_mem_ofBlock {es : List Expression} (h : Expression.everyOf Guaranteed es)
    {e : Expression} (he : e ∈ ofBlock es) : e.Every Guaranteed := by
  match es with
  | [] => cases he
  | [x] =>
    rw [List.mem_singleton.1 he]
    exact h.1
  | x :: y :: es =>
    rw [List.mem_singleton.1 he]
    exact every_guaranteed_and (Nat.le_add_left 2 es.length) h

theorem of_readJunction
    (hblock : ∀ s p, block s = .ok p → Expression.everyOf Guaranteed p.1) (label : String)
    (join : List Expression → Expression)
    (hjoin : ∀ {subs : List Expression}, 2 ≤ subs.length → Expression.everyOf Guaranteed subs →
      (join subs).Every Guaranteed) {p : Expression × List Char}
    (h : readJunction block label join s = .ok p) : p.1.Every Guaranteed := by
  obtain ⟨u, -, h⟩ := bind_eq_ok_iff.1 (labelFault_eq_ok_iff.1 h)
  obtain ⟨⟨blocks, t⟩, hblocks, h⟩ := bind_eq_ok_iff.1 h
  simp only at h
  split at h
  · cases h
  · rename_i hlength
    rw [← Except.ok.inj h]
    apply hjoin (Nat.not_lt.1 hlength)
    apply Expression.everyOf_iff.2
    intro e he
    obtain ⟨es, hes, he⟩ := List.mem_flatMap.1 he
    exact every_of_mem_ofBlock (forall_of_separated (fun hb => hblock _ _ hb) hblocks es hes) he

theorem of_readExpression
    (hblock : ∀ s p, block s = .ok p → Expression.everyOf Guaranteed p.1)
    {p : Expression × List Char} (h : readExpression block s = .ok p) : p.1.Every Guaranteed := by
  unfold readExpression at h
  obtain ⟨⟨label, r⟩, -, h⟩ := bind_eq_ok_iff.1 h
  simp only at h
  split at h
  · exact of_readJunction hblock label .and every_guaranteed_and h
  rename_i hand
  split at h
  · exact of_readJunction hblock label .or every_guaranteed_or h
  rename_i hor
  split at h
  · cases labelFault_eq_ok_iff.1 h
  · rename_i hop
    have hfield : label ∉ Operator.reserved :=
      Operator.not_mem_reserved_iff.2 ⟨hand, hor, Option.not_isSome_iff_eq_none.1 hop⟩
    exact of_readCommand hblock hfield (labelFault_eq_ok_iff.1 h)

/-- **What is read is well-formed.** -/
theorem of_readBlockWithin {fuel : Nat} {p : List Expression × List Char}
    (h : readBlockWithin fuel s = .ok p) : Expression.everyOf Guaranteed p.1 := by
  induction fuel generalizing s p with
  | zero => cases h
  | succ fuel ih =>
    rw [readBlockWithin] at h
    obtain ⟨u, -, h⟩ := bind_eq_ok_iff.1 h
    have hitem := forall_of_separated (fun he => of_readExpression (fun _ _ => ih) he) h
    exact Expression.everyOf_iff.2 hitem

end Guarantees

/-! ## Whole texts -/

theorem chars_eq (p : Predicate) : p.chars = braced (joinedBy Expression.chars p) := by
  rw [Predicate.chars, Expression.texts_eq]
  rfl

theorem parse_eq_ok_iff {t : String} {p : Predicate} (ht : t.isEmpty = false) :
    parse t = .ok p ↔ readAll t.toList = .ok p := by
  unfold parse
  rw [if_neg (by rw [ht]; exact Bool.false_ne_true)]
  exact mapError_eq_ok_iff

theorem readAll_eq_ok_iff {s : List Char} {p : Predicate} :
    readAll s = .ok p ↔ ∃ r, readBlock (skipBlanks s) = .ok (p, r) ∧ skipBlanks r = [] := by
  unfold readAll
  rw [bind_eq_ok_iff]
  constructor
  · rintro ⟨⟨es, r⟩, hes, h⟩
    simp only at h
    split at h
    · rename_i hend
      exact ⟨r, by rw [hes, Except.ok.inj h], hend⟩
    · cases h
  · rintro ⟨r, hp, hend⟩
    exact ⟨(p, r), hp, by simp only [hend]⟩

/-- A text between braces is one block. -/
theorem parse_braced_eq_ok_iff {s : List Char} {q : Predicate} :
    parse (String.ofList (braced s)) = .ok q ↔ ∃ r,
      readBlockWithin ((braced s).length + 1) (braced s ++ []) = .ok (q, r) ∧
        skipBlanks r = [] := by
  have hempty : (String.ofList (braced s)).isEmpty = false := by
    apply String.isEmpty_eq_false_iff.2
    intro h
    have hchars : (String.ofList (braced s)).toList = braced s := String.toList_ofList
    rw [h] at hchars
    cases hchars
  have hblank : skipBlanks (braced s) = braced s := skipBlanks_of_solid (opens_braced s).solid
  rw [parse_eq_ok_iff hempty, String.toList_ofList, readAll_eq_ok_iff, hblank, List.append_nil]
  rfl

/-- The text of a predicate is one block. -/
theorem parse_text_eq_ok_iff {p q : Predicate} :
    parse p.text = .ok q ↔ ∃ r, readBlockWithin (p.chars.length + 1)
      (braced (joinedBy Expression.chars p) ++ []) = .ok (q, r) ∧ skipBlanks r = [] := by
  rw [Predicate.text, chars_eq]
  exact parse_braced_eq_ok_iff

theorem length_le_of_mem {p : Predicate} {e : Expression} (he : e ∈ p) :
    e.chars.length ≤ p.chars.length := by
  rw [chars_eq]
  have hjoined := @length_le_joinedBy _ Expression.chars e p he
  have hbraced := length_le_braced (joinedBy Expression.chars p)
  omega

/-- **A predicate is read from its text**, with floats for its numbers. -/
theorem parse_inFloats {p : Predicate} (hp : Expression.everyOf Expression.Recoverable p) :
    parse p.text = .ok p.inFloats := by
  have hread : ReadsBlockInFloats (readBlockWithin (p.chars.length + 1)) p := by
    apply readBlockWithin_of_expressions
    intro e he index rest hrest
    exact readExpression_inFloats (length_le_of_mem he) (Expression.everyOf_iff.1 hp e he) hrest
  exact parse_text_eq_ok_iff.2 ⟨[], hread [], rfl⟩

/-- **A well-formed predicate is read from its text.** -/
theorem parse_text {p : Predicate} (hwf : p.WellFormed) (hkeys : p.KeysDistinct) :
    parse p.text = .ok p := by
  have hp : Expression.everyOf Expression.Recoverable p := by
    refine Expression.everyOf_iff.2 fun e he => ?_
    exact Expression.every_recoverable (Expression.everyOf_iff.1 hwf e he)
      (Expression.everyOf_iff.1 hkeys e he)
  have hfloats : p.inFloats = p := by
    rw [inFloats, ← Expression.inFloatsAll_eq]
    exact Expression.inFloatsAll_of_writable p ((Expression.everyOf_and p).1 hwf).1
  rw [parse_inFloats hp, hfloats]

/-- **What is read is well-formed.** -/
theorem wellFormed_of_parse {t : String} {p : Predicate} (h : parse t = .ok p) :
    p.WellFormed ∧ p.KeysDistinct := by
  rw [WellFormed, KeysDistinct, ← Expression.everyOf_and]
  by_cases ht : t.isEmpty = true
  · unfold parse at h
    rw [if_pos ht] at h
    rw [← Except.ok.inj h]
    trivial
  · rw [parse_eq_ok_iff (Bool.not_eq_true _ ▸ ht)] at h
    obtain ⟨r, hread, -⟩ := readAll_eq_ok_iff.1 h
    exact of_readBlockWithin hread

end Predicate

end DocQuery
