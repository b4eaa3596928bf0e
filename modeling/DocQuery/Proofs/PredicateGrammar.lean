import DocQuery.Proofs.ListGrammar
import DocQuery.Proofs.PredicateText

/-!
# What is read is what the grammar derives

The readers of values, expressions and blocks are sound and complete. Their nesting is bounded by
fuel; every bracket takes a character, so the length of a text is fuel enough for all it holds.

* `Grammar.readValueWithin_sound`, `Grammar.readValueWithin_complete` — values.
* `Grammar.readCommand_sound`, `Grammar.readCommand_operation`, `Grammar.readCommand_equality` —
  commands, which are read as a value again where they are no operation.
* `Grammar.readBlockWithin_sound`, `Grammar.readBlockWithin_complete` — blocks.
* `Predicate.parse_eq_ok_iff_derives` — whole texts.
-/

set_option autoImplicit false

namespace DocQuery.Grammar

open Predicate

/-! ## Values -/

theorem StringText.head {w : List Char} {s : String} (h : StringText w s) :
    ∃ t, w = '"' :: t := by
  cases h <;> exact ⟨_, rfl⟩

theorem ListText.head {α : Type} {R : List Char → α → Prop} {opening closing : Char}
    {w : List Char} {as : List α} (h : ListText R opening closing w as) :
    ∃ t, w = opening :: t := by
  cases h <;> exact ⟨_, rfl⟩

theorem ListText.opens {α : Type} {R : List Char → α → Prop} {opening closing : Char}
    {w : List Char} {as : List α} (h : ListText R opening closing w as)
    (hgap : isGap opening = false) (hcloses : ¬ Closes opening) : Opens w := by
  cases h <;> exact opens_cons hgap hcloses _

theorem EntryText.opens {α : Type} {R : List Char → α → Prop} {w : List Char}
    {e : String × α} (h : EntryText R w e) : Opens w := by
  obtain ⟨header, -⟩ := h
  exact header.opens.append _

theorem NumberText.starts {w : List Char} {d : Double} (h : NumberText w d) :
    ∃ c s, w = c :: s ∧ StartsNumber c := by
  cases h with
  | unsigned numeral _ =>
    obtain ⟨c, s, rfl, hc⟩ := numeral.head
    exact ⟨c, s, rfl, .inl hc⟩
  | negative _ _ => exact ⟨_, _, rfl, .inr rfl⟩

theorem ValueText.opens {w : List Char} {v : Value} (h : ValueText w v) : Opens w := by
  cases h with
  | null => exact opens_cons (by decide) (by decide) _
  | bool text => cases text <;> exact opens_cons (by decide) (by decide) _
  | number text =>
    obtain ⟨c, s, rfl, hc⟩ := text.starts
    exact opens_of_startsNumber hc
  | string text => exact text.opens
  | array list => exact list.opens (by decide) (by decide)
  | object list => exact list.opens (by decide) (by decide)

theorem readNull_sound {s rest : List Char} {u : Unit} (h : readNull s = .ok (u, rest)) :
    s = ['n', 'u', 'l', 'l'] ++ rest := by
  unfold readNull at h
  split at h
  · rw [(Prod.mk.inj (Except.ok.inj h)).2]
    rfl
  · cases h

section Items

variable {item : Reader Problem Value} {R : List Char → Value → Prop}

theorem readItems_sound (hitem : Sound item R) :
    Sound (readItems item) (ListText R '[' ']') := by
  intro s vs rest h
  unfold readItems at h
  obtain ⟨⟨⟨⟩, u⟩, hopen, h⟩ := bind_eq_ok_iff.1 h
  rw [expect_sound hopen]
  have hlabelled : ∀ index : Nat,
      Sound (fun s => labelFault ("item #" ++ toString index) (item s)) R :=
    fun _ _ _ _ hv => hitem (labelFault_eq_ok_iff.1 hv)
  exact separated_sound hlabelled '[' h

theorem readEntry_sound (hitem : Sound item R) : Sound (readEntry item) (EntryText R) := by
  intro s e rest h
  unfold readEntry at h
  obtain ⟨⟨label, u⟩, hlabel, h⟩ := bind_eq_ok_iff.1 h
  obtain ⟨⟨v, u'⟩, hv, h⟩ := bind_eq_ok_iff.1 h
  obtain ⟨rfl, rfl⟩ := Prod.mk.inj (Except.ok.inj h)
  obtain ⟨h', rfl, header⟩ := readLabel_sound hlabel
  obtain ⟨w, hw, hvalue⟩ := hitem hv
  exact ⟨h' ++ w, by rw [hw, List.append_assoc], .intro header hvalue⟩

theorem readDocument_sound (hitem : Sound item R) {s : List Char} {m : Document}
    {rest : List Char} (h : readDocument item s = .ok (m, rest)) :
    ∃ w entries, s = w ++ rest ∧ m = Assoc.ofWrites entries ∧
      ListText (EntryText R) '\x7b' '\x7d' w entries := by
  unfold readDocument at h
  obtain ⟨⟨⟨⟩, u⟩, hopen, h⟩ := bind_eq_ok_iff.1 h
  obtain ⟨⟨entries, u'⟩, hentries, h⟩ := bind_eq_ok_iff.1 h
  obtain ⟨rfl, rfl⟩ := Prod.mk.inj (Except.ok.inj h)
  rw [expect_sound hopen]
  obtain ⟨w, hw, hlist⟩ := separated_sound (fun _ => readEntry_sound hitem) '\x7b' hentries
  exact ⟨w, entries, hw, rfl, hlist⟩

variable {n : Nat}

theorem readItems_complete (hopens : ∀ w v, R w v → Opens w) (hitem : Complete n item R)
    {w : List Char} {vs : List Value} (h : ListText R '[' ']' w vs) (hlength : w.length ≤ n + 1)
    (rest : List Char) : readItems item (w ++ rest) = .ok (vs, rest) := by
  have hlabelled : ∀ index : Nat,
      Complete n (fun s => labelFault ("item #" ++ toString index) (item s)) R :=
    fun _ _ _ hv hle _ hrest => labelFault_eq_ok_iff.2 (hitem hv hle hrest)
  obtain ⟨s, hs, hread⟩ := separated_complete (.expected "',' or ']'")
    closes_bracket hopens hlabelled h hlength rest
  unfold readItems
  rw [hs]
  simp only [expect_cons, bind, Except.bind]
  exact hread

theorem readEntry_complete (hopens : ∀ w v, R w v → Opens w) (hitem : Complete n item R) :
    Complete n (readEntry item) (EntryText R) := by
  intro w e h hlength rest hrest
  obtain ⟨header, value⟩ := h
  rename_i g u label v
  rw [List.length_append] at hlength
  obtain ⟨r, hlabel, hr⟩ := readLabel_complete header ((hopens _ _ value).append rest).solid
  unfold readEntry
  rw [List.append_assoc]
  simp only [hlabel, bind, Except.bind, hr, hitem value (by omega) hrest]

theorem readDocument_complete (hopens : ∀ w v, R w v → Opens w) (hitem : Complete n item R)
    {w : List Char} {entries : List (String × Value)}
    (h : ListText (EntryText R) '\x7b' '\x7d' w entries) (hlength : w.length ≤ n + 1)
    (rest : List Char) :
    readDocument item (w ++ rest) = .ok (Assoc.ofWrites entries, rest) := by
  obtain ⟨s, hs, hread⟩ := separated_complete (.expected "'\x7d'")
    closes_brace (fun _ _ => EntryText.opens) (fun _ => readEntry_complete hopens hitem) h hlength
    rest
  unfold readDocument
  rw [hs]
  simp only [expect_cons, bind, Except.bind, hread]

end Items

/-- **Values are read soundly.** -/
theorem readValueWithin_sound (fuel : Nat) : Sound (readValueWithin fuel) ValueText := by
  induction fuel with
  | zero => exact fun _ _ _ h => nomatch h
  | succ fuel ih =>
    intro s v rest h
    cases s with
    | nil => cases h
    | cons c s =>
      rw [readValueWithin_cons] at h
      split at h
      · obtain ⟨⟨a, r⟩, ha, heq⟩ := map_eq_ok_iff.1 h
        obtain ⟨rfl, rfl⟩ := Prod.mk.inj heq
        obtain ⟨w, hw, htext⟩ := readString_sound ha
        exact ⟨w, hw, .string htext⟩
      split at h
      · obtain ⟨⟨a, r⟩, ha, heq⟩ := map_eq_ok_iff.1 h
        obtain ⟨rfl, rfl⟩ := Prod.mk.inj heq
        obtain ⟨w, entries, hw, rfl, hlist⟩ := readDocument_sound ih ha
        exact ⟨w, hw, .object hlist⟩
      split at h
      · obtain ⟨⟨a, r⟩, ha, heq⟩ := map_eq_ok_iff.1 h
        obtain ⟨rfl, rfl⟩ := Prod.mk.inj heq
        obtain ⟨w, hw, hlist⟩ := readItems_sound ih ha
        exact ⟨w, hw, .array hlist⟩
      split at h
      · obtain ⟨⟨a, r⟩, ha, heq⟩ := map_eq_ok_iff.1 h
        obtain ⟨rfl, rfl⟩ := Prod.mk.inj heq
        obtain ⟨w, hw, htext⟩ := readBool_sound ha
        exact ⟨w, hw, .bool htext⟩
      split at h
      · obtain ⟨⟨⟨⟩, r⟩, ha, heq⟩ := map_eq_ok_iff.1 h
        obtain ⟨rfl, rfl⟩ := Prod.mk.inj heq
        exact ⟨_, readNull_sound ha, .null⟩
      split at h
      · obtain ⟨⟨a, r⟩, ha, heq⟩ := map_eq_ok_iff.1 h
        obtain ⟨rfl, rfl⟩ := Prod.mk.inj heq
        obtain ⟨w, hw, htext⟩ := readNumber_sound ha
        exact ⟨w, hw, .number htext⟩
      · cases h

/-- **Every value is read**, with fuel for the length of its text. -/
theorem readValueWithin_complete (fuel : Nat) :
    Complete fuel (readValueWithin fuel) ValueText := by
  induction fuel with
  | zero =>
    intro w v h hlength
    have := h.opens.solid.length_pos
    omega
  | succ fuel ih =>
    intro w v h hlength rest hrest
    cases h with
    | null => rfl
    | bool text => cases text <;> rfl
    | number text =>
      have hread := readNumber_complete _ text hlength hrest
      obtain ⟨c, s, rfl, hc⟩ := text.starts
      rw [List.cons_append] at hread ⊢
      rw [readValueWithin_number hc, hread]
      rfl
    | string text =>
      have hread := readString_complete text rest
      obtain ⟨t, rfl⟩ := text.head
      rw [List.cons_append] at hread ⊢
      rw [readValueWithin_cons, if_pos rfl, hread]
      rfl
    | array list =>
      have hread := readItems_complete (fun _ _ => ValueText.opens) ih list hlength rest
      obtain ⟨t, rfl⟩ := list.head
      rw [List.cons_append] at hread ⊢
      rw [readValueWithin_cons, if_neg (by decide), if_neg (by decide), if_pos rfl, hread]
      rfl
    | object list =>
      have hread := readDocument_complete (fun _ _ => ValueText.opens) ih list hlength rest
      obtain ⟨t, rfl⟩ := list.head
      rw [List.cons_append] at hread ⊢
      rw [readValueWithin_cons, if_neg (by decide), if_pos rfl, hread]
      rfl

theorem readValue_sound : Sound readValue ValueText :=
  fun _ _ _ h => readValueWithin_sound _ h

theorem readValue_complete (n : Nat) : Complete n readValue ValueText := by
  intro w v h _ rest hrest
  refine readValueWithin_complete _ h ?_ hrest
  rw [List.length_append]
  omega

/-! ## Operands -/

variable [RegexEngine]

/-- Every block of at most `n` characters is read, whatever stands after it. -/
def BlockComplete (n : Nat) (block : Reader Problem (List Expression)) : Prop :=
  ∀ ⦃w es⦄, BlockText w es → w.length ≤ n → ∀ rest, block (w ++ rest) = .ok (es, rest)

section Expressions

variable {block : Reader Problem (List Expression)} {n : Nat} {field : String}

theorem readOperand_sound (hblock : Sound block BlockText) (op : Operator) :
    Sound (readOperand block field op) (OperandText BlockText op field) := by
  intro s e rest h
  cases op with
  | exist =>
    obtain ⟨⟨b, r⟩, hb, heq⟩ := map_eq_ok_iff.1 h
    obtain ⟨rfl, rfl⟩ := Prod.mk.inj heq
    obtain ⟨w, hw, htext⟩ := readBool_sound hb
    cases b with
    | true => exact ⟨w, hw, .exist htext⟩
    | false => exact ⟨w, hw, .notExist htext⟩
  | among =>
    obtain ⟨⟨vs, r⟩, hvs, heq⟩ := map_eq_ok_iff.1 h
    obtain ⟨rfl, rfl⟩ := Prod.mk.inj heq
    obtain ⟨w, hw, hlist⟩ := readItems_sound readValue_sound hvs
    exact ⟨w, hw, .among hlist⟩
  | notAmong =>
    obtain ⟨⟨vs, r⟩, hvs, heq⟩ := map_eq_ok_iff.1 h
    obtain ⟨rfl, rfl⟩ := Prod.mk.inj heq
    obtain ⟨w, hw, hlist⟩ := readItems_sound readValue_sound hvs
    exact ⟨w, hw, .notAmong hlist⟩
  | notEqual =>
    obtain ⟨⟨v, r⟩, hv, heq⟩ := map_eq_ok_iff.1 h
    obtain ⟨rfl, rfl⟩ := Prod.mk.inj heq
    obtain ⟨w, hw, hvalue⟩ := readValue_sound hv
    exact ⟨w, hw, .notEqual hvalue⟩
  | compare c =>
    obtain ⟨⟨d, r⟩, hd, heq⟩ := map_eq_ok_iff.1 h
    obtain ⟨rfl, rfl⟩ := Prod.mk.inj heq
    obtain ⟨w, hw, hnumber⟩ := readNumber_sound hd
    exact ⟨w, hw, .compare hnumber⟩
  | anyElement =>
    obtain ⟨⟨es, r⟩, hes, heq⟩ := map_eq_ok_iff.1 h
    obtain ⟨rfl, rfl⟩ := Prod.mk.inj heq
    obtain ⟨w, hw, hlist⟩ := hblock hes
    exact ⟨w, hw, .anyElement hlist⟩
  | regex =>
    obtain ⟨⟨source, r⟩, hsource, h⟩ := bind_eq_ok_iff.1 h
    simp only at h
    split at h
    · rename_i pattern hvalid
      obtain ⟨rfl, rfl⟩ := Prod.mk.inj (Except.ok.inj h)
      obtain ⟨w, hw, htext⟩ := readString_sound hsource
      exact ⟨w, hw, .regex htext hvalid⟩
    · cases h

theorem readOperand_complete (hblock : BlockComplete n block) (op : Operator) :
    Complete n (readOperand block field op) (OperandText BlockText op field) := by
  have hitems : ∀ {w vs}, ListText ValueText '[' ']' w vs → ∀ rest,
      readItems readValue (w ++ rest) = .ok (vs, rest) := by
    intro w vs list rest
    exact readItems_complete (fun _ _ => ValueText.opens) (readValue_complete w.length) list
      (Nat.le_succ _) rest
  intro w e h hlength rest hrest
  cases h with
  | exist text | notExist text =>
    rw [readOperand, readBool_complete text]
    rfl
  | among list | notAmong list =>
    rw [readOperand, hitems list]
    rfl
  | notEqual value =>
    rw [readOperand, readValue_complete n value hlength hrest]
    rfl
  | compare number =>
    rw [readOperand, readNumber_complete n number hlength hrest]
    rfl
  | regex string valid =>
    rw [readOperand, readString_complete string]
    simp only [bind, Except.bind, valid]
  | anyElement block =>
    rw [readOperand, hblock block hlength]
    rfl

theorem OperandText.opens {op : Operator} {w : List Char} {e : Expression}
    (h : OperandText BlockText op field w e) : Opens w := by
  cases h with
  | exist text | notExist text => cases text; exact opens_cons (by decide) (by decide) _
  | among list | notAmong list => exact list.opens (by decide) (by decide)
  | notEqual value => exact value.opens
  | compare number =>
    obtain ⟨c, s, rfl, hc⟩ := number.starts
    exact opens_of_startsNumber hc
  | regex string _ => exact string.opens
  | anyElement block => exact block.opens (by decide) (by decide)

/-! ## Commands -/

theorem readCommand_sound (hblock : Sound block BlockText) :
    Sound (readCommand block field) fun w e => CommandText BlockText w field e := by
  intro s e rest h
  rcases readCommand_cases h with ⟨r, label, u, op, rfl, hlabel, hop, h⟩ | ⟨h, hplain⟩
  · obtain ⟨⟨e', t⟩, he, h⟩ := bind_eq_ok_iff.1 (labelFault_eq_ok_iff.1 h)
    obtain ⟨⟨⟨⟩, t'⟩, hclose, h⟩ := bind_eq_ok_iff.1 h
    obtain ⟨rfl, rfl⟩ := Prod.mk.inj (Except.ok.inj h)
    obtain ⟨b, hb, hr⟩ := exists_blanks r
    obtain ⟨g, hg, header⟩ := readLabel_sound hlabel
    obtain ⟨w, hw, hoperand⟩ := readOperand_sound hblock op he
    obtain ⟨b', hb', ht⟩ := exists_blanks t
    have hname := Operator.name_of_ofName? hop
    refine ⟨_, ?_, .operation hb (hname ▸ header) hoperand hb'⟩
    rw [hr, hg, hw, ht, expect_sound hclose]
    simp only [List.append_assoc, List.cons_append, List.nil_append]
  · obtain ⟨⟨v, r⟩, hv, heq⟩ := map_eq_ok_iff.1 h
    obtain ⟨rfl, rfl⟩ := Prod.mk.inj heq
    obtain ⟨w, hw, hvalue⟩ := readValue_sound hv
    exact ⟨w, hw, .equality hvalue (hplain _ hv)⟩

/-- An operator with its operand is read as an operation. -/
theorem readCommand_operation_complete (hblock : BlockComplete n block) {b h w b' : List Char}
    {op : Operator} {e : Expression} (before : Blanks b) (operator : HeaderText h op.name)
    (operand : OperandText BlockText op field w e) (after : Blanks b') (hlength : w.length ≤ n)
    (rest : List Char) :
    readCommand block field ('\x7b' :: (b ++ (h ++ (w ++ (b' ++ '\x7d' :: rest))))) =
      .ok (e, rest) := by
  have hclose := closes_brace.delimited rest
  obtain ⟨r, hlabel, hr⟩ := readLabel_complete operator
    (operand.opens.append (b' ++ '\x7d' :: rest)).solid
  have hopens := operator.opens.append (w ++ (b' ++ '\x7d' :: rest))
  have hread := readOperand_complete hblock op operand hlength (after.ended hclose)
  have hblank := skipBlanks_append_of_solid after hclose.solid
  rw [readCommand_label (skipBlanks_append_of_solid before hopens.solid) hopens hlabel,
    Operator.ofName?_name, hr]
  unfold readOperation
  simp only [hread, bind, Except.bind, hblank, expect_cons, labelFault_ok]

omit [RegexEngine] in
theorem SeriesText.first {α : Type} {R : List Char → α → Prop} {w : List Char} {as : List α}
    (h : SeriesText R w as) :
    ∃ b u t a as', w = b ++ (u ++ t) ∧ Blanks b ∧ R u a ∧ as = a :: as' := by
  cases h with
  | last before item _ => exact ⟨_, _, _, _, [], rfl, before, item, rfl⟩
  | cons before item _ _ => exact ⟨_, _, _, _, _, rfl, before, item, rfl⟩

/-- A value that is not taken for an operation is read as a value. -/
theorem readCommand_value {w : List Char} {v : Value} (h : ValueText w v)
    (plain : v.opensOperation = false) (rest : List Char) :
    readCommand block field (w ++ rest) = readEquality field (w ++ rest) := by
  cases h with
  | null => exact readCommand_of_ne (by decide) _
  | bool text => cases text <;> exact readCommand_of_ne (by decide) _
  | number text =>
    obtain ⟨c, s, rfl, hc⟩ := text.starts
    exact readCommand_of_ne (hc.ne (by decide) (by decide)) _
  | string text =>
    obtain ⟨t, rfl⟩ := text.head
    exact readCommand_of_ne (by decide) _
  | array list =>
    obtain ⟨t, rfl⟩ := list.head
    exact readCommand_of_ne (by decide) _
  | object list =>
    cases list with
    | @empty b blanks =>
      have hblank := skipBlanks_append_of_solid blanks (closes_brace.delimited rest).solid
      rw [List.cons_append, List.append_assoc]
      unfold readCommand
      simp only [List.cons_append, List.nil_append, hblank]
    | items series =>
      obtain ⟨b, u, t, ⟨label, a⟩, es, rfl, hb, ⟨header, value⟩, rfl⟩ := series.first
      rename_i h' u'
      obtain ⟨a', r', hfirst⟩ := Assoc.exists_ofWrites_cons (label, a) es
      rw [hfirst] at plain
      have hnone : Operator.ofName? label = none :=
        Option.not_isSome_iff_eq_none.1 (Bool.not_eq_true _ ▸ plain)
      obtain ⟨r, hlabel, -⟩ := readLabel_complete header
        (value.opens.append (t ++ '\x7d' :: rest)).solid
      have hopens := header.opens.append (u' ++ (t ++ '\x7d' :: rest))
      have hcommand := @readCommand_label _ block field _ _ _ _
        (skipBlanks_append_of_solid hb hopens.solid) hopens hlabel
      rw [hnone] at hcommand
      simp only [List.cons_append, List.append_assoc, List.nil_append]
      exact hcommand

theorem readCommand_complete (hblock : BlockComplete n block) :
    Complete n (readCommand block field) fun w e => CommandText BlockText w field e := by
  intro w e h hlength rest hrest
  cases h with
  | operation before operator operand after =>
    simp only [List.length_cons, List.length_append] at hlength
    simp only [List.cons_append, List.append_assoc, List.nil_append]
    exact readCommand_operation_complete hblock before operator operand after (by omega) rest
  | equality value plain =>
    rw [readCommand_value value plain, readEquality, readValue_complete n value hlength hrest]
    rfl

theorem CommandText.opens {w : List Char} {e : Expression}
    (h : CommandText BlockText w field e) : Opens w := by
  cases h with
  | operation => exact opens_cons (by decide) (by decide) _
  | equality value _ => exact value.opens

/-! ## Expressions -/

/-- What stands under `$and` and `$or`. -/
def JunctionText (join : List Expression → Expression) (w : List Char) (e : Expression) : Prop :=
  ∃ blocks, ListText BlockText '[' ']' w blocks ∧ 2 ≤ (blocks.flatMap ofBlock).length ∧
    e = join (blocks.flatMap ofBlock)

theorem readJunction_sound (hblock : Sound block BlockText) (label : String)
    (join : List Expression → Expression) :
    Sound (readJunction block label join) (JunctionText join) := by
  intro s e rest h
  obtain ⟨⟨⟨⟩, u⟩, hopen, h⟩ := bind_eq_ok_iff.1 (labelFault_eq_ok_iff.1 h)
  obtain ⟨⟨blocks, t⟩, hblocks, h⟩ := bind_eq_ok_iff.1 h
  simp only at h
  split at h
  · cases h
  · rename_i htwo
    obtain ⟨rfl, rfl⟩ := Prod.mk.inj (Except.ok.inj h)
    obtain ⟨w, hw, hlist⟩ := separated_sound (fun _ => hblock) '[' hblocks
    rw [expect_sound hopen]
    exact ⟨w, hw, blocks, hlist, Nat.not_lt.1 htwo, rfl⟩

theorem readJunction_complete (hblock : BlockComplete n block) (label : String)
    (join : List Expression → Expression) :
    Complete n (readJunction block label join) (JunctionText join) := by
  intro w e h hlength rest hrest
  obtain ⟨blocks, hlist, htwo, rfl⟩ := h
  have hitem : ∀ _ : Nat, Complete n block BlockText :=
    fun _ _ _ hb hle _ _ => hblock hb hle _
  obtain ⟨s, hs, hread⟩ := separated_complete (.expected "']'") closes_bracket
    (fun _ _ hb => hb.opens (by decide) (by decide)) hitem hlist (Nat.le_succ_of_le hlength) rest
  unfold readJunction
  rw [hs]
  simp only [expect_cons, bind, Except.bind, hread, if_neg (Nat.not_lt.2 htwo), labelFault_ok]

/-- **Expressions are read soundly.** -/
theorem readExpression_sound (hblock : Sound block BlockText) :
    Sound (readExpression block) ExpressionText := by
  intro s e rest h
  unfold readExpression at h
  obtain ⟨⟨label, r⟩, hlabel, h⟩ := bind_eq_ok_iff.1 h
  obtain ⟨g, rfl, header⟩ := readLabel_sound hlabel
  simp only at h
  split at h
  · rename_i hand
    obtain ⟨w, hw, blocks, hlist, htwo, rfl⟩ := readJunction_sound hblock _ _ h
    exact ⟨g ++ w, by rw [hw, List.append_assoc], .and (hand ▸ header) hlist htwo⟩
  rename_i hand
  split at h
  · rename_i hor
    obtain ⟨w, hw, blocks, hlist, htwo, rfl⟩ := readJunction_sound hblock _ _ h
    exact ⟨g ++ w, by rw [hw, List.append_assoc], .or (hor ▸ header) hlist htwo⟩
  rename_i hor
  split at h
  · cases labelFault_eq_ok_iff.1 h
  · rename_i hop
    have hfield : label ∉ Operator.reserved :=
      Operator.not_mem_reserved_iff.2 ⟨hand, hor, Option.not_isSome_iff_eq_none.1 hop⟩
    obtain ⟨w, hw, hcommand⟩ := readCommand_sound hblock (labelFault_eq_ok_iff.1 h)
    exact ⟨g ++ w, by rw [hw, List.append_assoc], .field header hfield hcommand⟩

/-- **Every expression is read** if the blocks in it are. -/
theorem readExpression_complete (hblock : BlockComplete n block) :
    Complete n (readExpression block) ExpressionText := by
  intro w e h hlength rest hrest
  cases h with
  | @and h w blocks header list two =>
    rw [List.length_append] at hlength
    have hopens := (list.opens (by decide) (by decide)).append rest
    obtain ⟨r, hlabel, hr⟩ := readLabel_complete header hopens.solid
    unfold readExpression
    rw [List.append_assoc]
    simp only [hlabel, bind, Except.bind, hr, if_true]
    exact readJunction_complete hblock _ _ ⟨blocks, list, two, rfl⟩ (by omega) hrest
  | @or h w blocks header list two =>
    rw [List.length_append] at hlength
    have hopens := (list.opens (by decide) (by decide)).append rest
    have hne : Operator.orName ≠ Operator.andName := by decide
    obtain ⟨r, hlabel, hr⟩ := readLabel_complete header hopens.solid
    unfold readExpression
    rw [List.append_assoc]
    simp only [hlabel, bind, Except.bind, hr, if_neg hne, if_true]
    exact readJunction_complete hblock _ _ ⟨blocks, list, two, rfl⟩ (by omega) hrest
  | @field h w label e header unreserved command =>
    rw [List.length_append] at hlength
    obtain ⟨hand, hor, hop⟩ := Operator.not_mem_reserved_iff.1 unreserved
    obtain ⟨r, hlabel, hr⟩ := readLabel_complete header (command.opens.append rest).solid
    unfold readExpression
    rw [List.append_assoc]
    simp only [hlabel, bind, Except.bind, hr, if_neg hand, if_neg hor, hop, Option.isSome_none,
      Bool.false_eq_true, if_false]
    exact labelFault_eq_ok_iff.2 (readCommand_complete hblock command (by omega) hrest)

theorem ExpressionText.opens {w : List Char} {e : Expression} (h : ExpressionText w e) :
    Opens w := by
  cases h with
  | and header _ _ | or header _ _ | field header _ _ => exact header.opens.append _

end Expressions

/-! ## Blocks -/

/-- **Blocks are read soundly.** -/
theorem readBlockWithin_sound (fuel : Nat) : Sound (readBlockWithin fuel) BlockText := by
  induction fuel with
  | zero => exact fun _ _ _ h => nomatch h
  | succ fuel ih =>
    intro s es rest h
    rw [readBlockWithin] at h
    obtain ⟨⟨⟨⟩, u⟩, hopen, h⟩ := bind_eq_ok_iff.1 h
    rw [expect_sound hopen]
    exact separated_sound (fun _ => readExpression_sound ih) '\x7b' h

/-- **Every block is read**, with fuel for the length of its text. -/
theorem readBlockWithin_complete (fuel : Nat) : BlockComplete fuel (readBlockWithin fuel) := by
  induction fuel with
  | zero =>
    intro w es h hlength
    have := (h.opens (by decide) (by decide)).solid.length_pos
    omega
  | succ fuel ih =>
    intro w es h hlength rest
    obtain ⟨s, hs, hread⟩ := separated_complete (.expected "'\x7d'") closes_brace
      (fun _ _ => ExpressionText.opens) (fun _ => readExpression_complete ih) h hlength rest
    rw [hs, readBlockWithin]
    simp only [expect_cons, bind, Except.bind]
    exact hread

end DocQuery.Grammar

namespace DocQuery.Predicate

open Grammar

variable [RegexEngine]

/-- **A whole text is read as the predicate that the grammar derives from it.** -/
theorem readAll_iff_predicateText {s : List Char} {p : Predicate} :
    readAll s = .ok p ↔ PredicateText s p := by
  rw [readAll_eq_ok_iff]
  constructor
  · rintro ⟨r, hread, hend⟩
    obtain ⟨b, hb, hs⟩ := exists_blanks s
    obtain ⟨w, hw, hblock⟩ := readBlockWithin_sound _ hread
    obtain ⟨b', hb', hr⟩ := exists_blanks r
    rw [hend, List.append_nil] at hr
    rw [hs, hw, hr]
    exact .intro hb hblock hb'
  · rintro ⟨before, block, after⟩
    rename_i b w b'
    have hopens : Opens w := block.opens (by decide) (by decide)
    refine ⟨b', ?_, List.dropWhile_eq_nil_iff.2 after⟩
    rw [skipBlanks_append_of_solid before (hopens.append b').solid, readBlock]
    refine readBlockWithin_complete _ block ?_ b'
    rw [List.length_append]
    omega

/-- **A text is accepted exactly if the grammar derives a predicate from it**, and it is this
predicate; the empty text is the empty predicate. -/
theorem parse_eq_ok_iff_derives (t : String) (p : Predicate) :
    parse t = .ok p ↔ (t = "" ∧ p = []) ∨ PredicateText t.toList p := by
  by_cases ht : t.isEmpty = true
  · obtain rfl : t = "" := String.isEmpty_iff.1 ht
    have hnone : ¬ PredicateText "".toList p := by
      intro h
      have hread := readAll_iff_predicateText.2 h
      cases hread
    unfold parse
    rw [if_pos ht]
    constructor
    · intro h
      exact .inl ⟨rfl, (Except.ok.inj h).symm⟩
    · rintro (⟨-, rfl⟩ | h)
      · rfl
      · exact absurd h hnone
  · rw [parse_eq_ok_iff (Bool.not_eq_true _ ▸ ht), readAll_iff_predicateText]
    constructor
    · exact .inr
    · rintro (⟨rfl, -⟩ | h)
      · exact absurd rfl ht
      · exact h

end DocQuery.Predicate
