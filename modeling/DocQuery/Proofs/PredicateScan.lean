import DocQuery.Predicate.Scan
import DocQuery.Proofs.Agreement
import DocQuery.Proofs.PredicateGrammar

/-!
# Predicates are scanned as they are read

Every function of the scan of predicates follows the reader of the same rule, so the whole scan
gives what the parser gives: it is never in breach, and it fails at a boundary of the text.

* `Predicate.follows_value` — values, by the depth of their nesting.
* `Predicate.follows_block` — blocks.

Main statement: `Predicate.scan_eq`.
-/

set_option autoImplicit false

namespace DocQuery.Predicate

open Scan

variable {text : String} {s : List Char} {n : Nat}

/-- A scan of predicates follows a reader of predicates. -/
abbrev Scans {α : Type} (text : String) (n : Nat) (m : Scan α) (read : Reader Problem α) : Prop :=
  Follows Problem.text text n m read

/-! ## Literals -/

theorem follows_string : Scans text n scanString readString := by
  intro s h hn
  have hwording : ∀ e : Literal.Problem, (∀ digits, e ≠ .badNumber digits) →
      e.text = e.quotingText := by
    intro e he
    cases e with
    | badNumber digits => exact absurd rfl (he digits)
    | notString | unclosedString | badString | notNumber | outOfRange => rfl
  have hquoted : Follows Literal.Problem.quotingText text n (quoted '"') (Literal.string '"') :=
    Follows.quoted (by decide) (by decide) hwording
  exact (hquoted h hn).mapProblem Problem.literal fun _ => rfl

theorem follows_number : Scans text n scanNumber readNumber := by
  intro s h hn
  have hfloat : Follows Literal.Problem.quotingText text n scanNumber Literal.number :=
    Follows.float rfl rfl fun _ => rfl
  exact (hfloat h hn).mapProblem Problem.literal fun _ => rfl

theorem follows_bool : Scans text n scanBool readBool := by
  intro s h _
  rw [scanBool]
  by_cases htrue : "true".toList <+: s
  · obtain ⟨r, rfl⟩ := htrue
    exact Agrees.word h rfl
  · rw [bind_ok (startsWith_of_not h htrue), if_neg Bool.false_ne_true]
    by_cases hfalse : "false".toList <+: s
    · obtain ⟨r, rfl⟩ := hfalse
      exact Agrees.word h rfl
    · rw [bind_ok (startsWith_of_not h hfalse), if_neg Bool.false_ne_true]
      unfold readBool
      split
      · exact absurd ⟨_, rfl⟩ htrue
      · exact absurd ⟨_, rfl⟩ hfalse
      · exact .fail rfl

theorem follows_null : Scans text n scanNull readNull := by
  intro s h _
  rw [scanNull]
  by_cases hnull : "null".toList <+: s
  · obtain ⟨r, rfl⟩ := hnull
    rw [bind_ok (startsWith_append h), if_pos rfl, bind_ok (m := cursor) rfl,
      moveTo_behind (k := 4) h rfl]
    exact .value (List.suffix_append _ r)
  · rw [bind_ok (startsWith_of_not h hnull), if_neg Bool.false_ne_true]
    unfold readNull
    split
    · exact absurd ⟨_, rfl⟩ hnull
    · exact .fail rfl

/-! ## Labels -/

theorem isLabelChar_lt (c : Char) (h : isLabelChar c = true) : c.toNat < 128 := by
  simp only [isLabelChar, Bool.or_eq_true, beq_iff_eq] at h
  rcases h with (((h | rfl) | rfl) | rfl) | rfl
  · exact isAlphanum_lt c h
  all_goals decide

theorem follows_bareLabel : Scans text n scanBareLabel readBareLabel := by
  intro s h _
  have hend := runEnd_place (p := place text s) (by decide) isLabelChar_lt h
  rw [scanBareLabel, bind_ok (m := cursor) rfl, bind_ok hend, readBareLabel]
  by_cases hnil : s.takeWhile isLabelChar = []
  · rw [if_pos ((place_dropWhile_eq_iff _ h).2 hnil)]
    simp only [if_pos hnil]
    exact Agrees.missing h rfl
  · have hrest : s.dropWhile isLabelChar <:+ s := List.dropWhile_suffix _
    rw [if_neg fun heq => hnil ((place_dropWhile_eq_iff _ h).1 heq), bind_ok (slice_run _ h),
      bind_ok (moveTo_place (hrest.trans h))]
    simp only [if_neg hnil]
    exact .value hrest

theorem follows_require (c : Char) (wanted : String) (hpos : 0 < c.toNat) (hc : c.toNat < 128) :
    Scans text n (require c wanted) (expect c (.expected wanted)) :=
  Follows.require hpos hc fun _ => rfl

/-- The colon behind a label. -/
theorem agrees_colon (label : String) (h : s <:+ text.toList) :
    Agrees Problem.text text s
      ((do
        skipGaps
        require ':' "':'"
        pure label) text (place text s))
      ((expect ':' (.expected "':'") (skipBlanks s)) >>= fun x => .ok (label, x.2)) := by
  have hblanks := skipBlanks_suffix s
  have hrequire : Scans text (s.length + 1) _ _ := follows_require ':' "':'" (by decide) (by decide)
  have hcolon := hrequire.at h hblanks (Nat.lt_succ_self _)
  rw [bind_ok (skipGaps_place h)]
  exact Agrees.mono hblanks (hcolon.seq fun _ _ _ _ => .value List.suffix_rfl)

theorem follows_label : Scans text n scanLabel readLabel := by
  intro s h hn
  have hquote := beq_ascii_peekByte (c := '"') (by decide) (by decide) s
  rw [scanLabel]
  have hread : Agrees Problem.text text s (scanLabelText text (place text s))
      (if s.head? = some '"' then labelFault "invalid label" (readString s)
        else readBareLabel s) := by
    rw [scanLabelText, bind_ok (peek_place h), hquote]
    by_cases hs : s.head? = some '"'
    · rw [if_pos (by simpa using hs), if_pos hs]
      exact (follows_string h hn).under (.under "invalid label") fun _ => rfl
    · rw [if_neg (by simpa using hs), if_neg hs]
      exact follows_bareLabel h hn
  have hlabel : readLabel s = (if s.head? = some '"' then labelFault "invalid label" (readString s)
      else readBareLabel s) >>= fun x =>
        (expect ':' (.expected "':'") (skipBlanks x.2)) >>= fun y => .ok (x.1, y.2) := by
    unfold readLabel
    split
    · rw [List.head?_cons, if_pos rfl]
    · rename_i hne
      rw [if_neg]
      intro hs
      cases s with
      | nil => cases hs
      | cons c t => exact hne t (by rw [Option.some.inj hs])
  rw [hlabel]
  exact hread.seq fun label rest _ hrest => agrees_colon label (hrest.trans h)

/-! ## Lists -/

/-- A list between an opening and a closing character: fewer characters are left of its items. -/
theorem follows_enclosed {α : Type} {item : Nat → Scan α} {read : Nat → Reader Problem α}
    (opening : Char) (start : String) (closing : Char) (stop : String)
    (hopening : 0 < opening.toNat ∧ opening.toNat < 128)
    (hclosing : 0 < closing.toNat ∧ closing.toNat < 128)
    (hconsumes : ∀ index s a rest, read index s = .ok (a, rest) → rest.length < s.length)
    (hitem : ∀ index, Scans text n (item index) (read index)) :
    Scans text (n + 1) (enclosed opening start closing stop item) fun s =>
      (expect opening (.expected start) s) >>= fun x =>
        separated closing (.expected stop) read x.2 := by
  intro s h hn
  have hstop : ∀ o, "expected " ++ stop ++ " got " ++ shownNext o =
      Problem.text (.expected stop o) := fun _ => rfl
  refine (follows_require opening start hopening.1 hopening.2 h hn).seq fun _ rest hread hrest => ?_
  have hlt : rest.length < n := by
    rw [Grammar.expect_sound hread] at hn
    exact Nat.lt_of_succ_lt_succ hn
  exact Follows.list hclosing.1 hclosing.2 hstop hconsumes hitem (hrest.trans h) hlt

section Collections

variable {value : Scan Value} {read : Reader Problem Value} {R : List Char → Value → Prop}

theorem follows_items (hsound : Grammar.Sound read R) (hopens : ∀ w v, R w v → Opens w)
    (hvalue : Scans text n value read) :
    Scans text (n + 1) (scanItems value) (readItems read) := by
  refine follows_enclosed '[' "'['" ']' "',' or ']'" (by decide) (by decide) ?_ ?_
  · intro index t v u hv
    exact consumes_of_sound hsound hopens (labelFault_eq_ok_iff.1 hv)
  · intro index t ht hlength
    exact (hvalue ht hlength).under (.under ("item #" ++ toString index)) fun _ => rfl

theorem follows_entry (hvalue : Scans text n value read) :
    Scans text n (scanEntry value) (readEntry read) := by
  intro s h hn
  rw [scanEntry, readEntry]
  refine (follows_label h hn).seq fun label rest _ hrest => ?_
  have hblanks := skipBlanks_suffix rest
  have hlt : rest.length < n := Nat.lt_of_le_of_lt hrest.length_le hn
  rw [bind_ok (skipGaps_place (hrest.trans h))]
  refine ((hvalue.at (hrest.trans h) hblanks hlt).mono hblanks).seq fun v rest' _ _ => ?_
  exact .value List.suffix_rfl

theorem follows_document (hsound : Grammar.Sound read R) (hvalue : Scans text n value read) :
    Scans text (n + 1) (scanDocument value) (readDocument read) := by
  have hconsumes : ∀ (index : Nat) s e rest, readEntry read s = .ok (e, rest) →
      rest.length < s.length := fun _ _ _ _ =>
    consumes_of_sound (Grammar.readEntry_sound hsound) fun _ _ => Grammar.EntryText.opens
  have hentries := follows_enclosed '\x7b' "'\x7b'" '\x7d' "'\x7d'" (by decide) (by decide)
    hconsumes fun _ => follows_entry hvalue
  intro s h hn
  have hread : readDocument read s =
      ((expect '\x7b' (.expected "'\x7b'") s) >>= fun x =>
        separated '\x7d' (.expected "'\x7d'") (fun _ => readEntry read) x.2).map fun x =>
          (Assoc.ofWrites x.1, x.2) := by
    rw [readDocument]
    cases expect '\x7b' (Problem.expected "'\x7b'") s with
    | error f => rfl
    | ok x => rfl
  rw [scanDocument, hread]
  exact (hentries h hn).map Assoc.ofWrites

end Collections

/-! ## Values -/

/-- By the number of characters that are left: a value inside another has fewer. -/
theorem follows_valueWithin {fuel depth : Nat} (hfuel : n ≤ fuel) (hdepth : n ≤ depth) :
    Scans text n (scanValueWithin fuel) (readValueWithin depth) := by
  induction n generalizing fuel depth with
  | zero => exact fun s _ hs => absurd hs (Nat.not_lt_zero _)
  | succ n ih =>
    obtain ⟨fuel, rfl⟩ := Nat.exists_eq_add_one.2 (Nat.zero_lt_of_lt hfuel)
    obtain ⟨depth, rfl⟩ := Nat.exists_eq_add_one.2 (Nat.zero_lt_of_lt hdepth)
    have hinner : Scans text n (scanValueWithin fuel) (readValueWithin depth) :=
      ih (Nat.le_of_succ_le_succ hfuel) (Nat.le_of_succ_le_succ hdepth)
    have hsound := Grammar.readValueWithin_sound depth
    intro s h hn
    rw [scanValueWithin, bind_ok (peek_place h)]
    cases s with
    | nil => exact Agrees.fail rfl
    | cons c s =>
      have hpeek : ∀ d : Char, d.toNat < 128 →
          (peekByte (c :: s) == ascii d) = decide (c = d) := fun d hd => peekByte_cons_beq hd c s
      have hdigit : isAscii Char.isDigit (peekByte (c :: s)) = c.isDigit :=
        isAscii_peekByte (by decide) isDigit_lt (c :: s)
      rw [readValueWithin, hpeek '"' (by decide), hpeek '\x7b' (by decide), hpeek '[' (by decide),
        hpeek 't' (by decide), hpeek 'f' (by decide), hpeek 'n' (by decide), hpeek '-' (by decide),
        hdigit]
      simp only [decide_eq_true_eq, Bool.or_eq_true]
      -- Scan and reader choose by the same tests now, in the same order.
      repeat' split
      · exact (follows_string h hn).map _
      · exact (follows_document hsound hinner h hn).map _
      · exact (follows_items hsound (fun _ _ => Grammar.ValueText.opens) hinner h hn).map _
      · exact (follows_bool h hn).map _
      · exact (follows_null h hn).map _
      · exact (follows_number h hn).map _
      · refine Agrees.fail ?_
        rw [shownByte_peekByte]
        rfl

theorem follows_value : Scans text n scanValue readValue := by
  intro s h _
  have hsize := length_lt_size h
  exact follows_valueWithin (n := s.length + 1) hsize (Nat.le_refl _) h (Nat.lt_succ_self _)

/-- The items of an operand are values of any depth. -/
theorem follows_values : Scans text n (scanItems scanValue) (readItems readValue) := by
  cases n with
  | zero => exact fun s _ hs => absurd hs (Nat.not_lt_zero _)
  | succ n =>
    exact follows_items Grammar.readValue_sound (fun _ _ => Grammar.ValueText.opens) follows_value

/-! ## Commands -/

variable [RegexEngine]

section Commands

variable {block : Scan (List Expression)} {read : Reader Problem (List Expression)}
  (hblock : Scans text n block read) (field : String)

include hblock

theorem follows_operand (op : Operator) :
    Scans text n (scanOperand block field op) (readOperand read field op) := by
  intro s h hn
  cases op with
  | exist => exact (follows_bool h hn).map _
  | among => exact (follows_values h hn).map _
  | notAmong => exact (follows_values h hn).map _
  | notEqual => exact (follows_value h hn).map _
  | compare c => exact (follows_number h hn).map _
  | anyElement => exact (hblock h hn).map _
  | regex =>
    refine (follows_string h hn).seq fun source rest _ hrest => ?_
    cases hpattern : Pattern.ofSource source with
    | ok pattern =>
      simp only [hpattern]
      exact .value List.suffix_rfl
    | error p =>
      simp only [hpattern]
      exact Agrees.fail rfl

theorem follows_operation (op : Operator) :
    Scans text n (scanOperation block field op) (readOperation read field op) := by
  intro s h hn
  have hread : readOperation read field op s = labelFault op.name
      (readOperand read field op s >>= fun x =>
        expect '\x7d' (.expected "'\x7d'") (skipBlanks x.2) >>= fun y => .ok (x.1, y.2)) := rfl
  rw [scanOperation, hread]
  refine Agrees.under (Problem.under op.name) (fun _ => rfl) ?_
  refine (follows_operand hblock field op h hn).seq fun e rest _ hrest => ?_
  have hblanks := skipBlanks_suffix rest
  have hlt : rest.length < n := Nat.lt_of_le_of_lt hrest.length_le hn
  have hclosing := (follows_require '\x7d' "'\x7d'" (by decide) (by decide)).at
    (hrest.trans h) hblanks hlt
  rw [bind_ok (skipGaps_place (hrest.trans h))]
  exact (hclosing.mono hblanks).seq fun _ _ _ _ => .value List.suffix_rfl

omit hblock in
/-- The cursor goes back to where the command starts. -/
theorem agrees_equality (h : s <:+ text.toList) (p : Nat) :
    Agrees Problem.text text s (scanEquality field (place text s) text p)
      (readEquality field s) := by
  rw [scanEquality, bind_ok (moveTo_place h)]
  exact (follows_value h (Nat.lt_succ_self _)).map _

theorem follows_command :
    Scans text n (scanCommand block field) (readCommand read field) := by
  intro s h hn
  have hequality := agrees_equality field h
  rw [scanCommand, bind_ok (m := cursor) rfl]
  by_cases hbrace : s.head? = some '\x7b'
  · cases s with
    | nil => cases hbrace
    | cons c r =>
      obtain rfl : c = '\x7b' := Option.some.inj hbrace
      have hr := tail_suffix h
      have hblanks := skipBlanks_suffix r
      rw [bind_ok (accept_place_cons (by decide) (by decide) h), if_pos rfl,
        bind_ok (skipGaps_place hr), readCommand]
      have ht : skipBlanks r <:+ text.toList := hblanks.trans hr
      generalize skipBlanks r = t at hblanks ht
      by_cases hclosing : t.head? = some '\x7d'
      · cases t with
        | nil => cases hclosing
        | cons d t =>
          obtain rfl : d = '\x7d' := Option.some.inj hclosing
          rw [bind_ok (accept_place_cons (by decide) (by decide) ht), if_pos rfl]
          exact hequality _
      · rw [bind_ok (accept_place_of_ne (by decide) (by decide) ht hclosing),
          if_neg Bool.false_ne_true]
        have hts : t <:+ '\x7b' :: r := hblanks.trans (List.suffix_cons _ r)
        split
        · exact absurd rfl hclosing
        · refine ((follows_label.at h hts hn).mono hts).bind fun label rest _ hrest => ?_
          have hrest' := skipBlanks_suffix rest
          rw [bind_ok (skipGaps_place (hrest.trans h))]
          -- Without an operator the cursor goes back in front of the brace, so all of the text that
          -- was left at the start is read again as a value.
          cases hop : Operator.ofName? label with
          | some op =>
            simp only [hop]
            exact ((follows_operation hblock field op).at h (hrest'.trans hrest) hn).mono
              (hrest'.trans hrest)
          | none =>
            simp only [hop]
            exact hequality _
  · rw [bind_ok (accept_place_of_ne (by decide) (by decide) h hbrace), if_neg Bool.false_ne_true]
    unfold readCommand
    split
    · exact absurd rfl hbrace
    · exact hequality _

end Commands

/-! ## Expressions and blocks -/

section Blocks

variable {block : Scan (List Expression)} {read : Reader Problem (List Expression)}

theorem follows_junction (hsound : Grammar.Sound read Grammar.BlockText)
    (hblock : Scans text n block read) (label : String) (join : List Expression → Expression) :
    Scans text n (scanJunction block label join) (readJunction read label join) := by
  have hconsumes : ∀ (index : Nat) s es rest, read s = .ok (es, rest) → rest.length < s.length :=
    fun _ _ _ _ => consumes_of_sound hsound fun _ _ hw => hw.opens (by decide) (by decide)
  have hblocks := follows_enclosed '[' "'['" ']' "']'" (by decide) (by decide) hconsumes
    fun _ => hblock
  intro s h hn
  have hread : readJunction read label join s = labelFault label
      (((expect '[' (.expected "'['") s) >>= fun x =>
        separated ']' (.expected "']'") (fun _ => read) x.2) >>= fun x =>
          if (x.1.flatMap ofBlock).length < 2 then fault x.2 .twoRequired
          else .ok (join (x.1.flatMap ofBlock), x.2)) := by
    rw [readJunction]
    cases expect '[' (Problem.expected "'['") s with
    | error f => rfl
    | ok x => rfl
  rw [hread]
  refine Agrees.under (Problem.under label) (fun _ => rfl) ?_
  refine (hblocks h (Nat.lt_succ_of_lt hn)).seq fun blocks rest _ _ => ?_
  by_cases htwo : (blocks.flatMap ofBlock).length < 2
  · simp only [if_pos htwo]
    exact Agrees.fail rfl
  · simp only [if_neg htwo]
    exact .value List.suffix_rfl

theorem follows_expression (hsound : Grammar.Sound read Grammar.BlockText)
    (hblock : Scans text n block read) :
    Scans text n (scanExpression block) (readExpression read) := by
  intro s h hn
  rw [scanExpression, bind_ok (m := cursor) rfl, readExpression]
  refine (follows_label h hn).bind fun label rest _ hrest => ?_
  have hs := (skipBlanks_suffix rest).trans hrest
  rw [bind_ok (skipGaps_place (hrest.trans h))]
  show Agrees Problem.text text s _
    (if label = Operator.andName then readJunction read label .and (skipBlanks rest)
      else if label = Operator.orName then readJunction read label .or (skipBlanks rest)
      else if (Operator.ofName? label).isSome then labelFault label (fault s .misplaced)
      else labelFault label (readCommand read label (skipBlanks rest)))
  repeat' split
  · exact ((follows_junction hsound hblock label .and).at h hs hn).mono hs
  · exact ((follows_junction hsound hblock label .or).at h hs hn).mono hs
  · have hmisplaced : Agrees Problem.text text s
        ((fail "invalid placement" : Scan Expression) text (place text s)) (fault s .misplaced) :=
      Agrees.fail rfl
    rw [bind_ok (moveTo_place h)]
    exact hmisplaced.under (Problem.under label) fun _ => rfl
  · exact (((follows_command hblock label).at h hs hn).mono hs).under (Problem.under label)
      fun _ => rfl

/-- By the number of characters that are left: a block inside another has fewer. -/
theorem follows_blockWithin {fuel depth : Nat} (hfuel : n ≤ fuel) (hdepth : n ≤ depth) :
    Scans text n (scanBlockWithin fuel) (readBlockWithin depth) := by
  induction n generalizing fuel depth with
  | zero => exact fun s _ hs => absurd hs (Nat.not_lt_zero _)
  | succ n ih =>
    obtain ⟨fuel, rfl⟩ := Nat.exists_eq_add_one.2 (Nat.zero_lt_of_lt hfuel)
    obtain ⟨depth, rfl⟩ := Nat.exists_eq_add_one.2 (Nat.zero_lt_of_lt hdepth)
    have hinner : Scans text n (scanBlockWithin fuel) (readBlockWithin depth) :=
      ih (Nat.le_of_succ_le_succ hfuel) (Nat.le_of_succ_le_succ hdepth)
    have hsound := Grammar.readBlockWithin_sound depth
    have hconsumes : ∀ (index : Nat) s e rest,
        readExpression (readBlockWithin depth) s = .ok (e, rest) → rest.length < s.length :=
      fun _ _ _ _ => consumes_of_sound (Grammar.readExpression_sound hsound)
        fun _ _ => Grammar.ExpressionText.opens
    exact follows_enclosed '\x7b' "'\x7b'" '\x7d' "'\x7d'" (by decide) (by decide) hconsumes
      fun _ => follows_expression hsound hinner

theorem follows_block : Scans text n scanBlock readBlock := by
  intro s h _
  have hsize := length_lt_size h
  exact follows_blockWithin (n := s.length + 1) hsize (Nat.le_refl _) h (Nat.lt_succ_self _)

end Blocks

/-! ## Whole texts -/

/-- A whole text is scanned from its start as it is read, up to its end. -/
theorem agrees_all (text : String) :
    ∃ r, Agrees Problem.text text text.toList (scanAll text 0) r ∧
      readAll text.toList = r.map Prod.fst := by
  have htext : text.toList <:+ text.toList := List.suffix_rfl
  have hblanks := skipBlanks_suffix text.toList
  have hread : readAll text.toList =
      (readBlock (skipBlanks text.toList) >>= fun x =>
        if skipBlanks x.2 = [] then .ok (x.1, skipBlanks x.2)
        else fault (skipBlanks x.2) (.expected "EOF" (skipBlanks x.2).head?)).map Prod.fst := by
    rw [readAll]
    cases readBlock (skipBlanks text.toList) with
    | error f => rfl
    | ok x =>
      simp only [bind, Except.bind]
      cases skipBlanks x.2 <;> rfl
  refine ⟨_, ?_, hread⟩
  have hblock := follows_block.at htext hblanks (Nat.lt_succ_self _)
  rw [scanAll, ← place_toList text, bind_ok (skipGaps_place htext)]
  refine (hblock.mono hblanks).bind fun p rest _ hrest => ?_
  have hnext := (skipBlanks_suffix rest).trans hrest
  rw [bind_ok (skipGaps_place hrest), bind_ok (more_place hnext)]
  refine Agrees.mono hnext ?_
  show Agrees Problem.text text (skipBlanks rest) _
    (if skipBlanks rest = [] then .ok (p, skipBlanks rest)
    else fault (skipBlanks rest) (.expected "EOF" (skipBlanks rest).head?))
  generalize skipBlanks rest = t at hnext
  cases t with
  | nil => exact .value List.suffix_rfl
  | cons c r => exact Agrees.missing hnext rfl

/-- **Predicates are scanned as they are parsed**, without a breach. -/
theorem scan_eq (text : String) : scan text = .ok (parse text) := by
  rw [scan, parse]
  split
  · rfl
  · obtain ⟨r, hagrees, hread⟩ := agrees_all text
    rw [hagrees.told, hread]

/-- A predicate that does not parse is told at a boundary of its text. -/
theorem isBoundary_of_parse {text : String} {position : Nat} {problem : String}
    (h : parse text = .error (.malformed position problem)) :
    isBoundary text position = true := by
  rw [parse] at h
  split at h
  · cases h
  · obtain ⟨r, hagrees, hread⟩ := agrees_all text
    rw [hread] at h
    exact hagrees.told_at_boundary List.suffix_rfl h

end DocQuery.Predicate
