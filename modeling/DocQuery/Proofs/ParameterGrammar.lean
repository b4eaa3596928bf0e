import DocQuery.Projection.Grammar
import DocQuery.Proofs.PredicateGrammar

/-!
# Parameters against the grammar

The readers of names, of the values of parameters and of lists of parameters are sound and complete.
What stands behind a token is told up to blanks, since some readers take the blanks along.

* `Grammar.Closed` — what may stand behind a token.
* `Grammar.SoundTo`, `Grammar.CompleteTo` — the two directions, for readers that take blanks along.
* `Grammar.closeQuote_of_inside`, `Grammar.inside_of_closeQuote` — how far a string goes.
* `Grammar.ReadsSeries` — what the loops over parameters and fields read.
* `Grammar.readPassed_sound`, `Grammar.readPassed_complete` — the parameters of a field, if any.
-/

set_option autoImplicit false

namespace DocQuery.Grammar

open Projection

/-! ## What stands behind a token -/

/-- Behind blanks stands one of `cs`, or nothing. -/
def Closed (cs : List Char) (rest : List Char) : Prop :=
  ∀ c, (skipBlanks rest).head? = some c → c ∈ cs

section Closed

variable {cs : List Char} {b s rest : List Char}

theorem closed_nil : Closed cs [] := fun _ h => nomatch h

theorem closed_cons {c : Char} (hgap : isGap c = false) (hc : c ∈ cs) (s : List Char) :
    Closed cs (c :: s) := by
  intro d hd
  rw [skipBlanks_of_solid ⟨c, s, rfl, hgap⟩] at hd
  rw [← Option.some.inj hd]
  exact hc

theorem Blanks.closed (hb : Blanks b) (h : Closed cs s) : Closed cs (b ++ s) := by
  intro c hc
  rw [skipBlanks_append hb] at hc
  exact h c hc

theorem Closed.mono {ds : List Char} (h : Closed cs rest) (hsub : ∀ c ∈ cs, c ∈ ds) :
    Closed ds rest :=
  fun c hc => hsub c (h c hc)

/-- A run of characters ends where none of them, and no blank, is among what stands behind. -/
theorem Closed.endsRun {p : Char → Bool} (h : Closed cs rest) (hcs : cs.any p = false)
    (hgap : ∀ c, isGap c = true → p c = false) : EndsRun p rest := by
  intro c hc
  cases rest with
  | nil => cases hc
  | cons d r =>
    obtain rfl : d = c := Option.some.inj hc
    by_cases hd : isGap d = true
    · exact hgap d hd
    · have hmem : d ∈ cs := by
        refine h d ?_
        rw [skipBlanks_of_solid ⟨d, r, rfl, Bool.not_eq_true _ ▸ hd⟩]
        rfl
      exact Bool.not_eq_true _ ▸ List.any_eq_false.1 hcs d hmem

/-- What does not stand behind a token is not read there. -/
theorem Closed.ne_cons {c : Char} (h : Closed cs rest) (hc : c ∉ cs) (r : List Char) :
    skipBlanks rest ≠ c :: r := by
  intro heq
  exact hc (h c (by rw [heq]; rfl))

end Closed

theorem isNameChar_of_gap {c : Char} (h : isGap c = true) : isNameChar c = false := by
  rcases isGap_cases h with rfl | rfl | rfl | rfl <;> decide

theorem Closed.numberEnds {rest : List Char} (h : Closed [',', ')'] rest) :
    Literal.NumberEnds rest := by
  have hends : EndsRun (fun c => c.isDigit || c == '.' || c == 'e') rest := by
    refine h.endsRun (by decide) fun c hc => ?_
    rcases isGap_cases hc with rfl | rfl | rfl | rfl <;> decide
  intro c r hrest
  have hc := hends c (by rw [hrest]; rfl)
  simpa [Bool.or_eq_false_iff, and_assoc] using hc

/-! ## Readers that take blanks along -/

section Readers

variable {ε α : Type}

/-- What is read has a text that the rule derives, and blanks may go with it. -/
def SoundTo (read : Reader ε α) (R : List Char → α → Prop) : Prop :=
  ∀ ⦃s a rest⦄, read s = .ok (a, rest) → ∃ w b, s = w ++ (b ++ rest) ∧ Blanks b ∧ R w a

/-- A text that the rule derives, of at most `n` characters, is read in front of one of `cs`, and
blanks may go with it. -/
def CompleteTo (n : Nat) (read : Reader ε α) (R : List Char → α → Prop) (cs : List Char) : Prop :=
  ∀ ⦃w a⦄, R w a → w.length ≤ n → ∀ ⦃rest⦄, Closed cs rest →
    ∃ r, read (w ++ rest) = .ok (a, r) ∧ skipBlanks r = skipBlanks rest

theorem Sound.to {read : Reader ε α} {R : List Char → α → Prop} (h : Sound read R) :
    SoundTo read R := by
  intro s a rest hread
  obtain ⟨w, hw, hR⟩ := h hread
  exact ⟨w, [], hw, blanks_nil, hR⟩

end Readers

/-! ## Names -/

theorem NameRun.opens {w : List Char} (h : NameRun w) : Opens w := by
  obtain ⟨hne, hall⟩ := h
  obtain ⟨c, s, rfl⟩ := List.exists_cons_of_ne_nil hne
  refine isLabelChar_opens ?_ s
  have hc := hall c List.mem_cons_self
  simp only [isNameChar, Bool.or_eq_true] at hc
  simp only [Predicate.isLabelChar, Bool.or_eq_true]
  tauto

theorem NameText.opens {w : List Char} {name : String} (h : NameText w name) : Opens w := by
  cases h with
  | run name => exact name.opens
  | star => exact opens_cons (by decide) (by decide) _

theorem NameText.ne_nil {w : List Char} {name : String} (h : NameText w name) : w ≠ [] := by
  obtain ⟨c, s, rfl, -⟩ := h.opens
  exact List.cons_ne_nil c s

/-- What is scanned as a name is a run, a star, or nothing. -/
theorem scanName_cases {s w rest : List Char} (h : scanName s = (w, rest)) :
    s = w ++ rest ∧ (w = ['*'] ∨ w = [] ∨ NameRun w) := by
  unfold scanName at h
  split at h
  · obtain ⟨rfl, rfl⟩ := Prod.mk.inj h
    exact ⟨rfl, .inl rfl⟩
  · obtain ⟨rfl, rfl⟩ := Prod.mk.inj h
    refine ⟨List.takeWhile_append_dropWhile.symm, .inr ?_⟩
    by_cases hnil : s.takeWhile isNameChar = []
    · exact .inl hnil
    · exact .inr ⟨hnil, fun c hc => List.mem_takeWhile_imp hc⟩

theorem nameText_of_scanName {s w rest : List Char} (h : scanName s = (w, rest)) (hne : w ≠ []) :
    NameText w (String.ofList w) := by
  obtain ⟨-, rfl | rfl | hrun⟩ := scanName_cases h
  · exact .star
  · exact absurd rfl hne
  · exact .run hrun

/-- A run is scanned as a name where none of its characters follows. -/
theorem scanName_run {w rest : List Char} (h : NameRun w) (hrest : EndsRun isNameChar rest) :
    scanName (w ++ rest) = (w, rest) := by
  unfold scanName
  split
  · rename_i s hs
    obtain ⟨c, t, rfl⟩ := List.exists_cons_of_ne_nil h.1
    have hc := h.2 c List.mem_cons_self
    rw [(List.cons.inj hs).1] at hc
    exact absurd hc (by decide)
  · rw [takeWhile_append_of_endsRun h.2 hrest, dropWhile_append_of_endsRun h.2 hrest]

theorem scanName_text {w rest : List Char} {name : String} (h : NameText w name)
    (hrest : EndsRun isNameChar rest) :
    scanName (w ++ rest) = (w, rest) ∧ name = String.ofList w := by
  cases h with
  | run hrun => exact ⟨scanName_run hrun hrest, rfl⟩
  | star => exact ⟨rfl, rfl⟩

/-! ## Strings -/

theorem closeQuote_of_inside {quoteMark : Char} (hquote : quoteMark ≠ '\\') {w : List Char}
    (h : Inside quoteMark w) (rest : List Char) :
    Literal.closeQuote quoteMark (w ++ quoteMark :: rest) = some (w, rest) := by
  induction h with
  | nil =>
    rw [List.nil_append, Literal.closeQuote.eq_def]
    simp only [if_neg hquote, if_true]
  | plain hslash hne _ ih =>
    rw [List.cons_append, Literal.closeQuote.eq_def]
    simp only [if_neg hslash, if_neg hne, ih, Option.map_some]
  | escaped _ ih =>
    rw [List.cons_append, List.cons_append, Literal.closeQuote.eq_def]
    simp only [if_true, ih, Option.map_some]

theorem inside_of_closeQuote {quoteMark : Char} {s inner rest : List Char}
    (h : Literal.closeQuote quoteMark s = some (inner, rest)) : Inside quoteMark inner := by
  fun_induction Literal.closeQuote quoteMark s generalizing inner with
  | case1 => cases h
  | case2 => cases h
  | case3 d s ih =>
    obtain ⟨⟨i, r⟩, hi, heq⟩ := Option.map_eq_some_iff.1 h
    obtain ⟨rfl, rfl⟩ := Prod.mk.inj heq
    exact .escaped (ih hi)
  | case4 s hs =>
    obtain ⟨rfl, rfl⟩ := Prod.mk.inj (Option.some.inj h)
    exact .nil
  | case5 c s hs hc ih =>
    obtain ⟨⟨i, r⟩, hi, heq⟩ := Option.map_eq_some_iff.1 h
    obtain ⟨rfl, rfl⟩ := Prod.mk.inj heq
    exact .plain hs hc (ih hi)

theorem doubleQuoted_single (w : List Char) :
    Literal.doubleQuoted '\'' w = Literal.escapeDouble (Literal.unescapeSingle w) :=
  if_neg (by decide)

theorem single_sound : Sound (Literal.string '\'') SingleQuoted := by
  intro s a rest h
  obtain ⟨r, inner, cs, rfl, hclose, hcontents, rfl⟩ := string_eq_ok_iff.1 h
  have hinside := inside_of_closeQuote hclose
  refine ⟨'\'' :: (inner ++ ['\'']), ?_, ?_⟩
  · rw [Literal.closeQuote_append hclose]
    simp
  · rcases contents_eq_ok_iff.1 hcontents with ⟨hslash, rfl⟩ | ⟨hslash, hescapes⟩
    · exact .plain hslash hinside
    · exact .escaped hslash hinside (doubleQuoted_single inner ▸ hescapes)

theorem single_complete {w : List Char} {s : String} (h : SingleQuoted w s) (rest : List Char) :
    Literal.string '\'' (w ++ rest) = .ok (s, rest) := by
  cases h with
  | @plain w backslash inside =>
    rw [List.cons_append, List.append_assoc]
    exact string_eq_ok_iff.2 ⟨_, w, w, rfl, closeQuote_of_inside (by decide) inside rest,
      contents_eq_ok_iff.2 (.inl ⟨backslash, rfl⟩), rfl⟩
  | @escaped w s backslash inside escapes =>
    rw [List.cons_append, List.append_assoc]
    exact string_eq_ok_iff.2 ⟨_, w, s, rfl, closeQuote_of_inside (by decide) inside rest,
      contents_eq_ok_iff.2 (.inr ⟨backslash, (doubleQuoted_single w).symm ▸ escapes⟩), rfl⟩

/-! ## Values -/

theorem SingleQuoted.head {w : List Char} {s : String} (h : SingleQuoted w s) :
    ∃ t, w = '\'' :: t := by
  cases h <;> exact ⟨_, rfl⟩

theorem ParamValueText.opens {w : List Char} {v : Value} (h : ParamValueText w v) : Opens w := by
  cases h with
  | string text => exact text.opens
  | single text =>
    obtain ⟨t, rfl⟩ := text.head
    exact opens_cons (by decide) (by decide) _
  | number text =>
    obtain ⟨c, s, rfl, hc⟩ := text.starts
    exact opens_of_startsNumber hc
  | bool text => cases text <;> exact opens_cons (by decide) (by decide) _

theorem readParamValue_sound : Sound readParamValue ParamValueText := by
  intro s v rest h
  unfold readParamValue at h
  split at h
  · obtain ⟨rfl, rfl⟩ := Prod.mk.inj (Except.ok.inj h)
    exact ⟨_, rfl, .bool .yes⟩
  · obtain ⟨rfl, rfl⟩ := Prod.mk.inj (Except.ok.inj h)
    exact ⟨_, rfl, .bool .no⟩
  · split at h
    · rename_i hquote
      obtain ⟨⟨a, r⟩, ha, heq⟩ := map_eq_ok_iff.1 h
      obtain ⟨rfl, rfl⟩ := Prod.mk.inj heq
      have hread := mapError_eq_ok_iff.1 ha
      rcases hquote with rfl | rfl
      · obtain ⟨w, hw, htext⟩ := string_sound hread
        exact ⟨w, hw, .string htext⟩
      · obtain ⟨w, hw, htext⟩ := single_sound hread
        exact ⟨w, hw, .single htext⟩
    split at h
    · obtain ⟨⟨a, r⟩, ha, heq⟩ := map_eq_ok_iff.1 h
      obtain ⟨rfl, rfl⟩ := Prod.mk.inj heq
      obtain ⟨w, hw, htext⟩ := number_sound (mapError_eq_ok_iff.1 ha)
      exact ⟨w, hw, .number htext⟩
    · cases h
  · cases h

theorem readParamValue_string {c : Char} (hc : c = '"' ∨ c = '\'') {s rest : List Char}
    {a : String} (h : Literal.string c (c :: s) = .ok (a, rest)) :
    readParamValue (c :: s) = .ok (.string a, rest) := by
  rcases hc with rfl | rfl
  all_goals
    show ((readLiteral _ _).map _) = _
    rw [readLiteral, mapError_eq_ok_iff.2 h]
    rfl

theorem readParamValue_number {c : Char} (hc : StartsNumber c) {s rest : List Char} {d : Double}
    (h : Literal.number (c :: s) = .ok (d, rest)) :
    readParamValue (c :: s) = .ok (.float d, rest) := by
  have hquote : ¬ (c = '"' ∨ c = '\'') :=
    not_or.2 ⟨hc.ne (by decide) (by decide), hc.ne (by decide) (by decide)⟩
  have ht : c ≠ 't' := hc.ne (by decide) (by decide)
  have hf : c ≠ 'f' := hc.ne (by decide) (by decide)
  unfold readParamValue
  split
  · rename_i heq
    exact absurd (List.cons.inj heq).1 ht
  · rename_i heq
    exact absurd (List.cons.inj heq).1 hf
  · rename_i heq
    obtain ⟨rfl, rfl⟩ := List.cons.inj heq
    rw [if_neg hquote, readLiteral, mapError_eq_ok_iff.2 h]
    exact if_pos hc
  · contradiction

/-- **Every value of a parameter is read** in front of what ends a parameter. -/
theorem readParamValue_complete {w rest : List Char} {v : Value} (h : ParamValueText w v)
    (hrest : Closed [',', ')'] rest) : readParamValue (w ++ rest) = .ok (v, rest) := by
  cases h with
  | string text =>
    have hread := string_complete text rest
    obtain ⟨t, rfl⟩ := text.head
    exact readParamValue_string (.inl rfl) hread
  | single text =>
    have hread := single_complete text rest
    obtain ⟨t, rfl⟩ := text.head
    exact readParamValue_string (.inr rfl) hread
  | number text =>
    have hread := number_of_text text hrest.numberEnds
    obtain ⟨c, t, rfl, hc⟩ := text.starts
    exact readParamValue_number hc hread
  | bool text => cases text <;> rfl

/-! ## Parameters -/

theorem NameRun.ne_star {w : List Char} (h : NameRun w) : w ≠ ['*'] := by
  rintro rfl
  exact absurd (h.2 '*' List.mem_cons_self) (by decide)

theorem ParamText.opens {w : List Char} {p : String × Value} (h : ParamText w p) : Opens w := by
  obtain ⟨name, -, -, -, -⟩ := h
  exact name.opens.append _

theorem readParam_sound : Sound readParam ParamText := by
  intro s p rest h
  obtain ⟨w, r, hscan⟩ : ∃ w r, scanName s = (w, r) := ⟨_, _, rfl⟩
  unfold readParam at h
  rw [hscan] at h
  simp only at h
  split at h
  · cases h
  rename_i hne
  obtain ⟨hempty, hstar⟩ := not_or.1 hne
  obtain ⟨rfl, hstar' | hempty' | hname⟩ := scanName_cases hscan
  · exact absurd hstar' hstar
  · exact absurd hempty' hempty
  -- the two signs are read alike
  have hvalue : ∀ {sign : Char} {r' : List Char}, (sign = ':' ∨ sign = '=') →
      skipBlanks r = sign :: r' →
        (readParamValue (skipBlanks r')).map (fun p => ((String.ofList w, p.1), p.2)) =
          .ok (p, rest) → ∃ u, w ++ r = u ++ rest ∧ ParamText u p := by
    intro sign r' hsign hr h
    obtain ⟨⟨v, t⟩, hv, heq⟩ := map_eq_ok_iff.1 h
    obtain ⟨rfl, rfl⟩ := Prod.mk.inj heq
    obtain ⟨u, hu, htext⟩ := readParamValue_sound hv
    obtain ⟨b, hb, hbefore⟩ := exists_blanks r
    obtain ⟨b', hb', hafter⟩ := exists_blanks r'
    refine ⟨_, ?_, .intro hname hb hsign hb' htext⟩
    rw [hbefore, hr, hafter, hu]
    simp only [List.append_assoc, List.cons_append]
  split at h
  · rename_i hr
    exact hvalue (.inl rfl) hr h
  · rename_i hr
    exact hvalue (.inr rfl) hr h
  · cases h

theorem readParam_complete (n : Nat) : CompleteTo n readParam ParamText [',', ')'] := by
  intro x p h _ rest hrest
  obtain @⟨w, b, b', u, sign, v, name, before, known, after, value⟩ := h
  have hsign : isGap sign = false := by rcases known with rfl | rfl <;> decide
  have hmem : sign ∈ [':', '='] := by simpa using known
  have hends : EndsRun isNameChar (b ++ sign :: (b' ++ (u ++ rest))) :=
    (before.closed (closed_cons hsign hmem _)).endsRun (by decide) fun _ => isNameChar_of_gap
  have hblank := skipBlanks_append_of_solid before ⟨sign, b' ++ (u ++ rest), rfl, hsign⟩
  have hblank' := skipBlanks_append_of_solid after (value.opens.append rest).solid
  have hread := readParamValue_complete value hrest
  refine ⟨rest, ?_, rfl⟩
  simp only [List.append_assoc, List.cons_append]
  unfold readParam
  rw [scanName_run name hends]
  simp only [if_neg (not_or.2 ⟨name.1, name.ne_star⟩), hblank]
  rcases known with rfl | rfl
  all_goals
    simp only [hblank', hread]
    rfl

/-! ## Loops -/

/-- What a loop over items reads: an item, then more behind a comma, or what `stop` accepts. -/
inductive ReadsSeries {ε α : Type} (item : Reader ε α) (stop : List Char → List Char → Prop) :
    List Char → List α → List Char → Prop
  | last {s t r : List Char} {a : α} (read : item (skipBlanks s) = .ok (a, t))
    (stops : stop (skipBlanks t) r) : ReadsSeries item stop s [a] r
  | cons {s t u r : List Char} {a : α} {as : List α} (read : item (skipBlanks s) = .ok (a, t))
    (comma : skipBlanks t = ',' :: u) (more : ReadsSeries item stop u as r) :
    ReadsSeries item stop s (a :: as) r

section Loops

variable {ε α : Type} {item : Reader ε α} {stop : List Char → List Char → Prop}
  {R : List Char → α → Prop} {s r : List Char} {as : List α}

theorem ReadsSeries.length_pos (h : ReadsSeries item stop s as r) : 0 < as.length := by
  cases h <;> exact Nat.succ_pos _

theorem ReadsSeries.sound (hitem : SoundTo item R) (h : ReadsSeries item stop s as r) :
    ∃ w u, s = w ++ u ∧ SeriesText R w as ∧ stop u r := by
  induction h with
  | @last s t r a read stops =>
    obtain ⟨w, b', hw, hb', htext⟩ := hitem read
    obtain ⟨b, hb, hs⟩ := exists_blanks s
    obtain ⟨b'', hb'', ht⟩ := exists_blanks t
    refine ⟨_, _, ?_, .last hb htext (hb'.append hb''), stops⟩
    rw [hs, hw, ht]
    simp only [List.append_assoc, skipBlanks_skipBlanks, skipBlanks_append hb'']
  | @cons s t u r a as read comma _ ih =>
    obtain ⟨w, b', hw, hb', htext⟩ := hitem read
    obtain ⟨b, hb, hs⟩ := exists_blanks s
    obtain ⟨b'', hb'', ht⟩ := exists_blanks t
    obtain ⟨w', u', rfl, hmore, hstop⟩ := ih
    refine ⟨_, _, ?_, .cons hb htext (hb'.append hb'') hmore, hstop⟩
    rw [hs, hw, ht, comma]
    simp only [List.append_assoc, List.cons_append]

theorem SeriesText.reads {n : Nat} {cs : List Char} (hopens : ∀ w a, R w a → Opens w)
    (hitem : CompleteTo n item R cs) (hcomma : ',' ∈ cs) {w u : List Char}
    (h : SeriesText R w as) (hlength : w.length ≤ n) (hclosed : Closed cs u)
    (hstop : stop (skipBlanks u) r) : ReadsSeries item stop (w ++ u) as r := by
  induction h with
  | @last b w b' a before text after =>
    simp only [List.length_append] at hlength
    obtain ⟨t, hread, ht⟩ := hitem text (by omega) (after.closed hclosed)
    refine .last (t := t) ?_ (by rw [ht, skipBlanks_append after]; exact hstop)
    rw [List.append_assoc, List.append_assoc,
      skipBlanks_append_of_solid before ((hopens _ _ text).append _).solid]
    exact hread
  | @cons b w b' u' a as before text after _ ih =>
    simp only [List.length_append, List.length_cons] at hlength
    have hgap : isGap ',' = false := by decide
    obtain ⟨t, hread, ht⟩ := hitem text (by omega)
      (after.closed (closed_cons hgap hcomma (u' ++ u)))
    refine .cons (t := t) (u := u' ++ u) ?_ ?_ (ih (by omega))
    · simp only [List.append_assoc, List.cons_append]
      rw [skipBlanks_append_of_solid before ((hopens _ _ text).append _).solid]
      exact hread
    · rw [ht, skipBlanks_append_of_solid after ⟨',', u' ++ u, rfl, hgap⟩]

end Loops

theorem readParamsWithin_eq_ok_iff {fuel : Nat} {s r : List Char}
    {ps : List (String × Value)} : readParamsWithin fuel s = .ok (ps, r) ↔
      ReadsSeries readParam (fun u r => u = ')' :: r) s ps r ∧ ps.length ≤ fuel := by
  induction fuel generalizing s ps with
  | zero => exact ⟨nofun, fun h => absurd h.1.length_pos (Nat.not_lt.2 h.2)⟩
  | succ fuel ih =>
    rw [readParamsWithin]
    constructor
    · intro h
      obtain ⟨⟨p, t⟩, hp, h⟩ := bind_eq_ok_iff.1 h
      simp only at h
      split at h
      · rename_i ht
        obtain ⟨rfl, rfl⟩ := Prod.mk.inj (Except.ok.inj h)
        exact ⟨.last hp ht, Nat.succ_pos _⟩
      · rename_i ht
        obtain ⟨⟨ps', r'⟩, hps, h⟩ := bind_eq_ok_iff.1 h
        obtain ⟨rfl, rfl⟩ := Prod.mk.inj (Except.ok.inj h)
        obtain ⟨hmore, hfuel⟩ := ih.1 hps
        exact ⟨.cons hp ht hmore, Nat.succ_le_succ hfuel⟩
      · cases h
    · rintro ⟨h, hfuel⟩
      cases h with
      | last read stops =>
        simp only [read, bind, Except.bind, stops]
      | cons read comma more =>
        have hps := ih.2 ⟨more, Nat.le_of_succ_le_succ hfuel⟩
        simp only [read, bind, Except.bind, comma, hps]

/-- The parameters of a field behind its name. -/
def readPassed : Reader Problem Params := fun s =>
  match skipBlanks s with
  | '(' :: r => readParams r
  | r => .ok ([], r)

theorem readPassed_of_paren {s r : List Char} (h : skipBlanks s = '(' :: r) :
    readPassed s = readParams r := by
  unfold readPassed
  simp only [h]

theorem readPassed_of_ne {s : List Char} (h : ∀ r, skipBlanks s ≠ '(' :: r) :
    readPassed s = .ok ([], skipBlanks s) := by
  unfold readPassed
  split
  · rename_i r hr
    exact absurd hr (h r)
  · rfl

/-- **The parameters of a field are read soundly.** -/
theorem readPassed_sound : SoundTo readPassed ParamsText := by
  intro s params rest h
  obtain ⟨b, hb, hs⟩ := exists_blanks s
  unfold readPassed at h
  split at h
  · rename_i r hr
    obtain ⟨⟨ps, t⟩, hps, heq⟩ := map_eq_ok_iff.1 h
    obtain ⟨rfl, rfl⟩ := Prod.mk.inj heq
    obtain ⟨w, u, rfl, hseries, rfl⟩ := (readParamsWithin_eq_ok_iff.1 hps).1.sound
      readParam_sound.to
    refine ⟨_, [], ?_, blanks_nil, .present hb hseries⟩
    rw [hs, hr]
    simp only [List.append_assoc, List.cons_append, List.nil_append]
  · obtain ⟨rfl, rfl⟩ := Prod.mk.inj (Except.ok.inj h)
    exact ⟨[], b, hs, hb, .absent⟩

theorem readParams_complete {w rest : List Char} {ps : List (String × Value)}
    (h : SeriesText ParamText w ps) :
    readParams (w ++ ')' :: rest) = .ok (Assoc.ofWrites ps, rest) := by
  have hgap : isGap ')' = false := by decide
  have hreads : ReadsSeries readParam (fun u r => u = ')' :: r) (w ++ ')' :: rest) ps rest :=
    h.reads (fun _ _ => ParamText.opens) (readParam_complete w.length) (by decide) (Nat.le_refl _)
      (closed_cons hgap (by decide) rest) (skipBlanks_of_solid ⟨_, _, rfl, hgap⟩)
  have hfuel := h.length_le fun _ _ => ParamText.opens
  have hread := readParamsWithin_eq_ok_iff.2
    ⟨hreads, show ps.length ≤ (w ++ ')' :: rest).length + 1 by rw [List.length_append]; omega⟩
  rw [readParams, hread]
  rfl

/-- **The parameters of every field are read**, and so is that there are none. -/
theorem readPassed_complete (n : Nat) :
    CompleteTo n readPassed ParamsText ['\x7b', ',', '\x7d'] := by
  intro g params h _ rest hrest
  cases h with
  | absent =>
    exact ⟨skipBlanks rest, readPassed_of_ne (hrest.ne_cons (by decide)),
      skipBlanks_skipBlanks rest⟩
  | @present b w ps before series =>
    have hsolid : Solid ('(' :: (w ++ ')' :: rest)) := ⟨_, _, rfl, by decide⟩
    refine ⟨rest, ?_, rfl⟩
    simp only [List.append_assoc, List.cons_append, List.nil_append]
    rw [readPassed_of_paren (skipBlanks_append_of_solid before hsolid), readParams_complete series]

end DocQuery.Grammar
