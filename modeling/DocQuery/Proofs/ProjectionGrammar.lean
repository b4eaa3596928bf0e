import DocQuery.Proofs.ParameterGrammar

/-!
# What is read as a projection is what the grammar derives

The readers of fields and of selections are sound and complete. A field without a selection takes
the blanks behind it along. Selections nest as deep as fuel lasts; every brace takes a character, so
the length of a text is fuel enough.

* `Grammar.readName_sound`, `Grammar.readName_complete` — the name of a field and its alias.
* `Grammar.readField_sound`, `Grammar.readField_complete` — fields.
* `Grammar.readChildrenWithin_sound`, `Grammar.readChildrenWithin_complete` — selections.
* `Projection.parse_eq_ok_iff_blank_or_derives` — whole texts.
-/

set_option autoImplicit false

namespace DocQuery.Grammar

open Projection

/-! ## Names and aliases -/

/-- The name of a field behind its alias, if it has one. -/
inductive TitleText : List Char → String × Option String → Prop
  | intro {h w : List Char} {name : String} {shownAs : Option String}
    (label : AliasText h shownAs) (text : NameText w name) : TitleText (h ++ w) (name, shownAs)

theorem TitleText.opens {w : List Char} {p : String × Option String} (h : TitleText w p) :
    Opens w := by
  obtain ⟨label, text⟩ := h
  cases label with
  | absent => exact text.opens
  | present name before after => exact (name.opens.append _).append _

theorem readName_sound : Sound readName TitleText := by
  intro s p rest h
  obtain ⟨w, r, hscan⟩ : ∃ w r, scanName s = (w, r) := ⟨_, _, rfl⟩
  obtain ⟨rfl, -⟩ := scanName_cases hscan
  unfold readName at h
  rw [hscan] at h
  simp only at h
  split at h
  · rename_i r' hr
    split at h
    · cases h
    rename_i hfirst
    obtain ⟨u, t, hscan'⟩ : ∃ u t, scanName (skipBlanks r') = (u, t) := ⟨_, _, rfl⟩
    rw [hscan'] at h
    simp only at h
    split at h
    · cases h
    rename_i hname
    obtain ⟨rfl, rfl⟩ := Prod.mk.inj (Except.ok.inj h)
    obtain ⟨b, hb, hbefore⟩ := exists_blanks r
    obtain ⟨b', hb', hafter⟩ := exists_blanks r'
    refine ⟨_, ?_, .intro (.present (nameText_of_scanName hscan hfirst) hb hb')
      (nameText_of_scanName hscan' hname)⟩
    rw [hbefore, hr, hafter, (scanName_cases hscan').1]
    simp only [List.append_assoc, List.cons_append]
  · split at h
    · cases h
    · rename_i hfirst
      obtain ⟨rfl, rfl⟩ := Prod.mk.inj (Except.ok.inj h)
      exact ⟨_, rfl, .intro .absent (nameText_of_scanName hscan hfirst)⟩

/-- The name of a field is read where no colon follows it. -/
theorem readName_complete {w rest : List Char} {p : String × Option String}
    (h : TitleText w p) (hrest : Closed ['(', '\x7b', ',', '\x7d'] rest) :
    readName (w ++ rest) = .ok (p, rest) := by
  obtain @⟨h, w, name, shownAs, label, text⟩ := h
  have hends : EndsRun isNameChar rest := hrest.endsRun (by decide) fun _ => isNameChar_of_gap
  obtain ⟨hscan, rfl⟩ := scanName_text text hends
  cases label with
  | absent =>
    unfold readName
    rw [List.nil_append, hscan]
    simp only
    split
    · rename_i r hr
      exact absurd hr (hrest.ne_cons (by decide) r)
    · rw [if_neg text.ne_nil]
  | @present u b b' shownAs name before after =>
    have hgap : isGap ':' = false := by decide
    have hcolon : Closed [':'] (b ++ ':' :: (b' ++ (w ++ rest))) :=
      before.closed (closed_cons hgap List.mem_cons_self _)
    have hends' := hcolon.endsRun (by decide) fun _ => isNameChar_of_gap
    obtain ⟨hscan', rfl⟩ := scanName_text name hends'
    have hblank := skipBlanks_append_of_solid before ⟨':', b' ++ (w ++ rest), rfl, hgap⟩
    have hblank' := skipBlanks_append_of_solid after (text.opens.append rest).solid
    simp only [List.append_assoc, List.cons_append]
    unfold readName
    rw [hscan']
    simp only [hblank, if_neg name.ne_nil, hblank', hscan, if_neg text.ne_nil]

/-! ## Fields -/

/-- Nothing else than parameters, or what stands behind them, follows the name of a field. -/
theorem ParamsText.closed {g rest : List Char} {params : Params} {cs : List Char}
    (h : ParamsText g params) (hrest : Closed cs rest) : Closed ('(' :: cs) (g ++ rest) := by
  cases h with
  | absent => exact hrest.mono fun _ => List.mem_cons_of_mem _
  | present before _ =>
    rw [List.append_assoc]
    exact before.closed (closed_cons (by decide) List.mem_cons_self _)

theorem FieldText.opens {w : List Char} {f : Selection} (h : FieldText w f) : Opens w := by
  cases h with
  | @leaf _ _ g _ _ _ label text _ =>
    rw [← List.append_assoc]
    exact (TitleText.intro label text).opens.append g
  | parent label text _ _ _ =>
    rw [← List.append_assoc]
    exact (TitleText.intro label text).opens.append _

/-- A field is its name, its parameters and what follows. -/
theorem readField_eq (children : Reader Problem Projection) (s : List Char) :
    readField children s = readName s >>= fun t => readPassed t.2 >>= fun g =>
      match skipBlanks g.2 with
      | '\x7b' :: r => children r >>= fun c => .ok (⟨t.1.1, t.1.2, g.1, some c.1⟩, c.2)
      | r => .ok (⟨t.1.1, t.1.2, g.1, none⟩, r) := by
  unfold readField
  cases readName s with
  | error e => rfl
  | ok t =>
    simp only [bind, Except.bind]
    generalize hpassed : readPassed t.2 = passed
    split
    · rename_i r hr
      obtain rfl := hpassed.symm.trans (readPassed_of_paren hr)
      rfl
    · rename_i hr
      obtain rfl := hpassed.symm.trans (readPassed_of_ne hr)
      rfl

/-- A selection is read soundly: what was left behind its brace goes with it. -/
def SelectionSound (children : Reader Problem Projection) : Prop :=
  ∀ ⦃s p rest⦄, children s = .ok (p, rest) →
    ∃ u, '\x7b' :: s = u ++ rest ∧ ListText FieldText '\x7b' '\x7d' u p

/-- Every selection of at most `n` characters is read, whatever stands after it. -/
def SelectionComplete (n : Nat) (children : Reader Problem Projection) : Prop :=
  ∀ ⦃u p⦄, ListText FieldText '\x7b' '\x7d' u p → u.length ≤ n → ∀ rest,
    ∃ s, u ++ rest = '\x7b' :: s ∧ children s = .ok (p, rest)

section Fields

variable {children : Reader Problem Projection} {n : Nat}

/-- **Fields are read soundly.** -/
theorem readField_sound (hchildren : SelectionSound children) :
    SoundTo (readField children) FieldText := by
  intro s f rest h
  rw [readField_eq] at h
  obtain ⟨⟨⟨name, shownAs⟩, t⟩, hname, h⟩ := bind_eq_ok_iff.1 h
  obtain ⟨⟨params, t'⟩, hparams, h⟩ := bind_eq_ok_iff.1 h
  obtain ⟨_, hs, ⟨label, text⟩⟩ := readName_sound hname
  obtain ⟨g, b, ht, hb, hpassed⟩ := readPassed_sound hparams
  obtain ⟨b', hb', ht'⟩ := exists_blanks t'
  simp only at h ht
  split at h
  · rename_i r hr
    obtain ⟨⟨c, r'⟩, hc, h⟩ := bind_eq_ok_iff.1 h
    obtain ⟨rfl, rfl⟩ := Prod.mk.inj (Except.ok.inj h)
    obtain ⟨u, hu, hlist⟩ := hchildren hc
    refine ⟨_, [], ?_, blanks_nil, .parent label text hpassed (hb.append hb') hlist⟩
    rw [hs, ht, ht', hr, hu]
    simp only [List.append_assoc, List.nil_append]
  · obtain ⟨rfl, rfl⟩ := Prod.mk.inj (Except.ok.inj h)
    refine ⟨_, b ++ b', ?_, hb.append hb', .leaf label text hpassed⟩
    rw [hs, ht, ht']
    simp only [List.append_assoc, skipBlanks_skipBlanks, skipBlanks_append hb']

/-- **Every field is read** if the selections in it are. -/
theorem readField_complete (hchildren : SelectionComplete n children) :
    CompleteTo n (readField children) FieldText [',', '\x7d'] := by
  intro x f h hlength rest hrest
  cases h with
  | @leaf h w g shownAs name params label text passed =>
    have hclosed : Closed ['\x7b', ',', '\x7d'] rest :=
      hrest.mono fun _ => List.mem_cons_of_mem _
    obtain ⟨r, hpassed, hr⟩ := readPassed_complete _ passed (Nat.le_refl _) hclosed
    have hname := readName_complete (.intro label text) (passed.closed hclosed)
    -- looking for a brace takes the blanks behind the field along
    refine ⟨skipBlanks rest, ?_, skipBlanks_skipBlanks rest⟩
    rw [readField_eq, ← List.append_assoc, List.append_assoc, hname]
    simp only [bind, Except.bind, hpassed, hr]
    split
    · rename_i r' hr'
      exact absurd hr' (hrest.ne_cons (by decide) r')
    · rfl
  | @parent h w g b u shownAs name params cs label text passed before list =>
    simp only [List.length_append] at hlength
    obtain ⟨s, hs, hread⟩ := hchildren list (by omega) rest
    have hgap : isGap '\x7b' = false := by decide
    have hclosed : Closed ['\x7b', ',', '\x7d'] (b ++ (u ++ rest)) := by
      rw [hs]
      exact before.closed (closed_cons hgap List.mem_cons_self s)
    obtain ⟨r, hpassed, hr⟩ := readPassed_complete _ passed (Nat.le_refl _) hclosed
    have hname := readName_complete (.intro label text) (passed.closed hclosed)
    refine ⟨rest, ?_, rfl⟩
    rw [hs, skipBlanks_append_of_solid before ⟨_, s, rfl, hgap⟩] at hr
    simp only [List.append_assoc] at hname ⊢
    rw [readField_eq, hname]
    simp only [bind, Except.bind, hpassed, hr, hread]

end Fields

/-! ## Selections -/

/-- Where the fields of a projection end: at a closing brace, or else with the text. -/
def FieldsStop (opened : Bool) (u r : List Char) : Prop :=
  if opened then u = '\x7d' :: r else u = [] ∧ r = []

theorem readFieldsWithin_eq_ok_iff {opened : Bool} {field : Reader Problem Selection}
    {fuel : Nat} {s r : List Char} {fs : Projection} :
    readFieldsWithin opened field fuel s = .ok (fs, r) ↔
      ReadsSeries field (FieldsStop opened) s fs r ∧ fs.length ≤ fuel := by
  induction fuel generalizing s fs with
  | zero => exact ⟨nofun, fun h => absurd h.1.length_pos (Nat.not_lt.2 h.2)⟩
  | succ fuel ih =>
    rw [readFieldsWithin]
    constructor
    · intro h
      obtain ⟨⟨f, t⟩, hf, h⟩ := bind_eq_ok_iff.1 h
      simp only at h
      split at h
      · rename_i ht
        split at h
        · cases h
        · rename_i hopened
          obtain ⟨rfl, rfl⟩ := Prod.mk.inj (Except.ok.inj h)
          refine ⟨.last hf ?_, Nat.succ_pos _⟩
          rw [FieldsStop, if_neg hopened]
          exact ⟨ht, rfl⟩
      · rename_i ht
        obtain ⟨⟨fs', r'⟩, hfs, h⟩ := bind_eq_ok_iff.1 h
        obtain ⟨rfl, rfl⟩ := Prod.mk.inj (Except.ok.inj h)
        obtain ⟨hmore, hfuel⟩ := ih.1 hfs
        exact ⟨.cons hf ht hmore, Nat.succ_le_succ hfuel⟩
      · rename_i ht
        split at h
        · rename_i hopened
          obtain ⟨rfl, rfl⟩ := Prod.mk.inj (Except.ok.inj h)
          refine ⟨.last hf ?_, Nat.succ_pos _⟩
          rw [FieldsStop, if_pos hopened]
          exact ht
        · cases h
      · cases h
    · rintro ⟨h, hfuel⟩
      cases h with
      | last read stops =>
        cases opened with
        | true =>
          have ht : skipBlanks _ = '\x7d' :: r := stops
          simp only [read, bind, Except.bind, ht, if_true]
        | false =>
          obtain ⟨ht, rfl⟩ : skipBlanks _ = [] ∧ r = [] := stops
          simp only [read, bind, Except.bind, ht, Bool.false_eq_true, if_false]
      | cons read comma more =>
        have hfs := ih.2 ⟨more, Nat.le_of_succ_le_succ hfuel⟩
        simp only [read, bind, Except.bind, comma, hfs]

/-- **Selections are read soundly.** -/
theorem readChildrenWithin_sound (fuel : Nat) : SelectionSound (readChildrenWithin fuel) := by
  induction fuel with
  | zero => exact fun _ _ _ h => nomatch h
  | succ fuel ih =>
    intro s p rest h
    obtain ⟨b, hb, hs⟩ := exists_blanks s
    rw [readChildrenWithin] at h
    split at h
    · rename_i r hr
      obtain ⟨rfl, rfl⟩ := Prod.mk.inj (Except.ok.inj h)
      refine ⟨_, ?_, .empty hb⟩
      rw [hs, hr]
      simp only [List.append_assoc, List.cons_append, List.nil_append]
    · obtain ⟨hreads, -⟩ := readFieldsWithin_eq_ok_iff.1 h
      obtain ⟨w, u, hw, hseries, hstop⟩ := hreads.sound (readField_sound ih)
      obtain rfl : u = '\x7d' :: rest := hstop
      refine ⟨_, ?_, .items (hseries.blanks_append hb)⟩
      rw [hs, hw]
      simp only [List.append_assoc, List.cons_append, List.nil_append]

/-- **Every selection is read**, with fuel for the length of its text. -/
theorem readChildrenWithin_complete (fuel : Nat) :
    SelectionComplete fuel (readChildrenWithin fuel) := by
  induction fuel with
  | zero =>
    intro u p h hlength
    have := (h.opens (by decide) (by decide)).solid.length_pos
    omega
  | succ fuel ih =>
    intro u p h hlength rest
    have hgap : isGap '\x7d' = false := by decide
    cases h with
    | @empty b blanks =>
      refine ⟨b ++ '\x7d' :: rest, by simp, ?_⟩
      simp only [readChildrenWithin, skipBlanks_append_of_solid blanks ⟨_, rest, rfl, hgap⟩]
    | @items w p series =>
      obtain ⟨b, v, rfl, hb, hv, hseries⟩ := series.strip fun _ _ => FieldText.opens
      simp only [List.length_append, List.length_cons, List.length_nil] at hlength
      have hreads : ReadsSeries (readField (readChildrenWithin fuel)) (FieldsStop true)
          (v ++ '\x7d' :: rest) p rest :=
        hseries.reads (fun _ _ => FieldText.opens) (readField_complete ih) (by decide) (by omega)
          (closed_cons hgap (by decide) rest) (skipBlanks_of_solid ⟨_, rest, rfl, hgap⟩)
      have hfuel := hseries.length_le fun _ _ => FieldText.opens
      have hread := readFieldsWithin_eq_ok_iff.2
        ⟨hreads, show p.length ≤ (v ++ '\x7d' :: rest).length + 1 by
          rw [List.length_append]; omega⟩
      refine ⟨b ++ (v ++ '\x7d' :: rest), by simp, ?_⟩
      -- a first field is not taken for the brace that closes an empty selection
      obtain ⟨c, t, hc, -, hcloses⟩ := hv.append ('\x7d' :: rest)
      rw [readChildrenWithin, skipBlanks_append_of_solid hb (hv.append _).solid]
      split
      · rename_i r hr
        rw [hc] at hr
        exact absurd ((List.cons.inj hr).1 ▸ closes_brace) hcloses
      · exact hread

/-! ## White space -/

theorem range_of_isNameChar {c : Char} (h : isNameChar c = true) :
    45 ≤ c.toNat ∧ c.toNat ≤ 122 := by
  delta isNameChar Char.isAlphanum Char.isAlpha Char.isUpper Char.isLower Char.isDigit at h
  simp only [Bool.or_eq_true, Bool.and_eq_true, decide_eq_true_eq, beq_iff_eq, or_assoc] at h
  rcases h with ⟨hge, hle⟩ | ⟨hge, hle⟩ | ⟨hge, hle⟩ | rfl | rfl
  · exact ⟨Nat.le_trans (by decide) hge, Nat.le_trans hle (by decide)⟩
  · exact ⟨Nat.le_trans (by decide) hge, Nat.le_trans hle (by decide)⟩
  · exact ⟨Nat.le_trans (by decide) hge, Nat.le_trans hle (by decide)⟩
  · decide
  · decide

theorem range_of_isBlank {c : Char} (h : isBlank c = true) :
    c.toNat ≤ 32 ∨ 133 ≤ c.toNat := by
  simp only [isBlank, Bool.or_eq_true, Bool.and_eq_true, decide_eq_true_eq, beq_iff_eq,
    or_assoc] at h
  rcases h with rfl | ⟨-, hle⟩ | rfl | rfl | rfl | ⟨hge, -⟩ | rfl | rfl | rfl | rfl | rfl
  case inr.inl => exact .inl (Nat.le_trans hle (by decide))
  case inr.inr.inr.inr.inr.inl => exact .inr (Nat.le_trans (by decide) hge)
  all_goals decide

theorem isBlank_of_isNameChar {c : Char} (h : isNameChar c = true) : isBlank c = false := by
  by_contra hblank
  have hname := range_of_isNameChar h
  have := range_of_isBlank (Bool.not_eq_false _ ▸ hblank)
  omega

/-- The name of a field is no white space. -/
theorem NameText.exists_not_blank {w : List Char} {name : String} (h : NameText w name) :
    ∃ c ∈ w, isBlank c = false := by
  cases h with
  | run hrun =>
    obtain ⟨c, s, rfl⟩ := List.exists_cons_of_ne_nil hrun.1
    have hc : c ∈ c :: s := List.mem_cons_self
    exact ⟨c, hc, isBlank_of_isNameChar (hrun.2 c hc)⟩
  | star => exact ⟨'*', List.mem_cons_self, by decide⟩

theorem FieldText.exists_not_blank {w : List Char} {f : Selection} (h : FieldText w f) :
    ∃ c ∈ w, isBlank c = false := by
  cases h with
  | leaf _ text _ | parent _ text _ _ _ =>
    obtain ⟨c, hc, hblank⟩ := text.exists_not_blank
    exact ⟨c, List.mem_append_right _ (List.mem_append_left _ hc), hblank⟩

/-- No white space alone is derived. -/
theorem ProjectionText.exists_not_blank {w : List Char} {p : Projection}
    (h : ProjectionText w p) : ∃ c ∈ w, isBlank c = false := by
  cases h with
  | last _ item _ | cons _ item _ _ =>
    obtain ⟨c, hc, hblank⟩ := item.exists_not_blank
    exact ⟨c, List.mem_append_right _ (List.mem_append_left _ hc), hblank⟩

end DocQuery.Grammar

namespace DocQuery.Projection

open Grammar

/-- **A whole text is read as the projection that the grammar derives from it.** -/
theorem readAll_iff_projectionText {s : List Char} {p : Projection} :
    readAll s = .ok p ↔ ProjectionText s p := by
  unfold readAll
  constructor
  · intro h
    obtain ⟨⟨fs, r⟩, hread, rfl⟩ := map_eq_ok_iff.1 h
    obtain ⟨w, u, rfl, hseries, hstop⟩ := (readFieldsWithin_eq_ok_iff.1 hread).1.sound
      (readField_sound (readChildrenWithin_sound _))
    obtain ⟨rfl, -⟩ : u = [] ∧ r = [] := hstop
    rw [List.append_nil]
    exact hseries
  · intro h
    have hreads : ReadsSeries (readField (readChildrenWithin (s.length + 1)))
        (FieldsStop false) (s ++ []) p [] :=
      h.reads (fun _ _ => FieldText.opens) (readField_complete (readChildrenWithin_complete _))
        (by decide) (Nat.le_succ _) closed_nil ⟨rfl, rfl⟩
    rw [List.append_nil] at hreads
    have hfuel := h.length_le fun _ _ => FieldText.opens
    exact map_eq_ok_iff.2
      ⟨(p, []), readFieldsWithin_eq_ok_iff.2 ⟨hreads, Nat.le_succ_of_le hfuel⟩, rfl⟩

theorem parse_of_blank {t : String} (h : ∀ c ∈ t.toList, isBlank c = true) : parse t = .ok [] :=
  if_pos (List.all_eq_true.2 h)

theorem parse_eq_ok_iff_of_not_blank {t : String} {p : Projection}
    (h : ¬ ∀ c ∈ t.toList, isBlank c = true) : parse t = .ok p ↔ ProjectionText t.toList p := by
  unfold parse
  rw [if_neg fun hall => h (List.all_eq_true.1 hall), mapError_eq_ok_iff,
    readAll_iff_projectionText]

theorem parse_of_projectionText {t : String} {p : Projection} (h : ProjectionText t.toList p) :
    parse t = .ok p := by
  obtain ⟨c, hc, hnot⟩ := h.exists_not_blank
  refine (parse_eq_ok_iff_of_not_blank fun hblank => ?_).2 h
  rw [hblank c hc] at hnot
  cases hnot

theorem blank_or_projectionText_of_parse {t : String} {p : Projection} (h : parse t = .ok p) :
    ((∀ c ∈ t.toList, isBlank c = true) ∧ p = []) ∨ ProjectionText t.toList p := by
  by_cases hblank : ∀ c ∈ t.toList, isBlank c = true
  · rw [parse_of_blank hblank] at h
    exact .inl ⟨hblank, (Except.ok.inj h).symm⟩
  · exact .inr ((parse_eq_ok_iff_of_not_blank hblank).1 h)

/-- **A text is accepted exactly if it is white space or the grammar derives a projection from it**:
white space is the empty projection, every other text the projection derived. -/
theorem parse_eq_ok_iff_blank_or_derives (t : String) (p : Projection) :
    parse t = .ok p ↔
      ((∀ c ∈ t.toList, isBlank c = true) ∧ p = []) ∨ ProjectionText t.toList p := by
  constructor
  · exact blank_or_projectionText_of_parse
  · rintro (⟨hblank, rfl⟩ | h)
    · exact parse_of_blank hblank
    · exact parse_of_projectionText h

example : parse "t : title, author\x7b\x7d" =
    .ok [⟨"title", some "t", [], none⟩, ⟨"author", none, [], some []⟩] := by rfl

example : (parse "title,").toOption.isNone = true := by decide

end DocQuery.Projection
