import DocQuery.Proofs.LiteralGrammar

/-!
# Labels and lists against the grammar

A label ends where no character of a label follows; a list ends at its closing character. Reading a
list is sound, or complete, if reading its items is.

* `Grammar.readLabel_sound`, `Grammar.readLabel_complete` — labels with their colon.
* `Grammar.itemsUntil_sound`, `Grammar.itemsUntil_complete` — what stands between commas.
* `Grammar.separated_sound`, `Grammar.separated_complete` — whole lists.
-/

set_option autoImplicit false

namespace DocQuery.Grammar

/-! ## Labels -/

theorem readLiteral_sound {α : Type} {read : Reader Literal.Problem α}
    {R : List Char → α → Prop} (h : Sound read R) : Sound (Predicate.readLiteral read) R :=
  fun _ _ _ hread => h (mapError_eq_ok_iff.1 hread)

theorem readString_sound : Sound Predicate.readString StringText := readLiteral_sound string_sound

theorem readNumber_sound : Sound Predicate.readNumber NumberText := readLiteral_sound number_sound

theorem readString_complete {w : List Char} {s : String} (h : StringText w s)
    (rest : List Char) : Predicate.readString (w ++ rest) = .ok (s, rest) :=
  Predicate.readLiteral_eq_ok (string_complete h rest)

theorem readNumber_complete (n : Nat) : Complete n Predicate.readNumber NumberText :=
  fun _ _ h hlength _ hrest => Predicate.readLiteral_eq_ok (number_complete n h hlength hrest)

theorem readBool_sound : Sound Predicate.readBool BoolText := by
  intro s b rest h
  unfold Predicate.readBool at h
  split at h
  · obtain ⟨rfl, rfl⟩ := Prod.mk.inj (Except.ok.inj h)
    exact ⟨_, rfl, .yes⟩
  · obtain ⟨rfl, rfl⟩ := Prod.mk.inj (Except.ok.inj h)
    exact ⟨_, rfl, .no⟩
  · cases h

theorem readBool_complete {w : List Char} {b : Bool} (h : BoolText w b) (rest : List Char) :
    Predicate.readBool (w ++ rest) = .ok (b, rest) := by
  cases h <;> rfl

theorem readBareLabel_sound : Sound Predicate.readBareLabel LabelText := by
  intro s label rest h
  unfold Predicate.readBareLabel at h
  simp only at h
  split at h
  · cases h
  · rename_i hne
    obtain ⟨rfl, rfl⟩ := Prod.mk.inj (Except.ok.inj h)
    exact ⟨_, List.takeWhile_append_dropWhile.symm,
      .bare hne fun _ hc => List.mem_takeWhile_imp hc⟩

/-- A label apart from the colon after it. -/
def readLabelText : Reader Predicate.Problem String := fun s =>
  if s.head? = some '"' then Predicate.readString s else Predicate.readBareLabel s

theorem readLabel_eq_ok_iff {s rest : List Char} {label : String} :
    Predicate.readLabel s = .ok (label, rest) ↔
      ∃ r, readLabelText s = .ok (label, r) ∧ skipBlanks r = ':' :: rest := by
  have hcolon : ∀ {x : Except (Fault Predicate.Problem) (String × List Char)},
      (x.bind fun p =>
        (expect ':' (.expected "':'") (skipBlanks p.2)).bind fun q => .ok (p.1, q.2)) =
          .ok (label, rest) ↔ ∃ r, x = .ok (label, r) ∧ skipBlanks r = ':' :: rest := by
    intro x
    constructor
    · intro h
      obtain ⟨p, hp, h⟩ := bind_eq_ok_iff.1 h
      obtain ⟨q, hq, h⟩ := bind_eq_ok_iff.1 h
      obtain ⟨rfl, rfl⟩ := Prod.mk.inj (Except.ok.inj h)
      exact ⟨p.2, hp, expect_sound hq⟩
    · rintro ⟨r, rfl, hr⟩
      simp only [Except.bind, hr, expect_cons]
  unfold Predicate.readLabel readLabelText
  split
  · rw [List.head?_cons, if_pos rfl]
    exact hcolon.trans
      (exists_congr fun r => and_congr_left' Predicate.labelFault_eq_ok_iff)
  · rename_i hquote
    rw [if_neg]
    · exact hcolon
    · intro h
      cases s with
      | nil => cases h
      | cons c t => exact hquote t (by rw [Option.some.inj h])

theorem readLabelText_sound : Sound readLabelText LabelText := by
  intro s label rest h
  unfold readLabelText at h
  split at h
  · obtain ⟨w, hw, hstring⟩ := readString_sound h
    exact ⟨w, hw, .quoted hstring⟩
  · exact readBareLabel_sound h

/-- A label is read where no character of a label follows. -/
theorem readLabelText_complete {w : List Char} {label : String} (h : LabelText w label)
    {rest : List Char} (hrest : EndsRun Predicate.isLabelChar rest) :
    readLabelText (w ++ rest) = .ok (label, rest) := by
  unfold readLabelText
  cases h with
  | quoted string =>
    rw [if_pos (by cases string <;> rfl)]
    exact readString_complete string rest
  | bare nonempty all =>
    obtain ⟨c, s, rfl⟩ := List.exists_cons_of_ne_nil nonempty
    rw [if_neg]
    · unfold Predicate.readBareLabel
      rw [takeWhile_append_of_endsRun all hrest, dropWhile_append_of_endsRun all hrest]
      exact if_neg nonempty
    · intro hc
      have hlabel := all c List.mem_cons_self
      rw [Option.some.inj hc] at hlabel
      exact absurd hlabel (by decide)

theorem isLabelChar_opens {c : Char} (h : Predicate.isLabelChar c = true) (s : List Char) :
    Opens (c :: s) := by
  have hne : ∀ d, Predicate.isLabelChar d = false → c ≠ d := by
    rintro d hd rfl
    rw [hd] at h
    cases h
  refine opens_cons ?_ ?_ s
  · simp [isGap, hne ' ' (by decide), hne '\n' (by decide), hne '\r' (by decide),
      hne '\t' (by decide)]
  · rintro (hc | hc)
    · exact hne ']' (by decide) hc
    · exact hne '\x7d' (by decide) hc

theorem StringText.opens {w : List Char} {s : String} (h : StringText w s) : Opens w := by
  cases h <;> exact opens_cons (by decide) (by decide) _

theorem LabelText.opens {w : List Char} {label : String} (h : LabelText w label) : Opens w := by
  cases h with
  | quoted string => exact string.opens
  | bare nonempty all =>
    obtain ⟨c, s, rfl⟩ := List.exists_cons_of_ne_nil nonempty
    exact isLabelChar_opens (all c List.mem_cons_self) s

theorem HeaderText.opens {w : List Char} {label : String} (h : HeaderText w label) : Opens w := by
  obtain ⟨text, -, -⟩ := h
  exact text.opens.append _

/-- **Labels are read soundly**, the blanks behind the colon included. -/
theorem readLabel_sound {s : List Char} {label : String} {rest : List Char}
    (h : Predicate.readLabel s = .ok (label, rest)) :
    ∃ w, s = w ++ skipBlanks rest ∧ HeaderText w label := by
  obtain ⟨r, hlabel, hr⟩ := readLabel_eq_ok_iff.1 h
  obtain ⟨w, rfl, hw⟩ := readLabelText_sound hlabel
  obtain ⟨b, hb, hbefore⟩ := exists_blanks r
  obtain ⟨b', hb', hafter⟩ := exists_blanks rest
  refine ⟨_, ?_, .intro hw hb hb'⟩
  rw [hr] at hbefore
  rw [List.append_assoc, List.append_assoc, List.cons_append, ← hafter, ← hbefore]

/-- **Every label is read** with its colon, up to the blanks behind it. -/
theorem readLabel_complete {w : List Char} {label : String} (h : HeaderText w label)
    {s : List Char} (hs : Solid s) :
    ∃ r, Predicate.readLabel (w ++ s) = .ok (label, r) ∧ skipBlanks r = s := by
  obtain ⟨text, hbefore, hafter⟩ := h
  rename_i w b b'
  refine ⟨b' ++ s, readLabel_eq_ok_iff.2 ⟨b ++ (':' :: (b' ++ s)), ?_, ?_⟩,
    skipBlanks_append_of_solid hafter hs⟩
  · rw [List.append_assoc, List.append_assoc]
    refine readLabelText_complete text ?_
    cases b with
    | nil => exact endsRun_cons (by decide) _
    | cons d b =>
      rcases isGap_cases (hbefore d List.mem_cons_self) with rfl | rfl | rfl | rfl <;>
        exact endsRun_cons (by decide) _
  · exact skipBlanks_append_of_solid hbefore ⟨_, _, rfl, by decide⟩

/-! ## Lists -/

section Lists

variable {ε α : Type} {R : List Char → α → Prop} {closing : Char} {problem : Option Char → ε}
  {item : Nat → Reader ε α} {fuel index n : Nat} {s rest : List Char} {as : List α}

theorem SeriesText.blanks_append {b w : List Char} (hb : Blanks b) (h : SeriesText R w as) :
    SeriesText R (b ++ w) as := by
  cases h with
  | last before item after =>
    rw [← List.append_assoc]
    exact .last (hb.append before) item after
  | cons before item after more =>
    rw [← List.append_assoc]
    exact .cons (hb.append before) item after more

theorem itemsUntil_sound (hitem : ∀ index, Sound (item index) R)
    (h : itemsUntil closing problem item fuel index s = .ok (as, rest)) :
    ∃ w, s = w ++ closing :: rest ∧ SeriesText R w as := by
  induction fuel generalizing index s as with
  | zero => cases h
  | succ fuel ih =>
    rw [itemsUntil] at h
    obtain ⟨⟨a, r⟩, ha, h⟩ := bind_eq_ok_iff.1 h
    obtain ⟨w, hw, htext⟩ := hitem index ha
    obtain ⟨b, hb, hs⟩ := exists_blanks s
    obtain ⟨b', hb', hr⟩ := exists_blanks r
    rw [hw] at hs
    simp only at h
    split at h
    · cases h
    rename_i c t ht
    rw [ht] at hr
    split at h
    · rename_i hc
      obtain ⟨⟨as', u⟩, has, h⟩ := bind_eq_ok_iff.1 h
      obtain ⟨rfl, rfl⟩ := Prod.mk.inj (Except.ok.inj h)
      obtain ⟨v, rfl, hmore⟩ := ih has
      refine ⟨_, ?_, .cons hb htext hb' hmore⟩
      rw [hs, hr, hc]
      simp only [List.append_assoc, List.cons_append]
    split at h
    · rename_i hc
      obtain ⟨rfl, rfl⟩ := Prod.mk.inj (Except.ok.inj h)
      refine ⟨_, ?_, .last hb htext hb'⟩
      rw [hs, hr, hc]
      simp only [List.append_assoc]
    · cases h

/-- **Lists are read soundly** if their items are. -/
theorem separated_sound (hitem : ∀ index, Sound (item index) R) (opening : Char)
    (h : separated closing problem item s = .ok (as, rest)) :
    ∃ w, opening :: s = w ++ rest ∧ ListText R opening closing w as := by
  have hseries : ∀ {fuel : Nat} {u : List Char}, skipBlanks s = u →
      itemsUntil closing problem item fuel 0 u = .ok (as, rest) →
        ∃ w, opening :: s = w ++ rest ∧ ListText R opening closing w as := by
    intro fuel u hu h
    obtain ⟨w, hw, hmore⟩ := itemsUntil_sound hitem h
    obtain ⟨b, hb, hs⟩ := exists_blanks s
    refine ⟨_, ?_, .items (hmore.blanks_append hb)⟩
    rw [hs, hu, hw]
    simp only [List.append_assoc, List.cons_append, List.nil_append]
  unfold separated at h
  split at h
  · rename_i hs
    exact hseries hs h
  · rename_i c r hs
    split at h
    · rename_i hc
      obtain ⟨rfl, rfl⟩ := Prod.mk.inj (Except.ok.inj h)
      obtain ⟨b, hb, hs'⟩ := exists_blanks s
      refine ⟨_, ?_, .empty hb⟩
      rw [hs', hs, hc]
      simp only [List.append_assoc, List.cons_append, List.nil_append]
    · exact hseries hs h

/-- Behind the blanks at its front a series begins like an item. -/
theorem SeriesText.strip {w : List Char} (hopens : ∀ w a, R w a → Opens w)
    (h : SeriesText R w as) : ∃ b u, w = b ++ u ∧ Blanks b ∧ Opens u ∧ SeriesText R u as := by
  cases h with
  | last before item after =>
    exact ⟨_, _, rfl, before, (hopens _ _ item).append _, .last blanks_nil item after⟩
  | cons before item after more =>
    exact ⟨_, _, rfl, before, (hopens _ _ item).append _, .cons blanks_nil item after more⟩

theorem SeriesText.length_le {w : List Char} (hopens : ∀ w a, R w a → Opens w)
    (h : SeriesText R w as) : as.length ≤ w.length := by
  induction h with
  | last _ item _ =>
    have := (hopens _ _ item).solid.length_pos
    simp only [List.length_append, List.length_singleton]
    omega
  | cons _ _ _ _ ih =>
    simp only [List.length_append, List.length_cons]
    omega

theorem itemsUntil_complete (hclosing : Closes closing) (hopens : ∀ w a, R w a → Opens w)
    (hitem : ∀ index, Complete n (item index) R) {w : List Char} (h : SeriesText R w as)
    (hlength : w.length ≤ n) (hfuel : as.length ≤ fuel) (rest : List Char) :
    itemsUntil closing problem item fuel index (w ++ closing :: rest) = .ok (as, rest) := by
  induction h generalizing fuel index with
  | @last b w b' a before text after =>
    obtain ⟨fuel, rfl⟩ : ∃ k, fuel = k + 1 := Nat.exists_eq_succ_of_ne_zero (Nat.ne_of_gt hfuel)
    simp only [List.length_append] at hlength
    refine itemsUntil_of_closing hclosing (t := b' ++ closing :: rest) ?_
      (skipBlanks_append_of_solid after (hclosing.delimited rest).solid)
    rw [List.append_assoc, List.append_assoc,
      skipBlanks_append_of_solid before ((hopens _ _ text).append _).solid]
    exact hitem index text (by omega) (after.ended (hclosing.delimited rest))
  | @cons b w b' u a as before text after more ih =>
    obtain ⟨fuel, rfl⟩ : ∃ k, fuel = k + 1 := Nat.exists_eq_succ_of_ne_zero
      (Nat.ne_of_gt (Nat.lt_of_lt_of_le (Nat.succ_pos _) hfuel))
    simp only [List.length_append, List.length_cons] at hlength hfuel
    have hread : item index (skipBlanks (b ++ (w ++ (b' ++ ',' :: u)) ++ closing :: rest)) =
        .ok (a, b' ++ ',' :: (u ++ closing :: rest)) := by
      simp only [List.append_assoc, List.cons_append]
      rw [skipBlanks_append_of_solid before ((hopens _ _ text).append _).solid]
      exact hitem index text (by omega) (after.ended (delimited_comma _))
    rw [itemsUntil_of_comma hread (skipBlanks_append_of_solid after (delimited_comma _).solid),
      ih (by omega) (Nat.le_of_succ_le_succ hfuel)]
    rfl

/-- **Every list is read** if its items are. -/
theorem separated_complete (problem : Option Char → ε) (hclosing : Closes closing)
    (hopens : ∀ w a, R w a → Opens w) (hitem : ∀ index, Complete n (item index) R)
    {opening : Char} {w : List Char} (h : ListText R opening closing w as)
    (hlength : w.length ≤ n + 1) (rest : List Char) :
    ∃ s, w ++ rest = opening :: s ∧ separated closing problem item s = .ok (as, rest) := by
  cases h with
  | @empty b blanks =>
    refine ⟨b ++ closing :: rest, by simp, ?_⟩
    unfold separated
    simp only [skipBlanks_append_of_solid blanks (hclosing.delimited rest).solid, if_true]
  | @items w as series =>
    simp only [List.length_append, List.length_cons, List.length_nil] at hlength
    obtain ⟨b, u, rfl, hb, hu, hseries⟩ := series.strip hopens
    refine ⟨b ++ (u ++ closing :: rest), by simp, ?_⟩
    rw [List.length_append] at hlength
    have hfuel := hseries.length_le hopens
    have hread := @itemsUntil_complete ε α R closing problem item (u ++ closing :: rest).length 0 n
      as hclosing hopens hitem u hseries (by omega) (by rw [List.length_append]; omega) rest
    have hblank := skipBlanks_append_of_solid hb (hu.append (closing :: rest)).solid
    obtain ⟨c, t, ht, -, hc⟩ := hu.append (closing :: rest)
    have hne : c ≠ closing := fun heq => hc (heq ▸ hclosing)
    rw [ht] at hread hblank ⊢
    unfold separated
    simp only [hblank, if_neg hne]
    exact hread

end Lists

end DocQuery.Grammar
