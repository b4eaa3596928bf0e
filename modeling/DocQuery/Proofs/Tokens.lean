import DocQuery.Proofs.Success
import DocQuery.Text.Literal
import DocQuery.Value.Text
import Mathlib.Data.List.DropRight

/-!
# Tokens read back

What writers put between quotes, brackets and commas is what readers take apart.

* `Literal.string_quoteChars` — a quoted string.
* `separated_joinedBy` — a list between commas, each of whose items is read from its text.
* `related_of_separated` — a list that is read, whatever its items are read as.
-/

set_option autoImplicit false

namespace DocQuery

/-! ## Strings -/

namespace Literal

/-- A character is written as it is, as a pair behind a backslash, or as four digits behind one. -/
theorem encodeChar_cases (c : Char) :
    (Quoted.encodeChar c = [c] ∧ c ≠ '\\' ∧ c ≠ '"') ∨ (∃ d, Quoted.encodeChar c = ['\\', d]) ∨
      Quoted.encodeChar c = '\\' :: 'u' :: Quoted.hexDigits c.toNat := by
  unfold Quoted.encodeChar
  repeat' split
  all_goals first | exact .inr (.inl ⟨_, rfl⟩) | exact .inr (.inr rfl) | skip
  rename_i hquote hslash _ _ _ _ _ _
  exact .inl ⟨rfl, hslash, hquote⟩

theorem hexDigit_ne : ∀ n, n < 16 → Quoted.hexDigit n ≠ '\\' ∧ Quoted.hexDigit n ≠ '"' := by decide

theorem closeQuote_cons_of_ne {quoteMark c : Char} (hslash : c ≠ '\\') (hquote : c ≠ quoteMark)
    (r : List Char) :
    closeQuote quoteMark (c :: r) = (closeQuote quoteMark r).map fun p => (c :: p.1, p.2) := by
  rw [closeQuote.eq_def]
  simp only [if_neg hslash, if_neg hquote]

/-- No escape ends a string. -/
theorem closeQuote_encodeChar_append (c : Char) (r : List Char) :
    closeQuote '"' (Quoted.encodeChar c ++ r) =
      (closeQuote '"' r).map fun p => (Quoted.encodeChar c ++ p.1, p.2) := by
  rcases encodeChar_cases c with ⟨hc, hslash, hquote⟩ | ⟨d, hc⟩ | hc
  · rw [hc]
    exact closeQuote_cons_of_ne hslash hquote r
  · rw [hc, List.cons_append, closeQuote.eq_def]
    rfl
  · have hdigit : ∀ n s, closeQuote '"' (Quoted.hexDigit (n % 16) :: s) =
        (closeQuote '"' s).map fun p => (Quoted.hexDigit (n % 16) :: p.1, p.2) := by
      intro n s
      obtain ⟨hslash, hquote⟩ := hexDigit_ne (n % 16) (Nat.mod_lt n (by decide))
      exact closeQuote_cons_of_ne hslash hquote s
    rw [hc, List.cons_append, List.cons_append, closeQuote.eq_def]
    simp only [if_true, Quoted.hexDigits, List.cons_append, List.nil_append, hdigit,
      Option.map_map, Function.comp_def]

/-- A string ends where its writer closed it. -/
theorem closeQuote_encode (s rest : List Char) :
    closeQuote '"' (Quoted.encode s ++ '"' :: rest) = some (Quoted.encode s, rest) := by
  induction s with
  | nil =>
    show closeQuote '"' ('"' :: rest) = some ([], rest)
    rw [closeQuote.eq_def]
    rfl
  | cons c s ih =>
    have hcons : Quoted.encode (c :: s) = Quoted.encodeChar c ++ Quoted.encode s := rfl
    rw [hcons, List.append_assoc, closeQuote_encodeChar_append, ih, Option.map_some]

/-- A string in which nothing is escaped stands for itself. -/
theorem encode_of_not_mem {s : List Char} (h : '\\' ∉ Quoted.encode s) : Quoted.encode s = s := by
  induction s with
  | nil => rfl
  | cons c s ih =>
    have hcons : Quoted.encode (c :: s) = Quoted.encodeChar c ++ Quoted.encode s := rfl
    rw [hcons, List.mem_append, not_or] at h
    rcases encodeChar_cases c with ⟨hc, -, -⟩ | ⟨d, hc⟩ | hc
    · rw [hcons, hc, ih h.2]
      rfl
    · exact absurd (hc ▸ List.mem_cons_self) h.1
    · exact absurd (hc ▸ List.mem_cons_self) h.1

theorem contents_encode (s : List Char) : contents '"' (Quoted.encode s) = .ok s := by
  have hbody : doubleQuoted '"' (Quoted.encode s) = Quoted.encode s := if_pos rfl
  unfold contents
  split
  · rename_i hplain
    rw [Bool.not_eq_true', List.contains_eq_mem, decide_eq_false_iff_not] at hplain
    rw [encode_of_not_mem hplain]
  · simp only [hbody, Quoted.decode_encode]

/-- **A quoted string is read as it was written.** -/
theorem string_quoteChars (s : String) (rest : List Char) :
    string '"' (quoteChars s ++ rest) = .ok (s, rest) := by
  have htext : quoteChars s ++ rest = '"' :: (Quoted.encode s.toList ++ '"' :: rest) := by
    unfold quoteChars
    rw [List.cons_append, List.append_assoc]
    rfl
  rw [htext]
  unfold string
  simp only [ne_eq, not_true_eq_false, if_false, closeQuote_encode, contents_encode,
    String.ofList_toList]

end Literal

/-! ## Blanks -/

/-- A text that begins with something else than a blank. -/
def Solid (s : List Char) : Prop := ∃ c r, s = c :: r ∧ isGap c = false

theorem Solid.length_pos {s : List Char} (h : Solid s) : 0 < s.length := by
  obtain ⟨c, r, rfl, -⟩ := h
  exact Nat.succ_pos _

theorem skipBlanks_of_solid {s : List Char} (h : Solid s) : skipBlanks s = s := by
  obtain ⟨c, r, rfl, hc⟩ := h
  exact List.dropWhile_cons_of_neg (by rw [hc]; exact Bool.false_ne_true)

theorem skipBlanks_space_of_solid {s : List Char} (h : Solid s) : skipBlanks (' ' :: s) = s :=
  skipBlanks_of_solid h

theorem skipBlanks_skipBlanks (s : List Char) : skipBlanks (skipBlanks s) = skipBlanks s :=
  List.dropWhile_idempotent isGap s

theorem expect_cons {ε : Type} (c : Char) (problem : Option Char → ε) (s : List Char) :
    expect c problem (c :: s) = .ok ((), s) := if_pos rfl

/-! ## Lists -/

/-- What closes a list. -/
def Closes (c : Char) : Prop := c = ']' ∨ c = '\x7d'

instance (c : Char) : Decidable (Closes c) := inferInstanceAs (Decidable (c = ']' ∨ c = '\x7d'))

theorem closes_bracket : Closes ']' := .inl rfl

theorem closes_brace : Closes '\x7d' := .inr rfl

theorem Closes.ne_comma {c : Char} (h : Closes c) : c ≠ ',' := by
  rcases h with rfl | rfl <;> decide

theorem Closes.not_gap {c : Char} (h : Closes c) : isGap c = false := by
  rcases h with rfl | rfl <;> decide

/-- A comma or something that closes stands next. -/
def Delimited (s : List Char) : Prop := ∃ c r, s = c :: r ∧ (c = ',' ∨ Closes c)

theorem delimited_comma (s : List Char) : Delimited (',' :: s) := ⟨_, s, rfl, .inl rfl⟩

theorem Closes.delimited {c : Char} (h : Closes c) (s : List Char) : Delimited (c :: s) :=
  ⟨c, s, rfl, .inr h⟩

theorem Delimited.solid {s : List Char} (h : Delimited s) : Solid s := by
  obtain ⟨c, r, rfl, rfl | hc⟩ := h
  · exact ⟨_, r, rfl, by decide⟩
  · exact ⟨c, r, rfl, hc.not_gap⟩

/-- A text that begins like an item of a list: with what is no blank and closes nothing. -/
def Opens (s : List Char) : Prop := ∃ c r, s = c :: r ∧ isGap c = false ∧ ¬ Closes c

theorem opens_cons {c : Char} (hgap : isGap c = false) (hcloses : ¬ Closes c) (s : List Char) :
    Opens (c :: s) :=
  ⟨c, s, rfl, hgap, hcloses⟩

theorem Opens.append {s : List Char} (h : Opens s) (rest : List Char) : Opens (s ++ rest) := by
  obtain ⟨c, r, rfl, hc⟩ := h
  exact ⟨c, r ++ rest, rfl, hc⟩

theorem Opens.solid {s : List Char} (h : Opens s) : Solid s := by
  obtain ⟨c, r, rfl, hc, -⟩ := h
  exact ⟨c, r, rfl, hc⟩

section Lists

variable {ε α β : Type} {closing : Char} {problem : Option Char → ε} {item : Nat → Reader ε α}
  {fuel index : Nat} {s rest : List Char}

/-- An item and the comma after it. -/
theorem itemsUntil_of_comma {a : α} {t r : List Char}
    (h : item index (skipBlanks s) = .ok (a, t)) (ht : skipBlanks t = ',' :: r) :
    itemsUntil closing problem item (fuel + 1) index s =
      (itemsUntil closing problem item fuel (index + 1) r).map fun p => (a :: p.1, p.2) := by
  rw [itemsUntil, h]
  simp only [bind, Except.bind, ht, if_true]
  cases itemsUntil closing problem item fuel (index + 1) r <;> rfl

/-- The last item. -/
theorem itemsUntil_of_closing (hclosing : Closes closing) {a : α} {t r : List Char}
    (h : item index (skipBlanks s) = .ok (a, t)) (ht : skipBlanks t = closing :: r) :
    itemsUntil closing problem item (fuel + 1) index s = .ok ([a], r) := by
  rw [itemsUntil, h]
  simp only [bind, Except.bind, ht, if_neg hclosing.ne_comma, if_true]

/-- The items of a list begin with one that was read. -/
theorem exists_of_itemsUntil {p : List α × List Char}
    (h : itemsUntil closing problem item fuel index s = .ok p) :
    ∃ a r as, item index (skipBlanks s) = .ok (a, r) ∧ p.1 = a :: as := by
  cases fuel with
  | zero => cases h
  | succ fuel =>
    rw [itemsUntil] at h
    obtain ⟨⟨a, r⟩, ha, h⟩ := bind_eq_ok_iff.1 h
    simp only at h
    split at h
    · cases h
    · split at h
      · obtain ⟨⟨as, r'⟩, -, h⟩ := bind_eq_ok_iff.1 h
        exact ⟨a, r, as, ha, by rw [← Except.ok.inj h]⟩
      · split at h
        · exact ⟨a, r, [], ha, by rw [← Except.ok.inj h]⟩
        · cases h

/-- All items of a list have what reading any item guarantees. -/
theorem forall_of_itemsUntil {P : α → Prop}
    (hitem : ∀ {index s p}, item index s = .ok p → P p.1) {p : List α × List Char}
    (h : itemsUntil closing problem item fuel index s = .ok p) : ∀ a ∈ p.1, P a := by
  induction fuel generalizing index s p with
  | zero => cases h
  | succ fuel ih =>
    rw [itemsUntil] at h
    obtain ⟨⟨a, r⟩, ha, h⟩ := bind_eq_ok_iff.1 h
    simp only at h
    split at h
    · cases h
    · split at h
      · obtain ⟨⟨as, r'⟩, has, h⟩ := bind_eq_ok_iff.1 h
        rw [← Except.ok.inj h]
        exact List.forall_mem_cons.2 ⟨hitem ha, ih has⟩
      · split at h
        · rw [← Except.ok.inj h]
          exact List.forall_mem_singleton.2 (hitem ha)
        · cases h

theorem forall_of_separated {P : α → Prop}
    (hitem : ∀ {index s p}, item index s = .ok p → P p.1) {p : List α × List Char}
    (h : separated closing problem item s = .ok p) : ∀ a ∈ p.1, P a := by
  unfold separated at h
  split at h
  · exact forall_of_itemsUntil hitem h
  · split at h
    · rw [← Except.ok.inj h]
      intro _ ha
      cases ha
    · exact forall_of_itemsUntil hitem h

/-- The first item of a list is read right behind the blanks. -/
theorem exists_item_of_separated {p : List α × List Char}
    (h : separated closing problem item s = .ok p) :
    p.1 = [] ∨ ∃ a r as, item 0 (skipBlanks s) = .ok (a, r) ∧ p.1 = a :: as := by
  have hfirst : ∀ {fuel t}, skipBlanks s = t → itemsUntil closing problem item fuel 0 t = .ok p →
      ∃ a r as, item 0 (skipBlanks s) = .ok (a, r) ∧ p.1 = a :: as := by
    intro fuel t ht hread
    obtain ⟨a, r, as, ha, hp⟩ := exists_of_itemsUntil hread
    rw [← ht, skipBlanks_skipBlanks] at ha
    exact ⟨a, r, as, ha, hp⟩
  unfold separated at h
  split at h
  · rename_i hs
    exact .inr (hfirst hs h)
  · rename_i c r hs
    split at h
    · exact .inl (by rw [← Except.ok.inj h])
    · exact .inr (hfirst hs h)

variable {text : β → List Char} {value : β → α}

/-- Items with commas between them. -/
def joinedBy (text : β → List Char) (xs : List β) : List Char :=
  joinChars [',', ' '] (xs.map text)

theorem joinedBy_cons_cons (x y : β) (xs : List β) (u : List Char) :
    joinedBy text (x :: y :: xs) ++ u = text x ++ ',' :: ' ' :: (joinedBy text (y :: xs) ++ u) := by
  show text x ++ [',', ' '] ++ joinedBy text (y :: xs) ++ u = _
  rw [List.append_assoc, List.append_assoc]
  rfl

/-- After the first item of a list stands a comma or what closes the list. -/
theorem exists_joinedBy_cons (hclosing : Closes closing) (x : β) (xs : List β)
    (rest : List Char) :
    ∃ t, joinedBy text (x :: xs) ++ closing :: rest = text x ++ t ∧ Delimited t := by
  cases xs with
  | nil => exact ⟨_, rfl, hclosing.delimited rest⟩
  | cons y xs => exact ⟨_, joinedBy_cons_cons x y xs _, delimited_comma _⟩

theorem opens_joinedBy (hopens : ∀ y, Opens (text y)) (x : β) (xs : List β) (u : List Char) :
    Opens (joinedBy text (x :: xs) ++ u) := by
  cases xs with
  | nil => exact (hopens x).append u
  | cons y xs =>
    rw [joinedBy_cons_cons]
    exact (hopens x).append _

theorem length_lt_joinedBy (hopens : ∀ y, Opens (text y)) (x : β) (xs : List β) :
    xs.length < (joinedBy text (x :: xs)).length := by
  induction xs generalizing x with
  | nil => exact (hopens x).solid.length_pos
  | cons y xs ih =>
    have hlength := congrArg List.length (@joinedBy_cons_cons β text x y xs [])
    rw [List.append_nil, List.append_nil, List.length_append, List.length_cons,
      List.length_cons] at hlength
    have := ih y
    rw [List.length_cons]
    omega

theorem length_le_joinedBy {x : β} {xs : List β} (hx : x ∈ xs) :
    (text x).length ≤ (joinedBy text xs).length := by
  induction xs with
  | nil => cases hx
  | cons y xs ih =>
    cases xs with
    | nil =>
      rw [List.mem_singleton.1 hx]
      exact Nat.le_refl _
    | cons z xs =>
      have hlength := congrArg List.length (@joinedBy_cons_cons β text y z xs [])
      rw [List.append_nil, List.append_nil, List.length_append, List.length_cons,
        List.length_cons] at hlength
      rcases List.mem_cons.1 hx with rfl | hx
      · omega
      · have := ih hx
        omega

/-- An item of a list is read, whatever its number, in front of a comma or of what closes. -/
def ReadsBack (item : Nat → Reader ε α) (text : List Char) (a : α) : Prop :=
  ∀ index rest, Delimited rest → item index (text ++ rest) = .ok (a, rest)

/-- The first of several items is read, and the comma after it. -/
theorem itemsUntil_joinedBy_cons (hopens : ∀ y, Opens (text y)) {x y : β} {xs : List β}
    (hx : ReadsBack item (text x) (value x)) {u : List Char}
    (hs : skipBlanks s = joinedBy text (x :: y :: xs) ++ u) :
    ∃ r, skipBlanks r = joinedBy text (y :: xs) ++ u ∧
      itemsUntil closing problem item (fuel + 1) index s =
        (itemsUntil closing problem item fuel (index + 1) r).map fun p =>
          (value x :: p.1, p.2) := by
  refine ⟨' ' :: (joinedBy text (y :: xs) ++ u),
    skipBlanks_space_of_solid (opens_joinedBy hopens y xs u).solid,
    itemsUntil_of_comma ?_ (skipBlanks_of_solid (delimited_comma _).solid)⟩
  rw [hs, joinedBy_cons_cons]
  exact hx index _ (delimited_comma _)

theorem itemsUntil_joinedBy (hclosing : Closes closing) (hopens : ∀ y, Opens (text y)) (x : β)
    (xs : List β) (hitem : ∀ y ∈ x :: xs, ReadsBack item (text y) (value y))
    (hfuel : xs.length < fuel) (hs : skipBlanks s = joinedBy text (x :: xs) ++ closing :: rest) :
    itemsUntil closing problem item fuel index s = .ok ((x :: xs).map value, rest) := by
  induction xs generalizing x s fuel index with
  | nil =>
    cases fuel with
    | zero => exact absurd hfuel (Nat.not_lt_zero _)
    | succ fuel =>
      refine itemsUntil_of_closing hclosing ?_
        (skipBlanks_of_solid (hclosing.delimited rest).solid)
      rw [hs]
      exact hitem x List.mem_cons_self index _ (hclosing.delimited rest)
  | cons y xs ih =>
    cases fuel with
    | zero => exact absurd hfuel (Nat.not_lt_zero _)
    | succ fuel =>
      have hrest : ∀ z ∈ y :: xs, ReadsBack item (text z) (value z) := by
        intro z hz
        exact hitem z (List.mem_cons_of_mem x hz)
      obtain ⟨r, hr, hnext⟩ := @itemsUntil_joinedBy_cons ε α β closing problem item fuel index s
        text value hopens x y xs (hitem x List.mem_cons_self) _ hs
      rw [hnext, ih y hrest (Nat.lt_of_succ_lt_succ hfuel) hr]
      rfl

theorem separated_cons (hclosing : Closes closing) (hopens : ∀ y, Opens (text y)) (x : β)
    (xs : List β) :
    separated closing problem item (joinedBy text (x :: xs) ++ closing :: rest) =
      itemsUntil closing problem item (joinedBy text (x :: xs) ++ closing :: rest).length 0
        (joinedBy text (x :: xs) ++ closing :: rest) := by
  obtain ⟨c, t, ht, hgap, hopen⟩ := opens_joinedBy hopens x xs (closing :: rest)
  have hblank : skipBlanks (c :: t) = c :: t := skipBlanks_of_solid ⟨c, t, rfl, hgap⟩
  have hne : c ≠ closing := fun hc => hopen (hc ▸ hclosing)
  unfold separated
  simp only [ht, hblank, if_neg hne, List.length_cons]

/-- An empty list. -/
theorem separated_closing (hclosing : Closes closing) :
    separated closing problem item (closing :: rest) = .ok ([], rest) := by
  have hblank : skipBlanks (closing :: rest) = closing :: rest :=
    skipBlanks_of_solid ⟨_, _, rfl, hclosing.not_gap⟩
  unfold separated
  simp only [hblank, if_true]

/-- **A list is read from its items with commas between them.** -/
theorem separated_joinedBy (hclosing : Closes closing) (hopens : ∀ y, Opens (text y)) (xs : List β)
    (hitem : ∀ y ∈ xs, ReadsBack item (text y) (value y)) (rest : List Char) :
    separated closing problem item (joinedBy text xs ++ closing :: rest) =
      .ok (xs.map value, rest) := by
  cases xs with
  | nil => exact separated_closing hclosing
  | cons x xs =>
    have hlength := length_lt_joinedBy hopens x xs
    rw [separated_cons hclosing hopens]
    refine itemsUntil_joinedBy hclosing hopens x xs hitem ?_
      (skipBlanks_of_solid (opens_joinedBy hopens x xs _).solid)
    rw [List.length_append]
    omega

theorem exists_of_itemsUntil_joinedBy (hclosing : Closes closing) (hopens : ∀ y, Opens (text y))
    {pre post : List β} {x : β} (hitem : ∀ y ∈ pre, ReadsBack item (text y) (value y))
    (hs : skipBlanks s = joinedBy text (pre ++ x :: post) ++ closing :: rest)
    {p : List α × List Char} (h : itemsUntil closing problem item fuel index s = .ok p) :
    ∃ index t a r more, Delimited t ∧ item index (text x ++ t) = .ok (a, r) ∧
      p.1 = pre.map value ++ a :: more := by
  induction pre generalizing s fuel index p with
  | nil =>
    obtain ⟨a, r, more, ha, hp⟩ := exists_of_itemsUntil h
    obtain ⟨t, ht, hdelimited⟩ := @exists_joinedBy_cons β closing text hclosing x post rest
    rw [hs, List.nil_append, ht] at ha
    exact ⟨index, t, a, r, more, hdelimited, ha, hp⟩
  | cons y pre ih =>
    cases fuel with
    | zero => cases h
    | succ fuel =>
      obtain ⟨z, zs, hzs⟩ := List.exists_cons_of_ne_nil
        (List.append_ne_nil_of_right_ne_nil pre (List.cons_ne_nil x post))
      rw [List.cons_append, hzs] at hs
      obtain ⟨r, hr, hnext⟩ := @itemsUntil_joinedBy_cons ε α β closing problem item fuel index s
        text value hopens y z zs (hitem y List.mem_cons_self) _ hs
      rw [hnext] at h
      obtain ⟨q, hq, rfl⟩ := map_eq_ok_iff.1 h
      obtain ⟨i, t, a, r', more, hdelimited, ha, hp⟩ :=
        ih (fun y' hy' => hitem y' (List.mem_cons_of_mem y hy')) (hzs ▸ hr) hq
      exact ⟨i, t, a, r', more, hdelimited, ha, congrArg (value y :: ·) hp⟩

/-- A list that is read begins with the items that read back, and goes on with what the next item is
read as. -/
theorem exists_of_separated (hclosing : Closes closing) (hopens : ∀ y, Opens (text y))
    {pre post : List β} {x : β} (hitem : ∀ y ∈ pre, ReadsBack item (text y) (value y))
    {p : List α × List Char}
    (h : separated closing problem item (joinedBy text (pre ++ x :: post) ++ closing :: rest) =
      .ok p) :
    ∃ index t a r more, Delimited t ∧ item index (text x ++ t) = .ok (a, r) ∧
      p.1 = pre.map value ++ a :: more := by
  obtain ⟨z, zs, hzs⟩ := List.exists_cons_of_ne_nil
    (List.append_ne_nil_of_right_ne_nil pre (List.cons_ne_nil x post))
  have hblank : skipBlanks (joinedBy text (pre ++ x :: post) ++ closing :: rest) =
      joinedBy text (pre ++ x :: post) ++ closing :: rest := by
    rw [hzs]
    exact skipBlanks_of_solid (opens_joinedBy hopens z zs _).solid
  rw [hzs, separated_cons hclosing hopens, ← hzs] at h
  exact exists_of_itemsUntil_joinedBy hclosing hopens hitem hblank h

/-- What an item's text is read as, if it is read, has `P`, and the text is read to its end. -/
def ReadsOnly (item : Nat → Reader ε α) (text : List Char) (P : α → Prop) : Prop :=
  ∀ index rest p, Delimited rest → item index (text ++ rest) = .ok p → P p.1 ∧ p.2 = rest

theorem related_of_itemsUntil {R : β → α → Prop} (hclosing : Closes closing)
    (hopens : ∀ y, Opens (text y)) (x : β) (xs : List β)
    (hitem : ∀ y ∈ x :: xs, ReadsOnly item (text y) (R y))
    (hs : skipBlanks s = joinedBy text (x :: xs) ++ closing :: rest) {p : List α × List Char}
    (h : itemsUntil closing problem item fuel index s = .ok p) :
    List.Forall₂ R (x :: xs) p.1 ∧ p.2 = rest := by
  have hx := hitem x List.mem_cons_self
  induction xs generalizing x s fuel index p with
  | nil =>
    cases fuel with
    | zero => cases h
    | succ fuel =>
      have hread := h
      rw [itemsUntil] at hread
      obtain ⟨⟨a, r⟩, ha, -⟩ := bind_eq_ok_iff.1 hread
      have ha' := ha
      rw [hs] at ha'
      obtain ⟨hR, rfl⟩ := hx index _ _ (hclosing.delimited rest) ha'
      have hlast := @itemsUntil_of_closing ε α closing problem item fuel index s hclosing _ _ _ ha
        (skipBlanks_of_solid (hclosing.delimited rest).solid)
      obtain rfl := Except.ok.inj (hlast.symm.trans h)
      exact ⟨.cons hR .nil, rfl⟩
  | cons y xs ih =>
    cases fuel with
    | zero => cases h
    | succ fuel =>
      have hread := h
      rw [itemsUntil] at hread
      obtain ⟨⟨a, r⟩, ha, -⟩ := bind_eq_ok_iff.1 hread
      have ha' := ha
      rw [hs, joinedBy_cons_cons] at ha'
      obtain ⟨hR, rfl⟩ := hx index _ _ (delimited_comma _) ha'
      have hnext := @itemsUntil_of_comma ε α closing problem item fuel index s _ _ _ ha
        (skipBlanks_of_solid (delimited_comma _).solid)
      obtain ⟨q, hq, rfl⟩ := map_eq_ok_iff.1 (hnext.symm.trans h)
      have hrest : ∀ z ∈ y :: xs, ReadsOnly item (text z) (R z) := by
        intro z hz
        exact hitem z (List.mem_cons_of_mem x hz)
      obtain ⟨hRs, hq2⟩ := ih y hrest
        (skipBlanks_space_of_solid (opens_joinedBy hopens y xs _).solid) hq
        (hrest y List.mem_cons_self)
      exact ⟨.cons hR hRs, hq2⟩

/-- A list that is read from items with commas between them has an item for each of them. -/
theorem related_of_separated {R : β → α → Prop} (hclosing : Closes closing)
    (hopens : ∀ y, Opens (text y)) (xs : List β)
    (hitem : ∀ y ∈ xs, ReadsOnly item (text y) (R y)) {p : List α × List Char}
    (h : separated closing problem item (joinedBy text xs ++ closing :: rest) = .ok p) :
    List.Forall₂ R xs p.1 ∧ p.2 = rest := by
  cases xs with
  | nil =>
    obtain rfl := Except.ok.inj ((separated_closing hclosing).symm.trans h)
    exact ⟨.nil, rfl⟩
  | cons x xs =>
    rw [separated_cons hclosing hopens] at h
    exact related_of_itemsUntil hclosing hopens x xs hitem
      (skipBlanks_of_solid (opens_joinedBy hopens x xs _).solid) h

end Lists

end DocQuery
