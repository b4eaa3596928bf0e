import DocQuery.Error
import DocQuery.Proofs.Scanning
import DocQuery.Proofs.Success

/-!
# Scans that agree with readers

A scan agrees with a reader where both give the same value and stop at the same place, or fail with
the same message at the same place; in either case the place is one of the text that was left, and
the scan is not in breach. Agreement passes through binds and lists, so it holds of a whole parser
once it holds of its tokens.

* `Scan.Agrees` — for one run; `Scan.Follows` — for all runs on what is left of a text.
* `Scan.Agrees.bind`, `Scan.Agrees.map`, `Scan.Agrees.mapProblem` — how agreement is put together.
* `Scan.Follows.require`, `Scan.Follows.quoted`, `Scan.Follows.float` — tokens.
* `Scan.Follows.list` — lists, by the number of characters that are left.
-/

set_option autoImplicit false

namespace DocQuery.Scan

/-- What a scan gives is what a reader gives on `s`, at a place of what is left of `s`. -/
inductive Agrees {ε α : Type} (wording : ε → String) (text : String) (s : List Char) :
    Except Breach (Except String α × Nat) → Except (Fault ε) (α × List Char) → Prop
  | value {a : α} {rest : List Char} (suffix : rest <:+ s) :
    Agrees wording text s (.ok (.ok a, place text rest)) (.ok (a, rest))
  | failure {rest : List Char} {problem : ε} (suffix : rest <:+ s) :
    Agrees wording text s (.ok (.error (wording problem), place text rest))
      (.error ⟨rest, problem⟩)

/-- A scan gives what a reader gives wherever fewer than `n` characters of the text are left. -/
def Follows {ε α : Type} (wording : ε → String) (text : String) (n : Nat) (m : Scan α)
    (read : Reader ε α) : Prop :=
  ∀ ⦃s⦄, s <:+ text.toList → s.length < n → Agrees wording text s (m text (place text s)) (read s)

section Rules

variable {ε δ α β : Type} {wording : ε → String} {text : String} {s t : List Char} {p n : Nat}

theorem Agrees.mono {x : Except Breach (Except String α × Nat)}
    {y : Except (Fault ε) (α × List Char)} (hst : s <:+ t) (h : Agrees wording text s x y) :
    Agrees wording text t x y := by
  cases h with
  | value suffix => exact .value (suffix.trans hst)
  | failure suffix => exact .failure (suffix.trans hst)

/-- What goes on may fall back on all of `s`. -/
theorem Agrees.bind {m : Scan α} {k : α → Scan β} {r : Except (Fault ε) (α × List Char)}
    {k' : α × List Char → Except (Fault ε) (β × List Char)}
    (hm : Agrees wording text s (m text p) r)
    (hk : ∀ a rest, r = .ok (a, rest) → rest <:+ s →
      Agrees wording text s (k a text (place text rest)) (k' (a, rest))) :
    Agrees wording text s ((m >>= k) text p) (r >>= k') := by
  generalize hx : m text p = x at hm
  cases hm with
  | value suffix =>
    rw [Scan.bind_ok hx]
    exact hk _ _ rfl suffix
  | failure suffix =>
    rw [Scan.bind_error hx]
    exact .failure suffix

/-- What goes on stays within what is left. -/
theorem Agrees.seq {m : Scan α} {k : α → Scan β} {r : Except (Fault ε) (α × List Char)}
    {k' : α × List Char → Except (Fault ε) (β × List Char)}
    (hm : Agrees wording text s (m text p) r)
    (hk : ∀ a rest, r = .ok (a, rest) → rest <:+ s →
      Agrees wording text rest (k a text (place text rest)) (k' (a, rest))) :
    Agrees wording text s ((m >>= k) text p) (r >>= k') :=
  hm.bind fun a rest hr hrest => (hk a rest hr hrest).mono hrest

theorem Agrees.map {m : Scan α} {r : Except (Fault ε) (α × List Char)} (f : α → β)
    (hm : Agrees wording text s (m text p) r) :
    Agrees wording text s ((f <$> m) text p) (r.map fun x => (f x.1, x.2)) := by
  show Agrees wording text s ((m >>= fun a => pure (f a)) text p) _
  generalize hx : m text p = x at hm
  cases hm with
  | value suffix =>
    rw [Scan.bind_ok hx]
    exact .value suffix
  | failure suffix =>
    rw [Scan.bind_error hx]
    exact .failure suffix

/-- A problem seen in a wider context that does not change its wording. -/
theorem Agrees.mapProblem {wording' : δ → String} {x : Except Breach (Except String α × Nat)}
    {r : Except (Fault ε) (α × List Char)} (f : ε → δ) (hf : ∀ e, wording' (f e) = wording e)
    (h : Agrees wording text s x r) : Agrees wording' text s x (r.mapError (Fault.map f)) := by
  cases h with
  | value suffix => exact .value suffix
  | failure suffix =>
    rw [← hf]
    exact .failure suffix

/-- A problem seen under a label. -/
theorem Agrees.under {m : Scan α} {r : Except (Fault ε) (α × List Char)} {label : String}
    (f : ε → ε) (hf : ∀ e, wording (f e) = label ++ ": " ++ wording e)
    (h : Agrees wording text s (m text p) r) :
    Agrees wording text s (Scan.under label m text p) (r.mapError (Fault.map f)) := by
  rw [Scan.under]
  generalize m text p = x at h
  cases h with
  | value suffix => exact .value suffix
  | failure suffix =>
    show Agrees wording text s (.ok (.error (label ++ ": " ++ wording _), _)) _
    rw [← hf]
    exact .failure suffix

theorem Agrees.fail {problem : ε} {message : String} (h : message = wording problem) :
    Agrees wording text s ((fail message : Scan α) text (place text s)) (fault s problem) := by
  subst h
  exact .failure List.suffix_rfl

/-- A failure at the cursor is the failure that is told of the reader. -/
theorem Agrees.told {x : Except Breach (Except String α × Nat)}
    {r : Except (Fault ε) (α × List Char)} (h : Agrees wording text s x r) :
    (x.map fun y => y.1.mapError (Error.malformed y.2)) =
      .ok ((r.map Prod.fst).mapError fun f =>
        .malformed (f.offset text.toList) (wording f.problem)) := by
  cases h with
  | value suffix => rfl
  | failure suffix =>
    simp only [place, ← byteLength_toList]
    rfl

/-- A failure that is told of the reader is at a boundary of the text. -/
theorem Agrees.told_at_boundary {x : Except Breach (Except String α × Nat)}
    {r : Except (Fault ε) (α × List Char)} (h : Agrees wording text s x r)
    (hs : s <:+ text.toList) {position : Nat} {problem : String}
    (htold : ((r.map Prod.fst).mapError fun f =>
      Error.malformed (f.offset text.toList) (wording f.problem)) =
        .error (.malformed position problem)) :
    isBoundary text position = true := by
  cases h with
  | value suffix => cases htold
  | failure suffix =>
    obtain ⟨rfl, -⟩ := Error.malformed.inj (Except.error.inj htold)
    rw [Fault.offset, byteLength_toList]
    exact isBoundary_place (suffix.trans hs)

/-- Where fewer characters are left, a scan still gives what the reader gives. -/
theorem Follows.at {m : Scan α} {read : Reader ε α} (h : Follows wording text n m read)
    (hs : s <:+ text.toList) (ht : t <:+ s) (hn : s.length < n) :
    Agrees wording text t (m text (place text t)) (read t) :=
  h (ht.trans hs) (Nat.lt_of_le_of_lt ht.length_le hn)

/-! ## Tokens -/

theorem missing_place (h : s <:+ text.toList) (wanted : String) :
    (missing wanted : Scan α) text (place text s) =
      .ok (.error ("expected " ++ wanted ++ " got " ++ shownNext s.head?), place text s) := by
  rw [Scan.missing, Scan.bind_ok (Scan.peek_place h), shownByte_peekByte]
  rfl

/-- A word that stands next is moved over. -/
theorem Agrees.word {word : String} {r : List Char} {k : Nat} {a : α} {other : Scan α}
    (h : word.toList ++ r <:+ text.toList) (hk : byteLength word.toList = k) :
    Agrees wording text (word.toList ++ r)
      ((do
        if ← startsWith word then
          moveTo ((← cursor) + k)
          pure a
        else other) text (place text (word.toList ++ r))) (.ok (a, r)) := by
  rw [bind_ok (startsWith_append h), if_pos rfl, bind_ok (m := cursor) rfl,
    bind_ok (moveTo_behind h hk)]
  exact .value (List.suffix_append _ r)

section Tokens

variable {c : Char} {wanted : String} {problem : Option Char → ε}

theorem Agrees.missing {e : ε} (h : s <:+ text.toList)
    (he : "expected " ++ wanted ++ " got " ++ shownNext s.head? = wording e) :
    Agrees wording text s ((missing wanted : Scan α) text (place text s)) (fault s e) := by
  rw [missing_place h, he]
  exact .failure List.suffix_rfl

theorem Follows.require (hpos : 0 < c.toNat) (hc : c.toNat < 128)
    (hproblem : ∀ o, "expected " ++ wanted ++ " got " ++ shownNext o = wording (problem o)) :
    Follows wording text n (Scan.require c wanted) (expect c problem) := by
  intro s h _
  rw [Scan.require]
  unfold expect
  cases s with
  | nil =>
    rw [Scan.bind_ok (Scan.accept_place_of_ne hpos hc h (by simp))]
    exact Agrees.missing h (hproblem none)
  | cons d s =>
    by_cases hd : d = c
    · subst hd
      rw [Scan.bind_ok (Scan.accept_place_cons hpos hc h)]
      simp only [if_true]
      exact .value (List.suffix_cons d s)
    · rw [Scan.bind_ok (Scan.accept_place_of_ne hpos hc h (by simpa using hd))]
      simp only [if_neg hd]
      exact Agrees.missing h (hproblem (some d))

/-! ## Lists -/

/-- What ends an item, behind any blanks, if it is no comma. -/
theorem itemsUntil_last (a : α) (k : List Char → Except (Fault ε) (List α × List Char))
    (s : List Char) : s.head? ≠ some ',' →
    (match s with
      | [] => fault [] (problem none)
      | d :: r =>
        if d = ',' then k r else if d = c then .ok ([a], r) else fault (d :: r) (problem d)) =
      expect c problem s >>= fun x => .ok ([a], x.2) := by
  intro hs
  cases s with
  | nil => rfl
  | cons d s =>
    have hd : d ≠ ',' := by simpa using hs
    by_cases hc : d = c
    · simp only [if_neg hd, expect, if_pos hc]
      rfl
    · simp only [if_neg hd, expect, if_neg hc]
      rfl

variable {item : Nat → Scan α} {read : Nat → Reader ε α}

/-- Every turn reads an item, so fewer characters are left for the next. The scan counts its turns
by the bytes of the text, the reader by the characters that are left. -/
theorem Agrees.items (hpos : 0 < c.toNat) (hc : c.toNat < 128)
    (hproblem : ∀ o, "expected " ++ wanted ++ " got " ++ shownNext o = wording (problem o))
    (hconsumes : ∀ index s a rest, read index s = .ok (a, rest) → rest.length < s.length)
    (hitem : ∀ index, Follows wording text n (item index) (read index)) {fuel cfuel index : Nat}
    (h : s <:+ text.toList) (hn : s.length < n) (hfuel : s.length < fuel)
    (hlength : s.length ≤ cfuel) (hcfuel : 0 < cfuel) :
    Agrees wording text s (Scan.items c wanted item fuel index text (place text s))
      (itemsUntil c problem read cfuel index s) := by
  induction fuel generalizing cfuel index s with
  | zero => exact absurd hfuel (Nat.not_lt_zero _)
  | succ fuel ih =>
    obtain ⟨cfuel, rfl⟩ := Nat.exists_eq_add_one.2 hcfuel
    have hblanks := skipBlanks_suffix s
    rw [Scan.items, Scan.bind_ok (Scan.skipGaps_place h), itemsUntil]
    refine ((hitem index).at h hblanks hn).seq (fun a rest hread hrest => ?_) |>.mono hblanks
    have hlt := hconsumes _ _ _ _ hread
    have hrest' := hrest.trans hblanks |>.trans h
    have hnext := skipBlanks_suffix rest
    have ht : skipBlanks rest <:+ text.toList := hnext.trans hrest'
    rw [Scan.bind_ok (Scan.skipGaps_place hrest')]
    refine Agrees.mono hnext ?_
    show Agrees wording text (skipBlanks rest) _ (match skipBlanks rest with
      | [] => _
      | d :: r => _)
    generalize skipBlanks rest = t at hnext ht
    by_cases hcomma : t.head? = some ','
    · cases t with
      | nil => cases hcomma
      | cons d r =>
        obtain rfl : d = ',' := Option.some.inj hcomma
        have hshort := hnext.length_le
        have hblank := hblanks.length_le
        rw [List.length_cons] at hshort
        rw [Scan.bind_ok (Scan.accept_place_cons (by decide) (by decide) ht)]
        simp only [if_true]
        refine ((ih (tail_suffix ht) (by omega) (by omega) (by omega) (by omega)).seq
          fun as rest' _ _ => ?_).mono (List.suffix_cons _ r)
        exact .value List.suffix_rfl
    · rw [Scan.bind_ok (Scan.accept_place_of_ne (by decide) (by decide) ht hcomma),
        itemsUntil_last a _ t hcomma]
      have hlast := Follows.require (n := n) hpos hc hproblem ht (by
        have := hnext.length_le
        have := hblanks.length_le
        omega)
      exact hlast.seq fun _ rest' _ _ => .value List.suffix_rfl

/-- **A list is scanned as it is read**, if its items are and none of them is empty. -/
theorem Follows.list (hpos : 0 < c.toNat) (hc : c.toNat < 128)
    (hproblem : ∀ o, "expected " ++ wanted ++ " got " ++ shownNext o = wording (problem o))
    (hconsumes : ∀ index s a rest, read index s = .ok (a, rest) → rest.length < s.length)
    (hitem : ∀ index, Follows wording text n (item index) (read index)) :
    Follows wording text n (Scan.list c wanted item) (separated c problem read) := by
  intro s h hn
  have hblanks := skipBlanks_suffix s
  have ht : skipBlanks s <:+ text.toList := hblanks.trans h
  have hlt : (skipBlanks s).length < n := Nat.lt_of_le_of_lt hblanks.length_le hn
  have hsize := Scan.length_lt_size ht
  rw [Scan.list, Scan.bind_ok (Scan.skipGaps_place h), separated]
  refine Agrees.mono hblanks ?_
  generalize skipBlanks s = t at ht hlt hsize
  cases t with
  | nil =>
    rw [Scan.bind_ok (Scan.accept_place_of_ne hpos hc ht (by simp))]
    exact Agrees.items hpos hc hproblem hconsumes hitem ht hlt hsize (Nat.zero_le 1) Nat.one_pos
  | cons d t =>
    by_cases hd : d = c
    · subst hd
      rw [Scan.bind_ok (Scan.accept_place_cons hpos hc ht)]
      simp only [if_true]
      exact .value (List.suffix_cons d t)
    · rw [Scan.bind_ok (Scan.accept_place_of_ne hpos hc ht (by simpa using hd))]
      simp only [if_neg hd]
      exact Agrees.items hpos hc hproblem hconsumes hitem ht hlt hsize (Nat.le_refl _)
        (Nat.succ_pos _)

end Tokens

/-- A reader of texts that a rule derives, none of them empty. -/
theorem consumes_of_sound {read : Reader ε α} {R : List Char → α → Prop}
    (hsound : Grammar.Sound read R) (hopens : ∀ w a, R w a → Opens w) {a : α} {rest : List Char}
    (h : read s = .ok (a, rest)) : rest.length < s.length := by
  obtain ⟨w, rfl, hw⟩ := hsound h
  have hpos := (hopens w a hw).solid.length_pos
  rw [List.length_append]
  omega

/-! ## Literals -/

section Literals

variable {quoteMark : Char} {wording : Literal.Problem → String}

theorem contents_failure {inner : List Char} {problem : Literal.Problem}
    (h : Literal.contents quoteMark inner = .error problem) (digits : String) :
    problem ≠ .badNumber digits := by
  unfold Literal.contents at h
  simp only at h
  split at h
  · cases h
  · split at h
    · cases h
    · rw [← Except.error.inj h]
      nofun

/-- A string that is not read is told at its opening quote. -/
theorem string_failure {f : Fault Literal.Problem} (h : Literal.string quoteMark s = .error f) :
    f.rest = s ∧ ∀ digits, f.problem ≠ .badNumber digits := by
  have hfault : ∀ {problem : Literal.Problem},
      (fault s problem : Except _ (String × List Char)) = .error f →
      (∀ digits, problem ≠ .badNumber digits) →
      f.rest = s ∧ ∀ digits, f.problem ≠ .badNumber digits := by
    intro problem heq hproblem
    rw [← Except.error.inj heq]
    exact ⟨rfl, hproblem⟩
  unfold Literal.string at h
  split at h
  · exact hfault h fun _ => nofun
  · split at h
    · exact hfault h fun _ => nofun
    · split at h
      · exact hfault h fun _ => nofun
      · split at h
        · cases h
        · rename_i hcontents
          exact hfault h (contents_failure hcontents)

theorem string_suffix {a : String} {rest : List Char}
    (h : Literal.string quoteMark s = .ok (a, rest)) : rest <:+ s := by
  obtain ⟨r, inner, cs, rfl, hclose, -, -⟩ := Grammar.string_eq_ok_iff.1 h
  rw [Literal.closeQuote_append hclose]
  exact ⟨quoteMark :: (inner ++ [quoteMark]), by simp⟩

theorem Follows.quoted (hascii : quoteMark.toNat < 128) (hmark : quoteMark ≠ '\\')
    (hwording : ∀ e, (∀ digits, e ≠ .badNumber digits) → e.text = wording e) :
    Follows wording text n (Scan.quoted quoteMark) (Literal.string quoteMark) := by
  intro s h _
  have hstring := Scan.string_place (p := place text s) hascii hmark h
  rw [Scan.quoted, Scan.bind_ok (m := Scan.cursor) rfl]
  cases hread : Literal.string quoteMark s with
  | ok found =>
    obtain ⟨a, rest⟩ := found
    have hrest := string_suffix hread
    rw [hread] at hstring
    rw [Scan.bind_ok hstring]
    show Agrees wording text s ((Scan.moveTo (place text rest) >>= fun _ => Pure.pure a) text _) _
    rw [Scan.bind_ok (Scan.moveTo_place (hrest.trans h))]
    exact .value hrest
  | error f =>
    obtain ⟨rest, problem⟩ := f
    obtain ⟨rfl, hproblem⟩ := string_failure hread
    rw [hread] at hstring
    rw [Scan.bind_error hstring]
    show Agrees wording text rest (.ok (.error problem.text, place text rest)) _
    rw [hwording problem hproblem]
    exact .failure List.suffix_rfl

theorem Follows.float {bad : String → String} (hnone : "not a number" = wording .notNumber)
    (hrange : "not a number: out of range" = wording .outOfRange)
    (hbad : ∀ digits, bad digits = wording (.badNumber digits)) :
    Follows wording text n (Scan.float bad) Literal.number := by
  intro s h _
  have hend := Scan.numberEnd_place (p := place text s) h
  rw [Scan.float, Scan.bind_ok (m := Scan.cursor) rfl, Scan.bind_ok hend, Literal.number]
  cases hscan : Literal.scanNumber s with
  | none => exact Agrees.fail hnone
  | some found =>
    obtain ⟨digits, rest⟩ := found
    have hsplit := Literal.scanNumber_append hscan
    have hrest : rest <:+ s := ⟨digits, hsplit.symm⟩
    have hslice : Scan.slice (place text s) (place text rest) text (place text s) =
        .ok (.ok (String.ofList digits), place text s) := by
      rw [hsplit]
      exact Scan.slice_place (hsplit ▸ h)
    show Agrees wording text s ((Scan.slice (place text s) (place text rest) >>= _) text _) _
    rw [Scan.bind_ok hslice, String.toList_ofList]
    cases hvalue : Bound.ofChars digits with
    | none =>
      simp only [hvalue]
      exact Agrees.fail (hbad (String.ofList digits))
    | some x =>
      simp only [hvalue]
      cases x with
      | finite d =>
        show Agrees wording text s
          ((Scan.moveTo (place text rest) >>= fun _ => Pure.pure d) text (place text s)) _
        rw [Scan.bind_ok (Scan.moveTo_place (hrest.trans h))]
        exact .value hrest
      | infinite | nan => exact Agrees.fail hrange

end Literals

end Rules

end DocQuery.Scan
