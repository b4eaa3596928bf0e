import DocQuery.Projection.Scan
import DocQuery.Proofs.Agreement
import DocQuery.Proofs.ProjectionGrammar

/-!
# Projections are scanned as they are read

Every function of the scan of projections follows the reader of the same rule, so the whole scan
gives what the parser gives: it is never in breach, and it fails at a boundary of the text.

* `Projection.scanNameText_place` — names.
* `Projection.follows_param`, `Projection.follows_field` — parameters and fields.
* `Projection.follows_childrenWithin` — selections, by the depth of their nesting.

Main statement: `Projection.scan_eq`.
-/

set_option autoImplicit false

namespace DocQuery.Projection

open Scan

variable {text : String} {s : List Char} {n : Nat}

/-- A scan of projections follows a reader of projections. -/
abbrev Scans {α : Type} (text : String) (n : Nat) (m : Scan α) (read : Reader Problem α) : Prop :=
  Follows Problem.text text n m read

/-! ## Names -/

theorem isNameChar_lt (c : Char) (h : isNameChar c = true) : c.toNat < 128 := by
  simp only [isNameChar, Bool.or_eq_true, beq_iff_eq] at h
  rcases h with (h | rfl) | rfl
  · exact isAlphanum_lt c h
  all_goals decide

theorem scanName_suffix (s : List Char) : (scanName s).2 <:+ s := by
  unfold scanName
  split
  · exact List.suffix_cons _ _
  · exact List.dropWhile_suffix _

theorem scanName_of_ne (hs : s.head? ≠ some '*') :
    scanName s = (s.takeWhile isNameChar, s.dropWhile isNameChar) := by
  unfold scanName
  split
  · exact absurd rfl hs
  · rfl

theorem scanNameText_place (h : s <:+ text.toList) :
    scanNameText text (place text s) =
      .ok (.ok (String.ofList (scanName s).1), place text (scanName s).2) := by
  have hstar := beq_ascii_peekByte (c := '*') (by decide) (by decide) s
  rw [scanNameText, bind_ok (m := cursor) rfl, bind_ok (peek_place h), hstar]
  by_cases hs : s.head? = some '*'
  · cases s with
    | nil => cases hs
    | cons c r =>
      obtain rfl : c = '*' := Option.some.inj hs
      rw [if_pos (by rfl), bind_ok (moveTo_next h (by decide))]
      rfl
  · have hskip := skipRun_place (by decide) isNameChar_lt h
    rw [if_neg (by simpa using hs), bind_ok hskip, bind_ok (m := cursor) rfl, scanName_of_ne hs]
    exact slice_run isNameChar h

theorem isEmpty_ofList (w : List Char) : (String.ofList w).isEmpty = true ↔ w = [] := by
  rw [String.isEmpty_iff, ← String.toList_inj, String.toList_ofList]
  rfl

theorem ofList_eq_star (w : List Char) : String.ofList w = "*" ↔ w = ['*'] := by
  rw [← String.toList_inj, String.toList_ofList]
  rfl

/-! ## Parameters -/

theorem follows_string (quoteMark : Char) (hascii : quoteMark.toNat < 128)
    (hmark : quoteMark ≠ '\\') :
    Scans text n (quoted quoteMark) (readLiteral (Literal.string quoteMark)) := by
  intro s h hn
  have hquoted : Follows Literal.Problem.text text n (quoted quoteMark)
      (Literal.string quoteMark) := Follows.quoted hascii hmark fun _ _ => rfl
  exact (hquoted h hn).mapProblem Problem.literal fun _ => rfl

theorem follows_float : Scans text n scanFloat (readLiteral Literal.number) := by
  intro s h hn
  have hfloat : Follows Literal.Problem.text text n scanFloat Literal.number :=
    Follows.float rfl rfl fun _ => rfl
  exact (hfloat h hn).mapProblem Problem.literal fun _ => rfl

theorem readParamValue_of_not_prefix {c : Char} (htrue : ¬ "true".toList <+: c :: s)
    (hfalse : ¬ "false".toList <+: c :: s) :
    readParamValue (c :: s) =
      if c = '"' ∨ c = '\'' then
        (readLiteral (Literal.string c) (c :: s)).map fun p => (.string p.1, p.2)
      else if c.isDigit ∨ c = '-' then
        (readLiteral Literal.number (c :: s)).map fun p => (.float p.1, p.2)
      else fault (c :: s) .paramValue := by
  unfold readParamValue
  split
  · rename_i heq
    exact absurd ⟨_, heq.symm⟩ htrue
  · rename_i heq
    exact absurd ⟨_, heq.symm⟩ hfalse
  · rename_i heq
    obtain ⟨rfl, rfl⟩ := List.cons.inj heq
    rfl
  · rename_i heq
    cases heq

theorem follows_paramValue : Scans text n scanParamValue readParamValue := by
  intro s h hn
  rw [scanParamValue, bind_ok (peek_place h)]
  by_cases htrue : "true".toList <+: s
  · obtain ⟨r, rfl⟩ := htrue
    exact Agrees.word h rfl
  by_cases hfalse : "false".toList <+: s
  · obtain ⟨r, rfl⟩ := hfalse
    exact Agrees.word h rfl
  cases s with
  | nil => exact Agrees.fail rfl
  | cons c s =>
    have hpeek : ∀ d : Char, d.toNat < 128 →
        (peekByte (c :: s) == ascii d) = decide (c = d) := fun d hd => peekByte_cons_beq hd c s
    have hdigit : isAscii Char.isDigit (peekByte (c :: s)) = c.isDigit :=
      isAscii_peekByte (by decide) isDigit_lt (c :: s)
    rw [hpeek '"' (by decide), hpeek '\'' (by decide), hpeek 't' (by decide),
      hpeek 'f' (by decide), hpeek '-' (by decide), hdigit,
      readParamValue_of_not_prefix htrue hfalse]
    simp only [decide_eq_true_eq, Bool.or_eq_true]
    by_cases hdouble : c = '"'
    · subst hdouble
      exact (follows_string '"' (by decide) (by decide) h hn).map _
    by_cases hsingle : c = '\''
    · subst hsingle
      exact (follows_string '\'' (by decide) (by decide) h hn).map _
    rw [if_neg hdouble, if_neg hsingle, if_neg (not_or.2 ⟨hdouble, hsingle⟩)]
    by_cases hnumber : c.isDigit = true ∨ c = '-'
    · rw [if_pos hnumber, if_pos hnumber]
      exact (follows_float h hn).map _
    rw [if_neg hnumber, if_neg hnumber]
    by_cases ht : c = 't'
    · rw [if_pos ht, bind_ok (startsWith_of_not h htrue)]
      exact Agrees.fail rfl
    rw [if_neg ht]
    by_cases hf : c = 'f'
    · rw [if_pos hf, bind_ok (startsWith_of_not h hfalse)]
      exact Agrees.fail rfl
    rw [if_neg hf]
    exact Agrees.fail rfl

/-- The value behind the sign of a parameter. -/
theorem agrees_passed (name : String) (h : s <:+ text.toList) :
    Agrees Problem.text text s
      ((do
        skipGaps
        let value ← scanParamValue
        pure (name, value)) text (place text s))
      ((readParamValue (skipBlanks s)).map fun x => ((name, x.1), x.2)) := by
  have hblanks := skipBlanks_suffix s
  have hvalue := follows_paramValue.at h hblanks (Nat.lt_succ_self _)
  rw [bind_ok (skipGaps_place h)]
  exact (hvalue.map fun v => (name, v)).mono hblanks

theorem scanSign_colon (h : ':' :: s <:+ text.toList) :
    scanSign text (place text (':' :: s)) = .ok (.ok (), place text s) := by
  rw [scanSign, bind_ok (accept_place_cons (by decide) (by decide) h)]
  rfl

theorem scanSign_equals (h : '=' :: s <:+ text.toList) :
    scanSign text (place text ('=' :: s)) = .ok (.ok (), place text s) := by
  rw [scanSign, bind_ok (accept_place_of_ne (by decide) (by decide) h (by simp)),
    if_neg Bool.false_ne_true, bind_ok (accept_place_cons (by decide) (by decide) h)]
  rfl

theorem scanSign_of_ne (h : s <:+ text.toList) (hcolon : s.head? ≠ some ':')
    (hequals : s.head? ≠ some '=') :
    scanSign text (place text s) =
      .ok (.error (Problem.text .paramSign), place text s) := by
  rw [scanSign, bind_ok (accept_place_of_ne (by decide) (by decide) h hcolon),
    if_neg Bool.false_ne_true, bind_ok (accept_place_of_ne (by decide) (by decide) h hequals)]
  rfl

theorem follows_param : Scans text n scanParam readParam := by
  intro s h hn
  have hs := scanName_suffix s
  have hname := scanNameText_place h
  rw [scanParam, bind_ok hname, readParam]
  generalize scanName s = x at hs
  obtain ⟨name, r⟩ := x
  dsimp only at hs ⊢
  have hr : r <:+ text.toList := hs.trans h
  have hblanks := (skipBlanks_suffix r).trans hs
  by_cases hempty : name = [] ∨ name = ['*']
  · have htest : ((String.ofList name).isEmpty || String.ofList name == "*") = true := by
      rw [Bool.or_eq_true, isEmpty_ofList, beq_iff_eq, ofList_eq_star]
      exact hempty
    rw [if_pos htest, if_pos hempty]
    refine Agrees.mono hs ?_
    exact Agrees.fail rfl
  · have htest : ¬ ((String.ofList name).isEmpty || String.ofList name == "*") = true := by
      rw [Bool.or_eq_true, isEmpty_ofList, beq_iff_eq, ofList_eq_star]
      exact hempty
    rw [if_neg htest, if_neg hempty, bind_ok (skipGaps_place hr)]
    have ht := hblanks.trans h
    generalize skipBlanks r = t at hblanks ht
    split
    · rw [bind_ok (scanSign_colon ht)]
      exact (agrees_passed _ (tail_suffix ht)).mono (tail_suffix hblanks)
    · rw [bind_ok (scanSign_equals ht)]
      exact (agrees_passed _ (tail_suffix ht)).mono (tail_suffix hblanks)
    · rename_i hcolon hequals
      have hne : ∀ c : Char, (∀ u, t ≠ c :: u) → t.head? ≠ some c := by
        intro c hc heq
        cases t with
        | nil => cases heq
        | cons d u => exact hc u (by rw [Option.some.inj heq])
      rw [bind_error (scanSign_of_ne ht (hne ':' hcolon) (hne '=' hequals))]
      exact .failure hblanks

/-- A comma is behind each turn, so every turn has fewer characters left. -/
theorem follows_paramsWithin {fuel depth : Nat} (h : s <:+ text.toList) (hfuel : s.length < fuel)
    (hdepth : s.length < depth) :
    Agrees Problem.text text s (scanParamsWithin fuel text (place text s))
      (readParamsWithin depth s) := by
  induction fuel generalizing depth s with
  | zero => exact absurd hfuel (Nat.not_lt_zero _)
  | succ fuel ih =>
    obtain ⟨depth, rfl⟩ := Nat.exists_eq_add_one.2 (Nat.zero_lt_of_lt hdepth)
    have hblanks := skipBlanks_suffix s
    rw [scanParamsWithin, bind_ok (skipGaps_place h), readParamsWithin]
    refine ((follows_param.at h hblanks (Nat.lt_succ_self _)).mono hblanks).bind
      fun x rest _ hrest => ?_
    have hnext := (skipBlanks_suffix rest).trans hrest
    have ht := hnext.trans h
    rw [bind_ok (skipGaps_place (hrest.trans h)), bind_ok (peek_place ht)]
    refine Agrees.mono hnext ?_
    dsimp only
    generalize skipBlanks rest = t at hnext ht
    cases t with
    | nil => exact Agrees.fail rfl
    | cons c r =>
      rw [peekByte_cons_beq (by decide), peekByte_cons_beq (by decide)]
      simp only [decide_eq_true_eq]
      by_cases hclosing : c = ')'
      · subst hclosing
        rw [if_pos rfl, bind_ok (m := cursor) rfl, bind_ok (moveTo_next ht (by decide))]
        exact .value (List.suffix_cons _ r)
      by_cases hcomma : c = ','
      · subst hcomma
        have hlt := hnext.length_le
        rw [List.length_cons] at hlt
        rw [if_neg hclosing, if_pos rfl, bind_ok (m := cursor) rfl,
          bind_ok (moveTo_next ht (by decide))]
        refine ((ih (tail_suffix ht) (by omega) (by omega)).mono (List.suffix_cons _ r)).bind
          fun ps rest' _ hrest' => ?_
        exact .value hrest'
      rw [if_neg hclosing, if_neg hcomma]
      split
      · rename_i heq
        exact absurd (List.cons.inj heq).1 hclosing
      · rename_i heq
        exact absurd (List.cons.inj heq).1 hcomma
      · exact Agrees.fail rfl

theorem follows_params : Scans text n scanParams readParams := by
  intro s h _
  exact (follows_paramsWithin h (length_lt_size h) (Nat.lt_succ_self _)).map Assoc.ofWrites

/-! ## Fields -/

/-- What is read, with the blanks behind it: the scan moves over them at once, the reader when it
goes on. -/
def trailing {α : Type} (read : Reader Problem α) : Reader Problem α := fun s =>
  (read s).map fun x => (x.1, skipBlanks x.2)

theorem readName_colon {t : List Char} (ht : skipBlanks (scanName s).2 = ':' :: t) :
    readName s =
      if (scanName s).1 = [] then fault s .fieldName
      else if (scanName (skipBlanks t)).1 = [] then
        fault (scanName (skipBlanks t)).2 .fieldName
      else .ok ((String.ofList (scanName (skipBlanks t)).1, some (String.ofList (scanName s).1)),
        (scanName (skipBlanks t)).2) := by
  unfold readName
  simp only [ht]

theorem readName_plain (ht : (skipBlanks (scanName s).2).head? ≠ some ':') :
    readName s =
      if (scanName s).1 = [] then fault (skipBlanks (scanName s).2) .fieldName
      else .ok ((String.ofList (scanName s).1, none), (scanName s).2) := by
  unfold readName
  dsimp only
  split
  · rename_i heq
    rw [heq] at ht
    exact absurd rfl ht
  · rfl

theorem follows_title : Scans text n scanTitle (trailing readName) := by
  intro s h hn
  have hs := scanName_suffix s
  have hblanks := (skipBlanks_suffix (scanName s).2).trans hs
  have ht := hblanks.trans h
  have hempty := isEmpty_ofList (scanName s).1
  rw [scanTitle, bind_ok (m := cursor) rfl, bind_ok (scanNameText_place h),
    bind_ok (skipGaps_place (hs.trans h)), trailing]
  by_cases hcolon : (skipBlanks (scanName s).2).head? = some ':'
  · obtain ⟨t, heq⟩ := List.head?_eq_some_iff.1 hcolon
    rw [heq] at ht hblanks
    have hnext := (scanName_suffix (skipBlanks t)).trans (skipBlanks_suffix t)
    have hrest := hnext.trans (tail_suffix hblanks)
    have hblanks' := (skipBlanks_suffix t).trans (tail_suffix ht)
    rw [heq, readName_colon heq, bind_ok (accept_place_cons (by decide) (by decide) ht), if_pos rfl]
    by_cases hfirst : (scanName s).1 = []
    · -- A colon without an alias is told where the field starts, behind which the cursor is.
      rw [if_pos (hempty.2 hfirst), if_pos hfirst, bind_ok (moveTo_place h)]
      exact Agrees.fail rfl
    · rw [if_neg fun he => hfirst (hempty.1 he), if_neg hfirst,
        bind_ok (skipGaps_place (tail_suffix ht)), bind_ok (scanNameText_place hblanks')]
      have hempty' := isEmpty_ofList (scanName (skipBlanks t)).1
      by_cases hname : (scanName (skipBlanks t)).1 = []
      · rw [if_pos (hempty'.2 hname), if_pos hname]
        refine Agrees.mono hrest ?_
        exact Agrees.fail rfl
      · rw [if_neg fun he => hname (hempty'.1 he), if_neg hname,
          bind_ok (skipGaps_place (hrest.trans h))]
        exact .value ((skipBlanks_suffix _).trans hrest)
  · rw [bind_ok (accept_place_of_ne (by decide) (by decide) ht hcolon), if_neg Bool.false_ne_true,
      readName_plain hcolon]
    by_cases hfirst : (scanName s).1 = []
    · rw [if_pos (hempty.2 hfirst), if_pos hfirst]
      refine Agrees.mono hblanks ?_
      exact Agrees.fail rfl
    · rw [if_neg fun he => hfirst (hempty.1 he), if_neg hfirst, bind_ok (skipGaps_place ht),
        skipBlanks_skipBlanks]
      exact .value hblanks

/-- The parameters of a field, if any, with the blanks behind them. -/
theorem agrees_optionalParams (h : skipBlanks s <:+ text.toList) :
    Agrees Problem.text text (skipBlanks s)
      (scanOptionalParams text (place text (skipBlanks s))) (trailing Grammar.readPassed s) := by
  rw [scanOptionalParams, trailing]
  by_cases hparen : (skipBlanks s).head? = some '('
  · obtain ⟨r, heq⟩ := List.head?_eq_some_iff.1 hparen
    rw [Grammar.readPassed_of_paren heq]
    rw [heq] at h ⊢
    rw [bind_ok (accept_place_cons (by decide) (by decide) h), if_pos rfl]
    have hread : (readParams r).map (fun x => (x.1, skipBlanks x.2)) =
        readParams r >>= fun x => .ok (x.1, skipBlanks x.2) := by
      cases readParams r <;> rfl
    rw [hread]
    refine ((follows_params (tail_suffix h) (Nat.lt_succ_self _)).mono (List.suffix_cons _ r)).bind
      fun params rest _ hrest => ?_
    rw [bind_ok (skipGaps_place (hrest.trans h))]
    exact .value ((skipBlanks_suffix rest).trans hrest)
  · have hne : ∀ r, skipBlanks s ≠ '(' :: r := fun r heq => hparen (by rw [heq]; rfl)
    rw [bind_ok (accept_place_of_ne (by decide) (by decide) h hparen), if_neg Bool.false_ne_true,
      Grammar.readPassed_of_ne hne]
    show Agrees _ _ _ _ (.ok (([] : Params), skipBlanks (skipBlanks s)))
    rw [skipBlanks_skipBlanks]
    exact .value List.suffix_rfl

section Selections

variable {children : Scan Projection} {read : Reader Problem Projection}

theorem skipBlanks_of_trailing {α : Type} {r : Reader Problem α} {a : α} {rest : List Char}
    (h : trailing r s = .ok (a, rest)) : skipBlanks rest = rest := by
  obtain ⟨x, -, heq⟩ := map_eq_ok_iff.1 h
  rw [← (Prod.mk.inj heq).2, skipBlanks_skipBlanks]

/-- What a field is once its name and its parameters are read. -/
def finishField (read : Reader Problem Projection) (title : String × Option String)
    (params : Params) : Reader Problem Selection := fun s =>
  match s with
  | '\x7b' :: r => (read r).map fun c => (⟨title.1, title.2, params, some c.1⟩, c.2)
  | r => .ok (⟨title.1, title.2, params, none⟩, r)

theorem finishField_of_ne {title : String × Option String} {params : Params}
    (hs : s.head? ≠ some '\x7b') :
    finishField read title params s = .ok (⟨title.1, title.2, params, none⟩, s) := by
  unfold finishField
  split
  · exact absurd rfl hs
  · rfl

theorem readField_eq_trailing (read : Reader Problem Projection) (s : List Char) :
    readField read s =
      trailing readName s >>= fun x => trailing Grammar.readPassed x.2 >>= fun y =>
        finishField read x.1 y.1 y.2 := by
  have hpassed : ∀ t, Grammar.readPassed (skipBlanks t) = Grammar.readPassed t := by
    intro t
    unfold Grammar.readPassed
    rw [skipBlanks_skipBlanks]
  rw [Grammar.readField_eq]
  unfold trailing
  cases readName s with
  | error f => rfl
  | ok x =>
    simp only [bind, Except.bind, Except.map, hpassed]
    cases Grammar.readPassed x.2 with
    | error f => rfl
    | ok y =>
      dsimp only
      by_cases hbrace : (skipBlanks y.2).head? = some '\x7b'
      · obtain ⟨r, heq⟩ := List.head?_eq_some_iff.1 hbrace
        rw [heq]
        simp only [finishField]
        cases read r <;> rfl
      · rw [finishField_of_ne hbrace]
        split
        · rename_i heq
          rw [heq] at hbrace
          exact absurd rfl hbrace
        · rfl

/-- The selection in a field stands behind its brace, so fewer characters are left of it. -/
theorem follows_field (hchildren : Scans text n children read) :
    Scans text (n + 1) (scanField children) (readField read) := by
  intro s h hn
  rw [scanField, readField_eq_trailing]
  refine (follows_title h hn).seq fun x rest hread hrest => ?_
  have hrest' := hrest.trans h
  have hparams : Agrees Problem.text text rest (scanOptionalParams text (place text rest))
      (trailing Grammar.readPassed rest) := by
    have hagrees := agrees_optionalParams (s := rest) (by rwa [skipBlanks_of_trailing hread])
    rwa [skipBlanks_of_trailing hread] at hagrees
  refine hparams.seq fun params rest' _ hsuffix => ?_
  have ht := hsuffix.trans hrest'
  have hlength := (hsuffix.trans hrest).length_le
  by_cases hbrace : rest'.head? = some '\x7b'
  · obtain ⟨r, rfl⟩ := List.head?_eq_some_iff.1 hbrace
    rw [List.length_cons] at hlength
    rw [bind_ok (accept_place_cons (by decide) (by decide) ht), if_pos rfl]
    exact ((hchildren (tail_suffix ht) (by omega)).mono (List.suffix_cons _ r)).map _
  · rw [bind_ok (accept_place_of_ne (by decide) (by decide) ht hbrace), if_neg Bool.false_ne_true,
      finishField_of_ne hbrace]
    exact .value List.suffix_rfl

/-- A comma is behind each turn, so every turn has fewer characters left. -/
theorem follows_fieldsWithin {opened : Bool} {field : Scan Selection}
    {readOne : Reader Problem Selection} (hfield : Scans text n field readOne) {fuel depth : Nat}
    (h : s <:+ text.toList) (hn : s.length < n) (hfuel : s.length < fuel)
    (hdepth : s.length < depth) :
    Agrees Problem.text text s (scanFieldsWithin opened field fuel text (place text s))
      (readFieldsWithin opened readOne depth s) := by
  induction fuel generalizing depth s with
  | zero => exact absurd hfuel (Nat.not_lt_zero _)
  | succ fuel ih =>
    obtain ⟨depth, rfl⟩ := Nat.exists_eq_add_one.2 (Nat.zero_lt_of_lt hdepth)
    have hblanks := skipBlanks_suffix s
    rw [scanFieldsWithin, bind_ok (skipGaps_place h), readFieldsWithin]
    refine ((hfield.at h hblanks hn).mono hblanks).bind fun x rest _ hrest => ?_
    have hnext := (skipBlanks_suffix rest).trans hrest
    have ht := hnext.trans h
    rw [bind_ok (skipGaps_place (hrest.trans h)), bind_ok (peek_place ht)]
    refine Agrees.mono hnext ?_
    dsimp only
    generalize skipBlanks rest = t at hnext ht
    cases t with
    | nil =>
      show Agrees Problem.text text [] ((more >>= fun b => if b = true then _ else _) text _) _
      rw [bind_ok (more_place ht)]
      cases opened with
      | true => exact Agrees.fail rfl
      | false => exact .value List.suffix_rfl
    | cons c r =>
      rw [peekByte_cons_beq (by decide), peekByte_cons_beq (by decide)]
      simp only [decide_eq_true_eq]
      by_cases hcomma : c = ','
      · subst hcomma
        have hlt := hnext.length_le
        rw [List.length_cons] at hlt
        rw [if_pos rfl, bind_ok (m := cursor) rfl, bind_ok (moveTo_next ht (by decide))]
        refine ((ih (tail_suffix ht) (by omega) (by omega) (by omega)).mono
          (List.suffix_cons _ r)).bind fun fs rest' _ hrest' => ?_
        exact .value hrest'
      by_cases hclosing : c = '\x7d'
      · subst hclosing
        rw [if_neg hcomma, if_pos rfl]
        cases opened with
        | true =>
          rw [if_pos rfl, bind_ok (m := cursor) rfl, bind_ok (moveTo_next ht (by decide))]
          exact .value (List.suffix_cons _ r)
        | false => exact Agrees.fail rfl
      rw [if_neg hcomma, if_neg hclosing, bind_ok (more_place ht), if_pos (by rfl), ofNat_peekByte]
      split
      · rename_i heq
        cases heq
      · rename_i heq
        exact absurd (List.cons.inj heq).1 hcomma
      · rename_i heq
        exact absurd (List.cons.inj heq).1 hclosing
      · rename_i heq
        obtain ⟨rfl, rfl⟩ := List.cons.inj heq
        exact Agrees.fail rfl

end Selections

/-- By the number of characters that are left: a selection inside another has fewer. -/
theorem follows_childrenWithin {fuel depth : Nat} (hfuel : n ≤ fuel) (hdepth : n ≤ depth) :
    Scans text n (scanChildrenWithin fuel) (readChildrenWithin depth) := by
  induction n generalizing fuel depth with
  | zero => exact fun s _ hs => absurd hs (Nat.not_lt_zero _)
  | succ n ih =>
    obtain ⟨fuel, rfl⟩ := Nat.exists_eq_add_one.2 (Nat.zero_lt_of_lt hfuel)
    obtain ⟨depth, rfl⟩ := Nat.exists_eq_add_one.2 (Nat.zero_lt_of_lt hdepth)
    have hinner : Scans text n (scanChildrenWithin fuel) (readChildrenWithin depth) :=
      ih (Nat.le_of_succ_le_succ hfuel) (Nat.le_of_succ_le_succ hdepth)
    intro s h hn
    have hblanks := skipBlanks_suffix s
    have ht := hblanks.trans h
    have hlt := Nat.lt_of_le_of_lt hblanks.length_le hn
    rw [scanChildrenWithin, bind_ok (skipGaps_place h), readChildrenWithin]
    refine Agrees.mono hblanks ?_
    generalize skipBlanks s = t at ht hlt
    by_cases hclosing : t.head? = some '\x7d'
    · obtain ⟨r, rfl⟩ := List.head?_eq_some_iff.1 hclosing
      rw [bind_ok (accept_place_cons (by decide) (by decide) ht)]
      exact .value (List.suffix_cons _ r)
    · rw [bind_ok (accept_place_of_ne (by decide) (by decide) ht hclosing),
        if_neg Bool.false_ne_true]
      split
      · exact absurd rfl hclosing
      · exact follows_fieldsWithin (follows_field hinner) ht hlt (length_lt_size ht)
          (Nat.lt_succ_self _)

/-! ## Whole texts -/

/-- A whole text is scanned from its start as it is read. -/
theorem agrees_all (text : String) :
    ∃ r, Agrees Problem.text text text.toList (scanAll text 0) r ∧
      readAll text.toList = r.map Prod.fst := by
  have htext : text.toList <:+ text.toList := List.suffix_rfl
  have hsize := length_lt_size htext
  refine ⟨_, ?_, rfl⟩
  rw [scanAll, ← place_toList text]
  exact follows_fieldsWithin (follows_field (follows_childrenWithin hsize (Nat.le_refl _))) htext
    (Nat.lt_succ_of_lt (Nat.lt_succ_self _)) hsize (Nat.lt_succ_self _)

/-- **Projections are scanned as they are parsed**, without a breach. -/
theorem scan_eq (text : String) : scan text = .ok (parse text) := by
  rw [scan, parse]
  split
  · rfl
  · obtain ⟨r, hagrees, hread⟩ := agrees_all text
    rw [hagrees.told, hread]

/-- A projection that does not parse is told at a boundary of its text. -/
theorem isBoundary_of_parse {text : String} {position : Nat} {problem : String}
    (h : parse text = .error (.malformed position problem)) :
    isBoundary text position = true := by
  rw [parse] at h
  split at h
  · cases h
  · obtain ⟨r, hagrees, hread⟩ := agrees_all text
    rw [hread] at h
    exact hagrees.told_at_boundary List.suffix_rfl h

end DocQuery.Projection
