import DocQuery.Proofs.LiteralGrammar
import Mathlib.Data.List.Forall2

/-!
# Strings between single quotes

The inside of a single-quoted string is a run of spellings: a character that stands for itself,
double quotes included, an escape of the format, or the string's own quote behind a backslash. The
reader writes the inside between double quotes first, taking the backslash off its own quote and
putting one in front of each double quote, and reads the escapes then. A double quote that is
escaped already gets a second backslash there, and the first of the two then stands for itself.

* `Grammar.Spelling` — how one character may be written between single quotes.
* `Grammar.closeQuote_flatten` — the string ends at the quote behind its spellings.
* `Grammar.decode_spelling` — one spelling written anew and read.

Main statement: `Grammar.read_single_quotes`.
-/

set_option autoImplicit false

namespace DocQuery.Grammar

open DocQuery.Literal (escapeDouble unescapeSingle)

/-- A character between single quotes, as it may be written. -/
inductive Spelling : List Char → Char → Prop
  | plain {c : Char} (backslash : c ≠ '\\') (quoteMark : c ≠ '\'') (printable : 32 ≤ c.toNat) :
    Spelling [c] c
  | own : Spelling ['\\', '\''] '\''
  | letter {c d : Char} (known : Quoted.escaped c = some d) : Spelling ['\\', c] d
  | unit {a b c d : Char} {n : Nat} (digits : Quoted.hexNumber a b c d = some n)
    (trailing : Quoted.isTrailing n = false) (leading : Quoted.isLeading n = false) :
    Spelling ['\\', 'u', a, b, c, d] (Char.ofNat n)
  | pair {a b c d e f g h : Char} {n m : Nat} (lead : Quoted.hexNumber a b c d = some n)
    (leading : Quoted.isLeading n = true) (trail : Quoted.hexNumber e f g h = some m)
    (trailing : Quoted.isTrailing m = true) :
    Spelling ['\\', 'u', a, b, c, d, '\\', 'u', e, f, g, h] (Quoted.joinSurrogates n m)

/-- A double quote behind a backslash. -/
abbrev escapedDouble : List Char := ['\\', '"']

variable {u w s : List Char} {us : List (List Char)} {c : Char}

/-! ## Where the string ends -/

theorem Spelling.closeQuote_append (h : Spelling u c) (r : List Char) :
    Literal.closeQuote '\'' (u ++ r) =
      (Literal.closeQuote '\'' r).map fun p => (u ++ p.1, p.2) := by
  have hmark : Quoted.hexValue '\'' = none := by decide
  cases h with
  | plain backslash quoteMark _ => exact Literal.closeQuote_cons_of_ne backslash quoteMark r
  | own => exact closeQuote_escape '\'' r
  | letter known => exact closeQuote_escape _ r
  | unit digits _ _ => exact closeQuote_unit hmark digits r
  | pair lead _ trail _ =>
    simp only [List.cons_append, List.nil_append]
    rw [closeQuote_unit hmark lead, closeQuote_unit hmark trail, Option.map_map]
    rfl

theorem closeQuote_flatten (h : List.Forall₂ Spelling us s) (rest : List Char) :
    Literal.closeQuote '\'' (us.flatten ++ '\'' :: rest) = some (us.flatten, rest) := by
  induction h with
  | nil => exact closeQuote_self (by decide) rest
  | cons hunit _ ih =>
    rw [List.flatten_cons, List.append_assoc, hunit.closeQuote_append, ih]
    rfl

/-! ## The inside between double quotes -/

/-- A text that does not start with a single quote: no backslash in front of it escapes one. -/
def Unquoted (r : List Char) : Prop := ∀ t, r ≠ '\'' :: t

theorem unescapeSingle_cons (c : Char) {r : List Char} (h : Unquoted r) :
    unescapeSingle (c :: r) = c :: unescapeSingle r := by
  rw [unescapeSingle]
  intro t hslash hr
  exact h t hr

theorem unescapeSingle_append (hu : '\'' ∉ u) {r : List Char} (hr : Unquoted r) :
    unescapeSingle (u ++ r) = u ++ unescapeSingle r := by
  induction u with
  | nil => rfl
  | cons c u ih =>
    rw [List.mem_cons, not_or] at hu
    have hrest : Unquoted (u ++ r) := by
      intro t ht
      cases u with
      | nil => exact hr t ht
      | cons d u => exact hu.2 ((List.cons.inj ht).1 ▸ List.mem_cons_self)
    rw [List.cons_append, unescapeSingle_cons c hrest, ih hu.2]
    rfl

theorem escapeDouble_append (hu : '"' ∉ u) (r : List Char) :
    escapeDouble (u ++ r) = u ++ escapeDouble r := by
  induction u with
  | nil => rfl
  | cons c u ih =>
    rw [List.mem_cons, not_or] at hu
    rw [List.cons_append, escapeDouble, if_neg (Ne.symm hu.1), ih hu.2]
    rfl

/-- The inside of a single-quoted string as it would stand between double quotes. -/
theorem doubleQuoted_append (hsingle : '\'' ∉ u) (hdouble : '"' ∉ u) {r : List Char}
    (hr : Unquoted r) :
    Literal.doubleQuoted '\'' (u ++ r) = u ++ Literal.doubleQuoted '\'' r := by
  show escapeDouble (unescapeSingle (u ++ r)) = u ++ escapeDouble (unescapeSingle r)
  rw [unescapeSingle_append hsingle hr, escapeDouble_append hdouble]

theorem Spelling.unquoted (h : Spelling u c) (r : List Char) : Unquoted (u ++ r) := by
  cases h with
  | plain _ quoteMark _ => exact fun t ht => quoteMark (List.cons.inj ht).1
  | own | letter | unit | pair => exact fun t ht => absurd (List.cons.inj ht).1 (by decide)

theorem unquoted_flatten (h : List.Forall₂ Spelling us s) : Unquoted us.flatten := by
  cases h with
  | nil => exact fun t ht => nomatch ht
  | cons hunit _ => exact hunit.unquoted _

/-! ## Reading the escapes -/

/-- Every spelling is read as its character, but for an escaped double quote. -/
theorem decode_spelling (h : Spelling u c) (hu : u ≠ escapedDouble) {r : List Char}
    (hr : Unquoted r) :
    Quoted.decode (Literal.doubleQuoted '\'' (u ++ r)) =
      Quoted.push c (Quoted.decode (Literal.doubleQuoted '\'' r)) := by
  have hsingle : Quoted.hexValue '\'' = none := by decide
  have hdouble : Quoted.hexValue '"' = none := by decide
  cases h with
  | plain backslash quoteMark printable =>
    by_cases hc : c = '"'
    · subst hc
      have hbody : Literal.doubleQuoted '\'' ('"' :: r) =
          '\\' :: '"' :: Literal.doubleQuoted '\'' r := by
        show escapeDouble (unescapeSingle ('"' :: r)) = _
        rw [unescapeSingle_cons '"' hr]
        rfl
      rw [List.singleton_append, hbody, decode_letter rfl]
    · rw [doubleQuoted_append (by simpa using Ne.symm quoteMark) (by simpa using Ne.symm hc) hr,
        List.singleton_append, decode_plain backslash hc printable]
  | own =>
    have hbody : Literal.doubleQuoted '\'' ('\\' :: '\'' :: r) =
        '\'' :: Literal.doubleQuoted '\'' r := by
      show escapeDouble (unescapeSingle ('\\' :: '\'' :: r)) = _
      rw [unescapeSingle]
      rfl
    show Quoted.decode (Literal.doubleQuoted '\'' ('\\' :: '\'' :: r)) = _
    rw [hbody, decode_plain (by decide) (by decide) (by decide)]
  | letter known =>
    rename_i letter
    have hown : letter ≠ '\'' := by
      rintro rfl
      cases known
    have hquote : letter ≠ '"' := fun hc => hu (by rw [hc])
    rw [doubleQuoted_append (by simpa using Ne.symm hown) (by simpa using Ne.symm hquote) hr]
    exact decode_letter known _
  | unit digits trailing leading =>
    have hown := fun hmem => hexNumber_ne hsingle digits _ hmem rfl
    have hquote := fun hmem => hexNumber_ne hdouble digits _ hmem rfl
    rw [doubleQuoted_append (by simpa using hown) (by simpa using hquote) hr]
    exact decode_unit digits trailing leading _
  | pair lead leading trail trailing =>
    have hown := fun hmem => hexNumber_ne hsingle lead _ hmem rfl
    have hown' := fun hmem => hexNumber_ne hsingle trail _ hmem rfl
    have hquote := fun hmem => hexNumber_ne hdouble lead _ hmem rfl
    have hquote' := fun hmem => hexNumber_ne hdouble trail _ hmem rfl
    rw [doubleQuoted_append (by grind) (by grind) hr]
    exact decode_pair lead leading trail trailing _

/-- A double quote that is escaped already is taken for the end of the string. -/
theorem decode_escapedDouble {r : List Char} (hr : Unquoted r) :
    Quoted.decode (Literal.doubleQuoted '\'' (escapedDouble ++ r)) =
      fault (Literal.doubleQuoted '\'' r) .strayQuote := by
  have hbody : Literal.doubleQuoted '\'' (escapedDouble ++ r) =
      '\\' :: '\\' :: '"' :: Literal.doubleQuoted '\'' r := by
    show escapeDouble (unescapeSingle (escapedDouble ++ r)) = _
    rw [unescapeSingle_append (by decide) hr]
    rfl
  rw [hbody, decode_letter rfl]
  rfl

theorem decode_flatten (h : List.Forall₂ Spelling us s) (hus : escapedDouble ∉ us) :
    Quoted.decode (Literal.doubleQuoted '\'' us.flatten) = .ok s := by
  induction h with
  | nil => rfl
  | cons hunit hmore ih =>
    rw [List.mem_cons, not_or] at hus
    rw [List.flatten_cons, decode_spelling hunit (Ne.symm hus.1) (unquoted_flatten hmore),
      ih hus.2]
    rfl

theorem decode_flatten_of_mem (h : List.Forall₂ Spelling us s) (hus : escapedDouble ∈ us) :
    ∃ rest, Quoted.decode (Literal.doubleQuoted '\'' us.flatten) = fault rest .strayQuote := by
  induction h with
  | nil => cases hus
  | cons hunit hmore ih =>
    rename_i u _ us _
    rw [List.flatten_cons]
    by_cases hu : u = escapedDouble
    · exact ⟨_, hu ▸ decode_escapedDouble (unquoted_flatten hmore)⟩
    · obtain ⟨rest, hrest⟩ := ih ((List.mem_cons.1 hus).resolve_left (Ne.symm hu))
      exact ⟨rest, by rw [decode_spelling hunit hu (unquoted_flatten hmore), hrest]; rfl⟩

/-! ## The whole string -/

/-- Without a backslash every character stands for itself. -/
theorem flatten_of_plain (h : List.Forall₂ Spelling us s) (hslash : '\\' ∉ us.flatten) :
    us.flatten = s := by
  induction h with
  | nil => rfl
  | cons hunit _ ih =>
    rw [List.flatten_cons, List.mem_append, not_or] at hslash
    rw [List.flatten_cons, ih hslash.2]
    cases hunit with
    | plain => rfl
    | own | letter | unit | pair => exact absurd List.mem_cons_self hslash.1

theorem backslash_mem_flatten (hus : escapedDouble ∈ us) : '\\' ∈ us.flatten :=
  List.mem_flatten.2 ⟨escapedDouble, hus, List.mem_cons_self⟩

theorem contents_flatten (h : List.Forall₂ Spelling us s) (hus : escapedDouble ∉ us) :
    Literal.contents '\'' us.flatten = .ok s := by
  by_cases hslash : '\\' ∈ us.flatten
  · exact contents_eq_ok_iff.2 (.inr ⟨hslash, escapes_of_decode (decode_flatten h hus)⟩)
  · exact contents_eq_ok_iff.2 (.inl ⟨hslash, (flatten_of_plain h hslash).symm⟩)

theorem contents_flatten_of_mem (h : List.Forall₂ Spelling us s) (hus : escapedDouble ∈ us) :
    ∃ line column, Literal.contents '\'' us.flatten =
      .error (.badString .strayQuote line column) := by
  obtain ⟨rest, hrest⟩ := decode_flatten_of_mem h hus
  unfold Literal.contents
  rw [if_neg (by simpa using backslash_mem_flatten hus)]
  simp only [hrest, fault]
  exact ⟨_, _, rfl⟩

/-- **Single-quoted strings are read as they are spelled**, up to the quote that closes them; one
with an escaped double quote is not read at all. -/
theorem read_single_quotes (h : List.Forall₂ Spelling us s) (rest : List Char) :
    (escapedDouble ∉ us →
      Literal.string '\'' ('\'' :: (us.flatten ++ '\'' :: rest)) = .ok (String.ofList s, rest)) ∧
    (escapedDouble ∈ us → ∃ line column,
      Literal.string '\'' ('\'' :: (us.flatten ++ '\'' :: rest)) =
        fault ('\'' :: (us.flatten ++ '\'' :: rest)) (.badString .strayQuote line column)) := by
  have hclose := closeQuote_flatten h rest
  constructor
  · intro hus
    exact string_eq_ok_iff.2 ⟨_, _, s, rfl, hclose, contents_flatten h hus, rfl⟩
  · intro hus
    obtain ⟨line, column, hcontents⟩ := contents_flatten_of_mem h hus
    refine ⟨line, column, ?_⟩
    unfold Literal.string
    simp only [ne_eq, not_true_eq_false, if_false, hclose, hcontents]

end DocQuery.Grammar

namespace DocQuery.Bookshelf

open DocQuery.Grammar

/-- A title with raw quotes and escapes of its own, then one with an escaped double quote. -/
theorem read_titles :
    Literal.string '\'' "'O\\'N \"\\ud83d\\ude00\"')".toList = .ok ("O'N \"😀\"", [')']) ∧
      ∃ line column, Literal.string '\'' "'\\\"O')".toList =
        fault "'\\\"O')".toList (.badString .strayQuote line column) := by
  have hplain : ∀ c, c ≠ '\\' → c ≠ '\'' → 32 ≤ c.toNat → Spelling [c] c :=
    fun _ => Spelling.plain
  have hface : Spelling ['\\', 'u', 'd', '8', '3', 'd', '\\', 'u', 'd', 'e', '0', '0'] '😀' :=
    .pair (n := 0xd83d) (m := 0xde00) (by decide) (by decide) (by decide) (by decide)
  have hfirst : List.Forall₂ Spelling
      [['O'], ['\\', '\''], ['N'], [' '], ['"'],
        ['\\', 'u', 'd', '8', '3', 'd', '\\', 'u', 'd', 'e', '0', '0'], ['"']]
      ['O', '\'', 'N', ' ', '"', '😀', '"'] :=
    .cons (hplain 'O' (by decide) (by decide) (by decide)) <| .cons .own <|
      .cons (hplain 'N' (by decide) (by decide) (by decide)) <|
      .cons (hplain ' ' (by decide) (by decide) (by decide)) <|
      .cons (hplain '"' (by decide) (by decide) (by decide)) <| .cons hface <|
      .cons (hplain '"' (by decide) (by decide) (by decide)) .nil
  have hsecond : List.Forall₂ Spelling [escapedDouble, ['O']] ['"', 'O'] :=
    .cons (.letter rfl) (.cons (hplain 'O' (by decide) (by decide) (by decide)) .nil)
  exact ⟨(read_single_quotes hfirst [')']).1 (by decide),
    (read_single_quotes hsecond [')']).2 (by decide)⟩

/-- An escaped double quote stands for a double quote, and yet its string is not read. -/
theorem escapedDouble_not_read :
    List.Forall₂ Spelling [escapedDouble] ['"'] ∧
      Literal.string '\'' "'\\\"'".toList =
        fault "'\\\"'".toList (.badString .strayQuote 1 5) ∧
      Literal.string '\'' "'\\\"'".toList ≠ .ok ("\"", []) := by
  have hfault : Literal.string '\'' "'\\\"'".toList =
      fault "'\\\"'".toList (.badString .strayQuote 1 5) := rfl
  refine ⟨.cons (.letter rfl) .nil, hfault, ?_⟩
  rw [hfault]
  nofun

end DocQuery.Bookshelf
