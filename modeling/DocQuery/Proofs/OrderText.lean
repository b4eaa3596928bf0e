import DocQuery.Proofs.Success
import DocQuery.SortOrder
import Mathlib.Data.List.DropRight

/-!
# Orders read back

The text of an order is the texts of its keys with commas between them. Reading splits it at the
commas, takes the blanks off both ends of every part and a hyphen off its front, so it gives back
the keys whose texts survive all three.

* `splitAtEach_intercalate` — splitting takes joined parts apart again.
* `Trimmed`, `trimmed_trim` — texts without blanks at their ends.
* `SortKey.Legible` — the keys that are read back.
* `SortOrder.parses_back_iff_legible` — orders are read back exactly if their keys are legible, and
  only legible keys are ever read.
-/

set_option autoImplicit false

namespace DocQuery

/-! ## Parts between separators -/

theorem splitAtEach_eq_splitOn (separator : Char) (s : List Char) :
    splitAtEach separator s = s.splitOn separator := by
  induction s with
  | nil => rfl
  | cons c s ih =>
    have hne : s.splitOn separator ≠ [] := ih ▸ splitAtEach_ne_nil separator s
    simp only [splitAtEach, List.splitOn, List.splitOnP_cons_eq_if_modifyHead, beq_iff_eq,
      ih] at hne ⊢
    split
    · rfl
    · cases hparts : List.splitOnP (fun x => x == separator) s with
      | nil => exact absurd hparts hne
      | cons part parts => rfl

theorem splitAtEach_intercalate {separator : Char} {parts : List (List Char)} (hne : parts ≠ [])
    (h : ∀ part ∈ parts, separator ∉ part) :
    splitAtEach separator ([separator].intercalate parts) = parts := by
  rw [splitAtEach_eq_splitOn, List.splitOn_intercalate separator h hne]

/-- No separator is left in a part. -/
theorem not_mem_of_mem_splitAtEach {separator : Char} {s part : List Char}
    (h : part ∈ splitAtEach separator s) : separator ∉ part := by
  induction s generalizing part with
  | nil => simp_all [splitAtEach]
  | cons c s ih =>
    rw [splitAtEach] at h
    split at h
    · rcases List.mem_cons.1 h with rfl | hmem
      · exact List.not_mem_nil
      · exact ih hmem
    · rename_i hc
      split at h
      · rename_i hnil
        exact absurd hnil (splitAtEach_ne_nil separator s)
      · rename_i first parts hparts
        rw [hparts] at ih
        rcases List.mem_cons.1 h with rfl | hmem
        · have hfirst := ih List.mem_cons_self
          simp only [List.mem_cons, not_or]
          exact ⟨Ne.symm hc, hfirst⟩
        · exact ih (List.mem_cons_of_mem first hmem)

/-! ## Blanks at the ends -/

/-- No white space stands at either end. -/
structure Trimmed (s : List Char) : Prop where
  first : ∀ c, s.head? = some c → isBlank c = false
  last : ∀ c, s.getLast? = some c → isBlank c = false

theorem dropWhile_eq_self_of_head {s : List Char} (h : ∀ c, s.head? = some c → isBlank c = false) :
    s.dropWhile isBlank = s := by
  cases s with
  | nil => rfl
  | cons c s => exact List.dropWhile_cons_of_neg (by simp [h c rfl])

theorem head?_dropWhile_isBlank {s : List Char} {c : Char}
    (h : (s.dropWhile isBlank).head? = some c) : isBlank c = false := by
  have hhead := List.head?_dropWhile_not isBlank s
  rw [h] at hhead
  exact hhead

theorem trim_eq_self {s : List Char} (h : Trimmed s) : trim s = s := by
  have hlast : s.reverse.dropWhile isBlank = s.reverse :=
    dropWhile_eq_self_of_head fun c hc => h.last c (by rwa [List.head?_reverse] at hc)
  rw [trim, dropWhile_eq_self_of_head h.first, hlast, List.reverse_reverse]

/-- Taking blanks off the end leaves what stands at the front. -/
theorem trimmed_trim (s : List Char) : Trimmed (trim s) := by
  obtain ⟨blanks, hblanks⟩ := List.dropWhile_suffix isBlank (l := (s.dropWhile isBlank).reverse)
  have hfront : s.dropWhile isBlank = trim s ++ blanks.reverse := by
    rw [trim, ← List.reverse_append, hblanks, List.reverse_reverse]
  constructor
  · intro c hc
    refine head?_dropWhile_isBlank (s := s) ?_
    rw [hfront, List.head?_append, hc, Option.some_or]
  · intro c hc
    rw [trim, List.getLast?_reverse] at hc
    exact head?_dropWhile_isBlank hc

theorem mem_of_mem_trim {s : List Char} {c : Char} (h : c ∈ trim s) : c ∈ s := by
  rw [trim, List.mem_reverse] at h
  have hmem := (List.dropWhile_suffix isBlank).subset h
  exact (List.dropWhile_suffix isBlank).subset (List.mem_reverse.1 hmem)

/-! ## Keys -/

/-- The text of the key is one part of an order, and is the key's own. -/
structure SortKey.Legible (k : SortKey) : Prop where
  noComma : ',' ∉ (SortOrder.keyText k).toList
  notEmpty : SortOrder.keyText k ≠ ""
  notHyphen : SortOrder.keyText k ≠ "-"
  trimmed : Trimmed (SortOrder.keyText k).toList
  hyphenReverses : (SortOrder.keyText k).toList.head? = some '-' → k.reversed = true

namespace SortOrder

theorem toList_keyText (k : SortKey) :
    (keyText k).toList = if k.reversed then '-' :: k.name.toList else k.name.toList := by
  unfold keyText
  split <;> simp

theorem keyText_ofList_reversed (name : List Char) :
    keyText ⟨String.ofList name, true⟩ = String.ofList ('-' :: name) := by
  apply String.toList_inj.1
  simp [toList_keyText]

theorem keyText_ofList (name : List Char) :
    keyText ⟨String.ofList name, false⟩ = String.ofList name := rfl

/-- A key's text stands for the key, whatever blanks stand around it. -/
theorem parseKey_of_legible {k : SortKey} (h : k.Legible) {part : List Char}
    (hpart : trim part = (keyText k).toList) : parseKey part = .ok k := by
  obtain ⟨name, reversed⟩ := k
  have hempty : trim part ≠ [] := by
    rw [hpart]
    exact fun hnil => h.notEmpty (String.toList_inj.1 hnil)
  have hhyphen : trim part ≠ ['-'] := by
    rw [hpart]
    exact fun heq => h.notHyphen (String.toList_inj.1 heq)
  have hsign := h.hyphenReverses
  rw [← hpart] at hsign
  rw [toList_keyText] at hpart
  unfold parseKey
  cases reversed with
  | true =>
    rw [hpart] at hhyphen ⊢
    cases hname : name.toList with
    | nil => exact absurd (by simp [hname]) hhyphen
    | cons c s =>
      have hback : String.ofList (c :: s) = name := by rw [← hname, String.ofList_toList]
      simp [hback]
  | false =>
    have hback : String.ofList (trim part) = name := by
      rw [hpart]
      exact String.ofList_toList
    -- No row for a hyphen applies: the key is not reversed.
    split
    · exact absurd ‹_› hempty
    · exact absurd ‹_› hhyphen
    · rename_i heq
      exact absurd (hsign (by rw [heq]; rfl)) Bool.false_ne_true
    · rw [hback]

/-- What is read from a part without commas has the part, less its blanks, for its text. -/
theorem legible_of_parseKey {part : List Char} {k : SortKey} (hcomma : ',' ∉ part)
    (h : parseKey part = .ok k) : k.Legible := by
  have htrimmed := trimmed_trim part
  have hpart : ',' ∉ trim part := fun hmem => hcomma (mem_of_mem_trim hmem)
  have hlegible : ∀ {key : SortKey}, keyText key = String.ofList (trim part) →
      trim part ≠ [] → trim part ≠ ['-'] →
      ((trim part).head? = some '-' → key.reversed = true) → key.Legible := by
    intro key htext hempty hhyphen hsign
    have hlist : (keyText key).toList = trim part := by rw [htext, String.toList_ofList]
    refine ⟨hlist ▸ hpart, fun heq => hempty ?_, fun heq => hhyphen ?_, hlist ▸ htrimmed,
      hlist ▸ hsign⟩
    · rw [← hlist, heq]
      rfl
    · rw [← hlist, heq]
      rfl
  unfold parseKey at h
  split at h
  · cases h
  · cases h
  · rename_i name hhyphen htrim
    rw [← Except.ok.inj h]
    refine hlegible ?_ ?_ ?_ fun _ => rfl
    · rw [keyText_ofList_reversed, htrim]
    · simp [htrim]
    · rw [htrim]
      exact fun heq => hhyphen (List.cons.inj heq).2
  · rename_i hempty hhyphen hsign
    rw [← Except.ok.inj h]
    refine hlegible (keyText_ofList _) hempty hhyphen fun hhead => ?_
    obtain ⟨name, hname⟩ := List.head?_eq_some_iff.1 hhead
    exact absurd hname (hsign name)

/-! ## Orders -/

theorem toList_text (order : SortOrder) :
    (text order).toList = [','].intercalate (order.map fun k => (keyText k).toList) := by
  rw [text, String.toList_intercalate, List.map_map]
  rfl

/-- What is read has only legible keys. -/
theorem legible_of_parse {t : String} {order : SortOrder} (h : parse t = .ok order) :
    ∀ k ∈ order, k.Legible := by
  unfold parse at h
  split at h
  · rw [← Except.ok.inj h]
    exact fun _ hk => nomatch hk
  · intro k hk
    obtain ⟨part, hpart, hread⟩ := exists_of_mem_mapM h hk
    exact legible_of_parseKey (not_mem_of_mem_splitAtEach hpart) hread

/-- A text that starts with a legible key is not blank. -/
theorem not_blank_text {k : SortKey} (h : k.Legible) (order : SortOrder) :
    (text (k :: order)).toList.all isBlank = false := by
  have hempty : (keyText k).toList ≠ [] := fun hnil => h.notEmpty (String.toList_inj.1 hnil)
  obtain ⟨c, s, hcs⟩ := List.exists_cons_of_ne_nil hempty
  have hc : isBlank c = false := h.trimmed.first c (by rw [hcs]; rfl)
  rw [toList_text, List.map_cons, hcs]
  cases order with
  | nil => simp [hc]
  | cons k' order => simp [hc, List.intercalate_cons_cons]

theorem parse_text_of_legible {order : SortOrder} (h : ∀ k ∈ order, k.Legible) :
    parse (text order) = .ok order := by
  cases order with
  | nil => rfl
  | cons k order =>
    have hne : (k :: order).map (fun k => (keyText k).toList) ≠ [] := by simp
    have hcomma : ∀ part ∈ (k :: order).map (fun k => (keyText k).toList), ',' ∉ part := by
      intro part hpart
      obtain ⟨key, hkey, rfl⟩ := List.mem_map.1 hpart
      exact (h key hkey).noComma
    have hkeys : ∀ key ∈ k :: order, parseKey (keyText key).toList = .ok key :=
      fun key hkey => parseKey_of_legible (h key hkey) (trim_eq_self (h key hkey).trimmed)
    unfold parse
    rw [not_blank_text (h k List.mem_cons_self), if_neg Bool.false_ne_true, toList_text,
      splitAtEach_intercalate hne hcomma, List.mapM_map]
    have hread : (k :: order).mapM (fun key => (Except.ok key : Except Error SortKey)) =
        .ok ((k :: order).map id) := List.mapM_pure
    rw [List.map_id] at hread
    exact (mapM_congr hkeys).trans hread

/-- **Orders are read back from their texts exactly if their keys are legible**, and whatever is
read from any text has legible keys, so it is read back. -/
theorem parses_back_iff_legible :
    (∀ order : SortOrder, parse (text order) = .ok order ↔ ∀ k ∈ order, k.Legible) ∧
      ∀ t order, parse t = .ok order → (∀ k ∈ order, k.Legible) ∧ parse (text order) = .ok order :=
  ⟨fun _ => ⟨legible_of_parse, parse_text_of_legible⟩,
    fun _ _ h => ⟨legible_of_parse h, parse_text_of_legible (legible_of_parse h)⟩⟩

end SortOrder

namespace Bookshelf

/-- Names with hyphens, blanks and a name that is a hyphen all read back, in any direction. -/
theorem parse_oddNames :
    SortOrder.parse " --,- rank , née-on" =
        .ok [⟨"-", true⟩, ⟨" rank", true⟩, ⟨"née-on", false⟩] ∧
      SortOrder.parse "--,- rank,née-on" =
        .ok [⟨"-", true⟩, ⟨" rank", true⟩, ⟨"née-on", false⟩] := by
  have hread : SortOrder.parse " --,- rank , née-on" =
      .ok [⟨"-", true⟩, ⟨" rank", true⟩, ⟨"née-on", false⟩] := by decide
  exact ⟨hread, (SortOrder.parses_back_iff_legible.2 _ _ hread).2⟩

end Bookshelf

end DocQuery
