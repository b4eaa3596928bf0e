import DocQuery.Paging
import DocQuery.Proofs.DirectEvaluation

/-!
# Pages tile a result

The documents of a collection are fewer than there are words. So an offset that stops at the
greatest word skips as much of a result as the exact offset would, and the pages of a query are
consecutive stretches of one list.

* `Window.pageInWords_eq` — the window of a page is worked out without leaving the words.
* `Window.apply_page` — a page of a list that words can count.
* `Query.pages_tile` — the pages put together are the result without a window.
-/

set_option autoImplicit false

namespace DocQuery

/-! ## Offsets -/

theorem Word.clamp_of_nonneg {i : Int} (h : 0 ≤ i) : Word.clamp i = min i Word.greatest := by
  unfold Word.clamp Word.least Word.greatest
  omega

theorem Word.difference?_of_fits {a b : Int} (h : Word.Fits (a - b)) :
    Word.difference? a b = some (a - b) := if_pos h

theorem Word.unsigned?_of_nonneg {i : Int} (h : 0 ≤ i) : Word.unsigned? i = some i.toNat :=
  if_pos h

/-- With words for its arguments, the window of a page needs nothing beyond words. -/
theorem Window.pageInWords_eq {page : Int} (h : Word.Fits page) (perPage skip : Int) :
    Window.pageInWords page perPage skip = some (Window.page page perPage skip) := by
  unfold Window.pageInWords Window.page
  split
  next =>
    split
    next hskip => rw [Word.unsigned?_of_nonneg (Int.le_of_lt hskip), Option.map_some]
    next => rfl
  next hper =>
    have hfits : Word.Fits (max page 1 - 1) := by
      unfold Word.Fits Word.least Word.greatest at h ⊢
      omega
    have hbefore : 0 ≤ (max page 1 - 1) * perPage :=
      Int.mul_nonneg (by omega) (Int.not_lt.1 hper)
    have hproduct : Word.product (max page 1 - 1) perPage =
        min ((max page 1 - 1) * perPage) Word.greatest := Word.clamp_of_nonneg hbefore
    have hgreatest : (0 : Int) ≤ Word.greatest := by decide
    have hsum : 0 ≤ min ((max page 1 - 1) * perPage) Word.greatest + max skip 0 := by omega
    rw [Word.difference?_of_fits hfits, Option.bind_eq_bind, Option.bind_some, hproduct, Word.sum,
      Word.clamp_of_nonneg hsum, Word.unsigned?_of_nonneg (Int.le_min.2 ⟨hsum, hgreatest⟩)]
    rfl

/-- The window of the page after `before` others. -/
theorem Window.page_succ {perPage skip : Int} (hper : 0 ≤ perPage) (hskip : 0 ≤ skip)
    (before : Nat) :
    Window.page (before + 1) perPage skip =
      some ⟨(min (before * perPage + skip) Word.greatest).toNat, perPage⟩ := by
  have hbefore : max ((before : Int) + 1) 1 - 1 = before := by omega
  have hmin : min (min (before * perPage) Word.greatest + skip) Word.greatest =
      min (before * perPage + skip) Word.greatest := by omega
  rw [Window.page, if_neg (Int.not_lt.2 hper), hbefore, Int.max_eq_left hskip, ← hmin]

/-- An offset that stops at the greatest word skips all of a list that words can count, as the
exact offset does. -/
theorem drop_min_greatest {α : Type} {items : List α} (h : (items.length : Int) ≤ Word.greatest)
    (i : Int) : items.drop (min i Word.greatest).toNat = items.drop i.toNat := by
  rcases Int.le_total i Word.greatest with hi | hi
  · rw [Int.min_eq_left hi]
  · rw [Int.min_eq_right hi, List.drop_of_length_le (by omega), List.drop_of_length_le (by omega)]

/-- A page of a list that words can count, the offset being exact. -/
theorem Window.apply_page {α : Type} {items : List α} (h : (items.length : Int) ≤ Word.greatest)
    {perPage skip : Int} (hper : 0 ≤ perPage) (hskip : 0 ≤ skip) (before : Nat) :
    ∃ w, Window.page (before + 1) perPage skip = some w ∧
      w.apply items =
        ((items.drop skip.toNat).drop (before * perPage.toNat)).take perPage.toNat := by
  refine ⟨_, Window.page_succ hper hskip before, ?_⟩
  have hoffset : (before * perPage + skip).toNat = skip.toNat + before * perPage.toNat := by
    rw [Int.toNat_add (Int.mul_nonneg (by omega) hper) hskip,
      Int.toNat_mul (by omega) hper, Int.toNat_natCast, Nat.add_comm]
  rw [Window.apply_eq_take_drop hper, drop_min_greatest h, hoffset, List.drop_drop]

/-! ## Results -/

section

variable [RegexEngine]

/-- A result is no longer than the collection. -/
theorem Query.length_apply_le (q : Query) (hq : q.window = none) (fields : Schema)
    (docs : List Document) : (q.apply fields docs).length ≤ docs.length := by
  have hperm := SortOrder.apply_perm q.order fields (docs.filter q.predicate.accepts)
  rw [Query.apply, hq]
  exact Nat.le_trans (Nat.le_of_eq hperm.length_eq) (List.length_filter_le _ _)

/-- A window shows a stretch of what the query shows without one. -/
theorem Query.apply_window {q : Query} (hq : q.window = none) (w : Window) (fields : Schema)
    (docs : List Document) :
    { q with window := some w }.apply fields docs = w.apply (q.apply fields docs) := by
  simp only [Query.apply, hq]

theorem Query.pages_succ (q : Query) (perPage skip : Int) (count : Nat) (fields : Schema)
    (docs : List Document) :
    q.pages perPage skip (count + 1) fields docs = q.pages perPage skip count fields docs ++
      { q with window := Window.page (count + 1) perPage skip }.apply fields docs := by
  rw [Query.pages, List.range_succ, List.flatMap_append, List.flatMap_singleton]
  rfl

/-- The first pages put together are the first documents of the result after those skipped, and the
window of a page is worked out within the words. -/
theorem Query.pages_tile {q : Query} (hq : q.window = none) (fields : Schema)
    {docs : List Document} (hdocs : (docs.length : Int) ≤ Word.greatest) {perPage skip : Int}
    (hper : 1 ≤ perPage) (hskip : 0 ≤ skip) (count : Nat) :
    q.pages perPage skip count fields docs =
        ((q.apply fields docs).drop skip.toNat).take (count * perPage.toNat) ∧
      ∀ page perPage skip : Int, Word.Fits page →
        Window.pageInWords page perPage skip = some (Window.page page perPage skip) := by
  refine ⟨?_, fun page perPage skip hpage => Window.pageInWords_eq hpage perPage skip⟩
  have hlength : ((q.apply fields docs).length : Int) ≤ Word.greatest := by
    have := q.length_apply_le hq fields docs
    omega
  induction count with
  | zero => simp [Query.pages]
  | succ count ih =>
    obtain ⟨w, hpage, hw⟩ :=
      Window.apply_page hlength (Int.le_trans (by decide) hper) hskip count
    rw [Query.pages_succ, ih, hpage, Query.apply_window hq, hw, Nat.succ_mul, List.take_add]

end

namespace Bookshelf

/-- Pages of the greatest size: the first one shows all there is after the skipped document, and the
offsets of the others stop at the greatest word. -/
theorem greatest_pages :
    ([ann, bob].length : Int) ≤ Word.greatest ∧
      Query.pages {} Word.greatest 1 3 authorFields [ann, bob] = [bob] ∧
      Window.page 3 Word.greatest 1 = some ⟨Word.greatest.toNat, Word.greatest⟩ :=
  ⟨by decide,
    (Query.pages_tile rfl authorFields (by decide) (by decide) (by decide) 3).1.trans rfl, rfl⟩

end Bookshelf

end DocQuery
