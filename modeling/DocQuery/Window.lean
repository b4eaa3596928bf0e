import DocQuery.Number.Word

/-!
# Windows on a result

* `Window`, `Window.apply` — which of the items are kept.
* `Window.page` — the window of a page, within the range of words of 64 bits.

Main statement: `Window.apply_eq_take_drop`.
-/

set_option autoImplicit false

namespace DocQuery

/-- The items from `offset` on, at most `limit` of them; a negative limit is none. -/
structure Window where
  offset : Nat
  limit : Int
  deriving DecidableEq, Repr

namespace Window

/-- The window of a page, of `perPage` items each, after `skip` items. Without a page size there is
a window only to skip. A page counts from one, and offsets beyond the greatest word stop there. -/
def page (page perPage skip : Int) : Option Window :=
  if perPage < 0 then if 0 < skip then some ⟨skip.toNat, perPage⟩ else none
  else
    let before := min ((max page 1 - 1) * perPage) Word.greatest
    some ⟨(min (before + max skip 0) Word.greatest).toNat, perPage⟩

/-- The items in the window. -/
def apply {α : Type} (w : Window) (items : List α) : List α :=
  let kept := items.drop w.offset
  if w.limit < 0 then kept else kept.take w.limit.toNat

theorem apply_eq_take_drop {α : Type} {w : Window} (h : 0 ≤ w.limit) (items : List α) :
    w.apply items = (items.drop w.offset).take w.limit.toNat := by
  simp [apply, Int.not_lt.2 h]

end Window

end DocQuery
