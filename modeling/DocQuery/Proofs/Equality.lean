import DocQuery.Proofs.ValueText

/-!
# Equality of meaning is an equivalence

Values are compared by what they mean: numbers by the floats nearest to them, objects by looking up
each entry of the one under its key in the other. Although only one of the objects is gone through,
this is an equivalence on the values in which no object has a key twice.

* `Number.alike_iff_place` — the numbers that documents hold are alike where their floats are.
* `Value.alike_of_perm` — an object is alike to itself in any other order.
* `Value.alike_equivalence` — equality of meaning is reflexive, symmetric and transitive.
-/

set_option autoImplicit false

namespace DocQuery

/-- There is a finite float for each of two words, and the words are alike if the floats are equal;
both zeros are. -/
theorem Number.alike_iff_place {m n : Number} (hm : m.WordSized) (hn : n.WordSized) :
    ∃ d e : Double, m.bound = .finite d ∧ n.bound = .finite e ∧
      (m.alike n = true ↔ d.place = e.place) := by
  obtain ⟨d, hd⟩ := hm.exists_bound
  obtain ⟨e, he⟩ := hn.exists_bound
  refine ⟨d, e, hd, he, ?_⟩
  rw [alike, hd, he, Bound.alike, beq_iff_eq]

namespace Value

theorem alike_comm {a b : Value} (ha : a.KeysDistinct) (hb : b.KeysDistinct) :
    a.alike b = b.alike a := by
  rw [Bool.eq_iff_iff]
  exact ⟨alike_symm a b ha hb, alike_symm b a hb ha⟩

/-- The order of an object's keys does not matter. -/
theorem alike_of_perm {es fs : Document} (h : es.Perm fs) (hes : (object es).KeysDistinct) :
    (object es).alike (object fs) = true := by
  rw [KeysDistinct] at hes
  have hfs : (Assoc.keys fs).Nodup := (h.map Prod.fst).nodup_iff.1 hes.1
  have hfound : ∀ e ∈ es, Assoc.get? fs e.1 = some e.2 := by
    intro e he
    exact Assoc.get?_of_mem hfs (h.mem_iff.1 he)
  rw [alike, h.length_eq, beq_self_eq_true, Bool.true_and]
  exact alikeEntries_of_subset es hes.2 hfound

/-- **Equality of meaning is an equivalence** on the values in which no object has a key twice.
Objects are equal to themselves in every order of their keys, and numbers of 64 bits are equal where
the finite floats nearest to them are. -/
theorem alike_equivalence :
    (∀ v : Value, v.KeysDistinct → v.alike v = true) ∧
      (∀ a b : Value, a.KeysDistinct → b.KeysDistinct → a.alike b = b.alike a) ∧
      (∀ a b c : Value, a.alike b = true → b.alike c = true → a.alike c = true) ∧
      (∀ es fs : Document, es.Perm fs → (object es).KeysDistinct →
        (object es).alike (object fs) = true) ∧
      ∀ m n : Number, m.WordSized → n.WordSized → ∃ d e : Double, m.bound = .finite d ∧
        n.bound = .finite e ∧ ((number m).alike (number n) = true ↔ d.place = e.place) :=
  ⟨alike_refl, fun _ _ => alike_comm, alike_trans, fun _ _ => alike_of_perm,
    fun _ _ => Number.alike_iff_place⟩

end Value

namespace Bookshelf

open Value

/-- A book as it is stored. -/
def storedTale : Document :=
  [("id", .integer 4), ("parts", .array [.object [("pages", .integer 8), ("known", .bool true)]])]

/-- The number 4 as it is read from text. -/
def readFour : Double := ⟨false, 1025 * Double.binade, by decide⟩

/-- The same book as it is read from text. -/
def readTale : Document :=
  [("parts", .array [.object
      [("known", .bool true), ("pages", .float ⟨false, 1026 * Double.binade, by decide⟩)]]),
    ("id", .float readFour)]

/-- A book is alike to itself, to what is read of it, whichever comes first, and to this in another
order; and its number has the place of the one that is read. -/
theorem alike_storedTale :
    (object storedTale).alike (object storedTale) = true ∧
      (object storedTale).alike (object readTale) = true ∧
      (object readTale).alike (object storedTale) = true ∧
      (object storedTale).alike (object readTale.reverse) = true ∧
      ∃ d : Double, (Number.integer 4).bound = .finite d ∧ d.place = readFour.place := by
  obtain ⟨hrefl, hcomm, htrans, hperm, hnumber⟩ := Value.alike_equivalence
  have hstored : (object storedTale).KeysDistinct := by
    simp [storedTale, KeysDistinct, keysDistinctEntries, keysDistinctItems, Assoc.keys, integer]
  have hread : (object readTale).KeysDistinct := by
    simp [readTale, KeysDistinct, keysDistinctEntries, keysDistinctItems, Assoc.keys, float]
  have halike : (object storedTale).alike (object readTale) = true := by decide +kernel
  have hreverse := hperm readTale readTale.reverse (List.reverse_perm _).symm hread
  refine ⟨hrefl _ hstored, halike, (hcomm _ _ hread hstored).trans halike,
    htrans _ _ _ halike hreverse, ?_⟩
  obtain ⟨d, e, hd, ⟨⟩, hplace⟩ := hnumber (.integer 4) (.float readFour)
    ⟨by decide, by decide⟩ trivial
  exact ⟨d, hd, hplace.1 (by decide +kernel)⟩

end Bookshelf

end DocQuery
