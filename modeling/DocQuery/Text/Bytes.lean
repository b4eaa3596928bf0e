import DocQuery.Text.Reading
import Mathlib.Data.String.Basic

/-!
# Texts as bytes

The bytes of a text in UTF-8. A character below U+0080 is one byte of that value; all others are
several bytes from 128 on. Texts stand in the order of their bytes.

* `bytes_toList` — the bytes of a text are those of the string.
* `length_bytes` — their number.
* `encodeChar_of_lt`, `le_of_mem_encodeChar` — the bytes of one character.
* `bytes_lt_bytes_iff` — the order of bytes is the order of characters.
-/

set_option autoImplicit false

namespace DocQuery

@[simp] theorem bytes_nil : bytes [] = [] := rfl

@[simp] theorem bytes_cons (c : Char) (s : List Char) :
    bytes (c :: s) = String.utf8EncodeChar c ++ bytes s := rfl

@[simp] theorem bytes_append (s t : List Char) : bytes (s ++ t) = bytes s ++ bytes t :=
  List.flatMap_append

theorem bytes_toList (s : String) : (bytes s.toList).toByteArray = s.toUTF8 := by
  rw [String.toUTF8_eq_toByteArray, ← String.utf8Encode_toList]
  rfl

theorem length_bytes (s : List Char) : (bytes s).length = byteLength s := by
  induction s with
  | nil => rfl
  | cons c s ih =>
    rw [bytes_cons, List.length_append, String.length_utf8EncodeChar, ih]
    rfl

/-! ## One character -/

theorem toNat_lt (c : Char) : c.toNat < 0x110000 := by
  have hvalid := c.valid
  simp only [UInt32.isValidChar, Nat.isValidChar] at hvalid
  exact hvalid.elim (fun h => Nat.lt_trans h (by decide)) fun h => h.2

theorem encodeChar_of_lt {c : Char} (h : c.toNat < 128) :
    String.utf8EncodeChar c = [UInt8.ofNat c.toNat] := by
  have hc : c.val.toNat ≤ 127 := Nat.le_of_lt_succ h
  rw [String.utf8EncodeChar.eq_1, if_pos hc]
  rfl

theorem le_of_mem_encodeChar {c : Char} (h : 128 ≤ c.toNat) {b : UInt8}
    (hb : b ∈ String.utf8EncodeChar c) : 128 ≤ b.toNat := by
  have hc : 128 ≤ c.val.toNat := h
  rw [String.utf8EncodeChar.eq_1, if_neg (by omega)] at hb
  repeat' split at hb
  all_goals
    simp only [List.mem_cons, List.not_mem_nil, or_false] at hb
    rcases hb with rfl | rfl | rfl | rfl
  all_goals
    rw [UInt8.toNat_ofNat']
    omega

/-! ## Order -/

/-- Four bytes hold a code point in the digits of its value to base 64. -/
theorem fourBytes_lt {n m : Nat} (h : n < m) (hm : m < 0x110000) (s t : List UInt8) :
    [UInt8.ofNat (n / 262144 % 8 + 240), UInt8.ofNat (n / 4096 % 64 + 128),
        UInt8.ofNat (n / 64 % 64 + 128), UInt8.ofNat (n % 64 + 128)] ++ s <
      [UInt8.ofNat (m / 262144 % 8 + 240), UInt8.ofNat (m / 4096 % 64 + 128),
        UInt8.ofNat (m / 64 % 64 + 128), UInt8.ofNat (m % 64 + 128)] ++ t := by
  have hdigits : ∀ k, k = 262144 * (k / 262144) + 4096 * (k / 4096 % 64) + 64 * (k / 64 % 64) +
      k % 64 := by omega
  have hbyte : ∀ k, UInt8.toNat (UInt8.ofNat (k % 64 + 128)) = k % 64 + 128 := by
    intro k
    rw [UInt8.toNat_ofNat']
    omega
  have hlead : ∀ k, k < 0x110000 →
      UInt8.toNat (UInt8.ofNat (k / 262144 % 8 + 240)) = k / 262144 + 240 := by
    intro k hk
    rw [UInt8.toNat_ofNat']
    omega
  simp only [List.cons_append, List.nil_append, List.cons_lt_cons_iff, UInt8.lt_iff_toNat_lt,
    ← UInt8.toNat_inj, hbyte, hlead n (h.trans hm), hlead m hm]
  have hsmall : ∀ k, k / 4096 % 64 < 64 ∧ k / 64 % 64 < 64 ∧ k % 64 < 64 := by omega
  have hn := hdigits n
  have hm := hdigits m
  have hnsmall := hsmall n
  have hmsmall := hsmall m
  generalize n / 262144 = n₀, n / 4096 % 64 = n₁, n / 64 % 64 = n₂, n % 64 = n₃ at *
  generalize m / 262144 = m₀, m / 4096 % 64 = m₁, m / 64 % 64 = m₂, m % 64 = m₃ at *
  omega

theorem encodeChar_append_lt {c d : Char} (h : c < d) (s t : List UInt8) :
    String.utf8EncodeChar c ++ s < String.utf8EncodeChar d ++ t := by
  have hlt : c.val.toNat < d.val.toNat := h
  have hd : d.val.toNat < 0x110000 := toNat_lt d
  rw [String.utf8EncodeChar.eq_1, String.utf8EncodeChar.eq_1]
  generalize c.val.toNat = n at hlt
  generalize d.val.toNat = m at hlt hd
  by_cases hwide : 65535 < n
  · rw [if_neg (by omega), if_neg (by omega), if_neg (by omega), if_neg (by omega),
      if_neg (by omega), if_neg (by omega)]
    exact fourBytes_lt hlt hd s t
  · repeat' split
    all_goals
      simp only [List.cons_append, List.nil_append, List.cons_lt_cons_iff, UInt8.lt_iff_toNat_lt,
        ← UInt8.toNat_inj, UInt8.toNat_ofNat']
      omega

theorem bytes_lt_bytes {s t : List Char} (h : s < t) : bytes s < bytes t := by
  induction s generalizing t with
  | nil =>
    cases t with
    | nil => exact absurd h (List.lt_irrefl [])
    | cons d t =>
      obtain ⟨b, bs, hb⟩ := List.exists_cons_of_ne_nil (String.utf8EncodeChar_ne_nil (c := d))
      rw [bytes_cons, hb]
      exact List.nil_lt_cons b _
  | cons c s ih =>
    cases t with
    | nil => exact absurd h (List.not_lt_nil _)
    | cons d t =>
      rcases List.cons_lt_cons_iff.1 h with hlt | ⟨rfl, hlt⟩
      · exact encodeChar_append_lt hlt _ _
      · exact List.append_left_lt (ih hlt)

/-- **Texts stand in the order of their bytes.** -/
theorem bytes_lt_bytes_iff {s t : List Char} : bytes s < bytes t ↔ s < t := by
  refine ⟨fun h => ?_, bytes_lt_bytes⟩
  by_contra hnot
  rcases List.le_iff_lt_or_eq.1 (List.not_lt.1 hnot) with hlt | heq
  · exact List.lt_asymm h (bytes_lt_bytes hlt)
  · exact List.lt_irrefl _ (heq ▸ h)

end DocQuery
