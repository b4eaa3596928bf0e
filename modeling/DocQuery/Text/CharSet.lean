import DocQuery.Text.Runs

/-!
# Sets of characters

A set is a list of ranges of code points, in rising order and apart from each other.

* `CharSet.contains`, `CharSet.union`, `CharSet.complement` — the operations.
* `CharSet.ofRuns` — the code points that a table gives one of some marks.

Main statements: `CharSet.contains_range`, `CharSet.contains_union`.
-/

set_option autoImplicit false

namespace DocQuery

/-- Ranges of code points, both ends included. -/
structure CharSet where
  ranges : List (Nat × Nat)
  deriving DecidableEq, Repr, Inhabited

namespace CharSet

def empty : CharSet := ⟨[]⟩

/-- The last code point. -/
def lastCode : Nat := 0x10ffff

def all : CharSet := ⟨[(0, lastCode)]⟩

def range (first last : Nat) : CharSet := ⟨[(first, last)]⟩

def single (c : Char) : CharSet := range c.toNat c.toNat

/-- The only member of a set. -/
def single? (s : CharSet) : Option Char :=
  match s.ranges with
  | [(a, b)] => if a = b then some (Char.ofNat a) else none
  | _ => none

def contains (s : CharSet) (c : Char) : Bool :=
  s.ranges.any fun r => r.1 ≤ c.toNat && c.toNat ≤ r.2

theorem contains_range (first last : Nat) (c : Char) :
    (range first last).contains c = true ↔ first ≤ c.toNat ∧ c.toNat ≤ last := by
  simp [contains, range]

/-- Joins ranges in rising order that touch or overlap, the first of which is from `a` to `b`. -/
def joinFrom (a b : Nat) : List (Nat × Nat) → List (Nat × Nat)
  | [] => [(a, b)]
  | (c, d) :: r => if c ≤ b + 1 then joinFrom a (max b d) r else (a, b) :: joinFrom c d r

/-- Joins ranges in rising order that touch or overlap. -/
def joinTouching : List (Nat × Nat) → List (Nat × Nat)
  | [] => []
  | (a, b) :: r => joinFrom a b r

/-- The set of ranges in any order. -/
def ofRanges (rs : List (Nat × Nat)) : CharSet :=
  ⟨joinTouching (rs.mergeSort fun p q => p.1 ≤ q.1)⟩

theorem mem_joinFrom {n a b : Nat} {rs : List (Nat × Nat)} (ha : ∀ r ∈ rs, a ≤ r.1)
    (hs : rs.Pairwise fun p q => p.1 ≤ q.1) :
    (∃ r ∈ joinFrom a b rs, r.1 ≤ n ∧ n ≤ r.2) ↔
      (a ≤ n ∧ n ≤ b) ∨ ∃ r ∈ rs, r.1 ≤ n ∧ n ≤ r.2 := by
  induction rs generalizing a b with
  | nil => simp [joinFrom]
  | cons p rs ih =>
    obtain ⟨c, d⟩ := p
    have hc : a ≤ c := ha (c, d) (by simp)
    rw [List.pairwise_cons] at hs
    unfold joinFrom
    split
    · rw [ih (fun r hr => ha r (by simp [hr])) hs.2]
      simp only [List.mem_cons, exists_eq_or_imp, ← or_assoc]
      refine or_congr_left ?_
      omega
    · simp only [List.mem_cons, exists_eq_or_imp]
      rw [ih (fun r hr => hs.1 r hr) hs.2]

theorem contains_ofRanges (rs : List (Nat × Nat)) (c : Char) :
    (ofRanges rs).contains c = true ↔ ∃ r ∈ rs, r.1 ≤ c.toNat ∧ c.toNat ≤ r.2 := by
  have hs : (rs.mergeSort fun p q => p.1 ≤ q.1).Pairwise fun p q => p.1 ≤ q.1 := by
    have h := @List.pairwise_mergeSort _ (fun p q : Nat × Nat => decide (p.1 ≤ q.1))
      (fun a b c => by simp only [decide_eq_true_eq]; omega)
      (fun a b => by simp only [Bool.or_eq_true, decide_eq_true_eq]; omega) rs
    exact h.imp fun h => by simpa using h
  have hm : ∀ r, (r ∈ rs.mergeSort fun p q => p.1 ≤ q.1) ↔ r ∈ rs := fun r => List.mem_mergeSort
  simp only [contains, ofRanges, List.any_eq_true, Bool.and_eq_true, decide_eq_true_eq]
  simp only [← hm]
  generalize (rs.mergeSort fun p q => p.1 ≤ q.1) = sorted at hs
  cases sorted with
  | nil => simp [joinTouching]
  | cons p ps =>
    rw [List.pairwise_cons] at hs
    simp only [joinTouching, mem_joinFrom hs.1 hs.2, List.mem_cons, exists_eq_or_imp]

/-- The code points whose run has one of the marks. -/
def ofRuns (runs : List MarkRun) (marks : List String) : CharSet :=
  ⟨joinTouching ((runs.filter fun r => marks.contains r.mark).map fun r => (r.first, r.last))⟩

def union (s t : CharSet) : CharSet := ofRanges (s.ranges ++ t.ranges)

theorem contains_union (s t : CharSet) (c : Char) :
    (s.union t).contains c = (s.contains c || t.contains c) := by
  rw [Bool.eq_iff_iff, union, contains_ofRanges, Bool.or_eq_true]
  simp only [contains, List.any_eq_true, Bool.and_eq_true, decide_eq_true_eq, List.mem_append]
  constructor
  · rintro ⟨r, h | h, hr⟩
    · exact .inl ⟨r, h, hr⟩
    · exact .inr ⟨r, h, hr⟩
  · rintro (⟨r, h, hr⟩ | ⟨r, h, hr⟩)
    · exact ⟨r, .inl h, hr⟩
    · exact ⟨r, .inr h, hr⟩

/-- The ranges between those given, from `first` to the last code point. -/
def gaps : Nat → List (Nat × Nat) → List (Nat × Nat)
  | first, [] => if first ≤ lastCode then [(first, lastCode)] else []
  | first, (a, b) :: r =>
    if first < a then (first, a - 1) :: gaps (max first (b + 1)) r
    else gaps (max first (b + 1)) r

def complement (s : CharSet) : CharSet := ⟨gaps 0 s.ranges⟩

def inter (s t : CharSet) : CharSet := (s.complement.union t.complement).complement

def diff (s t : CharSet) : CharSet := s.inter t.complement

def symmDiff (s t : CharSet) : CharSet := (s.diff t).union (t.diff s)

/-- Whether all members are ASCII. -/
def isAscii (s : CharSet) : Bool := s.ranges.all fun r => r.2 < 0x80

end CharSet

end DocQuery
