/-!
# Lists of pairs in insertion order

Documents, parameters, schemas and outputs are lists of pairs in which a key's first place is kept:
writing a key again replaces its value where it stands.

* `Assoc.get?`, `Assoc.put`, `Assoc.ofWrites` — reading, writing, and a sequence of writes.
* `Assoc.insertSorted` — writing into a list ordered by key.

Main statements: `Assoc.get?_put`, `Assoc.get?_of_mem`, `Assoc.keys_put`, `Assoc.nodup_put`,
`Assoc.ofWrites_of_nodup`, `Assoc.sorted_perm`.
-/

set_option autoImplicit false

namespace DocQuery

/-- Pairs of a key and a value. -/
abbrev Assoc (α : Type) := List (String × α)

namespace Assoc

variable {α β : Type}

/-- The value under the first occurrence of a key. -/
def get? : Assoc α → String → Option α
  | [], _ => none
  | (k, a) :: r, key => if k = key then some a else get? r key

def keys (m : Assoc α) : List String := m.map Prod.fst

/-- Writes a key: in place where it stands, else at the end. -/
def put : Assoc α → String → α → Assoc α
  | [], key, a => [(key, a)]
  | (k, b) :: r, key, a => if k = key then (k, a) :: r else (k, b) :: put r key a

/-- The outcome of writes in order. -/
def ofWrites (writes : List (String × α)) : Assoc α :=
  writes.foldl (fun m w => m.put w.1 w.2) []

/-- Writes a key into a list ordered by key. -/
def insertSorted : Assoc α → String → α → Assoc α
  | [], key, a => [(key, a)]
  | (k, b) :: r, key, a =>
    if k = key then (k, a) :: r
    else if key < k then (key, a) :: (k, b) :: r
    else (k, b) :: insertSorted r key a

/-- The pairs ordered by key, the last of equal keys winning. -/
def sorted (m : Assoc α) : Assoc α := m.foldl (fun s w => s.insertSorted w.1 w.2) []

theorem get?_put (m : Assoc α) (key other : String) (a : α) :
    (m.put key a).get? other = if key = other then some a else m.get? other := by
  induction m with
  | nil => simp [put, get?]
  | cons p r ih =>
    obtain ⟨k, b⟩ := p
    by_cases hk : k = key
    · subst hk; by_cases h : k = other <;> simp [put, get?, h]
    · by_cases h : k = other
      · subst h; simp [put, get?, hk, Ne.symm hk]
      · simp [put, get?, hk, h, ih]

theorem keys_put (m : Assoc α) (key : String) (a : α) :
    (m.put key a).keys = if key ∈ m.keys then m.keys else m.keys ++ [key] := by
  induction m with
  | nil => simp [put, keys]
  | cons p r ih =>
    obtain ⟨k, b⟩ := p
    simp only [keys] at ih
    by_cases hk : k = key
    · simp [put, keys, hk]
    · by_cases h : key ∈ r.map Prod.fst
      · simp [put, keys, hk, ih, h]
      · simp [put, keys, hk, ih, h, Ne.symm hk]

theorem nodup_put {m : Assoc α} (h : m.keys.Nodup) (key : String) (a : α) :
    (m.put key a).keys.Nodup := by
  rw [keys_put]
  split
  · exact h
  · rw [List.nodup_append]
    refine ⟨h, by simp, ?_⟩
    rintro x hx y hy rfl
    simp_all

theorem put_of_not_mem {m : Assoc α} {key : String} (h : key ∉ m.keys) (a : α) :
    m.put key a = m ++ [(key, a)] := by
  induction m with
  | nil => rfl
  | cons p r ih =>
    obtain ⟨k, b⟩ := p
    simp only [keys, List.map_cons, List.mem_cons, not_or] at h
    rw [put, if_neg (Ne.symm h.1), ih h.2, List.cons_append]

/-- Writes under different keys stay as they are. -/
theorem ofWrites_of_nodup {writes : List (String × α)} (h : (writes.map Prod.fst).Nodup) :
    ofWrites writes = writes := by
  suffices hfold : ∀ (ws : List (String × α)) (m : Assoc α), ((m ++ ws).map Prod.fst).Nodup →
      ws.foldl (fun m w => m.put w.1 w.2) m = m ++ ws from hfold writes [] h
  intro ws
  induction ws with
  | nil => intro m _; rw [List.foldl_nil, List.append_nil]
  | cons w ws ih =>
    intro m hm
    have hw : w.1 ∉ m.keys := by
      rw [List.map_append, List.nodup_append] at hm
      intro hk
      exact hm.2.2 _ hk _ List.mem_cons_self rfl
    rw [List.foldl_cons, put_of_not_mem hw, ih _ (by simpa using hm)]
    simp

theorem mem_put {m : Assoc α} {key : String} {a : α} {e : String × α} (h : e ∈ m.put key a) :
    e ∈ m ∨ e = (key, a) := by
  induction m with
  | nil => exact .inr (List.mem_singleton.1 h)
  | cons p r ih =>
    obtain ⟨k, b⟩ := p
    rw [put] at h
    split at h
    · rename_i hk
      rcases List.mem_cons.1 h with rfl | h
      · exact .inr (by rw [hk])
      · exact .inl (List.mem_cons_of_mem _ h)
    · rcases List.mem_cons.1 h with rfl | h
      · exact .inl List.mem_cons_self
      · exact (ih h).imp (List.mem_cons_of_mem _) id

/-- The first key that is written comes first. -/
theorem exists_ofWrites_cons (w : String × α) (ws : List (String × α)) :
    ∃ a r, ofWrites (w :: ws) = (w.1, a) :: r := by
  suffices hfold : ∀ (ws : List (String × α)) (a : α) (m : Assoc α),
      ∃ b r, ws.foldl (fun (m : Assoc α) w => m.put w.1 w.2) ((w.1, a) :: m) = (w.1, b) :: r from
    hfold ws w.2 []
  intro ws
  induction ws with
  | nil => exact fun a m => ⟨a, m, rfl⟩
  | cons v ws ih =>
    intro a m
    rw [List.foldl_cons, put]
    split
    · exact ih v.2 m
    · exact ih a (m.put v.1 v.2)

/-- Writes leave no key twice, and nothing that was not written. -/
theorem ofWrites_spec (writes : List (String × α)) :
    (ofWrites writes).keys.Nodup ∧ ∀ e ∈ ofWrites writes, e ∈ writes := by
  suffices hfold : ∀ (ws : List (String × α)) (m : Assoc α), (∀ w ∈ ws, w ∈ writes) →
      m.keys.Nodup → (∀ e ∈ m, e ∈ writes) →
        (ws.foldl (fun m w => m.put w.1 w.2) m).keys.Nodup ∧
          ∀ e ∈ ws.foldl (fun m w => m.put w.1 w.2) m, e ∈ writes from
    hfold writes [] (fun _ hw => hw) List.nodup_nil (fun _ he => nomatch he)
  intro ws
  induction ws with
  | nil => exact fun m _ hm hsub => ⟨hm, hsub⟩
  | cons w ws ih =>
    intro m hws hm hsub
    obtain ⟨hw, hws⟩ := List.forall_mem_cons.1 hws
    refine ih (m.put w.1 w.2) hws (nodup_put hm _ _) ?_
    intro e he
    rcases mem_put he with he | rfl
    · exact hsub e he
    · exact hw

theorem get?_isSome_iff (m : Assoc α) (key : String) : (m.get? key).isSome ↔ key ∈ m.keys := by
  induction m with
  | nil => simp [get?, keys]
  | cons p r ih =>
    obtain ⟨k, b⟩ := p
    by_cases hk : k = key
    · simp [get?, keys, hk]
    · simp only [keys] at ih
      simp [get?, keys, hk, ih, Ne.symm hk]

theorem mem_of_get? {m : Assoc α} {key : String} {a : α} (h : m.get? key = some a) :
    (key, a) ∈ m := by
  induction m with
  | nil => cases h
  | cons p r ih =>
    obtain ⟨k, b⟩ := p
    rw [get?] at h
    split at h
    · rename_i hk
      rw [← hk, ← Option.some.inj h]
      exact List.mem_cons_self
    · exact List.mem_cons_of_mem _ (ih h)

/-- A pair is found under its key if no other pair has the key. -/
theorem get?_of_mem {m : Assoc α} (hm : m.keys.Nodup) {key : String} {a : α} (h : (key, a) ∈ m) :
    m.get? key = some a := by
  induction m with
  | nil => cases h
  | cons p r ih =>
    obtain ⟨k, b⟩ := p
    rw [keys, List.map_cons, List.nodup_cons] at hm
    rcases List.mem_cons.1 h with heq | h
    · obtain ⟨rfl, rfl⟩ := Prod.mk.inj heq
      rw [get?, if_pos rfl]
    · have hne : k ≠ key := fun hk => hm.1 (List.mem_map.2 ⟨_, h, hk.symm⟩)
      rw [get?, if_neg hne]
      exact ih hm.2 h

/-! ## Order -/

theorem insertSorted_perm {m : Assoc α} {key : String} (h : key ∉ m.keys) (a : α) :
    (m.insertSorted key a).Perm ((key, a) :: m) := by
  induction m with
  | nil => exact .refl _
  | cons p r ih =>
    obtain ⟨k, b⟩ := p
    simp only [keys, List.map_cons, List.mem_cons, not_or] at h
    rw [insertSorted, if_neg (Ne.symm h.1)]
    split
    · exact .refl _
    · exact ((ih h.2).cons (k, b)).trans (.swap _ _ r)

/-- Ordering pairs with different keys only moves them. -/
theorem sorted_perm {m : Assoc α} (h : m.keys.Nodup) : m.sorted.Perm m := by
  suffices hfold : ∀ (ws : List (String × α)) (s : Assoc α), (keys (s ++ ws)).Nodup →
      (ws.foldl (fun s w => s.insertSorted w.1 w.2) s).Perm (s ++ ws) from hfold m [] h
  intro ws
  induction ws with
  | nil =>
    intro s _
    rw [List.foldl_nil, List.append_nil]
  | cons w ws ih =>
    intro s hs
    have hw : w.1 ∉ s.keys := by
      rw [keys, List.map_append, List.nodup_append] at hs
      exact fun hk => hs.2.2 _ hk _ List.mem_cons_self rfl
    have hperm : (s.insertSorted w.1 w.2 ++ ws).Perm (s ++ w :: ws) :=
      ((insertSorted_perm hw w.2).append_right ws).trans List.perm_middle.symm
    exact (ih _ ((hperm.map Prod.fst).nodup_iff.2 hs)).trans hperm

end Assoc

end DocQuery
