import DocQuery.Proofs.Matching
import DocQuery.Proofs.ValueText

/-!
# Values read from the texts of values

A value with integers in it is not read back as it was, for what is read has floats for them. If its
text is read at all, it is read as a value of the same meaning, and to its end.

* `Predicate.bound_of_readNumber` — a number is read as the float nearest to it.
* `Value.agrees_array`, `Value.agrees_object` — values of one meaning have parts of one meaning.
* `Predicate.agrees_of_readValue` — a value is read as a value of its meaning.
* `Predicate.agrees_of_readItems` — and so are the items of a list.
-/

set_option autoImplicit false

namespace DocQuery

/-! ## Numbers -/

namespace Predicate

/-- A number is read as the float nearest to it. -/
theorem bound_of_readNumber {n : Number} {rest : List Char} (hrest : Delimited rest)
    {p : Double × List Char} (h : readNumber (n.chars ++ rest) = .ok p) :
    n.bound = .finite p.1 ∧ p.2 = rest := by
  have hread : Literal.number (n.chars ++ rest) = .ok p := mapError_eq_ok_iff.1 h
  unfold Literal.number at hread
  simp only [n.scanNumber_chars hrest.numberEnds, n.ofChars_chars] at hread
  cases hbound : n.bound with
  | finite d =>
    simp only [hbound, Except.ok.injEq] at hread
    simp [← hread]
  | infinite negative => simp [hbound, fault] at hread
  | nan => simp [hbound, fault] at hread

end Predicate

/-! ## Parts of one meaning -/

/-- An element of a list has a counterpart in a list that is related to it. -/
theorem exists_related_of_mem {α β : Type} {R : α → β → Prop} {l : List α} {m : List β}
    (h : List.Forall₂ R l m) {a : α} (ha : a ∈ l) : ∃ b ∈ m, R a b := by
  induction h with
  | nil => cases ha
  | cons hab _ ih =>
    rcases List.mem_cons.1 ha with rfl | ha
    · exact ⟨_, List.mem_cons_self, hab⟩
    · obtain ⟨b, hb, hR⟩ := ih ha
      exact ⟨b, List.mem_cons_of_mem _ hb, hR⟩

namespace Value

variable {as bs : List Value} {es fs : Document}

theorem agrees_array (h : List.Forall₂ Agrees as bs) : (array as).Agrees (array bs) := by
  have hleft : ∀ a ∈ as, a.KeysDistinct := by
    intro a ha
    obtain ⟨b, -, hab⟩ := exists_related_of_mem h ha
    exact hab.left
  obtain ⟨halike, hright⟩ := alikeItems_of_agrees h
  refine ⟨?_, ?_, halike⟩
  · simpa only [KeysDistinct, keysDistinctItems_iff] using hleft
  · simpa only [KeysDistinct, keysDistinctItems_iff] using hright

/-- An entry under the same key, with a value of the same meaning. -/
def EntryAgrees (e f : String × Value) : Prop := e.1 = f.1 ∧ e.2.Agrees f.2

theorem keys_eq_of_entries (h : List.Forall₂ EntryAgrees es fs) :
    Assoc.keys es = Assoc.keys fs := by
  induction h with
  | nil => rfl
  | cons hef _ ih =>
    have hrest := ih
    simp only [Assoc.keys, List.map_cons] at hrest ⊢
    rw [hef.1, hrest]

theorem agrees_object (hkeys : (Assoc.keys es).Nodup) (h : List.Forall₂ EntryAgrees es fs) :
    (object es).Agrees (object fs) := by
  have hkeys' : (Assoc.keys fs).Nodup := keys_eq_of_entries h ▸ hkeys
  have hleft : ∀ e ∈ es, e.2.KeysDistinct := by
    intro e he
    obtain ⟨f, -, hef⟩ := exists_related_of_mem h he
    exact hef.2.left
  have hright : ∀ f ∈ fs, f.2.KeysDistinct := by
    intro f hf
    obtain ⟨e, -, hef⟩ := exists_related_of_mem (List.Forall₂.flip (R := flip EntryAgrees) h) hf
    exact hef.2.right
  have hfound : ∀ e ∈ es, ∃ b, Assoc.get? fs e.1 = some b ∧ e.2.alike b = true := by
    intro e he
    obtain ⟨f, hf, hkey, hagree⟩ := exists_related_of_mem h he
    exact ⟨f.2, hkey ▸ Assoc.get?_of_mem hkeys' hf, hagree.alike⟩
  refine ⟨⟨hkeys, keysDistinctEntries_iff.2 hleft⟩, ⟨hkeys', keysDistinctEntries_iff.2 hright⟩, ?_⟩
  rw [alike, h.length_eq, beq_self_eq_true, Bool.true_and]
  exact alikeEntries_iff.2 hfound

end Value

/-! ## Readings -/

namespace Predicate

variable {item : Reader Problem Value} {rest : List Char}

/-- What a reader takes a value's text for, if it reads it, has the meaning of the value. -/
def ReadsMeaning (item : Reader Problem Value) (v : Value) : Prop :=
  ∀ rest p, Delimited rest → item (v.chars ++ rest) = .ok p → v.Agrees p.1 ∧ p.2 = rest

/-- A list between brackets is read as items of the same meaning. -/
theorem agrees_of_readItems {vs : List Value} (h : ∀ v ∈ vs, ReadsMeaning item v)
    {p : List Value × List Char}
    (hread : readItems item (bracketed (joinedBy Value.chars vs) ++ rest) = .ok p) :
    List.Forall₂ Value.Agrees vs p.1 ∧ p.2 = rest := by
  unfold readItems at hread
  rw [bracketed_append] at hread
  simp only [expect_cons, bind, Except.bind] at hread
  refine related_of_separated closes_bracket Value.opens_chars vs ?_ hread
  intro v hv index rest p hrest hp
  exact h v hv rest p hrest (labelFault_eq_ok_iff.1 hp)

theorem agrees_of_readEntry {e : String × Value} (h : ReadsMeaning item e.2)
    (hrest : Delimited rest) {p : (String × Value) × List Char}
    (hread : readEntry item (Value.entryChars e ++ rest) = .ok p) :
    Value.EntryAgrees e p.1 ∧ p.2 = rest := by
  have hblank := skipBlanks_space_of_solid (e.2.opens_chars.append rest).solid
  unfold readEntry at hread
  rw [Value.entryChars, labelled_append] at hread
  simp only [readLabel_quoteChars, bind, Except.bind, hblank] at hread
  obtain ⟨q, hq, hp⟩ := bind_eq_ok_iff.1 hread
  obtain ⟨hagree, hq2⟩ := h rest q hrest hq
  cases hp
  exact ⟨⟨rfl, hagree⟩, hq2⟩

/-- A document is read as one of the same meaning. -/
theorem agrees_of_readDocument {entries : List (String × Value)}
    (hkeys : (Assoc.keys entries).Nodup) (h : ∀ e ∈ entries, ReadsMeaning item e.2)
    {p : Document × List Char}
    (hread : readDocument item (braced (joinedBy Value.entryChars entries) ++ rest) = .ok p) :
    (Value.object entries).Agrees (.object p.1) ∧ p.2 = rest := by
  unfold readDocument at hread
  rw [braced_append] at hread
  simp only [expect_cons, bind, Except.bind] at hread
  obtain ⟨⟨fs, r⟩, hfs, hp⟩ := bind_eq_ok_iff.1 hread
  obtain ⟨hentries, hr⟩ := related_of_separated closes_brace Value.opens_entryChars entries
    (fun e he _ _ _ hu hq => agrees_of_readEntry (h e he) hu hq) hfs
  have hkeys' : (Assoc.keys fs).Nodup := Value.keys_eq_of_entries hentries ▸ hkeys
  cases hp
  rw [Assoc.ofWrites_of_nodup hkeys']
  exact ⟨Value.agrees_object hkeys hentries, hr⟩

/-- **A value is read as a value of its meaning**, if its text is read at all. -/
theorem agrees_of_readValueWithin {fuel : Nat} {v : Value} (hkeys : v.KeysDistinct) :
    ReadsMeaning (readValueWithin fuel) v := by
  induction fuel generalizing v with
  | zero => exact fun _ _ _ h => nomatch h
  | succ fuel ih =>
    intro rest p hrest h
    cases v with
    | null =>
      cases h
      exact ⟨.refl trivial, rfl⟩
    | bool b =>
      cases b with
      | true | false =>
        cases h
        exact ⟨.refl trivial, rfl⟩
    | number n =>
      have hread : readValueWithin (fuel + 1) (n.chars ++ rest) = .ok p := h
      obtain ⟨c, s, heq, hc⟩ := n.exists_chars_cons
      rw [heq, List.cons_append, readValueWithin_number hc, ← List.cons_append, ← heq] at hread
      obtain ⟨q, hq, rfl⟩ := map_eq_ok_iff.1 hread
      obtain ⟨hbound, hq2⟩ := bound_of_readNumber hrest hq
      have halike : n.bound.alike (.finite q.1) = true := hbound ▸ n.alike_refl
      exact ⟨⟨trivial, trivial, halike⟩, hq2⟩
    | string s =>
      have hread : (readString (quoteChars s ++ rest)).map (fun p => (Value.string p.1, p.2)) =
        .ok p := h
      rw [readString_quoteChars] at hread
      cases hread
      exact ⟨.refl trivial, rfl⟩
    | array items =>
      have hitems : ∀ v ∈ items, ReadsMeaning (readValueWithin fuel) v := by
        intro v hv
        exact ih (hkeys.of_mem hv)
      rw [Value.chars_array] at h
      have hread : (readItems (readValueWithin fuel)
        (bracketed (joinedBy Value.chars items) ++ rest)).map
          (fun p => (Value.array p.1, p.2)) = .ok p := h
      obtain ⟨q, hq, rfl⟩ := map_eq_ok_iff.1 hread
      obtain ⟨hagree, hq2⟩ := agrees_of_readItems hitems hq
      exact ⟨Value.agrees_array hagree, hq2⟩
    | object entries =>
      rw [Value.KeysDistinct] at hkeys
      have hentries : ∀ e ∈ entries, ReadsMeaning (readValueWithin fuel) e.2 := by
        intro e he
        exact ih (Value.keysDistinctEntries_iff.1 hkeys.2 e he)
      rw [Value.chars_object] at h
      have hread : (readDocument (readValueWithin fuel)
        (braced (joinedBy Value.entryChars entries) ++ rest)).map
          (fun p => (Value.object p.1, p.2)) = .ok p := h
      obtain ⟨q, hq, rfl⟩ := map_eq_ok_iff.1 hread
      exact agrees_of_readDocument hkeys.1 hentries hq

theorem agrees_of_readValue {v : Value} (hkeys : v.KeysDistinct) : ReadsMeaning readValue v :=
  fun _ _ hrest h => agrees_of_readValueWithin hkeys _ _ hrest h

end Predicate

end DocQuery
