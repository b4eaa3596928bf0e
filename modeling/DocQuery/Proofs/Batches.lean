import DocQuery.Evaluation.Batch
import DocQuery.Proofs.Success

/-!
# Registered lookups

What registration keeps true of the lookups of a pass, whatever the requests and their order.

* `Batch.WellFormed` — a lookup of its own is for a request that may not share one; a shared lookup
  is for requests of its path, each waiting under its own id, and there is one at least.
* `Batch.wellFormed_register`, `Batch.wellFormed_ofTickets` — registration keeps lookups so.
-/

set_option autoImplicit false

namespace DocQuery.Batch

variable [RegexEngine]

/-- What every registered lookup satisfies. -/
inductive WellFormed (coalesce : Bool) : Batch → Prop
  | single {t : Ticket} (alone : sharedId? coalesce t = none) : WellFormed coalesce (single t)
  | shared {path : String} {waiting : List (Value × Ticket)} (some_waits : waiting ≠ [])
    (own : ∀ w ∈ waiting, sharedId? coalesce w.2 = some w.1 ∧ w.2.1.path = path) :
    WellFormed coalesce (shared path waiting)

variable {coalesce : Bool}

theorem wellFormed_join {t : Ticket} {id : Value} (ht : sharedId? coalesce t = some id)
    {bs : List Batch} (h : ∀ b ∈ bs, WellFormed coalesce b) :
    ∀ b ∈ join t.1.path id t bs, WellFormed coalesce b := by
  have hnew : ∀ w ∈ [(id, t)], sharedId? coalesce w.2 = some w.1 ∧ w.2.1.path = t.1.path := by
    intro w hw
    rw [List.mem_singleton.1 hw]
    exact ⟨ht, rfl⟩
  induction bs with
  | nil =>
    intro b hb
    rw [List.mem_singleton.1 hb]
    exact .shared (by simp) hnew
  | cons c bs ih =>
    have hc := h c List.mem_cons_self
    have hbs : ∀ b ∈ bs, WellFormed coalesce b := by
      intro b hb
      exact h b (List.mem_cons_of_mem c hb)
    intro b hb
    cases c with
    | single u =>
      rcases List.mem_cons.1 hb with rfl | hb
      · exact hc
      · exact ih hbs b hb
    | shared p waiting =>
      rw [join] at hb
      split at hb
      · rename_i hp
        rcases List.mem_cons.1 hb with rfl | hb
        · cases hc with
          | shared _ own =>
            refine .shared (by simp) fun w hw => ?_
            rcases List.mem_append.1 hw with hw | hw
            · exact own w hw
            · exact hp ▸ hnew w hw
        · exact hbs b hb
      · rcases List.mem_cons.1 hb with rfl | hb
        · exact hc
        · exact ih hbs b hb

/-- Registration keeps lookups well-formed. -/
theorem wellFormed_register {bs : List Batch} (h : ∀ b ∈ bs, WellFormed coalesce b) (t : Ticket) :
    ∀ b ∈ register coalesce bs t, WellFormed coalesce b := by
  unfold register
  split
  · rename_i id hid
    exact wellFormed_join hid h
  · rename_i hid
    intro b hb
    rcases List.mem_append.1 hb with hb | hb
    · exact h b hb
    · rw [List.mem_singleton.1 hb]
      exact .single hid

theorem wellFormed_foldl (ts : List Ticket) {bs : List Batch}
    (h : ∀ b ∈ bs, WellFormed coalesce b) :
    ∀ b ∈ ts.foldl (register coalesce) bs, WellFormed coalesce b := by
  induction ts generalizing bs with
  | nil => exact h
  | cons t ts ih => exact ih (wellFormed_register h t)

/-- The lookups of a pass are well-formed. -/
theorem wellFormed_ofTickets (ts : List Ticket) :
    ∀ b ∈ ofTickets coalesce ts, WellFormed coalesce b := by
  apply wellFormed_foldl ts
  intro b hb
  cases hb

/-- Some request waits for every lookup. -/
theorem WellFormed.exists_ticket {b : Batch} (h : WellFormed coalesce b) : ∃ t, t ∈ b.tickets := by
  cases h with
  | @single t _ => exact ⟨t, List.mem_singleton_self t⟩
  | @shared path waiting some_waits _ =>
    obtain ⟨w, hw⟩ := List.exists_mem_of_ne_nil waiting some_waits
    exact ⟨w.2, List.mem_map_of_mem hw⟩

/-- A request waits for a lookup of its own path. -/
theorem WellFormed.path_eq {b : Batch} (h : WellFormed coalesce b) {t : Ticket}
    (ht : t ∈ b.tickets) : t.1.path = b.lookup.path := by
  cases h with
  | single _ =>
    rw [List.mem_singleton.1 ht]
    rfl
  | shared _ own =>
    obtain ⟨w, hw, rfl⟩ := List.mem_map.1 ht
    exact (own w hw).2

/-- Where requests are not coalesced every lookup is for one request. -/
theorem WellFormed.eq_single {b : Batch} (h : WellFormed false b) : ∃ t, b = Batch.single t := by
  cases h with
  | @single t _ => exact ⟨t, rfl⟩
  | @shared path waiting some_waits own =>
    obtain ⟨w, hw⟩ := List.exists_mem_of_ne_nil waiting some_waits
    obtain ⟨hid, -⟩ := own w hw
    simp [sharedId?] at hid

end DocQuery.Batch
