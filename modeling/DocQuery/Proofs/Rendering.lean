import DocQuery.Proofs.Answering
import DocQuery.Schema.Conformity

/-!
# Drafts that can be rendered

A draft is rendered without a failure where every transform in it takes every value. This is a
property of the draft before its requests are answered, and answers that have it keep it.

* `Transform.Total` — takes every value.
* `Draft.Renders` — every transform of a draft does.
* `Draft.renders_bind_iff` — answers are put in the places of requests.
* `Draft.exists_render` — a draft whose transforms take every value has a value.
-/

set_option autoImplicit false

namespace DocQuery

namespace Transform

/-- Takes every value. -/
def Total (t : Transform) : Prop := ∀ v, ∃ w, t.apply v = .ok w

/-- A field whose handler and output form never fail is shown by a total transform. -/
theorem total_ofSelection {f : Field} (h : f.capabilities.Total) (s : Selection) :
    (ofSelection s (some f)).Total := by
  intro v
  have hhandle : ∃ u, (ofSelection s (some f)).handle v = .ok u := by
    unfold handle
    split
    · rename_i g hg
      split
      · exact ⟨v, rfl⟩
      · obtain ⟨u, hu⟩ := h.handler g hg v (ofSelection s (some f)).params
        exact ⟨u, by rw [hu]; rfl⟩
    · exact ⟨v, rfl⟩
  obtain ⟨u, hu⟩ := hhandle
  have hserialize : ∃ w, (ofSelection s (some f)).serialize u = .ok w := by
    unfold serialize
    split
    · rename_i t ht
      obtain ⟨w, hw⟩ := h.serializer t ht u
      exact ⟨w, by rw [hw]; rfl⟩
    · exact ⟨u, rfl⟩
  obtain ⟨w, hw⟩ := hserialize
  exact ⟨w, bind_eq_ok_iff.2 ⟨u, hu, hw⟩⟩

/-- A field without definition is shown as it is. -/
theorem total_ofSelection_none (s : Selection) : (ofSelection s none).Total := fun v => ⟨v, rfl⟩

end Transform

namespace Draft

variable {ρ σ : Type}

mutual

/-- Every transform of a draft takes every value. -/
def Renders : Draft ρ → Prop
  | value _ => True
  | document writes => RendersWrites writes
  | list items => RendersItems items
  | pending _ => True
  | transformed inner t => inner.Renders ∧ t.Total

def RendersWrites : List (String × Draft ρ) → Prop
  | [] => True
  | (_, d) :: r => d.Renders ∧ RendersWrites r

def RendersItems : List (Draft ρ) → Prop
  | [] => True
  | d :: r => d.Renders ∧ RendersItems r

end

theorem rendersWrites_iff {writes : Writes ρ} :
    RendersWrites writes ↔ ∀ w ∈ writes, w.2.Renders := by
  induction writes with
  | nil => simp [RendersWrites]
  | cons w writes ih => rw [RendersWrites, ih, List.forall_mem_cons]

theorem rendersItems_iff {items : List (Draft ρ)} :
    RendersItems items ↔ ∀ d ∈ items, d.Renders := by
  induction items with
  | nil => simp [RendersItems]
  | cons d items ih => rw [RendersItems, ih, List.forall_mem_cons]

mutual

/-- A draft with its answers can be rendered just where the draft and each of its answers can. -/
theorem renders_bind_iff (f : ρ → Draft σ) (d : Draft ρ) :
    (d.bind f).Renders ↔ d.Renders ∧ ∀ r ∈ d.requests, (f r).Renders := by
  cases d with
  | value v => simp [bind, Renders, requests]
  | document writes => exact rendersWrites_bindWrites_iff f writes
  | list items => exact rendersItems_bindItems_iff f items
  | pending r => simp [bind, Renders, requests]
  | transformed inner t =>
    rw [bind, Renders, Renders, requests, renders_bind_iff f inner, and_right_comm]

theorem rendersWrites_bindWrites_iff (f : ρ → Draft σ) (writes : List (String × Draft ρ)) :
    RendersWrites (bindWrites f writes) ↔
      RendersWrites writes ∧ ∀ r ∈ requestsOfWrites writes, (f r).Renders := by
  match writes with
  | [] => simp [bindWrites, RendersWrites, requestsOfWrites]
  | (k, d) :: r =>
    rw [bindWrites, RendersWrites, RendersWrites, requestsOfWrites, renders_bind_iff f d,
      rendersWrites_bindWrites_iff f r, List.forall_mem_append, and_and_and_comm]

theorem rendersItems_bindItems_iff (f : ρ → Draft σ) (items : List (Draft ρ)) :
    RendersItems (bindItems f items) ↔
      RendersItems items ∧ ∀ r ∈ requestsOfItems items, (f r).Renders := by
  match items with
  | [] => simp [bindItems, RendersItems, requestsOfItems]
  | d :: r =>
    rw [bindItems, RendersItems, RendersItems, requestsOfItems, renders_bind_iff f d,
      rendersItems_bindItems_iff f r, List.forall_mem_append, and_and_and_comm]

end

/-- Numbering changes no transform. -/
theorem rendersWrites_numberWrites {n : Nat} {writes : Writes ρ} (h : RendersWrites writes) :
    RendersWrites (numberWrites n writes) := by
  rw [← bindWrites_numberWrites n writes, rendersWrites_bindWrites_iff] at h
  exact h.1

theorem rendersItems_numberItems {n : Nat} {items : List (Draft ρ)} (h : RendersItems items) :
    RendersItems (numberItems n items) := by
  rw [← bindItems_numberItems n items, rendersItems_bindItems_iff] at h
  exact h.1

/-! ## Rendering -/

theorem exists_gather {outcomes : Assoc (Except Error Value)}
    (h : ∀ w ∈ outcomes, ∃ v, w.2 = .ok v) : ∃ doc, gather outcomes = .ok doc := by
  induction outcomes with
  | nil => exact ⟨[], rfl⟩
  | cons w outcomes ih =>
    obtain ⟨⟨v, hv⟩, hrest⟩ := List.forall_mem_cons.1 h
    obtain ⟨doc, hdoc⟩ := ih hrest
    exact ⟨(w.1, v) :: doc, bind_eq_ok_iff.2 ⟨v, hv, bind_eq_ok_iff.2 ⟨doc, hdoc, rfl⟩⟩⟩

theorem exists_gather_ofWrites {writes : List (String × Except Error Value)}
    (h : ∀ w ∈ writes, ∃ v, w.2 = .ok v) : ∃ doc, gather (Assoc.ofWrites writes) = .ok doc :=
  exists_gather fun w hw => h w ((Assoc.ofWrites_spec writes).2 w hw)

theorem exists_gatherItems {outcomes : List (Except Error Value)}
    (h : ∀ o ∈ outcomes, ∃ v, o = .ok v) : ∃ vs, gatherItems outcomes = .ok vs := by
  induction outcomes with
  | nil => exact ⟨[], rfl⟩
  | cons o outcomes ih =>
    obtain ⟨⟨v, hv⟩, hrest⟩ := List.forall_mem_cons.1 h
    obtain ⟨vs, hvs⟩ := ih hrest
    exact ⟨v :: vs, bind_eq_ok_iff.2 ⟨v, hv, bind_eq_ok_iff.2 ⟨vs, hvs, rfl⟩⟩⟩

mutual

/-- **A draft whose transforms take every value has a value.** -/
theorem exists_render (d : Draft Empty) (h : d.Renders) : ∃ v, d.render = .ok v := by
  cases d with
  | value v => exact ⟨v, rfl⟩
  | document writes =>
    obtain ⟨doc, hdoc⟩ := exists_gather_ofWrites (exists_outcomesOfWrites writes h)
    exact ⟨.object doc, by rw [render, hdoc]; rfl⟩
  | list items =>
    obtain ⟨vs, hvs⟩ := exists_gatherItems (exists_outcomesOfItems items h)
    exact ⟨.array vs, by rw [render, hvs]; rfl⟩
  | pending r => exact nomatch r
  | transformed inner t =>
    obtain ⟨v, hv⟩ := exists_render inner h.1
    obtain ⟨w, hw⟩ := h.2 v
    exact ⟨w, by rw [render, hv]; exact hw⟩

theorem exists_outcomesOfWrites (writes : List (String × Draft Empty)) (h : RendersWrites writes) :
    ∀ w ∈ outcomesOfWrites writes, ∃ v, w.2 = .ok v := by
  match writes with
  | [] => exact fun _ hw => nomatch hw
  | (k, d) :: r =>
    exact List.forall_mem_cons.2 ⟨exists_render d h.1, exists_outcomesOfWrites r h.2⟩

theorem exists_outcomesOfItems (items : List (Draft Empty)) (h : RendersItems items) :
    ∀ o ∈ outcomesOfItems items, ∃ v, o = .ok v := by
  match items with
  | [] => exact fun _ ho => nomatch ho
  | d :: r => exact List.forall_mem_cons.2 ⟨exists_render d h.1, exists_outcomesOfItems r h.2⟩

end

theorem exists_renderDocument {writes : Writes Empty} (h : RendersWrites writes) :
    ∃ doc, renderDocument writes = .ok doc :=
  exists_gather_ofWrites (exists_outcomesOfWrites writes h)

end Draft

end DocQuery
