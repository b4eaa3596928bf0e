import DocQuery.Proofs.Alike
import DocQuery.Proofs.Requests
import DocQuery.Proofs.Sharing

/-!
# Distinct keys along an evaluation

Documents have no key twice, at any depth. An evaluation takes documents apart and goes on with
those that come back; where these have no key twice either, the ids that are asked for are values
without repeated keys throughout.

* `Resolver.KeysDistinct` — no document that comes back has a key twice.
* `Site.Reaches.keysDistinct` — no document that is come across has.
* `Site.keysDistinct_of_draft` — no id that a walk asks for has.
* `Passes.steady_of_keysDistinct` — answers need to be steady for ids without repeated keys only.
-/

set_option autoImplicit false

namespace DocQuery

variable [RegexEngine]

/-- No document that comes back has a key twice. -/
def Resolver.KeysDistinct (resolver : Resolver) : Prop :=
  ∀ {path q answer}, resolver path q = .ok answer →
    ∀ doc ∈ answer.items, (Value.object doc).KeysDistinct

/-- The id that a request asks for has no key twice, if it asks for a single one. -/
def Request.KeysDistinct (r : Request) : Prop :=
  ∀ id, r.query.singleId? = some id → id.KeysDistinct

namespace Field

omit [RegexEngine] in
/-- What is inside a value with distinct keys has distinct keys. -/
theorem keysDistinct_of_mem_parts {f : Field} {v : Value} (hv : v.KeysDistinct)
    {part : Document × Schema} (h : part ∈ f.parts v) : (Value.object part.1).KeysDistinct := by
  match f, v with
  | .mk _ (.object fields), .object doc =>
    rw [parts_object, List.mem_singleton] at h
    exact h ▸ hv
  | .mk _ (.array element), .array items =>
    rw [parts_array, List.mem_flatMap] at h
    obtain ⟨item, hitem, hpart⟩ := h
    exact keysDistinct_of_mem_parts (hv.of_mem hitem) hpart
  | .mk _ .scalar, _ => cases h

end Field

namespace Site

variable {scope : Scope} {resolver : Resolver} {a b : Site}

omit [RegexEngine] in
theorem Part.keysDistinct (h : Part a b) (ha : (Value.object a.doc).KeysDistinct) :
    (Value.object b.doc).KeysDistinct := by
  cases h with
  | intro _ _ _ _ stored _ part => exact Field.keysDistinct_of_mem_parts (ha.of_get? stored) part

omit [RegexEngine] in
theorem Inside.keysDistinct (h : Inside a b) (ha : (Value.object a.doc).KeysDistinct) :
    (Value.object b.doc).KeysDistinct := by
  induction h with
  | refl => exact ha
  | tail _ hpart ih => exact hpart.keysDistinct ih

/-- **No document that is come across has a key twice.** -/
theorem Reaches.keysDistinct (hres : resolver.KeysDistinct) (h : Reaches scope resolver a b)
    (ha : (Value.object a.doc).KeysDistinct) : (Value.object b.doc).KeysDistinct := by
  induction h with
  | self => exact ha
  | part _ hpart ih => exact hpart.keysDistinct ih
  | answer _ hanswer _ =>
    cases hanswer with
    | intro _ _ answered picked => exact hres answered _ (Pick.mem_of_mem_documents picked)

/-- A single id that is asked for is stored in the document. -/
theorem Made.keysDistinct {r : Request} (h : Made scope a r)
    (ha : (Value.object a.doc).KeysDistinct) : r.KeysDistinct := by
  intro id hid
  cases h with
  | reference _ _ _ stored _ =>
    cases hid
    exact ha.of_get? stored
  | references _ _ _ _ _ => cases hid
  | connection _ _ _ _ made =>
    obtain ⟨own, filter, order, hown, -, -, rfl⟩ := Request.ofConnection_eq_ok made
    rw [Query.singleId?] at hid
    split at hid
    · cases filter with
      | nil =>
        simp only [Predicate.singleId?] at hid
        split at hid
        · cases hid
          exact ha.of_get? hown
        · cases hid
      | cons _ _ => cases hid
    · cases hid

/-- **No id that a walk asks for has a key twice.** -/
theorem keysDistinct_of_draft {p : Projection} {doc : Document} {fields : Schema}
    {writes : Draft.Writes Request} (hdoc : (Value.object doc).KeysDistinct)
    (h : p.draft scope doc fields = .ok writes) :
    ∀ r ∈ Draft.requestsOfWrites writes, r.KeysDistinct := by
  intro r hr
  obtain ⟨b, hb, hmade⟩ := made_of_mem h hr
  exact hmade.keysDistinct (hb.keysDistinct hdoc)

end Site

namespace Passes

variable {ps : Passes}

/-- A request of the draft of a request was left by the walk of a document that came back. -/
theorem mem_step {r u : Request} {d : Draft Request} (h : ps.step r = .ok d)
    (hu : u ∈ d.requests) :
    ∃ q answer doc writes, ps.resolver r.path q = .ok answer ∧ doc ∈ answer.items ∧
      Projection.draft ps.scope r.query.projection doc answer.fields = .ok writes ∧
        u ∈ Draft.requestsOfWrites writes := by
  unfold step at h
  split at h
  · rename_i id _
    obtain ⟨answer, hanswer, h⟩ := bind_eq_ok_iff.1 h
    obtain ⟨doc, hdoc, writes, hw, hu⟩ := Request.mem_resume h hu
    have honly : doc ∈ (answer.find? id).toList := Pick.mem_of_mem_documents hdoc
    rw [Option.mem_toList] at honly
    exact ⟨_, answer, doc, writes, hanswer, List.mem_of_find?_eq_some honly, hw, hu⟩
  · obtain ⟨answer, hanswer, h⟩ := bind_eq_ok_iff.1 h
    obtain ⟨doc, hdoc, writes, hw, hu⟩ := Request.mem_resume h hu
    exact ⟨_, answer, doc, writes, hanswer, Pick.mem_of_mem_documents hdoc, hw, hu⟩

/-- Answers need to be steady for ids without repeated keys only. -/
theorem steady_of_keysDistinct (hs : ps.resolver.SteadyOn Value.KeysDistinct)
    (hres : ps.resolver.KeysDistinct) : ps.Steady Value.KeysDistinct Request.KeysDistinct where
  answers := hs
  ids hr hid := hr _ hid
  closed := by
    intro r d _ hd u hu
    obtain ⟨q, answer, doc, writes, hanswer, hdoc, hw, hu⟩ := mem_step hd hu
    exact Site.keysDistinct_of_draft (hres hanswer doc hdoc) hw u hu

end Passes

end DocQuery
