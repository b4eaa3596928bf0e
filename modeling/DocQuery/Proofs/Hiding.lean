import DocQuery.Evaluation.Evaluator
import DocQuery.Pattern.Engine
import DocQuery.Proofs.Requests
import DocQuery.Schema.Hidden

/-!
# Hidden fields do not reach the output

Two documents of which the same may be shown are evaluated alike, where every field that hides
something is given a projection of its own. A field that is shown whole is copied as it is stored,
with what is hidden inside.

* `Site.ShowsOpenly` — whatever is shown whole hides nothing.
* `Branch.draft_eq_of_reveal` — one selection; `Projection.draft_eq_of_reveal` — the walk.
* `Evaluator.eval_eq_of_reveal` — two evaluations, with their lookups and events.
* `Bookshelf.eval_shows_hidden` — what is hidden inside a field that is shown whole is shown.
-/

set_option autoImplicit false

namespace DocQuery

/-- Every field that is shown whole, of the document or of those inside, hides nothing. -/
def Site.ShowsOpenly (a : Site) : Prop :=
  ∀ {b}, Inside a b → ∀ {ss s f}, b.projection.expand b.doc = .ok ss → s ∈ ss → s.children = none →
    s.name ∈ Assoc.keys b.doc → Schema.lookup b.fields s.name = some f → f.hidden = false →
      f.hidesNothing = true

/-! ## Two values -/

namespace Field

variable {capabilities : Capabilities} {v v' : Value}

/-- Values of a field that hides nothing are revealed as they are. -/
theorem eq_of_reveal_eq {f : Field} (hf : f.hidesNothing = true) (h : f.reveal v = f.reveal v') :
    v = v' := by
  rwa [reveal_of_hidesNothing hf, reveal_of_hidesNothing hf] at h

theorem object_of_reveal_eq {fields : Schema}
    (h : (mk capabilities (.object fields)).reveal v =
      (mk capabilities (.object fields)).reveal v') :
    v = v' ∨ ∃ doc doc', v = .object doc ∧ v' = .object doc' ∧
      fields.reveal doc = fields.reveal doc' := by
  cases v with
  | object doc =>
    cases v' with
    | object doc' => exact .inr ⟨doc, doc', rfl, rfl, Value.object.inj h⟩
    | _ => exact nomatch h
  | _ =>
    cases v' with
    | object doc' => exact nomatch h
    | _ => exact .inl h

theorem array_of_reveal_eq {element : Field}
    (h : (mk capabilities (.array element)).reveal v =
      (mk capabilities (.array element)).reveal v') :
    v = v' ∨ ∃ items items', v = .array items ∧ v' = .array items' ∧
      items.map element.reveal = items'.map element.reveal := by
  cases v with
  | array items =>
    cases v' with
    | array items' =>
      refine .inr ⟨items, items', rfl, rfl, ?_⟩
      rw [← revealItems_eq_map, ← revealItems_eq_map]
      exact Value.array.inj h
    | _ => exact nomatch h
  | _ =>
    cases v' with
    | array items' => exact nomatch h
    | _ => exact .inl h

end Field

namespace Branch

variable [RegexEngine] {b : Branch (Draft Request)} {v v' : Value}

/-- What is below a branch does not tell two documents apart of which the same may be shown. -/
def BlindBelow (b : Branch (Draft Request)) (part : Document × Schema) : Prop :=
  ∀ doc', part.2.reveal part.1 = part.2.reveal doc' → b.below part.1 part.2 = b.below doc' part.2

theorem draftDocument_eq_of_reveal {capabilities : Capabilities} {fields : Schema}
    (h : (Field.mk capabilities (.object fields)).reveal v =
      (Field.mk capabilities (.object fields)).reveal v')
    (hbelow : ∀ part ∈ (Field.mk capabilities (.object fields)).parts v, b.BlindBelow part) :
    b.draftDocument (.mk capabilities (.object fields)) fields v =
      b.draftDocument (.mk capabilities (.object fields)) fields v' := by
  rcases Field.object_of_reveal_eq h with rfl | ⟨doc, doc', rfl, rfl, hreveal⟩
  · rfl
  · rw [draftDocument, draftDocument, hbelow (doc, fields) (by simp) doc' hreveal]

theorem draftItems_eq_of_reveal {children : Projection} {element : Field}
    {items items' : List Value} (h : items.map element.reveal = items'.map element.reveal)
    (hbelow : ∀ part ∈ items.flatMap element.parts, b.BlindBelow part) :
    b.draftItems children element items = b.draftItems children element items' := by
  have hitem : ∀ item ∈ items, ∀ part ∈ element.parts item, b.BlindBelow part :=
    fun item hitem part hpart => hbelow part (List.mem_flatMap.2 ⟨item, hitem, hpart⟩)
  match element with
  | .mk capabilities (.object fields) =>
    rw [draftItems, draftItems]
    refine congrArg (Except.map Draft.list) (mapM_eq_of_map_eq h fun v hv v' hreveal => ?_)
    exact draftDocument_eq_of_reveal hreveal (hitem v hv)
  | .mk capabilities (.reference path target) =>
    rw [(List.map_inj_right fun _ _ => Field.eq_of_reveal_eq rfl).1 h]
  | .mk capabilities (.array inner) =>
    rw [draftItems, draftItems]
    refine congrArg (Except.map Draft.list) (mapM_eq_of_map_eq h fun v hv v' hreveal => ?_)
    rcases Field.array_of_reveal_eq hreveal with rfl | ⟨sub, sub', rfl, rfl, hsub⟩
    · rfl
    · have hparts := hitem _ hv
      rw [Field.parts_array] at hparts
      exact congrArg (Except.map _) (draftItems_eq_of_reveal hsub hparts)
  | .mk capabilities .scalar => rfl
  | .mk capabilities (.connection path field target) => rfl

theorem draftChildren_eq_of_reveal {children : Projection} {f : Field}
    (h : f.reveal v = f.reveal v') (hbelow : ∀ part ∈ f.parts v, b.BlindBelow part) :
    b.draftChildren children f v = b.draftChildren children f v' := by
  obtain ⟨capabilities, kind⟩ := f
  cases kind with
  | object fields => exact draftDocument_eq_of_reveal h hbelow
  | array element =>
    rcases Field.array_of_reveal_eq h with rfl | ⟨items, items', rfl, rfl, hitems⟩
    · rfl
    · rw [Field.parts_array] at hbelow
      exact congrArg (Except.map _) (draftItems_eq_of_reveal hitems hbelow)
  | _ => rw [Field.eq_of_reveal_eq rfl h]

/-- What is shown of a stored value does not depend on what is hidden inside. -/
theorem draftValue_eq_of_reveal {f : Field} (h : f.reveal v = f.reveal v')
    (hwhole : b.selection.children = none → f.hidesNothing = true)
    (hbelow : b.selection.children ≠ none → ∀ part ∈ f.parts v, b.BlindBelow part) :
    b.draftValue (some f) v = b.draftValue (some f) v' := by
  cases hc : b.selection.children with
  | none => rw [Field.eq_of_reveal_eq (hwhole hc) h]
  | some children =>
    have hnull : v.isNull = v'.isNull := by
      rw [← f.isNull_reveal v, h, f.isNull_reveal]
    have hbelow := hbelow (by rw [hc]; exact nofun)
    unfold draftValue
    simp only [hc]
    cases hv : v.isNull with
    | true =>
      rw [hv] at hnull
      cases v <;> cases hv
      cases v' <;> cases hnull
      rfl
    | false =>
      rw [hv] at hnull
      rw [← hnull]
      exact draftChildren_eq_of_reveal h hbelow

variable {scope : Scope} {doc doc' : Document} {fields : Schema}

theorem draftStored_eq_of_get? {f : Option Field}
    (h : ∀ v, Assoc.get? doc b.selection.name = some v →
      ∃ v', Assoc.get? doc' b.selection.name = some v' ∧ b.draftValue f v = b.draftValue f v')
    (hnone : Assoc.get? doc b.selection.name = none → Assoc.get? doc' b.selection.name = none) :
    b.draftStored f doc = b.draftStored f doc' := by
  unfold draftStored
  cases hv : Assoc.get? doc b.selection.name with
  | none => rw [hnone hv]
  | some v =>
    obtain ⟨v', hv', hdraft⟩ := h v hv
    rw [hv']
    exact congrArg (Except.map _) hdraft

/-- **What a selection writes does not depend on what is hidden.** -/
theorem draft_eq_of_reveal (h : fields.reveal doc = fields.reveal doc')
    (hwhole : ∀ {f}, Schema.lookup fields b.selection.name = some f → f.hidden = false →
      b.selection.name ∈ Assoc.keys doc → b.selection.children = none → f.hidesNothing = true)
    (hbelow : ∀ {f v}, Schema.lookup fields b.selection.name = some f → f.hidden = false →
      Assoc.get? doc b.selection.name = some v → b.selection.children ≠ none →
        ∀ part ∈ f.parts v, b.BlindBelow part) :
    b.draft scope doc fields = b.draft scope doc' fields := by
  have hget : ∀ key, (Assoc.get? doc key).map (fields.revealAt key) =
      (Assoc.get? doc' key).map (fields.revealAt key) := by
    intro key
    rw [← Schema.get?_reveal, h, Schema.get?_reveal]
  have hsame : ∀ {key}, (∀ v, fields.revealAt key v = v) →
      Assoc.get? doc key = Assoc.get? doc' key := by
    intro key hkey
    have hkey' : fields.revealAt key = id := funext hkey
    simpa [hkey'] using hget key
  have hid := hsame (Schema.revealAt_id fields)
  rcases draft_cases scope b fields with ⟨hf, heq⟩ | ⟨f, hf, ⟨-, heq⟩ | ⟨hhidden,
    ⟨path, field, target, -, heq⟩ | ⟨-, heq⟩⟩⟩ <;> rw [heq, heq]
  · rw [draftStored, draftStored, hsame fun v => Schema.revealAt_of_unknown (v := v) hf]
  · rw [Request.ofConnection, Request.ofConnection, hid]
  -- Revealing keeps an `id` whole, for the lookups that join on it.
  · by_cases hname : b.selection.name = "id"
    · rw [draftStored, draftStored, hname, hid]
    · have hreveal := hget b.selection.name
      refine draftStored_eq_of_get? (fun v hv => ?_) fun hv => ?_
      · rw [hv, Option.map_some, eq_comm, Option.map_eq_some_iff] at hreveal
        obtain ⟨v', hv', hreveal⟩ := hreveal
        rw [Schema.revealAt_of_visible hname hf hhidden,
          Schema.revealAt_of_visible hname hf hhidden] at hreveal
        have hkey : b.selection.name ∈ Assoc.keys doc :=
          (Assoc.get?_isSome_iff doc _).1 (by rw [hv]; rfl)
        exact ⟨v', hv', draftValue_eq_of_reveal hreveal.symm (hwhole hf hhidden hkey)
          (hbelow hf hhidden hv)⟩
      · rw [hv, Option.map_none, eq_comm, Option.map_eq_none_iff] at hreveal
        exact hreveal

end Branch

theorem Site.ShowsOpenly.inside {a b : Site} (ha : a.ShowsOpenly) (h : Inside a b) :
    b.ShowsOpenly :=
  fun hc => ha (h.trans hc)

namespace Projection

variable {scope : Scope} {p : Projection} {doc doc' : Document} {fields : Schema}

theorem expand_eq_of_keys_eq (h : Assoc.keys doc = Assoc.keys doc') :
    p.expand doc = p.expand doc' := by
  unfold expand
  rw [h]

variable [RegexEngine]

/-- **The walk of a document does not see what is hidden** where nothing that hides something is
shown whole. -/
theorem draft_eq_of_reveal (h : fields.reveal doc = fields.reveal doc')
    (hopen : Site.ShowsOpenly ⟨p, doc, fields⟩) :
    p.draft scope doc fields = p.draft scope doc' fields := by
  induction hn : Projection.depth p using Nat.strongRecOn generalizing p doc doc' fields with
  | ind n ih =>
    have hkeys : Assoc.keys doc = Assoc.keys doc' := by
      rw [← fields.keys_reveal doc, h, fields.keys_reveal]
    have hexpand := expand_eq_of_keys_eq (p := p) hkeys
    cases hss : p.expand doc with
    | error e => rw [draft_of_expand_error hss, draft_of_expand_error (hexpand ▸ hss)]
    | ok ss =>
      rw [draft_of_expand hss, draft_of_expand (hexpand ▸ hss)]
      refine congrArg (Except.map List.flatten) ?_
      refine mapM_congr fun s hs => ?_
      apply Branch.draft_eq_of_reveal h
      · intro f hf hhidden hkey hc
        rw [branch_selection] at hf hkey hc
        exact hopen .refl hss hs hc hkey hf hhidden
      · intro f v hf hhidden hv hc part hpart doc'' hreveal
        rw [branch_selection] at hf hv hc
        obtain ⟨children, hc⟩ := Option.ne_none_iff_exists'.1 hc
        rw [branch_below scope hc]
        have hsite : Site.Part ⟨p, doc, fields⟩ ⟨children, part.1, part.2⟩ :=
          .intro hss hs hf hhidden hv hc hpart
        exact ih _ (hn ▸ hsite.depth_lt) hreveal (hopen.inside (.single hsite)) rfl

end Projection

namespace Evaluator

variable [RegexEngine] (e : Evaluator) (catalog : Catalog) (resolver : Resolver) (p : Projection)
  (fields : Schema) (doc doc' : Document)

/-- **Hidden fields do not reach the output**, nor the lookups and the events: two documents of
which the same may be shown are evaluated alike where every field that hides something inside is
given a projection of its own. -/
theorem eval_eq_of_reveal (h : fields.reveal doc = fields.reveal doc')
    (hopen : Site.ShowsOpenly ⟨p, doc, fields⟩) :
    e.eval catalog resolver p fields doc = e.eval catalog resolver p fields doc' := by
  have hdraft : p.draft (e.passes catalog resolver).scope doc fields =
      p.draft (e.passes catalog resolver).scope doc' fields :=
    Projection.draft_eq_of_reveal h hopen
  unfold eval evalWithin
  simp only [hdraft]

end Evaluator

/-! ## A document with a secret -/

namespace Bookshelf

/-- The fields of `meta`; what is secret is hidden. -/
def metaFields : Schema := [("lang", .mk { } .scalar), ("secret", .mk { hidden := true } .scalar)]

def recordFields : Schema := [("meta", .mk { } (.object metaFields))]

def metaWith (secret : String) : Document := [("lang", .string "en"), ("secret", .string secret)]

def record (secret : String) : Document := [("meta", .object (metaWith secret))]

/-- Nothing is ever found. -/
def nowhere : Resolver := fun _ _ => .error (.internal "nothing to ask for")

/-- `meta` with a projection of its own. -/
def metaLang : Projection := [{ name := "meta", children := some [{ name := "lang" }] }]

theorem showsOpenly_record (secret : String) :
    Site.ShowsOpenly ⟨metaLang, record secret, recordFields⟩ := by
  intro b hb ss s f hss hs hc hkey hf hhidden
  rcases hb.cases_head with rfl | ⟨c, hpart, hb⟩
  · cases hss
    cases List.mem_singleton.1 hs
    cases hc
  · obtain ⟨hexpanded, hselected, hdeclared, -, hstored, hbelow, hin⟩ := hpart
    cases hexpanded
    cases List.mem_singleton.1 hselected
    cases hdeclared
    cases hstored
    cases hbelow
    rw [Field.parts_object, List.mem_singleton] at hin
    cases hin
    rcases hb.cases_head with rfl | ⟨d, hpart, -⟩
    · cases hss
      cases List.mem_singleton.1 hs
      cases hf
      rfl
    · obtain ⟨hexpanded, hselected, -, -, -, hbelow, -⟩ := hpart
      cases hexpanded
      cases List.mem_singleton.1 hselected
      cases hbelow

/-- What is secret in `meta` is not shown where `meta` has a projection of its own. -/
theorem eval_metaLang :
    ({ } : Evaluator).eval [] nowhere metaLang recordFields (record "s1") =
        ({ } : Evaluator).eval [] nowhere metaLang recordFields (record "s2") ∧
      (({ } : Evaluator).eval [] nowhere metaLang recordFields (record "s1")).result =
        .ok [("meta", .object [("lang", .string "en")])] :=
  ⟨Evaluator.eval_eq_of_reveal { } [] nowhere metaLang recordFields (record "s1") (record "s2")
    (by rfl) (showsOpenly_record "s1"), by rfl⟩

/-- **What is hidden inside a field that is shown whole is shown**: of two documents the same may be
shown, and yet they are evaluated to different ones. -/
theorem eval_shows_hidden :
    recordFields.reveal (record "s1") = recordFields.reveal (record "s2") ∧
      (({ } : Evaluator).eval [] nowhere [{ name := "meta" }] recordFields (record "s1")).result ≠
        (({ } : Evaluator).eval [] nowhere [{ name := "meta" }] recordFields
          (record "s2")).result := by
  have heval : ∀ secret, (({ } : Evaluator).eval [] nowhere [{ name := "meta" }] recordFields
      (record secret)).result = .ok (record secret) := fun _ => rfl
  refine ⟨rfl, ?_⟩
  rw [heval, heval]
  simp [record, metaWith]

end Bookshelf

end DocQuery
