import DocQuery.Evaluation.Direct
import DocQuery.Proofs.Answering
import Mathlib.Logic.Relation

/-!
# Where requests come from

Every request that the walk of a document leaves was made at the document itself or at one stored
inside it, for one of the selections that its projection stands for there.

* `Site.Inside` — the documents that a walk goes down to.
* `Site.Made` — the requests that are made at a document; `Value.Listed` — the ids that a list of
  references asks for.
* `Site.made_of_mem` — the walk leaves no others.
* `Site.writesOnce_of_outputNames` — no key is written twice where output names differ.
* `Site.depth_lt_of_made` — as long as no key is a connection, a request asks for fewer levels of
  projection than the projection it comes from has.
-/

set_option autoImplicit false

namespace DocQuery

/-! ## What a projection stands for -/

namespace Projection

theorem depth_cons (s : Selection) (p : Projection) :
    depth (s :: p) = max (depthBelow s + 1) (depth p) := by
  rw [depth]

theorem depthBelow_lt_of_mem {p : Projection} {s : Selection} (hs : s ∈ p) :
    depthBelow s < depth p := by
  induction p with
  | nil => cases hs
  | cons s' p ih =>
    rw [depth_cons]
    rcases List.mem_cons.1 hs with rfl | hs
    · omega
    · have := ih hs
      omega

theorem depthBelow_of_children {s : Selection} {children : Projection}
    (h : s.children = some children) : depthBelow s = depth children := by
  obtain ⟨name, shownAs, params, c⟩ := s
  subst h
  rw [depthBelow]

theorem depth_getD_children (s : Selection) : depth (s.children.getD []) = depthBelow s := by
  cases h : s.children with
  | none =>
    obtain ⟨name, shownAs, params, c⟩ := s
    subst h
    rw [depthBelow, Option.getD_none, depth]
  | some children => rw [depthBelow_of_children h, Option.getD_some]

/-- A projection that does not stand for any selections has more than one `*`. -/
theorem expand_eq_error {p : Projection} {doc : Document} {e : Error}
    (h : p.expand doc = .error e) :
    1 < p.countP (·.isWildcard) ∧ e = .inapplicable "only one * in projection allowed" := by
  unfold expand at h
  split at h
  · cases h
  · split at h
    · rename_i hmore
      cases h
      exact ⟨hmore, rfl⟩
    · cases h

/-- A selection that a projection stands for is one of its own, or a key of the document that it
does not name, as it is or with what is below a `*`. -/
theorem expand_cases {p : Projection} {doc : Document} {ss : Projection} (h : p.expand doc = .ok ss)
    {s : Selection} (hs : s ∈ ss) :
    (s ∈ p ∧ s.isWildcard = false) ∨ s.name ∈ Assoc.keys doc ∧ p.names s.name = false ∧
      (s = { name := s.name } ∨ ∃ star ∈ p, star.isWildcard = true ∧
        s = { name := s.name, children := star.children }) := by
  unfold expand at h
  split at h
  · rename_i hempty
    cases h
    obtain ⟨key, hkey, rfl⟩ := List.mem_map.1 hs
    refine .inr ⟨hkey, ?_, .inl rfl⟩
    rw [List.isEmpty_iff.1 hempty]
    rfl
  · split at h
    · cases h
    · cases h
      obtain ⟨star, hstar, hs⟩ := List.mem_flatMap.1 hs
      split at hs
      · rename_i hwild
        obtain ⟨key, hkey, rfl⟩ := List.mem_map.1 hs
        obtain ⟨hkey, hunnamed⟩ := List.mem_filter.1 hkey
        exact .inr ⟨hkey, by simpa using hunnamed, .inr ⟨star, hstar, hwild, rfl⟩⟩
      · rename_i hwild
        rw [List.mem_singleton.1 hs]
        exact .inl ⟨hstar, Bool.not_eq_true _ ▸ hwild⟩

/-- What is below a selection that a projection stands for is below one of its own or below a `*`,
if anything is. -/
theorem mem_expand {p : Projection} {doc : Document} {ss : Projection} (h : p.expand doc = .ok ss)
    {s : Selection} (hs : s ∈ ss) :
    (s ∈ p ∧ s.isWildcard = false) ∨ s.name ∈ Assoc.keys doc ∧
      (s.children = none ∨ ∃ star ∈ p, star.isWildcard = true ∧ s.children = star.children) := by
  rcases expand_cases h hs with hown | ⟨hkey, -, heq | ⟨star, hstar, hwild, heq⟩⟩
  · exact .inl hown
  · refine .inr ⟨hkey, .inl ?_⟩
    rw [heq]
  · refine .inr ⟨hkey, .inr ⟨star, hstar, hwild, ?_⟩⟩
    rw [heq]

/-- What is below a field has fewer levels. -/
theorem depth_children_lt {p : Projection} {doc : Document} {ss : Projection}
    (h : p.expand doc = .ok ss) {s : Selection} (hs : s ∈ ss) {children : Projection}
    (hc : s.children = some children) : depth children < depth p := by
  rcases mem_expand h hs with ⟨hs, -⟩ | ⟨-, hnone | ⟨star, hstar, -, hsame⟩⟩
  · rw [← depthBelow_of_children hc]
    exact depthBelow_lt_of_mem hs
  · rw [hnone] at hc
    cases hc
  · rw [hsame] at hc
    rw [← depthBelow_of_children hc]
    exact depthBelow_lt_of_mem hstar

variable [RegexEngine]

/-- A walk is that of the selections that the projection stands for. -/
theorem toOption_draft (scope : Scope) (p : Projection) (doc : Document) (fields : Schema) :
    (p.draft scope doc fields).toOption =
      (p.expand doc).toOption.bind fun ss =>
        (ss.mapM fun s => ((branch scope s).draft scope doc fields).toOption).map
          List.flatten := by
  unfold draft Branch.draftAll
  rw [expand_branches]
  cases p.expand doc with
  | error e => rfl
  | ok ss =>
    simp only [Except.map, toOption_monadBind, toOption_ok, Option.bind_some, toOption_mapM,
      List.mapM_map]
    exact Option.map_eq_bind.symm

/-- A walk that succeeds does so for every selection that the projection stands for. -/
theorem exists_parts_of_draft {scope : Scope} {p : Projection} {doc : Document} {fields : Schema}
    {writes : Draft.Writes Request} (h : p.draft scope doc fields = .ok writes) :
    ∃ (ss : Projection) (parts : List (Draft.Writes Request)), p.expand doc = .ok ss ∧
      writes = parts.flatten ∧
      ss.map (fun s => ((branch scope s).draft scope doc fields).toOption) = parts.map some := by
  have hwalk := congrArg Except.toOption h
  rw [toOption_draft, toOption_ok] at hwalk
  obtain ⟨ss, hss, hwalk⟩ := Option.bind_eq_some_iff.1 hwalk
  obtain ⟨parts, hparts, rfl⟩ := Option.map_eq_some_iff.1 hwalk
  exact ⟨ss, parts, toOption_eq_some_iff.1 hss, rfl, mapM_eq_some_iff.1 hparts⟩

end Projection

/-! ## The requests of a field -/

/-- An item of a list, or of a list in it. -/
inductive Value.Listed : Value → Value → Prop
  | item {items : List Value} {v : Value} (mem : v ∈ items) : Listed (.array items) v
  | within {items : List Value} {sub v : Value} (mem : sub ∈ items) (listed : Listed sub v) :
    Listed (.array items) v

/-- What the request of a connection asks for. -/
theorem Request.ofConnection_eq_ok [RegexEngine] {scope : Scope} {s : Selection} {f : Field}
    {path field target : String} {doc : Document} {r : Request}
    (h : ofConnection scope s f path field target doc = .ok r) :
    ∃ id filter order, Assoc.get? doc "id" = some id ∧
      filterOf s (scope.catalog.schema target) = .ok filter ∧ orderOf s = .ok order ∧
      r = ⟨path, ⟨s.children.getD [], .equal field id :: filter, order, windowOf scope s⟩, s.name,
        .ofSelection s (some f), .all⟩ := by
  unfold ofConnection connectionQuery at h
  split at h
  · cases h
  · rename_i id hid
    cases hfilter : filterOf s (scope.catalog.schema target) with
    | error e => rw [hfilter] at h; cases h
    | ok filter =>
      cases horder : orderOf s with
      | error e => rw [hfilter, horder] at h; cases h
      | ok order =>
        rw [hfilter, horder] at h
        exact ⟨id, filter, order, hid, rfl, rfl, (Except.ok.inj h).symm⟩

namespace Branch

variable [RegexEngine] {b : Branch (Draft Request)} {r : Request}

/-- A request that the walk of what is below a branch leaves. -/
def LeavesBelow (b : Branch (Draft Request)) (part : Document × Schema) (r : Request) : Prop :=
  ∃ writes, b.below part.1 part.2 = .ok writes ∧ r ∈ Draft.requestsOfWrites writes

theorem mem_draftDocument {f : Field} {fields : Schema} {v : Value} {d : Draft Request}
    (h : b.draftDocument f fields v = .ok d) (hr : r ∈ d.requests) :
    ∃ doc, v = .object doc ∧ b.LeavesBelow (doc, fields) r := by
  unfold draftDocument at h
  split at h
  · rename_i doc
    cases hw : b.below doc fields with
    | error e => rw [hw] at h; cases h
    | ok writes =>
      rw [hw] at h
      cases h
      exact ⟨doc, rfl, writes, hw, hr⟩
  · cases h

/-- A request of a list was left by one of its items. -/
theorem exists_item_of_mem {α : Type} {g : α → Except Error (Draft Request)} {items : List α}
    {d : Draft Request} (h : (items.mapM g).map Draft.list = .ok d) (hr : r ∈ d.requests) :
    ∃ item ∈ items, ∃ d', g item = .ok d' ∧ r ∈ d'.requests := by
  have h := congrArg Except.toOption h
  rw [toOption_map, toOption_mapM, toOption_ok, Option.map_eq_some_iff] at h
  obtain ⟨ds, hds, rfl⟩ := h
  rw [Draft.requests, Draft.requestsOfItems_eq_flatMap] at hr
  obtain ⟨d', hd', hr⟩ := List.mem_flatMap.1 hr
  have hmem : some d' ∈ items.map fun item => (g item).toOption :=
    mapM_eq_some_iff.1 hds ▸ List.mem_map_of_mem hd'
  obtain ⟨item, hitem, hg⟩ := List.mem_map.1 hmem
  exact ⟨item, hitem, d', toOption_eq_some_iff.1 hg, hr⟩

theorem mem_map_transformed {x : Except Error (Draft Request)} {t : Transform} {d : Draft Request}
    (h : x.map (Draft.transformed · t) = .ok d) (hr : r ∈ d.requests) :
    ∃ d', x = .ok d' ∧ r ∈ d'.requests := by
  cases x with
  | error e => cases h
  | ok d' =>
    cases h
    exact ⟨d', rfl, hr⟩

theorem mem_draftItems {children : Projection} {element : Field} {items : List Value}
    {d : Draft Request} (h : b.draftItems children element items = .ok d) (hr : r ∈ d.requests) :
    (∃ element path ids, (∀ id ∈ ids, (Value.array items).Listed id) ∧
        r = .ofReferences b.selection element path children ids) ∨
      ∃ part ∈ items.flatMap element.parts, b.LeavesBelow part r := by
  match element with
  | .mk capabilities (.object fields) =>
    rw [draftItems] at h
    obtain ⟨item, hitem, d', hd', hr⟩ := exists_item_of_mem h hr
    obtain ⟨doc, rfl, hbelow⟩ := mem_draftDocument hd' hr
    exact .inr ⟨(doc, fields), List.mem_flatMap.2 ⟨_, hitem, by simp⟩, hbelow⟩
  | .mk capabilities (.reference path target) =>
    rw [draftItems] at h
    simp only at h
    split at h
    · cases h
      cases hr
    · cases h
      refine .inl ⟨_, _, _, ?_, List.mem_singleton.1 hr⟩
      intro id hid
      exact .item (List.mem_filter.1 hid).1
  | .mk capabilities (.array inner) =>
    rw [draftItems] at h
    obtain ⟨item, hitem, d', hd', hr⟩ := exists_item_of_mem h hr
    split at hd'
    · rename_i sub
      obtain ⟨d'', hd'', hr⟩ := mem_map_transformed hd' hr
      rcases mem_draftItems hd'' hr with ⟨element, path, ids, hids, heq⟩ | ⟨part, hpart, hbelow⟩
      · exact .inl ⟨element, path, ids, fun id hid => .within hitem (hids id hid), heq⟩
      · refine .inr ⟨part, List.mem_flatMap.2 ⟨_, hitem, ?_⟩, hbelow⟩
        rw [Field.parts_array]
        exact hpart
    · cases hd'
  | .mk capabilities .scalar => cases h
  | .mk capabilities (.connection path field target) => cases h

/-- A request of a stored value is one for the id that it is, one for the ids in it, or one of a
document in it. -/
theorem mem_draftValue {f : Option Field} {v : Value} {d : Draft Request}
    (h : b.draftValue f v = .ok d) (hr : r ∈ d.requests) :
    ∃ f' children, f = some f' ∧ b.selection.children = some children ∧
      ((v.isNull = false ∧ ∃ path, r = .ofReference b.selection f' path children v) ∨
        (∃ element path ids, (∀ id ∈ ids, v.Listed id) ∧
          r = .ofReferences b.selection element path children ids) ∨
        ∃ part ∈ f'.parts v, b.LeavesBelow part r) := by
  have hwhole : ∀ {x : Except Error Value}, x.map Draft.value ≠ .ok d := by
    intro x hx
    cases x with
    | error e => cases hx
    | ok v' =>
      cases hx
      cases hr
  unfold draftValue at h
  split at h
  · exact absurd h hwhole
  · rename_i children hc
    split at h
    · exact absurd h hwhole
    · rename_i hnull
      split at h
      · cases h
      · rename_i f'
        refine ⟨f', children, rfl, hc, ?_⟩
        unfold draftChildren at h
        obtain ⟨capabilities, kind⟩ := f'
        cases kind with
        | scalar => cases h
        | object fields =>
          obtain ⟨doc, rfl, hbelow⟩ := mem_draftDocument h hr
          exact .inr (.inr ⟨(doc, fields), by simp, hbelow⟩)
        | array element =>
          simp only [Field.kind] at h
          split at h
          · obtain ⟨d', hd', hr⟩ := mem_map_transformed h hr
            rcases mem_draftItems hd' hr with hmade | ⟨part, hpart, hbelow⟩
            · exact .inr (.inl hmade)
            · rw [Field.parts_array]
              exact .inr (.inr ⟨part, hpart, hbelow⟩)
          · cases h
        | reference path target =>
          cases h
          exact .inl ⟨by simpa using hnull, _, List.mem_singleton.1 hr⟩
        | connection path field target => cases h

/-- A request of a selection is one of a stored value or that of a connection. -/
theorem mem_draft {scope : Scope} {doc : Document} {fields : Schema} {writes : Draft.Writes Request}
    (h : b.draft scope doc fields = .ok writes) (hr : r ∈ Draft.requestsOfWrites writes) :
    ∃ f, Schema.lookup fields b.selection.name = some f ∧ f.hidden = false ∧
      ((∃ path field target, f.kind = .connection path field target ∧
          Request.ofConnection scope b.selection f path field target doc = .ok r) ∨
        ∃ v d, Assoc.get? doc b.selection.name = some v ∧ b.draftValue (some f) v = .ok d ∧
          r ∈ d.requests) := by
  have hstored : ∀ {f : Option Field}, b.draftStored f doc = .ok writes →
      ∃ v d, Assoc.get? doc b.selection.name = some v ∧ b.draftValue f v = .ok d ∧
        r ∈ d.requests := by
    intro f h
    rcases b.draftStored_cases f doc with ⟨-, heq⟩ | ⟨v, hv, heq⟩
    · cases heq.symm.trans h
      cases hr
    · obtain ⟨d, hd, rfl⟩ := map_eq_ok_iff.1 (heq.symm.trans h)
      exact ⟨v, d, hv, hd, by simpa [Draft.requestsOfWrites] using hr⟩
  rcases draft_cases scope b fields with
    ⟨-, heq⟩ | ⟨f, hf, ⟨-, heq⟩ | ⟨hhidden, ⟨path, field, target, hkind, heq⟩ | ⟨-, heq⟩⟩⟩ <;>
    rw [heq] at h
  · obtain ⟨v, d, -, hd, hr⟩ := hstored h
    obtain ⟨f', -, hf', -⟩ := mem_draftValue hd hr
    cases hf'
  · cases h
    cases hr
  · refine ⟨f, hf, hhidden, .inl ⟨path, field, target, hkind, ?_⟩⟩
    obtain ⟨made, hmade, rfl⟩ := map_eq_ok_iff.1 h
    rw [show r = made by simpa [Draft.requestsOfWrites, Draft.requests] using hr]
    exact hmade
  · exact ⟨f, hf, hhidden, .inr (hstored h)⟩

/-- A selection writes nothing, or one entry under its output name. -/
theorem keys_draft_sublist {scope : Scope} {doc : Document} {fields : Schema}
    {writes : Draft.Writes Request} (h : b.draft scope doc fields = .ok writes) :
    (writes.map Prod.fst).Sublist [b.selection.outputName] := by
  have hstored : ∀ {f : Option Field}, b.draftStored f doc = .ok writes →
      (writes.map Prod.fst).Sublist [b.selection.outputName] := by
    intro f h
    rcases b.draftStored_cases f doc with ⟨-, heq⟩ | ⟨v, -, heq⟩
    · cases heq.symm.trans h
      exact List.nil_sublist _
    · obtain ⟨d, -, rfl⟩ := map_eq_ok_iff.1 (heq.symm.trans h)
      exact List.Sublist.refl _
  rcases draft_cases scope b fields with
    ⟨-, heq⟩ | ⟨f, -, ⟨-, heq⟩ | ⟨-, ⟨_, _, _, -, heq⟩ | ⟨-, heq⟩⟩⟩ <;> rw [heq] at h
  · exact hstored h
  · cases h
    exact List.nil_sublist _
  · obtain ⟨r, -, rfl⟩ := map_eq_ok_iff.1 h
    exact List.Sublist.refl _
  · exact hstored h

end Branch

/-! ## The requests of an answer -/

theorem Pick.mem_of_mem_documents {pick : Pick} {answer : Resolved} {doc : Document}
    (h : doc ∈ pick.documents answer) : doc ∈ answer.items := by
  cases pick with
  | first => exact List.mem_of_mem_take h
  | each ids =>
    obtain ⟨id, -, hid⟩ := List.mem_filterMap.1 h
    exact List.mem_of_find?_eq_some hid
  | all => exact h

/-- A request of the draft that takes the place of a request was left by the walk of one of the
documents that it shows. -/
theorem Request.mem_resume [RegexEngine]
    {draft : Projection → Document → Schema → Except Error (Draft.Writes Request)}
    {r u : Request} {answer : Resolved} {d : Draft Request} (h : r.resume draft answer = .ok d)
    (hu : u ∈ d.requests) :
    ∃ doc ∈ r.pick.documents answer, ∃ writes,
      draft r.query.projection doc answer.fields = .ok writes ∧
        u ∈ Draft.requestsOfWrites writes := by
  have hitem : ∀ {doc d'}, (underField r.field (draft r.query.projection doc answer.fields)).map
      Draft.document = .ok d' → u ∈ d'.requests → ∃ writes,
        draft r.query.projection doc answer.fields = .ok writes ∧
          u ∈ Draft.requestsOfWrites writes := by
    intro doc d' hd hu
    cases hw : draft r.query.projection doc answer.fields with
    | error e => rw [hw] at hd; cases hd
    | ok writes =>
      rw [hw] at hd
      cases hd
      exact ⟨writes, rfl, hu⟩
  unfold Request.resume at h
  cases hpick : r.pick with
  | first =>
    simp only [hpick] at h
    split at h
    · cases h
      cases hu
    · rename_i doc docs hitems
      obtain ⟨d', hd', hu⟩ := Branch.mem_map_transformed h hu
      exact ⟨doc, by simp [Pick.documents, hitems], hitem hd' hu⟩
  | each ids =>
    simp only [hpick] at h
    obtain ⟨doc, hdoc, d', hd', hu⟩ := Branch.exists_item_of_mem h hu
    obtain ⟨d'', hd'', hu⟩ := Branch.mem_map_transformed hd' hu
    exact ⟨doc, hdoc, hitem hd'' hu⟩
  | all =>
    simp only [hpick] at h
    have hlist : ∃ d', (answer.items.mapM fun doc =>
        (underField r.field (draft r.query.projection doc answer.fields)).map
          Draft.document).map Draft.list = .ok d' ∧ u ∈ d'.requests := by
      cases hdocs : answer.items.mapM fun doc =>
        (underField r.field (draft r.query.projection doc answer.fields)).map Draft.document with
      | error e => rw [hdocs] at h; cases h
      | ok docs =>
        rw [hdocs] at h
        cases h
        exact ⟨_, rfl, hu⟩
    obtain ⟨d', hd', hu⟩ := hlist
    obtain ⟨doc, hdoc, d'', hd'', hu⟩ := Branch.exists_item_of_mem hd' hu
    exact ⟨doc, hdoc, hitem hd'' hu⟩

/-! ## The requests of a walk -/

namespace Site

variable [RegexEngine] {scope : Scope} {a b : Site} {r : Request}

/-- The sites that evaluation goes down to from a site without asking for anything. -/
abbrev Inside : Site → Site → Prop := Relation.ReflTransGen Part

theorem Inside.reaches {resolver : Resolver} (h : Inside a b) : Reaches scope resolver a b := by
  induction h with
  | refl => exact .self
  | tail _ hpart ih => exact .part ih hpart

theorem Reaches.trans {resolver : Resolver} {c : Site} (hab : Reaches scope resolver a b)
    (hbc : Reaches scope resolver b c) : Reaches scope resolver a c := by
  induction hbc with
  | self => exact hab
  | part _ hpart ih => exact .part ih hpart
  | answer _ hanswer ih => exact .answer ih hanswer

/-- The requests that a selection at a site makes. -/
inductive Made (scope : Scope) (a : Site) : Request → Prop
  | reference {ss : Projection} {s : Selection} {f : Field} {path : String}
    {children : Projection} {id : Value} (expanded : a.projection.expand a.doc = .ok ss)
    (selected : s ∈ ss) (below : s.children = some children)
    (stored : Assoc.get? a.doc s.name = some id) (present : id.isNull = false) :
    Made scope a (.ofReference s f path children id)
  | references {ss : Projection} {s : Selection} {element : Field} {path : String}
    {children : Projection} {v : Value} {ids : List Value}
    (expanded : a.projection.expand a.doc = .ok ss) (selected : s ∈ ss)
    (below : s.children = some children) (stored : Assoc.get? a.doc s.name = some v)
    (listed : ∀ id ∈ ids, v.Listed id) :
    Made scope a (.ofReferences s element path children ids)
  | connection {ss : Projection} {s : Selection} {f : Field} {path field target : String}
    {r : Request} (expanded : a.projection.expand a.doc = .ok ss) (selected : s ∈ ss)
    (declared : Schema.lookup a.fields s.name = some f)
    (kind : f.kind = .connection path field target)
    (made : Request.ofConnection scope s f path field target a.doc = .ok r) : Made scope a r

omit [RegexEngine] in
theorem Part.depth_lt (h : Part a b) :
    Projection.depth b.projection < Projection.depth a.projection := by
  cases h with
  | intro expanded selected _ _ _ below _ =>
    exact Projection.depth_children_lt expanded selected below

omit [RegexEngine] in
theorem Inside.depth_le (h : Inside a b) :
    Projection.depth b.projection ≤ Projection.depth a.projection := by
  induction h with
  | refl => exact Nat.le_refl _
  | tail _ hpart ih =>
    have hlt := hpart.depth_lt
    omega

/-- **A walk leaves only requests that were made** at its document or at one inside it. -/
theorem made_of_mem {p : Projection} {doc : Document} {fields : Schema}
    {writes : Draft.Writes Request} (h : p.draft scope doc fields = .ok writes)
    (hr : r ∈ Draft.requestsOfWrites writes) :
    ∃ b, Inside ⟨p, doc, fields⟩ b ∧ Made scope b r := by
  induction hn : Projection.depth p using Nat.strongRecOn generalizing p doc fields writes with
  | ind n ih =>
    obtain ⟨ss, parts, hss, rfl, hparts⟩ := Projection.exists_parts_of_draft h
    obtain ⟨own, hown, hr⟩ := Draft.mem_requestsOfWrites_flatten.1 hr
    have hmem : some own ∈ ss.map fun s =>
        ((Projection.branch scope s).draft scope doc fields).toOption :=
      hparts ▸ List.mem_map_of_mem hown
    obtain ⟨s, hs, hd⟩ := List.mem_map.1 hmem
    obtain ⟨f, hf, hhidden, hfrom⟩ := Branch.mem_draft (toOption_eq_some_iff.1 hd) hr
    rw [Projection.branch_selection] at hf hfrom
    rcases hfrom with ⟨path, field, target, hkind, hmade⟩ | ⟨v, d, hv, hd, hr⟩
    · exact ⟨_, .refl, .connection hss hs hf hkind hmade⟩
    · obtain ⟨f', children, hf', hc, hfrom⟩ := Branch.mem_draftValue hd hr
      cases hf'
      rw [Projection.branch_selection] at hc hfrom
      rcases hfrom with ⟨hnull, path, rfl⟩ | ⟨element, path, ids, hids, rfl⟩ |
        ⟨part, hpart, hbelow⟩
      · exact ⟨_, .refl, .reference hss hs hc hv hnull⟩
      · exact ⟨_, .refl, .references hss hs hc hv hids⟩
      · -- The request was left further inside, where the projection is less deep.
        obtain ⟨doc', fields'⟩ := part
        obtain ⟨writes', hwrites', hr⟩ := hbelow
        have hsite : Part ⟨p, doc, fields⟩ ⟨children, doc', fields'⟩ :=
          .intro hss hs hf hhidden hv hc hpart
        rw [Projection.branch_below scope hc] at hwrites'
        obtain ⟨b, hb, hmade⟩ := ih _ (hn ▸ hsite.depth_lt) hwrites' hr rfl
        exact ⟨b, .head hsite hb, hmade⟩

theorem keys_flatten_sublist {doc : Document} {fields : Schema} {ss : Projection}
    {parts : List (Draft.Writes Request)}
    (h : ss.map (fun s => ((Projection.branch scope s).draft scope doc fields).toOption) =
      parts.map some) :
    (parts.flatten.map Prod.fst).Sublist (ss.map Selection.outputName) := by
  induction ss generalizing parts with
  | nil =>
    cases parts with
    | nil => exact List.Sublist.refl _
    | cons own parts => cases h
  | cons s ss ih =>
    cases parts with
    | nil => cases h
    | cons own parts =>
      rw [List.map_cons, List.map_cons, List.cons.injEq] at h
      obtain ⟨hown, hrest⟩ := h
      have hkeys := Branch.keys_draft_sublist (toOption_eq_some_iff.1 hown)
      rw [Projection.branch_selection] at hkeys
      rw [List.flatten_cons, List.map_append, List.map_cons]
      exact hkeys.append (ih hrest)

/-- Where the selections of a projection have different output names, no key is written twice. -/
theorem writesOnce_of_outputNames
    (h : ∀ ss, a.projection.expand a.doc = .ok ss → (ss.map Selection.outputName).Nodup) :
    a.WritesOnce scope := by
  intro writes hw
  obtain ⟨ss, parts, hss, rfl, hparts⟩ := Projection.exists_parts_of_draft hw
  exact (h ss hss).sublist (keys_flatten_sublist hparts)

/-- A request asks for fewer levels of projection, unless a key of the document makes it. -/
theorem depth_lt_of_made (ha : a.StoresNoConnection) (h : Made scope a r) :
    Projection.depth r.query.projection < Projection.depth a.projection := by
  cases h with
  | reference expanded selected below _ _ =>
    exact Projection.depth_children_lt expanded selected below
  | references expanded selected below _ _ =>
    exact Projection.depth_children_lt expanded selected below
  | @connection ss s f path field target r expanded selected declared kind made =>
    rcases Projection.mem_expand expanded selected with ⟨hs, -⟩ | ⟨hkey, -⟩
    · obtain ⟨id, filter, order, -, -, -, rfl⟩ := Request.ofConnection_eq_ok made
      show Projection.depth (s.children.getD []) < _
      rw [Projection.depth_getD_children]
      exact Projection.depthBelow_lt_of_mem hs
    · exact absurd kind (ha _ hkey f declared path field target)

end Site

end DocQuery
