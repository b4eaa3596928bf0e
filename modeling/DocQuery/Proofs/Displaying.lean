import DocQuery.Proofs.Requests

/-!
# The walk of a document, drafted and displayed

The walk that drafts a document and the walk that displays it meet the same fields in the same
order. If the requests come to the same values, so do the walks.

* `Draft.outcome` — the value of a draft whose requests are answered.
* `Draft.outcomeOfWrites_eq` — the document of a draft is that of its entries, as long as no key is
  written twice.
* `Branch.toOption_displayItems`, `Branch.toOption_display` — the two walks of a field.
* `Projection.toOption_display` — the two walks of a projection.
-/

set_option autoImplicit false

namespace DocQuery

namespace Draft

variable {ρ : Type} (ask : ρ → Except Error (Draft Empty))

/-- The value of a draft whose requests are answered by `ask`. -/
def outcome (d : Draft ρ) : Option Value :=
  (d.traverse ask).toOption.bind fun e => e.render.toOption

/-- The document of a draft whose requests are answered by `ask`. -/
def outcomeOfWrites (writes : Writes ρ) : Option Document :=
  (traverseWrites ask writes).toOption.bind fun es => (renderDocument es).toOption

/-- The entries of a draft, one by one. -/
def outcomeOfEntries (writes : Writes ρ) : Option Document :=
  writes.mapM fun w => (outcome ask w.2).map fun v => (w.1, v)

@[simp] theorem outcome_document (writes : Writes ρ) :
    outcome ask (document writes) = (outcomeOfWrites ask writes).map .object := by
  rw [outcome, outcomeOfWrites, traverse, toOption_map, Option.bind_map, Option.map_bind]
  exact Option.bind_congr fun es _ => toOption_map _ _

@[simp] theorem outcome_list (items : List (Draft ρ)) :
    outcome ask (list items) = (items.mapM (outcome ask)).map .array := by
  unfold outcome
  rw [traverse, toOption_map, toOption_traverseItems, Option.bind_map, ← mapM_bind_mapM,
    Option.map_bind]
  exact Option.bind_congr fun es _ => toOption_render_list es

@[simp] theorem outcome_pending (r : ρ) :
    outcome ask (pending r) = (ask r).toOption.bind fun e => e.render.toOption := rfl

@[simp] theorem outcome_transformed (d : Draft ρ) (t : Transform) :
    outcome ask (transformed d t) = (outcome ask d).bind fun v => (t.apply v).toOption := by
  rw [outcome, outcome, traverse, toOption_map, Option.bind_map, Option.bind_assoc]
  exact Option.bind_congr fun e _ => toOption_bind _ _

/-- As long as no key is written twice, the document of a draft is that of its entries. -/
theorem outcomeOfWrites_eq {writes : Writes ρ} (h : (writes.map Prod.fst).Nodup) :
    outcomeOfWrites ask writes = outcomeOfEntries ask writes := by
  have hkeys : ∀ es, (traverseWrites ask writes).toOption = some es →
      es.map Prod.fst = writes.map Prod.fst := by
    intro es hes
    obtain ⟨-, rfl⟩ := (traverseWrites_eq_some_iff ask writes es).1 hes
    rw [bindWrites_eq_map, List.map_map]
    rfl
  calc outcomeOfWrites ask writes
      = (traverseWrites ask writes).toOption.bind fun es =>
          es.mapM fun w => w.2.render.toOption.map fun v => (w.1, v) :=
        Option.bind_congr fun es hes => toOption_renderDocument (hkeys es hes ▸ h)
    _ = outcomeOfEntries ask writes := by
        rw [toOption_traverseWrites, mapM_bind_mapM]
        apply mapM_congr
        intro w _
        rw [outcome, Option.bind_map, Option.map_bind]
        rfl

theorem outcomeOfEntries_singleton (key : String) (d : Draft ρ) :
    outcomeOfEntries ask [(key, d)] = (outcome ask d).map fun v => [(key, v)] := by
  rw [outcomeOfEntries, List.mapM_cons, List.mapM_nil]
  cases outcome ask d <;> rfl

theorem outcomeOfEntries_flatten (parts : List (Writes ρ)) :
    outcomeOfEntries ask parts.flatten = (parts.mapM (outcomeOfEntries ask)).map List.flatten := by
  have h := mapM_flatMap (fun w : String × Draft ρ => (outcome ask w.2).map fun v => (w.1, v)) id
    parts
  rwa [List.flatMap_id] at h

theorem keys_outcomeOfEntries {writes : Writes ρ} {shown : Document}
    (h : outcomeOfEntries ask writes = some shown) : Assoc.keys shown = writes.map Prod.fst := by
  obtain ⟨value, -, rfl⟩ := exists_map_of_mapM h
  rw [Assoc.keys, List.map_map]
  rfl

/-- As long as no key is written twice, the documents of the parts of a draft are joined to that of
the draft. -/
theorem outcomeOfWrites_flatten {parts : List (Writes ρ)}
    (h : (parts.flatten.map Prod.fst).Nodup) :
    outcomeOfWrites ask parts.flatten =
      (parts.mapM (outcomeOfEntries ask)).map fun shown => Assoc.ofWrites shown.flatten := by
  have hjoin := outcomeOfEntries_flatten ask parts
  rw [outcomeOfWrites_eq ask h, hjoin]
  cases hshown : parts.mapM (outcomeOfEntries ask) with
  | none => rfl
  | some shown =>
    rw [hshown, Option.map_some] at hjoin
    have hkeys : shown.flatten.map Prod.fst = parts.flatten.map Prod.fst :=
      keys_outcomeOfEntries ask hjoin
    rw [Option.map_some, Option.map_some, Assoc.ofWrites_of_nodup (hkeys ▸ h)]

/-! ### What drafts under construction come to -/

theorem outcome_map_list {α : Type} (g : α → Except Error (Draft ρ)) (items : List α) :
    ((items.mapM g).map Draft.list).toOption.bind (outcome ask) =
      (items.mapM fun item => (g item).toOption.bind (outcome ask)).map .array := by
  rw [toOption_map, toOption_mapM, Option.bind_map, ← mapM_bind_mapM, Option.map_bind]
  exact Option.bind_congr fun ds _ => outcome_list ask ds

theorem outcome_map_transformed (x : Except Error (Draft ρ)) (t : Transform) :
    (x.map (Draft.transformed · t)).toOption.bind (outcome ask) =
      (x.toOption.bind (outcome ask)).bind fun v => (t.apply v).toOption := by
  rw [toOption_map, Option.bind_map, Option.bind_assoc]
  exact Option.bind_congr fun d _ => outcome_transformed ask d t

end Draft

/-! ## One field -/

variable [RegexEngine]

namespace Branch

variable {reach : Request → Except Error Value} {ask : Request → Except Error (Draft Empty)}
  {s : Selection} {shown : Document → Schema → Except Error Document} {drafted : Walk}

/-- What is below a selection comes to the same on a document, displayed and drafted. -/
def Agree (ask : Request → Except Error (Draft Empty))
    (shown : Document → Schema → Except Error Document) (drafted : Walk)
    (part : Document × Schema) : Prop :=
  (shown part.1 part.2).toOption =
    (drafted part.1 part.2).toOption.bind (Draft.outcomeOfWrites ask)

theorem toOption_displayDocument {f : Field} {fields : Schema} {v : Value}
    (h : ∀ doc, v = .object doc → Agree ask shown drafted (doc, fields)) :
    (displayDocument ⟨s, shown⟩ f fields v).toOption =
      (draftDocument ⟨s, drafted⟩ f fields v).toOption.bind (Draft.outcome ask) := by
  cases v with
  | object doc =>
    simp only [displayDocument, draftDocument, toOption_monadBind, toOption_map,
      toOption_underField, Option.bind_map]
    rw [h doc rfl, Option.bind_assoc]
    apply Option.bind_congr
    intro writes _
    simp only [Function.comp_apply, Draft.outcome_transformed, Draft.outcome_document,
      Option.bind_map]
  | _ => rfl

theorem toOption_displayItems
    (hask : ∀ r, (reach r).toOption = Draft.outcome ask (.pending r)) {children : Projection}
    {element : Field} {items : List Value}
    (h : ∀ part ∈ items.flatMap element.parts, Agree ask shown drafted part) :
    (displayItems reach ⟨s, shown⟩ children element items).toOption =
      (draftItems ⟨s, drafted⟩ children element items).toOption.bind (Draft.outcome ask) := by
  match element with
  | .mk capabilities (.object fields) =>
    rw [displayItems, draftItems, Draft.outcome_map_list, toOption_map, toOption_mapM]
    congr 1
    apply mapM_congr
    intro item hitem
    apply toOption_displayDocument
    intro doc hdoc
    apply h
    exact List.mem_flatMap.2 ⟨item, hitem, by simp [hdoc]⟩
  | .mk capabilities (.reference path target) =>
    rw [displayItems, draftItems]
    simp only
    split
    · rfl
    · exact hask _
  | .mk capabilities (.array inner) =>
    rw [displayItems, draftItems, Draft.outcome_map_list, toOption_map, toOption_mapM]
    congr 1
    apply mapM_congr
    intro item hitem
    cases item with
    | array sub =>
      have hsub : ∀ part ∈ sub.flatMap inner.parts, Agree ask shown drafted part := by
        intro part hpart
        refine h part (List.mem_flatMap.2 ⟨.array sub, hitem, ?_⟩)
        rw [Field.parts_array]
        exact hpart
      simp only
      rw [Draft.outcome_map_transformed, toOption_bind, toOption_displayItems hask hsub]
    | _ => rfl
  | .mk capabilities .scalar => rfl
  | .mk capabilities (.connection path field target) => rfl

theorem toOption_displayValue
    (hask : ∀ r, (reach r).toOption = Draft.outcome ask (.pending r)) {f : Option Field}
    {v : Value} (h : ∀ f', f = some f' → ∀ children, s.children = some children →
      ∀ part ∈ f'.parts v, Agree ask shown drafted part) :
    (displayValue reach ⟨s, shown⟩ f v).toOption =
      (draftValue ⟨s, drafted⟩ f v).toOption.bind (Draft.outcome ask) := by
  have hwhole : ∀ x : Except Error Value,
      x.toOption = (x.map Draft.value).toOption.bind (Draft.outcome ask) := by
    intro x
    cases x <;> rfl
  unfold displayValue draftValue
  simp only
  cases hc : s.children with
  | none => exact hwhole _
  | some children =>
    simp only
    split
    · exact hwhole _
    · cases f with
      | none => rfl
      | some f =>
        have hparts := h f rfl children hc
        obtain ⟨capabilities, kind⟩ := f
        unfold displayChildren draftChildren
        cases kind with
        | scalar => rfl
        | object fields =>
          apply toOption_displayDocument
          intro doc hdoc
          apply hparts
          simp [hdoc]
        | array element =>
          cases v with
          | array items =>
            rw [Field.parts_array] at hparts
            simp only [Field.kind]
            rw [Draft.outcome_map_transformed, toOption_bind, toOption_displayItems hask hparts]
          | _ => rfl
        | reference path target => exact hask _
        | connection path field target => rfl

/-- **A field comes to the same**, displayed and drafted, if all documents stored in it do. -/
theorem toOption_display
    (hask : ∀ r, (reach r).toOption = Draft.outcome ask (.pending r)) {scope : Scope}
    {doc : Document} {fields : Schema}
    (h : ∀ f, Schema.lookup fields s.name = some f → f.hidden = false →
      ∀ v, Assoc.get? doc s.name = some v → ∀ children, s.children = some children →
        ∀ part ∈ f.parts v, Agree ask shown drafted part) :
    (display reach scope ⟨s, shown⟩ doc fields).toOption =
      (draft scope ⟨s, drafted⟩ doc fields).toOption.bind (Draft.outcomeOfEntries ask) := by
  have hstored : ∀ f : Option Field, (∀ f', f = some f' → ∀ v, Assoc.get? doc s.name = some v →
      ∀ children, s.children = some children → ∀ part ∈ f'.parts v,
        Agree ask shown drafted part) →
      (displayStored reach ⟨s, shown⟩ f doc).toOption =
        (draftStored ⟨s, drafted⟩ f doc).toOption.bind (Draft.outcomeOfEntries ask) := by
    intro f hf
    unfold displayStored draftStored
    simp only
    cases hv : Assoc.get? doc s.name with
    | none => rfl
    | some v =>
      have hvalue := toOption_displayValue hask fun f' hf' children hc => hf f' hf' v hv children hc
      simp only [toOption_map, Option.bind_map]
      rw [hvalue, Option.map_bind]
      apply Option.bind_congr
      intro d _
      exact (Draft.outcomeOfEntries_singleton ask _ d).symm
  unfold display draft
  simp only
  cases hl : Schema.lookup fields s.name with
  | none =>
    apply hstored none
    intro f' hf'
    cases hf'
  | some f =>
    simp only
    split
    · rfl
    · rename_i hhidden
      have hshown : f.hidden = false := by simpa using hhidden
      have hparts := hstored (some f) fun f' hf' => by
        cases hf'
        exact h f hl hshown
      cases f.kind with
      | connection path field target =>
        simp only [toOption_monadBind, toOption_map, Option.bind_map]
        apply Option.bind_congr
        intro r _
        rw [hask r]
        exact (Draft.outcomeOfEntries_singleton ask _ _).symm
      | _ => exact hparts

omit [RegexEngine] in
theorem eq_mk {α : Type} {b : Branch α} (h : b.selection = s) : b = ⟨s, b.below⟩ := by
  subst h
  rfl

end Branch

/-! ## A projection -/

namespace Projection

variable {reach : Request → Except Error Value} {ask : Request → Except Error (Draft Empty)}
  {scope : Scope}

theorem displayBranches_eq_map (p : Projection) :
    displayBranches reach scope p = p.map (displayBranch reach scope) := by
  induction p with
  | nil => rfl
  | cons s p ih => rw [displayBranches, ih, List.map_cons]

theorem displayBranch_selection (s : Selection) : (displayBranch reach scope s).selection = s := by
  obtain ⟨name, shownAs, params, children⟩ := s
  cases children <;> rfl

theorem displayBranch_below {s : Selection} {children : Projection}
    (h : s.children = some children) :
    (displayBranch reach scope s).below = display reach scope children := by
  obtain ⟨name, shownAs, params, c⟩ := s
  subst h
  rfl

theorem expand_displayBranches (p : Projection) (doc : Document) :
    Branch.expand (displayBranches reach scope p) doc =
      (p.expand doc).map (List.map (displayBranch reach scope)) := by
  rw [displayBranches_eq_map]
  apply expand_map displayBranch_selection
  · intro key
    rfl
  · intro s key
    obtain ⟨name, shownAs, params, children⟩ := s
    cases children <;> rfl

/-- **A projection comes to the same**, displayed and drafted, if its requests do and no document
has a key written twice. -/
theorem toOption_display (hask : ∀ r, (reach r).toOption = Draft.outcome ask (.pending r))
    {p : Projection} {doc : Document} {fields : Schema}
    (h : ∀ b, Site.Inside ⟨p, doc, fields⟩ b → b.WritesOnce scope) :
    (p.display reach scope doc fields).toOption =
      (p.draft scope doc fields).toOption.bind (Draft.outcomeOfWrites ask) := by
  induction hn : depth p using Nat.strongRecOn generalizing p doc fields with
  | ind n ih =>
    have hbranch : ∀ ss, p.expand doc = .ok ss → ∀ s ∈ ss,
        ((displayBranch reach scope s).display reach scope doc fields).toOption =
          ((branch scope s).draft scope doc fields).toOption.bind
            (Draft.outcomeOfEntries ask) := by
      intro ss hss s hs
      rw [Branch.eq_mk (displayBranch_selection s), Branch.eq_mk (branch_selection scope s)]
      apply Branch.toOption_display hask
      intro f hf hhidden v hv children hc part hpart
      have hsite : Site.Part ⟨p, doc, fields⟩ ⟨children, part.1, part.2⟩ :=
        .intro hss hs hf hhidden hv hc hpart
      rw [displayBranch_below hc, branch_below scope hc]
      have hbelow : ∀ b, Site.Inside ⟨children, part.1, part.2⟩ b → b.WritesOnce scope := by
        intro b hb
        exact h b (.head hsite hb)
      exact ih _ (hn ▸ hsite.depth_lt) hbelow rfl
    rw [toOption_draft, display, Branch.displayAll, expand_displayBranches]
    cases hss : p.expand doc with
    | error e => rfl
    | ok ss =>
      simp only [Except.map, toOption_monadBind, toOption_ok, Option.bind_some, toOption_mapM,
        List.mapM_map, Option.bind_map, Function.comp_def]
      rw [mapM_congr (hbranch ss hss), ← mapM_bind_mapM, Option.bind_assoc]
      apply Option.bind_congr
      intro parts hparts
      have hdraft : p.draft scope doc fields = .ok parts.flatten := by
        rw [← toOption_eq_some_iff, toOption_draft, hss, toOption_ok, Option.bind_some, hparts,
          Option.map_some]
      rw [Draft.outcomeOfWrites_flatten ask (h _ .refl _ hdraft)]
      exact Option.map_eq_bind.symm

end Projection

end DocQuery
