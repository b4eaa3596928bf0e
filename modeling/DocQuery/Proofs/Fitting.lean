import DocQuery.Proofs.Narrowing

/-!
# What validation says of a projection

A projection that was validated fits the fields it was validated against: every field that it names
is known and visible, what is below a field is below one that leads to documents and fits their
fields in turn, and the parameters that narrow a connection are a condition and an order.

* `Projection.LoneStars` — one `*` at every level at most, and nothing below it.
* `Projection.Fits` — what validation leaves.
* `Projection.fits_of_validate` — validated projections fit.
-/

set_option autoImplicit false

namespace DocQuery

/-! ## Selections -/

variable [RegexEngine]

namespace Selection

/-- The parameters that narrow a connection can be read. -/
def Narrows (s : Selection) (fields : Schema) : Prop :=
  (∃ filter, Request.filterOf s fields = .ok filter) ∧ ∃ order, Request.orderOf s = .ok order

/-- A validated selection of a connection narrows it. -/
theorem ValidatedFor.narrows {catalog : Catalog} {f : Field} {s : Selection}
    (h : s.ValidatedFor catalog f) {path field target : String}
    (hkind : f.kind = .connection path field target)
    (hown : ∀ p ∈ [ConnectionParam.filter, ConnectionParam.order],
      Assoc.get? f.params p.name = none) : s.Narrows (catalog.schema target) := by
  obtain ⟨filter, hfilter, -⟩ :=
    Request.filterOf_eq fun w hw => h.takes hkind (hown .filter (by simp)) hw
  obtain ⟨order, horder, -⟩ :=
    Request.orderOf_eq fun w hw => h.takes hkind (hown .order (by simp)) hw
  exact ⟨⟨filter, hfilter⟩, order, horder⟩

end Selection

/-- No connection has parameters of its own under the names of those that narrow every connection
and are read as text. -/
def Catalog.KeepsNarrowing (catalog : Catalog) (fields : Schema) : Prop :=
  ∀ {sub name f path field target}, catalog.Reaches fields sub →
    Schema.lookup sub name = some f → f.kind = .connection path field target →
      ∀ p ∈ [ConnectionParam.filter, ConnectionParam.order], Assoc.get? f.params p.name = none

/-- What validation says of a selection of the field `f`. -/
structure Selection.Suits (s : Selection) (catalog : Catalog) (fields : Schema) (f : Field) :
    Prop where
  declared : Schema.lookup fields s.name = some f
  visible : f.hidden = false
  leads : ∀ children, s.children = some children → ∃ sub, f.childFields catalog = some sub
  narrows : ∀ path field target, f.kind = .connection path field target →
    s.Narrows (catalog.schema target)

/-- A validated selection suits its field. -/
theorem Selection.Validated.suits {catalog : Catalog} {fields : Schema} {s : Selection}
    (h : s.Validated catalog fields) (hno : s.isWildcard = false)
    (hown : ∀ f, Schema.lookup fields s.name = some f → ∀ path field target,
      f.kind = .connection path field target →
        ∀ p ∈ [ConnectionParam.filter, ConnectionParam.order], Assoc.get? f.params p.name = none) :
    ∃ f, s.Suits catalog fields f := by
  rcases h.cases with hstar | ⟨-, f, hf, hs⟩
  · cases hstar.symm.trans hno
  · refine ⟨f, { declared := hf, visible := hs.visible, leads := ?_, narrows := ?_ }⟩
    · intro children hc
      obtain ⟨sub, hsub, -⟩ := hs.below hc
      exact ⟨sub, hsub⟩
    · exact fun path field target hkind => hs.narrows hkind (hown f hf path field target hkind)

/-! ## Projections -/

namespace Projection

/-- There is one `*` at every level at most, and nothing is below it. -/
inductive LoneStars : Projection → Prop
  | intro {p : Projection} (one : p.countP (·.isWildcard) ≤ 1)
    (bare : ∀ s ∈ p, s.isWildcard = true → s.children = none)
    (below : ∀ s ∈ p, ∀ children, s.children = some children → LoneStars children) : LoneStars p

/-- What validation leaves, of projections in which no `*` has anything below it. -/
inductive Fits (catalog : Catalog) : Projection → Schema → Prop
  | intro {p : Projection} {fields : Schema} (one : p.countP (·.isWildcard) ≤ 1)
    (bare : ∀ s ∈ p, s.isWildcard = true → s.children = none)
    (known : ∀ s ∈ p, s.isWildcard = false → ∃ f, s.Suits catalog fields f)
    (below : ∀ s ∈ p, ∀ f children sub, Schema.lookup fields s.name = some f →
      s.children = some children → f.childFields catalog = some sub → Fits catalog children sub) :
    Fits catalog p fields

/-- The empty projection fits all fields. -/
theorem fits_nil (catalog : Catalog) (fields : Schema) : Fits catalog [] fields :=
  .intro (Nat.zero_le 1) nofun nofun nofun

variable {catalog : Catalog} {root fields : Schema} {p : Projection}

theorem Fits.suits (h : p.Fits catalog fields) {s : Selection} (hs : s ∈ p)
    (hno : s.isWildcard = false) {f : Field} (hf : Schema.lookup fields s.name = some f) :
    s.Suits catalog fields f := by
  obtain ⟨-, -, known, -⟩ := h
  obtain ⟨f', hsuits⟩ := known s hs hno
  obtain rfl := Option.some.inj (hf.symm.trans hsuits.declared)
  exact hsuits

/-- Validation adds no `*`, and nothing below one. -/
theorem LoneStars.validated (hstars : p.LoneStars)
    (h : (p.validate catalog fields).failure = none) :
    (p.validate catalog fields).value.LoneStars := by
  induction hstars generalizing fields with
  | @intro p one bare _ ih =>
    rw [validate, Selection.validateAll_eq_all] at h ⊢
    obtain ⟨hall, hvalue⟩ := Coercion.all_of_success h
    rw [hvalue]
    constructor
    · rw [List.countP_map]
      refine (List.countP_congr fun s hs => ?_).symm ▸ one
      simp only [Function.comp_apply, Selection.isWildcard, Selection.name_validate (hall s hs)]
    · intro s' hs' hstar
      obtain ⟨s, hs, rfl⟩ := List.mem_map.1 hs'
      rcases Selection.validate_cases (hall s hs) with ⟨hs'', heq⟩ | ⟨hno, -⟩
      · rw [heq]
        exact bare s hs hs''
      · rw [Selection.isWildcard, Selection.name_validate (hall s hs)] at hstar
        cases hno.symm.trans hstar
    · intro s' hs' children hc
      obtain ⟨s, hs, rfl⟩ := List.mem_map.1 hs'
      rcases Selection.validate_cases (hall s hs) with
        ⟨hstar, heq⟩ | ⟨-, f, -, -, -, ⟨hnone, heq⟩ | ⟨below, sub, hbelow, -, hvalid, heq⟩⟩ <;>
        rw [heq] at hc
      · cases (bare s hs hstar).symm.trans hc
      · cases hnone.symm.trans hc
      · cases hc
        exact ih s hs below hbelow hvalid

/-- **A validated projection fits** the fields that it was validated against. -/
theorem Validated.fits (hroot : catalog.KeepsNarrowing root) (hreach : catalog.Reaches root fields)
    (hstars : p.LoneStars) (h : p.Validated catalog fields) : p.Fits catalog fields := by
  induction hstars generalizing fields with
  | @intro p one bare _ ih =>
    refine .intro one bare (fun s hs hno => ?_) fun s hs f children sub hf hc hsub => ?_
    · exact (h.selection hs).suits hno fun f hf path field target => hroot hreach hf
    · cases hstar : s.isWildcard with
      | true => cases (bare s hs hstar).symm.trans hc
      | false =>
        obtain ⟨sub', hsub', hchildren⟩ := ((h.selection hs).of_declared hstar hf).below hc
        cases hsub.symm.trans hsub'
        exact ih s hs children hc (hreach.tail ⟨s.name, f, hf, hsub⟩) hchildren

theorem fits_of_validate (hroot : catalog.KeepsNarrowing root)
    (hreach : catalog.Reaches root fields) (hstars : p.LoneStars)
    (h : (p.validate catalog fields).failure = none) :
    (p.validate catalog fields).value.Fits catalog fields :=
  (validated_of_validate h).fits hroot hreach (hstars.validated h)

end Projection

end DocQuery
