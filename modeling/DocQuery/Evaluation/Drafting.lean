import DocQuery.Evaluation.Request

/-!
# Projections over a document

The walk of a projection over one document writes an entry for every field that is shown, and
leaves a request where a field leads to another collection.

* `Branch` — a selection with the walk of what is below it, so that walking recurses on the
  projection alone, whatever the documents are.
* `Branch.expand` — the fields that a projection stands for: all keys for the empty one, and for
  `*` those not named otherwise.
* `Projection.draft` — the walk of a whole projection.
* `Projection.expand` — the selections of the fields that a projection stands for.

Main statements: `Branch.draft_cases`, `Projection.branches_eq_map`, `Projection.expand_map`.
-/

set_option autoImplicit false

namespace DocQuery

variable [RegexEngine]

/-- A walk over a document that has the given fields. -/
abbrev Walk := Document → Schema → Except Error (Draft.Writes Request)

/-- A selection with the walk of what is below it, which writes entries of type `α`. -/
structure Branch (α : Type) where
  selection : Selection
  below : Document → Schema → Except Error (List (String × α))

namespace Branch

variable {α : Type}

/-! ## The fields that a projection stands for -/

/-- A key as it is. -/
def ofKey (key : String) : Branch α := ⟨{ name := key }, fun _ _ => .ok []⟩

/-- A key that `*` stands for; what is below `*` is below the key. -/
def named (star : Branch α) (key : String) : Branch α :=
  ⟨{ name := key, children := star.selection.children }, star.below⟩

/-- Whether a projection shows a key under its own name. -/
def names (bs : List (Branch α)) (key : String) : Bool :=
  bs.any fun b => b.selection.name == key && b.selection.shownAs.isNone

/-- The fields of a document that a projection stands for. -/
def expand (bs : List (Branch α)) (doc : Document) : Except Error (List (Branch α)) :=
  if bs.isEmpty then .ok ((Assoc.keys doc).map ofKey)
  else if 1 < bs.countP (·.selection.isWildcard) then
    .error (.inapplicable "only one * in projection allowed")
  else
    .ok (bs.flatMap fun b =>
      if b.selection.isWildcard then ((Assoc.keys doc).filter (!names bs ·)).map b.named else [b])

/-! ## One field -/

/-- A value that has to be a document, shown as the field `f` shows it. -/
def draftDocument (b : Branch (Draft Request)) (f : Field) (fields : Schema) :
    Value → Except Error (Draft Request)
  | .object doc =>
    (underField b.selection.name (b.below doc fields)).map fun writes =>
      .transformed (.document writes) (.ofSelection b.selection (some f))
  | _ => .error (b.selection.failure "invalid value: not a dict")

/-- The items of a list whose elements are documents, references or such lists. -/
def draftItems (b : Branch (Draft Request)) (children : Projection) :
    Field → List Value → Except Error (Draft Request)
  | .mk capabilities (.object fields), items =>
    (items.mapM (b.draftDocument (.mk capabilities (.object fields)) fields)).map .list
  | .mk capabilities (.reference path target), items =>
    let ids := items.filter (!·.isNull)
    if ids.isEmpty then .ok (.list [])
    else
      let element := Field.mk capabilities (.reference path target)
      .ok (.pending (.ofReferences b.selection element path children ids))
  | .mk capabilities (.array element), items =>
    let t := Transform.ofSelection b.selection (some (.mk capabilities (.array element)))
    let item (value : Value) : Except Error (Draft Request) :=
      match value with
      | .array sub => (draftItems b children element sub).map (.transformed · t)
      | _ => .error (b.selection.failure "invalid value: not an array")
    (items.mapM item).map .list
  | _, _ => .error (b.selection.failure "field has no children")

/-- A value with a projection of its own. -/
def draftChildren (b : Branch (Draft Request)) (children : Projection) (f : Field) (value : Value) :
    Except Error (Draft Request) :=
  match f.kind with
  | .object fields => b.draftDocument f fields value
  | .reference path _ => .ok (.pending (.ofReference b.selection f path children value))
  | .array element =>
    match value with
    | .array items =>
      (b.draftItems children element items).map (.transformed · (.ofSelection b.selection (some f)))
    | _ => .error (b.selection.failure "invalid value: not an array")
  | _ => .error (b.selection.failure "field has no children")

/-- A stored value; null is shown as it is, whatever is below. -/
def draftValue (b : Branch (Draft Request)) (f : Option Field) (value : Value) :
    Except Error (Draft Request) :=
  let whole := ((Transform.ofSelection b.selection f).apply value).map Draft.value
  match b.selection.children with
  | none => whole
  | some children =>
    if value.isNull then whole
    else
      match f with
      | none => .error (b.selection.failure "field has no children")
      | some f => draftChildren b children f value

/-- A selected field of a document, if it is stored. -/
def draftStored (b : Branch (Draft Request)) (f : Option Field) (doc : Document) :
    Except Error (Draft.Writes Request) :=
  match Assoc.get? doc b.selection.name with
  | none => .ok []
  | some value => (b.draftValue f value).map fun d => [(b.selection.outputName, d)]

/-- What a selection writes: nothing for a hidden field, a request for a connection whether or not
something is stored under its name, else the stored value. -/
def draft (scope : Scope) (b : Branch (Draft Request)) : Walk := fun doc fields =>
  match Schema.lookup fields b.selection.name with
  | none => b.draftStored none doc
  | some f =>
    if f.hidden then .ok []
    else
      match f.kind with
      | .connection path field target =>
        (Request.ofConnection scope b.selection f path field target doc).map fun r =>
          [(b.selection.outputName, .pending r)]
      | _ => b.draftStored f doc

/-- **The four ways of a selection**, which are the same for all documents: its field is not
declared, hidden, a connection or stored. -/
theorem draft_cases (scope : Scope) (b : Branch (Draft Request)) (fields : Schema) :
    (Schema.lookup fields b.selection.name = none ∧
      ∀ doc, b.draft scope doc fields = b.draftStored none doc) ∨
    ∃ f, Schema.lookup fields b.selection.name = some f ∧
      ((f.hidden = true ∧ ∀ doc, b.draft scope doc fields = .ok []) ∨
        f.hidden = false ∧
          ((∃ path field target, f.kind = .connection path field target ∧
            ∀ doc, b.draft scope doc fields =
              (Request.ofConnection scope b.selection f path field target doc).map fun r =>
                [(b.selection.outputName, .pending r)]) ∨
          (∀ path field target, f.kind ≠ .connection path field target) ∧
            ∀ doc, b.draft scope doc fields = b.draftStored (some f) doc)) := by
  unfold draft
  cases hf : Schema.lookup fields b.selection.name with
  | none => exact .inl ⟨rfl, fun _ => rfl⟩
  | some f =>
    refine .inr ⟨f, rfl, ?_⟩
    cases hhidden : f.hidden with
    | true => exact .inl ⟨rfl, fun _ => if_pos hhidden⟩
    | false =>
      refine .inr ⟨rfl, ?_⟩
      simp only [hhidden, Bool.false_eq_true, if_false]
      split
      · rename_i path field target hkind
        exact .inl ⟨path, field, target, hkind, fun _ => rfl⟩
      · rename_i hstored
        exact .inr ⟨hstored, fun _ => rfl⟩

/-- What is stored under the name of a selection is written, if anything is. -/
theorem draftStored_cases (b : Branch (Draft Request)) (f : Option Field) (doc : Document) :
    (Assoc.get? doc b.selection.name = none ∧ b.draftStored f doc = .ok []) ∨
      ∃ v, Assoc.get? doc b.selection.name = some v ∧
        b.draftStored f doc = (b.draftValue f v).map fun d => [(b.selection.outputName, d)] := by
  unfold draftStored
  cases hv : Assoc.get? doc b.selection.name with
  | none => exact .inl ⟨rfl, rfl⟩
  | some v => exact .inr ⟨v, rfl, rfl⟩

/-- The walk of several branches. -/
def draftAll (scope : Scope) (bs : List (Branch (Draft Request))) : Walk := fun doc fields => do
  let bs ← expand bs doc
  let writes ← bs.mapM fun b => b.draft scope doc fields
  .ok writes.flatten

end Branch

namespace Projection

mutual

/-- A selection with the walk of what is below it. -/
def branch (scope : Scope) : Selection → Branch (Draft Request)
  | ⟨name, shownAs, params, none⟩ => ⟨⟨name, shownAs, params, none⟩, fun _ _ => .ok []⟩
  | ⟨name, shownAs, params, some children⟩ =>
    ⟨⟨name, shownAs, params, some children⟩, Branch.draftAll scope (branches scope children)⟩

def branches (scope : Scope) : List Selection → List (Branch (Draft Request))
  | [] => []
  | s :: r => branch scope s :: branches scope r

end

/-- The entries that a projection shows of a document. -/
def draft (scope : Scope) (p : Projection) : Walk := Branch.draftAll scope (branches scope p)

theorem branches_eq_map (scope : Scope) (p : Projection) :
    branches scope p = p.map (branch scope) := by
  induction p with
  | nil => rfl
  | cons s p ih => rw [branches, ih, List.map_cons]

theorem branch_selection (scope : Scope) (s : Selection) : (branch scope s).selection = s := by
  obtain ⟨name, shownAs, params, children⟩ := s
  cases children <;> rfl

theorem branch_below (scope : Scope) {s : Selection} {children : Projection}
    (h : s.children = some children) : (branch scope s).below = draft scope children := by
  obtain ⟨name, shownAs, params, c⟩ := s
  subst h
  rfl

/-! ## The selections that a projection stands for -/

/-- Whether a projection shows a key under its own name. -/
def names (p : Projection) (key : String) : Bool :=
  p.any fun s => s.name == key && s.shownAs.isNone

/-- The selections that a projection stands for on a document. -/
def expand (p : Projection) (doc : Document) : Except Error Projection :=
  if p.isEmpty then .ok ((Assoc.keys doc).map fun key => { name := key })
  else if 1 < p.countP (·.isWildcard) then
    .error (.inapplicable "only one * in projection allowed")
  else
    .ok (p.flatMap fun s =>
      if s.isWildcard then
        ((Assoc.keys doc).filter (!names p ·)).map fun key =>
          { name := key, children := s.children }
      else [s])

variable {α : Type}

omit [RegexEngine] in
theorem names_map {φ : Selection → Branch α} (hsel : ∀ s, (φ s).selection = s) (p : Projection)
    (key : String) : Branch.names (p.map φ) key = names p key := by
  simp [Branch.names, names, List.any_map, Function.comp_def, hsel]

omit [RegexEngine] in
/-- Branches that depend on the name and on what is below expand as their selections do. -/
theorem expand_map {φ : Selection → Branch α} (hsel : ∀ s, (φ s).selection = s)
    (hkey : ∀ key, φ { name := key } = Branch.ofKey key)
    (hnamed : ∀ s key, φ { name := key, children := s.children } = (φ s).named key)
    (p : Projection) (doc : Document) :
    Branch.expand (p.map φ) doc = (p.expand doc).map (List.map φ) := by
  have hcount : (p.map φ).countP (fun b => b.selection.isWildcard) =
      p.countP (fun s => s.isWildcard) := by
    simp [List.countP_map, Function.comp_def, hsel]
  unfold Branch.expand expand
  rw [hcount, List.isEmpty_map]
  split
  · simp [Except.map, Function.comp_def, hkey]
  · split
    · rfl
    · simp only [Except.map, List.flatMap_map, List.map_flatMap, hsel]
      congr 2
      funext s
      split
      · simp [Function.comp_def, names_map hsel, hnamed]
      · rfl

theorem expand_branches (scope : Scope) (p : Projection) (doc : Document) :
    Branch.expand (branches scope p) doc = (p.expand doc).map (List.map (branch scope)) := by
  rw [branches_eq_map]
  refine expand_map (branch_selection scope) (fun key => rfl) (fun s key => ?_) p doc
  obtain ⟨name, shownAs, params, children⟩ := s
  cases children <;> rfl

section

variable {scope : Scope} {p : Projection} {doc : Document} {fields : Schema}

theorem draft_of_expand_error {e : Error} (h : p.expand doc = .error e) :
    p.draft scope doc fields = .error e := by
  unfold draft Branch.draftAll
  rw [expand_branches, h]
  rfl

/-- A walk is that of the selections that the projection stands for. -/
theorem draft_of_expand {ss : Projection} (h : p.expand doc = .ok ss) :
    p.draft scope doc fields =
      (ss.mapM fun s => (branch scope s).draft scope doc fields).map List.flatten := by
  unfold draft Branch.draftAll
  rw [expand_branches, h]
  show ((ss.map (branch scope)).mapM fun b => b.draft scope doc fields) >>= _ = _
  rw [List.mapM_map, Function.comp_def]
  cases ss.mapM fun s => (branch scope s).draft scope doc fields <;> rfl

end

end Projection

end DocQuery
