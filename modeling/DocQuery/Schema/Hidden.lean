import DocQuery.Schema.Basic

/-!
# What hidden fields leave of a document

A hidden field is stored and never shown. What may be shown of a document is the document with null
in the place of every hidden value, at any depth: in stored documents, and in the documents of
lists. Ids stay, since other collections are asked for by them.

* `Field.hidesNothing`, `Schema.hidesNothing` — no field inside is hidden.
* `Field.reveal`, `Schema.reveal` — a value and a document without what is hidden.

Main statements: `Schema.get?_reveal`, `Field.reveal_of_hidesNothing`.
-/

set_option autoImplicit false

namespace DocQuery

mutual

/-- No field inside is hidden; the field itself may be. -/
def Field.hidesNothing : Field → Bool
  | .mk _ kind => kind.hidesNothing

def Kind.hidesNothing : Kind → Bool
  | .object fields => Schema.hidesNothing fields
  | .array element => element.hidesNothing
  | _ => true

def Schema.hidesNothing : Schema → Bool
  | [] => true
  | (_, f) :: r => !f.hidden && f.hidesNothing && Schema.hidesNothing r

end

mutual

/-- A value of a field without what is hidden inside. -/
def Field.reveal (f : Field) : Value → Value
  | .object doc =>
    match f.kind with
    | .object fields => .object (Schema.reveal fields doc)
    | _ => .object doc
  | .array items =>
    match f.kind with
    | .array element => .array (Field.revealItems element items)
    | _ => .array items
  | v => v

def Field.revealItems (element : Field) : List Value → List Value
  | [] => []
  | v :: r => element.reveal v :: Field.revealItems element r

/-- A document without what is hidden; the id stays. -/
def Schema.reveal (fields : Schema) : List (String × Value) → List (String × Value)
  | [] => []
  | (key, v) :: r =>
    let shown :=
      if key = "id" then v
      else
        match Schema.lookup fields key with
        | none => v
        | some f => if f.hidden then .null else f.reveal v
    (key, shown) :: Schema.reveal fields r

end

namespace Schema

/-- What may be shown of the value under a key. -/
def revealAt (fields : Schema) (key : String) (v : Value) : Value :=
  if key = "id" then v
  else
    match lookup fields key with
    | none => v
    | some f => if f.hidden then .null else f.reveal v

variable {fields : Schema} {key : String} {v : Value}

theorem reveal_cons (fields : Schema) (key : String) (v : Value) (doc : Document) :
    fields.reveal ((key, v) :: doc) = (key, fields.revealAt key v) :: fields.reveal doc := by
  rw [reveal, revealAt]

@[simp] theorem keys_reveal (fields : Schema) (doc : Document) :
    Assoc.keys (fields.reveal doc) = Assoc.keys doc := by
  induction doc with
  | nil => rfl
  | cons e doc ih =>
    rw [reveal_cons, Assoc.keys, Assoc.keys, List.map_cons, List.map_cons]
    exact congrArg _ ih

theorem get?_reveal (fields : Schema) (doc : Document) (key : String) :
    Assoc.get? (fields.reveal doc) key = (Assoc.get? doc key).map (fields.revealAt key) := by
  induction doc with
  | nil => rfl
  | cons e doc ih =>
    rw [reveal_cons, Assoc.get?, Assoc.get?]
    split
    · rename_i hkey
      rw [hkey, Option.map_some]
    · exact ih

theorem revealAt_id (fields : Schema) (v : Value) : fields.revealAt "id" v = v := if_pos rfl

theorem revealAt_of_unknown (h : lookup fields key = none) : fields.revealAt key v = v := by
  rw [revealAt, h]
  exact ite_self v

/-- The value of a visible field is revealed, unless it is the id. -/
theorem revealAt_of_visible {f : Field} (hkey : key ≠ "id") (h : lookup fields key = some f)
    (hf : f.hidden = false) : fields.revealAt key v = f.reveal v := by
  rw [revealAt, if_neg hkey, h]
  simp [hf]

/-- Where nothing is hidden, no path leads to a hidden field or to one that hides something. -/
theorem open_of_lookup (h : fields.hidesNothing = true) {f : Field}
    (hf : lookup fields key = some f) : f.hidden = false ∧ f.hidesNothing = true := by
  have hget : ∀ {fields : Schema} {name : String} {f : Field}, fields.hidesNothing = true →
      Assoc.get? fields name = some f → f.hidden = false ∧ f.hidesNothing = true := by
    intro fields name f hopen hf
    induction fields with
    | nil => cases hf
    | cons e fields ih =>
      obtain ⟨k, g⟩ := e
      rw [hidesNothing, Bool.and_eq_true, Bool.and_eq_true, Bool.not_eq_true'] at hopen
      rw [Assoc.get?] at hf
      split at hf
      · exact Option.some.inj hf ▸ hopen.1
      · exact ih hopen.2 hf
  unfold lookup at hf
  generalize Path.segments key = names at hf
  induction names generalizing fields with
  | nil => cases hf
  | cons name names ih =>
    cases names with
    | nil => exact hget h hf
    | cons name' names =>
      rw [follow] at hf
      · split at hf
        · rename_i g hg
          obtain ⟨capabilities, kind⟩ := g
          split at hf
          · rename_i sub hkind
            obtain rfl : kind = .object sub := hkind
            have hsub := (hget h hg).2
            rw [Field.hidesNothing, Kind.hidesNothing] at hsub
            exact ih hsub hf
          · cases hf
        · cases hf
      · simp

end Schema

namespace Field

@[simp] theorem isNull_reveal (f : Field) (v : Value) : (f.reveal v).isNull = v.isNull := by
  cases v with
  | object doc => rw [reveal]; split <;> rfl
  | array items => rw [reveal]; split <;> rfl
  | _ => rfl

theorem revealItems_eq_map (element : Field) (items : List Value) :
    revealItems element items = items.map element.reveal := by
  induction items with
  | nil => rfl
  | cons v items ih => rw [revealItems, ih, List.map_cons]

end Field

mutual

/-- **Where nothing is hidden, nothing is taken away.** -/
theorem Field.reveal_of_hidesNothing {f : Field} (h : f.hidesNothing = true) (v : Value) :
    f.reveal v = v := by
  obtain ⟨capabilities, kind⟩ := f
  cases v with
  | object doc =>
    cases kind with
    | object fields => exact congrArg Value.object (Schema.reveal_of_hidesNothing h doc)
    | _ => rfl
  | array items =>
    cases kind with
    | array element => exact congrArg Value.array (element.revealItems_of_hidesNothing h items)
    | _ => rfl
  | _ => rfl

theorem Field.revealItems_of_hidesNothing (element : Field) (h : element.hidesNothing = true)
    (items : List Value) : element.revealItems items = items := by
  match items with
  | [] => rfl
  | v :: items =>
    rw [Field.revealItems, Field.reveal_of_hidesNothing h v,
      element.revealItems_of_hidesNothing h items]

theorem Schema.reveal_of_hidesNothing {fields : Schema} (h : fields.hidesNothing = true)
    (doc : List (String × Value)) : fields.reveal doc = doc := by
  match doc with
  | [] => rfl
  | (key, v) :: doc =>
    have hentry : fields.revealAt key v = v := by
      unfold Schema.revealAt
      split
      · rfl
      · split
        · rfl
        · rename_i f hf
          obtain ⟨hshown, hopen⟩ := Schema.open_of_lookup h hf
          rw [hshown, Field.reveal_of_hidesNothing hopen v]
          rfl
    rw [Schema.reveal_cons, hentry, Schema.reveal_of_hidesNothing h doc]

end

end DocQuery
