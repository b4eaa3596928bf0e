import DocQuery.Value.Basic

/-!
# Values in floating point form

Text has one form of numbers: what is read from it are floats. A value that came from elsewhere may
hold integers, all of which are words of 64 bits, and there is a float for each.

* `Value.inFloats` — the value with a float for each of its numbers.
* `Value.Storable` — the values that a document can hold.
-/

set_option autoImplicit false

namespace DocQuery

namespace Number

/-- The number as a float, where it is not too large. -/
def inFloats (n : Number) : Number :=
  match n.bound with
  | .finite d => .float d
  | _ => n

/-- Whether an integer is a word, signed or not. -/
def WordSized : Number → Prop
  | integer i => Word.least ≤ i ∧ i ≤ Word.greatestUnsigned
  | float _ => True

theorem bound_inFloats (n : Number) : n.inFloats.bound = n.bound := by
  unfold inFloats
  split
  · rename_i d hd
    exact hd.symm
  · rfl

end Number

namespace Value

mutual

/-- A float for each number, at any depth. -/
def inFloats : Value → Value
  | .number n => .number n.inFloats
  | .array items => .array (inFloatsItems items)
  | .object entries => .object (inFloatsEntries entries)
  | v => v

def inFloatsItems : List Value → List Value
  | [] => []
  | v :: vs => v.inFloats :: inFloatsItems vs

def inFloatsEntries : List (String × Value) → List (String × Value)
  | [] => []
  | (key, v) :: vs => (key, v.inFloats) :: inFloatsEntries vs

end

mutual

/-- Every integer, at any depth, is a word. -/
def WordSized : Value → Prop
  | .number n => n.WordSized
  | .array items => wordSizedItems items
  | .object entries => wordSizedEntries entries
  | _ => True

def wordSizedItems : List Value → Prop
  | [] => True
  | v :: vs => v.WordSized ∧ wordSizedItems vs

def wordSizedEntries : List (String × Value) → Prop
  | [] => True
  | (_, v) :: vs => v.WordSized ∧ wordSizedEntries vs

end

/-- A value as documents hold it: integers are words, and no object has a key twice. -/
structure Storable (v : Value) : Prop where
  wordSized : v.WordSized
  keysDistinct : v.KeysDistinct

/-- The entry with a float for each number in its value. -/
def entryInFloats (e : String × Value) : String × Value := (e.1, e.2.inFloats)

theorem inFloatsItems_eq (vs : List Value) : inFloatsItems vs = vs.map inFloats := by
  induction vs with
  | nil => rfl
  | cons v vs ih => rw [inFloatsItems, ih, List.map_cons]

theorem inFloatsEntries_eq (es : List (String × Value)) :
    inFloatsEntries es = es.map entryInFloats := by
  induction es with
  | nil => rfl
  | cons e es ih =>
    rw [inFloatsEntries, ih, List.map_cons]
    rfl

theorem inFloats_array (items : List Value) :
    (array items).inFloats = array (items.map inFloats) := by
  rw [inFloats, inFloatsItems_eq]

theorem inFloats_object (entries : List (String × Value)) :
    (object entries).inFloats = object (entries.map entryInFloats) := by
  rw [inFloats, inFloatsEntries_eq]

theorem keys_entryInFloats (es : List (String × Value)) :
    Assoc.keys (es.map entryInFloats) = Assoc.keys es := by
  simp only [Assoc.keys, List.map_map]
  rfl

theorem wordSizedItems_iff {vs : List Value} :
    wordSizedItems vs ↔ ∀ v ∈ vs, v.WordSized := by
  induction vs with
  | nil => simp [wordSizedItems]
  | cons v vs ih => rw [wordSizedItems, ih, List.forall_mem_cons]

theorem wordSizedEntries_iff {es : List (String × Value)} :
    wordSizedEntries es ↔ ∀ e ∈ es, e.2.WordSized := by
  induction es with
  | nil => simp [wordSizedEntries]
  | cons e es ih =>
    obtain ⟨key, v⟩ := e
    rw [wordSizedEntries, ih, List.forall_mem_cons]

mutual

/-- A value whose numbers are floats stays as it is. -/
theorem inFloats_of_numbersFloat (v : Value) (h : v.NumbersFloat) : v.inFloats = v := by
  match v with
  | .number (.integer _) => exact h.elim
  | .number (.float _) | .null | .bool _ | .string _ => rfl
  | .array items =>
    rw [NumbersFloat] at h
    rw [inFloats, inFloatsItems_of_numbersFloat items h]
  | .object entries =>
    rw [NumbersFloat] at h
    rw [inFloats, inFloatsEntries_of_numbersFloat entries h]

theorem inFloatsItems_of_numbersFloat (vs : List Value) (h : numbersFloatItems vs) :
    inFloatsItems vs = vs := by
  match vs with
  | [] => rfl
  | v :: vs =>
    rw [inFloatsItems, inFloats_of_numbersFloat v h.1, inFloatsItems_of_numbersFloat vs h.2]

theorem inFloatsEntries_of_numbersFloat (es : List (String × Value))
    (h : numbersFloatEntries es) : inFloatsEntries es = es := by
  match es with
  | [] => rfl
  | (key, v) :: es =>
    rw [inFloatsEntries, inFloats_of_numbersFloat v h.1, inFloatsEntries_of_numbersFloat es h.2]

end

mutual

theorem wordSized_of_numbersFloat (v : Value) (h : v.NumbersFloat) : v.WordSized := by
  match v with
  | .number (.integer _) => exact h.elim
  | .number (.float _) | .null | .bool _ | .string _ => trivial
  | .array items =>
    rw [NumbersFloat] at h
    exact wordSizedItems_of_numbersFloat items h
  | .object entries =>
    rw [NumbersFloat] at h
    exact wordSizedEntries_of_numbersFloat entries h

theorem wordSizedItems_of_numbersFloat (vs : List Value) (h : numbersFloatItems vs) :
    wordSizedItems vs := by
  match vs with
  | [] => trivial
  | v :: vs => exact ⟨wordSized_of_numbersFloat v h.1, wordSizedItems_of_numbersFloat vs h.2⟩

theorem wordSizedEntries_of_numbersFloat (es : List (String × Value))
    (h : numbersFloatEntries es) : wordSizedEntries es := by
  match es with
  | [] => trivial
  | (_, v) :: es =>
    exact ⟨wordSized_of_numbersFloat v h.1, wordSizedEntries_of_numbersFloat es h.2⟩

end

end Value

end DocQuery
