import DocQuery.Schema.Basic

/-!
# Dotted paths compose

A path is followed through documents, and through the fields of a schema, from name to name: what
stands behind its first dot is looked up in what the name before it leads to. It may as well be
taken apart at any other of its dots, next to which names may be empty.

* `Path.Descends` — a look-up that goes on behind the first dot.
* `Path.Descends.unique` — there is one way to look up paths so.
* `Document.descends_lookup`, `Schema.descends_lookup` — documents and schemas are looked up so.
* `Path.lookups_compose` — at every dot, the two parts of a path are followed one after the other.
-/

set_option autoImplicit false

namespace DocQuery

/-! ## Paths -/

namespace Path

theorem segments_of_not_mem {name : String} (h : '.' ∉ name.toList) : segments name = [name] := by
  simp [segments, splitAtEach_of_not_mem h]

/-- A path is a name, or a name, a dot and another path. -/
theorem name_or_dot (path : String) :
    '.' ∉ path.toList ∨ ∃ head rest, path = head ++ "." ++ rest ∧ '.' ∉ head.toList := by
  by_cases h : '.' ∈ path.toList
  · obtain ⟨head, rest, hpath, hhead⟩ := List.eq_append_cons_of_mem h
    refine .inr ⟨String.ofList head, String.ofList rest, ?_, by simpa using hhead⟩
    rw [← String.toList_inj]
    simp [hpath]
  · exact .inl h

/-- `look` looks up paths by names: a path without a dot is a name, and behind the first dot of any
other the look-up goes on in what the name before it leads into. -/
structure Descends {Level Item : Type} (get : Level → String → Option Item)
    (into : Item → Option Level) (look : Level → String → Option Item) : Prop where
  name : ∀ level name, '.' ∉ name.toList → look level name = get level name
  dot : ∀ level head rest, '.' ∉ head.toList →
    look level (head ++ "." ++ rest) = ((get level head).bind into).bind (look · rest)

/-- **There is one way to look up paths by names.** -/
theorem Descends.unique {Level Item : Type} {get : Level → String → Option Item}
    {into : Item → Option Level} {look look' : Level → String → Option Item}
    (h : Descends get into look) (h' : Descends get into look') (level : Level) (path : String) :
    look level path = look' level path := by
  -- By induction on the length: a path is shorter behind its first dot.
  induction hlength : path.length using Nat.strongRecOn generalizing level path with
  | ind n ih =>
    rcases name_or_dot path with hname | ⟨head, rest, rfl, hhead⟩
    · rw [h.name level path hname, h'.name level path hname]
    · have hshorter : rest.length < n := by
        simp only [String.length_append] at hlength
        have hdot : ".".length = 1 := rfl
        omega
      have hrest : (look · rest) = (look' · rest) := funext fun sub => ih _ hshorter sub rest rfl
      rw [h.dot level head rest hhead, h'.dot level head rest hhead, hrest]

end Path

/-! ## Documents and schemas -/

/-- The fields of a field that is a document of its own. -/
def Field.fields? (f : Field) : Option Schema :=
  match f.kind with
  | .object sub => some sub
  | _ => none

theorem Document.lookup_of_not_mem (doc : Document) {name : String} (h : '.' ∉ name.toList) :
    Document.lookup doc name = Assoc.get? doc name := by
  rw [lookup, Path.segments_of_not_mem h, follow]

theorem Document.descends_lookup : Path.Descends Assoc.get? Value.document? Document.lookup where
  name doc _ h := lookup_of_not_mem doc h
  dot doc head rest h := by
    rw [lookup_append, lookup_of_not_mem doc h]
    rcases Assoc.get? doc head with _ | v
    · rfl
    · cases v <;> rfl

theorem Schema.lookup_of_not_mem (schema : Schema) {name : String} (h : '.' ∉ name.toList) :
    Schema.lookup schema name = Assoc.get? schema name := by
  rw [lookup, Path.segments_of_not_mem h, follow]

theorem Schema.descends_lookup : Path.Descends Assoc.get? Field.fields? Schema.lookup where
  name schema _ h := lookup_of_not_mem schema h
  dot schema head rest h := by
    rw [lookup_append, lookup_of_not_mem schema h]
    rcases Assoc.get? schema head with _ | ⟨capabilities, kind⟩
    · rfl
    · cases kind <;> rfl

/-- **Dotted paths compose**, in documents and in schemas alike: behind any dot of a path the
look-up goes on in the document, or in the fields of the object field, that the part in front of it
leads to, and without one there is nothing. Documents and schemas are looked up by names. -/
theorem Path.lookups_compose :
    (∀ (doc : Document) (p q : String), Document.lookup doc (p ++ "." ++ q) =
      match Document.lookup doc p with
      | some (.object sub) => Document.lookup sub q
      | _ => none) ∧
    (∀ (schema : Schema) (p q : String), Schema.lookup schema (p ++ "." ++ q) =
      match (Schema.lookup schema p).map Field.kind with
      | some (.object sub) => Schema.lookup sub q
      | _ => none) ∧
    Path.Descends Assoc.get? Value.document? Document.lookup ∧
      Path.Descends Assoc.get? Field.fields? Schema.lookup :=
  ⟨Document.lookup_append, Schema.lookup_append, Document.descends_lookup, Schema.descends_lookup⟩

namespace Bookshelf

/-- A book in two volumes, the first of which is told of under an empty name. -/
def volumes : Document :=
  [("parts", .object [("", .object [("title", .string "One")]), ("last", .string "Two")])]

/-- The fields of such a book. -/
def volumeFields : Schema :=
  [("parts", .mk { } (.object [("", .mk { } (.object [("title", .mk { sortable := true } .scalar)])),
    ("last", .mk { } .scalar)]))]

/-- The empty name between two dots leads to the first volume, in the book as in its fields, and
nothing is behind a title. -/
theorem lookup_volumes :
    Document.lookup volumes "parts..title" = some (.string "One") ∧
      Document.lookup volumes "parts.last.title" = none ∧
      Schema.lookup volumeFields "parts..title" = some (.mk { sortable := true } .scalar) ∧
      Schema.lookup volumeFields "parts.last.title" = none := by
  obtain ⟨hdocuments, hschemas, -, -⟩ := Path.lookups_compose
  exact ⟨hdocuments volumes "parts." "title", hdocuments volumes "parts.last" "title",
    hschemas volumeFields "parts." "title", hschemas volumeFields "parts.last" "title"⟩

end Bookshelf

end DocQuery
