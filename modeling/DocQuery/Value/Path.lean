import DocQuery.Text.Split
import DocQuery.Value.Basic

/-!
# Dotted paths

A path names a field, or with dots a field of a field: `a.b` is the field `b` of the document under
`a`. Segments may be empty.

* `Path.segments` — the names between the dots.
* `Document.lookup` — the value at a path.

Main statements: `Path.segments_append`, `Document.lookup_append`.
-/

set_option autoImplicit false

namespace DocQuery

namespace Path

/-- The names that a path is made of; never empty. -/
def segments (path : String) : List String := (splitAtEach '.' path.toList).map String.ofList

theorem segments_append (p q : String) : segments (p ++ "." ++ q) = segments p ++ segments q := by
  simp [segments, splitAtEach_append]

theorem segments_ne_nil (path : String) : segments path ≠ [] := by
  simp [segments, splitAtEach_ne_nil]

end Path

namespace Document

/-- The value under the first name, followed through the documents under the others. -/
def follow (doc : Document) : List String → Option Value
  | [] => none
  | [name] => Assoc.get? doc name
  | name :: names =>
    match Assoc.get? doc name with
    | some (.object sub) => follow sub names
    | _ => none

/-- The value at a dotted path: present even when it is null, absent when a level is missing or is
no document. -/
def lookup (doc : Document) (path : String) : Option Value := follow doc (Path.segments path)

theorem follow_append (doc : Document) {ps qs : List String} (hp : ps ≠ []) (hq : qs ≠ []) :
    follow doc (ps ++ qs) =
      match follow doc ps with
      | some (.object sub) => follow sub qs
      | _ => none := by
  induction ps generalizing doc with
  | nil => exact absurd rfl hp
  | cons p ps ih =>
    cases ps with
    | nil =>
      cases qs with
      | nil => exact absurd rfl hq
      | cons q qs => simp [follow]
    | cons p' ps =>
      simp only [List.cons_append] at ih ⊢
      rw [follow, follow]
      · cases h : Assoc.get? doc p with
        | none => rfl
        | some v =>
          cases v with
          | object sub => exact ih sub (by simp)
          | _ => rfl
      · simp
      · simp

theorem lookup_append (doc : Document) (p q : String) :
    lookup doc (p ++ "." ++ q) =
      match lookup doc p with
      | some (.object sub) => lookup sub q
      | _ => none := by
  simp only [lookup, Path.segments_append]
  exact follow_append doc (Path.segments_ne_nil p) (Path.segments_ne_nil q)

end Document

end DocQuery
