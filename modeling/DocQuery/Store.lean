import DocQuery.Pattern.Engine
import DocQuery.Resource

/-!
# Collections in memory

* `Collection`, `Collection.resource` — documents in memory as a resource, which may be impaired.
* `Store` — collections by path.
* `Store.accesses` — how the lookups of an evaluation read a store.

Main statement: `Collection.serves_resource`.
-/

set_option autoImplicit false

namespace DocQuery

/-- How well a collection answers. -/
inductive Health
  | sound
  /-- Drops the last outcome when it gets several ids at once. -/
  | short
  /-- Answers nothing. -/
  | down
  deriving DecidableEq, Repr

/-- Documents in memory. -/
structure Collection where
  fields : Schema
  docs : List Document
  health : Health := .sound

variable [RegexEngine]

namespace Collection

/-- The first document of an id. -/
def get? (c : Collection) (id : Value) : Option Document := c.docs.find? (Document.hasId id)

/-- The collection as the resource behind a path. -/
def resource (c : Collection) (path : String) : Resource where
  fields := c.fields
  find q :=
    match c.health with
    | .down => .error (.unresolved (path ++ " is down"))
    | _ => .ok (q.apply c.fields c.docs)
  multiGet ids :=
    match c.health with
    | .down => .error (.unresolved (path ++ " is down"))
    | .short => .ok (ids.map c.get?).dropLast
    | .sound => .ok (ids.map c.get?)

theorem serves_resource (c : Collection) (path : String) (h : c.health = .sound) :
    (c.resource path).Serves c.docs where
  find _ := by simp only [resource, h]
  multiGet _ := by
    simp only [resource, h]
    rfl

end Collection

/-- Collections by path. -/
abbrev Store := Assoc Collection

namespace Store

/-- The resource behind a path. -/
def resource (s : Store) (path : String) : Except Error Resource :=
  match Assoc.get? s path with
  | some c => .ok (c.resource path)
  | none => .error (.unresolved ("unknown resource: " ++ path))

/-- Answers queries from a store. -/
def resolver (s : Store) (access : Query → Access) : Resolver :=
  Resolver.ofResources s.resource access

/-- How lookups read a store; those behind unknown paths do not reach it. -/
def accesses (s : Store) (access : Query → Access) (lookups : List Lookup) :
    List (String × Access) :=
  (lookups.filter fun l => (Assoc.get? s l.path).isSome).map fun l => (l.path, access l.query)

end Store

end DocQuery
