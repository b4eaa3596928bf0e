import DocQuery.Evaluation.Registry
import DocQuery.Proofs.Batches
import Mathlib.Data.List.Induction

/-!
# What is registered between two passes

Whatever requests are registered since the registry was drained, and in whatever order: each waits
once, for a lookup of its own path, alone or with all others of the path that may share one. The
places that the registry keeps are right, so it holds the very lookups that a search for the path of
every request would have found.

* `Batch.filterMap_waitingAt_ofTickets`, `Batch.filterMap_alone?_ofTickets` — the shared lookup of a
  path, and the lookups of their own.
* `Registry.Indexed` — the invariant of the places; `Registry.Indexed.request` keeps it.
* `Registry.batches_foldl` — the registry holds the lookups of `Batch.ofTickets`.
* `Registry.keeps_requests` — what it holds, said of the requests.
-/

set_option autoImplicit false

namespace DocQuery

variable [RegexEngine]

namespace Batch

/-- The path whose requests share a lookup. -/
def sharedPath? : Batch → Option String
  | single _ => none
  | shared path _ => some path

/-- The request of a lookup of its own. -/
def alone? : Batch → Option Ticket
  | single t => some t
  | shared _ _ => none

/-- The requests that share the lookup of a path. -/
def waitingAt (path : String) : Batch → Option (List (Value × Ticket))
  | single _ => none
  | shared p waiting => if p = path then some waiting else none

/-- The id by which a request may share the lookup of a path, with the request. -/
def sharing (coalesce : Bool) (path : String) (t : Ticket) : Option (Value × Ticket) :=
  if t.1.path = path then (sharedId? coalesce t).map fun id => (id, t) else none

variable {coalesce : Bool} {path : String} {id : Value} {t : Ticket}

/-! ## Joining -/

/-- Without a shared lookup of its path a request begins one. -/
theorem join_of_not_mem {bs : List Batch} (h : ∀ b ∈ bs, b.sharedPath? ≠ some path) :
    join path id t bs = bs ++ [shared path [(id, t)]] := by
  induction bs with
  | nil => rfl
  | cons b bs ih =>
    obtain ⟨hb, hbs⟩ := List.forall_mem_cons.1 h
    cases b with
    | single u => rw [join, ih hbs, List.cons_append]
    | shared p waiting =>
      have hp : p ≠ path := fun hp => hb (congrArg some hp)
      rw [join, if_neg hp, ih hbs, List.cons_append]

/-- A request joins the first shared lookup of its path. -/
theorem join_of_mem {before after : List Batch} {waiting : List (Value × Ticket)}
    (h : ∀ b ∈ before, b.sharedPath? ≠ some path) :
    join path id t (before ++ shared path waiting :: after) =
      before ++ shared path (waiting ++ [(id, t)]) :: after := by
  induction before with
  | nil => exact if_pos rfl
  | cons b before ih =>
    obtain ⟨hb, hbefore⟩ := List.forall_mem_cons.1 h
    cases b with
    | single u => rw [List.cons_append, join, ih hbefore, List.cons_append]
    | shared p waiting' =>
      have hp : p ≠ path := fun hp => hb (congrArg some hp)
      rw [List.cons_append, join, if_neg hp, ih hbefore, List.cons_append]

theorem filterMap_alone?_join (bs : List Batch) :
    (join path id t bs).filterMap alone? = bs.filterMap alone? := by
  induction bs with
  | nil => rfl
  | cons b bs ih =>
    cases b with
    | single u => simp only [join, List.filterMap_cons, alone?, ih]
    | shared p waiting =>
      rw [join]
      split
      · rfl
      · simp only [List.filterMap_cons, alone?, ih]

theorem filterMap_waitingAt_join_of_ne {other : String} (h : path ≠ other) (bs : List Batch) :
    (join path id t bs).filterMap (waitingAt other) = bs.filterMap (waitingAt other) := by
  induction bs with
  | nil => simp [join, waitingAt, h]
  | cons b bs ih =>
    cases b with
    | single u => simp only [join, List.filterMap_cons, waitingAt, ih]
    | shared p waiting =>
      rw [join]
      split
      · rename_i hp
        simp only [List.filterMap_cons, waitingAt, hp, if_neg h]
      · simp only [List.filterMap_cons, waitingAt, ih]

theorem waitingAt_eq_none_iff {b : Batch} :
    b.waitingAt path = none ↔ b.sharedPath? ≠ some path := by
  cases b with
  | single u => simp [waitingAt, sharedPath?]
  | shared p waiting => simp [waitingAt, sharedPath?]

theorem eq_shared_of_waitingAt {b : Batch} {waiting : List (Value × Ticket)}
    (h : b.waitingAt path = some waiting) : b = shared path waiting := by
  cases b with
  | single u => cases h
  | shared p w =>
    simp only [waitingAt, Option.ite_none_right_eq_some, Option.some.injEq] at h
    obtain ⟨rfl, rfl⟩ := h
    rfl

/-- Those who share something are one group, unless there are none. -/
def groups {α : Type} : List α → List (List α)
  | [] => []
  | a :: as => [a :: as]

/-- A request for one id joins those that wait for the shared lookup of its path. -/
theorem filterMap_waitingAt_join {bs : List Batch} {waiting : List (Value × Ticket)}
    (h : bs.filterMap (waitingAt path) = groups waiting) :
    (join path id t bs).filterMap (waitingAt path) = groups (waiting ++ [(id, t)]) := by
  cases waiting with
  | nil =>
    have hnone : ∀ b ∈ bs, b.sharedPath? ≠ some path := by
      intro b hb
      exact waitingAt_eq_none_iff.1 (List.filterMap_eq_nil_iff.1 h b hb)
    rw [join_of_not_mem hnone, List.filterMap_append, h]
    simp [groups, waitingAt]
  | cons w waiting =>
    obtain ⟨before, b, after, rfl, hbefore, hb, hafter⟩ := List.filterMap_eq_cons_iff.1 h
    have hnone : ∀ b ∈ before, b.sharedPath? ≠ some path := by
      intro b hb
      exact waitingAt_eq_none_iff.1 (hbefore b hb)
    rw [eq_shared_of_waitingAt hb, join_of_mem hnone, List.filterMap_append,
      List.filterMap_eq_nil_iff.2 hbefore, List.filterMap_cons, hafter]
    simp [groups, waitingAt]

/-! ## Registration -/

/-- Requests that may not share a lookup have lookups of their own, in the order of registration. -/
theorem filterMap_alone?_register (bs : List Batch) (t : Ticket) :
    (register coalesce bs t).filterMap alone? =
      bs.filterMap alone? ++ [t].filter fun t => (sharedId? coalesce t).isNone := by
  unfold register
  split
  · rename_i id hid
    simp [filterMap_alone?_join, hid]
  · rename_i hid
    simp [alone?, hid]

theorem sharing_of_none (h : sharedId? coalesce t = none) : sharing coalesce path t = none := by
  unfold sharing
  rw [h]
  exact ite_self none

theorem filterMap_waitingAt_register {bs : List Batch} {ts : List Ticket}
    (h : bs.filterMap (waitingAt path) = groups (ts.filterMap (sharing coalesce path)))
    (t : Ticket) : (register coalesce bs t).filterMap (waitingAt path) =
      groups ((ts ++ [t]).filterMap (sharing coalesce path)) := by
  rw [List.filterMap_append]
  unfold register
  split
  · rename_i id hid
    by_cases hpath : t.1.path = path
    · subst hpath
      have hnew : sharing coalesce t.1.path t = some (id, t) := by
        rw [sharing, if_pos rfl, hid]
        rfl
      rw [filterMap_waitingAt_join h, List.filterMap_cons, hnew, List.filterMap_nil]
    · have hnone : sharing coalesce path t = none := if_neg hpath
      rw [filterMap_waitingAt_join_of_ne hpath, List.filterMap_cons, hnone, List.filterMap_nil,
        List.append_nil, h]
  · rename_i hid
    rw [List.filterMap_append, h, List.filterMap_cons, List.filterMap_cons, sharing_of_none hid]
    simp [waitingAt]

theorem ofTickets_concat (ts : List Ticket) (t : Ticket) :
    ofTickets coalesce (ts ++ [t]) = register coalesce (ofTickets coalesce ts) t :=
  List.foldl_append.trans rfl

theorem filterMap_alone?_ofTickets (ts : List Ticket) :
    (ofTickets coalesce ts).filterMap alone? =
      ts.filter fun t => (sharedId? coalesce t).isNone := by
  induction ts using List.reverseRecOn with
  | nil => rfl
  | append_singleton ts t ih =>
    rw [ofTickets_concat, filterMap_alone?_register, ih, List.filter_append]

/-- **A path has one shared lookup**, for exactly the requests of the path that may share one. -/
theorem filterMap_waitingAt_ofTickets (ts : List Ticket) :
    (ofTickets coalesce ts).filterMap (waitingAt path) =
      groups (ts.filterMap (sharing coalesce path)) := by
  induction ts using List.reverseRecOn with
  | nil => rfl
  | append_singleton ts t ih =>
    rw [ofTickets_concat]
    exact filterMap_waitingAt_register ih t

end Batch

namespace Registry

/-- The place of a path is that of its shared lookup. -/
def Indexed (r : Registry) : Prop :=
  ∀ path i, r.sharedAt.get? path = some i ↔ ∃ waiting, r.batches[i]? = some (.shared path waiting)

variable {coalesce : Bool} {r : Registry}

/-- The shared lookup of a path stands where the registry says, and no other one does. -/
theorem Indexed.split (h : r.Indexed) {path : String} {i : Nat}
    (hi : r.sharedAt.get? path = some i) :
    ∃ before waiting after, r.batches = before ++ Batch.shared path waiting :: after ∧
      before.length = i ∧ ∀ b ∈ before, b.sharedPath? ≠ some path := by
  obtain ⟨waiting, hw⟩ := (h path i).1 hi
  obtain ⟨hlt, hget⟩ := List.getElem?_eq_some_iff.1 hw
  refine ⟨r.batches.take i, waiting, r.batches.drop (i + 1), ?_, ?_, ?_⟩
  · rw [← hget, List.getElem_cons_drop, List.take_append_drop]
  · exact List.length_take_of_le (Nat.le_of_lt hlt)
  · intro b hb hpath
    obtain ⟨j, hj, rfl⟩ := List.mem_iff_getElem.1 hb
    cases hbj : (r.batches.take i)[j] with
    | single u => rw [hbj] at hpath; cases hpath
    | shared p w =>
      rw [hbj] at hpath
      obtain rfl := Option.some.inj hpath
      rw [List.length_take] at hj
      have hget : r.batches[j]? = some (.shared p w) := by
        rw [List.getElem_take] at hbj
        rw [List.getElem?_eq_getElem (by omega), hbj]
      have hplace := (h p j).2 ⟨w, hget⟩
      rw [hi] at hplace
      have := Option.some.inj hplace
      omega

theorem Indexed.not_mem (h : r.Indexed) {path : String} (hnone : r.sharedAt.get? path = none) :
    ∀ b ∈ r.batches, b.sharedPath? ≠ some path := by
  intro b hb hpath
  obtain ⟨j, hj, rfl⟩ := List.mem_iff_getElem.1 hb
  cases hbj : r.batches[j] with
  | single u => rw [hbj] at hpath; cases hpath
  | shared p w =>
    rw [hbj] at hpath
    obtain rfl := Option.some.inj hpath
    have hplace := (h p j).2 ⟨w, by rw [List.getElem?_eq_getElem hj, hbj]⟩
    rw [hnone] at hplace
    cases hplace

theorem indexed_empty : Indexed { } := fun _ _ => by simp [Assoc.get?]

/-- A lookup that is not shared leaves the places as they are. -/
theorem Indexed.append_single (h : r.Indexed) (t : Ticket) :
    Indexed { r with batches := r.batches ++ [.single t] } := by
  intro path i
  rw [h path i]
  refine exists_congr fun waiting => ?_
  rcases Nat.lt_trichotomy i r.batches.length with hi | rfl | hi
  · rw [List.getElem?_append_left hi]
  · simp
  · rw [List.getElem?_eq_none (Nat.le_of_lt hi), List.getElem?_eq_none (by simp; omega)]

/-- A new shared lookup stands at the end. -/
theorem Indexed.append_shared (h : r.Indexed) {path : String}
    (hnone : r.sharedAt.get? path = none) (waiting : List (Value × Ticket)) :
    Indexed ⟨r.batches ++ [.shared path waiting], r.sharedAt.put path r.batches.length⟩ := by
  intro other i
  rw [Assoc.get?_put]
  split
  · rename_i heq
    subst heq
    constructor
    · intro hi
      obtain rfl := Option.some.inj hi
      exact ⟨waiting, by simp⟩
    · rintro ⟨waiting', hget⟩
      rcases Nat.lt_trichotomy i r.batches.length with hi | rfl | hi
      · rw [List.getElem?_append_left hi] at hget
        have hplace := (h path i).2 ⟨waiting', hget⟩
        rw [hnone] at hplace
        cases hplace
      · rfl
      · rw [List.getElem?_eq_none (by simp; omega)] at hget
        cases hget
  · rename_i hne
    rw [h other i]
    refine exists_congr fun waiting' => ?_
    rcases Nat.lt_trichotomy i r.batches.length with hi | rfl | hi
    · rw [List.getElem?_append_left hi]
    · simp [hne]
    · rw [List.getElem?_eq_none (Nat.le_of_lt hi), List.getElem?_eq_none (by simp; omega)]

/-- A shared lookup may be replaced by one of the same path. -/
theorem Indexed.set_shared (h : r.Indexed) {path : String} {index : Nat}
    {waiting : List (Value × Ticket)} (hget : r.batches[index]? = some (.shared path waiting))
    (waiting' : List (Value × Ticket)) :
    Indexed { r with batches := r.batches.set index (.shared path waiting') } := by
  intro other i
  rw [h other i]
  by_cases hi : index = i
  · subst hi
    obtain ⟨hlt, -⟩ := List.getElem?_eq_some_iff.1 hget
    simp [hget, List.getElem?_set_self hlt]
  · simp only [List.getElem?_set_ne hi]

/-- **Registering a request keeps the places right**, and adds it where a search would. -/
theorem Indexed.request (h : r.Indexed) (t : Ticket) :
    (r.request coalesce t).Indexed ∧
      (r.request coalesce t).batches = Batch.register coalesce r.batches t := by
  unfold Registry.request Batch.register
  cases hid : Batch.sharedId? coalesce t with
  | none => exact ⟨h.append_single t, rfl⟩
  | some id =>
    cases hplace : r.sharedAt.get? t.1.path with
    | none =>
      have hjoined : r.joined id t = none := by
        unfold joined
        rw [hplace]
        rfl
      simp only [hjoined]
      exact ⟨h.append_shared hplace _, (Batch.join_of_not_mem (h.not_mem hplace)).symm⟩
    | some index =>
      obtain ⟨before, waiting, after, heq, rfl, hbefore⟩ := h.split hplace
      have hget : r.batches[before.length]? = some (.shared t.1.path waiting) := by simp [heq]
      have hjoined : r.joined id t = some
          (r.batches.set before.length (.shared t.1.path (waiting ++ [(id, t)]))) := by
        unfold joined
        rw [hplace]
        simp [hget, Batch.extended]
      simp only [hjoined]
      refine ⟨h.set_shared hget _, ?_⟩
      rw [heq, Batch.join_of_mem hbefore]
      simp

theorem Indexed.foldl (h : r.Indexed) (ts : List Ticket) :
    (ts.foldl (Registry.request coalesce) r).Indexed ∧
      (ts.foldl (Registry.request coalesce) r).batches =
        ts.foldl (Batch.register coalesce) r.batches := by
  induction ts generalizing r with
  | nil => exact ⟨h, rfl⟩
  | cons t ts ih =>
    obtain ⟨hindexed, hbatches⟩ := @Indexed.request _ coalesce r h t
    rw [List.foldl_cons, List.foldl_cons, ← hbatches]
    exact ih hindexed

/-- **The registry holds the lookups that a search would find** for the requests since it was
drained. -/
theorem batches_foldl (ts : List Ticket) :
    (ts.foldl (Registry.request coalesce) r.drain.2).batches = Batch.ofTickets coalesce ts :=
  (indexed_empty.foldl ts).2

/-- What a registry holds for the requests that were registered since it was drained. -/
structure Keeps (coalesce : Bool) (ts : List Ticket) (r : Registry) : Prop where
  /-- Every request waits once. -/
  once : (r.batches.flatMap Batch.tickets).Perm ts
  /-- It waits for a lookup of its own path. -/
  path : ∀ b ∈ r.batches, ∀ t ∈ b.tickets, t.1.path = b.lookup.path
  /-- Those that may not share a lookup have one of their own, with their query and in their
  order. -/
  alone : (r.batches.filterMap fun b => b.alone?.map fun t => (t, b.lookup)) =
    (ts.filter fun t => (Batch.sharedId? coalesce t).isNone).map fun t =>
      (t, ⟨t.1.path, t.1.query⟩)
  /-- All others of a path wait for one shared lookup, in their order and each under its id. -/
  shared : ∀ path, r.batches.filterMap (Batch.waitingAt path) =
    Batch.groups (ts.filterMap (Batch.sharing coalesce path))
  /-- The places are those of the shared lookups. -/
  places : r.Indexed

/-- **No request is lost or mixed up**, whatever is registered since the registry was drained. -/
theorem keeps_requests (coalesce : Bool) (r : Registry) (ts : List Ticket) :
    Keeps coalesce ts (ts.foldl (Registry.request coalesce) r.drain.2) where
  once := by
    rw [batches_foldl]
    exact Batch.tickets_ofTickets coalesce ts
  path := by
    rw [batches_foldl]
    intro b hb t ht
    exact (Batch.wellFormed_ofTickets ts b hb).path_eq ht
  alone := by
    have hlookup : (fun b : Batch => b.alone?.map fun t => (t, b.lookup)) =
        fun b => b.alone?.map fun t => (t, ⟨t.1.path, t.1.query⟩) := by
      funext b
      cases b <;> rfl
    rw [batches_foldl, hlookup, ← Batch.filterMap_alone?_ofTickets, List.map_filterMap]
  shared := by
    rw [batches_foldl]
    intro path
    exact Batch.filterMap_waitingAt_ofTickets ts
  places := (indexed_empty.foldl ts).1

end Registry

end DocQuery
