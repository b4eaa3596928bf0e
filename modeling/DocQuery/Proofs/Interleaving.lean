import DocQuery.Evaluation.Schedule
import DocQuery.Proofs.Sharing
import Mathlib.Data.List.Nodup

/-!
# What a pass keeps, in any order

The tasks of a pass own the places of the requests that wait for them, and each of them fills only
its own. So what the output comes to once every request of the pass is answered stays the same,
whichever task makes the next step.

* `Task.unplaced`, `Task.registered` — the places that a task owns, and what it has registered for
  a draft that is not in its place yet.
* `Shared.Ready` — what holds between passes: the requests of the output are those that wait.
* `Shared.Amid` — what holds in the middle of a pass.
* `Shared.Amid.step` — **every step of every task keeps it**, or a request of the pass fails.
-/

set_option autoImplicit false

namespace DocQuery

/-! ## Drafts under numbers -/

variable [RegexEngine]

namespace Draft

theorem requests_label {d : Draft Request} {numbers : List Nat}
    (h : numbers.length = d.requests.length) :
    (d.label numbers).requests = d.requests.zip numbers := by
  have hlabel : (d.label numbers).requests =
      d.requests.zipIdx.map fun u => (u.1, numbers.getD u.2 0) := by
    rw [label, requests_bind, requests_number, List.map_eq_flatMap]
    rfl
  rw [hlabel]
  apply List.ext_getElem (by simp [h])
  intro i h₁ h₂
  have hi : i < numbers.length := by
    rw [List.length_zip] at h₂
    omega
  simp [List.getD_eq_getElem?_getD, hi]

theorem label_bind {σ : Type} {d : Draft Request} {numbers : List Nat} {f : Ticket → Draft σ}
    {g : Request → Draft σ} (h : numbers.length = d.requests.length)
    (hfg : ∀ u ∈ d.requests.zip numbers, f u = g u.1) : (d.label numbers).bind f = d.bind g := by
  rw [label, bind_bind]
  apply bind_number_eq 0 d
  intro t ht
  rw [requests_number] at ht
  obtain ⟨hlt, hget⟩ := List.mem_zipIdx' ht
  refine hfg (t.1, numbers.getD t.2 0) ?_
  rw [hget, List.getD_eq_getElem?_getD, List.getElem?_eq_getElem (h ▸ hlt), Option.getD_some]
  have hzip : t.2 < (d.requests.zip numbers).length := by
    rw [List.length_zip]
    omega
  exact List.getElem_zip (h := hzip) ▸ List.getElem_mem hzip

end Draft

/-! ## What tasks own -/

namespace Task

/-- The requests whose drafts are not in their places yet. -/
def unplaced : Task → List Ticket
  | asking b => b.tickets
  | resuming waiting => waiting.map Prod.fst
  | registering t _ _ waiting => t :: waiting.map Prod.fst

/-- The requests that are registered for a draft which is not in its place yet. -/
def registered : Task → List Ticket
  | registering _ d numbers _ => d.requests.zip numbers
  | _ => []

/-- What an answered task still has to do for its requests is what `step` does. -/
def Sound (ps : Passes) : Task → Prop
  | asking b => b.WellFormed ps.coalesce
  | resuming waiting =>
    ∀ w ∈ waiting, w.1.1.resume (Projection.draft ps.scope) w.2 = ps.step w.1.1
  | registering t d numbers waiting =>
    ps.step t.1 = .ok d ∧ numbers.length ≤ d.requests.length ∧
      ∀ w ∈ waiting, w.1.1.resume (Projection.draft ps.scope) w.2 = ps.step w.1.1

end Task

namespace Shared

variable {ps : Passes} {G : Draft Request} {s s' : Shared} {task : Task} {tasks : List Task}

/-- The draft of a request, if there is one. -/
def draftOf (ps : Passes) (r : Request) : Draft Request := (ps.step r).toOption.getD default

/-- What is put into the places of the tree: drafts for the requests that have none yet, while those
that wait for the next pass stay. -/
def complete (ps : Passes) (unplaced : List Ticket) (u : Ticket) : Draft Request :=
  if u.2 ∈ unplaced.map Prod.snd then draftOf ps u.1 else .pending u.1

/-- Between passes, `G` is the output, and its requests are those that wait. -/
structure Ready (ps : Passes) (G : Draft Request) (s : Shared) : Prop where
  tree : s.tree.bind (fun u => .pending u.1) = G
  waiting : (s.pending.flatMap Batch.tickets).Perm s.tree.requests
  numbers : (s.tree.requests.map Prod.snd).Nodup
  fresh : ∀ u ∈ s.tree.requests, u.2 < s.next
  wellFormed : ∀ b ∈ s.pending, b.WellFormed ps.coalesce

/-- In the middle of a pass that began with the output `G`. -/
structure Amid (ps : Passes) (G : Draft Request) (s : Shared) (tasks : List Task) : Prop where
  /-- The output comes to the same, whichever places are still empty. -/
  tree : s.tree.bind (complete ps (tasks.flatMap Task.unplaced)) = G.bind (draftOf ps)
  /-- A place is owned by a task or waits for the next pass. -/
  owned : (tasks.flatMap Task.unplaced ++ s.pending.flatMap Batch.tickets).Perm
    (s.tree.requests ++ tasks.flatMap Task.registered)
  unplaced : ∀ t ∈ tasks.flatMap Task.unplaced, t ∈ s.tree.requests
  numbers : ((s.tree.requests ++ tasks.flatMap Task.registered).map Prod.snd).Nodup
  fresh : ∀ u ∈ s.tree.requests ++ tasks.flatMap Task.registered, u.2 < s.next
  wellFormed : ∀ b ∈ s.pending, b.WellFormed ps.coalesce
  sound : ∀ task ∈ tasks, task.Sound ps
  origin : ∀ t ∈ tasks.flatMap Task.unplaced, t.1 ∈ G.requests
  settled : ∀ r ∈ G.requests, (∃ t ∈ tasks.flatMap Task.unplaced, t.1 = r) ∨
    (ps.step r).toOption.isSome

/-- The order of the tasks does not matter. -/
theorem Amid.perm {tasks' : List Task} (h : Amid ps G s tasks) (hp : tasks.Perm tasks') :
    Amid ps G s tasks' := by
  have hun : (tasks.flatMap Task.unplaced).Perm (tasks'.flatMap Task.unplaced) := hp.flatMap_right _
  have hre : (tasks.flatMap Task.registered).Perm (tasks'.flatMap Task.registered) :=
    hp.flatMap_right _
  have hall := hre.append_left s.tree.requests
  have hcomplete : complete ps (tasks'.flatMap Task.unplaced) =
      complete ps (tasks.flatMap Task.unplaced) := by
    funext u
    unfold complete
    simp only [(hun.map Prod.snd).mem_iff]
  exact {
    tree := hcomplete ▸ h.tree
    owned := (hun.append_right _).symm.trans (h.owned.trans hall)
    unplaced := by
      intro t ht
      exact h.unplaced t (hun.mem_iff.2 ht)
    numbers := (hall.map Prod.snd).nodup_iff.1 h.numbers
    fresh := by
      intro u hu
      exact h.fresh u (hall.mem_iff.2 hu)
    wellFormed := h.wellFormed
    sound := by
      intro task ht
      exact h.sound task (hp.mem_iff.2 ht)
    origin := by
      intro t ht
      exact h.origin t (hun.mem_iff.2 ht)
    settled := by
      intro r hr
      rcases h.settled r hr with ⟨t, ht, htr⟩ | hok
      · exact .inl ⟨t, hun.mem_iff.1 ht, htr⟩
      · exact .inr hok }

/-- A task may be replaced by one that owns the same. -/
theorem Amid.replace {task' : Task} (h : Amid ps G s (task :: tasks))
    (hun : task'.unplaced = task.unplaced) (hre : task'.registered = task.registered)
    (hsound : task'.Sound ps) : Amid ps G s (task' :: tasks) := by
  have hunplaced : (task' :: tasks).flatMap Task.unplaced =
      (task :: tasks).flatMap Task.unplaced := by
    rw [List.flatMap_cons, List.flatMap_cons, hun]
  have hregistered : (task' :: tasks).flatMap Task.registered =
      (task :: tasks).flatMap Task.registered := by
    rw [List.flatMap_cons, List.flatMap_cons, hre]
  exact {
    tree := hunplaced ▸ h.tree
    owned := hunplaced ▸ hregistered ▸ h.owned
    unplaced := hunplaced ▸ h.unplaced
    numbers := hregistered ▸ h.numbers
    fresh := hregistered ▸ h.fresh
    wellFormed := h.wellFormed
    sound := List.forall_mem_cons.2 ⟨hsound, (List.forall_mem_cons.1 h.sound).2⟩
    origin := hunplaced ▸ h.origin
    settled := hunplaced ▸ h.settled }

/-! ## Registering a request -/

omit [RegexEngine] in
theorem zip_append_singleton {α β : Type} {as : List α} {bs : List β} {a : α} (b : β)
    (h : as[bs.length]? = some a) : as.zip (bs ++ [b]) = as.zip bs ++ [(a, b)] := by
  induction bs generalizing as with
  | nil =>
    cases as with
    | nil => cases h
    | cons a' as =>
      cases h
      simp
  | cons b' bs ih =>
    cases as with
    | nil => cases h
    | cons a' as => rw [List.cons_append, List.zip_cons_cons, ih h, List.zip_cons_cons,
        List.cons_append]

theorem Amid.register {t : Ticket} {d : Draft Request} {numbers : List Nat}
    {waiting : List (Ticket × Resolved)}
    (h : Amid ps G s (.registering t d numbers waiting :: tasks))
    {r : Request} (hr : d.requests[numbers.length]? = some r) :
    Amid ps G (s.register ps.coalesce r)
      (.registering t d (numbers ++ [s.next]) waiting :: tasks) := by
  have hnew : Task.registered (.registering t d (numbers ++ [s.next]) waiting) =
      Task.registered (.registering t d numbers waiting) ++ [(r, s.next)] :=
    zip_append_singleton s.next hr
  -- What is registered grows by one request, in the middle of the list.
  have hgrow : (s.tree.requests ++
      (Task.registering t d (numbers ++ [s.next]) waiting :: tasks).flatMap Task.registered).Perm
      (s.tree.requests ++
        (Task.registering t d numbers waiting :: tasks).flatMap Task.registered ++
          [(r, s.next)]) := by
    rw [List.flatMap_cons, List.flatMap_cons, hnew, List.append_assoc, List.append_assoc,
      List.append_assoc]
    refine List.Perm.append_left _ (List.Perm.append_left _ ?_)
    exact List.perm_append_comm
  have hlt : ∀ u ∈ s.tree.requests ++
      (Task.registering t d numbers waiting :: tasks).flatMap Task.registered, u.2 ≠ s.next := by
    intro u hu
    have hfresh := h.fresh u hu
    omega
  exact {
    tree := h.tree
    owned := by
      refine List.Perm.trans ?_ ((h.owned.append_right [(r, s.next)]).trans hgrow.symm)
      rw [List.append_assoc]
      exact (Batch.tickets_register ps.coalesce s.pending (r, s.next)).append_left _
    unplaced := h.unplaced
    numbers := by
      refine (hgrow.map Prod.snd).nodup_iff.2 ?_
      rw [List.map_append, List.nodup_append]
      refine ⟨h.numbers, List.pairwise_singleton _ _, ?_⟩
      intro m hm n hn
      obtain ⟨u, hu, rfl⟩ := List.mem_map.1 hm
      rw [List.mem_singleton.1 hn]
      exact hlt u hu
    fresh := by
      intro u hu
      show u.2 < s.next + 1
      rcases List.mem_append.1 (hgrow.mem_iff.1 hu) with hu | hu
      · have hfresh := h.fresh u hu
        omega
      · rw [List.mem_singleton.1 hu]
        exact Nat.lt_succ_self _
    wellFormed := Batch.wellFormed_register h.wellFormed _
    sound := by
      obtain ⟨⟨hd, -, hwaiting⟩, htasks⟩ := List.forall_mem_cons.1 h.sound
      refine List.forall_mem_cons.2 ⟨⟨hd, ?_, hwaiting⟩, htasks⟩
      obtain ⟨hlen, -⟩ := List.getElem?_eq_some_iff.1 hr
      rw [List.length_append, List.length_singleton]
      omega
    origin := h.origin
    settled := h.settled }

/-! ## Filling a place -/

/-- The places after one of them is filled. -/
theorem requests_fill {t : Ticket} (hn : (s.tree.requests.map Prod.snd).Nodup)
    (ht : t ∈ s.tree.requests) (D : Draft Ticket) :
    ∃ others, s.tree.requests.Perm (t :: others) ∧
      (s.fill t D).tree.requests.Perm (D.requests ++ others) := by
  obtain ⟨before, after, heq⟩ := List.append_of_mem ht
  refine ⟨before ++ after, heq ▸ List.perm_middle, ?_⟩
  have hne : ∀ u ∈ before ++ after, u.2 ≠ t.2 := by
    intro u hu hut
    have hnodup : ((t :: (before ++ after)).map Prod.snd).Nodup :=
      ((heq ▸ List.perm_middle : s.tree.requests.Perm _).map Prod.snd).nodup_iff.1 hn
    rw [List.map_cons, List.nodup_cons] at hnodup
    exact hnodup.1 (hut ▸ List.mem_map_of_mem hu)
  have hkeep : ∀ us : List Ticket, (∀ u ∈ us, u.2 ≠ t.2) →
      (us.flatMap fun u => (if u.2 = t.2 then D else .pending u).requests) = us := by
    intro us hus
    induction us with
    | nil => rfl
    | cons u us ih =>
      obtain ⟨hu, hus⟩ := List.forall_mem_cons.1 hus
      rw [List.flatMap_cons, ih hus, if_neg hu]
      rfl
  show (s.tree.bind _).requests.Perm _
  rw [Draft.requests_bind, heq]
  refine (List.perm_middle.flatMap_right _).trans ?_
  rw [List.flatMap_cons, hkeep _ hne, if_pos rfl]

/-- **Filling a place with its draft does not change what the output comes to.** -/
theorem bind_fill {t : Ticket} {d : Draft Request} {numbers : List Nat} {U : List Ticket}
    (hd : ps.step t.1 = .ok d) (hlen : numbers.length = d.requests.length)
    (hn : (s.tree.requests.map Prod.snd).Nodup) (ht : t ∈ s.tree.requests)
    (hzip : ∀ u ∈ d.requests.zip numbers, u.2 ∉ U.map Prod.snd) :
    (s.fill t (d.label numbers)).tree.bind (complete ps U) =
      s.tree.bind (complete ps (t :: U)) := by
  have hdraft : draftOf ps t.1 = d := by
    rw [draftOf, hd]
    rfl
  show (s.tree.bind _).bind _ = _
  rw [Draft.bind_bind]
  apply Draft.bind_congr s.tree
  intro u hu
  by_cases hut : u.2 = t.2
  · -- The place is that of `t`: the requests of the draft wait for the next pass.
    obtain rfl : u = t := List.inj_on_of_nodup_map hn hu ht hut
    have hlabel : (d.label numbers).bind (complete ps U) = d.bind .pending :=
      Draft.label_bind hlen fun v hv => if_neg (hzip v hv)
    have hown : complete ps (u :: U) u = draftOf ps u.1 := if_pos (by simp)
    rw [if_pos rfl, hlabel, Draft.bind_pending, hown, hdraft]
  · rw [if_neg hut]
    show complete ps U u = _
    unfold complete
    simp only [List.map_cons, List.mem_cons, hut, false_or]

theorem Amid.fill {t : Ticket} {d : Draft Request} {numbers : List Nat}
    {waiting : List (Ticket × Resolved)}
    (h : Amid ps G s (.registering t d numbers waiting :: tasks))
    (hall : d.requests.length ≤ numbers.length) :
    Amid ps G (s.fill t (d.label numbers)) (.resuming waiting :: tasks) := by
  obtain ⟨⟨hd, hle, hwaiting⟩, htasks⟩ := List.forall_mem_cons.1 h.sound
  have hlen : numbers.length = d.requests.length := by omega
  -- The places that the tasks own, with and without that of `t`.
  generalize hU : (Task.resuming waiting :: tasks).flatMap Task.unplaced = U
  generalize hR : (Task.resuming waiting :: tasks).flatMap Task.registered = R
  have hunplaced : (Task.registering t d numbers waiting :: tasks).flatMap Task.unplaced = t :: U :=
    hU ▸ rfl
  have hregistered : (Task.registering t d numbers waiting :: tasks).flatMap Task.registered =
      d.requests.zip numbers ++ R := hR ▸ rfl
  have htree := h.tree
  have howned := h.owned
  have hin := h.unplaced
  have hnumbers := h.numbers
  have hfresh := h.fresh
  have horigin := h.origin
  have hsettled := h.settled
  rw [hunplaced] at htree howned hin horigin hsettled
  rw [hregistered] at howned hnumbers hfresh
  have ht : t ∈ s.tree.requests := hin t List.mem_cons_self
  have htreeNodup : (s.tree.requests.map Prod.snd).Nodup := by
    rw [List.map_append] at hnumbers
    exact (List.nodup_append.1 hnumbers).1
  obtain ⟨others, hothers, hfilled⟩ := requests_fill htreeNodup ht (d.label numbers)
  rw [Draft.requests_label hlen] at hfilled
  -- Requests are told apart by their numbers.
  have hall : ((t :: (U ++ s.pending.flatMap Batch.tickets)).map Prod.snd).Nodup :=
    (howned.map Prod.snd).nodup_iff.2 hnumbers
  have htU : t.2 ∉ U.map Prod.snd := by
    rw [List.map_cons, List.nodup_cons, List.map_append] at hall
    intro hmem
    exact hall.1 (List.mem_append_left _ hmem)
  have hzip : ∀ u ∈ d.requests.zip numbers, u.2 ∉ U.map Prod.snd := by
    intro u hu hmem
    obtain ⟨v, hv, hvu⟩ := List.mem_map.1 hmem
    rw [List.map_append, List.nodup_append] at hnumbers
    refine hnumbers.2.2 v.2 (List.mem_map_of_mem (hin v (List.mem_cons_of_mem t hv))) u.2 ?_ hvu
    exact List.mem_map_of_mem (List.mem_append_left R hu)
  have hafter : ((s.fill t (d.label numbers)).tree.requests ++ R).Perm
      (d.requests.zip numbers ++ others ++ R) := hfilled.append_right R
  have hbefore : (s.tree.requests ++ (d.requests.zip numbers ++ R)).Perm
      (t :: (d.requests.zip numbers ++ others ++ R)) := by
    refine (hothers.append_right _).trans (List.Perm.cons t ?_)
    show (others ++ (d.requests.zip numbers ++ R)).Perm _
    rw [← List.append_assoc]
    exact List.perm_append_comm.append_right R
  exact {
    tree := by
      rw [hU, ← htree]
      exact bind_fill hd hlen htreeNodup ht hzip
    owned := by
      rw [hU, hR]
      refine List.Perm.trans ?_ hafter.symm
      exact (List.perm_cons t).1 (howned.trans hbefore)
    unplaced := by
      rw [hU]
      intro u hu
      have hmem := hothers.mem_iff.1 (hin u (List.mem_cons_of_mem t hu))
      rcases List.mem_cons.1 hmem with rfl | hmem
      · exact absurd (List.mem_map_of_mem hu) htU
      · exact hfilled.mem_iff.2 (List.mem_append_right _ hmem)
    numbers := by
      rw [hR]
      have hnodup := (hbefore.map Prod.snd).nodup_iff.1 hnumbers
      rw [List.map_cons, List.nodup_cons] at hnodup
      exact (hafter.map Prod.snd).nodup_iff.2 hnodup.2
    fresh := by
      rw [hR]
      intro u hu
      exact hfresh u (hbefore.mem_iff.2 (List.mem_cons_of_mem t (hafter.mem_iff.1 hu)))
    wellFormed := h.wellFormed
    sound := List.forall_mem_cons.2 ⟨hwaiting, htasks⟩
    origin := by
      rw [hU]
      intro u hu
      exact horigin u (List.mem_cons_of_mem t hu)
    settled := by
      rw [hU]
      intro r hr
      rcases hsettled r hr with ⟨u, hu, rfl⟩ | hok
      · rcases List.mem_cons.1 hu with rfl | hu
        · exact .inr (by rw [hd]; rfl)
        · exact .inl ⟨u, hu, rfl⟩
      · exact .inr hok }

/-! ## Any step -/

/-- Where the draft of a request of the pass fails. -/
def Failing (ps : Passes) (G : Draft Request) : Prop :=
  ∃ r ∈ G.requests, (ps.step r).toOption = none

/-- **Every step of every task keeps what holds in the middle of a pass**, unless it fails; then a
request of the pass does. -/
theorem Amid.step {P : Value → Prop} {Q : Request → Prop} (hs : ps.Steady P Q)
    (hQ : ∀ r ∈ G.requests, Q r) (h : Amid ps G s (task :: tasks)) {rest : Option Task}
    {failed : List Error} (hstep : task.Step ps s s' rest failed) :
    failed = [] ∧ Amid ps G s' (rest.toList ++ tasks) ∨ failed ≠ [] ∧ Failing ps G := by
  obtain ⟨hsound, htasks⟩ := List.forall_mem_cons.1 h.sound
  cases hstep with
  | @answered b answer hanswer =>
    have hanswered : Task.Sound ps (.resuming (b.answers answer)) := by
      intro w hw
      refine Passes.resume_eq_step hs.answers hsound ?_ hanswer hw
      intro t ht id hid
      exact hs.of_sharedId? (hQ t.1 (h.origin t (List.mem_append_left _ ht))) hid
    exact .inl ⟨rfl, h.replace (Batch.fst_answers answer b) rfl hanswered⟩
  | @unanswered b e herror =>
    obtain ⟨t, ht⟩ := hsound.exists_ticket
    refine .inr ⟨by simp, t.1, h.origin t (List.mem_append_left _ ht), ?_⟩
    exact Passes.step_of_error hs.answers hsound herror ht
  | @walked t answer waiting d hd =>
    obtain ⟨hstep, hwaiting⟩ := List.forall_mem_cons.1 hsound
    have hwalked : Task.Sound ps (.registering t d [] waiting) :=
      ⟨hstep.symm.trans hd, Nat.zero_le _, hwaiting⟩
    exact .inl ⟨rfl, h.replace rfl List.zip_nil_right hwalked⟩
  | @unwalked t answer waiting e herror next pending =>
    obtain ⟨hstep, -⟩ := List.forall_mem_cons.1 hsound
    refine .inr ⟨by simp, t.1, h.origin t (List.mem_append_left _ List.mem_cons_self), ?_⟩
    rw [← hstep]
    exact congrArg Except.toOption herror
  | registered hr => exact .inl ⟨rfl, h.register hr⟩
  | filled hall => exact .inl ⟨rfl, h.fill hall⟩
  | ended =>
    exact .inl ⟨rfl, { h with sound := htasks }⟩

end Shared

end DocQuery
