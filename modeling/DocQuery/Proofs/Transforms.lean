import DocQuery.Proofs.Answering

/-!
# The transforms of a draft

A draft is rendered from the inside out, each transform taking what is rendered below it; a
rendering fails only where one of them turns its value away. Answers bring transforms of their own
into a draft and lose none.

* `Outcome` — how a computation fails, and how it succeeds; its laws follow the steps of a
  computation.
* `Transform.Refuses` — the handler or the output form turns a value away.
* `Draft.transforms` — the transforms of a draft.
* `Draft.mem_transforms_bind_iff` — those of a draft whose requests are answered.
* `Draft.outcome_render` — a rendering fails as one of the transforms does.
-/

set_option autoImplicit false

namespace DocQuery

/-! ## How a computation ends -/

/-- A computation fails only as `E` allows, and succeeds only as `P` does. -/
inductive Outcome {α : Type} (E : Error → Prop) (P : α → Prop) : Except Error α → Prop
  | error {e : Error} (fails : E e) : Outcome E P (.error e)
  | ok {a : α} (succeeds : P a) : Outcome E P (.ok a)

namespace Outcome

variable {α β : Type} {E E' : Error → Prop} {P P' : α → Prop} {Q : β → Prop} {x : Except Error α}

theorem of_eq_error (h : Outcome E P x) {e : Error} (hx : x = .error e) : E e := by
  subst hx
  cases h with
  | error fails => exact fails

theorem of_eq_ok (h : Outcome E P x) {a : α} (hx : x = .ok a) : P a := by
  subst hx
  cases h with
  | ok succeeds => exact succeeds

theorem mono (h : Outcome E P x) (hE : ∀ e, E e → E' e) (hP : ∀ a, P a → P' a) :
    Outcome E' P' x := by
  cases h with
  | error fails => exact .error (hE _ fails)
  | ok succeeds => exact .ok (hP _ succeeds)

theorem map {f : α → β} (h : Outcome E P x) (hf : ∀ a, P a → Q (f a)) :
    Outcome E Q (x.map f) := by
  cases h with
  | error fails => exact .error fails
  | ok succeeds => exact .ok (hf _ succeeds)

theorem bind {f : α → Except Error β} (h : Outcome E P x)
    (hf : ∀ a, P a → Outcome E Q (f a)) : Outcome E Q (x >>= f) := by
  cases h with
  | error fails => exact .error fails
  | ok succeeds => exact hf _ succeeds

/-- A round ends as its steps do. -/
theorem mapM {f : α → Except Error β} {l : List α} (h : ∀ a ∈ l, Outcome E Q (f a)) :
    Outcome E (fun bs => ∀ b ∈ bs, Q b) (l.mapM f) := by
  induction l with
  | nil => exact .ok nofun
  | cons a l ih =>
    obtain ⟨ha, hl⟩ := List.forall_mem_cons.1 h
    rw [List.mapM_cons]
    refine ha.bind fun b hb => (ih hl).bind fun bs hbs => .ok ?_
    exact List.forall_mem_cons.2 ⟨hb, hbs⟩

theorem underField {parent : String} (h : Outcome (fun e => E (e.within parent)) P x) :
    Outcome E P (DocQuery.underField parent x) := by
  cases h with
  | error fails => exact .error fails
  | ok succeeds => exact .ok succeeds

end Outcome

/-! ## What a transform turns away -/

namespace Transform

/-- The handler or the output form turns a value away. -/
inductive Refuses (t : Transform) (v : Value) (problem : String) : Prop
  | handler {h : Handler} (given : t.handler = some h) (passed : t.params.isEmpty = false)
    (refused : h v t.params = .error problem)
  | serializer {u : Value} {s : Validator} (handled : t.handle v = .ok u)
    (given : t.serializer = some s) (refused : s.serialize u = .error problem)

/-- A transform fails only at what it turns away. -/
theorem outcome_apply (t : Transform) (v : Value) :
    Outcome (fun e => ∃ problem, t.Refuses v problem ∧ e = t.failure problem) (fun _ => True)
      (t.apply v) := by
  have hhandle : Outcome (fun e => ∃ problem, t.Refuses v problem ∧ e = t.failure problem)
      (fun u => t.handle v = .ok u) (t.handle v) := by
    cases hu : t.handle v with
    | ok u => exact .ok rfl
    | error e =>
      refine .error ?_
      unfold handle at hu
      split at hu
      · rename_i h hgiven
        split at hu
        · cases hu
        · rename_i hpassed
          cases hrefused : h v t.params with
          | ok u => rw [hrefused] at hu; cases hu
          | error problem =>
            rw [hrefused] at hu
            cases hu
            exact ⟨problem, .handler hgiven (Bool.eq_false_iff.2 hpassed) hrefused, rfl⟩
      · cases hu
  refine hhandle.bind fun u hu => ?_
  unfold serialize
  split
  · rename_i s hgiven
    cases hrefused : s.serialize u with
    | ok w => exact .ok trivial
    | error problem => exact .error ⟨problem, .serializer hu hgiven hrefused, rfl⟩
  · exact .ok trivial

end Transform

/-! ## The transforms of a draft -/

namespace Draft

variable {ρ σ : Type} {t : Transform}

mutual

/-- The transforms of a draft, from the inside out. -/
def transforms : Draft ρ → List Transform
  | value _ => []
  | document writes => transformsOfWrites writes
  | list items => transformsOfItems items
  | pending _ => []
  | transformed inner t => inner.transforms ++ [t]

def transformsOfWrites : List (String × Draft ρ) → List Transform
  | [] => []
  | (_, d) :: r => d.transforms ++ transformsOfWrites r

def transformsOfItems : List (Draft ρ) → List Transform
  | [] => []
  | d :: r => d.transforms ++ transformsOfItems r

end

theorem mem_transformsOfWrites_iff {writes : Writes ρ} :
    t ∈ transformsOfWrites writes ↔ ∃ w ∈ writes, t ∈ w.2.transforms := by
  induction writes with
  | nil => simp [transformsOfWrites]
  | cons w writes ih => simp [transformsOfWrites, ih]

theorem mem_transformsOfItems_iff {items : List (Draft ρ)} :
    t ∈ transformsOfItems items ↔ ∃ d ∈ items, t ∈ d.transforms := by
  induction items with
  | nil => simp [transformsOfItems]
  | cons d items ih => simp [transformsOfItems, ih]

mutual

/-- **The transforms of an answered draft** are its own and those of the answers. -/
theorem mem_transforms_bind_iff (f : ρ → Draft σ) (d : Draft ρ) :
    t ∈ (d.bind f).transforms ↔ t ∈ d.transforms ∨ ∃ r ∈ d.requests, t ∈ (f r).transforms := by
  cases d with
  | value v => simp [bind, transforms, requests]
  | document writes => exact mem_transformsOfWrites_bindWrites_iff f writes
  | list items => exact mem_transformsOfItems_bindItems_iff f items
  | pending r => simp [bind, transforms, requests]
  | transformed inner u =>
    rw [bind, transforms, transforms, requests, List.mem_append, List.mem_append,
      mem_transforms_bind_iff f inner, or_right_comm]

theorem mem_transformsOfWrites_bindWrites_iff (f : ρ → Draft σ)
    (writes : List (String × Draft ρ)) :
    t ∈ transformsOfWrites (bindWrites f writes) ↔
      t ∈ transformsOfWrites writes ∨ ∃ r ∈ requestsOfWrites writes, t ∈ (f r).transforms := by
  match writes with
  | [] => simp [bindWrites, transformsOfWrites, requestsOfWrites]
  | (k, d) :: r =>
    simp only [bindWrites, transformsOfWrites, requestsOfWrites, List.mem_append, or_and_right,
      exists_or, mem_transforms_bind_iff f d, mem_transformsOfWrites_bindWrites_iff f r]
    exact or_or_or_comm

theorem mem_transformsOfItems_bindItems_iff (f : ρ → Draft σ) (items : List (Draft ρ)) :
    t ∈ transformsOfItems (bindItems f items) ↔
      t ∈ transformsOfItems items ∨ ∃ r ∈ requestsOfItems items, t ∈ (f r).transforms := by
  match items with
  | [] => simp [bindItems, transformsOfItems, requestsOfItems]
  | d :: r =>
    simp only [bindItems, transformsOfItems, requestsOfItems, List.mem_append, or_and_right,
      exists_or, mem_transforms_bind_iff f d, mem_transformsOfItems_bindItems_iff f r]
    exact or_or_or_comm

end

/-- Numbering changes no transform. -/
theorem mem_transforms_number_iff {n : Nat} {d : Draft ρ} :
    t ∈ (d.number n).transforms ↔ t ∈ d.transforms := by
  have hbind := @mem_transforms_bind_iff _ _ t (fun u => pending u.1) (d.number n)
  rw [bind_number] at hbind
  simpa [transforms] using hbind.symm

theorem mem_transformsOfWrites_numberWrites_iff {n : Nat} {writes : Writes ρ} :
    t ∈ transformsOfWrites (numberWrites n writes) ↔ t ∈ transformsOfWrites writes :=
  @mem_transforms_number_iff _ t n (document writes)

theorem mem_transformsOfItems_numberItems_iff {n : Nat} {items : List (Draft ρ)} :
    t ∈ transformsOfItems (numberItems n items) ↔ t ∈ transformsOfItems items :=
  @mem_transforms_number_iff _ t n (list items)

/-! ## Rendering -/

theorem outcome_gather {E : Error → Prop} {outcomes : Assoc (Except Error Value)}
    (h : ∀ w ∈ outcomes, Outcome E (fun _ => True) w.2) :
    Outcome E (fun _ => True) (gather outcomes) := by
  induction outcomes with
  | nil => exact .ok trivial
  | cons w outcomes ih =>
    obtain ⟨hw, hrest⟩ := List.forall_mem_cons.1 h
    exact hw.bind fun v _ => (ih hrest).bind fun vs _ => .ok trivial

theorem outcome_gatherItems {E : Error → Prop} {outcomes : List (Except Error Value)}
    (h : ∀ o ∈ outcomes, Outcome E (fun _ => True) o) :
    Outcome E (fun _ => True) (gatherItems outcomes) := by
  induction outcomes with
  | nil => exact .ok trivial
  | cons o outcomes ih =>
    obtain ⟨ho, hrest⟩ := List.forall_mem_cons.1 h
    exact ho.bind fun v _ => (ih hrest).bind fun vs _ => .ok trivial

variable {E : Error → Prop}

mutual

/-- **A rendering fails as one of its transforms does.** -/
theorem outcome_render (d : Draft Empty)
    (h : ∀ t ∈ d.transforms, ∀ v, Outcome E (fun _ => True) (t.apply v)) :
    Outcome E (fun _ => True) d.render := by
  cases d with
  | value v => exact .ok trivial
  | document writes =>
    refine .map (outcome_gather fun w hw => ?_) fun _ _ => trivial
    exact outcome_outcomesOfWrites writes h w ((Assoc.ofWrites_spec _).2 w hw)
  | list items =>
    exact .map (outcome_gatherItems (outcome_outcomesOfItems items h)) fun _ _ => trivial
  | pending r => exact nomatch r
  | transformed inner t =>
    obtain ⟨hinner, ht⟩ := List.forall_mem_append.1 h
    exact (outcome_render inner hinner).bind fun v _ => ht t (List.mem_singleton.2 rfl) v

theorem outcome_outcomesOfWrites (writes : List (String × Draft Empty))
    (h : ∀ t ∈ transformsOfWrites writes, ∀ v, Outcome E (fun _ => True) (t.apply v)) :
    ∀ w ∈ outcomesOfWrites writes, Outcome E (fun _ => True) w.2 := by
  match writes with
  | [] => exact nofun
  | (k, d) :: r =>
    obtain ⟨hd, hr⟩ := List.forall_mem_append.1 h
    exact List.forall_mem_cons.2 ⟨outcome_render d hd, outcome_outcomesOfWrites r hr⟩

theorem outcome_outcomesOfItems (items : List (Draft Empty))
    (h : ∀ t ∈ transformsOfItems items, ∀ v, Outcome E (fun _ => True) (t.apply v)) :
    ∀ o ∈ outcomesOfItems items, Outcome E (fun _ => True) o := by
  match items with
  | [] => exact nofun
  | d :: r =>
    obtain ⟨hd, hr⟩ := List.forall_mem_append.1 h
    exact List.forall_mem_cons.2 ⟨outcome_render d hd, outcome_outcomesOfItems r hr⟩

end

theorem outcome_renderDocument {writes : Writes Empty}
    (h : ∀ t ∈ transformsOfWrites writes, ∀ v, Outcome E (fun _ => True) (t.apply v)) :
    Outcome E (fun _ => True) (renderDocument writes) :=
  outcome_gather fun w hw =>
    outcome_outcomesOfWrites writes h w ((Assoc.ofWrites_spec _).2 w hw)

end Draft

end DocQuery
