import DocQuery.Evaluation.Draft
import DocQuery.Proofs.Success

/-!
# Answering the requests of a draft

`Draft.bind` puts an answer in the place of every request. Here are its laws, and the traversal that
stops where a request has no answer.

* `Draft.bind_bind`, `Draft.bind_congr`, `Draft.bind_pending` — the laws of `bind`.
* `Draft.traverse` — answers every request, or fails.
* `Draft.traverse_eq_some_iff` — a traversal succeeds when every request is answered, and then it is
  a `bind`.
* `Draft.bind_number_eq` — answers by number are answers by request.
* `Draft.toOption_render_list`, `Draft.toOption_renderDocument` — rendering goes through lists and
  documents, the latter as long as no key is written twice.
-/

set_option autoImplicit false

namespace DocQuery.Draft

variable {ρ σ τ : Type}

instance : Inhabited (Draft ρ) := ⟨value .null⟩

/-! ## The laws of `bind` -/

theorem bindWrites_eq_map (f : ρ → Draft σ) (writes : Writes ρ) :
    bindWrites f writes = writes.map fun w => (w.1, w.2.bind f) := by
  induction writes with
  | nil => rfl
  | cons w writes ih => rw [bindWrites, ih, List.map_cons]

theorem bindItems_eq_map (f : ρ → Draft σ) (items : List (Draft ρ)) :
    bindItems f items = items.map (bind f) := by
  induction items with
  | nil => rfl
  | cons d items ih => rw [bindItems, ih, List.map_cons]

theorem requestsOfWrites_eq_flatMap (writes : Writes ρ) :
    requestsOfWrites writes = writes.flatMap fun w => w.2.requests := by
  induction writes with
  | nil => rfl
  | cons w writes ih => rw [requestsOfWrites, ih, List.flatMap_cons]

theorem requestsOfItems_eq_flatMap (items : List (Draft ρ)) :
    requestsOfItems items = items.flatMap requests := by
  induction items with
  | nil => rfl
  | cons d items ih => rw [requestsOfItems, ih, List.flatMap_cons]

theorem mem_requestsOfWrites_flatten {parts : List (Writes ρ)} {r : ρ} :
    r ∈ requestsOfWrites parts.flatten ↔ ∃ writes ∈ parts, r ∈ requestsOfWrites writes := by
  simp only [requestsOfWrites_eq_flatMap, List.mem_flatMap, List.mem_flatten]
  constructor
  · rintro ⟨w, ⟨writes, hwrites, hw⟩, hr⟩
    exact ⟨writes, hwrites, w, hw, hr⟩
  · rintro ⟨writes, hwrites, w, hw, hr⟩
    exact ⟨w, ⟨writes, hwrites, hw⟩, hr⟩

mutual

theorem bind_bind (f : ρ → Draft σ) (g : σ → Draft τ) (d : Draft ρ) :
    (d.bind f).bind g = d.bind fun r => (f r).bind g := by
  cases d with
  | value v => rfl
  | document writes => exact congrArg document (bindWrites_bindWrites f g writes)
  | list items => exact congrArg list (bindItems_bindItems f g items)
  | pending r => rfl
  | transformed inner t => exact congrArg (transformed · t) (bind_bind f g inner)

theorem bindWrites_bindWrites (f : ρ → Draft σ) (g : σ → Draft τ)
    (writes : List (String × Draft ρ)) :
    bindWrites g (bindWrites f writes) = bindWrites (fun r => (f r).bind g) writes := by
  match writes with
  | [] => rfl
  | (k, d) :: r => simp only [bindWrites, bind_bind f g d, bindWrites_bindWrites f g r]

theorem bindItems_bindItems (f : ρ → Draft σ) (g : σ → Draft τ) (items : List (Draft ρ)) :
    bindItems g (bindItems f items) = bindItems (fun r => (f r).bind g) items := by
  match items with
  | [] => rfl
  | d :: r => simp only [bindItems, bind_bind f g d, bindItems_bindItems f g r]

end

mutual

/-- Only the answers of the draft's own requests matter. -/
theorem bind_congr {f g : ρ → Draft σ} (d : Draft ρ) (h : ∀ r ∈ d.requests, f r = g r) :
    d.bind f = d.bind g := by
  cases d with
  | value v => rfl
  | document writes => exact congrArg document (bindWrites_congr writes h)
  | list items => exact congrArg list (bindItems_congr items h)
  | pending r => exact h r (by simp [requests])
  | transformed inner t => exact congrArg (transformed · t) (bind_congr inner h)

theorem bindWrites_congr {f g : ρ → Draft σ} (writes : List (String × Draft ρ))
    (h : ∀ r ∈ requestsOfWrites writes, f r = g r) : bindWrites f writes = bindWrites g writes := by
  match writes with
  | [] => rfl
  | (k, d) :: r =>
    simp only [requestsOfWrites, List.mem_append] at h
    have hd : d.bind f = d.bind g := by
      apply bind_congr
      intro x hx
      exact h x (Or.inl hx)
    have hr : bindWrites f r = bindWrites g r := by
      apply bindWrites_congr
      intro x hx
      exact h x (Or.inr hx)
    rw [bindWrites, bindWrites, hd, hr]

theorem bindItems_congr {f g : ρ → Draft σ} (items : List (Draft ρ))
    (h : ∀ r ∈ requestsOfItems items, f r = g r) : bindItems f items = bindItems g items := by
  match items with
  | [] => rfl
  | d :: r =>
    simp only [requestsOfItems, List.mem_append] at h
    have hd : d.bind f = d.bind g := by
      apply bind_congr
      intro x hx
      exact h x (Or.inl hx)
    have hr : bindItems f r = bindItems g r := by
      apply bindItems_congr
      intro x hx
      exact h x (Or.inr hx)
    rw [bindItems, bindItems, hd, hr]

end

mutual

theorem bind_pending (d : Draft ρ) : d.bind pending = d := by
  cases d with
  | value v => rfl
  | document writes => exact congrArg document (bindWrites_pending writes)
  | list items => exact congrArg list (bindItems_pending items)
  | pending r => rfl
  | transformed inner t => exact congrArg (transformed · t) (bind_pending inner)

theorem bindWrites_pending (writes : List (String × Draft ρ)) :
    bindWrites pending writes = writes := by
  match writes with
  | [] => rfl
  | (k, d) :: r => rw [bindWrites, bind_pending d, bindWrites_pending r]

theorem bindItems_pending (items : List (Draft ρ)) : bindItems pending items = items := by
  match items with
  | [] => rfl
  | d :: r => rw [bindItems, bind_pending d, bindItems_pending r]

end

/-! ## Answers by number -/

/-- What is put in the places of numbered requests is put in the places of the requests, as long as
the answer of a number is that of its request. -/
theorem bind_number_eq {f : ρ × Nat → Draft σ} {g : ρ → Draft σ} (n : Nat) (d : Draft ρ)
    (h : ∀ t ∈ (d.number n).requests, f t = g t.1) : (d.number n).bind f = d.bind g := by
  calc (d.number n).bind f = (d.number n).bind fun t => g t.1 := bind_congr _ h
    _ = ((d.number n).bind fun t => pending t.1).bind g :=
      (bind_bind (fun t : ρ × Nat => pending t.1) g (d.number n)).symm
    _ = d.bind g := by rw [bind_number]

theorem bindItems_numberItems_eq {f : ρ × Nat → Draft σ} {g : ρ → Draft σ} (n : Nat)
    (items : List (Draft ρ)) (h : ∀ t ∈ requestsOfItems (numberItems n items), f t = g t.1) :
    bindItems f (numberItems n items) = bindItems g items :=
  list.inj (bind_number_eq n (list items) h)

theorem nodup_requests_numberWrites (n : Nat) (writes : Writes ρ) :
    ((requestsOfWrites (numberWrites n writes)).map Prod.snd).Nodup := by
  rw [requests_numberWrites, List.zipIdx_map_snd]
  exact List.nodup_range'

/-- A numbered request is a request of the document, and every request of it is numbered. -/
theorem exists_numberWrites_iff {n : Nat} {writes : Writes ρ} {r : ρ} :
    (∃ t ∈ requestsOfWrites (numberWrites n writes), t.1 = r) ↔ r ∈ requestsOfWrites writes := by
  rw [← List.mem_map, requests_numberWrites, List.zipIdx_map_fst]

theorem nodup_requests_numberItems (n : Nat) (items : List (Draft ρ)) :
    ((requestsOfItems (numberItems n items)).map Prod.snd).Nodup := by
  rw [requests_numberItems, List.zipIdx_map_snd]
  exact List.nodup_range'

/-- A numbered request is a request of the items, and every request of the items is numbered. -/
theorem exists_numberItems_iff {n : Nat} {items : List (Draft ρ)} {r : ρ} :
    (∃ u ∈ requestsOfItems (numberItems n items), u.1 = r) ↔ ∃ d ∈ items, r ∈ d.requests := by
  rw [← List.mem_map, requests_numberItems, List.zipIdx_map_fst, requestsOfItems_eq_flatMap,
    List.mem_flatMap]

/-! ## Traversal -/

mutual

/-- Puts the answer of every request in its place, if every request has one. -/
def traverse (f : ρ → Except Error (Draft σ)) : Draft ρ → Except Error (Draft σ)
  | value v => .ok (value v)
  | document writes => (traverseWrites f writes).map document
  | list items => (traverseItems f items).map list
  | pending r => f r
  | transformed inner t => (traverse f inner).map (transformed · t)

def traverseWrites (f : ρ → Except Error (Draft σ)) :
    List (String × Draft ρ) → Except Error (List (String × Draft σ))
  | [] => .ok []
  | (k, d) :: r => do
    let e ← traverse f d
    let es ← traverseWrites f r
    .ok ((k, e) :: es)

def traverseItems (f : ρ → Except Error (Draft σ)) :
    List (Draft ρ) → Except Error (List (Draft σ))
  | [] => .ok []
  | d :: r => do
    let e ← traverse f d
    let es ← traverseItems f r
    .ok (e :: es)

end

theorem toOption_traverseWrites (f : ρ → Except Error (Draft σ)) (writes : Writes ρ) :
    (traverseWrites f writes).toOption =
      writes.mapM fun w => (w.2.traverse f).toOption.map fun e => (w.1, e) := by
  induction writes with
  | nil => rfl
  | cons w writes ih =>
    simp only [traverseWrites, toOption_monadBind, toOption_ok, List.mapM_cons, ← ih]
    cases (w.2.traverse f).toOption <;> cases (traverseWrites f writes).toOption <;> rfl

theorem toOption_traverseItems (f : ρ → Except Error (Draft σ)) (items : List (Draft ρ)) :
    (traverseItems f items).toOption = items.mapM fun d => (d.traverse f).toOption := by
  induction items with
  | nil => rfl
  | cons d items ih =>
    simp only [traverseItems, toOption_monadBind, toOption_ok, List.mapM_cons, ← ih]
    cases (d.traverse f).toOption <;> cases (traverseItems f items).toOption <;> rfl

mutual

/-- A traversal succeeds when every request is answered, and puts the answers in their places. -/
theorem traverse_eq_some_iff (f : ρ → Except Error (Draft σ)) (d : Draft ρ) (e : Draft σ) :
    (d.traverse f).toOption = some e ↔
      (∀ r ∈ d.requests, (f r).toOption.isSome) ∧
        d.bind (fun r => (f r).toOption.getD default) = e := by
  cases d with
  | value v => simp [traverse, requests, bind]
  | document writes =>
    simp only [traverse, toOption_map, Option.map_eq_some_iff, requests, bind]
    constructor
    · rintro ⟨es, hes, rfl⟩
      obtain ⟨hr, he⟩ := (traverseWrites_eq_some_iff f writes es).1 hes
      exact ⟨hr, congrArg document he⟩
    · rintro ⟨hr, rfl⟩
      exact ⟨_, (traverseWrites_eq_some_iff f writes _).2 ⟨hr, rfl⟩, rfl⟩
  | list items =>
    simp only [traverse, toOption_map, Option.map_eq_some_iff, requests, bind]
    constructor
    · rintro ⟨es, hes, rfl⟩
      obtain ⟨hr, he⟩ := (traverseItems_eq_some_iff f items es).1 hes
      exact ⟨hr, congrArg list he⟩
    · rintro ⟨hr, rfl⟩
      exact ⟨_, (traverseItems_eq_some_iff f items _).2 ⟨hr, rfl⟩, rfl⟩
  | pending r =>
    simp only [traverse, requests, bind, List.mem_singleton, forall_eq]
    cases (f r).toOption <;> simp
  | transformed inner t =>
    simp only [traverse, toOption_map, Option.map_eq_some_iff, requests, bind]
    constructor
    · rintro ⟨e', he', rfl⟩
      obtain ⟨hr, he⟩ := (traverse_eq_some_iff f inner e').1 he'
      exact ⟨hr, congrArg (transformed · t) he⟩
    · rintro ⟨hr, rfl⟩
      exact ⟨_, (traverse_eq_some_iff f inner _).2 ⟨hr, rfl⟩, rfl⟩

theorem traverseWrites_eq_some_iff (f : ρ → Except Error (Draft σ))
    (writes : List (String × Draft ρ)) (es : List (String × Draft σ)) :
    (traverseWrites f writes).toOption = some es ↔
      (∀ r ∈ requestsOfWrites writes, (f r).toOption.isSome) ∧
        bindWrites (fun r => (f r).toOption.getD default) writes = es := by
  match writes with
  | [] => simp [traverseWrites, requestsOfWrites, bindWrites]
  | (k, d) :: r =>
    have hd := traverse_eq_some_iff f d
    have hr := traverseWrites_eq_some_iff f r
    simp only [traverseWrites, toOption_monadBind, toOption_ok, requestsOfWrites, bindWrites,
      Option.bind_eq_some_iff, hd, hr, List.mem_append]
    constructor
    · rintro ⟨e, ⟨h₁, rfl⟩, es', ⟨h₂, rfl⟩, h⟩
      exact ⟨fun x hx => hx.elim (h₁ x) (h₂ x), Option.some.inj h⟩
    · rintro ⟨h, rfl⟩
      exact ⟨_, ⟨fun x hx => h x (Or.inl hx), rfl⟩, _, ⟨fun x hx => h x (Or.inr hx), rfl⟩, rfl⟩

theorem traverseItems_eq_some_iff (f : ρ → Except Error (Draft σ))
    (items : List (Draft ρ)) (es : List (Draft σ)) :
    (traverseItems f items).toOption = some es ↔
      (∀ r ∈ requestsOfItems items, (f r).toOption.isSome) ∧
        bindItems (fun r => (f r).toOption.getD default) items = es := by
  match items with
  | [] => simp [traverseItems, requestsOfItems, bindItems]
  | d :: r =>
    have hd := traverse_eq_some_iff f d
    have hr := traverseItems_eq_some_iff f r
    simp only [traverseItems, toOption_monadBind, toOption_ok, requestsOfItems, bindItems,
      Option.bind_eq_some_iff, hd, hr, List.mem_append]
    constructor
    · rintro ⟨e, ⟨h₁, rfl⟩, es', ⟨h₂, rfl⟩, h⟩
      exact ⟨fun x hx => hx.elim (h₁ x) (h₂ x), Option.some.inj h⟩
    · rintro ⟨h, rfl⟩
      exact ⟨_, ⟨fun x hx => h x (Or.inl hx), rfl⟩, _, ⟨fun x hx => h x (Or.inr hx), rfl⟩, rfl⟩

end

/-- Only the answers of the draft's own requests matter, and of a failure only that it is one. -/
theorem toOption_traverse_congr {f g : ρ → Except Error (Draft σ)} {d : Draft ρ}
    (h : ∀ r ∈ d.requests, (f r).toOption = (g r).toOption) :
    (d.traverse f).toOption = (d.traverse g).toOption := by
  have hsome : (∀ r ∈ d.requests, (f r).toOption.isSome) ↔
      ∀ r ∈ d.requests, (g r).toOption.isSome := by
    apply forall₂_congr
    intro r hr
    rw [h r hr]
  have hbind : d.bind (fun r => (f r).toOption.getD default) =
      d.bind fun r => (g r).toOption.getD default := by
    apply bind_congr
    intro r hr
    rw [h r hr]
  ext e
  rw [traverse_eq_some_iff, traverse_eq_some_iff, hsome, hbind]

theorem toOption_traverseWrites_congr {f g : ρ → Except Error (Draft σ)} {writes : Writes ρ}
    (h : ∀ r ∈ requestsOfWrites writes, (f r).toOption = (g r).toOption) :
    (traverseWrites f writes).toOption = (traverseWrites g writes).toOption := by
  have key := toOption_traverse_congr (d := document writes) h
  simp only [traverse, toOption_map] at key
  exact Option.map_injective (fun _ _ => document.inj) key

/-- Two traversals, one after the other, are one that goes on with every answer. -/
theorem toOption_traverse_traverse (f : ρ → Except Error (Draft σ)) (g : σ → Except Error (Draft τ))
    (d : Draft ρ) :
    ((d.traverse f).toOption.bind fun e => (e.traverse g).toOption) =
      (d.traverse fun r => (f r).bind (traverse g)).toOption := by
  ext e
  simp only [Option.bind_eq_some_iff, traverse_eq_some_iff, toOption_bind]
  constructor
  · rintro ⟨_, ⟨hf, rfl⟩, hg, rfl⟩
    have hrest : ∀ r ∈ d.requests, (f r).toOption.bind (fun e => (e.traverse g).toOption) =
        some (((f r).toOption.getD default).bind fun u => (g u).toOption.getD default) := by
      intro r hr
      obtain ⟨e, he⟩ := Option.isSome_iff_exists.1 (hf r hr)
      rw [he, Option.bind_some, Option.getD_some, traverse_eq_some_iff]
      refine ⟨?_, rfl⟩
      intro u hu
      apply hg u
      rw [requests_bind]
      exact List.mem_flatMap.2 ⟨r, hr, by rw [he]; exact hu⟩
    constructor
    · intro r hr
      rw [hrest r hr]
      rfl
    · rw [bind_bind]
      apply bind_congr
      intro r hr
      rw [hrest r hr]
      rfl
  · rintro ⟨h, rfl⟩
    have hboth : ∀ r ∈ d.requests, ∃ e, (f r).toOption = some e ∧
        (∀ u ∈ e.requests, (g u).toOption.isSome) ∧
        ((f r).toOption.bind fun e => (e.traverse g).toOption) =
          some (e.bind fun u => (g u).toOption.getD default) := by
      intro r hr
      obtain ⟨e', he'⟩ := Option.isSome_iff_exists.1 (h r hr)
      obtain ⟨e, he, hrest⟩ := Option.bind_eq_some_iff.1 he'
      obtain ⟨hg, rfl⟩ := (traverse_eq_some_iff g e e').1 hrest
      exact ⟨e, he, hg, he'⟩
    refine ⟨_, ⟨?_, rfl⟩, ?_, ?_⟩
    · intro r hr
      obtain ⟨e, he, -⟩ := hboth r hr
      rw [he]
      rfl
    · intro u hu
      rw [requests_bind] at hu
      obtain ⟨r, hr, hu⟩ := List.mem_flatMap.1 hu
      obtain ⟨e, he, hg, -⟩ := hboth r hr
      rw [he] at hu
      exact hg u hu
    · rw [bind_bind]
      apply bind_congr
      intro r hr
      obtain ⟨e, he, -, hrest⟩ := hboth r hr
      rw [hrest, he]
      rfl

/-- A traversal is a round over the numbered requests, whose answers are put in their places. -/
theorem toOption_traverse_number {f : ρ → Except Error (Draft σ)} {n : Nat} {d : Draft ρ}
    {κ : Type} {answers : κ → Nat → Draft σ} {found : Option κ}
    (h : (found.map fun k => (d.number n).requests.map fun t => answers k t.2) =
      (d.number n).requests.mapM fun t => (f t.1).toOption) :
    (found.map fun k => (d.number n).bind fun t => answers k t.2) = (d.traverse f).toOption := by
  have hfst : (d.number n).requests.map Prod.fst = d.requests := by
    rw [requests_number, List.zipIdx_map_fst]
  symm
  cases found with
  | none =>
    obtain ⟨t, ht, hnone⟩ := mapM_eq_none_iff.1 h.symm
    rw [Option.map_none, Option.eq_none_iff_forall_ne_some]
    intro e he
    obtain ⟨hall, -⟩ := (traverse_eq_some_iff f d e).1 he
    have hsome := hall t.1 (hfst ▸ List.mem_map_of_mem ht)
    simp [hnone] at hsome
  | some k =>
    have hk := mapM_eq_some_iff.1 h.symm
    rw [List.map_map] at hk
    replace hk := List.map_inj_left.1 hk
    apply (traverse_eq_some_iff f d _).2
    constructor
    · intro r hr
      rw [← hfst] at hr
      obtain ⟨t, ht, rfl⟩ := List.mem_map.1 hr
      rw [hk t ht]
      rfl
    · symm
      apply bind_number_eq n d
      intro t ht
      rw [hk t ht]
      rfl

theorem toOption_traverseWrites_number {f : ρ → Except Error (Draft σ)} {n : Nat}
    {writes : Writes ρ} {κ : Type} {answers : κ → Nat → Draft σ} {found : Option κ}
    (h : (found.map fun k =>
        (requestsOfWrites (numberWrites n writes)).map fun t => answers k t.2) =
      (requestsOfWrites (numberWrites n writes)).mapM fun t => (f t.1).toOption) :
    (found.map fun k => bindWrites (fun t => answers k t.2) (numberWrites n writes)) =
      (traverseWrites f writes).toOption := by
  have key := toOption_traverse_number (d := document writes) h
  simp only [traverse, toOption_map, number, bind] at key
  apply Option.map_injective fun _ _ => document.inj
  rw [← key, Option.map_map]
  rfl

/-! ## Rendering -/

theorem outcomesOfItems_eq_map (items : List (Draft Empty)) :
    outcomesOfItems items = items.map render := by
  induction items with
  | nil => rfl
  | cons d items ih => rw [outcomesOfItems, ih, List.map_cons]

theorem outcomesOfWrites_eq_map (writes : Writes Empty) :
    outcomesOfWrites writes = writes.map fun w => (w.1, w.2.render) := by
  induction writes with
  | nil => rfl
  | cons w writes ih => rw [outcomesOfWrites, ih, List.map_cons]

theorem toOption_gatherItems (outcomes : List (Except Error Value)) :
    (gatherItems outcomes).toOption = outcomes.mapM Except.toOption := by
  induction outcomes with
  | nil => rfl
  | cons o outcomes ih =>
    simp only [gatherItems, toOption_monadBind, toOption_ok, List.mapM_cons, ← ih]
    rfl

theorem toOption_gather (outcomes : Assoc (Except Error Value)) :
    (gather outcomes).toOption = outcomes.mapM fun w => w.2.toOption.map fun v => (w.1, v) := by
  induction outcomes with
  | nil => rfl
  | cons o outcomes ih =>
    simp only [gather, toOption_monadBind, toOption_ok, List.mapM_cons, ← ih]
    cases o.2.toOption <;> cases (gather outcomes).toOption <;> rfl

theorem toOption_render_list (items : List (Draft Empty)) :
    (list items).render.toOption =
      (items.mapM fun d : Draft Empty => d.render.toOption).map .array := by
  rw [render, toOption_map, toOption_gatherItems, outcomesOfItems_eq_map, List.mapM_map]
  rfl

/-- As long as no key is written twice, every entry of a document is rendered. -/
theorem toOption_renderDocument {writes : Writes Empty} (h : (writes.map Prod.fst).Nodup) :
    (renderDocument writes).toOption =
      writes.mapM fun w => w.2.render.toOption.map fun v => (w.1, v) := by
  have hkeys : (outcomesOfWrites writes).map Prod.fst = writes.map Prod.fst := by
    rw [outcomesOfWrites_eq_map, List.map_map]
    rfl
  rw [renderDocument, Assoc.ofWrites_of_nodup (hkeys ▸ h), toOption_gather,
    outcomesOfWrites_eq_map, List.mapM_map]
  rfl

end DocQuery.Draft
