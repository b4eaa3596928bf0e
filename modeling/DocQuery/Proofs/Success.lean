import DocQuery.Error
import Mathlib.Data.Option.Basic

/-!
# What succeeds

Two computations agree when they succeed with the same result; which failure arises is left out.
Forgetting failures turns a computation into an option, and options may be taken in any order: this
is what makes evaluations comparable that meet the same failures at different times.

* `bind_eq_ok_iff`, `map_eq_ok_iff`, `mapError_eq_ok_iff` — what a success says of the steps.
* `toOption_bind`, `toOption_map`, `toOption_mapM` — forgetting failures goes through every step.
* `mapM_eq_some_iff`, `mapM_eq_none_iff` — a round over a list succeeds when every step does.
* `exists_mapM`, `exists_of_mem_mapM` — what every step of a round comes to.
* `mapM_congr`, `mapM_eq_of_map_eq` — rounds that treat matching elements alike.
* `mapM_bind_mapM`, `mapM_flatMap` — two rounds over a list are one, and so are rounds over lists.
-/

set_option autoImplicit false

namespace DocQuery

variable {ε α β γ : Type}

section Except

theorem toOption_eq_some_iff {x : Except ε α} {a : α} : x.toOption = some a ↔ x = .ok a := by
  cases x <;> simp [Except.toOption]

theorem toOption_eq_none_iff {x : Except ε α} : x.toOption = none ↔ ∃ e, x = .error e := by
  cases x <;> simp [Except.toOption]

theorem bind_eq_ok_iff {x : Except ε α} {f : α → Except ε β} {b : β} :
    (x >>= f) = .ok b ↔ ∃ a, x = .ok a ∧ f a = .ok b := by
  cases x <;> simp [bind, Except.bind]

theorem map_eq_ok_iff {x : Except ε α} {f : α → β} {b : β} :
    x.map f = .ok b ↔ ∃ a, x = .ok a ∧ f a = b := by
  cases x <;> simp [Except.map]

theorem mapError_eq_ok_iff {δ : Type} {x : Except ε α} {f : ε → δ} {a : α} :
    x.mapError f = .ok a ↔ x = .ok a := by
  cases x <;> simp [Except.mapError]

theorem mapError_ok {δ : Type} (f : ε → δ) (a : α) : (Except.ok a).mapError f = .ok a := rfl

theorem mapError_mapError {δ ζ : Type} (f : ε → δ) (g : δ → ζ) (x : Except ε α) :
    (x.mapError f).mapError g = x.mapError fun e => g (f e) := by
  cases x <;> rfl

/-- Computations that agree once failures are forgotten succeed alike and fail alike. -/
theorem agree_of_toOption_eq {x y : Except ε α} (h : x.toOption = y.toOption) :
    (∀ a, x = .ok a ↔ y = .ok a) ∧ ((∃ e, x = .error e) ↔ ∃ e, y = .error e) := by
  constructor
  · intro a
    rw [← toOption_eq_some_iff, ← toOption_eq_some_iff, h]
  · rw [← toOption_eq_none_iff, ← toOption_eq_none_iff, h]

@[simp] theorem toOption_ok (a : α) : (Except.ok a : Except ε α).toOption = some a := rfl

@[simp] theorem toOption_error (e : ε) : (Except.error e : Except ε α).toOption = none := rfl

@[simp] theorem toOption_bind (x : Except ε α) (f : α → Except ε β) :
    (x.bind f).toOption = x.toOption.bind fun a => (f a).toOption := by
  cases x <;> rfl

@[simp] theorem toOption_monadBind (x : Except ε α) (f : α → Except ε β) :
    (x >>= f).toOption = x.toOption.bind fun a => (f a).toOption := by
  cases x <;> rfl

@[simp] theorem toOption_map (f : α → β) (x : Except ε α) :
    (x.map f).toOption = x.toOption.map f := by
  cases x <;> rfl

@[simp] theorem toOption_mapError {δ : Type} (f : ε → δ) (x : Except ε α) :
    (x.mapError f).toOption = x.toOption := by
  cases x <;> rfl

@[simp] theorem toOption_underField (parent : String) (x : Except Error α) :
    (underField parent x).toOption = x.toOption :=
  toOption_mapError _ x

theorem toOption_mapM (f : α → Except ε β) (l : List α) :
    (l.mapM f).toOption = l.mapM fun a => (f a).toOption := by
  induction l with
  | nil => rfl
  | cons a l ih =>
    rw [List.mapM_cons, List.mapM_cons, toOption_monadBind]
    cases (f a).toOption with
    | none => rfl
    | some b =>
      show ((l.mapM f) >>= fun bs => pure (b :: bs)).toOption = _
      rw [toOption_monadBind, ih]
      rfl

end Except

section Except

/-- A round succeeds where every step does. -/
theorem exists_mapM {P : β → Prop} {f : α → Except ε β} {l : List α}
    (h : ∀ a ∈ l, ∃ b, f a = .ok b ∧ P b) : ∃ bs, l.mapM f = .ok bs ∧ ∀ b ∈ bs, P b := by
  induction l with
  | nil => exact ⟨[], rfl, nofun⟩
  | cons a l ih =>
    obtain ⟨⟨b, hb, hP⟩, hrest⟩ := List.forall_mem_cons.1 h
    obtain ⟨bs, hbs, hall⟩ := ih hrest
    refine ⟨b :: bs, ?_, List.forall_mem_cons.2 ⟨hP, hall⟩⟩
    rw [List.mapM_cons]
    exact bind_eq_ok_iff.2 ⟨b, hb, bind_eq_ok_iff.2 ⟨bs, hbs, rfl⟩⟩

/-- What comes out of a round came out of one of its steps. -/
theorem exists_of_mem_mapM {f : α → Except ε β} {l : List α} {bs : List β}
    (h : l.mapM f = .ok bs) {b : β} (hb : b ∈ bs) : ∃ a ∈ l, f a = .ok b := by
  induction l generalizing bs with
  | nil =>
    cases h
    cases hb
  | cons a l ih =>
    rw [List.mapM_cons] at h
    obtain ⟨c, hc, h⟩ := bind_eq_ok_iff.1 h
    obtain ⟨cs, hcs, h⟩ := bind_eq_ok_iff.1 h
    cases h
    rcases List.mem_cons.1 hb with rfl | hb
    · exact ⟨a, List.mem_cons_self, hc⟩
    · obtain ⟨a', ha', hab⟩ := ih hcs hb
      exact ⟨a', List.mem_cons_of_mem a ha', hab⟩

end Except

section Monad

variable {m : Type → Type} [Monad m] [LawfulMonad m]

theorem mapM_congr {f g : α → m β} {l : List α} (h : ∀ a ∈ l, f a = g a) :
    l.mapM f = l.mapM g := by
  induction l with
  | nil => rfl
  | cons a l ih =>
    have hrest : ∀ b ∈ l, f b = g b := by
      intro b hb
      exact h b (List.mem_cons_of_mem a hb)
    rw [List.mapM_cons, List.mapM_cons, h a List.mem_cons_self, ih hrest]

/-- Rounds over two lists are one where the elements that match are treated alike. -/
theorem mapM_eq_of_map_eq {k : α → γ} {f : α → m β} {l l' : List α}
    (hmap : l.map k = l'.map k) (h : ∀ a ∈ l, ∀ b, k a = k b → f a = f b) :
    l.mapM f = l'.mapM f := by
  induction l generalizing l' with
  | nil =>
    cases l' with
    | nil => rfl
    | cons b l' => cases hmap
  | cons a l ih =>
    cases l' with
    | nil => cases hmap
    | cons b l' =>
      rw [List.map_cons, List.map_cons, List.cons.injEq] at hmap
      rw [List.mapM_cons, List.mapM_cons, h a List.mem_cons_self b hmap.1,
        ih hmap.2 fun c hc => h c (List.mem_cons_of_mem a hc)]

end Monad

section Option

/-- A round over the results of a round is one round. -/
theorem mapM_bind_mapM (f : α → Option β) (g : β → Option γ) (l : List α) :
    ((l.mapM f).bind fun bs => bs.mapM g) = l.mapM fun a => (f a).bind g := by
  induction l with
  | nil => rfl
  | cons a l ih =>
    rw [List.mapM_cons, List.mapM_cons, ← ih]
    cases f a with
    | none => rfl
    | some b =>
      cases hl : l.mapM f with
      | none => cases g b <;> simp [Option.bind_eq_bind]
      | some bs => simp [Option.bind_eq_bind]

/-- What is done to every result of a round may be done after it. -/
theorem mapM_map_result (f : α → Option β) (g : β → γ) (l : List α) :
    (l.mapM fun a => (f a).map g) = (l.mapM f).map (List.map g) := by
  induction l with
  | nil => rfl
  | cons a l ih =>
    rw [List.mapM_cons, List.mapM_cons, ih]
    cases f a with
    | none => rfl
    | some b => cases l.mapM f <;> rfl

theorem mapM_eq_some_iff {f : α → Option β} {l : List α} {bs : List β} :
    l.mapM f = some bs ↔ l.map f = bs.map some := by
  induction l generalizing bs with
  | nil => cases bs <;> simp
  | cons a l ih =>
    rw [List.mapM_cons]
    cases bs with
    | nil => cases f a <;> cases l.mapM f <;> simp [Option.bind_eq_bind]
    | cons b bs =>
      rw [List.map_cons, List.map_cons, List.cons.injEq, ← ih]
      cases f a <;> cases l.mapM f <;> simp [Option.bind_eq_bind]

/-- A round that succeeds has a result for every element. -/
theorem exists_map_of_mapM [Inhabited γ] {f : α → β} {g : α → Option γ} {l : List α}
    {bs : List (β × γ)} (h : (l.mapM fun a => (g a).map fun c => (f a, c)) = some bs) :
    ∃ k : α → γ, (∀ a ∈ l, g a = some (k a)) ∧ bs = l.map fun a => (f a, k a) := by
  have hmap := mapM_eq_some_iff.1 h
  have hg : ∀ a ∈ l, g a = some ((g a).getD default) := by
    intro a ha
    have hmem : (g a).map (fun c => (f a, c)) ∈ bs.map some := hmap ▸ List.mem_map_of_mem ha
    obtain ⟨b, -, hb⟩ := List.mem_map.1 hmem
    obtain ⟨c, hc, -⟩ := Option.map_eq_some_iff.1 hb.symm
    rw [hc, Option.getD_some]
  refine ⟨fun a => (g a).getD default, hg, ?_⟩
  apply (List.map_inj_right fun _ _ => Option.some.inj).1
  rw [← hmap, List.map_map]
  apply List.map_congr_left
  intro a ha
  rw [hg a ha]
  rfl

theorem mapM_eq_none_iff {f : α → Option β} {l : List α} :
    l.mapM f = none ↔ ∃ a ∈ l, f a = none := by
  induction l with
  | nil => simp
  | cons a l ih =>
    rw [List.mapM_cons]
    simp only [List.mem_cons, exists_eq_or_imp, ← ih]
    cases f a <;> cases l.mapM f <;> simp [Option.bind_eq_bind]

/-- Rounds over the lists of a list are one round over their concatenation. -/
theorem mapM_flatMap (f : β → Option γ) (g : α → List β) (l : List α) :
    (l.flatMap g).mapM f = (l.mapM fun a => (g a).mapM f).map List.flatten := by
  induction l with
  | nil => rfl
  | cons a l ih =>
    rw [List.flatMap_cons, List.mapM_append, List.mapM_cons, ih]
    cases (g a).mapM f with
    | none => rfl
    | some bs => cases l.mapM fun a => (g a).mapM f <;> rfl

end Option

end DocQuery
