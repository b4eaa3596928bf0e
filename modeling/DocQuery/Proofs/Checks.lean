import DocQuery.Check

/-!
# Coercions that go through checks in order

* `Coercion.Follows` — a coercion goes through a list of checks: it fails as the first failing check
  does, and changes the literals in front of it and nothing else.
* `Coercion.Follows.map`, `Coercion.Follows.within`, `Coercion.Follows.andThen`,
  `Coercion.Follows.all` — how such coercions are put together.
* `Coercion.Follows.failure_eq_none_iff`, `Coercion.Follows.of_passes`,
  `Coercion.Follows.of_first_failing` — what it comes to.
-/

set_option autoImplicit false

namespace DocQuery

namespace Check

variable {α : Type} {c : Check α} {checks : List (Check α)}

theorem passes_demand (field : String) (met : Bool) (problem : String) :
    (demand field met problem : Check α).passes = met := by
  cases met <;> rfl

theorem passes_literal (field : String) (verdict : Except String α) :
    (literal field verdict).passes = true ↔ ∃ a, verdict = .ok a := by
  cases verdict with
  | ok a => exact ⟨fun _ => ⟨a, rfl⟩, fun _ => rfl⟩
  | error problem => exact ⟨nofun, nofun⟩

theorem passes_within (parent : String) (c : Check α) : (c.within parent).passes = c.passes := rfl

theorem failure_eq_none_iff : c.failure = none ↔ c.passes = true := by
  unfold failure passes
  cases c.verdict with
  | ok new => exact ⟨fun _ => rfl, fun _ => rfl⟩
  | error problem => exact ⟨nofun, nofun⟩

theorem firstFailure_eq_none_iff : firstFailure checks = none ↔ ∀ c ∈ checks, c.passes = true := by
  simp only [firstFailure, List.findSome?_eq_none_iff, failure_eq_none_iff]

theorem firstFailure_cons : firstFailure (c :: checks) = c.failure.or (firstFailure checks) := by
  rw [firstFailure, List.findSome?_cons]
  cases c.failure <;> rfl

theorem firstFailure_append (checks more : List (Check α)) :
    firstFailure (checks ++ more) = (firstFailure checks).or (firstFailure more) :=
  List.findSome?_append

theorem settled_cons_of_passes (h : c.passes = true) :
    settled (c :: checks) = c.coerced.toList ++ settled checks := by
  rw [settled, List.takeWhile_cons_of_pos h, List.filterMap_cons, settled]
  cases c.coerced <;> rfl

theorem settled_cons_of_fails (h : c.passes = false) : settled (c :: checks) = [] := by
  rw [settled, List.takeWhile_cons_of_neg (by simp [h]), List.filterMap_nil]

theorem settled_append_of_passes (h : ∀ c ∈ checks, c.passes = true) (more : List (Check α)) :
    settled (checks ++ more) = checks.filterMap coerced ++ settled more := by
  rw [settled, List.takeWhile_append_of_pos h, List.filterMap_append, settled]

/-- Where no check fails, every literal that is checked is replaced. -/
theorem settled_of_passes (h : ∀ c ∈ checks, c.passes = true) :
    settled checks = checks.filterMap coerced := by
  simpa [settled] using settled_append_of_passes h []

/-- Nothing behind a failing check is replaced. -/
theorem settled_append_of_fails {e : Error} (h : firstFailure checks = some e)
    (more : List (Check α)) : settled (checks ++ more) = settled checks := by
  induction checks with
  | nil => cases h
  | cons c checks ih =>
    rw [List.cons_append]
    cases hc : c.passes with
    | false => rw [settled_cons_of_fails hc, settled_cons_of_fails hc]
    | true =>
      rw [firstFailure_cons, failure_eq_none_iff.2 hc, Option.none_or] at h
      rw [settled_cons_of_passes hc, settled_cons_of_passes hc, ih h]

/-- A problem of a check that nothing encloses. -/
theorem failure_of_error {field problem : String} :
    (⟨[], field, .error problem⟩ : Check α).failure =
      some (.invalid (field ++ ": " ++ problem)) := by
  rw [failure, path, List.nil_append, String.intercalate_singleton]

theorem failure_within (parent : String) :
    (c.within parent).failure = c.failure.map (Error.within parent) := by
  obtain ⟨inside, field, verdict⟩ := c
  cases verdict with
  | ok new => rfl
  | error problem =>
    have hpath : ".".intercalate (parent :: inside ++ [field]) =
        parent ++ "." ++ ".".intercalate (inside ++ [field]) :=
      String.intercalate_cons_of_ne_nil (by simp)
    simp only [failure, path, within, hpath, Option.map_some, Error.within, String.append_assoc]

theorem firstFailure_within (parent : String) (checks : List (Check α)) :
    firstFailure (checks.map (within parent)) =
      (firstFailure checks).map (Error.within parent) := by
  induction checks with
  | nil => rfl
  | cons c checks ih =>
    rw [List.map_cons, firstFailure_cons, firstFailure_cons, ih, failure_within]
    cases c.failure <;> rfl

theorem settled_within (parent : String) (checks : List (Check α)) :
    settled (checks.map (within parent)) = settled checks := by
  rw [settled, List.takeWhile_map, List.filterMap_map]
  rfl

end Check

namespace Coercion

/-- Two parts of a value, coerced one after the other. -/
def both {β β' δ : Type} (put : β → β' → δ) (first : Coercion β) (y : β')
    (second : Coercion β') : Coercion δ :=
  match first with
  | ⟨x, some e⟩ => ⟨put x y, some e⟩
  | ⟨x, none⟩ => second.map (put x)

/-- Goes on with what was found, or stops where nothing was. -/
def given {β γ : Type} (b : β) (found : Except Error γ) (next : γ → Coercion β) : Coercion β :=
  match found with
  | .ok a => next a
  | .error e => stop b e

theorem replace_bind {β γ : Type} {b : β} {found : Except Error γ} {next : γ → Except Error β} :
    replace b (found >>= next) = given b found fun a => replace b (next a) := by
  cases found <;> rfl

theorem check_bind {β γ : Type} {b : β} {found : Except Error γ} {next : γ → Except Error Unit} :
    check b (found >>= next) = given b found fun a => check b (next a) := by
  cases found <;> rfl

theorem given_bind {β γ δ : Type} {b : β} {found : Except Error γ} {more : γ → Except Error δ}
    {next : δ → Coercion β} :
    given b (found.bind more) next = given b found fun a => given b (more a) next := by
  cases found <;> rfl

theorem check_map {β γ : Type} {b : β} {found : Except Error γ} :
    check b (found.map fun _ => ()) = given b found fun _ => done b := by
  cases found <;> rfl

theorem all_cons {β : Type} (f : β → Coercion β) (b : β) (bs : List β) :
    all f (b :: bs) = both List.cons (f b) bs (all f bs) := by
  rw [all]
  cases f b with
  | mk b' failure => cases failure <;> rfl

/-- A coercion of `b` goes through `checks` in order: it stops at the first failing one, the
literals that were checked before are replaced, and the rest stays as it is. -/
structure Follows {α β γ : Type} (literalsOf : β → List α) (blankOf : β → γ)
    (checks : List (Check α)) (b : β) (c : Coercion β) : Prop where
  failure : c.failure = Check.firstFailure checks
  value : Overwrites literalsOf blankOf b (Check.settled checks) c.value
  settled_le : (Check.settled checks).length ≤ (literalsOf b).length
  settled_eq : Check.firstFailure checks = none →
    (Check.settled checks).length = (literalsOf b).length

namespace Follows

variable {α β γ β' γ' : Type} {literalsOf : β → List α} {blankOf : β → γ}
  {literalsOf' : β' → List α} {blankOf' : β' → γ'} {checks : List (Check α)} {b : β}
  {c : Coercion β}

/-! ## How coercions are put together -/

/-- Where there are no literals, it is the failure that matters. -/
theorem of_no_literals (hnone : literalsOf b = []) (hvalue : c.value = b)
    (hchecks : ∀ k ∈ checks, k.coerced = none) (hfailure : c.failure = Check.firstFailure checks) :
    Follows literalsOf blankOf checks b c := by
  have hsettled : Check.settled checks = [] :=
    List.filterMap_eq_nil_iff.2 fun k hk => hchecks k (List.takeWhile_subset _ hk)
  refine ⟨hfailure, ⟨by rw [hvalue], ?_⟩, ?_, fun _ => ?_⟩ <;> simp [hvalue, hnone, hsettled]

/-- A failing check in front of all stops the coercion before anything is replaced. -/
theorem stop {k : Check α} {e : Error} (hk : k.failure = some e) :
    Follows literalsOf blankOf (k :: checks) b (.stop b e) := by
  have hfails : k.passes = false := by
    rw [Bool.eq_false_iff]
    intro hpasses
    rw [Check.failure_eq_none_iff.2 hpasses] at hk
    cases hk
  have hfirst : Check.firstFailure (k :: checks) = some e := by
    rw [Check.firstFailure_cons, hk, Option.some_or]
  refine ⟨hfirst.symm, ⟨rfl, ?_⟩, ?_, fun hnone => ?_⟩
  · rw [Check.settled_cons_of_fails hfails]
    rfl
  · rw [Check.settled_cons_of_fails hfails]
    exact Nat.zero_le _
  · cases hfirst.symm.trans hnone

/-- A passing check in front that replaces nothing changes nothing. -/
theorem cons {k : Check α} (hk : k.passes = true) (hnone : k.coerced = none)
    (h : Follows literalsOf blankOf checks b c) :
    Follows literalsOf blankOf (k :: checks) b c := by
  have hfirst : Check.firstFailure (k :: checks) = Check.firstFailure checks := by
    rw [Check.firstFailure_cons, Check.failure_eq_none_iff.2 hk, Option.none_or]
  have hsettled : Check.settled (k :: checks) = Check.settled checks := by
    rw [Check.settled_cons_of_passes hk, hnone, Option.toList_none, List.nil_append]
  exact ⟨hfirst ▸ h.failure, hsettled ▸ h.value, hsettled ▸ h.settled_le,
    by rw [hfirst, hsettled]; exact h.settled_eq⟩

/-- A literal that is replaced by what its check makes of it. -/
theorem replace {field : String} {new : Except String β} {literalOf : β → α}
    {outcome : Except Error β} (hliterals : ∀ x, literalsOf x = [literalOf x])
    (hblank : ∀ x, new = .ok x → blankOf x = blankOf b)
    (houtcome : outcome = new.mapError fun problem => .invalid (field ++ ": " ++ problem)) :
    Follows literalsOf blankOf [.literal field (new.map literalOf)] b (.replace b outcome) := by
  subst houtcome
  cases new with
  | error problem => exact stop Check.failure_of_error
  | ok x =>
    have hsettled : Check.settled [Check.literal field ((Except.ok x : Except String β).map
      literalOf)] = [literalOf x] := rfl
    refine ⟨rfl, ⟨hblank x rfl, ?_⟩, ?_, fun _ => ?_⟩ <;> rw [hsettled, hliterals b]
    · exact hliterals x
    · exact Nat.le_refl _
    · rfl

/-- The same coercion inside of a larger value with no further literals. -/
theorem map {g : β → β'} (h : Follows literalsOf blankOf checks b c)
    (hliterals : ∀ x, literalsOf' (g x) = literalsOf x)
    (hblank : ∀ x y, blankOf x = blankOf y → blankOf' (g x) = blankOf' (g y)) :
    Follows literalsOf' blankOf' checks (g b) (c.map g) :=
  ⟨h.failure, ⟨hblank _ _ h.value.blank, by rw [Coercion.map, hliterals, hliterals,
    h.value.literals]⟩, by rw [hliterals]; exact h.settled_le, by rw [hliterals]; exact h.settled_eq⟩

/-- The same coercion inside of a field. -/
theorem within (parent : String) (h : Follows literalsOf blankOf checks b c) :
    Follows literalsOf blankOf (checks.map (Check.within parent)) b (c.within parent) := by
  have hfirst := Check.firstFailure_within parent checks
  have hsettled := Check.settled_within parent checks
  refine ⟨by rw [hfirst, Coercion.within, h.failure], hsettled ▸ h.value, hsettled ▸ h.settled_le,
    fun hnone => hsettled ▸ h.settled_eq ?_⟩
  rw [hfirst] at hnone
  exact Option.map_eq_none_iff.1 hnone

/-- The checks of two parts of a value, one after the other. -/
theorem both {x : β} {first : Coercion β} {y : β'} {second : Coercion β'}
    {more : List (Check α)} {δ ε : Type} {put : β → β' → δ} {literalsOfBoth : δ → List α}
    {blankOfBoth : δ → ε}
    (hx : Follows literalsOf blankOf checks x first)
    (hy : Follows literalsOf' blankOf' more y second)
    (hliterals : ∀ x y, literalsOfBoth (put x y) = literalsOf x ++ literalsOf' y)
    (hblank : ∀ x x' y y', blankOf x = blankOf x' → blankOf' y = blankOf' y' →
      blankOfBoth (put x y) = blankOfBoth (put x' y')) :
    Follows literalsOfBoth blankOfBoth (checks ++ more) (put x y)
      (Coercion.both put first y second) := by
  obtain ⟨x', failure⟩ := first
  obtain ⟨hfailure, ⟨hsame, hnew⟩, hle, heq⟩ := hx
  simp only at hfailure hsame hnew
  subst hfailure
  cases hfirst : Check.firstFailure checks with
  | some e =>
    have hsettled := Check.settled_append_of_fails hfirst more
    refine ⟨?_, ⟨hblank _ _ _ _ hsame rfl, ?_⟩, ?_, fun hnone => ?_⟩
    · rw [Check.firstFailure_append, hfirst]
      rfl
    · rw [hsettled, Coercion.both, hliterals, hliterals, hnew, List.append_assoc,
        List.drop_append_of_le_length hle]
    · rw [hsettled, hliterals, List.length_append]
      exact Nat.le_trans hle (Nat.le_add_right _ _)
    · rw [Check.firstFailure_append, hfirst] at hnone
      cases hnone
  | none =>
    have hpasses := Check.firstFailure_eq_none_iff.1 hfirst
    have hsettled : Check.settled (checks ++ more) = Check.settled checks ++ Check.settled more := by
      rw [Check.settled_append_of_passes hpasses, Check.settled_of_passes hpasses]
    have hlength := heq hfirst
    have hwhole : literalsOf x' = Check.settled checks := by
      rw [hnew, hlength, List.drop_length, List.append_nil]
    have hrest : Check.firstFailure (checks ++ more) = Check.firstFailure more := by
      rw [Check.firstFailure_append, hfirst, Option.none_or]
    refine ⟨?_, ⟨hblank _ _ _ _ hsame hy.value.blank, ?_⟩, ?_, fun hnone => ?_⟩
    · rw [hrest]
      exact hy.failure
    · rw [hsettled, Coercion.both, Coercion.map, hliterals, hliterals, hwhole, hy.value.literals,
        List.append_assoc, List.length_append, hlength, ← List.drop_drop, List.drop_left]
    · rw [hsettled, hliterals, List.length_append, List.length_append]
      exact Nat.add_le_add hle hy.settled_le
    · rw [hsettled, hliterals, List.length_append, List.length_append, hlength,
        hy.settled_eq (hrest.symm.trans hnone)]

/-- The checks of a list, those of each element before those of the next. -/
theorem all {f : β → Coercion β} {checksOf : β → List (Check α)} {bs : List β}
    (h : ∀ b ∈ bs, Follows literalsOf blankOf (checksOf b) b (f b)) :
    Follows (fun bs => bs.flatMap literalsOf) (List.map blankOf) (bs.flatMap checksOf) bs
      (Coercion.all f bs) := by
  induction bs with
  | nil => exact of_no_literals rfl rfl nofun rfl
  | cons b bs ih =>
    have hb := h b (List.mem_cons_self ..)
    have hbs := ih fun b' hb' => h b' (List.mem_cons_of_mem _ hb')
    rw [all_cons, List.flatMap_cons]
    refine both hb hbs (fun x y => List.flatMap_cons) fun x x' y y' hx hy => ?_
    rw [List.map_cons, List.map_cons, hx, hy]

/-! ## What it comes to -/

/-- Nothing fails where every check passes, and only there. -/
theorem failure_eq_none_iff (h : Follows literalsOf blankOf checks b c) :
    c.failure = none ↔ ∀ k ∈ checks, k.passes = true := by
  rw [h.failure, Check.firstFailure_eq_none_iff]

/-- Where every check passes, every literal is the one that its check makes of it. -/
theorem of_passes (h : Follows literalsOf blankOf checks b c)
    (hpasses : ∀ k ∈ checks, k.passes = true) :
    Overwrites literalsOf blankOf b (checks.filterMap Check.coerced) c.value ∧
      literalsOf c.value = checks.filterMap Check.coerced := by
  have hvalue := h.value
  have hlength := h.settled_eq (Check.firstFailure_eq_none_iff.2 hpasses)
  rw [Check.settled_of_passes hpasses] at hvalue hlength
  refine ⟨hvalue, ?_⟩
  rw [hvalue.literals, hlength, List.drop_length, List.append_nil]

/-- The first failing check is the failure, and the literals of the checks before it are those that
are replaced. -/
theorem of_first_failing {before after : List (Check α)} {k : Check α}
    (h : Follows literalsOf blankOf (before ++ k :: after) b c)
    (hpasses : ∀ k ∈ before, k.passes = true) (hfails : k.passes = false) :
    c.failure = k.failure ∧
      Overwrites literalsOf blankOf b (before.filterMap Check.coerced) c.value := by
  have hsettled : Check.settled (before ++ k :: after) = before.filterMap Check.coerced := by
    rw [Check.settled_append_of_passes hpasses, Check.settled_cons_of_fails hfails,
      List.append_nil]
  refine ⟨?_, hsettled ▸ h.value⟩
  rw [h.failure, Check.firstFailure_append, Check.firstFailure_eq_none_iff.2 hpasses,
    Option.none_or, Check.firstFailure_cons]
  cases hk : k.failure with
  | none => cases (Check.failure_eq_none_iff.1 hk).symm.trans hfails
  | some e => rfl

end Follows

end Coercion

end DocQuery
