import DocQuery.Projection.Checks
import DocQuery.Proofs.PredicateChecks

/-!
# Validation of projections in order

* `ConnectionParam.coerce_eq_ok_iff`, `Selection.paramVerdict_eq_ok_iff` — the coercion of
  parameters succeeds on what they take.
* `Selection.follows_checks` — the validation of a selection goes through its checks.
* `Selection.valid_iff` — what fits the fields of a document is what passes every check.
* `Projection.validate_left_to_right` — validation is the check against the schema, and a coercion from
  left to right.
-/

set_option autoImplicit false

namespace DocQuery

/-! ## Parameters -/

theorem Coercion.toExcept_eq_ok_iff {α : Type} {c : Coercion α} {a : α} :
    c.toExcept = .ok a ↔ c.failure = none ∧ c.value = a := by
  obtain ⟨value, failure⟩ := c
  cases failure with
  | none => exact ⟨fun h => ⟨rfl, Except.ok.inj h⟩, fun h => congrArg Except.ok h.2⟩
  | some e => exact ⟨nofun, nofun⟩

namespace ConnectionParam

variable {fields : Schema} {v w : Value}

variable [RegexEngine]

theorem checkFilter_eq_ok_iff : checkFilter fields v = .ok w ↔ filter.Takes fields v w := by
  constructor
  · intro h
    unfold checkFilter at h
    split at h
    · split at h
      · rename_i hread
        cases h
        obtain ⟨p, hparse, hvalid⟩ := bind_eq_ok_iff.1 hread
        exact .filter hparse (Coercion.toExcept_eq_ok_iff.1 hvalid).1
      · cases h
    · cases h
  · rintro (⟨hparse, hvalid⟩ | _ | ⟨hcounts, -, -, -, -⟩)
    · simp only [checkFilter, hparse, Except.bind, Coercion.toExcept, hvalid]
    · simp at hcounts

theorem checkOrder_eq_ok_iff : checkOrder fields v = .ok w ↔ order.Takes fields v w := by
  constructor
  · intro h
    unfold checkOrder at h
    split at h
    · split at h
      · rename_i hread
        cases h
        obtain ⟨o, hparse, hvalid⟩ := bind_eq_ok_iff.1 hread
        exact .order hparse hvalid
      · cases h
    · cases h
  · rintro (_ | ⟨hparse, hvalid⟩ | ⟨hcounts, -, -, -, -⟩)
    · simp only [checkOrder, hparse, Except.bind, hvalid]
    · simp at hcounts

/-- The counts of a connection. -/
theorem coerceCount_eq_ok_iff {p : ConnectionParam} (hp : p ∈ [page, limit, skip]) :
    coerceCount p v = .ok w ↔ p.Takes fields v w := by
  constructor
  · intro h
    unfold coerceCount at h
    split at h
    · rename_i d hnumber
      split at h
      · cases h
      rename_i hwhole
      split at h
      · cases h
      rename_i hfits
      split at h
      · cases h
      rename_i hsign
      cases h
      refine .count hp hnumber (by simpa using hwhole) (by omega) ?_
      by_cases hlimit : p = limit
      · exact .inl hlimit
      · exact .inr (Int.not_lt.1 fun hneg => hsign ⟨hlimit, hneg⟩)
    · cases h
  · intro h
    cases h with
    | filter | order => simp at hp
    | @count _ _ d counts number whole fits sign =>
      have hnot : ¬ (p ≠ limit ∧ d.truncate < 0) := fun ⟨hlimit, hneg⟩ =>
        Int.not_lt.2 (sign.resolve_left hlimit) hneg
      simp only [coerceCount, number, whole, Bool.not_true, Bool.false_eq_true, if_false,
        if_neg (Int.not_lt.2 fits), if_neg hnot]

/-- The rule of a connection's parameter succeeds on what the parameter takes. -/
theorem coerce_eq_ok_iff {p : ConnectionParam} :
    p.coerce fields v = .ok w ↔ p.Takes fields v w := by
  cases p with
  | filter => exact checkFilter_eq_ok_iff
  | order => exact checkOrder_eq_ok_iff
  | page | limit | skip => exact coerceCount_eq_ok_iff (by simp)

end ConnectionParam

variable {catalog : Catalog} {f : Field}

theorem Field.childFields_eq_some_iff {sub : Schema} :
    f.childFields catalog = some sub ↔ f.LeadsTo catalog sub := by
  constructor
  · intro h
    obtain ⟨c, kind⟩ := f
    unfold childFields at h
    cases kind with
    | scalar => cases h
    | object fields =>
      cases h
      exact .object
    | reference path target =>
      cases h
      exact .reference
    | connection path field target =>
      cases h
      exact .connection
    | array element =>
      obtain ⟨e, kind⟩ := element
      cases kind with
      | object fields =>
        cases h
        exact .objects
      | reference path target =>
        cases h
        exact .references
      | _ => cases h
  · intro h
    cases h <;> rfl

namespace Selection

variable [RegexEngine]

/-- The check of a parameter passes what the field takes, as what it becomes. -/
theorem paramVerdict_eq_ok_iff {name : String} {v w : Value} :
    paramVerdict catalog f (name, v) = .ok w ↔ f.TakesParam catalog name v w := by
  constructor
  · intro h
    unfold paramVerdict at h
    split at h
    · rename_i hdeclared
      cases h
      exact .untyped hdeclared
    · rename_i t hdeclared
      exact .typed hdeclared (mapError_eq_ok_iff.1 h)
    · rename_i hundeclared
      split at h
      · rename_i fields p hconnected hname
        have hname' : p.name = name := by
          simpa using List.find?_some hname
        subst hname'
        obtain ⟨path, field, target, hkind, rfl⟩ : ∃ path field target,
            f.kind = .connection path field target ∧ fields = catalog.schema target := by
          unfold Field.connected at hconnected
          split at hconnected
          · rename_i hkind
            cases hconnected
            exact ⟨_, _, _, hkind, rfl⟩
          · cases hconnected
        exact .narrowing hundeclared hkind
          (ConnectionParam.coerce_eq_ok_iff.1 (mapError_eq_ok_iff.1 h))
      · cases h
  · rintro (hdeclared | ⟨hdeclared, haccepted⟩ | ⟨hundeclared, hkind, htaken⟩)
    · simp only [paramVerdict, hdeclared]
    · simp only [paramVerdict, hdeclared, haccepted, mapError_ok]
    · simp only [paramVerdict, hundeclared, Field.connected, hkind, ConnectionParam.ofName?_name,
        ConnectionParam.coerce_eq_ok_iff.2 htaken, mapError_ok]

theorem coerceParam_eq (name : String) (param : String × Value) :
    coerceParam catalog f name param = .replace param
      (((paramVerdict catalog f param).map fun v => (param.1, v)).mapError
        fun problem => .invalid (name ++ ": " ++ problem)) := by
  unfold coerceParam paramVerdict
  cases Assoc.get? f.params param.1 with
  | some declared =>
    cases declared with
    | none => rfl
    | some t =>
      dsimp only
      cases t.validate param.2 <;> rfl
  | none =>
    dsimp only
    cases f.connected catalog with
    | none => rfl
    | some fields =>
      cases ConnectionParam.ofName? param.1 with
      | none => rfl
      | some p =>
        dsimp only
        cases p.coerce fields param.2 <;> rfl

/-! ## Selections -/

open Coercion

/-- One parameter goes through its check. -/
theorem follows_param (name : String) (param : String × Value) :
    Follows (fun p => [p.2]) (fun p => (p.1, Value.null))
      [.literal name (paramVerdict catalog f param)] param (coerceParam catalog f name param) := by
  have hverdict : paramVerdict catalog f param =
      ((paramVerdict catalog f param).map fun v => (param.1, v)).map Prod.snd := by
    cases paramVerdict catalog f param <;> rfl
  rw [hverdict, coerceParam_eq]
  refine .replace (fun _ => rfl) (fun x hx => ?_) rfl
  obtain ⟨v, -, rfl⟩ := map_eq_ok_iff.1 hx
  rfl

/-- The parameters of a field go through their checks. -/
theorem follows_params (name : String) (params : Params) :
    Follows (List.map Prod.snd) (List.map fun p => (p.1, Value.null))
      (paramChecks catalog f name params) params (coerceParams catalog f name params) := by
  have hvalues : List.map Prod.snd = fun ps : Params => ps.flatMap fun p => [p.2] :=
    funext fun ps => List.map_eq_flatMap
  have hall : Follows (List.map Prod.snd) (List.map fun p => (p.1, Value.null))
      (params.map fun param => .literal name (paramVerdict catalog f param)) params
      (Coercion.all (coerceParam catalog f name) params) := by
    rw [hvalues, List.map_eq_flatMap]
    exact .all fun param _ => follows_param name param
  unfold coerceParams paramChecks
  cases hempty : params.isEmpty with
  | true =>
    obtain rfl := List.isEmpty_iff.1 hempty
    exact .cons rfl rfl (.of_no_literals rfl rfl nofun rfl)
  | false =>
    cases f.params.isEmpty with
    | false => exact .cons rfl rfl hall
    | true =>
      cases f.connected catalog with
      | none => exact .stop Check.failure_of_error
      | some fields => exact .cons rfl rfl hall

/-- The projection of a field's own documents, where there is one. -/
def coerceBelow (catalog : Catalog) (f : Field) (name : String)
    (children : Option (List Selection)) : Coercion (Option (List Selection)) :=
  match children with
  | none => .done none
  | some below =>
    match f.childFields catalog with
    | none => .stop (some below) (Misfit.noChildren.onField name)
    | some sub => ((validateAll below catalog sub).within name).map some

variable {name : String} {shownAs : Option String} {params : Params}
  {children : Option (List Selection)} {fields : Schema}

/-- What is below a field comes before its parameters. -/
theorem validate_of_field (hstar : name ≠ wildcardName) :
    validate ⟨name, shownAs, params, children⟩ catalog fields =
      match visibleField fields name with
      | .error e => .stop ⟨name, shownAs, params, children⟩ e
      | .ok f =>
        Coercion.both (fun children params => ⟨name, shownAs, params, children⟩)
          (coerceBelow catalog f name children) params (coerceParams catalog f name params) := by
  rw [validate, if_neg hstar]
  cases visibleField fields name with
  | error e => rfl
  | ok f =>
    cases children with
    | none => rfl
    | some below =>
      dsimp only [coerceBelow]
      cases f.childFields catalog with
      | none => rfl
      | some sub =>
        dsimp only
        cases (validateAll below catalog sub).within name with
        | mk below' failure => cases failure <;> rfl

mutual

/-- **The validation of a selection goes through its checks.** -/
theorem follows_checks (s : Selection) (fields : Schema) :
    Follows arguments blank (s.checks catalog fields) s (s.validate catalog fields) := by
  obtain ⟨name, shownAs, params, children⟩ := s
  by_cases hstar : name = wildcardName
  · rw [validate, checks, if_pos hstar, if_pos hstar]
    cases shownAs with
    | some a => exact .stop Check.failure_of_error
    | none => exact .cons rfl rfl (.of_no_literals (arguments_of_wildcard hstar) rfl nofun rfl)
  · rw [validate_of_field hstar, checks, if_neg hstar]
    unfold visibleField
    cases Schema.lookup fields name with
    | none => exact .stop Check.failure_of_error
    | some f =>
      refine .cons rfl rfl ?_
      dsimp only
      cases f.hidden with
      | true => exact .stop Check.failure_of_error
      | false =>
        refine .cons rfl rfl ?_
        refine .both (follows_below children f name) (follows_params name params)
          (fun _ _ => arguments_of_field hstar) fun c c' ps ps' hc hps => ?_
        rw [blank_of_field hstar, blank_of_field hstar, hc, hps]

/-- The same of what is below a field. -/
theorem follows_below (children : Option (List Selection)) (f : Field) (name : String) :
    Follows (fun c => c.elim [] argumentsAll) (Option.map blankAll)
      (checksBelow catalog children f name) children (coerceBelow catalog f name children) := by
  cases children with
  | none => exact .of_no_literals rfl rfl nofun rfl
  | some below =>
    rw [checksBelow, coerceBelow]
    cases f.childFields catalog with
    | none => exact .stop Check.failure_of_error
    | some sub =>
      exact .cons rfl rfl (.map ((follows_checksAll below sub).within name) (fun _ => rfl)
        fun _ _ h => congrArg some h)

/-- The same of selections from left to right. -/
theorem follows_checksAll (ss : List Selection) (fields : Schema) :
    Follows argumentsAll blankAll (checksAll catalog ss fields) ss
      (validateAll ss catalog fields) := by
  cases ss with
  | nil => exact .of_no_literals rfl rfl nofun rfl
  | cons s ss =>
    have hcons : validateAll (s :: ss) catalog fields =
        Coercion.both List.cons (s.validate catalog fields) ss (validateAll ss catalog fields) := by
      rw [validateAll_eq_all, validateAll_eq_all, Coercion.all_cons]
    rw [hcons, checksAll]
    refine .both (follows_checks s fields) (follows_checksAll ss fields) (fun _ _ => rfl)
      fun x x' y y' hx hy => ?_
    rw [blankAll, blankAll, hx, hy]

end

/-! ## What fits -/

theorem forall_paramChecks_iff :
    (∀ c ∈ paramChecks catalog f name params, c.passes = true) ↔
      ∀ param ∈ params, ∃ w, f.TakesParam catalog param.1 param.2 w := by
  have htakes : ∀ param : String × Value,
      (Check.literal name (paramVerdict catalog f param)).passes = true ↔
        ∃ w, f.TakesParam catalog param.1 param.2 w := by
    rintro ⟨key, v⟩
    simp only [Check.passes_literal, paramVerdict_eq_ok_iff]
  rw [paramChecks, List.forall_mem_cons, List.forall_mem_map]
  simp only [htakes]
  refine ⟨fun h => h.2, fun h => ⟨?_, h⟩⟩
  rw [Check.passes_demand]
  cases params with
  | nil => rfl
  | cons param params =>
    obtain ⟨w, htaken⟩ := h param (List.mem_cons_self ..)
    have hdeclared : ∀ declared, Assoc.get? f.params param.1 = some declared →
        f.params.isEmpty = false := by
      intro declared hget
      rw [List.isEmpty_eq_false_iff]
      intro hnil
      rw [hnil] at hget
      cases hget
    obtain ⟨name, v⟩ := param
    cases htaken with
    | untyped declared => simp [hdeclared _ declared]
    | typed declared accepted => simp [hdeclared _ declared]
    | narrowing undeclared connection taken => simp [Field.connected, connection]

/-- What fits below the field `f`. -/
def ValidBelow (catalog : Catalog) (f : Field) (children : Option (List Selection)) : Prop :=
  ∀ below, children = some below →
    ∃ sub, f.LeadsTo catalog sub ∧ ∀ t ∈ below, t.Valid catalog sub

theorem valid_iff_shows {s : Selection} :
    s.Valid catalog fields ↔ (s.name = wildcardName ∧ s.shownAs = none) ∨
      ∃ f, s.Shows catalog fields f ∧ ValidBelow catalog f s.children := by
  constructor
  · intro h
    cases h with
    | wildcard star unaliased => exact .inl ⟨star, unaliased⟩
    | plain shows bare => exact .inr ⟨_, shows, fun below h => nomatch bare.symm.trans h⟩
    | nested shows children leads fit =>
      refine .inr ⟨_, shows, fun below h => ?_⟩
      cases children.symm.trans h
      exact ⟨_, leads, fit⟩
  · rintro (⟨star, unaliased⟩ | ⟨f, shows, hbelow⟩)
    · exact .wildcard star unaliased
    · cases hchildren : s.children with
      | none => exact .plain shows hchildren
      | some below =>
        obtain ⟨sub, leads, fit⟩ := hbelow below hchildren
        exact .nested shows hchildren leads fit

mutual

/-- What fits the fields of a document is what passes every check. -/
theorem valid_iff (s : Selection) (fields : Schema) :
    s.Valid catalog fields ↔ ∀ c ∈ s.checks catalog fields, c.passes = true := by
  rw [valid_iff_shows]
  obtain ⟨name, shownAs, params, children⟩ := s
  by_cases hstar : name = wildcardName
  · rw [checks, if_pos hstar, List.forall_mem_singleton, Check.passes_demand,
      Option.isNone_iff_eq_none]
    refine ⟨?_, fun h => .inl ⟨hstar, h⟩⟩
    rintro (⟨-, h⟩ | ⟨f, shows, -⟩)
    · exact h
    · exact absurd hstar shows.named
  · rw [checks, if_neg hstar, List.forall_mem_cons, Check.passes_demand]
    cases hlookup : Schema.lookup fields name with
    | none =>
      refine ⟨?_, fun h => nomatch h.1⟩
      rintro (⟨h, -⟩ | ⟨f, shows, -⟩)
      · exact absurd h hstar
      · exact nomatch hlookup.symm.trans shows.declared
    | some f =>
      simp only [List.forall_mem_cons, List.forall_mem_append, Check.passes_demand,
        forall_paramChecks_iff, ← validBelow_iff children f name, Option.isSome_some, true_and,
        Bool.not_eq_true']
      constructor
      · rintro (⟨h, -⟩ | ⟨f', ⟨-, hdeclared, hvisible, hparams⟩, hbelow⟩)
        · exact absurd h hstar
        · cases hlookup.symm.trans hdeclared
          exact ⟨hvisible, hbelow, hparams⟩
      · rintro ⟨hvisible, hbelow, hparams⟩
        exact .inr ⟨f, ⟨hstar, hlookup, hvisible, hparams⟩, hbelow⟩

/-- The same of what is below a field. -/
theorem validBelow_iff (children : Option (List Selection)) (f : Field) (name : String) :
    ValidBelow catalog f children ↔
      ∀ c ∈ checksBelow catalog children f name, c.passes = true := by
  cases children with
  | none => exact ⟨fun _ => nofun, fun _ => nofun⟩
  | some below =>
    rw [checksBelow, List.forall_mem_cons, Check.passes_demand]
    have hvalid : ValidBelow catalog f (some below) ↔
        ∃ sub, f.childFields catalog = some sub ∧ ∀ t ∈ below, t.Valid catalog sub := by
      simp only [ValidBelow, Option.some.injEq, forall_eq', Field.childFields_eq_some_iff]
    rw [hvalid]
    cases f.childFields catalog with
    | none => exact ⟨nofun, fun h => nomatch h.1⟩
    | some sub =>
      simp only [Option.some.injEq, exists_eq_left', Option.isSome_some, true_and,
        List.forall_mem_map, Check.passes_within]
      exact validAll_iff below sub

/-- The same of a list of selections. -/
theorem validAll_iff (ss : List Selection) (fields : Schema) :
    (∀ s ∈ ss, s.Valid catalog fields) ↔
      ∀ c ∈ checksAll catalog ss fields, c.passes = true := by
  cases ss with
  | nil => exact ⟨fun _ => nofun, fun _ => nofun⟩
  | cons s ss =>
    rw [checksAll, List.forall_mem_cons, List.forall_mem_append, valid_iff s fields,
      validAll_iff ss fields]

end

/-! ## Arguments and the rest -/

omit [RegexEngine] in
theorem name_blank (s : Selection) : s.blank.name = s.name := by
  obtain ⟨name, shownAs, params, children⟩ := s
  by_cases hstar : name = wildcardName
  · rw [blank_of_wildcard hstar]
  · rw [blank_of_field hstar]

omit [RegexEngine] in
mutual

theorem length_arguments_blank (s : Selection) :
    s.blank.arguments.length = s.arguments.length := by
  obtain ⟨name, shownAs, params, children⟩ := s
  by_cases hstar : name = wildcardName
  · rw [blank_of_wildcard hstar]
  · rw [blank_of_field hstar, arguments_of_field hstar, arguments_of_field hstar]
    cases children with
    | none => simp
    | some below => simp [length_arguments_blankAll below]

theorem length_arguments_blankAll (ss : List Selection) :
    (argumentsAll (blankAll ss)).length = (argumentsAll ss).length := by
  cases ss with
  | nil => rfl
  | cons s ss =>
    simp only [blankAll, argumentsAll, List.length_append, length_arguments_blank s,
      length_arguments_blankAll ss]

end

omit [RegexEngine] in
/-- Parameters are their names and their values. -/
theorem params_eq {ps qs : Params}
    (hnames : ps.map (fun p => (p.1, Value.null)) = qs.map fun p => (p.1, Value.null))
    (hvalues : ps.map Prod.snd = qs.map Prod.snd) : ps = qs := by
  induction ps generalizing qs with
  | nil => exact (List.map_eq_nil_iff.1 hvalues.symm).symm
  | cons p ps ih =>
    cases qs with
    | nil => cases hvalues
    | cons q qs =>
      obtain ⟨hname, hnames⟩ := List.cons.inj hnames
      obtain ⟨hvalue, hvalues⟩ := List.cons.inj hvalues
      have hkey : p.1 = q.1 := (Prod.mk.inj hname).1
      rw [ih hnames hvalues, Prod.ext hkey hvalue]

omit [RegexEngine] in
mutual

/-- A selection is its arguments and the rest. -/
theorem eq_of_blank_eq (s t : Selection) (h : s.blank = t.blank)
    (harguments : s.arguments = t.arguments) : s = t := by
  have hname : s.name = t.name := by rw [← name_blank s, h, name_blank t]
  obtain ⟨name, shownAs, params, children⟩ := s
  obtain ⟨name', shownAs', params', children'⟩ := t
  obtain rfl : name = name' := hname
  by_cases hstar : name = wildcardName
  · rwa [blank_of_wildcard hstar, blank_of_wildcard hstar] at h
  · rw [blank_of_field hstar, blank_of_field hstar] at h
    obtain ⟨-, rfl, hparams, hchildren⟩ := Selection.mk.inj h
    rw [arguments_of_field hstar, arguments_of_field hstar] at harguments
    have hlength : params.length = params'.length := by
      simpa using congrArg List.length hparams
    obtain ⟨hbelow, hvalues⟩ := List.append_inj' harguments (by simpa using hlength)
    rw [params_eq hparams hvalues, eqBelow_of_blank_eq children children' hchildren hbelow]

/-- The same of what is below a field. -/
theorem eqBelow_of_blank_eq (c c' : Option (List Selection))
    (h : c.map blankAll = c'.map blankAll)
    (harguments : c.elim [] argumentsAll = c'.elim [] argumentsAll) : c = c' := by
  cases c with
  | none => exact (Option.map_eq_none_iff.1 h.symm).symm
  | some below =>
    cases c' with
    | none => cases h
    | some below' =>
      rw [eqAll_of_blank_eq below below' (Option.some.inj h) harguments]

/-- The same of a list of selections. -/
theorem eqAll_of_blank_eq (ss ts : List Selection) (h : blankAll ss = blankAll ts)
    (harguments : argumentsAll ss = argumentsAll ts) : ss = ts := by
  cases ss with
  | nil =>
    cases ts with
    | nil => rfl
    | cons t ts => cases h
  | cons s ss =>
    cases ts with
    | nil => cases h
    | cons t ts =>
      obtain ⟨hhead, htail⟩ := List.cons.inj h
      have hlength : s.arguments.length = t.arguments.length := by
        rw [← length_arguments_blank s, ← length_arguments_blank t, hhead]
      obtain ⟨harguments, hrest⟩ := List.append_inj harguments hlength
      rw [eq_of_blank_eq s t hhead harguments, eqAll_of_blank_eq ss ts htail hrest]

end

end Selection

/-- Overwriting the first arguments of a projection has one outcome. -/
theorem Projection.overwritten_unique {p q q' : Projection} {first : List Value}
    (h : p.Overwritten first q) (h' : p.Overwritten first q') : q = q' :=
  Selection.eqAll_of_blank_eq q q' (h.blank.trans h'.blank.symm)
    (h.literals.trans h'.literals.symm)

/-- **Validation is the check against the schema, and a coercion from left to right.** It succeeds
where the projection fits the fields; then every parameter is what its check makes of it. Otherwise
the first failing check is the failure, and the parameters checked before it are replaced. Nothing
else ever changes. -/
theorem Projection.validate_left_to_right [RegexEngine] (p : Projection) (catalog : Catalog)
    (fields : Schema) :
    ((p.validate catalog fields).failure = none ↔ p.Valid catalog fields) ∧
      (p.Valid catalog fields →
        p.Overwritten ((p.checks catalog fields).filterMap Check.coerced)
            (p.validate catalog fields).value ∧
          (p.validate catalog fields).value.arguments =
            (p.checks catalog fields).filterMap Check.coerced) ∧
      ∀ before c after, p.checks catalog fields = before ++ c :: after →
        (∀ b ∈ before, b.passes = true) → c.passes = false →
          (p.validate catalog fields).failure = c.failure ∧
            p.Overwritten (before.filterMap Check.coerced) (p.validate catalog fields).value := by
  have h := @Selection.follows_checksAll catalog _ p fields
  have hvalid : p.Valid catalog fields ↔ ∀ c ∈ p.checks catalog fields, c.passes = true :=
    Selection.validAll_iff p fields
  refine ⟨h.failure_eq_none_iff.trans hvalid.symm, fun hfits => h.of_passes (hvalid.1 hfits),
    fun before c after hchecks hbefore hc => ?_⟩
  rw [show Selection.checksAll catalog p fields = before ++ c :: after from hchecks] at h
  exact h.of_first_failing hbefore hc

namespace Bookshelf

def blurbFields : Schema :=
  [("blurb", .mk { params := [("long", some yesOrNo), ("max", none)] } .scalar)]

def cardFields : Schema := [("card", .mk { } (.object blurbFields))]

/-- A blurb with two parameters that the field declares and one that it does not. -/
def tinted : Projection :=
  let params : Params := [("long", .bool true), ("tint", .null), ("max", .null)]
  [{ name := "card", children := some [{ name := "blurb", params := params }] }]

/-- The second parameter is turned away under the path of its field, and the first one replaced. -/
theorem tinted_stops :
    (tinted.validate [] cardFields).failure =
        some (.invalid "card.blurb: unsupported param name: tint") ∧
      tinted.Overwritten [.string "yes"] (tinted.validate [] cardFields).value := by
  obtain ⟨hfailure, hvalue⟩ := (Projection.validate_left_to_right tinted [] cardFields).2.2
    ((tinted.checks [] cardFields).take 7)
    ⟨["card"], "blurb", .error "unsupported param name: tint"⟩
    ((tinted.checks [] cardFields).drop 8) rfl (by decide) rfl
  exact ⟨hfailure.trans (by decide), hvalue⟩

end Bookshelf

end DocQuery
