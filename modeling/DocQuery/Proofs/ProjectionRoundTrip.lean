import DocQuery.Projection.WellFormed
import DocQuery.Proofs.PredicateForm
import DocQuery.Proofs.ProjectionGrammar

/-!
# Writing and reading projections are inverse

A projection is read from its text in the same form if and only if it is well-formed. The grammar
derives from the text of a well-formed projection the projection itself, its parameters in name
order. What the grammar derives is well-formed, whatever the text, and what has the form of
something well-formed is well-formed too: no other projection comes back.

* `Selection.sameSelection_ordered` — the order of parameters makes no difference of form.
* `Selection.legible_of_same` — form decides whether a selection can be written.
* `Grammar.FieldText.every` — what every field fulfils is fulfilled throughout.
* `Grammar.fieldText_chars` — the text of a selection is derived.
* `Projection.parses_back_iff_wellFormed` — writing and reading are inverse, exactly on what is
  well-formed.
-/

set_option autoImplicit false

namespace DocQuery

/-! ## Parameters -/

namespace Value

theorem keysDistinct_of_isParam {v : Value} (h : v.IsParam) : v.KeysDistinct := by
  cases v with
  | array | object => exact h.elim
  | _ => trivial

theorem isParam_of_same {a b : Value} (h : a.same b = true) (ha : a.IsParam) : b.IsParam := by
  cases a with
  | string s =>
    cases b with
    | string t => trivial
    | _ => cases h
  | bool x =>
    cases b with
    | bool y => trivial
    | _ => cases h
  | number m =>
    cases m with
    | integer i => exact ha.elim
    | float d =>
      cases b with
      | number n =>
        cases n with
        | float e => trivial
        | integer i => cases h
      | _ => cases h
  | _ => exact ha.elim

end Value

namespace Selection

open Projection

section Params

variable {ps qs : Params}

theorem sameParams_sorted (hkeys : (Assoc.keys ps).Nodup) (h : ∀ e ∈ ps, e.2.IsParam) :
    sameParams (Assoc.sorted ps) ps = true := by
  have hperm := Assoc.sorted_perm hkeys
  rw [sameParams, hperm.length_eq, beq_self_eq_true, Bool.true_and, Value.sameEntries_iff]
  intro e he
  have hmem := hperm.mem_iff.1 he
  exact ⟨e.2, Assoc.get?_of_mem hkeys hmem, e.2.same_refl (e.2.keysDistinct_of_isParam (h e hmem))⟩

/-- Parameters that are the same have the same names, and values of the same kinds. -/
theorem params_of_sameParams (hps : (Assoc.keys ps).Nodup) (hqs : (Assoc.keys qs).Nodup)
    (hsame : sameParams ps qs = true) (h : ∀ e ∈ ps, IsName e.1 ∧ e.2.IsParam) :
    ∀ e ∈ qs, IsName e.1 ∧ e.2.IsParam := by
  rw [sameParams, Bool.and_eq_true, beq_iff_eq, Value.sameEntries_iff] at hsame
  obtain ⟨hlength, hfound⟩ := hsame
  have hkeys : ∀ x ∈ ps, ∃ b, Assoc.get? qs x.1 = some b := by
    intro x hx
    obtain ⟨b, hb, -⟩ := hfound x hx
    exact ⟨b, hb⟩
  intro e he
  obtain ⟨x, hx, hkey⟩ := Assoc.exists_mem_of_length_eq hps hlength hkeys he
  obtain ⟨b, hget, hxb⟩ := hfound x hx
  rw [hkey, Assoc.get?_of_mem hqs he] at hget
  cases hget
  exact ⟨hkey ▸ (h x hx).1, Value.isParam_of_same hxb (h x hx).2⟩

end Params

/-! ## Form -/

mutual

/-- Parameters in another order make no other form. -/
theorem sameSelection_ordered (s : Selection) (hs : s.Every Legible)
    (hkeys : s.Every KeysDistinct) : sameSelection s.ordered s = true := by
  match s with
  | ⟨name, shownAs, params, none⟩ =>
    rw [ordered, sameSelection, beq_self_eq_true, beq_self_eq_true, Bool.true_and, Bool.true_and,
      Bool.and_true]
    exact sameParams_sorted hkeys fun e he => (hs.params e he).2
  | ⟨name, shownAs, params, some children⟩ =>
    rw [ordered, sameSelection, beq_self_eq_true, beq_self_eq_true, Bool.true_and, Bool.true_and]
    simp only [same_orderedAll children hs.2 hkeys.2, Bool.and_true]
    exact sameParams_sorted hkeys.1 fun e he => (hs.1.params e he).2

theorem same_orderedAll (ss : List Selection) (hs : everyOf Legible ss)
    (hkeys : everyOf KeysDistinct ss) : same (orderedAll ss) ss = true := by
  match ss with
  | [] => rfl
  | s :: ss =>
    rw [orderedAll, same, sameSelection_ordered s hs.1 hkeys.1,
      same_orderedAll ss hs.2 hkeys.2, Bool.and_self]

end

/-- Whether a selection can be written is seen from its names and parameters. -/
theorem Legible.of_same {s t : Selection} (hs : s.Legible) (hname : s.name = t.name)
    (hshown : s.shownAs = t.shownAs) (hparams : sameParams s.params t.params = true)
    (hkeys : s.KeysDistinct) (ht : t.KeysDistinct) : t.Legible where
  name := hname ▸ hs.name
  shownAs := hshown ▸ hs.shownAs
  params := params_of_sameParams hkeys ht hparams hs.params

mutual

/-- What has the form of something that can be written can be written. -/
theorem legible_of_same (s t : Selection) (h : sameSelection s t = true) (hs : s.Every Legible)
    (hkeys : s.Every KeysDistinct) (ht : t.Every KeysDistinct) : t.Every Legible := by
  match s, t with
  | ⟨n, a, ps, none⟩, ⟨m, b, qs, none⟩ =>
    simp only [sameSelection, Bool.and_eq_true, beq_iff_eq, and_true] at h
    exact Legible.of_same hs h.1.1 h.1.2 h.2 hkeys ht
  | ⟨n, a, ps, some c⟩, ⟨m, b, qs, some d⟩ =>
    simp only [sameSelection, Bool.and_eq_true, beq_iff_eq] at h
    obtain ⟨⟨⟨hname, hshown⟩, hparams⟩, hchildren⟩ := h
    exact ⟨hs.1.of_same hname hshown hparams hkeys.1 ht.1,
      legibleAll_of_same c d hchildren hs.2 hkeys.2 ht.2⟩
  | ⟨_, _, _, none⟩, ⟨_, _, _, some _⟩ | ⟨_, _, _, some _⟩, ⟨_, _, _, none⟩ =>
    obtain ⟨-, hfalse⟩ := Bool.and_eq_true_iff.1 h
    cases hfalse

theorem legibleAll_of_same (ss ts : List Selection) (h : same ss ts = true)
    (hs : everyOf Legible ss) (hkeys : everyOf KeysDistinct ss) (ht : everyOf KeysDistinct ts) :
    everyOf Legible ts := by
  match ss, ts with
  | [], [] => trivial
  | [], _ :: _ => cases h
  | _ :: _, [] => cases h
  | s :: ss, t :: ts =>
    rw [same, Bool.and_eq_true] at h
    exact ⟨legible_of_same s t h.1 hs.1 hkeys.1 ht.1,
      legibleAll_of_same ss ts h.2 hs.2 hkeys.2 ht.2⟩

end

end Selection

/-! ## What is derived -/

namespace Grammar

open Projection Selection

section Lists

variable {α : Type} {R : List Char → α → Prop}

theorem SeriesText.exists_text {w : List Char} {as : List α} (h : SeriesText R w as) {a : α}
    (ha : a ∈ as) : ∃ u, R u a ∧ u.length ≤ w.length := by
  induction h with
  | last before item after =>
    rw [List.mem_singleton.1 ha]
    refine ⟨_, item, ?_⟩
    simp only [List.length_append]
    omega
  | cons before item after _ ih =>
    simp only [List.length_append, List.length_cons]
    rcases List.mem_cons.1 ha with rfl | ha
    · exact ⟨_, item, by omega⟩
    · obtain ⟨u, hu, hle⟩ := ih ha
      exact ⟨u, hu, by omega⟩

/-- What stands in a list has a shorter text than the list. -/
theorem ListText.exists_text {opening closing : Char} {w : List Char} {as : List α}
    (h : ListText R opening closing w as) {a : α} (ha : a ∈ as) :
    ∃ u, R u a ∧ u.length < w.length := by
  cases h with
  | empty => cases ha
  | items series =>
    obtain ⟨u, hu, hle⟩ := series.exists_text ha
    refine ⟨u, hu, ?_⟩
    simp only [List.length_cons, List.length_append]
    omega

/-- Texts with commas between them are a series. -/
theorem seriesText_joinChars {ws : List (List Char)} {as : List α} (h : List.Forall₂ R ws as)
    (hne : as ≠ []) : SeriesText R (joinChars [','] ws) as := by
  induction h with
  | nil => exact absurd rfl hne
  | @cons w a ws as hw hws ih =>
    cases hws with
    | nil =>
      have hlast := SeriesText.last blanks_nil hw blanks_nil
      rw [List.append_nil] at hlast
      exact hlast
    | @cons w' a' ws as hw' hws =>
      rw [joinChars, List.append_assoc]
      exact .cons blanks_nil hw blanks_nil (ih (List.cons_ne_nil a' as))

end Lists

/-- What the head of every field fulfils is fulfilled by all fields, at any depth. -/
theorem FieldText.every {P : Selection → Prop}
    (hP : ∀ {h w g : List Char} {shownAs : Option String} {name : String} {params : Params}
      (children : Option (List Selection)), AliasText h shownAs → NameText w name →
        ParamsText g params → P ⟨name, shownAs, params, children⟩)
    {w : List Char} {f : Selection} (h : FieldText w f) : f.Every P := by
  -- fields stand in lists inside fields: the induction is on the length of the text
  induction hn : w.length using Nat.strong_induction_on generalizing w f with
  | _ n ih =>
    subst hn
    cases h with
    | leaf label text passed => exact hP none label text passed
    | parent label text passed before list =>
      refine ⟨hP _ label text passed, everyOf_iff.2 fun s hs => ?_⟩
      obtain ⟨u, hu, hlt⟩ := list.exists_text hs
      refine ih u.length ?_ hu rfl
      simp only [List.length_append]
      omega

theorem NameRun.isName {w : List Char} (h : NameRun w) : IsName (String.ofList w) := by
  rw [IsName, String.toList_ofList]
  exact h

theorem NameText.isFieldName {w : List Char} {name : String} (h : NameText w name) :
    IsFieldName name := by
  cases h with
  | run hrun => exact .inr hrun.isName
  | star => exact .inl rfl

theorem ParamText.isParam {w : List Char} {p : String × Value} (h : ParamText w p) :
    IsName p.1 ∧ p.2.IsParam := by
  obtain ⟨name, -, -, -, value⟩ := h
  refine ⟨name.isName, ?_⟩
  cases value <;> trivial

theorem ParamsText.spec {w : List Char} {params : Params} (h : ParamsText w params) :
    (Assoc.keys params).Nodup ∧ ∀ e ∈ params, IsName e.1 ∧ e.2.IsParam := by
  cases h with
  | absent => exact ⟨List.nodup_nil, nofun⟩
  | present _ series =>
    obtain ⟨hkeys, hwritten⟩ := Assoc.ofWrites_spec _
    refine ⟨hkeys, fun e he => ?_⟩
    obtain ⟨u, hu, -⟩ := series.exists_text (hwritten e he)
    exact hu.isParam

/-- What is derived as a field can be written, and repeats no parameter. -/
theorem FieldText.wellFormed {w : List Char} {f : Selection} (h : FieldText w f) :
    f.Every Legible ∧ f.Every KeysDistinct := by
  refine (every_and f).1 (h.every fun children label text passed => ?_)
  obtain ⟨hkeys, hparams⟩ := passed.spec
  refine ⟨⟨text.isFieldName, fun a ha => ?_, hparams⟩, hkeys⟩
  cases label with
  | absent => cases ha
  | present name _ _ =>
    rw [← Option.some.inj ha]
    exact name.isFieldName

/-! ## What is written -/

theorem nameText_toList {s : String} (h : IsFieldName s) : NameText s.toList s := by
  rcases h with rfl | h
  · exact .star
  · have hname : NameText s.toList (String.ofList s.toList) := .run h
    rw [String.ofList_toList] at hname
    exact hname

theorem stringText_quoteChars (s : String) : StringText (quoteChars s) s := by
  obtain ⟨w, hw, htext⟩ := string_sound (Literal.string_quoteChars s [])
  rw [List.append_nil, List.append_nil] at hw
  exact hw ▸ htext

theorem numberText_chars (d : Double) : NumberText d.chars d := by
  obtain ⟨w, hw, htext⟩ := number_sound (Literal.number_chars d closed_nil.numberEnds)
  rw [List.append_nil, List.append_nil] at hw
  exact hw ▸ htext

theorem paramValueText_chars {v : Value} (h : v.IsParam) : ParamValueText (paramChars v) v := by
  cases v with
  | string s => exact .string (stringText_quoteChars s)
  | bool b =>
    cases b with
    | true => exact .bool .yes
    | false => exact .bool .no
  | number n =>
    cases n with
    | float d => exact .number (numberText_chars d)
    | integer i => exact h.elim
  | _ => exact h.elim

theorem paramText_chars {p : String × Value} (h : IsName p.1 ∧ p.2.IsParam) :
    ParamText (p.1.toList ++ ':' :: paramChars p.2) p := by
  have hname : NameRun p.1.toList := h.1
  have hparam := ParamText.intro hname blanks_nil (.inl rfl) blanks_nil (paramValueText_chars h.2)
  rw [String.ofList_toList] at hparam
  exact hparam

/-- Parameters are written in name order, which repeats none. -/
theorem paramsText_chars {params : Params} (hkeys : (Assoc.keys params).Nodup)
    (h : ∀ e ∈ params, IsName e.1 ∧ e.2.IsParam) :
    ParamsText (paramsChars params) (Assoc.sorted params) := by
  have hperm := Assoc.sorted_perm hkeys
  cases params with
  | nil => exact .absent
  | cons p ps =>
    have hne : Assoc.sorted (p :: ps) ≠ [] := by
      intro hnil
      rw [hnil] at hperm
      exact absurd hperm.nil_eq (List.cons_ne_nil p ps).symm
    have hsorted : (Assoc.keys (Assoc.sorted (p :: ps))).Nodup :=
      (hperm.map Prod.fst).nodup_iff.2 hkeys
    have hseries : SeriesText ParamText _ (Assoc.sorted (p :: ps)) :=
      seriesText_joinChars (List.forall₂_map_left_iff.2 (List.forall₂_same.2 fun e he =>
        paramText_chars (h e (hperm.mem_iff.1 he)))) hne
    have hparams := ParamsText.present blanks_nil hseries
    rw [Assoc.ofWrites_of_nodup hsorted] at hparams
    exact hparams

/-- The alias of a field and the colon after it. -/
def aliasChars : Option String → List Char
  | some a => a.toList ++ [':']
  | none => []

theorem aliasText_chars {shownAs : Option String} (h : ∀ a ∈ shownAs, IsFieldName a) :
    AliasText (aliasChars shownAs) shownAs := by
  cases shownAs with
  | none => exact .absent
  | some a => exact .present (nameText_toList (h a rfl)) blanks_nil blanks_nil

theorem selectionChars_leaf (name : String) (shownAs : Option String) (params : Params) :
    selectionChars ⟨name, shownAs, params, none⟩ =
      aliasChars shownAs ++ (name.toList ++ paramsChars params) := by
  cases shownAs <;> simp [selectionChars, aliasChars]

theorem selectionChars_parent (name : String) (shownAs : Option String) (params : Params)
    (children : List Selection) : selectionChars ⟨name, shownAs, params, some children⟩ =
      aliasChars shownAs ++ (name.toList ++ (paramsChars params ++
        '\x7b' :: (joinChars [','] (selectionTexts children) ++ ['\x7d']))) := by
  cases shownAs <;> simp [selectionChars, aliasChars]

mutual

/-- **The text of a selection is derived**, with its parameters in name order. -/
theorem fieldText_chars (s : Selection) (hs : s.Every Legible) (hkeys : s.Every KeysDistinct) :
    FieldText (selectionChars s) s.ordered := by
  match s with
  | ⟨name, shownAs, params, none⟩ =>
    rw [selectionChars_leaf, Selection.ordered]
    exact .leaf (aliasText_chars hs.shownAs) (nameText_toList hs.name)
      (paramsText_chars hkeys hs.params)
  | ⟨name, shownAs, params, some children⟩ =>
    have hchildren := fieldTexts_chars children hs.2 hkeys.2
    have hlist : ListText FieldText '\x7b' '\x7d'
        ('\x7b' :: (joinChars [','] (selectionTexts children) ++ ['\x7d']))
        (orderedAll children) := by
      match children with
      | [] => exact .empty blanks_nil
      | c :: cs => exact .items (seriesText_joinChars hchildren (List.cons_ne_nil _ _))
    rw [selectionChars_parent, Selection.ordered]
    exact .parent (aliasText_chars hs.1.shownAs) (nameText_toList hs.1.name)
      (paramsText_chars hkeys.1 hs.1.params) blanks_nil hlist

theorem fieldTexts_chars (ss : List Selection) (hs : everyOf Legible ss)
    (hkeys : everyOf KeysDistinct ss) :
    List.Forall₂ FieldText (selectionTexts ss) (orderedAll ss) := by
  match ss with
  | [] => exact .nil
  | s :: ss =>
    exact .cons (fieldText_chars s hs.1 hkeys.1) (fieldTexts_chars ss hs.2 hkeys.2)

end

end Grammar

/-! ## Exactly the well-formed -/

namespace Projection

open Grammar

theorem wellFormed_of_parse {t : String} {p : Projection} (h : parse t = .ok p) :
    p.WellFormed ∧ p.KeysDistinct := by
  rcases blank_or_projectionText_of_parse h with ⟨-, rfl⟩ | htext
  · exact ⟨trivial, trivial⟩
  · refine (Selection.everyOf_and p).1 (Selection.everyOf_iff.2 fun f hf => ?_)
    obtain ⟨u, hu, -⟩ := htext.exists_text hf
    exact (Selection.every_and f).2 hu.wellFormed

/-- A well-formed projection is read from its text, with its parameters in name order. -/
theorem parse_text {p : Projection} (hwf : p.WellFormed) (hkeys : p.KeysDistinct) :
    parse p.text = .ok p.ordered := by
  have hchars : p.text.toList = p.chars := String.toList_ofList
  cases p with
  | nil =>
    refine parse_of_blank ?_
    rw [hchars]
    exact nofun
  | cons s ss =>
    refine parse_of_projectionText ?_
    rw [hchars]
    exact seriesText_joinChars (fieldTexts_chars _ hwf hkeys) (List.cons_ne_nil _ _)

/-- **Writing and reading are inverse, exactly on the well-formed projections.** A projection is
read from its text in the same form if and only if it is well-formed; what is read from any text is
well-formed. -/
theorem parses_back_iff_wellFormed :
    (∀ p : Projection, p.KeysDistinct →
        ((∃ q, parse p.text = .ok q ∧ same q p = true) ↔ p.WellFormed)) ∧
      ∀ t p, parse t = .ok p → p.WellFormed ∧ p.KeysDistinct := by
  constructor
  · intro p hkeys
    constructor
    · rintro ⟨q, hq, hsame⟩
      obtain ⟨hwf, hdistinct⟩ := wellFormed_of_parse hq
      exact Selection.legibleAll_of_same q p hsame hwf hdistinct hkeys
    · intro hwf
      exact ⟨p.ordered, parse_text hwf hkeys, Selection.same_orderedAll p hwf hkeys⟩
  · intro t p h
    exact wellFormed_of_parse h

end Projection

namespace Bookshelf

open Projection

/-- Covers under another name, small and without a frame, and the names of authors. -/
def smallCovers : Projection :=
  [⟨"cover", some "image", [("size", .string "small"), ("frame", .bool false)], none⟩,
    ⟨"author", none, [], some [⟨"name", none, [], none⟩]⟩]

/-- Covers with a count, which is read as a float. -/
def countedCovers : Projection := [⟨"cover", none, [("size", .integer 2)], none⟩]

/-- The one is read as it was written, up to the order of its parameters; the other is not. -/
theorem parse_smallCovers :
    (∃ q, parse smallCovers.text = .ok q ∧ same q smallCovers = true) ∧
      (¬ ∃ q, parse countedCovers.text = .ok q ∧ same q countedCovers = true) ∧
        smallCovers.ordered.WellFormed := by
  have hkeys : smallCovers.KeysDistinct := by decide
  have hread := parse_text (p := smallCovers) (by decide) hkeys
  refine ⟨(parses_back_iff_wellFormed.1 smallCovers hkeys).2 (by decide), ?_,
    (parses_back_iff_wellFormed.2 _ _ hread).1⟩
  intro h
  exact absurd ((parses_back_iff_wellFormed.1 countedCovers (by decide)).1 h) (by decide)

end Bookshelf

end DocQuery
