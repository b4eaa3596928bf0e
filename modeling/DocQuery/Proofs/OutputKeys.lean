import DocQuery.Evaluation.Evaluator
import DocQuery.Pattern.Engine
import DocQuery.Proofs.Requests
import Mathlib.Data.List.Forall2
import Mathlib.Data.List.Induction

/-!
# The keys of an output

A walk writes one entry for each selection that is shown, in the order of the selections that the
projection stands for. Of the entries under one key the last is kept, in the place of the first.

* `Assoc.keys_ofWrites`, `Assoc.get?_ofWrites` — what writes leave under their keys.
* `Projection.written_of_draft` — the entries of a walk, one for each selection that is shown.
* `Projection.mem_expand_of_key` — a `*` stands for every key, but for its own name.
* `Projection.output_of_draft` — the keys of an output, and what they hold.
* `Evaluator.keys_of_eval` — the document of an evaluation has these keys.
-/

set_option autoImplicit false

namespace DocQuery

namespace Assoc

variable {α : Type}

/-- **Writes leave the keys in the order in which they first occur.** -/
theorem keys_ofWrites (writes : List (String × α)) :
    keys (ofWrites writes) = (writes.map Prod.fst).eraseDups := by
  induction writes using List.reverseRecOn with
  | nil => rfl
  | append_singleton ws w ih =>
    have hput : ofWrites (ws ++ [w]) = (ofWrites ws).put w.1 w.2 := List.foldl_append
    rw [hput, keys_put, ih, List.map_append, List.eraseDups_append, List.map_singleton]
    by_cases hmem : w.1 ∈ ws.map Prod.fst
    · rw [if_pos (List.mem_eraseDups.2 hmem)]
      simp [List.removeAll, List.mem_map.1 hmem]
    · rw [if_neg fun h => hmem (List.mem_eraseDups.1 h)]
      simp_all [List.removeAll, List.eraseDups_cons]

/-- Under a key stands what was written there last. -/
theorem get?_ofWrites (before : List (String × α)) {w : String × α} {after : List (String × α)}
    (h : ∀ v ∈ after, v.1 ≠ w.1) : get? (ofWrites (before ++ w :: after)) w.1 = some w.2 := by
  induction after using List.reverseRecOn with
  | nil =>
    have hput : ofWrites (before ++ [w]) = (ofWrites before).put w.1 w.2 := List.foldl_append
    rw [hput, get?_put, if_pos rfl]
  | append_singleton vs v ih =>
    have hput : ofWrites (before ++ w :: (vs ++ [v])) =
        (ofWrites (before ++ w :: vs)).put v.1 v.2 := by
      rw [← List.cons_append, ← List.append_assoc]
      exact List.foldl_append
    rw [hput, get?_put, if_neg (h v (List.mem_append_right _ (List.mem_singleton_self v)))]
    exact ih fun u hu => h u (List.mem_append_left _ hu)

end Assoc

namespace Selection

/-- Whether the field of a selection is hidden. -/
def isHidden (fields : Schema) (s : Selection) : Bool :=
  (Schema.lookup fields s.name).any Field.hidden

/-- Whether the field of a selection is a connection. -/
def isConnection (fields : Schema) (s : Selection) : Bool :=
  match (Schema.lookup fields s.name).map Field.kind with
  | some (.connection _ _ _) => true
  | _ => false

/-- Whether a selection is shown: its field is not hidden, and is a connection or stored. -/
def isShown (fields : Schema) (doc : Document) (s : Selection) : Bool :=
  !s.isHidden fields && (s.isConnection fields || (Assoc.get? doc s.name).isSome)

end Selection

/-! ## One selection -/

namespace Branch

variable [RegexEngine]
variable {scope : Scope} {b : Branch (Draft Request)} {doc : Document} {fields : Schema}
  {writes : Draft.Writes Request}

/-- What is stored is written under the key of the selection. -/
theorem written_of_draftStored {f : Option Field} (h : b.draftStored f doc = .ok writes) :
    ((Assoc.get? doc b.selection.name).isSome = true ∧
        ∃ d, writes = [(b.selection.outputName, d)]) ∨
      (Assoc.get? doc b.selection.name).isSome = false ∧ writes = [] := by
  rcases b.draftStored_cases f doc with ⟨hnone, hdraft⟩ | ⟨v, hv, hdraft⟩
  · rw [hdraft] at h
    exact .inr ⟨by rw [hnone]; rfl, (Except.ok.inj h).symm⟩
  · rw [hdraft] at h
    obtain ⟨d, -, rfl⟩ := map_eq_ok_iff.1 h
    exact .inl ⟨by rw [hv]; rfl, d, rfl⟩

/-- **A selection writes one entry under its key if it is shown, and nothing else.** -/
theorem written_of_draft (h : b.draft scope doc fields = .ok writes) :
    if b.selection.isShown fields doc then ∃ d, writes = [(b.selection.outputName, d)]
    else writes = [] := by
  have hstored : ∀ f, b.draftStored f doc = .ok writes →
      b.selection.isHidden fields = false → b.selection.isConnection fields = false →
        if b.selection.isShown fields doc then ∃ d, writes = [(b.selection.outputName, d)]
        else writes = [] := by
    intro f hf hhidden hconnection
    unfold Selection.isShown
    rw [hhidden, hconnection]
    rcases written_of_draftStored hf with ⟨hsome, hwritten⟩ | ⟨hnone, hwritten⟩
    · rw [hsome]
      exact hwritten
    · rw [hnone]
      exact hwritten
  unfold Selection.isHidden Selection.isConnection at hstored
  rcases b.draft_cases scope fields with
    ⟨hf, hdraft⟩ | ⟨f, hf, ⟨hhidden, hdraft⟩ |
      ⟨hhidden, ⟨path, field, target, hkind, hdraft⟩ | ⟨hkind, hdraft⟩⟩⟩
  · rw [hdraft] at h
    rw [hf] at hstored
    exact hstored none h rfl rfl
  · rw [hdraft] at h
    have hshown : b.selection.isShown fields doc = false := by
      simp [Selection.isShown, Selection.isHidden, hf, hhidden]
    rw [hshown]
    exact (Except.ok.inj h).symm
  · rw [hdraft] at h
    have hshown : b.selection.isShown fields doc = true := by
      simp [Selection.isShown, Selection.isHidden, Selection.isConnection, hf, hhidden, hkind]
    obtain ⟨r, -, rfl⟩ := map_eq_ok_iff.1 h
    rw [hshown]
    exact ⟨_, rfl⟩
  · rw [hdraft] at h
    rw [hf] at hstored
    refine hstored (some f) h hhidden ?_
    simp only [Option.map_some]
    split
    · rename_i heq
      exact absurd (Option.some.inj heq) (hkind _ _ _)
    · rfl

end Branch

namespace Projection

variable [RegexEngine] {scope : Scope} {p : Projection} {doc : Document} {fields : Schema}
  {writes : Draft.Writes Request}

/-! ## The entries of a walk -/

/-- An entry is what a selection alone writes. -/
def Written (scope : Scope) (doc : Document) (fields : Schema) (s : Selection)
    (w : String × Draft Request) : Prop :=
  w.1 = s.outputName ∧ (branch scope s).draft scope doc fields = .ok [w]

/-- The entries of selections that were walked are those of the selections that are shown. -/
theorem written_flatten {ss : Projection} {parts : List (Draft.Writes Request)}
    (h : List.Forall₂ (fun s ws => (branch scope s).draft scope doc fields = .ok ws) ss parts) :
    List.Forall₂ (Written scope doc fields) (ss.filter (·.isShown fields doc)) parts.flatten := by
  induction h with
  | nil => exact .nil
  | @cons s ws ss parts hs _ ih =>
    have hwritten := Branch.written_of_draft hs
    rw [branch_selection] at hwritten
    by_cases hshown : s.isShown fields doc = true
    · rw [if_pos hshown] at hwritten
      obtain ⟨d, rfl⟩ := hwritten
      rw [List.filter_cons_of_pos hshown]
      exact .cons ⟨rfl, hs⟩ ih
    · rw [if_neg hshown] at hwritten
      rw [List.filter_cons_of_neg hshown, hwritten]
      exact ih

/-- **A walk writes one entry for each selection that is shown**, in their order. -/
theorem written_of_draft (h : p.draft scope doc fields = .ok writes) :
    ∃ ss, p.expand doc = .ok ss ∧
      List.Forall₂ (Written scope doc fields) (ss.filter (·.isShown fields doc)) writes := by
  obtain ⟨ss, parts, hss, rfl, hparts⟩ := exists_parts_of_draft h
  refine ⟨ss, hss, written_flatten ?_⟩
  have heq := List.forall₂_eq_eq_eq ▸ hparts
  rw [List.forall₂_map_left_iff, List.forall₂_map_right_iff] at heq
  exact heq.imp fun _ _ => toOption_eq_some_iff.1

/-- A hidden field writes nothing, whatever it would be shown as. -/
theorem draft_of_isHidden (scope : Scope) {s : Selection} (h : s.isHidden fields = true)
    (doc : Document) : (branch scope s).draft scope doc fields = .ok [] := by
  rcases (branch scope s).draft_cases scope fields with
    ⟨hf, -⟩ | ⟨f, hf, ⟨-, hdraft⟩ | ⟨hhidden, -⟩⟩
  · rw [branch_selection] at hf
    rw [Selection.isHidden, hf] at h
    cases h
  · exact hdraft doc
  · rw [branch_selection] at hf
    rw [Selection.isHidden, hf, Option.any_some, hhidden] at h
    cases h

theorem keys_of_written {ss : Projection}
    (h : List.Forall₂ (Written scope doc fields) ss writes) :
    writes.map Prod.fst = ss.map Selection.outputName := by
  induction h with
  | nil => rfl
  | cons hw _ ih => rw [List.map_cons, List.map_cons, hw.1, ih]

/-- What a selection writes stands where the selection does. -/
theorem written_split {before : Projection} {s : Selection} {after : Projection}
    (h : List.Forall₂ (Written scope doc fields) (before ++ s :: after) writes) :
    ∃ ws w vs, writes = ws ++ w :: vs ∧ Written scope doc fields s w ∧
      List.Forall₂ (Written scope doc fields) after vs := by
  induction before generalizing writes with
  | nil =>
    cases h with
    | cons hw hafter => exact ⟨[], _, _, rfl, hw, hafter⟩
  | cons t before ih =>
    cases h with
    | cons _ hrest =>
      obtain ⟨ws, w, vs, rfl, hw, hafter⟩ := ih hrest
      exact ⟨_ :: ws, w, vs, rfl, hw, hafter⟩

/-! ## The keys of a document -/

omit [RegexEngine] in
/-- **A `*` stands for every key that is not named**, and a key that is named is selected. Only the
name of an unaliased `*` may be neither. -/
theorem mem_expand_of_key {ss : Projection} (hss : p.expand doc = .ok ss)
    (hall : p.isEmpty = true ∨ ∃ star ∈ p, star.isWildcard = true) {key : String}
    (hkey : key ∈ Assoc.keys doc)
    (hstar : key = Selection.wildcardName →
      ∀ star ∈ p, star.isWildcard = true → star.shownAs.isSome = true) :
    ∃ s ∈ ss, s.name = key ∧ s.outputName = key := by
  unfold expand at hss
  by_cases hempty : p.isEmpty = true
  · rw [if_pos hempty] at hss
    cases hss
    exact ⟨{ name := key }, List.mem_map_of_mem hkey, rfl, rfl⟩
  · obtain ⟨star, hmem, hwild⟩ := hall.resolve_left hempty
    rw [if_neg hempty] at hss
    split at hss
    · cases hss
    · cases hss
      by_cases hnamed : p.names key = true
      · obtain ⟨s, hs, heq⟩ := List.any_eq_true.1 hnamed
        obtain ⟨hname, hown⟩ := Bool.and_eq_true_iff.1 heq
        obtain rfl := beq_iff_eq.1 hname
        have hplain : s.isWildcard = false := by
          refine Bool.eq_false_iff.2 fun hwild => ?_
          have hshown := hstar (beq_iff_eq.1 hwild) s hs hwild
          rw [Option.isNone_iff_eq_none.1 hown] at hshown
          cases hshown
        refine ⟨s, List.mem_flatMap.2 ⟨s, hs, ?_⟩, rfl, ?_⟩
        · rw [hplain]
          exact List.mem_singleton_self s
        · rw [Selection.outputName, Option.isNone_iff_eq_none.1 hown]
          rfl
      · refine ⟨{ name := key, children := star.children },
          List.mem_flatMap.2 ⟨star, hmem, ?_⟩, rfl, rfl⟩
        rw [if_pos hwild]
        refine List.mem_map.2 ⟨key, List.mem_filter.2 ⟨hkey, ?_⟩, rfl⟩
        rw [Bool.eq_false_iff.2 hnamed]
        rfl

/-! ## The output -/

/-- **The keys of an output.** Of the selections that the projection stands for those that are shown
write one entry each, and a hidden field is never shown. The keys are pairwise distinct: those of
the selections that are shown, in the order in which they first occur. Under each key stands what
the last selection with that key writes. If the projection is empty or has a `*`, every key of the
document whose field is not hidden is among them, but perhaps for the name of an unaliased `*`. -/
theorem output_of_draft (h : p.draft scope doc fields = .ok writes) :
    ∃ ss, p.expand doc = .ok ss ∧
      List.Forall₂ (Written scope doc fields) (ss.filter (·.isShown fields doc)) writes ∧
      (Assoc.keys (Assoc.ofWrites writes)).Nodup ∧
      Assoc.keys (Assoc.ofWrites writes) =
        ((ss.filter (·.isShown fields doc)).map Selection.outputName).eraseDups ∧
      (∀ before s after, ss.filter (·.isShown fields doc) = before ++ s :: after →
        (∀ t ∈ after, t.outputName ≠ s.outputName) →
        ∃ d, (branch scope s).draft scope doc fields = .ok [(s.outputName, d)] ∧
          Assoc.get? (Assoc.ofWrites writes) s.outputName = some d) ∧
      (∀ s : Selection, s.isHidden fields = true →
        s.isShown fields doc = false ∧ (branch scope s).draft scope doc fields = .ok []) ∧
      ((p.isEmpty = true ∨ ∃ star ∈ p, star.isWildcard = true) →
        ∀ key ∈ Assoc.keys doc, (Schema.lookup fields key).any Field.hidden = false →
          (key = Selection.wildcardName →
            ∀ star ∈ p, star.isWildcard = true → star.shownAs.isSome = true) →
          key ∈ Assoc.keys (Assoc.ofWrites writes)) := by
  obtain ⟨ss, hss, hwritten⟩ := written_of_draft h
  have hkeys : Assoc.keys (Assoc.ofWrites writes) =
      ((ss.filter (·.isShown fields doc)).map Selection.outputName).eraseDups := by
    rw [Assoc.keys_ofWrites, keys_of_written hwritten]
  refine ⟨ss, hss, hwritten, (Assoc.ofWrites_spec writes).1, hkeys, ?last, ?hidden, ?all⟩
  case last =>
    intro before s after hsplit hlast
    rw [hsplit] at hwritten
    obtain ⟨ws, ⟨key, d⟩, vs, rfl, ⟨rfl, hw⟩, hafter⟩ := written_split hwritten
    refine ⟨d, hw, Assoc.get?_ofWrites ws fun v hv heq => ?_⟩
    have hv : v.1 ∈ after.map Selection.outputName :=
      keys_of_written hafter ▸ List.mem_map_of_mem hv
    obtain ⟨t, ht, hname⟩ := List.mem_map.1 hv
    exact hlast t ht (hname.trans heq)
  case hidden =>
    intro s hs
    exact ⟨by simp [Selection.isShown, hs], draft_of_isHidden scope hs doc⟩
  case all =>
    intro hall key hkey hvisible hstar
    obtain ⟨s, hs, hname, hshownAs⟩ := mem_expand_of_key hss hall hkey hstar
    have hshown : s.isShown fields doc = true := by
      rw [Selection.isShown, Selection.isHidden, hname, hvisible,
        (Assoc.get?_isSome_iff doc key).2 hkey, Bool.or_true]
      rfl
    rw [hkeys, List.mem_eraseDups, ← hshownAs]
    exact List.mem_map_of_mem (List.mem_filter.2 ⟨hs, hshown⟩)

end Projection

namespace Draft

variable {ρ σ : Type}

theorem keys_numberWrites (n : Nat) (writes : Writes ρ) :
    (numberWrites n writes).map Prod.fst = writes.map Prod.fst := by
  induction writes generalizing n with
  | nil => rfl
  | cons w writes ih => rw [numberWrites, List.map_cons, ih, List.map_cons]

theorem keys_bindWrites (f : ρ → Draft σ) (writes : Writes ρ) :
    (bindWrites f writes).map Prod.fst = writes.map Prod.fst := by
  induction writes with
  | nil => rfl
  | cons w writes ih => rw [bindWrites, List.map_cons, ih, List.map_cons]

theorem keys_outcomesOfWrites (writes : Writes Empty) :
    (outcomesOfWrites writes).map Prod.fst = writes.map Prod.fst := by
  induction writes with
  | nil => rfl
  | cons w writes ih => rw [outcomesOfWrites, List.map_cons, ih, List.map_cons]

theorem keys_gather {outcomes : Assoc (Except Error Value)} {doc : Document}
    (h : gather outcomes = .ok doc) : Assoc.keys doc = Assoc.keys outcomes := by
  induction outcomes generalizing doc with
  | nil =>
    cases h
    rfl
  | cons o outcomes ih =>
    obtain ⟨v, -, h⟩ := bind_eq_ok_iff.1 h
    obtain ⟨vs, hvs, h⟩ := bind_eq_ok_iff.1 h
    cases h
    exact congrArg (o.1 :: ·) (ih hvs)

/-- A document that is rendered has the keys that were written. -/
theorem keys_renderDocument {writes : Writes Empty} {doc : Document}
    (h : renderDocument writes = .ok doc) :
    Assoc.keys doc = Assoc.keys (Assoc.ofWrites writes) := by
  rw [keys_gather h, Assoc.keys_ofWrites, Assoc.keys_ofWrites, keys_outcomesOfWrites]

end Draft

namespace Evaluator

variable [RegexEngine]

/-- **The keys of an evaluated document** are those of the selections that are shown. -/
theorem keys_of_eval (e : Evaluator) {catalog : Catalog} {resolver : Resolver} {p : Projection}
    {fields : Schema} {doc out : Document}
    (h : (e.eval catalog resolver p fields doc).result = .ok out) :
    ∃ ss, p.expand doc = .ok ss ∧ Assoc.keys out =
      ((ss.filter (·.isShown fields doc)).map Selection.outputName).eraseDups := by
  unfold eval evalWithin Assembly.run at h
  simp only [Run.result_bind] at h
  obtain ⟨writes, hwrites, h⟩ := bind_eq_ok_iff.1 h
  obtain ⟨⟨answers, passes⟩, -, h⟩ := bind_eq_ok_iff.1 h
  simp only [finish, Run.result_bind] at h
  obtain ⟨shown, hshown, h⟩ := bind_eq_ok_iff.1 h
  obtain ⟨⟨⟩, -, h⟩ := bind_eq_ok_iff.1 h
  cases h
  obtain ⟨ss, hss, hwritten⟩ := Projection.written_of_draft hwrites
  refine ⟨ss, hss, ?_⟩
  rw [Draft.keys_renderDocument hshown, Assoc.keys_ofWrites, Draft.keys_bindWrites,
    Draft.keys_numberWrites, Projection.keys_of_written hwritten]

end Evaluator

namespace Bookshelf

/-- The fields of a diary; what is private is hidden. -/
def diaryFields : Schema :=
  [("private", .mk { hidden := true } .scalar), ("title", .mk { } .scalar)]

def diary : Document :=
  [("title", .string "A diary"), ("pages", .number (.integer 90)), ("private", .string "x")]

/-- The pages under the key of the title, all keys, and what is private under a key of its own. -/
def diaryKeys : Projection :=
  [{ name := "pages", shownAs := some "title" }, { name := "*" },
    { name := "private", shownAs := some "note" }]

/-- No collections, and ten items to a page. -/
def lonely : Scope := ⟨[], 10⟩

/-- The title is shown in the place of the pages, and nothing of what is private. -/
theorem diary_keys :
    ∃ writes, diaryKeys.draft lonely diary diaryFields = .ok writes ∧
      Assoc.keys (Assoc.ofWrites writes) = ["title", "pages"] := by
  have hdraft : (diaryKeys.draft lonely diary diaryFields).toOption.isSome = true := by
    decide +kernel
  obtain ⟨writes, hwrites⟩ := Option.isSome_iff_exists.1 hdraft
  have hdrafted := toOption_eq_some_iff.1 hwrites
  obtain ⟨ss, hss, -, -, hkeys, -⟩ := Projection.output_of_draft hdrafted
  refine ⟨writes, hdrafted, ?_⟩
  cases hss
  rw [hkeys]
  decide +kernel

/-- Of a document with a key of its name, `*` does not show this key. -/
theorem star_not_shown :
    ¬∀ (scope : Scope) (p : Projection) (doc : Document) (fields : Schema)
      (writes : Draft.Writes Request), p.draft scope doc fields = .ok writes →
        (∃ star ∈ p, star.isWildcard = true) → ∀ key ∈ Assoc.keys doc,
          (Schema.lookup fields key).any Field.hidden = false →
            key ∈ Assoc.keys (Assoc.ofWrites writes) := by
  intro h
  have hshown := h lonely [{ name := "*" }] [("*", .number (.integer 1))] [] [] rfl
    ⟨_, List.mem_singleton_self _, rfl⟩ "*" (List.mem_singleton_self _) (by decide +kernel)
  cases hshown

end Bookshelf

end DocQuery
