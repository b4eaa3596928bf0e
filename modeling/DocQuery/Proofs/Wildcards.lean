import DocQuery.Proofs.Failures
import DocQuery.Proofs.Narrowing
import DocQuery.Proofs.SafeSchedules

/-!
# Wildcards in validated projections

Validation takes every `*` that is shown under no other key, and whatever is below it. An evaluation
takes one `*` at most and reads each key that the `*` stands for as if it were named there, with
what is below the `*`. So where documents conform to their fields and nothing else can fail, an
evaluation of a validated projection fails at a second `*`, or at or under a key that a `*` with a
projection of its own stands for.

* `Site.Spreads` — the keys that a `*` with a projection of its own stands for.
* `Passes.Astray` — the documents of which validation says nothing: those under such keys, and those
  that come back without being what a field declares.
* `Site.Agrees`, `Passes.Way.agrees` — of all others it does.
* `Passes.Residual` — the failures that validation leaves.
* `Evaluator.eval_residual` — there are no others.
-/

set_option autoImplicit false

namespace DocQuery

/-! ## What never fails -/

/-- A field of a schema, or one inside a field of it. -/
inductive Schema.Holds (root : Schema) : Field → Prop
  | own {name : String} {f : Field} (declared : lookup root name = some f) : Holds root f
  | element {c : Capabilities} {e : Field} (list : Holds root (.mk c (.array e))) : Holds root e
  | inside {c : Capabilities} {sub : Schema} {name : String} {f : Field}
    (document : Holds root (.mk c (.object sub))) (declared : lookup sub name = some f) :
    Holds root f

/-- No handler and no output form of the fields ever fails. -/
def Schema.Total (fields : Schema) : Prop := ∀ f, fields.Holds f → f.capabilities.Total

/-- Answers whatever is asked, with documents whose fields never fail. -/
structure Resolver.Unfailing [RegexEngine] (resolver : Resolver) : Prop where
  answers : ∀ path q, ∃ answer, resolver path q = .ok answer
  total {path : String} {q : Query} {answer : Resolved} :
    resolver path q = .ok answer → answer.fields.Total

namespace Schema

variable {root sub : Schema}

theorem Holds.trans {c : Capabilities} (h : root.Holds (.mk c (.object sub))) {f : Field}
    (hf : sub.Holds f) : root.Holds f := by
  induction hf with
  | own declared => exact h.inside declared
  | element _ ih => exact ih.element
  | inside _ declared ih => exact ih.inside declared

theorem Holds.layer {f g : Field} (h : root.Holds f) (hg : g ∈ f.layers) : root.Holds g := by
  match f with
  | .mk c (.array e) =>
    rw [Field.layers, List.mem_cons] at hg
    rcases hg with rfl | hg
    · exact h
    · exact h.element.layer hg
  | .mk c .scalar | .mk c (.object _) | .mk c (.reference _ _) | .mk c (.connection _ _ _) =>
    rw [List.mem_singleton.1 hg]
    exact h

theorem Holds.part {f : Field} (h : root.Holds f) {v : Value} {part : Document × Schema}
    (hpart : part ∈ f.parts v) : ∃ c, root.Holds (.mk c (.object part.2)) := by
  match f, v with
  | .mk c (.object fields), .object doc =>
    rw [Field.parts_object, List.mem_singleton] at hpart
    exact ⟨c, hpart ▸ h⟩
  | .mk _ (.array e), .array items =>
    rw [Field.parts_array, List.mem_flatMap] at hpart
    obtain ⟨item, -, hpart⟩ := hpart
    exact h.element.part hpart
  | .mk _ .scalar, _ => cases hpart

theorem Total.part (h : root.Total) {name : String} {f : Field}
    (hf : lookup root name = some f) {v : Value} {part : Document × Schema}
    (hpart : part ∈ f.parts v) : part.2.Total := by
  obtain ⟨c, hobject⟩ := (Holds.own hf).part hpart
  exact fun g hg => h g (hobject.trans hg)

end Schema

/-! ## Documents as their fields say -/

namespace Field.Admits

variable {catalog : Catalog} {f : Field} {v : Value}

/-- Only a value under a field that leads to no documents may not be what is needed of it. -/
theorem leads_nowhere (h : f.Admits v) (hv : v.isNull = false)
    (hstored : ∀ path field target, f.kind ≠ .connection path field target) {problem : String}
    (hwrong : f.Misshapes v problem) : f.childFields catalog = none := by
  cases h with
  | null => cases hv
  | document =>
    cases hwrong with
    | childless leaf => cases leaf
    | notDocument other => exact absurd rfl (other _)
  | documents =>
    cases hwrong with
    | childless leaf | childlessElements leaf => cases leaf
    | notList other => exact absurd rfl (other _)
    | item mem misshapen =>
      obtain ⟨doc, -, rfl⟩ := List.mem_map.1 mem
      cases misshapen with
      | childless leaf => cases leaf
      | notDocument other => exact absurd rfl (other _)
  | ids =>
    cases hwrong with
    | childless leaf | childlessElements leaf => cases leaf
    | notList other => exact absurd rfl (other _)
    | item _ misshapen =>
      cases misshapen with
      | childless leaf => cases leaf
  | plain unstructured =>
    obtain ⟨c, kind⟩ := f
    cases kind with
    | scalar => rfl
    | object fields => cases unstructured
    | array element =>
      obtain ⟨ce, kind⟩ := element
      cases kind with
      | object fields | reference path target => cases unstructured
      | _ => rfl
    | reference path target =>
      cases hwrong with
      | childless leaf => cases leaf
    | connection path field target => exact absurd rfl (hstored path field target)

/-- The documents inside a value are those that its field leads to. -/
theorem part (h : f.Admits v) {sub : Schema} (hsub : f.childFields catalog = some sub)
    {part : Document × Schema} (hpart : part ∈ f.parts v) :
    part.2 = sub ∧ part.2.Admits part.1 := by
  cases h with
  | null => simp [parts] at hpart
  | document doc_admitted =>
    cases hsub
    rw [parts_object, List.mem_singleton] at hpart
    subst hpart
    exact ⟨rfl, doc_admitted⟩
  | documents docs_admitted =>
    cases hsub
    rw [parts_array, List.mem_flatMap] at hpart
    obtain ⟨item, hitem, hpart⟩ := hpart
    obtain ⟨doc, hdoc, rfl⟩ := List.mem_map.1 hitem
    rw [parts_object, List.mem_singleton] at hpart
    subst hpart
    exact ⟨rfl, docs_admitted doc hdoc⟩
  | ids =>
    rw [parts_array, List.mem_flatMap] at hpart
    obtain ⟨item, -, hpart⟩ := hpart
    simp [parts] at hpart
  | plain unstructured =>
    obtain ⟨c, kind⟩ := f
    cases kind with
    | scalar => cases hsub
    | object fields => cases unstructured
    | array element =>
      obtain ⟨ce, kind⟩ := element
      cases kind with
      | object fields | reference path target => cases unstructured
      | _ => cases hsub
    | reference | connection => simp [parts] at hpart

end Field.Admits

/-- A field that never fails turns nothing away. -/
theorem Transform.not_refuses {f : Field} (hf : f.capabilities.Total) {s : Selection} {v : Value}
    {problem : String} : ¬ (ofSelection s (some f)).Refuses v problem := by
  intro hrefuses
  cases hrefuses with
  | handler given _ refused =>
    obtain ⟨w, hw⟩ := hf.handler _ given v _
    cases hw.symm.trans refused
  | @serializer u _ _ given refused =>
    obtain ⟨w, hw⟩ := hf.serializer _ given u
    cases hw.symm.trans refused

/-! ## Where validation says nothing -/

/-- A key of the document that a `*` with a projection of its own stands for. -/
inductive Site.Spreads (a : Site) : Selection → Prop
  | intro {star : Selection} {children : Projection} {key : String} (mem : star ∈ a.projection)
    (wild : star.isWildcard = true) (below : star.children = some children)
    (stored : key ∈ Assoc.keys a.doc) (unnamed : a.projection.names key = false) :
    Spreads a { name := key, children := some children }

/-- A document that came back for a field is what the field declares. -/
def Site.Delivers (catalog : Catalog) (a : Site) (s : Selection) (b : Site) : Prop :=
  ∃ f, Schema.lookup a.fields s.name = some f ∧ f.childFields catalog = some b.fields ∧
    b.fields.Admits b.doc

/-- An evaluation comes to a document under a key that a `*` with a projection of its own stands
for, or past a document that is not what a field declares. -/
inductive Passes.Astray [RegexEngine] (ps : Passes) (root : Site) : List Hop → Site → Prop
  | stored {hops : List Hop} {a b : Site} {s : Selection} (way : ps.Way root hops a)
    (spreads : a.Spreads s) (under : a.Under s b) : Astray ps root (hops ++ [⟨s.name, false⟩]) b
  | fetched {hops : List Hop} {a b : Site} {s : Selection} (way : ps.Way root hops a)
    (spreads : a.Spreads s) (fetches : a.Fetches ps s b) :
    Astray ps root (hops ++ [⟨s.name, true⟩]) b
  | undelivered {hops : List Hop} {a b : Site} {s : Selection} (way : ps.Way root hops a)
    (fetches : a.Fetches ps s b) (other : ¬ a.Delivers ps.scope.catalog s b) :
    Astray ps root (hops ++ [⟨s.name, true⟩]) b
  | onward {hops rest : List Hop} {a b : Site} (astray : Astray ps root hops a)
    (way : ps.Way a rest b) : Astray ps root (hops ++ rest) b

/-- A document conforms to its fields, against which its projection was validated. -/
structure Site.Agrees [RegexEngine] (catalog : Catalog) (a : Site) : Prop where
  admits : a.fields.Admits a.doc
  validated : a.projection.Validated catalog a.fields

namespace Site

variable [RegexEngine] {scope : Scope} {ps : Passes} {a b : Site} {s : Selection} {f : Field}

omit [RegexEngine] in
theorem Delivers.reaches {catalog : Catalog} {root : Schema} (h : a.Delivers catalog s b)
    (hreach : catalog.Reaches root a.fields) : catalog.Reaches root b.fields := by
  obtain ⟨f, hf, hsub, -⟩ := h
  exact hreach.tail ⟨s.name, f, hf, hsub⟩

omit [RegexEngine] in
theorem Spreads.mem_keys (h : a.Spreads s) : s.name ∈ Assoc.keys a.doc := by
  cases h with
  | intro _ _ _ stored _ => exact stored

omit [RegexEngine] in
/-- A selection is one of the projection's own, or a key: one that a `*` with a projection of its
own stands for, or one that is shown whole. -/
theorem Selects.cases (h : a.Selects s) :
    (s ∈ a.projection ∧ s.isWildcard = false) ∨ a.Spreads s ∨
      s.name ∈ Assoc.keys a.doc ∧ s.children = none := by
  obtain ⟨ss, hss, hs⟩ := h
  rcases Projection.expand_cases hss hs with
    hown | ⟨hkey, hunnamed, heq | ⟨star, hstar, hwild, heq⟩⟩
  · exact .inl hown
  · refine .inr (.inr ⟨hkey, ?_⟩)
    rw [heq]
  · cases hc : star.children with
    | none =>
      refine .inr (.inr ⟨hkey, ?_⟩)
      rw [heq]
      exact hc
    | some children =>
      rw [hc] at heq
      rw [heq]
      exact .inr (.inl (.intro hstar hwild hc hkey hunnamed))

theorem Asks.selected {r : Request} (h : a.Asks scope s r) :
    ∃ f, a.Displays s f ∧ r.query.projection = s.children.getD [] := by
  cases h with
  | reference displays _ opens => exact ⟨_, displays, by rw [opens.below]; rfl⟩
  | references displays _ _ opens => exact ⟨_, displays, by rw [opens.below]; rfl⟩
  | connection displays _ made =>
    obtain ⟨_, _, _, -, -, -, rfl⟩ := Request.ofConnection_eq_ok made
    exact ⟨_, displays, rfl⟩

omit [RegexEngine] in
theorem Under.selected (h : a.Under s b) :
    a.Selects s ∧ b.projection = s.children.getD [] := by
  cases h with
  | intro displays opens _ => exact ⟨displays.selected, by rw [opens.below]; rfl⟩

theorem Fetches.selected (h : a.Fetches ps s b) :
    a.Selects s ∧ b.projection = s.children.getD [] := by
  cases h with
  | intro asked _ _ _ _ =>
    obtain ⟨f, displays, heq⟩ := asked.selected
    exact ⟨displays.selected, heq⟩

namespace Agrees

variable {catalog : Catalog}

/-- A selection of the projection's own was validated against its field. -/
theorem validatedFor (h : a.Agrees catalog) (hs : s ∈ a.projection) (hno : s.isWildcard = false)
    (hf : Schema.lookup a.fields s.name = some f) : s.ValidatedFor catalog f :=
  (h.validated.selection hs).of_declared hno hf

theorem admits_value (h : a.Agrees catalog) {v : Value} (hv : Assoc.get? a.doc s.name = some v)
    (hf : Schema.lookup a.fields s.name = some f) : f.Admits v := by
  obtain ⟨values, -, -⟩ := h.admits
  exact values _ v f hv hf

theorem storesNoConnection (h : a.Agrees catalog) : a.StoresNoConnection := by
  obtain ⟨-, stores_no_connection, -⟩ := h.admits
  exact stores_no_connection

/-- A stored document is what its field declares, unless a `*` stands for its key. -/
theorem delivers_under (h : a.Agrees catalog) (hnone : ¬ a.Spreads s) (hunder : a.Under s b) :
    a.Delivers catalog s b := by
  cases hunder with
  | intro displays opens part =>
    rcases displays.selected.cases with ⟨hs, hno⟩ | hspreads | ⟨-, hwhole⟩
    · obtain ⟨sub, hsub, -⟩ := (h.validatedFor hs hno displays.declared).below opens.below
      obtain ⟨rfl, hdoc⟩ := (h.admits_value opens.stored displays.declared).part hsub part
      exact ⟨_, displays.declared, hsub, hdoc⟩
    · exact absurd hspreads hnone
    · cases hwhole.symm.trans opens.below

/-- **A document that is what a field declares agrees** with what was validated below the field,
unless a `*` stands for its key. -/
theorem of_delivers (h : a.Agrees catalog) (hselected : a.Selects s) (hnone : ¬ a.Spreads s)
    (hprojection : b.projection = s.children.getD []) (hdelivers : a.Delivers catalog s b) :
    b.Agrees catalog := by
  obtain ⟨f, hf, hsub, hdoc⟩ := hdelivers
  refine ⟨hdoc, ?_⟩
  rw [hprojection]
  cases hc : s.children with
  | none => exact ⟨[], rfl⟩
  | some children =>
    rcases hselected.cases with ⟨hs, hno⟩ | hspreads | ⟨-, hwhole⟩
    · obtain ⟨sub, hsub', hchildren⟩ := (h.validatedFor hs hno hf).below hc
      cases hsub.symm.trans hsub'
      exact hchildren
    · exact absurd hspreads hnone
    · cases hwhole.symm.trans hc

/-- What a document that agrees asks for is what one of its fields leads to, unless a `*` stands for
the key. -/
theorem exists_target (h : a.Agrees scope.catalog) (hnone : ¬ a.Spreads s) {r : Request}
    (hasks : a.Asks scope s r) :
    ∃ f target, Schema.lookup a.fields s.name = some f ∧ f.target? = some (r.path, target) := by
  cases hasks with
  | @reference f _ target _ _ displays kind _ =>
    obtain ⟨c, _⟩ := f
    cases kind
    exact ⟨_, target, displays.declared, rfl⟩
  | @references c inner _ _ target _ _ _ displays layer kind opens _ =>
    rcases displays.selected.cases with ⟨hs, hno⟩ | hspreads | ⟨-, hwhole⟩
    · obtain ⟨sub, hsub, -⟩ := (h.validatedFor hs hno displays.declared).below opens.below
      obtain ⟨ci, inner⟩ := inner
      cases inner with
      | object fields =>
        cases List.mem_singleton.1 layer
        cases kind
      | reference path target =>
        cases List.mem_singleton.1 layer
        cases kind
        exact ⟨_, target, displays.declared, rfl⟩
      | _ => cases hsub
    · exact absurd hspreads hnone
    · cases hwhole.symm.trans opens.below
  | @connection f path field target _ displays kind made =>
    obtain ⟨_, _, _, -, -, -, rfl⟩ := Request.ofConnection_eq_ok made
    obtain ⟨c, _⟩ := f
    cases kind
    exact ⟨_, target, displays.declared, rfl⟩

/-- A document that comes back from a reliable collection is what the field declares, unless a `*`
stands for its key. -/
theorem delivers_fetches {root : Schema} (h : a.Agrees ps.scope.catalog)
    (hrel : ps.scope.catalog.Reliable ps.resolver root)
    (hreach : ps.scope.catalog.Reaches root a.fields) (hnone : ¬ a.Spreads s)
    (hfetches : a.Fetches ps s b) : a.Delivers ps.scope.catalog s b := by
  cases hfetches with
  | @intro t batch answer part doc asked lookup answered given picked =>
    obtain ⟨f, target, hf, htarget⟩ := h.exists_target hnone asked
    obtain ⟨hticket, hpart⟩ := Batch.mem_answers given
    have hanswers := hrel.answers hreach hf htarget
    rw [lookup.path_eq hticket] at hanswers
    obtain ⟨answer', hanswer, hconforms⟩ := hanswers batch.lookup.query
    cases answered.symm.trans hanswer
    have hown : part.Conforms (ps.scope.catalog.schema target) := by
      rcases hpart with heq | ⟨id, heq⟩
      · obtain rfl : part = answer := heq
        exact hconforms
      · obtain rfl : part = answer.only id := heq
        exact hconforms.only id
    refine ⟨f, hf, ?_, hown.1.symm ▸ hown.2 _ (Pick.mem_of_mem_documents picked)⟩
    rw [Field.childFields_of_target? htarget, hown.1]

end Agrees

/-! ## What validation leaves -/

/-- A connection declares a parameter of its own under a name by which connections are narrowed, and
what it takes for the parameter cannot be read as that. -/
inductive Misreads (scope : Scope) (a : Site) (s : Selection) (problem : String) : Prop
  | filter {f : Field} {path field target : String} (named : s ∈ a.projection)
    (own : s.isWildcard = false) (declared : Schema.lookup a.fields s.name = some f)
    (kind : f.kind = .connection path field target)
    (claimed : Assoc.get? f.params ConnectionParam.filter.name ≠ none)
    (unread : Request.filterOf s (scope.catalog.schema target) = .error (s.failure problem)) :
    Misreads scope a s problem
  | order {f : Field} {path field target : String} (named : s ∈ a.projection)
    (own : s.isWildcard = false) (declared : Schema.lookup a.fields s.name = some f)
    (kind : f.kind = .connection path field target)
    (claimed : Assoc.get? f.params ConnectionParam.order.name ≠ none)
    (unread : Request.orderOf s = .error (s.failure problem)) : Misreads scope a s problem

/-- **What is wrong with a selection** where the document and the projection agree with the fields:
a `*` with a projection of its own stands for a key that leads to no documents, or a parameter of a
connection's own is misread. -/
theorem Agrees.problem (h : a.Agrees scope.catalog) (htotal : a.fields.Total) {problem : String}
    (hwrong : a.Problem scope s problem) :
    (a.Spreads s ∧ ∀ f, Schema.lookup a.fields s.name = some f →
        f.childFields scope.catalog = none) ∨
      a.Misreads scope s problem := by
  have hstored : ∀ f, s.name ∈ Assoc.keys a.doc → Schema.lookup a.fields s.name = some f →
      ∀ path field target, f.kind ≠ .connection path field target :=
    fun f hkey hf => h.storesNoConnection _ hkey f hf
  cases hwrong with
  | undeclared selected unknown opens =>
    rcases selected.cases with ⟨hs, hno⟩ | hspreads | ⟨-, hwhole⟩
    · rcases (h.validated.selection hs).cases with hstar | ⟨-, f, hf, -⟩
      · cases hstar.symm.trans hno
      · cases unknown.symm.trans hf
    · exact .inl ⟨hspreads, fun f hf => by cases unknown.symm.trans hf⟩
    · cases hwhole.symm.trans opens.below
  | @misshapen f children v problem displays opens misshapes =>
    have hkey : s.name ∈ Assoc.keys a.doc := by
      rw [← Assoc.get?_isSome_iff, opens.stored]
      rfl
    have hleaf : f.childFields scope.catalog = none :=
      (h.admits_value opens.stored displays.declared).leads_nowhere opens.present
        (hstored f hkey displays.declared) misshapes
    rcases displays.selected.cases with ⟨hs, hno⟩ | hspreads | ⟨-, hwhole⟩
    · obtain ⟨sub, hsub, -⟩ := (h.validatedFor hs hno displays.declared).below opens.below
      cases hleaf.symm.trans hsub
    · refine .inl ⟨hspreads, fun g hg => ?_⟩
      cases displays.declared.symm.trans hg
      exact hleaf
    · cases hwhole.symm.trans opens.below
  | refused displays _ _ refuses =>
    exact absurd refuses (Transform.not_refuses (htotal _ (.own displays.declared)))
  | lacksId displays kind lacks =>
    obtain ⟨-, -, has_id⟩ := h.admits
    obtain ⟨id, hid⟩ := has_id _ _ _ _ _ displays.declared kind
    cases lacks.symm.trans hid
  | unreadable displays kind unread =>
    rcases displays.selected.cases with ⟨hs, hno⟩ | hspreads | ⟨hkey, -⟩
    · have hvalid := h.validatedFor hs hno displays.declared
      rcases unread with hfilter | horder
      · refine .inr (.filter hs hno displays.declared kind (fun hfree => ?_) hfilter)
        obtain ⟨filter, hread, -⟩ := Request.filterOf_eq fun w hw => hvalid.takes kind hfree hw
        cases hread.symm.trans hfilter
      · refine .inr (.order hs hno displays.declared kind (fun hfree => ?_) horder)
        obtain ⟨order, hread, -⟩ := Request.orderOf_eq fun w hw => hvalid.takes kind hfree hw
        cases hread.symm.trans horder
    · exact absurd kind (hstored _ hspreads.mem_keys displays.declared _ _ _)
    · exact absurd kind (hstored _ hkey displays.declared _ _ _)

end Site

namespace Passes

variable [RegexEngine] {ps : Passes} {root a : Site} {hops : List Hop} {err : Error}

/-- A failure at a misread parameter of a connection's own. -/
inductive Misread (ps : Passes) (root : Site) : Error → Prop
  | intro {hops : List Hop} {a : Site} {s : Selection} {problem : String}
    (way : ps.Way root hops a) (misreads : a.Misreads ps.scope s problem) :
    Misread ps root (.inapplicable (Hop.tell hops (s.name ++ ": " ++ problem)))

/-- **The failures that validation leaves**, where nothing else can fail: -/
inductive Residual (ps : Passes) (root : Site) : Error → Prop
  /-- a projection has more than one `*`; -/
  | several {hops : List Hop} {a : Site} (way : ps.Way root hops a)
    (more : 1 < a.projection.countP (·.isWildcard)) :
    Residual ps root (.inapplicable (Hop.tell hops "only one * in projection allowed"))
  /-- a `*` with a projection of its own stands for a key that leads to no documents; -/
  | spread {hops : List Hop} {a : Site} {s : Selection} {problem : String}
    (way : ps.Way root hops a) (spreads : a.Spreads s)
    (leads_nowhere : ∀ f, Schema.lookup a.fields s.name = some f →
      f.childFields ps.scope.catalog = none)
    (wrong : a.Problem ps.scope s problem) :
    Residual ps root (.inapplicable (Hop.tell hops (s.name ++ ": " ++ problem)))
  /-- a document is one of which validation says nothing; -/
  | astray {hops : List Hop} {a : Site} {fault : String} (astray : ps.Astray root hops a)
    (faulty : a.Fault ps.scope fault) : Residual ps root (.inapplicable (Hop.tell hops fault))
  /-- a parameter of a connection's own is misread. -/
  | misread {err : Error} (misread : ps.Misread root err) : Residual ps root err

/-- **Every document on the way** agrees with its fields, unless the way goes astray. -/
theorem Way.agrees (way : ps.Way root hops a) (hroot : root.Agrees ps.scope.catalog) :
    a.Agrees ps.scope.catalog ∨ ps.Astray root hops a := by
  induction way with
  | here => exact .inl hroot
  | @stored hops b c s way under ih =>
    rcases ih with hagrees | hastray
    · by_cases hspreads : b.Spreads s
      · exact .inr (.stored way hspreads under)
      · obtain ⟨hselected, hprojection⟩ := under.selected
        have hdelivers := hagrees.delivers_under hspreads under
        exact .inl (hagrees.of_delivers hselected hspreads hprojection hdelivers)
    · exact .inr (hastray.onward (Way.here.stored under))
  | @fetched hops b c s way fetches ih =>
    rcases ih with hagrees | hastray
    · by_cases hspreads : b.Spreads s
      · exact .inr (.fetched way hspreads fetches)
      · by_cases hdelivers : b.Delivers ps.scope.catalog s c
        · obtain ⟨hselected, hprojection⟩ := fetches.selected
          exact .inl (hagrees.of_delivers hselected hspreads hprojection hdelivers)
        · exact .inr (.undelivered way fetches hdelivers)
    · exact .inr (hastray.onward (Way.here.fetched fetches))

/-- No field of a document on the way ever fails. -/
theorem Way.total (way : ps.Way root hops a) (hresolver : ps.resolver.Unfailing)
    (hroot : root.fields.Total) : a.fields.Total := by
  induction way with
  | here => exact hroot
  | stored _ under ih =>
    cases under with
    | intro displays _ part => exact ih.part displays.declared part
  | fetched _ fetches _ =>
    cases fetches with
    | intro _ _ answered given _ =>
      have hanswer := hresolver.total answered
      rcases (Batch.mem_answers given).2 with heq | ⟨id, heq⟩ <;> dsimp only at heq <;> rw [heq]
      · exact hanswer
      · exact hanswer

/-- **Validation leaves no other failures.** -/
theorem Fails.residual (h : ps.Fails root err) (hresolver : ps.resolver.Unfailing)
    (htotal : root.fields.Total) (hroot : root.Agrees ps.scope.catalog) :
    ps.Residual root err := by
  cases h with
  | lookup _ refused =>
    obtain ⟨answer, answered⟩ := hresolver.answers _ _
    cases answered.symm.trans refused
  | walk way faulty =>
    rcases way.agrees hroot with hagrees | hastray
    · cases faulty with
      | projection unexpanded =>
        obtain ⟨hmore, heq⟩ := Projection.expand_eq_error unexpanded
        cases heq
        exact .several way hmore
      | selection wrong =>
        rcases hagrees.problem (way.total hresolver htotal) wrong with
          ⟨hspreads, hleaf⟩ | hmisreads
        · exact .spread way hspreads hleaf wrong
        · exact .misread (.intro way hmisreads)
    · exact .astray hastray faulty
  | rendering way faulty =>
    obtain ⟨⟨s, f, displays, g, hg, rfl⟩, refuses⟩ := faulty
    have hheld := (Schema.Holds.own displays.declared).layer hg
    exact absurd refuses (Transform.not_refuses (way.total hresolver htotal g hheld))

/-- Only a document of which validation says nothing stores a connection. -/
theorem StoresConnection.astray (h : ps.StoresConnection root)
    (hroot : root.Agrees ps.scope.catalog) :
    ∃ hops a, ps.Astray root hops a ∧ ¬ a.StoresNoConnection := by
  obtain ⟨hops, a, way, hstores⟩ := h
  rcases way.agrees hroot with hagrees | hastray
  · exact absurd hagrees.storesNoConnection hstores
  · exact ⟨hops, a, hastray, hstores⟩

/-! ## Where a `*` is alone -/

/-- Every document that comes back on the way is what its field declares. -/
def Delivers (ps : Passes) (root : Site) : Prop :=
  ∀ {hops a s b}, ps.Way root hops a → a.Fetches ps s b → a.Delivers ps.scope.catalog s b

end Passes

namespace Site

variable {a : Site} {s : Selection}

theorem not_spreads (h : a.projection.LoneStars) : ¬ a.Spreads s := by
  intro hspreads
  obtain ⟨-, bare, -⟩ := h
  cases hspreads with
  | intro mem wild below _ _ => cases (bare _ mem wild).symm.trans below

/-- A `*` is alone below a selection where it is alone everywhere. -/
theorem Selects.loneStars (h : a.Selects s) (halone : a.projection.LoneStars) :
    Projection.LoneStars (s.children.getD []) := by
  have hnil : Projection.LoneStars [] := .intro (Nat.zero_le 1) nofun nofun
  rcases h.cases with ⟨hs, -⟩ | hspreads | ⟨-, hwhole⟩
  · obtain ⟨-, -, below⟩ := halone
    cases hc : s.children with
    | none => exact hnil
    | some children => exact below s hs children hc
  · exact absurd hspreads (not_spreads halone)
  · rw [hwhole]
    exact hnil

end Site

namespace Passes

variable [RegexEngine] {ps : Passes} {root a : Site} {hops : List Hop} {err : Error}

theorem Way.loneStars (way : ps.Way root hops a) (hroot : root.projection.LoneStars) :
    a.projection.LoneStars := by
  induction way with
  | here => exact hroot
  | stored _ under ih =>
    obtain ⟨hselected, hprojection⟩ := under.selected
    exact hprojection ▸ hselected.loneStars ih
  | fetched _ fetches ih =>
    obtain ⟨hselected, hprojection⟩ := fetches.selected
    exact hprojection ▸ hselected.loneStars ih

theorem not_astray (halone : root.projection.LoneStars) (hdelivers : ps.Delivers root) :
    ¬ ps.Astray root hops a := by
  intro hastray
  induction hastray with
  | stored way spreads _ | fetched way spreads _ =>
    exact Site.not_spreads (way.loneStars halone) spreads
  | undelivered way fetches other => exact other (hdelivers way fetches)
  | onward _ _ ih => exact ih

/-- **Reliable collections deliver** wherever a `*` is alone. -/
theorem delivers_of_reliable (hrel : ps.scope.catalog.Reliable ps.resolver root.fields)
    (hroot : root.Agrees ps.scope.catalog) (halone : root.projection.LoneStars) :
    ps.Delivers root := by
  have hway : ∀ hops a, ps.Way root hops a →
      a.Agrees ps.scope.catalog ∧ ps.scope.catalog.Reaches root.fields a.fields := by
    intro hops a way
    induction way with
    | here => exact ⟨hroot, .refl⟩
    | @stored _ _ _ s way under ih =>
      have hnone := @Site.not_spreads _ s (way.loneStars halone)
      have hdelivers := ih.1.delivers_under hnone under
      obtain ⟨hselected, hprojection⟩ := under.selected
      exact ⟨ih.1.of_delivers hselected hnone hprojection hdelivers, hdelivers.reaches ih.2⟩
    | @fetched _ _ _ s way fetches ih =>
      have hnone := @Site.not_spreads _ s (way.loneStars halone)
      have hdelivers := ih.1.delivers_fetches hrel ih.2 hnone fetches
      obtain ⟨hselected, hprojection⟩ := fetches.selected
      exact ⟨ih.1.of_delivers hselected hnone hprojection hdelivers, hdelivers.reaches ih.2⟩
  intro hops a s b way fetches
  obtain ⟨hagrees, hreach⟩ := hway hops a way
  exact hagrees.delivers_fetches hrel hreach (Site.not_spreads (way.loneStars halone)) fetches

/-- **Where a `*` is alone**, no failure that validation leaves comes of it. -/
theorem Residual.misread_of_loneStars (h : ps.Residual root err)
    (halone : root.projection.LoneStars) (hdelivers : ps.Delivers root) : ps.Misread root err := by
  cases h with
  | several way more =>
    obtain ⟨one, -, -⟩ := way.loneStars halone
    exact absurd more (Nat.not_lt.2 one)
  | spread way spreads _ _ => exact absurd spreads (Site.not_spreads (way.loneStars halone))
  | astray astray _ => exact absurd astray (not_astray halone hdelivers)
  | misread misread => exact misread

end Passes

namespace Evaluator

variable [RegexEngine] (e : Evaluator) (catalog : Catalog) (resolver : Resolver) (p : Projection)
  (fields : Schema) (doc : Document)

/-- **What a `*` may do to a validated projection.** On a document that conforms to its fields,
where no collection, handler or output form fails, an evaluation of a validated projection fails at
a second `*`, at a key that leads to no documents and that a `*` with a projection of its own stands
for, or at a document of which validation says nothing, since such a key or a document that is not
what a field declares comes before it on the way. Otherwise it only fails where a parameter of a
connection's own is misread, and so it does wherever a `*` is alone and has nothing below it, and
what comes back is what the fields declare. This holds of every schedule, and of the lookups one
after the other. They end within the levels of the projection, unless a document of which validation
says nothing stores a connection. -/
theorem eval_residual (hvalid : (p.validate catalog fields).failure = none)
    (hdoc : fields.Admits doc) (htotal : fields.Total) (hresolver : resolver.Unfailing) :
    let ps := e.passes catalog resolver
    let validated := (p.validate catalog fields).value
    let root : Site := ⟨validated, doc, fields⟩
    (∀ run err, e.EvaluatesTo catalog resolver validated fields doc run →
        run.result = .error err → ps.Residual root err) ∧
      (∀ limit, Projection.depth validated ≤ limit →
        e.EvaluatesTo catalog resolver validated fields doc
            (e.evalWithin catalog resolver validated fields limit doc) ∨
          ∃ hops a, ps.Astray root hops a ∧ ¬ a.StoresNoConnection) ∧
      (∀ err, State.Leads ps (e.start catalog resolver validated fields doc)
          (.done (.error err)) → ps.Residual root err) ∧
      (p.LoneStars → ps.Delivers root → ∀ err,
        (∃ limit, Projection.depth validated ≤ limit ∧
            (e.evalWithin catalog resolver validated fields limit doc).result = .error err) ∨
          State.Leads ps (e.start catalog resolver validated fields doc) (.done (.error err)) →
        ps.Misread root err) := by
  intro ps validated root
  have hroot : root.Agrees catalog := ⟨hdoc, Projection.validated_of_validate hvalid⟩
  have hrun : ∀ run err, e.EvaluatesTo catalog resolver validated fields doc run →
      run.result = .error err → ps.Residual root err := by
    intro run err hends herr
    exact (hends.outcome.of_eq_error herr).residual hresolver htotal hroot
  have hends : ∀ limit, Projection.depth validated ≤ limit →
      e.EvaluatesTo catalog resolver validated fields doc
          (e.evalWithin catalog resolver validated fields limit doc) ∨
        ∃ hops a, ps.Astray root hops a ∧ ¬ a.StoresNoConnection :=
    fun limit hlimit => (evaluatesTo_or_storesConnection hlimit).imp_right (·.astray hroot)
  have hschedule : ∀ err, State.Leads ps (e.start catalog resolver validated fields doc)
      (.done (.error err)) → ps.Residual root err := by
    intro err hleads
    have hexplained := e.explained_start catalog resolver validated fields doc
    exact ((hexplained.leads hleads).of_eq_error rfl).residual hresolver htotal hroot
  refine ⟨hrun, hends, hschedule, fun hstars hdelivers err herr => ?_⟩
  have halone : root.projection.LoneStars := hstars.validated hvalid
  rcases herr with ⟨limit, hlimit, herr⟩ | hleads
  · rcases hends limit hlimit with hends | ⟨hops, a, hastray, -⟩
    · exact (hrun _ err hends herr).misread_of_loneStars halone hdelivers
    · exact absurd hastray (Passes.not_astray halone hdelivers)
  · exact (hschedule err hleads).misread_of_loneStars halone hdelivers

end Evaluator

/-! ## Everything about a book -/

namespace Bookshelf

theorem total {sub : Schema} (hsub : sub = bookFields ∨ sub = authorFields) : sub.Total := by
  have hplain : ∀ f, sub.Holds f →
      f.capabilities.handler = none ∧ f.capabilities.validator = none ∧ ∃ name,
        Schema.lookup sub name = some f := by
    intro f h
    induction h with
    | own declared =>
      obtain ⟨hhandler, hvalidator, -⟩ := mem_of_lookup hsub declared
      exact ⟨hhandler, hvalidator, _, declared⟩
    | element _ ih | inside _ _ ih =>
      obtain ⟨-, -, name, hf⟩ := ih
      obtain ⟨-, -, -, -, hkind | hkind | ⟨-, hkind⟩⟩ := mem_of_lookup hsub hf <;> cases hkind
  intro f hf
  obtain ⟨hhandler, hvalidator, -⟩ := hplain f hf
  refine ⟨fun h hh => ?_, fun t ht => ?_⟩
  · cases hhandler.symm.trans hh
  · cases hvalidator.symm.trans ht

theorem unfailing : library.Unfailing where
  answers path _ := by
    unfold library
    split <;> exact ⟨_, rfl⟩
  total := by
    intro path q answer h
    unfold library at h
    split at h <;> cases h
    · exact total (.inl rfl)
    · exact total (.inr rfl)

/-- Everything, twice. -/
def twice : Projection := [{ name := "*" }, { name := "*" }]

/-- The name of everything. -/
def allNames : Projection := [{ name := "*", children := some [{ name := "name" }] }]

/-- Everything about the author, twice. -/
def authorTwice : Projection := [{ name := "author", children := some twice }]

/-- **Validation takes more than evaluation does**: a second `*`, and a projection below a `*` that
stands for keys without documents. -/
theorem wildcards_refused :
    bookFields.Admits book ∧ bookFields.Total ∧ library.Unfailing ∧
      catalog.Reliable library bookFields ∧
      ((twice.validate catalog bookFields).failure = none ∧
        (evaluator.eval catalog library (twice.validate catalog bookFields).value bookFields
          book).result = .error (.inapplicable "only one * in projection allowed")) ∧
      (allNames.validate catalog bookFields).failure = none ∧
        (evaluator.eval catalog library (allNames.validate catalog bookFields).value bookFields
          book).result = .error (.inapplicable "id: field has no children") :=
  ⟨admits_book, total (.inl rfl), unfailing, reliable, ⟨rfl, rfl⟩, rfl, rfl⟩

theorem eval_authorTwice :
    (evaluator.eval catalog library (authorTwice.validate catalog bookFields).value bookFields
      book).result = .error (.inapplicable "author.only one * in projection allowed") := by rfl

/-- The second `*` of the author's projection is a failure that validation leaves; the book with its
author and a book of the author has no `*` to fail at. -/
theorem residual_authorTwice :
    (evaluator.passes catalog library).Residual
        ⟨(authorTwice.validate catalog bookFields).value, book, bookFields⟩
        (.inapplicable "author.only one * in projection allowed") ∧
      ∀ err, (evaluator.eval catalog library (tale.validate catalog bookFields).value bookFields
          book).result = .error err →
        (evaluator.passes catalog library).Misread
          ⟨(tale.validate catalog bookFields).value, book, bookFields⟩ err := by
  constructor
  · have hfailures := evaluator.eval_residual catalog library authorTwice bookFields book rfl
      admits_book (total (.inl rfl)) unfailing
    have hends := evaluator.evaluatesTo_of_ne catalog library
      (authorTwice.validate catalog bookFields).value bookFields
      (fun hcut => nomatch eval_authorTwice.symm.trans hcut)
    exact hfailures.1 _ _ hends eval_authorTwice
  · have hvalid : (tale.validate catalog bookFields).failure = none :=
      Option.isNone_iff_eq_none.1 (by decide +kernel)
    have hdelivers : (evaluator.passes catalog library).Delivers
        ⟨(tale.validate catalog bookFields).value, book, bookFields⟩ :=
      Passes.delivers_of_reliable reliable ⟨admits_book, Projection.validated_of_validate hvalid⟩
        (loneStars_tale.validated hvalid)
    have hfailures := evaluator.eval_residual catalog library tale bookFields book hvalid
      admits_book (total (.inl rfl)) unfailing
    exact fun err herr => hfailures.2.2.2 loneStars_tale hdelivers err
      (.inl ⟨_, Nat.le_add_right _ _, herr⟩)

end Bookshelf

end DocQuery
