import DocQuery.Evaluation.Request
import DocQuery.Proofs.Revalidation

/-!
# Connections mean what validation accepted

The parameters that narrow a connection are read when a projection is validated, and read again from
the same values when it is evaluated. The second reading cannot fail, and comes to what the first
one came to: the integers that validation stored, the order, and the condition with its literals
coerced. The condition only adds to the one on the id of the document that the connection starts
from.

* `Projection.Selects` — the selections in a projection that are below no `*`.
* `Selection.Counts`, `Selection.Filters`, `Selection.Sorts` — what its parameters ask for.
* `Request.countOf_eq`, `Request.filterOf_eq`, `Request.orderOf_eq` — that is what is read.
* `Projection.connectionQuery_of_validate` — the query of a connection in a validated projection.
-/

set_option autoImplicit false

namespace DocQuery

/-! ## What the parameters ask for -/

/-- A selection of a field stands in the projection, on documents with the fields `sub`, and below
no `*`. -/
inductive Projection.Selects (catalog : Catalog) : Projection → Schema → Selection → Schema → Prop
  | own {p : Projection} {fields : Schema} {s : Selection} (mem : s ∈ p)
    (named : s.isWildcard = false) : Selects catalog p fields s fields
  | inside {p below : Projection} {fields inner sub : Schema} {t s : Selection} {f : Field}
    (mem : t ∈ p) (named : t.isWildcard = false) (declared : Schema.lookup fields t.name = some f)
    (children : t.children = some below) (leads : f.childFields catalog = some inner)
    (rest : Selects catalog below inner s sub) : Selects catalog p fields s sub

section

variable [RegexEngine]

namespace Selection

variable (s : Selection)

/-- The integer of a parameter, or the one that stands for a missing parameter. -/
def Counts (param : ConnectionParam) (missing n : Int) : Prop :=
  match Assoc.get? s.params param.name with
  | none => n = missing
  | some v => v = .integer n

/-- The condition of the `filter` parameter, with its literals as the fields take them. -/
def Filters (fields : Schema) (filter : Predicate) : Prop :=
  match Assoc.get? s.params ConnectionParam.filter.name with
  | none => filter = []
  | some v => ∃ text p, v = .string text ∧ Predicate.parse text = .ok p ∧
      p.validate fields = .done filter

/-- The order of the `sort` parameter. -/
def Sorts (order : SortOrder) : Prop :=
  match Assoc.get? s.params ConnectionParam.order.name with
  | none => order = []
  | some v => ∃ text, v = .string text ∧ SortOrder.parse text = .ok order

end Selection

/-! ## What is read -/

omit [RegexEngine] in
theorem Word.clamp_of_natAbs_le {i : Int} (h : (i.natAbs : Int) ≤ greatest) : clamp i = i := by
  rw [clamp_eq_self_iff]
  unfold greatest least at *
  omega

omit [RegexEngine] in
/-- An integer that a word holds is read from a float of its size. -/
theorem Double.toInt64_eq {d : Double} {i : Int} (h : d.truncate = i)
    (hfits : (i.natAbs : Int) ≤ Word.greatest) : d.toInt64 = i := by
  rw [toInt64, h, Word.clamp_of_natAbs_le hfits]

namespace Request

variable {fields : Schema} {s : Selection} {p : ConnectionParam} {missing n : Int}

theorem countOf_eq (hp : p ∈ [ConnectionParam.page, .limit, .skip])
    (htakes : ∀ w, Assoc.get? s.params p.name = some w → ∃ v, p.Takes fields v w) (missing : Int) :
    s.Counts p missing (countOf s p missing) := by
  unfold Selection.Counts countOf
  cases hw : Assoc.get? s.params p.name with
  | none => rfl
  | some w =>
    obtain ⟨v, htaken⟩ := htakes w hw
    cases htaken with
    | filter | order => simp at hp
    | @count _ _ d _ _ whole fits _ =>
      obtain ⟨e, he, -, htruncate⟩ := Double.exists_ofInt_truncate whole
      have hbound : (some (Value.integer d.truncate)).bind Value.bound? = some (.finite e) :=
        congrArg some he
      rw [hbound]
      exact congrArg Value.integer (Double.toInt64_eq htruncate fits).symm

theorem filterOf_eq
    (htakes : ∀ w, Assoc.get? s.params ConnectionParam.filter.name = some w →
      ∃ v, ConnectionParam.filter.Takes fields v w) :
    ∃ filter, filterOf s fields = .ok filter ∧ s.Filters fields filter := by
  unfold Selection.Filters filterOf
  cases hw : Assoc.get? s.params ConnectionParam.filter.name with
  | none => exact ⟨[], rfl, rfl⟩
  | some w =>
    obtain ⟨v, htaken⟩ := htakes w hw
    cases htaken with
    | @filter text p parsed valid =>
      have hdone := Coercion.eq_done valid
      refine ⟨(p.validate fields).value, ?_, text, p, rfl, parsed, hdone⟩
      simp only [Option.bind_some, Value.string?, parsed, Except.bind]
      rw [hdone]
      rfl
    | count counts => simp at counts

theorem orderOf_eq
    (htakes : ∀ w, Assoc.get? s.params ConnectionParam.order.name = some w →
      ∃ v, ConnectionParam.order.Takes fields v w) :
    ∃ order, orderOf s = .ok order ∧ s.Sorts order := by
  unfold Selection.Sorts orderOf
  cases hw : Assoc.get? s.params ConnectionParam.order.name with
  | none => exact ⟨[], rfl, rfl⟩
  | some w =>
    obtain ⟨v, htaken⟩ := htakes w hw
    cases htaken with
    | @order text order parsed valid =>
      refine ⟨order, ?_, text, rfl, parsed⟩
      simp only [Option.bind_some, Value.string?, parsed, mapError_ok]
    | count counts => simp at counts

/-- The condition on the id comes first, and no filter takes it back. -/
theorem accepts_cons_filter (field : String) (id : Value) (filter : Predicate) (doc : Document) :
    Predicate.accepts (.equal field id :: filter) doc =
      ((Expression.equal field id).accepts doc && filter.accepts doc) := rfl

end Request

/-! ## Selections of validated projections -/

variable {catalog : Catalog} {fields sub : Schema} {p : Projection} {s : Selection}

omit [RegexEngine] in
theorem Projection.Selects.named (h : p.Selects catalog fields s sub) : s.isWildcard = false := by
  induction h with
  | own _ named => exact named
  | inside _ _ _ _ _ _ ih => exact ih

/-- Whatever stands in a validated projection, below no `*`, was validated. -/
theorem Projection.Selects.validated (h : p.Selects catalog fields s sub)
    (hp : p.Validated catalog fields) : s.Validated catalog sub := by
  induction h with
  | own mem _ => exact hp.selection mem
  | inside mem named declared children leads _ ih =>
    obtain ⟨inner, hinner, hbelow⟩ := ((hp.selection mem).of_declared named declared).below children
    cases hinner.symm.trans leads
    exact ih hbelow

/-- A parameter of connections that the field does not declare was taken by the rule of
connections. -/
theorem Selection.ValidatedFor.takes {f : Field} (h : s.ValidatedFor catalog f)
    {path field target : String} (hkind : f.kind = .connection path field target)
    {param : ConnectionParam} (hown : Assoc.get? f.params param.name = none) {w : Value}
    (hw : Assoc.get? s.params param.name = some w) :
    ∃ v, param.Takes (catalog.schema target) v w := by
  obtain ⟨v, htaken⟩ := h.taken hw
  generalize hname : param.name = name at htaken hown
  cases htaken with
  | untyped declared | typed declared _ => cases declared.symm.trans hown
  | @narrowing q path' field' target' _ _ undeclared connection taken =>
    have hq : param = q := by
      have := ConnectionParam.ofName?_name param
      rw [hname, ConnectionParam.ofName?_name] at this
      exact (Option.some.inj this).symm
    cases hkind.symm.trans connection
    rw [hq]
    exact ⟨v, taken⟩

/-- **A connection of a validated projection asks for what validation accepted**: the documents
whose field holds the id and that pass the filter as it was coerced, in the order of the sort text,
and of those the page of the stored integers. -/
theorem Projection.connectionQuery_of_validate (h : (p.validate catalog fields).failure = none)
    (hs : (p.validate catalog fields).value.Selects catalog fields s sub) {f : Field}
    (hf : Schema.lookup sub s.name = some f) {path field target : String}
    (hkind : f.kind = .connection path field target)
    (hown : ∀ param : ConnectionParam, Assoc.get? f.params param.name = none) (limit : Int)
    (id : Value) :
    ∃ q filter page perPage skip,
      Request.connectionQuery ⟨catalog, limit⟩ s field target id = .ok q ∧
        q.projection = s.children.getD [] ∧
        s.Counts .page 1 page ∧ s.Counts .limit limit perPage ∧ s.Counts .skip 0 skip ∧
        q.window = Window.page page perPage skip ∧
        s.Sorts q.order ∧
        s.Filters (catalog.schema target) filter ∧
        (∀ doc, q.predicate.accepts doc =
          ((Expression.equal field id).accepts doc && filter.accepts doc)) ∧
        ∀ doc, q.predicate.accepts doc = true → equalTo (valueAt doc field) id = true := by
  have hvalid := (hs.validated (validated_of_validate h)).of_declared hs.named hf
  have htakes (param : ConnectionParam) (w : Value)
      (hw : Assoc.get? s.params param.name = some w) :
      ∃ v, param.Takes (catalog.schema target) v w := hvalid.takes hkind (hown param) hw
  obtain ⟨filter, hfilter, hfilters⟩ := Request.filterOf_eq (htakes .filter)
  obtain ⟨order, horder, hsorts⟩ := Request.orderOf_eq (htakes .order)
  have hquery : Request.connectionQuery ⟨catalog, limit⟩ s field target id =
      .ok ⟨s.children.getD [], .equal field id :: filter, order,
        Request.windowOf ⟨catalog, limit⟩ s⟩ := by
    unfold Request.connectionQuery
    rw [hfilter, horder]
    rfl
  have haccepts := Request.accepts_cons_filter field id filter
  refine ⟨_, filter, _, _, _, hquery, rfl, Request.countOf_eq (by simp) (htakes .page) 1,
    Request.countOf_eq (by simp) (htakes .limit) limit,
    Request.countOf_eq (by simp) (htakes .skip) 0, rfl, hsorts, hfilters, haccepts,
    fun doc hdoc => ?_⟩
  have hboth := (haccepts doc).symm.trans hdoc
  exact (Bool.and_eq_true_iff.1 hboth).1

end

namespace Bookshelf

/-- The dear sales and those for nothing, up to a limit that is a float. -/
def oddSales : Projection :=
  [{ name := "sales"
     params :=
       [("filter", .string "\x7b$or: [\x7bprice: \x7b$gt: 5\x7d\x7d, \x7bprice: 0\x7d]\x7d"),
         ("limit", .float greatLimit), ("sort", .string "-price")]
     children := some [{ name := "price" }] }]

/-- The limit is read as it is, and only sales of the shop are asked for. -/
theorem connectionQuery_oddSales :
    ∃ s ∈ (oddSales.validate sales shopFields).value, ∃ q,
      Request.connectionQuery ⟨sales, 20⟩ s "shop" "sale" (.string "ann") = .ok q ∧
        q.window = some ⟨0, 9223372036854774784⟩ ∧
        ∀ doc, q.predicate.accepts doc = true →
          equalTo (valueAt doc "shop") (.string "ann") = true := by
  obtain ⟨s, rest, hvalue⟩ : ∃ s rest, (oddSales.validate sales shopFields).value = s :: rest :=
    List.exists_cons_of_ne_nil (List.isEmpty_eq_false_iff.1 (by decide +kernel))
  have hmem : s ∈ (oddSales.validate sales shopFields).value := hvalue ▸ List.mem_cons_self ..
  have hname : ((oddSales.validate sales shopFields).value.head?.map Selection.name) =
      some "sales" := by decide +kernel
  have hwindow : ((oddSales.validate sales shopFields).value.head?.bind fun s =>
      (Request.connectionQuery ⟨sales, 20⟩ s "shop" "sale" (.string "ann")).toOption.map
        Query.window) = some (some ⟨0, 9223372036854774784⟩) := by decide +kernel
  rw [hvalue] at hname hwindow
  have hname : s.name = "sales" := Option.some.inj hname
  have hnamed : s.isWildcard = false := by
    rw [Selection.isWildcard, hname]
    rfl
  have hdeclared : Schema.lookup shopFields s.name =
      some (.mk { } (.connection "/sales" "shop" "sale")) := by
    rw [hname]
    rfl
  obtain ⟨q, -, -, -, -, hquery, -, -, -, -, -, -, -, -, hnarrow⟩ :=
    Projection.connectionQuery_of_validate (Option.isNone_iff_eq_none.1 (by decide +kernel))
      (.own hmem hnamed) hdeclared rfl (fun _ => rfl) 20 (.string "ann")
  rw [List.head?_cons, Option.bind_some, hquery] at hwindow
  exact ⟨s, hmem, q, hquery, Option.some.inj hwindow, hnarrow⟩

end Bookshelf

end DocQuery
