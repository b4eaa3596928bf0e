import DocQuery.Pattern.Engine
import DocQuery.Proofs.PredicateForm

/-!
# Writing and reading are inverse

A predicate is read from its text in the same form if and only if it is well-formed. One that is not
is read as something else or not at all: what is read is well-formed, and what has the form of
something that was read can be written. There remains an equality that is taken for an operation. It
changes the form of everything around it, which the number of conjunctions at the front shows: a
block that is read too long only adds to them.

* `Expression.leadingAnds` — the conjunctions at the front of an expression.
* `Expression.Differs` — of another form, and with no fewer conjunctions at the front.
* `Predicate.differs_of_readExpression` — what is read for an expression with a mistakable equality.
* `Predicate.parse_text_iff` — writing and reading are inverse, exactly on what is well-formed.
-/

set_option autoImplicit false

namespace DocQuery

/-- The first element that lacks a property. -/
theorem exists_first_not {α : Type} {P : α → Prop} {l : List α} (h : ¬ ∀ a ∈ l, P a) :
    ∃ pre a post, l = pre ++ a :: post ∧ (∀ b ∈ pre, P b) ∧ ¬ P a := by
  induction l with
  | nil => exact absurd (List.forall_mem_nil P) h
  | cons a l ih =>
    by_cases ha : P a
    · have hl : ¬ ∀ b ∈ l, P b := by
        intro hl
        exact h (List.forall_mem_cons.2 ⟨ha, hl⟩)
      obtain ⟨pre, b, post, rfl, hpre, hb⟩ := ih hl
      exact ⟨a :: pre, b, post, rfl, List.forall_mem_cons.2 ⟨ha, hpre⟩, hb⟩
    · exact ⟨[], a, l, rfl, List.forall_mem_nil P, ha⟩

section

variable [RegexEngine]

namespace Expression

/-! ## Another form -/

mutual

/-- How many conjunctions an expression begins with. -/
def leadingAnds : Expression → Nat
  | and subs => leadingAndsOf subs + 1
  | _ => 0

def leadingAndsOf : List Expression → Nat
  | [] => 0
  | e :: _ => e.leadingAnds

end

mutual

theorem leadingAnds_eq_of_same (a b : Expression) (h : a.same b = true) :
    a.leadingAnds = b.leadingAnds := by
  cases a with
  | and as =>
    cases b with
    | and bs => rw [leadingAnds, leadingAnds, leadingAndsOf_eq_of_sameAll as bs h]
    | _ => cases h
  | _ => cases b <;> first | rfl | cases h

theorem leadingAndsOf_eq_of_sameAll (as bs : List Expression) (h : sameAll as bs = true) :
    leadingAndsOf as = leadingAndsOf bs := by
  match as, bs with
  | [], [] => rfl
  | [], _ :: _ => cases h
  | _ :: _, [] => cases h
  | a :: as, b :: bs =>
    rw [sameAll, Bool.and_eq_true] at h
    exact leadingAnds_eq_of_same a b h.1

end

/-- Of another form, and with no fewer conjunctions at the front. -/
structure Differs (x e : Expression) : Prop where
  not_same : x.same e = false
  leading_le : e.leadingAnds ≤ x.leadingAnds

/-- A conjunction of something else and more is something else too. -/
theorem Differs.and_cons {x e : Expression} (h : x.Differs e) (more : List Expression) :
    (and (x :: more)).Differs e where
  not_same := by
    apply Bool.eq_false_iff.2
    intro hsame
    have hleading := leadingAnds_eq_of_same _ e hsame
    have hle := h.leading_le
    rw [leadingAnds, leadingAndsOf] at hleading
    omega
  leading_le := Nat.le_succ_of_le h.leading_le

theorem Differs.ofBlock {x e : Expression} (h : x.Differs e) (more : List Expression) :
    ∃ y, Predicate.ofBlock (x :: more) = [y] ∧ y.Differs e := by
  cases more with
  | nil => exact ⟨x, rfl, h⟩
  | cons z more => exact ⟨_, rfl, h.and_cons (z :: more)⟩

/-- The first expressions agree, up to one that is something else. -/
def DiffersAt (xs es : List Expression) : Prop :=
  ∃ pre e post x more, es = pre ++ e :: post ∧ xs = pre ++ x :: more ∧ x.Differs e

theorem DiffersAt.not_same {xs es : List Expression} (h : DiffersAt xs es) :
    sameAll xs es = false := by
  obtain ⟨pre, e, post, x, more, rfl, rfl, hx⟩ := h
  induction pre with
  | nil =>
    show (x.same e && sameAll more post) = false
    rw [hx.not_same, Bool.false_and]
  | cons y pre ih =>
    show (y.same y && sameAll (pre ++ x :: more) (pre ++ e :: post)) = false
    rw [ih, Bool.and_false]

theorem DiffersAt.leading_le {xs es : List Expression} (h : DiffersAt xs es) :
    leadingAndsOf es ≤ leadingAndsOf xs := by
  obtain ⟨pre, e, post, x, more, rfl, rfl, hx⟩ := h
  cases pre with
  | nil => exact hx.leading_le
  | cons y pre => exact Nat.le_refl _

theorem DiffersAt.and {xs es : List Expression} (h : DiffersAt xs es) :
    (and xs).Differs (and es) where
  not_same := h.not_same
  leading_le := Nat.succ_le_succ h.leading_le

theorem DiffersAt.or {xs es : List Expression} (h : DiffersAt xs es) :
    (or xs).Differs (or es) where
  not_same := h.not_same
  leading_le := Nat.le_refl _

theorem DiffersAt.anyElement {xs es : List Expression} (h : DiffersAt xs es) (f g : String) :
    (anyElement f xs).Differs (anyElement g es) where
  not_same := by
    rw [same, h.not_same, Bool.and_false]
  leading_le := Nat.le_refl _

theorem DiffersAt.of_singleton {xs : List Expression} {e : Expression} (h : DiffersAt xs [e]) :
    ∃ x more, xs = x :: more ∧ x.Differs e := by
  obtain ⟨pre, e', post, x, more, heq, rfl, hx⟩ := h
  cases pre with
  | nil =>
    obtain ⟨rfl, -⟩ := List.cons.inj heq
    exact ⟨x, more, rfl, hx⟩
  | cons y pre => exact absurd (List.cons.inj heq).2.symm (by simp)

end Expression

namespace Predicate

open Expression

variable {block : Reader Problem (List Expression)} {s rest : List Char}

/-! ## Misreading -/

/-- An operation is never an equality. -/
theorem differs_of_readOperation {field g : String} {op : Operator} {v : Value}
    {p : Expression × List Char} (h : readOperation block field op s = .ok p) :
    p.1.Differs (.equal g v) := by
  obtain ⟨⟨e, t⟩, he, h⟩ := bind_eq_ok_iff.1 (labelFault_eq_ok_iff.1 h)
  obtain ⟨u, -, h⟩ := bind_eq_ok_iff.1 h
  rw [← Except.ok.inj h]
  show e.Differs _
  refine ⟨?_, Nat.zero_le _⟩
  cases op with
  | exist =>
    obtain ⟨⟨b, t⟩, -, heq⟩ := map_eq_ok_iff.1 he
    rw [← (Prod.mk.inj heq).1]
    cases b <;> rfl
  | regex =>
    obtain ⟨⟨source, t⟩, -, he⟩ := bind_eq_ok_iff.1 he
    simp only at he
    split at he
    · rw [← (Prod.mk.inj (Except.ok.inj he)).1]
      rfl
    · cases he
  | _ =>
    obtain ⟨q, -, heq⟩ := map_eq_ok_iff.1 he
    rw [← (Prod.mk.inj heq).1]
    rfl

/-- An equality that is taken for an operation is read as one. -/
theorem differs_of_equal {field : String} {v : Value} (hfield : field ∉ Operator.reserved)
    (hv : v.opensOperation ≠ false) {p : Expression × List Char}
    (h : readExpression block ((equal field v).chars ++ rest) = .ok p) :
    p.1.Differs (equal field v) := by
  rw [Expression.chars, labelled_append,
    readExpression_field hfield (v.opens_chars.append rest).solid] at h
  have hcommand := labelFault_eq_ok_iff.1 h
  cases v with
  | object entries =>
    cases entries with
    | nil => exact absurd rfl hv
    | cons e entries =>
      obtain ⟨u, hu⟩ := @readCommand_object _ block field e entries rest
      obtain ⟨op, hop⟩ := Option.isSome_iff_exists.1 ((Bool.not_eq_false _).mp hv)
      have hkey : Operator.ofName? e.1 = some op := hop
      rw [hu, hkey] at hcommand
      exact differs_of_readOperation hcommand
  | _ => exact absurd rfl hv

/-- What a block reads as, when it holds an expression that reads as something else. -/
theorem differsAt_of_readBlockWithin {fuel : Nat} {es : List Expression}
    (hgood : ∀ e ∈ es, e.Every Unmistakable →
      ReadsBack (fun _ => readExpression (readBlockWithin fuel)) e.chars e)
    (hbad : ∀ e ∈ es, ¬ e.Every Unmistakable → ∀ t p, Delimited t →
      readExpression (readBlockWithin fuel) (e.chars ++ t) = .ok p → p.1.Differs e)
    (hes : ¬ everyOf Unmistakable es) {p : List Expression × List Char}
    (h : readBlockWithin (fuel + 1) (braced (joinedBy Expression.chars es) ++ rest) = .ok p) :
    DiffersAt p.1 es := by
  rw [everyOf_iff] at hes
  obtain ⟨pre, e, post, rfl, hpre, he⟩ := exists_first_not hes
  rw [braced_append, readBlockWithin, expect_cons] at h
  have hread : separated '\x7d' (.expected "'\x7d'")
      (fun _ => readExpression (readBlockWithin fuel))
      (joinedBy Expression.chars (pre ++ e :: post) ++ '\x7d' :: rest) = .ok p := h
  obtain ⟨index, t, x, r, more, ht, hx, hp⟩ := @exists_of_separated _ _ _ _ _ _ _
    Expression.chars id closes_brace Expression.opens_chars pre post e
    (fun y hy => hgood y (List.mem_append_left _ hy) (hpre y hy)) p hread
  rw [List.map_id] at hp
  have hmem : e ∈ pre ++ e :: post := List.mem_append_right pre List.mem_cons_self
  exact ⟨pre, e, post, x, more, rfl, hp, hbad e hmem he t (x, r) ht hx⟩

/-- What a junction reads as, when a block in it reads as something else. -/
theorem differsAt_of_readJunction {subs : List Expression}
    (hgood : ∀ e ∈ subs, e.Every Unmistakable → ReadsBlock block [e])
    (hbad : ∀ e ∈ subs, ¬ e.Every Unmistakable → ∀ t p, block (e.blockChars ++ t) = .ok p →
      DiffersAt p.1 [e])
    (hsubs : ¬ everyOf Unmistakable subs) {label : String} {join : List Expression → Expression}
    {p : Expression × List Char}
    (h : readJunction block label join
      (bracketed (joinedBy Expression.blockChars subs) ++ rest) = .ok p) :
    ∃ xs, p.1 = join xs ∧ DiffersAt xs subs := by
  rw [everyOf_iff] at hsubs
  obtain ⟨pre, e, post, rfl, hpre, he⟩ := exists_first_not hsubs
  rw [bracketed_append, readJunction, expect_cons] at h
  obtain ⟨u, hu, h⟩ := bind_eq_ok_iff.1 (labelFault_eq_ok_iff.1 h)
  cases hu
  obtain ⟨⟨blocks, r⟩, hblocks, h⟩ := bind_eq_ok_iff.1 h
  obtain ⟨index, t, b, r', more, ht, hb, hp⟩ := @exists_of_separated _ _ _ _ _ _ _
    Expression.blockChars (fun e => [e]) closes_bracket Expression.opens_blockChars pre post e
    (fun y hy _ u _ => hgood y (List.mem_append_left _ hy) (hpre y hy) u) _ hblocks
  simp only at h
  split at h
  · cases h
  · have hmem : e ∈ pre ++ e :: post := List.mem_append_right pre List.mem_cons_self
    obtain ⟨x, more', rfl, hx⟩ := (hbad e hmem he t (b, r') hb).of_singleton
    obtain ⟨y, hy, hdiffers⟩ := hx.ofBlock more'
    rw [← Except.ok.inj h]
    refine ⟨blocks.flatMap ofBlock, rfl, pre, e, post, y, more.flatMap ofBlock, rfl, ?_, hdiffers⟩
    have hblocks : blocks = pre.map (fun e => [e]) ++ (x :: more') :: more := hp
    rw [hblocks, List.flatMap_append, flatMap_ofBlock, List.flatMap_cons, hy]
    rfl

/-- **What is read for an expression with a mistakable equality is something else.** -/
theorem differs_of_readExpression {fuel : Nat} {e : Expression} (hfuel : e.chars.length ≤ fuel)
    (hwritable : e.Every Writable) (hkeys : e.Every Expression.KeysDistinct)
    (hbad : ¬ e.Every Unmistakable) {p : Expression × List Char}
    (h : readExpression (readBlockWithin fuel) (e.chars ++ rest) = .ok p) : p.1.Differs e := by
  induction fuel generalizing e rest p with
  | zero =>
    have := e.opens_chars.solid.length_pos
    omega
  | succ fuel ih =>
    have hinside : ∀ es ∈ e.blocks, ∀ x ∈ es, x.chars.length ≤ fuel := by
      intro es hes x hx
      have := length_lt_of_mem_blocks hes hx
      omega
    have hgood : ∀ es ∈ e.blocks, ∀ x ∈ es, x.Every Unmistakable →
        ReadsBack (fun _ => readExpression (readBlockWithin fuel)) x.chars x := by
      intro es hes x hx hplain _ _
      have hx' := (every_and x).2 ⟨hwritable.of_mem_blocks hes hx, hplain⟩
      exact readExpression_chars (hinside es hes x hx) hx' (hkeys.of_mem_blocks hes hx)
    have hblock : ∀ es ∈ e.blocks, ¬ everyOf Unmistakable es → ∀ t p,
        readBlockWithin (fuel + 1) (braced (joinedBy Expression.chars es) ++ t) = .ok p →
          DiffersAt p.1 es := by
      intro es hes hnot t p hp
      refine differsAt_of_readBlockWithin (hgood es hes) ?_ hnot hp
      intro x hx hx' t p _
      exact ih (hinside es hes x hx) (hwritable.of_mem_blocks hes hx) (hkeys.of_mem_blocks hes hx)
        hx'
    have hjunction : ∀ {subs : List Expression} {label : String}
        {join : List Expression → Expression} {u : List Char} {p : Expression × List Char},
        (∀ x ∈ subs, [x] ∈ e.blocks) → ¬ everyOf Unmistakable subs →
          readJunction (readBlockWithin (fuel + 1)) label join
            (bracketed (joinedBy Expression.blockChars subs) ++ u) = .ok p →
              ∃ xs, p.1 = join xs ∧ DiffersAt xs subs := by
      intro subs label join u p hsubs hnot hread
      have hreads : ∀ x ∈ subs, x.Every Unmistakable →
          ReadsBlock (readBlockWithin (fuel + 1)) [x] := by
        intro x hx hplain
        apply readsBlock_of_expressions
        intro y hy
        rw [List.mem_singleton.1 hy]
        exact hgood _ (hsubs x hx) x List.mem_cons_self hplain
      have hmisreads : ∀ x ∈ subs, ¬ x.Every Unmistakable → ∀ t p,
          readBlockWithin (fuel + 1) (x.blockChars ++ t) = .ok p → DiffersAt p.1 [x] := by
        intro x hx hx' t p hp
        exact hblock _ (hsubs x hx) (fun hall => hx' hall.1) t p hp
      exact differsAt_of_readJunction hreads hmisreads hnot hread
    cases e with
    | and subs =>
      rw [chars_and, labelled_append, readExpression_and ((opens_bracketed _).append _).solid] at h
      obtain ⟨xs, hxs, hdiffers⟩ := hjunction (fun x hx => List.mem_map_of_mem hx)
        (fun hall => hbad ⟨trivial, hall⟩) h
      rw [hxs]
      exact hdiffers.and
    | or subs =>
      rw [chars_or, labelled_append, readExpression_or ((opens_bracketed _).append _).solid] at h
      obtain ⟨xs, hxs, hdiffers⟩ := hjunction (fun x hx => List.mem_map_of_mem hx)
        (fun hall => hbad ⟨trivial, hall⟩) h
      rw [hxs]
      exact hdiffers.or
    | anyElement field exprs =>
      rw [chars_anyElement, readExpression_operation hwritable.1 (opens_braced _)] at h
      obtain ⟨⟨x, t⟩, hx, h⟩ := bind_eq_ok_iff.1
        (labelFault_eq_ok_iff.1 (labelFault_eq_ok_iff.1 h))
      obtain ⟨q, hq, heq⟩ := map_eq_ok_iff.1 hx
      obtain ⟨u, -, h⟩ := bind_eq_ok_iff.1 h
      rw [← Except.ok.inj h]
      show x.Differs _
      rw [← (Prod.mk.inj heq).1]
      exact (hblock exprs List.mem_cons_self (fun hall => hbad ⟨trivial, hall⟩) _ q hq).anyElement
        field field
    | equal field value => exact differs_of_equal hwritable.1 hbad h
    | _ => exact absurd trivial hbad

/-! ## Exactly the well-formed -/

/-- What is read in the same form shows that no equality was taken for an operation. -/
theorem unmistakable_of_parse {p q : Predicate} (hwritable : everyOf Writable p)
    (hkeys : p.KeysDistinct) (h : parse p.text = .ok q) (hsame : q.same p = true) :
    everyOf Unmistakable p := by
  by_contra hbad
  obtain ⟨r, hread, -⟩ := parse_text_eq_ok_iff.1 h
  have hgood : ∀ e ∈ p, e.Every Unmistakable →
      ReadsBack (fun _ => readExpression (readBlockWithin p.chars.length)) e.chars e := by
    intro e he hplain _ _
    have hwell := (every_and e).2 ⟨everyOf_iff.1 hwritable e he, hplain⟩
    exact readExpression_chars (length_le_of_mem he) hwell (everyOf_iff.1 hkeys e he)
  have hmisread : ∀ e ∈ p, ¬ e.Every Unmistakable → ∀ t x, Delimited t →
      readExpression (readBlockWithin p.chars.length) (e.chars ++ t) = .ok x → x.1.Differs e := by
    intro e he hbad t x _ hx
    exact differs_of_readExpression (length_le_of_mem he) (everyOf_iff.1 hwritable e he)
      (everyOf_iff.1 hkeys e he) hbad hx
  have hdiffers := differsAt_of_readBlockWithin hgood hmisread hbad hread
  rw [Predicate.same, hdiffers.not_same] at hsame
  cases hsame

/-- What is read in the same form is well-formed. -/
theorem wellFormed_of_same {p q : Predicate} (hkeys : p.KeysDistinct) (h : parse p.text = .ok q)
    (hsame : q.same p = true) : p.WellFormed := by
  obtain ⟨hwf, hdistinct⟩ := wellFormed_of_parse h
  have hwritable := writableAll_of_sameAll q p hsame ((everyOf_and q).1 hwf).1 hdistinct hkeys
  exact (everyOf_and p).2 ⟨hwritable, unmistakable_of_parse hwritable hkeys h hsame⟩

/-- **Writing and reading are inverse, exactly on the well-formed predicates.** A predicate is read
from its text in the same form if and only if it is well-formed, and it is then read as it was; what
is read from any text is well-formed, and is read from its own text. -/
theorem parse_text_iff :
    (∀ p : Predicate, p.KeysDistinct →
        ((∃ q, parse p.text = .ok q ∧ q.same p = true) ↔ p.WellFormed) ∧
          (p.WellFormed → parse p.text = .ok p)) ∧
      ∀ t p, parse t = .ok p → p.WellFormed ∧ p.KeysDistinct ∧ parse p.text = .ok p := by
  constructor
  · intro p hkeys
    refine ⟨⟨?_, ?_⟩, ?_⟩
    · rintro ⟨q, hq, hsame⟩
      exact wellFormed_of_same hkeys hq hsame
    · intro hwf
      obtain ⟨hwritable, -⟩ := (everyOf_and p).1 hwf
      exact ⟨p, parse_text hwf hkeys, sameAll_refl p hwritable hkeys⟩
    · intro hwf
      exact parse_text hwf hkeys
  · intro t p h
    obtain ⟨hwf, hkeys⟩ := wellFormed_of_parse h
    exact ⟨hwf, hkeys, parse_text hwf hkeys⟩

end Predicate

end

namespace Bookshelf

open Expression Predicate

/-- Books with pages that Ann wrote or edited. -/
def annsBooks : Predicate :=
  [.or [.equal "author" (.string "Ann"), .equal "editor" (.string "Ann")],
    .compare .greater "pages" (.finite .zero)]

/-- A document that begins with an operator, as the author of a book. -/
def mistakable : Predicate := [.equal "author" (.object [("$in", .array [])])]

theorem annsBooks_keysDistinct : annsBooks.KeysDistinct := by
  simp [annsBooks, Predicate.KeysDistinct, everyOf, Every, Expression.KeysDistinct, literals,
    Value.KeysDistinct]

theorem annsBooks_wellFormed : annsBooks.WellFormed := by
  have hauthor : "author" ∉ Operator.reserved := by decide
  have heditor : "editor" ∉ Operator.reserved := by decide
  have hpages : "pages" ∉ Operator.reserved := by decide
  simp [annsBooks, WellFormed, everyOf, Every, Writable, Unmistakable, Value.NumbersFloat,
    Value.opensOperation, Bound.isFinite, hauthor, heditor, hpages]

theorem mistakable_keysDistinct : mistakable.KeysDistinct := by
  simp [mistakable, Predicate.KeysDistinct, everyOf, Every, Expression.KeysDistinct, literals,
    Value.KeysDistinct, Value.keysDistinctEntries, Value.keysDistinctItems, Assoc.keys]

theorem mistakable_not_wellFormed : ¬ mistakable.WellFormed := by
  intro h
  have hplain : (Value.object [("$in", .array [])]).opensOperation = false := h.1.2
  exact absurd hplain (by decide)

/-- The one is read as it was written, the other is not. -/
theorem parse_annsBooks :
    parse annsBooks.text = .ok annsBooks ∧
      ¬ ∃ q, parse mistakable.text = .ok q ∧ q.same mistakable = true := by
  constructor
  · have hread := (parse_text_iff.1 annsBooks annsBooks_keysDistinct).2 annsBooks_wellFormed
    exact (parse_text_iff.2 _ _ hread).2.2
  · intro h
    exact mistakable_not_wellFormed ((parse_text_iff.1 mistakable mistakable_keysDistinct).1.1 h)

end Bookshelf

end DocQuery
