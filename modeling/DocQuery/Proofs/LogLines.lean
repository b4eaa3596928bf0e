import DocQuery.LogBuffer
import DocQuery.Proofs.LiteralGrammar
import DocQuery.Proofs.Reporting
import Mathlib.Data.List.Sort

/-!
# Lines of a log read back

Every control character of an event is escaped, so its line ends where it was meant to, and what is
written between quotes is what the quoted strings of data files are read as.

* `LogEntry.not_isControl_of_mem_encodeChar`, `LogEntry.escapes_encode` — one string.
* `LogEntry.stablySorts_orderedFields`, `LogEntry.orderedFields_of_perm` — the order of the fields.
* `LogEntry.parse_body` — one line as a data file.
* `textLines_flatMap` — the lines of a text.
* `Logger.lines_decode` — all of it for a logger that writes to memory.
-/

set_option autoImplicit false

namespace DocQuery

namespace LogEntry

/-! ## Strings -/

theorem not_isControl_hexDigit : ∀ n, n < 16 → isControl (Quoted.hexDigit n) = false := by decide

/-- What a character is written as has no control character. -/
theorem not_isControl_of_mem_encodeChar {c d : Char} (h : d ∈ encodeChar c) :
    isControl d = false := by
  have hdigit : ∀ n, isControl (Quoted.hexDigit (n % 16)) = false :=
    fun n => not_isControl_hexDigit _ (Nat.mod_lt n (by decide))
  unfold encodeChar at h
  repeat' split at h
  all_goals simp only [Quoted.hexDigits, List.mem_cons, List.not_mem_nil, or_false] at h
  · rcases h with rfl | rfl <;> decide
  · rcases h with rfl | rfl <;> decide
  · rcases h with rfl | rfl <;> decide
  · rcases h with rfl | rfl <;> decide
  · rcases h with rfl | rfl <;> decide
  · rcases h with rfl | rfl | rfl | rfl | rfl | rfl
    · decide
    · decide
    · exact hdigit _
    · exact hdigit _
    · exact hdigit _
    · exact hdigit _
  · rename_i hcontrol
    rw [h]
    exact Bool.not_eq_true _ ▸ hcontrol

/-- A character is written with an escape that stands for it, or as it is. -/
theorem escapes_encodeChar_append (c : Char) {w s : List Char} (h : Grammar.Escapes w s) :
    Grammar.Escapes (encodeChar c ++ w) (c :: s) := by
  unfold encodeChar
  repeat' split
  · subst c
    exact .letter rfl h
  · subst c
    exact .letter rfl h
  · subst c
    exact .letter rfl h
  · subst c
    exact .letter rfl h
  · subst c
    exact .letter rfl h
  · rename_i hcontrol
    have hsmall : c.toNat < 0xa0 := by
      simp only [isControl, Bool.or_eq_true, Bool.and_eq_true, decide_eq_true_eq] at hcontrol
      omega
    have hdigits := Quoted.hexNumber_hexDigits (Nat.lt_trans hsmall (by decide))
    have hunit := Grammar.Escapes.unit hdigits
      (by simp [Quoted.isTrailing]; omega) (by simp [Quoted.isLeading]; omega) h
    rwa [Char.ofNat_toNat] at hunit
  · rename_i hquote hslash _ _ _ hcontrol
    refine .plain hslash hquote ?_ h
    simp only [isControl, Bool.or_eq_true, Bool.and_eq_true, decide_eq_true_eq] at hcontrol
    omega

theorem escapes_encode (s : List Char) : Grammar.Escapes (s.flatMap encodeChar) s := by
  induction s with
  | nil => exact .nil
  | cons c s ih => exact escapes_encodeChar_append c ih

end LogEntry

namespace Json

theorem scanBody_unit {a b c d : Char} {n : Nat} (h : Quoted.hexNumber a b c d = some n)
    (s : List Char) : scanBody ('\\' :: 'u' :: a :: b :: c :: d :: s) =
      (scanBody s).map fun p => ('\\' :: 'u' :: a :: b :: c :: d :: p.1, p.2) := by
  rw [scanBody, h, Option.isSome_some, if_pos rfl]

/-- The inside of a string ends at the first quote that is not escaped. -/
theorem scanBody_of_escapes {w s : List Char} (h : Grammar.Escapes w s) (rest : List Char) :
    scanBody (w ++ '"' :: rest) = some (w, rest) := by
  induction h with
  | nil =>
    rw [List.nil_append, scanBody, if_pos rfl]
    · exact nofun
    · exact nofun
  | @plain c w s hslash hquote hprintable _ ih =>
    have hfine : ¬ (c = '\\' ∨ c.toNat < 32) := not_or.2 ⟨hslash, Nat.not_lt.2 hprintable⟩
    rw [List.cons_append, scanBody, if_neg hquote, if_neg hfine, ih]
    · rfl
    · exact fun _ _ _ _ _ hc => absurd hc hslash
    · exact fun _ _ hc => absurd hc hslash
  | @letter c d w s hknown _ ih =>
    have hunit : Quoted.escaped 'u' = none := by decide
    have hne : c ≠ 'u' := by
      rintro rfl
      rw [hunit] at hknown
      cases hknown
    rw [List.cons_append, List.cons_append, scanBody, hknown, Option.isSome_some, if_pos rfl, ih]
    · rfl
    · exact fun _ _ _ _ _ hc => absurd hc hne
  | unit hdigits _ _ _ ih =>
    simp only [List.cons_append]
    rw [scanBody_unit hdigits, ih]
    rfl
  | pair hlead _ htrail _ _ ih =>
    simp only [List.cons_append]
    rw [scanBody_unit hlead, scanBody_unit htrail, ih]
    rfl

theorem decodeBody?_of_escapes {w s : List Char} (h : Grammar.Escapes w s) :
    decodeBody? w = some (String.ofList s) := by
  rw [decodeBody?, Grammar.decode_of_escapes h]

end Json

namespace LogEntry

/-! ## Fields -/

section Fields

variable {fields fields' : List (String × String)}

/-- The order of pairs by their keys. -/
def KeyLE (p q : String × String) : Prop := p.1 ≤ q.1

instance : DecidableRel KeyLE := fun p q => inferInstanceAs (Decidable (p.1 ≤ q.1))

instance : Std.Total KeyLE := ⟨fun p q => le_total p.1 q.1⟩

instance : IsTrans (String × String) KeyLE := ⟨fun _ _ _ hab hbc => le_trans hab hbc⟩

theorem orderedFields_eq (fields : List (String × String)) :
    orderedFields fields = fields.insertionSort KeyLE := by
  have hinsert : ∀ (p : String × String) (l : List (String × String)),
      insertByKey p l = l.orderedInsert KeyLE p := by
    intro p l
    induction l with
    | nil => rfl
    | cons q l ih =>
      by_cases hle : p.1 ≤ q.1
      · rw [insertByKey, if_neg (not_lt.2 hle), List.orderedInsert_cons_of_le KeyLE l hle]
      · rw [insertByKey, if_pos (not_le.1 hle), ih, List.orderedInsert_of_not_le KeyLE l hle]
  induction fields with
  | nil => rfl
  | cons p fields ih =>
    rw [List.insertionSort_cons, ← ih, ← hinsert]
    rfl

/-- **Fields are ordered by the bytes of their keys**, those of one key as they came. -/
theorem stablySorts_orderedFields (fields : List (String × String)) :
    StablySorts fields (orderedFields fields) := by
  rw [orderedFields_eq]
  have hperm := List.perm_insertionSort KeyLE fields
  refine ⟨hperm, ?_, fun key => ?_⟩
  · refine (List.pairwise_insertionSort KeyLE fields).imp fun hle => ?_
    exact List.not_lt.1 fun hlt => not_lt.2 hle (bytes_lt_bytes_iff.1 hlt)
  · -- The pairs of one key are in order, so sorting leaves them as they are.
    have hone : (fields.filter (·.1 == key)).Pairwise KeyLE := by
      refine List.pairwise_of_forall_mem_list fun p hp q hq => ?_
      have hp := (List.mem_filter.1 hp).2
      have hq := (List.mem_filter.1 hq).2
      simp only [beq_iff_eq] at hp hq
      exact le_of_eq (hp.trans hq.symm)
    have hsub := (List.sublist_insertionSort hone List.filter_sublist).filter (·.1 == key)
    rw [List.filter_filter] at hsub
    simp only [Bool.and_self] at hsub
    exact (hsub.eq_of_length (hperm.symm.filter _).length_eq).symm

/-- The order in which fields with different keys are given does not matter. -/
theorem orderedFields_of_perm (h : fields.Perm fields') (hkeys : (fields.map Prod.fst).Nodup) :
    orderedFields fields = orderedFields fields' := by
  rw [orderedFields_eq, orderedFields_eq]
  have hsorted := List.perm_insertionSort KeyLE fields
  have hsorted' := List.perm_insertionSort KeyLE fields'
  refine List.Perm.eq_of_pairwise ?_ (List.pairwise_insertionSort KeyLE fields)
    (List.pairwise_insertionSort KeyLE fields') (hsorted.trans (h.trans hsorted'.symm))
  intro p q hp hq hle hge
  have hp := hsorted.mem_iff.1 hp
  have hq := h.mem_iff.2 (hsorted'.mem_iff.1 hq)
  exact List.inj_on_of_nodup_map hkeys hp hq (le_antisymm hle hge)

end Fields

/-! ## One line -/

/-- The pairs of a line. -/
def pairs (e : LogEntry) : List (String × String) :=
  ("event", e.event) :: ("severity", e.severity.name) :: orderedFields e.fields

def pairText (p : String × String) : List Char := quoted p.1 ++ ':' :: quoted p.2

/-- A line without its line feed. -/
def body (e : LogEntry) : List Char :=
  '\x7b' :: ([','].intercalate (e.pairs.map pairText) ++ ['\x7d'])

theorem line_eq (e : LogEntry) : e.line = String.ofList e.body ++ "\n" := by
  apply String.toList_inj.1
  simp only [line, body, String.toList_ofList, String.toList_append, List.cons_append,
    List.append_assoc]
  rfl

theorem not_isControl_of_mem_quoted {s : String} {d : Char} (h : d ∈ quoted s) :
    isControl d = false := by
  simp only [quoted, List.mem_cons, List.mem_append, List.mem_flatMap, List.not_mem_nil,
    or_false] at h
  rcases h with rfl | ⟨c, -, hd⟩ | rfl
  · decide
  · exact not_isControl_of_mem_encodeChar hd
  · decide

theorem not_isControl_of_mem_pairText {p : String × String} {d : Char} (h : d ∈ pairText p) :
    isControl d = false := by
  simp only [pairText, List.mem_append, List.mem_cons] at h
  rcases h with hd | rfl | hd
  · exact not_isControl_of_mem_quoted hd
  · decide
  · exact not_isControl_of_mem_quoted hd

theorem not_isControl_of_mem_intercalate {ps : List (String × String)} {d : Char}
    (h : d ∈ [','].intercalate (ps.map pairText)) : isControl d = false := by
  induction ps with
  | nil => cases h
  | cons p ps ih =>
    cases ps with
    | nil =>
      rw [List.map_singleton, List.intercalate_singleton] at h
      exact not_isControl_of_mem_pairText h
    | cons q ps =>
      rw [List.map_cons, List.map_cons, List.intercalate_cons_cons, ← List.map_cons,
        List.mem_append, List.mem_append, List.mem_singleton] at h
      rcases h with (hd | rfl) | hd
      · exact not_isControl_of_mem_pairText hd
      · decide
      · exact ih hd

/-- **A line has no control character** but the line feed at its end. -/
theorem not_isControl_of_mem_body {e : LogEntry} {d : Char} (h : d ∈ e.body) :
    isControl d = false := by
  simp only [body, List.mem_cons, List.mem_append, List.not_mem_nil, or_false] at h
  rcases h with rfl | hd | rfl
  · decide
  · exact not_isControl_of_mem_intercalate hd
  · decide

/-- A pair as an entry of a data file: what stands between the quotes. -/
def entry (p : String × String) : List Char × Json :=
  (p.1.toList.flatMap encodeChar, .string (p.2.toList.flatMap encodeChar))

theorem readString_quoted (s : String) (rest : List Char) :
    Json.readString (quoted s ++ rest) = .ok (s.toList.flatMap encodeChar, rest) := by
  have htext : quoted s ++ rest = '"' :: (s.toList.flatMap encodeChar ++ '"' :: rest) := by
    simp [quoted]
  rw [htext]
  simp only [Json.readString, Json.scanBody_of_escapes (escapes_encode s.toList) rest]

theorem solid_quoted (s : String) (rest : List Char) : Solid (quoted s ++ rest) :=
  ⟨'"', _, rfl, by decide⟩

theorem readEntry_pairText (depth : Nat) (p : String × String) (rest : List Char) :
    Json.readEntry (Json.readWithin (depth + 1)) (pairText p ++ rest) = .ok (entry p, rest) := by
  have htext : pairText p ++ rest = quoted p.1 ++ ':' :: (quoted p.2 ++ rest) := by
    simp [pairText]
  have hvalue : Json.readWithin (depth + 1) (quoted p.2 ++ rest) =
      .ok (.string (p.2.toList.flatMap encodeChar), rest) := by
    have hread := readString_quoted p.2 rest
    rw [Json.readWithin, skipBlanks_of_solid (solid_quoted p.2 rest)]
    show (Json.readString (quoted p.2 ++ rest)).map _ = _
    rw [hread]
    rfl
  have hcolon : skipBlanks (':' :: (quoted p.2 ++ rest)) = ':' :: (quoted p.2 ++ rest) :=
    skipBlanks_of_solid ⟨':', _, rfl, by decide⟩
  rw [htext]
  simp only [Json.readEntry, readString_quoted, bind, Except.bind, hcolon, expect_cons, hvalue]
  rfl

theorem solid_pairText (p : String × String) (rest : List Char) : Solid (pairText p ++ rest) :=
  ⟨'"', _, rfl, by decide⟩

theorem itemsUntil_pairs (depth : Nat) (p : String × String) (ps : List (String × String))
    {fuel : Nat} (hfuel : ps.length < fuel) (index : Nat) (rest : List Char) :
    itemsUntil '\x7d' Json.Problem.ofNext (fun _ => Json.readEntry (Json.readWithin (depth + 1)))
        fuel index ([','].intercalate ((p :: ps).map pairText) ++ '\x7d' :: rest) =
      .ok ((p :: ps).map entry, rest) := by
  induction ps generalizing p fuel index with
  | nil =>
    obtain ⟨fuel, rfl⟩ : ∃ k, fuel = k + 1 := ⟨fuel - 1, by omega⟩
    rw [List.map_singleton, List.intercalate_singleton]
    refine itemsUntil_of_closing closes_brace (t := '\x7d' :: rest) ?_
      (skipBlanks_of_solid (closes_brace.delimited rest).solid)
    rw [skipBlanks_of_solid (solid_pairText p _)]
    exact readEntry_pairText depth p _
  | cons q ps ih =>
    obtain ⟨fuel, rfl⟩ : ∃ k, fuel = k + 1 := ⟨fuel - 1, by omega⟩
    have htext : [','].intercalate ((p :: q :: ps).map pairText) ++ '\x7d' :: rest =
        pairText p ++ ',' :: ([','].intercalate ((q :: ps).map pairText) ++ '\x7d' :: rest) := by
      simp [List.intercalate_cons_cons]
    have hread := readEntry_pairText depth p
      (',' :: ([','].intercalate ((q :: ps).map pairText) ++ '\x7d' :: rest))
    rw [htext, itemsUntil_of_comma (by rw [skipBlanks_of_solid (solid_pairText p _)]; exact hread)
      (skipBlanks_of_solid (delimited_comma _).solid),
      ih q (by simp only [List.length_cons] at hfuel; omega)]
    rfl

theorem length_lt_intercalate (p : String × String) (ps : List (String × String)) :
    ps.length < ([','].intercalate ((p :: ps).map pairText)).length := by
  induction ps generalizing p with
  | nil => simp [pairText, quoted]
  | cons q ps ih =>
    have hrest := ih q
    rw [List.map_cons, List.map_cons, List.intercalate_cons_cons, ← List.map_cons,
      List.length_append, List.length_append, List.length_cons, List.length_singleton]
    omega

/-- **A line is an object of its pairs**, with or without the line feed after it. -/
theorem parse_body (e : LogEntry) {ending : List Char} (h : skipBlanks ending = []) :
    Json.parse (String.ofList (e.body ++ ending)) = .ok (.object (e.pairs.map entry)) := by
  obtain ⟨p, ps, hpairs⟩ : ∃ p ps, e.pairs = p :: ps := ⟨_, _, rfl⟩
  have htext : e.body ++ ending =
      '\x7b' :: ([','].intercalate ((p :: ps).map pairText) ++ '\x7d' :: ending) := by
    simp [body, hpairs]
  obtain ⟨r, hr⟩ : ∃ r, [','].intercalate ((p :: ps).map pairText) ++ '\x7d' :: ending =
      '"' :: r := by
    cases ps with
    | nil => exact ⟨_, rfl⟩
    | cons q ps => exact ⟨_, rfl⟩
  -- Each pair takes a character, so the length of the text is fuel enough.
  have hfuel : ps.length < r.length + 1 := by
    have hlength := length_lt_intercalate p ps
    have heq := congrArg List.length hr
    rw [List.length_append, List.length_cons, List.length_cons] at heq
    omega
  have hitems := itemsUntil_pairs (r.length + 1) p ps hfuel 0 ending
  rw [hr] at hitems
  have hobject : Json.readWithin (r.length + 3) ('\x7b' :: '"' :: r) =
      .ok (.object ((p :: ps).map entry), ending) := by
    rw [Json.readWithin]
    show (itemsUntil '\x7d' Json.Problem.ofNext
      (fun _ => Json.readEntry (Json.readWithin (r.length + 2))) (r.length + 1) 0
        ('"' :: r)).map _ = _
    rw [hitems]
    rfl
  rw [htext, hr, hpairs]
  show (Json.readWithin _ (String.ofList ('\x7b' :: '"' :: r)).toList >>= _) = _
  rw [String.toList_ofList]
  show (Json.readWithin (r.length + 3) ('\x7b' :: '"' :: r) >>= _) = _
  rw [hobject]
  simp only [bind, Except.bind, h]

theorem stringPairs?_entries (ps : List (String × String)) :
    (Json.object (ps.map entry)).stringPairs? = some ps := by
  have hentry : ∀ p : String × String,
      ((Json.decodeBody? (entry p).1).bind fun key =>
        (entry p).2.string?.map fun value => (key, value)) = some p := by
    intro p
    simp only [entry, Json.string?, Json.decodeBody?_of_escapes (escapes_encode _),
      String.ofList_toList, Option.bind_some, Option.map_some]
  rw [Json.stringPairs?, mapM_eq_some_iff, List.map_map]
  exact List.map_congr_left fun p _ => hentry p

theorem tells_body (e : LogEntry) : e.Tells (String.ofList e.body) := by
  have hparse := @parse_body e [] rfl
  have hparse' := @parse_body e ['\n'] rfl
  rw [List.append_nil] at hparse
  rw [String.ofList_append] at hparse'
  refine ⟨line_eq e, fun d hd => ?_, _, _, hparse, hparse', stringPairs?_entries e.pairs,
    stablySorts_orderedFields e.fields⟩
  rw [String.toList_ofList] at hd
  exact not_isControl_of_mem_body hd

theorem line_of_perm {e : LogEntry} {fields : List (String × String)}
    (h : e.fields.Perm fields) (hkeys : (e.fields.map Prod.fst).Nodup) :
    (⟨e.severity, e.event, fields⟩ : LogEntry).line = e.line := by
  have hpairs : pairs ⟨e.severity, e.event, fields⟩ = e.pairs := by
    rw [pairs, ← orderedFields_of_perm h hkeys]
    rfl
  rw [line_eq, line_eq, body, hpairs]
  rfl

end LogEntry

/-! ## Several lines -/

/-- A text of lines that hold no line ends has just these lines. -/
theorem textLines_flatMap {lines : List (List Char)}
    (h : ∀ line ∈ lines, '\n' ∉ line ∧ line.getLast? ≠ some '\r') :
    textLines (lines.flatMap fun line => line ++ ['\n']) = lines := by
  have hparts : splitAtEach '\n' (lines.flatMap fun line => line ++ ['\n']) = lines ++ [[]] := by
    induction lines with
    | nil => rfl
    | cons line lines ih =>
      obtain ⟨hline, hlines⟩ := List.forall_mem_cons.1 h
      rw [List.flatMap_cons, List.append_assoc, List.singleton_append, splitAtEach_append,
        splitAtEach_of_not_mem hline.1, ih hlines]
      rfl
  have hreturn : ∀ line ∈ lines, dropReturn line = line :=
    fun line hline => if_neg (h line hline).2
  simp only [textLines, hparts, List.dropLast_concat, List.getLastD_concat, List.isEmpty_nil,
    if_true, List.append_nil]
  exact (List.map_congr_left hreturn).trans (List.map_id lines)

namespace Logger

theorem contents_log (l : Logger) (buffer : LogBuffer) (e : LogEntry) :
    (l.log buffer e).contents = buffer.contents ++ String.join (l.lines [e]) := by
  cases hwrite : l.write? e with
  | none => simp [log, lines, hwrite]
  | some line => simp [log, lines, hwrite]

/-- Memory holds what it held and then the lines of the events, by induction on the events. -/
theorem contents_logAll (l : Logger) (buffer : LogBuffer) (es : List LogEntry) :
    (l.logAll buffer es).contents = buffer.contents ++ String.join (l.lines es) := by
  induction es generalizing buffer with
  | nil => simp [logAll, lines]
  | cons e es ih =>
    have hlines : l.lines (e :: es) = l.lines [e] ++ l.lines es := by
      rw [← List.singleton_append, lines, List.filterMap_append]
      rfl
    rw [logAll, List.foldl_cons, ← logAll, ih, contents_log, hlines, String.join_append,
      String.append_assoc]

/-- There is one line in memory for each event that is written. -/
theorem lines_logAll (min : Severity) (es : List LogEntry) :
    ((atLeast min).logAll {} es).lines =
      (es.filter fun e => min.level ≤ e.severity.level).map fun e => String.ofList e.body := by
  have hlines : ∀ written : List LogEntry,
      (String.join (written.map LogEntry.line)).toList =
        (written.map LogEntry.body).flatMap fun line => line ++ ['\n'] := by
    intro written
    rw [String.toList_join, List.flatMap_map, List.flatMap_map]
    refine List.flatMap_congr fun e _ => ?_
    rw [LogEntry.line_eq, String.toList_append, String.toList_ofList]
    rfl
  rw [LogBuffer.lines, contents_logAll, lines_atLeast, String.toList_append, hlines]
  show (textLines ([] ++ _)).map String.ofList = _
  rw [List.nil_append, textLines_flatMap, List.map_map]
  · rfl
  · intro line hline
    obtain ⟨e, -, rfl⟩ := List.mem_map.1 hline
    constructor
    · intro hmem
      exact absurd (LogEntry.not_isControl_of_mem_body hmem) (by decide)
    · rw [LogEntry.body, ← List.cons_append, List.getLast?_concat]
      decide

/-- **One line of a log is one event that can be read back.** Memory holds, in order, the lines of
the events at or above the severity and nothing else. Read back, it has one line for each of these
events, which tells it: the line has no control character and is an object of the event's name, its
severity and its fields ordered by key. The order in which fields with different keys are given
does not change what is written. -/
theorem lines_decode (min : Severity) :
    (∀ es, ((atLeast min).logAll {} es).contents =
        String.join ((es.filter fun e => min.level ≤ e.severity.level).map LogEntry.line)) ∧
      (∀ es, List.Forall₂ LogEntry.Tells (es.filter fun e => min.level ≤ e.severity.level)
        ((atLeast min).logAll {} es).lines) ∧
      ∀ (e : LogEntry) (fields : List (String × String)), e.fields.Perm fields →
        (e.fields.map Prod.fst).Nodup →
          (⟨e.severity, e.event, fields⟩ : LogEntry).line = e.line := by
  refine ⟨fun es => ?_, fun es => ?_, fun e fields => LogEntry.line_of_perm⟩
  · rw [contents_logAll, lines_atLeast]
    exact String.empty_append
  · rw [lines_logAll]
    exact List.forall₂_map_right_iff.2 (List.forall₂_same.2 fun e _ => e.tells_body)

end Logger

namespace Bookshelf

/-- Two orders of the fields of one event are written as one line. -/
theorem line_lent :
    [("to", "Ann\n\"A.\""), ("at", "\u0085")].Perm [("at", "\u0085"), ("to", "Ann\n\"A.\"")] ∧
      ["to", "at"].Nodup ∧
      (⟨.info, "LENT", [("at", "\u0085"), ("to", "Ann\n\"A.\"")]⟩ : LogEntry).line =
        (⟨.info, "LENT", [("to", "Ann\n\"A.\""), ("at", "\u0085")]⟩ : LogEntry).line := by
  have hperm : [("to", "Ann\n\"A.\""), ("at", "\u0085")].Perm
      [("at", "\u0085"), ("to", "Ann\n\"A.\"")] := .swap _ _ _
  have hkeys : ["to", "at"].Nodup := by decide
  exact ⟨hperm, hkeys, (Logger.lines_decode .trace).2.2
    ⟨.info, "LENT", [("to", "Ann\n\"A.\""), ("at", "\u0085")]⟩ _ hperm hkeys⟩

end Bookshelf

end DocQuery
