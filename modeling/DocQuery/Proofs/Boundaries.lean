import DocQuery.Pattern.Engine
import DocQuery.Proofs.PredicateScan
import DocQuery.Proofs.ProjectionScan

/-!
# Parsing stays within the text

Both parsers move over bytes. That they never read one behind the end, never set the cursor or cut
the text inside a character and never go round a loop for ever is that their scans are not in
breach; and as these give what the parsers give, the failures that are reported stand at boundaries
of the text.

* `Scan.Reaches` — from one place to another without leaving the text or its boundaries.
* `Scan.labelEnd_reaches`, `Scan.nameText_reaches`, `Scan.numberEnd_reaches`,
  `Scan.string_reaches` — the ends of tokens.

Main statement: `Scan.parsing_stays_within`.
-/

set_option autoImplicit false

namespace DocQuery.Scan

/-- A boundary of the text that does not stand in front of `start`. -/
structure Reaches (text : String) (start stop : Nat) : Prop where
  forward : start ≤ stop
  inside : stop ≤ text.utf8ByteSize
  boundary : isBoundary text stop = true

variable {text : String} {s rest : List Char} {p : Nat}

theorem reaches_of_suffix (h : s <:+ text.toList) (hrest : rest <:+ s) :
    Reaches text (place text s) (place text rest) := by
  have hle := byteLength_le_of_suffix hrest
  refine ⟨?_, place_le text rest, isBoundary_place (hrest.trans h)⟩
  rw [place, place]
  omega

theorem reaches_of_boundary (h : isBoundary text p = true) : Reaches text 0 p := by
  obtain ⟨s, hs, rfl⟩ := isBoundary_iff.1 h
  exact ⟨Nat.zero_le _, place_le text s, h⟩

theorem labelEnd_reaches (h : isBoundary text p = true) :
    ∃ stop, runEnd Predicate.isLabelChar p text p = .ok (.ok stop, p) ∧ Reaches text p stop := by
  obtain ⟨s, hs, rfl⟩ := isBoundary_iff.1 h
  exact ⟨_, runEnd_place (by decide) Predicate.isLabelChar_lt hs,
    reaches_of_suffix hs (List.dropWhile_suffix _)⟩

theorem nameText_reaches (h : isBoundary text p = true) :
    ∃ name stop, Projection.scanNameText text p = .ok (.ok name, stop) ∧ Reaches text p stop := by
  obtain ⟨s, hs, rfl⟩ := isBoundary_iff.1 h
  exact ⟨_, _, Projection.scanNameText_place hs,
    reaches_of_suffix hs (Projection.scanName_suffix s)⟩

theorem numberEnd_reaches (h : isBoundary text p = true) :
    ∃ found, numberEnd p text p = .ok (.ok found, p) ∧ ∀ stop ∈ found, Reaches text p stop := by
  obtain ⟨s, hs, rfl⟩ := isBoundary_iff.1 h
  refine ⟨_, numberEnd_place hs, fun stop hstop => ?_⟩
  obtain ⟨⟨digits, rest⟩, hscan, rfl⟩ := Option.map_eq_some_iff.1 hstop
  exact reaches_of_suffix hs ⟨digits, (Literal.scanNumber_append hscan).symm⟩

theorem string_reaches {quoteMark : Char} (hascii : quoteMark.toNat < 128)
    (hmark : quoteMark ≠ '\\') (h : isBoundary text p = true) :
    ∃ found, string quoteMark p text p = .ok (found, p) ∧
      ∀ value stop, found = .ok (value, stop) → Reaches text p stop := by
  obtain ⟨s, hs, rfl⟩ := isBoundary_iff.1 h
  refine ⟨_, string_place hascii hmark hs, fun value stop hfound => ?_⟩
  obtain ⟨⟨a, rest⟩, hread, heq⟩ := map_eq_ok_iff.1 (mapError_eq_ok_iff.1 hfound)
  obtain ⟨rfl, rfl⟩ := Prod.mk.inj heq
  exact reaches_of_suffix hs (string_suffix hread)

variable [RegexEngine]

/-- **Parsing stays within the text.** The scans of both parsers end without a breach and give what
the parsers give; what they report stands at a boundary of the text; and the scans for the ends of
labels, names, numbers and strings go from any boundary to a boundary. -/
theorem parsing_stays_within (text : String) :
    Predicate.scan text = .ok (Predicate.parse text) ∧
      Projection.scan text = .ok (Projection.parse text) ∧
      (∀ position problem, Predicate.parse text = .error (.malformed position problem) ∨
        Projection.parse text = .error (.malformed position problem) → Reaches text 0 position) ∧
      ∀ p, isBoundary text p = true →
        (∃ stop, runEnd Predicate.isLabelChar p text p = .ok (.ok stop, p) ∧
          Reaches text p stop) ∧
        (∃ name stop, Projection.scanNameText text p = .ok (.ok name, stop) ∧
          Reaches text p stop) ∧
        (∃ found, numberEnd p text p = .ok (.ok found, p) ∧ ∀ stop ∈ found, Reaches text p stop) ∧
        ∀ quoteMark ∈ ['"', '\''], ∃ found, string quoteMark p text p = .ok (found, p) ∧
          ∀ value stop, found = .ok (value, stop) → Reaches text p stop := by
  refine ⟨Predicate.scan_eq text, Projection.scan_eq text, ?_, fun p hp =>
    ⟨labelEnd_reaches hp, nameText_reaches hp, numberEnd_reaches hp, ?_⟩⟩
  · rintro position problem (h | h)
    · exact reaches_of_boundary (Predicate.isBoundary_of_parse h)
    · exact reaches_of_boundary (Projection.isBoundary_of_parse h)
  · intro quoteMark hquote
    simp only [List.mem_cons, List.not_mem_nil, or_false] at hquote
    rcases hquote with rfl | rfl
    · exact string_reaches (by decide) (by decide) hp
    · exact string_reaches (by decide) (by decide) hp

end DocQuery.Scan

namespace DocQuery.Bookshelf

/-- What follows the name of an author is told behind both bytes of its accented letter, and the
string that holds the name ends there. -/
theorem told_behind_author :
    Projection.parse "by(of:\"née\"!" = .error (.malformed 12 "looking for `,' or `)'") ∧
      Scan.Reaches "by(of:\"née\"!" 0 12 ∧
      ∃ found, Scan.string '"' 6 "by(of:\"née\"!" 6 = .ok (found, 6) ∧
        ∀ value stop, found = .ok (value, stop) → Scan.Reaches "by(of:\"née\"!" 6 stop := by
  have htext : "by(of:\"née\"!".toList =
      ['b', 'y', '(', 'o', 'f', ':', '"', 'n', 'é', 'e', '"', '!'] := by decide
  have hread : Projection.readAll "by(of:\"née\"!".toList = .error ⟨['!'], .paramEnd⟩ := by
    rw [htext]
    rfl
  have hoffset :
      Fault.offset ⟨['!'], Projection.Problem.paramEnd⟩ "by(of:\"née\"!".toList = 12 := by
    rw [htext]
    rfl
  have hparse : Projection.parse "by(of:\"née\"!" =
      .error (.malformed 12 "looking for `,' or `)'") := by
    rw [Projection.parse, if_neg (by decide), hread]
    simp only [Except.mapError, hoffset, Projection.Problem.text]
  obtain ⟨-, -, htold, hends⟩ := Scan.parsing_stays_within "by(of:\"née\"!"
  obtain ⟨-, -, -, hstring⟩ := hends 6 (by decide)
  exact ⟨hparse, htold _ _ (.inr hparse), hstring '"' List.mem_cons_self⟩

end DocQuery.Bookshelf
