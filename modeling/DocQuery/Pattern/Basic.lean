/-!
# Patterns

Regular expressions are the work of an engine, of which nothing is known but what it offers.

* `RegexEngine` — what an engine makes of a text, and whether the result has a match in another.
* `Pattern` — a text that the engine compiles, with the result. The text determines the result, so
  patterns are equal when their texts are.

Main statement: `Pattern.ext_source`.
-/

set_option autoImplicit false

namespace DocQuery

/-- Why a text is no regular expression, in the engine's words. -/
structure Pattern.Problem where
  text : String
  deriving DecidableEq, Repr

/-- An engine for regular expressions. -/
class RegexEngine where
  Compiled : Type
  compile : String → Except Pattern.Problem Compiled
  /-- Whether a text has a match anywhere. -/
  isMatch : Compiled → String → Bool

variable [RegexEngine]

/-- A text that the engine compiles, and what it makes of it. -/
structure Pattern where
  source : String
  compiled : RegexEngine.Compiled
  compiles : RegexEngine.compile source = .ok compiled

namespace Pattern

/-- The pattern of a text, or what is wrong with it. -/
def ofSource (source : String) : Except Problem Pattern :=
  match h : RegexEngine.compile source with
  | .ok compiled => .ok ⟨source, compiled, h⟩
  | .error problem => .error problem

theorem ext_source {p q : Pattern} (h : p.source = q.source) : p = q := by
  obtain ⟨s, c, hc⟩ := p
  obtain ⟨t, d, hd⟩ := q
  subst h
  have : c = d := Except.ok.inj (hc.symm.trans hd)
  subst this
  rfl

instance : DecidableEq Pattern := fun p q =>
  if h : p.source = q.source then .isTrue (ext_source h)
  else .isFalse fun e => h (congrArg source e)

/-- Whether a text has a match anywhere. -/
def isMatch (p : Pattern) (text : String) : Bool := RegexEngine.isMatch p.compiled text

theorem ofSource_source (p : Pattern) : ofSource p.source = .ok p := by
  unfold ofSource
  split
  · rename_i compiled h
    exact congrArg _ (ext_source rfl)
  · rename_i problem h
    rw [p.compiles] at h
    exact absurd h (by simp)

end Pattern

end DocQuery
