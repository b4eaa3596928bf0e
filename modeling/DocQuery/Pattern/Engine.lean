import DocQuery.Pattern.Basic
import DocQuery.Pattern.Parser

/-!
# The engine of the program

The engine that the program runs with reads a text by `Regex.parse` and looks for a match by
`Regex.isMatch`.
-/

set_option autoImplicit false

namespace DocQuery

instance : RegexEngine where
  Compiled := Regex
  compile source := (Regex.parse source.toList).mapError fun problem => ⟨problem.text⟩
  isMatch regex text := regex.isMatch text.toList

end DocQuery
