import FilterQuery.Pattern.Read
import FilterQuery.Pattern.Search

/-!
# Engines for patterns

What a resolver needs of regular expressions: whether a text is a pattern, and whether the pattern
occurs in the name of a field. An application may bring any engine that answers this. The engine
that runs here, `PatternEngine.standard`, reads patterns with `Pattern.ofText?`, which knows most of
the language but not all of it.
-/

namespace FilterQuery

/-- A text that is no pattern. -/
structure RefusedPattern where
  text : String
  /-- What is wrong with it, in the words of the engine. -/
  reason : String
  deriving DecidableEq

/-- A refused pattern is known by its text. -/
instance : Coe RefusedPattern String := ⟨RefusedPattern.text⟩

/-- An engine for patterns. -/
structure PatternEngine where
  /-- Reads a pattern: the test whether it occurs in a text, or what is wrong with it. -/
  compile : String → Except String (String → Bool)

namespace PatternEngine

/-- What is said of a pattern that cannot be read. Where it breaks off is not worked out. -/
def unreadable : String := "regex parse error"

/-- What is said of a pattern that is too large. -/
def tooLarge : String := "Compiled regex exceeds size limit of 10485760 bytes."

/-- The engine for the patterns that can be read here. -/
def standard : PatternEngine where
  compile source :=
    match Pattern.ofText? source with
    | some p => .ok p.occursIn
    | none => .error (if (Pattern.read? source).isSome then tooLarge else unreadable)

end PatternEngine

end FilterQuery
