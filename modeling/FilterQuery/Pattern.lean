import FilterQuery.Unicode.CaseFold
import FilterQuery.Unicode.Class

/-!
# Patterns

The patterns to which a rule for fields may be bound: regular expressions with assertions and with
groups, which keep what a part of the pattern has matched. There is no order among the choices of a
pattern, since it is only asked whether it matches, or what a group keeps that is the same in every
match.
-/

namespace FilterQuery

/-- A set of characters. -/
inductive CharSet where
  | none
  /-- All characters from the first to the last. -/
  | range (first last : Char)
  | digit
  | space
  | word
  /-- All characters of which some case is in the set. -/
  | caseless (set : CharSet)
  | negate (set : CharSet)
  | union (a b : CharSet)
  | intersection (a b : CharSet)
  | difference (a b : CharSet)
  deriving DecidableEq

namespace CharSet

/-- The set of one character. -/
def singleton (c : Char) : CharSet := range c c

/-- All characters. -/
def all : CharSet := negate none

/-- The characters that are in one of the sets but not in both. -/
def symmetricDifference (a b : CharSet) : CharSet :=
  union (difference a b) (difference b a)

/-- Whether a character is in the set. -/
def contains : CharSet → Char → Bool
  | none, _ => false
  | range first last, c => first ≤ c && c ≤ last
  | digit, c => Unicode.isDigit c
  | space, c => Unicode.isWhiteSpace c
  | word, c => Unicode.isWord c
  | caseless set, c => (Unicode.caseVariants c).any fun d => set.contains d
  | negate set, c => !set.contains c
  | union a b, c => a.contains c || b.contains c
  | intersection a b, c => a.contains c && b.contains c
  | difference a b, c => a.contains c && !b.contains c

end CharSet

/-- A condition on a place in a text. -/
inductive Assertion where
  | textStart
  | textEnd
  /-- After a line break. With `crlf`, the two characters of one line break are not parted. -/
  | lineStart (crlf : Bool)
  /-- Before a line break. -/
  | lineEnd (crlf : Bool)
  | wordBoundary
  | notWordBoundary
  | wordStart
  | wordEnd
  /-- No word ends here. -/
  | notAfterWord
  /-- No word begins here. -/
  | notBeforeWord
  deriving DecidableEq

/-- A regular expression. -/
inductive Pattern where
  /-- The empty text. -/
  | empty
  /-- One character of a set. -/
  | set (s : CharSet)
  /-- The empty text where a condition holds. -/
  | assert (a : Assertion)
  | sequence (first second : Pattern)
  | choice (first second : Pattern)
  /-- A pattern at least `least` times and at most `most` times, or any number more. -/
  | repetition (p : Pattern) (least : Nat) (most : Option Nat)
  /-- A pattern whose last match is kept under a number. -/
  | group (number : Nat) (p : Pattern)
  deriving DecidableEq

namespace Pattern

/-- Patterns one after the other. -/
def sequenceOf : List Pattern → Pattern
  | [] => empty
  | [p] => p
  | p :: ps => sequence p (sequenceOf ps)

/-- One of several patterns. -/
def choiceOf : List Pattern → Pattern
  | [] => empty
  | [p] => p
  | p :: ps => choice p (choiceOf ps)

end Pattern

end FilterQuery
