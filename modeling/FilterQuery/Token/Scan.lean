import FilterQuery.Token

/-!
# Reading lexemes from text

`Lexeme.scan` takes the longest lexeme off the front of a non-empty text, and `lexemes` repeats it
to the end. A lexeme always takes at least one character (`Lexeme.length_scan_le`), which is why
reading ends.
-/

namespace FilterQuery

/-- The blanks that separate words. No other white space does. -/
def isBlank (c : Char) : Bool :=
  c = ' ' || c = '\t' || c = '\n' || c = '\r'

/-- The characters that end a bare word and mean something by themselves. -/
def isSpecial (c : Char) : Bool :=
  c = '=' || c = '>' || c = '!' || c = '<' || c = '(' || c = ')' || c = '%'

/-- The characters of which a bare word goes on. -/
def isWordChar (c : Char) : Bool :=
  !(isBlank c || isSpecial c)

/-- The gate that a bare word spells, in any ASCII case. -/
def Gate.ofWord? (word : List Char) : Option Gate :=
  if word.map Char.toLower = ['a', 'n', 'd'] then some .and
  else if word.map Char.toLower = ['o', 'r'] then some .or
  else none

/-- The lexeme of a bare word: a gate if it spells one, a text otherwise. -/
def Lexeme.ofWord (word : List Char) : Lexeme :=
  match Gate.ofWord? word with
  | some g => .gate g
  | none => .text (String.ofList word) false

/-- An ordering comparator, which a following `=` makes inclusive. -/
def Lexeme.ordering (strict inclusive : Comparator) : List Char → Lexeme × List Char
  | '=' :: rest => (.comparator inclusive, rest)
  | rest => (.comparator strict, rest)

/-- Takes one lexeme off the text `c :: cs` and returns the rest. A quoted text without its closing
quote takes everything that is left. -/
def Lexeme.scan (c : Char) (cs : List Char) : Lexeme × List Char :=
  if c = '>' then ordering .greater .greaterOrEqual cs
  else if c = '<' then ordering .less .lessOrEqual cs
  else if c = '!' then
    match cs with
    | '=' :: rest => (.comparator .notEqual, rest)
    | rest => (.bang, rest)
  else if c = '=' then (.comparator .equal, cs)
  else if c = '%' then (.comparator .contains, cs)
  else if c = '(' then (.openBracket, cs)
  else if c = ')' then (.closeBracket, cs)
  else if isBlank c then (.blank, cs.dropWhile isBlank)
  else if c = '"' then
    (.text (String.ofList (cs.takeWhile (· != '"'))) true, (cs.dropWhile (· != '"')).drop 1)
  else (.ofWord (c :: cs.takeWhile isWordChar), cs.dropWhile isWordChar)

theorem Lexeme.ordering_suffix (strict inclusive : Comparator) (cs : List Char) :
    (ordering strict inclusive cs).2 <:+ cs := by
  unfold ordering
  split
  · exact List.suffix_cons _ _
  · exact List.suffix_refl _

/-- What is left is the end of the text. -/
theorem Lexeme.scan_suffix (c : Char) (cs : List Char) : (scan c cs).2 <:+ cs := by
  unfold scan
  split
  · exact ordering_suffix ..
  split
  · exact ordering_suffix ..
  split
  · split
    · exact List.suffix_cons _ _
    · exact List.suffix_refl _
  iterate 4
    split
    · exact List.suffix_refl _
  split
  · exact List.dropWhile_suffix _
  split
  · exact (List.drop_suffix _ _).trans (List.dropWhile_suffix _)
  · exact List.dropWhile_suffix _

/-- Every lexeme takes at least the first character. -/
theorem Lexeme.length_scan_le (c : Char) (cs : List Char) :
    (scan c cs).2.length ≤ cs.length :=
  (scan_suffix c cs).length_le

/-- All lexemes of a text, in order. -/
def lexemes : List Char → List Lexeme
  | [] => []
  | c :: cs => (Lexeme.scan c cs).1 :: lexemes (Lexeme.scan c cs).2
  termination_by cs => cs.length
  decreasing_by
    have := Lexeme.length_scan_le c cs
    simp only [List.length_cons]
    omega

/-- All tokens of a query: its lexemes, then the end of the text. -/
def tokenize (query : String) : List Token :=
  (lexemes query.toList).map .lexeme ++ [.finish]

/-- A reading position in a query's text. -/
structure Lexer where
  /-- The text that is still to be read. -/
  rest : List Char
  deriving DecidableEq

/-- A lexer at the start of a query. -/
def Lexer.ofString (query : String) : Lexer := ⟨query.toList⟩

/-- Reads one token. At the end of the text it is the end token, however often it is asked. -/
def Lexer.next : Lexer → Token × Lexer
  | ⟨[]⟩ => (.finish, ⟨[]⟩)
  | ⟨c :: cs⟩ => (.lexeme (Lexeme.scan c cs).1, ⟨(Lexeme.scan c cs).2⟩)

/-- Reads the next lexeme, if there is one. -/
def Lexer.nextLexeme? (lexer : Lexer) : Option Lexeme × Lexer :=
  match lexer.next with
  | (.lexeme x, rest) => (some x, rest)
  | (.finish, rest) => (none, rest)

/-- Reads all lexemes that are left. -/
def Lexer.drain (lexer : Lexer) : List Lexeme × Lexer :=
  (lexemes lexer.rest, ⟨[]⟩)

end FilterQuery
