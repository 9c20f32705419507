/-!
# Identifiers

Names that may be written into a statement as they are: `[A-Za-z_][A-Za-z0-9_]*`, any number of them
joined by dots. Nothing else ever gets into a statement, so a name can close no quote, end no clause
and be no placeholder.
-/

namespace FilterQuery.Sql

/-- The characters that start a name. -/
def isNameStart (c : Char) : Bool :=
  c.isAlpha || c = '_'

/-- The characters that continue a name. -/
def isNameChar (c : Char) : Bool :=
  c.isAlphanum || c = '_'

/-- Whether a text ends an identifier that has been read so far. At the start of a name, after a dot
too, the text must begin with one. -/
def completesIdentifier (atStart : Bool) : List Char → Bool
  | [] => !atStart
  | c :: cs =>
    if c = '.' then !atStart && completesIdentifier true cs
    else (if atStart then isNameStart c else isNameChar c) && completesIdentifier false cs

/-- Whether a text is an identifier. -/
def isIdentifier (text : String) : Bool :=
  completesIdentifier true text.toList

end FilterQuery.Sql
