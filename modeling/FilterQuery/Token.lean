import FilterQuery.Comparator

/-!
# Tokens

A query is read as a list of lexemes. A `Lexeme` stands for a non-empty piece of the query's text;
a `Token` is a lexeme or the end of the text. `Kind` is what is left of a token without its literal.
-/

namespace FilterQuery

/-- The class of a token, without its literal. -/
inductive Kind where
  /-- A `!` that starts no `!=`. -/
  | other
  /-- The end of the text. -/
  | finish
  | blank
  | text
  | openBracket
  | closeBracket
  | comparator (c : Comparator)
  | gate (g : Gate)
  deriving DecidableEq

/-- A piece of a query's text. -/
inductive Lexeme where
  | comparator (c : Comparator)
  | gate (g : Gate)
  | openBracket
  | closeBracket
  /-- A `!` that starts no `!=`. -/
  | bang
  /-- A run of blanks. -/
  | blank
  /-- A bare word, or the text between two quotes. -/
  | text (literal : String) (quoted : Bool)
  deriving DecidableEq

/-- A lexeme, or the end of the text. -/
inductive Token where
  | lexeme (x : Lexeme)
  | finish
  deriving DecidableEq

/-! ### Kinds -/

/-- All kinds, in the order in which they are listed to users. -/
def Kind.all : List Kind :=
  [.other, .finish, .blank, .text, .openBracket, .closeBracket, .comparator .greater,
    .comparator .greaterOrEqual, .comparator .less, .comparator .lessOrEqual, .comparator .equal,
    .comparator .notEqual, .comparator .contains, .gate .and, .gate .or]

/-- The kind as it is written in messages and tables. -/
def Kind.label : Kind → String
  | .other => "OTHER"
  | .finish => "EOF"
  | .blank => "WS"
  | .text => "STRING"
  | .openBracket => "("
  | .closeBracket => ")"
  | .comparator .greater => "GREATER THAN"
  | .comparator .greaterOrEqual => "GREATER THAN OR EQUAL"
  | .comparator .less => "LESS THAN"
  | .comparator .lessOrEqual => "LESS THAN OR EQUAL"
  | .comparator .equal => "EQUAL"
  | .comparator .notEqual => "NOT EQUAL"
  | .comparator .contains => "%"
  | .gate g => g.symbol

/-- The name of the kind. -/
def Kind.name : Kind → String
  | .other => "Other"
  | .finish => "Eof"
  | .blank => "Whitespace"
  | .text => "Text"
  | .openBracket => "OpenBracket"
  | .closeBracket => "ClosedBracket"
  | .comparator .contains => "Percent"
  | .comparator c => c.name
  | .gate g => g.name

/-- The comparator that tokens of this kind stand for. -/
def Kind.comparator? : Kind → Option Comparator
  | .comparator c => some c
  | _ => none

/-- The gate that tokens of this kind stand for. -/
def Kind.gate? : Kind → Option Gate
  | .gate g => some g
  | _ => none

/-! ### Parts of a token -/

def Lexeme.kind : Lexeme → Kind
  | .comparator c => .comparator c
  | .gate g => .gate g
  | .openBracket => .openBracket
  | .closeBracket => .closeBracket
  | .bang => .other
  | .blank => .blank
  | .text _ _ => .text

/-- The canonical spelling: a gate is in upper case, a run of blanks is empty, and a quoted text
has lost its quotes. -/
def Lexeme.literal : Lexeme → String
  | .comparator c => c.symbol
  | .gate g => g.symbol
  | .openBracket => "("
  | .closeBracket => ")"
  | .bang => "!"
  | .blank => ""
  | .text literal _ => literal

/-- Whether the literal was written between quotes. -/
def Lexeme.quoted : Lexeme → Bool
  | .text _ quoted => quoted
  | _ => false

def Token.kind : Token → Kind
  | .lexeme x => x.kind
  | .finish => .finish

def Token.literal : Token → String
  | .lexeme x => x.literal
  | .finish => ""

def Token.quoted : Token → Bool
  | .lexeme x => x.quoted
  | .finish => false

end FilterQuery
