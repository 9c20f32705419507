import FilterQuery.Parse

/-!
# The grammar of queries

The grammar is stated for the lexemes of a query without its blanks, together with the tree that
each derivation stands for:

    operation := term (GATE term)*
    term      := '(' operation ')' | FIELD COMPARATOR VALUE

`Derives n goal xs t` says that the lexemes `xs` derive from `goal` with the tree `t`, and that the
brackets in them are nested at most `n` deep. An operation is a first term and the links after it;
its tree is the links folded onto the first term in written order, whatever their gates are, and a
pair of brackets leaves no node.
-/

namespace FilterQuery

/-- The lexeme of a token that is neither a blank nor the end of the text. -/
def Token.significant? : Token → Option Lexeme
  | .lexeme .blank => none
  | .lexeme x => some x
  | .finish => none

/-- The tokens of a query without the blanks and without the end. -/
def significant (query : String) : List Lexeme :=
  (tokenize query).filterMap Token.significant?

/-- A gate with the term after it. -/
structure Link where
  gate : Gate
  /-- What the term is written with. -/
  lexemes : List Lexeme
  tree : Tree

/-- The lexemes of a link, the gate first. -/
def Link.written (l : Link) : List Lexeme := .gate l.gate :: l.lexemes

/-- The tree of an operation and one more link. -/
def Tree.extend (left : Tree) (l : Link) : Tree := .join left l.gate l.tree

/-- What lexemes stand for, their brackets nested at most as deep as the number says. -/
inductive Derives : Nat → Goal → List Lexeme → Tree → Prop where
  /-- `FIELD COMPARATOR VALUE`. A field has a name, a value may be empty. -/
  | comparison {n : Nat} {field value : String} {c : Comparator} {q q' : Bool} (h : field ≠ "") :
    Derives n .term [.text field q, .comparator c, .text value q'] (.comparison ⟨field, c, value⟩)
  /-- `'(' operation ')'`. -/
  | group {n : Nat} {xs : List Lexeme} {t : Tree} : Derives n .operation xs t →
    Derives (n + 1) .term (.openBracket :: (xs ++ [.closeBracket])) t
  /-- `term (GATE term)*`. -/
  | row {n : Nat} {xs : List Lexeme} {t : Tree} {links : List Link} : Derives n .term xs t →
    (∀ l ∈ links, Derives n .term l.lexemes l.tree) →
    Derives n .operation (xs ++ links.flatMap Link.written) (links.foldl Tree.extend t)

namespace Derives

variable {n : Nat} {xs ys : List Lexeme} {t u : Tree}

/-- A term by itself is an operation. -/
theorem single (h : Derives n .term xs t) : Derives n .operation xs t := by
  have hrow : Derives n .operation (xs ++ [].flatMap Link.written) ([].foldl Tree.extend t) :=
    h.row (by simp)
  simpa using hrow

/-- A gate and a term continue an operation. -/
theorem link (h : Derives n .operation xs t) (g : Gate) (h' : Derives n .term ys u) :
    Derives n .operation (xs ++ .gate g :: ys) (.join t g u) := by
  cases h with
  | @row _ xs t links first rest =>
    have hlinks : ∀ l ∈ links ++ [⟨g, ys, u⟩], Derives n .term l.lexemes l.tree := by
      intro l hl
      rcases List.mem_append.mp hl with hl | hl
      · exact rest l hl
      · rw [List.mem_singleton.mp hl]
        exact h'
    simpa [Link.written, Tree.extend] using first.row hlinks

end Derives

/-! ### Blanks -/

theorem significant_eq (query : String) :
    significant query = (lexemes query.toList).filter (· ≠ .blank) := by
  have filterMap_lexeme (xs : List Lexeme) :
      (xs.map Token.lexeme).filterMap Token.significant? = xs.filter (· ≠ .blank) := by
    induction xs with
    | nil => rfl
    | cons x xs ih => cases x <;> simp [Token.significant?, List.filterMap_cons, ih]
  rw [significant, tokenize, List.filterMap_append, filterMap_lexeme]
  simp [Token.significant?]

end FilterQuery
