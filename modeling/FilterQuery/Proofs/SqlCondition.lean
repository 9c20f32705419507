import FilterQuery.Proofs.Identifier
import FilterQuery.Sql.Fragment

/-!
# Conditions of SQL

How a database reads the text of a condition, as far as fragments use the language. The text is cut
into tokens, each `?` taking the next of the bound values (`tokens?`), and the tokens are read by a
grammar in which `AND` binds tighter than `OR` and both bind to the left:

    disjunction := conjunction (OR conjunction)*
    conjunction := primary (AND primary)*
    primary     := '(' disjunction ')' | NAME CMP ? | NAME LIKE ? | NAME IS NULL
                 | NAME IN '(' SELECT NAME FROM NAME WHERE disjunction ')'

The grammar is unambiguous (`Parses.unique`), so a fragment has at most one reading.
-/

namespace FilterQuery

/-- The truth of two conditions that are joined by a gate. -/
def Gate.combine : Gate → Bool → Bool → Bool
  | and, a, b => a && b
  | or, a, b => a || b

namespace Sql

/-! ### Tokens -/

/-- The words that are no names. Databases reserve more, which conditions have no use for. -/
def keywords : List String :=
  ["AND", "OR", "LIKE", "IN", "IS", "NULL", "SELECT", "FROM", "WHERE"]

/-- A word in the case in which keywords are compared. -/
def upperCase (word : List Char) : String := String.ofList (word.map Char.toUpper)

/-- Whether a name is a keyword, in any case. -/
def isKeyword (name : String) : Bool := upperCase name.toList ∈ keywords

/-- A token of a condition. -/
inductive Token where
  | openBracket
  | closeBracket
  | operator (c : Comparator)
  /-- A placeholder, with the value that is bound to it. -/
  | value (v : String)
  /-- A keyword, in upper case. -/
  | keyword (word : String)
  /-- A name, its parts joined by dots. -/
  | name (text : String)
  /-- A character that conditions have no use for. -/
  | other (c : Char)
  deriving DecidableEq

/-- The token of a word. -/
def Token.ofWord (word : List Char) : Token :=
  if upperCase word ∈ keywords then .keyword (upperCase word) else .name (String.ofList word)

/-- Takes one token off the text `c :: cs`, the longest that there is. -/
def Token.scan (c : Char) (cs : List Char) : Token × List Char :=
  if c = '(' then (.openBracket, cs)
  else if c = ')' then (.closeBracket, cs)
  else if c = '=' then (.operator .equal, cs)
  else if c = '!' then
    match cs with
    | '=' :: rest => (.operator .notEqual, rest)
    | rest => (.other '!', rest)
  else if c = '<' then
    match cs with
    | '=' :: rest => (.operator .lessOrEqual, rest)
    | '>' :: rest => (.operator .notEqual, rest)
    | rest => (.operator .less, rest)
  else if c = '>' then
    match cs with
    | '=' :: rest => (.operator .greaterOrEqual, rest)
    | rest => (.operator .greater, rest)
  else if isNameStart c then (.ofWord (c :: cs.takeWhile isIdentifierChar), cs.dropWhile isIdentifierChar)
  else (.other c, cs)

/-- Every token takes at least the first character. -/
theorem Token.length_scan_le (c : Char) (cs : List Char) : (scan c cs).2.length ≤ cs.length := by
  unfold scan
  iterate 3
    split
    · exact Nat.le_refl _
  iterate 3
    split
    · split <;> simp
  split
  · exact (List.dropWhile_sublist _).length_le
  · exact Nat.le_refl _

/-- The tokens of a text. Each placeholder takes the next value, and there are as many of both. -/
def tokens? (values : List String) : List Char → Option (List Token)
  | [] => if values.isEmpty then some [] else none
  | c :: cs =>
    if c.isWhitespace then tokens? values cs
    else if c = '?' then
      match values with
      | [] => none
      | v :: values => (tokens? values cs).map (.value v :: ·)
    else (tokens? values (Token.scan c cs).2).map ((Token.scan c cs).1 :: ·)
  termination_by cs => cs.length
  decreasing_by
    · simp
    · simp
    · have := Token.length_scan_le c cs
      simp only [List.length_cons]
      omega

/-! ### Grammar -/

/-- What a condition says about a row. -/
inductive Condition where
  /-- The column compares with the value as the comparator says. -/
  | compare (column : String) (comparator : Comparator) (value : String)
  | like (column pattern : String)
  | isNull (column : String)
  /-- The owner is the foreign key of a row of the table of which the condition holds. -/
  | within (owner foreignKey table : String) (condition : Condition)
  | join (left : Condition) (gate : Gate) (right : Condition)
  deriving DecidableEq

/-- The keyword of a gate. -/
def Token.ofGate (g : Gate) : Token := .keyword g.symbol

/-- The parts of the grammar. A row is a conjunction or a disjunction. -/
inductive Level where
  | primary
  | row (g : Gate)
  deriving DecidableEq

/-- What the operands of a gate are: `AND` binds tighter than `OR`. -/
def Level.operand : Gate → Level
  | .and => .primary
  | .or => .row .and

/-- An operand after a gate. -/
structure Operand where
  tokens : List Token
  condition : Condition

/-- The tokens of a gate and its operand. -/
def Operand.written (g : Gate) (o : Operand) : List Token := .ofGate g :: o.tokens

/-- A condition and one more operand. -/
def Condition.extend (g : Gate) (left : Condition) (o : Operand) : Condition :=
  .join left g o.condition

/-- What tokens are read as. -/
inductive Parses : Level → List Token → Condition → Prop where
  /-- `NAME CMP ?`. -/
  | compare {column value : String} {c : Comparator} :
    Parses .primary [.name column, .operator c, .value value] (.compare column c value)
  /-- `NAME LIKE ?`. -/
  | like {column pattern : String} :
    Parses .primary [.name column, .keyword "LIKE", .value pattern] (.like column pattern)
  /-- `NAME IS NULL`. -/
  | isNull {column : String} :
    Parses .primary [.name column, .keyword "IS", .keyword "NULL"] (.isNull column)
  /-- `NAME IN '(' SELECT NAME FROM NAME WHERE disjunction ')'`. -/
  | within {owner foreignKey table : String} {ts : List Token} {e : Condition} :
    Parses (.row .or) ts e →
    Parses .primary (.name owner :: .keyword "IN" :: .openBracket :: .keyword "SELECT" ::
      .name foreignKey :: .keyword "FROM" :: .name table :: .keyword "WHERE" ::
      (ts ++ [.closeBracket])) (.within owner foreignKey table e)
  /-- `'(' disjunction ')'`. -/
  | brackets {ts : List Token} {e : Condition} : Parses (.row .or) ts e →
    Parses .primary (.openBracket :: (ts ++ [.closeBracket])) e
  /-- `operand (GATE operand)*`. -/
  | row {g : Gate} {ts : List Token} {e : Condition} {rest : List Operand} :
    Parses (.operand g) ts e → (∀ o ∈ rest, Parses (.operand g) o.tokens o.condition) →
    Parses (.row g) (ts ++ rest.flatMap (Operand.written g)) (rest.foldl (Condition.extend g) e)

namespace Parses

variable {ts us : List Token} {a b : Condition}

/-- An operand by itself is a row. -/
theorem single {g : Gate} (h : Parses (.operand g) ts a) : Parses (.row g) ts a := by
  have hrow : Parses (.row g) (ts ++ [].flatMap (Operand.written g))
      ([].foldl (Condition.extend g) a) := h.row (by simp)
  simpa using hrow

/-- A primary by itself is a disjunction. -/
theorem disjunction (h : Parses .primary ts a) : Parses (.row .or) ts a :=
  single (g := .or) (single (g := .and) h)

/-- Two primaries joined by a gate are a disjunction. -/
theorem join (h : Parses .primary ts a) (g : Gate) (h' : Parses .primary us b) :
    Parses (.row .or) (ts ++ .ofGate g :: us) (.join a g b) := by
  have hrow (hop : Parses (.operand g) ts a) (hop' : Parses (.operand g) us b) :
      Parses (.row g) (ts ++ .ofGate g :: us) (.join a g b) := by
    have hrest : ∀ o ∈ [(⟨us, b⟩ : Operand)], Parses (.operand g) o.tokens o.condition := by
      simpa using hop'
    simpa [Operand.written, Condition.extend] using hop.row hrest
  cases g with
  | and => exact single (g := .or) (hrow h h')
  | or => exact hrow (single (g := .and) h) (single (g := .and) h')

end Parses

/-! ### Unambiguity -/

/-- The gates that go on with a row. -/
def Level.gates : Level → List Gate
  | .primary => []
  | .row .and => [.and]
  | .row .or => [.and, .or]

/-- What follows does not go on with what has been read at the level. -/
def Level.Ends (level : Level) (rest : List Token) : Prop :=
  ∀ g ∈ level.gates, rest.head? ≠ some (.ofGate g)

theorem Token.ofGate_inj {g g' : Gate} (h : ofGate g = ofGate g') : g = g' := by
  revert h
  cases g <;> cases g' <;> decide

theorem Level.ends_closeBracket (level : Level) (rest : List Token) :
    level.Ends (.closeBracket :: rest) := by
  intro g _
  simp [Token.ofGate]

/-- An operand ends before a gate of its row, and where the row ends. -/
theorem Level.ends_operand {g : Gate} (rest : List Operand) {r : List Token}
    (h : (Level.row g).Ends r) : (Level.operand g).Ends (rest.flatMap (Operand.written g) ++ r) := by
  cases rest with
  | nil =>
    intro g' hg
    refine h g' ?_
    cases g with
    | and => simp [operand, gates] at hg
    | or => exact List.mem_append_left [Gate.or] hg
  | cons o rest =>
    intro g' hg he
    have hgate : g = g' := Token.ofGate_inj (by simpa [Operand.written] using he)
    subst hgate
    cases g <;> simp [operand, gates] at hg

namespace Parses

/-- A reading of the beginning `ts` of a text as `a` is the only one at its level, among those that
cannot be gone on with. -/
def Determined (level : Level) (ts : List Token) (a : Condition) : Prop :=
  ∀ {us r s : List Token} {b : Condition}, Parses level us b → ts ++ r = us ++ s →
    level.Ends r → level.Ends s → ts = us ∧ a = b

/-- If the operands of a row are determined, so is what follows its first operand. -/
theorem rest_unique {g : Gate} {rest rest' : List Operand} {r s : List Token}
    (hd : ∀ o ∈ rest, Determined (.operand g) o.tokens o.condition)
    (h' : ∀ o ∈ rest', Parses (.operand g) o.tokens o.condition)
    (he : rest.flatMap (Operand.written g) ++ r = rest'.flatMap (Operand.written g) ++ s)
    (hr : (Level.row g).Ends r) (hs : (Level.row g).Ends s) : rest = rest' := by
  have hg : g ∈ (Level.row g).gates := by cases g <;> decide
  induction rest generalizing rest' with
  | nil =>
    cases rest' with
    | nil => rfl
    | cons o rest' =>
      refine absurd ?_ (hr g hg)
      simp only [List.flatMap_nil, List.nil_append] at he
      simp [he, Operand.written]
  | cons o rest ih =>
    cases rest' with
    | nil =>
      refine absurd ?_ (hs g hg)
      simp only [List.flatMap_nil, List.nil_append] at he
      simp [← he, Operand.written]
    | cons o' rest' =>
      simp only [List.flatMap_cons, Operand.written, List.cons_append, List.append_assoc,
        List.cons.injEq, true_and] at he
      obtain ⟨htokens, hcondition⟩ := hd o (List.mem_cons_self ..) (h' o' (List.mem_cons_self ..)) he
        (Level.ends_operand rest hr) (Level.ends_operand rest' hs)
      rw [htokens] at he
      have hrest := ih (fun p hp => hd p (List.mem_cons_of_mem _ hp))
        (fun p hp => h' p (List.mem_cons_of_mem _ hp)) (List.append_cancel_left he)
      rw [hrest, show o = o' from by cases o; cases o'; simp_all]

/-- **Every reading is determined from the left.** -/
theorem determined {level : Level} {ts : List Token} {a : Condition} (h : Parses level ts a) :
    Determined level ts a := by
  induction h with
  | compare | like | isNull =>
    intro us r s b h' he _ _
    cases h' <;> simp_all
  | within _ ih =>
    intro us r s b h' he _ _
    cases h' with
    | within h' =>
      simp only [List.cons_append, List.append_assoc, List.cons.injEq, Token.name.injEq,
        true_and] at he
      obtain ⟨rfl, rfl, rfl, he⟩ := he
      obtain ⟨rfl, rfl⟩ := ih h' he (Level.ends_closeBracket _ _) (Level.ends_closeBracket _ _)
      exact ⟨rfl, rfl⟩
    | compare | like | isNull | brackets => simp at he
  | brackets _ ih =>
    intro us r s b h' he _ _
    cases h' with
    | brackets h' =>
      simp only [List.cons_append, List.append_assoc, List.cons.injEq, true_and] at he
      obtain ⟨rfl, rfl⟩ := ih h' he (Level.ends_closeBracket _ _) (Level.ends_closeBracket _ _)
      exact ⟨rfl, rfl⟩
    | compare | like | isNull | within => simp at he
  | @row g ts a rest _ _ ih ihrest =>
    intro us r s b h' he hr hs
    cases h' with
    | @row _ us b rest' hfirst hrest' =>
      rw [List.append_assoc, List.append_assoc] at he
      obtain ⟨rfl, rfl⟩ := ih hfirst he (Level.ends_operand rest hr) (Level.ends_operand rest' hs)
      rw [rest_unique ihrest hrest' (List.append_cancel_left he) hr hs]
      exact ⟨rfl, rfl⟩

/-- **The grammar is unambiguous.** -/
theorem unique {level : Level} {ts : List Token} {a b : Condition} (h : Parses level ts a)
    (h' : Parses level ts b) : a = b := by
  have hnil : level.Ends [] := fun g _ => by simp
  exact (h.determined h' rfl hnil hnil).2

end Parses

/-! ### Fragments as conditions -/

/-- The fragment is read as the condition, its values bound to its placeholders in order. -/
def Fragment.Reads (f : Fragment) (e : Condition) : Prop :=
  ∃ ts, tokens? f.values f.raw.toList = some ts ∧ Parses (.row .or) ts e

/-- A fragment has at most one reading. -/
theorem Fragment.Reads.unique {f : Fragment} {a b : Condition} (h : f.Reads a) (h' : f.Reads b) :
    a = b := by
  obtain ⟨ts, hts, ha⟩ := h
  obtain ⟨us, hus, hb⟩ := h'
  obtain rfl : ts = us := Option.some.inj (hts.symm.trans hus)
  exact ha.unique hb

/-- The truth of a condition, when that of its atoms is given. -/
def Condition.holds (truth : Condition → Bool) : Condition → Bool
  | join left g right => g.combine (left.holds truth) (right.holds truth)
  | atom => truth atom

end Sql

end FilterQuery
