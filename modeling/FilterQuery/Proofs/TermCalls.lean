import FilterQuery.Proofs.ComparisonBudget

/-!
# Calls for one term

A call for a term reads the first term of the query and leaves what is behind it
(`Parser.term_reads_first`). That a term is read whatever follows is `Derives.view_run_term`. The
other direction is an invariant of the machine (`Machine.WithinTerm`), which tells where the call
ends: at the bracket that closes the term, or at the lexeme behind a bare comparison. Of the lexemes
that are left only the blanks are then in question, and there is no choice in them either, since a
term does not end with a blank.
-/

namespace FilterQuery

open Machine

/-! ### Terms -/

/-- The lexemes are those of a term with the tree `t`, within the limits. There may be blanks
between them, and none at the end. -/
structure SpellsTerm (read : List Lexeme) (t : Tree) : Prop where
  derives : Derives nestingLimit .term (read.filter (· ≠ .blank)) t
  count : t.count ≤ comparisonLimit
  last : read.getLast? ≠ some .blank

/-- What is left behind the term `read`. A blank that follows is dropped, but only behind a bare
comparison, which is a term without brackets. -/
def leftBehind (read : List Lexeme) : List Lexeme → List Lexeme
  | .blank :: rest => if .openBracket ∈ read then .blank :: rest else rest
  | rest => rest

theorem leftBehind_of_mem {read : List Lexeme} (h : .openBracket ∈ read) (rest : List Lexeme) :
    leftBehind read rest = rest := by
  unfold leftBehind
  split
  · rw [if_pos h]
  · rfl

theorem leftBehind_of_not_mem {read : List Lexeme} (h : .openBracket ∉ read) (x : Lexeme)
    (rest : List Lexeme) :
    leftBehind read (x :: rest) = (if x ≠ .blank then some x else none).toList ++ rest := by
  cases x <;> simp [leftBehind, h]

@[simp] theorem plain_leftBehind (read rest : List Lexeme) :
    plain (leftBehind read rest) = plain rest := by
  unfold leftBehind
  split
  · split <;> simp
  · rfl

/-- Two terms that a text begins with are one, if what is behind them is the same but for blanks. -/
theorem SpellsTerm.eq_of_plain {read read' rest rest' : List Lexeme} {t t' : Tree}
    (h : SpellsTerm read t) (h' : SpellsTerm read' t') (heq : read ++ rest = read' ++ rest')
    (hplain : plain rest = plain rest') : read = read' ∧ rest = rest' := by
  -- what one of the terms has more is blank
  have hmore {xs ys zs : List Lexeme} (hp : plain (ys ++ zs) = plain zs)
      (hlast : (xs ++ ys).getLast? ≠ some .blank) : ys = [] := by
    have hblank : ∀ y ∈ ys, y = .blank := by
      rw [← plain_eq_nil]
      rw [plain_append] at hp
      exact List.append_left_eq_self.mp hp
    by_contra hne
    refine hlast ?_
    rw [List.getLast?_append_of_ne_nil _ hne, List.getLast?_eq_some_getLast hne,
      hblank _ (List.getLast_mem hne)]
  rcases List.append_eq_append_iff.mp heq with ⟨more, rfl, rfl⟩ | ⟨more, rfl, rfl⟩
  · obtain rfl := hmore hplain h'.last
    simp
  · obtain rfl := hmore hplain.symm h.last
    simp

/-! ### A term is read -/

/-- **A term is read whatever follows**, and nothing behind it, blanks aside. -/
theorem Derives.view_run_term {n : Nat} {xs : List Lexeme} {t : Tree} (h : Derives n .term xs t)
    (hn : n ≤ nestingLimit) (hl : t.count ≤ comparisonLimit) (ys : List Lexeme) :
    (start.run .term (xs ++ ys)).answer = .ok t ∧
      plain (start.run .term (xs ++ ys)).stream = plain ys := by
  have hcount : start.comparisons + t.count ≤ comparisonLimit := by simpa [start] using hl
  cases h with
  | @comparison _ field value c q q' hne =>
    let m : Machine := { start with focus := .value ⟨field, c, value⟩ }
    have hfield : start.step .term (.text field q) = .shift { start with focus := .field field } :=
      step_field rfl rfl hne q
    have hleads : start.Leads .term [.text field q, .comparator c, .text value q'] m :=
      Leads.cons hfield (Leads.cons rfl (Leads.cons rfl (Leads.refl _ _)))
    have hsettle : m.settleFor .term ⟨field, c, value⟩ =
        .accept (.comparison ⟨field, c, value⟩) m.complete true :=
      settleFor_eq_accept_iff.mpr ⟨hcount, rfl, rfl, rfl, rfl⟩
    have hview := (hleads ys).trans (view_run_value rfl ys)
    rw [hsettle] at hview
    exact ⟨congrArg Prod.fst hview, congrArg (·.2.2) hview⟩
  | @group n xs _ h =>
    have hopen : start.step .term .openBracket = .shift start.opened :=
      step_openBracket rfl rfl (by simp only [start]; omega)
    have hinner : start.opened.Leads .term xs (start.opened.withOperand (.complete t) t) :=
      h.takes rfl (by simp [atTerm_iff, opened]) (by simp only [opened, start]; omega) hcount rfl
    have hview := (Leads.cons hopen hinner) (.closeBracket :: ys)
    rw [List.cons_append, List.append_assoc]
    exact ⟨congrArg Prod.fst hview, congrArg (·.2.2) hview⟩

/-- Blanks between the lexemes of a term change nothing. -/
theorem view_run_of_derives {read : List Lexeme} {t : Tree}
    (h : Derives nestingLimit .term (read.filter (· ≠ .blank)) t) (hl : t.count ≤ comparisonLimit)
    (rest : List Lexeme) :
    (start.run .term (read ++ rest)).answer = .ok t ∧
      plain (start.run .term (read ++ rest)).stream = plain rest := by
  have hview := view_run_significant start .term (read ++ rest)
  rw [List.filter_append] at hview
  have hterm := h.view_run_term (Nat.le_refl _) hl (rest.filter (· ≠ .blank))
  rw [plain_filter] at hterm
  exact ⟨(congrArg Prod.fst hview).trans hterm.1, (congrArg (·.2.2) hview).trans hterm.2⟩

/-! ### What is read is a term -/

theorem OuterReadFrom.of_nil {n : Nat} {xs : List Lexeme} (h : OuterReadFrom n [] xs) :
    n = nestingLimit ∧ xs = [] := by
  cases h
  exact ⟨rfl, rfl⟩

namespace Machine

variable {m next : Machine} {goal : Goal} {x : Lexeme} {xs read : List Lexeme} {t : Tree}
  {leaf : Comparison} {back : Bool}

/-- A blank is read over. Behind a whole comparison it has this settled. -/
theorem step_blank_eq_shift (h : m.step goal .blank = .shift next) :
    ((∀ leaf, m.focus ≠ .value leaf) ∧ next = m) ∨
    ∃ leaf, m.focus = .value leaf ∧ m.settleFor goal leaf = .shift next := by
  cases hf : m.focus with
  | none =>
    rw [step_between hf, stepBetween] at h
    exact .inl ⟨by simp, (Step.shift.inj h).symm⟩
  | field | comparator =>
    simp only [step, hf] at h
    exact .inl ⟨by simp, (Step.shift.inj h).symm⟩
  | value leaf =>
    rw [step_of_value hf] at h
    refine .inr ⟨leaf, rfl, ?_⟩
    cases hs : m.settleFor goal leaf with
    | shift settled =>
      rw [hs] at h
      exact h
    | accept | reject => simp [hs] at h

/-- A bare comparison has been read. -/
theorem ReadFrom.bare (h : m.ReadFrom xs) (hf : m.focus = .value leaf) (ho : m.outer = [])
    (hm : m.current = .empty) :
    Derives nestingLimit .term xs (.comparison leaf) ∧ .openBracket ∉ xs := by
  obtain ⟨-, -, n, before, inner, last, rfl, -, hout, hin, hlast⟩ := h
  rw [ho] at hout
  rw [hm] at hin
  rw [hf] at hlast
  obtain ⟨-, rfl⟩ := hout.of_nil
  cases hin
  cases hlast with
  | value q q' hn => exact ⟨.comparison hn, by simp⟩

/-- All of a term in brackets has been read but its last bracket. -/
theorem ReadFrom.inBrackets (h : m.ReadFrom xs) (hf : m.focus = .none) (ho : m.outer = [.empty])
    (hm : m.current = .complete t) :
    Derives nestingLimit .term (xs ++ [.closeBracket]) t ∧ t.count ≤ comparisonLimit ∧
      .openBracket ∈ xs := by
  obtain ⟨hcount, hl, n, before, inner, last, rfl, -, hout, hin, hlast⟩ := h
  rw [ho] at hout
  rw [hm] at hin
  rw [hf] at hlast
  cases hlast
  cases hout with
  | cons hout hempty =>
    obtain ⟨hn, rfl⟩ := hout.of_nil
    cases hempty
    cases hin with
    | complete hin =>
      have hcount : m.comparisons = t.count := by
        simpa [ho, hm, OpenOperation.count, OpenOperation.outerCount] using hcount
      exact ⟨by simpa [hn] using Derives.group hin, hcount ▸ hl, by simp⟩

/-- **The invariant of a call for one term**, when `read` has been read and the term has not been
closed. -/
structure WithinTerm (m : Machine) (read : List Lexeme) : Prop where
  readFrom : m.ReadFrom (read.filter (· ≠ .blank))
  /-- The call ends with its first operand. -/
  outermost : m.current.outermost m.outer = .empty
  /-- The lexeme behind a comparison has not been read. -/
  last : (∃ leaf, m.focus = .value leaf) → read.getLast? ≠ some .blank

namespace WithinTerm

theorem start : start.WithinTerm [] := ⟨readFrom_start, rfl, by simp⟩

/-- **A step keeps the invariant.** -/
theorem step (h : m.WithinTerm read) (hs : m.step .term x = .shift next) :
    next.WithinTerm (read ++ [x]) := by
  have hholds : m.Holds .term (OpenOperation.outerLeaves m.outer ++ m.current.leaves) :=
    ⟨rfl, fun _ => h.outermost⟩
  have houtermost := (hholds.step_shift hs).outermost rfl
  by_cases hx : x = .blank
  · subst hx
    have hfilter : (read ++ [Lexeme.blank]).filter (· ≠ .blank) = read.filter (· ≠ .blank) := by
      simp
    rcases step_blank_eq_shift hs with ⟨hvalue, rfl⟩ | ⟨leaf, hf, hsettle⟩
    · refine ⟨hfilter ▸ h.readFrom, houtermost, ?_⟩
      rintro ⟨leaf, hleaf⟩
      exact absurd hleaf (hvalue leaf)
    · obtain ⟨-, c, -, hnext⟩ := settleFor_eq_shift hsettle
      refine ⟨hfilter ▸ h.readFrom.settleFor hf hsettle, houtermost, ?_⟩
      rintro ⟨leaf, hleaf⟩
      rw [hnext] at hleaf
      cases hleaf
  · have hfilter : (read ++ [x]).filter (· ≠ .blank) = read.filter (· ≠ .blank) ++ [x] := by
      simp [hx]
    exact ⟨hfilter ▸ h.readFrom.step hx hs, houtermost, fun _ => by simpa using hx⟩

/-- A comparison that ends the call is a bare one. -/
theorem settleFor_accept (h : m.WithinTerm read) (hf : m.focus = .value leaf)
    (hs : m.settleFor .term leaf = .accept t next back) :
    SpellsTerm read t ∧ .openBracket ∉ read := by
  obtain ⟨hl, hterm, rfl, -, -⟩ := settleFor_eq_accept_iff.mp hs
  have ho : m.outer = [] := (atTerm_iff.mp hterm).2
  have hm : m.current = .empty := by simpa [ho, OpenOperation.outermost] using h.outermost
  obtain ⟨hderives, hbracket⟩ := h.readFrom.bare hf ho hm
  refine ⟨⟨hderives, ?_, h.last ⟨leaf, hf⟩⟩, by simpa using hbracket⟩
  simp only [Tree.count]
  omega

/-- A bracket that ends the call closes the term. -/
theorem stepBetween_accept (h : m.ReadFrom (read.filter (· ≠ .blank))) (hf : m.focus = .none)
    (hout : m.current.outermost m.outer = .empty)
    (hs : m.stepBetween .term x = .accept t next back) :
    SpellsTerm (read ++ [x]) t ∧ .openBracket ∈ read ∧ back = false := by
  obtain ⟨-, rfl, rfl, around, ho, hm, -⟩ := stepBetween_eq_accept hs
  have haround : around = .empty := by simpa [ho, OpenOperation.outermost] using hout
  obtain ⟨hderives, hcount, hbracket⟩ := h.inBrackets hf (haround ▸ ho) hm
  refine ⟨⟨?_, hcount, by simp⟩, by simpa using hbracket, rfl⟩
  simpa using hderives

/-- **Where the call ends** a term has been read, up to a last bracket or up to the lexeme behind a
bare comparison. -/
theorem step_accept (h : m.WithinTerm read) (hs : m.step .term x = .accept t next back) :
    (SpellsTerm (read ++ [x]) t ∧ .openBracket ∈ read ∧ back = false) ∨
    (SpellsTerm read t ∧ .openBracket ∉ read ∧ back = decide (x ≠ .blank)) := by
  cases hf : m.focus with
  | none =>
    rw [step_between hf] at hs
    exact .inl (stepBetween_accept h.readFrom hf h.outermost hs)
  | field | comparator =>
    simp only [Machine.step, hf] at hs
    split at hs <;> simp at hs
  | value leaf =>
    rw [step_of_value hf] at hs
    cases hm : m.settleFor .term leaf with
    | shift settled =>
      rw [hm] at hs
      have hsettled := (⟨rfl, fun _ => h.outermost⟩ : m.Holds .term _).settleFor_shift hm
      obtain ⟨-, c, -, hc⟩ := settleFor_eq_shift hm
      exact .inl (stepBetween_accept (h.readFrom.settleFor hf hm) (hc ▸ rfl)
        (hsettled.outermost rfl) hs)
    | accept u settled b =>
      rw [hm] at hs
      obtain ⟨rfl, rfl, rfl⟩ := Step.accept.inj hs
      obtain ⟨hspells, hbracket⟩ := h.settleFor_accept hf hm
      exact .inr ⟨hspells, hbracket, rfl⟩
    | reject => simp [hm] at hs

/-- At the end of the text only a bare comparison is a term. -/
theorem finish (h : m.WithinTerm read) (ht : (m.finish .term).answer = .ok t) :
    SpellsTerm read t := by
  have hnone {m : Machine} : m.finishBetween .term ≠ .ok t := fun h =>
    absurd (finishBetween_eq_ok.mp h).1 nofun
  cases hf : m.focus with
  | none => exact absurd (finish_between hf ▸ ht) hnone
  | field | comparator => simp [Machine.finish, hf] at ht
  | value leaf =>
    rw [finish_of_value hf] at ht
    cases hm : m.settleFor .term leaf with
    | shift settled =>
      rw [hm] at ht
      exact absurd ht hnone
    | accept u settled b =>
      rw [hm] at ht
      obtain rfl := Except.ok.inj ht
      exact (h.settleFor_accept hf hm).1
    | reject => simp [hm] at ht

/-- **A call for a term that succeeds has read a term**, and leaves what is behind it. -/
theorem run (h : m.WithinTerm read) (ht : (m.run .term xs).answer = .ok t) :
    ∃ more rest, xs = more ++ rest ∧ SpellsTerm (read ++ more) t ∧
      (m.run .term xs).stream = leftBehind (read ++ more) rest := by
  induction xs generalizing m read with
  | nil => exact ⟨[], [], rfl, by simpa using h.finish ht, stream_finish m .term⟩
  | cons x xs ih =>
    rw [Machine.run] at ht ⊢
    cases hs : m.step .term x with
    | shift next =>
      rw [hs] at ht
      obtain ⟨more, rest, rfl, hspells, hstream⟩ := ih (h.step hs) ht
      rw [List.append_assoc] at hspells hstream
      exact ⟨x :: more, rest, rfl, hspells, hstream⟩
    | accept u next back =>
      rw [hs] at ht
      obtain rfl := Except.ok.inj ht
      rcases h.step_accept hs with ⟨hspells, hbracket, rfl⟩ | ⟨hspells, hbracket, rfl⟩
      · refine ⟨[x], xs, rfl, hspells, ?_⟩
        rw [leftBehind_of_mem (List.mem_append_left _ hbracket)]
        rfl
      · refine ⟨[], x :: xs, rfl, by simpa using hspells, ?_⟩
        rw [List.append_nil, leftBehind_of_not_mem hbracket]
        simp [Ending.stream]
    | reject => simp [hs] at ht

end WithinTerm

end Machine

/-! ### Calls -/

namespace Parser

variable {query : String} {t : Tree}

theorem tokens_term (query : String) : (ofString query).term.2.tokens =
    (start.run .term (lexemes query.toList)).stream.map .lexeme ++ [.finish] := by
  have hstart := settled_ofString query
  have hstream := stream_make hstart .term
  exact (tokens_eq (settled_make hstart .term)).trans (by rw [hstream]; rfl)

theorem answer_term (query : String) :
    (ofString query).term.1 = (start.run .term (lexemes query.toList)).answer :=
  congrArg Outcome.answer (call_eq (settled_ofString query) .term)

/-- A call that succeeds has read a term. -/
theorem exists_spellsTerm_of_term (h : (ofString query).term.1 = .ok t) :
    ∃ read rest, lexemes query.toList = read ++ rest ∧ SpellsTerm read t ∧
      (start.run .term (lexemes query.toList)).stream = leftBehind read rest := by
  rw [answer_term] at h
  obtain ⟨read, rest, hread, hspells, hstream⟩ := WithinTerm.start.run h
  exact ⟨read, rest, hread, hspells, hstream⟩

/-- A query that begins with a term, blanks aside, has it read. -/
theorem term_of_derives {read rest : List Lexeme} (heq : lexemes query.toList = read ++ rest)
    (h : Derives nestingLimit .term (read.filter (· ≠ .blank)) t) (hl : t.count ≤ comparisonLimit) :
    (ofString query).term.1 = .ok t ∧
      plain (start.run .term (lexemes query.toList)).stream = plain rest := by
  rw [answer_term, heq]
  exact view_run_of_derives h hl rest

/-- **What is left** is what stands behind the term: the call has read this term and no other. -/
theorem stream_term_of_spells {read rest : List Lexeme}
    (heq : lexemes query.toList = read ++ rest) (h : SpellsTerm read t) :
    (start.run .term (lexemes query.toList)).stream = leftBehind read rest := by
  obtain ⟨hterm, hplain⟩ := term_of_derives heq h.derives h.count
  obtain ⟨read', rest', heq', h', hstream⟩ := exists_spellsTerm_of_term hterm
  rw [hstream, plain_leftBehind] at hplain
  obtain ⟨rfl, rfl⟩ := h'.eq_of_plain h (heq'.symm.trans heq) hplain
  exact hstream

/-- A term with nothing but blanks behind it is a whole query. -/
theorem parse_of_term (h : (ofString query).term.1 = .ok t)
    (hleft : ∀ x ∈ (start.run .term (lexemes query.toList)).stream, x = .blank) :
    parse query = .ok t := by
  obtain ⟨read, rest, hread, hspells, hstream⟩ := exists_spellsTerm_of_term h
  rw [hstream, ← plain_eq_nil, plain_leftBehind, plain_eq_nil] at hleft
  have hrest : rest.filter (· ≠ .blank) = [] := by simpa using hleft
  apply parse_of_derives _ hspells.count
  rw [significant_eq, hread, List.filter_append, hrest, List.append_nil]
  exact hspells.derives.single

/-- **A call for a term reads the first term.** It succeeds exactly if the query, blanks aside,
begins with a term within the limits, and gives its tree. What is still to be read is then what
stands behind the term, but for a blank that follows a bare comparison. And if only blanks are left,
the whole query is a condition with the same tree. -/
theorem term_reads_first (query : String) :
    let p := ofString query
    (∀ t, p.term.1 = .ok t ↔ ∃ xs, xs <+: significant query ∧
      Derives nestingLimit .term xs t ∧ t.count ≤ comparisonLimit) ∧
    (∀ t, p.term.1 = .ok t ↔ ∃ read rest, lexemes query.toList = read ++ rest ∧
      SpellsTerm read t) ∧
    (∀ t read rest, lexemes query.toList = read ++ rest → SpellsTerm read t →
      p.term.2.tokens = (leftBehind read rest).map .lexeme ++ [.finish]) ∧
    (∀ t, p.term.1 = .ok t → (∀ x ∈ p.term.2.tokens, x = .lexeme .blank ∨ x = .finish) →
      parse query = .ok t) := by
  intro p
  refine ⟨fun t => ?_, fun t => ?_, ?_, ?_⟩
  · constructor
    · intro h
      obtain ⟨read, rest, hread, hspells, -⟩ := exists_spellsTerm_of_term h
      refine ⟨read.filter (· ≠ .blank), ?_, hspells.derives, hspells.count⟩
      rw [significant_eq, hread, List.filter_append]
      exact List.prefix_append _ _
    · rintro ⟨xs, ⟨ys, hxs⟩, hderives, hcount⟩
      rw [significant_eq] at hxs
      obtain ⟨read, rest, hread, rfl, -⟩ := List.filter_eq_append_iff.mp hxs.symm
      exact (term_of_derives hread hderives hcount).1
  · constructor
    · intro h
      obtain ⟨read, rest, hread, hspells, -⟩ := exists_spellsTerm_of_term h
      exact ⟨read, rest, hread, hspells⟩
    · rintro ⟨read, rest, hread, hspells⟩
      exact (term_of_derives hread hspells.derives hspells.count).1
  · intro t read rest hread hspells
    rw [tokens_term, stream_term_of_spells hread hspells]
  · intro t h hleft
    apply parse_of_term h
    intro x hx
    have hx : .lexeme x ∈ p.term.2.tokens := by
      rw [tokens_term]
      exact List.mem_append_left _ (List.mem_map_of_mem hx)
    simpa using hleft _ hx

/-- A term in brackets leaves the blank behind it, and is all of its query. A bare comparison drops
the blank, and is not. -/
theorem term_reads_first_of_both_forms :
    let t : Tree := .comparison ⟨"a", .equal, "1"⟩
    let group := ofString "( a=\"1\" ) "
    let bare := ofString "a = \"1\"  OR b"
    group.term.1 = .ok t ∧ group.term.2.tokens = [.lexeme .blank, .finish] ∧
      parse "( a=\"1\" ) " = .ok t ∧
    bare.term.1 = .ok t ∧
      bare.term.2.tokens =
        [.lexeme (.gate .or), .lexeme .blank, .lexeme (.text "b" false), .finish] := by
  intro t group bare
  let leaf : List Lexeme := [.text "a" false, .comparator .equal, .text "1" true]
  have hleaf (n : Nat) : Derives n .term leaf t := .comparison (by decide)
  obtain ⟨hterm, -, hleft, hall⟩ := term_reads_first "( a=\"1\" ) "
  obtain ⟨-, hterm', hleft', -⟩ := term_reads_first "a = \"1\"  OR b"
  have hread : lexemes "( a=\"1\" ) ".toList =
      (.openBracket :: .blank :: leaf ++ [.blank, .closeBracket]) ++ [.blank] := by decide +kernel
  have hread' : lexemes "a = \"1\"  OR b".toList =
      [.text "a" false, .blank, .comparator .equal, .blank, .text "1" true] ++
        [.blank, .gate .or, .blank, .text "b" false] := by decide +kernel
  have hgroup : Derives nestingLimit .term (.openBracket :: (leaf ++ [.closeBracket])) t :=
    .group (hleaf _).single
  have hok : group.term.1 = .ok t :=
    (hterm t).mpr ⟨_, ⟨[], by rw [significant_eq, hread]; rfl⟩, hgroup, by decide⟩
  have htokens : group.term.2.tokens = [.lexeme .blank, .finish] :=
    hleft t _ _ hread ⟨hgroup, by decide, by decide⟩
  have hbare : SpellsTerm [.text "a" false, .blank, .comparator .equal, .blank, .text "1" true] t :=
    ⟨hleaf _, by decide, by decide⟩
  refine ⟨hok, htokens, hall t hok fun x hx => ?_, (hterm' t).mpr ⟨_, _, hread', hbare⟩,
    hleft' t _ _ hread' hbare⟩
  rw [htokens] at hx
  simpa using hx

end Parser

end FilterQuery
