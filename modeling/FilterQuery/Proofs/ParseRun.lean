import FilterQuery.Proofs.Grammar
import FilterQuery.Proofs.Steps

/-!
# Runs of the parser

A machine that reads a comparison counts it only at the lexeme after it, which it drops if it is a
blank and gives back or reads on with otherwise. For what can be told of a call this makes no
difference: `view_run_value` lets the comparison count at once, and `view_run_plain` takes away the
blanks, and the quotes too. On what is left, the run of a derivation is known in full, whatever
follows it (`Derives.takes`).
-/

namespace FilterQuery

/-! ### Plain lexemes -/

/-- The lexeme without the mark that its literal was quoted. -/
def Lexeme.unquoted : Lexeme → Lexeme
  | .text literal _ => .text literal false
  | x => x

/-- The lexemes without blanks and quotes. -/
def plain (xs : List Lexeme) : List Lexeme := (xs.filter (· ≠ .blank)).map Lexeme.unquoted

@[simp] theorem Lexeme.unquoted_eq_blank {x : Lexeme} : x.unquoted = .blank ↔ x = .blank := by
  cases x <;> simp [unquoted]

@[simp] theorem Lexeme.unquoted_unquoted (x : Lexeme) : x.unquoted.unquoted = x.unquoted := by
  cases x <;> rfl

@[simp] theorem plain_blank (xs : List Lexeme) : plain (.blank :: xs) = plain xs := by
  simp [plain]

theorem plain_cons {x : Lexeme} (h : x ≠ .blank) (xs : List Lexeme) :
    plain (x :: xs) = x.unquoted :: plain xs := by
  simp [plain, h]

theorem plain_append (xs ys : List Lexeme) : plain (xs ++ ys) = plain xs ++ plain ys := by
  simp [plain]

theorem plain_eq_nil {xs : List Lexeme} : plain xs = [] ↔ ∀ x ∈ xs, x = .blank := by
  simp [plain]

/-- Blanks that are left out are not missed. -/
theorem plain_filter (xs : List Lexeme) : plain (xs.filter (· ≠ .blank)) = plain xs := by
  simp [plain]

@[simp] theorem plain_plain (xs : List Lexeme) : plain (plain xs) = plain xs := by
  induction xs with
  | nil => rfl
  | cons x xs ih =>
    by_cases h : x = .blank
    · rw [h, plain_blank, ih]
    · rw [plain_cons h, plain_cons (by simpa using h), ih, Lexeme.unquoted_unquoted]

/-- A lexeme that is given back unless it is a blank is plainly given back. -/
theorem plain_given_back (x : Lexeme) (xs : List Lexeme) :
    plain ((if x = .blank then none else some x).toList ++ xs) = plain (x :: xs) := by
  by_cases h : x = .blank <;> simp [h]

/-! ### Calls on plain lexemes -/

/-- All that can be told of the end of a call by what follows, blanks and quotes aside. -/
def Ending.view (o : Ending) : Except SyntaxError Tree × Machine × List Lexeme :=
  (o.answer, o.machine, plain o.stream)

namespace Machine

variable {m : Machine} {goal : Goal} {leaf : Comparison}

/-- No step looks at the quotes. -/
theorem step_unquoted (m : Machine) (goal : Goal) (x : Lexeme) :
    m.step goal x.unquoted = m.step goal x := by
  cases x with
  | text literal quoted =>
    cases hf : m.focus with
    | none | field | comparator => simp [step, hf, Lexeme.unquoted, stepBetween, Lexeme.kind]
    | value leaf =>
      rw [step_of_value hf, step_of_value hf]
      cases m.settleFor goal leaf <;> simp [Lexeme.unquoted, stepBetween]
  | _ => rfl

/-- **A comparison may be settled at once.** Whether what follows is given back or, as a blank,
dropped, it is plainly the same. -/
theorem view_run_value (h : m.focus = .value leaf) (xs : List Lexeme) :
    (m.run goal xs).view = match m.settleFor goal leaf with
      | .shift next => (next.run goal xs).view
      | .accept t next _ => (.ok t, next, plain xs)
      | .reject e next _ => (.error e, next, plain xs) := by
  have hbetween {next : Machine} (hs : m.settleFor goal leaf = .shift next) :
      next.focus = .none := by
    obtain ⟨-, c, -, rfl⟩ := settleFor_eq_shift hs
    rfl
  cases xs with
  | nil =>
    rw [run, finish_of_value h]
    cases hs : m.settleFor goal leaf with
    | shift next => simp [run, finish, hbetween hs, Ending.view, Ending.stream]
    | accept | reject => rfl
  | cons x xs =>
    rw [run, step_of_value h]
    cases hs : m.settleFor goal leaf with
    | shift next => simp only [run, step_between (hbetween hs)]
    | accept | reject => simp [Ending.view, Ending.stream, plain_given_back]

/-- **A blank changes nothing** that can be told of a call. -/
theorem view_run_blank (m : Machine) (goal : Goal) (xs : List Lexeme) :
    (m.run goal (.blank :: xs)).view = (m.run goal xs).view := by
  cases hf : m.focus with
  | none => rw [run, step_between hf, stepBetween]
  | field | comparator => simp [run, step, hf]
  | value leaf =>
    rw [view_run_value hf, view_run_value hf]
    cases hs : m.settleFor goal leaf with
    | shift next =>
      obtain ⟨-, c, -, rfl⟩ := settleFor_eq_shift hs
      simp only [run]
      rw [step_between rfl, stepBetween]
    | accept | reject => simp

/-- **A call on plain lexemes** ends as it does on the others. -/
theorem view_run_plain (m : Machine) (goal : Goal) (xs : List Lexeme) :
    (m.run goal (plain xs)).view = (m.run goal xs).view := by
  induction xs generalizing m with
  | nil => rfl
  | cons x xs ih =>
    by_cases hx : x = .blank
    · rw [hx, plain_blank, ih, view_run_blank]
    · rw [plain_cons hx, run, run, step_unquoted]
      cases m.step goal x with
      | shift next => exact ih next
      | accept t next back | reject e next back =>
        cases back <;> simp [Ending.view, Ending.stream, plain_cons, hx]

/-- The blanks may be left out. -/
theorem view_run_significant (m : Machine) (goal : Goal) (xs : List Lexeme) :
    (m.run goal xs).view = (m.run goal (xs.filter (· ≠ .blank))).view := by
  rw [← view_run_plain m goal xs, ← plain_filter, view_run_plain]

/-! ### Reading on -/

/-- Reading `xs` in a call for `goal` takes `m` to `next`, as far as can be told, whatever
follows. -/
def Leads (goal : Goal) (m : Machine) (xs : List Lexeme) (next : Machine) : Prop :=
  ∀ ys, (m.run goal (xs ++ ys)).view = (next.run goal ys).view

theorem Leads.answer (h : m.Leads goal xs next) (ys : List Lexeme) :
    (m.run goal (xs ++ ys)).answer = (next.run goal ys).answer :=
  congrArg Prod.fst (h ys)

theorem Leads.refl (goal : Goal) (m : Machine) : m.Leads goal [] m := fun _ => rfl

theorem Leads.trans {last : Machine} (h : m.Leads goal xs next) (h' : next.Leads goal ys last) :
    m.Leads goal (xs ++ ys) last := by
  intro zs
  rw [List.append_assoc, h, h']

theorem Leads.cons {last : Machine} (h : m.step goal x = .shift next)
    (h' : next.Leads goal xs last) : m.Leads goal (x :: xs) last := by
  intro ys
  rw [List.cons_append, run, h]
  exact h' ys

/-- The machine after the operand `t`, which makes the innermost operation `c`. -/
def withOperand (m : Machine) (c : OpenOperation) (t : Tree) : Machine :=
  { m with current := c, comparisons := m.comparisons + t.count }

theorem step_openBracket (hf : m.focus = .none) (hm : m.current.admitOperand = .ok ())
    (hd : m.depth < nestingLimit) : m.step goal .openBracket = .shift m.opened := by
  rw [step_between hf, stepBetween, shiftIf_eq_shift]
  exact openBracket_eq_ok.mpr ⟨hm, hd, rfl⟩

theorem step_field (hf : m.focus = .none) (hm : m.current.admitOperand = .ok ()) {field : String}
    (hn : field ≠ "") (q : Bool) :
    m.step goal (.text field q) = .shift { m with focus := .field field } := by
  rw [step_between hf, stepBetween, shiftIf_eq_shift]
  exact beginField_eq_ok.mpr ⟨hm, hn, rfl⟩

theorem step_closeBracket (hf : m.focus = .none) {around c : OpenOperation}
    {outer : List OpenOperation} {t : Tree} (ho : m.outer = around :: outer)
    (hm : m.current = .complete t) (hc : around.addOperand t = .ok c)
    (hterm : goal = .term → outer ≠ []) :
    m.step goal .closeBracket =
      .shift { m with current := c, outer := outer, depth := m.depth - 1 } := by
  have hnext : (do return { m with current := ← around.addOperand t, outer, depth := m.depth - 1 })
      = Except.ok { m with current := c, outer, depth := m.depth - 1 } :=
    bind_eq_ok.mpr ⟨c, hc, rfl⟩
  have hinside : ¬ m.atTerm goal := by simp [atTerm_iff, ho]
  have hbehind : ¬ atTerm goal { m with current := around, outer, depth := m.depth - 1 } :=
    fun h => hterm (atTerm_iff.mp h).1 (atTerm_iff.mp h).2
  simp only [step_between hf, stepBetween_closeBracket, if_neg hinside, closeBracket, ho, hm,
    OpenOperation.close, if_neg hbehind]
  exact shiftIf_eq_shift.mpr hnext

theorem step_gate (hf : m.focus = .none) (hterm : ¬ m.atTerm goal) {t : Tree}
    (hm : m.current = .complete t) (g : Gate) :
    m.step goal (.gate g) = .shift { m with current := .gated t g } := by
  have hnext : (do return { m with current := ← m.current.addGate g })
      = Except.ok { m with current := .gated t g } :=
    bind_eq_ok.mpr ⟨.gated t g, by rw [hm]; rfl, rfl⟩
  rw [step_between hf, stepBetween_gate, if_neg hterm]
  exact shiftIf_eq_shift.mpr hnext

end Machine

/-- Where an operand can be added, one may begin. -/
theorem OpenOperation.admitOperand_of_addOperand {o c : OpenOperation} {t : Tree}
    (h : o.addOperand t = .ok c) : o.admitOperand = .ok () := by
  cases o with
  | complete left => simp [addOperand] at h
  | empty | gated => rfl

theorem Tree.count_le_count_foldl (links : List Link) (t : Tree) :
    t.count ≤ (links.foldl Tree.extend t).count := by
  induction links generalizing t with
  | nil => exact Nat.le_refl _
  | cons l links ih => exact Nat.le_trans (Nat.le_add_right ..) (ih (t.extend l))

namespace Machine

variable {m : Machine} {goal : Goal}

/-- A comparison is read wherever an operand may stand. -/
theorem leads_comparison (hf : m.focus = .none) (hterm : ¬ m.atTerm goal) (leaf : Comparison)
    {c : OpenOperation} (hc : m.current.addOperand (.comparison leaf) = .ok c)
    (hn : leaf.field ≠ "") (hl : m.comparisons + 1 ≤ comparisonLimit) (q q' : Bool) :
    m.Leads goal [.text leaf.field q, .comparator leaf.comparator, .text leaf.value q']
      (m.withOperand c (.comparison leaf)) := by
  have hfield : m.step goal (.text leaf.field q) = .shift { m with focus := .field leaf.field } :=
    step_field hf (OpenOperation.admitOperand_of_addOperand hc) hn q
  refine Leads.cons hfield (Leads.cons rfl (Leads.cons rfl ?_))
  intro ys
  have hs : ({ m with focus := .value leaf } : Machine).settle leaf =
      .ok (m.withOperand c (.comparison leaf)) :=
    settle_eq_ok_iff.mpr ⟨hl, c, hc, by simp only [complete, withOperand, Tree.count, ← hf]⟩
  have hterm : ¬ ({ m with focus := .value leaf } : Machine).atTerm goal := hterm
  have hsettle := settleFor_of_not_atTerm hterm leaf
  rw [hs] at hsettle
  exact (view_run_value rfl ys).trans (by rw [hsettle])

/-- What reading `xs`, which derive from `part`, comes to in a call for `goal`: a term joins the
operation around it, and an operation fills an empty one. -/
def Takes (goal : Goal) (m : Machine) (xs : List Lexeme) (t : Tree) (part : Goal) : Prop :=
  match part with
  | .term => ∀ c, m.current.addOperand t = .ok c → m.Leads goal xs (m.withOperand c t)
  | .operation => m.current = .empty → m.Leads goal xs (m.withOperand (.complete t) t)

/-- Links continue a complete operation one after the other, if each of their terms can be read. -/
theorem leads_links {n : Nat} {links : List Link}
    (hlinks : ∀ l ∈ links, ∀ {m : Machine}, m.focus = .none → ¬ m.atTerm goal →
      m.depth + n ≤ nestingLimit → m.comparisons + l.tree.count ≤ comparisonLimit →
      m.Takes goal l.lexemes l.tree .term)
    (hf : m.focus = .none) (hterm : ¬ m.atTerm goal) (hd : m.depth + n ≤ nestingLimit) (t : Tree)
    (hl : m.comparisons + (links.foldl Tree.extend t).count ≤ comparisonLimit) :
    (m.withOperand (.complete t) t).Leads goal (links.flatMap Link.written)
      (m.withOperand (.complete (links.foldl Tree.extend t)) (links.foldl Tree.extend t)) := by
  induction links generalizing t with
  | nil => exact Leads.refl _ _
  | cons l links ih =>
    have hcount : (t.extend l).count = t.count + l.tree.count := rfl
    have hle := Tree.count_le_count_foldl links (t.extend l)
    rw [List.foldl_cons] at hl ⊢
    -- the machine that waits for the term of the first link
    let m' : Machine := { m.withOperand (.complete t) t with current := .gated t l.gate }
    have hgate : (m.withOperand (.complete t) t).step goal (.gate l.gate) = .shift m' :=
      step_gate (m := m.withOperand (.complete t) t) hf hterm rfl l.gate
    have hleads := hlinks l (List.mem_cons_self ..) (m := m') hf hterm hd
      (by simp only [m', withOperand]; omega) (.complete (t.extend l)) rfl
    have hnext : m'.withOperand (.complete (t.extend l)) l.tree =
        m.withOperand (.complete (t.extend l)) (t.extend l) := by
      simp only [m', withOperand, hcount, Nat.add_assoc]
    rw [hnext] at hleads
    exact (Leads.cons hgate hleads).trans
      (ih (fun l hl => hlinks l (List.mem_cons_of_mem _ hl)) (t.extend l) hl)

end Machine

open Machine

/-- **A derivation is read in full**, within the limits of depth and comparisons, where the call
does not end with it. -/
theorem Derives.takes {n : Nat} {part : Goal} {xs : List Lexeme} {t : Tree}
    (h : Derives n part xs t) {goal : Goal} {m : Machine} (hf : m.focus = .none)
    (hterm : ¬ m.atTerm goal) (hd : m.depth + n ≤ nestingLimit)
    (hl : m.comparisons + t.count ≤ comparisonLimit) : m.Takes goal xs t part := by
  induction h generalizing m with
  | @comparison n field value c q q' h =>
    intro o ho
    exact leads_comparison hf hterm ⟨field, c, value⟩ ho h hl q q'
  | @group n xs t _ ih =>
    intro c hc
    have hopen : m.step goal .openBracket = .shift m.opened :=
      step_openBracket hf (OpenOperation.admitOperand_of_addOperand hc) (by omega)
    have hinner := ih (m := m.opened) hf (by simp [atTerm_iff, opened])
      (by simp only [opened]; omega) hl rfl
    have hclose : (m.opened.withOperand (.complete t) t).step goal .closeBracket =
        .shift (m.withOperand c t) :=
      step_closeBracket (m := m.opened.withOperand (.complete t) t) hf rfl rfl hc
        fun hgoal ho => hterm (atTerm_iff.mpr ⟨hgoal, ho⟩)
    exact Leads.cons hopen (hinner.trans (Leads.cons hclose (Leads.refl _ _)))
  | @row n xs t links _ _ ih ih' =>
    intro hm
    have hle := Tree.count_le_count_foldl links t
    have hfirst := ih hf hterm hd (by omega) (.complete t) (by rw [hm]; rfl)
    exact hfirst.trans (leads_links (fun l hl _ => ih' l hl) hf hterm hd t hl)

end FilterQuery
