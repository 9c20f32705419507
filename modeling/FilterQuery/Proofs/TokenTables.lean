import FilterQuery.Proofs.QuotedText
import FilterQuery.Proofs.TableLines
import FilterQuery.Report

/-!
# Tables of tokens

In a table of tokens indices, kinds and quoted cells are on one line each. But the literal of a
token that was written between quotes is shown as it was written, and between quotes there may be
any breaks. The main statement is `Report.tokens_one_line_each_iff`: the table is a header and one
line for each token if and only if no literal between quotes has a line break in it.
-/

namespace FilterQuery.Report

/-! ### Cells -/

theorem newline_notMem_label (k : Kind) : '\n' ∉ k.label.toList := by
  cases k with
  | comparator c => cases c <;> decide
  | gate g => cases g <;> decide
  | other | finish | blank | text | openBracket | closeBracket => decide

/-- The breaks that a literal brings into a table. -/
def literalBreaks (t : Token) : Nat :=
  if t.quoted then breaks t.literal else 0

theorem breaks_literalCell (t : Token) : breaks (literalCell t) = literalBreaks t := by
  unfold literalCell literalBreaks
  split
  · have hmarks : breaks "\"" = 0 ∧ breaks "\" (quoted)" = 0 := by decide
    rw [breaks_append, breaks_append, hmarks.1, hmarks.2, Nat.zero_add, Nat.add_zero]
  · exact breaks_eq_zero.mpr (Text.newline_notMem_quoted _)

theorem tokenRows_eq (index : Nat) (ts : List Token) : tokenRows index ts =
    (ts.zipIdx index).map fun entry =>
      [toString entry.2, entry.1.kind.label, literalCell entry.1] := by
  induction ts generalizing index with
  | nil => rfl
  | cons t ts ih => rw [tokenRows, ih, List.zipIdx_cons, List.map_cons]

/-- **A table of tokens has a line for its header, one for each token, and one more for each break
in a literal between quotes.** -/
theorem breaks_tokens (ts : List Token) :
    breaks (Report.tokens ts) = ts.length + 1 + (ts.map literalBreaks).sum := by
  have hrow : ∀ entry : Token × Nat,
      ([toString entry.2, entry.1.kind.label, literalCell entry.1].map breaks).sum =
        literalBreaks entry.1 := by
    intro entry
    have hindex := breaks_eq_zero.mpr (newline_notMem_toString entry.2)
    have hkind := breaks_eq_zero.mpr (newline_notMem_label entry.1.kind)
    simp only [List.map_cons, List.map_nil, List.sum_cons, List.sum_nil, hindex, hkind,
      breaks_literalCell, Nat.zero_add, Nat.add_zero]
  have hrows : ((tokenRows 0 ts).map fun row => (row.map breaks).sum) = ts.map literalBreaks := by
    rw [tokenRows_eq, List.map_map]
    simp only [Function.comp_def, hrow]
    rw [← Function.comp_def literalBreaks Prod.fst, ← List.map_map, List.zipIdx_map_fst]
  have hheader : (["#", "Kind", "Literal"].map breaks).sum = 0 := by decide
  have hlength : (tokenRows 0 ts).length = ts.length := by simp [tokenRows_eq]
  rw [tokens, breaks_table, List.length_cons, hlength, List.map_cons, List.sum_cons, hheader, hrows,
    Nat.zero_add]

/-- The cell shows the literal of a token: as it was written, with its quotes, or else as quoted
text that can be read back. -/
def ShowsLiteral (cell : String) (t : Token) : Prop :=
  if t.quoted then cell = "\"" ++ t.literal ++ "\" (quoted)"
  else Text.unquote? cell = some t.literal

/-- The line shows a token: its index, its kind and its literal. -/
def ShowsToken (line : String) (entry : Token × Nat) : Prop :=
  ∃ cell, ShowsTriple line (toString entry.2) entry.1.kind.label cell ∧ ShowsLiteral cell entry.1

/-- The text is a header, and behind it one line for each token, in order. -/
def OneLineEach (text : String) (ts : List Token) : Prop :=
  ∃ header lines, HasLines text (header :: lines) ∧ ShowsTriple header "#" "Kind" "Literal" ∧
    List.Forall₂ ShowsToken lines ts.zipIdx

theorem showsLiteral_literalCell (t : Token) : ShowsLiteral (literalCell t) t := by
  unfold ShowsLiteral literalCell
  split
  · rfl
  · exact Text.unquote?_quoted _

theorem OneLineEach.breaks_eq {text : String} {ts : List Token} (h : OneLineEach text ts) :
    breaks text = ts.length + 1 := by
  obtain ⟨header, lines, hlines, -, hshows⟩ := h
  rw [hlines.breaks_eq, List.length_cons, hshows.length_eq, List.length_zipIdx]

/-- **A table of tokens has one line for each of them**, if no literal between quotes has a break
in it. -/
theorem oneLineEach_tokens {ts : List Token} (h : ∀ t ∈ ts, literalBreaks t = 0) :
    OneLineEach (Report.tokens ts) ts := by
  let rows := ["#", "Kind", "Literal"] :: tokenRows 0 ts
  have hheader : ∀ cell ∈ ["#", "Kind", "Literal"], '\n' ∉ cell.toList := by decide
  have hcells : ∀ row ∈ rows, ∀ cell ∈ row, '\n' ∉ cell.toList := by
    refine List.forall_mem_cons.mpr ⟨hheader, ?_⟩
    rw [tokenRows_eq, List.forall_mem_map]
    rintro ⟨t, index⟩ hentry
    have hliteral : breaks (literalCell t) = 0 :=
      (breaks_literalCell t).trans (h t (List.fst_mem_of_mem_zipIdx hentry))
    simp only [List.forall_mem_cons]
    exact ⟨newline_notMem_toString index, newline_notMem_label t.kind, breaks_eq_zero.mp hliteral,
      nofun⟩
  refine ⟨_, _, hasLines_table hcells, rowLine_triple .., ?_⟩
  rw [tokenRows_eq, List.map_map, List.forall₂_map_left_iff, List.forall₂_same]
  rintro ⟨t, index⟩ -
  exact ⟨literalCell t, rowLine_triple .., showsLiteral_literalCell t⟩

theorem literalBreaks_eq_zero {t : Token} :
    literalBreaks t = 0 ↔ (t.quoted → '\n' ∉ t.literal.toList) := by
  cases hq : t.quoted <;> simp [literalBreaks, hq, breaks_eq_zero]

/-- **A table of tokens has one line for each token, and one for its header, if and only if no
literal between quotes has a line break in it.** Such breaks are the only ones that add lines:
literals without quotes add none. -/
theorem tokens_one_line_each_iff (query : String) :
    (OneLineEach (Report.tokens (tokenize query)) (tokenize query) ↔
      ∀ t ∈ tokenize query, t.quoted → '\n' ∉ t.literal.toList) ∧
    breaks (Report.tokens (tokenize query)) =
      (tokenize query).length + 1 + ((tokenize query).map literalBreaks).sum := by
  have htotal := breaks_tokens (tokenize query)
  refine ⟨⟨fun h t ht => ?_, fun h => ?_⟩, htotal⟩
  · have hsum : ((tokenize query).map literalBreaks).sum = 0 := by
      have := h.breaks_eq
      omega
    rw [List.sum_eq_zero_iff_forall_eq_nat, List.forall_mem_map] at hsum
    exact literalBreaks_eq_zero.mp (hsum t ht)
  · exact oneLineEach_tokens fun t ht => literalBreaks_eq_zero.mpr (h t ht)

/-- For example, a break between two quotes adds a line to the table. -/
theorem tokens_of_broken_literal :
    ¬ OneLineEach (Report.tokens (tokenize "\"\n\"")) (tokenize "\"\n\"") := by
  intro h
  have hbreaks : breaks (Report.tokens (tokenize "\"\n\"")) = 4 := by decide +kernel
  have hlength : (tokenize "\"\n\"").length = 2 := by decide +kernel
  have := h.breaks_eq
  omega

end FilterQuery.Report
