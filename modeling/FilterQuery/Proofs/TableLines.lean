import FilterQuery.Proofs.Basics
import FilterQuery.Report.Table
import Mathlib.Algebra.Ring.Nat

/-!
# Lines of tables

A table has one line for each row, as long as no cell holds a line break (`Report.hasLines_table`);
each break in a cell makes one line more (`Report.breaks_table`). The line of a row shows its cells
with blanks around them and nothing else (`Report.rowLine_pair`, `Report.rowLine_triple`).
-/

namespace FilterQuery.Report

/-! ### Lines and line breaks -/

/-- The text is made of lines, each of which ends in a line break. -/
structure HasLines (text : String) (lines : List String) : Prop where
  joined : text = String.join (lines.map (· ++ "\n"))
  unbroken : ∀ line ∈ lines, '\n' ∉ line.toList

/-- The number of line breaks in a text. -/
def breaks (text : String) : Nat := text.toList.count '\n'

theorem breaks_eq_zero {text : String} : breaks text = 0 ↔ '\n' ∉ text.toList :=
  List.count_eq_zero

theorem sum_breaks_eq_zero {parts : List String} :
    (parts.map breaks).sum = 0 ↔ ∀ part ∈ parts, '\n' ∉ part.toList := by
  simp only [List.sum_eq_zero_iff_forall_eq_nat, List.forall_mem_map, breaks_eq_zero]

@[simp] theorem breaks_append (s t : String) : breaks (s ++ t) = breaks s + breaks t := by
  simp [breaks]

/-- Each line ends in one break, and may have others in it. -/
theorem breaks_join_lines (lines : List String) :
    breaks (String.join (lines.map (· ++ "\n"))) = lines.length + (lines.map breaks).sum := by
  induction lines with
  | nil => rfl
  | cons line lines ih =>
    have hend : breaks "\n" = 1 := by decide
    simp only [List.map_cons, String.join_cons, breaks_append, ih, hend, List.length_cons,
      List.sum_cons]
    omega

theorem breaks_intercalate {separator : String} (h : breaks separator = 0) (parts : List String) :
    breaks (separator.intercalate parts) = (parts.map breaks).sum := by
  induction parts with
  | nil => rw [String.intercalate_nil]; rfl
  | cons part parts ih =>
    cases parts with
    | nil => simp
    | cons next parts =>
      rw [String.intercalate_cons_cons, breaks_append, breaks_append, ih, h]
      simp only [Nat.add_zero, List.map_cons, List.sum_cons]

/-- A text has as many breaks as lines. -/
theorem HasLines.breaks_eq {text : String} {lines : List String} (h : HasLines text lines) :
    breaks text = lines.length := by
  rw [h.joined, breaks_join_lines, sum_breaks_eq_zero.mpr h.unbroken, Nat.add_zero]

/-- A line in front of a text. -/
theorem HasLines.cons {text line : String} {lines : List String} (hline : '\n' ∉ line.toList)
    (h : HasLines text lines) : HasLines (line ++ "\n" ++ text) (line :: lines) where
  joined := by rw [List.map_cons, String.join_cons, ← h.joined]
  unbroken := List.forall_mem_cons.mpr ⟨hline, h.unbroken⟩

/-! ### Rows -/

theorem newline_notMem_toDigits (n : Nat) : '\n' ∉ Nat.toDigits 10 n := by
  intro h
  exact absurd (Nat.isDigit_of_mem_toDigits (by decide) (by decide) h) (by decide)

theorem newline_notMem_toString (n : Nat) : '\n' ∉ (toString n).toList := by
  rw [Nat.toString_eq_ofList_toDigits, String.toList_ofList]
  exact newline_notMem_toDigits n

/-- As many blanks. -/
def blanks (n : Nat) : String := "".pushn ' ' n

theorem toList_blanks (n : Nat) : (blanks n).toList = List.replicate n ' ' := by
  simp [blanks, toList_pushn]

theorem blanks_zero : blanks 0 = "" := rfl

theorem breaks_blanks (n : Nat) : breaks (blanks n) = 0 := by
  simp [breaks_eq_zero, toList_blanks, List.mem_replicate]

theorem padLeft_eq (width : Nat) (cell : String) :
    padLeft width cell = blanks (width - cell.length) ++ cell := rfl

theorem padRight_eq (width : Nat) (cell : String) :
    padRight width cell = cell ++ blanks (width - cell.length) := by
  apply String.toList_inj.mp
  simp [padRight, toList_blanks, toList_pushn]

/-- The line of a row, in columns of given widths. -/
def rowLine (widths : List Nat) (row : List String) : String :=
  "  ".intercalate (fillRow widths row)

/-- The line shows two cells with two blanks between them, and nothing else but blanks. -/
def ShowsPair (line a b : String) : Prop :=
  ∃ before, line = blanks before ++ a ++ "  " ++ b

/-- The line shows three cells with two blanks or more between them, and nothing else but blanks. -/
def ShowsTriple (line a b c : String) : Prop :=
  ∃ before after, line = blanks before ++ a ++ "  " ++ b ++ blanks after ++ "  " ++ c

theorem rowLine_pair (widths : List Nat) (a b : String) :
    ShowsPair (rowLine widths [a, b]) a b := by
  cases widths with
  | nil => exact ⟨0, by simp [rowLine, fillRow, blanks_zero]⟩
  | cons width widths => exact ⟨width - a.length, by simp [rowLine, fillRow, fillRest, padLeft_eq]⟩

theorem rowLine_triple (widths : List Nat) (a b c : String) :
    ShowsTriple (rowLine widths [a, b, c]) a b c := by
  match widths with
  | [] =>
    exact ⟨0, 0, by simp [rowLine, fillRow, blanks_zero, String.append_assoc]⟩
  | [width] =>
    refine ⟨width - a.length, 0, ?_⟩
    simp [rowLine, fillRow, fillRest, padLeft_eq, blanks_zero, String.append_assoc]
  | width :: next :: widths =>
    refine ⟨width - a.length, next - b.length, ?_⟩
    simp [rowLine, fillRow, fillRest, padLeft_eq, padRight_eq, String.append_assoc]

theorem map_breaks_fillRest (widths : List Nat) (cells : List String) :
    (fillRest widths cells).map breaks = cells.map breaks := by
  induction widths, cells using fillRest.induct with
  | case1 width widths cell next cells ih =>
    rw [fillRest, List.map_cons, ih, padRight_eq, breaks_append, breaks_blanks]
    rfl
  | case2 widths cells h => rw [fillRest]; exact h

theorem map_breaks_fillRow (widths : List Nat) (row : List String) :
    (fillRow widths row).map breaks = row.map breaks := by
  unfold fillRow
  split
  · next width widths cell cells =>
    rw [List.map_cons, map_breaks_fillRest, padLeft_eq, breaks_append, breaks_blanks, Nat.zero_add]
    rfl
  · rfl

/-- Filling up does not break a line. -/
theorem breaks_rowLine (widths : List Nat) (row : List String) :
    breaks (rowLine widths row) = (row.map breaks).sum := by
  rw [rowLine, breaks_intercalate (by decide), map_breaks_fillRow]

/-! ### Tables -/

theorem table_eq (rows : List (List String)) :
    table rows = String.join ((rows.map (rowLine (columnWidths rows))).map (· ++ "\n")) := by
  rw [List.map_map]
  rfl

/-- **Each row is a line, and each break in a cell is one more.** -/
theorem breaks_table (rows : List (List String)) :
    breaks (table rows) = rows.length + (rows.map fun row => (row.map breaks).sum).sum := by
  have hrow : breaks ∘ rowLine (columnWidths rows) = fun row => (row.map breaks).sum :=
    funext (breaks_rowLine _)
  rw [table_eq, breaks_join_lines, List.length_map, List.map_map, hrow]

/-- **A table has one line for each row**, if no cell holds a line break. -/
theorem hasLines_table {rows : List (List String)}
    (h : ∀ row ∈ rows, ∀ cell ∈ row, '\n' ∉ cell.toList) :
    HasLines (table rows) (rows.map (rowLine (columnWidths rows))) where
  joined := table_eq rows
  unbroken := by
    intro line hline
    obtain ⟨row, hrow, rfl⟩ := List.mem_map.mp hline
    rw [← breaks_eq_zero, breaks_rowLine]
    exact sum_breaks_eq_zero.mpr (h row hrow)

end FilterQuery.Report
