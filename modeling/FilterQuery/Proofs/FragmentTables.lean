import FilterQuery.Proofs.PlaceholderNumbers
import FilterQuery.Proofs.QuotedText
import FilterQuery.Proofs.TableLines
import FilterQuery.Proofs.TemplateSafety
import FilterQuery.Report

/-!
# Tables of fragments

A fragment is shown as its template and a table of its values. The placeholders of the template and
the rows of the table are counted apart from each other, the ones over characters and the others
over values. That they agree is because a compiled fragment has as many placeholders as values. The
main statement is `Resolver.Built.fragment_table_agrees`: the table has one line for each value, in
order, under the name that its placeholder has in the template, and the value can be read back from
it.
-/

namespace FilterQuery

open Report (HasLines ShowsPair)
open Sql (Fragment)

namespace Report

/-- The line shows a label and, in a form that can be read back, a value. -/
def ShowsValue (line : String) (entry : String × String) : Prop :=
  ∃ cell, ShowsPair line entry.1 cell ∧ Text.unquote? cell = some entry.2

theorem valueRows_eq (label : Nat → String) (last : Nat) (values : List String) :
    valueRows label last values =
      (((List.range' (last + 1) values.length).map label).zip values).map fun entry =>
        [entry.1, Text.quoted entry.2] := by
  induction values generalizing last with
  | nil => rfl
  | cons value values ih =>
    rw [valueRows, ih, List.length_cons, List.range'_succ, List.map_cons, List.zip_cons_cons,
      List.map_cons]

/-- The labels of the rows of a number of values. -/
def rowLabels (offset : Option Nat) (count : Nat) : List String :=
  match offset with
  | some offset => (List.range' (offset + 1) count).map fun n => "$" ++ toString n
  | none => (List.range' 1 count).map toString

theorem newline_notMem_rowLabels {offset : Option Nat} {count : Nat} :
    ∀ label ∈ rowLabels offset count, '\n' ∉ label.toList := by
  unfold rowLabels
  split <;> rw [List.forall_mem_map] <;> intro n _
  · have hdollar : breaks "$" = 0 := by decide
    rw [← breaks_eq_zero, breaks_append, hdollar, breaks_eq_zero.mpr (newline_notMem_toString n)]
  · exact newline_notMem_toString n

/-- A fragment in a table, with the template on a line of its own. -/
theorem fragment_table_eq (f : Fragment) (offset : Option Nat) :
    fragment f .table offset = offset.elim f.raw f.numbered ++ "\n" ++ ("" ++ "\n" ++
      table (["Param", "Value"] ::
        ((rowLabels offset f.values.length).zip f.values).map fun entry =>
          [entry.1, Text.quoted entry.2])) := by
  have hbreaks : ∀ text rest : String,
      text ++ "\n\n" ++ rest = text ++ "\n" ++ ("" ++ "\n" ++ rest) := by
    intro text rest
    rw [String.append_assoc, String.append_assoc]
    rfl
  cases offset with
  | none => rw [fragment, valueRows_eq, hbreaks]; rfl
  | some offset => rw [fragment, valueRows_eq, hbreaks]; rfl

/-- **A table of values has one line for each**, whatever characters are in them. -/
theorem hasLines_fragment {f : Fragment} {offset : Option Nat}
    (htemplate : '\n' ∉ (offset.elim f.raw f.numbered).toList) :
    ∃ header lines,
      HasLines (fragment f .table offset)
        (offset.elim f.raw f.numbered :: "" :: header :: lines) ∧
      ShowsPair header "Param" "Value" ∧
      List.Forall₂ ShowsValue lines ((rowLabels offset f.values.length).zip f.values) := by
  let entries := (rowLabels offset f.values.length).zip f.values
  have hheader : ∀ cell ∈ ["Param", "Value"], '\n' ∉ cell.toList := by decide
  have hcells : ∀ row ∈ ["Param", "Value"] :: entries.map fun entry =>
      [entry.1, Text.quoted entry.2], ∀ cell ∈ row, '\n' ∉ cell.toList := by
    refine List.forall_mem_cons.mpr ⟨hheader, List.forall_mem_map.mpr ?_⟩
    rintro ⟨label, value⟩ hentry
    simp only [List.forall_mem_cons]
    exact ⟨newline_notMem_rowLabels label (List.of_mem_zip hentry).1,
      Text.newline_notMem_quoted value, nofun⟩
  have hempty : '\n' ∉ "".toList := by decide
  have hlines := ((hasLines_table hcells).cons hempty).cons htemplate
  rw [← fragment_table_eq] at hlines
  refine ⟨_, _, hlines, rowLine_pair .., ?_⟩
  rw [List.map_map, List.forall₂_map_left_iff, List.forall₂_same]
  rintro ⟨label, value⟩ -
  exact ⟨_, rowLine_pair .., Text.unquote?_quoted value⟩

/-- What the placeholders of a template are called: the numbers that they bear, or else their
places. -/
def placeholderLabels (offset : Option Nat) (template : String) : List String :=
  match offset with
  | some _ => Sql.numbersIn template
  | none => (List.range' 1 (Sql.placeholdersIn template)).map toString

end Report

theorem Sql.Fragment.newline_notMem_numberFrom {cs : List Char} (h : '\n' ∉ cs) (last : Nat) :
    '\n' ∉ numberFrom last cs := by
  induction cs generalizing last with
  | nil => exact h
  | cons c cs ih =>
    obtain ⟨hc, hcs⟩ := List.ne_and_not_mem_of_not_mem_cons h
    rw [numberFrom]
    split
    · simp [Report.newline_notMem_toDigits, ih hcs]
    · simp [hc, ih hcs]

namespace Resolver

variable {r : Resolver} {t : Tree} {f : Fragment}

theorem Sound.newline_notMem_template (h : r.Sound) (hf : r.compile t = .ok f)
    (offset : Option Nat) : '\n' ∉ (offset.elim f.raw f.numbered).toList := by
  have hraw : '\n' ∉ f.raw.toList := fun hmem =>
    absurd (h.plain_compile hf '\n' hmem) (by decide)
  cases offset with
  | none => exact hraw
  | some offset =>
    simpa [Fragment.numbered] using Fragment.newline_notMem_numberFrom hraw offset

/-- **The labels of the rows are those of the placeholders.** -/
theorem Sound.placeholderLabels_eq (h : r.Sound) (hf : r.compile t = .ok f) (offset : Option Nat) :
    Report.placeholderLabels offset (offset.elim f.raw f.numbered) =
      Report.rowLabels offset f.values.length := by
  have haligned : f.raw.toList.count '?' = f.values.length := h.aligned.compile hf
  cases offset with
  | none =>
    simp only [Report.placeholderLabels, Report.rowLabels, Option.elim_none, Sql.placeholdersIn,
      haligned]
  | some offset =>
    obtain ⟨hnumbers, -⟩ :=
      Fragment.numberedParts_numberFrom (h.fenced_compile hf).tail offset
    simp only [Report.placeholderLabels, Report.rowLabels, Option.elim_some, Sql.numbersIn,
      Fragment.numbered, String.toList_ofList, hnumbers, haligned]

/-- **The table of a fragment agrees with its template.** -/
theorem Built.fragment_table_agrees {engine : PatternEngine} (hb : r.Built engine)
    (hf : r.compile t = .ok f) (offset : Option Nat) :
    let template := offset.elim f.raw f.numbered
    let labels := Report.placeholderLabels offset template
    ∃ header lines,
      HasLines (Report.fragment f .table offset) (template :: "" :: header :: lines) ∧
      ShowsPair header "Param" "Value" ∧
      labels.length = f.values.length ∧
      List.Forall₂ Report.ShowsValue lines (labels.zip f.values) := by
  intro template labels
  have hlabels : labels = Report.rowLabels offset f.values.length :=
    hb.sound.placeholderLabels_eq hf offset
  obtain ⟨header, lines, hlines, hheader, hvalues⟩ :=
    Report.hasLines_fragment (hb.sound.newline_notMem_template hf offset)
  refine ⟨header, lines, hlines, hheader, ?_, hlabels ▸ hvalues⟩
  rw [hlabels]
  cases offset <;> simp [Report.rowLabels]

/-- Three values, one with a quote and a line break and one with a backslash, numbered from nine. -/
theorem fragment_table_agrees_of_line_break :
    let t : Tree := .join (.comparison ⟨"line 2", .contains, "\"\n"⟩) .or
      (.group (.comparison ⟨"tags[\\]", .equal, "$1"⟩))
    ∃ r f, ofConfig ⟨[⟨"line_2", "text", some "line2"⟩],
        [{ name := "tags", foreignKey := "owner" }]⟩ = .ok r ∧
      r.compile t = .ok f ∧
      f.numbered 8 =
        "(line2 LIKE $9 OR (id IN (SELECT owner FROM tags WHERE key=$10 AND value=$11)))" ∧
      Report.placeholderLabels (some 8) (f.numbered 8) = ["$9", "$10", "$11"] ∧
      ∃ header lines,
        HasLines (Report.fragment f .table (some 8)) (f.numbered 8 :: "" :: header :: lines) ∧
        ShowsPair header "Param" "Value" ∧
        (Report.placeholderLabels (some 8) (f.numbered 8)).length = f.values.length ∧
        List.Forall₂ Report.ShowsValue lines
          ((Report.placeholderLabels (some 8) (f.numbered 8)).zip ["%\"\n%", "\\", "$1"]) := by
  intro t
  have hrun : (do
      let r ← ofConfig ⟨[⟨"line_2", "text", some "line2"⟩],
        [{ name := "tags", foreignKey := "owner" }]⟩
      r.compile t) = .ok ⟨"(line2 LIKE ? OR "
        ++ "(id IN (SELECT owner FROM tags WHERE key=? AND value=?)))", ["%\"\n%", "\\", "$1"]⟩ := by
    decide +kernel
  obtain ⟨r, hr, hf⟩ := bind_eq_ok.mp hrun
  exact ⟨r, _, hr, hf, by decide +kernel, by decide +kernel,
    Built.fragment_table_agrees (.config hr) hf (some 8)⟩

end Resolver

end FilterQuery
