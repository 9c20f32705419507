import FilterQuery.Sql.Identifier

/-!
# The characters of identifiers

An identifier starts as a name does, and goes on with characters of names and dots
(`exists_cons_of_isIdentifier`). The check reads the text once from left to right; that it finds
exactly the names joined by dots is `isIdentifier_iff`.
-/

namespace FilterQuery.Sql

/-- The characters that are in identifiers. -/
def isIdentifierChar (c : Char) : Bool := isNameChar c || c = '.'

theorem isNameChar_of_isNameStart {c : Char} (h : isNameStart c) : isNameChar c := by
  simp only [isNameStart, isNameChar, Char.isAlphanum, Bool.or_eq_true] at h ⊢
  rcases h with h | h
  · exact .inl (.inl h)
  · exact .inr h

theorem isIdentifierChar_of_isNameChar {c : Char} (h : isNameChar c) : isIdentifierChar c := by
  simp [isIdentifierChar, h]

theorem isIdentifierChar_of_completes {atStart : Bool} {cs : List Char}
    (h : completesIdentifier atStart cs) : ∀ c ∈ cs, isIdentifierChar c := by
  induction cs generalizing atStart with
  | nil => simp
  | cons c cs ih =>
    unfold completesIdentifier at h
    split at h
    · next hc =>
      simp only [Bool.and_eq_true] at h
      simpa [isIdentifierChar, hc] using ih h.2
    · simp only [Bool.and_eq_true] at h
      have hc : isNameChar c := by
        cases atStart with
        | false => simpa using h.1
        | true => exact isNameChar_of_isNameStart (by simpa using h.1)
      simpa [isIdentifierChar_of_isNameChar hc] using ih h.2

/-- An identifier starts as a name does. -/
theorem exists_cons_of_isIdentifier {name : String} (h : isIdentifier name) :
    ∃ c cs, name.toList = c :: cs ∧ isNameStart c ∧ ∀ d ∈ cs, isIdentifierChar d := by
  unfold isIdentifier at h
  cases hn : name.toList with
  | nil => simp [hn, completesIdentifier] at h
  | cons c cs =>
    rw [hn] at h
    refine ⟨c, cs, rfl, ?_, fun d hd => isIdentifierChar_of_completes h d (.tail _ hd)⟩
    unfold completesIdentifier at h
    split at h
    · simp at h
    · simp only [Bool.and_eq_true] at h
      simpa using h.1

/-! ### Names joined by dots -/

/-- A name without dots, `[A-Za-z_][A-Za-z0-9_]*`. -/
def IsPlainName (name : List Char) : Prop :=
  ∃ c cs, name = c :: cs ∧ (c.isAlpha ∨ c = '_') ∧ ∀ d ∈ cs, d.isAlphanum ∨ d = '_'

/-- One plain name or more, joined by dots. -/
def IsIdentifier (text : String) : Prop :=
  ∃ names, names ≠ [] ∧ (∀ name ∈ names, IsPlainName name) ∧ text.toList = ['.'].intercalate names

theorem isPlainName_cons_iff {c : Char} {cs : List Char} :
    IsPlainName (c :: cs) ↔ isNameStart c ∧ ∀ d ∈ cs, isNameChar d := by
  simp only [isNameStart, isNameChar, Bool.or_eq_true, decide_eq_true_eq]
  constructor
  · rintro ⟨_, _, ⟨⟩, h⟩
    exact h
  · intro h
    exact ⟨c, cs, rfl, h⟩

theorem ne_dot_of_isNameChar {c : Char} (h : isNameChar c) : c ≠ '.' := by
  rintro rfl
  revert h
  decide

theorem intercalate_dot_cons (first : List Char) (others : List (List Char)) :
    ['.'].intercalate (first :: others) = first ++ others.flatMap ('.' :: ·) := by
  induction others generalizing first with
  | nil => simp
  | cons name others ih => simp [List.intercalate_cons_cons, ih]

/-- The characters of a name are read without an end to it. -/
theorem completes_append {word : List Char} (h : ∀ d ∈ word, isNameChar d) (rest : List Char) :
    completesIdentifier false (word ++ rest) = completesIdentifier false rest := by
  induction word with
  | nil => rfl
  | cons d word ih =>
    obtain ⟨hd, hword⟩ := List.forall_mem_cons.mp h
    rw [List.cons_append, completesIdentifier, if_neg (ne_dot_of_isNameChar hd), ih hword]
    simp [hd]

theorem completes_name_append {name : List Char} (h : IsPlainName name) (rest : List Char) :
    completesIdentifier true (name ++ rest) = completesIdentifier false rest := by
  obtain ⟨c, cs, rfl, -⟩ := id h
  obtain ⟨hc, hcs⟩ := isPlainName_cons_iff.mp h
  have hdot := ne_dot_of_isNameChar (isNameChar_of_isNameStart hc)
  rw [List.cons_append, completesIdentifier, if_neg hdot, completes_append hcs]
  simp [hc]

/-- Further names are read, each behind its dot. -/
theorem completes_names {names : List (List Char)} (h : ∀ name ∈ names, IsPlainName name) :
    completesIdentifier false (names.flatMap ('.' :: ·)) := by
  induction names with
  | nil => rfl
  | cons name names ih =>
    obtain ⟨hname, hnames⟩ := List.forall_mem_cons.mp h
    rw [List.flatMap_cons, List.cons_append, completesIdentifier, if_pos rfl,
      completes_name_append hname, ih hnames]
    rfl

/-- What is read to its end is a name, or what is left of one, and further names behind it. -/
theorem exists_names_of_completes {atStart : Bool} {cs : List Char}
    (h : completesIdentifier atStart cs) : ∃ (first : List Char) (others : List (List Char)),
      (if atStart then IsPlainName first else ∀ d ∈ first, isNameChar d) ∧
      (∀ name ∈ others, IsPlainName name) ∧ cs = first ++ others.flatMap ('.' :: ·) := by
  induction cs generalizing atStart with
  | nil =>
    obtain rfl : atStart = false := by simpa [completesIdentifier] using h
    exact ⟨[], [], nofun, nofun, rfl⟩
  | cons c cs ih =>
    unfold completesIdentifier at h
    split at h
    · next hdot =>
      -- the dot ends the name before it, and the next one is the first of the others
      obtain ⟨hstart, hrest⟩ := Bool.and_eq_true_iff.mp h
      obtain rfl : atStart = false := by simpa using hstart
      obtain ⟨first, others, hfirst, hothers, rfl⟩ := ih hrest
      rw [if_pos rfl] at hfirst
      exact ⟨[], first :: others, nofun, List.forall_mem_cons.mpr ⟨hfirst, hothers⟩, by simp [hdot]⟩
    · obtain ⟨hc, hrest⟩ := Bool.and_eq_true_iff.mp h
      obtain ⟨first, others, hfirst, hothers, rfl⟩ := ih hrest
      rw [if_neg nofun] at hfirst
      refine ⟨c :: first, others, ?_, hothers, rfl⟩
      cases atStart with
      | false => simpa using ⟨by simpa using hc, hfirst⟩
      | true => simpa [isPlainName_cons_iff] using ⟨by simpa using hc, hfirst⟩

/-- **The identifiers are the names joined by dots.** -/
theorem isIdentifier_iff {text : String} : isIdentifier text ↔ IsIdentifier text := by
  constructor
  · intro h
    obtain ⟨first, others, hfirst, hothers, htext⟩ := exists_names_of_completes h
    rw [if_pos rfl] at hfirst
    exact ⟨first :: others, by simp, List.forall_mem_cons.mpr ⟨hfirst, hothers⟩,
      by rw [htext, intercalate_dot_cons]⟩
  · rintro ⟨names, hne, hnames, htext⟩
    obtain ⟨first, others, rfl⟩ := List.exists_cons_of_ne_nil hne
    obtain ⟨hfirst, hothers⟩ := List.forall_mem_cons.mp hnames
    rw [isIdentifier, htext, intercalate_dot_cons, completes_name_append hfirst]
    exact completes_names hothers

end FilterQuery.Sql
