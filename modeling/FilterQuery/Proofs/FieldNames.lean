import FilterQuery.Proofs.CaseFolding
import FilterQuery.Resolver
import Mathlib.Data.List.Basic
import Mathlib.Logic.Relation

/-!
# Field names and their spellings

A name is spelled anew by putting separators into it, by changing the case of its letters, and by
undoing either (`IsRespelling`). Two names have one canonical name if and only if one is a
respelling of the other (`canonicalName_eq_iff`), and the canonical name is itself a respelling. It
rests on two facts about the table of lower case, which are checked by evaluation as they are for
case folding: the lower case of a character is its own lower case, and no character but a separator
has a separator in its lower case. The main statement is `canonicalName_stable`.
-/

namespace FilterQuery

/-- The characters that separate words, one by one. -/
def separators : List Char := ['_', '-', '.', ' ']

theorem isSeparator_iff {c : Char} : isSeparator c ↔ c ∈ separators := by
  simp [isSeparator, separators, or_assoc]

/-! ### Lower case -/

namespace Unicode

variable {c d : Char}

/-- No character that a run leads to is moved again. -/
theorem isFolding_lowercaseRuns : IsFolding lowercaseRuns :=
  .of_masks (by decide +kernel) (by decide +kernel) (by decide +kernel)

/-- No run leads to a separator, or to the `I` with a dot above. -/
theorem not_target_has_of_mem : ∀ d ∈ Char.ofNat 0x130 :: separators,
    ∀ r ∈ lowercaseRuns, ¬r.target.Has d.toNat := by
  intro d hd
  simp only [separators, List.mem_cons, List.not_mem_nil, or_false] at hd
  rcases hd with rfl | rfl | rfl | rfl | rfl <;> decide +kernel

/-- The lower case of the `I` with a dot above has two characters, all others have one. -/
theorem mem_lowercase_cases (hd : d ∈ lowercase c) :
    d = 'i' ∨ d = Char.ofNat 0x307 ∨ c.toNat ≠ 0x130 ∧ mapChar lowercaseRuns c = d := by
  by_cases hc : c.toNat = 0x130
  · rw [lowercase, if_pos hc, List.mem_cons, List.mem_singleton] at hd
    exact hd.imp_right .inl
  · rw [lowercase, if_neg hc, List.mem_singleton] at hd
    exact .inr (.inr ⟨hc, hd.symm⟩)

/-- A separator is in no lower case but its own, and the `I` with a dot above is in none. -/
theorem eq_of_mem_lowercase (hmem : d ∈ Char.ofNat 0x130 :: separators) (hd : d ∈ lowercase c) :
    c = d := by
  rcases mem_lowercase_cases hd with rfl | rfl | ⟨-, hmap⟩
  · exact absurd hmem (by decide)
  · exact absurd hmem (by decide)
  · exact isFolding_lowercaseRuns.eq_of_mapChar_eq (not_target_has_of_mem d hmem) hmap

/-- **The lower case of a character is its own lower case.** -/
theorem lowercase_of_mem (hd : d ∈ lowercase c) : lowercase d = [d] := by
  rcases mem_lowercase_cases hd with rfl | rfl | ⟨hc, hmap⟩
  · decide +kernel
  · decide +kernel
  · have hne : d.toNat ≠ 0x130 := by
      intro hdot
      obtain rfl : d = Char.ofNat 0x130 := by rw [← hdot, Char.ofNat_toNat]
      rw [eq_of_mem_lowercase (List.mem_cons_self ..) hd] at hc
      exact hc hdot
    rw [lowercase, if_neg hne, ← hmap, isFolding_lowercaseRuns.mapChar_mapChar]

/-- A separator has no case. -/
theorem lowercase_of_separator (h : isSeparator c) : lowercase c = [c] := by
  rw [isSeparator_iff] at h
  simp only [separators, List.mem_cons, List.not_mem_nil, or_false] at h
  rcases h with rfl | rfl | rfl | rfl <;> decide +kernel

/-- A capital of ASCII becomes another letter, the one that is its lower case in ASCII. -/
theorem lowercase_of_isUpper (h : c.isUpper) : lowercase c = [c.toLower] ∧ c.toLower ≠ c := by
  have hcapitals : ∀ n < 91, 65 ≤ n → lowercase (Char.ofNat n) = [(Char.ofNat n).toLower] ∧
      (Char.ofNat n).toLower ≠ Char.ofNat n := by decide +kernel
  have hfirst : 'A'.toNat ≤ c.toNat := (of_decide_eq_true h).1
  have hlast : c.toNat ≤ 'Z'.toNat := (of_decide_eq_true h).2
  have hcapital := hcapitals c.toNat (Nat.lt_succ_of_le hlast) hfirst
  rwa [Char.ofNat_toNat] at hcapital

end Unicode

open Unicode (lowercase)

/-! ### Characters of names -/

/-- What becomes of a character in a canonical name. -/
def canonicalChars (c : Char) : List Char :=
  if isSeparator c then [] else lowercase c

section Characters

variable {c d : Char}

theorem canonicalChars_of_separator (h : isSeparator c) : canonicalChars c = [] := if_pos h

theorem canonicalChars_of_not_separator (h : ¬isSeparator c) : canonicalChars c = lowercase c :=
  if_neg h

/-- Lower case does not bring separators in. -/
theorem not_isSeparator_of_mem_lowercase (hc : ¬isSeparator c) (hd : d ∈ lowercase c) :
    ¬isSeparator d := by
  intro hsep
  have hmem : d ∈ Char.ofNat 0x130 :: separators := List.mem_cons_of_mem _ (isSeparator_iff.mp hsep)
  rw [Unicode.eq_of_mem_lowercase hmem hd] at hc
  exact hc hsep

/-- **What a character becomes** stays what it is. -/
theorem canonicalChars_of_mem (h : d ∈ canonicalChars c) : canonicalChars d = [d] := by
  by_cases hc : isSeparator c
  · simp [canonicalChars_of_separator hc] at h
  · rw [canonicalChars_of_not_separator hc] at h
    rw [canonicalChars_of_not_separator (not_isSeparator_of_mem_lowercase hc h),
      Unicode.lowercase_of_mem h]

/-- A text of characters that stay what they are stays what it is. -/
theorem flatMap_canonicalChars_of_forall {text : List Char}
    (h : ∀ d ∈ text, canonicalChars d = [d]) : text.flatMap canonicalChars = text := by
  rw [List.flatMap_congr h, List.flatMap_singleton']

theorem not_separator_of_canonicalChars (h : canonicalChars d = [d]) : d ∉ separators := by
  intro hd
  simp [canonicalChars_of_separator (isSeparator_iff.mpr hd)] at h

/-- A capital of ASCII is not its own lower case. -/
theorem not_isUpper_of_canonicalChars (h : canonicalChars d = [d]) : ¬d.isUpper := by
  intro hupper
  have hsep : ¬isSeparator d := mt isSeparator_iff.mp (not_separator_of_canonicalChars h)
  obtain ⟨hlower, hne⟩ := Unicode.lowercase_of_isUpper hupper
  rw [canonicalChars_of_not_separator hsep, hlower] at h
  exact hne (List.singleton_inj.mp h)

/-- The case of a letter of ASCII does not show. -/
theorem canonicalChars_toLower (c : Char) : canonicalChars c.toLower = canonicalChars c := by
  by_cases hupper : c.isUpper
  · obtain ⟨hlower, hne⟩ := Unicode.lowercase_of_isUpper hupper
    have hsep : ¬isSeparator c := by
      intro hsep
      rw [Unicode.lowercase_of_separator hsep] at hlower
      exact hne (List.singleton_inj.mp hlower).symm
    rw [← canonicalChars_of_not_separator hsep] at hlower
    rw [hlower]
    exact canonicalChars_of_mem (hlower ▸ List.mem_singleton_self _)
  · have hsame : c.toLower = c := dif_neg fun hrange => hupper (decide_eq_true hrange)
    rw [hsame]

/-- A character and its lower case become the same. -/
theorem flatMap_canonicalChars_lowercase (c : Char) :
    (lowercase c).flatMap canonicalChars = canonicalChars c := by
  by_cases hc : isSeparator c
  · rw [Unicode.lowercase_of_separator hc, List.flatMap_singleton]
  · have hstays := flatMap_canonicalChars_of_forall fun d => canonicalChars_of_mem (c := c) (d := d)
    rwa [canonicalChars_of_not_separator hc] at hstays ⊢

end Characters

/-! ### Spellings -/

/-- One way to spell a name anew. -/
inductive NameEdit : List Char → List Char → Prop where
  /-- A separator is put in. -/
  | separator {c : Char} (hc : c ∈ separators) (before after : List Char) :
    NameEdit (before ++ after) (before ++ c :: after)
  /-- A letter of ASCII changes its case. -/
  | recase {c d : Char} (hcase : c.toLower = d.toLower) (before after : List Char) :
    NameEdit (before ++ c :: after) (before ++ d :: after)
  /-- A character of any script is put in lower case, which may be two characters. -/
  | lower (c : Char) (before after : List Char) :
    NameEdit (before ++ c :: after) (before ++ (lowercase c ++ after))

/-- The name is spelled anew, in any number of ways, one after the other, done or undone. -/
def IsRespelling (name other : String) : Prop :=
  Relation.EqvGen NameEdit name.toList other.toList

section Spellings

variable {xs ys : List Char} {name other : String}

theorem toList_canonicalName (name : String) :
    (canonicalName name).toList = name.toList.flatMap canonicalChars := by
  rw [canonicalName, String.toList_ofList]
  generalize name.toList = text
  induction text with
  | nil => rfl
  | cons c rest ih => by_cases hc : isSeparator c <;> simp [hc, canonicalChars, ih]

/-- **One edit** does not change the canonical name. -/
theorem NameEdit.flatMap_eq (h : NameEdit xs ys) :
    xs.flatMap canonicalChars = ys.flatMap canonicalChars := by
  cases h with
  | separator hc before after =>
    simp only [List.flatMap_append, List.flatMap_cons,
      canonicalChars_of_separator (isSeparator_iff.mpr hc), List.nil_append]
  | @recase c d hcase before after =>
    have hsame : canonicalChars c = canonicalChars d := by
      rw [← canonicalChars_toLower c, hcase, canonicalChars_toLower]
    simp only [List.flatMap_append, List.flatMap_cons, hsame]
  | lower c before after =>
    simp only [List.flatMap_append, List.flatMap_cons, flatMap_canonicalChars_lowercase]

/-- **Any number of edits**, done or undone, does not. -/
theorem flatMap_eq_of_eqvGen (h : Relation.EqvGen NameEdit xs ys) :
    xs.flatMap canonicalChars = ys.flatMap canonicalChars := by
  induction h with
  | rel _ _ hedit => exact hedit.flatMap_eq
  | refl => rfl
  | symm _ _ _ ih => exact ih.symm
  | trans _ _ _ _ _ ihl ihr => exact ihl.trans ihr

/-- A respelling has the same canonical name. -/
theorem IsRespelling.canonicalName_eq (h : IsRespelling name other) :
    canonicalName other = canonicalName name := by
  rw [← String.toList_inj, toList_canonicalName, toList_canonicalName, flatMap_eq_of_eqvGen h]

/-- A character is taken out or put in lower case by one edit, done or undone. -/
theorem eqvGen_canonicalChars (c : Char) (before after : List Char) :
    Relation.EqvGen NameEdit (before ++ c :: after) (before ++ (canonicalChars c ++ after)) := by
  by_cases hc : isSeparator c
  · rw [canonicalChars_of_separator hc, List.nil_append]
    exact .symm _ _ (.rel _ _ (.separator (isSeparator_iff.mp hc) before after))
  · rw [canonicalChars_of_not_separator hc]
    exact .rel _ _ (.lower c before after)

/-- Character by character a text becomes the canonical one. -/
theorem eqvGen_flatMap_canonicalChars (before text : List Char) :
    Relation.EqvGen NameEdit (before ++ text) (before ++ text.flatMap canonicalChars) := by
  -- `before` is canonical already: the next edit is made behind it
  induction text generalizing before with
  | nil => exact .refl _
  | cons c text ih =>
    have hrest := ih (before ++ canonicalChars c)
    rw [List.append_assoc, List.append_assoc, ← List.flatMap_cons] at hrest
    exact .trans _ _ _ (eqvGen_canonicalChars c before text) hrest

/-- **A canonical name is a respelling** of the name. -/
theorem isRespelling_canonicalName (name : String) : IsRespelling name (canonicalName name) := by
  unfold IsRespelling
  rw [toList_canonicalName]
  exact eqvGen_flatMap_canonicalChars [] name.toList

/-- **Names with one canonical name** are the respellings of each other. -/
theorem canonicalName_eq_iff : canonicalName other = canonicalName name ↔
    IsRespelling name other := by
  constructor
  · intro h
    have hback : IsRespelling (canonicalName name) other :=
      h ▸ Relation.EqvGen.symm _ _ (isRespelling_canonicalName other)
    exact Relation.EqvGen.trans _ _ _ (isRespelling_canonicalName name) hback
  · exact IsRespelling.canonicalName_eq

/-- A canonical name is made of characters that stay what they are. -/
theorem canonicalChars_of_mem_canonicalName {d : Char} (h : d ∈ (canonicalName name).toList) :
    canonicalChars d = [d] := by
  rw [toList_canonicalName, List.mem_flatMap] at h
  obtain ⟨c, -, hd⟩ := h
  exact canonicalChars_of_mem hd

end Spellings

/-- **Canonical names are stable.** A canonical name has no separators and no capitals of ASCII, and
is its own canonical name. It does not depend on how the name is spelled, and on nothing less: names
with the same canonical name are respellings of each other. So a resolver finds the same for a name,
for its canonical name and for all respellings. -/
theorem canonicalName_stable (name : String) :
    (∀ c ∈ (canonicalName name).toList, c ∉ separators ∧ ¬c.isUpper) ∧
    canonicalName (canonicalName name) = canonicalName name ∧
    (∀ other, canonicalName other = canonicalName name ↔ IsRespelling name other) ∧
    ∀ r : Resolver, r.column? (canonicalName name) = r.column? name ∧
      ∀ other, IsRespelling name other → r.column? other = r.column? name := by
  have hfinds (r : Resolver) (other : String) (h : IsRespelling name other) :
      r.column? other = r.column? name := by
    rw [Resolver.column?, Resolver.column?, h.canonicalName_eq]
  refine ⟨fun c hc => ?_, (isRespelling_canonicalName name).canonicalName_eq,
    fun other => canonicalName_eq_iff, fun r => ⟨?_, hfinds r⟩⟩
  · have hstays := canonicalChars_of_mem_canonicalName hc
    exact ⟨not_separator_of_canonicalChars hstays, not_isUpper_of_canonicalChars hstays⟩
  · exact hfinds r _ (isRespelling_canonicalName name)

/-- An `I` with a dot above, whose lower case has two characters, a separator and a capital. -/
theorem canonicalName_stable_of_dotted_capital :
    let name := "\u0130d-A"
    let other := "i\u0307_d.a"
    IsRespelling name other ∧ canonicalName other = canonicalName name ∧
      ('a' ∈ (canonicalName name).toList ∧ 'a' ∉ separators ∧ ¬ 'a'.isUpper) ∧
      ∀ r : Resolver, r.column? other = r.column? name := by
  intro name other
  have hname : name.toList = [Char.ofNat 0x130, 'd', '-', 'A'] := by decide +kernel
  have hother : other.toList = ['i', Char.ofNat 0x307, '_', 'd', '.', 'a'] := by decide +kernel
  have hrespelling : IsRespelling name other := by
    rw [IsRespelling, hname, hother]
    -- the dotted capital, the separator behind it, the point for the hyphen, the last letter
    refine .trans _ _ _ (.rel _ _ (.lower _ [] _)) ?_
    refine .trans _ _ _ (.rel _ _ (.separator (c := '_') (by decide) ['i', Char.ofNat 0x307] _)) ?_
    refine .trans _ _ _ (.symm _ _ (.rel _ _ (.separator (c := '-') (by decide)
      ['i', Char.ofNat 0x307, '_', 'd'] ['A']))) ?_
    refine .trans _ _ _ (.rel _ _ (.separator (c := '.') (by decide)
      ['i', Char.ofNat 0x307, '_', 'd'] _)) ?_
    exact .rel _ _ (.recase (by decide) ['i', Char.ofNat 0x307, '_', 'd', '.'] [])
  obtain ⟨hclean, -, hexact, hfinds⟩ := canonicalName_stable name
  have hmem : 'a' ∈ (canonicalName name).toList := by decide +kernel
  exact ⟨hrespelling, (hexact other).mpr hrespelling, ⟨hmem, hclean 'a' hmem⟩,
    fun r => (hfinds r).2 other hrespelling⟩

end FilterQuery
