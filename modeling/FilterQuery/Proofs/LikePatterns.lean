import FilterQuery.Resolver
import Mathlib.Data.List.Infix

/-!
# Patterns of `LIKE`

A containment comparison binds its value between two `%`, as a pattern of `LIKE` (`Sql.like`). Such
a pattern finds every text in which the value occurs (`Sql.Fragment.like_containing_of_infix`).
Whether it finds others too depends on the value alone: in a pattern `%` and `_` stand for
characters other than themselves, and nothing in the pattern takes that from those of the value. The
main statement is `containment_exact_iff`: the texts that are found are those in which the value
occurs if and only if the value has neither of the two in it.
-/

namespace FilterQuery

namespace Sql

/-- Whether a text matches a pattern of `LIKE`: `%` stands for any characters, none among them, and
`_` for any one. Every other character stands for itself, in its own case, and there is no escape
character. -/
def like : List Char → List Char → Bool
  | [], text => text.isEmpty
  | c :: pattern, text =>
    if c = '%' then text.tails.any fun rest => like pattern rest
    else
      match text with
      | [] => false
      | d :: rest => (c = '_' || c = d) && like pattern rest

/-- The characters that a pattern does not take for themselves. -/
def isWildcard (c : Char) : Bool :=
  c = '%' || c = '_'

variable {p q text : List Char}

/-! ### One character of a pattern -/

theorem like_nil : like [] text ↔ text = [] := by
  rw [like, List.isEmpty_iff]

theorem like_percent :
    like ('%' :: p) text ↔ ∃ skipped rest, text = skipped ++ rest ∧ like p rest := by
  simp only [like, if_true, List.any_eq_true, List.mem_tails]
  constructor
  · rintro ⟨rest, ⟨skipped, rfl⟩, h⟩
    exact ⟨skipped, rest, rfl, h⟩
  · rintro ⟨skipped, rest, rfl, h⟩
    exact ⟨rest, ⟨skipped, rfl⟩, h⟩

theorem like_cons {c : Char} (hc : c ≠ '%') : like (c :: p) text ↔
    ∃ d rest, text = d :: rest ∧ (c = '_' ∨ c = d) ∧ like p rest := by
  cases text with
  | nil => simp [like, hc]
  | cons d rest => simp [like, hc]

/-! ### Patterns in a row -/

/-- Patterns in a row match what can be cut into texts that they match one by one. -/
theorem like_append : like (p ++ q) text ↔ ∃ a b, text = a ++ b ∧ like p a ∧ like q b := by
  induction p generalizing text with
  | nil =>
    simp only [List.nil_append, like_nil]
    constructor
    · intro h
      exact ⟨[], text, rfl, rfl, h⟩
    · rintro ⟨a, b, rfl, rfl, h⟩
      exact h
  | cons c p ih =>
    rw [List.cons_append]
    by_cases hc : c = '%'
    · subst hc
      simp only [like_percent, ih]
      constructor
      · rintro ⟨skipped, rest, rfl, a, b, rfl, ha, hb⟩
        exact ⟨skipped ++ a, b, by rw [List.append_assoc], ⟨skipped, a, rfl, ha⟩, hb⟩
      · rintro ⟨-, b, rfl, ⟨skipped, a, rfl, ha⟩, hb⟩
        exact ⟨skipped, a ++ b, by rw [List.append_assoc], a, b, rfl, ha, hb⟩
    · simp only [like_cons hc, ih]
      constructor
      · rintro ⟨d, rest, rfl, hd, a, b, rfl, ha, hb⟩
        exact ⟨d :: a, b, rfl, ⟨d, a, rfl, hd, ha⟩, hb⟩
      · rintro ⟨-, b, rfl, ⟨d, a, rfl, hd, ha⟩, hb⟩
        exact ⟨d, a ++ b, rfl, hd, a, b, rfl, ha, hb⟩

theorem like_percent_alone (text : List Char) : like ['%'] text :=
  like_percent.mpr ⟨text, [], (List.append_nil text).symm, like_nil.mpr rfl⟩

/-- Between two `%` a pattern may match any part of a text. -/
theorem like_between : like ('%' :: (p ++ ['%'])) text ↔ ∃ part, part <:+: text ∧ like p part := by
  rw [like_percent]
  simp only [like_append]
  constructor
  · rintro ⟨before, -, rfl, part, after, rfl, hpart, -⟩
    exact ⟨part, ⟨before, after, List.append_assoc ..⟩, hpart⟩
  · rintro ⟨part, ⟨before, after, rfl⟩, hpart⟩
    exact ⟨before, part ++ after, List.append_assoc .., part, after, rfl, hpart,
      like_percent_alone after⟩

/-! ### Values as patterns -/

/-- Every text matches itself, wildcards or not. -/
theorem like_self (value : List Char) : like value value := by
  induction value with
  | nil => exact like_nil.mpr rfl
  | cons c value ih =>
    by_cases hc : c = '%'
    · subst hc
      exact like_percent.mpr ⟨['%'], value, rfl, ih⟩
    · exact (like_cons hc).mpr ⟨c, value, rfl, .inr rfl, ih⟩

/-- Without wildcards it matches nothing else. -/
theorem like_of_forall_not_isWildcard {value : List Char} (h : ∀ c ∈ value, isWildcard c = false) :
    like value text ↔ text = value := by
  constructor
  · intro hlike
    induction value generalizing text with
    | nil => exact like_nil.mp hlike
    | cons c value ih =>
      obtain ⟨hc, hvalue⟩ := List.forall_mem_cons.mp h
      simp only [isWildcard, Bool.or_eq_false_iff, decide_eq_false_iff_not] at hc
      obtain ⟨d, rest, rfl, hd, hrest⟩ := (like_cons hc.1).mp hlike
      rw [ih hvalue hrest, hd.resolve_left hc.2]
  · rintro rfl
    exact like_self text

/-- Every pattern matches some text without wildcards: each `_` can be a letter, and each `%`
nothing. -/
theorem exists_like_of_forall_not_isWildcard (value : List Char) :
    ∃ text, like value text ∧ ∀ c ∈ text, isWildcard c = false := by
  induction value with
  | nil => exact ⟨[], like_nil.mpr rfl, nofun⟩
  | cons c value ih =>
    obtain ⟨text, hlike, htext⟩ := ih
    by_cases hany : c = '%'
    · subst hany
      exact ⟨text, like_percent.mpr ⟨[], text, rfl, hlike⟩, htext⟩
    by_cases hone : c = '_'
    · refine ⟨'a' :: text, (like_cons hany).mpr ⟨'a', text, rfl, .inl hone, hlike⟩, ?_⟩
      exact List.forall_mem_cons.mpr ⟨by decide, htext⟩
    · refine ⟨c :: text, (like_cons hany).mpr ⟨c, text, rfl, .inr rfl, hlike⟩, ?_⟩
      exact List.forall_mem_cons.mpr ⟨by simp [isWildcard, hany, hone], htext⟩

namespace Fragment

theorem toList_containing (value : String) :
    (containing value).toList = '%' :: (value.toList ++ ['%']) := by
  simp [containing]

/-- A containment comparison finds a text by a part that its value matches as a pattern. -/
theorem like_containing {value : String} :
    like (containing value).toList text ↔ ∃ part, part <:+: text ∧ like value.toList part := by
  rw [toList_containing, like_between]

/-- **Wherever a value occurs it is found.** -/
theorem like_containing_of_infix {value : String} (h : value.toList <:+: text) :
    like (containing value).toList text :=
  like_containing.mpr ⟨value.toList, h, like_self value.toList⟩

/-- **Only where it occurs is it found**, if and only if it has no wildcards. -/
theorem like_containing_iff_infix {value : String} :
    (∀ text, like (containing value).toList text ↔ value.toList <:+: text) ↔
      ∀ c ∈ value.toList, isWildcard c = false := by
  constructor
  · intro h c hc
    -- a text without wildcards that the value matches cannot contain the value unless it has none
    obtain ⟨text, hlike, htext⟩ := exists_like_of_forall_not_isWildcard value.toList
    have hfound := (h text).mp (like_containing.mpr ⟨text, List.infix_refl text, hlike⟩)
    exact htext c (hfound.mem hc)
  · intro h text
    simp only [like_containing, like_of_forall_not_isWildcard h]
    exact ⟨fun ⟨part, hpart, heq⟩ => heq ▸ hpart, fun hvalue => ⟨value.toList, hvalue, rfl⟩⟩

end Fragment

end Sql

open Sql (Fragment like isWildcard)

/-- A collection is asked for the value that a comparison of a column would bind, behind the key. -/
theorem Collection.values_of_compile {c : Collection} {field value : String}
    {comparator : Comparator} {f : Fragment} (h : c.compile ⟨field, comparator, value⟩ = .ok f)
    (column : String) :
    ∃ key, f.values = key :: (Fragment.compare column comparator value).values := by
  unfold compile at h
  split at h
  · next key _ =>
    obtain rfl := Except.ok.inj h
    refine ⟨key, ?_⟩
    cases comparator <;> rfl
  · exact absurd h nofun

/-- **A containment comparison finds the texts in which its value occurs, and no others, if and only
if the value has no wildcards.** It binds one pattern, be it with a column or with the values of a
collection. The pattern finds all texts in which the value occurs, and beyond them those that have a
part which the value matches as a pattern itself. -/
theorem containment_exact_iff (value : String) :
    ∃ pattern : String,
      (∀ column, (Fragment.compare column .contains value).values = [pattern]) ∧
      (∀ (c : Collection) (field : String) (f : Fragment),
        c.compile ⟨field, .contains, value⟩ = .ok f → ∃ key, f.values = [key, pattern]) ∧
      (∀ text, value.toList <:+: text → like pattern.toList text) ∧
      (∀ text, like pattern.toList text ↔ ∃ part, part <:+: text ∧ like value.toList part) ∧
      ((∀ text, like pattern.toList text ↔ value.toList <:+: text) ↔
        ∀ c ∈ value.toList, isWildcard c = false) :=
  ⟨Fragment.containing value, fun _ => rfl, fun _ _ _ h => Collection.values_of_compile h "",
    fun _ => Fragment.like_containing_of_infix, fun _ => Fragment.like_containing,
    Fragment.like_containing_iff_infix⟩

/-- For example, the pattern for `a_b` finds `axb`. -/
theorem containment_of_underscore :
    (Fragment.compare "name" .contains "a_b").values = ["%a_b%"] ∧
      like "%a_b%".toList "axb".toList ∧ ¬ "a_b".toList <:+: "axb".toList := by
  decide +kernel

end FilterQuery
