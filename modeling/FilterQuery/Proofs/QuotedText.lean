import FilterQuery.Json.Token
import FilterQuery.Proofs.Basics
import FilterQuery.Text.Quoted
import Mathlib.Data.Nat.Digits.Defs

/-!
# Reading quoted text

Quoted text is for people to read, but nothing of it is lost: `Text.unquote?` reads the escapes
back, and finds for every text the text itself (`Text.unquote?_quoted`). And it is on one line,
whatever was quoted (`Text.newline_notMem_quoted`).
-/

namespace FilterQuery.Text

/-! ### Code points -/

/-- The number that hexadecimal digits write. -/
def hexNumber? (digits : List Char) : Option Nat :=
  digits.foldlM (fun n d => (Json.hexDigit? d).map (16 * n + ·)) 0

/-- The character of a code point in one to six hexadecimal digits. -/
def codePoint? (digits : List Char) : Option Char := do
  let n ← hexNumber? digits
  if digits ≠ [] ∧ digits.length ≤ 6 ∧ n.isValidChar then some (Char.ofNat n) else none

theorem hexDigit?_digitChar {d : Nat} (h : d < 16) : Json.hexDigit? (Nat.digitChar d) = some d := by
  have hdigits : ∀ d < 16, Json.hexDigit? (Nat.digitChar d) = some d := by decide
  exact hdigits d h

theorem hexNumber?_toDigits (n : Nat) : hexNumber? (Nat.toDigits 16 n) = some n := by
  induction n using Nat.strongRecOn with
  | ind n ih =>
    rw [Nat.toDigits_eq_if (by decide)]
    split
    · next hlt => simp [hexNumber?, hexDigit?_digitChar hlt]
    · next hge =>
      have hfirst := ih (n / 16) (Nat.div_lt_self (by omega) (by decide))
      have hlast := hexDigit?_digitChar (Nat.mod_lt n (by decide : 0 < 16))
      rw [hexNumber?] at hfirst
      simp [hexNumber?, List.foldlM_append, hfirst, hlast, Nat.div_add_mod]

theorem exists_digitChar_of_mem_toDigits {n : Nat} {c : Char} (h : c ∈ Nat.toDigits 16 n) :
    ∃ d < 16, c = Nat.digitChar d := by
  induction n using Nat.strongRecOn with
  | ind n ih =>
    rw [Nat.toDigits_eq_if (by decide)] at h
    split at h
    · next hlt => exact ⟨n, hlt, List.mem_singleton.mp h⟩
    · next hge =>
      rcases List.mem_append.mp h with h | h
      · exact ih (n / 16) (Nat.div_lt_self (by omega) (by decide)) h
      · exact ⟨n % 16, Nat.mod_lt n (by decide), List.mem_singleton.mp h⟩

/-- What is no hexadecimal digit is not among the digits of a number. -/
theorem notMem_toDigits {c : Char} (h : Json.hexDigit? c = none) (n : Nat) :
    c ∉ Nat.toDigits 16 n := by
  intro hmem
  obtain ⟨d, hd, rfl⟩ := exists_digitChar_of_mem_toDigits hmem
  rw [hexDigit?_digitChar hd] at h
  exact absurd h nofun

theorem codePoint?_toDigits (c : Char) : codePoint? (Nat.toDigits 16 c.toNat) = some c := by
  have hvalid : c.toNat.isValidChar := c.valid
  have hlt : c.toNat < 16 ^ 6 := by
    rcases hvalid with h | h <;> omega
  have hlength : (Nat.toDigits 16 c.toNat).length ≤ 6 :=
    (Nat.length_toDigits_le_iff (by decide) (by decide)).mpr hlt
  simp [codePoint?, hexNumber?_toDigits, hlength, hvalid, Nat.toDigits_ne_nil, Char.ofNat_toNat]

/-! ### Reading -/

/-- The character of an escape by one letter. -/
def shortEscape? : Char → Option Char
  | '"' => some '"'
  | '\\' => some '\\'
  | '0' => some '\x00'
  | 't' => some '\t'
  | 'n' => some '\n'
  | 'r' => some '\r'
  | _ => none

/-- Reads what stands behind an opening quote. The closing quote has to be the end of it. -/
def unquoteRest? : List Char → Option (List Char)
  | ['"'] => some []
  | '\\' :: 'u' :: '\x7b' :: rest =>
    (codePoint? (rest.takeWhile (· ≠ '\x7d'))).bind fun c =>
      (unquoteRest? ((rest.dropWhile (· ≠ '\x7d')).drop 1)).map (c :: ·)
  | '\\' :: letter :: rest =>
    (shortEscape? letter).bind fun c => (unquoteRest? rest).map (c :: ·)
  | c :: rest => if c = '"' then none else (unquoteRest? rest).map (c :: ·)
  | [] => none
  termination_by cs => cs.length
  decreasing_by
    · have := (List.dropWhile_sublist (· ≠ '\x7d') (l := rest)).length_le
      simp only [List.length_drop, List.length_cons]
      omega
    · simp only [List.length_cons]
      omega
    · simp

/-- The text that was quoted. -/
def unquote? (written : String) : Option String :=
  match written.toList with
  | '"' :: rest => (unquoteRest? rest).map String.ofList
  | _ => none

theorem unquoteRest?_plain {c : Char} (hquote : c ≠ '"') (hslash : c ≠ '\\') (rest : List Char) :
    unquoteRest? (c :: rest) = (unquoteRest? rest).map (c :: ·) := by
  rw [unquoteRest?.eq_def]
  split <;> simp_all

theorem unquoteRest?_short {letter c : Char} (h : shortEscape? letter = some c) (rest : List Char) :
    unquoteRest? ('\\' :: letter :: rest) = (unquoteRest? rest).map (c :: ·) := by
  have hletter : letter ≠ 'u' := by
    rintro rfl
    exact absurd h nofun
  rw [unquoteRest?, h, Option.bind_some]
  simp [hletter]

theorem unquoteRest?_codePoint (c : Char) (rest : List Char) :
    unquoteRest? ('\\' :: 'u' :: '\x7b' :: (Nat.toDigits 16 c.toNat ++ '\x7d' :: rest)) =
      (unquoteRest? rest).map (c :: ·) := by
  have hdigits : ∀ d ∈ Nat.toDigits 16 c.toNat, decide (d ≠ '\x7d') = true := by
    intro d hd
    rw [decide_eq_true_eq]
    rintro rfl
    exact notMem_toDigits (by decide) _ hd
  have hstop : ∀ d ∈ ('\x7d' :: rest).head?, decide (d ≠ '\x7d') = false := by simp
  rw [unquoteRest?, takeWhile_append_stop hdigits hstop, dropWhile_append_stop hdigits hstop,
    codePoint?_toDigits]
  rfl

/-- What a character is written as is read as the character. -/
theorem unquoteRest?_quoteChar (c : Char) (rest : List Char) :
    unquoteRest? (quoteChar c ++ rest) = (unquoteRest? rest).map (c :: ·) := by
  unfold quoteChar
  iterate 6
    split
    · next h =>
      subst h
      exact unquoteRest?_short rfl rest
  split
  · next hquote hslash _ _ _ _ _ => exact unquoteRest?_plain hquote hslash rest
  · simpa using unquoteRest?_codePoint c rest

/-- **Quoted text is read back**, whatever characters are in it. -/
theorem unquote?_quoted (text : String) : unquote? (quoted text) = some text := by
  have hread : ∀ cs : List Char, unquoteRest? (cs.flatMap quoteChar ++ ['"']) = some cs := by
    intro cs
    induction cs with
    | nil => simp [unquoteRest?]
    | cons c cs ih =>
      rw [List.flatMap_cons, List.append_assoc, unquoteRest?_quoteChar, ih]
      rfl
  simp [unquote?, quoted, hread]

/-! ### Line breaks -/

theorem newline_notMem_quoteChar (c : Char) : '\n' ∉ quoteChar c := by
  unfold quoteChar
  iterate 6
    split
    · decide
  split
  · next hnewline _ _ => simpa [eq_comm] using hnewline
  · have hdigits := notMem_toDigits (c := '\n') (by decide) c.toNat
    simp [hdigits]

/-- **Quoted text is on one line.** -/
theorem newline_notMem_quoted (text : String) : '\n' ∉ (quoted text).toList := by
  simp [quoted, newline_notMem_quoteChar]

end FilterQuery.Text
