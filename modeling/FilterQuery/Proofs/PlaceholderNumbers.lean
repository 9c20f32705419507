import FilterQuery.Proofs.PlaceholderAlignment
import Mathlib.Data.List.Chain

/-!
# Numbered placeholders

A template with numbered placeholders can be put together from numbered parts, each with the number
of placeholders before it for an offset (`Sql.Fragment.numberFrom_append`). And it can be read back:
every `$` with the digits behind it is the number of one placeholder, and with a `?` in its place
the template is what it was. This would fail if a digit stood behind a placeholder, since it would
be read as one more digit of the number. No digit does, because whatever is put behind a placeholder
begins with something else (`Sql.Fenced`). The main statement is `Resolver.numbered_laws`.
-/

namespace FilterQuery

open Sql (Fragment)

namespace Sql

/-! ### Reading numbers -/

/-- A part of a numbered template. -/
inductive NumberedPart where
  /-- A `$` and all digits behind it, which are not none. -/
  | number (digits : List Char)
  /-- Any other character. -/
  | char (c : Char)

/-- The parts of a numbered template, from left to right. -/
def numberedParts : List Char → List NumberedPart
  | [] => []
  | c :: cs =>
    if c = '$' ∧ cs.takeWhile Char.isDigit ≠ [] then
      .number (cs.takeWhile Char.isDigit) :: numberedParts (cs.dropWhile Char.isDigit)
    else .char c :: numberedParts cs
  termination_by cs => cs.length
  decreasing_by
    · have := (List.dropWhile_sublist Char.isDigit (l := cs)).length_le
      simp only [List.length_cons]
      omega
    · simp

namespace NumberedPart

/-- A number as it is written. -/
def number? : NumberedPart → Option String
  | number digits => some ("$" ++ String.ofList digits)
  | char _ => none

/-- The part with a placeholder in the place of a number. -/
def unnumbered : NumberedPart → Char
  | number _ => '?'
  | char c => c

end NumberedPart

/-- The numbers in a text, each with its `$`. -/
def numbersIn (text : String) : List String :=
  (numberedParts text.toList).filterMap NumberedPart.number?

/-- The text with a placeholder in the place of each number. -/
def unnumbered (text : String) : String :=
  String.ofList ((numberedParts text.toList).map NumberedPart.unnumbered)

/-! ### Templates that can be numbered -/

/-- No dollar is in the text, and no digit stands behind a placeholder. -/
structure Numberable (cs : List Char) : Prop where
  no_dollar : '$' ∉ cs
  no_digit : cs.IsChain fun c d => c = '?' → d.isDigit = false

theorem Numberable.tail {c : Char} {cs : List Char} (h : Numberable (c :: cs)) : Numberable cs :=
  ⟨fun hmem => h.no_dollar (List.mem_cons_of_mem _ hmem), (List.isChain_cons.mp h.no_digit).2⟩

/-- The text can be numbered, also right behind a placeholder. -/
def Fenced (text : String) : Prop := Numberable ('?' :: text.toList)

theorem fenced_iff {text : String} : Fenced text ↔ '$' ∉ text.toList ∧
    ('?' :: text.toList).IsChain fun c d => c = '?' → d.isDigit = false := by
  constructor
  · rintro ⟨hdollar, hdigit⟩
    exact ⟨fun hmem => hdollar (List.mem_cons_of_mem _ hmem), hdigit⟩
  · rintro ⟨hdollar, hdigit⟩
    exact ⟨by simpa using hdollar, hdigit⟩

instance (text : String) : Decidable (Fenced text) := decidable_of_iff' _ fenced_iff

/-- Behind whatever such texts end with, others can stand. -/
theorem Fenced.append {s t : String} (hs : Fenced s) (ht : Fenced t) : Fenced (s ++ t) := by
  obtain ⟨hdollar, hdigit⟩ := fenced_iff.mp hs
  obtain ⟨hdollar', hdigit'⟩ := fenced_iff.mp ht
  obtain ⟨hfirst, hrest⟩ := List.isChain_cons.mp hdigit'
  rw [fenced_iff, String.toList_append, List.mem_append, not_or, ← List.cons_append]
  exact ⟨⟨hdollar, hdollar'⟩, hdigit.append hrest fun _ _ d hd _ => hfirst d hd rfl⟩

theorem isDigit_of_isNameStart {c : Char} (h : isNameStart c) : c.isDigit = false := by
  have hdigits : ∀ n < 58, 48 ≤ n → ¬ isNameStart (Char.ofNat n) := by decide
  by_contra hc
  rw [Bool.not_eq_false, Char.isDigit_iff_toNat] at hc
  apply hdigits c.toNat (Nat.lt_succ_of_le hc.2) hc.1
  rwa [Char.ofNat_toNat]

/-- An identifier begins with no digit, and has no placeholder in it. -/
theorem fenced_of_isIdentifier {name : String} (h : isIdentifier name) : Fenced name := by
  have habsent : ∀ {d : Char}, isIdentifierChar d = false → d ∉ name.toList := by
    intro d hd hmem
    simp [isIdentifierChar_of_completes h d hmem] at hd
  obtain ⟨c, cs, hname, hc, -⟩ := exists_cons_of_isIdentifier h
  refine fenced_iff.mpr ⟨habsent (by decide), List.isChain_cons.mpr ⟨?_, ?_⟩⟩
  · rw [hname]
    rintro d ⟨⟩ -
    exact isDigit_of_isNameStart hc
  · refine (List.pairwise_of_forall_mem_list fun d hd _ _ hmark => ?_).isChain
    exact absurd (hmark ▸ hd) (habsent (by decide))

namespace Fragment

variable {f g : Fragment}

theorem fenced_compare {column : String} (h : isIdentifier column) (c : Comparator)
    (value : String) : Fenced (compare column c value).raw := by
  have hcolumn := fenced_of_isIdentifier h
  cases c with
  | contains => exact hcolumn.append (by decide)
  | equal | notEqual | greater | greaterOrEqual | less | lessOrEqual =>
    exact (hcolumn.append (by decide)).append (by decide)

theorem fenced_group (h : Fenced f.raw) : Fenced f.group.raw := by
  have hopen : Fenced "(" := by decide
  exact (hopen.append h).append (by decide)

theorem fenced_join (hf : Fenced f.raw) (gate : Gate) (hg : Fenced g.raw) :
    Fenced (f.join gate g).raw := by
  have hopen : Fenced "(" := by decide
  have hgate : Fenced gate.symbol := by cases gate <;> decide
  exact (((((hopen.append hf).append (by decide)).append hgate).append (by decide)).append
    hg).append (by decide)

/-! ### Numbering -/

/-- **Numbering goes on** behind a text from the number of its last placeholder. -/
theorem numberFrom_append (last : Nat) (xs ys : List Char) :
    numberFrom last (xs ++ ys) = numberFrom last xs ++ numberFrom (last + xs.count '?') ys := by
  induction xs generalizing last with
  | nil => rfl
  | cons c xs ih =>
    rw [List.cons_append, numberFrom, numberFrom]
    split
    · next hc =>
      rw [ih, hc, List.count_cons_self, Nat.add_assoc, Nat.add_comm 1]
      simp
    · next hc => rw [ih, List.count_cons_of_ne hc, List.cons_append]

/-- Without placeholders a text stays as it is. -/
theorem numberFrom_of_not_mem {xs : List Char} (h : '?' ∉ xs) (last : Nat) :
    numberFrom last xs = xs := by
  induction xs with
  | nil => rfl
  | cons c xs ih =>
    obtain ⟨hc, hxs⟩ := List.ne_and_not_mem_of_not_mem_cons h
    rw [numberFrom, if_neg hc.symm, ih hxs]

/-- **A numbered join is the join of numbered parts.** -/
theorem numbered_join (f : Fragment) (gate : Gate) (g : Fragment) (offset : Nat) :
    (f.join gate g).numbered offset = "(" ++ f.numbered offset ++ " " ++ gate.symbol ++ " " ++
      g.numbered (offset + f.placeholders) ++ ")" := by
  have hgate : '?' ∉ gate.symbol.toList := by cases gate <;> decide
  have hopen : '?' ∉ "(".toList := by decide
  have hblank : '?' ∉ " ".toList := by decide
  have hclose : '?' ∉ ")".toList := by decide
  refine String.toList_inj.mp ?_
  simp only [numbered, join, placeholders, String.toList_append, String.toList_ofList,
    numberFrom_append, List.count_append, numberFrom_of_not_mem hgate, numberFrom_of_not_mem hopen,
    numberFrom_of_not_mem hblank, numberFrom_of_not_mem hclose,
    List.count_eq_zero_of_not_mem hgate, List.count_eq_zero_of_not_mem hopen,
    List.count_eq_zero_of_not_mem hblank, Nat.zero_add, Nat.add_zero]

/-! ### Reading back -/

/-- What is behind a number begins with no digit, if what is behind its placeholder does not. -/
theorem head?_numberFrom {cs : List Char} (h : ∀ d ∈ cs.head?, d.isDigit = false) (last : Nat) :
    ∀ d ∈ (numberFrom last cs).head?, d.isDigit = false := by
  cases cs with
  | nil => exact h
  | cons c cs =>
    rw [numberFrom]
    split
    · rintro d ⟨⟩
      decide
    · exact h

/-- A number is read with all its digits, and with no more. -/
theorem numberedParts_number (n : Nat) {cs : List Char} (h : ∀ d ∈ cs.head?, d.isDigit = false) :
    numberedParts ('$' :: (Nat.toDigits 10 n ++ cs)) =
      .number (Nat.toDigits 10 n) :: numberedParts cs := by
  have hdigits : ∀ d ∈ Nat.toDigits 10 n, d.isDigit :=
    fun d hd => Nat.isDigit_of_mem_toDigits (by decide) (by decide) hd
  have htake := takeWhile_append_stop hdigits h
  have hdrop := dropWhile_append_stop hdigits h
  rw [numberedParts, htake, hdrop, if_pos ⟨rfl, Nat.toDigits_ne_nil⟩]

/-- **The parts of a numbered template**: a number for each placeholder, and all other characters
as they are. -/
theorem numberedParts_numberFrom {cs : List Char} (h : Numberable cs) (last : Nat) :
    (numberedParts (numberFrom last cs)).filterMap NumberedPart.number? =
      (List.range' (last + 1) (cs.count '?')).map (fun k => "$" ++ toString k) ∧
    (numberedParts (numberFrom last cs)).map NumberedPart.unnumbered = cs := by
  induction cs generalizing last with
  | nil => simp [numberFrom, numberedParts]
  | cons c cs ih =>
    obtain ⟨hnumbers, htext⟩ := ih h.tail (if c = '?' then last + 1 else last)
    rw [numberFrom]
    split
    · next hc =>
      have hbehind : ∀ d ∈ cs.head?, d.isDigit = false :=
        fun d hd => (List.isChain_cons.mp h.no_digit).1 d hd hc
      rw [if_pos hc] at hnumbers htext
      rw [numberedParts_number _ (head?_numberFrom hbehind _), hc, List.count_cons_self,
        List.range'_succ, List.map_cons, ← hnumbers, List.map_cons, htext]
      exact ⟨by rw [Nat.toString_eq_ofList_toDigits]; rfl, rfl⟩
    · next hc =>
      have hdollar : c ≠ '$' := fun hc => h.no_dollar (by simp [hc])
      rw [if_neg hc] at hnumbers htext
      rw [numberedParts, if_neg (by simp [hdollar]), List.count_cons_of_ne hc, ← hnumbers,
        List.map_cons, htext]
      exact ⟨rfl, rfl⟩

end Fragment

end Sql

/-! ### Compiled templates -/

open Sql (Fenced)

theorem Collection.fenced_lookup {c : Collection}
    (h : ∀ name ∈ c.identifiers, Sql.isIdentifier name) (key : String) (comparator : Comparator)
    (value : String) : Fenced (c.lookup key comparator value).raw := by
  have hfenced : ∀ name ∈ c.identifiers, Fenced name :=
    fun name hn => Sql.fenced_of_isIdentifier (h name hn)
  have hvalue := Fragment.fenced_compare (h c.valueColumn (by simp [identifiers])) comparator value
  simp only [identifiers, List.forall_mem_append, List.forall_mem_cons] at hfenced
  obtain ⟨⟨htable, howner, hforeign, hkey, -⟩, halive⟩ := hfenced
  have hhead : Fenced (c.ownerColumn ++ " IN (SELECT " ++ c.foreignKey ++ " FROM " ++ c.table ++
      " WHERE " ++ c.keyColumn ++ "=? AND ") :=
    (((((((howner.append (by decide)).append hforeign).append (by decide)).append htable).append
      (by decide)).append hkey).append (by decide))
  unfold lookup
  cases hc : c.softDeleteColumn? with
  | none => exact ((hhead.append hvalue).append (by decide)).append (by decide)
  | some column =>
    have hand : Fenced " AND " := by decide
    have hcolumn : Fenced column := halive column (by simp [hc])
    exact ((hhead.append hvalue).append ((hand.append hcolumn).append (by decide))).append
      (by decide)

namespace Resolver

variable {r : Resolver}

theorem Sound.fenced_compileLeaf (h : r.Sound) {leaf : Comparison} {f : Fragment}
    (hf : r.compileLeaf leaf = .ok f) : Fenced f.raw := by
  rcases h.compileLeaf hf with ⟨-, c, key, -, -, hid, -, rfl⟩ | ⟨c, -, -, hid, rfl⟩
  · exact Collection.fenced_lookup hid key _ _
  · exact Fragment.fenced_compare hid _ _

/-- **All templates can be numbered.** -/
theorem Sound.fenced_compile (h : r.Sound) {t : Tree} {f : Fragment} (hf : r.compile t = .ok f) :
    Fenced f.raw :=
  forall_compile (P := fun f => Fenced f.raw) h.fenced_compileLeaf Fragment.fenced_group
    (fun gate hf hg => Fragment.fenced_join hf gate hg) hf

/-- **Numbered placeholders compose and can be undone.** A join is numbered by numbering its parts,
the right one behind the placeholders of the left one. And in a condition that was compiled under
declarations, numbered behind any offset, the numbers are those of its values in order, and with
placeholders in their place the template is what it was. -/
theorem numbered_laws (engine : PatternEngine) (r : Resolver) :
    (∀ (left right : Fragment) (gate : Gate) (offset : Nat),
      (left.join gate right).numbered offset = "(" ++ left.numbered offset ++ " " ++ gate.symbol ++
        " " ++ right.numbered (offset + left.placeholders) ++ ")") ∧
    (r.Built engine → ∀ {t : Tree} {f : Fragment}, r.compile t = .ok f → ∀ offset : Nat,
      Sql.numbersIn (f.numbered offset) =
        (List.range' (offset + 1) f.values.length).map (fun k => "$" ++ toString k) ∧
      Sql.unnumbered (f.numbered offset) = f.raw) := by
  refine ⟨fun left right gate offset => Fragment.numbered_join left gate right offset,
    fun hb t f hf offset => ?_⟩
  have haligned : f.placeholders = f.values.length := hb.sound.aligned.compile hf
  obtain ⟨hnumbers, htext⟩ :=
    Fragment.numberedParts_numberFrom (hb.sound.fenced_compile hf).tail offset
  rw [← haligned, Sql.numbersIn, Sql.unnumbered, Fragment.numbered, String.toList_ofList, htext,
    String.ofList_toList]
  exact ⟨hnumbers, rfl⟩

/-- A column whose name ends in a digit, and a collection. The numbers go from one digit to two. -/
theorem numbered_laws_of_two_digits :
    let t : Tree := .join (.comparison ⟨"line 2", .contains, "$1"⟩) .or
      (.group (.comparison ⟨"tags[1]", .equal, "?2"⟩))
    ∃ r f, ofConfig ⟨[⟨"line_2", "text", some "line2"⟩],
        [{ name := "tags", foreignKey := "owner" }]⟩ = .ok r ∧
      r.compile t = .ok f ∧
      f.numbered 8 =
        "(line2 LIKE $9 OR (id IN (SELECT owner FROM tags WHERE key=$10 AND value=$11)))" ∧
      Sql.numbersIn (f.numbered 8) = ["$9", "$10", "$11"] ∧
      Sql.unnumbered (f.numbered 8) = f.raw := by
  intro t
  have hrun : (do
      let r ← ofConfig ⟨[⟨"line_2", "text", some "line2"⟩],
        [{ name := "tags", foreignKey := "owner" }]⟩
      r.compile t) = .ok ⟨"(line2 LIKE ? OR "
        ++ "(id IN (SELECT owner FROM tags WHERE key=? AND value=?)))", ["%$1%", "1", "?2"]⟩ := by
    decide +kernel
  obtain ⟨r, hr, hf⟩ := bind_eq_ok.mp hrun
  obtain ⟨hnumbers, htext⟩ := (numbered_laws .standard r).2 (.config hr) hf 8
  exact ⟨r, _, hr, hf, by decide +kernel, hnumbers, htext⟩

end Resolver

end FilterQuery
