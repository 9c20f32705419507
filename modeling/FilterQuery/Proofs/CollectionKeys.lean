import FilterQuery.Proofs.ConfiguredResolver
import FilterQuery.Proofs.PatternGroups
import Mathlib.Data.List.Forall2

/-!
# Fields with a key

A field names the value at a key of a collection if it is the name of the collection with the key in
brackets behind it (`Collection.Keyed`). This is what the pattern of the collection matches, and in
every match its first group keeps the key (`Collection.captures_iff`), so it does not matter that
the key may have brackets in it. A collection with identifiers for its table and columns can be
added to any resolver, and then has all these fields that no rule before it claims. The main
statement is `Collection.key_matching`.
-/

namespace FilterQuery

namespace Collection

open Pattern

variable {c : Collection} {field key : String} {found : Option String}

/-- The field is the name of the collection, character by character in any case, with the key in
brackets behind it. A key is not empty and is on one line. -/
def Keyed (c : Collection) (field key : String) : Prop :=
  (∃ head : String,
    List.Forall₂ (fun d e => Unicode.caseFold d = Unicode.caseFold e) head.toList c.name.toList ∧
    field = head ++ "[" ++ key ++ "]") ∧ key ≠ "" ∧ '\n' ∉ key.toList

theorem keyed_iff_holds : c.Keyed field key ↔ c.Holds key.toList field.toList := by
  have hfold {head : List Char} :
      List.Forall₂ (fun d e => Unicode.caseFold d = Unicode.caseFold e) head c.name.toList ↔
        head.map Unicode.caseFold = c.name.toList.map Unicode.caseFold := by
    rw [← List.forall₂_eq_eq_eq, List.forall₂_map_left_iff, List.forall₂_map_right_iff]
  rw [Keyed, Holds, ne_eq, ne_eq, String.toList_eq_nil_iff]
  refine and_congr_left fun _ => ?_
  constructor
  · rintro ⟨head, hhead, rfl⟩
    exact ⟨head.toList, hfold.mp hhead, by simp⟩
  · rintro ⟨head, hhead, htext⟩
    exact ⟨String.ofList head, hfold.mpr (by simpa using hhead),
      String.toList_inj.mp (by simpa using htext)⟩

/-- **The key of a field**, if it has one. -/
theorem key?_eq_some_iff_keyed : c.key? field = some key ↔ c.Keyed field key :=
  key?_eq_some_iff.trans keyed_iff_holds.symm

/-! ### What is captured -/

/-- **In every match the first group keeps the key.** -/
theorem text?_of_fills {i j : Nat} {g g' : Groups} (hi : i ≤ field.toList.length)
    (h : c.pattern.Fills field.toList.toArray (i, g) (j, g')) :
    g'.text? field 1 = c.key? field := by
  simp only [pattern, fills_sequenceOf_cons] at h
  obtain ⟨⟨i₀, _⟩, hstart, ⟨i₁, _⟩, hname, ⟨i₂, _⟩, hopen, ⟨i₃, g₃⟩, hkey, ⟨i₄, g₄⟩, hclose,
    ⟨i₅, g₅⟩, hend, hlast⟩ := h
  obtain ⟨rfl, rfl⟩ := (matches_textStart hi).mp hstart.matches
  obtain ⟨key, hholds, hspan, hlen⟩ := holds_of_matches hname.matches hopen.matches hkey.matches
    hclose.matches (matches_textEnd.mp hend.matches).1
  -- the group is filled by the key, and by nothing behind it
  have hfilled : g₃ 1 = some (i₂, i₃) := by
    obtain ⟨g, -, hg⟩ := hkey
    rw [show g₃ = _ from hg, Groups.keep_self]
  have hkept : g' 1 = g₃ 1 := by
    obtain ⟨rfl, rfl⟩ := Prod.mk.inj (show (i₅, g₅) = (j, g') from hlast)
    exact (hend.keeps (by simp [groups])).trans (hclose.keeps (by simp [groups]))
  have htext : (field.toList.drop i₂).take (i₃ - i₂) = key := by
    rw [show i₃ = i₂ + key.length from hlen, Nat.add_sub_cancel_left]
    exact (List.prefix_iff_eq_take.mp hspan).symm
  rw [Groups.text?, hkept, hfilled, Option.map_some, htext]
  exact (key?_eq_some_iff.mpr (by rwa [String.toList_ofList])).symm

/-- **A search for the first group** finds the key, whichever match it prefers. -/
theorem captures_iff : c.pattern.Captures 1 field found ↔ found = c.key? field := by
  have hnone : ¬ c.pattern.occursIn field ↔ c.key? field = none := by
    rw [occursIn_iff_isSome_key?, Option.not_isSome_iff_eq_none]
  constructor
  · rintro (⟨i, j, g, hi, hfills, rfl⟩ | ⟨hfield, rfl⟩)
    · exact text?_of_fills hi hfills
    · exact (hnone.mp hfield).symm
  · rintro rfl
    by_cases hfield : c.pattern.occursIn field
    · obtain ⟨i, j, hi, hmatches⟩ := occursIn_iff.mp hfield
      obtain ⟨g, hfills⟩ := (matches_iff_exists_fills .unset).mp hmatches
      exact .inl ⟨i, j, g, hi, hfills, text?_of_fills hi hfills⟩
    · exact .inr ⟨hfield, hnone.mp hfield⟩

/-! ### What is claimed -/

/-- The rule of the collection comes behind those that there are. -/
theorem rule?_addCollection {r next : Resolver} (h : r.addCollection c = .ok next)
    (field : String) : next.rule? field =
      (r.rule? field).or (if (c.key? field).isSome then some c.rule else none) := by
  obtain ⟨-, ha⟩ := Resolver.addCollectionAt_eq_ok.mp h
  obtain ⟨occursIn, hp, -⟩ := Resolver.addRule_eq_ok.mp ha
  obtain ⟨-, rfl⟩ := standard_eq_ok.mp hp
  rw [Resolver.rule?_addRule hp ha]
  simp only [occursIn_iff_isSome_key?, rule]

/-- A comparison whose field has a key goes to the collection, if no rule before claims it. -/
theorem compileLeaf_of_keyed {r next : Resolver} (h : r.addCollection c = .ok next)
    {leaf : Comparison} (hkeyed : c.Keyed leaf.field key) (hnone : r.rule? leaf.field = none) :
    next.rule? leaf.field = some c.rule ∧
      next.compileLeaf leaf = .ok (c.lookup key leaf.comparator leaf.value) := by
  have hkey := key?_eq_some_iff_keyed.mpr hkeyed
  have hrule : next.rule? leaf.field = some c.rule := by
    rw [rule?_addCollection h, hnone, hkey]
    rfl
  refine ⟨hrule, ?_⟩
  simp [Resolver.compileLeaf, hrule, rule, Action.compile, compile, hkey]

/-- All other comparisons stay with what had them before. -/
theorem compileLeaf_of_not_keyed {r next : Resolver} (h : r.addCollection c = .ok next)
    {leaf : Comparison} (hother : (∀ key, ¬ c.Keyed leaf.field key) ∨ r.rule? leaf.field ≠ none) :
    next.rule? leaf.field = r.rule? leaf.field ∧ next.compileLeaf leaf = r.compileLeaf leaf := by
  have hrule : next.rule? leaf.field = r.rule? leaf.field := by
    rw [rule?_addCollection h]
    rcases hother with hnone | hsome
    · have hkey : c.key? leaf.field = none := by
        apply Option.eq_none_iff_forall_ne_some.mpr
        intro key hkey
        exact hnone key (key?_eq_some_iff_keyed.mp hkey)
      rw [hkey]
      exact Option.or_none
    · obtain ⟨rule, hfirst⟩ := Option.ne_none_iff_exists'.mp hsome
      rw [hfirst, Option.some_or]
  refine ⟨hrule, ?_⟩
  rw [Resolver.compileLeaf, Resolver.compileLeaf, hrule, Resolver.compileColumn,
    Resolver.compileColumn, Resolver.column?,
    Resolver.columns_addRule (Resolver.addCollectionAt_eq_ok.mp h).2]
  rfl

/-- **Matching fields with a key.** Take a collection with identifiers for its table and its columns
and any text for a name, such that its pattern is not too large. The pattern can be read as it is
meant, and the check is passed. A field has the key that it is written with, and no other; and this
is what a search finds in the first group of the pattern. Added to any resolver, the collection has
the comparisons whose field has a key and is claimed by no rule before it, and changes nothing for
all others. -/
theorem key_matching (c : Collection) (hid : ∀ name ∈ c.identifiers, Sql.isIdentifier name)
    (hsize : c.pattern.size ≤ maxPatternSize) :
    Pattern.ofText? c.patternText = some c.pattern ∧ c.check = .ok () ∧
    (∀ field key, c.key? field = some key ↔ c.Keyed field key) ∧
    (∀ field key key', c.Keyed field key → c.Keyed field key' → key = key') ∧
    (∀ field found, c.pattern.Captures 1 field found ↔ found = c.key? field) ∧
    ∀ r : Resolver, ∃ next, r.addCollection c = .ok next ∧ ∀ leaf,
      (∀ key, c.Keyed leaf.field key → r.rule? leaf.field = none →
        next.rule? leaf.field = some c.rule ∧
        next.compileLeaf leaf = .ok (c.lookup key leaf.comparator leaf.value)) ∧
      ((∀ key, ¬ c.Keyed leaf.field key) ∨ r.rule? leaf.field ≠ none →
        next.rule? leaf.field = r.rule? leaf.field ∧
        next.compileLeaf leaf = r.compileLeaf leaf) := by
  have hread : Pattern.ofText? c.patternText = some c.pattern := by
    rw [ofText?_patternText, if_pos hsize]
  have hp := standard_eq_ok.mpr ⟨hsize, rfl⟩
  have hcheck : c.check = .ok () := check_eq_ok.mpr ⟨hid, _, hp⟩
  refine ⟨hread, hcheck, fun field key => key?_eq_some_iff_keyed, ?_,
    fun field found => captures_iff, ?_⟩
  · intro field key key' h h'
    rw [← key?_eq_some_iff_keyed] at h h'
    exact Option.some.inj (h.symm.trans h')
  · intro r
    obtain ⟨next, hnext⟩ : ∃ next, r.addRule c.patternText (.collection c) = .ok next :=
      ⟨_, Resolver.addRule_eq_ok.mpr ⟨_, hp, rfl⟩⟩
    have hadd : r.addCollection c = .ok next := Resolver.addCollectionAt_eq_ok.mpr ⟨hcheck, hnext⟩
    exact ⟨next, hadd, fun leaf =>
      ⟨fun key => compileLeaf_of_keyed hadd, compileLeaf_of_not_keyed hadd⟩⟩

/-- The name is full of marks, and the field writes it with a Kelvin sign. The key ends with the
last bracket. -/
theorem key_matching_of_marks :
    let c : Collection := { name := "k.[*\\", table? := some "tags", foreignKey := "owner" }
    let field := "\u212A.[*\\[a][b]]"
    Pattern.ofText? c.patternText = some c.pattern ∧ c.check = .ok () ∧
    c.key? field = some "a][b]" ∧ c.pattern.Captures 1 field (some "a][b]") ∧
    (∀ key, c.Keyed field key → key = "a][b]") ∧
    ∃ next, Resolver.empty.addCollection c = .ok next ∧
      next.compileLeaf ⟨field, .equal, "1"⟩ =
        .ok ⟨"id IN (SELECT owner FROM tags WHERE key=? AND value=?)", ["a][b]", "1"]⟩ := by
  intro c field
  obtain ⟨hread, hcheck, hkey, honly, hcaptures, hadd⟩ :=
    key_matching c (by decide +kernel) (by decide +kernel)
  have hfield : c.key? field = some "a][b]" := by decide +kernel
  have hkeyed := (hkey _ _).mp hfield
  obtain ⟨next, hnext, hcompile⟩ := hadd .empty
  exact ⟨hread, hcheck, hfield, (hcaptures _ _).mpr hfield.symm,
    fun key h => honly _ _ _ h hkeyed, next, hnext,
    ((hcompile ⟨field, .equal, "1"⟩).1 _ hkeyed rfl).2⟩

end Collection

end FilterQuery
