import FilterQuery.Config
import FilterQuery.Proofs.CaseFolding
import FilterQuery.Proofs.PatternSearch

/-!
# The fields of a collection

A collection claims the fields in which its pattern occurs, and then looks for a key in them on its
own. The two agree (`Collection.occursIn_iff_isSome_key?`), so a claimed field has a key.

The pattern is a text with the name of the collection in it, and the name can be any text. Its marks
are escaped, so it is read character by character (`Pattern.Reading.run?_escapeText`), and the whole
is read as the pattern that is meant (`Collection.read?_patternText`). What that pattern matches
is said by the text between two places (`Between`): `Pattern.matches_caselessText` for the name,
which is where the table of cases comes in, and `Pattern.matches_repetition_set` for the key.
-/

namespace FilterQuery

namespace Pattern

/-- The pattern for a text in any case. -/
def caselessText (text : List Char) : Pattern :=
  sequenceOf (text.map fun c => .set (.caseless (.singleton c)))

/-! ### Reading -/

theorem Term.depth_compose_le {build : List Pattern → Pattern} {terms : List Term} {depth : Nat}
    (h : ∀ term ∈ terms, term.depth ≤ depth) : (Term.compose build terms).depth ≤ depth + 1 := by
  have hmax : ∀ {d}, d ≤ depth → terms.foldl (fun d t => max d t.depth) d ≤ depth := by
    induction terms with
    | nil => exact id
    | cons term terms ih =>
      intro d hd
      obtain ⟨hterm, h⟩ := List.forall_mem_cons.mp h
      exact ih h (Nat.max_le.mpr ⟨hd, hterm⟩)
  have := hmax (Nat.zero_le depth)
  simp only [Term.compose]
  split <;> omega

theorem Level.depth_close_le (depth : Nat) {level : Level} (hc : level.choices = [])
    (h : ∀ term ∈ level.terms, term.depth ≤ depth) : level.close.depth ≤ depth + 2 := by
  rw [Level.close, hc]
  refine Term.depth_compose_le fun term hterm => ?_
  rw [List.mem_singleton.mp hterm]
  exact Term.depth_compose_le h

namespace Reading

variable {r next : Reading} {c : Char} {cs rest after : List Char}

/-- One step of reading, where white space means something. -/
theorem run?_step (hx : r.level.flags.extended = false) (h : r.step? c rest = some (next, after))
    (hl : after.length ≤ rest.length) : r.run? (c :: rest) = next.run? after := by
  rw [run?, skip, hx]
  simp only [Bool.false_eq_true, if_false, h, List.length_cons]
  rw [if_pos (Nat.lt_succ_of_le hl)]

/-- The end of the text. -/
theorem run?_nil (hx : r.level.flags.extended = false) : r.run? [] = r.finish? := by
  rw [run?, skip, hx]
  rfl

theorem step?_plain (hc : c ∉ marks) : r.step? c cs = some (r.addChar c, cs) := by
  unfold step?
  split
  iterate 12 exact absurd (by decide) hc
  rfl

theorem step?_escaped (hc : c ∈ marks) : r.step? '\\' (c :: cs) = some (r.addChar c, cs) := by
  simp [step?, escape?, isEscapable, hc]

/-- An escaped text is read character by character. -/
theorem run?_escapeText (hx : r.level.flags.extended = false) (text tail : List Char) :
    r.run? (escapeText text ++ tail) = (text.foldl addChar r).run? tail := by
  induction text generalizing r with
  | nil => rfl
  | cons c text ih =>
    have hrest : (r.addChar c).level.flags.extended = false := hx
    rw [List.foldl_cons, ← ih hrest]
    by_cases hc : c ∈ marks
    · have htext : escapeText (c :: text) ++ tail = '\\' :: c :: (escapeText text ++ tail) := by
        simp [escapeText, hc]
      rw [htext]
      exact run?_step hx (step?_escaped hc) (by simp)
    · have htext : escapeText (c :: text) ++ tail = c :: (escapeText text ++ tail) := by
        simp [escapeText, hc]
      rw [htext]
      exact run?_step hx (step?_plain hc) (Nat.le_refl _)

/-- The part for one character of an escaped text. -/
def charTerm (flags : Flags) (c : Char) : Term :=
  .atom (.set (if flags.ignoreCase then .caseless (.singleton c) else .singleton c))

theorem foldl_addChar (r : Reading) (text : List Char) : text.foldl addChar r =
    { r with level.terms := (text.map (charTerm r.level.flags)).reverse ++ r.level.terms } := by
  induction text generalizing r with
  | nil => rfl
  | cons c text ih => simp [ih, addChar, addAtom, Level.add, charTerm]

end Reading

end Pattern

namespace Collection

open Pattern

/-- The pattern of a key: as many characters of one line as there are, but not none. It is the
first group of the pattern that it is in. -/
def keyPattern : Pattern := .group 1 (.repetition (.set (.negate (.singleton '\n'))) 1 none)

/-- The pattern of the fields of the collection. -/
def pattern (c : Collection) : Pattern :=
  sequenceOf [.assert .textStart, caselessText c.name.toList, .set (.singleton '['), keyPattern,
    .set (.singleton ']'), .assert .textEnd]

theorem toList_patternText (c : Collection) : c.patternText.toList =
    '^' :: '(' :: '?' :: 'i' :: ':' :: (escapeText c.name.toList
      ++ [')', '\\', '[', '(', '.', '+', ')', '\\', ']', '$']) := by
  simp [patternText]

/-! ### The pattern that is read -/

section Reading

open Pattern.Reading

/-- The settings between the brackets around the name. -/
def nameFlags : Flags := { Flags.standard with ignoreCase := true }

/-- The part for the name. -/
def nameTerm (c : Collection) : Term :=
  Level.closeGroup ⟨[], (c.name.toList.map (charTerm nameFlags)).reverse, nameFlags, none⟩

/-- A reading outside of brackets, with the last part first and the number of groups. -/
def outside (terms : List Term) (groups : Nat) : Reading :=
  ⟨⟨[], terms, .standard, none⟩, [], [], groups⟩

/-- A reading between the brackets around the name. -/
def insideName (terms inner : List Term) : Reading :=
  ⟨⟨[], inner, nameFlags, none⟩, [⟨[], terms, .standard, none⟩], [], 0⟩

/-- A reading between the brackets around the key, which are a group. -/
def insideKey (terms inner : List Term) : Reading :=
  ⟨⟨[], inner, .standard, some 1⟩, [⟨[], terms, .standard, none⟩], [], 1⟩

/-- The part for the key and its brackets, which match nothing by themselves. -/
def keyTerm : Term := ⟨keyPattern, 2, true⟩

/-- The name is read without its case. -/
theorem run?_name (c : Collection) (terms : List Term) (rest : List Char) :
    (outside terms 0).run? ('(' :: '?' :: 'i' :: ':' :: (escapeText c.name.toList ++ ')' :: rest)) =
      (outside (c.nameTerm :: terms) 0).run? rest := by
  calc (outside terms 0).run? ('(' :: '?' :: 'i' :: ':' :: (escapeText c.name.toList ++ ')' :: rest))
    _ = (insideName terms []).run? (escapeText c.name.toList ++ ')' :: rest) :=
      run?_step rfl rfl (by simp only [List.length_cons]; omega)
    _ = (insideName terms (c.name.toList.map (charTerm nameFlags)).reverse).run? (')' :: rest) := by
      rw [run?_escapeText rfl, foldl_addChar]
      simp [insideName]
    _ = (outside (c.nameTerm :: terms) 0).run? rest := run?_step rfl rfl (Nat.le_refl _)

/-- The key is read between its brackets, which are the first group. -/
theorem run?_key (terms : List Term) :
    (outside terms 0).run? ['\\', '[', '(', '.', '+', ')', '\\', ']', '$'] =
      (outside (.atom (.assert .textEnd) :: .atom (.set (.singleton ']')) :: keyTerm
        :: .atom (.set (.singleton '[')) :: terms) 1).finish? := by
  let opened := .atom (.set (.singleton '[')) :: terms
  let repeated : Term := ⟨.repetition (.set (dot .standard)) 1 none, 1, true⟩
  calc (outside terms 0).run? ['\\', '[', '(', '.', '+', ')', '\\', ']', '$']
    _ = (outside opened 0).run? ['(', '.', '+', ')', '\\', ']', '$'] :=
      run?_step rfl (step?_escaped (by decide)) (by simp)
    _ = (insideKey opened []).run? ['.', '+', ')', '\\', ']', '$'] :=
      run?_step rfl rfl (by simp)
    _ = (insideKey opened [.atom (.set (dot .standard))]).run? ['+', ')', '\\', ']', '$'] :=
      run?_step rfl rfl (by simp)
    _ = (insideKey opened [repeated]).run? [')', '\\', ']', '$'] := run?_step rfl rfl (by simp)
    _ = (outside (keyTerm :: opened) 1).run? ['\\', ']', '$'] := run?_step rfl rfl (by simp)
    _ = (outside (.atom (.set (.singleton ']')) :: keyTerm :: opened) 1).run? ['$'] :=
      run?_step rfl (step?_escaped (by decide)) (by simp)
    _ = _ := by rw [run?_step rfl rfl (by simp), run?_nil rfl]; rfl

theorem pattern_nameTerm (c : Collection) : c.nameTerm.pattern = caselessText c.name.toList := by
  simp only [nameTerm, Level.closeGroup, Level.close, Term.compose, List.reverse_reverse,
    List.map_map]
  rfl

theorem depth_nameTerm_le (c : Collection) : c.nameTerm.depth ≤ 3 := by
  refine Nat.succ_le_succ (Level.depth_close_le 0 rfl fun term hterm => ?_)
  simp only [List.mem_reverse, List.mem_map] at hterm
  obtain ⟨d, -, rfl⟩ := hterm
  exact Nat.le_refl 0

/-- **The pattern of a collection is read as it is meant.** -/
theorem read?_patternText (c : Collection) : Pattern.read? c.patternText = some c.pattern := by
  let terms := [.atom (.assert .textEnd), .atom (.set (.singleton ']')), keyTerm,
    .atom (.set (.singleton '[')), c.nameTerm, .atom (.assert .textStart)]
  have hread : Pattern.read? c.patternText = (outside terms 1).finish? := by
    -- the `^` by itself, then the name, then the rest
    rw [read?, toList_patternText, run?_step rfl rfl (Nat.le_refl _), ← run?_key]
    exact c.run?_name [.atom (.assert .textStart)] _
  have hpattern : (outside terms 1).level.close.pattern = c.pattern := by
    rw [pattern, ← pattern_nameTerm]
    rfl
  have hdepth : (outside terms 1).level.close.depth ≤ maxPatternDepth := by
    have hname := c.depth_nameTerm_le
    have hterms : ∀ term ∈ terms, term.depth ≤ 3 := by
      simp only [terms, List.forall_mem_cons]
      exact ⟨by decide, by decide, by decide, by decide, hname, by decide, by simp⟩
    exact Nat.le_trans (Level.depth_close_le 3 rfl hterms) (by decide)
  rw [hread, Reading.finish?]
  simp only [hpattern, hdepth]
  rfl

/-- So it is a pattern, if it is not too large. -/
theorem ofText?_patternText (c : Collection) : Pattern.ofText? c.patternText =
    if c.pattern.size ≤ maxPatternSize then some c.pattern else none := by
  rw [ofText?, read?_patternText, Option.filter_some]
  simp only [decide_eq_true_eq]

end Reading

end Collection

/-! ### Matching -/

/-- What stands between two places of a text. -/
def Between (text : List Char) (i : Nat) (span : List Char) (j : Nat) : Prop :=
  span <+: text.drop i ∧ j = i + span.length

section Matching

variable {text span after : List Char} {i j k : Nat}

theorem between_nil : Between text i [] j ↔ i = j := by
  simp [Between, eq_comm]

theorem between_append :
    Between text i (span ++ after) j ↔ ∃ k, Between text i span k ∧ Between text k after j := by
  constructor
  · rintro ⟨⟨rest, hrest⟩, rfl⟩
    refine ⟨i + span.length, ⟨⟨after ++ rest, by simpa using hrest⟩, rfl⟩, ⟨rest, ?_⟩, ?_⟩
    · rw [← List.drop_drop, ← hrest]
      simp
    · simp [Nat.add_assoc]
  · rintro ⟨k, ⟨⟨rest, hrest⟩, rfl⟩, ⟨rest', hrest'⟩, rfl⟩
    refine ⟨⟨rest', ?_⟩, by simp [Nat.add_assoc]⟩
    rw [← List.drop_drop, ← hrest, List.drop_left] at hrest'
    rw [List.append_assoc, hrest', hrest]

theorem between_cons {c : Char} :
    Between text i (c :: span) j ↔ ∃ k, Between text i [c] k ∧ Between text k span j := by
  rw [← List.singleton_append, between_append]

/-- The whole text stands between its start and its end. -/
theorem between_whole :
    Between text 0 span j ∧ text.length ≤ j ↔ text = span ∧ j = span.length := by
  constructor
  · rintro ⟨⟨hspan, rfl⟩, hlen⟩
    rw [Nat.zero_add] at hlen ⊢
    exact ⟨(hspan.eq_of_length_le hlen).symm, rfl⟩
  · rintro ⟨rfl, rfl⟩
    exact ⟨⟨List.prefix_refl _, (Nat.zero_add _).symm⟩, Nat.le_refl _⟩

namespace CharSet

variable {c d : Char}

theorem contains_singleton : (singleton c).contains d ↔ d = c := by
  simp only [singleton, contains, Bool.and_eq_true, decide_eq_true_eq]
  constructor
  · rintro ⟨hcd, hdc⟩
    exact Char.le_antisymm hdc hcd
  · rintro rfl
    exact ⟨Char.le_refl d, Char.le_refl d⟩

theorem contains_negate_singleton : (negate (singleton c)).contains d ↔ d ≠ c := by
  rw [contains, Bool.not_eq_true', ← Bool.not_eq_true, contains_singleton]

/-- A character in any case. -/
theorem contains_caseless_singleton :
    (caseless (singleton c)).contains d ↔ Unicode.caseFold d = Unicode.caseFold c := by
  simp only [contains, List.any_eq_true, contains_singleton, exists_eq_right,
    Unicode.mem_caseVariants]
  exact eq_comm

end CharSet

namespace Pattern

theorem matches_sequenceOf_cons {p : Pattern} {ps : List Pattern} {text : Array Char} :
    (sequenceOf (p :: ps)).Matches text i j ↔
      ∃ k, p.Matches text i k ∧ (sequenceOf ps).Matches text k j := by
  cases ps with
  | nil => simp [sequenceOf, Matches]
  | cons q ps => rfl

theorem matches_set {s : CharSet} : (set s).Matches text.toArray i j ↔
    ∃ c, s.contains c ∧ Between text i [c] j := by
  simp only [Matches, List.getElem?_toArray, Between, List.length_singleton, ← exists_and_right]
  refine exists_congr fun c => ?_
  have hhead : text[i]? = some c ↔ [c] <+: text.drop i := by
    rw [← List.head?_drop]
    cases text.drop i with
    | nil => simp
    | cons d rest => simp [eq_comm]
  rw [hhead]
  constructor
  · rintro ⟨⟨h, hs⟩, hj⟩
    exact ⟨hs, h, hj⟩
  · rintro ⟨hs, h, hj⟩
    exact ⟨⟨h, hs⟩, hj⟩

theorem matches_singleton {c : Char} :
    (set (.singleton c)).Matches text.toArray i j ↔ Between text i [c] j := by
  simp [matches_set, CharSet.contains_singleton]

/-- **A text without its case** is matched by the texts with the same folding. -/
theorem matches_caselessText {name : List Char} :
    (caselessText name).Matches text.toArray i j ↔
      ∃ head, head.map Unicode.caseFold = name.map Unicode.caseFold ∧ Between text i head j := by
  induction name generalizing i with
  | nil => simp [caselessText, sequenceOf, Matches, between_nil]
  | cons c name ih =>
    have hrest {k} := @ih k
    simp only [caselessText, List.map_cons, matches_sequenceOf_cons, matches_set,
      CharSet.contains_caseless_singleton] at hrest ⊢
    simp only [hrest]
    constructor
    · rintro ⟨k, ⟨d, hd, hfirst⟩, head, hhead, hbetween⟩
      exact ⟨d :: head, by rw [List.map_cons, hd, hhead], between_cons.mpr ⟨k, hfirst, hbetween⟩⟩
    · rintro ⟨head, hhead, hbetween⟩
      cases head with
      | nil => simp at hhead
      | cons d head =>
        obtain ⟨hd, hhead⟩ := List.cons.inj hhead
        obtain ⟨k, hfirst, hbetween⟩ := between_cons.mp hbetween
        exact ⟨k, ⟨d, hd, hfirst⟩, head, hhead, hbetween⟩

/-- A way of characters of a set. -/
theorem steps_set {s : CharSet} {n : Nat} : Steps ((set s).Matches text.toArray) n i j ↔
    ∃ span, span.length = n ∧ (∀ c ∈ span, s.contains c) ∧ Between text i span j := by
  induction n generalizing i with
  | zero => simp [Steps, List.length_eq_zero_iff, between_nil]
  | succ n ih =>
    simp only [Steps, matches_set, ih]
    constructor
    · rintro ⟨k, ⟨c, hc, hfirst⟩, span, rfl, hs, hbetween⟩
      exact ⟨c :: span, rfl, List.forall_mem_cons.mpr ⟨hc, hs⟩,
        between_cons.mpr ⟨k, hfirst, hbetween⟩⟩
    · rintro ⟨span, hlen, hs, hbetween⟩
      obtain ⟨c, span, rfl⟩ := List.exists_cons_of_length_eq_add_one hlen
      obtain ⟨hc, hs⟩ := List.forall_mem_cons.mp hs
      obtain ⟨k, hfirst, hbetween⟩ := between_cons.mp hbetween
      exact ⟨k, ⟨c, hc, hfirst⟩, span, Nat.succ.inj hlen, hs, hbetween⟩

/-- A set that is repeated at least once is matched by the texts of its characters. -/
theorem matches_repetition_set {s : CharSet} :
    (repetition (set s) 1 none).Matches text.toArray i j ↔
    ∃ span, span ≠ [] ∧ (∀ c ∈ span, s.contains c) ∧ Between text i span j := by
  constructor
  · rintro ⟨n, hn, -, hway⟩
    obtain ⟨span, rfl, h⟩ := steps_set.mp hway
    exact ⟨span, List.ne_nil_of_length_pos hn, h⟩
  · rintro ⟨span, hne, h⟩
    exact ⟨span.length, List.length_pos_iff.mpr hne, by simp, steps_set.mpr ⟨span, rfl, h⟩⟩

theorem matches_textStart (hi : i ≤ text.length) :
    (assert .textStart).Matches text.toArray i j ↔ i = 0 ∧ i = j := by
  have hbefore : (if i = 0 then none else text[i - 1]?).isNone ↔ i = 0 := by
    split
    · next h => simp [h]
    · next h => simp [h]; omega
  simp [Matches, Assertion.holds, around, hbefore]

theorem matches_textEnd : (assert .textEnd).Matches text.toArray i j ↔
    text.length ≤ i ∧ i = j := by
  simp [Matches, Assertion.holds, around]

end Pattern

end Matching

/-! ### Fields with a key -/

namespace Collection

open Pattern

/-- The text is the name in any case with a key in brackets. A key is not empty and on one line. -/
def Holds (c : Collection) (key text : List Char) : Prop :=
  (∃ head, head.map Unicode.caseFold = c.name.toList.map Unicode.caseFold ∧
    text = head ++ '[' :: (key ++ [']'])) ∧ key ≠ [] ∧ '\n' ∉ key

/-- **The key of a field** is what the brackets after the name hold. -/
theorem key?_eq_some_iff {c : Collection} {field key : String} :
    c.key? field = some key ↔ c.Holds key.toList field.toList := by
  simp only [key?]
  constructor
  · intro h
    split at h
    · next hname =>
      split at h
      · next rest hrest =>
        rw [Option.ite_none_right_eq_some] at h
        obtain ⟨⟨hlast, hne, hline⟩, hkey⟩ := h
        obtain rfl := Option.some.inj hkey
        obtain ⟨key, rfl⟩ := List.getLast?_eq_some_iff.mp hlast
        rw [List.dropLast_concat] at hne hline ⊢
        rw [String.toList_ofList]
        refine ⟨⟨field.toList.take c.name.toList.length, hname, ?_⟩, hne, hline⟩
        rw [← hrest, List.take_append_drop]
      · simp at h
    · simp at h
  · rintro ⟨⟨head, hhead, htext⟩, hne, hline⟩
    have hlen : c.name.toList.length = head.length := by
      simpa using (congrArg List.length hhead).symm
    simp [htext, hlen, hhead, hne, hline]

/-- The parts of the pattern, matched one behind the other, spell a field with a key. -/
theorem holds_of_matches {c : Collection} {text : List Char} {i₁ i₂ i₃ i₄ : Nat}
    (hname : (caselessText c.name.toList).Matches text.toArray 0 i₁)
    (hopen : (set (.singleton '[')).Matches text.toArray i₁ i₂)
    (hkey : keyPattern.Matches text.toArray i₂ i₃)
    (hclose : (set (.singleton ']')).Matches text.toArray i₃ i₄) (hend : text.length ≤ i₄) :
    ∃ key, c.Holds key text ∧ Between text i₂ key i₃ := by
  obtain ⟨head, hhead, hname⟩ := matches_caselessText.mp hname
  obtain ⟨key, hne, hline, hkey⟩ := matches_repetition_set.mp (matches_group.mp hkey)
  have hwhole := between_append.mpr ⟨_, hname, between_cons.mpr ⟨_, matches_singleton.mp hopen,
    between_append.mpr ⟨_, hkey, matches_singleton.mp hclose⟩⟩⟩
  refine ⟨key, ⟨⟨head, hhead, (between_whole.mp ⟨hwhole, hend⟩).1⟩, hne, fun hmem => ?_⟩, hkey⟩
  exact CharSet.contains_negate_singleton.mp (hline _ hmem) rfl

/-- **The pattern of a collection** occurs in the fields with a key, and in no others. -/
theorem occursIn_pattern_iff {c : Collection} {field : String} :
    c.pattern.occursIn field ↔ ∃ key, c.Holds key field.toList := by
  have hempty {i j : Nat} : (sequenceOf []).Matches field.toList.toArray i j ↔ i = j := Iff.rfl
  rw [pattern, occursIn_iff]
  simp only [matches_sequenceOf_cons, hempty, matches_textEnd]
  constructor
  · rintro ⟨i, j, hi, _, hstart, _, hname, _, hopen, _, hkey, _, hclose, _, ⟨hend, rfl⟩, rfl⟩
    obtain ⟨rfl, rfl⟩ := (matches_textStart hi).mp hstart
    obtain ⟨key, hholds, -⟩ := holds_of_matches hname hopen hkey hclose hend
    exact ⟨key, hholds⟩
  · rintro ⟨key, ⟨head, hhead, htext⟩, hne, hline⟩
    obtain ⟨hwhole, hend⟩ := between_whole.mpr ⟨htext, rfl⟩
    obtain ⟨_, hname, hwhole⟩ := between_append.mp hwhole
    obtain ⟨_, hopen, hwhole⟩ := between_cons.mp hwhole
    obtain ⟨_, hspan, hclose⟩ := between_append.mp hwhole
    have hkey : ∀ d ∈ key, (CharSet.negate (.singleton '\n')).contains d :=
      fun d hd => CharSet.contains_negate_singleton.mpr fun h => hline (h ▸ hd)
    exact ⟨0, _, Nat.zero_le _, _, (matches_textStart (Nat.zero_le _)).mpr ⟨rfl, rfl⟩, _,
      matches_caselessText.mpr ⟨head, hhead, hname⟩, _, matches_singleton.mpr hopen, _,
      matches_group.mpr (matches_repetition_set.mpr ⟨key, hne, hkey, hspan⟩), _,
      matches_singleton.mpr hclose, _, ⟨hend, rfl⟩, rfl⟩

/-- **The pattern and the search for the key agree**: a field that the pattern claims has a key. -/
theorem occursIn_iff_isSome_key? {c : Collection} {field : String} :
    c.pattern.occursIn field ↔ (c.key? field).isSome := by
  simp only [occursIn_pattern_iff, Option.isSome_iff_exists, key?_eq_some_iff]
  constructor
  · rintro ⟨key, h⟩
    exact ⟨String.ofList key, by rwa [String.toList_ofList]⟩
  · rintro ⟨key, h⟩
    exact ⟨key.toList, h⟩

end Collection

end FilterQuery
