import FilterQuery.Unicode.CaseFold

/-!
# Cases of characters

That the cases of a character are exactly the characters with the same folding
(`Unicode.mem_caseVariants`). It holds of any table in which no code point is moved by two runs and
none that a run leads to is moved again (`Unicode.IsFolding`). To check this of the table of case
folding, sets of code points are written as numbers, with a bit for each code point.
-/

namespace FilterQuery.Unicode

/-! ### Progressions -/

/-- The code points from the first to the last in equal steps. -/
structure Progression where
  first : Nat
  last : Nat
  stride : Nat

namespace Progression

variable {p q : Progression} {ps : List Progression} {n seen : Nat}

/-- The code point is one of the progression. -/
def Has (p : Progression) (n : Nat) : Prop :=
  p.first ≤ n ∧ n ≤ p.last ∧ (n - p.first) % p.stride = 0

instance (p : Progression) (n : Nat) : Decidable (p.Has n) :=
  inferInstanceAs (Decidable (p.first ≤ n ∧ n ≤ p.last ∧ (n - p.first) % p.stride = 0))

/-- Progressions without a common code point. -/
def Apart (p q : Progression) : Prop := ∀ n, p.Has n → ¬q.Has n

/-- Whether all code points from the first to the last are characters. -/
def isText (p : Progression) : Bool :=
  p.last.blt 0xD800 || (Nat.blt 0xDFFF p.first && p.last.blt 0x110000)

theorem Has.isValidChar (h : p.Has n) (hp : p.isText) : n.isValidChar := by
  obtain ⟨hfirst, hlast, -⟩ := h
  simp only [isText, Bool.or_eq_true, Bool.and_eq_true, Nat.blt_eq] at hp
  unfold Nat.isValidChar
  omega

/-- The number with a bit at each of the first multiples of `stride`. -/
def comb (stride : Nat) : Nat → Nat
  | 0 => 0
  | count + 1 => 1 ||| (comb stride count <<< stride)

/-- The number with a bit at each code point of the progression. -/
def mask (p : Progression) : Nat :=
  comb p.stride ((p.last - p.first) / p.stride + 1) <<< p.first

/-- The number with a bit at each code point of some progression. -/
def masks (ps : List Progression) : Nat := ps.foldr (fun p bits => p.mask ||| bits) 0

/-- Whether no code point is in two progressions, or in one and in `seen`. -/
def disjointFrom (seen : Nat) : List Progression → Bool
  | [] => true
  | p :: ps => (p.mask &&& seen).beq 0 && disjointFrom (p.mask ||| seen) ps

theorem testBit_comb (stride : Nat) {i count : Nat} (h : i < count) :
    (comb stride count).testBit (i * stride) := by
  induction count generalizing i with
  | zero => omega
  | succ count ih =>
    rw [comb, Nat.testBit_or]
    cases i with
    | zero => simp
    | succ i =>
      have hprev := ih (i := i) (by omega)
      rw [Nat.testBit_shiftLeft, Nat.succ_mul, Nat.add_sub_cancel, hprev]
      simp

theorem Has.testBit_mask (h : p.Has n) : p.mask.testBit n := by
  obtain ⟨hfirst, hlast, hstep⟩ := h
  have hmul : (n - p.first) / p.stride * p.stride = n - p.first :=
    Nat.div_mul_cancel (Nat.dvd_of_mod_eq_zero hstep)
  have hcount : (n - p.first) / p.stride ≤ (p.last - p.first) / p.stride :=
    Nat.div_le_div_right (by omega)
  have hbit := testBit_comb p.stride (Nat.lt_succ_of_le hcount)
  rw [hmul] at hbit
  rw [mask, Nat.testBit_shiftLeft, hbit]
  simpa using hfirst

theorem Has.testBit_masks (h : p.Has n) (hp : p ∈ ps) : (masks ps).testBit n := by
  induction ps with
  | nil => simp at hp
  | cons q ps ih =>
    rw [masks, List.foldr_cons, Nat.testBit_or, Bool.or_eq_true]
    rcases List.mem_cons.mp hp with rfl | hp
    · exact .inl h.testBit_mask
    · exact .inr (ih hp)

/-- A bit that is in both of two numbers is in what they have in common. -/
theorem not_testBit_of_land_eq_zero {a b : Nat} (h : a &&& b = 0) (ha : a.testBit n) :
    ¬b.testBit n := by
  intro hb
  have hboth : (a &&& b).testBit n := by
    rw [Nat.testBit_and, ha, hb]
    rfl
  simp [h] at hboth

/-- Progressions of two lists are apart if the numbers have no bit in common. -/
theorem apart_of_masks {qs : List Progression} (h : masks ps &&& masks qs = 0) (hp : p ∈ ps)
    (hq : q ∈ qs) : p.Apart q :=
  fun _ hn hn' => not_testBit_of_land_eq_zero h (hn.testBit_masks hp) (hn'.testBit_masks hq)

theorem pairwise_of_disjointFrom (h : disjointFrom seen ps) :
    (∀ p ∈ ps, ∀ n, p.Has n → ¬seen.testBit n) ∧ ps.Pairwise Apart := by
  induction ps generalizing seen with
  | nil => simp
  | cons p ps ih =>
    simp only [disjointFrom, Bool.and_eq_true, Nat.beq_eq] at h
    obtain ⟨hhead, hpairs⟩ := ih h.2
    simp only [Nat.testBit_or, Bool.or_eq_true, not_or] at hhead
    refine ⟨?_, List.pairwise_cons.mpr ⟨fun q hq n hn hn' => ?_, hpairs⟩⟩
    · intro q hq n hn
      rcases List.mem_cons.mp hq with rfl | hq
      · exact not_testBit_of_land_eq_zero h.1 hn.testBit_mask
      · exact (hhead q hq n hn).2
    · exact (hhead q hq n hn').1 hn.testBit_mask

end Progression

/-! ### Runs -/

namespace Run

variable {r : Run} {n m : Nat}

/-- The code points that the run moves. -/
def source (r : Run) : Progression := ⟨r.first, r.last, r.stride⟩

/-- The code points that the run leads to. -/
def target (r : Run) : Progression :=
  ⟨((r.first : Int) + r.shift).toNat, ((r.last : Int) + r.shift).toNat, r.stride⟩

/-- Whether the run leads from characters to characters. -/
def isSound (r : Run) : Bool :=
  Nat.blt 0 r.first && decide (0 ≤ (r.first : Int) + r.shift) && r.source.isText && r.target.isText

theorem moves_iff : r.moves n ↔ r.source.Has n := by
  simp [moves, Progression.Has, source, and_assoc]

/-- A code point that the run moves, and where to. -/
theorem image?_eq_some (hr : r.isSound) : r.image? n = some m ↔
    r.source.Has n ∧ (m : Int) = n + r.shift := by
  simp only [isSound, Bool.and_eq_true, decide_eq_true_eq] at hr
  simp only [image?, Option.ite_none_right_eq_some, Option.some.injEq, moves_iff]
  refine and_congr_right fun hn => ?_
  have : r.first ≤ n := hn.1
  omega

theorem preimage?_eq_some (hr : r.isSound) : r.preimage? m = some n ↔ r.image? n = some m := by
  rw [image?_eq_some hr]
  simp only [isSound, Bool.and_eq_true, decide_eq_true_eq, Nat.blt_eq] at hr
  simp only [preimage?, Option.ite_none_right_eq_some, Option.some.injEq, moves_iff]
  constructor
  · rintro ⟨hn, rfl⟩
    have : r.first ≤ ((m : Int) - r.shift).toNat := hn.1
    exact ⟨hn, by omega⟩
  · rintro ⟨hn, hm⟩
    obtain rfl : ((m : Int) - r.shift).toNat = n := by omega
    exact ⟨hn, rfl⟩

theorem target_has (hr : r.isSound) (h : r.image? n = some m) : r.target.Has m := by
  obtain ⟨⟨hfirst, hlast, hstep⟩, hm⟩ := (image?_eq_some hr).mp h
  simp only [isSound, Bool.and_eq_true, decide_eq_true_eq] at hr
  simp only [source] at hfirst hlast hstep
  have hsame : m - ((r.first : Int) + r.shift).toNat = n - r.first := by omega
  refine ⟨?_, ?_, ?_⟩
  · simp only [target]; omega
  · simp only [target]; omega
  · simpa only [target, hsame] using hstep

theorem isValidChar_of_image? (hr : r.isSound) (h : r.image? n = some m) : m.isValidChar := by
  have htarget := target_has hr h
  simp only [isSound, Bool.and_eq_true] at hr
  exact htarget.isValidChar hr.2

theorem isValidChar_of_preimage? (hr : r.isSound) (h : r.preimage? m = some n) : n.isValidChar := by
  have hsource := ((image?_eq_some hr).mp ((preimage?_eq_some hr).mp h)).1
  simp only [isSound, Bool.and_eq_true] at hr
  exact hsource.isValidChar hr.1.2

end Run

/-! ### Tables -/

theorem toNat_ofNat_of_isValidChar {n : Nat} (h : n.isValidChar) : (Char.ofNat n).toNat = n := by
  rw [Char.ofNat, dif_pos h]
  rfl

/-- A table that takes every code point one step, to one that stays. -/
structure IsFolding (runs : List Run) : Prop where
  sound : ∀ r ∈ runs, r.isSound
  /-- No code point is moved by two runs. -/
  disjoint : (runs.map Run.source).Pairwise Progression.Apart
  /-- What a run leads to is not moved. -/
  settled : ∀ r ∈ runs, ∀ s ∈ runs, r.target.Apart s.source

section Folding

variable {runs : List Run} {r : Run} {n m : Nat} {c d : Char}

/-- The one run that moves a code point is the one that the table is used for. -/
theorem findSome?_image? (hd : (runs.map Run.source).Pairwise Progression.Apart)
    (hs : ∀ r ∈ runs, r.isSound) (hr : r ∈ runs) (h : r.image? n = some m) :
    runs.findSome? (·.image? n) = some m := by
  induction runs with
  | nil => simp at hr
  | cons s runs ih =>
    rw [List.map_cons] at hd
    obtain ⟨hapart, hd⟩ := List.pairwise_cons.mp hd
    rcases List.mem_cons.mp hr with rfl | hr
    · rw [List.findSome?_cons, h]
    · have hmoved := ((Run.image?_eq_some (hs r (List.mem_cons_of_mem _ hr))).mp h).1
      have hnone : s.image? n = none := by
        rw [Option.eq_none_iff_forall_not_mem]
        intro k hk
        have hboth := ((Run.image?_eq_some (hs s (List.mem_cons_self ..))).mp hk).1
        exact hapart r.source (List.mem_map_of_mem hr) n hboth hmoved
      rw [List.findSome?_cons, hnone]
      exact ih hd (fun r h => hs r (List.mem_cons_of_mem _ h)) hr

namespace IsFolding

/-- What is to be evaluated of a table. -/
theorem of_masks (hsound : runs.all Run.isSound)
    (hdisjoint : Progression.disjointFrom 0 (runs.map Run.source))
    (hsettled : Progression.masks (runs.map Run.target)
      &&& Progression.masks (runs.map Run.source) = 0) : IsFolding runs where
  sound := List.all_eq_true.mp hsound
  disjoint := (Progression.pairwise_of_disjointFrom hdisjoint).2
  settled _ hr _ hs :=
    Progression.apart_of_masks hsettled (List.mem_map_of_mem hr) (List.mem_map_of_mem hs)

variable (h : IsFolding runs)

include h

theorem mapChar_of_image? (hr : r ∈ runs) (hm : r.image? c.toNat = some m) :
    mapChar runs c = Char.ofNat m := by
  rw [mapChar, findSome?_image? h.disjoint h.sound hr hm]

/-- A character is moved by a run, or stays. -/
theorem mapChar_cases (c : Char) :
    (∃ r ∈ runs, r.image? c.toNat = some (mapChar runs c).toNat) ∨ mapChar runs c = c := by
  cases hf : runs.findSome? (·.image? c.toNat) with
  | none =>
    refine .inr ?_
    rw [mapChar, hf]
  | some m =>
    obtain ⟨r, hr, hm⟩ := List.exists_of_findSome?_eq_some hf
    refine .inl ⟨r, hr, ?_⟩
    have hvalid := Run.isValidChar_of_image? (h.sound r hr) hm
    rw [h.mapChar_of_image? hr hm, toNat_ofNat_of_isValidChar hvalid]
    exact hm

/-- **Folding twice is folding once.** -/
theorem mapChar_mapChar (c : Char) : mapChar runs (mapChar runs c) = mapChar runs c := by
  rcases h.mapChar_cases c with ⟨r, hr, hm⟩ | hstays
  · rcases h.mapChar_cases (mapChar runs c) with ⟨s, hs, hm'⟩ | hstays
    · have hmoved := ((Run.image?_eq_some (h.sound s hs)).mp hm').1
      exact absurd hmoved (h.settled r hr s hs _ (Run.target_has (h.sound r hr) hm))
    · exact hstays
  · rw [hstays, hstays]

/-- A character that no run leads to comes from itself alone. -/
theorem eq_of_mapChar_eq (hd : ∀ r ∈ runs, ¬r.target.Has d.toNat) (hc : mapChar runs c = d) :
    c = d := by
  rcases h.mapChar_cases c with ⟨r, hr, hm⟩ | hstays
  · rw [hc] at hm
    exact absurd (Run.target_has (h.sound r hr) hm) (hd r hr)
  · exact hstays.symm.trans hc

/-- What is said to be folded to `c` is, and nothing else is moved to it. -/
theorem mem_sources_iff : d ∈ sources runs c ↔ ∃ r ∈ runs, r.image? d.toNat = some c.toNat := by
  simp only [sources, List.mem_map, List.mem_filterMap]
  constructor
  · rintro ⟨n, ⟨r, hr, hn⟩, rfl⟩
    have hvalid := Run.isValidChar_of_preimage? (h.sound r hr) hn
    refine ⟨r, hr, ?_⟩
    rw [toNat_ofNat_of_isValidChar hvalid]
    exact (Run.preimage?_eq_some (h.sound r hr)).mp hn
  · rintro ⟨r, hr, hm⟩
    exact ⟨d.toNat, ⟨r, hr, (Run.preimage?_eq_some (h.sound r hr)).mpr hm⟩, Char.ofNat_toNat d⟩

/-- The characters that are folded to the same as `c`. -/
theorem mapChar_eq_iff : mapChar runs d = mapChar runs c ↔
    d = mapChar runs c ∨ d ∈ sources runs (mapChar runs c) := by
  constructor
  · intro hsame
    rcases h.mapChar_cases d with ⟨r, hr, hm⟩ | hstays
    · exact .inr (h.mem_sources_iff.mpr ⟨r, hr, hsame ▸ hm⟩)
    · exact .inl (hstays.symm.trans hsame)
  · rintro (rfl | hd)
    · exact h.mapChar_mapChar c
    · obtain ⟨r, hr, hm⟩ := h.mem_sources_iff.mp hd
      rw [h.mapChar_of_image? hr hm, Char.ofNat_toNat]

end IsFolding

end Folding

theorem isFolding_caseFoldRuns : IsFolding caseFoldRuns :=
  .of_masks (by decide +kernel) (by decide +kernel) (by decide +kernel)

/-- **The cases of a character** are those with the same folding. -/
theorem mem_caseVariants {c d : Char} : d ∈ caseVariants c ↔ caseFold d = caseFold c := by
  rw [caseVariants, List.mem_cons]
  exact isFolding_caseFoldRuns.mapChar_eq_iff.symm

end FilterQuery.Unicode
