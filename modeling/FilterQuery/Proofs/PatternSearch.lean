import FilterQuery.Pattern.Search

/-!
# What patterns match

`Pattern.Matches` says between which places of a text a pattern matches, by recursion on the pattern
and without a search. The search finds exactly these places (`Pattern.mem_ends`): for repetitions it
follows all ways at once and never looks at a place twice, which loses nothing, since a way through
known places can be cut short (`mem_stepUpTo`), and a way that never stands still is no longer than
the text (`Steps.exists_le`). The main statement is `Pattern.occursIn_iff`.
-/

namespace FilterQuery

/-! ### Ways -/

/-- A way of as many steps as the number says. -/
def Steps {α : Type} (R : α → α → Prop) : Nat → α → α → Prop
  | 0, a, b => a = b
  | n + 1, a, b => ∃ c, R a c ∧ Steps R n c b

section Ways

variable {R : Nat → Nat → Prop} {step : List Nat → List Nat} {places found known : List Nat}
  {i j k m n : Nat}

theorem Steps.trans (h : Steps R m i j) (h' : Steps R n j k) : Steps R (m + n) i k := by
  induction m generalizing i with
  | zero =>
    obtain rfl := h
    rwa [Nat.zero_add]
  | succ m ih =>
    obtain ⟨l, hl, h⟩ := h
    rw [Nat.succ_add]
    exact ⟨l, hl, ih h⟩

theorem Steps.split (h : Steps R (m + n) i k) : ∃ j, Steps R m i j ∧ Steps R n j k := by
  induction m generalizing i with
  | zero => exact ⟨i, rfl, by rwa [Nat.zero_add] at h⟩
  | succ m ih =>
    rw [Nat.succ_add] at h
    obtain ⟨l, hl, h⟩ := h
    obtain ⟨j, hj, h⟩ := ih h
    exact ⟨j, ⟨l, hl, hj⟩, h⟩

theorem Steps.le (hR : ∀ {i j}, R i j → i ≤ j) (h : Steps R n i j) : i ≤ j := by
  induction n generalizing i with
  | zero => exact Nat.le_of_eq h
  | succ n ih =>
    obtain ⟨k, hk, h⟩ := h
    exact Nat.le_trans (hR hk) (ih h)

/-- If no step goes back, those that stand still can be left out. -/
theorem Steps.exists_le (hR : ∀ {i j}, R i j → i ≤ j) (h : Steps R n i j) :
    ∃ m, m ≤ j - i ∧ Steps R m i j := by
  induction n generalizing i with
  | zero => exact ⟨0, Nat.zero_le _, h⟩
  | succ n ih =>
    obtain ⟨k, hk, h⟩ := h
    obtain ⟨m, hm, hway⟩ := ih h
    by_cases hik : i = k
    · exact ⟨m, hik ▸ hm, hik ▸ hway⟩
    · have := hR hk
      have := hway.le hR
      exact ⟨m + 1, by omega, k, hk, hway⟩

/-- The function takes every step from every place. -/
def TakesAll (R : Nat → Nat → Prop) (step : List Nat → List Nat) : Prop :=
  ∀ places j, j ∈ step places ↔ ∃ i ∈ places, R i j

/-- Places that a step leads back to are those at the end of a way of any length. -/
theorem mem_of_step_eq (hs : TakesAll R step) (h : step places = places) (n : Nat) :
    j ∈ places ↔ ∃ i ∈ places, Steps R n i j := by
  induction n generalizing j with
  | zero => simp [Steps]
  | succ n ih =>
    rw [ih]
    constructor
    · rintro ⟨k, hk, hway⟩
      rw [← h, hs] at hk
      obtain ⟨i, hi, hik⟩ := hk
      exact ⟨i, hi, k, hik, hway⟩
    · rintro ⟨i, hi, k, hik, hway⟩
      have hk : k ∈ step places := (hs places k).mpr ⟨i, hi, hik⟩
      exact ⟨k, h ▸ hk, hway⟩

theorem mem_stepTimes (hs : TakesAll R step) (n : Nat) (places : List Nat) :
    j ∈ stepTimes step n places ↔ ∃ i ∈ places, Steps R n i j := by
  induction n generalizing places with
  | zero => simp [stepTimes, Steps]
  | succ n ih =>
    rw [stepTimes]
    split
    · next hfixed => exact mem_of_step_eq hs hfixed (n + 1)
    · rw [ih]
      simp only [hs places, Steps]
      constructor
      · rintro ⟨k, ⟨i, hi, hik⟩, hway⟩
        exact ⟨i, hi, k, hik, hway⟩
      · rintro ⟨i, hi, k, hik, hway⟩
        exact ⟨k, ⟨i, hi, hik⟩, hway⟩

theorem mem_newPlaces : j ∈ newPlaces known places ↔ j ∈ places ∧ j ∉ known := by
  simp [newPlaces, List.mem_filter, List.mem_eraseDups]

/-- From the known places only those that were found last lead to unknown ones. -/
def OnlyFoundLeadOut (R : Nat → Nat → Prop) (found known : List Nat) : Prop :=
  ∀ i ∈ known, i ∉ found → ∀ j, R i j → j ∈ known

/-- A way that leaves the known places leads through a new one that was found from the last. -/
theorem Steps.leave (hs : TakesAll R step) (hout : OnlyFoundLeadOut R found known) (hi : i ∈ known)
    (h : Steps R n i j) : j ∈ known ∨
      ∃ m, m < n ∧ ∃ k ∈ newPlaces known (step found), Steps R m k j := by
  induction n generalizing i with
  | zero =>
    obtain rfl := h
    exact .inl hi
  | succ n ih =>
    obtain ⟨k, hik, hway⟩ := h
    by_cases hk : k ∈ known
    · rcases ih hk hway with hj | ⟨m, hm, hnew⟩
      · exact .inl hj
      · exact .inr ⟨m, Nat.lt_succ_of_lt hm, hnew⟩
    · have hfound : i ∈ found :=
        Decidable.byContradiction fun hfound => hk (hout i hi hfound k hik)
      have hnew : k ∈ newPlaces known (step found) :=
        mem_newPlaces.mpr ⟨(hs found k).mpr ⟨i, hfound, hik⟩, hk⟩
      exact .inr ⟨n, Nat.lt_succ_self n, k, hnew, hway⟩

/-- **The search finds all places on all ways**, though it goes on from new places only. -/
theorem mem_stepUpTo (hs : TakesAll R step) (hsub : found ⊆ known)
    (hout : OnlyFoundLeadOut R found known) (count : Nat) : j ∈ stepUpTo step count found known ↔
      j ∈ known ∨ ∃ n, n ≤ count ∧ ∃ i ∈ found, Steps R n i j := by
  induction count generalizing found known with
  | zero =>
    rw [stepUpTo]
    constructor
    · exact .inl
    · rintro (hj | ⟨n, hn, i, hi, hway⟩)
      · exact hj
      · obtain rfl : n = 0 := by omega
        exact hway ▸ hsub hi
  | succ count ih =>
    let new := newPlaces known (step found)
    have hnew {k : Nat} : k ∈ new ↔ (∃ i ∈ found, R i k) ∧ k ∉ known := by
      rw [mem_newPlaces, hs]
    rw [stepUpTo]
    split
    · next hnone =>
      constructor
      · exact .inl
      · rintro (hj | ⟨n, -, i, hi, hway⟩)
        · exact hj
        · rcases hway.leave hs hout (hsub hi) with hj | ⟨m, -, k, hk, -⟩
          · exact hj
          · simp [hnone] at hk
    · have hout' : OnlyFoundLeadOut R new (new ++ known) := by
        intro i hi hold k hik
        rw [List.mem_append] at hi ⊢
        have hi : i ∈ known := hi.resolve_left hold
        by_cases hk : k ∈ known
        · exact .inr hk
        · have hfound : i ∈ found :=
            Decidable.byContradiction fun hfound => hk (hout i hi hfound k hik)
          exact .inl (hnew.mpr ⟨⟨i, hfound, hik⟩, hk⟩)
      rw [ih (List.subset_append_left new known) hout', List.mem_append]
      constructor
      · rintro ((hj | hj) | ⟨n, hn, k, hk, hway⟩)
        · obtain ⟨⟨i, hi, hij⟩, -⟩ := hnew.mp hj
          exact .inr ⟨1, by omega, i, hi, j, hij, rfl⟩
        · exact .inl hj
        · obtain ⟨⟨i, hi, hik⟩, -⟩ := hnew.mp hk
          exact .inr ⟨n + 1, by omega, i, hi, k, hik, hway⟩
      · rintro (hj | ⟨n, hn, i, hi, hway⟩)
        · exact .inl (.inr hj)
        · rcases hway.leave hs hout (hsub hi) with hj | ⟨m, hm, k, hk, hway⟩
          · exact .inl (.inr hj)
          · exact .inr ⟨m, by omega, k, hk, hway⟩

end Ways

/-! ### Matches -/

namespace Pattern

/-- Between which places of a text a pattern matches. -/
def Matches (text : Array Char) : Pattern → Nat → Nat → Prop
  | empty, i, j => i = j
  | set s, i, j => (∃ c, text[i]? = some c ∧ s.contains c) ∧ j = i + 1
  | assert a, i, j => a.holds text i ∧ i = j
  | sequence first second, i, j => ∃ k, first.Matches text i k ∧ second.Matches text k j
  | choice first second, i, j => first.Matches text i j ∨ second.Matches text i j
  | repetition p least most, i, j =>
    ∃ n, least ≤ n ∧ (∀ m ∈ most, n ≤ max least m) ∧ Steps (p.Matches text) n i j
  | group _ p, i, j => p.Matches text i j

variable {text : Array Char} {p : Pattern} {i j : Nat}

theorem matches_group {number : Nat} : (group number p).Matches text i j ↔ p.Matches text i j :=
  Iff.rfl

/-- A match does not go back, nor beyond the text. -/
theorem Matches.bounds (h : p.Matches text i j) : i ≤ j ∧ j ≤ max i text.size := by
  induction p generalizing i j with
  | empty =>
    obtain rfl := h
    omega
  | set s =>
    obtain ⟨⟨c, hc, -⟩, rfl⟩ := h
    have := (Array.getElem?_eq_some_iff.mp hc).1
    omega
  | assert a =>
    obtain ⟨-, rfl⟩ := h
    omega
  | sequence first second ihf ihs =>
    obtain ⟨k, hf, hs⟩ := h
    have := ihf hf
    have := ihs hs
    omega
  | choice first second ihf ihs => exact h.elim ihf ihs
  | repetition p least most ih =>
    obtain ⟨n, -, -, hway⟩ := h
    induction n generalizing i with
    | zero =>
      obtain rfl := hway
      omega
    | succ n ihn =>
      obtain ⟨k, hk, hway⟩ := hway
      have := ih hk
      have := ihn hway
      omega
  | group _ p ih => exact ih h

/-- A way of matches is as good as one of at least as many, and of at most as many as the text has
characters more. -/
theorem Matches.shorten {least n : Nat} (hn : least ≤ n) (h : Steps (p.Matches text) n i j) :
    ∃ m, m ≤ text.size ∧ Steps (p.Matches text) (least + m) i j := by
  obtain ⟨n, rfl⟩ := Nat.exists_eq_add_of_le hn
  obtain ⟨k, hfirst, hrest⟩ := h.split
  obtain ⟨m, hm, hrest⟩ := hrest.exists_le fun hstep => hstep.bounds.1
  have hway : (repetition p 0 none).Matches text k j := ⟨m, Nat.zero_le _, by simp, hrest⟩
  have := hway.bounds
  exact ⟨m, by omega, hfirst.trans hrest⟩

/-- Where the search ends that repeats a pattern. -/
theorem mem_repeat {step : List Nat → List Nat} {R : Nat → Nat → Prop} (hs : TakesAll R step)
    (least more : Nat) (places : List Nat) :
    j ∈ stepUpTo step more (stepTimes step least places) (stepTimes step least places) ↔
      ∃ n, n ≤ more ∧ ∃ i ∈ places, Steps R (least + n) i j := by
  have hall : OnlyFoundLeadOut R (stepTimes step least places) (stepTimes step least places) :=
    fun i hi hout => absurd hi hout
  rw [mem_stepUpTo hs (List.Subset.refl _) hall]
  simp only [mem_stepTimes hs least places]
  constructor
  · rintro (⟨i, hi, hway⟩ | ⟨n, hn, k, ⟨i, hi, hfirst⟩, hrest⟩)
    · exact ⟨0, Nat.zero_le _, i, hi, hway⟩
    · exact ⟨n, hn, i, hi, hfirst.trans hrest⟩
  · rintro ⟨n, hn, i, hi, hway⟩
    obtain ⟨k, hfirst, hrest⟩ := hway.split
    exact .inr ⟨n, hn, k, ⟨i, hi, hfirst⟩, hrest⟩

/-- **The search finds the ends of all matches.** -/
theorem mem_ends (text : Array Char) (p : Pattern) : TakesAll (p.Matches text) (p.ends text) := by
  induction p with
  | empty => simp [TakesAll, ends, Matches]
  | set s =>
    intro places j
    simp only [ends, List.mem_map, List.mem_filter, Option.any_eq_true, Matches]
    constructor
    · rintro ⟨i, ⟨hi, hc⟩, rfl⟩
      exact ⟨i, hi, hc, rfl⟩
    · rintro ⟨i, hi, hc, rfl⟩
      exact ⟨i, ⟨hi, hc⟩, rfl⟩
  | assert a =>
    intro places j
    simp only [ends, List.mem_filter, Matches]
    constructor
    · rintro ⟨hj, ha⟩
      exact ⟨j, hj, ha, rfl⟩
    · rintro ⟨i, hi, ha, rfl⟩
      exact ⟨hi, ha⟩
  | sequence first second ihf ihs =>
    intro places j
    simp only [ends, Matches, ihs _ j, ihf places]
    constructor
    · rintro ⟨k, ⟨i, hi, hf⟩, hs⟩
      exact ⟨i, hi, k, hf, hs⟩
    · rintro ⟨i, hi, k, hf, hs⟩
      exact ⟨k, ⟨i, hi, hf⟩, hs⟩
  | choice first second ihf ihs =>
    intro places j
    have hunion : j ∈ (choice first second).ends text places ↔
        j ∈ first.ends text places ∨ j ∈ second.ends text places := by
      simp only [ends, List.mem_append, mem_newPlaces]
      by_cases hj : j ∈ first.ends text places <;> simp [hj]
    rw [hunion, ihf places, ihs places]
    constructor
    · rintro (⟨i, hi, h⟩ | ⟨i, hi, h⟩)
      · exact ⟨i, hi, .inl h⟩
      · exact ⟨i, hi, .inr h⟩
    · rintro ⟨i, hi, h | h⟩
      · exact .inl ⟨i, hi, h⟩
      · exact .inr ⟨i, hi, h⟩
  | repetition p least most ih =>
    intro places j
    simp only [ends, mem_repeat ih]
    cases most with
    | none =>
      constructor
      · rintro ⟨n, -, i, hi, hway⟩
        exact ⟨i, hi, least + n, by omega, by simp, hway⟩
      · rintro ⟨i, hi, n, hn, -, hway⟩
        obtain ⟨m, hm, hway⟩ := Matches.shorten hn hway
        exact ⟨m, hm, i, hi, hway⟩
    | some most =>
      dsimp only
      constructor
      · rintro ⟨n, hn, i, hi, hway⟩
        refine ⟨i, hi, least + n, by omega, ?_, hway⟩
        rintro _ ⟨⟩
        omega
      · rintro ⟨i, hi, n, hn, hmost, hway⟩
        obtain ⟨n, rfl⟩ := Nat.exists_eq_add_of_le hn
        have := hmost most rfl
        exact ⟨n, by omega, i, hi, hway⟩
  | group _ p ih => exact ih

/-- **A pattern occurs in a text** if it matches between two places of the text. -/
theorem occursIn_iff {text : String} : p.occursIn text ↔
    ∃ i j, i ≤ text.toList.length ∧ p.Matches text.toList.toArray i j := by
  simp only [occursIn, Bool.not_eq_true', List.isEmpty_eq_false_iff_exists_mem, mem_ends _ p _ _,
    List.mem_range, List.size_toArray, Nat.lt_succ_iff]
  exact exists_comm.trans (by simp only [exists_and_left])

end Pattern

end FilterQuery
