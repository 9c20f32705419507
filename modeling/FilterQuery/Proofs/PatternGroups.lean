import FilterQuery.Proofs.PatternSearch

/-!
# What groups keep

Each group of a pattern keeps the places between which it has matched last. `Pattern.Fills` says
what the groups keep after a match, if they keep something before it: it is `Pattern.Matches`
(`Pattern.matches_iff_exists_fills`) with the groups carried along, and groups that are not in the
pattern stay as they are (`Pattern.Fills.keeps`).

A pattern may match in several ways and fill its groups differently. `Pattern.Captures` leaves open
which way a search prefers, so what holds of all that a group captures holds of any search.
-/

namespace FilterQuery

/-- What groups keep, by their numbers. A group that has not matched keeps nothing. -/
abbrev Groups := Nat → Option (Nat × Nat)

namespace Groups

/-- No group has matched. -/
def unset : Groups := fun _ => none

/-- One group has matched between two places. -/
def keep (g : Groups) (number i j : Nat) : Groups :=
  fun n => if n = number then some (i, j) else g n

@[simp] theorem keep_self (g : Groups) (number i j : Nat) :
    g.keep number i j number = some (i, j) :=
  if_pos rfl

theorem keep_of_ne {n number : Nat} (h : n ≠ number) (g : Groups) (i j : Nat) :
    g.keep number i j n = g n :=
  if_neg h

/-- The text that a group keeps. -/
def text? (g : Groups) (text : String) (number : Nat) : Option String :=
  (g number).map fun span => String.ofList ((text.toList.drop span.1).take (span.2 - span.1))

end Groups

/-! ### Ways with groups -/

section Ways

variable {R : Nat → Nat → Prop} {S : Nat × Groups → Nat × Groups → Prop} {a b : Nat × Groups}
  {i j n : Nat}

/-- A way that fills groups is a way, if each of its steps is a step. -/
theorem steps_iff_exists (h : ∀ {i j} g, R i j ↔ ∃ g', S (i, g) (j, g')) (g : Groups) :
    Steps R n i j ↔ ∃ g', Steps S n (i, g) (j, g') := by
  induction n generalizing i g with
  | zero => simp only [Steps, Prod.mk.injEq, exists_and_left, exists_eq', and_true]
  | succ n ih =>
    constructor
    · rintro ⟨k, hik, hway⟩
      obtain ⟨g', hstep⟩ := (h g).mp hik
      obtain ⟨g'', hway⟩ := (ih g').mp hway
      exact ⟨g'', (k, g'), hstep, hway⟩
    · rintro ⟨g'', ⟨k, g'⟩, hstep, hway⟩
      exact ⟨k, (h g).mpr ⟨g', hstep⟩, (ih g').mpr ⟨g'', hway⟩⟩

/-- What no step changes, no way changes. -/
theorem Steps.keeps {number : Nat} (h : ∀ {a b}, S a b → b.2 number = a.2 number)
    (hway : Steps S n a b) : b.2 number = a.2 number := by
  induction n generalizing a with
  | zero => rw [show a = b from hway]
  | succ n ih =>
    obtain ⟨c, hstep, hway⟩ := hway
    exact (ih hway).trans (h hstep)

end Ways

/-! ### Matches with groups -/

namespace Pattern

/-- The numbers of the groups in a pattern. -/
def groups : Pattern → List Nat
  | empty => []
  | set _ => []
  | assert _ => []
  | sequence first second => first.groups ++ second.groups
  | choice first second => first.groups ++ second.groups
  | repetition p _ _ => p.groups
  | group number p => number :: p.groups

/-- Between which places of a text a pattern matches, and what the groups keep there. -/
def Fills (text : Array Char) : Pattern → Nat × Groups → Nat × Groups → Prop
  | empty, a, b => a = b
  | set s, a, b => (∃ c, text[a.1]? = some c ∧ s.contains c) ∧ b = (a.1 + 1, a.2)
  | assert c, a, b => c.holds text a.1 ∧ a = b
  | sequence first second, a, b => ∃ c, first.Fills text a c ∧ second.Fills text c b
  | choice first second, a, b => first.Fills text a b ∨ second.Fills text a b
  | repetition p least most, a, b =>
    ∃ n, least ≤ n ∧ (∀ m ∈ most, n ≤ max least m) ∧ Steps (p.Fills text) n a b
  | group number p, a, b => ∃ g, p.Fills text a (b.1, g) ∧ b.2 = g.keep number a.1 b.1

variable {text : Array Char} {p : Pattern} {i j : Nat} {a b : Nat × Groups}

/-- **A match fills groups**, whatever they keep before, and nothing else does. -/
theorem matches_iff_exists_fills (g : Groups) :
    p.Matches text i j ↔ ∃ g', p.Fills text (i, g) (j, g') := by
  induction p generalizing i j g with
  | empty => simp only [Matches, Fills, Prod.mk.injEq, exists_and_left, exists_eq', and_true]
  | set s => simp only [Matches, Fills, Prod.mk.injEq, exists_and_left, exists_eq, and_true]
  | assert c => simp only [Matches, Fills, Prod.mk.injEq, exists_and_left, exists_eq', and_true]
  | sequence first second ihf ihs =>
    constructor
    · rintro ⟨k, hf, hs⟩
      obtain ⟨g', hf⟩ := (ihf g).mp hf
      obtain ⟨g'', hs⟩ := (ihs g').mp hs
      exact ⟨g'', (k, g'), hf, hs⟩
    · rintro ⟨g'', ⟨k, g'⟩, hf, hs⟩
      exact ⟨k, (ihf g).mpr ⟨g', hf⟩, (ihs g').mpr ⟨g'', hs⟩⟩
  | choice first second ihf ihs =>
    simp only [Matches, Fills, ihf g, ihs g, exists_or]
  | repetition p least most ih =>
    simp only [Matches, Fills, steps_iff_exists ih g]
    constructor
    · rintro ⟨n, hn, hm, g', hway⟩
      exact ⟨g', n, hn, hm, hway⟩
    · rintro ⟨g', n, hn, hm, hway⟩
      exact ⟨n, hn, hm, g', hway⟩
  | group number p ih =>
    simp only [Matches, Fills, ih g]
    constructor
    · rintro ⟨g', h⟩
      exact ⟨g'.keep number i j, g', h, rfl⟩
    · rintro ⟨_, g', h, -⟩
      exact ⟨g', h⟩

theorem Fills.matches (h : p.Fills text a b) : p.Matches text a.1 b.1 :=
  (matches_iff_exists_fills a.2).mpr ⟨b.2, h⟩

/-- **A group that is not in the pattern** keeps what it kept. -/
theorem Fills.keeps {number : Nat} (hn : number ∉ p.groups) (h : p.Fills text a b) :
    b.2 number = a.2 number := by
  induction p generalizing a b with
  | empty => rw [show a = b from h]
  | set s => rw [h.2]
  | assert c => rw [h.2]
  | sequence first second ihf ihs =>
    rw [groups, List.mem_append, not_or] at hn
    obtain ⟨c, hf, hs⟩ := h
    exact (ihs hn.2 hs).trans (ihf hn.1 hf)
  | choice first second ihf ihs =>
    rw [groups, List.mem_append, not_or] at hn
    exact h.elim (ihf hn.1) (ihs hn.2)
  | repetition p least most ih =>
    obtain ⟨n, -, -, hway⟩ := h
    exact hway.keeps (ih hn)
  | group other p ih =>
    obtain ⟨hother, hn⟩ := List.ne_and_not_mem_of_not_mem_cons hn
    obtain ⟨g, h, hb⟩ := h
    rw [hb, Groups.keep_of_ne hother]
    exact ih hn h

theorem fills_sequenceOf_cons {ps : List Pattern} : (sequenceOf (p :: ps)).Fills text a b ↔
    ∃ c, p.Fills text a c ∧ (sequenceOf ps).Fills text c b := by
  cases ps with
  | nil => simp [sequenceOf, Fills]
  | cons q ps => rfl

/-- What a search for the group may find in a text: what the group keeps after some match, or
nothing if there is none. -/
def Captures (p : Pattern) (number : Nat) (text : String) (found : Option String) : Prop :=
  (∃ i j g, i ≤ text.toList.length ∧ p.Fills text.toList.toArray (i, .unset) (j, g) ∧
    g.text? text number = found) ∨
  (¬ p.occursIn text ∧ found = none)

end Pattern

end FilterQuery
