import Mathlib.Data.List.Nodup
import Mathlib.Data.List.TakeWhile

/-!
# Computations that can fail, and runs of characters

What the rest of the theory needs to know about `Except`, lists and padded text.
-/

namespace FilterQuery

section Outcomes

variable {α β ε : Type}

/-- A computation succeeds if its first step does, and what follows does too. -/
theorem bind_eq_ok {x : Except ε α} {f : α → Except ε β} {b : β} :
    x >>= f = .ok b ↔ ∃ a, x = .ok a ∧ f a = .ok b := by
  cases x with
  | error e => simp [bind, Except.bind]
  | ok a => simp [bind, Except.bind]

/-- A computation fails at its first step, or at what follows. -/
theorem bind_eq_error {x : Except ε α} {f : α → Except ε β} {e : ε} :
    x >>= f = .error e ↔ x = .error e ∨ ∃ a, x = .ok a ∧ f a = .error e := by
  cases x with
  | error e => simp [bind, Except.bind]
  | ok a => simp [bind, Except.bind]

theorem pure_eq_ok {a b : α} : (pure a : Except ε α) = .ok b ↔ a = b := by
  simp [pure, Except.pure]

@[simp] theorem pure_ne_error {a : α} {e : ε} : (pure a : Except ε α) ≠ .error e := nofun

@[simp] theorem throw_eq_ok {e : ε} {b : β} : (throw e : Except ε β) = .ok b ↔ False :=
  ⟨nofun, nofun⟩

/-- A computation that begins with a check succeeds if the check passes and the rest does too. -/
theorem check_eq_ok {c : Prop} [Decidable c] {e : ε} {f : Unit → Except ε β} {b : β} :
    (if c then throw e >>= f else f ()) = .ok b ↔ ¬c ∧ f () = .ok b := by
  by_cases hc : c
  · simp [hc, bind_eq_ok]
  · simp [hc]

/-- What every step keeps, a list of steps keeps. -/
theorem foldlM_preserves {f : β → α → Except ε β} {P : β → Prop}
    (h : ∀ {b : β} {a : α} {b' : β}, P b → f b a = .ok b' → P b') {l : List α} {b b' : β} (hb : P b)
    (hl : l.foldlM f b = .ok b') : P b' := by
  induction l generalizing b with
  | nil =>
    obtain rfl := pure_eq_ok.mp hl
    exact hb
  | cons a l ih =>
    rw [List.foldlM_cons] at hl
    obtain ⟨next, ha, hrest⟩ := bind_eq_ok.mp hl
    exact ih (h hb ha) hrest

/-- What every step keeps of the elements that are behind it, a list of steps keeps of all. -/
theorem foldlM_preserves_prefix {f : β → α → Except ε β} {P : List α → β → Prop}
    (h : ∀ {done : List α} {b : β} {a : α} {b' : β}, P done b → f b a = .ok b' → P (done ++ [a]) b')
    (done : List α) {l : List α} {b b' : β} (hb : P done b) (hl : l.foldlM f b = .ok b') :
    P (done ++ l) b' := by
  induction l generalizing done b with
  | nil =>
    obtain rfl := pure_eq_ok.mp hl
    rwa [List.append_nil]
  | cons a l ih =>
    rw [List.foldlM_cons] at hl
    obtain ⟨next, ha, hrest⟩ := bind_eq_ok.mp hl
    rw [List.append_cons]
    exact ih (done ++ [a]) (h hb ha) hrest

/-- Where a step that succeeds does so from every related state and with every related element, and
what they lead to is related, a list of steps does the same. -/
theorem foldlM_agree_forall₂ {f : β → α → Except ε β} {R : β → β → Prop} {S : α → α → Prop}
    (h : ∀ {b c : β} {a a' : α} {b' : β}, R b c → S a a' → f b a = .ok b' →
      ∃ c', f c a' = .ok c' ∧ R b' c') {l l' : List α} {b c b' : β} (hs : List.Forall₂ S l l')
    (hbc : R b c) (hl : l.foldlM f b = .ok b') : ∃ c', l'.foldlM f c = .ok c' ∧ R b' c' := by
  induction hs generalizing b c with
  | nil =>
    obtain rfl := pure_eq_ok.mp hl
    exact ⟨c, rfl, hbc⟩
  | cons ha _ ih =>
    rw [List.foldlM_cons] at hl
    obtain ⟨next, hstep, hrest⟩ := bind_eq_ok.mp hl
    obtain ⟨next', hstep', hnext⟩ := h hbc ha hstep
    obtain ⟨c', hrest', hc'⟩ := ih hnext hrest
    refine ⟨c', ?_, hc'⟩
    rw [List.foldlM_cons]
    exact bind_eq_ok.mpr ⟨next', hstep', hrest'⟩

/-- The same with the same elements. -/
theorem foldlM_agree {f : β → α → Except ε β} {R : β → β → Prop}
    (h : ∀ {b c : β} {a : α} {b' : β}, R b c → f b a = .ok b' → ∃ c', f c a = .ok c' ∧ R b' c')
    {l : List α} {b c b' : β} (hbc : R b c) (hl : l.foldlM f b = .ok b') :
    ∃ c', l.foldlM f c = .ok c' ∧ R b' c' :=
  foldlM_agree_forall₂ (S := Eq) (fun hb ha hf => ha ▸ h hb hf) (List.forall₂_refl l) hbc hl

/-- The same where the steps go on from computations that agree. -/
theorem bind_foldlM_agree {f : β → α → Except ε β} {R : β → β → Prop}
    (h : ∀ {b c : β} {a : α} {b' : β}, R b c → f b a = .ok b' → ∃ c', f c a = .ok c' ∧ R b' c')
    {x y : Except ε β} (hxy : ∀ {b : β}, x = .ok b → ∃ c, y = .ok c ∧ R b c) {l : List α} {b' : β}
    (hl : x >>= l.foldlM f = .ok b') : ∃ c', y >>= l.foldlM f = .ok c' ∧ R b' c' := by
  obtain ⟨b, hx, hsteps⟩ := bind_eq_ok.mp hl
  obtain ⟨c, hy, hbc⟩ := hxy hx
  obtain ⟨c', hsteps', hc'⟩ := foldlM_agree h hbc hsteps
  exact ⟨c', bind_eq_ok.mpr ⟨c, hy, hsteps'⟩, hc'⟩

/-- A list of steps succeeds if each of them does. -/
theorem mapM_eq_ok_iff_forall₂ {f : α → Except ε β} {xs : List α} {ys : List β} :
    xs.mapM f = .ok ys ↔ List.Forall₂ (fun x y => f x = .ok y) xs ys := by
  induction xs generalizing ys with
  | nil => rw [List.mapM_nil, pure_eq_ok, List.forall₂_nil_left_iff, eq_comm]
  | cons x xs ih =>
    rw [List.mapM_cons, List.forall₂_cons_left_iff]
    simp only [bind_eq_ok, pure_eq_ok, ih]
    constructor
    · rintro ⟨y, hy, rest, hrest, rfl⟩
      exact ⟨y, rest, hy, hrest, rfl⟩
    · rintro ⟨y, rest, hy, hrest, rfl⟩
      exact ⟨y, hy, rest, hrest, rfl⟩

end Outcomes

/-- Where no key occurs twice, a search by key finds whatever has it. -/
theorem find?_key_eq_some_iff {α κ : Type} [DecidableEq κ] {key : α → κ} {xs : List α}
    (hd : (xs.map key).Nodup) {k : κ} {x : α} :
    xs.find? (fun x => key x = k) = some x ↔ x ∈ xs ∧ key x = k := by
  constructor
  · intro h
    exact ⟨List.mem_of_find?_eq_some h, by simpa using List.find?_some h⟩
  · rintro ⟨hx, rfl⟩
    have hsome : (xs.find? fun y => key y = key x).isSome :=
      List.find?_isSome.mpr ⟨x, hx, decide_eq_true rfl⟩
    obtain ⟨y, hy⟩ := Option.isSome_iff_exists.mp hsome
    have hkey : key y = key x := by simpa using List.find?_some hy
    rw [hy, List.inj_on_of_nodup_map hd (List.mem_of_find?_eq_some hy) hx hkey]

/-- Where no key occurs twice, it does not matter in which order a search goes. -/
theorem find?_key_perm {α κ : Type} [DecidableEq κ] {key : α → κ} {xs ys : List α}
    (hp : xs.Perm ys) (hd : (xs.map key).Nodup) (k : κ) :
    xs.find? (fun x => key x = k) = ys.find? (fun x => key x = k) := by
  have hd' : (ys.map key).Nodup := (hp.map key).nodup_iff.mp hd
  refine Option.ext fun x => ?_
  rw [find?_key_eq_some_iff hd, find?_key_eq_some_iff hd', hp.mem_iff]

section Runs

variable {α : Type} {p : α → Bool} {xs rest : List α}

/-- A run ends where the rest does not go on with it. -/
theorem takeWhile_append_stop (h : ∀ x ∈ xs, p x) (hr : ∀ x ∈ rest.head?, p x = false) :
    (xs ++ rest).takeWhile p = xs := by
  rw [List.takeWhile_append_of_pos h]
  cases rest with
  | nil => simp
  | cons y ys => simp [hr y rfl]

theorem dropWhile_append_stop (h : ∀ x ∈ xs, p x) (hr : ∀ x ∈ rest.head?, p x = false) :
    (xs ++ rest).dropWhile p = rest := by
  rw [List.dropWhile_append_of_pos h]
  cases rest with
  | nil => rfl
  | cons y ys => simp [hr y rfl]

theorem head?_dropWhile_stop (p : α → Bool) (xs : List α) :
    ∀ x ∈ (xs.dropWhile p).head?, p x = false := by
  intro x hx
  have := List.head?_dropWhile_not p xs
  rwa [Option.mem_def.mp hx] at this

end Runs

theorem toList_pushn (text : String) (c : Char) (n : Nat) :
    (text.pushn c n).toList = text.toList ++ List.replicate n c := by
  rw [String.pushn_eq_repeat_push]
  induction n with
  | zero => exact (List.append_nil _).symm
  | succ n ih => rw [Nat.repeat, String.toList_push, ih, List.append_assoc, List.replicate_succ']

end FilterQuery
