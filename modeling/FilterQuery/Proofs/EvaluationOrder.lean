import FilterQuery.Proofs.BuiltResolver
import FilterQuery.Proofs.Expressible
import FilterQuery.Resolver.Query

/-!
# The order of evaluation

Compiling a condition makes a series of visits, from left to right: to a comparison, which is
compiled by itself, and to the place behind a left operand at which a right operand or a gate is
missing (`Tree.visits`). An operation without a gate is left there, and its right operand is not
visited. The nested early returns of compiling come to this one series: what a condition fails with
is the error of the first visit that fails (`Resolver.error?_compile`), and it compiles if no visit
does. A parsed query lacks nothing, so its visits are its comparisons. The main statement is
`Resolver.compile_fails_first`.
-/

namespace FilterQuery

/-- A step in which a condition is compiled. -/
inductive Visit where
  /-- A comparison is compiled by itself. -/
  | comparison (leaf : Comparison)
  /-- Behind its left operand an operation has a gate, and no right operand. -/
  | openGate (gate : Gate)
  /-- Behind its left operand an operation has no gate, and a right operand. -/
  | missingGate

/-- All visits to a condition, in order. -/
def Tree.visits : Tree → List Visit
  | comparison leaf => [.comparison leaf]
  | group inner => inner.visits
  | join left _ right => left.visits ++ right.visits
  | openGate left gate => left.visits ++ [.openGate gate]
  | ungated left _ => left.visits ++ [.missingGate]

/-- The visits to a tree that lacks nothing are those to its comparisons. -/
theorem Tree.visits_of_complete {t : Tree} (hc : t.Complete) :
    t.visits = t.leaves.map Visit.comparison := by
  induction t with
  | comparison leaf => rfl
  | join left gate right ihl ihr => rw [visits, leaves, List.map_append, ihl hc.1, ihr hc.2]
  | group | openGate | ungated => exact hc.elim

/-- The error of an outcome, if it is one. -/
def errorOf? {α : Type} : Except ResolveError α → Option ResolveError
  | .ok _ => none
  | .error e => some e

section Outcomes

variable {α β : Type} {x : Except ResolveError α} {e : ResolveError}

theorem errorOf?_eq_some_iff : errorOf? x = some e ↔ x = .error e := by
  cases x <;> simp [errorOf?]

theorem errorOf?_eq_none_iff : errorOf? x = none ↔ ∃ a, x = .ok a := by
  cases x <;> simp [errorOf?]

/-- What follows fails only where the first step does not. -/
theorem errorOf?_bind {f : α → Except ResolveError β} {next : Option ResolveError}
    (h : ∀ a, errorOf? (f a) = next) : errorOf? (x >>= f) = (errorOf? x).or next := by
  cases x with
  | ok a => exact h a
  | error e => rfl

theorem errorOf?_bind_ok (f : α → β) : errorOf? (x >>= fun a => .ok (f a)) = errorOf? x := by
  cases x <;> rfl

end Outcomes

/-- The error that a visit fails with, if it does. -/
def Visit.error? (r : Resolver) : Visit → Option ResolveError
  | comparison leaf => errorOf? (r.compile (.comparison leaf))
  | openGate gate => some (.malformed (.noRightOperand gate))
  | missingGate => some (.malformed .missingGate)

namespace Resolver

variable {r : Resolver} {t : Tree} {e : ResolveError}

/-- **Compiling stops at the first visit that fails.** -/
theorem error?_compile (r : Resolver) (t : Tree) :
    errorOf? (r.compile t) = t.visits.findSome? (Visit.error? r) := by
  induction t with
  | comparison leaf => simp [Tree.visits, Visit.error?]
  | group inner ih =>
    rw [compile, Tree.visits, ← ih]
    exact errorOf?_bind_ok _
  | join left gate right ihl ihr =>
    rw [compile, Tree.visits, List.findSome?_append, ← ihl, ← ihr]
    exact errorOf?_bind fun _ => errorOf?_bind_ok _
  | openGate left gate ih =>
    rw [compile, Tree.visits, List.findSome?_append, ← ih]
    exact errorOf?_bind fun _ => rfl
  | ungated left right ih =>
    rw [compile, Tree.visits, List.findSome?_append, ← ih]
    exact errorOf?_bind fun _ => rfl

/-- **A condition compiles** if no visit to it fails. -/
theorem compile_ok_iff_visits :
    (∃ f, r.compile t = .ok f) ↔ ∀ v ∈ t.visits, v.error? r = none := by
  rw [← errorOf?_eq_none_iff, error?_compile, List.findSome?_eq_none_iff]

theorem compile_error_iff_visits : r.compile t = .error e ↔
    ∃ before v after, t.visits = before ++ v :: after ∧ v.error? r = some e ∧
      ∀ w ∈ before, w.error? r = none := by
  rw [← errorOf?_eq_some_iff, error?_compile, List.findSome?_eq_some_iff]

theorem compileQuery_of_parse_error {query : String} {e : SyntaxError}
    (h : parse query = .error e) : r.compileQuery query = .error (.malformed e) := by
  rw [compileQuery, h]

theorem compileQuery_of_parse_ok {query : String} (h : parse query = .ok t) :
    r.compileQuery query = r.compile t := by
  rw [compileQuery, h]

/-- **The first failure decides.** A condition compiles exactly if no visit to it fails, and
otherwise the error is that of the first visit that does. The error of a parsed query is that of its
leftmost comparison that does not compile by itself. -/
theorem compile_fails_first (r : Resolver) (t : Tree) :
    ((∃ f, r.compile t = .ok f) ↔ ∀ v ∈ t.visits, v.error? r = none) ∧
    (∀ e, r.compile t = .error e ↔
      ∃ before v after, t.visits = before ++ v :: after ∧ v.error? r = some e ∧
        ∀ w ∈ before, w.error? r = none) ∧
    ∀ query, parse query = .ok t → ∀ e, r.compileQuery query = .error e ↔
      ∃ before leaf after, t.leaves = before ++ leaf :: after ∧
        r.compile (.comparison leaf) = .error e ∧
        ∀ other ∈ before, ∃ f, r.compile (.comparison other) = .ok f := by
  refine ⟨compile_ok_iff_visits, fun e => compile_error_iff_visits, fun query hparse e => ?_⟩
  have hvisits := Tree.visits_of_complete (derives_of_parse hparse).1.complete
  rw [compileQuery_of_parse_ok hparse, ← errorOf?_eq_some_iff, error?_compile, hvisits,
    List.findSome?_map, List.findSome?_eq_some_iff]
  simp only [Function.comp_apply, Visit.error?, errorOf?_eq_some_iff, errorOf?_eq_none_iff]

/-- Of one query the second comparison names no field, and the third has a value that is refused. Of
a condition that was put together by hand, the operation without a gate fails behind its left
operand, and its right operand is not visited. -/
theorem compile_fails_first_of_two_faults :
    let good : Comparison := ⟨"age", .greater, "18"⟩
    let unknown : Comparison := ⟨"size", .equal, "5"⟩
    let refused : Comparison := ⟨"Age", .less, "old"⟩
    let query := "age>18 AND (size=5 OR Age<old)"
    let t : Tree := .join (.comparison good) .and
      (.join (.comparison unknown) .or (.comparison refused))
    let u : Tree := .join (.ungated (.group (.comparison good)) (.comparison unknown)) .or
      (.openGate (.comparison refused) .and)
    ∃ r, ofFields [⟨"age", "int", none⟩] = .ok r ∧
      (parse query = .ok t ∧ r.compileQuery query = .error (.unknownField "size") ∧
        ∃ before leaf after, t.leaves = before ++ leaf :: after ∧
          r.compile (.comparison leaf) = .error (.unknownField "size") ∧
          ∀ other ∈ before, ∃ f, r.compile (.comparison other) = .ok f) ∧
      (r.compile u = .error (.malformed .missingGate) ∧
        ∃ before v after, u.visits = before ++ v :: after ∧
          v.error? r = some (.malformed .missingGate) ∧ ∀ w ∈ before, w.error? r = none) := by
  intro good unknown refused query t u
  have hparse : parse query = .ok t := by decide +kernel
  have hrun : (do
      let r ← ofFields [⟨"age", "int", none⟩]
      pure (r.compileQuery query, r.compile u)) =
      .ok (.error (.unknownField "size"), .error (.malformed .missingGate)) := by decide +kernel
  obtain ⟨r, hr, hrun⟩ := bind_eq_ok.mp hrun
  obtain ⟨hquery, hu⟩ := Prod.mk.inj (pure_eq_ok.mp hrun)
  obtain ⟨-, -, hleftmost⟩ := compile_fails_first r t
  obtain ⟨-, hfirst, -⟩ := compile_fails_first r u
  exact ⟨r, hr, ⟨hparse, hquery, (hleftmost query hparse _).mp hquery⟩, hu, (hfirst _).mp hu⟩

end Resolver

end FilterQuery
