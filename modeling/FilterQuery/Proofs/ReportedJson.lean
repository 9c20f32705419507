import FilterQuery.Proofs.JsonText
import FilterQuery.Report

/-!
# Reports in JSON

Trees and fragments are shown as JSON texts. In their values there are no numbers, and no object has
a key twice, so that a text is read as its value. The reader of trees and the one of fragments
(`Sql.Fragment.ofJson?`) then find what was shown: `Report.json_reads_back`. The shapes that only an
application can put together are no exception, since what a shape lacks is written as `null`. Nor
does it matter how deep a tree is, as values are read from any depth.
-/

namespace FilterQuery

/-! ### Trees -/

theorem Comparison.ofJson?_toJson (c : Comparison) : ofJson? c.toJson = some c := by
  simp [ofJson?, toJson, Json.member?, List.lookup_cons, Json.text?, Comparator.ofName?_name]

namespace Tree

section Operations

variable {left gate right : Json} {l r : Tree} {g : Option Gate}

theorem gateOfJson?_name (gate : Gate) :
    gateOfJson? (.string gate.name) = some (some gate) := by
  rw [gateOfJson?, Gate.ofName?_name]
  rfl

theorem gateOfJson?_null : gateOfJson? .null = some none := rfl

theorem ofJson?_expression (c : Comparison) :
    ofJson? (.object [("expression", c.toJson)]) = some (comparison c) := by
  rw [ofJson?]
  simp [Json.member?, Comparison.ofJson?_toJson]

/-- An operation without a right operand is read. -/
theorem ofJson?_operation_null (hl : ofJson? left = some l) (hg : gateOfJson? gate = some g) :
    ofJson? (operationJson left gate .null) = some (ofParts l g none) := by
  rw [ofJson?]
  simp [operationJson, Json.member?, List.lookup_cons, hl, hg]

/-- An operation of two operands is read. -/
theorem ofJson?_operation (hl : ofJson? left = some l) (hg : gateOfJson? gate = some g)
    (hr : ofJson? right = some r) :
    ofJson? (operationJson left gate right) = some (ofParts l g (some r)) := by
  have hright : right ≠ .null := by
    rintro rfl
    simp [ofJson?, Json.member?] at hr
  rw [ofJson?]
  simp [operationJson, Json.member?, List.lookup_cons, hl, hg, hr]

end Operations

/-- **A tree is found again in its JSON value.** -/
theorem ofJson?_toJson (t : Tree) : ofJson? t.toJson = some t := by
  induction t with
  | comparison c => exact ofJson?_expression c
  | join left gate right ihl ihr => exact ofJson?_operation ihl (gateOfJson?_name gate) ihr
  | group inner ih => exact ofJson?_operation_null ih gateOfJson?_null
  | openGate left gate ih => exact ofJson?_operation_null ih (gateOfJson?_name gate)
  | ungated left right ihl ihr => exact ofJson?_operation ihl gateOfJson?_null ihr

theorem numberFree_toJson (t : Tree) : t.toJson.NumberFree := by
  induction t <;> simp_all [toJson, operationJson, Comparison.toJson]

theorem distinctKeys_toJson (t : Tree) : t.toJson.DistinctKeys := by
  induction t <;> simp_all [toJson, operationJson, Comparison.toJson]

end Tree

/-! ### Fragments -/

/-- The texts of strings are the strings. -/
theorem Json.mapM_text?_comp_string (values : List String) :
    values.mapM (Json.text? ∘ Json.string) = some values := by
  have hsome : Json.text? ∘ Json.string = fun value => pure value := rfl
  rw [hsome, List.mapM_pure, List.map_id']
  rfl

/-- Reads a fragment. -/
def Sql.Fragment.ofJson? (value : Json) : Option Fragment := do
  let raw ← (← value.member? "raw").text?
  let values ← (← (← value.member? "values").items?).mapM Json.text?
  return ⟨raw, values⟩

namespace Report

/-- The text of a tree is read as the value of the tree. -/
theorem read?_tree (t : Tree) : Json.read? (tree t true) = some t.toJson :=
  Json.read?_pretty t.distinctKeys_toJson t.numberFree_toJson

/-- The text of a fragment is read as its template, in the form in which it is shown, and its
values. -/
theorem read?_fragment (f : Sql.Fragment) (offset : Option Nat) :
    (Json.read? (fragment f .json offset)).bind Sql.Fragment.ofJson? =
      some ⟨offset.elim f.raw f.numbered, f.values⟩ := by
  have hread : ∀ raw : String, (Json.read? (Json.pretty (.object
      [("raw", .string raw), ("values", .array (f.values.map .string))]))).bind
        Sql.Fragment.ofJson? = some ⟨raw, f.values⟩ := by
    intro raw
    rw [Json.read?_pretty (by simp) (by simp), Option.bind_some]
    simp [Sql.Fragment.ofJson?, Json.member?, Json.text?, Json.items?, List.lookup_cons,
      Json.mapM_text?_comp_string]
  cases offset with
  | none => exact hread f.raw
  | some offset => exact hread (f.numbered offset)

/-- **What is shown as JSON is read back.** Every tree is found again in its text, so different
trees are never shown alike, and so is every fragment, whatever its template and its values are. -/
theorem json_reads_back :
    (∀ t : Tree, (Json.read? (tree t true)).bind Tree.ofJson? = some t) ∧
    (∀ t u : Tree, tree t true = tree u true → t = u) ∧
    ∀ f : Sql.Fragment,
      (Json.read? (fragment f .json none)).bind Sql.Fragment.ofJson? = some f := by
  have htree : ∀ t : Tree, (Json.read? (tree t true)).bind Tree.ofJson? = some t := by
    intro t
    rw [read?_tree, Option.bind_some, Tree.ofJson?_toJson]
  refine ⟨htree, fun t u h => ?_, fun f => read?_fragment f none⟩
  have hsome := htree u
  rw [← h, htree t] at hsome
  exact Option.some.inj hsome

end Report

end FilterQuery
