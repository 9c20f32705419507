import FilterQuery.Json.Write
import FilterQuery.Report.Table
import FilterQuery.Sql.Fragment
import FilterQuery.Text.Quoted
import FilterQuery.Token
import FilterQuery.Tree.Display
import FilterQuery.Tree.Json

/-!
# Reports

How tokens, trees and fragments are shown to a user, as tables, as queries or as JSON.
-/

namespace FilterQuery.Report

/-- The form in which a fragment is shown. -/
inductive Format where
  | table
  | json
  deriving DecidableEq

/-- The format of a name. -/
def Format.ofName? : String → Option Format
  | "table" => some table
  | "json" => some json
  | _ => none

/-- The literal of a token. A literal that was written between quotes is shown as it was written. -/
def literalCell (t : Token) : String :=
  if t.quoted then "\"" ++ t.literal ++ "\" (quoted)" else Text.quoted t.literal

/-- The rows of the tokens from an index on. -/
def tokenRows : Nat → List Token → List (List String)
  | _, [] => []
  | index, t :: ts => [toString index, t.kind.label, literalCell t] :: tokenRows (index + 1) ts

/-- A table of tokens. -/
def tokens (ts : List Token) : String :=
  table (["#", "Kind", "Literal"] :: tokenRows 0 ts)

/-- A tree, as a query or as JSON. -/
def tree (t : Tree) (json : Bool) : String :=
  if json then t.toJson.pretty else t.display

/-- The rows of values whose placeholders are counted from the one after `last`. -/
def valueRows (label : Nat → String) : Nat → List String → List (List String)
  | _, [] => []
  | last, value :: values =>
    [label (last + 1), Text.quoted value] :: valueRows label (last + 1) values

/-- A fragment. With an offset its placeholders are numbered from there. -/
def fragment (f : Sql.Fragment) (format : Format) (offset : Option Nat) : String :=
  let raw := match offset with
    | some offset => f.numbered offset
    | none => f.raw
  match format with
  | .json => (Json.object [("raw", .string raw), ("values", .array (f.values.map .string))]).pretty
  | .table =>
    let rows := match offset with
      | some offset => valueRows (fun n => "$" ++ toString n) offset f.values
      | none => valueRows toString 0 f.values
    raw ++ "\n\n" ++ table (["Param", "Value"] :: rows)

end FilterQuery.Report
