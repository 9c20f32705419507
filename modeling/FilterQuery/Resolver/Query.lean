import FilterQuery.Parse
import FilterQuery.Resolver

/-!
# Compiling queries to SQL
-/

namespace FilterQuery

/-- Parses a query and compiles its condition. -/
def Resolver.compileQuery (r : Resolver) (query : String) : Except ResolveError Sql.Fragment :=
  match parse query with
  | .error e => .error (.malformed e)
  | .ok tree => r.compile tree

end FilterQuery
