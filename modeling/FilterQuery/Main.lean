import FilterQuery.Cli.Run

/-!
# The program

Reads what a run depends on, lets `Cli.run` decide, and writes what it says.
-/

namespace FilterQuery.Main

/-- Reads a file. -/
def readFile (path : String) : IO (Except ReadError String) := do
  try
    return .ok (← IO.FS.readFile path)
  catch e =>
    match e with
    | .noFileOrDirectory .. => return .error .notFound
    | .inappropriateType _ code _ =>
      return .error (if code = 21 then .isDirectory else .notDirectory)
    | e => return .error (.other (toString e))

/-- The words of a text, any of which may be the name of a variable. -/
def words (text : String) : List String :=
  let step := fun (found, word) (c : Char) =>
    if Cli.isReferenceChar c || c = '_' || c = '.' then (found, word.push c)
    else (word :: found, "")
  let (found, word) := text.toList.foldl step (([] : List String), "")
  word :: found

/-- The variables that are set, out of some names. -/
def environment (names : List String) : IO Cli.Environment := do
  let mut found := []
  for name in names.filter (· ≠ "") do
    if let some value ← IO.getEnv name then found := (name, value) :: found
  return found

/-- The reader of files that have been read. -/
def readerOf (files : List (String × Except ReadError String)) : FileReader := fun path =>
  (files.lookup path).getD (.error .notFound)

end FilterQuery.Main

open FilterQuery in
/-- Runs the program with the arguments of the process. -/
def main (arguments : List String) : IO UInt32 := do
  let assignments ← Main.readFile Cli.environmentFile
  let text := assignments.toOption.getD ""
  let env ← Main.environment (configVariable :: Cli.logVariable :: Main.words text)
  let files := [(Cli.environmentFile, assignments)]
  let files ← match Cli.configFile? (Main.readerOf files) env arguments with
    | some path => do pure (files ++ [(path, ← Main.readFile path)])
    | none => pure files
  let result := Cli.run (Main.readerOf files) env arguments
  IO.print result.output
  IO.eprint result.diagnostics
  return result.exitCode.toUInt32
