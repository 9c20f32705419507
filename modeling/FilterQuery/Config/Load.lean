import FilterQuery.Config.Yaml
import FilterQuery.Resolver

/-!
# Loading configurations

Where a configuration comes from: the file that is named on the command line, or else by the
environment. Files are read by a function that is given, so that nothing here touches the disk.
-/

namespace FilterQuery

/-- Why a file cannot be read. -/
inductive ReadError where
  | notFound
  | notDirectory
  | isDirectory
  | other (message : String)
  deriving DecidableEq

/-- The message shown to users. -/
def ReadError.message : ReadError → String
  | notFound => "No such file or directory (os error 2)"
  | notDirectory => "Not a directory (os error 20)"
  | isDirectory => "Is a directory (os error 21)"
  | other message => message

/-- Reads the text of a file. -/
abbrev FileReader := String → Except ReadError String

/-- Why a file gives no configuration. -/
inductive LoadError where
  | unreadable (path : String) (e : ReadError)
  | malformed (path : String) (fault : Config.YamlFault)

/-- The message shown to users. -/
def LoadError.message : LoadError → String
  | unreadable path e => "Failed to read " ++ path ++ ": " ++ e.message
  | malformed path fault => "Failed to parse " ++ path ++ ": " ++ fault.message

/-- Why there is no resolver. -/
inductive SetupError where
  | notSpecified
  | load (e : LoadError)
  | invalid (e : ResolveError)

/-- The variable of the environment that names the configuration. -/
def configVariable : String := "SIEVE_CONFIG"

/-- The message shown to users. -/
def SetupError.message : SetupError → String
  | notSpecified =>
    "No field configuration given. Use --config <FILE> or set the " ++ configVariable
      ++ " environment variable (a .env file works too)."
  | load e =>
    "Failed to load field configuration: " ++ e.message
      ++ "\n\nPossible fixes:\n  - Check that the file exists and is readable"
      ++ "\n  - Check that it is valid YAML or JSON"
      ++ "\n  - Every entry under 'fields' needs a 'name' and a 'type'"
  | invalid e =>
    "Field configuration is invalid: " ++ e.message
      ++ "\n\nField names must be unique ignoring case and separators, "
      ++ "and columns must be plain SQL identifiers."

namespace Config

/-- The path of the configuration. The argument wins over the setting of the environment, even when
it is empty, and an empty path is none. -/
def path (argument setting : Option String) : Except SetupError String :=
  match argument.or setting with
  | some path => if path = "" then .error .notSpecified else .ok path
  | none => .error .notSpecified

/-- Loads a configuration from a file. -/
def load (read : FileReader) (path : String) : Except LoadError Config :=
  match read path with
  | .error e => .error (.unreadable path e)
  | .ok text => (ofYaml text).mapError (.malformed path)

end Config

/-- The resolver of the configuration in a file. -/
def Resolver.load (read : FileReader) (path : String) : Except SetupError Resolver := do
  let config ← (Config.load read path).mapError .load
  (Resolver.ofConfig config).mapError .invalid

end FilterQuery
