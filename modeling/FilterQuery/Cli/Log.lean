import FilterQuery.Pattern.Read
import FilterQuery.Pattern.Search

/-!
# Logs

What a run tells about its work, and how much of it is shown. A `Filter` gives each part of the
program the level of detail that is shown of it. The part with the longest name that begins the
target of a record decides.
-/

namespace FilterQuery.Cli

/-- How detailed a record is, the least detailed first. -/
inductive Level where
  | error
  | warn
  | info
  | debug
  | trace
  deriving DecidableEq

namespace Level

/-- The place of a level in the order of detail. -/
def rank : Level → Nat
  | error => 1
  | warn => 2
  | info => 3
  | debug => 4
  | trace => 5

/-- The level as it is written, filled up to five letters. -/
def label : Level → String
  | error => "ERROR"
  | warn => "WARN "
  | info => "INFO "
  | debug => "DEBUG"
  | trace => "TRACE"

/-- The rank of a name in any case, where `off` shows nothing. -/
def rankOfName? (name : String) : Option Nat :=
  match String.ofList (name.toList.map Char.toLower) with
  | "off" => some 0
  | "error" => some 1
  | "warn" => some 2
  | "info" => some 3
  | "debug" => some 4
  | "trace" => some 5
  | _ => none

end Level

/-- A record of a log. -/
structure Record where
  level : Level
  /-- The part of the program that it comes from. -/
  target : String
  message : String
  deriving DecidableEq

/-! ### Filters -/

/-- The greatest rank that is shown of the targets that begin with a name, or of all. -/
structure Directive where
  target : Option String
  rank : Nat
  deriving DecidableEq

/-- What is shown of a log. -/
structure Filter where
  directives : List Directive
  /-- What shown messages have to match. -/
  pattern : Option Pattern

/-- A text without the white space around it. -/
def trimText (text : String) : String :=
  let chars := text.toList.dropWhile Unicode.isWhiteSpace
  String.ofList (chars.reverse.dropWhile Unicode.isWhiteSpace).reverse

/-- Reads one directive: a level, a target, or both. -/
def directive? (text : String) : Except String Directive :=
  let warning := fun part : String => "warning: invalid logging spec '" ++ part ++ "', ignoring it"
  match text.splitOn "=" with
  | [one] =>
    match Level.rankOfName? one with
    | some rank => .ok ⟨none, rank⟩
    | none => .ok ⟨some one, 5⟩
  | [target, level] =>
    if trimText level = "" then .ok ⟨some target, 5⟩
    else match Level.rankOfName? (trimText level) with
      | some rank => .ok ⟨some target, rank⟩
      | none => .error (warning (trimText level))
  | _ => .error (warning text)

/-- Adds a directive. One for the same target is replaced. -/
def putDirective (d : Directive) : List Directive → List Directive
  | [] => [d]
  | e :: rest => if e.target = d.target then d :: rest else e :: putDirective d rest

/-- Reads the directives of a specification, and warns of those that are none. -/
def readDirectives (text : String) : List Directive × List String :=
  ((text.splitOn ",").map trimText).foldl
    (fun (directives, warnings) part =>
      if part = "" then (directives, warnings)
      else match directive? part with
        | .ok d => (putDirective d directives, warnings)
        | .error w => (directives, warnings ++ [w]))
    ([], [])

/-- Reads a specification: directives between commas, and after a slash a pattern for messages.
Without directives errors are shown. -/
def Filter.ofText (text : String) : Filter × List String :=
  let build (directives : List Directive) (pattern : Option Pattern) : Filter :=
    ⟨if directives.isEmpty then [⟨none, 1⟩] else directives, pattern⟩
  match text.splitOn "/" with
  | [specification] =>
    let (directives, warnings) := readDirectives specification
    (build directives none, warnings)
  | [specification, pattern] =>
    let (directives, warnings) := readDirectives specification
    match Pattern.ofText? pattern with
    | some p => (build directives (some p), warnings)
    | none => (build directives none, warnings ++ ["warning: invalid regex filter"])
  | _ =>
    (build [] none,
      ["warning: invalid logging spec '" ++ text ++ "', ignoring it (too many '/'s)"])

/-- The length in bytes of the name that a directive is for. -/
def Directive.weight (d : Directive) : Nat :=
  (d.target.map String.utf8ByteSize).getD 0

/-- Whether a directive is about a target. -/
def Directive.covers (d : Directive) (target : String) : Bool :=
  match d.target with
  | none => true
  | some name => name.toList.isPrefixOf target.toList

/-- The heavier of two directives, and of equal ones the second. -/
def heavier (a : Option Directive) (b : Directive) : Option Directive :=
  match a with
  | some a => if b.weight ≥ a.weight then some b else some a
  | none => some b

/-- Whether a record is shown. -/
def Filter.shows (f : Filter) (r : Record) : Bool :=
  match (f.directives.filter (·.covers r.target)).foldl heavier none with
  | none => false
  | some d => r.level.rank ≤ d.rank && (f.pattern.map (·.occursIn r.message)).getD true

/-! ### Lines -/

/-- The lines of records, the targets filled up to the longest one so far. -/
def logLines : Nat → List Record → List String
  | _, [] => []
  | width, r :: rest =>
    let width := max width r.target.length
    (" " ++ r.level.label ++ " " ++ r.target.pushn ' ' (width - r.target.length) ++ " > "
      ++ r.message ++ "\n") :: logLines width rest

/-- The text of the records that a filter shows. -/
def Filter.render (f : Filter) (records : List Record) : String :=
  String.join (logLines 0 (records.filter f.shows))

end FilterQuery.Cli
