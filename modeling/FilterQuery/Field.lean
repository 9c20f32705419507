import FilterQuery.Number.Decimal
import FilterQuery.Unicode.Class
import FilterQuery.Unicode.Lowercase

/-!
# Fields

A field may be spelled in many ways: `canonicalName` drops case and separators, so that
`member_number`, `memberNumber` and `Member-Number` are one field. The declared type of a field
decides which values it takes. A `Validator` gives the reason to refuse a value.
-/

namespace FilterQuery

/-! ### Names -/

/-- The characters that separate the words of a field name. -/
def isSeparator (c : Char) : Bool :=
  c = '_' || c = '-' || c = '.' || c = ' '

/-- The name under which a field is found: lower case, without separators. -/
def canonicalName (name : String) : String :=
  String.ofList ((name.toList.filter (fun c => !isSeparator c)).flatMap Unicode.lowercase)

/-! ### Values -/

/-- Gives the reason to refuse a value, or nothing. -/
abbrev Validator := String → Option String

/-- Whether a text writes an integer of 128 bits with a sign. -/
def isInteger (value : String) : Bool :=
  match Integer.ofText? value.toList with
  | some n => -(powerOfTwo 127 : Int) ≤ n ∧ n < powerOfTwo 127
  | none => false

/-- Whether a text writes a decimal number that is finite in double precision. -/
def isNumeric (value : String) : Bool :=
  match Decimal.ofText? value.toList with
  | some d => d.isFinite
  | none => false

namespace Validator

/-- Takes every value. -/
def anything : Validator := fun _ => none

/-- Takes integers. -/
def integer : Validator := fun value =>
  if isInteger value then none else some ("value '" ++ value ++ "' is not an integer")

/-- Takes finite decimal numbers. -/
def numeric : Validator := fun value =>
  if isNumeric value then none else some ("value '" ++ value ++ "' is not numeric")

end Validator

/-! ### Declared types -/

/-- The values that a declared type stands for. -/
inductive FieldType where
  | numeric
  | integer
  /-- Values that are not looked into. -/
  | anything
  deriving DecidableEq

namespace FieldType

/-- The names of the floating point types. -/
def numericNames : List String :=
  ["f32", "f64", "float", "float32", "float64", "double", "double precision", "real"]

/-- The names of the integer types. -/
def integerNames : List String :=
  ["i8", "i16", "i32", "i64", "i128", "isize", "u8", "u16", "u32", "u64", "u128", "usize", "int",
    "int2", "int4", "int8", "int16", "int32", "int64", "uint", "uint8", "uint16", "uint32",
    "uint64", "integer", "tinyint", "smallint", "bigint", "serial", "bigserial"]

/-- The text without the white space around it, in ASCII lower case. -/
def normalize (declared : String) : String :=
  let trimmed := declared.toList.dropWhile Unicode.isWhiteSpace
  let trimmed := (trimmed.reverse.dropWhile Unicode.isWhiteSpace).reverse
  String.ofList (trimmed.map Char.toLower)

/-- The class of a declared type. Wrappers such as `Option<i32>` are not looked into. -/
def ofDeclared (declared : String) : FieldType :=
  let name := normalize declared
  if name ∈ numericNames then numeric
  else if name ∈ integerNames then integer
  else anything

/-- The name of the class. -/
def name : FieldType → String
  | numeric => "numeric"
  | integer => "integer"
  | anything => "opaque"

/-- The check that values of the class pass. -/
def validator : FieldType → Validator
  | numeric => .numeric
  | integer => .integer
  | anything => .anything

end FieldType

end FilterQuery
