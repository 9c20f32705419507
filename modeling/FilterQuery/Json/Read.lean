import FilterQuery.Json.Token

/-!
# Reading JSON

The second half of reading JSON: a list of tokens becomes a value. `Reading` holds the arrays and
objects that are open, the innermost first, and `Reading.step` takes one token.
-/

namespace FilterQuery.Json

/-- An array or object that is open. The items are kept last first. -/
inductive Frame where
  | array (items : List Json)
  | object (members : List (String × Json)) (key : String)

/-- What may come next. -/
inductive Expect where
  | value
  /-- The first item of an array, or its end. -/
  | firstItem
  /-- The first key of an object, or its end. -/
  | firstKey
  | key
  | colon
  /-- A comma or the end of what is open. With nothing open, the end of the text. -/
  | separator

/-- A reader in the middle of a text. -/
structure Reading where
  frames : List Frame
  expect : Expect
  /-- The value that was read, once nothing is open. -/
  result : Option Json

namespace Reading

/-- A reader at the start of a text. -/
def start : Reading := ⟨[], .value, none⟩

/-- Puts a complete value where it belongs. -/
def put (frames : List Frame) (value : Json) : Reading :=
  match frames with
  | [] => ⟨[], .separator, some value⟩
  | .array items :: outer => ⟨.array (value :: items) :: outer, .separator, none⟩
  | .object members key :: outer =>
    ⟨.object (insertMember key value members) key :: outer, .separator, none⟩

/-- Reads the first token of a value. -/
def beginValue (frames : List Frame) : Token → Option Reading
  | .openArray => some ⟨.array [] :: frames, .firstItem, none⟩
  | .openObject => some ⟨.object [] "" :: frames, .firstKey, none⟩
  | .scalar value => some (put frames value)
  | .string value => some (put frames (.string value))
  | _ => none

/-- Reads one token. -/
def step (r : Reading) (token : Token) : Option Reading :=
  match r.expect, token, r.frames with
  | .value, token, frames => beginValue frames token
  | .firstItem, .closeArray, .array _ :: outer => some (put outer (.array []))
  | .firstItem, token, frames => beginValue frames token
  | .firstKey, .closeObject, .object _ _ :: outer => some (put outer (.object []))
  | .firstKey, .string key, .object members _ :: outer =>
    some ⟨.object members key :: outer, .colon, none⟩
  | .key, .string key, .object members _ :: outer =>
    some ⟨.object members key :: outer, .colon, none⟩
  | .colon, .colon, frames => some ⟨frames, .value, none⟩
  | .separator, .comma, .array items :: outer => some ⟨.array items :: outer, .value, none⟩
  | .separator, .comma, .object members key :: outer =>
    some ⟨.object members key :: outer, .key, none⟩
  | .separator, .closeArray, .array items :: outer => some (put outer (.array items.reverse))
  | .separator, .closeObject, .object members _ :: outer => some (put outer (.object members))
  | _, _, _ => none

/-- Reads all tokens. -/
def run (r : Reading) : List Token → Option Reading
  | [] => some r
  | token :: tokens => do (← r.step token).run tokens

end Reading

/-- The value that a JSON text writes. -/
def read? (text : String) : Option Json := do
  (← Reading.start.run (← tokens? text.toList)).result

end FilterQuery.Json
