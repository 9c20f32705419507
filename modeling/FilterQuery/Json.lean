import FilterQuery.Number.Decimal

/-!
# JSON values

A `Json` keeps the members of an object in the order in which they were written, and tells whole
numbers from others, since messages about misplaced values name both.
-/

namespace FilterQuery

/-- A JSON value. -/
inductive Json where
  | null
  | bool (value : Bool)
  /-- A whole number of at most 64 bits. -/
  | integer (value : Int)
  /-- Any other number, as it is written. -/
  | float (value : Decimal)
  | string (value : String)
  | array (items : List Json)
  | object (members : List (String × Json))

namespace Json

/-- Adds a member. A key that is there already keeps its place and gets the new value. -/
def insertMember (key : String) (value : Json) : List (String × Json) → List (String × Json)
  | [] => [(key, value)]
  | (k, v) :: rest =>
    if k = key then (k, value) :: rest else (k, v) :: insertMember key value rest

/-- The value of a member. -/
def member? (key : String) : Json → Option Json
  | object members => members.lookup key
  | _ => none

/-- A member is smaller than its object. -/
theorem sizeOf_member?_lt {key : String} {value found : Json} (h : value.member? key = some found) :
    sizeOf found < sizeOf value := by
  cases value with
  | object members =>
    simp only [member?] at h
    have hlt : sizeOf found < sizeOf members := by
      induction members with
      | nil => simp at h
      | cons entry rest ih =>
        obtain ⟨k, v⟩ := entry
        rw [List.lookup_cons] at h
        split at h
        · obtain rfl := Option.some.inj h
          simp only [List.cons.sizeOf_spec, Prod.mk.sizeOf_spec]
          omega
        · have := ih h
          simp only [List.cons.sizeOf_spec]
          omega
    simp only [object.sizeOf_spec]
    omega
  | _ => simp [member?] at h

/-- The items of an array. -/
def items? : Json → Option (List Json)
  | array items => some items
  | _ => none

/-- The text of a string. -/
def text? : Json → Option String
  | string value => some value
  | _ => none

/-- The value of a whole number that is not negative. -/
def nat? : Json → Option Nat
  | integer value => if value < 0 then none else some value.toNat
  | _ => none

end Json

end FilterQuery
