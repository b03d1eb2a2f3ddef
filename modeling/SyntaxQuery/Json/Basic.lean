import SyntaxQuery.Decimal.Basic

/-!
Contract: JSON values with ordered objects.

Owns: the value type, the rule that a repeated key keeps its first place and its last value, and the
typed views of a value.
Does not own: JSON text.
-/

namespace SyntaxQuery

/-- A JSON number: an integer between `-2 ^ 63` and `2 ^ 64 - 1`, or a double. -/
inductive Json.Number where
  | integer (value : Int)
  | double (value : Float)

/-- A JSON value. The members of an object keep the order in which they were written. -/
inductive Json where
  | null
  | bool (value : Bool)
  | number (value : Json.Number)
  | string (value : String)
  | array (items : List Json)
  | object (members : List (String × Json))

namespace Json

instance : Inhabited Json := ⟨.null⟩

/-- The double that a number stands for. -/
def Number.toFloat : Number → Float
  | .integer value => floatOfInt value
  | .double value => value

/-- The number as a natural number, if it was written as one. -/
def Number.nat? : Number → Option Nat
  | .integer (.ofNat value) => some value
  | _ => none

/-- The value under a key; keys are distinct in every value that was read from text. -/
def lookup? (key : String) : List (String × Json) → Option Json
  | [] => none
  | (name, value) :: rest => if name = key then some value else lookup? key rest

/-- The members with `key` set to `value`: in its old place if the key is there, else at the end. -/
def put (key : String) (value : Json) : List (String × Json) → List (String × Json)
  | [] => [(key, value)]
  | (name, old) :: rest =>
      if name = key then (name, value) :: rest else (name, old) :: put key value rest

/-- The value under a key of an object; other values have no members. -/
def member? (key : String) : Json → Option Json
  | .object members => lookup? key members
  | _ => none

/-- The element at an index of an array; other values have no elements. -/
def element? (index : Nat) : Json → Option Json
  | .array items => items[index]?
  | _ => none

def string? : Json → Option String
  | .string value => some value
  | _ => none

def bool? : Json → Option Bool
  | .bool value => some value
  | _ => none

/-- A number written as a natural number. -/
def nat? : Json → Option Nat
  | .number value => value.nat?
  | _ => none

def array? : Json → Option (List Json)
  | .array items => some items
  | _ => none

def object? : Json → Option (List (String × Json))
  | .object members => some members
  | _ => none

def ofNat (value : Nat) : Json :=
  .number (.integer (Int.ofNat value))

/-- A double as JSON; what is not finite becomes null. -/
def ofFloat (value : Float) : Json :=
  if value.isFinite then .number (.double value) else .null

/-- Setting a key changes the value under that key and no other. -/
theorem lookup?_put (key name : String) (value : Json) (members : List (String × Json)) :
    lookup? name (put key value members) =
      if name = key then some value else lookup? name members := by
  induction members with
  | nil => by_cases same : key = name <;> simp [put, lookup?, same, eq_comm]
  | cons first rest inductionHypothesis =>
      obtain ⟨firstName, firstValue⟩ := first
      by_cases replaced : firstName = key
      · by_cases same : name = key
        · subst same; simp [put, lookup?, replaced]
        · have other : ¬ key = name := fun equal => same equal.symm
          subst replaced; simp [put, lookup?, same, other]
      · by_cases found : firstName = name
        · subst found; simp [put, lookup?, replaced]
        · simp [put, lookup?, replaced, found, inductionHypothesis]

end Json

end SyntaxQuery
