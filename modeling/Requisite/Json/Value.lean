/-!
# JSON values

The values of the data that a course service sends. A field that may be left out counts as empty
when it is missing, and so does every empty value in its place.
-/

namespace Requisite

/-- A number of a JSON text. -/
inductive JsonNumber where
  /-- The number `coefficient * 10 ^ exponent`. -/
  | decimal (coefficient : Int) (exponent : Int)
  /-- Not a number, or beyond all numbers. -/
  | unbounded
  deriving DecidableEq, Repr

/-- A JSON value. An object may hold a name more than once; the last one counts. -/
inductive JsonValue where
  | null
  | bool (b : Bool)
  | number (n : JsonNumber)
  | string (s : String)
  | array (items : List JsonValue)
  | object (fields : List (String × JsonValue))
  deriving Repr, Inhabited

/-- Whether the number is held as zero: the nearest number of double precision is zero when the
distance from it is at most half of the least positive one, which is `2 ^ -1074`. -/
def JsonNumber.isZero : JsonNumber → Bool
  | .unbounded => false
  | .decimal coefficient exponent =>
    let places := (-exponent).toNat
    let digits := (Nat.toDigits 10 coefficient.natAbs).length
    if coefficient = 0 then true
    else if places < digits + 300 then false
    else if digits + 400 < places then true
    else coefficient.natAbs * Nat.pow 2 1075 ≤ Nat.pow 10 places

namespace JsonValue

/-- Whether the value is empty: null, false, zero, or without content. -/
def isEmpty : JsonValue → Bool
  | .null => true
  | .bool b => !b
  | .number n => n.isZero
  | .string s => s.isEmpty
  | .array items => items.isEmpty
  | .object fields => fields.isEmpty

/-- The value of a field, or null where the object has none of the name. -/
def fieldOrNull (fields : List (String × JsonValue)) (name : String) : JsonValue :=
  (fields.reverse.lookup name).getD .null

end JsonValue

end Requisite
