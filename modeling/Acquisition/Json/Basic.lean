/-!
# JSON values

The values that download clients answer with and that events carry.  Objects keep their fields
in the order in which they stand; a number with a fraction or an exponent keeps its text, since
no field of any message holds one.

## Main definitions

* `Json`: the values.
* `Json.field?`: the value of a field.
* `Json.nat?`, `Json.text?`, …: the readings of a value, with their ranges.
-/

namespace Acquisition

/-- A JSON value. -/
inductive Json
  | null
  | bool (value : Bool)
  /-- A number written without fraction and exponent. -/
  | int (value : Int)
  /-- A number written with a fraction or an exponent, or a negative zero. -/
  | decimal (text : String)
  | str (text : String)
  | arr (items : List Json)
  | obj (fields : List (String × Json))
  /-- A string that is no text, or an object that has one among its names.  It can be passed over,
  but not read. -/
  | garbled
  deriving Inhabited

namespace Json

/-- The natural number as a value. -/
def nat (n : Nat) : Json := .int n

/-- The text or nothing as a value. -/
def optional {α : Type} (encode : α → Json) : Option α → Json
  | some a => encode a
  | none => .null

/-- The list as a value. -/
def list {α : Type} (encode : α → Json) (items : List α) : Json :=
  .arr (items.map encode)

/-- The value of the first field with the name. -/
def field? (name : String) : Json → Option Json
  | .obj fields => (fields.find? (·.1 == name)).map (·.2)
  | _ => none

/-- A natural number below `bound`. -/
def natBelow? (bound : Nat) : Json → Option Nat
  | .int n => if 0 ≤ n && n < bound then some n.toNat else none
  | _ => none

/-- A natural number of 32 bits. -/
def nat32? : Json → Option Nat := natBelow? UInt32.size

/-- A natural number of 64 bits. -/
def nat64? : Json → Option Nat := natBelow? UInt64.size

/-- An integer of 64 bits. -/
def int64? : Json → Option Int
  | .int n => if Int64.minValue.toInt ≤ n && n ≤ Int64.maxValue.toInt then some n else none
  | _ => none

def bool? : Json → Option Bool
  | .bool b => some b
  | _ => none

def text? : Json → Option String
  | .str s => some s
  | _ => none

/-- The items of an array. -/
def items? : Json → Option (List Json)
  | .arr items => some items
  | _ => none

/-- `null` as nothing, anything else as `read` takes it. -/
def nullable? {α : Type} (read : Json → Option α) : Json → Option (Option α)
  | .null => some none
  | value => (read value).map some

/-- The items of an array, each as `read` takes it. -/
def listOf? {α : Type} (read : Json → Option α) (value : Json) : Option (List α) :=
  value.items?.bind (·.mapM read)

end Json

end Acquisition
