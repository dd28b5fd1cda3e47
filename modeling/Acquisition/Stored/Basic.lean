import Acquisition.Json.Basic
import Acquisition.Language
import Acquisition.Path
import Acquisition.Text.Uuid
import Acquisition.Time.Calendar

/-!
# Stored form

Values are stored as JSON.  A record is an object of its fields, in which a missing field that
may be empty is empty and an unknown field is passed over; it may also be an array of its fields
in order, from which only fields with a value of their own can be missing.  A word out of a fixed
list is a string, or an object with the word as its only key and nothing as its value.

## Main definitions

* `Stored`: types with a stored form.
* `Record.fields?`, `Record.required`, `Record.optional`: reading records.
* `readWord?`: reading words.
-/

namespace Acquisition

/-- A type whose values have a stored form. -/
class Stored (α : Type) where
  /-- The stored form of a value. -/
  encode : α → Json
  /-- The value of a stored form. -/
  decode? : Json → Option α

namespace Stored

/-! ### Words and records -/

/-- The word that a value holds. -/
def readWord? : Json → Option String
  | .str word => some word
  | .obj [(word, .null)] => some word
  | _ => none

/-- The fields of a record, as far as they are there. -/
inductive Record
  /-- Fields by name. -/
  | named (fields : List (String × Json))
  /-- Fields by position. -/
  | listed (items : List Json)

namespace Record

/-- A value as a record with at most the number of fields. -/
def ofJson? (size : Nat) : Json → Option Record
  | .obj fields => some (.named fields)
  | .arr items => if items.length ≤ size then some (.listed items) else none
  | _ => none

/-- A value in the body of a response as a record of the fields: none of them may stand there twice,
where one that stands twice in a value that was read before has its last value. -/
def ofBody? (names : List String) : Json → Option Record
  | .obj fields =>
    if names.all fun name => fields.countP (·.1 == name) ≤ 1 then some (.named fields) else none
  | j => ofJson? names.length j

/-- A value as a record whose fields may have more values behind them, which do not count. -/
def ofOpenJson? : Json → Option Record
  | .obj fields => some (.named fields)
  | .arr items => some (.listed items)
  | _ => none

/-- The value of a field; of several with one name the last counts. -/
def field? (record : Record) (index : Nat) (name : String) : Option Json :=
  match record with
  | named fields => (fields.reverse.find? (·.1 == name)).map (·.2)
  | listed items => items[index]?

/-- A field that has to be there. -/
def required {α : Type} [Stored α] (record : Record) (index : Nat) (name : String) : Option α :=
  (record.field? index name).bind decode?

/-- A field that may be empty, and that may be missing where fields have names. -/
def optional {α : Type} [Stored α] (record : Record) (index : Nat) (name : String) :
    Option (Option α) :=
  match record.field? index name, record with
  | none, listed _ => none
  | none, named _ | some .null, _ => some none
  | some value, _ => (decode? value).map some

/-- A field that has a value of its own when it is missing. -/
def defaulted {α : Type} [Stored α] (record : Record) (index : Nat) (name : String)
    (fallback : α) : Option α :=
  match record.field? index name with
  | none => some fallback
  | some value => decode? value

end Record

end Stored

/-! ### Simple values -/

/-- A number of 16 bits. -/
def Json.nat16? : Json → Option Nat := Json.natBelow? UInt16.size

instance : Stored Bool := ⟨.bool, Json.bool?⟩

instance : Stored String := ⟨.str, Json.text?⟩

/-- Numbers are stored if they fit into 32 bits. -/
instance : Stored Nat := ⟨.nat, Json.nat32?⟩

/-- Sizes and intervals are stored if they fit into 64 bits. -/
instance : Stored UInt64 := ⟨fun n => .nat n.toNat, fun j => j.nat64?.map (·.toUInt64)⟩

instance : Stored Path := ⟨fun path => .str path.text, fun j => j.text?.map Path.mk⟩

instance {α : Type} [Stored α] : Stored (Option α) :=
  ⟨.optional Stored.encode, Json.nullable? Stored.decode?⟩

instance {α : Type} [Stored α] : Stored (List α) :=
  ⟨.list Stored.encode, Json.listOf? Stored.decode?⟩

/-- A number as a written identifier. -/
def encodeId (id : Nat) : Json := .str (Text.Uuid.write id)

/-- The number that a written identifier stands for. -/
def decodeId? (j : Json) : Option Nat := j.text?.bind Text.Uuid.read?

/-- A written instant. -/
def encodeInstant (instant : Instant) : Json := .str instant.write

/-- The instant that is written. -/
def decodeInstant? (j : Json) : Option Instant := j.text?.bind Instant.read?

instance : Stored Language :=
  ⟨fun language => .str language.key, fun j => (Stored.readWord? j).bind Language.ofKey?⟩

end Acquisition
