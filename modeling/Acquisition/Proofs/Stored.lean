import Acquisition.Proofs.Text.Uuid
import Acquisition.Stored.Quality
import Mathlib.Data.List.Basic

/-!
# What is stored is read back

The simple values, the written identifiers and the qualities that records are made of.  They are
read back as they were stored, as far as they have the sizes of the program.  Only of a quality
nothing but the number is stored, so that the tier of the catalogue with that number is read back.

## Main definitions

* `Identifier`: a number of 128 bits.
* `Quality.InCatalogue`: the catalogue has a tier with the number of the quality.
* `QualityModel.Storable`: a quality of the catalogue in a revision of numbers of 32 bits.

## Main results

* `decodeId?_encodeId`: an identifier is read back.
* `QualityModel.decode?_encode`: the tier of the catalogue in the same revision is read back.
-/

namespace Acquisition

/-! ### Simple values -/

theorem Json.nat32?_nat {n : Nat} (fits : n < UInt32.size) : (Json.nat n).nat32? = some n := by
  simp [Json.nat32?, Json.natBelow?, Json.nat, fits]

/-- The number is one of 128 bits, as written identifiers stand for. -/
def Identifier (id : Nat) : Prop := id < UInt64.size * UInt64.size

theorem decodeId?_encodeId {id : Nat} (h : Identifier id) : decodeId? (encodeId id) = some id := by
  simp only [decodeId?, encodeId, Json.text?, Option.bind_some]
  exact Text.Uuid.read?_write h

namespace Stored

theorem decode?_bool (b : Bool) : decode? (encode b) = some b := rfl

theorem decode?_text (text : String) : decode? (encode text) = some text := rfl

theorem decode?_nat {n : Nat} (fits : n < UInt32.size) : decode? (encode n) = some n := by
  simp only [decode?, encode]
  exact Json.nat32?_nat fits

namespace Record

variable {record : Record} {index : Nat} {name : String}

/-- A field is read back if its value is. -/
theorem required_eq {α : Type} [Stored α] {a b : α} (h : record.field? index name = some (encode a))
    (hread : decode? (encode a) = some b) : record.required index name = some b := by
  rw [required, h]
  exact hread

/-- A text that may be missing is read back, also when it is missing. -/
theorem optional_text (text : Option String)
    (h : record.field? index name = some (encode text)) :
    record.optional index name = some text := by
  simp only [optional, h]
  cases text <;> rfl

/-- A written identifier is read back. -/
theorem field?_bind_decodeId? {id : Nat} (h : record.field? index name = some (encodeId id))
    (hid : Identifier id) : (record.field? index name).bind decodeId? = some id := by
  rw [h, Option.bind_some, decodeId?_encodeId hid]

end Record

end Stored

/-! ### Qualities -/

namespace Quality

/-- The catalogue has a tier with the number of the quality. -/
def InCatalogue (quality : Quality) : Prop := ∃ tier ∈ catalogue, tier.id = quality.id

/-- No two tiers of the catalogue have the same number. -/
theorem ofId?_of_mem {tier : Quality} (h : tier ∈ catalogue) : ofId? tier.id = some tier := by
  revert tier
  decide

theorem id_lt_of_mem {tier : Quality} (h : tier ∈ catalogue) : tier.id < UInt32.size := by
  revert tier
  decide

/-- The number of a quality is read back as the tier of the catalogue that has it. -/
theorem decode?_encode {quality tier : Quality} (h : tier ∈ catalogue)
    (hid : tier.id = quality.id) :
    Stored.decode? (Stored.encode quality) = some tier := by
  simp only [Stored.decode?, Stored.encode]
  rw [← hid, Json.nat32?_nat (id_lt_of_mem h), Option.bind_some, ofId?_of_mem h]

end Quality

/-- The numbers of the revision have 32 bits. -/
structure Revision.Storable (revision : Revision) : Prop where
  version : revision.version < UInt32.size
  real : revision.real < UInt32.size

theorem Revision.decode?_encode {revision : Revision} (h : revision.Storable) :
    Stored.decode? (Stored.encode revision) = some revision := by
  simp only [Stored.encode, Stored.decode?, Stored.Record.ofJson?]
  rw [Option.bind_eq_bind, Option.bind_some,
    Stored.Record.required_eq (by simp [Stored.Record.field?, Stored.encode])
      (Stored.decode?_nat h.version),
    Stored.Record.required_eq (by simp [Stored.Record.field?, Stored.encode])
      (Stored.decode?_nat h.real)]
  rfl

namespace QualityModel

/-- The quality is one of the catalogue and the numbers of the revision have 32 bits. -/
structure Storable (model : QualityModel) : Prop where
  quality : model.quality.InCatalogue
  revision : model.revision.Storable

/-- The tier of the catalogue with the number of the quality is read back, in the same revision. -/
theorem decode?_encode {model : QualityModel} {tier : Quality} (h : model.Storable)
    (htier : tier ∈ Quality.catalogue) (hid : tier.id = model.quality.id) :
    Stored.decode? (Stored.encode model) = some (⟨tier, model.revision⟩ : QualityModel) := by
  simp only [Stored.encode, Stored.decode?, Stored.Record.ofJson?]
  rw [Option.bind_eq_bind, Option.bind_some,
    Stored.Record.required_eq (by simp [Stored.Record.field?, Stored.encode])
      (Quality.decode?_encode htier hid),
    Stored.Record.required_eq (by simp [Stored.Record.field?, Stored.encode])
      (Revision.decode?_encode h.revision)]
  rfl

end QualityModel

end Acquisition
