import EthClient.Decode

/-! # Transaction types and access lists

The three envelopes that a transaction can travel in, and the list of the storage that a transaction
announces to touch. -/

namespace EthClient

/-! ## Types -/

/-- The envelope of a transaction. -/
inductive TxType where
  /-- No envelope; one gas price. -/
  | legacy
  /-- An access list; one gas price. -/
  | accessList
  /-- An access list; a cap on the whole fee and one on the tip. -/
  | dynamicFee
  deriving DecidableEq

namespace TxType

/-- The number that marks the envelope. -/
def tag : TxType → Nat
  | .legacy => 0
  | .accessList => 1
  | .dynamicFee => 2

/-- The type that a number marks. -/
def ofTag? : Nat → Option TxType
  | 0 => some .legacy
  | 1 => some .accessList
  | 2 => some .dynamicFee
  | _ => none

/-- The name of the type. -/
def name : TxType → String
  | .legacy => "Legacy"
  | .accessList => "AccessList"
  | .dynamicFee => "DynamicFee"

/-- The written form: the tag as a quantity. -/
def toText (t : TxType) : String := (Quantity.ofNat t.tag : Number64).toText

/-- Reads a 64-bit quantity that is a known tag. -/
def decoder : Decoder TxType := fun d => do
  let q : Number64 ← Decoder.quantity d
  match ofTag? q.toNat with
  | some t => .ok t
  | none => .error (.unknownTransactionType q.toNat)

end TxType

/-! ## Access lists -/

/-- A contract and the keys of its storage that a transaction announces. -/
structure AccessEntry where
  address : Address
  storageKeys : List Hash
  deriving DecidableEq

/-- An access list. -/
abbrev AccessList := List AccessEntry

namespace AccessEntry

/-- The fields of an entry. -/
inductive Field where
  | address
  | storageKeys
  deriving DecidableEq

/-- An entry while it is read. -/
abbrev Draft := Option Address × Option (List Hash)

/-- How an entry is read. -/
def record : Record Field Draft where
  fields := [.address, .storageKeys]
  field?
    | "address" => some .address
    | "storageKeys" => some .storageKeys
    | _ => none
  read
    | .address, d, (_, keys) => return (some (← Decoder.fixedBytes d), keys)
    | .storageKeys, d, (address, _) => return (address, some (← Decoder.list Decoder.fixedBytes d))

/-- Reads an entry; both fields are required. -/
def decoder : Decoder AccessEntry := fun d => do
  match ← record.decode (none, none) d with
  | (some address, some keys) => .ok ⟨address, keys⟩
  | _ => .error .shape

/-- The JSON form of an entry. -/
def toJson (e : AccessEntry) : Json :=
  .object [("address", .string e.address.toText),
    ("storageKeys", .array (e.storageKeys.map fun k => .string k.toText))]

end AccessEntry

namespace AccessList

/-- Reads an access list. -/
def decoder : Decoder AccessList := Decoder.list AccessEntry.decoder

/-- The JSON form of an access list. -/
def toJson (l : AccessList) : Json := .array (l.map AccessEntry.toJson)

end AccessList

end EthClient
