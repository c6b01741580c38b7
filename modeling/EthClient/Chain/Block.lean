import EthClient.Decode
import EthClient.Text.Split

/-! # Blocks

A `BlockTag` says which block is meant. A `Block` is what the client keeps of the answer of a node:
its number, its base fee and its transactions. The other members of a block are checked and then
forgotten, and members that are no part of a block are passed over. -/

namespace EthClient

/-! ## Tags -/

/-- Which block is meant. -/
inductive BlockTag where
  | latest
  | finalized
  | safe
  | earliest
  | pending
  | number (n : Number64)
  deriving DecidableEq

namespace BlockTag

/-- The written form of a tag. -/
def toText : BlockTag → String
  | .latest => "latest"
  | .finalized => "finalized"
  | .safe => "safe"
  | .earliest => "earliest"
  | .pending => "pending"
  | .number n => n.toText

/-- The tag as an argument of a call. -/
def toJson (t : BlockTag) : Json := .string t.toText

/-- The number that a text means: hexadecimal digits behind `0x`, of which there may be none, or
decimal ones behind an optional sign. -/
def numberOfText? (s : String) : Option Nat :=
  match s.toList with
  | '0' :: 'x' :: rest => do
    let digits ← rest.mapM Hex.value?
    if 16 < digits.length then none else return digits.foldl (fun n d => n * 16 + d) 0
  | '+' :: rest => (Text.decimal? rest).filter (· < UInt64.size)
  | cs => (Text.decimal? cs).filter (· < UInt64.size)

/-- The tag that a text means: a word in any case, or a number. -/
def ofText? (s : String) : Option BlockTag :=
  match s.toLower with
  | "latest" => some .latest
  | "finalized" => some .finalized
  | "safe" => some .safe
  | "earliest" => some .earliest
  | "pending" => some .pending
  | t => (numberOfText? t).map fun n => .number (Quantity.ofNat n)

end BlockTag

/-! ## Withdrawals -/

namespace Withdrawal

/-- The fields of a withdrawal. -/
inductive Field where
  | index
  | validatorIndex
  | address
  | amount
  deriving DecidableEq

/-- How a withdrawal is read: which of its fields are there. -/
def record : Record Field (List Field) where
  fields := [.index, .validatorIndex, .address, .amount]
  field?
    | "index" => some .index
    | "validatorIndex" => some .validatorIndex
    | "address" => some .address
    | "amount" => some .amount
    | _ => none
  read
    | .index, d, seen => do
      let _ : Number64 ← Decoder.quantity d
      return .index :: seen
    | .validatorIndex, d, seen => do
      let _ : Number64 ← Decoder.quantity d
      return .validatorIndex :: seen
    | .address, d, seen => do
      let _ : Address ← Decoder.fixedBytes d
      return .address :: seen
    | .amount, d, seen => do
      let _ : Amount ← Decoder.quantity d
      return .amount :: seen

/-- Checks a withdrawal; all fields are required. -/
def check : Decoder Unit := fun d => do
  let seen ← record.decode [] d
  if seen.length == record.fields.length then .ok () else .error .shape

end Withdrawal

/-! ## Blocks -/

/-- What the client keeps of a block. -/
structure Block where
  number : Option Number64 := none
  /-- The base fee per gas, for a block of a chain with a fee market. -/
  baseFee : Option Amount := none
  /-- The transactions: hashes, or whole transactions if they were asked for. -/
  transactions : List Json := []

namespace Block

/-- The JSON form of what is kept of a block. -/
def toJson (b : Block) : Json :=
  let quantity {bits : Nat} : Option (Quantity bits) → Json
    | some q => .string q.toText
    | none => .null
  Json.ofMembers [("number", quantity b.number), ("baseFeePerGas", quantity b.baseFee),
    ("transactions", .array b.transactions)]

/-- How the value of a member is read. -/
inductive Kind where
  | hash
  | address
  | bloom
  | seal
  | amount
  | bytes
  | hashes
  | withdrawals
  | sealFields

/-- The members of a block that are only checked, and whether they may be null. -/
def checked : List (String × Kind × Bool) :=
  [("hash", .hash, true), ("mixHash", .hash, true), ("withdrawalsRoot", .hash, true),
    ("parentBeaconBlockRoot", .hash, true), ("miner", .address, true), ("logsBloom", .bloom, true),
    ("nonce", .seal, true), ("totalDifficulty", .amount, true), ("size", .amount, true),
    ("blobGasUsed", .amount, true), ("excessBlobGas", .amount, true),
    ("withdrawals", .withdrawals, true), ("sealFields", .sealFields, true),
    ("parentHash", .hash, false), ("sha3Uncles", .hash, false), ("stateRoot", .hash, false),
    ("transactionsRoot", .hash, false), ("receiptsRoot", .hash, false), ("gasUsed", .amount, false),
    ("gasLimit", .amount, false), ("timestamp", .amount, false), ("difficulty", .amount, false),
    ("extraData", .bytes, false), ("uncles", .hashes, false)]

/-- Forgets a value that has been read. -/
def forget {α : Type} (d : Decoder α) : Decoder Unit := fun doc => do
  let _ ← d doc
  return ()

/-- Checks a value. -/
def Kind.check : Kind → Decoder Unit
  | .hash => forget (Decoder.fixedBytes : Decoder Hash)
  | .address => forget (Decoder.fixedBytes : Decoder Address)
  | .bloom => forget (Decoder.fixedBytes : Decoder (FixedBytes 256))
  | .seal => forget (Decoder.fixedBytes : Decoder (FixedBytes 8))
  | .amount => forget (Decoder.quantity : Decoder Amount)
  | .bytes => forget Decoder.bytes
  | .hashes => forget (Decoder.list (Decoder.fixedBytes : Decoder Hash))
  | .withdrawals => forget (Decoder.list Withdrawal.check)
  | .sealFields => forget (Decoder.list Decoder.bytes)

/-- Reads the value of a member into a block. -/
def readMember (b : Block) (key : String) (d : Document) : Except Fault Block :=
  match key with
  | "number" => return { b with number := ← Decoder.nullable Decoder.quantity d }
  | "baseFeePerGas" => return { b with baseFee := ← Decoder.nullable Decoder.quantity d }
  | "transactions" =>
    return { b with transactions := ← Decoder.list (Decoder.json Json.maxDepth) d }
  | key =>
    match checked.lookup key with
    | none => .ok b
    | some (kind, true) => do
      let _ ← Decoder.nullable kind.check d
      return b
    | some (kind, false) => do
      kind.check d
      return b

/-- Reads the members of a block. -/
def readMembers (b : Block) : List (Json.StringToken × Document) → Except Fault Block
  | [] => .ok b
  | (key, value) :: rest =>
    match key.text? with
    | none => .error .shape
    | some k => do readMembers (← b.readMember k value) rest

/-- Reads a block from an object. -/
def decoder : Decoder Block
  | .object ms => readMembers {} ms
  | _ => .error .shape

end Block

end EthClient
