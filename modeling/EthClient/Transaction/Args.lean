import EthClient.Transaction.Type

/-! # Transaction arguments

`TransactionArgs` is the intent to send a transaction: every field may be left unset, and population
sets the missing ones later.

Its wire form has two readings and one writing. `TransactionArgs.decoder` takes an object with the
members in any order, or an array of the fields in wire order; `data` has the second name `input`.
`TransactionArgs.toMembers` writes the fields that are set, in wire order and never as `input`. -/

namespace EthClient

/-- The intent to send a transaction. -/
structure TransactionArgs where
  /-- The sender. -/
  sender : Option Address := none
  /-- The recipient; unset to create a contract. -/
  recipient : Option Address := none
  /-- The gas limit. -/
  gas : Option Amount := none
  /-- The price of gas, for the types with one price. -/
  gasPrice : Option Amount := none
  /-- The cap on the whole fee per gas. -/
  maxFee : Option Amount := none
  /-- The cap on the tip per gas. -/
  maxPriorityFee : Option Amount := none
  /-- The amount that is transferred. -/
  value : Option Amount := none
  /-- How many transactions the sender has sent before. -/
  nonce : Option Amount := none
  /-- The call data, or the code that creates a contract. -/
  data : Option Bytes := none
  /-- The storage that the transaction announces. -/
  accessList : Option AccessList := none
  /-- The chain that the transaction is meant for. -/
  chainId : Option Number64 := none
  /-- The envelope. -/
  txType : Option TxType := none
  deriving DecidableEq

namespace TransactionArgs

/-- Whether one of the fee caps is set. -/
def hasFeeMarketFields (a : TransactionArgs) : Bool := a.maxFee.isSome || a.maxPriorityFee.isSome

/-- Whether there is no call data. -/
def dataIsEmpty (a : TransactionArgs) : Bool := (a.data.getD []).isEmpty

/-! ## Wire form -/

/-- The fields of transaction arguments. -/
inductive Field where
  | sender
  | recipient
  | gas
  | gasPrice
  | maxFee
  | maxPriorityFee
  | value
  | nonce
  | data
  | accessList
  | chainId
  | txType
  deriving DecidableEq

namespace Field

/-- All fields, in wire order. -/
def all : List Field :=
  [.sender, .recipient, .gas, .gasPrice, .maxFee, .maxPriorityFee, .value, .nonce, .data,
    .accessList, .chainId, .txType]

/-- The name of a field on the wire. -/
def key : Field → String
  | .sender => "from"
  | .recipient => "to"
  | .gas => "gas"
  | .gasPrice => "gasPrice"
  | .maxFee => "maxFeePerGas"
  | .maxPriorityFee => "maxPriorityFeePerGas"
  | .value => "value"
  | .nonce => "nonce"
  | .data => "data"
  | .accessList => "accessList"
  | .chainId => "chainId"
  | .txType => "type"

/-- The field that a name on the wire means; `input` is a second name of `data`. -/
def ofKey? (key : String) : Option Field :=
  if key == "input" then some .data else all.find? fun f => f.key == key

/-- Reads the value of a field into the arguments; null leaves it unset. -/
def read : Field → Document → TransactionArgs → Except Fault TransactionArgs
  | .sender, d, a => return { a with sender := ← Decoder.nullable Decoder.fixedBytes d }
  | .recipient, d, a => return { a with recipient := ← Decoder.nullable Decoder.fixedBytes d }
  | .gas, d, a => return { a with gas := ← Decoder.nullable Decoder.quantity d }
  | .gasPrice, d, a => return { a with gasPrice := ← Decoder.nullable Decoder.quantity d }
  | .maxFee, d, a => return { a with maxFee := ← Decoder.nullable Decoder.quantity d }
  | .maxPriorityFee, d, a =>
    return { a with maxPriorityFee := ← Decoder.nullable Decoder.quantity d }
  | .value, d, a => return { a with value := ← Decoder.nullable Decoder.quantity d }
  | .nonce, d, a => return { a with nonce := ← Decoder.nullable Decoder.quantity d }
  | .data, d, a => return { a with data := ← Decoder.nullable Decoder.bytes d }
  | .accessList, d, a => return { a with accessList := ← Decoder.nullable AccessList.decoder d }
  | .chainId, d, a => return { a with chainId := ← Decoder.nullable Decoder.quantity d }
  | .txType, d, a => return { a with txType := ← Decoder.nullable TxType.decoder d }

/-- The JSON form of a field, if it is set. -/
def json? (a : TransactionArgs) : Field → Option Json
  | .sender => a.sender.map fun x => .string x.toText
  | .recipient => a.recipient.map fun x => .string x.toText
  | .gas => a.gas.map fun x => .string x.toText
  | .gasPrice => a.gasPrice.map fun x => .string x.toText
  | .maxFee => a.maxFee.map fun x => .string x.toText
  | .maxPriorityFee => a.maxPriorityFee.map fun x => .string x.toText
  | .value => a.value.map fun x => .string x.toText
  | .nonce => a.nonce.map fun x => .string x.toText
  | .data => a.data.map fun x => .string (Hex.marked x)
  | .accessList => a.accessList.map AccessList.toJson
  | .chainId => a.chainId.map fun x => .string x.toText
  | .txType => a.txType.map fun x => .string x.toText

end Field

/-- How arguments are read. -/
def record : Record Field TransactionArgs where
  fields := Field.all
  field? := Field.ofKey?
  read := Field.read

/-- Reads arguments from an object or an array. -/
def decoder : Decoder TransactionArgs := record.decode {}

/-- The fields that are set, in wire order. -/
def toMembers (a : TransactionArgs) : List (String × Json) :=
  Field.all.filterMap fun f => (f.json? a).map fun j => (f.key, j)

/-- The JSON value of the arguments. -/
def toJson (a : TransactionArgs) : Json := Json.ofMembers a.toMembers

/-- The JSON form of the arguments as they are written: members in wire order. -/
def toWire (a : TransactionArgs) : Json := .object a.toMembers

end TransactionArgs

end EthClient
