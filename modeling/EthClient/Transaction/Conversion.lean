import EthClient.Transaction.Basic

/-! # Between arguments and transactions

* `TransactionArgs.toTransaction?` makes the transaction of arguments that have a nonce, a gas limit
  and a type; every other field may be unset.
* `TransactionArgs.ofTransaction` makes arguments that send a transaction again. A nonce, a gas
  limit, a fee or a chain id of zero is left unset, so that population asks for it.
* `Transaction.toJson` is the JSON form of a transaction. -/

namespace EthClient

namespace TransactionArgs

/-- The common fields of the transaction: value and data are always set. -/
def transactionFields (a : TransactionArgs) (nonce gas : Amount) : TransactionFields where
  sender := a.sender
  recipient := a.recipient.map .address
  gas := some gas
  value := some (a.value.getD 0)
  data := some (a.data.getD [])
  nonce := some nonce
  chainId := a.chainId

/-- The transaction of some arguments, if nonce, gas and type are set. Only the fees of its type go
into it. -/
def toTransaction? (a : TransactionArgs) : Option Transaction := do
  let nonce ← a.nonce
  let gas ← a.gas
  let fields := a.transactionFields nonce gas
  match ← a.txType with
  | .legacy => return .legacy fields a.gasPrice
  | .accessList => return .accessList fields a.gasPrice (a.accessList.getD [])
  | .dynamicFee => return .dynamicFee fields a.maxFee a.maxPriorityFee (a.accessList.getD [])

/-- Drops a quantity that is zero. -/
def nonzero {bits : Nat} (q : Option (Quantity bits)) : Option (Quantity bits) := q.filter (· != 0)

/-- The address of a recipient, or the name that has none yet. -/
def recipientAddress : Option Recipient → Except String (Option Address)
  | none => .ok none
  | some (.address a) => .ok (some a)
  | some (.name s) => .error s

/-- The arguments that send a transaction again from an address; an error is the name that its
recipient still has. -/
def ofTransaction (sender : Address) (tx : Transaction) : Except String TransactionArgs := do
  let f := tx.fields
  let recipient ← recipientAddress f.recipient
  let args : TransactionArgs :=
    { sender := some sender
      recipient
      gas := nonzero f.gas
      value := some (f.value.getD 0)
      nonce := nonzero f.nonce
      data := some (f.data.getD [])
      chainId := nonzero f.chainId
      txType := some tx.txType }
  match tx with
  | .legacy _ price => return { args with gasPrice := nonzero price }
  | .accessList _ price entries =>
    return { args with gasPrice := nonzero price, accessList := some entries }
  | .dynamicFee _ maxFee maxPriorityFee entries =>
    return { args with
      maxFee := nonzero maxFee
      maxPriorityFee := nonzero maxPriorityFee
      accessList := some entries }

end TransactionArgs

namespace Transaction

/-- The JSON form of a recipient: an address or a name. -/
def recipientText : Recipient → String
  | .address a => a.toText
  | .name s => s

/-- A quantity as a member, if it is set. -/
def quantityMember {bits : Nat} (key : String) (q : Option (Quantity bits)) :
    List (String × Json) :=
  (q.map fun q => (key, Json.string q.toText)).toList

/-- The members of the common fields that are set. -/
def fieldMembers (f : TransactionFields) : List (String × Json) :=
  (f.sender.map fun a => ("from", Json.string a.toText)).toList ++
    (f.recipient.map fun r => ("to", Json.string (recipientText r))).toList ++
    quantityMember "gas" f.gas ++ quantityMember "value" f.value ++
    (f.data.map fun d => ("data", Json.string (Hex.marked d))).toList ++
    quantityMember "nonce" f.nonce

/-- The members of the fees and the access list. -/
def feeMembers : Transaction → List (String × Json)
  | .legacy _ price => quantityMember "gasPrice" price
  | .accessList _ price entries =>
    ("accessList", AccessList.toJson entries) :: quantityMember "gasPrice" price
  | .dynamicFee _ maxFee maxPriorityFee entries =>
    ("accessList", AccessList.toJson entries) ::
      (quantityMember "maxFeePerGas" maxFee ++ quantityMember "maxPriorityFeePerGas" maxPriorityFee)

/-- The JSON form of a transaction: its type in two digits and the fields that are set. -/
def toJson (tx : Transaction) : Json :=
  Json.ofMembers <|
    ("type", .string (Hex.marked [UInt8.ofNat tx.txType.tag])) ::
      (fieldMembers tx.fields ++ tx.feeMembers)

end Transaction

end EthClient
