import EthClient.Crypto.Keccak
import EthClient.Rlp
import EthClient.Transaction.Args

/-! # Transactions

A `Transaction` is what gets signed: one of three envelopes around the same common fields.
`Transaction.rlp` is its unsigned payload, `Transaction.sighash` the hash that a signature is made
over, and `Transaction.signedRlp` the payload with a signature.

A transaction carries only the fees of its own envelope; every other field is common to all three
and may be unset. -/

namespace EthClient

/-- Where a transaction goes: an address, or a name that is still to be resolved. -/
inductive Recipient where
  | address (a : Address)
  | name (s : String)
  deriving DecidableEq

/-- The fields that all envelopes have. -/
structure TransactionFields where
  sender : Option Address := none
  recipient : Option Recipient := none
  gas : Option Amount := none
  value : Option Amount := none
  data : Option Bytes := none
  nonce : Option Amount := none
  chainId : Option Number64 := none
  deriving DecidableEq

/-- A transaction in its envelope. -/
inductive Transaction where
  | legacy (fields : TransactionFields) (gasPrice : Option Amount)
  | accessList (fields : TransactionFields) (gasPrice : Option Amount) (entries : AccessList)
  | dynamicFee (fields : TransactionFields) (maxFee maxPriorityFee : Option Amount)
      (entries : AccessList)
  deriving DecidableEq

/-- A signature of a transaction or a message. -/
structure Signature where
  (r s : Amount)
  /-- The recovery mark, with or without a chain id in it. -/
  v : Number64
  deriving DecidableEq

namespace Transaction

/-- The envelope. -/
def txType : Transaction → TxType
  | .legacy .. => .legacy
  | .accessList .. => .accessList
  | .dynamicFee .. => .dynamicFee

/-- The common fields. -/
def fields : Transaction → TransactionFields
  | .legacy f _ => f
  | .accessList f _ _ => f
  | .dynamicFee f _ _ _ => f

/-- The transaction with other common fields. -/
def withFields (g : TransactionFields) : Transaction → Transaction
  | .legacy _ price => .legacy g price
  | .accessList _ price entries => .accessList g price entries
  | .dynamicFee _ maxFee maxPriorityFee entries => .dynamicFee g maxFee maxPriorityFee entries

/-- The chain that the transaction is meant for. -/
def chainId (tx : Transaction) : Option Number64 := tx.fields.chainId

/-- The transaction for a chain. -/
def setChainId (tx : Transaction) (id : Number64) : Transaction :=
  tx.withFields { tx.fields with chainId := some id }

/-! ## Payloads -/

/-- The item of a recipient. A name has none until it is resolved. -/
def recipientItems : Option Recipient → List Rlp
  | some (.address a) => [.bytes a.toList]
  | some (.name _) => []
  | none => [.bytes []]

/-- The item of an access list. -/
def accessListItem (l : AccessList) : Rlp :=
  .list (l.map fun e =>
    .list [.bytes e.address.toList, .list (e.storageKeys.map fun k => .bytes k.toList)])

/-- The items of gas, recipient, value and data, which follow each other in every envelope. -/
def callItems (f : TransactionFields) : List Rlp :=
  Rlp.quantity? f.gas :: recipientItems f.recipient ++
    [Rlp.quantity? f.value, .bytes (f.data.getD [])]

/-- The items that a signature covers, apart from the chain id of a legacy transaction. -/
def items : Transaction → List Rlp
  | .legacy f price => Rlp.quantity? f.nonce :: Rlp.quantity? price :: callItems f
  | .accessList f price entries =>
    Rlp.nat ((f.chainId.map BitVec.toNat).getD 1) :: Rlp.quantity? f.nonce ::
      Rlp.quantity? price :: callItems f ++ [accessListItem entries]
  | .dynamicFee f maxFee maxPriorityFee entries =>
    Rlp.quantity? f.chainId :: Rlp.quantity? f.nonce :: Rlp.quantity? maxPriorityFee ::
      Rlp.quantity? maxFee :: callItems f ++ [accessListItem entries]

/-- What follows the items of an unsigned transaction: for a legacy one its chain id, if it has one,
and two zeros. -/
def unsignedTail : Transaction → List Rlp
  | .legacy f _ =>
    match f.chainId with
    | some id => [Rlp.nat id.toNat, Rlp.nat 0, Rlp.nat 0]
    | none => []
  | _ => []

/-- The items of a transaction in its envelope. -/
def wrap (t : TxType) (items : List Rlp) : Bytes :=
  let body := (Rlp.list items).encode
  match t with
  | .legacy => body
  | t => UInt8.ofNat t.tag :: body

/-- The unsigned payload. -/
def rlp (tx : Transaction) : Bytes := wrap tx.txType (tx.items ++ tx.unsignedTail)

/-- The hash that is signed. -/
def sighash (tx : Transaction) : Hash := Crypto.keccak256 tx.rlp

/-- The mark of a signature as the envelope holds it: a legacy transaction keeps it, a typed one
takes the chain id out of it. -/
def signatureMark (tx : Transaction) (v : Number64) : Nat :=
  match tx with
  | .legacy .. => v.toNat
  | tx => if v.toNat ≤ 1 then v.toNat
    else v.toNat - 2 * (tx.chainId.map BitVec.toNat).getD 1 - 35

/-- The payload with a signature. -/
def signedRlp (tx : Transaction) (sig : Signature) : Bytes :=
  wrap tx.txType <| tx.items ++
    [Rlp.nat (tx.signatureMark sig.v), Rlp.nat sig.r.toNat, Rlp.nat sig.s.toNat]

end Transaction

end EthClient
