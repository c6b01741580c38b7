import EthClient.Chain.Block
import EthClient.Provider.Basic

/-! # Questions to a node

A `Query` is a question that can be asked without sending anything, and `Query.Answer` what its
answer is. A `Reader` answers queries; `Reader.ofProvider` does so by making calls. -/

namespace EthClient

/-- A question to a node. -/
inductive Query where
  /-- A block, with whole transactions or only with their hashes. -/
  | blockByNumber (tag : BlockTag) (full : Bool)
  /-- The suggested price of gas. -/
  | gasPrice
  /-- How many transactions an address has sent as of a block. -/
  | transactionCount (address : Address) (tag : BlockTag)
  /-- The gas that a transaction needs on top of a block. -/
  | estimateGas (args : TransactionArgs) (tag : BlockTag)
  /-- The chain id, which the node may not know yet. -/
  | chainId

namespace Query

/-- What a question is answered with. -/
abbrev Answer : Query → Type
  | .blockByNumber .. => Option Block
  | .gasPrice => Amount
  | .transactionCount .. => Amount
  | .estimateGas .. => Amount
  | .chainId => Option Number64

/-- The call that asks a question. -/
def toCall : Query → Call
  | .blockByNumber tag full => ⟨"eth_getBlockByNumber", [.json tag.toJson, .bool full]⟩
  | .gasPrice => ⟨"eth_gasPrice", []⟩
  | .transactionCount address tag =>
    ⟨"eth_getTransactionCount", [.string address.toText, .json tag.toJson]⟩
  | .estimateGas args tag => ⟨"eth_estimateGas", [.transaction args, .json tag.toJson]⟩
  | .chainId => ⟨"eth_chainId", []⟩

/-- How the answer is read. -/
def decoder : (q : Query) → Decoder q.Answer
  | .blockByNumber .. => Decoder.nullable Block.decoder
  | .gasPrice => Decoder.quantity
  | .transactionCount .. => Decoder.quantity
  | .estimateGas .. => Decoder.quantity
  | .chainId => Decoder.nullable Decoder.quantity

end Query

/-- Asks a provider, inside a context if there is one. -/
def Provider.ask {σ : Type} (p : Provider σ) (ctx : Option Context) (q : Query) :
    Attempt σ q.Answer :=
  p.request ctx q.toCall q.decoder

/-- Answers questions. -/
structure Reader (σ : Type) where
  ask : (q : Query) → Attempt σ q.Answer

/-- The reader that asks a provider, inside a context if there is one. -/
def Reader.ofProvider {σ : Type} (p : Provider σ) (ctx : Option Context) : Reader σ := ⟨p.ask ctx⟩

end EthClient
