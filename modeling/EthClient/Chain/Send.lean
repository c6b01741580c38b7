import EthClient.Provider.Basic

/-! # Sending transactions

A transaction is sent in one of two ways: as arguments that the node populates and signs, or signed
as a byte string. The answer to both is the hash of the transaction. -/

namespace EthClient

/-- The method that asks a node to sign and send a transaction. -/
def sendTransaction : String := "eth_sendTransaction"

/-- The method that sends a signed transaction. -/
def sendRawTransaction : String := "eth_sendRawTransaction"

namespace Provider

variable {σ : Type}

/-- Sends the transaction that some arguments mean. -/
def send (p : Provider σ) (ctx : Option Context) (args : TransactionArgs) : Attempt σ Hash :=
  p.request ctx ⟨sendTransaction, [.transaction args]⟩ Decoder.fixedBytes

/-- Sends a signed transaction. -/
def sendRaw (p : Provider σ) (ctx : Option Context) (raw : Bytes) : Attempt σ Hash :=
  p.request ctx ⟨sendRawTransaction, [.string (Hex.marked raw)]⟩ Decoder.fixedBytes

end Provider

end EthClient
