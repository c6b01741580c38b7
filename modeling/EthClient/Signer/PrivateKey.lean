import EthClient.Crypto.Secp256k1
import EthClient.Signer.Error
import EthClient.Transaction.Basic

/-! # Private keys

A `PrivateKey` is a scalar that has a public key. Its `Signer` is what the rest of the library sees:
an address, and ways to sign a transaction for a chain and a message.

* `PrivateKey.ofHex` reads a key from hexadecimal digits, `PrivateKey.ofBytes` from its bytes;
* `PrivateKey.generate` draws one from a supply of random bytes;
* `Address.checksummed` writes an address with the check in the case of its letters. -/

namespace EthClient

open Crypto (keccak256)

/-- A secret scalar between zero and the order of the curve. -/
structure PrivateKey where
  secret : Nat
  pos : 0 < secret
  lt : secret < Crypto.Secp256k1.n
  deriving DecidableEq

/-- Something that signs for one address. -/
structure Signer where
  /-- The address that it signs for. -/
  address : Address
  /-- Signs a transaction for a chain. -/
  signTransaction : Transaction → Number64 → Except SignerError Signature
  /-- Signs a message. -/
  signMessage : Bytes → Except SignerError Signature

/-- The address that belongs to a public key. -/
def Address.ofPublicKey (q : Crypto.Secp256k1.Point) : Address :=
  .ofPrefix 20 ((keccak256 q.toBytes).toList.drop 12)

/-- An address with the letters in upper case where the digit of the hash of its digits is above
seven. -/
def Address.checksummed (a : Address) : String :=
  let digits := Hex.ofBytes a.toList
  let marks := Hex.ofBytes (keccak256 (digits.map fun c => UInt8.ofNat c.toNat)).toList
  String.ofList <| '0' :: 'x' :: digits.zipWith
    (fun c mark => if 7 < (Hex.value? mark).getD 0 then c.toUpper else c) marks

/-- The hash that is signed for a message: the message behind a fixed text and its length. -/
def messageHash (message : Bytes) : Hash :=
  keccak256 <|
    0x19 :: Text.Utf8.encode ("Ethereum Signed Message:\n" ++ toString message.length) ++ message

/-- The mark of a signature with some recovery id: with a chain id it tells chains apart, without
one it is 27 more than the recovery id. -/
def recoveryMark (recoveryId : UInt8) (chainId : Option Number64) : Number64 :=
  let id : Number64 := Quantity.ofNat recoveryId.toNat
  match chainId with
  | some chain => id + 35 + chain * 2
  | none => id + 27

/-- The recovery bit in a mark of either kind; `none` for a mark that is neither. -/
def recoveryBit? (v : Number64) : Option Bool :=
  if v = 0 ∨ v = 27 then some false
  else if v = 1 ∨ v = 28 then some true
  else if 35 ≤ v.toNat then some (v.toNat % 2 == 0)
  else none

/-- The address that a signature of a hash was made for, if there is one. -/
def Signature.recover? (sig : Signature) (hash : Hash) : Option Address := do
  let odd ← recoveryBit? sig.v
  let q ← Crypto.Secp256k1.recover? (ofBigEndian hash.toList) ⟨sig.r.toNat, sig.s.toNat, odd⟩
  return Address.ofPublicKey q

namespace PrivateKey

/-- The key of a scalar, if the scalar is in range. -/
def ofNat? (secret : Nat) : Option PrivateKey :=
  if h : 0 < secret ∧ secret < Crypto.Secp256k1.n then some ⟨secret, h.1, h.2⟩ else none

/-- The key of 24 to 32 bytes, the first ones taken as zero where some are missing. -/
def ofBytes (bytes : Bytes) : Except SignerError PrivateKey :=
  if 24 ≤ bytes.length && bytes.length ≤ 32 then
    match ofNat? (ofBigEndian bytes) with
    | some key => .ok key
    | none => .error .badKey
  else .error .badKey

/-- Reads pairs of hexadecimal digits; `position` counts the bytes read before. -/
def hexBytes (position : Nat) : Bytes → Except HexError Bytes
  | a :: b :: rest => do
    let high ← digit a position
    let low ← digit b (position + 1)
    let bytes ← hexBytes (position + 2) rest
    return UInt8.ofNat (high * 16 + low) :: bytes
  | _ => .ok []
where
  /-- The value of a digit, or the error that it is none. -/
  digit (b : UInt8) (position : Nat) : Except HexError Nat :=
    match Hex.value? (Char.ofNat b.toNat) with
    | some n => .ok n
    | none => .error (.invalidCharacter b position)

/-- The key that a text spells in hexadecimal digits, after one optional `0x`. -/
def ofHex (s : String) : Except SignerError PrivateKey := do
  let digits := Text.Utf8.encode (String.ofList (Hex.unmarked s.toList))
  if digits.length % 2 == 1 then throw (.hex .oddLength)
  match hexBytes 0 digits with
  | .ok bytes => ofBytes bytes
  | .error e => throw (.hex e)

/-- The first key among `fuel` draws of 32 bytes each from an endless repetition of some bytes. -/
def generate (supply : Bytes) : (fuel : Nat) → (drawn : Nat) → Option PrivateKey
  | 0, _ => none
  | fuel + 1, drawn =>
    let draw := (List.range 32).map fun i => supply.getD ((drawn + i) % supply.length) 0
    match ofNat? (ofBigEndian draw) with
    | some key => some key
    | none => generate supply fuel (drawn + 32)

/-- The bytes of a key. -/
def toBytes (key : PrivateKey) : Bytes := bigEndian 32 key.secret

/-- The address that the key signs for. -/
def address (key : PrivateKey) : Address :=
  .ofPublicKey (Crypto.Secp256k1.publicKey key.secret)

/-- The signature of a hash, marked for a chain if there is one. -/
def signHash (key : PrivateKey) (hash : Hash) (chainId : Option Number64) : Signature :=
  let sig := Crypto.Secp256k1.sign key.secret (ofBigEndian hash.toList)
  ⟨Quantity.ofNat sig.r, Quantity.ofNat sig.s, recoveryMark (if sig.odd then 1 else 0) chainId⟩

/-- The signature of a transaction after it is given the chain id. -/
def signTransaction (key : PrivateKey) (tx : Transaction) (chainId : Number64) : Signature :=
  key.signHash (tx.setChainId chainId).sighash (some chainId)

/-- The signature of a message. -/
def signMessage (key : PrivateKey) (message : Bytes) : Signature :=
  key.signHash (messageHash message) none

/-- The key as a signer. -/
def toSigner (key : PrivateKey) : Signer where
  address := key.address
  signTransaction tx chainId := .ok (key.signTransaction tx chainId)
  signMessage message := .ok (key.signMessage message)

/-- How a key is shown: its address alone. -/
def shown (address : Address) : String :=
  "PrivateKeySigner \x7b address: " ++ address.toText ++ " \x7d"

end PrivateKey

end EthClient
