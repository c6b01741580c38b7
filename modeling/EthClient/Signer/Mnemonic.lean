import EthClient.Signer.PrivateKey
import EthClient.Signer.Words

/-! # Mnemonics and derived keys

A `Mnemonic` is the entropy behind a phrase of English words. `Mnemonic.ofPhrase` takes a phrase
only if it is the one that its own entropy writes, so the checksum in its last word holds. Keys are
derived from it along a path: each part of the path is an index, and the indices from `2 ^ 31` on
are the hardened ones. -/

namespace EthClient

/-! ## Derivation paths -/

namespace DerivationPath

/-- Where the hardened indices begin. -/
def hardened : Nat := 0x80000000

/-- The index that one part of a path means: a decimal number below `2 ^ 32`, after an optional `+`,
with `'` or `h` after it for a hardened one. -/
def index? (part : String) : Option Nat :=
  let cs := part.toList
  let (digits, isHardened) := match cs.getLast? with
    | some '\'' | some 'h' => (cs.dropLast, true)
    | _ => (cs, false)
  let digits := match digits with
    | '+' :: rest => rest
    | ds => ds
  match Text.decimal? digits with
  | some n =>
    if UInt32.size ≤ n then none
    else some (if isHardened then (n + hardened) % UInt32.size else n)
  | none => none

/-- The indices of a path. Parts that are `m` stand for nothing. -/
def ofText? (path : String) : Option (List Nat) :=
  ((Text.split '/' path).filter (· != "m")).mapM index?

end DerivationPath

/-- How keys are derived from a mnemonic. -/
structure MnemonicOption where
  /-- The path before the index of the account. -/
  basePath : String := "m/44'/60'/0'/0"
  /-- The password that goes into the seed. -/
  password : String := ""

namespace MnemonicOption

/-- The whole path of an account. Slashes at the end of the base path are dropped first. -/
def path (o : MnemonicOption) (index : Nat) : String :=
  Text.trimEnd '/' o.basePath ++ "/" ++ toString index

/-- The path of an account as a text, if it is a path. -/
def derivationPath (o : MnemonicOption) (index : Nat) : Except SignerError String :=
  match DerivationPath.ofText? (o.path index) with
  | some _ => .ok (o.path index)
  | none => .error (.invalidDerivationPath (o.path index))

/-- How an option is shown: of the password only whether there is one. -/
def shown (o : MnemonicOption) : String :=
  "MnemonicOption \x7b base_derive_path: " ++ Text.quoted o.basePath ++ ", password: " ++
    (if o.password.isEmpty then "false" else "true") ++ " \x7d"

end MnemonicOption

/-! ## Derived keys -/

/-- A key that further keys can be derived from. -/
structure ExtendedKey where
  secret : Nat
  chainCode : Bytes

namespace ExtendedKey

/-- The key and chain code in 64 bytes, added to a secret. -/
def ofDigest (base : Nat) (digest : Bytes) : ExtendedKey where
  secret := (ofBigEndian (digest.take 32) + base) % Crypto.Secp256k1.n
  chainCode := digest.drop 32

/-- The first key of a seed. -/
def master (seed : Bytes) : ExtendedKey :=
  ofDigest 0 (Crypto.hmac Crypto.Sha2.sha512 (Text.Utf8.encode "Bitcoin seed") seed)

/-- The key at an index: a hardened one depends on the secret, any other on the public key. -/
def child (k : ExtendedKey) (index : Nat) : ExtendedKey :=
  let material :=
    if DerivationPath.hardened ≤ index then 0 :: bigEndian 32 k.secret
    else (Crypto.Secp256k1.publicKey k.secret).compressed
  ofDigest k.secret (Crypto.hmac Crypto.Sha2.sha512 k.chainCode (material ++ bigEndian 4 index))

end ExtendedKey

/-! ## Phrases -/

/-- The entropy behind a phrase. -/
structure Mnemonic where
  entropy : Bytes

namespace Mnemonic

/-- The lowest `size` bits of a number, most significant first. -/
def bits (size n : Nat) : List Bool := Crypto.Secp256k1.bits size n

/-- The number that bits spell, most significant first. -/
def ofBits (bs : List Bool) : Nat := bs.foldl (fun n b => 2 * n + b.toNat) 0

/-- Cuts a list into `count` pieces of `size`; the last one may be shorter. -/
def pieces {α : Type} (size : Nat) : (count : Nat) → List α → List (List α)
  | 0, _ => []
  | count + 1, xs => xs.take size :: pieces size count (xs.drop size)

/-- The bytes of bits, with zeros after the last one. -/
def bytesOfBits (bs : List Bool) : Bytes :=
  let count := (bs.length + 7) / 8
  let padded := bs ++ List.replicate (8 * count - bs.length) false
  (pieces 8 count padded).map fun b => UInt8.ofNat (ofBits b)

/-- The numbers of bytes that some phrase holds with its checksum cut short, and how many of them
are entropy. -/
def entropySize? : Nat → Option Nat
  | 16 | 17 => some 16
  | 20 | 21 => some 20
  | 24 | 25 => some 24
  | 28 | 29 => some 28
  | 32 | 33 => some 32
  | _ => none

/-- The words of the entropy: after its bits, one bit of its hash for every four bytes. -/
def phrase (m : Mnemonic) : String :=
  let checksum := (Crypto.Sha2.sha256.hash m.entropy).flatMap fun b => bits 8 b.toNat
  let all := (m.entropy.flatMap fun b => bits 8 b.toNat) ++ checksum.take (m.entropy.length / 4)
  let found := (pieces 11 (all.length / 11) all).map fun b => words.getD (ofBits b) ""
  String.intercalate " " found

/-- The places of some words, or the first word that has none. -/
def indices : List String → Except MnemonicError (List Nat)
  | [] => .ok []
  | word :: rest =>
    match wordIndex? word with
    | some i => return i :: (← indices rest)
    | none => .error (.invalidWord word)

/-- The mnemonic of a phrase, whose words stand one blank apart. -/
def ofPhrase (s : String) : Except MnemonicError Mnemonic := do
  let found ← indices (Text.split ' ' s)
  let held := bytesOfBits (found.flatMap (bits 11))
  match entropySize? held.length with
  | none => .error (.invalidLength held.length)
  | some size =>
    let m : Mnemonic := ⟨held.take size⟩
    if m.phrase == s then .ok m else .error (.invalidPhrase s)

/-- The seed of a mnemonic and a password. -/
def seed (m : Mnemonic) (password : String) : Bytes :=
  Crypto.pbkdf2 Crypto.Sha2.sha512 2048 (Text.Utf8.encode m.phrase)
    (Text.Utf8.encode ("mnemonic" ++ password))

/-- The key of an account under the first key of the seed. -/
def deriveFrom (master : ExtendedKey) (o : MnemonicOption) (index : Nat) :
    Except SignerError PrivateKey :=
  match DerivationPath.ofText? (o.path index) with
  | none => .error (.invalidDerivationPath (o.path index))
  | some indices =>
    match PrivateKey.ofNat? (indices.foldl ExtendedKey.child master).secret with
    | some key => .ok key
    | none => .error .badKey

/-- The key of an account. -/
def derive (m : Mnemonic) (o : MnemonicOption) (index : Nat) : Except SignerError PrivateKey :=
  deriveFrom (.master (m.seed o.password)) o index

end Mnemonic

/-- The key of an account of a phrase. The phrase is checked before the path. -/
def PrivateKey.ofMnemonic (phrase : String) (index : Nat) (o : MnemonicOption) :
    Except SignerError PrivateKey :=
  match Mnemonic.ofPhrase phrase with
  | .ok m => m.derive o index
  | .error e => .error (.mnemonic e)

end EthClient
