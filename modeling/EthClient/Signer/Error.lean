import EthClient.Text.Quoted
import EthClient.Word

/-! # Errors of keys and signers

Why key material is refused, and why a registry refuses a signer. -/

namespace EthClient

/-- Why a text is not a hexadecimal key. -/
inductive HexError where
  | oddLength
  /-- A byte that is no digit, with its place. -/
  | invalidCharacter (byte : UInt8) (position : Nat)
  deriving DecidableEq

/-- The wording of a hexadecimal error; the byte is shown as the character of the same number. -/
def HexError.message : HexError → String
  | .oddLength => "Odd number of digits"
  | .invalidCharacter byte position =>
    "Invalid character " ++ Text.quotedChar (Char.ofNat byte.toNat) ++ " at position " ++
      toString position

/-- Why a phrase is not a mnemonic. -/
inductive MnemonicError where
  /-- A word that the list does not have. -/
  | invalidWord (word : String)
  /-- The words hold a number of bytes that no mnemonic has. -/
  | invalidLength (bytes : Nat)
  /-- The phrase is not the one that belongs to its own entropy. -/
  | invalidPhrase (phrase : String)
  deriving DecidableEq

/-- The wording of a mnemonic error. -/
def MnemonicError.message : MnemonicError → String
  | .invalidWord word => s!"the word `{word}` is invalid"
  | .invalidLength bytes => s!"the mnemonic's entropy length `{bytes}` is invalid"
  | .invalidPhrase phrase => s!"the phrase `{phrase}` is invalid"

/-- Why a signer cannot be made or cannot sign. -/
inductive SignerError where
  /-- The bytes are no private key. -/
  | badKey
  | hex (e : HexError)
  | mnemonic (e : MnemonicError)
  | invalidDerivationPath (path : String)
  deriving DecidableEq

/-- The wording of a signer error. -/
def SignerError.message : SignerError → String
  | .badKey => "signature error"
  | .hex e => e.message
  | .mnemonic e => e.message
  | .invalidDerivationPath path => s!"invalid derivation path `{path}`"

/-- The name of the part of key handling that an error comes from. -/
def SignerError.kind : SignerError → String
  | .badKey => "Ecdsa"
  | .hex _ => "Hex"
  | .mnemonic _ => "Bip39"
  | .invalidDerivationPath _ => "InvalidDerivationPath"

/-- Why a registry refuses an operation. -/
inductive RegistryError where
  | alreadyRegistered (address : Address)
  | notFound
  | signer (e : SignerError)
  deriving DecidableEq

/-- The wording of a registry error. -/
def RegistryError.message : RegistryError → String
  | .alreadyRegistered address => s!"signer for {address.toText} already registered"
  | .notFound => "signer not found"
  | .signer e => e.message

end EthClient
