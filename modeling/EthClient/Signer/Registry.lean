import EthClient.Signer.Mnemonic
import Std.Data.HashMap

/-! # The registry of signers

A `Registry` finds signers in two ways: by address, and in the order in which they were added. Both
hold the same signers, and no address has two.

`Registry.ofSigners`, `Registry.ofPrivateKeys` and `Registry.ofPhrase` add signers one by one and
stop at the first that cannot be made or added. -/

namespace EthClient

/-- Signers by address and in the order in which they were added. -/
structure Registry where
  byAddress : Std.HashMap Address Signer
  ordered : List Signer

namespace Registry

/-- The registry without signers. -/
def empty : Registry := ⟨{}, []⟩

instance : Inhabited Registry := ⟨empty⟩

/-- Adds a signer, unless its address has one. -/
def add (r : Registry) (s : Signer) : Except RegistryError Registry :=
  if r.byAddress.contains s.address then .error (.alreadyRegistered s.address)
  else .ok ⟨r.byAddress.insert s.address s, r.ordered ++ [s]⟩

/-- Takes the signer of an address out. -/
def remove (r : Registry) (a : Address) : Except RegistryError (Signer × Registry) :=
  match r.byAddress[a]? with
  | some s => .ok (s, ⟨r.byAddress.erase a, r.ordered.filter (·.address != a)⟩)
  | none => .error .notFound

/-- The signer of an address. -/
def get (r : Registry) (a : Address) : Except RegistryError Signer :=
  match r.byAddress[a]? with
  | some s => .ok s
  | none => .error .notFound

/-- All signers in the order in which they were added. -/
def list (r : Registry) : List Signer := r.ordered

/-- The earliest signer that is still there. -/
def default? (r : Registry) : Option Signer := r.ordered.head?

/-- The number of signers. -/
def size (r : Registry) : Nat := r.ordered.length

/-- Whether there are no signers. -/
def isEmpty (r : Registry) : Bool := r.size == 0

/-- How a registry is shown: the addresses in order. -/
def shown (r : Registry) : String :=
  "SignerRegistry \x7b addresses: [" ++
    String.intercalate ", " (r.ordered.map fun s => s.address.toText) ++ "] \x7d"

/-- Adds signers in order. -/
def addAll (r : Registry) : List Signer → Except RegistryError Registry
  | [] => .ok r
  | s :: rest => do addAll (← r.add s) rest

/-- The registry of some signers. -/
def ofSigners (signers : List Signer) : Except RegistryError Registry := empty.addAll signers

/-- Makes signers from some material and adds each before the next is made. -/
def addEach {α : Type} (make : α → Except SignerError Signer) (r : Registry) :
    List α → Except RegistryError Registry
  | [] => .ok r
  | x :: rest =>
    match make x with
    | .ok s => do addEach make (← r.add s) rest
    | .error e => .error (.signer e)

/-- The registry of some keys in hexadecimal digits. -/
def ofPrivateKeys (keys : List String) : Except RegistryError Registry :=
  empty.addEach (fun key => (PrivateKey.ofHex key).map PrivateKey.toSigner) keys

/-- The registry of the first `count` accounts of a phrase. -/
def ofPhrase (phrase : String) (count : Nat) (o : MnemonicOption) : Except RegistryError Registry :=
  match Mnemonic.ofPhrase phrase with
  | .error e => .error (.signer (.mnemonic e))
  | .ok m =>
    let master := ExtendedKey.master (m.seed o.password)
    empty.addEach (fun i => (Mnemonic.deriveFrom master o i).map PrivateKey.toSigner)
      (List.range count)

end Registry

end EthClient
