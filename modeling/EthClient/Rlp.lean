import EthClient.Word

/-! # Recursive length prefix

The serialisation that transactions are hashed and sent in: an item is a byte string or a list of
items, and every item is written behind its length. A single byte below 128 is written as itself. -/

namespace EthClient

/-- An item: a byte string or a list of items. -/
inductive Rlp where
  | bytes (b : Bytes)
  | list (items : List Rlp)

namespace Rlp

/-- The mark before an item: the length itself if it is short, otherwise the size of the length and
then the length. -/
def mark (offset length : Nat) : Bytes :=
  if length < 56 then [UInt8.ofNat (offset + length)]
  else
    let digits := minimalBytes 8 length
    UInt8.ofNat (offset + 55 + digits.length) :: digits

/-- The serialisation of a byte string. -/
def encodeBytes (b : Bytes) : Bytes :=
  match b with
  | [x] => if x < 128 then [x] else mark 128 1 ++ [x]
  | b => mark 128 b.length ++ b

mutual

/-- The serialisation of an item. -/
def encode : Rlp → Bytes
  | .bytes b => encodeBytes b
  | .list items =>
    let body := encodeItems items
    mark 192 body.length ++ body
termination_by structural item => item

/-- The serialisations of some items, one after the other. -/
def encodeItems : List Rlp → Bytes
  | [] => []
  | item :: items => encode item ++ encodeItems items
termination_by structural items => items

end

/-- A number below `2 ^ 256`: its shortest bytes, none for zero. -/
def nat (n : Nat) : Rlp := .bytes (minimalBytes 32 n)

/-- A quantity, unset like zero. -/
def quantity? {bits : Nat} (q : Option (Quantity bits)) : Rlp :=
  match q with
  | some q => nat q.toNat
  | none => .bytes []

end Rlp

end EthClient
