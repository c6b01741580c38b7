import EthClient.Hex

/-! # Quantities and fixed-size byte strings

The fixed-width values of the wire and their written forms:

* `Quantity n`, an unsigned integer of `n` bits, written without leading zeros;
* `FixedBytes n`, a string of exactly `n` bytes, written in full.

Each has one written form and many that are read: `Quantity.ofText?` and `FixedBytes.ofText?` take
digits in either case, with or without `0x`, and pass over blanks. -/

namespace EthClient

/-! ## Big-endian digits -/

/-- The lowest `size` base-256 digits of a number, most significant first. -/
def bigEndian : (size : Nat) → Nat → Bytes
  | 0, _ => []
  | size + 1, n => bigEndian size (n / 256) ++ [UInt8.ofNat n]

/-- There are as many digits as were asked for. -/
@[simp] theorem length_bigEndian (size n : Nat) : (bigEndian size n).length = size := by
  induction size generalizing n with
  | zero => rfl
  | succ size ih => simp [bigEndian, ih]

/-- The number that base-256 digits spell, most significant first. -/
def ofBigEndian (bytes : Bytes) : Nat := bytes.foldl (fun n b => n * 256 + b.toNat) 0

/-- The shortest byte string that spells a number below `256 ^ size`; zero is the empty one. -/
def minimalBytes (size n : Nat) : Bytes := (bigEndian size n).dropWhile (· == 0)

/-- The lowest `size` base-16 digits of a number, most significant first. -/
def nibbles : (size : Nat) → Nat → List Nat
  | 0, _ => []
  | size + 1, n => nibbles size (n / 16) ++ [n % 16]

/-- There are as many digits as were asked for. -/
@[simp] theorem length_nibbles (size n : Nat) : (nibbles size n).length = size := by
  induction size generalizing n with
  | zero => rfl
  | succ size ih => simp [nibbles, ih]

/-! ## Quantities -/

/-- An unsigned integer of `bits` bits. -/
abbrev Quantity (bits : Nat) := BitVec bits

/-- An amount of wei, gas or transactions. -/
abbrev Amount := Quantity 256

/-- A 64-bit number: a chain id, a block number, a type tag. -/
abbrev Number64 := Quantity 64

namespace Quantity

variable {bits : Nat}

/-- The quantity with the lowest bits of a number. -/
def ofNat (n : Nat) : Quantity bits := BitVec.ofNat bits n

/-- Addition that stops at the greatest value. -/
def satAdd (a b : Quantity bits) : Quantity bits :=
  if a.uaddOverflow b then BitVec.allOnes bits else a + b

/-- Multiplication that stops at the greatest value. -/
def satMul (a b : Quantity bits) : Quantity bits :=
  if a.umulOverflow b then BitVec.allOnes bits else a * b

/-- The significant hexadecimal digits: none for zero. -/
def hexDigits (q : Quantity bits) : List Char :=
  ((nibbles ((bits + 3) / 4) q.toNat).dropWhile (· == 0)).map Hex.digit

/-- The written form: `0x` and the digits without leading zeros, zero as `0x0`. -/
def toText (q : Quantity bits) : String :=
  match q.hexDigits with
  | [] => "0x0"
  | digits => String.ofList ('0' :: 'x' :: digits)

/-- Reads one to `bits / 4` digits, after one optional `0x`. -/
def ofText? (s : String) : Option (Quantity bits) :=
  let digits := Hex.unmarked s.toList
  if digits.isEmpty || bits / 4 < digits.length then none
  else (Hex.scan? digits).map fun bytes => ofNat (ofBigEndian bytes)

/-- The decimal digits. -/
def toDecimal (q : Quantity bits) : String := toString q.toNat

end Quantity

/-! ## Fixed-size byte strings -/

/-- A string of exactly `size` bytes. -/
structure FixedBytes (size : Nat) where
  /-- The bytes, first to last. -/
  toList : Bytes
  /-- There are exactly `size` of them. -/
  length_toList : toList.length = size
  deriving DecidableEq

/-- The address of an account. -/
abbrev Address := FixedBytes 20

/-- A 256-bit hash. -/
abbrev Hash := FixedBytes 32

namespace FixedBytes

variable {size : Nat}

/-- The first `size` bytes of a byte string, with zeros after its end. -/
def ofPrefix (size : Nat) (bytes : Bytes) : FixedBytes size where
  toList := (bytes ++ List.replicate size 0).take size
  length_toList := by simp

instance : Inhabited (FixedBytes size) := ⟨ofPrefix size []⟩

instance : Hashable (FixedBytes size) := ⟨fun b => hash b.toList⟩

/-- The written form: `0x` and two digits a byte. -/
def toText (b : FixedBytes size) : String := Hex.marked b.toList

/-- Reads exactly `2 * size` characters, after one optional `0x`. Where blanks leave fewer bytes,
the rest is zero. -/
def ofText? (s : String) : Option (FixedBytes size) :=
  let digits := Hex.unmarked s.toList
  if digits.length == 2 * size then (Hex.scan? digits).map (ofPrefix size) else none

end FixedBytes

/-! ## Byte strings of any size -/

/-- Reads call data: one optional `0x` or `0X`, then pairs of digits. -/
def bytesOfText? (s : String) : Option Bytes :=
  Hex.pairs? <| match s.toList with
    | '0' :: 'x' :: rest | '0' :: 'X' :: rest => rest
    | cs => cs

end EthClient
