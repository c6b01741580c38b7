import EthClient.Word

/-! # Keccak-256

The hash function of addresses and transactions: a sponge over the permutation Keccak-f[1600] with a
rate of 136 bytes and the padding bit `0x01`. The state is a matrix of five by five lanes, lane
`(x, y)` at place `x + 5 * y`. A round is the composition of named steps, and each step gives every
lane of its result by one expression. -/

namespace EthClient.Crypto.Keccak

/-- The state: twenty-five lanes. -/
abbrev Lanes := Vector UInt64 25

/-- The lane in column `x` and row `y`, both taken modulo five. -/
def lane (s : Lanes) (x y : Nat) : UInt64 := s.get ⟨x % 5 + 5 * (y % 5), by omega⟩

/-- The state with a given lane at every place. -/
def ofLanes (f : (x y : Nat) → UInt64) : Lanes := Vector.ofFn fun i => f (i.val % 5) (i.val / 5)

/-- Rotation to the left. -/
def rotate (w : UInt64) (n : UInt64) : UInt64 := if n == 0 then w else w <<< n ||| w >>> (64 - n)

/-- How far the lane at each place is rotated. -/
def offsets : Vector UInt64 25 := #v[
  0, 1, 62, 28, 27,
  36, 44, 6, 55, 20,
  3, 10, 43, 25, 39,
  41, 45, 15, 21, 8,
  18, 2, 61, 56, 14]

/-- The constants of the rounds. -/
def roundConstants : List UInt64 := [
  0x0000000000000001, 0x0000000000008082, 0x800000000000808a, 0x8000000080008000,
  0x000000000000808b, 0x0000000080000001, 0x8000000080008081, 0x8000000000008009,
  0x000000000000008a, 0x0000000000000088, 0x0000000080008009, 0x000000008000000a,
  0x000000008000808b, 0x800000000000008b, 0x8000000000008089, 0x8000000000008003,
  0x8000000000008002, 0x8000000000000080, 0x000000000000800a, 0x800000008000000a,
  0x8000000080008081, 0x8000000000008080, 0x0000000080000001, 0x8000000080008008]

/-- The parity of a column. -/
def parity (s : Lanes) (x : Nat) : UInt64 :=
  lane s x 0 ^^^ lane s x 1 ^^^ lane s x 2 ^^^ lane s x 3 ^^^ lane s x 4

/-- Adds to every lane the parities of two neighbouring columns. -/
def theta (s : Lanes) : Lanes :=
  let sums : Vector UInt64 5 := Vector.ofFn fun x => parity s x.val
  let mixed : Vector UInt64 5 := Vector.ofFn fun x =>
    sums.get ⟨(x.val + 4) % 5, by omega⟩ ^^^ rotate (sums.get ⟨(x.val + 1) % 5, by omega⟩) 1
  ofLanes fun x y => lane s x y ^^^ mixed.get ⟨x % 5, by omega⟩

/-- Rotates every lane and moves it to its new place. -/
def rhoPi (s : Lanes) : Lanes :=
  ofLanes fun x y => rotate (lane s (x + 3 * y) x) (lane offsets (x + 3 * y) x)

/-- Combines every lane with the two to its right. -/
def chi (s : Lanes) : Lanes :=
  ofLanes fun x y => lane s x y ^^^ (~~~(lane s (x + 1) y) &&& lane s (x + 2) y)

/-- Adds a constant to the first lane. -/
def iota (c : UInt64) (s : Lanes) : Lanes := s.set 0 (s[0] ^^^ c)

/-- The permutation: twenty-four rounds. -/
def permute (s : Lanes) : Lanes :=
  roundConstants.foldl (fun s c => iota c (chi (rhoPi (theta s)))) s

/-- The number of bytes that one permutation takes in. -/
def rate : Nat := 136

/-- The lane that eight bytes spell, least significant byte first. -/
def laneOfBytes (bytes : Bytes) : UInt64 := UInt64.ofNat (ofBigEndian bytes.reverse)

/-- The bytes of a lane, least significant byte first. -/
def bytesOfLane (w : UInt64) : Bytes := (bigEndian 8 w.toNat).reverse

/-- Adds a block to the state. -/
def addBlock (s : Lanes) (block : Bytes) : Lanes :=
  ofLanes fun x y => lane s x y ^^^ laneOfBytes ((block.drop (8 * (x + 5 * y))).take 8)

/-- The message with its padding: at least one byte, so that the whole fills blocks. -/
def pad (message : Bytes) : Bytes :=
  let free := rate - message.length % rate
  if free == 1 then message ++ [0x81]
  else message ++ 0x01 :: List.replicate (free - 2) 0 ++ [0x80]

/-- Takes in the first `count` blocks. -/
def absorb : (count : Nat) → Lanes → Bytes → Lanes
  | 0, s, _ => s
  | count + 1, s, bytes =>
    absorb count (permute (addBlock s (bytes.take rate))) (bytes.drop rate)

end Keccak

/-- The Keccak-256 hash of a message. -/
def keccak256 (message : Bytes) : Hash :=
  let padded := Keccak.pad message
  let s := Keccak.absorb (padded.length / Keccak.rate) (Vector.replicate 25 0) padded
  .ofPrefix 32 ((s.toList.take 4).flatMap Keccak.bytesOfLane)

end EthClient.Crypto
