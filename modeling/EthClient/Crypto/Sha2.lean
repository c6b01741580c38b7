import EthClient.Word

/-! # SHA-256 and SHA-512

Both hash functions are one construction over words of 32 or 64 bits: `Sha2.Variant` holds what
differs between them. Their constants are the first bits of the same numbers (the fractional parts
of square and cube roots of primes), so one table serves both.

`hmac` and `pbkdf2` are built on either. -/

namespace EthClient.Crypto

namespace Sha2

/-- The eight words of the chaining value. -/
structure Chain (W : Type) where
  (a b c d e f g h : W)

/-- The words of a chaining value, in order. -/
def Chain.toList {W : Type} (s : Chain W) : List W := [s.a, s.b, s.c, s.d, s.e, s.f, s.g, s.h]

/-- The operations and constants of one of the hash functions. -/
structure Variant (W : Type) where
  /-- The size of a word in bytes. -/
  wordSize : Nat
  ofNat : Nat → W
  toNat : W → Nat
  add : W → W → W
  /-- Bitwise "if the first then the second else the third". -/
  choose : W → W → W → W
  /-- Bitwise majority. -/
  majority : W → W → W → W
  /-- The mixing functions of the rounds. -/
  bigSigma0 : W → W
  bigSigma1 : W → W
  /-- The mixing functions of the message schedule. -/
  smallSigma0 : W → W
  smallSigma1 : W → W
  /-- The constants of the rounds. -/
  constants : List W
  /-- The first chaining value. -/
  start : Chain W

namespace Variant

variable {W : Type}

/-- The size of a block in bytes. -/
def blockSize (v : Variant W) : Nat := 16 * v.wordSize

/-- The words that a byte string spells, `count` of them. -/
def words (v : Variant W) : (count : Nat) → Bytes → List W
  | 0, _ => []
  | count + 1, bytes =>
    v.ofNat (ofBigEndian (bytes.take v.wordSize)) :: v.words count (bytes.drop v.wordSize)

/-- The message schedule: sixteen words of the block, then each word from four before it. -/
def schedule (v : Variant W) (block : Bytes) : Array W :=
  (List.range (v.constants.length - 16)).foldl
    (fun ws i =>
      let word (back : Nat) : W := ws.getD (16 + i - back) (v.ofNat 0)
      ws.push <| v.add (v.add (v.smallSigma1 (word 2)) (word 7))
        (v.add (v.smallSigma0 (word 15)) (word 16)))
    (v.words 16 block).toArray

/-- One round, with its constant and its word of the schedule. -/
def round (v : Variant W) (s : Chain W) (k w : W) : Chain W :=
  let t₁ := v.add (v.add (v.add s.h (v.bigSigma1 s.e)) (v.add (v.choose s.e s.f s.g) k)) w
  let t₂ := v.add (v.bigSigma0 s.a) (v.majority s.a s.b s.c)
  ⟨v.add t₁ t₂, s.a, s.b, s.c, v.add s.d t₁, s.e, s.f, s.g⟩

/-- Takes one block into the chaining value. -/
def compress (v : Variant W) (s : Chain W) (block : Bytes) : Chain W :=
  let r := (v.constants.zip (v.schedule block).toList).foldl (fun s kw => v.round s kw.1 kw.2) s
  ⟨v.add s.a r.a, v.add s.b r.b, v.add s.c r.c, v.add s.d r.d, v.add s.e r.e, v.add s.f r.f,
    v.add s.g r.g, v.add s.h r.h⟩

/-- The message with the bit that ends it, zeros, and its length in bits as two words. -/
def pad (v : Variant W) (message : Bytes) : Bytes :=
  let used := message.length + 1 + 2 * v.wordSize
  let zeros := (v.blockSize - used % v.blockSize) % v.blockSize
  message ++ 0x80 :: List.replicate zeros 0 ++ bigEndian (2 * v.wordSize) (8 * message.length)

/-- Takes the first `count` blocks into the chaining value. -/
def absorb (v : Variant W) : (count : Nat) → Chain W → Bytes → Chain W
  | 0, s, _ => s
  | count + 1, s, bytes =>
    v.absorb count (v.compress s (bytes.take v.blockSize)) (bytes.drop v.blockSize)

/-- The hash of a message. -/
def hash (v : Variant W) (message : Bytes) : Bytes :=
  let padded := v.pad message
  let s := v.absorb (padded.length / v.blockSize) v.start padded
  s.toList.flatMap fun w => bigEndian v.wordSize (v.toNat w)

end Variant

/-- The first 64 bits of the fractional parts of the cube roots of the first eighty primes. -/
def cubeRoots : List Nat := [
  0x428a2f98d728ae22, 0x7137449123ef65cd, 0xb5c0fbcfec4d3b2f, 0xe9b5dba58189dbbc,
  0x3956c25bf348b538, 0x59f111f1b605d019, 0x923f82a4af194f9b, 0xab1c5ed5da6d8118,
  0xd807aa98a3030242, 0x12835b0145706fbe, 0x243185be4ee4b28c, 0x550c7dc3d5ffb4e2,
  0x72be5d74f27b896f, 0x80deb1fe3b1696b1, 0x9bdc06a725c71235, 0xc19bf174cf692694,
  0xe49b69c19ef14ad2, 0xefbe4786384f25e3, 0x0fc19dc68b8cd5b5, 0x240ca1cc77ac9c65,
  0x2de92c6f592b0275, 0x4a7484aa6ea6e483, 0x5cb0a9dcbd41fbd4, 0x76f988da831153b5,
  0x983e5152ee66dfab, 0xa831c66d2db43210, 0xb00327c898fb213f, 0xbf597fc7beef0ee4,
  0xc6e00bf33da88fc2, 0xd5a79147930aa725, 0x06ca6351e003826f, 0x142929670a0e6e70,
  0x27b70a8546d22ffc, 0x2e1b21385c26c926, 0x4d2c6dfc5ac42aed, 0x53380d139d95b3df,
  0x650a73548baf63de, 0x766a0abb3c77b2a8, 0x81c2c92e47edaee6, 0x92722c851482353b,
  0xa2bfe8a14cf10364, 0xa81a664bbc423001, 0xc24b8b70d0f89791, 0xc76c51a30654be30,
  0xd192e819d6ef5218, 0xd69906245565a910, 0xf40e35855771202a, 0x106aa07032bbd1b8,
  0x19a4c116b8d2d0c8, 0x1e376c085141ab53, 0x2748774cdf8eeb99, 0x34b0bcb5e19b48a8,
  0x391c0cb3c5c95a63, 0x4ed8aa4ae3418acb, 0x5b9cca4f7763e373, 0x682e6ff3d6b2b8a3,
  0x748f82ee5defb2fc, 0x78a5636f43172f60, 0x84c87814a1f0ab72, 0x8cc702081a6439ec,
  0x90befffa23631e28, 0xa4506cebde82bde9, 0xbef9a3f7b2c67915, 0xc67178f2e372532b,
  0xca273eceea26619c, 0xd186b8c721c0c207, 0xeada7dd6cde0eb1e, 0xf57d4f7fee6ed178,
  0x06f067aa72176fba, 0x0a637dc5a2c898a6, 0x113f9804bef90dae, 0x1b710b35131c471b,
  0x28db77f523047d84, 0x32caab7b40c72493, 0x3c9ebe0a15c9bebc, 0x431d67c49c100d4c,
  0x4cc5d4becb3e42b6, 0x597f299cfc657e2a, 0x5fcb6fab3ad6faec, 0x6c44198c4a475817]

/-- The first 64 bits of the fractional parts of the square roots of the first eight primes. -/
def squareRoots : List Nat := [
  0x6a09e667f3bcc908, 0xbb67ae8584caa73b, 0x3c6ef372fe94f82b, 0xa54ff53a5f1d36f1,
  0x510e527fade682d1, 0x9b05688c2b3e6c1f, 0x1f83d9abfb41bd6b, 0x5be0cd19137e2179]

/-- The chaining value of eight numbers; missing ones are zero. -/
def Chain.ofList {W : Type} (word : Nat → W) (ns : List Nat) : Chain W :=
  let nth (i : Nat) : W := word (ns.getD i 0)
  ⟨nth 0, nth 1, nth 2, nth 3, nth 4, nth 5, nth 6, nth 7⟩

/-- Rotation to the right of a 32-bit word. -/
def rotate32 (x : UInt32) (n : UInt32) : UInt32 := x >>> n ||| x <<< (32 - n)

/-- Rotation to the right of a 64-bit word. -/
def rotate64 (x : UInt64) (n : UInt64) : UInt64 := x >>> n ||| x <<< (64 - n)

/-- SHA-256. -/
def sha256 : Variant UInt32 where
  wordSize := 4
  ofNat := UInt32.ofNat
  toNat := UInt32.toNat
  add := (· + ·)
  choose x y z := (x &&& y) ^^^ (~~~x &&& z)
  majority x y z := (x &&& y) ^^^ (x &&& z) ^^^ (y &&& z)
  bigSigma0 x := rotate32 x 2 ^^^ rotate32 x 13 ^^^ rotate32 x 22
  bigSigma1 x := rotate32 x 6 ^^^ rotate32 x 11 ^^^ rotate32 x 25
  smallSigma0 x := rotate32 x 7 ^^^ rotate32 x 18 ^^^ x >>> 3
  smallSigma1 x := rotate32 x 17 ^^^ rotate32 x 19 ^^^ x >>> 10
  constants := (cubeRoots.take 64).map fun n => UInt32.ofNat (n >>> 32)
  start := .ofList (fun n => UInt32.ofNat (n >>> 32)) squareRoots

/-- SHA-512. -/
def sha512 : Variant UInt64 where
  wordSize := 8
  ofNat := UInt64.ofNat
  toNat := UInt64.toNat
  add := (· + ·)
  choose x y z := (x &&& y) ^^^ (~~~x &&& z)
  majority x y z := (x &&& y) ^^^ (x &&& z) ^^^ (y &&& z)
  bigSigma0 x := rotate64 x 28 ^^^ rotate64 x 34 ^^^ rotate64 x 39
  bigSigma1 x := rotate64 x 14 ^^^ rotate64 x 18 ^^^ rotate64 x 41
  smallSigma0 x := rotate64 x 1 ^^^ rotate64 x 8 ^^^ x >>> 7
  smallSigma1 x := rotate64 x 19 ^^^ rotate64 x 61 ^^^ x >>> 6
  constants := cubeRoots.map UInt64.ofNat
  start := .ofList UInt64.ofNat squareRoots

end Sha2

variable {W : Type}

/-- A keyed hash: the message is hashed under the key xored with one pad byte, and the result under
the key xored with another. Keys longer than a block are hashed first. -/
def hmac (v : Sha2.Variant W) (key message : Bytes) : Bytes :=
  let short := if v.blockSize < key.length then v.hash key else key
  let padded := short ++ List.replicate (v.blockSize - short.length) 0
  let inner := v.hash (padded.map (· ^^^ 0x36) ++ message)
  v.hash (padded.map (· ^^^ 0x5c) ++ inner)

/-- Xors `count` further iterates of the keyed hash onto a sum. -/
def pbkdf2Sum (v : Sha2.Variant W) (password : Bytes) : (count : Nat) → (last sum : Bytes) → Bytes
  | 0, _, sum => sum
  | count + 1, last, sum =>
    let next := hmac v password last
    pbkdf2Sum v password count next (sum.zipWith (· ^^^ ·) next)

/-- The first block of a key that is derived from a password by iterating the keyed hash. -/
def pbkdf2 (v : Sha2.Variant W) (iterations : Nat) (password salt : Bytes) : Bytes :=
  let first := hmac v password (salt ++ [0, 0, 0, 1])
  pbkdf2Sum v password (iterations - 1) first first

end EthClient.Crypto
