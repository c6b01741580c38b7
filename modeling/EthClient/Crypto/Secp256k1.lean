import EthClient.Crypto.Sha2

/-! # Recoverable signatures over secp256k1

The curve `y ^ 2 = x ^ 3 + 7` over the field of `p` elements, with a base point of prime order `n`.

* `publicKey` multiplies the base point by a secret scalar;
* `sign` makes a signature with a nonce that is derived from the key and the hash, and always with
  the smaller of the two possible `s`;
* `recover?` finds the public key that a signature and a hash belong to.

Points are kept in projective coordinates while they are added, so that one inversion at the end is
enough. -/

namespace EthClient.Crypto.Secp256k1

/-- The size of the field. -/
def p : Nat := 0xFFFFFFFFFFFFFFFFFFFFFFFFFFFFFFFFFFFFFFFFFFFFFFFFFFFFFFFEFFFFFC2F

/-- The order of the base point. -/
def n : Nat := 0xFFFFFFFFFFFFFFFFFFFFFFFFFFFFFFFEBAAEDCE6AF48A03BBFD25E8CD0364141

/-! ## Arithmetic modulo a number -/

/-- `base ^ exponent` modulo `m`, by repeated squaring. -/
def powMod (m : Nat) (base exponent : Nat) : Nat :=
  if h : exponent = 0 then 1 % m
  else
    let half := powMod m base (exponent / 2)
    let square := half * half % m
    if exponent % 2 = 1 then square * base % m else square
termination_by exponent
decreasing_by exact Nat.div_lt_self (Nat.pos_of_ne_zero h) (by decide)

/-- The inverse modulo a prime. -/
def invMod (m a : Nat) : Nat := powMod m a (m - 2)

/-- The difference of two numbers modulo `m`. -/
def subMod (m a b : Nat) : Nat := (a + (m - b % m)) % m

/-! ## Points -/

/-- A point in projective coordinates: `(x / z ^ 2, y / z ^ 3)`, or the neutral one if `z` is
zero. -/
structure Projective where
  (x y z : Nat)

/-- A point other than the neutral one. -/
structure Point where
  (x y : Nat)
  deriving DecidableEq

/-- The base point. -/
def base : Point where
  x := 0x79BE667EF9DCBBAC55A06295CE870B07029BFCDB2DCE28D959F2815B16F81798
  y := 0x483ADA7726A3C4655DA4FBFC0E1108A8FD17B448A68554199C47D08FFB10D4B8

namespace Projective

/-- The neutral point. -/
def neutral : Projective := ⟨1, 1, 0⟩

/-- A point in projective coordinates. -/
def ofPoint (q : Point) : Projective := ⟨q.x, q.y, 1⟩

/-- The coordinates of a point, unless it is the neutral one. -/
def toPoint? (q : Projective) : Option Point :=
  if q.z == 0 then none
  else
    let i := invMod p q.z
    let i2 := i * i % p
    some ⟨q.x * i2 % p, q.y * i2 % p * i % p⟩

/-- Twice a point. -/
def double (q : Projective) : Projective :=
  if q.z == 0 || q.y == 0 then neutral
  else
    let y2 := q.y * q.y % p
    let s := 4 * q.x * y2 % p
    let m := 3 * q.x * q.x % p
    let x := subMod p (m * m) (2 * s)
    ⟨x, subMod p (m * subMod p s x) (8 * y2 * y2), 2 * q.y * q.z % p⟩

/-- The sum of two points. -/
def add (q r : Projective) : Projective :=
  if q.z == 0 then r
  else if r.z == 0 then q
  else
    let qz2 := q.z * q.z % p
    let rz2 := r.z * r.z % p
    let u₁ := q.x * rz2 % p
    let u₂ := r.x * qz2 % p
    let s₁ := q.y * rz2 % p * r.z % p
    let s₂ := r.y * qz2 % p * q.z % p
    if u₁ == u₂ then
      if s₁ == s₂ then double q else neutral
    else
      let h := subMod p u₂ u₁
      let d := subMod p s₂ s₁
      let h2 := h * h % p
      let h3 := h2 * h % p
      let v := u₁ * h2 % p
      let x := subMod p (d * d) (h3 + 2 * v)
      ⟨x, subMod p (d * subMod p v x) (s₁ * h3), h * q.z % p * r.z % p⟩

end Projective

/-- The lowest `size` bits of a number, most significant first. -/
def bits : (size : Nat) → Nat → List Bool
  | 0, _ => []
  | size + 1, k => k.testBit size :: bits size k

/-- `k` times a point, for `k` below `2 ^ 256`: doubles for each bit and adds for each set one. -/
def multiply (k : Nat) (q : Projective) : Projective :=
  (bits 256 k).foldl (fun acc set => if set then acc.double.add q else acc.double) .neutral

/-- The public key of a secret scalar; the scalars between zero and `n` all have one. -/
def publicKey (secret : Nat) : Point :=
  ((multiply secret (.ofPoint base)).toPoint?).getD base

/-- The bytes of a public key: both coordinates. -/
def Point.toBytes (q : Point) : Bytes := bigEndian 32 q.x ++ bigEndian 32 q.y

/-- The first byte and the first coordinate: the short form of a public key. -/
def Point.compressed (q : Point) : Bytes := UInt8.ofNat (2 + q.y % 2) :: bigEndian 32 q.x

/-! ## Signatures -/

/-- A signature: `r`, `s`, and whether the point behind `r` has an odd second coordinate. -/
structure Signature where
  (r s : Nat)
  odd : Bool
  deriving DecidableEq

/-- The state of the generator of nonces. -/
structure Nonces where
  (key value : Bytes)

/-- Takes bytes into the generator, behind a mark. -/
def Nonces.update (g : Nonces) (mark : UInt8) (extra : Bytes) : Nonces :=
  let key := hmac Sha2.sha256 g.key (g.value ++ mark :: extra)
  ⟨key, hmac Sha2.sha256 key g.value⟩

/-- The generator for a secret and a hash. -/
def Nonces.start (secret hash : Nat) : Nonces :=
  let seed := bigEndian 32 secret ++ bigEndian 32 (hash % n)
  ((Nonces.mk (List.replicate 32 0) (List.replicate 32 1)).update 0 seed).update 1 seed

/-- The signature with a nonce, unless the nonce is unfit. -/
def signWith? (secret hash nonce : Nat) : Option Signature := do
  guard (0 < nonce && nonce < n)
  let point ← (multiply nonce (.ofPoint base)).toPoint?
  let r := point.x % n
  let s := invMod n nonce * ((hash + r * secret) % n) % n
  guard (r != 0 && s != 0)
  let high := n / 2 < s
  return ⟨r, if high then n - s else s, (point.y % 2 == 1) != high⟩

/-- The signature with the first fit nonce of at most `fuel` that the generator gives. -/
def signFrom? (secret hash : Nat) : (fuel : Nat) → Nonces → Option Signature
  | 0, _ => none
  | fuel + 1, g =>
    let value := hmac Sha2.sha256 g.key g.value
    match signWith? secret hash (ofBigEndian value) with
    | some s => some s
    | none => signFrom? secret hash fuel ((Nonces.mk g.key value).update 0 [])

/-- The signature of a hash. A nonce is unfit with a chance of less than `2 ^ (-127)`, so the search
ends at the first one in practice. -/
def sign (secret hash : Nat) : Signature :=
  (signFrom? secret hash 256 (.start secret hash)).getD ⟨1, 1, false⟩

/-- The public key behind a signature of a hash, if there is one. -/
def recover? (hash : Nat) (sig : Signature) : Option Point := do
  guard (0 < sig.r && sig.r < n && 0 < sig.s && sig.s < n)
  let y2 := (sig.r * sig.r % p * sig.r + 7) % p
  let root := powMod p y2 ((p + 1) / 4)
  guard (root * root % p == y2)
  let y := if (root % 2 == 1) == sig.odd then root else p - root
  let inverse := invMod n sig.r
  let q := (multiply (inverse * sig.s % n) (.ofPoint ⟨sig.r, y⟩)).add
    (multiply (inverse * subMod n 0 hash % n) (.ofPoint base))
  q.toPoint?

end EthClient.Crypto.Secp256k1
