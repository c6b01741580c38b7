import EthClient.Proofs.Digits
import EthClient.Rpc.Call
import EthClient.Signer.PrivateKey

/-! # Signed payloads taken apart

What a node reads from the payload of a signed transaction, without knowing the transaction: its
envelope, the items that the signature covers, and the signature. The sender stands nowhere in a
payload; it is recovered from the signature and the hash of the items, for which a legacy payload
has its chain id in the mark of the signature.

* **`SignedPayload.ofBytes?_signedRlp`**: a payload gives back what it was made from;
* **`SignedPayload.nonce?_signedRlp`**: it tells the nonce;
* **`SignedPayload.sender?_signedRlp`**: it tells the address of the key that signed it. -/

namespace EthClient

open Crypto (keccak256)

/-- A signed payload taken apart. -/
structure SignedPayload where
  txType : TxType
  /-- The items that the signature covers. -/
  items : List Rlp
  /-- The mark of the signature, as the envelope holds it. -/
  mark : Nat
  (r s : Nat)

namespace SignedPayload

/-- The number that an item spells. -/
def number? : Rlp → Option Nat
  | .bytes b => some (ofBigEndian b)
  | .list _ => none

/-- The payload of an envelope with some items, of which the last three are the signature. -/
def ofItems? (t : TxType) (items : List Rlp) : Option SignedPayload :=
  match items.reverse with
  | s :: r :: mark :: covered =>
    return ⟨t, covered.reverse, ← number? mark, ← number? r, ← number? s⟩
  | _ => none

/-- The payload of an envelope with a serialised list. -/
def ofBody? (t : TxType) (body : Bytes) : Option SignedPayload :=
  match Rlp.items? body with
  | some [.list items] => ofItems? t items
  | _ => none

/-- Takes a payload apart: a typed one begins with its tag, and a legacy one with its list. -/
def ofBytes? : Bytes → Option SignedPayload
  | [] => none
  | b :: rest =>
    match TxType.ofTag? b.toNat with
    | some .accessList => ofBody? .accessList rest
    | some .dynamicFee => ofBody? .dynamicFee rest
    | _ => ofBody? .legacy (b :: rest)

/-- What is hashed behind the items: for a legacy payload the chain id in its mark and two zeros. -/
def hashedTail (p : SignedPayload) : List Rlp :=
  match p.txType with
  | .legacy => if 35 ≤ p.mark then [Rlp.nat ((p.mark - 35) / 2), Rlp.nat 0, Rlp.nat 0] else []
  | _ => []

/-- The hash that was signed. -/
def sighash (p : SignedPayload) : Hash :=
  keccak256 (Transaction.wrap p.txType (p.items ++ p.hashedTail))

/-- The signature. -/
def signature (p : SignedPayload) : Signature :=
  ⟨Quantity.ofNat p.r, Quantity.ofNat p.s, Quantity.ofNat p.mark⟩

/-- The sender of a payload: whose signature it carries. -/
def sender? (payload : Bytes) : Option Address := do
  let p ← ofBytes? payload
  p.signature.recover? p.sighash

/-- The nonce of a payload, which stands behind the chain id if the envelope has one there. -/
def nonce? (payload : Bytes) : Option Nat := do
  let p ← ofBytes? payload
  match p.txType with
  | .legacy => number? (← p.items[0]?)
  | _ => number? (← p.items[1]?)

/-- The nonce of the payload that some parameters hold in hexadecimal digits. -/
def nonceOf? : List Param → Option Nat
  | [.json (.string s)] => do nonce? (← bytesOfText? s)
  | _ => none

/-! ## Payloads as they are written -/

/-- A number that is written is read. -/
theorem number?_nat {n : Nat} (h : n < 2 ^ 256) : number? (Rlp.nat n) = some n := by
  rw [Rlp.nat, number?, ofBigEndian_minimalBytes (by omega)]

/-- The last three items are the signature. -/
theorem ofItems?_append (t : TxType) (items : List Rlp) {mark r s : Nat} (hm : mark < 2 ^ 256)
    (hr : r < 2 ^ 256) (hs : s < 2 ^ 256) :
    ofItems? t (items ++ [Rlp.nat mark, Rlp.nat r, Rlp.nat s]) = some ⟨t, items, mark, r, s⟩ := by
  have hrev : (items ++ [Rlp.nat mark, Rlp.nat r, Rlp.nat s]).reverse
      = Rlp.nat s :: Rlp.nat r :: Rlp.nat mark :: items.reverse := by simp
  rw [ofItems?, hrev]
  simp only [number?_nat hm, number?_nat hr, number?_nat hs, List.reverse_reverse]
  rfl

/-- A serialised list is read as one. -/
theorem ofBody?_encode (t : TxType) (items : List Rlp)
    (h : (Rlp.encode (.list items)).length < 2 ^ 64) :
    ofBody? t (Rlp.encode (.list items)) = ofItems? t items := by
  rw [ofBody?, Rlp.items?_encode _ h]

/-- The serialisation of a list begins with a byte that is no tag. -/
theorem exists_encode_list_eq_cons (items : List Rlp) :
    ∃ b rest, Rlp.encode (.list items) = b :: rest ∧ 192 ≤ b.toNat := by
  rw [Rlp.encode, Rlp.mark]
  split
  · refine ⟨_, _, rfl, ?_⟩
    rw [UInt8.toNat_ofNat']
    omega
  · refine ⟨_, _, rfl, ?_⟩
    have := length_minimalBytes_le 8 (Rlp.encodeItems items).length
    rw [UInt8.toNat_ofNat']
    omega

/-- Only zero, one and two are tags. -/
theorem ofTag?_eq_none {n : Nat} (h : 3 ≤ n) : TxType.ofTag? n = none := by
  match n with
  | 0 | 1 | 2 => omega
  | _ + 3 => rfl

/-- An envelope around items is taken off again. -/
theorem ofBytes?_wrap (t : TxType) (items : List Rlp)
    (h : (Transaction.wrap t items).length < 2 ^ 64) :
    ofBytes? (Transaction.wrap t items) = ofItems? t items := by
  -- a legacy payload is told from a typed one by its first byte, which is no tag
  cases t with
  | legacy =>
    obtain ⟨b, rest, henc, hb⟩ := exists_encode_list_eq_cons items
    have hbody : Transaction.wrap .legacy items = Rlp.encode (.list items) := rfl
    rw [hbody] at h ⊢
    rw [← ofBody?_encode .legacy items h, henc, ofBytes?, ofTag?_eq_none (by omega)]
  | accessList =>
    have hbody : Transaction.wrap .accessList items = 1 :: Rlp.encode (.list items) := rfl
    rw [hbody, List.length_cons] at h
    rw [hbody, ← ofBody?_encode .accessList items (by omega)]
    rfl
  | dynamicFee =>
    have hbody : Transaction.wrap .dynamicFee items = 2 :: Rlp.encode (.list items) := rfl
    rw [hbody, List.length_cons] at h
    rw [hbody, ← ofBody?_encode .dynamicFee items (by omega)]
    rfl

/-- The mark that an envelope holds fits into a quantity. -/
theorem signatureMark_lt (tx : Transaction) (v : Number64) : tx.signatureMark v < 2 ^ 64 := by
  have := v.isLt
  cases tx with
  | legacy => exact this
  | accessList f | dynamicFee f =>
    change (if v.toNat ≤ 1 then v.toNat
      else v.toNat - 2 * (f.chainId.map BitVec.toNat).getD 1 - 35) < 2 ^ 64
    split <;> omega

/-- **A payload gives back what it was made from.** -/
theorem ofBytes?_signedRlp (tx : Transaction) (sig : Signature)
    (h : (tx.signedRlp sig).length < 2 ^ 64) :
    ofBytes? (tx.signedRlp sig)
      = some ⟨tx.txType, tx.items, tx.signatureMark sig.v, sig.r.toNat, sig.s.toNat⟩ := by
  have hm := signatureMark_lt tx sig.v
  rw [Transaction.signedRlp] at h ⊢
  rw [ofBytes?_wrap _ _ h, ofItems?_append _ _ (by omega) sig.r.isLt sig.s.isLt]

/-- **A payload tells the nonce** of the transaction. -/
theorem nonce?_signedRlp {tx : Transaction} {n : Amount} (hn : tx.fields.nonce = some n)
    (sig : Signature) (h : (tx.signedRlp sig).length < 2 ^ 64) :
    nonce? (tx.signedRlp sig) = some n.toNat := by
  rw [nonce?, ofBytes?_signedRlp tx sig h]
  cases tx with
  | legacy f | accessList f | dynamicFee f =>
    have hf : f.nonce = some n := hn
    simp [Transaction.txType, Transaction.items, hf, Rlp.quantity?, number?_nat n.isLt]

/-- The parameter with which a payload is sent tells its nonce. -/
theorem nonceOf?_marked (payload : Bytes) :
    nonceOf? [.string (Hex.marked payload)] = nonce? payload := by
  rw [Param.string, nonceOf?, bytesOfText?_marked, Option.bind_eq_bind, Option.bind_some]

end SignedPayload

/-! ## Marks and senders -/

/-- A mark with a chain id in it is thirty-five more than recovery bit and twice the chain id. -/
theorem toNat_recoveryMark {odd : Bool} {id : Number64} (h : 2 * id.toNat + 38 < 2 ^ 64) :
    (recoveryMark (if odd then 1 else 0) (some id)).toNat = odd.toNat + 35 + 2 * id.toNat := by
  have hid := id.isLt
  cases odd <;>
    simp [recoveryMark, Quantity.ofNat, BitVec.toNat_add, BitVec.toNat_mul] <;> omega

namespace PrivateKey

/-- The least key. -/
def one : PrivateKey := ⟨1, by decide, by decide⟩

/-- The signature of a hash on the curve. -/
def curveSignature (key : PrivateKey) (hash : Hash) : Crypto.Secp256k1.Signature :=
  Crypto.Secp256k1.sign key.secret (ofBigEndian hash.toList)

/-- The signature of a hash is the one on the curve, and its mark holds the bit of that one. -/
theorem signHash_eq (key : PrivateKey) (hash : Hash) (chainId : Option Number64) :
    key.signHash hash chainId
      = ⟨Quantity.ofNat (key.curveSignature hash).r, Quantity.ofNat (key.curveSignature hash).s,
          recoveryMark (if (key.curveSignature hash).odd then 1 else 0) chainId⟩ := by
  delta signHash curveSignature
  generalize Crypto.Secp256k1.sign key.secret (ofBigEndian hash.toList) = sig
  rfl

/-- The curve leads from the signature of a hash back to the address of the key that made it. -/
def RecoveredFrom (key : PrivateKey) (hash : Hash) : Prop :=
  (Crypto.Secp256k1.recover? (ofBigEndian hash.toList) (key.curveSignature hash)).map
    Address.ofPublicKey = some key.address

instance (key : PrivateKey) (hash : Hash) : Decidable (key.RecoveredFrom hash) :=
  inferInstanceAs (Decidable (_ = _))

/-- **The mark in the envelope**: with the chain id in a legacy one, and the bare recovery bit in a
typed one. -/
theorem signatureMark_signHash (key : PrivateKey) (hash : Hash) {tx : Transaction} {id : Number64}
    (hid : tx.chainId = some id) (h : 2 * id.toNat + 38 < 2 ^ 64) :
    tx.signatureMark (key.signHash hash (some id)).v
      = if tx.txType = .legacy then (key.curveSignature hash).odd.toNat + 35 + 2 * id.toNat
        else (key.curveSignature hash).odd.toNat := by
  have hv : (key.signHash hash (some id)).v.toNat
      = (key.curveSignature hash).odd.toNat + 35 + 2 * id.toNat := by
    rw [signHash_eq, toNat_recoveryMark h]
  -- from here on only the numbers matter, not how they are computed
  generalize (key.signHash hash (some id)).v = v at hv ⊢
  generalize (key.curveSignature hash).odd.toNat = bit at hv ⊢
  cases tx with
  | legacy => simpa only [Transaction.signatureMark, Transaction.txType, if_true] using hv
  | accessList f | dynamicFee f =>
    have hf : f.chainId = some id := hid
    simp only [Transaction.txType, reduceCtorEq, if_false]
    change (if v.toNat ≤ 1 then v.toNat
      else v.toNat - 2 * (f.chainId.map BitVec.toNat).getD 1 - 35) = bit
    rw [hv, if_neg (by omega), hf, Option.map_some, Option.getD_some]
    omega

end PrivateKey

namespace SignedPayload

/-- The bit of a mark that an envelope holds is the recovery bit. -/
theorem recoveryBit?_mark (t : TxType) (odd : Bool) {id : Number64}
    (h : 2 * id.toNat + 38 < 2 ^ 64) :
    recoveryBit? (Quantity.ofNat
      (if t = .legacy then odd.toNat + 35 + 2 * id.toNat else odd.toNat)) = some odd := by
  split
  · have hodd : odd.toNat ≤ 1 := Bool.toNat_le odd
    have hv : (Quantity.ofNat (odd.toNat + 35 + 2 * id.toNat) : Number64).toNat
        = odd.toNat + 35 + 2 * id.toNat := by
      rw [Quantity.ofNat, BitVec.toNat_ofNat, Nat.mod_eq_of_lt (by omega)]
    have hne (n : Number64) (hn : n.toNat < 35) :
        (Quantity.ofNat (odd.toNat + 35 + 2 * id.toNat) : Number64) ≠ n := by
      intro heq
      rw [heq] at hv
      omega
    rw [recoveryBit?, if_neg (by rintro (h | h) <;> exact hne _ (by decide) h),
      if_neg (by rintro (h | h) <;> exact hne _ (by decide) h), if_pos (by omega), hv]
    cases odd <;> simp
  · cases odd <;> rfl

/-- Only numbers below the order of the base point are taken for a signature. -/
theorem lt_of_recover? {hash : Nat} {sig : Crypto.Secp256k1.Signature}
    {q : Crypto.Secp256k1.Point} (h : Crypto.Secp256k1.recover? hash sig = some q) :
    sig.r < 2 ^ 256 ∧ sig.s < 2 ^ 256 := by
  have hn : Crypto.Secp256k1.n < 2 ^ 256 := by decide
  rw [Crypto.Secp256k1.recover?] at h
  by_cases hr : 0 < sig.r ∧ sig.r < Crypto.Secp256k1.n ∧ 0 < sig.s ∧ sig.s < Crypto.Secp256k1.n
  · exact ⟨by omega, by omega⟩
  · have hguard : (0 < sig.r && sig.r < Crypto.Secp256k1.n && 0 < sig.s
        && sig.s < Crypto.Secp256k1.n) = false := by
      rw [Bool.eq_false_iff]
      intro hall
      simp only [Bool.and_eq_true, decide_eq_true_eq] at hall
      exact hr ⟨hall.1.1.1, hall.1.1.2, hall.1.2, hall.2⟩
    rw [hguard] at h
    have hnone : none = some q := h
    cases hnone

/-- A signature on the curve leads to the same key when it is read from an envelope. -/
theorem recover?_mark {c : Crypto.Secp256k1.Signature} {hash : Hash} {q : Crypto.Secp256k1.Point}
    {id : Number64} (t : TxType) (items : List Rlp) (hv : 2 * id.toNat + 38 < 2 ^ 64)
    (hq : Crypto.Secp256k1.recover? (ofBigEndian hash.toList) c = some q) :
    (signature ⟨t, items, if t = .legacy then c.odd.toNat + 35 + 2 * id.toNat else c.odd.toNat,
      (Quantity.ofNat c.r : Amount).toNat, (Quantity.ofNat c.s : Amount).toNat⟩).recover? hash
        = some (Address.ofPublicKey q) := by
  obtain ⟨hr, hs⟩ := lt_of_recover? hq
  have toNat_ofNat {n : Nat} (hn : n < 2 ^ 256) : (Quantity.ofNat n : Amount).toNat = n := by
    rw [Quantity.ofNat, BitVec.toNat_ofNat, Nat.mod_eq_of_lt hn]
  rw [signature, Signature.recover?]
  simp only [recoveryBit?_mark t c.odd hv, toNat_ofNat hr, toNat_ofNat hs]
  rw [Option.bind_eq_bind, Option.bind_some, Option.bind_eq_bind, hq, Option.bind_some]
  rfl

/-- The hash that is computed from a payload is the one that was signed. -/
theorem sighash_eq {tx : Transaction} {id : Number64} (hid : tx.chainId = some id) (odd : Bool)
    (r s : Nat) :
    sighash ⟨tx.txType, tx.items,
      if tx.txType = .legacy then odd.toNat + 35 + 2 * id.toNat else odd.toNat, r, s⟩
        = tx.sighash := by
  rw [sighash, Transaction.sighash, Transaction.rlp]
  -- what is left to show is that the tail that is hashed is the unsigned one
  congr 3
  cases tx with
  | legacy f =>
    have hf : f.chainId = some id := hid
    have hhalf : (odd.toNat + 35 + 2 * id.toNat - 35) / 2 = id.toNat := by
      have : odd.toNat ≤ 1 := Bool.toNat_le odd
      omega
    simp only [hashedTail, Transaction.txType, Transaction.unsignedTail, hf, if_true]
    rw [if_pos (by omega), hhalf]
  | accessList | dynamicFee => rfl

/-- **A payload tells the address of the key that signed it**, if the curve does. -/
theorem sender?_signedRlp {key : PrivateKey} {tx : Transaction} {id : Number64}
    (hid : tx.chainId = some id) (hv : 2 * id.toNat + 38 < 2 ^ 64)
    (hrec : key.RecoveredFrom tx.sighash)
    (hlen : (tx.signedRlp (key.signHash tx.sighash (some id))).length < 2 ^ 64) :
    sender? (tx.signedRlp (key.signHash tx.sighash (some id))) = some key.address := by
  obtain ⟨q, hq, haddr⟩ := Option.map_eq_some_iff.mp hrec
  rw [sender?, ofBytes?_signedRlp _ _ hlen, key.signatureMark_signHash tx.sighash hid hv,
    key.signHash_eq, Option.bind_eq_bind, Option.bind_some, sighash_eq hid,
    recover?_mark tx.txType tx.items hv hq, haddr]

end SignedPayload

end EthClient
