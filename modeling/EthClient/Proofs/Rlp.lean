import EthClient.Rlp
import Mathlib.Algebra.Group.Nat.Defs

/-! # Reading recursive length prefixes back

`Rlp.items?` takes a byte string apart into the items whose serialisations stand in it one after the
other. Lengths that a mark cannot tell do not occur below `2 ^ 64` bytes, and up to there reading
undoes writing:

* **`ofBigEndian_minimalBytes`**: the shortest bytes of a number spell it;
* **`Rlp.split?_encode_append`**: the first item is split off what follows it;
* **`Rlp.items?_encodeItems`**: the items of a byte string are the ones that were serialised. -/

namespace EthClient

/-! ## Numbers from their digits -/

/-- Reading on from a number: it counts by the number of digits behind it. -/
theorem foldl_digits (n : Nat) (bs : Bytes) :
    bs.foldl (fun n b => n * 256 + b.toNat) n = n * 256 ^ bs.length + ofBigEndian bs := by
  induction bs generalizing n with
  | nil => simp [ofBigEndian]
  | cons c bs ih =>
    have hc : ofBigEndian (c :: bs) = c.toNat * 256 ^ bs.length + ofBigEndian bs := by
      rw [ofBigEndian, List.foldl_cons, ih, Nat.zero_mul, Nat.zero_add]
    have hn : n * 256 ^ (bs.length + 1) = n * 256 * 256 ^ bs.length := by
      rw [Nat.pow_succ, Nat.mul_assoc, Nat.mul_comm 256]
    rw [List.foldl_cons, ih, hc, List.length_cons, hn, Nat.add_mul, Nat.add_assoc]

/-- Digits in front count by the number of those behind them. -/
theorem ofBigEndian_append (a b : Bytes) :
    ofBigEndian (a ++ b) = ofBigEndian a * 256 ^ b.length + ofBigEndian b := by
  rw [ofBigEndian, List.foldl_append, foldl_digits]
  rfl

/-- The digits of a number spell it, as far as there is room for them. -/
theorem ofBigEndian_bigEndian (size n : Nat) : ofBigEndian (bigEndian size n) = n % 256 ^ size := by
  induction size generalizing n with
  | zero => simp [bigEndian, ofBigEndian, Nat.mod_one]
  | succ size ih =>
    rw [bigEndian, ofBigEndian_append, ih, Nat.pow_succ, Nat.mul_comm (256 ^ size), Nat.mod_mul]
    simp [ofBigEndian]
    omega

/-- Zeros in front count nothing. -/
theorem ofBigEndian_dropWhile_zero (bs : Bytes) :
    ofBigEndian (bs.dropWhile (· == 0)) = ofBigEndian bs := by
  induction bs with
  | nil => rfl
  | cons b bs ih =>
    by_cases hb : b = 0
    · subst hb
      rw [List.dropWhile_cons_of_pos (by simp), ih]
      simp [ofBigEndian]
    · rw [List.dropWhile_cons_of_neg (by simpa using hb)]

/-- **The shortest bytes of a number spell it.** -/
theorem ofBigEndian_minimalBytes {size n : Nat} (h : n < 256 ^ size) :
    ofBigEndian (minimalBytes size n) = n := by
  rw [minimalBytes, ofBigEndian_dropWhile_zero, ofBigEndian_bigEndian, Nat.mod_eq_of_lt h]

/-- There are at most as many shortest bytes as there is room for. -/
theorem length_minimalBytes_le (size n : Nat) : (minimalBytes size n).length ≤ size := by
  calc (minimalBytes size n).length
      ≤ (bigEndian size n).length := List.Sublist.length_le (List.dropWhile_sublist _)
    _ = size := length_bigEndian size n

/-- A number other than zero has bytes. -/
theorem minimalBytes_ne_nil {size n : Nat} (h : n < 256 ^ size) (h0 : n ≠ 0) :
    minimalBytes size n ≠ [] := by
  intro hnil
  have hn := ofBigEndian_minimalBytes h
  rw [hnil] at hn
  exact h0 hn.symm

namespace Rlp

/-! ## Splitting the first item off -/

/-- The next `length` bytes and what follows them, if there are so many. -/
def cut (isList : Bool) (length : Nat) (bytes : Bytes) : Option (Bool × Bytes × Bytes) :=
  if length ≤ bytes.length then some (isList, bytes.take length, bytes.drop length) else none

/-- Splits the first item off: whether it is a list, its content, and what follows it. -/
def split? : Bytes → Option (Bool × Bytes × Bytes)
  | [] => none
  | b :: rest =>
    if b.toNat < 128 then some (false, [b], rest)
    else if b.toNat < 184 then cut false (b.toNat - 128) rest
    else if b.toNat < 192 then
      cut false (ofBigEndian (rest.take (b.toNat - 183))) (rest.drop (b.toNat - 183))
    else if b.toNat < 248 then cut true (b.toNat - 192) rest
    else cut true (ofBigEndian (rest.take (b.toNat - 247))) (rest.drop (b.toNat - 247))

/-- Whether an item is a list. -/
def isList : Rlp → Bool
  | .bytes _ => false
  | .list _ => true

/-- What stands behind the mark of an item. -/
def content : Rlp → Bytes
  | .bytes b => b
  | .list items => encodeItems items

/-- What was put in front is cut off again. -/
theorem cut_append (isList : Bool) (content rest : Bytes) :
    cut isList content.length (content ++ rest) = some (isList, content, rest) := by
  simp [cut]

/-- A mark leads to the content behind it; its offset tells strings from lists. -/
theorem split?_mark_append {offset : Nat} {isList : Bool}
    (ho : offset = 128 ∧ isList = false ∨ offset = 192 ∧ isList = true) (content rest : Bytes)
    (h : content.length < 2 ^ 64) :
    split? (mark offset content.length ++ (content ++ rest)) = some (isList, content, rest) := by
  by_cases hs : content.length < 56
  · -- a short length is in the mark itself
    have hb : (UInt8.ofNat (offset + content.length)).toNat = offset + content.length := by
      rw [UInt8.toNat_ofNat']
      omega
    rw [mark, if_pos hs, List.singleton_append, split?, hb]
    rcases ho with ⟨rfl, rfl⟩ | ⟨rfl, rfl⟩
    · rw [if_neg (by omega), if_pos (by omega), Nat.add_sub_cancel_left, cut_append]
    · rw [if_neg (by omega), if_neg (by omega), if_neg (by omega), if_pos (by omega),
        Nat.add_sub_cancel_left, cut_append]
  · -- a long one has one to eight digits of its own
    have hd : ofBigEndian (minimalBytes 8 content.length) = content.length :=
      ofBigEndian_minimalBytes (by omega)
    have hle := length_minimalBytes_le 8 content.length
    have hpos : 0 < (minimalBytes 8 content.length).length :=
      List.length_pos_iff.mpr (minimalBytes_ne_nil (by omega) (by omega))
    rw [mark, if_neg hs]
    generalize minimalBytes 8 content.length = digits at hd hle hpos ⊢
    have hb : (UInt8.ofNat (offset + 55 + digits.length)).toNat = offset + 55 + digits.length := by
      rw [UInt8.toNat_ofNat']
      omega
    rw [List.cons_append, split?, hb]
    rcases ho with ⟨rfl, rfl⟩ | ⟨rfl, rfl⟩
    · rw [if_neg (by omega), if_neg (by omega), if_pos (by omega),
        show 128 + 55 + digits.length - 183 = digits.length by omega, List.take_left,
        List.drop_left, hd, cut_append]
    · rw [if_neg (by omega), if_neg (by omega), if_neg (by omega), if_neg (by omega),
        show 192 + 55 + digits.length - 247 = digits.length by omega, List.take_left,
        List.drop_left, hd, cut_append]

/-- **The first item is split off what follows it.** -/
theorem split?_encode_append (item : Rlp) (rest : Bytes) (h : (encode item).length < 2 ^ 64) :
    split? (encode item ++ rest) = some (item.isList, item.content, rest) := by
  cases item with
  | list items =>
    rw [encode, List.length_append] at h
    rw [encode, List.append_assoc, split?_mark_append (.inr ⟨rfl, rfl⟩) _ _ (by omega)]
    rfl
  | bytes b =>
    rw [encode] at h ⊢
    have long (hb : encodeBytes b = mark 128 b.length ++ b) :
        split? (encodeBytes b ++ rest) = some (false, b, rest) := by
      rw [hb, List.length_append] at h
      rw [hb, List.append_assoc, split?_mark_append (.inl ⟨rfl, rfl⟩) _ _ (by omega)]
    -- a single byte below 128 is its own mark
    by_cases hx : ∃ x, b = [x] ∧ x < 128
    · obtain ⟨x, rfl, hx⟩ := hx
      rw [encodeBytes, if_pos hx, List.singleton_append, split?,
        if_pos (show x.toNat < 128 from UInt8.lt_iff_toNat_lt.mp hx)]
      rfl
    · refine long ?_
      match b with
      | [] => rfl
      | [x] => rw [encodeBytes, if_neg fun hlt => hx ⟨x, rfl, hlt⟩]; rfl
      | _ :: _ :: _ => rfl

/-! ## Taking a byte string apart -/

/-- The items of a byte string, of which there are at most `fuel` and none deeper than that. -/
def itemsWithin? : (fuel : Nat) → Bytes → Option (List Rlp)
  | _, [] => some []
  | 0, _ :: _ => none
  | fuel + 1, b :: bs =>
    match split? (b :: bs) with
    | none => none
    | some (isList, content, rest) => do
      let item ← if isList then (itemsWithin? fuel content).map .list else some (.bytes content)
      let items ← itemsWithin? fuel rest
      return item :: items

/-- The items whose serialisations make up a byte string. -/
def items? (bytes : Bytes) : Option (List Rlp) := itemsWithin? bytes.length bytes

/-- The serialisation of an item is never empty. -/
theorem encode_ne_nil (item : Rlp) : encode item ≠ [] := by
  have hm : ∀ offset length, mark offset length ≠ [] := by
    intro offset length
    rw [mark]
    split <;> exact List.cons_ne_nil _ _
  cases item with
  | list items => rw [encode]; exact List.append_ne_nil_of_left_ne_nil (hm _ _) _
  | bytes b =>
    rw [encode]
    match b with
    | [] => exact List.cons_ne_nil _ _
    | [x] =>
      rw [encodeBytes]
      split
      · exact List.cons_ne_nil _ _
      · exact List.append_ne_nil_of_left_ne_nil (hm _ _) _
    | _ :: _ :: _ => exact List.append_ne_nil_of_left_ne_nil (hm _ _) _

/-- The serialisation of an item that is not a bare string is longer than its content. -/
theorem length_content_lt (items : List Rlp) :
    (encodeItems items).length < (encode (.list items)).length := by
  rw [encode, List.length_append, mark]
  split <;> simp

/-- With as much fuel as there are bytes, every item is read. -/
theorem itemsWithin?_encodeItems (fuel : Nat) (items : List Rlp)
    (hf : (encodeItems items).length ≤ fuel) (h : (encodeItems items).length < 2 ^ 64) :
    itemsWithin? fuel (encodeItems items) = some items := by
  induction fuel generalizing items with
  | zero =>
    cases items with
    | nil => rfl
    | cons item rest =>
      have := List.length_pos_iff.mpr (encode_ne_nil item)
      rw [encodeItems, List.length_append] at hf
      omega
  | succ fuel ih =>
    cases items with
    | nil => rfl
    | cons item rest =>
      have hpos := List.length_pos_iff.mpr (encode_ne_nil item)
      rw [encodeItems, List.length_append] at hf h
      have hsplit := split?_encode_append item (encodeItems rest) (by omega)
      obtain ⟨b, bs, hcons⟩ :=
        List.exists_cons_of_ne_nil (List.append_ne_nil_of_left_ne_nil (encode_ne_nil item)
          (encodeItems rest))
      rw [encodeItems, hcons, itemsWithin?, ← hcons, hsplit]
      have hrest := ih rest (by omega) (by omega)
      cases item with
      | bytes b => simp [isList, content, hrest]
      | list sub =>
        have := length_content_lt sub
        have hsub := ih sub (by omega) (by omega)
        simp [isList, content, hrest, hsub]

/-- **Reading undoes writing**: the items of a byte string are the ones that were serialised. -/
theorem items?_encodeItems (items : List Rlp) (h : (encodeItems items).length < 2 ^ 64) :
    items? (encodeItems items) = some items :=
  itemsWithin?_encodeItems _ items (Nat.le_refl _) h

/-- Reading a single item back. -/
theorem items?_encode (item : Rlp) (h : (encode item).length < 2 ^ 64) :
    items? (encode item) = some [item] := by
  have henc : encodeItems [item] = encode item := by rw [encodeItems, encodeItems, List.append_nil]
  rw [← henc]
  exact items?_encodeItems [item] (by rw [henc]; exact h)

end Rlp

end EthClient
