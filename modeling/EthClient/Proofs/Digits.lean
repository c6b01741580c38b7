import EthClient.Proofs.Rlp

/-! # Written digits are read

Quantities and byte strings have one written form, and their readers take more than this form.
Whatever was written is read as what it was written for:

* **`Hex.scan?_digits`**: digits that are read in pairs spell the number that they spell one by one;
* **`Quantity.ofText?_toText`**, **`FixedBytes.ofText?_toText`**, **`bytesOfText?_marked`**. -/

namespace EthClient

/-! ## Base 16 -/

/-- The number that base-16 digits spell, most significant first. -/
def ofNibbles (ds : List Nat) : Nat := ds.foldl (fun n d => n * 16 + d) 0

/-- The digits of a number spell it, as far as there is room for them. -/
theorem ofNibbles_nibbles (size n : Nat) : ofNibbles (nibbles size n) = n % 16 ^ size := by
  induction size generalizing n with
  | zero => simp [nibbles, ofNibbles, Nat.mod_one]
  | succ size ih =>
    have hlast : ofNibbles (nibbles size (n / 16) ++ [n % 16])
        = ofNibbles (nibbles size (n / 16)) * 16 + n % 16 := by
      rw [ofNibbles, List.foldl_append]
      rfl
    rw [nibbles, hlast, ih, Nat.pow_succ, Nat.mul_comm (16 ^ size), Nat.mod_mul]
    omega

/-- Zeros in front count nothing. -/
theorem ofNibbles_dropWhile_zero (ds : List Nat) :
    ofNibbles (ds.dropWhile (· == 0)) = ofNibbles ds := by
  induction ds with
  | nil => rfl
  | cons d ds ih =>
    by_cases hd : d = 0
    · subst hd
      rw [List.dropWhile_cons_of_pos (by simp), ih]
      simp [ofNibbles]
    · rw [List.dropWhile_cons_of_neg (by simpa using hd)]

/-- Digits are below sixteen. -/
theorem lt_of_mem_nibbles {size n d : Nat} (h : d ∈ nibbles size n) : d < 16 := by
  induction size generalizing n with
  | zero => cases h
  | succ size ih =>
    rw [nibbles, List.mem_append, List.mem_singleton] at h
    rcases h with h | rfl
    · exact ih h
    · exact Nat.mod_lt n (by decide)

namespace Hex

/-- A digit has the value that it was written for. -/
theorem value?_digit : ∀ n < 16, value? (digit n) = some n := by decide

/-- The two digits of a byte have the values of its halves. -/
theorem value?_halves (b : UInt8) :
    value? (digit (b.toNat / 16)) = some (b.toNat / 16) ∧
      value? (digit (b.toNat % 16)) = some (b.toNat % 16) := by
  have hb := b.toNat_lt
  exact ⟨value?_digit _ (by omega), value?_digit _ (by omega)⟩

/-- Its halves make the byte. -/
theorem ofNat_halves (b : UInt8) : UInt8.ofNat (b.toNat / 16 * 16 + b.toNat % 16) = b := by
  rw [Nat.div_add_mod', UInt8.ofNat_toNat]

/-- The digits of the first byte stand first. -/
theorem ofBytes_cons (b : UInt8) (bytes : Bytes) :
    ofBytes (b :: bytes) = digit (b.toNat / 16) :: digit (b.toNat % 16) :: ofBytes bytes := rfl

/-- A byte has two digits. -/
@[simp] theorem length_ofBytes (bytes : Bytes) : (ofBytes bytes).length = 2 * bytes.length := by
  induction bytes with
  | nil => rfl
  | cons b bytes ih =>
    rw [ofBytes_cons, List.length_cons, List.length_cons, ih, List.length_cons]
    omega

/-- **Pairs of digits are read as the bytes they were written for.** -/
theorem pairs?_ofBytes (bytes : Bytes) : pairs? (ofBytes bytes) = some bytes := by
  induction bytes with
  | nil => rfl
  | cons b bytes ih =>
    obtain ⟨hhigh, hlow⟩ := value?_halves b
    rw [ofBytes_cons, pairs?, hhigh, hlow, ih]
    exact congrArg (fun c => some (c :: bytes)) (ofNat_halves b)

/-- Blanks may stand between digits, but there are none. -/
theorem scanFrom?_ofBytes (last : Nat) (bytes : Bytes) :
    scanFrom? false last (ofBytes bytes) = some bytes := by
  induction bytes generalizing last with
  | nil => rfl
  | cons b bytes ih =>
    obtain ⟨hhigh, hlow⟩ := value?_halves b
    rw [ofBytes_cons, scanFrom?, hhigh]
    dsimp only
    rw [if_neg (by decide), scanFrom?, hlow]
    dsimp only
    rw [if_pos rfl, ih, Option.map_some, ofNat_halves]

/-- **The digits of bytes are read as these bytes.** -/
theorem scan?_ofBytes (bytes : Bytes) : scan? (ofBytes bytes) = some bytes := by
  have heven : ((ofBytes bytes).length % 2 == 1) = false := by
    rw [length_ofBytes]
    simp
  rw [scan?, heven, scanFrom?_ofBytes]

/-- Reading on in the middle of a number: the bytes go on with it as the digits do, among which is
the one that was read before. -/
theorem scanFrom?_digits {ds : List Nat} (hds : ∀ d ∈ ds, d < 16) (half : Bool) (last : Nat)
    (hlast : last < 16) (hlength : ds.length % 2 = half.toNat) :
    ∃ bytes, scanFrom? half last (ds.map digit) = some bytes ∧
      ∀ n, bytes.foldl (fun n b => n * 256 + b.toNat) n
        = ds.foldl (fun n d => n * 16 + d) (if half then n * 16 + last else n) := by
  induction ds generalizing half last with
  | nil =>
    cases half with
    | true => cases hlength
    | false => exact ⟨[], rfl, fun n => rfl⟩
  | cons d ds ih =>
    have hd := hds d (List.mem_cons_self ..)
    have hrest : ∀ d ∈ ds, d < 16 := fun d h => hds d (List.mem_cons_of_mem _ h)
    rw [List.length_cons] at hlength
    rw [List.map_cons, scanFrom?, value?_digit d hd]
    cases half with
    | true =>
      -- the digit completes a byte
      obtain ⟨bytes, hscan, hvalue⟩ := ih hrest false d hd (by simp at hlength ⊢; omega)
      refine ⟨UInt8.ofNat (last * 16 + d) :: bytes, by simp [hscan], fun n => ?_⟩
      have hbyte : (UInt8.ofNat (last * 16 + d)).toNat = last * 16 + d := by
        rw [UInt8.toNat_ofNat', Nat.mod_eq_of_lt (by omega)]
      rw [List.foldl_cons, List.foldl_cons, hvalue, hbyte, if_neg (by decide), if_pos rfl]
      congr 1
      omega
    | false =>
      obtain ⟨bytes, hscan, hvalue⟩ := ih hrest true d hd (by simp at hlength ⊢; omega)
      refine ⟨bytes, by simp [hscan], fun n => ?_⟩
      rw [hvalue, List.foldl_cons, if_pos rfl, if_neg (by decide)]

/-- **Digits that are read in pairs spell the number that they spell one by one.** -/
theorem scan?_digits {ds : List Nat} (hds : ∀ d ∈ ds, d < 16) :
    ∃ bytes, scan? (ds.map digit) = some bytes ∧ ofBigEndian bytes = ofNibbles ds := by
  obtain ⟨bytes, hscan, hvalue⟩ := scanFrom?_digits hds (ds.length % 2 == 1) 0 (by decide) (by
    rcases Nat.mod_two_eq_zero_or_one ds.length with h | h <;> rw [h] <;> rfl)
  refine ⟨bytes, by rw [scan?, List.length_map]; exact hscan, ?_⟩
  rw [ofBigEndian, hvalue, ofNibbles]
  simp

end Hex

/-! ## Quantities and byte strings -/

namespace Quantity

variable {bits : Nat}

/-- What is written are digits behind a mark, at least one of them, and they spell the number. -/
theorem exists_digits (q : Quantity bits) (h : bits % 4 = 0) (hpos : 0 < bits) :
    ∃ ds : List Nat, q.toText = String.ofList ('0' :: 'x' :: ds.map Hex.digit) ∧
      ds ≠ [] ∧ ds.length ≤ bits / 4 ∧ (∀ d ∈ ds, d < 16) ∧ ofNibbles ds = q.toNat := by
  have hroom : q.toNat < 16 ^ ((bits + 3) / 4) := by
    have hbits : 4 * ((bits + 3) / 4) = bits := by omega
    calc q.toNat < 2 ^ bits := q.isLt
      _ = 16 ^ ((bits + 3) / 4) := by rw [show 16 = 2 ^ 4 from rfl, ← Nat.pow_mul, hbits]
  have hvalue : ofNibbles ((nibbles ((bits + 3) / 4) q.toNat).dropWhile (· == 0)) = q.toNat := by
    rw [ofNibbles_dropWhile_zero, ofNibbles_nibbles, Nat.mod_eq_of_lt hroom]
  cases hds : (nibbles ((bits + 3) / 4) q.toNat).dropWhile (· == 0) with
  | nil =>
    rw [hds] at hvalue
    refine ⟨[0], ?_, nofun, ?_, by simp, hvalue⟩
    · rw [toText, hexDigits, hds]
      rfl
    · rw [List.length_singleton]
      omega
  | cons d ds =>
    rw [hds] at hvalue
    have hsub : (d :: ds).Sublist (nibbles ((bits + 3) / 4) q.toNat) :=
      hds ▸ List.dropWhile_sublist _
    refine ⟨d :: ds, ?_, nofun, ?_, fun x hx => ?_, hvalue⟩
    · rw [toText, hexDigits, hds]
      rfl
    · have hlength := hsub.length_le
      rw [length_nibbles] at hlength
      omega
    · exact lt_of_mem_nibbles (hsub.subset hx)

/-- **A quantity that was written is read.** -/
theorem ofText?_toText (q : Quantity bits) (h : bits % 4 = 0) (hpos : 0 < bits) :
    ofText? q.toText = some q := by
  obtain ⟨ds, htext, hne, hlength, hds, hvalue⟩ := q.exists_digits h hpos
  obtain ⟨bytes, hscan, hbytes⟩ := Hex.scan?_digits hds
  rw [htext, ofText?, String.toList_ofList, Hex.unmarked, if_neg, hscan,
    Option.map_some, hbytes, hvalue, ofNat, BitVec.ofNat_toNat, BitVec.setWidth_eq]
  rw [List.length_map, Bool.or_eq_true, not_or]
  exact ⟨by simpa using hne, by simpa using hlength⟩

end Quantity

/-- **A byte string of fixed size that was written is read.** -/
theorem FixedBytes.ofText?_toText {size : Nat} (b : FixedBytes size) :
    ofText? b.toText = some b := by
  obtain ⟨bytes, rfl⟩ := b
  rw [toText, ofText?, Hex.marked, String.toList_ofList, Hex.unmarked, Hex.length_ofBytes,
    if_pos (beq_self_eq_true _), Hex.scan?_ofBytes, Option.map_some, ofPrefix]
  simp

/-- **A byte string that was written is read.** -/
theorem bytesOfText?_marked (bytes : Bytes) : bytesOfText? (Hex.marked bytes) = some bytes := by
  rw [bytesOfText?, Hex.marked, String.toList_ofList]
  exact Hex.pairs?_ofBytes bytes

end EthClient
