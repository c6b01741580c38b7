import EthClient.Transaction.Populate
import Mathlib.Algebra.Group.Nat.Defs

/-! # The fee strategy

What fees a transaction gets follows a strategy that can be written down without a node: it depends
on what is set in the arguments, on the base fee of the latest block, and on the price of gas that
the node tells.

* `TransactionArgs.resolvedType` is the envelope, and `TransactionArgs.resolvedFees` are the fees of
  an envelope, in exact arithmetic;
* **`Quantity.toNat_satAdd`**, **`Quantity.toNat_satMul`**: arithmetic that stops at the greatest
  value is exact below it;
* **`TransactionArgs.fees_suit`**: an envelope gets fees of its own kind;
* **`TransactionArgs.fees_of_gasPrice`**, **`TransactionArgs.fees_of_caps`**: fees that are set are
  kept;
* **`TransactionArgs.tip_le_maxFee`**: caps from a base fee are in order. -/

namespace EthClient

/-! ## Arithmetic that stops at the greatest value -/

namespace Quantity

variable {bits : Nat}

/-- **A sum is exact up to the greatest value.** -/
theorem toNat_satAdd (a b : Quantity bits) :
    (a.satAdd b).toNat = min (2 ^ bits - 1) (a.toNat + b.toNat) := by
  have ha := a.isLt
  unfold satAdd
  by_cases h : 2 ^ bits ≤ a.toNat + b.toNat
  · rw [if_pos (by simpa [BitVec.uaddOverflow] using h), BitVec.toNat_allOnes]
    omega
  · rw [if_neg (by simpa [BitVec.uaddOverflow] using h), BitVec.toNat_add,
      Nat.mod_eq_of_lt (by omega)]
    omega

/-- **A product is exact up to the greatest value.** -/
theorem toNat_satMul (a b : Quantity bits) :
    (a.satMul b).toNat = min (2 ^ bits - 1) (a.toNat * b.toNat) := by
  unfold satMul
  by_cases h : 2 ^ bits ≤ a.toNat * b.toNat
  · rw [if_pos (by simpa [BitVec.umulOverflow] using h), BitVec.toNat_allOnes]
    omega
  · rw [if_neg (by simpa [BitVec.umulOverflow] using h), BitVec.toNat_mul,
      Nat.mod_eq_of_lt (by omega)]
    omega

end Quantity

/-! ## The strategy -/

/-- The fees of a transaction: one price, or a cap on the whole fee and one on the tip. -/
inductive Fees where
  | single (price : Amount)
  | capped (maxFee tip : Amount)
  deriving DecidableEq

/-- The cap on the whole fee must not be below the one on the tip. -/
def Fees.check : Fees → Except PopulateError Unit
  | .single _ => .ok ()
  | .capped maxFee tip => if maxFee < tip then .error (.feeOrdering maxFee tip) else .ok ()

namespace TransactionArgs

/-- The envelope: the one that is set. If none is set, a base fee means caps. Without a base fee,
caps that are set are an error, and an access list decides between the other two envelopes. -/
def resolvedType (a : TransactionArgs) (baseFee : Option Amount) : Except PopulateError TxType :=
  match a.txType, baseFee with
  | some type, _ => .ok type
  | none, some _ => .ok .dynamicFee
  | none, none =>
    match a.maxFee, a.maxPriorityFee with
    | none, none => .ok (if a.accessList.isSome then .accessList else .legacy)
    | _, _ => .error .feeMarketUnsupported

/-- The price that the node tells. -/
def quoted (told : Except ProviderError Amount) : Except PopulateError Amount :=
  told.mapError fun e => .reader "fetching gas price" (.provider e)

/-- The exact value of `2 * fee + tip`, as far as there is room for it. -/
def twiceAndTip (fee tip : Amount) : Amount :=
  .ofNat (min (2 ^ 256 - 1) (2 * fee.toNat + tip.toNat))

/-- The fees of an envelope. Caps come from a single price that is set; or else from the base fee,
with a tip of one and a half billion wei unless there is one; or else from the price that the node
tells. A single price is the one that is set or told, and caps that are set are an error then. -/
def resolvedFees (a : TransactionArgs) (baseFee : Option Amount)
    (told : Except ProviderError Amount) : TxType → Except PopulateError Fees
  | .dynamicFee =>
    match a.gasPrice, baseFee with
    | some price, _ => .ok (.capped price price)
    | none, some fee =>
      let tip := a.maxPriorityFee.getD 1500000000
      .ok (.capped (a.maxFee.getD (twiceAndTip fee tip)) tip)
    | none, none =>
      match a.maxFee, a.maxPriorityFee with
      | some maxFee, some tip => .ok (.capped maxFee tip)
      | maxFee, tip => (quoted told).map fun price => .capped (maxFee.getD price) (tip.getD price)
  | .legacy | .accessList =>
    match a.hasFeeMarketFields, a.gasPrice with
    | true, _ => .error .feeMarketFieldsOnLegacy
    | false, some price => .ok (.single price)
    | false, none => (quoted told).map .single

/-- The arguments with these fees instead of their own. -/
def withFees (a : TransactionArgs) : Fees → TransactionArgs
  | .single price => { a with gasPrice := some price }
  | .capped maxFee tip =>
    { a with gasPrice := none, maxFee := some maxFee, maxPriorityFee := some tip }

/-- The arguments with an envelope and its fees. -/
def priced (a : TransactionArgs) (type : TxType) (fees : Fees) : TransactionArgs :=
  { a with txType := some type }.withFees fees

/-- The fees that are set, if they are the fees of one envelope and nothing else. -/
def fees? (a : TransactionArgs) : Option Fees :=
  match a.gasPrice, a.maxFee, a.maxPriorityFee with
  | some price, none, none => some (.single price)
  | none, some maxFee, some tip => some (.capped maxFee tip)
  | _, _, _ => none

/-- The envelope and its fees. -/
def feeStrategy (a : TransactionArgs) (baseFee : Option Amount)
    (told : Except ProviderError Amount) : Except PopulateError (TxType × Fees) :=
  (a.resolvedType baseFee).bind fun type =>
    (a.resolvedFees baseFee told type).map fun fees => (type, fees)

/-- The fees go with an envelope: caps with the one for them, and a single price with the other two,
where no cap is set beside it. -/
def Suits (a : TransactionArgs) (type : TxType) : Fees → Prop
  | .single _ => type ≠ .dynamicFee ∧ a.hasFeeMarketFields = false
  | .capped .. => type = .dynamicFee

/-- A single price is set beside a cap. -/
def hasConflict (a : TransactionArgs) : Prop := a.gasPrice.isSome ∧ a.hasFeeMarketFields

/-! ## The fees of an envelope, case by case -/

variable {a : TransactionArgs} {baseFee : Option Amount} {told : Except ProviderError Amount}
variable {type : TxType} {fees : Fees} {e : PopulateError}

/-- Without caps both of them are missing. -/
theorem caps_eq_none (h : a.hasFeeMarketFields = false) :
    a.maxFee = none ∧ a.maxPriorityFee = none := by
  unfold hasFeeMarketFields at h
  simpa using h

/-- A cap is an error beside a single price. -/
theorem resolvedFees_of_caps (h : a.hasFeeMarketFields = true)
    (baseFee : Option Amount) (told : Except ProviderError Amount) :
    a.resolvedFees baseFee told .legacy = .error .feeMarketFieldsOnLegacy := by
  unfold resolvedFees
  rw [h]

/-- A single price that is set decides both caps. -/
theorem resolvedFees_of_some {price : Amount} (h : a.gasPrice = some price)
    (baseFee : Option Amount) (told : Except ProviderError Amount) :
    a.resolvedFees baseFee told .dynamicFee = .ok (.capped price price) := by
  unfold resolvedFees
  rw [h]

/-- A cap that is missing without a base fee is the price that is told. -/
theorem resolvedFees_of_lacksCap (hprice : a.gasPrice = none)
    (h : a.lacksCap = true) (told : Except ProviderError Amount) :
    a.resolvedFees none told .dynamicFee = (quoted told).map fun price =>
      .capped (a.maxFee.getD price) (a.maxPriorityFee.getD price) := by
  unfold lacksCap at h
  unfold resolvedFees
  rw [hprice]
  cases hmax : a.maxFee with
  | none => rfl
  | some maxFee =>
    cases htip : a.maxPriorityFee with
    | none => rfl
    | some tip =>
      rw [hmax, htip] at h
      cases h

/-- Caps that are both set stay without a base fee. -/
theorem exists_capped_of_not_lacksCap (hprice : a.gasPrice = none)
    (h : a.lacksCap = false) (told : Except ProviderError Amount) :
    ∃ maxFee tip, a = a.withFees (.capped maxFee tip) ∧
      a.resolvedFees none told .dynamicFee = .ok (.capped maxFee tip) := by
  unfold lacksCap at h
  rw [Bool.or_eq_false_iff] at h
  obtain ⟨maxFee, hmax⟩ := Option.isSome_iff_exists.mp (by simpa using h.1 : a.maxFee.isSome)
  obtain ⟨tip, htip⟩ := Option.isSome_iff_exists.mp (by simpa using h.2 : a.maxPriorityFee.isSome)
  refine ⟨maxFee, tip, ?_, ?_⟩
  · rw [withFees, ← hprice, ← hmax, ← htip]
  · unfold resolvedFees
    rw [hprice, hmax, htip]

/-- There is no wrapping around. -/
theorem toNat_twiceAndTip (fee tip : Amount) :
    (twiceAndTip fee tip).toNat = min (2 ^ 256 - 1) (2 * fee.toNat + tip.toNat) := by
  have hroom : min (2 ^ 256 - 1) (2 * fee.toNat + tip.toNat) < 2 ^ 256 := by omega
  rw [twiceAndTip, Quantity.ofNat, BitVec.toNat_ofNat, Nat.mod_eq_of_lt hroom]

/-- Fees that are made of the price that is told are there if it was told. -/
theorem quoted_map_eq_ok {f : Amount → Fees} (h : (quoted told).map f = .ok fees) :
    ∃ price, fees = f price := by
  cases told with
  | ok price => exact ⟨price, (Except.ok.inj h).symm⟩
  | error cause => cases h

/-- They fail as the question did. -/
theorem quoted_map_eq_error {f : Amount → Fees} (h : (quoted told).map f = .error e) :
    ∃ cause, e = .reader "fetching gas price" (.provider cause) := by
  cases told with
  | ok price => cases h
  | error cause =>
    cases h
    exact ⟨cause, rfl⟩

/-! ## What it comes to -/

/-- The only error of the envelope. -/
theorem resolvedType_error (h : a.resolvedType baseFee = .error e) : e = .feeMarketUnsupported := by
  unfold resolvedType at h
  split at h
  · cases h
  · cases h
  · split at h
    · cases h
    · exact (Except.error.inj h).symm

/-- The errors of its fees. -/
theorem resolvedFees_error (h : a.resolvedFees baseFee told type = .error e) :
    e = .feeMarketFieldsOnLegacy ∨
      ∃ cause, e = .reader "fetching gas price" (.provider cause) := by
  unfold resolvedFees at h
  split at h
  -- the envelope with caps
  · split at h
    · cases h
    · cases h
    · split at h
      · cases h
      · exact .inr (quoted_map_eq_error h)
  -- the envelopes with a single price
  all_goals
    split at h
    · exact .inl (Except.error.inj h).symm
    · cases h
    · exact .inr (quoted_map_eq_error h)

/-- **Fees go with their envelope.** -/
theorem fees_suit (h : a.resolvedFees baseFee told type = .ok fees) : a.Suits type fees := by
  unfold resolvedFees at h
  split at h
  -- whatever the caps are made of, they are caps
  · split at h
    · cases h
      rfl
    · cases h
      rfl
    · split at h
      · cases h
        rfl
      · obtain ⟨price, rfl⟩ := quoted_map_eq_ok h
        rfl
  -- a single price was resolved where no cap is set
  all_goals
    split at h
    · cases h
    · rename_i hcaps _
      cases h
      exact ⟨nofun, hcaps⟩
    · rename_i hcaps _
      obtain ⟨price, rfl⟩ := quoted_map_eq_ok h
      exact ⟨nofun, hcaps⟩

/-- A strategy fails with its envelope, or with the fees of the envelope, or comes to both. -/
theorem feeStrategy_cases (a : TransactionArgs) (baseFee : Option Amount)
    (told : Except ProviderError Amount) :
    (∃ e, a.resolvedType baseFee = .error e ∧ a.feeStrategy baseFee told = .error e) ∨
      (∃ type e, a.resolvedFees baseFee told type = .error e ∧
        a.feeStrategy baseFee told = .error e) ∨
      ∃ type fees, a.resolvedType baseFee = .ok type ∧
        a.resolvedFees baseFee told type = .ok fees ∧
        a.feeStrategy baseFee told = .ok (type, fees) := by
  unfold feeStrategy
  cases htype : a.resolvedType baseFee with
  | error e => exact .inl ⟨e, rfl, rfl⟩
  | ok type =>
    rw [Except.bind]
    cases hfees : a.resolvedFees baseFee told type with
    | error e => exact .inr (.inl ⟨type, e, hfees, rfl⟩)
    | ok fees => exact .inr (.inr ⟨type, fees, rfl, hfees, rfl⟩)

/-- The errors of a strategy. -/
theorem feeStrategy_error (h : a.feeStrategy baseFee told = .error e) :
    e = .feeMarketUnsupported ∨ e = .feeMarketFieldsOnLegacy ∨
      ∃ cause, e = .reader "fetching gas price" (.provider cause) := by
  rcases feeStrategy_cases a baseFee told with ⟨_, htype, heq⟩ | ⟨_, _, hfees, heq⟩ |
    ⟨_, _, -, -, heq⟩
  · cases heq.symm.trans h
    exact .inl (resolvedType_error htype)
  · cases heq.symm.trans h
    exact .inr (resolvedFees_error hfees)
  · cases heq.symm.trans h

/-- What a strategy comes to is an envelope and its fees. -/
theorem feeStrategy_ok (h : a.feeStrategy baseFee told = .ok (type, fees)) :
    a.resolvedType baseFee = .ok type ∧ a.resolvedFees baseFee told type = .ok fees := by
  rcases feeStrategy_cases a baseFee told with ⟨_, -, heq⟩ | ⟨_, _, -, heq⟩ |
    ⟨_, _, htype, hfees, heq⟩
  · cases heq.symm.trans h
  · cases heq.symm.trans h
  · cases heq.symm.trans h
    exact ⟨htype, hfees⟩

/-! ## What it keeps -/

/-- Behind the fees of an envelope no other ones are set. -/
theorem fees?_priced (h : a.resolvedFees baseFee told type = .ok fees) :
    (a.priced type fees).fees? = some fees := by
  have hsuit := fees_suit h
  cases fees with
  | single price =>
    obtain ⟨hmax, htip⟩ := caps_eq_none hsuit.2
    unfold fees? priced withFees
    dsimp only
    rw [hmax, htip]
  | capped maxFee tip => rfl

/-- A single price is set alone. -/
theorem of_fees?_single {price : Amount} (h : a.fees? = some (.single price)) :
    a.gasPrice = some price ∧ a.maxFee = none ∧ a.maxPriorityFee = none := by
  unfold fees? at h
  split at h
  · rename_i hprice hmax htip
    cases h
    exact ⟨hprice, hmax, htip⟩
  · cases h
  · cases h

/-- Caps are set without a single price. -/
theorem of_fees?_capped {maxFee tip : Amount} (h : a.fees? = some (.capped maxFee tip)) :
    a.gasPrice = none ∧ a.maxFee = some maxFee ∧ a.maxPriorityFee = some tip := by
  unfold fees? at h
  split at h
  · cases h
  · rename_i hprice hmax htip
    cases h
    exact ⟨hprice, hmax, htip⟩
  · cases h

/-- The envelope that is set is resolved. -/
theorem type_eq_of_set {t : TxType} (h : a.resolvedType baseFee = .ok type)
    (ht : a.txType = some t) : type = t := by
  unfold resolvedType at h
  rw [ht] at h
  exact (Except.ok.inj h).symm

/-- The envelope with the fewest fields is resolved only where there is no access list, unless it is
set. -/
theorem accessList_of_legacy (h : a.resolvedType baseFee = .ok .legacy)
    (ht : a.txType ≠ some .legacy) : a.accessList = none := by
  unfold resolvedType at h
  split at h
  · rename_i htype
    cases h
    exact absurd htype ht
  · cases h
  · split at h
    · cases hlist : a.accessList with
      | none => rfl
      | some l =>
        rw [hlist] at h
        cases h
    · cases h

/-- **A price that is set is kept**, as both caps where the envelope has caps. -/
theorem fees_of_gasPrice {price : Amount} (h : a.resolvedFees baseFee told type = .ok fees)
    (hprice : a.gasPrice = some price) :
    fees = if type = .dynamicFee then .capped price price else .single price := by
  unfold resolvedFees at h
  rw [hprice] at h
  cases type with
  | dynamicFee => exact (Except.ok.inj h).symm
  | legacy | accessList =>
    cases hcaps : a.hasFeeMarketFields with
    | true =>
      rw [hcaps] at h
      cases h
    | false =>
      rw [hcaps] at h
      exact (Except.ok.inj h).symm

/-- **Caps that are set are kept.** -/
theorem fees_of_caps (h : a.resolvedFees baseFee told type = .ok fees) (hone : ¬ a.hasConflict)
    (hcaps : a.hasFeeMarketFields = true) :
    ∃ maxFee tip, fees = .capped (a.maxFee.getD maxFee) (a.maxPriorityFee.getD tip) := by
  cases fees with
  | single price =>
    cases hcaps.symm.trans (fees_suit h).2
  | capped maxFee tip =>
    obtain rfl : type = .dynamicFee := fees_suit h
    have hprice : a.gasPrice = none := by
      cases hprice : a.gasPrice with
      | none => rfl
      | some price => exact absurd ⟨by rw [hprice]; rfl, hcaps⟩ hone
    cases baseFee with
    | some fee =>
      unfold resolvedFees at h
      rw [hprice] at h
      exact ⟨_, _, (Except.ok.inj h).symm⟩
    | none =>
      cases hlacks : a.lacksCap with
      | true =>
        rw [resolvedFees_of_lacksCap hprice hlacks] at h
        obtain ⟨price, hfees⟩ := quoted_map_eq_ok h
        exact ⟨price, price, hfees⟩
      | false =>
        obtain ⟨maxFee', tip', ha, hfees⟩ := exists_capped_of_not_lacksCap hprice hlacks told
        obtain ⟨rfl, rfl⟩ := Fees.capped.inj (Except.ok.inj (hfees.symm.trans h))
        rw [ha]
        exact ⟨0, 0, rfl⟩

/-- **With a base fee the cap on the whole fee leaves room for the tip**, unless it is set. -/
theorem tip_le_maxFee {fee maxFee tip : Amount} (hmax : a.maxFee = none)
    (h : a.resolvedFees (some fee) told type = .ok (.capped maxFee tip)) : tip ≤ maxFee := by
  obtain rfl : type = .dynamicFee := fees_suit h
  cases hprice : a.gasPrice with
  | some price =>
    rw [resolvedFees_of_some hprice] at h
    obtain ⟨rfl, rfl⟩ := Fees.capped.inj (Except.ok.inj h)
    exact BitVec.le_refl price
  | none =>
    unfold resolvedFees at h
    rw [hprice, hmax] at h
    obtain ⟨rfl, rfl⟩ := Fees.capped.inj (Except.ok.inj h)
    have htip := (a.maxPriorityFee.getD 1500000000).isLt
    rw [Option.getD_none, BitVec.le_def, toNat_twiceAndTip]
    omega

end TransactionArgs

/-- Only caps fail the check, and they do if they are not in order. -/
theorem Fees.check_eq_error {fees : Fees} {e : PopulateError} :
    fees.check = .error e ↔
      ∃ maxFee tip, fees = .capped maxFee tip ∧ maxFee < tip ∧ e = .feeOrdering maxFee tip := by
  cases fees with
  | single price =>
    constructor
    · intro h
      cases h
    · rintro ⟨_, _, h, -⟩
      cases h
  | capped maxFee tip =>
    rw [Fees.check]
    by_cases hlt : maxFee < tip
    · rw [if_pos hlt]
      constructor
      · intro h
        exact ⟨maxFee, tip, rfl, hlt, (Except.error.inj h).symm⟩
      · rintro ⟨_, _, h, -, rfl⟩
        obtain ⟨rfl, rfl⟩ := Fees.capped.inj h
        rfl
    · rw [if_neg hlt]
      constructor
      · intro h
        cases h
      · rintro ⟨_, _, h, hlt', -⟩
        obtain ⟨rfl, rfl⟩ := Fees.capped.inj h
        exact absurd hlt' hlt

end EthClient
