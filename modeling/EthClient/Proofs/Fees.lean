import EthClient.Proofs.FeeStrategy
import EthClient.Proofs.Outcome

/-! # Population follows the fee strategy

A reader that knows the latest block tells something about fees (`Reader.TellsFees`), and the steps
of population that set envelope and fees do what the strategy says about it.

* **`Populating.ends_setFees`**: the step sets envelope and fees of the strategy and checks them;
* **`TransactionArgs.populate_resolves_fees`**: so they are what population ends with. -/

namespace EthClient

/-- What population is told about fees when it begins in this environment: a latest block with this
base fee, and, if it then asks for the price of gas, this answer. -/
structure Reader.TellsFees {σ : Type} (reader : Reader σ) (a : TransactionArgs) (env : Env σ)
    (baseFee : Option Amount) (told : Except ProviderError Amount) : Prop where
  head : ∃ block, ((reader.ask (.blockByNumber .latest false)).run env).1 = .ok (some block) ∧
    block.baseFee = baseFee
  price : ∀ type, a.resolvedType baseFee = .ok type →
    ((reader.ask .gasPrice).run ((report (.resolvedType type baseFee) : Action σ Unit)
      ((reader.ask (.blockByNumber .latest false)).run env).2).2).1 = told

/-- Whatever a reader answers, it tells something about fees once it knows the latest block. -/
theorem Reader.exists_tellsFees {σ : Type} {reader : Reader σ} (a : TransactionArgs) {env : Env σ}
    {block : Block}
    (h : ((reader.ask (.blockByNumber .latest false)).run env).1 = .ok (some block)) :
    ∃ told, reader.TellsFees a env block.baseFee told := by
  cases htype : a.resolvedType block.baseFee with
  | error e =>
    refine ⟨.error .cancelled, ⟨block, h, rfl⟩, fun type htype' => ?_⟩
    cases htype.symm.trans htype'
  | ok type =>
    let asked := (report (.resolvedType type block.baseFee) : Action σ Unit)
      ((reader.ask (.blockByNumber .latest false)).run env).2
    refine ⟨((reader.ask .gasPrice).run asked.2).1, ⟨block, h, rfl⟩, fun type' htype' => ?_⟩
    cases htype.symm.trans htype'
    rfl

/-! ## Population follows it -/

namespace TransactionArgs

/-- The envelope is the resolved one. -/
theorem envelope_eq (a : TransactionArgs) (baseFee : Option Amount) :
    a.envelope baseFee = a.resolvedType baseFee := by
  unfold envelope resolvedType hasFeeMarketFields
  cases a.txType with
  | some type => rfl
  | none =>
    cases baseFee with
    | some fee => rfl
    | none =>
      cases a.maxFee <;> cases a.maxPriorityFee <;> cases a.accessList <;> rfl

/-- A single price that is set becomes both caps. -/
theorem priceToCaps_of_some {a : TransactionArgs} {price : Amount} (h : a.gasPrice = some price) :
    a.priceToCaps = a.withFees (.capped price price) := by
  rw [priceToCaps, h]
  rfl

/-- Without a single price the arguments stay. -/
theorem priceToCaps_of_none {a : TransactionArgs} (h : a.gasPrice = none) : a.priceToCaps = a := by
  rw [priceToCaps, h]

/-- **Two steps that stop at the greatest value come to one exact value** that stops there. -/
theorem satAdd_satMul_two (fee tip : Amount) :
    (fee.satMul 2).satAdd tip = twiceAndTip fee tip := by
  apply BitVec.eq_of_toNat_eq
  rw [Quantity.toNat_satAdd, Quantity.toNat_satMul, toNat_twiceAndTip,
    show (2 : Amount).toNat = 2 from rfl]
  omega

end TransactionArgs

namespace Populating

variable {σ : Type} {reader : Reader σ} {env : Env σ} {a : TransactionArgs}
variable {told : Except ProviderError Amount}

/-- Fees that were resolved are set and then checked. If they were not resolved, nothing is set. -/
def Settles (a : TransactionArgs) (resolved : Except PopulateError Fees)
    (r : Except PopulateError Unit) (b : TransactionArgs) : Prop :=
  match resolved with
  | .ok fees => r = fees.check ∧ b = a.withFees fees
  | .error e => r = .error e ∧ b = a

/-- **The single price is resolved.** -/
theorem ends_setPrice (htold : ((reader.ask .gasPrice).run env).1 = told)
    (baseFee : Option Amount) {type : TxType} (htype : type = .legacy ∨ type = .accessList) :
    Ends (setPrice reader) a env fun r b _ =>
      Settles a (a.resolvedFees baseFee told type) r b := by
  -- the strategy does not tell the two envelopes apart
  have hsingle : a.resolvedFees baseFee told type = a.resolvedFees baseFee told .legacy := by
    rcases htype with rfl | rfl <;> rfl
  rw [hsingle]
  unfold setPrice
  refine .get ?_
  cases hcaps : a.hasFeeMarketFields with
  | true =>
    rw [TransactionArgs.resolvedFees_of_caps hcaps]
    exact ⟨rfl, rfl⟩
  | false =>
    unfold TransactionArgs.resolvedFees
    rw [hcaps]
    refine .get ?_
    dsimp only
    cases hprice : a.gasPrice with
    | some price =>
      have hsame : a = a.withFees (.single price) := by rw [TransactionArgs.withFees, ← hprice]
      exact ⟨rfl, hsame⟩
    | none =>
      refine ends_ask (Prod.ext htold rfl) ?_ ?_
      · rintro price rfl
        exact ⟨rfl, rfl⟩
      · rintro e rfl
        exact ⟨rfl, rfl⟩

/-- **The caps are resolved.** -/
theorem ends_setCaps (htold : ((reader.ask .gasPrice).run env).1 = told)
    (baseFee : Option Amount) :
    Ends (setCaps reader baseFee) a env fun r b _ =>
      Settles a (a.resolvedFees baseFee told .dynamicFee) r b := by
  -- all ways end with a check of the caps that were set
  have hcheck {b : TransactionArgs} {env : Env σ} {maxFee tip : Amount}
      (hb : b = a.withFees (.capped maxFee tip)) :
      Ends orderCaps b env fun r b _ => Settles a (.ok (.capped maxFee tip)) r b := by
    rw [Ends, run_orderCaps]
    have hcaps : b.checkCaps = (Fees.capped maxFee tip).check := by
      rw [hb]
      rfl
    exact ⟨hcaps, hb⟩
  rw [setCaps_eq]
  refine ends_modify ?_
  cases hprice : a.gasPrice with
  | some price =>
    -- nothing is missing any more
    rw [TransactionArgs.resolvedFees_of_some hprice, TransactionArgs.priceToCaps_of_some hprice]
    cases baseFee with
    | some fee => exact ends_modify (hcheck rfl)
    | none =>
      unfold fillCaps
      rw [bind_assoc]
      exact .get (hcheck rfl)
  | none =>
    rw [TransactionArgs.priceToCaps_of_none hprice]
    cases baseFee with
    | some fee =>
      unfold TransactionArgs.resolvedFees
      rw [hprice]
      refine ends_modify (hcheck ?_)
      rw [TransactionArgs.capsFromBaseFee, TransactionArgs.satAdd_satMul_two,
        TransactionArgs.withFees, hprice]
      rfl
    | none =>
      unfold fillCaps
      rw [bind_assoc]
      refine .get ?_
      cases hlacks : a.lacksCap with
      | true =>
        -- the price that is told stands for the caps that are missing
        rw [TransactionArgs.resolvedFees_of_lacksCap hprice hlacks, if_pos rfl, bind_assoc]
        refine ends_ask (Prod.ext htold rfl) ?_ ?_
        · rintro price rfl
          refine ends_modify (hcheck ?_)
          rw [TransactionArgs.capsFromPrice, TransactionArgs.withFees, hprice]
        · rintro e rfl
          exact ⟨rfl, rfl⟩
      | false =>
        obtain ⟨maxFee, tip, hcaps, hresolved⟩ :=
          TransactionArgs.exists_capped_of_not_lacksCap hprice hlacks told
        rw [hresolved]
        exact hcheck hcaps

/-- Envelope and fees are those of a strategy, which are set and then checked; or the step fails as
the strategy does. -/
def Follows (a : TransactionArgs) (strategy : Except PopulateError (TxType × Fees))
    (r : Except PopulateError Unit) (b : TransactionArgs) : Prop :=
  (∃ e, strategy = .error e ∧ r = .error e) ∨
    ∃ type fees, strategy = .ok (type, fees) ∧ r = fees.check ∧ b = a.priced type fees

/-- The fees of the resolved envelope are those of the strategy. -/
theorem Settles.follows {baseFee : Option Amount} {type : TxType} {r : Except PopulateError Unit}
    {b : TransactionArgs} (htype : a.resolvedType baseFee = .ok type)
    (h : Settles { a with txType := some type } (a.resolvedFees baseFee told type) r b) :
    Follows a (a.feeStrategy baseFee told) r b := by
  rw [TransactionArgs.feeStrategy, htype, Except.bind]
  cases hfees : a.resolvedFees baseFee told type with
  | error e =>
    rw [hfees] at h
    exact .inl ⟨e, rfl, h.1⟩
  | ok fees =>
    rw [hfees] at h
    exact .inr ⟨type, fees, rfl, h.1, h.2⟩

/-- **Envelope and fees are set as the strategy says.** -/
theorem ends_setFees {baseFee : Option Amount} (htold : reader.TellsFees a env baseFee told)
    (hone : ¬ a.hasConflict) :
    Ends (setFees reader) a env fun r b _ => Follows a (a.feeStrategy baseFee told) r b := by
  obtain ⟨block, hhead, rfl⟩ := htold.head
  unfold setFees
  refine .get ?_
  dsimp only
  split
  · rename_i hboth
    exact absurd (Bool.and_eq_true_iff.mp hboth) hone
  · refine ends_ask rfl ?_ ?_
    · intro head hanswer
      obtain rfl := Except.ok.inj (hanswer.symm.trans hhead)
      dsimp only
      rw [a.envelope_eq]
      cases htype : a.resolvedType block.baseFee with
      | error e =>
        refine .inl ⟨e, ?_, rfl⟩
        rw [TransactionArgs.feeStrategy, htype, Except.bind]
      | ok type =>
        refine ends_lift (ends_modify ?_)
        -- the envelope that was set changes nothing about the fees
        refine Ends.mono ?_ fun r b _ h => Settles.follows htype h
        have hprice := htold.price type htype
        cases type with
        | dynamicFee => exact ends_setCaps hprice block.baseFee
        | legacy => exact ends_setPrice hprice block.baseFee (.inl rfl)
        | accessList => exact ends_setPrice hprice block.baseFee (.inr rfl)
    · intro e hanswer
      cases hanswer.symm.trans hhead

/-- **Before anything is told about fees**, prices of both kinds are an error, and so is a latest
block that is missing. -/
theorem ends_setFees_early (reader : Reader σ) (a : TransactionArgs) (env : Env σ) :
    Ends (setFees reader) a env (fun r _ _ => ∃ e, r = .error e ∧ e ≠ .incomplete) ∨
      ¬ a.hasConflict ∧ ∃ baseFee told, reader.TellsFees a env baseFee told := by
  by_cases hone : a.hasConflict
  · refine .inl ?_
    unfold setFees
    refine .get ?_
    dsimp only
    rw [if_pos (Bool.and_eq_true_iff.mpr hone)]
    exact ⟨.conflictingFeeFields, rfl, nofun⟩
  · have hboth : ¬ (a.gasPrice.isSome && a.hasFeeMarketFields) = true :=
      fun h => hone (Bool.and_eq_true_iff.mp h)
    by_cases hhead : ∃ block,
        ((reader.ask (.blockByNumber .latest false)).run env).1 = .ok (some block)
    · obtain ⟨block, hblock⟩ := hhead
      obtain ⟨told, htold⟩ := Reader.exists_tellsFees a hblock
      exact .inr ⟨hone, block.baseFee, told, htold⟩
    · refine .inl ?_
      unfold setFees
      refine .get ?_
      dsimp only
      rw [if_neg hboth]
      refine ends_ask rfl ?_ ?_
      · intro head hanswer
        cases head with
        | none => exact ⟨.chainNotReady, rfl, nofun⟩
        | some block => exact absurd ⟨block, hanswer⟩ hhead
      · intro e _
        exact ⟨_, rfl, nofun⟩

end Populating

/-- How population ends if envelope and fees come from a strategy. -/
inductive Population (a : TransactionArgs) (strategy : Except PopulateError (TxType × Fees))
    (r : Except PopulateError Unit) (b : TransactionArgs) : Prop
  /-- The strategy fails. -/
  | unresolved (e : PopulateError) (hstrategy : strategy = .error e) (hr : r = .error e)
  /-- The caps are not in order. -/
  | disordered (type : TxType) (fees : Fees) (e : PopulateError)
      (hstrategy : strategy = .ok (type, fees)) (hcheck : fees.check = .error e)
      (hr : r = .error e) (hb : b = a.priced type fees)
  /-- The steps behind the fees were taken. -/
  | completed (type : TxType) (fees : Fees) (hstrategy : strategy = .ok (type, fees))
      (hcheck : fees.check = .ok ()) (hb : Completion (a.priced type fees) r b)

namespace Population

variable {a b : TransactionArgs} {baseFee : Option Amount} {told : Except ProviderError Amount}
variable {r : Except PopulateError Unit}

/-- If the strategy fails, then so does population. -/
theorem of_error (h : Population a (a.feeStrategy baseFee told) r b) {e : PopulateError}
    (he : a.feeStrategy baseFee told = .error e) : r = .error e := by
  rcases h with ⟨e', hstrategy, rfl⟩ | ⟨_, _, _, hstrategy, -⟩ | ⟨_, _, hstrategy, -⟩
  · cases hstrategy.symm.trans he
    rfl
  · cases hstrategy.symm.trans he
  · cases hstrategy.symm.trans he

/-- If it does not, then envelope and fees are those of the strategy, and population fails behind
them only. -/
theorem of_ok (h : Population a (a.feeStrategy baseFee told) r b) {type : TxType} {fees : Fees}
    (hfees : a.feeStrategy baseFee told = .ok (type, fees)) :
    b.txType = some type ∧ b.fees? = some fees ∧
      ∀ e, r = .error e → e.IsLate ∨ fees.check = .error e := by
  have hpriced := TransactionArgs.fees?_priced (TransactionArgs.feeStrategy_ok hfees).2
  rcases h with ⟨_, hstrategy, -⟩ | ⟨_, _, e, hstrategy, hcheck, rfl, rfl⟩ |
    ⟨_, _, hstrategy, -, hb⟩
  · cases hstrategy.symm.trans hfees
  · cases hstrategy.symm.trans hfees
    refine ⟨?_, hpriced, fun e' he => ?_⟩
    · cases fees <;> rfl
    · cases he
      exact .inr hcheck
  · cases hstrategy.symm.trans hfees
    rw [hb.kept]
    refine ⟨?_, hpriced, fun e he => .inl (hb.late e he)⟩
    cases fees <;> rfl

/-- **The caps are not in order exactly if the strategy says so.** -/
theorem eq_feeOrdering_iff (h : Population a (a.feeStrategy baseFee told) r b)
    {maxFee tip : Amount} :
    r = .error (.feeOrdering maxFee tip) ↔
      ∃ type, a.feeStrategy baseFee told = .ok (type, .capped maxFee tip) ∧ maxFee < tip := by
  rcases h with ⟨e, hstrategy, rfl⟩ | ⟨type, fees, e, hstrategy, hcheck, rfl, -⟩ |
    ⟨type, fees, hstrategy, hcheck, hb⟩
  -- no strategy fails with this error
  · constructor
    · intro h
      cases h
      rcases TransactionArgs.feeStrategy_error hstrategy with he | he | ⟨cause, he⟩ <;> cases he
    · rintro ⟨type, h, -⟩
      cases hstrategy.symm.trans h
  · obtain ⟨maxFee', tip', rfl, hlt, rfl⟩ := Fees.check_eq_error.mp hcheck
    constructor
    · intro h
      cases h
      exact ⟨type, hstrategy, hlt⟩
    · rintro ⟨type', h, -⟩
      cases hstrategy.symm.trans h
      rfl
  -- neither does a later step
  · constructor
    · intro h
      exact absurd (hb.late _ h) id
    · rintro ⟨type', h, hlt⟩
      cases hstrategy.symm.trans h
      cases (Fees.check_eq_error.mpr ⟨maxFee, tip, rfl, hlt, rfl⟩).symm.trans hcheck

end Population

namespace TransactionArgs

variable {σ : Type} {reader : Reader σ} {env : Env σ} {a : TransactionArgs} {s : Address}
variable {baseFee : Option Amount} {told : Except ProviderError Amount}

/-- **Population takes envelope and fees from the strategy.** -/
theorem populate_follows (hs : a.sender = some s) (hone : ¬ a.hasConflict)
    (htold : reader.TellsFees a env baseFee told) :
    Population a (a.feeStrategy baseFee told) (a.populate reader env).1.1
      (a.populate reader env).1.2 := by
  refine Populating.ends_setAll hs (Populating.ends_setFees htold hone) ?_ ?_
  · intro b env' r c hb hc
    rcases hb with ⟨e, -, he⟩ | ⟨type, fees, hstrategy, hcheck, rfl⟩
    · cases he
    · exact .completed type fees hstrategy hcheck.symm hc
  · intro e b env' hb
    rcases hb with ⟨e, hstrategy, he⟩ | ⟨type, fees, hstrategy, hcheck, hb⟩
    · exact .unresolved e hstrategy he
    · exact .disordered type fees e hstrategy hcheck.symm rfl hb

/-- **However population ends**, it fails before it is told anything about fees, or it takes them
from a strategy. -/
theorem populate_ends (a : TransactionArgs) (reader : Reader σ) (env : Env σ) :
    (∃ e, (a.populate reader env).1.1 = .error e ∧ e ≠ .incomplete) ∨
      a.sender.isSome ∧ ¬ a.hasConflict ∧ ∃ baseFee told,
        Population a (a.feeStrategy baseFee told) (a.populate reader env).1.1
          (a.populate reader env).1.2 := by
  cases hs : a.sender with
  | none =>
    have hends : Populating.Ends (Populating.setAll reader) a env fun r _ _ =>
        r = .error .missingSender := by
      unfold Populating.setAll
      refine .get ?_
      rw [hs]
      rfl
    exact .inl ⟨_, hends, nofun⟩
  | some s =>
    rcases Populating.ends_setFees_early reader a env with hfees | ⟨hone, baseFee, told, htold⟩
    · have hends : Populating.Ends (Populating.setAll reader) a env fun r _ _ =>
          ∃ e, r = .error e ∧ e ≠ .incomplete := by
        refine Populating.ends_setAll hs hfees ?_ fun e b env' he => he
        rintro b env' r c ⟨e, he, -⟩
        cases he
      exact .inl hends
    · exact .inr ⟨rfl, hone, baseFee, told, populate_follows hs hone htold⟩

/-- **Fees are resolved by the strategy.** For arguments with a sender and without a price beside a
cap, and for whatever base fee and price of gas are told: if the strategy fails, then population
fails in the same way. If it does not, then envelope and fees are those of the strategy and no
others, also after a failure, which then comes from a later step or is the check of the caps. The
caps fail this check exactly if the cap on the whole fee is below the one on the tip, and never if
it was left unset and there is a base fee. -/
theorem populate_resolves_fees (hs : a.sender = some s) (hone : ¬ a.hasConflict)
    (htold : reader.TellsFees a env baseFee told) :
    (∀ e, a.feeStrategy baseFee told = .error e → (a.populate reader env).1.1 = .error e) ∧
    (∀ type fees, a.feeStrategy baseFee told = .ok (type, fees) →
      (a.populate reader env).1.2.txType = some type ∧
      (a.populate reader env).1.2.fees? = some fees ∧
      ∀ e, (a.populate reader env).1.1 = .error e → e.IsLate ∨ fees.check = .error e) ∧
    (∀ maxFee tip, (a.populate reader env).1.1 = .error (.feeOrdering maxFee tip) ↔
      ∃ type, a.feeStrategy baseFee told = .ok (type, .capped maxFee tip) ∧ maxFee < tip) ∧
    (baseFee.isSome → a.maxFee = none →
      ∀ maxFee tip, (a.populate reader env).1.1 ≠ .error (.feeOrdering maxFee tip)) := by
  have hends := populate_follows hs hone htold
  refine ⟨fun e h => hends.of_error h, fun type fees h => hends.of_ok h,
    fun maxFee tip => hends.eq_feeOrdering_iff, fun hfee hmax maxFee tip h => ?_⟩
  obtain ⟨fee, rfl⟩ := Option.isSome_iff_exists.mp hfee
  obtain ⟨type, hstrategy, hlt⟩ := hends.eq_feeOrdering_iff.mp h
  exact absurd hlt (BitVec.not_lt.mpr (tip_le_maxFee hmax (feeStrategy_ok hstrategy).2))

end TransactionArgs

/-- A node that always answers alike. -/
def Reader.steady (baseFee : Option Amount) (price : Amount) : Reader Unit where
  ask
    | .blockByNumber .. => pure (some { baseFee })
    | .gasPrice => pure price
    | .transactionCount .. => pure 0
    | .estimateGas .. => pure 21000
    | .chainId => pure (some 1)

/-- It tells its base fee and its price. -/
theorem Reader.tellsFees_steady (baseFee : Option Amount) (price : Amount) (a : TransactionArgs)
    (env : Env Unit) : (Reader.steady baseFee price).TellsFees a env baseFee (.ok price) :=
  ⟨⟨{ baseFee }, rfl, rfl⟩, fun _ _ => rfl⟩

/-- Twice a base fee of `2 ^ 255` has no room, so the cap is the greatest value. -/
theorem TransactionArgs.populate_resolves_fees_greatest :
    let a : TransactionArgs := { sender := some default, maxPriorityFee := some 3 }
    let reader := Reader.steady (some (.ofNat (2 ^ 255))) 7
    a.sender = some default ∧ ¬ a.hasConflict ∧
      reader.TellsFees a { node := () } (some (.ofNat (2 ^ 255))) (.ok 7) ∧
      (a.populate reader { node := () }).1.2.fees? = some (.capped (.ofNat (2 ^ 256 - 1)) 3) := by
  intro a reader
  have hone : ¬ a.hasConflict := by
    rintro ⟨hprice, -⟩
    cases hprice
  have htold := Reader.tellsFees_steady (some (.ofNat (2 ^ 255))) 7 a { node := () }
  have hstrategy : a.feeStrategy (some (.ofNat (2 ^ 255))) (.ok 7)
      = .ok (.dynamicFee, .capped (.ofNat (2 ^ 256 - 1)) 3) := by
    rfl
  exact ⟨rfl, hone, htold,
    ((TransactionArgs.populate_resolves_fees rfl hone htold).2.1 _ _ hstrategy).2.1⟩

end EthClient
