import EthClient.Proofs.Steps

/-! # What population leaves alone

Population sets what is missing and keeps what is set, however it ends. From some arguments to the
ones that it leaves, **`TransactionArgs.Retained`** says so field by field. There is one exception:
in an envelope with caps a single price becomes both of them. What is kept by one step and by the
next one is kept by both (`TransactionArgs.Retained.trans`), so every step is looked at alone.

* **`Populating.ends_settleAs`**: what is set is kept once the envelope is chosen, and none of the
  later errors is an early one;
* **`TransactionArgs.populate_retains`**: so it is kept by population, and before the envelope is
  chosen nothing is changed at all. -/

namespace EthClient

variable {σ α β : Type}

/-! ## Fields -/

/-- What is set stays as it is; what is not set may be set. -/
def Stays (before after : Option α) : Prop := ∀ v, before = some v → after = some v

namespace Stays

variable {x y z : Option α}

/-- Without a change it stays. -/
theorem refl (x : Option α) : Stays x x := fun _ h => h

/-- It stays through two changes. -/
theorem trans (h : Stays x y) (h' : Stays y z) : Stays x z := fun v hv => h' v (h v hv)

/-- What is missing may be set. -/
theorem of_none (hx : x = none) (y : Option α) : Stays x y := by
  subst hx
  exact nofun

/-- A value that stands in for a missing one. -/
theorem getD (x : Option α) (v : α) : Stays x (some (x.getD v)) := by
  rintro w rfl
  rfl

/-- What is still missing was missing before. -/
theorem eq_none (h : Stays x y) (hy : y = none) : x = none := by
  subst hy
  cases x with
  | none => rfl
  | some v => exact (h v rfl).symm

end Stays

namespace TransactionArgs

/-- What population keeps of some arguments. -/
structure Retained (a b : TransactionArgs) : Prop where
  sender : b.sender = a.sender
  recipient : b.recipient = a.recipient
  data : b.data = a.data
  accessList : b.accessList = a.accessList
  gas : Stays a.gas b.gas
  value : Stays a.value b.value
  nonce : Stays a.nonce b.nonce
  chainId : Stays a.chainId b.chainId
  txType : Stays a.txType b.txType
  maxFee : Stays a.maxFee b.maxFee
  maxPriorityFee : Stays a.maxPriorityFee b.maxPriorityFee
  /-- A single price stays, or has become both caps of an envelope with caps. -/
  gasPrice : ∀ price, a.gasPrice = some price → b.gasPrice = some price ∨
    b.txType = some .dynamicFee ∧ b.gasPrice = none ∧ b.maxFee = some price ∧
      b.maxPriorityFee = some price
  /-- A price and a cap do not come together. -/
  noConflict : ¬ a.hasConflict → ¬ b.hasConflict

namespace Retained

variable {a b c : TransactionArgs}

/-- Without a change everything is kept. -/
theorem refl (a : TransactionArgs) : a.Retained a where
  sender := rfl
  recipient := rfl
  data := rfl
  accessList := rfl
  gas := .refl _
  value := .refl _
  nonce := .refl _
  chainId := .refl _
  txType := .refl _
  maxFee := .refl _
  maxPriorityFee := .refl _
  gasPrice _ h := .inl h
  noConflict h := h

/-- **What two changes keep is kept by both together.** -/
theorem trans (h : a.Retained b) (h' : b.Retained c) : a.Retained c where
  sender := h'.sender.trans h.sender
  recipient := h'.recipient.trans h.recipient
  data := h'.data.trans h.data
  accessList := h'.accessList.trans h.accessList
  gas := h.gas.trans h'.gas
  value := h.value.trans h'.value
  nonce := h.nonce.trans h'.nonce
  chainId := h.chainId.trans h'.chainId
  txType := h.txType.trans h'.txType
  maxFee := h.maxFee.trans h'.maxFee
  maxPriorityFee := h.maxPriorityFee.trans h'.maxPriorityFee
  gasPrice price hprice := by
    rcases h.gasPrice price hprice with hprice | ⟨htype, hnone, hmax, htip⟩
    · exact h'.gasPrice price hprice
    · -- beside the caps that the price has become, no price is set again
      have hcaps : c.hasFeeMarketFields = true := by
        rw [hasFeeMarketFields, h'.maxFee price hmax]
        rfl
      have hone : ¬ c.hasConflict := by
        refine h'.noConflict fun hboth => ?_
        rw [hasConflict, hnone] at hboth
        cases hboth.1
      refine .inr ⟨h'.txType _ htype, ?_, h'.maxFee price hmax, h'.maxPriorityFee price htip⟩
      exact Option.not_isSome_iff_eq_none.mp fun hsome => hone ⟨hsome, hcaps⟩
  noConflict hone := h'.noConflict (h.noConflict hone)

/-- Fields that have nothing to do with fees are set where they are missing. -/
theorem of_fields {gas value nonce : Option Amount} {chainId : Option Number64}
    {txType : Option TxType} (hgas : Stays a.gas gas) (hvalue : Stays a.value value)
    (hnonce : Stays a.nonce nonce) (hid : Stays a.chainId chainId)
    (htype : Stays a.txType txType) :
    a.Retained { a with gas, value, nonce, chainId, txType } :=
  { refl a with
    gas := hgas
    value := hvalue
    nonce := hnonce
    chainId := hid
    txType := htype
    gasPrice := fun _ h => .inl h
    noConflict := id }

/-- A value of zero is set where it is missing. -/
theorem of_value (a : TransactionArgs) : a.Retained { a with value := some (a.value.getD 0) } :=
  of_fields (.refl _) (.getD _ _) (.refl _) (.refl _) (.refl _)

/-- Caps are set where they are missing, if there is no price. -/
theorem of_caps {maxFee tip : Option Amount} (hprice : a.gasPrice = none)
    (hmax : Stays a.maxFee maxFee) (htip : Stays a.maxPriorityFee tip) :
    a.Retained { a with maxFee, maxPriorityFee := tip } :=
  { refl a with
    maxFee := hmax
    maxPriorityFee := htip
    gasPrice := fun _ h => .inl h
    noConflict := fun _ hboth => by
      rw [hasConflict, hprice] at hboth
      cases hboth.1 }

/-- A price is set where it is missing, if there are no caps. -/
theorem of_price {price : Amount} (hprice : a.gasPrice = none)
    (hcaps : a.hasFeeMarketFields = false) : a.Retained { a with gasPrice := some price } :=
  { refl a with
    gasPrice := fun _ h => by
      rw [hprice] at h
      cases h
    noConflict := fun _ hboth => by
      have hfields : a.hasFeeMarketFields = true := hboth.2
      rw [hcaps] at hfields
      cases hfields }

/-- A price becomes both caps of an envelope with caps. -/
theorem of_priceToCaps (htype : a.txType = some .dynamicFee) (hone : ¬ a.hasConflict) :
    a.Retained a.priceToCaps := by
  cases hprice : a.gasPrice with
  | none =>
    rw [priceToCaps_of_none hprice]
    exact .refl a
  | some price =>
    -- no cap is overwritten, because none is set beside a price
    obtain ⟨hmax, htip⟩ : a.maxFee = none ∧ a.maxPriorityFee = none := by
      refine caps_eq_none (Bool.eq_false_iff.mpr fun hcaps => hone ⟨?_, hcaps⟩)
      rw [hprice]
      rfl
    rw [priceToCaps_of_some hprice]
    exact { refl a with
      maxFee := .of_none hmax _
      maxPriorityFee := .of_none htip _
      gasPrice := fun price' h => by
        cases hprice.symm.trans h
        exact .inr ⟨htype, rfl, rfl, rfl⟩
      noConflict := fun _ hboth => by cases hboth.1 }

end Retained

/-- The envelope that is chosen is set. It is the one that was set, if one was. -/
theorem Retained.of_envelope {a : TransactionArgs} {baseFee : Option Amount} {type : TxType}
    (h : a.envelope baseFee = .ok type) : a.Retained { a with txType := some type } := by
  refine of_fields (.refl _) (.refl _) (.refl _) (.refl _) fun t ht => ?_
  rw [a.envelope_of_set ht] at h
  rw [Except.ok.inj h]

end TransactionArgs

/-! ## Steps -/

/-- The errors of population before the envelope is chosen, as far as they can be told from later
ones. -/
def PopulateError.IsEarly : PopulateError → Prop
  | .missingSender | .conflictingFeeFields | .feeMarketUnsupported => True
  | .reader purpose _ => purpose = "fetching latest block"
  | _ => False

namespace Populating

open TransactionArgs (Retained)

variable {a : TransactionArgs} {reader : Reader σ}

/-- The step keeps what is set, and its errors are not early. -/
def Retains (m : Populating σ α) (a : TransactionArgs) : Prop :=
  ∀ env, Ends m a env fun r b _ => a.Retained b ∧ ∀ e, r = .error e → ¬ e.IsEarly

/-- The step changes nothing, and its errors are not early. -/
def Reads (m : Populating σ α) (a : TransactionArgs) : Prop :=
  ∀ env, Ends m a env fun r b _ => b = a ∧ ∀ e, r = .error e → ¬ e.IsEarly

/-- **One step after another.** -/
theorem Retains.bind {m : Populating σ α} {f : α → Populating σ β} (h : Retains m a)
    (hf : ∀ x b, a.Retained b → Retains (f x) b) : Retains (m >>= f) a := by
  intro env
  refine (h env).bind ?_ ?_
  · rintro x b env' ⟨hab, -⟩
    exact (hf x b hab env').mono fun r c _ hc => ⟨hab.trans hc.1, hc.2⟩
  · rintro e b _ ⟨hab, hlate⟩
    exact ⟨hab, fun e' he => by cases he; exact hlate e rfl⟩

/-- A change to the arguments. -/
theorem retains_modify {g : TransactionArgs → TransactionArgs} (h : a.Retained (g a)) :
    Retains (modify g : Populating σ Unit) a :=
  fun _ => ⟨h, nofun⟩

/-- A change before a step, which then begins with the changed arguments. -/
theorem retains_modify_bind {g : TransactionArgs → TransactionArgs} {f : Unit → Populating σ α}
    (h : a.Retained (g a)) (hf : Retains (f ()) (g a)) : Retains (modify g >>= f) a := by
  intro env
  exact ends_modify ((hf env).mono fun r b _ hb => ⟨h.trans hb.1, hb.2⟩)

/-- A check before a step, which is taken only if nothing is wrong. -/
theorem retains_refuse_bind {wrong : TransactionArgs → Bool} {e : PopulateError}
    {f : Unit → Populating σ α} (he : ¬ e.IsEarly) (hf : wrong a = false → Retains (f ()) a) :
    Retains (refuse wrong e >>= f) a := by
  intro env
  rw [Ends, ExceptT.run_bind, StateT.run_bind, run_refuse, pure_bind]
  cases hwrong : wrong a with
  | true => exact ⟨.refl a, fun e' he' => by cases he'; exact he⟩
  | false => exact hf hwrong env

/-- A question about anything but the latest block. -/
theorem reads_ask {purpose : String} (hpurpose : purpose ≠ "fetching latest block") (q : Query) :
    Reads (ask reader purpose q) a := by
  intro env
  rcases hrun : (reader.ask q).run env with ⟨answer, env'⟩
  refine (ends_answer purpose hrun).mono ?_
  rintro r b _ ⟨rfl, rfl, -⟩
  refine ⟨rfl, fun e he => ?_⟩
  cases answer with
  | ok v => cases he
  | error cause =>
    cases he
    exact hpurpose

/-- The questions for the next nonce. -/
theorem reads_nextNonce (sender : Address) : Reads (nextNonce reader sender) a := by
  intro env
  unfold nextNonce
  refine ends_lift ?_
  cases ((reader.ask (.transactionCount sender .pending)).run env).1 with
  | ok n => exact ⟨rfl, nofun⟩
  | error e => exact ends_lift (reads_ask (by decide) _ _)

/-- The question for the chain id. -/
theorem reads_tellChainId : Reads (tellChainId reader) a := by
  intro env
  refine (reads_ask (by decide) .chainId env).bind ?_ ?_
  · rintro told b env' ⟨rfl, -⟩
    cases told with
    | none => exact ⟨rfl, fun e he => by cases he; exact id⟩
    | some id => exact ⟨rfl, nofun⟩
  · rintro e b _ ⟨rfl, hlate⟩
    exact ⟨rfl, fun e' he => by cases he; exact hlate e rfl⟩

/-- **A field that is asked for** is stored where it is missing. -/
theorem retains_fetch {missing : TransactionArgs → Bool} {m : TransactionArgs → Populating σ α}
    {store : α → TransactionArgs → TransactionArgs} (hm : Reads (m a) a)
    (hstore : missing a = true → ∀ v, a.Retained (store v a)) :
    Retains (fetch missing m store) a := by
  intro env
  refine .get ?_
  cases hmissing : missing a with
  | false => exact ⟨.refl a, nofun⟩
  | true =>
    refine (hm env).bind ?_ ?_
    · rintro v b _ ⟨rfl, -⟩
      exact ⟨hstore hmissing v, nofun⟩
    · rintro e b _ ⟨rfl, hlate⟩
      exact ⟨.refl b, fun e' he => by cases he; exact hlate e rfl⟩

/-- The single price. -/
theorem retains_setPrice : Retains (setPrice reader) a := by
  rw [setPrice_eq]
  refine retains_refuse_bind id fun hcaps => retains_fetch (reads_ask (by decide) _) ?_
  exact fun hnone _ => .of_price (Option.isNone_iff_eq_none.mp hnone) hcaps

/-- The caps that are missing. -/
theorem retains_fillCaps (hprice : a.gasPrice = none) (baseFee : Option Amount) :
    Retains (fillCaps reader baseFee) a := by
  cases baseFee with
  | some fee => exact retains_modify (.of_caps hprice (.getD _ _) (.getD _ _))
  | none =>
    rw [fillCaps_none_eq]
    exact retains_fetch (reads_ask (by decide) _) fun _ _ =>
      .of_caps hprice (.getD _ _) (.getD _ _)

/-- The check of the caps. -/
theorem retains_orderCaps : Retains (orderCaps : Populating σ Unit) a := by
  intro env
  rw [Ends, run_orderCaps]
  refine ⟨.refl a, fun e he => ?_⟩
  obtain ⟨maxFee, tip, rfl⟩ : ∃ maxFee tip, e = .feeOrdering maxFee tip := by
    have hcheck : a.checkCaps = .error e := he
    unfold TransactionArgs.checkCaps at hcheck
    split at hcheck
    · split at hcheck
      · exact ⟨_, _, (Except.error.inj hcheck).symm⟩
      · cases hcheck
    · cases hcheck
  exact id

/-- The caps. -/
theorem retains_setCaps (htype : a.txType = some .dynamicFee) (hone : ¬ a.hasConflict)
    (baseFee : Option Amount) : Retains (setCaps reader baseFee) a := by
  rw [setCaps_eq]
  refine retains_modify_bind (.of_priceToCaps htype hone) ?_
  exact (retains_fillCaps a.gasPrice_priceToCaps baseFee).bind fun _ _ _ => retains_orderCaps

/-- The fees of the envelope. -/
theorem retains_setPrices {type : TxType} (htype : a.txType = some type) (hone : ¬ a.hasConflict)
    (baseFee : Option Amount) : Retains (setPrices reader baseFee type) a := by
  cases type with
  | dynamicFee => exact retains_setCaps htype hone baseFee
  | legacy | accessList => exact retains_setPrice

/-- The nonce. -/
theorem retains_setNonce (sender : Address) : Retains (setNonce reader sender) a := by
  rw [setNonce_eq]
  exact retains_fetch (reads_nextNonce sender) fun hnone _ =>
    .of_fields (.refl _) (.refl _) (.of_none (Option.isNone_iff_eq_none.mp hnone) _) (.refl _)
      (.refl _)

/-- The gas. -/
theorem retains_setGas : Retains (setGas reader) a := by
  rw [setGas_eq]
  exact retains_fetch (reads_ask (by decide) _) fun hnone _ =>
    .of_fields (.of_none (Option.isNone_iff_eq_none.mp hnone) _) (.refl _) (.refl _) (.refl _)
      (.refl _)

/-- The chain id. -/
theorem retains_setChainId : Retains (setChainId reader) a := by
  rw [setChainId_eq]
  exact retains_fetch reads_tellChainId fun hnone _ =>
    .of_fields (.refl _) (.refl _) (.refl _) (.of_none (Option.isNone_iff_eq_none.mp hnone) _)
      (.refl _)

/-- **What is behind the fees.** -/
theorem retains_complete (sender : Address) : Retains (complete reader sender) a := by
  unfold complete
  refine retains_modify_bind (.of_value a) ?_
  exact (retains_setNonce sender).bind fun _ _ _ => retains_refuse_bind id fun _ =>
    retains_setGas.bind fun _ _ _ => retains_setChainId

/-- **Once the envelope is chosen** it stays, and what was set is kept. -/
theorem ends_settleAs {baseFee : Option Amount} {type : TxType}
    (htype : a.envelope baseFee = .ok type) (hone : ¬ a.hasConflict) (reader : Reader σ)
    (sender : Address) (env : Env σ) :
    Ends (settleAs reader sender baseFee type) a env fun r b _ =>
      a.Retained b ∧ b.txType = some type ∧ ∀ e, r = .error e → ¬ e.IsEarly := by
  unfold settleAs chooseFees
  rw [bind_assoc]
  refine ends_modify ?_
  have hset : a.Retained { a with txType := some type } := .of_envelope htype
  have hrest : Retains (setPrices reader baseFee type >>= fun _ => complete reader sender)
      { a with txType := some type } :=
    (retains_setPrices rfl (hset.noConflict hone) baseFee).bind fun _ _ _ =>
      retains_complete sender
  exact (hrest env).mono fun r b _ hb => ⟨hset.trans hb.1, hb.1.txType _ rfl, hb.2⟩

end Populating

namespace TransactionArgs

/-- **Population never overwrites what is set**, however it ends. What it leaves is unchanged unless
the latest block was told; then it has the envelope that is resolved with the base fee of this
block, so that a single price has become both caps only if this is the envelope with caps. After an
early error, and whenever the latest block was not told, nothing is changed. -/
theorem populate_retains (a : TransactionArgs) (reader : Reader σ) (env : Env σ) :
    let head := ((reader.ask (.blockByNumber .latest false)).run env).1
    let r := (a.populate reader env).1.1
    let b := (a.populate reader env).1.2
    a.Retained b ∧
      (b = a ∨ ∃ block type, head = .ok (some block) ∧ a.resolvedType block.baseFee = .ok type ∧
        b.txType = some type) ∧
      ((∃ e, r = .error e ∧ e.IsEarly) ∨ (∀ block, head ≠ .ok (some block)) → b = a) := by
  intro head r b
  rcases a.populate_cases reader env with ⟨e, hrun⟩ | ⟨sender, block, type, env', hone, hhead,
    htype, hrun⟩
  · have hsame : b = a := congrArg Prod.snd hrun
    exact ⟨hsame ▸ .refl a, .inl hsame, fun _ => hsame⟩
  · obtain ⟨hkept, hset, hlate⟩ : a.Retained b ∧ b.txType = some type ∧
        ∀ e, r = .error e → ¬ e.IsEarly := by
      have hends := Populating.ends_settleAs htype hone reader sender env'
      rw [Populating.Ends, ← hrun] at hends
      exact hends
    refine ⟨hkept, .inr ⟨block, type, hhead, a.envelope_eq _ ▸ htype, hset⟩, ?_⟩
    rintro (⟨e, he, hearly⟩ | hnone)
    · exact absurd hearly (hlate e he)
    · exact absurd hhead (hnone block)

/-- The creation of a contract without data fails late: its price has become both caps by then. -/
theorem populate_retains_creation :
    let a : TransactionArgs := { sender := some default, gasPrice := some 9 }
    let b := (a.populate (.steady (some 5) 7) { node := () }).1.2
    (a.populate (.steady (some 5) 7) { node := () }).1.1 = .error .contractCreationWithoutData ∧
      b.gasPrice = none ∧ b.maxFee = some 9 ∧ b.maxPriorityFee = some 9 ∧ a.Retained b := by
  intro a b
  exact ⟨rfl, rfl, rfl, rfl, (populate_retains a (.steady (some 5) 7) { node := () }).1⟩

end TransactionArgs

end EthClient
