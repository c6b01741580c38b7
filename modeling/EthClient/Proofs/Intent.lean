import EthClient.Proofs.Fees

/-! # From the arguments to the transaction

Population that succeeds leaves nothing unset (`TransactionArgs.Complete`), so a transaction can be
made of what it leaves. What was set before is in this transaction, field by field
(`TransactionArgs.Field.Kept`), and there is one exception: an access list does not go with an
envelope that has none, which a caller can choose nevertheless.

* **`TransactionArgs.populate_complete`**: population that succeeds leaves the arguments complete;
* **`TransactionArgs.populateToTransaction_keeps`**: which fields the transaction keeps. -/

namespace EthClient

/-! ## Fees and entries of a transaction -/

namespace Transaction

/-- The fees of a transaction. -/
def fees? : Transaction → Option Fees
  | .legacy _ price => price.map .single
  | .accessList _ price _ => price.map .single
  | .dynamicFee _ maxFee tip _ => maxFee.bind fun maxFee => tip.map (.capped maxFee)

/-- The access list of a transaction, empty in an envelope without one. -/
def entries : Transaction → AccessList
  | .legacy .. => []
  | .accessList _ _ entries => entries
  | .dynamicFee _ _ _ entries => entries

end Transaction

namespace TransactionArgs

section Conversion

variable {a b : TransactionArgs} {nonce gas : Amount} {type : TxType} {fees : Fees}

/-- **Arguments with nonce, gas and type have a transaction**, in the envelope of the type and with
the fees that go with it. -/
theorem exists_toTransaction? (hnonce : b.nonce = some nonce) (hgas : b.gas = some gas)
    (htype : b.txType = some type) (hfees : b.fees? = some fees) (hsuit : a.Suits type fees) :
    ∃ tx, b.toTransaction? = some tx ∧ tx.txType = type ∧
      tx.fields = b.transactionFields nonce gas ∧ tx.fees? = some fees ∧
      tx.entries = if type = .legacy then [] else b.accessList.getD [] := by
  unfold toTransaction?
  rw [hnonce, hgas, htype]
  cases fees with
  | single price =>
    obtain ⟨hprice, -, -⟩ := of_fees?_single hfees
    cases type with
    | legacy => exact ⟨_, rfl, rfl, rfl, by rw [hprice]; rfl, rfl⟩
    | accessList => exact ⟨_, rfl, rfl, rfl, by rw [hprice]; rfl, rfl⟩
    | dynamicFee => exact absurd rfl hsuit.1
  | capped maxFee tip =>
    obtain rfl : type = .dynamicFee := hsuit
    obtain ⟨-, hmax, htip⟩ := of_fees?_capped hfees
    exact ⟨_, rfl, rfl, rfl, by rw [hmax, htip]; rfl, rfl⟩

end Conversion

/-! ## Population that succeeds -/

/-- What population that succeeds makes of some arguments, with an envelope and its fees. -/
structure PopulatedTo (a b : TransactionArgs) (type : TxType) (fees : Fees) : Prop where
  filled : a.Filled b
  sender : b.sender = a.sender
  recipient : b.recipient = a.recipient
  data : b.data = a.data
  accessList : b.accessList = a.accessList
  txType : b.txType = some type
  fees : b.fees? = some fees

/-- Behind the fees of a strategy, what was set before is what was set before the fees. -/
theorem populatedTo_of_completion {a b : TransactionArgs} {type : TxType} {fees : Fees}
    (hb : Completion (a.priced type fees) (.ok ()) b)
    (hfees : (a.priced type fees).fees? = some fees) : PopulatedTo a b type fees := by
  obtain ⟨hkept, -, hfilled⟩ := hb
  obtain ⟨hvalue, hnonce, hgas, hid, htarget⟩ := hfilled rfl
  have hset : b.txType = some type ∧ b.fees? = (a.priced type fees).fees? ∧ b.sender = a.sender ∧
      b.recipient = a.recipient ∧ b.data = a.data ∧ b.accessList = a.accessList := by
    rw [hkept]
    cases fees <;> exact ⟨rfl, rfl, rfl, rfl, rfl, rfl⟩
  obtain ⟨htype, hfees', hsender, hrecipient, hdata, hlist⟩ := hset
  refine ⟨?_, hsender, hrecipient, hdata, hlist, htype, hfees'.trans hfees⟩
  cases fees <;> exact ⟨hvalue, hnonce, hgas, hid, htarget⟩

variable {σ : Type} {reader : Reader σ} {env : Env σ} {a : TransactionArgs}

/-- **Population that succeeds** follows a strategy to its end. -/
theorem populate_ok (h : (a.populate reader env).1.1 = .ok ()) :
    a.sender.isSome ∧ ¬ a.hasConflict ∧ ∃ baseFee told type fees,
      a.resolvedType baseFee = .ok type ∧ a.resolvedFees baseFee told type = .ok fees ∧
      fees.check = .ok () ∧ a.PopulatedTo (a.populate reader env).1.2 type fees := by
  rcases populate_ends a reader env with ⟨e, he, -⟩ | ⟨hs, hone, baseFee, told, hends⟩
  · cases h.symm.trans he
  · rw [h] at hends
    rcases hends with ⟨e, -, he⟩ | ⟨_, _, e, -, -, he, -⟩ | ⟨type, fees, hstrategy, hcheck, hb⟩
    · cases he
    · cases he
    · obtain ⟨htype, hfees⟩ := feeStrategy_ok hstrategy
      exact ⟨hs, hone, baseFee, told, type, fees, htype, hfees, hcheck,
        populatedTo_of_completion hb (fees?_priced hfees)⟩

/-- Population never says that arguments are incomplete. -/
theorem populate_ne_incomplete (a : TransactionArgs) (reader : Reader σ) (env : Env σ) :
    (a.populate reader env).1.1 ≠ .error .incomplete := by
  intro h
  rcases populate_ends a reader env with ⟨e, he, hne⟩ | ⟨-, -, baseFee, told, hends⟩
  · cases h.symm.trans he
    exact hne rfl
  · rw [h] at hends
    rcases hends with ⟨e, hstrategy, he⟩ | ⟨_, fees, e, -, hcheck, he, -⟩ | ⟨_, _, -, -, hb⟩
    · cases he
      rcases feeStrategy_error hstrategy with he | he | ⟨cause, he⟩ <;> cases he
    · cases he
      obtain ⟨_, _, -, -, he⟩ := Fees.check_eq_error.mp hcheck
      cases he
    · exact hb.late _ rfl

/-! ## Complete arguments -/

/-- Nothing that a transaction needs is unset, and the fees are those of the envelope. -/
structure Complete (a : TransactionArgs) : Prop where
  sender : a.sender.isSome
  txType : a.txType.isSome
  value : a.value.isSome
  nonce : a.nonce.isSome
  gas : a.gas.isSome
  chainId : a.chainId.isSome
  target : a.recipient.isSome ∨ a.data.getD [] ≠ []
  caps : a.txType = some .dynamicFee → a.gasPrice = none ∧
    ∃ maxFee tip, a.maxFee = some maxFee ∧ a.maxPriorityFee = some tip ∧ tip ≤ maxFee
  price : a.txType = some .legacy ∨ a.txType = some .accessList →
    a.gasPrice.isSome ∧ a.maxFee = none ∧ a.maxPriorityFee = none
  transaction : ∃ tx, a.toTransaction? = some tx ∧ a.txType = some tx.txType

/-- Populated arguments are complete if the fees were checked. -/
theorem PopulatedTo.complete {b : TransactionArgs} {type : TxType} {fees : Fees}
    (hb : a.PopulatedTo b type fees) (hs : a.sender.isSome) (hsuit : a.Suits type fees)
    (hcheck : fees.check = .ok ()) : b.Complete := by
  obtain ⟨⟨⟨value, hvalue⟩, ⟨nonce, hnonce⟩, ⟨gas, hgas⟩, ⟨id, hid⟩, htarget⟩, hsender, hto, hdata,
    -, htype, hset⟩ := hb
  obtain ⟨tx, htx, htx', -⟩ := exists_toTransaction? hnonce hgas htype hset hsuit
  refine
    { sender := by rw [hsender]; exact hs
      txType := by rw [htype]; rfl
      value := by rw [hvalue]; rfl
      nonce := by rw [hnonce]; rfl
      gas := by rw [hgas]; rfl
      chainId := by rw [hid]; rfl
      target := ?_
      caps := ?_
      price := ?_
      transaction := ⟨tx, htx, by rw [htype, htx']⟩ }
  · rw [hto, hdata]
    exact htarget.imp_right fun h => by simpa [dataIsEmpty] using h
  · intro hdynamic
    obtain rfl := Option.some.inj (htype.symm.trans hdynamic)
    cases fees with
    | single price => exact absurd rfl hsuit.1
    | capped maxFee tip =>
      obtain ⟨hprice, hmax, htip⟩ := of_fees?_capped hset
      refine ⟨hprice, maxFee, tip, hmax, htip, BitVec.not_lt.mp fun hlt => ?_⟩
      cases hcheck.symm.trans (Fees.check_eq_error.mpr ⟨maxFee, tip, rfl, hlt, rfl⟩)
  · intro hsingle
    cases fees with
    | single price =>
      obtain ⟨hprice, hmax, htip⟩ := of_fees?_single hset
      exact ⟨by rw [hprice]; rfl, hmax, htip⟩
    | capped maxFee tip =>
      obtain rfl : type = .dynamicFee := hsuit
      rw [htype] at hsingle
      rcases hsingle with h | h <;> cases h

/-- What population leaves if it succeeds is what the transaction is made of. -/
theorem populateToTransaction_ok {tx : Transaction}
    (h : (a.populateToTransaction reader env).1 = .ok tx) :
    (a.populate reader env).1.1 = .ok () ∧
      (a.populate reader env).1.2.toTransaction? = some tx := by
  rw [populateToTransaction, run_action_bind] at h
  rcases hrun : a.populate reader env with ⟨⟨r, b⟩, env'⟩
  rw [hrun] at h
  cases r with
  | error e => cases h
  | ok _ =>
    dsimp only at h
    cases htx : b.toTransaction? with
    | none =>
      rw [htx] at h
      cases h
    | some tx' =>
      rw [htx] at h
      cases h
      exact ⟨rfl, rfl⟩

/-- **Population that succeeds leaves the arguments complete**, whatever the reader answers. So it
never fails to make a transaction of them. -/
theorem populate_complete (a : TransactionArgs) (reader : Reader σ) (env : Env σ) :
    ((a.populate reader env).1.1 = .ok () → (a.populate reader env).1.2.Complete) ∧
      (a.populateToTransaction reader env).1 ≠ .error .incomplete := by
  have hcomplete : (a.populate reader env).1.1 = .ok () →
      (a.populate reader env).1.2.Complete := by
    intro h
    obtain ⟨hs, -, baseFee, told, type, fees, -, hfees, hcheck, hb⟩ := populate_ok h
    exact hb.complete hs (fees_suit hfees) hcheck
  refine ⟨hcomplete, fun h => ?_⟩
  rw [populateToTransaction, run_action_bind] at h
  rcases hrun : a.populate reader env with ⟨⟨r, b⟩, env'⟩
  rw [hrun] at h hcomplete
  cases r with
  | error e =>
    have hne := populate_ne_incomplete a reader env
    rw [hrun] at hne
    exact hne (congrArg Except.error (Except.error.inj h))
  | ok _ =>
    obtain ⟨tx, htx, -⟩ := (hcomplete rfl).transaction
    dsimp only at h htx
    rw [htx] at h
    cases h

/-- A transfer on a chain with a base fee gets everything it needs. -/
theorem populate_complete_transfer :
    let a : TransactionArgs := { sender := some default, recipient := some default }
    (a.populate (.steady (some 5) 7) { node := () }).1.1 = .ok () ∧
      (a.populate (.steady (some 5) 7) { node := () }).1.2.Complete := by
  intro a
  have hok : (a.populate (.steady (some 5) 7) { node := () }).1.1 = .ok () := rfl
  exact ⟨hok, (populate_complete a (.steady (some 5) 7) { node := () }).1 hok⟩

/-! ## What the transaction keeps -/

/-- A field that was set in the arguments has the same value in the transaction. A single price may
have become both caps. -/
def Field.Kept (a : TransactionArgs) (tx : Transaction) : Field → Prop
  | .sender => ∀ x, a.sender = some x → tx.fields.sender = some x
  | .recipient => ∀ x, a.recipient = some x → tx.fields.recipient = some (.address x)
  | .gas => ∀ x, a.gas = some x → tx.fields.gas = some x
  | .gasPrice => ∀ x, a.gasPrice = some x →
    tx.fees? = some (if tx.txType = .dynamicFee then .capped x x else .single x)
  | .maxFee => ∀ x, a.maxFee = some x → ∃ tip, tx.fees? = some (.capped x tip)
  | .maxPriorityFee => ∀ x, a.maxPriorityFee = some x →
    ∃ maxFee, tx.fees? = some (.capped maxFee x)
  | .value => ∀ x, a.value = some x → tx.fields.value = some x
  | .nonce => ∀ x, a.nonce = some x → tx.fields.nonce = some x
  | .data => ∀ x, a.data = some x → tx.fields.data = some x
  | .accessList => ∀ x, a.accessList = some x → tx.entries = x
  | .chainId => ∀ x, a.chainId = some x → tx.fields.chainId = some x
  | .txType => ∀ x, a.txType = some x → tx.txType = x

/-- The entries of an access list are kept unless the envelope without them was set. -/
theorem kept_accessList_iff {tx : Transaction} {baseFee : Option Amount} {type : TxType}
    (hresolved : a.resolvedType baseFee = .ok type)
    (hentries : tx.entries = if type = .legacy then [] else a.accessList.getD []) :
    Field.accessList.Kept a tx ↔ ¬ (a.txType = some .legacy ∧ a.accessList.getD [] ≠ []) := by
  by_cases hset : a.txType = some .legacy
  · obtain rfl := type_eq_of_set hresolved hset
    rw [if_pos rfl] at hentries
    constructor
    · rintro hkept ⟨-, hne⟩
      cases hl : a.accessList with
      | none => exact hne (by rw [hl]; rfl)
      | some l => exact hne (by rw [hl, Option.getD_some, ← hkept l hl, hentries])
    · intro hempty x hx
      rw [hentries]
      refine Classical.byContradiction fun hne => hempty ⟨hset, ?_⟩
      rw [hx]
      exact Ne.symm hne
  · refine iff_of_true ?_ fun h => hset h.1
    intro x hx
    -- an access list that is set decides against the envelope without one
    have hne : type ≠ .legacy := by
      rintro rfl
      cases hx.symm.trans (accessList_of_legacy hresolved hset)
    rw [hentries, if_neg hne, hx]
    rfl

/-- Fees that are set are kept. -/
theorem kept_fees {tx : Transaction} {baseFee : Option Amount}
    {told : Except ProviderError Amount} {type : TxType} {fees : Fees}
    (hfees : a.resolvedFees baseFee told type = .ok fees) (hone : ¬ a.hasConflict)
    (htype : tx.txType = type) (hset : tx.fees? = some fees) :
    Field.gasPrice.Kept a tx ∧ Field.maxFee.Kept a tx ∧ Field.maxPriorityFee.Kept a tx := by
  refine ⟨fun x hx => ?_, fun x hx => ?_, fun x hx => ?_⟩
  · rw [hset, htype, fees_of_gasPrice hfees hx]
  · obtain ⟨_, tip, rfl⟩ := fees_of_caps hfees hone (by rw [hasFeeMarketFields, hx]; rfl)
    rw [hx] at hset
    exact ⟨_, hset⟩
  · obtain ⟨maxFee, _, rfl⟩ :=
      fees_of_caps hfees hone (by rw [hasFeeMarketFields, hx, Option.isSome_some, Bool.or_true])
    rw [hx] at hset
    exact ⟨_, hset⟩

/-- **The transaction keeps every field that was set but one**: if the envelope without access list
was set, then the entries of an access list are lost. -/
theorem populateToTransaction_keeps {tx : Transaction}
    (h : (a.populateToTransaction reader env).1 = .ok tx) (f : Field) :
    f.Kept a tx ↔
      ¬ (f = .accessList ∧ a.txType = some .legacy ∧ a.accessList.getD [] ≠ []) := by
  obtain ⟨hok, htx⟩ := populateToTransaction_ok h
  obtain ⟨-, hone, baseFee, told, type, fees, hresolved, hfees, -, hb⟩ := populate_ok hok
  generalize (a.populate reader env).1.2 = b at hb htx
  obtain ⟨⟨⟨value, hvalue⟩, ⟨nonce, hnonce⟩, ⟨gas, hgas⟩, ⟨id, hid⟩, -⟩, hsender, hto, hdata, hlist,
    htype, hset⟩ := hb
  obtain ⟨tx', htx', htype', hfields, hfees', hentries⟩ :=
    exists_toTransaction? hnonce hgas htype hset (fees_suit hfees)
  obtain rfl := Option.some.inj (htx.symm.trans htx')
  have hpaid := kept_fees hfees hone htype' hfees'
  by_cases hf : f = .accessList
  · subst hf
    rw [hlist] at hentries
    rw [kept_accessList_iff hresolved hentries]
    exact not_congr (and_iff_right rfl).symm
  · refine iff_of_true ?_ fun h => hf h.1
    cases f with
    | sender =>
      intro x hx
      rw [hfields, transactionFields, hsender, hx]
    | recipient =>
      intro x hx
      rw [hfields, transactionFields, hto, hx]
      rfl
    | gas =>
      intro x hx
      rw [hfields, transactionFields, hx]
      rfl
    | gasPrice => exact hpaid.1
    | maxFee => exact hpaid.2.1
    | maxPriorityFee => exact hpaid.2.2
    | value =>
      intro x hx
      rw [hfields, transactionFields, hvalue, hx]
      rfl
    | nonce =>
      intro x hx
      rw [hfields, transactionFields, hx]
      rfl
    | data =>
      intro x hx
      rw [hfields, transactionFields, hdata, hx]
      rfl
    | accessList => exact absurd rfl hf
    | chainId =>
      intro x hx
      rw [hfields, transactionFields, hid, hx]
      rfl
    | txType =>
      intro x hx
      rw [htype', type_eq_of_set hresolved hx]

/-- Arguments with an access list and the envelope that has none. -/
def listedLegacy : TransactionArgs where
  sender := some default
  recipient := some default
  accessList := some [⟨default, []⟩]
  txType := some .legacy

/-- A price that is set is kept, and the access list beside it is lost. -/
theorem populateToTransaction_keeps_price :
    ∃ tx, ({ listedLegacy with gasPrice := some 9 }.populateToTransaction (.steady none 7)
        { node := () }).1 = .ok tx ∧
      Field.gasPrice.Kept { listedLegacy with gasPrice := some 9 } tx ∧
      ¬ Field.accessList.Kept { listedLegacy with gasPrice := some 9 } tx := by
  obtain ⟨tx, htx⟩ : ∃ tx, ({ listedLegacy with gasPrice := some 9 }.populateToTransaction
      (.steady none 7) { node := () }).1 = .ok tx := ⟨_, rfl⟩
  refine ⟨tx, htx, (populateToTransaction_keeps htx .gasPrice).mpr nofun, fun hkept => ?_⟩
  exact (populateToTransaction_keeps htx .accessList).mp hkept ⟨rfl, rfl, nofun⟩

/-- **An access list can be lost**: population succeeds, and the transaction has no entries. -/
theorem populateToTransaction_drops_accessList :
    ∃ tx, (listedLegacy.populateToTransaction (.steady none 7) { node := () }).1 = .ok tx ∧
      listedLegacy.accessList = some [⟨default, []⟩] ∧ tx.entries = [] := by
  exact ⟨_, rfl, rfl, rfl⟩

end TransactionArgs

end EthClient
