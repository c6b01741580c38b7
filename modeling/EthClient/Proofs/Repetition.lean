import EthClient.Proofs.Alike
import EthClient.Proofs.Intent
import EthClient.Proofs.Steps

/-! # Populating again

A step of population that has nothing to do is **`Populating.Idle`**: it asks nothing and changes
nothing. Once population has succeeded, every step is idle but the question for the latest block,
and what the node tells about this block, a base fee or none, makes no difference any more
(**`Populating.settleOn_of_settled`**).

So population that is repeated, with whatever other node, asks one question and leaves the arguments
as they are, and the transaction that is made of them is the same
(**`TransactionArgs.populate_again`**). -/

namespace EthClient

variable {σ α : Type}

namespace Populating

variable {a : TransactionArgs} {reader : Reader σ}

/-! ## Idle steps -/

/-- The step asks nothing and changes nothing. -/
def Idle (m : Populating σ Unit) (a : TransactionArgs) : Prop := m.run.run a = pure (.ok (), a)

/-- **One idle step after another.** -/
theorem Idle.bind {m : Populating σ Unit} {f : Unit → Populating σ Unit} (h : Idle m a)
    (hf : Idle (f ()) a) : Idle (m >>= f) a := by
  rw [Idle, ExceptT.run_bind, StateT.run_bind, h, pure_bind]
  exact hf

/-- A change that makes none. -/
theorem idle_modify {g : TransactionArgs → TransactionArgs} (h : g a = a) :
    Idle (modify g : Populating σ Unit) a := by
  have hrun : (modify g : Populating σ Unit).run.run a = pure (.ok (), g a) := rfl
  rw [Idle, hrun, h]

/-- A check that is passed. -/
theorem idle_refuse {wrong : TransactionArgs → Bool} (h : wrong a = false) (e : PopulateError) :
    Idle (refuse wrong e : Populating σ Unit) a := by
  rw [Idle, run_refuse, h]
  rfl

/-- A field that is not missing. -/
theorem idle_fetch {missing : TransactionArgs → Bool} {m : TransactionArgs → Populating σ α}
    {store : α → TransactionArgs → TransactionArgs} (h : missing a = false) :
    Idle (fetch missing m store) a :=
  run_fetch_idle h

/-- Caps that are not missing. -/
theorem idle_fillCaps (h : a.lacksCap = false) (baseFee : Option Amount) :
    Idle (fillCaps reader baseFee) a := by
  cases baseFee with
  | some fee => exact idle_modify (TransactionArgs.capsFromBaseFee_of_not_lacksCap h fee)
  | none =>
    rw [fillCaps_none_eq]
    exact idle_fetch h

/-- Caps that are in order. -/
theorem idle_orderCaps (h : a.checkCaps = .ok ()) : Idle (orderCaps : Populating σ Unit) a := by
  rw [Idle, run_orderCaps, h]

/-- Fees that are those of the envelope, whatever the base fee is by now. -/
theorem idle_setPrices {type : TxType} (h : a.PricedFor type) (baseFee : Option Amount) :
    Idle (setPrices reader baseFee type) a := by
  cases type with
  | dynamicFee =>
    obtain ⟨hprice, hcaps, horder⟩ := h
    unfold setPrices
    rw [setCaps_eq]
    exact (idle_modify (TransactionArgs.priceToCaps_of_none hprice)).bind
      ((idle_fillCaps hcaps baseFee).bind (idle_orderCaps horder))
  | legacy | accessList =>
    have hidle : Idle (setPrice reader) a := by
      rw [setPrice_eq]
      exact (idle_refuse h.1 _).bind (idle_fetch h.2)
    exact hidle

/-- What is complete behind the fees. -/
theorem idle_complete (h : Completed a) (sender : Address) : Idle (complete reader sender) a := by
  obtain ⟨hvalue, hnonce, htarget, hgas, hid⟩ := h
  unfold complete
  rw [setNonce_eq, setGas_eq, setChainId_eq]
  exact (idle_modify (setValue_of_isSome hvalue)).bind ((idle_fetch hnonce).bind
    ((idle_refuse htarget _).bind ((idle_fetch hgas).bind (idle_fetch hid))))

/-- **Everything at once.** -/
theorem idle_settleAs {type : TxType} (htype : a.txType = some type) (hpriced : a.PricedFor type)
    (h : Completed a) (sender : Address) (baseFee : Option Amount) :
    Idle (settleAs reader sender baseFee type) a := by
  have hset : Idle (modify fun a => { a with txType := some type } : Populating σ Unit) a :=
    idle_modify (by rw [← htype])
  exact (hset.bind (idle_setPrices hpriced baseFee)).bind (idle_complete h sender)

/-! ## Population of settled arguments -/

/-- What population comes to if nothing is missing and this is answered about the latest block. -/
def confirmation : Except ProviderError (Option Block) → Except PopulateError Unit
  | .ok (some _) => .ok ()
  | .ok none => .error .chainNotReady
  | .error e => .error (.reader "fetching latest block" (.provider e))

/-- **Whatever is told about the latest block**, nothing is changed and nothing else is asked. -/
theorem settleOn_of_settled {type : TxType} (htype : a.txType = some type)
    (hpriced : a.PricedFor type) (h : Completed a) (sender : Address)
    (answer : Except ProviderError (Option Block)) (env : Env σ) :
    (settleOn reader sender a answer env).1 = (confirmation answer, a) ∧
      (settleOn reader sender a answer env).2.node = env.node := by
  match answer with
  | .error e => exact ⟨rfl, rfl⟩
  | .ok none => exact ⟨rfl, rfl⟩
  | .ok (some block) =>
    -- the base fee is not looked at any more: the envelope is set, and no cap is missing
    have hidle : Idle (settleAs reader sender block.baseFee type) a :=
      idle_settleAs htype hpriced h sender block.baseFee
    rw [settleOn, TransactionArgs.envelope_of_set htype]
    dsimp only
    rw [hidle]
    exact ⟨rfl, rfl⟩

end Populating

namespace TransactionArgs

variable {b : TransactionArgs}

/-- Complete arguments have the fees of their envelope. -/
theorem Complete.exists_pricedFor (h : b.Complete) :
    ∃ type, b.txType = some type ∧ b.PricedFor type := by
  obtain ⟨type, htype⟩ := Option.isSome_iff_exists.mp h.txType
  refine ⟨type, htype, ?_⟩
  have hsingle (hprice : b.gasPrice.isSome ∧ b.maxFee = none ∧ b.maxPriorityFee = none) :
      b.hasFeeMarketFields = false ∧ b.gasPrice.isNone = false := by
    obtain ⟨hprice, hmax, htip⟩ := hprice
    rw [hasFeeMarketFields, hmax, htip]
    exact ⟨rfl, Option.isNone_eq_false_iff.mpr hprice⟩
  cases type with
  | legacy => exact hsingle (h.price (.inl htype))
  | accessList => exact hsingle (h.price (.inr htype))
  | dynamicFee =>
    obtain ⟨hprice, maxFee, tip, hmax, htip, hle⟩ := h.caps htype
    refine ⟨hprice, ?_, ?_⟩
    · rw [lacksCap, hmax, htip]
      rfl
    · rw [checkCaps, hmax, htip]
      exact if_neg (BitVec.not_lt.mpr hle)

/-- Nothing is missing behind the fees, either. -/
theorem Complete.completed (h : b.Complete) : Populating.Completed b := by
  refine ⟨h.value, Option.isNone_eq_false_iff.mpr h.nonce, ?_,
    Option.isNone_eq_false_iff.mpr h.gas, Option.isNone_eq_false_iff.mpr h.chainId⟩
  rw [Bool.and_eq_false_iff]
  rcases h.target with hto | hdata
  · exact .inl (Option.isNone_eq_false_iff.mpr hto)
  · refine .inr ?_
    rw [dataIsEmpty]
    exact List.isEmpty_eq_false_iff.mpr hdata

/-- **Complete arguments are populated by one question**, the one for the latest block. -/
theorem Complete.populate (h : b.Complete) (reader : Reader σ) (env : Env σ) :
    let asked := (reader.ask (.blockByNumber .latest false)).run env
    (b.populate reader env).1 = (Populating.confirmation asked.1, b) ∧
      (b.populate reader env).2.node = asked.2.node := by
  intro asked
  obtain ⟨sender, hsender⟩ := Option.isSome_iff_exists.mp h.sender
  obtain ⟨type, htype, hpriced⟩ := h.exists_pricedFor
  have hone : ¬ (b.gasPrice.isSome && b.hasFeeMarketFields) = true :=
    fun hboth => hpriced.not_hasConflict (Bool.and_eq_true_iff.mp hboth)
  rw [populate_eq, hsender]
  dsimp only
  rw [if_neg hone, run_action_bind]
  exact Populating.settleOn_of_settled htype hpriced h.completed sender _ _

/-- Population that succeeds leaves the arguments complete. -/
theorem complete_of_populate {a : TransactionArgs} {reader : Reader σ} {env : Env σ}
    (h : (a.populate reader env).1.1 = .ok ()) : (a.populate reader env).1.2.Complete := by
  obtain ⟨hs, -, baseFee, told, type, fees, -, hfees, hcheck, hb⟩ := populate_ok h
  exact hb.complete hs (fees_suit hfees) hcheck

end TransactionArgs

/-! ## Any number of times -/

/-- A node that can be asked, in some environment. -/
structure Visit where
  node : Type
  reader : Reader node
  env : Env node

/-- What the node tells about the latest block. -/
def Visit.head (v : Visit) : Except ProviderError (Option Block) :=
  ((v.reader.ask (.blockByNumber .latest false)).run v.env).1

namespace TransactionArgs

/-- What population leaves that is repeated with one node after the other, whatever comes of it. -/
def repopulate (b : TransactionArgs) (visits : List Visit) : TransactionArgs :=
  visits.foldl (fun c v => (c.populate v.reader v.env).1.2) b

/-- Complete arguments stay as they are, however often population is repeated. -/
theorem Complete.repopulate {b : TransactionArgs} (h : b.Complete) (visits : List Visit) :
    b.repopulate visits = b := by
  induction visits with
  | nil => rfl
  | cons v visits ih =>
    have hsame : (b.populate v.reader v.env).1.2 = b :=
      congrArg Prod.snd (h.populate v.reader v.env).1
    rw [TransactionArgs.repopulate, List.foldl_cons, hsame]
    exact ih

/-- **Once population has succeeded, repeating it makes no difference.** Whatever other node is
asked, it is asked for the latest block and nothing else, and the arguments stay as they are. This
succeeds whenever the node tells the block, with a base fee or without, and so the transaction is
the same, however often and with whatever nodes population was repeated before. -/
theorem populate_again {a : TransactionArgs} {reader : Reader σ} {env : Env σ}
    (h : (a.populate reader env).1.1 = .ok ()) :
    let b := (a.populate reader env).1.2
    (∀ (τ : Type) (other : Reader τ) (env' : Env (Logged Inquiry τ)),
      let answer := ((other.ask (.blockByNumber .latest false)).run env'.erase).1
      (b.populate other env'.erase).1 = (Populating.confirmation answer, b) ∧
        (b.populate other.logged env').2.log
          = env'.log ++ [⟨.blockByNumber .latest false, answer⟩]) ∧
    ∃ tx, (a.populateToTransaction reader env).1 = .ok tx ∧ ∀ visits : List Visit,
      b.repopulate visits = b ∧ (b.repopulate visits).toTransaction? = some tx ∧
      ∀ v : Visit, (∃ block, v.head = .ok (some block)) →
        ((b.repopulate visits).populateToTransaction v.reader v.env).1 = .ok tx := by
  intro b
  have hcomplete : b.Complete := complete_of_populate h
  obtain ⟨tx, htx, -⟩ := hcomplete.transaction
  -- the transaction is made of the arguments that population leaves
  have hmade {τ : Type} {c : TransactionArgs} {other : Reader τ} {env' : Env τ}
      (hc : (c.populate other env').1 = (.ok (), b)) :
      (c.populateToTransaction other env').1 = .ok tx := by
    rw [populateToTransaction, run_action_bind, hc]
    dsimp only
    rw [htx]
    rfl
  refine ⟨fun τ other env' => ⟨(hcomplete.populate other env'.erase).1, ?_⟩, tx,
    hmade (Prod.ext h rfl), fun visits => ?_⟩
  · rw [Env.log, (hcomplete.populate other.logged env').2]
    rfl
  · rw [hcomplete.repopulate visits]
    refine ⟨rfl, htx, fun v hhead => ?_⟩
    obtain ⟨block, hblock⟩ := hhead
    have hagain := (hcomplete.populate v.reader v.env).1
    rw [Visit.head] at hblock
    rw [hblock] at hagain
    exact hmade hagain

/-- A transfer that was populated on a chain with a base fee, and is populated again on a chain
without one. -/
theorem populate_again_transfer :
    let a : TransactionArgs := { sender := some default, recipient := some default }
    let b := (a.populate (.steady (some 5) 7) { node := () }).1.2
    (a.populate (.steady (some 5) 7) { node := () }).1.1 = .ok () ∧
      (b.populate (.steady none 9) { node := () }).1 = (.ok (), b) := by
  intro a b
  have hok : (a.populate (.steady (some 5) 7) { node := () }).1.1 = .ok () := rfl
  exact ⟨hok, ((populate_again hok).1 Unit (.steady none 9) { node := ⟨[], ()⟩ }).1⟩

end TransactionArgs

end EthClient
