import EthClient.Proofs.Attribution
import EthClient.Proofs.Fees

/-! # What is estimated is what is signed

If the gas is not set, population asks for an estimate between two groups of steps. Those before it
set fees, value and nonce, and none of them asks for an estimate: they are the same steps for a
reader that could not even be asked for one (`Reader.withoutEstimates`). Those behind it set the
chain id only. So there is one estimate, and the arguments that it is asked for differ from the
populated ones in gas and chain id alone (**`Populating.estimates_setAll`**).

A layer that signs sets the chain id before population begins, so there the gas is the whole
difference: **`SigningLayer.signTransaction_signs_estimated`**. -/

namespace EthClient

variable {X σ : Type}

/-! ## Questions that are no estimates -/

/-- The question is one for an estimate. -/
def Query.IsEstimate : Query → Prop
  | .estimateGas .. => True
  | _ => False

/-- The entry is a question, and not one for an estimate. -/
def Unestimated (asked : (q : Query) → Except ProviderError q.Answer → X → Prop) (x : X) : Prop :=
  ∃ q answer, asked q answer x ∧ ¬ q.IsEstimate

/-- The reader with the price of gas in the place of every estimate. -/
def Reader.withoutEstimates (reader : Reader σ) : Reader σ where
  ask
    | .estimateGas .. => reader.ask .gasPrice
    | q => reader.ask q

/-- Such a reader asks for no estimate. -/
theorem Reader.Tells.withoutEstimates {reader : Reader (Logged X σ)}
    {asked : (q : Query) → Except ProviderError q.Answer → X → Prop} (hr : reader.Tells asked) :
    reader.withoutEstimates.Tells fun _ _ x => Unestimated asked x := by
  have hother (q : Query) (hq : ¬ q.IsEstimate) :
      Adds (reader.ask q).run fun _ new => ∃ x, new = [x] ∧ Unestimated asked x := by
    refine (hr q).mono ?_
    rintro answer _ ⟨x, rfl, hx⟩
    exact ⟨x, rfl, q, answer, hx, hq⟩
  intro q
  cases q with
  | estimateGas args tag => exact hother .gasPrice id
  | blockByNumber tag full => exact hother (.blockByNumber tag full) id
  | gasPrice => exact hother .gasPrice id
  | transactionCount address tag => exact hother (.transactionCount address tag) id
  | chainId => exact hother .chainId id

namespace Populating

variable {asked : (q : Query) → Except ProviderError q.Answer → X → Prop}
variable {a b c : TransactionArgs} {reader : Reader (Logged X σ)}

/-! ## Steps before the estimate -/

/-- What the steps before the estimate keep. -/
structure Spared (a b : TransactionArgs) : Prop where
  sender : b.sender = a.sender
  chainId : b.chainId = a.chainId
  gas : b.gas = a.gas

/-- The step asks for no estimate, and keeps this if it succeeds. -/
def Spares (asked : (q : Query) → Except ProviderError q.Answer → X → Prop)
    (m : Populating (Logged X σ) Unit) (a : TransactionArgs) : Prop :=
  Adds (m.run.run a) fun p new => (∀ x ∈ new, Unestimated asked x) ∧ (p.1 = .ok () → Spared a p.2)

/-- A step that is the same without estimates asks for none. -/
theorem adds_of_advances {m : Populating (Logged X σ) Unit} {kept : TransactionArgs → Prop}
    (h : Advances (fun _ _ x => Unestimated asked x) m a)
    (hends : ∀ env, Ends m a env fun r b _ => r = .ok () → kept b) :
    Adds (m.run.run a) fun p new =>
      (∀ x ∈ new, Unestimated asked x) ∧ (p.1 = .ok () → kept p.2) := by
  intro env
  obtain ⟨new, hlog, hadv⟩ := h env
  refine ⟨new, hlog, fun x hx => ?_, hends env⟩
  obtain ⟨_, _, hasked, -⟩ := hadv.asked x hx
  exact hasked

/-- Envelope and fees. -/
theorem spares_setFees (hr : reader.Tells asked) : Spares asked (setFees reader) a := by
  have hsame : setFees reader = setFees reader.withoutEstimates := rfl
  refine adds_of_advances ?_ fun env => ?_
  · rw [hsame]
    exact advances_setFees hr.withoutEstimates
  · rcases ends_setFees_early reader a env with hearly | ⟨hone, baseFee, told, htold⟩
    · refine hearly.mono ?_
      rintro r b _ ⟨e, rfl, -⟩ hok
      cases hok
    · refine (ends_setFees htold hone).mono ?_
      rintro r b _ (⟨e, -, rfl⟩ | ⟨type, fees, -, -, rfl⟩) hok
      · cases hok
      · cases fees <;> exact ⟨rfl, rfl, rfl⟩

/-- The nonce. -/
theorem spares_setNonce (hr : reader.Tells asked) {s : Address} (hs : a.sender = some s) :
    Spares asked (setNonce reader s) a := by
  have hsame : setNonce reader s = setNonce reader.withoutEstimates s := rfl
  refine adds_of_advances ?_ fun env => ?_
  · rw [hsame]
    exact advances_setNonce hr.withoutEstimates hs
  · refine (ends_setNonce reader s a env).mono ?_
    rintro r b _ ⟨nonce, rfl, -⟩ -
    exact ⟨rfl, rfl, rfl⟩

/-! ## The estimate -/

/-- Some arguments were populated with this estimate, and with no other one. -/
structure Estimated (asked : (q : Query) → Except ProviderError q.Answer → X → Prop)
    (a b : TransactionArgs) (new : List X) (estimated : TransactionArgs) (gas : Amount)
    (x : X) : Prop where
  /-- The arguments for which the estimate was asked. -/
  spared : Spared a estimated
  told : asked (.estimateGas estimated .pending) (.ok gas) x
  /-- What became of them. -/
  populated : b = { estimated with gas := some gas, chainId := b.chainId }
  chainId : Fills a.chainId b.chainId
  /-- No other question was one for an estimate. -/
  alone : ∃ pre post, new = pre ++ x :: post ∧ ∀ y ∈ pre ++ post, Unestimated asked y

/-- If the step succeeds, then with one estimate. -/
def Estimates (asked : (q : Query) → Except ProviderError q.Answer → X → Prop)
    (m : Populating (Logged X σ) Unit) (a : TransactionArgs) : Prop :=
  Adds (m.run.run a) fun p new => p.1 = .ok () →
    ∃ estimated gas x, Estimated asked a p.2 new estimated gas x

/-- **A step that spares the estimate** may come before others. -/
theorem Spares.bind {m : Populating (Logged X σ) Unit} {f : Unit → Populating (Logged X σ) Unit}
    (h : Spares asked m a) (hf : ∀ b, Spared a b → Estimates asked (f ()) b) :
    Estimates asked (m >>= f) a := by
  refine adds_bind h ?_ ?_
  · rintro _ b new ⟨hnew, hkept⟩
    have hab : Spared a b := hkept rfl
    refine (hf b hab).mono fun p more hmore hok => ?_
    obtain ⟨estimated, gas, x, hb⟩ := hmore hok
    obtain ⟨pre, post, rfl, hothers⟩ := hb.alone
    refine ⟨estimated, gas, x, ?_, hb.told, hb.populated, hab.chainId ▸ hb.chainId,
      new ++ pre, post, ?_, fun y hy => ?_⟩
    · exact ⟨hb.spared.sender.trans hab.sender, hb.spared.chainId.trans hab.chainId,
        hb.spared.gas.trans hab.gas⟩
    · rw [List.append_assoc]
    · rw [List.append_assoc] at hy
      exact (List.mem_append.mp hy).elim (hnew y) (hothers y)
  · rintro e b new - hok
    cases hok

/-- Looking at the arguments. -/
theorem Estimates.get {f : TransactionArgs → Populating (Logged X σ) Unit}
    (h : Estimates asked (f a) a) : Estimates asked (MonadState.get >>= f) a := h

/-- A failure needs no estimate. -/
theorem estimates_throw {α : Type} (e : PopulateError) (f : α → Populating (Logged X σ) Unit) :
    Estimates asked (throw e >>= f) a :=
  Adds.pure nofun

/-- The gas is the estimate for the arguments as they are. -/
theorem adds_setGas (hr : reader.Tells asked) (hgas : a.gas = none) :
    Adds ((setGas reader).run.run a) fun p new => p.1 = .ok () → ∃ gas x, new = [x] ∧
      asked (.estimateGas a .pending) (.ok gas) x ∧ p.2 = { a with gas := some gas } := by
  have hrun : (setGas reader).run.run a
      = (ask reader "estimating gas" (.estimateGas a .pending) >>= fun gas =>
        modify fun a => { a with gas := some gas }).run.run a := by
    have hif : (setGas reader).run.run a = (if a.gas.isNone then
          ask reader "estimating gas" (.estimateGas a .pending) >>= fun gas =>
            modify fun a => { a with gas := some gas }
        else pure () : Populating (Logged X σ) Unit).run.run a := rfl
    rw [hif, hgas]
    rfl
  rw [hrun]
  refine adds_bind (adds_ask hr "estimating gas" (.estimateGas a .pending)) ?_ ?_
  · rintro gas b _ ⟨x, answer, rfl, hx, hp⟩
    obtain ⟨hanswer, rfl⟩ := Prod.mk.inj hp
    cases answer with
    | error e => cases hanswer
    | ok told =>
      cases hanswer
      exact Adds.pure fun _ => ⟨gas, x, rfl, hx, rfl⟩
  · rintro e b _ - hok
    cases hok

/-- The chain id alone is set, unless it was set before. -/
def Identified (a b : TransactionArgs) : Prop :=
  b = { a with chainId := b.chainId } ∧ Fills a.chainId b.chainId

/-- The chain id needs no estimate. -/
theorem adds_setChainId (hr : reader.Tells asked) :
    Adds ((setChainId reader).run.run a) fun p new =>
      (∀ x ∈ new, Unestimated asked x) ∧ (p.1 = .ok () → Identified a p.2) := by
  have hsame : setChainId reader = setChainId reader.withoutEstimates := rfl
  refine adds_of_advances ?_ fun env => ?_
  · rw [hsame]
    exact advances_setChainId hr.withoutEstimates
  · refine (ends_setChainId reader a env).mono ?_
    rintro r b _ ⟨chainId, rfl, hfills, -⟩ hok
    exact ⟨rfl, hfills hok⟩

/-- **Behind the estimate** the chain id alone is set. -/
theorem estimates_setGas (hr : reader.Tells asked) (hgas : a.gas = none) :
    Estimates asked (setGas reader >>= fun _ => setChainId reader) a := by
  refine adds_bind (adds_setGas hr hgas) ?_ ?_
  · rintro _ b new hb
    obtain ⟨gas, x, rfl, hx, rfl⟩ := hb rfl
    refine (adds_setChainId hr).mono ?_
    rintro ⟨r, c⟩ post ⟨hpost, hc⟩ hok
    obtain ⟨hkept, hfills⟩ := hc hok
    exact ⟨a, gas, x, ⟨rfl, rfl, rfl⟩, hx, hkept, hfills, [], post, rfl, hpost⟩
  · rintro e b new - hok
    cases hok

/-- **Population that is not given the gas asks for one estimate.** -/
theorem estimates_setAll (hr : reader.Tells asked) (hgas : a.gas = none) :
    Estimates asked (setAll reader) a := by
  unfold setAll
  refine .get ?_
  cases hs : a.sender with
  | none => exact Adds.pure nofun
  | some s =>
    refine (spares_setFees hr).bind fun b hb => ?_
    refine Spares.bind (Adds.pure ⟨nofun, fun _ => ⟨rfl, rfl, rfl⟩⟩) fun c hc => ?_
    have hcs : c.sender = some s := hc.sender.trans (hb.sender.trans hs)
    refine (spares_setNonce hr hcs).bind fun d hd => .get ?_
    dsimp only
    split
    · exact estimates_throw _ _
    · exact estimates_setGas hr (hd.gas.trans (hc.gas.trans (hb.gas.trans hgas)))

end Populating

/-! ## Signing -/

namespace Handling

variable {ctx : Option Context} {x : Handling}

/-- A handling that asks something else does not call the method of estimates. -/
theorem notMem_methods_of_unestimated (h : Unestimated (Asks ctx) x) :
    "eth_estimateGas" ∉ x.methods := by
  obtain ⟨q, answer, ⟨outcome, rfl, -⟩, hq⟩ := h
  rw [methods_single, List.mem_singleton]
  intro hmethod
  -- the questions call different methods
  cases q with
  | estimateGas args tag => exact hq trivial
  | _ => exact absurd hmethod (by simp [Query.toCall])

/-- A handling that asks for an estimate does. -/
theorem mem_methods_of_estimateGas {args : TransactionArgs} {tag : BlockTag}
    {answer : Except ProviderError Amount} (h : x.Asks ctx (.estimateGas args tag) answer) :
    "eth_estimateGas" ∈ x.methods := by
  obtain ⟨outcome, rfl, -⟩ := h
  rw [methods_single, List.mem_singleton]
  rfl

/-- **Among entries with one estimate** the filter finds this one. -/
theorem filter_estimates {pre post : List Handling} {args : TransactionArgs} {tag : BlockTag}
    {answer : Except ProviderError Amount} (h : x.Asks ctx (.estimateGas args tag) answer)
    (hpre : ∀ y ∈ pre, Unestimated (Asks ctx) y) (hpost : ∀ y ∈ post, Unestimated (Asks ctx) y) :
    (pre ++ x :: post).filter (fun y => "eth_estimateGas" ∈ y.methods) = [x] := by
  have hnone {others : List Handling} (h : ∀ y ∈ others, Unestimated (Asks ctx) y) :
      others.filter (fun y => "eth_estimateGas" ∈ y.methods) = [] := by
    rw [List.filter_eq_nil_iff]
    intro y hy
    rw [decide_eq_true_iff]
    exact notMem_methods_of_unestimated (h y hy)
  rw [List.filter_append, hnone hpre, List.filter_cons_of_pos, hnone hpost, List.nil_append]
  exact decide_eq_true (mem_methods_of_estimateGas h)

end Handling

/-- In the steps of signing without a gas, one estimate was asked for, and it was asked for what was
populated and signed, with the gas unset. -/
theorem Signed.Steps.estimated {l : SigningLayer (Logged X σ)} {ctx : Option Context}
    {asked : (q : Query) → Except ProviderError q.Answer → X → Prop} {args : TransactionArgs}
    {s : Signed} {first more : List X} (h : s.Steps l ctx asked args first more)
    (hr : (Reader.ofProvider l.inner ctx).Tells asked) (hgas : args.gas = none) :
    ∃ estimated gas x, Populating.Estimated asked (s.resolved args) s.populated more estimated gas
        x ∧
      s.populated = { estimated with gas := some gas } := by
  obtain ⟨env, hpopulated, hlog⟩ := h.run
  have hresolved : (s.resolved args).gas = none := hgas
  obtain ⟨new, hnew, hestimates⟩ := Populating.estimates_setAll hr hresolved env
  obtain rfl : new = more := List.append_cancel_left (hnew.symm.trans hlog)
  have hrun : ((Populating.setAll (Reader.ofProvider l.inner ctx)).run.run (s.resolved args)
      env).1 = (.ok (), s.populated) := hpopulated
  rw [hrun] at hestimates
  obtain ⟨estimated, gas, x, hx⟩ := hestimates rfl
  refine ⟨estimated, gas, x, hx, ?_⟩
  -- the chain id was set before population began, so it was not changed behind the estimate
  have hid : s.populated.chainId = estimated.chainId := by
    obtain ⟨id, hid⟩ := hx.chainId
    exact hid.trans hx.spared.chainId.symm
  have hkept : s.populated
      = { estimated with gas := some gas, chainId := s.populated.chainId } := hx.populated
  rw [hid] at hkept
  exact hkept

/-- **What is estimated is what is signed.** If the gas is not set and a payload is returned, then
exactly one estimate was asked for. It was answered, and the arguments that it was asked for have no
gas, but the sender that the registry has the signer for and the chain id that the payload is signed
for. With the answer as their gas they are the populated arguments, whose transaction is signed and
returned. -/
theorem SigningLayer.signTransaction_signs_estimated (p : Provider σ) (registry : Registry)
    (ctx : Option Context) {args : TransactionArgs} (hgas : args.gas = none)
    {env env' : Env (Logged Handling σ)} {raw : Bytes}
    (hrun : ((SigningLayer.mk p.recording registry).signTransaction ctx args).run env
      = (.ok raw, env')) :
    ∃ (s : Signed) (probes : List Handling) (estimated : TransactionArgs) (gas : Amount)
      (x : Handling),
      env'.log = env.log ++ probes ∧
      s.For ⟨p.recording, registry⟩ ctx (Handling.Asks ctx) args probes ∧
      probes.filter (fun y => "eth_estimateGas" ∈ y.methods) = [x] ∧
      x.Asks ctx (.estimateGas estimated .pending) (.ok gas) ∧
      estimated.gas = none ∧ estimated.sender = some s.signer.address ∧
      estimated.chainId = some s.chainId ∧
      s.populated = { estimated with gas := some gas } ∧
      s.populated.toTransaction? = some s.tx ∧
      s.signer.signTransaction s.tx s.chainId = .ok s.signature ∧
      raw = s.tx.signedRlp s.signature := by
  obtain ⟨probes, hlog, -, hraw⟩ := SigningLayer.probing_signTransaction_steps
    (l := ⟨p.recording, registry⟩) (Reader.tells_recording p ctx) args env
  rw [hrun] at hlog hraw
  obtain ⟨s, first, more, rfl, hs, rfl⟩ := hraw raw rfl
  obtain ⟨estimated, gas, x, hx, hpopulated⟩ := hs.estimated (Reader.tells_recording p ctx) hgas
  obtain ⟨pre, post, rfl, hothers⟩ := hx.alone
  -- the question for the chain id is no estimate, either
  have hfirst : ∀ y ∈ first, Unestimated (Handling.Asks ctx) y := by
    intro y hy
    rcases hs.told with ⟨-, rfl⟩ | ⟨-, z, rfl, hz⟩
    · cases hy
    · rw [List.mem_singleton.mp hy]
      exact ⟨.chainId, _, hz, id⟩
  have hfilter : (first ++ (pre ++ x :: post)).filter
      (fun y => "eth_estimateGas" ∈ y.methods) = [x] := by
    rw [← List.append_assoc]
    refine Handling.filter_estimates hx.told (fun y hy => ?_) fun y hy => ?_
    · exact (List.mem_append.mp hy).elim (hfirst y)
        fun hy => hothers y (List.mem_append_left _ hy)
    · exact hothers y (List.mem_append_right _ hy)
  exact ⟨s, _, estimated, gas, x, hlog, hs.signedFor, hfilter, hx.told, hx.spared.gas.trans hgas,
    hx.spared.sender, hx.spared.chainId, hpopulated, hs.made, hs.signed, rfl⟩

/-- The least key signs arguments without a gas with the estimate of the node, and asks for it with
its own address, a value and an envelope. -/
theorem SigningLayer.signTransaction_signs_estimated_one :
    let node := Provider.ofAnswers fun _ c =>
      .ok (if c.method = "eth_estimateGas" then .string "0x5208" else .object [])
    let args := { TransactionArgs.settled with gas := none }
    let signed := ((SigningLayer.mk node.recording (.sole PrivateKey.one.toSigner)).signTransaction
      none args).run { node := ⟨[], 0⟩ }
    args.gas = none ∧ ∃ raw x, signed.1 = .ok raw ∧
      signed.2.log.filter (fun y => "eth_estimateGas" ∈ y.methods) = [x] ∧
      x.Asks none (.estimateGas { args with
        sender := some PrivateKey.one.address, value := some 0, txType := some .legacy } .pending)
        (.ok 21000) := by
  intro node args signed
  obtain ⟨raw, hraw⟩ : ∃ raw, signed.1 = .ok raw := ⟨_, rfl⟩
  have hrun : signed = (.ok raw, signed.2) := Prod.ext hraw rfl
  obtain ⟨s, probes, estimated, gas, x, hlog, -, hfilter, -⟩ :=
    signTransaction_signs_estimated node (.sole PrivateKey.one.toSigner) none rfl hrun
  obtain rfl : signed.2.log = probes := hlog
  refine ⟨rfl, raw, x, hraw, hfilter, ?_⟩
  -- there are two questions, the latest block and then the estimate
  have hlast : signed.2.log.filter (fun y => "eth_estimateGas" ∈ y.methods)
      = [.single none (Query.estimateGas { args with
          sender := some PrivateKey.one.address, value := some 0, txType := some .legacy }
          .pending).toCall (.ok (.string "0x5208"))] := by
    rfl
  rw [(List.cons.inj (hfilter.symm.trans hlast)).1]
  exact ⟨_, rfl, rfl⟩

end EthClient
