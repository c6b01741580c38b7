import EthClient.Proofs.Record
import EthClient.Transaction.Populate

/-! # What population asks and what it keeps

Population runs beside a log in which the reader puts one entry for each question. From some
arguments to others, with the entries in between, it makes an **`Advance`**: the sender stays, what
is set of chain id and nonce stays, a nonce that was missing is the count that the reader told for
the sender, and every question is about these arguments. An advance can follow another one, so it is
enough that every step of population makes one (**`adds_populate`**). -/

namespace EthClient

variable {X σ α β : Type}

/-! ## Readers with a log -/

/-- The reader puts one entry behind the log for each question, such that entry, question and answer
belong together. -/
def Reader.Tells (reader : Reader (Logged X σ))
    (asked : (q : Query) → Except ProviderError q.Answer → X → Prop) : Prop :=
  ∀ q, Adds (reader.ask q).run fun answer new => ∃ x, new = [x] ∧ asked q answer x

/-- Entries may be told by less. -/
theorem Reader.Tells.mono {reader : Reader (Logged X σ)}
    {asked asked' : (q : Query) → Except ProviderError q.Answer → X → Prop}
    (h : reader.Tells asked) (hsub : ∀ q answer x, asked q answer x → asked' q answer x) :
    reader.Tells asked' :=
  fun q => (h q).mono fun answer _ ⟨x, hnew, hx⟩ => ⟨x, hnew, hsub q answer x hx⟩

/-- **A reader that asks a provider** has one entry for each question if the provider has one for
each call. -/
theorem Reader.tells_ofProvider {p : Provider (Logged X σ)} {ctx : Option Context}
    {called : Call → Except ProviderError Json → X → Prop}
    (h : ∀ c, Adds (p.call ctx c).run fun outcome new => ∃ x, new = [x] ∧ called c outcome x) :
    (Reader.ofProvider p ctx).Tells fun q answer x => ∃ outcome, called q.toCall outcome x ∧
      answer = outcome.bind fun v => ProviderError.ofDecoded (q.decoder.runJson v) := by
  intro q
  refine Adds.bindOk (h q.toCall) ?_ ?_
  · rintro v _ ⟨x, rfl, hx⟩
    exact Adds.pure ⟨x, rfl, .ok v, hx, rfl⟩
  · rintro e _ ⟨x, rfl, hx⟩
    exact ⟨x, rfl, .error e, hx, rfl⟩

/-- A recorded provider that is asked. -/
theorem Reader.tells_recording (p : Provider σ) (ctx : Option Context) :
    (Reader.ofProvider p.recording ctx).Tells (Handling.Asks ctx) := by
  have hcall : ∀ c, Adds (p.recording.call ctx c).run fun outcome new =>
      ∃ x, new = [x] ∧ x = Handling.single ctx c outcome := fun c =>
    (p.adds_recording_call ctx c).mono fun _ _ hnew => ⟨_, hnew, rfl⟩
  exact tells_ofProvider hcall

/-- A question, and what it was answered. -/
structure Inquiry where
  query : Query
  answer : Except ProviderError query.Answer

/-- The reader with a record of every question. -/
def Reader.logged (reader : Reader σ) : Reader (Logged Inquiry σ) where
  ask q := Attempt.logging (fun answer => [⟨q, answer⟩]) (reader.ask q)

/-- Every question is recorded, together with its answer. -/
theorem Reader.tells_logged (reader : Reader σ) :
    reader.logged.Tells fun q answer x => x = ⟨q, answer⟩ :=
  fun _ _ => ⟨_, rfl, _, rfl, rfl⟩

/-- The question is about the sender of some arguments, as far as it is about a sender at all. -/
def Query.Concerns (q : Query) (a : TransactionArgs) : Prop :=
  match q with
  | .estimateGas args _ => args.sender = a.sender
  | .transactionCount address _ => a.sender = some address
  | _ => True

/-- A question about a sender concerns all arguments with this sender. -/
theorem Query.Concerns.congr {q : Query} {a b : TransactionArgs} (h : q.Concerns b)
    (hs : b.sender = a.sender) : q.Concerns a := by
  cases q with
  | estimateGas args tag => exact h.trans hs
  | transactionCount address tag => exact hs.symm.trans h
  | _ => trivial

/-- The count for an address that is told in some entries: the one with the pending transactions,
or else the one as of the latest block. -/
def CountTold (asked : (q : Query) → Except ProviderError q.Answer → X → Prop) (s : Address)
    (n : Amount) (new : List X) : Prop :=
  (∃ x ∈ new, asked (.transactionCount s .pending) (.ok n) x) ∨
    (∃ e, ∃ x ∈ new, asked (.transactionCount s .pending) (.error e) x) ∧
      ∃ x ∈ new, asked (.transactionCount s .latest) (.ok n) x

/-- A count is told also among more entries. -/
theorem CountTold.subset {asked : (q : Query) → Except ProviderError q.Answer → X → Prop}
    {s : Address} {n : Amount} {new more : List X} (h : CountTold asked s n new)
    (hsub : new ⊆ more) : CountTold asked s n more := by
  rcases h with ⟨x, hx, hask⟩ | ⟨⟨e, x, hx, hfail⟩, y, hy, hask⟩
  · exact .inl ⟨x, hsub hx, hask⟩
  · exact .inr ⟨⟨e, x, hsub hx, hfail⟩, y, hsub hy, hask⟩

/-! ## Advances -/

/-- What population may make of arguments while it puts some entries behind the log. -/
structure Advance (asked : (q : Query) → Except ProviderError q.Answer → X → Prop)
    (a b : TransactionArgs) (new : List X) : Prop where
  sender : b.sender = a.sender
  chainId : ∀ id, a.chainId = some id → b.chainId = some id
  /-- A nonce stays as it is, or was missing and is the count that was told for the sender. -/
  nonce : b.nonce = a.nonce ∨
    a.nonce = none ∧ ∃ s n, a.sender = some s ∧ b.nonce = some n ∧ CountTold asked s n new
  /-- Every entry is a question about the sender of the arguments. -/
  asked : ∀ x ∈ new, ∃ q answer, asked q answer x ∧ q.Concerns a

namespace Advance

variable {asked : (q : Query) → Except ProviderError q.Answer → X → Prop}
variable {a b c : TransactionArgs} {new more : List X}

/-- An advance in which only other fields are set. -/
theorem of_fields (hs : b.sender = a.sender) (hi : b.chainId = a.chainId)
    (hn : b.nonce = a.nonce) : Advance asked a b [] :=
  ⟨hs, fun _ h => hi.trans h, .inl hn, fun _ h => absurd h List.not_mem_nil⟩

/-- Nothing is an advance. -/
theorem refl : Advance asked a a [] := of_fields rfl rfl rfl

/-- A question about the sender is an advance. -/
theorem ask {q : Query} {answer : Except ProviderError q.Answer} {x : X}
    (hask : asked q answer x) (hq : q.Concerns a) : Advance asked a a [x] :=
  ⟨rfl, fun _ h => h, .inl rfl, fun y hy => by
    rw [List.mem_singleton.mp hy]
    exact ⟨q, answer, hask, hq⟩⟩

/-- **An advance can follow another one.** -/
theorem trans (h : Advance asked a b new) (h' : Advance asked b c more) :
    Advance asked a c (new ++ more) where
  sender := h'.sender.trans h.sender
  chainId id hid := h'.chainId id (h.chainId id hid)
  nonce := by
    -- a nonce that the first advance has set is not missing in the second one
    rcases h.nonce with hab | ⟨ha, s, n, hs, hb, htold⟩
    · rcases h'.nonce with hbc | ⟨hb, s, n, hs, hc, htold⟩
      · exact .inl (hbc.trans hab)
      · exact .inr ⟨hab.symm.trans hb, s, n, h.sender.symm.trans hs, hc,
          htold.subset (List.subset_append_right _ _)⟩
    · rcases h'.nonce with hbc | ⟨hb', -⟩
      · exact .inr ⟨ha, s, n, hs, hbc.trans hb, htold.subset (List.subset_append_left _ _)⟩
      · rw [hb] at hb'
        cases hb'
  asked x hx := by
    rcases List.mem_append.mp hx with hx | hx
    · exact h.asked x hx
    · obtain ⟨q, answer, hask, hq⟩ := h'.asked x hx
      exact ⟨q, answer, hask, hq.congr h.sender⟩

end Advance

/-! ## Steps -/

namespace Populating

variable {asked : (q : Query) → Except ProviderError q.Answer → X → Prop}
variable {a : TransactionArgs} {reader : Reader (Logged X σ)}

/-- The step makes an advance from these arguments, also if it fails. -/
def Advances (asked : (q : Query) → Except ProviderError q.Answer → X → Prop)
    (m : Populating (Logged X σ) α) (a : TransactionArgs) : Prop :=
  Adds (m.run.run a) fun p new => Advance asked a p.2 new

/-- A value makes no change. -/
theorem advances_pure (x : α) : Advances asked (pure x : Populating (Logged X σ) α) a :=
  Adds.pure .refl

/-- Neither does an error, whatever would follow it. -/
theorem advances_throw (e : PopulateError) (f : α → Populating (Logged X σ) β) :
    Advances asked (throw e >>= f) a :=
  Adds.pure .refl

/-- An action leaves the arguments alone. -/
theorem adds_lift {act : Action (Logged X σ) α} {post : α → List X → Prop} (h : Adds act post) :
    Adds ((liftM act : Populating (Logged X σ) α).run.run a)
      fun p new => ∃ x, p = (.ok x, a) ∧ post x new := by
  have hrun : (liftM act : Populating (Logged X σ) α).run.run a
      = act >>= fun x => pure (.ok x, a) := rfl
  rw [hrun]
  exact h.map fun x new hpost => ⟨x, rfl, hpost⟩

/-- A report makes no change. -/
theorem advances_report (e : Event) :
    Advances asked (liftM (report e : Action (Logged X σ) Unit) : Populating (Logged X σ) Unit) a :=
  (adds_lift (adds_report e)).mono fun p new ⟨x, hp, hnew⟩ => by
    rw [hp, hnew]
    exact .refl

/-- Setting other fields is an advance. -/
theorem advances_modify {g : TransactionArgs → TransactionArgs} (h : Advance asked a (g a) []) :
    Advances asked (modify g : Populating (Logged X σ) Unit) a :=
  Adds.pure h

/-- **One step after another**: the second one begins with what the first one left, and an error of
the first one ends both. -/
theorem adds_bind {m : Populating (Logged X σ) α} {f : α → Populating (Logged X σ) β}
    {mid : Except PopulateError α × TransactionArgs → List X → Prop}
    {post : Except PopulateError β × TransactionArgs → List X → Prop}
    (hm : Adds (m.run.run a) mid)
    (hok : ∀ x b new, mid (.ok x, b) new →
      Adds ((f x).run.run b) fun p more => post p (new ++ more))
    (herr : ∀ e b new, mid (.error e, b) new → post (.error e, b) new) :
    Adds ((m >>= f).run.run a) post := by
  rw [ExceptT.run_bind, StateT.run_bind]
  refine Adds.bind hm ?_
  rintro ⟨r, b⟩ new hmid
  cases r with
  | ok x => exact hok x b new hmid
  | error e => exact Adds.pure (by rw [List.append_nil]; exact herr e b new hmid)

/-- So advances follow each other. -/
theorem Advances.bind {m : Populating (Logged X σ) α} {f : α → Populating (Logged X σ) β}
    (hm : Advances asked m a) (hf : ∀ x b, b.sender = a.sender → Advances asked (f x) b) :
    Advances asked (m >>= f) a :=
  adds_bind hm (fun x b _ hab => (hf x b hab.sender).mono fun _ _ hbc => hab.trans hbc)
    fun _ _ _ hab => hab

/-- Looking at the arguments. -/
theorem Advances.get {f : TransactionArgs → Populating (Logged X σ) α}
    (h : Advances asked (f a) a) : Advances asked (MonadState.get >>= f) a := h

/-- A question leaves the arguments alone, and its error is named after its purpose. -/
theorem run_ask (reader : Reader σ) (purpose : String) (q : Query) (a : TransactionArgs) :
    (ask reader purpose q).run.run a = (reader.ask q).run >>= fun answer =>
      pure (answer.mapError fun e => .reader purpose (.provider e), a) := by
  -- whatever is made of the answer does not look at the arguments
  have hrun {f : Except ProviderError q.Answer →
        StateT TransactionArgs (StateM (Env σ)) (Except PopulateError q.Answer)}
      (hf : ∀ answer, f answer = pure (answer.mapError fun e => .reader purpose (.provider e))) :
      (liftM (reader.ask q).run >>= f).run a = (reader.ask q).run >>= fun answer =>
        pure (answer.mapError fun e => .reader purpose (.provider e), a) := by
    rw [funext hf]
    rfl
  refine hrun fun answer => ?_
  cases answer <;> rfl

/-- A question is one entry. -/
theorem adds_ask (hr : reader.Tells asked) (purpose : String) (q : Query) :
    Adds ((ask reader purpose q).run.run a) fun p new => ∃ x answer, new = [x] ∧
      asked q answer x ∧ p = (answer.mapError fun e => .reader purpose (.provider e), a) := by
  rw [run_ask]
  refine (hr q).map ?_
  rintro answer new ⟨x, hnew, hask⟩
  exact ⟨x, answer, hnew, hask, rfl⟩

/-- **A question before a step**: the step begins with the arguments as they were. -/
theorem Advances.ask (hr : reader.Tells asked) {purpose : String} {q : Query} (hq : q.Concerns a)
    {f : q.Answer → Populating (Logged X σ) α} (hf : ∀ v, Advances asked (f v) a) :
    Advances asked (ask reader purpose q >>= f) a := by
  refine adds_bind (adds_ask hr purpose q) ?_ ?_
  · rintro v b _ ⟨x, answer, rfl, hask, hp⟩
    cases (Prod.mk.inj hp).2
    exact (hf v).mono fun _ _ h => Advance.trans (.ask hask hq) h
  · rintro e b _ ⟨x, answer, rfl, hask, hp⟩
    cases (Prod.mk.inj hp).2
    exact .ask hask hq

/-- Setting the price. -/
theorem advances_setPrice (hr : reader.Tells asked) : Advances asked (setPrice reader) a := by
  unfold setPrice
  refine .get ?_
  dsimp only
  split
  · exact advances_throw _ _
  · refine .get ?_
    split
    · exact .ask hr (by trivial) fun _ => advances_modify (.of_fields rfl rfl rfl)
    · exact advances_pure _

/-- Sets the caps that are missing when a single price has been turned into both of them. -/
def fillCaps (reader : Reader σ) : Option Amount → Populating σ Unit
  | some fee => modify (·.capsFromBaseFee fee)
  | none => do
    if (← get).lacksCap then
      let price ← Populating.ask reader "fetching gas price" .gasPrice
      modify (·.capsFromPrice price)

/-- Checks that the caps are in order. -/
def orderCaps : Populating σ Unit := do
  match (← get).checkCaps with
  | .ok () => pure ()
  | .error e => throw e

/-- **The caps are set in three steps**: those of a single price, those that are still missing, and
the check with which all ways end. -/
theorem setCaps_eq (reader : Reader σ) (baseFee : Option Amount) :
    setCaps reader baseFee = (do
      modify (·.priceToCaps)
      fillCaps reader baseFee
      orderCaps) := by
  cases baseFee with
  | some fee => rfl
  | none =>
    unfold setCaps fillCaps
    dsimp only
    refine bind_congr fun _ => ?_
    rw [bind_assoc]
    refine bind_congr fun a => ?_
    split
    · rw [bind_assoc]
      rfl
    · rw [pure_bind]
      rfl

/-- The check leaves the arguments alone. -/
theorem run_orderCaps (a : TransactionArgs) :
    (orderCaps : Populating σ Unit).run.run a = pure (a.checkCaps, a) := by
  rw [orderCaps, run_get_bind]
  cases a.checkCaps <;> rfl

/-- Setting the caps. -/
theorem advances_setCaps (hr : reader.Tells asked) (baseFee : Option Amount) :
    Advances asked (setCaps reader baseFee) a := by
  rw [setCaps_eq]
  refine .bind (advances_modify ?_) fun _ b _ => .bind ?_ fun _ c _ => ?_
  · rw [TransactionArgs.priceToCaps]
    split <;> exact .of_fields rfl rfl rfl
  · cases baseFee with
    | some fee => exact advances_modify (.of_fields rfl rfl rfl)
    | none =>
      refine .get ?_
      split
      · exact .ask hr (by trivial) fun _ => advances_modify (.of_fields rfl rfl rfl)
      · exact advances_pure _
  · rw [Advances, run_orderCaps]
    exact Adds.pure .refl

/-- Setting envelope and fees. -/
theorem advances_setFees (hr : reader.Tells asked) : Advances asked (setFees reader) a := by
  unfold setFees
  refine .get ?_
  dsimp only
  split
  · exact advances_throw _ _
  · refine .ask hr (by trivial) fun head => ?_
    cases head with
    | none => exact Adds.pure .refl
    | some block =>
      dsimp only
      cases a.envelope block.baseFee with
      | error e => exact Adds.pure .refl
      | ok type =>
        refine .bind (advances_report _) fun _ b _ => ?_
        refine .bind (advances_modify (.of_fields rfl rfl rfl)) fun _ c _ => ?_
        cases type with
        | dynamicFee => exact advances_setCaps hr _
        | legacy | accessList => exact advances_setPrice hr

/-- **The nonce is the count that is told**: with the pending transactions, or as of the latest
block if that one is not told. -/
theorem adds_nextNonce (hr : reader.Tells asked) {s : Address} (hs : a.sender = some s) :
    Adds ((nextNonce reader s).run.run a) fun p new => Advance asked a p.2 new ∧ p.2 = a ∧
      ∀ n, p.1 = .ok n → CountTold asked s n new := by
  -- the first question may fail without the step failing, so it is taken as an action
  unfold nextNonce
  rw [ExceptT.run_bind, StateT.run_bind]
  refine Adds.bind (adds_lift (hr (.transactionCount s .pending))) ?_
  rintro p new ⟨pending, rfl, x, rfl, hpending⟩
  have hx : Advance asked a a [x] := .ask hpending hs
  dsimp only
  cases pending with
  | ok n =>
    refine Adds.pure ⟨hx, rfl, fun m hm => ?_⟩
    cases hm
    exact .inl ⟨x, List.mem_singleton_self x, hpending⟩
  | error e =>
    rw [ExceptT.run_bind, StateT.run_bind]
    refine Adds.bind (adds_lift (adds_report _)) ?_
    rintro p new ⟨_, rfl, rfl⟩
    refine (adds_ask hr _ (.transactionCount s .latest)).mono ?_
    rintro p new ⟨y, latest, rfl, hlatest, rfl⟩
    refine ⟨hx.trans (.ask hlatest hs), rfl, fun n hn => ?_⟩
    cases latest with
    | error e => cases hn
    | ok m =>
      cases hn
      exact .inr ⟨⟨e, x, by simp, hpending⟩, y, by simp, hlatest⟩

/-- Setting the nonce. -/
theorem advances_setNonce (hr : reader.Tells asked) {s : Address} (hs : a.sender = some s) :
    Advances asked (setNonce reader s) a := by
  unfold setNonce
  refine .get ?_
  split
  · rename_i hnone
    have hnonce := Option.isNone_iff_eq_none.mp hnone
    refine adds_bind (adds_nextNonce hr hs) ?_ fun _ _ _ h => h.1
    rintro n b new ⟨hadv, rfl, htold⟩
    refine Adds.pure ?_
    rw [List.append_nil]
    exact ⟨rfl, fun _ h => h, .inr ⟨hnonce, s, n, hs, rfl, htold n rfl⟩, hadv.asked⟩
  · exact advances_pure _

/-- Setting the gas. -/
theorem advances_setGas (hr : reader.Tells asked) : Advances asked (setGas reader) a := by
  unfold setGas
  refine .get ?_
  split
  · exact .ask hr (by rfl) fun _ => advances_modify (.of_fields rfl rfl rfl)
  · exact advances_pure _

/-- Setting the chain id. -/
theorem advances_setChainId (hr : reader.Tells asked) : Advances asked (setChainId reader) a := by
  unfold setChainId
  refine .get ?_
  split
  · rename_i hnone
    refine .ask hr (by trivial) fun id => ?_
    cases id with
    | none => exact Adds.pure .refl
    | some id =>
      -- a chain id that is set is not asked for
      refine advances_modify ⟨rfl, fun id' hid => ?_, .inl rfl, fun _ h => absurd h (by simp)⟩
      rw [Option.isNone_iff_eq_none.mp hnone] at hid
      cases hid
  · exact advances_pure _

/-- Setting everything. -/
theorem advances_setAll (hr : reader.Tells asked) : Advances asked (setAll reader) a := by
  unfold setAll
  refine .get ?_
  cases hs : a.sender with
  | none => exact Adds.pure .refl
  | some s =>
    -- every step keeps the sender, which the later ones ask about
    refine .bind (advances_setFees hr) fun _ b hb => ?_
    refine .bind (advances_modify (.of_fields rfl rfl rfl)) fun _ c hc => ?_
    refine .bind (advances_setNonce hr (hc.trans (hb.trans hs))) fun _ d _ => .get ?_
    dsimp only
    split
    · exact advances_throw _ _
    · exact .bind (advances_setGas hr) fun _ _ _ => advances_setChainId hr

end Populating

/-- **Population makes an advance**, also if it fails: it keeps the sender, asks about this sender
alone, and takes a missing nonce from the count that is told. -/
theorem TransactionArgs.adds_populate {reader : Reader (Logged X σ)}
    {asked : (q : Query) → Except ProviderError q.Answer → X → Prop} (hr : reader.Tells asked)
    (a : TransactionArgs) :
    Adds (a.populate reader) fun p new => Advance asked a p.2 new :=
  Populating.advances_setAll hr

/-! ## Transactions of populated arguments -/

namespace TransactionArgs

/-- **The transaction of some arguments** has their nonce, gas, sender and chain id. -/
theorem fields_of_toTransaction? {a : TransactionArgs} {tx : Transaction}
    (h : a.toTransaction? = some tx) :
    ∃ nonce gas, a.nonce = some nonce ∧ a.gas = some gas ∧
      tx.fields = a.transactionFields nonce gas := by
  obtain ⟨nonce, hn, h⟩ := Option.bind_eq_some_iff.mp h
  obtain ⟨gas, hg, h⟩ := Option.bind_eq_some_iff.mp h
  obtain ⟨type, -, h⟩ := Option.bind_eq_some_iff.mp h
  refine ⟨nonce, gas, hn, hg, ?_⟩
  cases type <;> exact Option.some.inj h ▸ rfl

/-- What populated some arguments and made a transaction of them: a run of population beside these
entries. -/
def PopulatedIn (reader : Reader (Logged X σ)) (a populated : TransactionArgs) (new : List X) :
    Prop :=
  ∃ env, (a.populate reader env).1 = (.ok (), populated) ∧
    (a.populate reader env).2.log = env.log ++ new

/-- **A transaction that population comes to** is the one of the populated arguments. -/
theorem adds_populateToTransaction {reader : Reader (Logged X σ)}
    {asked : (q : Query) → Except ProviderError q.Answer → X → Prop} (hr : reader.Tells asked)
    (a : TransactionArgs) :
    Adds (a.populateToTransaction reader) fun r new =>
      (∀ x ∈ new, ∃ q answer, asked q answer x ∧ q.Concerns a) ∧
      ∀ tx, r = .ok tx → ∃ populated, a.PopulatedIn reader populated new ∧
        Advance asked a populated new ∧ populated.toTransaction? = some tx := by
  refine (adds_populate hr a).reached.bind ?_
  rintro ⟨r, b⟩ new ⟨hadv, hrun⟩
  cases r with
  | error e =>
    refine Adds.pure ?_
    rw [List.append_nil]
    exact ⟨hadv.asked, fun tx h => by cases h⟩
  | ok u =>
    dsimp only
    cases htx : b.toTransaction? with
    | none =>
      refine Adds.pure ?_
      rw [List.append_nil]
      exact ⟨hadv.asked, fun tx h => by cases h⟩
    | some tx =>
      refine Adds.pure ?_
      rw [List.append_nil]
      refine ⟨hadv.asked, fun tx' h => ?_⟩
      cases h
      exact ⟨b, hrun, hadv, htx⟩

end TransactionArgs

end EthClient
