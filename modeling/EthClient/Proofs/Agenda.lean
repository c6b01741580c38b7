import EthClient.Proofs.Alike
import EthClient.Proofs.Retention

/-! # What population asks, and in which order

Population asks for what is missing and for nothing else. `Query.agenda` is everything that it may
ask for a sender, in the order in which it does, and `Query.IsNeeded` says when it asks. An answer
with which it cannot go on **aborts** it (`Inquiry.Aborts`).

The questions of a part of population make up a `Round`: they are on a part of the agenda, each of
them is needed, and after one that aborts nothing more is asked. Rounds follow each other
(`Populating.Round.append`), and a field that is missing by then was missing in the beginning
(`TransactionArgs.Retained`). So the whole is one round over the whole agenda
(**`TransactionArgs.populate_asks_in_order`**). -/

namespace EthClient

variable {σ α β : Type}

/-! ## Questions and answers -/

namespace Query

/-- The question without the arguments of an estimate, which are not known beforehand. -/
def outline : Query → Query
  | .estimateGas _ tag => .estimateGas {} tag
  | q => q

/-- The questions that population may ask for a sender, in their order. -/
def agenda (sender : Address) : List Query :=
  [.blockByNumber .latest false, .gasPrice, .transactionCount sender .pending,
    .transactionCount sender .latest, .estimateGas {} .pending, .chainId]

/-- None of them is there twice. -/
theorem nodup_agenda (sender : Address) : (agenda sender).Nodup := by
  simp [agenda]

end Query

/-- The fees of the envelope cannot be set without a price that the node suggests. -/
def TransactionArgs.LacksPrice (a : TransactionArgs) (baseFee : Option Amount) : Prop :=
  match a.resolvedType baseFee with
  | .ok .dynamicFee => baseFee = none ∧ a.gasPrice = none ∧ a.lacksCap = true
  | .ok _ => a.gasPrice = none ∧ a.hasFeeMarketFields = false
  | .error _ => False

/-- What the question is about is missing, and the arguments have passed the checks before it. What
the node has told about the latest block decides whether a price is missing. -/
def Query.IsNeeded (a : TransactionArgs) (head : Except ProviderError (Option Block)) :
    Query → Prop
  | .blockByNumber .. => True
  | .gasPrice => ∃ block, head = .ok (some block) ∧ a.LacksPrice block.baseFee
  | .transactionCount .. => a.nonce = none
  | .estimateGas args _ =>
    a.gas = none ∧ (a.recipient.isNone && a.dataIsEmpty) = false ∧ a.Retained args
  | .chainId => a.chainId = none

/-- Population cannot go on with this answer. If the count with the pending transactions is not
told, then the other one is asked for. -/
def Inquiry.Aborts : Inquiry → Prop
  | ⟨.blockByNumber .., answer⟩ => ∀ block, answer ≠ .ok (some block)
  | ⟨.transactionCount _ .pending, _⟩ => False
  | ⟨.chainId, answer⟩ => ∀ id, answer ≠ .ok (some id)
  | ⟨_, answer⟩ => ∃ e, answer = .error e

/-- A price that became both caps leaves none of them missing. -/
theorem TransactionArgs.lacksCap_of_priceToCaps {a : TransactionArgs}
    (h : a.priceToCaps.lacksCap = true) : a.gasPrice = none ∧ a.lacksCap = true := by
  cases hprice : a.gasPrice with
  | none =>
    rw [priceToCaps_of_none hprice] at h
    exact ⟨rfl, h⟩
  | some price =>
    rw [priceToCaps_of_some hprice] at h
    cases h

namespace Populating

/-! ## Rounds -/

/-- The questions that a part of population has asked, what came of it, and the questions that stand
on its part of the agenda. -/
structure Round (front : List Query) (a : TransactionArgs)
    (head : Except ProviderError (Option Block)) (r : Except PopulateError α)
    (new : List Inquiry) : Prop where
  inOrder : (new.map (·.query.outline)).Sublist front
  needed : ∀ x ∈ new, x.query.IsNeeded a head
  /-- The count as of the latest block is asked for if the other one failed, and only then. -/
  fallback : ∀ s, (∃ answer, ⟨.transactionCount s .latest, answer⟩ ∈ new) ↔
    ∃ e, ⟨.transactionCount s .pending, .error e⟩ ∈ new
  /-- What aborts is the last question, and population fails. -/
  aborted : ∀ before x after, new = before ++ x :: after → x.Aborts →
    after = [] ∧ ∃ e, r = .error e

namespace Round

variable {front front' : List Query} {a : TransactionArgs}
variable {head : Except ProviderError (Option Block)} {new more : List Inquiry}

/-- Nothing is asked. -/
theorem nil (front : List Query) (r : Except PopulateError α) : Round front a head r [] where
  inOrder := List.nil_sublist _
  needed _ h := absurd h List.not_mem_nil
  fallback _ := ⟨fun ⟨_, h⟩ => absurd h List.not_mem_nil, fun ⟨_, h⟩ => absurd h List.not_mem_nil⟩
  aborted before x after h _ := absurd h.symm (by simp)

/-- One question, which is not about a count. -/
theorem single {q : Query} {answer : Except ProviderError q.Answer} {r : Except PopulateError α}
    (hq : q.IsNeeded a head) (hcount : ∀ s tag, q ≠ .transactionCount s tag)
    (haborts : Inquiry.Aborts ⟨q, answer⟩ → ∃ e, r = .error e) :
    Round [q.outline] a head r [⟨q, answer⟩] where
  inOrder := .refl _
  needed x hx := by
    rw [List.mem_singleton.mp hx]
    exact hq
  fallback s := by
    have hnone (tag : BlockTag) (told : Except ProviderError Amount) :
        (⟨.transactionCount s tag, told⟩ : Inquiry) ∉ [⟨q, answer⟩] := fun hmem =>
      hcount s tag (congrArg Inquiry.query (List.mem_singleton.mp hmem)).symm
    exact ⟨fun ⟨_, h⟩ => absurd h (hnone _ _), fun ⟨_, h⟩ => absurd h (hnone _ _)⟩
  aborted before x after h hx := by
    rcases List.append_eq_singleton_iff.mp h.symm with ⟨-, hlast⟩ | ⟨-, hnil⟩
    · obtain ⟨rfl, rfl⟩ := List.cons.inj hlast
      exact ⟨rfl, haborts hx⟩
    · cases hnil

/-- The count with the pending transactions, if it is told. -/
theorem count (hnone : a.nonce = none) (s : Address) (n : Amount) (r : Except PopulateError α) :
    Round [.transactionCount s .pending] a head r [⟨.transactionCount s .pending, .ok n⟩] where
  inOrder := .refl _
  needed x hx := by
    rw [List.mem_singleton.mp hx]
    exact hnone
  fallback t := by
    constructor
    · rintro ⟨answer, hmem⟩
      cases List.mem_singleton.mp hmem
    · rintro ⟨e, hmem⟩
      cases List.mem_singleton.mp hmem
  aborted before x after h hx := by
    rcases List.append_eq_singleton_iff.mp h.symm with ⟨-, hlast⟩ | ⟨-, hnil⟩
    · obtain ⟨rfl, rfl⟩ := List.cons.inj hlast
      exact hx.elim
    · cases hnil

/-- Otherwise the count as of the latest block. -/
theorem counts (hnone : a.nonce = none) (s : Address) (e : ProviderError)
    {answer : Except ProviderError Amount} {r : Except PopulateError α}
    (hr : ∀ e, answer = .error e → ∃ e', r = .error e') :
    Round [.transactionCount s .pending, .transactionCount s .latest] a head r
      [⟨.transactionCount s .pending, .error e⟩, ⟨.transactionCount s .latest, answer⟩] where
  inOrder := .refl _
  needed x hx := by
    rcases List.mem_pair.mp hx with rfl | rfl <;> exact hnone
  fallback t := by
    constructor
    · rintro ⟨told, hmem⟩
      rcases List.mem_pair.mp hmem with h | h <;> cases h
      exact ⟨e, by simp⟩
    · rintro ⟨e', hmem⟩
      rcases List.mem_pair.mp hmem with h | h <;> cases h
      exact ⟨answer, by simp⟩
  aborted before x after h hx := by
    cases before with
    | nil =>
      -- the first one does not abort, because there is the second one
      obtain ⟨rfl, -⟩ := List.cons.inj h
      exact hx.elim
    | cons y before =>
      rcases List.append_eq_singleton_iff.mp (List.cons.inj h).2.symm with ⟨-, hlast⟩ | ⟨-, hnil⟩
      · obtain ⟨rfl, rfl⟩ := List.cons.inj hlast
        obtain ⟨e', he⟩ := hx
        exact ⟨rfl, hr e' he⟩
      · cases hnil

/-- As long as population goes on, nothing has aborted it. -/
theorem not_aborts {v : α} (h : Round front a head (.ok v) new) {x : Inquiry} (hx : x ∈ new) :
    ¬ x.Aborts := by
  intro habort
  obtain ⟨before, after, hnew⟩ := List.append_of_mem hx
  obtain ⟨-, e, he⟩ := h.aborted before x after hnew habort
  cases he

/-- **Rounds follow each other** as long as population goes on. -/
theorem append {v : α} {r : Except PopulateError β} (h : Round front a head (.ok v) new)
    (h' : Round front' a head r more) : Round (front ++ front') a head r (new ++ more) where
  inOrder := by
    rw [List.map_append]
    exact h.inOrder.append h'.inOrder
  needed x hx := by
    rcases List.mem_append.mp hx with hx | hx
    · exact h.needed x hx
    · exact h'.needed x hx
  fallback s := by
    simp only [List.mem_append, exists_or]
    exact or_congr (h.fallback s) (h'.fallback s)
  aborted before x after heq hx := by
    -- what aborts is among the later questions
    rcases List.append_eq_append_iff.mp heq with ⟨between, -, hmore⟩ | ⟨between, hnew, hmore⟩
    · exact h'.aborted between x after hmore hx
    · cases between with
      | nil => exact h'.aborted [] x after hmore.symm hx
      | cons y between =>
        obtain ⟨rfl, -⟩ := List.cons.inj hmore
        exact absurd hx (h.not_aborts (by rw [hnew]; simp))

/-- What the part comes to does not matter, but that it fails if it did. -/
theorem congr {r : Except PopulateError α} {r' : Except PopulateError β}
    (h : Round front a head r new) (hr : ∀ e, r = .error e → ∃ e', r' = .error e') :
    Round front a head r' new :=
  { h with
    aborted := fun before x after heq hx => by
      obtain ⟨hlast, e, he⟩ := h.aborted before x after heq hx
      exact ⟨hlast, hr e he⟩ }

/-- The agenda may have more on it than is asked. -/
theorem extend {r : Except PopulateError α} (h : Round front a head r new) (front' : List Query) :
    Round (front ++ front') a head r new :=
  { h with inOrder := h.inOrder.trans (List.sublist_append_left _ _) }

end Round

/-! ## Steps -/

section Steps

variable {front front' : List Query} {a b : TransactionArgs} {reader : Reader σ}
variable {head : Except ProviderError (Option Block)}

/-- The questions of the step are a round of the population of some arguments, which have come to
others by now. -/
def Inquires (front : List Query) (a : TransactionArgs)
    (head : Except ProviderError (Option Block)) (m : Populating (Logged Inquiry σ) α)
    (b : TransactionArgs) : Prop :=
  Adds (m.run.run b) fun p new => Round front a head p.1 new

/-- **One step after another.** -/
theorem Inquires.bind {m : Populating (Logged Inquiry σ) α}
    {f : α → Populating (Logged Inquiry σ) β} (h : Inquires front a head m b)
    (hkeep : Retains m b) (hf : ∀ x c, b.Retained c → Inquires front' a head (f x) c) :
    Inquires (front ++ front') a head (m >>= f) b := by
  -- every run of the first step makes a round and keeps what is set
  have hm : Adds (m.run.run b) fun p new => Round front a head p.1 new ∧ b.Retained p.2 := by
    intro env
    obtain ⟨new, hlog, hround⟩ := h env
    exact ⟨new, hlog, hround, (hkeep env).1⟩
  refine adds_bind hm ?_ ?_
  · rintro x c new ⟨hround, hkept⟩
    exact (hf x c hkept).mono fun p more hmore => hround.append hmore
  · rintro e c new ⟨hround, -⟩
    exact (hround.congr fun _ _ => ⟨e, rfl⟩).extend front'

/-- Looking at the arguments. -/
theorem Inquires.get {f : TransactionArgs → Populating (Logged Inquiry σ) α}
    (h : Inquires front a head (f b) b) : Inquires front a head (MonadState.get >>= f) b := h

/-- A step that asks nothing. -/
theorem inquires_of_pure {m : Populating (Logged Inquiry σ) α}
    {p : Except PopulateError α × TransactionArgs} (h : m.run.run b = pure p) (front : List Query) :
    Inquires front a head m b := by
  rw [Inquires, h]
  exact Adds.pure (.nil _ _)

/-- A change before a step, which then begins with the changed arguments. -/
theorem inquires_modify_bind {g : TransactionArgs → TransactionArgs}
    {f : Unit → Populating (Logged Inquiry σ) α} (h : Inquires front a head (f ()) (g b)) :
    Inquires front a head (modify g >>= f) b := h

/-- A check before a step, which is taken only if nothing is wrong. -/
theorem inquires_refuse_bind {wrong : TransactionArgs → Bool} {e : PopulateError}
    {f : Unit → Populating (Logged Inquiry σ) α}
    (h : wrong b = false → Inquires front a head (f ()) b) :
    Inquires front a head (refuse wrong e >>= f) b := by
  rw [Inquires, ExceptT.run_bind, StateT.run_bind, run_refuse, pure_bind]
  cases hwrong : wrong b with
  | true => exact Adds.pure (.nil _ _)
  | false => exact h hwrong

/-- A question that is not about a count, and whose answer aborts population only if it is an
error. -/
theorem inquires_ask {q : Query} (hq : q.IsNeeded a head)
    (hcount : ∀ s tag, q ≠ .transactionCount s tag)
    (haborts : ∀ answer, Inquiry.Aborts ⟨q, answer⟩ → ∃ e, answer = .error e) (purpose : String) :
    Inquires [q.outline] a head (ask reader.logged purpose q) b := by
  refine (adds_ask reader.tells_logged purpose q).mono ?_
  rintro p new ⟨x, answer, rfl, rfl, rfl⟩
  refine .single hq hcount fun habort => ?_
  obtain ⟨e, rfl⟩ := haborts answer habort
  exact ⟨_, rfl⟩

/-- **A field that is asked for** if it is missing. -/
theorem inquires_fetch {missing : TransactionArgs → Bool}
    {m : TransactionArgs → Populating (Logged Inquiry σ) α}
    {store : α → TransactionArgs → TransactionArgs}
    (h : missing b = true → Inquires front a head (m b) b) :
    Inquires front a head (fetch missing m store) b := by
  refine .get ?_
  cases hmissing : missing b with
  | false => exact Adds.pure (.nil _ _)
  | true =>
    refine adds_bind (h hmissing) ?_ ?_
    · intro v c new hround
      refine Adds.pure ?_
      rw [List.append_nil]
      exact hround.congr nofun
    · intro e c new hround
      exact hround.congr fun _ _ => ⟨e, rfl⟩

/-- The single price. -/
theorem inquires_setPrice (hneeded : b.hasFeeMarketFields = false → b.gasPrice = none →
    Query.gasPrice.IsNeeded a head) :
    Inquires [.gasPrice] a head (setPrice reader.logged) b := by
  rw [setPrice_eq]
  refine inquires_refuse_bind fun hcaps => inquires_fetch fun hnone => ?_
  have hq := hneeded hcaps (Option.isNone_iff_eq_none.mp hnone)
  exact inquires_ask hq nofun (fun _ h => h) _

/-- The caps that are missing. -/
theorem inquires_fillCaps {baseFee : Option Amount} (hneeded : baseFee = none →
    b.lacksCap = true → Query.gasPrice.IsNeeded a head) :
    Inquires [.gasPrice] a head (fillCaps reader.logged baseFee) b := by
  cases baseFee with
  | some fee => exact inquires_of_pure rfl _
  | none =>
    rw [fillCaps_none_eq]
    exact inquires_fetch fun hlacks => inquires_ask (hneeded rfl hlacks) nofun (fun _ h => h) _

/-- The fees of the envelope. -/
theorem inquires_setPrices {block : Block} {type : TxType}
    (htype : a.resolvedType block.baseFee = .ok type) :
    Inquires [.gasPrice] a (.ok (some block)) (setPrices reader.logged block.baseFee type)
      { a with txType := some type } := by
  have hneeded (h : a.LacksPrice block.baseFee) :
      Query.gasPrice.IsNeeded a (.ok (some block)) := ⟨block, rfl, h⟩
  rw [TransactionArgs.LacksPrice, htype] at hneeded
  cases type with
  | dynamicFee =>
    unfold setPrices
    rw [setCaps_eq]
    refine inquires_modify_bind ?_
    have hfill : Inquires [.gasPrice] a (.ok (some block)) (fillCaps reader.logged block.baseFee)
        { a with txType := some .dynamicFee }.priceToCaps := by
      refine inquires_fillCaps fun hbase hlacks => ?_
      obtain ⟨hprice, hlacks⟩ := TransactionArgs.lacksCap_of_priceToCaps hlacks
      exact hneeded ⟨hbase, hprice, hlacks⟩
    exact hfill.bind (retains_fillCaps (TransactionArgs.gasPrice_priceToCaps _) _) fun _ c _ =>
      inquires_of_pure (run_orderCaps c) []
  | legacy | accessList =>
    exact inquires_setPrice fun hcaps hprice => hneeded ⟨hprice, hcaps⟩

/-- **The questions for the nonce**: the second one is asked if the first one is not answered. -/
theorem inquires_nextNonce (hnone : a.nonce = none) (s : Address) :
    Inquires [.transactionCount s .pending, .transactionCount s .latest] a head
      (nextNonce reader.logged s) b := by
  -- the two questions are one round, because only together they say when the second one is asked
  unfold nextNonce
  rw [Inquires, ExceptT.run_bind, StateT.run_bind]
  refine Adds.bind (adds_lift (reader.tells_logged (.transactionCount s .pending))) ?_
  rintro p new ⟨pending, rfl, x, rfl, rfl⟩
  dsimp only
  cases pending with
  | ok n => exact Adds.pure ((Round.count hnone s n _).extend _)
  | error e =>
    rw [ExceptT.run_bind, StateT.run_bind]
    refine Adds.bind (adds_lift (adds_report _)) ?_
    rintro p new ⟨_, rfl, rfl⟩
    refine (adds_ask reader.tells_logged _ (.transactionCount s .latest)).mono ?_
    rintro p new ⟨y, latest, rfl, rfl, rfl⟩
    refine .counts hnone s e fun e' he => ?_
    subst he
    exact ⟨_, rfl⟩

/-- The question for the chain id. -/
theorem inquires_tellChainId (hnone : a.chainId = none) :
    Inquires [.chainId] a head (tellChainId reader.logged) b := by
  -- that the id is not known is an answer, but it aborts: the question alone is not a round
  have hone {answer : Except ProviderError (Option Number64)}
      {r : Except PopulateError Number64}
      (haborts : (∀ id, answer ≠ .ok (some id)) → ∃ e, r = .error e) :
      Round [.chainId] a head r [⟨.chainId, answer⟩] :=
    .single (q := .chainId) hnone nofun haborts
  refine adds_bind (adds_ask reader.tells_logged _ .chainId) ?_ ?_
  · rintro told c new ⟨x, answer, rfl, rfl, hp⟩
    cases answer with
    | error e => cases hp
    | ok told' =>
      obtain rfl : told = told' := Except.ok.inj (congrArg Prod.fst hp)
      cases told with
      | none => exact Adds.pure (hone fun _ => ⟨_, rfl⟩)
      | some id => exact Adds.pure (hone fun h => absurd rfl (h id))
  · rintro e c new ⟨x, answer, rfl, rfl, hp⟩
    exact hone fun _ => ⟨e, rfl⟩

/-- The nonce. What is missing by now was missing in the beginning. -/
theorem inquires_setNonce (hab : a.Retained b) (s : Address) :
    Inquires [.transactionCount s .pending, .transactionCount s .latest] a head
      (setNonce reader.logged s) b := by
  rw [setNonce_eq]
  exact inquires_fetch fun hnone =>
    inquires_nextNonce (hab.nonce.eq_none (Option.isNone_iff_eq_none.mp hnone)) s

/-- The gas. -/
theorem inquires_setGas (hab : a.Retained b)
    (htarget : (b.recipient.isNone && b.dataIsEmpty) = false) :
    Inquires [.estimateGas {} .pending] a head (setGas reader.logged) b := by
  rw [setGas_eq]
  refine inquires_fetch fun hnone => ?_
  have hgas := hab.gas.eq_none (Option.isNone_iff_eq_none.mp hnone)
  have htarget' : (a.recipient.isNone && a.dataIsEmpty) = false := by
    rw [TransactionArgs.dataIsEmpty, ← hab.recipient, ← hab.data]
    exact htarget
  exact inquires_ask (q := .estimateGas b .pending) ⟨hgas, htarget', hab⟩ nofun (fun _ h => h) _

/-- The chain id. -/
theorem inquires_setChainId (hab : a.Retained b) :
    Inquires [.chainId] a head (setChainId reader.logged) b := by
  rw [setChainId_eq]
  exact inquires_fetch fun hnone =>
    inquires_tellChainId (hab.chainId.eq_none (Option.isNone_iff_eq_none.mp hnone))

/-- **What is asked behind the fees.** -/
theorem inquires_complete (hab : a.Retained b) (s : Address) :
    Inquires [.transactionCount s .pending, .transactionCount s .latest, .estimateGas {} .pending,
      .chainId] a head (complete reader.logged s) b := by
  -- each step is asked about the arguments that the steps before it have left
  have hab := hab.trans (.of_value b)
  unfold complete
  refine inquires_modify_bind ?_
  refine (inquires_setNonce hab s).bind (retains_setNonce s) fun _ c hbc => ?_
  have hac := hab.trans hbc
  refine inquires_refuse_bind fun htarget => ?_
  exact (inquires_setGas hac htarget).bind retains_setGas fun _ d hcd =>
    inquires_setChainId (hac.trans hcd)

/-- **What is asked once the envelope is chosen.** -/
theorem inquires_settleAs {block : Block} {type : TxType}
    (htype : a.resolvedType block.baseFee = .ok type) (hone : ¬ a.hasConflict) (s : Address) :
    Inquires [.gasPrice, .transactionCount s .pending, .transactionCount s .latest,
        .estimateGas {} .pending, .chainId] a (.ok (some block))
      (settleAs reader.logged s block.baseFee type) a := by
  have hset : a.Retained { a with txType := some type } :=
    .of_envelope ((a.envelope_eq _).trans htype)
  unfold settleAs chooseFees
  rw [bind_assoc]
  exact inquires_modify_bind ((inquires_setPrices htype).bind
    (retains_setPrices rfl (hset.noConflict hone) _) fun _ c hc =>
      inquires_complete (hset.trans hc) s)

end Steps

/-- **What population asks of the node that has answered about the latest block.** -/
theorem adds_settleOn {a : TransactionArgs} (hone : ¬ a.hasConflict) (reader : Reader σ)
    (s : Address) (head : Except ProviderError (Option Block)) :
    Adds (settleOn reader.logged s a head) fun p new =>
      Round (Query.agenda s) a head p.1 (⟨.blockByNumber .latest false, head⟩ :: new) := by
  have hasked {r : Except PopulateError Unit}
      (hr : (∀ block, head ≠ .ok (some block)) → ∃ e, r = .error e) :
      Round [.blockByNumber .latest false] a head r [⟨.blockByNumber .latest false, head⟩] :=
    .single (q := .blockByNumber .latest false) trivial nofun hr
  match head with
  | .error e => exact Adds.pure ((hasked fun _ => ⟨_, rfl⟩).extend _)
  | .ok none => exact Adds.pure ((hasked fun _ => ⟨_, rfl⟩).extend _)
  | .ok (some block) =>
    rw [settleOn]
    cases htype : a.envelope block.baseFee with
    | error e => exact Adds.pure ((hasked fun _ => ⟨_, rfl⟩).extend _)
    | ok type =>
      refine Adds.after (adds_report _) fun _ => ?_
      have hresolved := (a.envelope_eq _).symm.trans htype
      refine (inquires_settleAs hresolved hone s).mono fun p new hround => ?_
      exact (hasked (r := .ok ()) fun h => absurd rfl (h block)).append hround

end Populating

/-- **Population asks only for what is missing, in the order of its agenda.** The questions are
recorded, and the record changes nothing else. Nothing is asked without a sender or with prices of
both kinds, and only then. The questions stand on the agenda of the sender, in this order and each
at most once; every one of them is needed; the count as of the latest block is asked for exactly
when the other one failed; and after an answer that aborts population nothing more is asked. -/
theorem TransactionArgs.populate_asks_in_order (a : TransactionArgs) (reader : Reader σ)
    (env : Env (Logged Inquiry σ)) :
    let head := ((reader.ask (.blockByNumber .latest false)).run env.erase).1
    let r := (a.populate reader env.erase).1.1
    (a.populate reader.logged env).1 = (a.populate reader env.erase).1 ∧
      ∃ new, (a.populate reader.logged env).2.log = env.log ++ new ∧
        (new = [] ↔ a.sender = none ∨ a.hasConflict) ∧
        ∀ s, a.sender = some s →
          (new.map (·.query.outline)).Nodup ∧ Populating.Round (Query.agenda s) a head r new := by
  intro head r
  have hsame := (a.erase_populate_logged reader env).1
  refine ⟨hsame, ?_⟩
  have hsame' : (a.populate reader.logged env).1.1 = r := congrArg Prod.fst hsame
  rw [← hsame', populate_eq]
  cases a.sender with
  | none => exact ⟨[], (List.append_nil _).symm, iff_of_true rfl (.inl rfl), nofun⟩
  | some sender =>
    dsimp only
    split
    · rename_i hboth
      have hconflict : a.hasConflict := Bool.and_eq_true_iff.mp hboth
      exact ⟨[], (List.append_nil _).symm, iff_of_true rfl (.inr hconflict),
        fun s _ => ⟨List.nodup_nil, .nil _ _⟩⟩
    · rename_i hboth
      have hone : ¬ a.hasConflict := fun h => hboth (Bool.and_eq_true_iff.mpr h)
      rw [run_action_bind]
      obtain ⟨new, hlog, hround⟩ := Populating.adds_settleOn hone reader sender head
        ((reader.logged.ask (.blockByNumber .latest false)).run env).2
      refine ⟨⟨.blockByNumber .latest false, head⟩ :: new, ?_, ?_, ?_⟩
      · refine hlog.trans ?_
        exact List.append_assoc _ [_] new
      · refine iff_of_false (List.cons_ne_nil _ _) ?_
        rintro (hnone | hconflict)
        · cases hnone
        · exact hone hconflict
      · intro s hs
        obtain rfl := Option.some.inj hs
        have hnodup := hround.inOrder.nodup (Query.nodup_agenda sender)
        exact ⟨hnodup, hround⟩

/-- A transfer on a chain with a base fee needs no price. -/
example :
    let a : TransactionArgs := { sender := some default, recipient := some default }
    let env : Env (Logged Inquiry Unit) := { node := ⟨[], ()⟩ }
    (a.populate (Reader.steady (some 5) 7).logged env).2.log.map (·.query.outline)
      = [.blockByNumber .latest false, .transactionCount default .pending,
        .estimateGas {} .pending, .chainId] := rfl

end EthClient
