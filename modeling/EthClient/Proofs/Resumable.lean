import EthClient.Proofs.Steps

/-! # Steps that can be taken again

A step of population that lost its connection to the node has changed some of the arguments. It is
**resumable** (`Populating.Resumable`) if it can be taken again from what it left: with a node that
answers, it comes from there to what it would have come to from the beginning. If it succeeded, this
is what it left, and taking it once more makes no change.

* Setting a field that is missing, if what is asked for it was told by the same node, is resumable
  (**`Populating.resumable_fetch`**).
* One resumable step after another is resumable, if the second one keeps what the first one was
  for (**`Populating.Resumable.bind`**). -/

namespace EthClient

variable {σ α β : Type}

/-! ## Connections -/

/-- The reader that answers from a table. -/
def Reader.fixed (answers : (q : Query) → Except ProviderError q.Answer) : Reader σ where
  ask q := .ofExcept (answers q)

/-- The reader that answers the first `k` questions from a table and then has lost its connection.
The node counts the questions. -/
def Reader.severed (answers : (q : Query) → Except ProviderError q.Answer) (k : Nat)
    (loss : Nat → ProviderError) : Reader Nat where
  ask q := ExceptT.mk fun env =>
    (if env.node < k then answers q else .error (loss env.node), { env with node := env.node + 1 })

section Severed

variable {answers : (q : Query) → Except ProviderError q.Answer} {k : Nat}
variable {loss : Nat → ProviderError} {env : Env Nat}

/-- With its connection, it answers from the table. -/
theorem Reader.run_severed_of_lt (h : env.node < k) (q : Query) :
    ((Reader.severed answers k loss).ask q).run env
      = (answers q, { env with node := env.node + 1 }) := by
  have hrun : ((Reader.severed answers k loss).ask q).run env
      = (if env.node < k then answers q else .error (loss env.node),
        { env with node := env.node + 1 }) := rfl
  rw [hrun, if_pos h]

/-- Without it, it fails. -/
theorem Reader.run_severed_of_not_lt (h : ¬ env.node < k) (q : Query) :
    ((Reader.severed answers k loss).ask q).run env
      = (.error (loss env.node), { env with node := env.node + 1 }) := by
  have hrun : ((Reader.severed answers k loss).ask q).run env
      = (if env.node < k then answers q else .error (loss env.node),
        { env with node := env.node + 1 }) := rfl
  rw [hrun, if_neg h]

end Severed

namespace Populating

variable {a b : TransactionArgs}

/-! ## What a step comes to -/

/-- In every environment the step comes to this result and these arguments. -/
def Gives (f : Populating σ α) (a : TransactionArgs)
    (out : Except PopulateError α × TransactionArgs) : Prop :=
  ∀ env, (f.run.run a env).1 = out

/-- A step that does not look at the environment. -/
theorem gives_of_pure {f : Populating σ α} {out : Except PopulateError α × TransactionArgs}
    (h : f.run.run a = pure out) : Gives f a out := by
  intro env
  rw [h]
  rfl

/-- **One step after another.** -/
theorem Gives.bind {f : Populating σ α} {g : α → Populating σ β} {x : α}
    {out : Except PopulateError β × TransactionArgs} (h : Gives f a (.ok x, b))
    (hg : Gives (g x) b out) : Gives (f >>= g) a out := by
  intro env
  rw [ExceptT.run_bind, StateT.run_bind, run_action_bind, h env]
  exact hg _

/-- An error of the first one ends both. -/
theorem Gives.bind_error {f : Populating σ α} {g : α → Populating σ β} {e : PopulateError}
    (h : Gives f a (.error e, b)) : Gives (f >>= g) a (.error e, b) := by
  intro env
  rw [ExceptT.run_bind, StateT.run_bind, run_action_bind, h env]
  rfl

/-- Looking at the arguments. -/
theorem Gives.get {g : TransactionArgs → Populating σ α}
    {out : Except PopulateError α × TransactionArgs} (h : Gives (g a) a out) :
    Gives (MonadState.get >>= g) a out := h

/-- A question is answered from the table. -/
theorem gives_ask (answers : (q : Query) → Except ProviderError q.Answer) (purpose : String)
    (q : Query) (a : TransactionArgs) :
    Gives (ask (Reader.fixed answers : Reader σ) purpose q) a
      ((answers q).mapError fun e => .reader purpose (.provider e), a) := by
  intro env
  rw [run_ask]
  rfl

/-! ## What a step keeps -/

/-- The arguments have the property afterwards if they had it before, also after an error. -/
def Keeps (m : Populating σ α) (P : TransactionArgs → Prop) : Prop :=
  ∀ a env, P a → Ends m a env fun _ b _ => P b

variable {P : TransactionArgs → Prop}

/-- One step after another. -/
theorem Keeps.bind {m : Populating σ α} {f : α → Populating σ β} (h : Keeps m P)
    (hf : ∀ x, Keeps (f x) P) : Keeps (m >>= f) P := by
  intro a env ha
  exact (h a env ha).bind (fun x b env' hb => hf x b env' hb) fun _ _ _ hb => hb

/-- A step that does not look at the environment. -/
theorem keeps_of_pure {m : Populating σ α}
    {F : TransactionArgs → Except PopulateError α × TransactionArgs}
    (hm : ∀ a, m.run.run a = pure (F a)) (hF : ∀ a, P a → P (F a).2) : Keeps m P := by
  intro a env ha
  rw [Ends, hm]
  exact hF a ha

/-! ## Resumable steps -/

/-- Let `f` be the step with a node that answers, and `m` the same step with a connection that may
be lost. From what `m` leaves, `f` comes to what it comes to from the beginning. If `m` succeeds,
this is what it leaves, and the step is done; and a step that is done is not taken once more. -/
structure Resumable (m : Populating Nat Unit) (f : Populating σ Unit)
    (done : TransactionArgs → Prop) : Prop where
  again : ∀ a env, Ends m a env fun r b _ => ∃ out, Gives f a out ∧ Gives f b out ∧
    (r = .ok () → out = (.ok (), b) ∧ done b)
  idle : ∀ a, done a → Gives f a (.ok (), a)

/-- **Two resumable steps**, of which the second one keeps what the first one was for. -/
theorem Resumable.bind {m m' : Populating Nat Unit} {f f' : Populating σ Unit}
    {done done' : TransactionArgs → Prop} (h : Resumable m f done) (h' : Resumable m' f' done')
    (hkeeps : Keeps m' done) :
    Resumable (m >>= fun _ => m') (f >>= fun _ => f') fun b => done b ∧ done' b := by
  constructor
  · intro a env
    refine (h.again a env).bind ?_ ?_
    · rintro _ b env₁ ⟨out, ha, -, hok⟩
      obtain ⟨rfl, hb⟩ := hok rfl
      -- the first step is done, and it still is when the second one is over
      obtain ⟨out', hgives, hleft, hok'⟩ := h'.again b env₁
      have hdone : done (m'.run.run b env₁).1.2 := hkeeps b env₁ hb
      exact ⟨out', ha.bind hgives, (h.idle _ hdone).bind hleft,
        fun hr => ⟨(hok' hr).1, hdone, (hok' hr).2⟩⟩
    · rintro e b env₁ ⟨⟨r, c⟩, ha, hb, -⟩
      -- the first step is taken again, and the second one for the first time
      cases r with
      | ok x =>
        obtain ⟨out', hgives, -⟩ := h'.again c { node := 0 }
        exact ⟨out', ha.bind hgives, hb.bind hgives, nofun⟩
      | error e' => exact ⟨_, ha.bind_error, hb.bind_error, nofun⟩
  · rintro a ⟨hdone, hdone'⟩
    exact (h.idle a hdone).bind (h'.idle a hdone')

/-- A step that asks nothing is resumable if taking it twice is taking it once. -/
theorem resumable_of_pure {m : Populating Nat Unit} {f : Populating σ Unit}
    {done : TransactionArgs → Prop}
    {F : TransactionArgs → Except PopulateError Unit × TransactionArgs}
    (hm : ∀ a, m.run.run a = pure (F a)) (hf : ∀ a, f.run.run a = pure (F a))
    (htwice : ∀ a, F (F a).2 = F a) (hdone : ∀ a b, F a = (.ok (), b) → done b)
    (hidle : ∀ a, done a → F a = (.ok (), a)) : Resumable m f done := by
  constructor
  · intro a env
    rw [Ends, hm]
    refine ⟨F a, gives_of_pure (hf a), ?_, fun hok => ?_⟩
    · have hagain : f.run.run (F a).2 = pure (F a) := by rw [hf, htwice]
      exact gives_of_pure hagain
    · have hF : F a = (.ok (), (F a).2) := Prod.ext hok rfl
      exact ⟨hF, hdone a _ hF⟩
  · intro a ha
    rw [← hidle a ha]
    exact gives_of_pure (hf a)

/-- A change to the arguments is one if it achieves something and is not made once more then. -/
theorem resumable_modify {g : TransactionArgs → TransactionArgs} {done : TransactionArgs → Prop}
    (hdone : ∀ a, done (g a)) (hidle : ∀ a, done a → g a = a) :
    Resumable (modify g) (modify g : Populating σ Unit) done := by
  refine resumable_of_pure (fun _ => rfl) (fun _ => rfl) ?_ ?_ ?_
  · intro a
    have hsame : g (g a) = g a := hidle _ (hdone a)
    exact congrArg (Prod.mk (Except.ok ())) hsame
  · rintro a b hok
    cases hok
    exact hdone a
  · intro a ha
    exact congrArg (Prod.mk (Except.ok ())) (hidle a ha)

/-- It keeps what it does not change. -/
theorem keeps_modify {g : TransactionArgs → TransactionArgs} (hg : ∀ a, P a → P (g a)) :
    Keeps (modify g : Populating σ Unit) P :=
  keeps_of_pure (fun _ => rfl) hg

/-! ## Checks -/

/-- A check is resumable. -/
theorem resumable_refuse (wrong : TransactionArgs → Bool) (e : PopulateError) :
    Resumable (refuse wrong e) (refuse wrong e : Populating σ Unit) fun a => wrong a = false := by
  refine resumable_of_pure (run_refuse wrong e) (run_refuse wrong e) (fun a => rfl) ?_ ?_
  · intro a b hok
    obtain ⟨hpassed, rfl⟩ := Prod.mk.inj hok
    exact eq_false_of_passed hpassed
  · intro a ha
    rw [ha]
    rfl

/-- It keeps everything. -/
theorem keeps_refuse (wrong : TransactionArgs → Bool) (e : PopulateError) :
    Keeps (refuse wrong e : Populating σ Unit) P :=
  keeps_of_pure (run_refuse wrong e) fun _ ha => ha

/-! ## Fields that are asked for -/

/-- With these arguments, `f` tells this, `m` tells it too or fails, and neither changes them. -/
structure Truthful (m : Populating Nat α) (f : Populating σ α) (a : TransactionArgs)
    (told : Except PopulateError α) : Prop where
  gives : Gives f a (told, a)
  ends : ∀ env, Ends m a env fun r b _ => b = a ∧ ∀ v, r = .ok v → told = .ok v

variable {missing : TransactionArgs → Bool} {store : α → TransactionArgs → TransactionArgs}
variable {m : TransactionArgs → Populating Nat α} {f : TransactionArgs → Populating σ α}

/-- What is not missing is not asked for. -/
theorem gives_fetch_idle (h : missing a = false) :
    Gives (fetch missing f store) a (.ok (), a) :=
  gives_of_pure (run_fetch_idle h)

/-- How a step ends that stores what it is told. -/
def stored (store : α → TransactionArgs → TransactionArgs) (a : TransactionArgs) :
    Except PopulateError α → Except PopulateError Unit × TransactionArgs
  | .ok v => (.ok (), store v a)
  | .error e => (.error e, a)

/-- What is missing is stored as it is told. -/
theorem gives_fetch {told : Except PopulateError α} (h : missing a = true)
    (hf : Gives (f a) a (told, a)) : Gives (fetch missing f store) a (stored store a told) := by
  refine .get ?_
  rw [if_pos h]
  cases told with
  | ok v => exact hf.bind (gives_of_pure rfl)
  | error e => exact hf.bind_error

/-- **A field that is asked for** can be asked for again: it is stored only if it was told. -/
theorem resumable_fetch (htruthful : ∀ a, ∃ told, Truthful (m a) (f a) a told)
    (hstore : ∀ v a, missing (store v a) = false) :
    Resumable (fetch missing m store) (fetch missing f store) fun a => missing a = false := by
  constructor
  · intro a env
    refine .get ?_
    cases hmissing : missing a with
    | false =>
      have hidle : Gives (fetch missing f store) a (.ok (), a) := gives_fetch_idle hmissing
      exact ⟨_, hidle, hidle, fun _ => ⟨rfl, hmissing⟩⟩
    | true =>
      obtain ⟨told, hgives, hends⟩ := htruthful a
      have hfetch : Gives (fetch missing f store) a (stored store a told) :=
        gives_fetch hmissing hgives
      rw [if_pos rfl]
      refine (hends env).bind ?_ ?_
      · rintro v b env₁ ⟨rfl, htold⟩
        rw [htold v rfl] at hfetch
        exact ⟨_, hfetch, gives_fetch_idle (hstore v b), fun _ => ⟨rfl, hstore v b⟩⟩
      · rintro e b env₁ ⟨rfl, -⟩
        exact ⟨_, hfetch, hfetch, nofun⟩
  · intro a ha
    exact gives_fetch_idle ha

/-- It keeps what storing keeps. -/
theorem keeps_fetch (htruthful : ∀ a, ∃ told, Truthful (m a) (f a) a told)
    (hstore : ∀ v a, P a → P (store v a)) : Keeps (fetch missing m store) P := by
  intro a env ha
  refine .get ?_
  split
  · obtain ⟨told, -, hends⟩ := htruthful a
    refine (hends env).bind ?_ ?_
    · rintro v b env₁ ⟨rfl, -⟩
      exact hstore v b ha
    · rintro e b env₁ ⟨rfl, -⟩
      exact ha
  · exact ha

/-! ## Questions -/

/-- What is made of the value alone can be made of it afterwards. -/
theorem Truthful.bind {β : Type} {m : Populating Nat α} {f : Populating σ α}
    {told : Except PopulateError α} (h : Truthful m f a told) {g : α → Populating Nat β}
    {g' : α → Populating σ β} {G : α → Except PopulateError β}
    (hg : ∀ v, (g v).run.run a = pure (G v, a)) (hg' : ∀ v, (g' v).run.run a = pure (G v, a)) :
    Truthful (m >>= g) (f >>= g') a (told.bind G) := by
  constructor
  · have hgives := h.gives
    cases told with
    | ok v => exact hgives.bind (gives_of_pure (hg' v))
    | error e => exact hgives.bind_error
  · intro env
    refine (h.ends env).bind ?_ ?_
    · rintro v b env₁ ⟨rfl, htold⟩
      rw [Ends, hg, htold v rfl]
      exact ⟨rfl, fun w hw => hw⟩
    · rintro e b env₁ ⟨rfl, -⟩
      refine ⟨rfl, fun w hw => ?_⟩
      cases hw

section Questions

variable {answers : (q : Query) → Except ProviderError q.Answer} {k : Nat}
variable {loss : Nat → ProviderError}

/-- **A question is answered from the table or not at all.** -/
theorem truthful_ask (purpose : String) (q : Query) (a : TransactionArgs) :
    Truthful (ask (.severed answers k loss) purpose q)
      (ask (Reader.fixed answers : Reader σ) purpose q) a
      ((answers q).mapError fun e => .reader purpose (.provider e)) := by
  refine ⟨gives_ask answers purpose q a, fun env => ?_⟩
  by_cases hk : env.node < k
  · refine (ends_answer purpose (Reader.run_severed_of_lt hk q)).mono ?_
    rintro r b _ ⟨rfl, rfl, -⟩
    exact ⟨rfl, fun v hv => hv⟩
  · refine (ends_answer purpose (Reader.run_severed_of_not_lt hk q)).mono ?_
    rintro r b _ ⟨rfl, rfl, -⟩
    exact ⟨rfl, nofun⟩

end Questions

end Populating

end EthClient
