import EthClient.Error
import Mathlib.Data.List.Chain

/-! # Errors behind errors

An error may show another one as its source, this one may show a further one, and so on: such errors
are a **trail** (`Cause.IsTrail`). An error from outside the library that shows a source is a label
around it. Whether the failure of a layer is retryable and which answer of the node is behind it are
two questions, each answered by a function of its own. Both ask the first provider error on the
trail:

* **`Cause.found?`** goes from source to source until it meets a provider error, and both questions
  about a cause are asked of the error that it finds (**`Cause.asks_found`**);
* it stops at the first provider error of a trail, whatever follows (**`Cause.IsTrail.found?_eq`**),
  and finds nothing on a trail without one (**`Cause.IsTrail.found?_eq_none`**).

So errors keep their class under any number of wrappers, and an error with an answer of the node
behind it is never retryable (**`ProviderError.class_stable_under_wrapping`**). -/

namespace EthClient

/-! ## Sources -/

/-- A provider error in a box. The box is no provider error itself; it has the wording and the
source of the one inside, as an error of signing that carries it has. -/
def ProviderError.boxed (e : ProviderError) : Cause := .signing (.provider e)

/-- The source of a provider error: behind attempts that all failed there is the error of the last
one, in a box. What a layer failed with is part of the error and not its source. -/
def ProviderError.source? : ProviderError → Option Cause
  | .retriesExhausted _ last => some last.boxed
  | _ => none

/-- The source of an error of population: what a question to the node failed with. -/
def PopulateError.source? : PopulateError → Option Cause
  | .reader _ cause => some cause
  | _ => none

/-- The source of an error of signing. One that carries another error shows what is behind it. -/
def SigningError.source? : SigningError → Option Cause
  | .populate e => e.source?
  | .provider e => e.source?
  | _ => none

namespace Cause

/-- The error that is shown as the source of another. -/
def source? : Cause → Option Cause
  | .provider e => e.source?
  | .populate e => e.source?
  | .signing e => e.source?
  | .other _ => none
  | .labelled _ cause => some cause

/-- The provider error that an error is, if it is one. -/
def provider? : Cause → Option ProviderError
  | .provider e => some e
  | _ => none

/-- An error and some that follow: each one is the source of the one before. -/
structure IsTrail (c : Cause) (trail : List Cause) : Prop where
  head : trail.head? = some c
  sources : trail.IsChain fun c d => c.source? = some d

variable {c d : Cause} {e : ProviderError}

/-- Only a provider error is one. -/
theorem provider?_eq_some_iff : c.provider? = some e ↔ c = .provider e := by
  cases c <;> simp [provider?]

/-- **What shows a source**, provider errors aside: a label, a failed question of population, alone
or in an error of signing, and a box around exhausted attempts. -/
theorem source?_cases (hc : c.provider? = none) (hd : c.source? = some d) :
    (∃ label, c = .labelled label d) ∨ (∃ action, c = .populate (.reader action d)) ∨
      (∃ action, c = .signing (.populate (.reader action d))) ∨
      (∃ attempts last, c = .signing (.provider (.retriesExhausted attempts last)) ∧
        d = last.boxed) := by
  cases c with
  | provider e => cases hc
  | populate e =>
    cases e <;> cases hd
    exact .inr (.inl ⟨_, rfl⟩)
  | signing e =>
    cases e with
    | populate e =>
      cases e <;> cases hd
      exact .inr (.inr (.inl ⟨_, rfl⟩))
    | provider e =>
      cases e <;> cases hd
      exact .inr (.inr (.inr ⟨_, _, rfl, rfl⟩))
    | _ => cases hd
  | other text => cases hd
  | labelled label cause =>
    cases hd
    exact .inl ⟨label, rfl⟩

/-- A source is a part of the error that shows it. -/
theorem sizeOf_source_lt (hc : c.provider? = none) (hd : c.source? = some d) :
    sizeOf d < sizeOf c := by
  rcases source?_cases hc hd with ⟨_, rfl⟩ | ⟨_, rfl⟩ | ⟨_, rfl⟩ | ⟨_, _, rfl, rfl⟩
  · rw [labelled.sizeOf_spec]
    omega
  · rw [populate.sizeOf_spec, PopulateError.reader.sizeOf_spec]
    omega
  · rw [signing.sizeOf_spec, SigningError.populate.sizeOf_spec, PopulateError.reader.sizeOf_spec]
    omega
  · rw [ProviderError.boxed, signing.sizeOf_spec, signing.sizeOf_spec,
      SigningError.provider.sizeOf_spec, SigningError.provider.sizeOf_spec,
      ProviderError.retriesExhausted.sizeOf_spec]
    omega

/-! ## The search -/

/-- The first provider error from a cause on, going from source to source. -/
def found? (c : Cause) : Option ProviderError :=
  match hc : c.provider? with
  | some e => some e
  | none =>
    match hd : c.source? with
    | some d =>
      have : sizeOf d < sizeOf c := sizeOf_source_lt hc hd
      d.found?
    | none => none
termination_by sizeOf c

/-- A provider error is found at once. -/
theorem found?_provider (e : ProviderError) : (provider e).found? = some e := by
  rw [found?]
  rfl

/-- Behind another error its source is searched. -/
theorem found?_of_source (hc : c.provider? = none) (hd : c.source? = some d) :
    c.found? = d.found? := by
  rw [found?]
  split
  · rename_i e he
    rw [hc] at he
    cases he
  · split
    · rename_i d' hd'
      rw [hd] at hd'
      cases hd'
      rfl
    · rename_i hnone
      rw [hd] at hnone
      cases hnone

/-- Without a source nothing is found. -/
theorem found?_of_last (hc : c.provider? = none) (hlast : c.source? = none) : c.found? = none := by
  rw [found?]
  split
  · rename_i e he
    rw [hc] at he
    cases he
  · split
    · rename_i d hd
      rw [hlast] at hd
      cases hd
    · rfl

/-- What is found is a part of the cause. -/
theorem sizeOf_found_lt (h : c.found? = some e) : sizeOf e < sizeOf c := by
  -- the three cases of the search: found at once, handed on to the source, and at the end
  induction c using found?.induct with
  | case1 c e' he =>
    obtain rfl := provider?_eq_some_iff.mp he
    rw [found?_provider] at h
    cases h
    rw [provider.sizeOf_spec]
    omega
  | case2 c hc d hd hlt ih =>
    rw [found?_of_source hc hd] at h
    exact Nat.lt_trans (ih h) hlt
  | case3 c hc hd =>
    rw [found?_of_last hc hd] at h
    cases h

/-! ## Two questions and one search -/

/-- An error that is no provider error hands both questions on to its source. -/
theorem asks_source (hc : c.provider? = none) (hd : c.source? = some d) :
    c.isRetryable = d.isRetryable ∧ c.response? = d.response? := by
  rcases source?_cases hc hd with ⟨_, rfl⟩ | ⟨_, rfl⟩ | ⟨_, rfl⟩ | ⟨_, _, rfl, rfl⟩ <;>
    exact ⟨rfl, rfl⟩

/-- Without a source it denies both. -/
theorem asks_nothing (hc : c.provider? = none) (hlast : c.source? = none) :
    c.isRetryable = false ∧ c.response? = none := by
  cases c with
  | provider e => cases hc
  | populate e =>
    cases e with
    | reader action cause => cases hlast
    | _ => exact ⟨rfl, rfl⟩
  | signing e =>
    cases e with
    | populate e =>
      cases e with
      | reader action cause => cases hlast
      | _ => exact ⟨rfl, rfl⟩
    | _ => exact ⟨rfl, rfl⟩
  | other text => exact ⟨rfl, rfl⟩
  | labelled label cause => cases hlast

/-- **Both questions are asked of the error that the search finds.** -/
theorem asks_found (c : Cause) :
    c.isRetryable = c.found?.any ProviderError.isRetryable ∧
      c.response? = c.found?.bind ProviderError.response? := by
  induction c using found?.induct with
  | case1 c e he =>
    obtain rfl := provider?_eq_some_iff.mp he
    rw [found?_provider]
    exact ⟨rfl, rfl⟩
  | case2 c hc d hd _ ih =>
    obtain ⟨hretryable, hresponse⟩ := asks_source hc hd
    rw [found?_of_source hc hd, hretryable, hresponse]
    exact ih
  | case3 c hc hd =>
    rw [found?_of_last hc hd]
    exact asks_nothing hc hd

/-! ## Trails -/

/-- A trail goes on from the source of its first error. -/
theorem IsTrail.next {w : Cause} {rest : List Cause} (h : c.IsTrail (w :: rest))
    (hrest : rest ≠ []) : w = c ∧ ∃ d, c.source? = some d ∧ d.IsTrail rest := by
  obtain rfl : w = c := Option.some.inj h.head
  obtain ⟨d, more, rfl⟩ := List.exists_cons_of_ne_nil hrest
  obtain ⟨hd, hmore⟩ := List.isChain_cons_cons.mp h.sources
  exact ⟨rfl, d, hd, rfl, hmore⟩

/-- **The search stops at the first provider error of a trail**, whatever is beneath. -/
theorem IsTrail.found?_eq {wrappers beneath : List Cause}
    (h : c.IsTrail (wrappers ++ .provider e :: beneath))
    (hwrappers : ∀ w ∈ wrappers, w.provider? = none) : c.found? = some e := by
  -- each wrapper hands the search on to the next, so the first error changes with every step
  induction wrappers generalizing c with
  | nil =>
    obtain rfl : .provider e = c := Option.some.inj h.head
    exact found?_provider e
  | cons w rest ih =>
    obtain ⟨rfl, d, hd, hrest⟩ := h.next (by simp)
    rw [found?_of_source (hwrappers w List.mem_cons_self) hd]
    exact ih hrest fun w' hw' => hwrappers w' (List.mem_cons_of_mem w hw')

/-- **On a trail to its end without a provider error nothing is found.** -/
theorem IsTrail.found?_eq_none {trail : List Cause} {last : Cause}
    (h : c.IsTrail (trail ++ [last])) (hlast : last.source? = none)
    (hnone : ∀ w ∈ trail ++ [last], w.provider? = none) : c.found? = none := by
  induction trail generalizing c with
  | nil =>
    obtain rfl : last = c := Option.some.inj h.head
    exact found?_of_last (hnone last List.mem_cons_self) hlast
  | cons w rest ih =>
    obtain ⟨rfl, d, hd, hrest⟩ := h.next (by simp)
    rw [found?_of_source (hnone w List.mem_cons_self) hd]
    exact ih hrest fun w' hw' => hnone w' (List.mem_cons_of_mem w hw')

end Cause

namespace ProviderError

/-- **An error behind which there is an answer of the node is not retryable.** -/
theorem isRetryable_of_response? {answer : RpcError} :
    (e : ProviderError) → e.response? = some answer → e.isRetryable = false
  | .layer c, h => by
    -- the questions go to an error inside, and that one is smaller
    obtain ⟨hretryable, hresponse⟩ := c.asks_found
    have hasked : c.found?.bind response? = some answer := hresponse.symm.trans h
    obtain ⟨found, hfound, hanswer⟩ := Option.bind_eq_some_iff.mp hasked
    have hlt : sizeOf found < sizeOf c := Cause.sizeOf_found_lt hfound
    have houter : (layer c).isRetryable = c.found?.any isRetryable := hretryable
    rw [houter, hfound]
    exact isRetryable_of_response? found hanswer
  | .rpc _, _ | .cancelled, _ | .retriesExhausted .., _ | .decode _, _ | .unsupported _, _
  | .emptyBatch, _ => rfl
  | .transport _, h | .http, h | .malformedResponse .., h | .deadlineExceeded, h => by cases h
termination_by e => sizeOf e

/-! ## Main result -/

/-- **Errors keep their class under wrapping.**

* An error behind which there is an answer of the node is not retryable.
* Under any number of wrappers, each of which shows the next one as its source and none of which is
  a provider error, the failure of a layer is retryable exactly if the provider error at the end of
  them is, and the same answer is behind it; what is beneath that error does not matter.
* If the trail ends without a provider error, it is not retryable and no answer is behind it.
* For every cause both questions are asked of one error, the first provider error on its trail. -/
theorem class_stable_under_wrapping :
    (∀ (e : ProviderError) (answer : RpcError), e.response? = some answer →
      e.isRetryable = false) ∧
    (∀ (c : Cause) (wrappers : List Cause) (e : ProviderError) (beneath : List Cause),
      c.IsTrail (wrappers ++ .provider e :: beneath) → (∀ w ∈ wrappers, w.provider? = none) →
      (layer c).isRetryable = e.isRetryable ∧ (layer c).response? = e.response?) ∧
    (∀ (c : Cause) (trail : List Cause) (last : Cause),
      c.IsTrail (trail ++ [last]) → last.source? = none →
      (∀ w ∈ trail ++ [last], w.provider? = none) →
      (layer c).isRetryable = false ∧ (layer c).response? = none) ∧
    (∀ c : Cause, (layer c).isRetryable = c.found?.any isRetryable ∧
      (layer c).response? = c.found?.bind response?) := by
  have hasked (c : Cause) : (layer c).isRetryable = c.found?.any isRetryable ∧
      (layer c).response? = c.found?.bind response? := c.asks_found
  refine ⟨fun e _ => isRetryable_of_response? e, fun c wrappers e beneath htrail hwrappers => ?_,
    fun c trail last htrail hlast hnone => ?_, hasked⟩
  · obtain ⟨hretryable, hresponse⟩ := hasked c
    rw [hretryable, hresponse, htrail.found?_eq hwrappers]
    exact ⟨rfl, rfl⟩
  · obtain ⟨hretryable, hresponse⟩ := hasked c
    rw [hretryable, hresponse, htrail.found?_eq_none hlast hnone]
    exact ⟨rfl, rfl⟩

/-- Exhausted attempts behind a label and a failed question are not retryable, though the failure
beneath them alone is; a box around this failure hides it; and with an answer of the node behind the
question the error is not retryable either. -/
theorem class_stable_under_wrapping_beneath :
    let down := transport "down"
    let exhausted := retriesExhausted 2 down
    let answer : RpcError := ⟨-32000, "nonce too low", none⟩
    let asking (e : ProviderError) : Cause := .populate (.reader "fetching nonce" (.provider e))
    let sending (e : ProviderError) : Cause := .labelled "sending" (asking e)
    ((layer (sending exhausted)).isRetryable = false ∧ (layer (sending down)).isRetryable = true) ∧
      ((layer exhausted.boxed).isRetryable = false ∧ (layer exhausted.boxed).response? = none) ∧
      ((layer (sending (rpc answer))).response? = some answer ∧
        (layer (sending (rpc answer))).isRetryable = false) := by
  intro down exhausted answer asking sending
  obtain ⟨hanswered, hwrapped, hbare, -⟩ := class_stable_under_wrapping
  have hwrappers (e : ProviderError) : ∀ w ∈ [sending e, asking e], w.provider? = none := by
    intro w hw
    rcases List.mem_pair.mp hw with rfl | rfl <;> rfl
  have htrail (e : ProviderError) :
      (sending e).IsTrail ([sending e, asking e] ++ [.provider e]) :=
    ⟨rfl, .cons_cons rfl (.cons_cons rfl (.singleton _))⟩
  have hbeneath :
      (sending exhausted).IsTrail
        ([sending exhausted, asking exhausted] ++ [.provider exhausted, down.boxed]) :=
    ⟨rfl, .cons_cons rfl (.cons_cons rfl (.cons_cons rfl (.singleton _)))⟩
  have hboxed : exhausted.boxed.IsTrail ([exhausted.boxed] ++ [down.boxed]) :=
    ⟨rfl, .cons_cons rfl (.singleton _)⟩
  refine ⟨⟨?_, ?_⟩, hbare _ _ _ hboxed rfl ?_, ?_⟩
  · exact (hwrapped _ _ _ _ hbeneath (hwrappers exhausted)).1
  · exact (hwrapped _ _ _ _ (htrail down) (hwrappers down)).1
  · intro w hw
    rcases List.mem_pair.mp hw with rfl | rfl <;> rfl
  · have hresponse := (hwrapped _ _ _ _ (htrail (rpc answer)) (hwrappers (rpc answer))).2
    exact ⟨hresponse, hanswered _ answer hresponse⟩

end ProviderError

end EthClient
