import EthClient.Proofs.Onion
import Mathlib.Logic.Function.DependsOn

/-! # Pipelines around pipelines

A pipeline is a provider, so it can be the inner provider of another one. Between the hooks of both
stands the guard of the inner pipeline then, which refuses batches without elements. It makes no
difference if the hooks of the outer pipeline delegate batches with elements only
(`Hook.DelegatesOnly`): the two pipelines behave as one that has the hooks of the outer one in front
of those of the inner one (**`Provider.handle_wrapped_wrapped`**). Single calls are never refused,
so for them this holds of any hooks (**`Provider.stacking_concatenates`**). -/

namespace EthClient

variable {σ : Type}

/-! ## What hooks delegate -/

/-- The inputs that ask for something: all of them, but for batches without elements. -/
def Shape.proper (s : Shape) : Set s.Input := {input | s.isVacant input = false}

/-- Given an input of a set, the hook delegates inputs of this set only: what becomes of it depends
on what the next handler makes of these. -/
def Hook.DelegatesOnly {s : Shape} (P : Set s.Input) (hook : Hook σ s) : Prop :=
  ∀ input ∈ P, DependsOn (fun next : Handler σ s => hook next input) P

namespace Hook

variable {s : Shape} {P : Set s.Input}

/-- A hook that traces delegates nothing but the input it was given. -/
theorem delegatesOnly_tracing (name : String) :
    Hook.DelegatesOnly P (tracing name s : Hook σ s) := by
  intro input hinput next next' hagree
  simp only [tracing, hagree input hinput]

/-- **Hooks one inside the other** delegate what each of them delegates. -/
theorem delegatesOnly_fold {hooks : List (Hook σ s)} (h : ∀ hook ∈ hooks, hook.DelegatesOnly P) :
    Hook.DelegatesOnly P (Pipeline.fold hooks) := by
  intro input hinput next next' hagree
  dsimp only
  induction hooks generalizing input with
  | nil => exact hagree input hinput
  | cons hook hooks ih =>
    -- the hooks inside agree on the set, so the outermost one makes the same of them
    obtain ⟨hhook, hhooks⟩ := List.forall_mem_cons.mp h
    exact hhook input hinput fun i hi => ih hhooks i hi

end Hook

/-! ## Guards -/

/-- The handler that refuses what is vacant. -/
def Handler.guarded {s : Shape} (next : Handler σ s) : Handler σ s := fun input =>
  if s.isVacant input then throw .emptyBatch else next input

/-- A guard lets through what is proper. -/
theorem Handler.guarded_of_mem {s : Shape} (next : Handler σ s) {input : s.Input}
    (h : input ∈ s.proper) : next.guarded input = next input := by
  have hproper : s.isVacant input = false := h
  rw [guarded, hproper]
  rfl

/-- It depends on what the handler makes of proper inputs. -/
theorem Handler.guarded_congr {s : Shape} {next next' : Handler σ s}
    (h : ∀ input ∈ s.proper, next input = next' input) : next.guarded = next'.guarded := by
  funext input
  by_cases hvacant : s.isVacant input = true
  · rw [guarded, guarded, if_pos hvacant, if_pos hvacant]
  · rw [guarded, guarded, if_neg hvacant, if_neg hvacant, h input ((Bool.not_eq_true _).mp hvacant)]

/-! ## Providers with registrations around them -/

namespace Provider

/-- The provider with a pipeline around it, at which hooks and layers are registered. -/
def wrapped (inner : Provider σ) (rs : List (Registration σ)) : Provider σ :=
  ((Pipeline.ofProvider inner).enrollAll rs).toProvider

/-- Its handlers are guarded, and behind the guard are the hooks. -/
theorem handle_wrapped (inner : Provider σ) (rs : List (Registration σ)) (s : Shape) :
    (inner.wrapped rs).handle s
      = (Pipeline.fold (rs.flatMap (Registration.hooks s)) (inner.handle s)).guarded := by
  rw [← Pipeline.handler_enrollAll]
  rfl

/-- **A pipeline around a pipeline is one pipeline**, if the hooks of the outer one as a whole
delegate only what is proper. -/
theorem handle_wrapped_wrapped (inner : Provider σ) (outer inside : List (Registration σ))
    {s : Shape}
    (h : Hook.DelegatesOnly s.proper
      (Pipeline.fold (outer.flatMap (Registration.hooks s)) : Hook σ s)) :
    ((inner.wrapped inside).wrapped outer).handle s
      = (inner.wrapped (outer ++ inside)).handle s := by
  rw [handle_wrapped, handle_wrapped, handle_wrapped, List.flatMap_append]
  -- both sides begin with one guard, and what is left over is the guard between the halves
  refine Handler.guarded_congr fun input hinput => ?_
  have hfold : Pipeline.fold (outer.flatMap (Registration.hooks s) ++
        inside.flatMap (Registration.hooks s)) (inner.handle s)
      = Pipeline.fold (outer.flatMap (Registration.hooks s))
          (Pipeline.fold (inside.flatMap (Registration.hooks s)) (inner.handle s)) :=
    List.foldr_append ..
  rw [hfold]
  exact h input hinput fun i hi => Handler.guarded_of_mem _ hi

/-- A provider with a given handler for one shape. -/
def ofHandler {s : Shape} (next : Handler σ s) : Provider σ where
  handle := Shape.update (fun _ _ => throw (.unsupported "other shapes")) s next
  subscribe _ _ _ := throw (.unsupported "subscriptions")
  close := pure ()

/-- No weaker condition will do: if a pipeline with some hooks can be put around any provider in
this way, the hooks delegate only what is proper. -/
theorem delegatesOnly_of_handle_wrapped {outer : List (Registration σ)} {s : Shape}
    (h : ∀ inner : Provider σ,
      ((inner.wrapped []).wrapped outer).handle s = (inner.wrapped outer).handle s) :
    Hook.DelegatesOnly s.proper
      (Pipeline.fold (outer.flatMap (Registration.hooks s)) : Hook σ s) := by
  -- with a guard in front of it, a handler is known by what it makes of proper inputs
  have hguard (next : Handler σ s) {input : s.Input} (hinput : input ∈ s.proper) :
      Pipeline.fold (outer.flatMap (Registration.hooks s)) next.guarded input
        = Pipeline.fold (outer.flatMap (Registration.hooks s)) next input := by
    have hinner := congrFun (h (ofHandler next)) input
    rw [handle_wrapped, handle_wrapped, handle_wrapped, Handler.guarded_of_mem _ hinput,
      Handler.guarded_of_mem _ hinput] at hinner
    have hnext : (ofHandler next).handle s = next := by simp [ofHandler]
    rw [hnext] at hinner
    exact hinner
  -- and handlers that agree on these inputs have the same guarded handler
  intro input hinput next next' hagree
  dsimp only
  rw [← hguard next hinput, ← hguard next' hinput, Handler.guarded_congr hagree]

/-! ## Main result -/

/-- **Stacking pipelines concatenates them.** A pipeline around a pipeline around any inner provider
does the same, outcome and effects, as one pipeline around it with the hooks and layers of the outer
one in front of those of the inner one:

* for single calls always, whatever is registered;
* for every shape, batches included, if each hook of the outer pipeline delegates only what asks for
  something;
* and if it does so for every inner provider and inner pipeline, then the hooks of the outer
  pipeline as a whole delegate nothing else. -/
theorem stacking_concatenates (outer : List (Registration σ)) :
    (∀ (inner : Provider σ) (inside : List (Registration σ)), ∀ s ∈ [Shape.call, Shape.callContext],
      ((inner.wrapped inside).wrapped outer).handle s
        = (inner.wrapped (outer ++ inside)).handle s) ∧
    (∀ s, (∀ hook ∈ outer.flatMap (Registration.hooks s), hook.DelegatesOnly s.proper) →
      ∀ (inner : Provider σ) (inside : List (Registration σ)),
        ((inner.wrapped inside).wrapped outer).handle s
          = (inner.wrapped (outer ++ inside)).handle s) ∧
    (∀ s, (∀ (inner : Provider σ) (inside : List (Registration σ)),
        ((inner.wrapped inside).wrapped outer).handle s
          = (inner.wrapped (outer ++ inside)).handle s) ↔
      Hook.DelegatesOnly s.proper
        (Pipeline.fold (outer.flatMap (Registration.hooks s)) : Hook σ s)) := by
  refine ⟨fun inner inside s hs => ?_, fun s h inner inside => ?_, fun s => ⟨fun h => ?_, ?_⟩⟩
  · -- all single calls are proper, so handlers that agree on these are the same
    have hall : ∀ input : s.Input, input ∈ s.proper := by
      have hsingle : s = .call ∨ s = .callContext := by simpa using hs
      rcases hsingle with rfl | rfl <;> exact fun _ => rfl
    refine inner.handle_wrapped_wrapped outer inside fun input _ next next' hagree => ?_
    rw [show next = next' from funext fun i => hagree i (hall i)]
  · exact inner.handle_wrapped_wrapped outer inside (Hook.delegatesOnly_fold h)
  · refine delegatesOnly_of_handle_wrapped fun inner => ?_
    rw [h inner [], List.append_nil]
  · exact fun h inner inside => inner.handle_wrapped_wrapped outer inside h

/-- A batch passes a layer that traces and a hook that renames, and in the pipeline inside a second
layer that traces, as if they were all in one pipeline. A hook that hands an empty batch on meets
the guard of the pipeline inside, and in one pipeline it would not. -/
theorem stacking_concatenates_two :
    let node := Provider.ofAnswers fun _ _ => .ok .null
    let outer : List (Registration Nat) :=
      [.layer (tracing "outer"), .hook .batch (renamingBatches "eth_chainId" .batch)]
    let inside : List (Registration Nat) := [.layer (tracing "inner")]
    let emptying : List (Registration Nat) := [.hook .batch fun next _ => next []]
    let asked : List BatchElem := [{ method := "eth_gasPrice", params := [] }]
    ((node.wrapped inside).wrapped outer).handle .batch
        = (node.wrapped (outer ++ inside)).handle .batch ∧
    (((node.wrapped inside).wrapped outer).handle .batch asked).run { node := 0 }
      = (.ok [{ method := "eth_chainId", params := [] }],
        { journal := [.enters "outer" "eth_gasPrice", .enters "inner" "eth_chainId",
            .leaves "inner" none, .leaves "outer" none], node := 0 }) ∧
    (((node.wrapped inside).wrapped emptying).handle .batch asked).run { node := 0 }
      = (.error .emptyBatch, { node := 0 }) ∧
    ((node.wrapped (emptying ++ inside)).handle .batch asked).run { node := 0 }
      = (.ok [], { journal := [.enters "inner" "", .leaves "inner" none], node := 0 }) ∧
    ¬ Hook.DelegatesOnly Shape.batch.proper
        (Pipeline.fold (emptying.flatMap (Registration.hooks .batch)) : Hook Nat .batch) := by
  intro node outer inside emptying asked
  obtain ⟨-, hstack, -⟩ := stacking_concatenates outer
  obtain ⟨-, -, hexact⟩ := stacking_concatenates emptying
  have hrenaming : Hook.DelegatesOnly Shape.batch.proper
      (renamingBatches "eth_chainId" .batch : Hook Nat .batch) := by
    intro elems helems next next' hagree
    refine hagree _ ?_
    simpa [Shape.proper, Shape.isVacant] using helems
  have houter : ∀ hook ∈ outer.flatMap (Registration.hooks .batch),
      hook.DelegatesOnly Shape.batch.proper := by
    intro hook hmem
    have hcases : hook = tracing "outer" .batch ∨ hook = renamingBatches "eth_chainId" .batch := by
      simpa [outer] using hmem
    rcases hcases with rfl | rfl
    · exact Hook.delegatesOnly_tracing "outer"
    · exact hrenaming
  have hsame := hstack .batch houter node inside
  have hstacked : (((node.wrapped inside).wrapped emptying).handle .batch asked).run { node := 0 }
      = (.error .emptyBatch, { node := 0 }) := rfl
  have hjoined : ((node.wrapped (emptying ++ inside)).handle .batch asked).run { node := 0 }
      = (.ok [], { journal := [.enters "inner" "", .leaves "inner" none], node := 0 }) := rfl
  refine ⟨hsame, ?_, hstacked, hjoined, fun honly => ?_⟩
  · rw [hsame]
    rfl
  · -- the law would give the same outcome for both
    have hrun := (hexact .batch).mpr honly node inside
    rw [hrun, hjoined] at hstacked
    cases hstacked

end Provider

end EthClient
