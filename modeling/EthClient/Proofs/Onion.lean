import EthClient.Proofs.Pipeline
import EthClient.Proofs.Record

/-! # The onion of a pipeline

Hooks and layers may be registered in any order and for any shapes. A handler is kept ready beside
the hooks of its shape, and it is always their fold around the inner handler (`Pipeline.Folded`):
this holds of a pipeline without hooks, and every registration keeps it
(**`Pipeline.Folded.enrollAll`**).

What the fold does is seen with hooks that trace. They note a call when it enters and when it
leaves, and around any handler they note the entries in their order and the exits in the opposite
one (**`run_fold_tracers`**). A hook that does not hand calls on hides everything inside of it
(**`Pipeline.fold_answering`**). Both together are **`Pipeline.registrations_nest`**. -/

namespace EthClient

variable {σ : Type}

/-! ## Registrations -/

/-- What is registered at a pipeline: a hook for one shape, or a layer for all of them. -/
inductive Registration (σ : Type) where
  | hook (s : Shape) (h : Hook σ s)
  | layer (l : Layer σ)

namespace Registration

/-- The hooks that a registration adds for a shape. -/
def hooks (s : Shape) : Registration σ → List (Hook σ s)
  | .hook t h => if heq : t = s then [heq ▸ h] else []
  | .layer l => [l s]

/-- A hook is added for its own shape. -/
@[simp] theorem hooks_hook_self (s : Shape) (h : Hook σ s) : (hook s h).hooks s = [h] := by
  simp [hooks]

/-- And for no other one. -/
@[simp] theorem hooks_hook_of_ne {s t : Shape} (h : Hook σ t) (hne : t ≠ s) :
    (hook t h).hooks s = [] := by
  simp [hooks, hne]

/-- A layer is added for every shape. -/
@[simp] theorem hooks_layer (s : Shape) (l : Layer σ) : (layer l).hooks s = [l s] := rfl

/-- Whether a registration concerns a shape. -/
def concerns (s : Shape) : Registration σ → Bool
  | .hook t _ => t == s
  | .layer _ => true

/-- A registration that does not concern a shape adds nothing for it. -/
theorem hooks_of_not_concerns {s : Shape} {r : Registration σ} (h : ¬ r.concerns s = true) :
    r.hooks s = [] := by
  cases r with
  | hook t hook => exact hooks_hook_of_ne hook (by simpa [concerns] using h)
  | layer l => exact absurd rfl h

/-- **Only the registrations that concern a shape add hooks for it.** -/
theorem flatMap_hooks_filter (s : Shape) (rs : List (Registration σ)) :
    (rs.filter (concerns s)).flatMap (hooks s) = rs.flatMap (hooks s) := by
  induction rs with
  | nil => rfl
  | cons r rs ih =>
    by_cases h : r.concerns s = true
    · rw [List.filter_cons_of_pos h, List.flatMap_cons, List.flatMap_cons, ih]
    · rw [List.filter_cons_of_neg h, List.flatMap_cons, hooks_of_not_concerns h, ih,
        List.nil_append]

end Registration

namespace Pipeline

/-- Registers a hook or a layer. -/
def enroll (p : Pipeline σ) : Registration σ → Pipeline σ
  | .hook s h => p.register s h
  | .layer l => p.layer l

/-- Registers hooks and layers one after the other. -/
def enrollAll (p : Pipeline σ) (rs : List (Registration σ)) : Pipeline σ := rs.foldl enroll p

/-! ## The handlers are kept folded -/

/-- Every handler is the fold of the hooks of its shape around the inner handler. -/
def Folded (p : Pipeline σ) : Prop := ∀ s, p.handler s = fold (p.hooks s) (p.inner.handle s)

/-- Without hooks the handlers are the inner ones. -/
theorem folded_ofProvider (inner : Provider σ) : (ofProvider inner).Folded := fun _ => rfl

/-- A hook is put behind the hooks of its shape. -/
theorem hooks_register (p : Pipeline σ) (s t : Shape) (h : Hook σ t) :
    (p.register t h).hooks s = p.hooks s ++ (Registration.hook t h).hooks s := by
  by_cases hts : t = s
  · subst hts
    simp [register]
  · simp [register, Shape.update_of_ne _ _ (Ne.symm hts), hts]

/-- **A hook keeps the handlers folded**: the one of its shape is folded anew, and the others with
their hooks stay. -/
theorem Folded.register {p : Pipeline σ} (hp : p.Folded) (t : Shape) (h : Hook σ t) :
    (p.register t h).Folded := by
  intro s
  by_cases hst : s = t
  · subst hst
    simp [Pipeline.register]
  · simp [Pipeline.register, Shape.update_of_ne _ _ hst, hp s]

/-- So does every registration: a layer is a hook for each shape. -/
theorem Folded.enroll {p : Pipeline σ} (hp : p.Folded) (r : Registration σ) :
    (p.enroll r).Folded := by
  cases r with
  | hook t h => exact hp.register t h
  | layer l =>
    have hall : ∀ (shapes : List Shape) {q : Pipeline σ}, q.Folded →
        (shapes.foldl (fun q s => q.register s (l s)) q).Folded := by
      intro shapes
      induction shapes with
      | nil => exact id
      | cons s shapes ih => exact fun hq => ih (hq.register s (l s))
    exact hall Shape.all hp

/-- A registration puts its hooks behind those that are there. -/
theorem hooks_enroll (p : Pipeline σ) (r : Registration σ) (s : Shape) :
    (p.enroll r).hooks s = p.hooks s ++ r.hooks s := by
  cases r with
  | hook t h => exact p.hooks_register s t h
  | layer l => exact p.hooks_layer l s

/-- The inner provider stays. -/
theorem inner_enroll (p : Pipeline σ) (r : Registration σ) : (p.enroll r).inner = p.inner := by
  cases r <;> rfl

/-- **Any registrations keep the handlers folded.** -/
theorem Folded.enrollAll {p : Pipeline σ} (hp : p.Folded) (rs : List (Registration σ)) :
    (p.enrollAll rs).Folded := by
  induction rs generalizing p with
  | nil => exact hp
  | cons r rs ih => exact ih (hp.enroll r)

/-- The hooks of a shape are those that were registered for it, in this order. -/
theorem hooks_enrollAll (p : Pipeline σ) (rs : List (Registration σ)) (s : Shape) :
    (p.enrollAll rs).hooks s = p.hooks s ++ rs.flatMap (Registration.hooks s) := by
  induction rs generalizing p with
  | nil => exact (List.append_nil _).symm
  | cons r rs ih =>
    have hstep := ih (p.enroll r)
    rw [hooks_enroll, List.append_assoc] at hstep
    exact hstep

/-- The inner provider stays. -/
theorem inner_enrollAll (p : Pipeline σ) (rs : List (Registration σ)) :
    (p.enrollAll rs).inner = p.inner := by
  induction rs generalizing p with
  | nil => rfl
  | cons r rs ih => exact (ih (p.enroll r)).trans (p.inner_enroll r)

/-- **The handler after any registrations** is the fold of the hooks for its shape, the first one
outermost. -/
theorem handler_enrollAll (inner : Provider σ) (rs : List (Registration σ)) (s : Shape) :
    ((ofProvider inner).enrollAll rs).handler s
      = fold (rs.flatMap (Registration.hooks s)) (inner.handle s) := by
  rw [(folded_ofProvider inner).enrollAll rs s, hooks_enrollAll, inner_enrollAll]
  rfl

/-- **A hook that does not hand calls on hides what is inside of it**, hooks and handler. -/
theorem fold_answering {s : Shape} (outer inside : List (Hook σ s)) (answer next : Handler σ s) :
    fold (outer ++ (fun _ => answer) :: inside) next = fold outer answer := by
  rw [fold, List.foldr_append]
  rfl

end Pipeline

/-! ## Hooks that trace -/

/-- The hooks that trace under some names. -/
def tracers (s : Shape) (names : List String) : List (Hook σ s) := names.map fun n => tracing n s

/-- The lines of a call that enters hooks which trace, the outermost first. -/
def Shape.entries (s : Shape) (names : List String) (input : s.Input) (env : Env σ) : List Entry :=
  names.map fun n => .enters n (s.subject env input)

/-- The lines of an outcome that leaves them, the innermost first. -/
def exits {α : Type} (names : List String) (outcome : Except ProviderError α) : List Entry :=
  names.reverse.map fun n => .leaves n (match outcome with | .ok _ => none | .error e => some e)

/-- What a call is about does not depend on the journal. -/
theorem Shape.subject_noting (s : Shape) (input : s.Input) (env : Env σ) (lines : List Entry) :
    s.subject (env.noting lines) input = s.subject env input := by
  cases s <;> rfl

/-- A hook that traces notes a call, hands it on, and notes the outcome. -/
theorem run_tracing (name : String) {s : Shape} (next : Handler σ s) (input : s.Input)
    (env : Env σ) :
    (tracing name s next input).run env
      = let (outcome, left) := (next input).run (env.noting (s.entries [name] input env))
        (outcome, left.noting (exits [name] outcome)) := by
  have hget : (get : Action σ (Env σ)) env = (env, env) := rfl
  have henter : (note (.enters name (s.subject env input)) : Action σ Unit) env
      = ((), env.noting (s.entries [name] input env)) := rfl
  rw [tracing, ExceptT.run_mk, run_action_bind, hget, run_action_bind, henter, run_action_bind]
  rcases (next input).run (env.noting (s.entries [name] input env)) with ⟨outcome, left⟩
  cases outcome <;> rfl

/-- **Hooks that trace nest**: a call enters them in their order, then the handler inside answers,
and the outcome leaves them in the opposite order. -/
theorem run_fold_tracers {s : Shape} (names : List String) (next : Handler σ s) (input : s.Input)
    (env : Env σ) :
    (Pipeline.fold (tracers s names) next input).run env
      = let (outcome, left) := (next input).run (env.noting (s.entries names input env))
        (outcome, left.noting (exits names outcome)) := by
  induction names generalizing env with
  | nil =>
    have hnone : ∀ outcome : Except ProviderError s.Output, exits [] outcome = [] := fun _ => rfl
    rw [Shape.entries, List.map_nil, Env.noting_nil]
    simp only [hnone, Env.noting_nil]
    rfl
  | cons name names ih =>
    have hfold : Pipeline.fold (tracers s (name :: names)) next
        = tracing name s (Pipeline.fold (tracers s names) next) := rfl
    -- the entries of the hooks inside come behind this entry, and their exits before this exit
    have hentries : (env.noting (s.entries [name] input env)).noting
        (s.entries names input (env.noting (s.entries [name] input env)))
          = env.noting (s.entries (name :: names) input env) := by
      rw [Env.noting_noting]
      simp [Shape.entries, Shape.subject_noting]
    rw [hfold, run_tracing, ih, hentries]
    rcases (next input).run (env.noting (s.entries (name :: names) input env)) with ⟨outcome, left⟩
    simp [Env.noting_noting, exits]

/-! ## Main result -/

namespace Pipeline

/-- **Registrations nest.** After any hooks and layers were registered in any order:

* the handler of a shape is made of the hooks for this shape, in the order of their registration and
  the first one outermost, around the inner handler; what was registered for other shapes plays no
  part;
* if the hooks of a shape trace, a call enters them in their order, then the inner provider answers,
  and the outcome leaves them in the opposite order;
* if one of the hooks answers instead of handing calls on, neither the hooks behind it nor the inner
  provider take part, and its outcome leaves the hooks before it in the opposite order;
* a batch without elements is refused before any hook. -/
theorem registrations_nest (inner : Provider σ) (rs : List (Registration σ)) :
    let p := (ofProvider inner).enrollAll rs
    (∀ s, p.handler s
        = (rs.flatMap (Registration.hooks s)).foldr (fun hook next => hook next) (inner.handle s) ∧
      p.handler s
        = ((ofProvider inner).enrollAll (rs.filter (Registration.concerns s))).handler s) ∧
    (∀ (s : Shape) (names : List String), rs.flatMap (Registration.hooks s) = tracers s names →
      ∀ (input : s.Input) (env : Env σ), s.isVacant input = false →
        (p.toProvider.handle s input).run env
          = let (outcome, left) :=
              (inner.handle s input).run (env.noting (s.entries names input env))
            (outcome, left.noting (exits names outcome))) ∧
    (∀ (s : Shape) (names : List String) (answer : Handler σ s) (inside : List (Hook σ s)),
      rs.flatMap (Registration.hooks s) = tracers s names ++ (fun _ => answer) :: inside →
      ∀ (input : s.Input) (env : Env σ), s.isVacant input = false →
        (p.toProvider.handle s input).run env
          = let (outcome, left) := (answer input).run (env.noting (s.entries names input env))
            (outcome, left.noting (exits names outcome))) ∧
    (∀ (s : Shape) (input : s.Input) (env : Env σ), s.isVacant input = true →
      (p.toProvider.handle s input).run env = (.error .emptyBatch, env)) := by
  intro p
  have hrun : ∀ (s : Shape) (input : s.Input), s.isVacant input = false →
      p.toProvider.handle s input
        = fold (rs.flatMap (Registration.hooks s)) (inner.handle s) input := by
    intro s input hinput
    rw [handle_toProvider, if_neg (by simp [hinput]), handler_enrollAll]
  refine ⟨fun s => ⟨handler_enrollAll inner rs s, ?_⟩, fun s names hs input env hinput => ?_,
    fun s names answer inside hs input env hinput => ?_, fun s input env hinput => ?_⟩
  · rw [handler_enrollAll, handler_enrollAll, Registration.flatMap_hooks_filter]
  · rw [hrun s input hinput, hs, run_fold_tracers]
  · rw [hrun s input hinput, hs, fold_answering, run_fold_tracers]
  · rw [handle_toProvider, if_pos hinput]
    rfl

/-- Of two hooks for calls that trace, one of them part of a layer, a call enters the first one
first and leaves it last; a hook for batches that is registered between them plays no part. With a
hook between them that answers, the second one and the node are not reached. -/
theorem registrations_nest_two :
    let node := Provider.ofAnswers fun _ _ => .ok .null
    let between : List (Registration Nat) :=
      [.hook .call (tracing "outer" .call), .hook .batch (renamingBatches "eth_chainId" .batch),
        .layer (tracing "inner")]
    let answered : List (Registration Nat) :=
      [.hook .call (tracing "outer" .call), .hook .call (answering (.bool true)),
        .layer (tracing "inner")]
    let asked : Call := ⟨"eth_gasPrice", []⟩
    (((ofProvider node).enrollAll between).toProvider.handle .call asked).run { node := 0 }
      = (.ok .null,
        { journal := [.enters "outer" "eth_gasPrice", .enters "inner" "eth_gasPrice",
            .leaves "inner" none, .leaves "outer" none], node := 1 }) ∧
    (((ofProvider node).enrollAll answered).toProvider.handle .call asked).run { node := 0 }
      = (.ok (.bool true),
        { journal := [.enters "outer" "eth_gasPrice", .leaves "outer" none], node := 0 }) ∧
    (((ofProvider node).enrollAll between).toProvider.handle .batch []).run { node := 0 }
      = (.error .emptyBatch, { node := 0 }) := by
  intro node between answered asked
  obtain ⟨-, htraced, -, hempty⟩ := registrations_nest node between
  obtain ⟨-, -, hanswered, -⟩ := registrations_nest node answered
  refine ⟨?_, ?_, hempty .batch [] _ rfl⟩
  · rw [htraced .call ["outer", "inner"] rfl asked _ rfl]
    rfl
  · rw [hanswered .call ["outer"] (fun _ => pure (.bool true)) [tracing "inner" .call] rfl asked _
      rfl]
    rfl

end Pipeline

end EthClient
