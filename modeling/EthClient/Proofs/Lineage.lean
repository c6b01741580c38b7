import EthClient.Proofs.Contexts
import Mathlib.Data.List.Forall2
import Mathlib.Order.Bounds.Basic

/-! # The descent of contexts

A context holds a copy of the earliest deadline and the scopes that it lies in, and nothing in it
tells how it was made. Here contexts are made, copied, cancelled and given up in any order while the
time goes by (`ContextOp`, `Contexts.perform`), and a `Lineage` writes down only what was done:
which context was made from which one with which deadline, and which ones were ended.

* `Lineage.Descends` are the ancestors of a context in a lineage, and `Lineage.Given` the deadlines
  that were given along the chain of them.
* `Lineage.Owns` says that the scopes of a context are its ancestors and that its deadline is the
  earliest of these. Making contexts keeps this for those that are there
  (**`Lineage.Owns.append`**) and has it for the new one (**`Lineage.owns_child`**).
* So a run of operations follows its lineage (**`Lineage.follows_performAll`**), and all that can be
  asked of a context is read off the lineage (**`Lineage.Follows.describes`**). -/

namespace EthClient

variable {σ : Type}

/-! ## What is done with contexts -/

/-- What can be done with contexts and with the guards of those that were derived. Both are numbered
in the order in which they were had. -/
inductive ContextOp where
  | background
  | withDeadline (parent deadline : Nat)
  | withTimeout (parent timeout : Nat)
  | clone (original : Nat)
  | cancel (context : Nat)
  | dropGuard (guard : Nat)
  /-- Some milliseconds go by. -/
  | pass (ms : Nat)

/-- The contexts that there are, and the contexts that the guards are for. -/
structure Contexts (σ : Type) where
  env : Env σ
  held : List Context := []
  guards : List Context := []

namespace Contexts

/-- Derives a context with its guard, if there is the parent. -/
def derive (cs : Contexts σ) (parent : Nat) (make : Context → Action σ Context) : Contexts σ :=
  match cs.held[parent]? with
  | none => cs
  | some p =>
    let (c, env) := make p cs.env
    { env, held := cs.held ++ [c], guards := cs.guards ++ [c] }

/-- Cancels a context, if there is one. -/
def cancel (cs : Contexts σ) : Option Context → Contexts σ
  | none => cs
  | some c => { cs with env := (c.cancel cs.env).2 }

/-- It is still there then. -/
theorem held_cancel (cs : Contexts σ) (c? : Option Context) : (cs.cancel c?).held = cs.held := by
  cases c? <;> rfl

/-- What there is after an operation. -/
def perform (cs : Contexts σ) : ContextOp → Contexts σ
  | .background =>
    let (c, env) := Context.background cs.env
    { cs with env, held := cs.held ++ [c] }
  | .withDeadline parent deadline => cs.derive parent (·.derive (some deadline))
  | .withTimeout parent timeout => cs.derive parent (·.withTimeout timeout)
  | .clone original => { cs with held := cs.held ++ cs.held[original]?.toList }
  | .cancel context => cs.cancel cs.held[context]?
  | .dropGuard guard => cs.cancel cs.guards[guard]?
  | .pass ms => { cs with env := (wait none ms cs.env).2 }

/-- What there is after some operations. -/
def performAll (cs : Contexts σ) (ops : List ContextOp) : Contexts σ := ops.foldl perform cs

end Contexts

/-! ## What is written down -/

/-- What is known without looking into the contexts. -/
structure Lineage where
  now : Nat
  /-- Every context that was made: from which one and with which deadline, or from none. -/
  made : List (Option (Nat × Nat)) := []
  /-- The contexts that there are. Copies are the same context. -/
  held : List Nat := []
  /-- The contexts that the guards are for. -/
  guards : List Nat := []
  /-- The contexts that were cancelled or whose guards were dropped. -/
  ended : List Nat := []

namespace Lineage

/-- A context is made from another one, if there is that one. -/
def derive (l : Lineage) (parent deadline : Nat) : Lineage :=
  match l.held[parent]? with
  | none => l
  | some p =>
    { l with
      made := l.made ++ [some (p, deadline)]
      held := l.held ++ [l.made.length]
      guards := l.guards ++ [l.made.length] }

/-- What is known after an operation. -/
def perform (l : Lineage) : ContextOp → Lineage
  | .background => { l with made := l.made ++ [none], held := l.held ++ [l.made.length] }
  | .withDeadline parent deadline => l.derive parent deadline
  | .withTimeout parent timeout => l.derive parent (l.now + timeout)
  | .clone original => { l with held := l.held ++ l.held[original]?.toList }
  | .cancel context => { l with ended := l.held[context]?.toList ++ l.ended }
  | .dropGuard guard => { l with ended := l.guards[guard]?.toList ++ l.ended }
  | .pass ms => { l with now := l.now + ms }

/-- The context that an operation ends. -/
def ended? (l : Lineage) : ContextOp → Option Nat
  | .cancel context => l.held[context]?
  | .dropGuard guard => l.guards[guard]?
  | _ => none

/-- What is known after some operations. -/
def performAll (l : Lineage) (ops : List ContextOp) : Lineage := ops.foldl perform l

/-! ## Ancestors -/

variable {made : List (Option (Nat × Nat))} {a p t x y : Nat}

/-- A context is the other one or was made from one that descends from it. -/
inductive Descends (made : List (Option (Nat × Nat))) (a : Nat) : Nat → Prop where
  | self : Descends made a a
  | child {x p t : Nat} (hx : made[x]? = some (some (p, t))) (hp : Descends made a p) :
    Descends made a x

/-- The deadline was given to a context or to an ancestor of it. -/
def Given (made : List (Option (Nat × Nat))) (x t : Nat) : Prop :=
  ∃ a p, Descends made a x ∧ made[a]? = some (some (p, t))

/-- Contexts are made from earlier ones. -/
def Ordered (made : List (Option (Nat × Nat))) : Prop :=
  ∀ x p t : Nat, made[x]? = some (some (p, t)) → p < x

/-- Descent goes on. -/
theorem Descends.trans (h : Descends made a x) (h' : Descends made x y) : Descends made a y := by
  induction h' with
  | self => exact h
  | child hy _ ih => exact .child hy ih

/-- Ancestors are earlier. -/
theorem Descends.le (hmade : Ordered made) (h : Descends made a x) : a ≤ x := by
  induction h with
  | self => exact Nat.le_refl a
  | child hx _ ih => exact Nat.le_trans ih (Nat.le_of_lt (hmade _ _ _ hx))

/-- What descends from a context has its deadlines. -/
theorem Given.trans (h : Given made x t) (h' : Descends made x y) : Given made y t := by
  obtain ⟨a, p, ha, ht⟩ := h
  exact ⟨a, p, ha.trans h', ht⟩

/-- **Parents and siblings of a context do not descend from it.** -/
theorem not_descends_of_child (hmade : Ordered made) (hx : made[x]? = some (some (p, t))) :
    ¬ Descends made x p ∧
      ∀ y t', made[y]? = some (some (p, t')) → y ≠ x → ¬ Descends made x y := by
  have hparent : ¬ Descends made x p := fun h => Nat.not_lt.mpr (h.le hmade) (hmade _ _ _ hx)
  refine ⟨hparent, fun y t' hy hne h => ?_⟩
  cases h with
  | self => exact hne rfl
  | child hy' hp =>
    rw [hy] at hy'
    cases hy'
    exact hparent hp

section Append

variable {more : List (Option (Nat × Nat))}

/-- What is made later does not change the ancestors of a context. -/
theorem descends_append (hmade : Ordered made) (hx : x < made.length) :
    Descends (made ++ more) a x ↔ Descends made a x := by
  constructor
  · intro h
    induction h with
    | self => exact .self
    | child hx' _ ih =>
      rw [List.getElem?_append_left hx] at hx'
      exact .child hx' (ih (Nat.lt_trans (hmade _ _ _ hx') hx))
  · intro h
    induction h with
    | self => exact .self
    | child hx' _ ih =>
      exact .child ((List.getElem?_append_left hx).trans hx')
        (ih (Nat.lt_trans (hmade _ _ _ hx') hx))

/-- Nor the deadlines that were given to them. -/
theorem given_append (hmade : Ordered made) (hx : x < made.length) :
    Given (made ++ more) x t ↔ Given made x t := by
  refine exists_congr fun a => exists_congr fun p => ?_
  rw [descends_append hmade hx]
  refine and_congr_right fun ha => ?_
  rw [List.getElem?_append_left (Nat.lt_of_le_of_lt (ha.le hmade) hx)]

end Append

/-- **The ancestors of a new context** are itself and those of its parent. -/
theorem descends_child (hmade : Ordered made) (hp : p < made.length) :
    Descends (made ++ [some (p, t)]) a made.length ↔ a = made.length ∨ Descends made a p := by
  have hnew : (made ++ [some (p, t)])[made.length]? = some (some (p, t)) :=
    List.getElem?_concat_length
  constructor
  · intro h
    cases h with
    | self => exact .inl rfl
    | child hx hdesc =>
      rw [hnew] at hx
      cases hx
      exact .inr ((descends_append hmade hp).mp hdesc)
  · rintro (rfl | h)
    · exact .self
    · exact .child hnew ((descends_append hmade hp).mpr h)

/-- Its deadlines are its own one and those of its parent. -/
theorem given_child (hmade : Ordered made) (hp : p < made.length) :
    {u | Given (made ++ [some (p, t)]) made.length u} = insert t {u | Given made p u} := by
  have hnew : (made ++ [some (p, t)])[made.length]? = some (some (p, t)) :=
    List.getElem?_concat_length
  ext u
  constructor
  · rintro ⟨a, q, ha, hu⟩
    rcases (descends_child hmade hp).mp ha with rfl | ha
    · rw [hnew] at hu
      cases hu
      exact .inl rfl
    · rw [List.getElem?_append_left (Nat.lt_of_le_of_lt (ha.le hmade) hp)] at hu
      exact .inr ⟨a, q, ha, hu⟩
  · rintro (rfl | hu)
    · exact ⟨made.length, p, .self, hnew⟩
    · have hgiven : Given (made ++ [some (p, t)]) p u := (given_append hmade hp).mpr hu
      exact hgiven.trans (.child hnew .self)

/-! ## Contexts in a lineage -/

/-- The earliest instant of a set; none stands for never. -/
def Earliest (S : Set Nat) : Option Nat → Prop
  | none => S = ∅
  | some d => IsLeast S d

/-- One more instant. -/
theorem Earliest.insert {S : Set Nat} {d : Option Nat} (h : Earliest S d) (t : Nat) :
    Earliest (Insert.insert t S) (Context.earlier d (some t)) := by
  cases d with
  | none =>
    have hempty : S = ∅ := h
    rw [hempty, insert_empty_eq]
    exact isLeast_singleton
  | some d =>
    have hleast : IsLeast S d := h
    have hmin : min d t = min t d := Nat.min_comm d t
    show IsLeast _ (min d t)
    rw [hmin]
    exact hleast.insert t

/-- The context is this one of the lineage: it lies in the scopes of its ancestors, its own one
first, and has the earliest of the deadlines that were given to them. -/
structure Owns (made : List (Option (Nat × Nat))) (x : Nat) (c : Context) : Prop where
  lt : x < made.length
  scope : c.scopes.head? = some x
  scopes : ∀ a, a ∈ c.scopes ↔ Descends made a x
  deadline : Earliest {t | Given made x t} c.deadline

/-- **It still is when other contexts are made.** -/
theorem Owns.append {c : Context} (hmade : Ordered made) (h : Owns made x c)
    (more : List (Option (Nat × Nat))) : Owns (made ++ more) x c where
  lt := Nat.lt_of_lt_of_le h.lt (by simp)
  scope := h.scope
  scopes a := (h.scopes a).trans (descends_append hmade h.lt).symm
  deadline := by
    have hsame : {t | Given (made ++ more) x t} = {t | Given made x t} :=
      Set.ext fun t => given_append hmade h.lt
    rw [hsame]
    exact h.deadline

/-- **A context that is derived** is a child in the lineage. -/
theorem owns_child {parent : Context} (hmade : Ordered made) (h : Owns made p parent) (t : Nat) :
    Owns (made ++ [some (p, t)]) made.length
      ⟨made.length :: parent.scopes, Context.earlier parent.deadline (some t)⟩ where
  lt := by simp
  scope := rfl
  scopes a := by rw [List.mem_cons, h.scopes, descends_child hmade h.lt]
  deadline := by
    rw [given_child hmade h.lt]
    exact h.deadline.insert t

/-- A background has neither ancestors nor a deadline. -/
theorem owns_background (made : List (Option (Nat × Nat))) :
    Owns (made ++ [none]) made.length ⟨[made.length], none⟩ := by
  have hnew : (made ++ [none])[made.length]? = some none := List.getElem?_concat_length
  have hself (a : Nat) : Descends (made ++ [none]) a made.length ↔ a = made.length := by
    constructor
    · rintro (_ | ⟨hx, -⟩)
      · rfl
      · rw [hnew] at hx
        cases hx
    · rintro rfl
      exact .self
  have hgiven : {t | Given (made ++ [none]) made.length t} = ∅ := by
    refine Set.eq_empty_iff_forall_notMem.mpr ?_
    rintro t ⟨a, p, ha, ht⟩
    rw [(hself a).mp ha, hnew] at ht
    cases ht
  exact
    { lt := by simp
      scope := rfl
      scopes := fun a => by rw [List.mem_singleton, hself]
      deadline := hgiven }

/-- The contexts are those of the lineage, and exactly the scopes of the ended ones are
cancelled. -/
structure Follows (l : Lineage) (cs : Contexts σ) : Prop where
  now : cs.env.now = l.now
  alarm : cs.env.alarm = none
  scopeCount : cs.env.scopeCount = l.made.length
  cancelled : cs.env.cancelled = l.ended
  ordered : Ordered l.made
  held : List.Forall₂ (Owns l.made) l.held cs.held
  guards : List.Forall₂ (Owns l.made) l.guards cs.guards

/-- What stands at the same place of two such lists belongs together. -/
theorem forall₂_getElem? {α β : Type} {R : α → β → Prop} {xs : List α} {ys : List β}
    (h : List.Forall₂ R xs ys) (i : Nat) :
    xs[i]? = none ∧ ys[i]? = none ∨ ∃ x y, xs[i]? = some x ∧ ys[i]? = some y ∧ R x y := by
  induction h generalizing i with
  | nil => exact .inl ⟨rfl, rfl⟩
  | cons hxy _ ih =>
    cases i with
    | zero => exact .inr ⟨_, _, rfl, rfl, hxy⟩
    | succ i => exact ih i

section Steps

variable {l : Lineage} {cs : Contexts σ} {new : Option (Nat × Nat)}

/-- What is made is made from something earlier. -/
theorem Ordered.append (hmade : Ordered made)
    (hnew : ∀ p t : Nat, new = some (p, t) → p < made.length) : Ordered (made ++ [new]) := by
  intro x p t hx
  by_cases hlt : x < made.length
  · rw [List.getElem?_append_left hlt] at hx
    exact hmade x p t hx
  · obtain ⟨hle, hget⟩ := List.getElem?_eq_some_iff.mp hx
    have hlast : x = made.length := by
      rw [List.length_append, List.length_singleton] at hle
      omega
    subst hlast
    exact hnew p t (by simpa using hget)

/-- A new context is behind those that there are. -/
theorem forall₂_owns_append {xs : List Nat} {contexts : List Context} {c : Context}
    (hmade : Ordered made) (h : List.Forall₂ (Owns made) xs contexts)
    (hnew : Owns (made ++ [new]) made.length c) :
    List.Forall₂ (Owns (made ++ [new])) (xs ++ [made.length]) (contexts ++ [c]) :=
  List.rel_append (h.imp fun _ _ howns => howns.append hmade [new]) (.cons hnew .nil)

/-- **Making a background** follows the lineage. -/
theorem Follows.background (h : l.Follows cs) :
    (l.perform .background).Follows (cs.perform .background) := by
  have hnew : Owns (l.made ++ [none]) l.made.length (Context.background cs.env).1 := by
    rw [Context.background, Context.derive, h.scopeCount]
    exact owns_background l.made
  exact
    { now := h.now
      alarm := h.alarm
      scopeCount := by
        simp [Lineage.perform, Contexts.perform, Context.background, Context.derive, h.scopeCount]
      cancelled := h.cancelled
      ordered := h.ordered.append nofun
      held := forall₂_owns_append h.ordered h.held hnew
      guards := h.guards.imp fun _ _ howns => howns.append h.ordered _ }

/-- **Deriving a context** follows the lineage. -/
theorem Follows.derive (h : l.Follows cs) (parent deadline : Nat) :
    (l.derive parent deadline).Follows (cs.derive parent (·.derive (some deadline))) := by
  unfold Lineage.derive Contexts.derive
  rcases forall₂_getElem? h.held parent with ⟨hnone, hnone'⟩ | ⟨p, c, hp, hc, howns⟩
  · rw [hnone, hnone']
    exact h
  · have hnew : Owns (l.made ++ [some (p, deadline)]) l.made.length
        (c.derive (some deadline) cs.env).1 := by
      rw [Context.derive, h.scopeCount]
      exact owns_child h.ordered howns deadline
    have hordered : Ordered (l.made ++ [some (p, deadline)]) :=
      h.ordered.append fun _ _ hq => by cases hq; exact howns.lt
    rw [hp, hc]
    exact
      { now := h.now
        alarm := h.alarm
        scopeCount := by simp [Context.derive, h.scopeCount]
        cancelled := h.cancelled
        ordered := hordered
        held := forall₂_owns_append h.ordered h.held hnew
        guards := forall₂_owns_append h.ordered h.guards hnew }

/-- Cancelling a context ends it. -/
theorem Follows.cancel (h : l.Follows cs) {xs : List Nat} {contexts : List Context}
    (hrow : List.Forall₂ (Owns l.made) xs contexts) (i : Nat) :
    Follows { l with ended := xs[i]?.toList ++ l.ended } (cs.cancel contexts[i]?) := by
  rcases forall₂_getElem? hrow i with ⟨hnone, hnone'⟩ | ⟨x, c, hx, hc, howns⟩
  · rw [hnone, hnone']
    exact h
  · -- the scope that is cancelled is the own one of the context
    obtain ⟨scopes, hscopes⟩ := List.head?_eq_some_iff.mp howns.scope
    have hcancel : (c.cancel cs.env).2 = cs.env.cancelScope x := by
      rw [Context.cancel, hscopes]
      rfl
    rw [hx, hc, Contexts.cancel, hcancel]
    exact
      { now := h.now
        alarm := h.alarm
        scopeCount := h.scopeCount
        cancelled := congrArg (x :: ·) h.cancelled
        ordered := h.ordered
        held := h.held
        guards := h.guards }

/-- **Every operation** follows the lineage. -/
theorem Follows.perform (h : l.Follows cs) (op : ContextOp) :
    (l.perform op).Follows (cs.perform op) := by
  cases op with
  | background => exact h.background
  | withDeadline parent deadline => exact h.derive parent deadline
  | withTimeout parent timeout =>
    have hsame : cs.derive parent (·.withTimeout timeout)
        = cs.derive parent (·.derive (some (cs.env.now + timeout))) := rfl
    rw [Contexts.perform, hsame, h.now]
    exact h.derive parent (l.now + timeout)
  | clone original =>
    have hheld : List.Forall₂ (Owns l.made) (l.held ++ l.held[original]?.toList)
        (cs.held ++ cs.held[original]?.toList) := by
      rcases forall₂_getElem? h.held original with ⟨hnone, hnone'⟩ | ⟨x, c, hx, hc, howns⟩
      · rw [hnone, hnone']
        exact List.rel_append h.held .nil
      · rw [hx, hc]
        exact List.rel_append h.held (.cons howns .nil)
    exact { h with held := hheld }
  | cancel context => exact h.cancel h.held context
  | dropGuard guard => exact h.cancel h.guards guard
  | pass ms =>
    have hwait : (wait none ms cs.env).2 = { cs.env with now := cs.env.now + ms } := by
      rw [wait_eq_elapse (cs.env.spares_none ms)]
      rcases cs.env.elapse_cases ms with helapse | ⟨instant, scope, hset, -⟩
      · exact helapse
      · rw [h.alarm] at hset
        cases hset
    rw [Lineage.perform, Contexts.perform, hwait]
    exact { h with now := congrArg (· + ms) h.now }

/-- **So does every run.** -/
theorem follows_performAll (h : l.Follows cs) (ops : List ContextOp) :
    (l.performAll ops).Follows (cs.performAll ops) := by
  induction ops generalizing l cs with
  | nil => exact h
  | cons op rest ih => exact ih (h.perform op)

end Steps

/-! ## What is read off the lineage -/

/-- What a lineage says of a context: its deadline is the earliest of those that were given to it
and its ancestors, it is cancelled if it or an ancestor was ended, and it is over if it is cancelled
or its deadline has come. -/
structure Describes (l : Lineage) (x : Nat) (env : Env σ) (c : Context) : Prop where
  deadline : Earliest {t | Given l.made x t} c.deadline
  cancelled : env.isCancelled c = true ↔ ∃ a ∈ l.ended, Descends l.made a x
  done : env.isDone c = true ↔
    (∃ a ∈ l.ended, Descends l.made a x) ∨ ∃ d, c.deadline = some d ∧ d ≤ l.now

/-- **What the lineage says is so.** -/
theorem Follows.describes {l : Lineage} {cs : Contexts σ} (h : l.Follows cs) {c : Context}
    (howns : Owns l.made x c) : l.Describes x cs.env c := by
  have hcancelled : cs.env.isCancelled c = true ↔ ∃ a ∈ l.ended, Descends l.made a x := by
    rw [Env.isCancelled, List.any_eq_true, h.cancelled]
    simp only [howns.scopes, decide_eq_true_iff]
    exact exists_congr fun a => and_comm
  refine ⟨howns.deadline, hcancelled, ?_⟩
  rw [Env.isDone, Bool.or_eq_true, hcancelled, Env.isExpired, h.now]
  refine or_congr_right ?_
  cases c.deadline <;> simp

/-- What is held is this context of the lineage. -/
theorem Follows.owns {l : Lineage} {cs : Contexts σ} (h : l.Follows cs) {i : Nat} {c : Context}
    (hx : l.held[i]? = some x) (hc : cs.held[i]? = some c) : Owns l.made x c := by
  rcases forall₂_getElem? h.held i with ⟨hnone, -⟩ | ⟨x', c', hx', hc', howns⟩
  · rw [hnone] at hx
    cases hx
  · rw [hx] at hx'
    rw [hc] at hc'
    cases hx'
    cases hc'
    exact howns

/-- A deadline has come if one of those that were given has. -/
theorem Earliest.exists_le {S : Set Nat} {d : Option Nat} (h : Earliest S d) {t : Nat}
    (ht : t ∈ S) : ∃ d', d = some d' ∧ d' ≤ t := by
  cases d with
  | none =>
    have hempty : S = ∅ := h
    rw [hempty] at ht
    exact ht.elim
  | some d =>
    have hleast : IsLeast S d := h
    exact ⟨d, rfl, hleast.2 ht⟩

/-- The deadline is one of those that were given. -/
theorem Earliest.mem {S : Set Nat} {d : Option Nat} (h : Earliest S d) {t : Nat}
    (hd : d = some t) : t ∈ S := by
  subst hd
  have hleast : IsLeast S t := h
  exact hleast.1

/-! ## Later on -/

/-- One lineage is known at some time and the other one later. -/
structure Before (l l' : Lineage) : Prop where
  now : l.now ≤ l'.now
  made : l.made <+: l'.made
  held : l.held <+: l'.held
  ended : l.ended ⊆ l'.ended

/-- When nothing is done in between. -/
theorem Before.refl (l : Lineage) : l.Before l :=
  ⟨Nat.le_refl _, List.prefix_rfl, List.prefix_rfl, List.Subset.refl _⟩

/-- Nothing that is known is forgotten. -/
theorem before_perform (l : Lineage) (op : ContextOp) : l.Before (l.perform op) := by
  have hderive (parent deadline : Nat) : l.Before (l.derive parent deadline) := by
    unfold Lineage.derive
    split
    · exact .refl l
    · exact ⟨Nat.le_refl _, List.prefix_append .., List.prefix_append .., List.Subset.refl _⟩
  have hended (x? : Option Nat) : l.Before { l with ended := x?.toList ++ l.ended } :=
    ⟨Nat.le_refl _, List.prefix_rfl, List.prefix_rfl, List.subset_append_right ..⟩
  cases op with
  | background =>
    exact ⟨Nat.le_refl _, List.prefix_append .., List.prefix_append .., List.Subset.refl _⟩
  | withDeadline parent deadline => exact hderive parent deadline
  | withTimeout parent timeout => exact hderive parent _
  | clone original =>
    exact ⟨Nat.le_refl _, List.prefix_rfl, List.prefix_append .., List.Subset.refl _⟩
  | cancel context => exact hended _
  | dropGuard guard => exact hended _
  | pass ms => exact ⟨Nat.le_add_right .., List.prefix_rfl, List.prefix_rfl, List.Subset.refl _⟩

/-- Nor in a run. -/
theorem before_performAll (l : Lineage) (ops : List ContextOp) : l.Before (l.performAll ops) := by
  induction ops generalizing l with
  | nil => exact .refl l
  | cons op rest ih =>
    have hfirst := l.before_perform op
    have hrest := ih (l.perform op)
    exact ⟨Nat.le_trans hfirst.now hrest.now, hfirst.made.trans hrest.made,
      hfirst.held.trans hrest.held, List.Subset.trans hfirst.ended hrest.ended⟩

section Later

variable {l l' : Lineage} {cs cs' : Contexts σ} {c c' : Context}

/-- Neither descent nor deadlines are forgotten. -/
theorem Before.descends (h : l.Before l') (hmade : Ordered l.made) (hx : x < l.made.length) :
    (∀ a, Descends l.made a x → Descends l'.made a x) ∧
      ∀ t, Given l.made x t → Given l'.made x t := by
  obtain ⟨more, hmore⟩ := h.made
  rw [← hmore]
  exact ⟨fun _ => (descends_append hmade hx).mpr, fun _ => (given_append hmade hx).mpr⟩

/-- **What descends from a context does not outlive it.** -/
theorem Before.deadline_le (h : l.Before l') (hmade : Ordered l.made) (hx : Owns l.made x c)
    (hy : Owns l'.made y c') (hdesc : Descends l'.made x y) {d : Nat} (hd : c.deadline = some d) :
    ∃ d', c'.deadline = some d' ∧ d' ≤ d := by
  have hgiven : Given l.made x d := hx.deadline.mem hd
  exact hy.deadline.exists_le (((h.descends hmade hx.lt).2 d hgiven).trans hdesc)

/-- **A context that was over is over later on**, and so is what descends from it. -/
theorem Before.done (h : l.Before l') (hfollows : l.Follows cs) (hfollows' : l'.Follows cs')
    (hx : Owns l.made x c) (hy : Owns l'.made y c') (hdesc : Descends l'.made x y)
    (hdone : cs.env.isDone c = true) : cs'.env.isDone c' = true := by
  rw [(hfollows'.describes hy).done]
  rcases (hfollows.describes hx).done.mp hdone with ⟨a, ha, hax⟩ | ⟨d, hd, hnow⟩
  · have hax' := (h.descends hfollows.ordered hx.lt).1 a hax
    exact .inl ⟨a, h.ended ha, hax'.trans hdesc⟩
  · obtain ⟨d', hd', hle⟩ := h.deadline_le hfollows.ordered hx hy hdesc hd
    exact .inr ⟨d', hd', Nat.le_trans hle (Nat.le_trans hnow h.now)⟩

/-- **Ending a context leaves those alone that do not descend from it.** -/
theorem Follows.perform_of_not_descends (h : l.Follows cs) {op : ContextOp}
    (hop : l.ended? op = some y) (hx : Owns l.made x c) (hdesc : ¬ Descends l.made y x) :
    (cs.perform op).env.isCancelled c = cs.env.isCancelled c ∧
      (cs.perform op).env.isDone c = cs.env.isDone c := by
  have hperform : l.perform op = { l with ended := y :: l.ended } := by
    cases op with
    | cancel context =>
      have hheld : l.held[context]? = some y := hop
      rw [Lineage.perform, hheld]
      rfl
    | dropGuard guard =>
      have hguard : l.guards[guard]? = some y := hop
      rw [Lineage.perform, hguard]
      rfl
    | _ => cases hop
  have hx' : Owns (l.perform op).made x c := by
    rw [hperform]
    exact hx
  have hafter := (h.perform op).describes hx'
  have hbefore := h.describes hx
  have hended : (∃ a ∈ (l.perform op).ended, Descends (l.perform op).made a x)
      ↔ ∃ a ∈ l.ended, Descends l.made a x := by
    rw [hperform]
    simp [hdesc]
  have hnow : (l.perform op).now = l.now := by rw [hperform]
  constructor
  · exact Bool.eq_iff_iff.mpr (hafter.cancelled.trans (hended.trans hbefore.cancelled.symm))
  · rw [Bool.eq_iff_iff, hafter.done, hbefore.done, hended, hnow]

end Later

/-! ## Main result -/

/-- **Contexts follow their lineage.** Whatever is done with contexts, and at every instant:

* The deadline of a context is the earliest of those that were given to it and its ancestors, it is
  cancelled if it or an ancestor was cancelled or lost its guard, and it is over if it is cancelled
  or its deadline has come.
* When a context is over, it stays so, and everything that was derived from it is over, too;
  nothing that was derived from it has a later deadline.
* Ending a context makes no difference to those that do not descend from it.
* The parent of a context does not descend from it, nor does another child of this parent. -/
theorem contexts_follow_lineage (start : Nat) (node : σ) (ops : List ContextOp) :
    let cs := Contexts.performAll { env := { now := start, node } } ops
    let l := performAll { now := start } ops
    (cs.env.now = l.now ∧ cs.held.length = l.held.length ∧
      ∀ (i : Nat) (c : Context) (x : Nat), cs.held[i]? = some c → l.held[i]? = some x →
        l.Describes x cs.env c) ∧
    (∀ (later : List ContextOp) (i j : Nat) (c c' : Context) (x y : Nat),
      cs.held[i]? = some c → (cs.performAll later).held[j]? = some c' →
      l.held[i]? = some x → (l.performAll later).held[j]? = some y →
      Descends (l.performAll later).made x y →
        (cs.env.isDone c = true → (cs.performAll later).env.isDone c' = true) ∧
        ∀ d, c.deadline = some d → ∃ d', c'.deadline = some d' ∧ d' ≤ d) ∧
    (∀ (op : ContextOp) (y : Nat), l.ended? op = some y →
      ∀ (i : Nat) (c : Context) (x : Nat), cs.held[i]? = some c → l.held[i]? = some x →
      ¬ Descends l.made y x →
        (cs.perform op).held[i]? = some c ∧
        (cs.perform op).env.isCancelled c = cs.env.isCancelled c ∧
        (cs.perform op).env.isDone c = cs.env.isDone c) ∧
    ∀ x p t : Nat, l.made[x]? = some (some (p, t)) → ¬ Descends l.made x p ∧
      ∀ y t', l.made[y]? = some (some (p, t')) → y ≠ x → ¬ Descends l.made x y := by
  intro cs l
  have hstart : Follows { now := start } ({ env := { now := start, node } } : Contexts σ) :=
    ⟨rfl, rfl, rfl, rfl, nofun, .nil, .nil⟩
  have hfollows : l.Follows cs := follows_performAll hstart ops
  refine ⟨⟨hfollows.now, hfollows.held.length_eq.symm, fun i c x hc hx => ?_⟩,
    fun later i j c c' x y hc hc' hx hy hdesc => ?_,
    fun op y hop i c x hc hx hdesc => ⟨?_, ?_⟩,
    fun x p t hx => not_descends_of_child hfollows.ordered hx⟩
  · exact hfollows.describes (hfollows.owns hx hc)
  · have hlater := follows_performAll hfollows later
    have hbefore := l.before_performAll later
    have howns := hfollows.owns hx hc
    have howns' := hlater.owns hy hc'
    exact ⟨hbefore.done hfollows hlater howns howns' hdesc,
      fun d => hbefore.deadline_le hfollows.ordered howns howns' hdesc⟩
  · cases op with
    | cancel | dropGuard => rw [Contexts.perform, Contexts.held_cancel, hc]
    | _ => cases hop
  · exact hfollows.perform_of_not_descends hop (hfollows.owns hx hc) hdesc

/-- A context with a child and a copy of it, and a sibling, when the deadline of the context has
come: what is derived from the copy is over as soon as it is made, and to cancel the copy does not
cancel the context. -/
theorem contexts_follow_lineage_copied :
    let ops : List ContextOp := [.background, .withTimeout 0 10, .withDeadline 1 50, .clone 2,
      .withTimeout 0 600, .pass 10]
    let cs := Contexts.performAll { env := { now := 0, node := () } } ops
    let l := performAll { now := 0 } ops
    let context : Context := ⟨[1, 0], some 10⟩
    let copy : Context := ⟨[2, 1, 0], some 10⟩
    let later : List ContextOp := [.withTimeout 3 90]
    let newest : Context := ⟨[4, 2, 1, 0], some 10⟩
    (cs.held[3]? = some copy ∧ l.held[3]? = some 2 ∧ l.Describes 2 cs.env copy) ∧
    (Descends (l.performAll later).made 1 4 ∧ cs.env.isDone context = true ∧
      (cs.performAll later).env.isDone newest = true) ∧
    (l.ended? (.cancel 3) = some 2 ∧ l.made[2]? = some (some (1, 50)) ∧
      ¬ Descends l.made 2 1 ∧ (cs.perform (.cancel 3)).env.isCancelled copy = true ∧
      (cs.perform (.cancel 3)).env.isCancelled context = cs.env.isCancelled context) := by
  intro ops cs l context copy later newest
  obtain ⟨⟨-, -, hdescribes⟩, hlater, hleaves, hchildren⟩ := contexts_follow_lineage 0 () ops
  have hdesc : Descends (l.performAll later).made 1 4 := .child rfl (.child rfl .self)
  obtain ⟨hparent, -⟩ := hchildren 2 1 50 rfl
  exact ⟨⟨rfl, rfl, hdescribes 3 copy 2 rfl rfl⟩,
    ⟨hdesc, rfl, (hlater later 1 5 context newest 1 4 rfl rfl rfl rfl hdesc).1 rfl⟩,
    rfl, rfl, hparent, rfl, (hleaves (.cancel 3) 2 rfl 1 context 1 rfl rfl hparent).2.1⟩

end Lineage

end EthClient
