import EthClient.Proofs.Registry
import Mathlib.Data.List.Nodup

/-! # Registries as ordered lists

Whatever operations a registry is given, one after the other, it answers as a plain list of signers
with distinct addresses would: `Registry.Lists` says that a registry stands for such a list, every
operation keeps that (**`Registry.Lists.step`**), and so does every sequence of operations
(**`Registry.Lists.run`**).

The list that a sequence of operations comes to can be read off what was answered: it has the
signers whose adding is the last change at their address, in the order in which these were added
(**`Roster.run_eq_survivors`**). All of it together is **`Registry.runs_as_ordered_list`**. -/

namespace EthClient

/-! ## Operations -/

/-- An operation on the signers. -/
inductive Registry.Op where
  | add (s : Signer)
  | remove (a : Address)
  | get (a : Address)
  | list
  | default
  | size

/-- What an operation is answered with. -/
inductive Registry.Outcome where
  /-- The signer was added. -/
  | added
  /-- The signer that was found or taken out. -/
  | signer (s : Signer)
  | signers (l : List Signer)
  | earliest (s : Option Signer)
  | count (n : Nat)
  /-- The operation failed. -/
  | refused (e : RegistryError)

/-- What happened, the earliest operation first. -/
abbrev Registry.History := List (Registry.Op × Registry.Outcome)

/-- The operations one after the other: what happened, and the state afterwards. -/
def Registry.runAll {S : Type} (step : S → Op → Outcome × S) : S → List Op → History × S
  | start, [] => ([], start)
  | start, op :: ops =>
    let (answer, next) := step start op
    let (history, last) := runAll step next ops
    ((op, answer) :: history, last)

namespace Registry

/-- One operation. A registry that refuses it stays as it is. -/
def step (r : Registry) : Op → Outcome × Registry
  | .add s =>
    match r.add s with
    | .ok r' => (.added, r')
    | .error e => (.refused e, r)
  | .remove a =>
    match r.remove a with
    | .ok (s, r') => (.signer s, r')
    | .error e => (.refused e, r)
  | .get a =>
    match r.get a with
    | .ok s => (.signer s, r)
    | .error e => (.refused e, r)
  | .list => (.signers r.list, r)
  | .default => (.earliest r.default?, r)
  | .size => (.count r.size, r)

/-- The operations one after the other. -/
def run (r : Registry) (ops : List Op) : History × Registry := runAll step r ops

end Registry

/-! ## Lists of signers -/

/-- Signers in the order in which they were added. -/
abbrev Roster := List Signer

namespace Roster

/-- The addresses of the signers. -/
def addresses (l : Roster) : List Address := l.map (·.address)

/-- The signer with an address. -/
def signer? (l : Roster) (a : Address) : Option Signer := l.find? (·.address == a)

/-- One operation, as a list answers it: a signer is put at the end unless its address has one, and
is taken out of its place. -/
def step (l : Roster) : Registry.Op → Registry.Outcome × Roster
  | .add s =>
    if s.address ∈ l.addresses then (.refused (.alreadyRegistered s.address), l)
    else (.added, l ++ [s])
  | .remove a =>
    match l.signer? a with
    | some s => (.signer s, l.eraseP (·.address == a))
    | none => (.refused .notFound, l)
  | .get a =>
    match l.signer? a with
    | some s => (.signer s, l)
    | none => (.refused .notFound, l)
  | .list => (.signers l, l)
  | .default => (.earliest l.head?, l)
  | .size => (.count l.length, l)

/-- The operations one after the other. -/
def run (l : Roster) (ops : List Registry.Op) : Registry.History × Roster :=
  Registry.runAll step l ops

variable {l : Roster}

/-- If no address occurs twice, any signer with the address is the one that is found. -/
theorem signer?_eq_some_iff (h : l.addresses.Nodup) {a : Address} {s : Signer} :
    l.signer? a = some s ↔ s ∈ l ∧ s.address = a := by
  constructor
  · intro hfound
    exact ⟨List.mem_of_find?_eq_some hfound, by simpa using List.find?_some hfound⟩
  · rintro ⟨hmem, rfl⟩
    obtain ⟨t, ht⟩ : ∃ t, l.signer? s.address = some t :=
      Option.isSome_iff_exists.mp (List.find?_isSome.mpr ⟨s, hmem, beq_self_eq_true _⟩)
    have haddr : t.address = s.address := by simpa using List.find?_some ht
    rw [ht, List.inj_on_of_nodup_map h (List.mem_of_find?_eq_some ht) hmem haddr]

/-- Nothing is found at an address that no signer has. -/
theorem signer?_eq_none_iff {a : Address} : l.signer? a = none ↔ a ∉ l.addresses := by
  simp [signer?, addresses, List.find?_eq_none]

/-- If no address occurs twice, the first signer with an address is the only one. -/
theorem eraseP_eq_filter (h : l.addresses.Nodup) (a : Address) :
    l.eraseP (·.address == a) = l.filter (·.address != a) := by
  induction l with
  | nil => rfl
  | cons s rest ih =>
    obtain ⟨hs, hrest⟩ := List.nodup_cons.mp h
    by_cases ha : s.address = a
    · -- the signers behind it have other addresses
      have hothers : ∀ t ∈ rest, (t.address != a) = true := by
        intro t ht
        rw [bne_iff_ne, ← ha]
        exact fun heq => hs (List.mem_map.mpr ⟨t, ht, heq⟩)
      rw [List.eraseP_cons_of_pos (by simpa using ha), List.filter_cons_of_neg (by simpa using ha),
        List.filter_eq_self.mpr hothers]
    · rw [List.eraseP_cons_of_neg (by simpa using ha), List.filter_cons_of_pos (by simpa using ha),
        ih hrest]

/-- A signer with a new address can be put at the end. -/
theorem nodup_concat (h : l.addresses.Nodup) {s : Signer} (hs : s.address ∉ l.addresses) :
    (addresses (l ++ [s])).Nodup := by
  rw [addresses, List.map_append]
  refine List.nodup_append.mpr ⟨h, List.nodup_singleton _, fun a ha b hb => ?_⟩
  rw [List.mem_singleton.mp hb]
  rintro rfl
  exact hs ha

/-- Every operation keeps the addresses distinct. -/
theorem nodup_step (h : l.addresses.Nodup) (op : Registry.Op) : (l.step op).2.addresses.Nodup := by
  cases op with
  | add s =>
    rw [step]
    split
    · exact h
    · rename_i hnew
      exact nodup_concat h hnew
  | remove a =>
    rw [step]
    split
    · exact (List.eraseP_sublist.map _).nodup h
    · exact h
  | get a =>
    rw [step]
    split <;> exact h
  | list | default | size => exact h

end Roster

/-! ## The list that a history comes to -/

namespace Registry

/-- Whether an operation has changed which signer an address has. -/
def changes (a : Address) : Op × Outcome → Bool
  | (.add s, .added) => s.address == a
  | (.remove b, .signer _) => b == a
  | _ => false

/-- The signers whose adding is the last change at their address, in the order in which they were
added. -/
def survivors : History → Roster
  | [] => []
  | (.add s, .added) :: later =>
    if later.any (changes s.address) then survivors later else s :: survivors later
  | _ :: later => survivors later

/-- What an operation has added survives what changes nothing at its address. -/
theorem survivors_cons (e : Op × Outcome) (later : History) :
    survivors (e :: later)
      = (survivors [e]).filter (fun s => !later.any (changes s.address)) ++ survivors later := by
  obtain ⟨op, answer⟩ := e
  match op, answer with
  | .add s, .added => by_cases h : later.any (changes s.address) = true <;> simp [survivors, h]
  | .add _, .signer _ | .add _, .signers _ | .add _, .earliest _ | .add _, .count _
  | .add _, .refused _ | .remove _, _ | .get _, _ | .list, _ | .default, _ | .size, _ => rfl

end Registry

namespace Roster

open Registry

variable {l : Roster}

/-- **One operation** leaves the signers at whose address it changes nothing, and behind them the
one that it has added. -/
theorem step_eq_survivors (h : l.addresses.Nodup) (op : Op) :
    (l.step op).2
      = l.filter (fun s => !changes s.address (op, (l.step op).1)) ++
          survivors [(op, (l.step op).1)] := by
  have hkept {answer : Outcome} (hnone : ∀ s ∈ l, changes s.address (op, answer) = false) :
      l.filter (fun s => !changes s.address (op, answer)) = l :=
    List.filter_eq_self.mpr fun s hs => by rw [hnone s hs]; rfl
  have hsame {answer : Outcome} (hnone : ∀ a, changes a (op, answer) = false)
      (hadded : survivors [(op, answer)] = []) :
      l = l.filter (fun s => !changes s.address (op, answer)) ++ survivors [(op, answer)] := by
    rw [hkept fun s _ => hnone s.address, hadded, List.append_nil]
  cases op with
  | add s =>
    rw [step]
    split
    · exact hsame (fun _ => rfl) rfl
    · -- the signers that are there have other addresses
      rename_i hnew
      have hothers : ∀ t ∈ l, changes t.address (.add s, .added) = false := fun t ht =>
        beq_eq_false_iff_ne.mpr fun heq => hnew (heq ▸ List.mem_map_of_mem ht)
      exact (congrArg (· ++ [s]) (hkept hothers)).symm
  | remove a =>
    rw [step]
    split
    · rw [eraseP_eq_filter h]
      simp [changes, survivors, bne, Bool.beq_comm]
    · exact hsame (fun _ => rfl) rfl
  | get a =>
    rw [step]
    split <;> exact hsame (fun _ => rfl) rfl
  | list | default | size => exact hsame (fun _ => rfl) rfl

/-- **Any operations** leave the signers at whose addresses nothing was changed, and behind them
those that were added and survive. -/
theorem run_eq_survivors (h : l.addresses.Nodup) (ops : List Op) :
    (l.run ops).2
      = l.filter (fun s => !(l.run ops).1.any (changes s.address)) ++ survivors (l.run ops).1 := by
  induction ops generalizing l with
  | nil => simp [run, runAll, survivors]
  | cons op ops ih =>
    have hrun : l.run (op :: ops)
        = ((op, (l.step op).1) :: ((l.step op).2.run ops).1, ((l.step op).2.run ops).2) := rfl
    rw [hrun, ih (nodup_step h op)]
    dsimp only
    -- the operations behind the first one take out what it has left or added
    generalize ((l.step op).2.run ops).1 = later
    rw [survivors_cons, ← List.append_assoc]
    conv_lhs => rw [step_eq_survivors h op]
    rw [List.filter_append, List.filter_filter]
    simp [Bool.and_comm]

end Roster

/-! ## A registry and its list -/

namespace Registry

/-- Both sides of a well-formed registry hold the same signers. -/
theorem WellFormed.getElem?_eq_some_iff {r : Registry} (h : r.WellFormed) {a : Address}
    {s : Signer} : r.byAddress[a]? = some s ↔ s ∈ r.ordered ∧ s.address = a := by
  constructor
  · intro hs
    obtain ⟨haddr, hmem⟩ := h.stored a s hs
    exact ⟨hmem, haddr⟩
  · rintro ⟨hmem, rfl⟩
    exact h.listed s hmem

/-- The registry stands for a list of signers with distinct addresses. -/
structure Lists (r : Registry) (l : Roster) : Prop where
  ordered : r.ordered = l
  wellFormed : r.WellFormed
  distinct : l.addresses.Nodup

namespace Lists

variable {r : Registry} {l : Roster}

/-- The empty registry stands for the empty list. -/
theorem empty : Lists .empty [] := ⟨rfl, wellFormed_empty, List.nodup_nil⟩

/-- A signer is found by its address as it is in the list. -/
theorem getElem?_eq (h : r.Lists l) (a : Address) : r.byAddress[a]? = l.signer? a := by
  refine Option.ext fun s => ?_
  rw [h.wellFormed.getElem?_eq_some_iff, Roster.signer?_eq_some_iff h.distinct, h.ordered]

/-- Getting succeeds for the addresses of the list. -/
theorem get_eq (h : r.Lists l) (a : Address) :
    r.get a = match l.signer? a with
      | some s => .ok s
      | none => .error .notFound := by
  have hstored := h.getElem?_eq a
  cases hs : l.signer? a with
  | some s => rw [get, hstored, hs]
  | none => rw [get, hstored, hs]

/-- Removing succeeds for the same addresses. -/
theorem remove_eq (h : r.Lists l) (a : Address) :
    r.remove a = match l.signer? a with
      | some s => .ok (s, ⟨r.byAddress.erase a, r.ordered.filter (·.address != a)⟩)
      | none => .error .notFound := by
  have hstored := h.getElem?_eq a
  cases hs : l.signer? a with
  | some s => rw [remove, hstored, hs]
  | none => rw [remove, hstored, hs]

/-- Adding fails for them. -/
theorem add_eq (h : r.Lists l) (s : Signer) :
    r.add s = if s.address ∈ l.addresses then .error (.alreadyRegistered s.address)
      else .ok ⟨r.byAddress.insert s.address s, r.ordered ++ [s]⟩ := by
  have hcontains : r.byAddress.contains s.address = true ↔ s.address ∈ l.addresses := by
    rw [Std.HashMap.contains_eq_isSome_getElem?, h.getElem?_eq, Option.isSome_iff_ne_none, ne_eq,
      Roster.signer?_eq_none_iff, not_not]
  rw [add]
  simp only [hcontains]

/-- **One operation** is answered as the list answers it, and the registry stands for the list
afterwards. -/
theorem step (h : r.Lists l) (op : Op) :
    (r.step op).1 = (l.step op).1 ∧ (r.step op).2.Lists (l.step op).2 := by
  have hdistinct := Roster.nodup_step h.distinct op
  -- what the map answers is rewritten to what the list answers before the cases are compared
  cases op with
  | add s =>
    rw [Registry.step, Roster.step, h.add_eq s]
    rw [Roster.step] at hdistinct
    by_cases hs : s.address ∈ l.addresses
    · rw [if_pos hs, if_pos hs]
      exact ⟨rfl, h⟩
    · have hadd := h.add_eq s
      rw [if_neg hs] at hadd hdistinct
      rw [if_neg hs, if_neg hs]
      exact ⟨rfl, congrArg (· ++ [s]) h.ordered, h.wellFormed.add hadd, hdistinct⟩
  | remove a =>
    have hremove := h.remove_eq a
    rw [Registry.step, Roster.step, hremove]
    rw [Roster.step] at hdistinct
    cases hs : l.signer? a with
    | none => exact ⟨rfl, h⟩
    | some s =>
      rw [hs] at hremove hdistinct
      refine ⟨rfl, ?_, h.wellFormed.remove hremove, hdistinct⟩
      dsimp only
      rw [h.ordered, Roster.eraseP_eq_filter h.distinct]
  | get a =>
    rw [Registry.step, Roster.step, h.get_eq a]
    cases l.signer? a <;> exact ⟨rfl, h⟩
  | list => exact ⟨congrArg Outcome.signers h.ordered, h⟩
  | default => exact ⟨congrArg (fun l : Roster => Outcome.earliest l.head?) h.ordered, h⟩
  | size => exact ⟨congrArg (fun l : Roster => Outcome.count l.length) h.ordered, h⟩

/-- **So is every sequence of operations.** -/
theorem run (h : r.Lists l) (ops : List Op) :
    (r.run ops).1 = (l.run ops).1 ∧ (r.run ops).2.Lists (l.run ops).2 := by
  induction ops generalizing r l with
  | nil => exact ⟨rfl, h⟩
  | cons op ops ih =>
    -- the list changes with every operation, so the induction is over all pairs at once
    obtain ⟨hanswer, hnext⟩ := h.step op
    obtain ⟨hhistory, hlast⟩ := ih hnext
    refine ⟨?_, hlast⟩
    have hr : (r.run (op :: ops)).1 = (op, (r.step op).1) :: ((r.step op).2.run ops).1 := rfl
    have hl : (l.run (op :: ops)).1 = (op, (l.step op).1) :: ((l.step op).2.run ops).1 := rfl
    rw [hr, hl, hanswer, hhistory]

end Lists

/-- An operation that is refused leaves the registry as it is. -/
theorem step_of_refused {r : Registry} {op : Op} {e : RegistryError}
    (h : (r.step op).1 = .refused e) : (r.step op).2 = r := by
  cases op with
  | add s =>
    rw [step] at h ⊢
    cases hs : r.add s with
    | ok r' =>
      rw [hs] at h
      cases h
    | error e => rfl
  | remove a =>
    rw [step] at h ⊢
    cases ha : r.remove a with
    | ok found =>
      rw [ha] at h
      cases h
    | error e => rfl
  | get a =>
    rw [step]
    cases r.get a <;> rfl
  | list | default | size => rfl

/-! ## Main result -/

/-- **A registry is an ordered list of signers with distinct addresses**, whatever operations it was
given since it was empty. Every operation is done as a whole, so operations of several callers come
one after the other in some order, and this holds for every order.

* Both sides of the registry hold the same signers, every one under its own address, and no address
  occurs twice.
* All operations were answered as a list answers them.
* The list has the signers whose adding is the last change at their address, in the order of this
  adding, and the first of them is the default one.
* Getting and removing succeed exactly for the addresses of the list and give the signer that has
  the address, and adding fails exactly for them.
* What is refused changes nothing. -/
theorem runs_as_ordered_list (ops : List Op) :
    let history := (empty.run ops).1
    let r := (empty.run ops).2
    (∀ a s, r.byAddress[a]? = some s ↔ s ∈ r.ordered ∧ s.address = a) ∧
    (r.ordered.map (·.address)).Nodup ∧
    history = (Roster.run [] ops).1 ∧
    (r.list = survivors history ∧ r.default? = (survivors history).head? ∧
      r.size = (survivors history).length) ∧
    (∀ a s, r.get a = .ok s ↔ s ∈ r.list ∧ s.address = a) ∧
    (∀ a s, (∃ r', r.remove a = .ok (s, r')) ↔ s ∈ r.list ∧ s.address = a) ∧
    (∀ s, (∃ e, r.add s = .error e) ↔ s.address ∈ r.list.map (·.address)) ∧
    (∀ op e, (r.step op).1 = .refused e → (r.step op).2 = r) := by
  intro history r
  obtain ⟨hhistory, hlists⟩ := Lists.empty.run ops
  -- a registry that began empty has nothing left but what was added
  have hlist : r.ordered = survivors history := by
    have hsurvivors := Roster.run_eq_survivors (l := []) List.nodup_nil ops
    rw [List.filter_nil, List.nil_append, ← hhistory] at hsurvivors
    exact hlists.ordered.trans hsurvivors
  have hstored (a : Address) (s : Signer) :
      r.byAddress[a]? = some s ↔ s ∈ r.ordered ∧ s.address = a :=
    hlists.wellFormed.getElem?_eq_some_iff
  refine ⟨hstored, ?_, hhistory, ⟨hlist, congrArg List.head? hlist, congrArg List.length hlist⟩,
    fun a s => get_eq_ok_iff.trans (hstored a s), fun a s => Iff.trans ?_ (hstored a s),
    fun s => ?_, fun op e => step_of_refused⟩
  · rw [hlists.ordered]
    exact hlists.distinct
  · constructor
    · rintro ⟨r', hr'⟩
      exact (remove_eq_ok hr').1
    · intro hs
      rw [remove, hs]
      exact ⟨_, rfl⟩
  · rw [hlists.add_eq s, list, hlists.ordered]
    by_cases hs : s.address ∈ (Roster.run [] ops).2.addresses
    · rw [if_pos hs]
      exact ⟨fun _ => hs, fun _ => ⟨_, rfl⟩⟩
    · rw [if_neg hs]
      refine ⟨?_, fun h => absurd h hs⟩
      rintro ⟨e, he⟩
      cases he

/-- Of two signers with one address the second one is refused, is added once the first one was
removed, and then comes behind the signer that was there meanwhile. -/
theorem runs_as_ordered_list_readded :
    let signer (address : UInt8) (e : SignerError) : Signer :=
      ⟨.ofPrefix 20 [address], fun _ _ => .error e, fun _ => .error e⟩
    let first := signer 1 .badKey
    let second := signer 1 (.hex .oddLength)
    let other := signer 2 .badKey
    let ops : List Op :=
      [.add first, .add second, .add other, .remove first.address, .add second, .default]
    (empty.run ops).1.map Prod.snd = [.added, .refused (.alreadyRegistered first.address), .added,
        .signer first, .added, .earliest (some other)] ∧
      (empty.run ops).2.list = [other, second] ∧
      ((empty.run ops).2.step (.add first)).2 = (empty.run ops).2 := by
  intro signer first second other ops
  obtain ⟨-, -, hhistory, ⟨hlist, -⟩, -, -, hadd, hrefused⟩ := runs_as_ordered_list ops
  have hlisted : (empty.run ops).2.list = [other, second] := by
    rw [hlist, hhistory]
    rfl
  refine ⟨?_, hlisted, ?_⟩
  · rw [hhistory]
    rfl
  · obtain ⟨e, he⟩ := (hadd first).mpr (by rw [hlisted]; decide)
    refine hrefused (.add first) e ?_
    rw [step, he]

end Registry

end EthClient
