import EthClient.Signer.Registry

/-! # Registries that can be made

A registry is made by adding signers to the empty one and by taking signers out. Both of its sides
then hold the same signers, every one under its own address (**`Registry.Built.wellFormed`**), so
the signer that is found for a sender signs for that sender. -/

namespace EthClient

namespace Registry

/-- A registry that adding and removing can make; those of signers, keys or a phrase are made by
adding. -/
inductive Built : Registry → Prop
  | empty : Built .empty
  | add {r r' : Registry} {s : Signer} : Built r → r.add s = .ok r' → Built r'
  | remove {r r' : Registry} {a : Address} {s : Signer} :
      Built r → r.remove a = .ok (s, r') → Built r'

/-- Both sides of the registry hold the same signers, every one under its own address. -/
structure WellFormed (r : Registry) : Prop where
  /-- A signer that is found by an address signs for it, and has its place in the order. -/
  stored : ∀ a s, r.byAddress[a]? = some s → s.address = a ∧ s ∈ r.ordered
  /-- A signer that has a place in the order is found by its address. -/
  listed : ∀ s ∈ r.ordered, r.byAddress[s.address]? = some s

/-- **What adding does**: the address had no signer, and now has the new one. -/
theorem add_eq_ok {r r' : Registry} {s : Signer} (h : r.add s = .ok r') :
    r.byAddress[s.address]? = none ∧
      r' = ⟨r.byAddress.insert s.address s, r.ordered ++ [s]⟩ := by
  rw [add] at h
  split at h
  · cases h
  · rename_i hc
    cases h
    rw [Std.HashMap.contains_eq_isSome_getElem?, Option.not_isSome_iff_eq_none] at hc
    exact ⟨hc, rfl⟩

/-- **What removing does**: the address had a signer, and now has none. -/
theorem remove_eq_ok {r r' : Registry} {a : Address} {s : Signer} (h : r.remove a = .ok (s, r')) :
    r.byAddress[a]? = some s ∧
      r' = ⟨r.byAddress.erase a, r.ordered.filter (·.address != a)⟩ := by
  rw [remove] at h
  split at h
  · rename_i t ht
    cases h
    exact ⟨ht, rfl⟩
  · cases h

/-- The empty registry is well-formed. -/
theorem wellFormed_empty : empty.WellFormed where
  stored a s h := by simp [empty] at h
  listed s h := by simp [empty] at h

/-- Adding keeps a registry well-formed. -/
theorem WellFormed.add {r r' : Registry} {s : Signer} (h : r.WellFormed)
    (ha : r.add s = .ok r') : r'.WellFormed := by
  obtain ⟨hnone, rfl⟩ := add_eq_ok ha
  refine ⟨fun a t ht => ?_, fun t ht => ?_⟩
  · rw [Std.HashMap.getElem?_insert] at ht
    split at ht
    · rename_i heq
      cases ht
      exact ⟨eq_of_beq heq, List.mem_append_right _ (List.mem_singleton_self _)⟩
    · obtain ⟨haddr, hmem⟩ := h.stored a t ht
      exact ⟨haddr, List.mem_append_left _ hmem⟩
  · rw [Std.HashMap.getElem?_insert]
    rcases List.mem_append.mp ht with hmem | hmem
    · -- an older signer has another address, as the new one's was free
      have hold := h.listed t hmem
      have hne : s.address ≠ t.address := by
        intro heq
        rw [heq, hold] at hnone
        cases hnone
      rw [if_neg (by simpa using hne), hold]
    · rw [List.mem_singleton.mp hmem, if_pos (by simp)]

/-- Removing keeps a registry well-formed. -/
theorem WellFormed.remove {r r' : Registry} {a : Address} {s : Signer} (h : r.WellFormed)
    (hr : r.remove a = .ok (s, r')) : r'.WellFormed := by
  obtain ⟨-, rfl⟩ := remove_eq_ok hr
  refine ⟨fun b t ht => ?_, fun t ht => ?_⟩
  · rw [Std.HashMap.getElem?_erase] at ht
    split at ht
    · cases ht
    · rename_i hne
      obtain ⟨haddr, hmem⟩ := h.stored b t ht
      refine ⟨haddr, List.mem_filter.mpr ⟨hmem, ?_⟩⟩
      rw [haddr]
      exact bne_iff_ne.mpr fun heq => hne (by rw [heq, beq_self_eq_true])
  · obtain ⟨hmem, hne⟩ := List.mem_filter.mp ht
    rw [Std.HashMap.getElem?_erase,
      if_neg fun hbeq => bne_iff_ne.mp hne (eq_of_beq hbeq).symm]
    exact h.listed t hmem

/-- **Every registry that can be made is well-formed.** -/
theorem Built.wellFormed {r : Registry} (h : r.Built) : r.WellFormed := by
  induction h with
  | empty => exact wellFormed_empty
  | add _ ha ih => exact ih.add ha
  | remove _ hr ih => exact ih.remove hr

/-- Adding signers is adding items that are their own signers. -/
theorem addAll_eq_addEach (r : Registry) (signers : List Signer) :
    r.addAll signers = r.addEach .ok signers := by
  induction signers generalizing r with
  | nil => rfl
  | cons s rest ih => exact congrArg (r.add s >>= ·) (funext fun r' => ih r')

/-- Signers that are made from some material and added one after the other make a registry. -/
theorem Built.addEach {α : Type} {make : α → Except SignerError Signer} {r r' : Registry}
    {material : List α} (h : r.Built) (ha : r.addEach make material = .ok r') : r'.Built := by
  induction material generalizing r with
  | nil => cases ha; exact h
  | cons x rest ih =>
    rw [Registry.addEach] at ha
    cases hx : make x with
    | error e => rw [hx] at ha; cases ha
    | ok s =>
      rw [hx] at ha
      dsimp only at ha
      cases hs : r.add s with
      | error e => rw [hs] at ha; cases ha
      | ok r₁ =>
        rw [hs] at ha
        exact ih (h.add hs) ha

/-- A registry of some signers can be made. -/
theorem built_of_ofSigners {r : Registry} {signers : List Signer}
    (h : ofSigners signers = .ok r) : r.Built := by
  rw [ofSigners, addAll_eq_addEach] at h
  exact Built.empty.addEach h

/-- The registry of one signer. -/
def sole (s : Signer) : Registry := ⟨empty.byAddress.insert s.address s, [s]⟩

/-- It is made by adding the signer. -/
theorem ofSigners_singleton (s : Signer) : ofSigners [s] = .ok (sole s) := by
  simp [ofSigners, addAll, add, empty]
  rfl

/-- The registry of one signer can be made. -/
theorem built_sole (s : Signer) : (sole s).Built := built_of_ofSigners (ofSigners_singleton s)

/-- The registry of some keys can be made so. -/
theorem built_of_ofPrivateKeys {r : Registry} {keys : List String}
    (h : ofPrivateKeys keys = .ok r) : r.Built :=
  Built.empty.addEach h

/-- The registry of the accounts of a phrase can be made so. -/
theorem built_of_ofPhrase {r : Registry} {phrase : String} {count : Nat} {o : MnemonicOption}
    (h : ofPhrase phrase count o = .ok r) : r.Built := by
  rw [ofPhrase] at h
  split at h
  · cases h
  · exact Built.empty.addEach h

/-! ## The signer of a sender -/

/-- The signer that goes with a sender: the one under its address, or the earliest one if there is
no sender. -/
def Chooses (r : Registry) (sender : Option Address) (s : Signer) : Prop :=
  match sender with
  | some a => r.get a = .ok s
  | none => r.default? = some s

/-- A sender has one signer. -/
theorem Chooses.unique {r : Registry} {sender : Option Address} {s t : Signer}
    (hs : r.Chooses sender s) (ht : r.Chooses sender t) : s = t := by
  cases sender with
  | none => exact Option.some.inj (hs.symm.trans ht)
  | some a => exact Except.ok.inj (hs.symm.trans ht)

/-- What is got for an address stands under it. -/
theorem get_eq_ok_iff {r : Registry} {a : Address} {s : Signer} :
    r.get a = .ok s ↔ r.byAddress[a]? = some s := by
  rw [get]
  cases r.byAddress[a]? <;> simp

/-- **The signer of a sender signs for it**, and is the one that the registry has for its own
address. -/
theorem Built.get_of_chooses {r : Registry} (hr : r.Built) {sender : Option Address} {s : Signer}
    (h : r.Chooses sender s) :
    r.get s.address = .ok s ∧
      (sender = some s.address ∨ sender = none ∧ r.default? = some s) := by
  cases sender with
  | some a =>
    obtain ⟨rfl, -⟩ := hr.wellFormed.stored a s (get_eq_ok_iff.mp h)
    exact ⟨h, .inl rfl⟩
  | none =>
    have hmem : s ∈ r.ordered := List.mem_of_mem_head? h
    exact ⟨get_eq_ok_iff.mpr (hr.wellFormed.listed s hmem), .inr ⟨rfl, h⟩⟩

end Registry

end EthClient
