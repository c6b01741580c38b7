import EthClient.Proofs.Roster
import Mathlib.Data.List.Forall2
import Mathlib.Data.List.Induction

/-! # Registries made from a list

A registry of signers, of keys or of the accounts of a phrase is made from first to last: each item
makes a signer, and the signer is added before the next item is looked at.

* **`Registry.Yields`**: the items make some signers, no two of which have one address.
* **`Registry.FirstRefusal`**: the items in front of one do so, and this one is refused, as it makes
  no signer or one whose address is taken.

Every list of items does one or the other (**`Registry.yields_or_firstRefusal`**). In the first
case the registry lists the signers (**`Registry.addEach_eq_ok_iff`**); in the second case it is not
made, and the reason is that of the refusal (**`Registry.addEach_eq_error_iff`**). For all three
ways to make a registry this is **`Registry.holds_what_it_was_made_of`**. -/

namespace EthClient

/-- The signer of a key in hexadecimal digits. -/
def Signer.ofHex (key : String) : Except SignerError Signer :=
  (PrivateKey.ofHex key).map PrivateKey.toSigner

/-- The signer of an account of a phrase, made on its own. -/
def Signer.ofAccount (phrase : String) (o : MnemonicOption) (index : Nat) :
    Except SignerError Signer :=
  (PrivateKey.ofMnemonic phrase index o).map PrivateKey.toSigner

/-- An account has a signer if it has a key, and this is the signer of the key. -/
theorem Signer.ofAccount_eq_ok_iff {phrase : String} {o : MnemonicOption} {index : Nat}
    {s : Signer} :
    ofAccount phrase o index = .ok s ↔
      ∃ key, PrivateKey.ofMnemonic phrase index o = .ok key ∧ key.toSigner = s := by
  rw [ofAccount]
  cases PrivateKey.ofMnemonic phrase index o <;> simp [Except.map]

namespace Registry

/-! ## Items and their signers -/

section Items

variable {α : Type}

/-- The items make these signers, one each, and no address occurs twice. -/
structure Yields (make : α → Except SignerError Signer) (items : List α) (made : Roster) :
    Prop where
  each : List.Forall₂ (fun x s => make x = .ok s) items made
  distinct : made.addresses.Nodup

/-- Why an item is refused behind signers that were made before. -/
inductive Refuses (make : α → Except SignerError Signer) (made : Roster) (x : α) :
    RegistryError → Prop where
  /-- It makes no signer. -/
  | unmade {e : SignerError} : make x = .error e → Refuses make made x (.signer e)
  /-- It makes one whose address is taken. -/
  | taken {s : Signer} : make x = .ok s → s.address ∈ made.addresses →
      Refuses make made x (.alreadyRegistered s.address)

/-- The first item that is refused, and the reason. -/
def FirstRefusal (make : α → Except SignerError Signer) (items : List α) (e : RegistryError) :
    Prop :=
  ∃ before x after made, items = before ++ x :: after ∧ Yields make before made ∧
    Refuses make made x e

variable {make : α → Except SignerError Signer} {items : List α} {made : Roster}

/-- Nothing is made of nothing. -/
theorem yields_nil : Yields make [] [] := ⟨.nil, List.nodup_nil⟩

/-- One more item, whose signer has a new address. -/
theorem Yields.concat (h : Yields make items made) {x : α} {s : Signer} (hx : make x = .ok s)
    (hs : s.address ∉ made.addresses) : Yields make (items ++ [x]) (made ++ [s]) where
  each := List.rel_append h.each (.cons hx .nil)
  distinct := Roster.nodup_concat h.distinct hs

/-- Items behind the one that is refused do not matter. -/
theorem FirstRefusal.append {e : RegistryError} (h : FirstRefusal make items e) (more : List α) :
    FirstRefusal make (items ++ more) e := by
  obtain ⟨before, x, after, made, rfl, hmade, hx⟩ := h
  exact ⟨before, x, after ++ more, made, by rw [List.append_assoc, List.cons_append], hmade, hx⟩

/-- **All items yield their signers, or one of them is the first to be refused.** -/
theorem yields_or_firstRefusal (make : α → Except SignerError Signer) (items : List α) :
    (∃ made, Yields make items made) ∨ ∃ e, FirstRefusal make items e := by
  -- the last item is looked at last, so the list is taken apart at its end
  induction items using List.reverseRecOn with
  | nil => exact .inl ⟨[], yields_nil⟩
  | append_singleton items x ih =>
    obtain ⟨made, hmade⟩ | ⟨e, he⟩ := ih
    · cases hx : make x with
      | error e => exact .inr ⟨.signer e, items, x, [], made, rfl, hmade, .unmade hx⟩
      | ok s =>
        by_cases hs : s.address ∈ made.addresses
        · exact .inr ⟨_, items, x, [], made, rfl, hmade, .taken hx hs⟩
        · exact .inl ⟨made ++ [s], hmade.concat hx hs⟩
    · exact .inr ⟨e, he.append [x]⟩

/-! ## Adding them -/

/-- A signer with a new address comes to the end of the list. -/
theorem Lists.exists_add {r : Registry} {l : Roster} (h : r.Lists l) {s : Signer}
    (hs : s.address ∉ l.addresses) : ∃ r', r.add s = .ok r' ∧ r'.Lists (l ++ [s]) := by
  have hadd := h.add_eq s
  have hstep := (h.step (.add s)).2
  rw [if_neg hs] at hadd
  rw [Registry.step, Roster.step, hadd, if_neg hs] at hstep
  exact ⟨_, hadd, hstep⟩

/-- **One item** whose signer has a new address is passed, and its signer is listed last. -/
theorem Lists.addEach_cons {r : Registry} {l : Roster} (h : r.Lists l) {x : α} {s : Signer}
    (hx : make x = .ok s) (hs : s.address ∉ l.addresses) :
    ∃ r' : Registry, r'.Lists (l ++ [s]) ∧
      ∀ rest, r.addEach make (x :: rest) = r'.addEach make rest := by
  obtain ⟨r', hadd, hlists⟩ := h.exists_add hs
  refine ⟨r', hlists, fun rest => ?_⟩
  rw [addEach, hx]
  dsimp only
  rw [hadd]
  rfl

/-- **An item that is refused** ends it. -/
theorem Lists.addEach_of_refuses {r : Registry} {l : Roster} (h : r.Lists l) {x : α}
    {e : RegistryError} (hx : Refuses make l x e) (rest : List α) :
    r.addEach make (x :: rest) = .error e := by
  cases hx with
  | unmade hmake => rw [addEach, hmake]
  | taken hmake hs =>
    rw [addEach, hmake]
    dsimp only
    rw [h.add_eq, if_pos hs]
    rfl

/-- **All items that yield signers** are passed, and the signers are listed behind those that were
there. -/
theorem Lists.addEach_append {r : Registry} {l : Roster} (h : r.Lists l)
    (heach : List.Forall₂ (fun x s => make x = .ok s) items made)
    (hdistinct : (Roster.addresses (l ++ made)).Nodup) :
    ∃ r' : Registry, r'.Lists (l ++ made) ∧
      ∀ rest, r.addEach make (items ++ rest) = r'.addEach make rest := by
  induction heach generalizing r l with
  | nil => exact ⟨r, by rwa [List.append_nil], fun _ => rfl⟩
  | @cons x s items made hx _ ih =>
    -- the signer of the first item joins those that were there
    have hassoc : l ++ s :: made = (l ++ [s]) ++ made := by rw [List.append_assoc]; rfl
    have hs : s.address ∉ l.addresses := by
      intro hmem
      rw [Roster.addresses, List.map_append] at hdistinct
      exact (List.nodup_append.mp hdistinct).2.2 _ hmem _ List.mem_cons_self rfl
    obtain ⟨r₁, hlists₁, hrest₁⟩ := h.addEach_cons hx hs
    rw [hassoc] at hdistinct
    obtain ⟨r₂, hlists₂, hrest₂⟩ := ih hlists₁ hdistinct
    refine ⟨r₂, by rwa [hassoc], fun rest => ?_⟩
    rw [List.cons_append, hrest₁, hrest₂]

/-- Signers that are yielded make a registry that lists them. -/
theorem Yields.exists_addEach (h : Yields make items made) :
    ∃ r, empty.addEach make items = .ok r ∧ r.Lists made := by
  obtain ⟨r, hlists, hrest⟩ := Lists.empty.addEach_append h.each h.distinct
  refine ⟨r, ?_, hlists⟩
  have hall := hrest []
  rwa [List.append_nil] at hall

/-- The first refusal is what making the registry fails with. -/
theorem FirstRefusal.addEach_eq {e : RegistryError} (h : FirstRefusal make items e) :
    empty.addEach make items = .error e := by
  obtain ⟨before, x, after, made, rfl, hmade, hx⟩ := h
  obtain ⟨r, hlists, hrest⟩ := Lists.empty.addEach_append hmade.each hmade.distinct
  rw [hrest]
  exact hlists.addEach_of_refuses hx after

/-- **Making a registry succeeds exactly if all items yield signers**, and these are listed. -/
theorem addEach_eq_ok_iff {l : Roster} :
    (∃ r, empty.addEach make items = .ok r ∧ r.list = l) ↔ Yields make items l := by
  constructor
  · rintro ⟨r, hr, rfl⟩
    -- of the two things that items can do only the first makes a registry
    obtain ⟨made, hmade⟩ | ⟨e, he⟩ := yields_or_firstRefusal make items
    · obtain ⟨r', hr', hlists⟩ := hmade.exists_addEach
      obtain rfl : r = r' := Except.ok.inj (hr.symm.trans hr')
      rwa [list, hlists.ordered]
    · rw [he.addEach_eq] at hr
      cases hr
  · intro h
    obtain ⟨r, hr, hlists⟩ := h.exists_addEach
    exact ⟨r, hr, hlists.ordered⟩

/-- **Making a registry fails exactly with the reason of the first refusal.** -/
theorem addEach_eq_error_iff {e : RegistryError} :
    empty.addEach make items = .error e ↔ FirstRefusal make items e := by
  refine ⟨fun h => ?_, FirstRefusal.addEach_eq⟩
  obtain ⟨made, hmade⟩ | ⟨e', he'⟩ := yields_or_firstRefusal make items
  · obtain ⟨r, hr, -⟩ := hmade.exists_addEach
    rw [hr] at h
    cases h
  · rw [he'.addEach_eq] at h
    cases h
    exact he'

/-- Making a registry is a fold: each item in turn is made and added. -/
theorem addEach_eq_foldlM (r : Registry) :
    r.addEach make items
      = items.foldlM (fun r x => do r.add (← (make x).mapError .signer)) r := by
  induction items generalizing r with
  | nil => rfl
  | cons x rest ih =>
    rw [addEach, List.foldlM_cons]
    cases hx : make x with
    | error e => rfl
    | ok s =>
      change (r.add s >>= fun r' => r'.addEach make rest) = (r.add s >>= fun r' => _)
      exact congrArg (r.add s >>= ·) (funext fun r' => ih r')

end Items

/-! ## Signers as items -/

/-- Signers yield themselves if no two of them have one address. -/
theorem yields_ok_iff {signers made : Roster} :
    Yields .ok signers made ↔ made = signers ∧ signers.addresses.Nodup := by
  constructor
  · rintro ⟨heach, hdistinct⟩
    obtain rfl : signers = made := by
      rw [← List.forall₂_eq_eq_eq]
      exact heach.imp fun _ _ => Except.ok.inj
    exact ⟨rfl, hdistinct⟩
  · rintro ⟨rfl, hdistinct⟩
    exact ⟨List.forall₂_same.mpr fun _ _ => rfl, hdistinct⟩

/-- A signer is refused if its address is taken, and for no other reason. -/
theorem refuses_ok_iff {made : Roster} {s : Signer} {e : RegistryError} :
    Refuses .ok made s e ↔ s.address ∈ made.addresses ∧ e = .alreadyRegistered s.address := by
  constructor
  · rintro (he | ⟨hs, hmem⟩)
    · cases he
    · cases hs
      exact ⟨hmem, rfl⟩
  · rintro ⟨hmem, rfl⟩
    exact .taken rfl hmem

/-- Among signers the first whose address repeats is refused. -/
theorem firstRefusal_ok_iff {signers : Roster} {e : RegistryError} :
    FirstRefusal .ok signers e ↔
      ∃ (before : Roster) (s : Signer) (after : Roster), signers = before ++ s :: after ∧
        before.addresses.Nodup ∧ s.address ∈ before.addresses ∧
        e = .alreadyRegistered s.address := by
  constructor
  · rintro ⟨before, s, after, made, hsplit, hmade, hs⟩
    obtain ⟨rfl, hdistinct⟩ := yields_ok_iff.mp hmade
    obtain ⟨hmem, he⟩ := refuses_ok_iff.mp hs
    exact ⟨made, s, after, hsplit, hdistinct, hmem, he⟩
  · rintro ⟨before, s, after, hsplit, hdistinct, hmem, he⟩
    exact ⟨before, s, after, before, hsplit, yields_ok_iff.mpr ⟨rfl, hdistinct⟩,
      refuses_ok_iff.mpr ⟨hmem, he⟩⟩

/-! ## Numbered items -/

/-- Among numbered items the first that is refused is told by its number. -/
theorem firstRefusal_range_iff {make : Nat → Except SignerError Signer} {count : Nat}
    {e : RegistryError} :
    FirstRefusal make (List.range count) e ↔
      ∃ i < count, ∃ made, Yields make (List.range i) made ∧ Refuses make made i e := by
  constructor
  · rintro ⟨before, x, after, made, hsplit, hmade, hx⟩
    -- in front of a number there are the smaller ones, so it is told by how many there are
    have hlt : before.length < count := by
      have hlength := congrArg List.length hsplit
      rw [List.length_range, List.length_append, List.length_cons] at hlength
      omega
    have hbefore : before = List.range before.length := by
      have htake := congrArg (List.take before.length) hsplit
      rw [List.take_range, Nat.min_eq_left (Nat.le_of_lt hlt), List.take_left] at htake
      exact htake.symm
    have hnumber : x = before.length := by
      have hget := congrArg (·[before.length]?) hsplit
      simpa [hlt] using hget.symm
    refine ⟨before.length, hlt, made, ?_, ?_⟩
    · rwa [← hbefore]
    · rwa [← hnumber]
  · rintro ⟨i, hi, made, hmade, hx⟩
    have hsplit : List.range count = List.range i ++ i :: (List.range count).drop (i + 1) := by
      have hi' : i < (List.range count).length := by rwa [List.length_range]
      conv_lhs => rw [← List.take_append_drop i (List.range count), List.take_range,
        Nat.min_eq_left (Nat.le_of_lt hi), List.drop_eq_getElem_cons hi', List.getElem_range]
    exact ⟨_, i, _, made, hsplit, hmade, hx⟩

/-- Numbered items yield a list with the signer of each number at its place. -/
theorem yields_range_iff {make : Nat → Except SignerError Signer} {count : Nat} {made : Roster} :
    Yields make (List.range count) made ↔
      made.length = count ∧ (∀ i < count, ∃ s, make i = .ok s ∧ made[i]? = some s) ∧
        made.addresses.Nodup := by
  constructor
  · rintro ⟨heach, hdistinct⟩
    obtain ⟨hlength, hget⟩ := List.forall₂_iff_get.mp heach
    rw [List.length_range] at hlength
    refine ⟨hlength.symm, fun i hi => ?_, hdistinct⟩
    have hi' : i < made.length := hlength ▸ hi
    have hmake := hget i (by rwa [List.length_range]) hi'
    rw [List.get_eq_getElem, List.getElem_range] at hmake
    exact ⟨made[i], hmake, List.getElem?_eq_getElem hi'⟩
  · rintro ⟨rfl, hget, hdistinct⟩
    refine ⟨List.forall₂_iff_get.mpr ⟨List.length_range, fun i _ hi => ?_⟩, hdistinct⟩
    obtain ⟨s, hmake, hs⟩ := hget i hi
    rw [List.getElem?_eq_getElem hi] at hs
    rw [List.get_eq_getElem, List.getElem_range, hmake, ← Option.some.inj hs]
    rfl

/-! ## Accounts of a phrase -/

/-- A text that is no mnemonic has no registry, not even one without accounts. -/
theorem ofPhrase_of_error {phrase : String} {fault : MnemonicError}
    (h : Mnemonic.ofPhrase phrase = .error fault) (count : Nat) (o : MnemonicOption) :
    ofPhrase phrase count o = .error (.signer (.mnemonic fault)) := by
  rw [ofPhrase, h]

/-- With a phrase that is a mnemonic, the accounts are the items: the seed is computed once, and the
signers are those of the accounts on their own. -/
theorem ofPhrase_eq_addEach {phrase : String} {m : Mnemonic} (h : Mnemonic.ofPhrase phrase = .ok m)
    (count : Nat) (o : MnemonicOption) :
    ofPhrase phrase count o = empty.addEach (Signer.ofAccount phrase o) (List.range count) := by
  have haccount : Signer.ofAccount phrase o
      = fun i => (m.derive o i).map PrivateKey.toSigner := by
    funext i
    rw [Signer.ofAccount, PrivateKey.ofMnemonic, h]
  rw [ofPhrase, h, haccount]
  rfl

/-! ## Main result -/

/-- **A registry holds what it was made of.**

* Signers make a registry exactly if no two of them have one address, and it lists them in order.
  Otherwise the first whose address repeats is refused.
* Keys are read and added one after the other. They make a registry exactly if all of them can be
  read and no address repeats; otherwise the first key that cannot be read or added decides the
  error.
* The accounts of a phrase make a registry exactly if the phrase is a mnemonic, every account can be
  derived and no address repeats; each account has its place in the list, with the signer that is
  derived for it alone. If the phrase is no mnemonic, this is the error; otherwise the first account
  that cannot be derived or added decides it. -/
theorem holds_what_it_was_made_of :
    (∀ signers : List Signer,
      (∀ l, (∃ r, ofSigners signers = .ok r ∧ r.list = l) ↔
        l = signers ∧ (signers.map (·.address)).Nodup) ∧
      (∀ e, ofSigners signers = .error e ↔
        ∃ before s after, signers = before ++ s :: after ∧ (before.map (·.address)).Nodup ∧
          s.address ∈ before.map (·.address) ∧ e = .alreadyRegistered s.address)) ∧
    (∀ keys : List String,
      ofPrivateKeys keys = keys.foldlM
        (fun r key => do r.add (← (Signer.ofHex key).mapError .signer)) empty ∧
      (∀ l, (∃ r, ofPrivateKeys keys = .ok r ∧ r.list = l) ↔ Yields Signer.ofHex keys l) ∧
      (∀ e, ofPrivateKeys keys = .error e ↔ FirstRefusal Signer.ofHex keys e)) ∧
    (∀ (phrase : String) (count : Nat) (o : MnemonicOption),
      (∀ l, (∃ r, ofPhrase phrase count o = .ok r ∧ r.list = l) ↔
        (∃ m, Mnemonic.ofPhrase phrase = .ok m) ∧ l.length = count ∧
          (∀ i < count, ∃ key, PrivateKey.ofMnemonic phrase i o = .ok key ∧
            l[i]? = some key.toSigner) ∧
          (l.map (·.address)).Nodup) ∧
      (∀ e, ofPhrase phrase count o = .error e ↔
        (∃ fault, Mnemonic.ofPhrase phrase = .error fault ∧ e = .signer (.mnemonic fault)) ∨
        (∃ m, Mnemonic.ofPhrase phrase = .ok m) ∧
          ∃ i < count, ∃ made, Yields (Signer.ofAccount phrase o) (List.range i) made ∧
            Refuses (Signer.ofAccount phrase o) made i e)) := by
  refine ⟨fun signers => ⟨fun l => ?_, fun e => ?_⟩, fun keys => ⟨?_, fun l => ?_, fun e => ?_⟩,
    fun phrase count o => ⟨fun l => ?_, fun e => ?_⟩⟩
  · rw [ofSigners, addAll_eq_addEach, addEach_eq_ok_iff, yields_ok_iff]
    rfl
  · rw [ofSigners, addAll_eq_addEach, addEach_eq_error_iff, firstRefusal_ok_iff]
    rfl
  · exact addEach_eq_foldlM empty
  · exact addEach_eq_ok_iff
  · exact addEach_eq_error_iff
  -- a phrase is settled before its accounts, so both of its parts are told by what it is
  · cases hphrase : Mnemonic.ofPhrase phrase with
    | error fault => simp [ofPhrase_of_error hphrase]
    | ok m =>
      rw [ofPhrase_eq_addEach hphrase, addEach_eq_ok_iff, yields_range_iff]
      simp [Signer.ofAccount_eq_ok_iff, Roster.addresses]
  · cases hphrase : Mnemonic.ofPhrase phrase with
    | error fault => simp [ofPhrase_of_error hphrase, eq_comm]
    | ok m =>
      rw [ofPhrase_eq_addEach hphrase, addEach_eq_error_iff, firstRefusal_range_iff]
      simp

/-- Of two errors the one that comes first counts: an address that repeats in front of a key that
cannot be read, and the other way round. -/
theorem holds_what_it_was_made_of_repeated :
    let signer (address : UInt8) (e : SignerError) : Signer :=
      ⟨.ofPrefix 20 [address], fun _ _ => .error e, fun _ => .error e⟩
    let first := signer 1 .badKey
    let second := signer 1 (.hex .oddLength)
    let other := signer 2 .badKey
    let key := "0x000000000000000000000000000000000000000000000001"
    let holder := (PrivateKey.mk 1 (by decide) (by decide)).toSigner
    ofSigners [first, other, second, other] = .error (.alreadyRegistered first.address) ∧
      (∃ r, ofSigners [second, other] = .ok r ∧ r.list = [second, other]) ∧
      ofPrivateKeys [key, key, "zz"] = .error (.alreadyRegistered holder.address) ∧
      ofPrivateKeys [key, "zz", key] = .error (.signer (.hex (.invalidCharacter 0x7a 0))) := by
  intro signer first second other key holder
  obtain ⟨hsigners, hkeys, -⟩ := holds_what_it_was_made_of
  have hread : (PrivateKey.ofHex key).toOption = some ⟨1, by decide, by decide⟩ := by
    decide +kernel
  have hkey : Signer.ofHex key = .ok holder := by
    rw [Signer.ofHex]
    cases h : PrivateKey.ofHex key with
    | error e =>
      rw [h] at hread
      cases hread
    | ok k =>
      rw [h] at hread
      cases hread
      rfl
  have hbad : Signer.ofHex "zz" = .error (.hex (.invalidCharacter 0x7a 0)) := rfl
  have hyields : Yields Signer.ofHex [key] [holder] := ⟨.cons hkey .nil, List.nodup_singleton _⟩
  refine ⟨?_, ?_, ?_, ?_⟩
  · exact ((hsigners _).2 _).mpr ⟨[first, other], second, [other], rfl, by decide, by decide, rfl⟩
  · exact ((hsigners _).1 _).mpr ⟨rfl, by decide⟩
  · have htaken : holder.address ∈ Roster.addresses [holder] :=
      List.mem_map_of_mem List.mem_cons_self
    exact ((hkeys _).2.2 _).mpr
      ⟨[key], key, ["zz"], [holder], rfl, hyields, .taken hkey htaken⟩
  · exact ((hkeys _).2.2 _).mpr ⟨[key], "zz", [key], [holder], rfl, hyields, .unmade hbad⟩

end Registry

end EthClient
