import EthClient.Transaction.Conversion

/-! # Sending a transaction again

The arguments that send a transaction again do not say all that it says: a fee of zero is left
unset, while value and data are always set. The transaction that is made of them is
`Transaction.resubmitted`. An unset number and a zero are serialised alike, and so are unset and
empty data, so its payload is the one that it had before (**`Transaction.rlp_resubmitted`**).

* **`TransactionArgs.toTransaction?_ofTransaction`**: it is made if there are a nonce and a gas
  limit other than zero;
* **`Transaction.resubmission`**: then envelope, payload and hash are what they were. -/

namespace EthClient

/-! ## Numbers that are left unset -/

namespace TransactionArgs

variable {bits : Nat} {q : Option (Quantity bits)}

/-- What is left was set and is not zero. -/
theorem nonzero_eq_some_iff {n : Quantity bits} : nonzero q = some n ↔ q = some n ∧ n ≠ 0 := by
  simp [nonzero, Option.filter_eq_some_iff]

/-- Anything but a zero is left as it is. -/
theorem nonzero_eq_self (h : q ≠ some 0) : nonzero q = q := by
  cases q with
  | none => rfl
  | some n => exact nonzero_eq_some_iff.mpr ⟨rfl, fun hn => h (congrArg some hn)⟩

end TransactionArgs

namespace Rlp

variable {bits : Nat} (q : Option (Quantity bits))

/-- A zero has no bytes, like a number that is unset. -/
theorem quantity?_zero : quantity? (some (0 : Quantity bits)) = .bytes [] := by
  have hempty : minimalBytes 32 0 = [] := by decide
  have hzero : (0 : Quantity bits).toNat = 0 := BitVec.toNat_zero
  rw [quantity?, nat, hzero, hempty]

/-- **A zero may be left unset.** -/
theorem quantity?_nonzero : quantity? (TransactionArgs.nonzero q) = quantity? q := by
  by_cases hq : q = some 0
  · subst hq
    exact quantity?_zero.symm
  · rw [TransactionArgs.nonzero_eq_self hq]

/-- **An unset number may be set to zero.** -/
theorem quantity?_getD : quantity? (some (q.getD 0)) = quantity? q := by
  cases q with
  | none => exact quantity?_zero
  | some n => rfl

end Rlp

/-! ## The transaction that is sent again -/

/-- The fields with a sender, and with value and data set. -/
def TransactionFields.explicit (f : TransactionFields) (sender : Address) : TransactionFields :=
  { f with
    sender := some sender
    value := some (f.value.getD 0)
    data := some (f.data.getD []) }

namespace Transaction

open TransactionArgs (nonzero)

/-- The transaction as it is sent again from an address. -/
def resubmitted (sender : Address) : Transaction → Transaction
  | .legacy f price => .legacy (f.explicit sender) (nonzero price)
  | .accessList f price entries => .accessList (f.explicit sender) (nonzero price) entries
  | .dynamicFee f maxFee maxPriorityFee entries =>
    .dynamicFee (f.explicit sender) (nonzero maxFee) (nonzero maxPriorityFee) entries

variable (sender : Address) (tx : Transaction)

/-- It is in the same envelope. -/
theorem txType_resubmitted : (tx.resubmitted sender).txType = tx.txType := by
  cases tx <;> rfl

/-- Its items are serialised alike. -/
theorem items_resubmitted : (tx.resubmitted sender).items = tx.items := by
  have hcall (f : TransactionFields) : callItems (f.explicit sender) = callItems f := by
    unfold callItems TransactionFields.explicit
    rw [Rlp.quantity?_getD, Option.getD_some]
  cases tx <;> simp only [resubmitted, items, hcall, Rlp.quantity?_nonzero] <;> rfl

/-- **Its payload is the same.** -/
theorem rlp_resubmitted : (tx.resubmitted sender).rlp = tx.rlp := by
  have htail : (tx.resubmitted sender).unsignedTail = tx.unsignedTail := by
    cases tx <;> rfl
  rw [rlp, rlp, txType_resubmitted, items_resubmitted, htail]

end Transaction

/-! ## From transactions to arguments and back -/

namespace TransactionArgs

variable {sender : Address} {tx : Transaction}

/-- A recipient that is not a name is kept. -/
theorem exists_recipientAddress {r : Option Recipient} (h : ∀ name, r ≠ some (.name name)) :
    ∃ a, recipientAddress r = .ok a ∧ a.map .address = r := by
  match r with
  | none => exact ⟨none, rfl, rfl⟩
  | some (.address a) => exact ⟨some a, rfl, rfl⟩
  | some (.name name) => exact absurd rfl (h name)

/-- The arguments restate the common fields of a transaction, without its zeros. -/
structure Restates (a : TransactionArgs) (sender : Address) (f : TransactionFields) : Prop where
  sender : a.sender = some sender
  recipient : a.recipient.map .address = f.recipient
  gas : a.gas = nonzero f.gas
  value : a.value = some (f.value.getD 0)
  nonce : a.nonce = nonzero f.nonce
  data : a.data = some (f.data.getD [])
  chainId : a.chainId = nonzero f.chainId

/-- **Fields that are restated** are those that they were, but for the ones that are explicit
now. -/
theorem Restates.transactionFields {a : TransactionArgs} {f : TransactionFields}
    {nonce gas : Amount} (h : a.Restates sender f) (hid : f.chainId ≠ some 0)
    (hnonce : a.nonce = some nonce) (hgas : a.gas = some gas) :
    a.transactionFields nonce gas = f.explicit sender := by
  have hnonce' := (nonzero_eq_some_iff.mp (h.nonce.symm.trans hnonce)).1
  have hgas' := (nonzero_eq_some_iff.mp (h.gas.symm.trans hgas)).1
  rw [TransactionArgs.transactionFields, TransactionFields.explicit, h.sender, h.recipient,
    h.value, h.data, h.chainId, nonzero_eq_self hid, hnonce', hgas', Option.getD_some,
    Option.getD_some]

/-- The transaction of arguments that restate some fields, in whatever envelope. -/
theorem Restates.toTransaction? {a : TransactionArgs} {f : TransactionFields}
    (make : TransactionFields → Transaction) (h : a.Restates sender f) (hid : f.chainId ≠ some 0)
    (hmake : ∀ nonce gas, a.nonce = some nonce → a.gas = some gas →
      a.toTransaction? = some (make (a.transactionFields nonce gas))) :
    a.toTransaction? =
      if (nonzero f.nonce).isSome ∧ (nonzero f.gas).isSome then some (make (f.explicit sender))
      else none := by
  rw [← h.nonce, ← h.gas]
  cases hnonce : a.nonce with
  | none =>
    rw [TransactionArgs.toTransaction?, hnonce]
    rfl
  | some nonce =>
    cases hgas : a.gas with
    | none =>
      rw [TransactionArgs.toTransaction?, hnonce, hgas]
      rfl
    | some gas =>
      rw [hmake nonce gas hnonce hgas, h.transactionFields hid hnonce hgas]
      exact (if_pos ⟨rfl, rfl⟩).symm

/-- **The way to arguments and back.** -/
theorem toTransaction?_ofTransaction (hto : ∀ name, tx.fields.recipient ≠ some (.name name))
    (hid : tx.fields.chainId ≠ some 0) (sender : Address) :
    ∃ args, ofTransaction sender tx = .ok args ∧ args.toTransaction? =
      if (nonzero tx.fields.nonce).isSome ∧ (nonzero tx.fields.gas).isSome then
        some (tx.resubmitted sender)
      else none := by
  obtain ⟨recipient, hto, hback⟩ := exists_recipientAddress hto
  -- the envelopes differ in their fees, and in how these and the fields are put together
  cases tx with
  | legacy f price =>
    refine ⟨_, by rw [ofTransaction, hto]; rfl, ?_⟩
    refine Restates.toTransaction? (.legacy · (nonzero price))
      ⟨rfl, hback, rfl, rfl, rfl, rfl, rfl⟩ hid fun nonce gas hnonce hgas => ?_
    rw [toTransaction?, hnonce, hgas]
    rfl
  | accessList f price entries =>
    refine ⟨_, by rw [ofTransaction, hto]; rfl, ?_⟩
    refine Restates.toTransaction? (.accessList · (nonzero price) entries)
      ⟨rfl, hback, rfl, rfl, rfl, rfl, rfl⟩ hid fun nonce gas hnonce hgas => ?_
    rw [toTransaction?, hnonce, hgas]
    rfl
  | dynamicFee f maxFee tip entries =>
    refine ⟨_, by rw [ofTransaction, hto]; rfl, ?_⟩
    refine Restates.toTransaction? (.dynamicFee · (nonzero maxFee) (nonzero tip) entries)
      ⟨rfl, hback, rfl, rfl, rfl, rfl, rfl⟩ hid fun nonce gas hnonce hgas => ?_
    rw [toTransaction?, hnonce, hgas]
    rfl

end TransactionArgs

namespace Transaction

open TransactionArgs (ofTransaction nonzero nonzero_eq_some_iff)

/-- **A transaction that is sent again has the payload that it had.** If its recipient is not a name
and its chain id not an explicit zero, then there are arguments that send it again. They make a
transaction exactly if it has a nonce and a gas limit other than zero. This is the one with zero
fees unset and with value and data set; envelope, unsigned payload and signing hash are those that
they were. -/
theorem resubmission {tx : Transaction} (hto : ∀ name, tx.fields.recipient ≠ some (.name name))
    (hid : tx.fields.chainId ≠ some 0) (sender : Address) :
    ∃ args, ofTransaction sender tx = .ok args ∧
      (args.toTransaction?.isSome ↔ (∃ nonce, tx.fields.nonce = some nonce ∧ nonce ≠ 0) ∧
        ∃ gas, tx.fields.gas = some gas ∧ gas ≠ 0) ∧
      ∀ again, args.toTransaction? = some again →
        again = tx.resubmitted sender ∧ again.txType = tx.txType ∧ again.rlp = tx.rlp ∧
          again.sighash = tx.sighash := by
  obtain ⟨args, hargs, hmade⟩ := TransactionArgs.toTransaction?_ofTransaction hto hid sender
  have hset (q : Option Amount) : (nonzero q).isSome ↔ ∃ n, q = some n ∧ n ≠ 0 := by
    simp only [Option.isSome_iff_exists, nonzero_eq_some_iff]
  refine ⟨args, hargs, ?_, fun again hagain => ?_⟩
  · rw [hmade, ← hset, ← hset]
    split
    · rename_i hboth
      exact iff_of_true rfl hboth
    · rename_i hboth
      exact iff_of_false nofun hboth
  · rw [hmade] at hagain
    obtain ⟨-, hagain⟩ := Option.ite_none_right_eq_some.mp hagain
    obtain rfl := Option.some.inj hagain
    have hrlp := tx.rlp_resubmitted sender
    exact ⟨rfl, tx.txType_resubmitted sender, hrlp, congrArg Crypto.keccak256 hrlp⟩

/-- A transfer with a tip of zero, and with neither value nor data. -/
def untipped : Transaction :=
  .dynamicFee { recipient := some (.address default), gas := some 21000, nonce := some 1 } (some 9)
    (some 0) []

/-- When it is sent again, the tip is unset and the value is zero. -/
theorem resubmission_untipped :
    ∃ args again, ofTransaction default untipped = .ok args ∧ args.toTransaction? = some again ∧
      again = .dynamicFee { untipped.fields with
        sender := some default
        value := some 0
        data := some [] } (some 9) none [] ∧
      again.rlp = untipped.rlp ∧ again.sighash = untipped.sighash := by
  have hto (name : String) : untipped.fields.recipient ≠ some (.name name) := nofun
  obtain ⟨args, hargs, hmade, hsame⟩ := resubmission hto nofun default
  obtain ⟨again, hagain⟩ :=
    Option.isSome_iff_exists.mp (hmade.mpr ⟨⟨1, rfl, by decide⟩, 21000, rfl, by decide⟩)
  obtain ⟨hform, -, hrlp, hhash⟩ := hsame again hagain
  exact ⟨args, again, hargs, hagain, hform, hrlp, hhash⟩

/-- A chain id of zero is left unset, but a payload that holds it is another one. -/
example :
    (Transaction.legacy { chainId := some 0 } none).rlp ≠ (Transaction.legacy {} none).rlp := by
  decide

end Transaction

end EthClient
