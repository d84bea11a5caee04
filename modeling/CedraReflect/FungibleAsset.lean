/-
The asset framework's stores, as the packages use them.

Stores behave as integer balances. A withdrawal turns units of a store into a
[`FungibleAsset`] and a deposit turns them back; the pair of effects
[`World.debit`] and [`World.credit`] is all that happens to `balance` and
`in_flight` outside of minting. The functions with a reference (`_with_ref`)
ignore the frozen flag and the owner, as their originals do. Primary stores are
created on demand and an absent store is an empty one here, which is also what
the packages read from it.

The framework is not part of the packages: its functions are their documented
behaviour, for what the packages call. Left out is what the packages neither
read nor can set off: the supply that the framework counts beside the stores,
the events it emits itself, and the objects that references are made from.
-/
import CedraReflect.World

set_option autoImplicit false
set_option linter.constructorNameAsVariable false

namespace CedraReflect

/-- `fungible_asset::FungibleAsset`. -/
structure FungibleAsset where
  metadata : Metadata
  amount : ℕ
deriving DecidableEq

namespace World

variable (w : World) (ref : Metadata) (store : Address) (n : ℕ)

/-- `n` units leave `store`. -/
@[simps] def debit : World :=
  { w with
    balance := Function.update w.balance store (w.balance store - n)
    in_flight := Function.update w.in_flight ref (w.in_flight ref + n) }

/-- `n` units reach `store`. -/
@[simps] def credit : World :=
  { w with
    balance := Function.update w.balance store (w.balance store + n)
    in_flight := Function.update w.in_flight ref (w.in_flight ref - n) }

/-- `n` units go from one store to another, never seen in between. -/
@[simps] def moved (recipient : Address) : World :=
  { w with
    balance :=
      Function.update (Function.update w.balance store (w.balance store - n)) recipient
        (Function.update w.balance store (w.balance store - n) recipient + n) }

/-- Out of one store and into another. -/
theorem credit_debit (recipient : Address) :
    (w.debit ref store n).credit ref recipient n = w.moved store n recipient := by
  simp [debit, credit, moved]

/-- `n` units come into being. -/
@[simps] def minted : World :=
  { w with in_flight := Function.update w.in_flight ref (w.in_flight ref + n) }

/-- The frozen flag of `store` is set. -/
@[simps] def freeze : World := { w with frozen := Function.update w.frozen store true }

end World

namespace fungible_asset

/-- `balance`, which is zero where no store has been created. -/
def balance (store : Address) : Move ℕ := Tx.gets (fun w => w.balance store)

/-- A reference acts on stores of its own asset only. -/
def assert_ref (ref : Metadata) (store : Address) : Move Unit :=
  Tx.require (store.store_metadata = some ref) (.framework .asset_mismatch)

/-- The balance is checked; the owner and the frozen flag are not. -/
def withdraw_with_ref (ref : Metadata) (store : Address) (amount : ℕ) : Move FungibleAsset := do
  assert_ref ref store
  let held ← balance store
  Tx.require (amount ≤ held) (.framework .insufficient_balance)
  Tx.update fun w => w.debit ref store amount
  pure ⟨ref, amount⟩

/-- The units must be there to be deposited, which linear types see to in Move. -/
def deposit_with_ref (ref : Metadata) (store : Address) (asset : FungibleAsset) : Move Unit := do
  assert_ref ref store
  Tx.require (asset.metadata = ref) (.framework .asset_mismatch)
  let carried ← Tx.gets (fun w : World => w.in_flight ref)
  Tx.require (asset.amount ≤ carried) (.framework .insufficient_balance)
  let held ← balance store
  let _ ← checked .fungible_asset 64 (held + asset.amount)
  Tx.update fun w => w.credit ref store asset.amount

/-- A withdrawal and a deposit, with the one reference. -/
def transfer_with_ref (ref : Metadata) (sender recipient : Address) (amount : ℕ) :
    Move Unit := do
  let asset ← withdraw_with_ref ref sender amount
  deposit_with_ref ref recipient asset

/-- Splits `amount` off; the first component is what stays in `asset`. -/
def extract (asset : FungibleAsset) (amount : ℕ) : Move (FungibleAsset × FungibleAsset) := do
  Tx.require (amount ≤ asset.amount) (.framework .insufficient_balance)
  pure (⟨asset.metadata, asset.amount - amount⟩, ⟨asset.metadata, amount⟩)

/-- Units come into being in no store. -/
def mint (ref : Metadata) (amount : ℕ) : Move FungibleAsset := do
  Tx.update fun w => w.minted ref amount
  pure ⟨ref, amount⟩

/-- Freezes the store for its owner, not for a reference. -/
def set_frozen_flag (ref : Metadata) (store : Address) : Move Unit := do
  assert_ref ref store
  Tx.update fun w => w.freeze store

/-- What `withdraw` asks of its caller before it looks at the amount. -/
def withdraw_sanity_check [NamedAddresses] (owner store : Address) : Move Unit := do
  Tx.require (store.owner = owner) (.framework .not_store_owner)
  let frozen ← Tx.gets (fun w : World => w.frozen store)
  Tx.require (frozen = false) (.framework .store_is_frozen)

/-- What `deposit` asks of the store. -/
def deposit_sanity_check (store : Address) : Move Unit := do
  let frozen ← Tx.gets (fun w : World => w.frozen store)
  Tx.require (frozen = false) (.framework .store_is_frozen)

end fungible_asset

/-! ## Specifications -/

namespace Tx

open fungible_asset

variable {w w' : World} {r : Arithmetic} {ref : Metadata} {store sender recipient : Address}
  {n : ℕ} {asset : FungibleAsset}

@[simp] theorem commits_emit (e : Event) (u : Unit) :
    Commits (emit e) r w u w' ↔ w' = { w with events := w.events ++ [e] } := by
  simp [emit]

@[simp] theorem commits_balance : Commits (balance store) r w n w' ↔ n = w.balance store ∧ w' = w :=
  commits_gets _ _ _ _ _

@[simp] theorem commits_withdraw_with_ref :
    Commits (withdraw_with_ref ref store n) r w asset w' ↔
      (store.store_metadata = some ref ∧ n ≤ w.balance store)
        ∧ asset = ⟨ref, n⟩ ∧ w' = w.debit ref store n := by
  simp [withdraw_with_ref, assert_ref]
  tauto

@[simp] theorem commits_deposit_with_ref (u : Unit) :
    Commits (deposit_with_ref ref store asset) .ideal w u w' ↔
      (store.store_metadata = some ref ∧ asset.metadata = ref ∧ asset.amount ≤ w.in_flight ref)
        ∧ w' = w.credit ref store asset.amount := by
  simp [deposit_with_ref, assert_ref]
  tauto

@[simp] theorem commits_transfer_with_ref (u : Unit) :
    Commits (transfer_with_ref ref sender recipient n) .ideal w u w' ↔
      (sender.store_metadata = some ref ∧ recipient.store_metadata = some ref
          ∧ n ≤ w.balance sender)
        ∧ w' = w.moved sender n recipient := by
  simp [transfer_with_ref, World.credit_debit]
  tauto

@[simp] theorem commits_extract (p : FungibleAsset × FungibleAsset) :
    Commits (extract asset n) r w p w' ↔
      n ≤ asset.amount ∧ p = (⟨asset.metadata, asset.amount - n⟩, ⟨asset.metadata, n⟩)
        ∧ w' = w := by
  simp [extract]
  tauto

@[simp] theorem commits_mint :
    Commits (mint ref n) r w asset w' ↔ asset = ⟨ref, n⟩ ∧ w' = w.minted ref n := by
  simp [mint, and_comm]

@[simp] theorem commits_set_frozen_flag (u : Unit) :
    Commits (set_frozen_flag ref store) r w u w' ↔
      store.store_metadata = some ref ∧ w' = w.freeze store := by
  simp [set_frozen_flag, assert_ref]

@[simp] theorem commits_withdraw_sanity_check [NamedAddresses] {owner : Address} (u : Unit) :
    Commits (withdraw_sanity_check owner store) r w u w' ↔
      (store.owner = owner ∧ w.frozen store = false) ∧ w' = w := by
  simp [withdraw_sanity_check]
  grind

@[simp] theorem commits_deposit_sanity_check (u : Unit) :
    Commits (deposit_sanity_check store) r w u w' ↔ w.frozen store = false ∧ w' = w := by
  simp [deposit_sanity_check]

end Tx

section Sound

open fungible_asset

variable {arithmetic : Arithmetic} (ref : Metadata) (store : Address) (n : ℕ)
  (asset : FungibleAsset)

instance (e : Event) : Sound arithmetic (emit e) := by
  unfold emit
  infer_instance

instance : Sound arithmetic (balance store) := by
  unfold balance
  infer_instance

instance : Sound arithmetic (assert_ref ref store) := by
  unfold assert_ref
  infer_instance

instance : Sound arithmetic (withdraw_with_ref ref store n) := by
  unfold withdraw_with_ref
  infer_instance

instance : Sound arithmetic (deposit_with_ref ref store asset) := by
  unfold deposit_with_ref
  infer_instance

instance (recipient : Address) :
    Sound arithmetic (transfer_with_ref ref store recipient n) := by
  unfold transfer_with_ref
  infer_instance

instance : Sound arithmetic (extract asset n) := by
  unfold extract
  infer_instance

instance : Sound arithmetic (mint ref n) := by
  unfold mint
  infer_instance

instance : Sound arithmetic (set_frozen_flag ref store) := by
  unfold set_frozen_flag
  infer_instance

instance [NamedAddresses] (owner : Address) :
    Sound arithmetic (withdraw_sanity_check owner store) := by
  unfold withdraw_sanity_check
  infer_instance

instance : Sound arithmetic (deposit_sanity_check store) := by
  unfold deposit_sanity_check
  infer_instance

end Sound

end CedraReflect
