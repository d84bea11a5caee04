/-
`cedra-draft-encoder.ts` of the SDK: the check of a transaction draft.

A draft names an entry function of the deployed packages and carries the
arguments that it would be called with. Before it leaves the client it is
compared with the shapes of the entry functions that its kind allows, its
arguments with the integer types of Move, and its amounts and deadline with what
the entry function makes of them.
-/
import CedraReflect.ReadAdapter

set_option autoImplicit false
set_option linter.constructorNameAsVariable false

namespace CedraReflect.sdk

open indexer (Text text shown throwIf forAll throwIf_eq_ok bind_unit_eq_ok ok_bind)

/-! ## Drafts -/

inductive TransactionKind where
  | faucet_claim
  | swap
  | claim_rewards
  | add_liquidity
  | remove_liquidity
  | transfer_lp_shares
  | claim_lp_rewards
  | checkpoint_lp_rewards
deriving DecidableEq, Repr

/-- The kind as messages have it. -/
def TransactionKind.toString : TransactionKind → String
  | faucet_claim => "faucet_claim"
  | swap => "swap"
  | claim_rewards => "claim_rewards"
  | add_liquidity => "add_liquidity"
  | remove_liquidity => "remove_liquidity"
  | transfer_lp_shares => "transfer_lp_shares"
  | claim_lp_rewards => "claim_lp_rewards"
  | checkpoint_lp_rewards => "checkpoint_lp_rewards"

/-- An argument of a draft. `address` is a text that the pattern of an address
admits, `string` any other. -/
inductive EntryArgument where
  | string (s : String)
  | bigint (n : ℤ)
  | boolean (b : Bool)
  | address (a : Address)
deriving DecidableEq, Repr

/-- `String(value)`. -/
def EntryArgument.text : EntryArgument → Text
  | string s => indexer.text s
  | bigint n => shown n
  | boolean b => [.bool b]
  | address a => [.address a]

structure TransactionDraft where
  kind : TransactionKind
  functionId : String
  arguments : List EntryArgument
  secondarySignerAddresses : List EntryArgument
  expirationUnixSeconds : ℤ
  warning : String
deriving DecidableEq, Repr

/-! ## Shapes -/

inductive MoveArgumentKind where
  | u64
  | u128
  | address
deriving DecidableEq, Repr

def MoveArgumentKind.toString : MoveArgumentKind → String
  | u64 => "u64"
  | u128 => "u128"
  | address => "address"

structure EntryShape where
  functionId : String
  argumentKinds : List MoveArgumentKind
deriving DecidableEq, Repr

def U128_MAX : ℤ := 2 ^ 128 - 1

/-- `ENTRY_SHAPES`: the entry functions of each kind. -/
def ENTRY_SHAPES : TransactionKind → List EntryShape
  | .faucet_claim =>
      [⟨"test_assets::test_faucet::claim_trfl", []⟩, ⟨"test_assets::test_faucet::claim_tusd", []⟩]
  | .swap =>
      [⟨"test_amm::pool::buy_trfl", [.u64, .u64, .u64]⟩,
        ⟨"test_amm::pool::sell_trfl", [.u64, .u64, .u64]⟩]
  | .claim_rewards =>
      [⟨"reflection_core::reflection_token::claim", [.u64]⟩,
        ⟨"reflection_core::reflection_token::claim_all", []⟩]
  | .add_liquidity => [⟨"test_amm::pool::add_liquidity", [.u64, .u64, .u128, .u64]⟩]
  | .remove_liquidity => [⟨"test_amm::pool::remove_liquidity", [.u128, .u64, .u64, .u64]⟩]
  | .transfer_lp_shares => [⟨"test_amm::pool::transfer_lp_shares", [.address, .u128]⟩]
  | .claim_lp_rewards => [⟨"test_amm::pool::claim_lp_rewards", [.u64, .u64]⟩]
  | .checkpoint_lp_rewards => [⟨"test_amm::pool::checkpoint_lp_rewards", []⟩]

/-! ## The check -/

/-- A signer or a publisher; its key itself is not used here. -/
def canonicalAddressKey (address : EntryArgument) : Except SdkError Unit :=
  match address with
  | .address a =>
      throwIf (a = .zero)
        (.TypeError (text "Cedra signer and module publisher addresses cannot be zero"))
  | _ => .error (.TypeError (text "Invalid Cedra account address: " ++ address.text))

def assertMoveArgument (value : EntryArgument) (kind : MoveArgumentKind) (index : ℕ) :
    Except SdkError Unit :=
  let refused : SdkError :=
    .TypeError (text "Move argument " ++ shown index
      ++ text (" must be a bigint in the " ++ kind.toString ++ " domain"))
  match kind, value with
  | .address, _ => canonicalAddressKey value
  | .u64, .bigint n => throwIf (n < 0 ∨ U64_MAX < n) refused
  | .u128, .bigint n => throwIf (n < 0 ∨ U128_MAX < n) refused
  | _, _ => .error refused

/-- The arguments from the one at `index` on. -/
def assertMoveArguments : List EntryArgument → List MoveArgumentKind → ℕ → Except SdkError Unit
  | value :: values, kind :: kinds, index => do
      assertMoveArgument value kind index
      assertMoveArguments values kinds (index + 1)
  | _, _, _ => pure ()

def assertPositiveArgument (draft : TransactionDraft) (index : ℕ) (label : String) :
    Except SdkError Unit :=
  match draft.arguments[index]? with
  | some (.bigint value) => throwIf (value ≤ 0) (.RangeError (text (label ++ " must be positive")))
  | _ => .error (.RangeError (text (label ++ " must be positive")))

def assertDeadlineMatchesExpiration (draft : TransactionDraft) (index : ℕ) :
    Except SdkError Unit :=
  let refused : SdkError := .RangeError (text
    "on-chain deadline must be positive and equal the transaction draft expiration")
  match draft.arguments[index]? with
  | some (.bigint deadline) =>
      throwIf (deadline ≤ 0 ∨ deadline ≠ draft.expirationUnixSeconds) refused
  | _ => .error refused

def assertEntrySemantics (draft : TransactionDraft) (shape : EntryShape) :
    Except SdkError Unit :=
  match shape.functionId with
  | "reflection_core::reflection_token::claim" =>
      assertPositiveArgument draft 0 "reward claim amount"
  | "test_amm::pool::buy_trfl" | "test_amm::pool::sell_trfl" => do
      assertPositiveArgument draft 0 "swap gross amount"
      assertDeadlineMatchesExpiration draft 2
  | "test_amm::pool::add_liquidity" => do
      assertPositiveArgument draft 0 "maximum tRFL contribution"
      assertPositiveArgument draft 1 "maximum tUSD contribution"
      assertDeadlineMatchesExpiration draft 3
  | "test_amm::pool::remove_liquidity" => do
      assertPositiveArgument draft 0 "LP shares"
      assertDeadlineMatchesExpiration draft 3
  | "test_amm::pool::transfer_lp_shares" => assertPositiveArgument draft 1 "LP shares"
  | "test_amm::pool::claim_lp_rewards" => assertPositiveArgument draft 0 "LP epoch"
  | _ => pure ()

/-- The shape of a draft that has one. -/
def knownEntryShape (draft : TransactionDraft) : Except SdkError EntryShape := do
  throwIf (draft.expirationUnixSeconds ≤ 0 ∨ U64_MAX < draft.expirationUnixSeconds
      ∨ draft.warning.length = 0)
    (.TypeError (text "Cedra transaction draft has invalid runtime fields"))
  let matching := (ENTRY_SHAPES draft.kind).find? fun shape => decide
    (shape.functionId = draft.functionId ∧ shape.argumentKinds.length = draft.arguments.length
      ∧ draft.secondarySignerAddresses.length = 0)
  match matching with
  | none =>
      .error (.TypeError (text ("Draft kind " ++ draft.kind.toString
        ++ " does not match a supported entry-function shape")))
  | some shape => do
      assertMoveArguments draft.arguments shape.argumentKinds 0
      forAll draft.secondarySignerAddresses canonicalAddressKey
      assertEntrySemantics draft shape
      pure shape

/-- Runtime validation for drafts crossing an adapter or application boundary. -/
def assertCedraTransactionDraft (draft : TransactionDraft) : Except SdkError Unit := do
  let _ ← knownEntryShape draft
  pure ()

/-! ## Swaps -/

/-- The arguments of a trade. -/
theorem assertMoveArguments_swap {gross minimum deadline : ℤ} (hgross : 0 ≤ gross)
    (hgross' : gross ≤ U64_MAX) (hminimum : 0 ≤ minimum) (hminimum' : minimum ≤ U64_MAX)
    (hdeadline : 0 ≤ deadline) (hdeadline' : deadline ≤ U64_MAX) :
    assertMoveArguments [.bigint gross, .bigint minimum, .bigint deadline] [.u64, .u64, .u64] 0
      = .ok () := by
  simp only [assertMoveArguments, assertMoveArgument, bind_unit_eq_ok, throwIf_eq_ok, not_or,
    not_lt]
  exact ⟨⟨hgross, hgross'⟩, ⟨hminimum, hminimum'⟩, ⟨hdeadline, hdeadline'⟩, rfl⟩

theorem assertEntrySemantics_swap {draft : TransactionDraft} {shape : EntryShape}
    {gross minimum deadline : ℤ}
    (hfunction : shape.functionId = "test_amm::pool::buy_trfl"
      ∨ shape.functionId = "test_amm::pool::sell_trfl")
    (harguments : draft.arguments = [.bigint gross, .bigint minimum, .bigint deadline])
    (hexpiration : draft.expirationUnixSeconds = deadline) (hgross : 0 < gross)
    (hdeadline : 0 < deadline) : assertEntrySemantics draft shape = .ok () := by
  have hboth : assertEntrySemantics draft shape = (do
      assertPositiveArgument draft 0 "swap gross amount"
      assertDeadlineMatchesExpiration draft 2) := by
    rw [assertEntrySemantics]
    rcases hfunction with hf | hf
    · rw [hf]
      rfl
    · rw [hf]
      rfl
  rw [hboth, bind_unit_eq_ok, assertPositiveArgument, assertDeadlineMatchesExpiration, harguments]
  exact ⟨throwIf_eq_ok.mpr (by omega), throwIf_eq_ok.mpr (by omega)⟩

/-- A draft of a swap passes if its amounts are `u64`s, its input is positive and
its deadline is its expiration. -/
theorem assertCedraTransactionDraft_swap {draft : TransactionDraft} {gross minimum deadline : ℤ}
    (hkind : draft.kind = .swap)
    (hfunction : draft.functionId = "test_amm::pool::buy_trfl"
      ∨ draft.functionId = "test_amm::pool::sell_trfl")
    (harguments : draft.arguments = [.bigint gross, .bigint minimum, .bigint deadline])
    (hsigners : draft.secondarySignerAddresses = [])
    (hexpiration : draft.expirationUnixSeconds = deadline) (hwarning : draft.warning.length ≠ 0)
    (hgross : 0 < gross) (hgross' : gross ≤ U64_MAX) (hminimum : 0 ≤ minimum)
    (hminimum' : minimum ≤ U64_MAX) (hdeadline : 0 < deadline) (hdeadline' : deadline ≤ U64_MAX) :
    assertCedraTransactionDraft draft = .ok () := by
  have hfields : ¬ (draft.expirationUnixSeconds ≤ 0 ∨ U64_MAX < draft.expirationUnixSeconds
      ∨ draft.warning.length = 0) := by omega
  have hshape : (ENTRY_SHAPES draft.kind).find? (fun shape => decide
      (shape.functionId = draft.functionId ∧ shape.argumentKinds.length = draft.arguments.length
        ∧ draft.secondarySignerAddresses.length = 0))
      = some ⟨draft.functionId, [.u64, .u64, .u64]⟩ := by
    rw [hkind, harguments, hsigners]
    rcases hfunction with hf | hf
    · rw [hf]
      rfl
    · rw [hf]
      rfl
  have hsemantics : assertEntrySemantics draft ⟨draft.functionId, [.u64, .u64, .u64]⟩ = .ok () :=
    assertEntrySemantics_swap hfunction harguments hexpiration hgross hdeadline
  have harguments' : assertMoveArguments draft.arguments [.u64, .u64, .u64] 0 = .ok () := by
    rw [harguments]
    exact assertMoveArguments_swap hgross.le hgross' hminimum hminimum' hdeadline.le hdeadline'
  have hall : forAll draft.secondarySignerAddresses canonicalAddressKey = .ok () := by
    rw [hsigners]
    rfl
  rw [assertCedraTransactionDraft, knownEntryShape, throwIf, if_neg hfields, ok_bind]
  dsimp only
  rw [hshape]
  dsimp only
  rw [harguments', ok_bind, hall, ok_bind, hsemantics]
  rfl

end CedraReflect.sdk
