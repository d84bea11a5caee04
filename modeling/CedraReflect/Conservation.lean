/-
Effective balances are conserved.

Only a fee or a trade changes what an account can spend. A payment moves units
from what is pending to the raw balance, and two payments are one; a transfer
through the hooks moves units from one account to another, and goes through
exactly when there are enough (`effective_balance_conserved`).
-/
import CedraReflect.ShortRuns

set_option autoImplicit false
set_option linter.constructorNameAsVariable false

namespace CedraReflect

open reflection_token (TOTAL_SUPPLY is_excluded_store)

section

variable [NamedAddresses] {arithmetic : Arithmetic} {fee_bps : ℕ} {w w' : World} {a b : Address}
  {m n : ℕ}

/-! ## Transfers through the hooks -/

instance (cash : Address → ℕ) : Sheltered cash (reflection_token.hook_transfer a b n) := by
  unfold reflection_token.hook_transfer
  infer_instance

/-- A transfer within the widths, if the recipient can be counted. -/
theorem Tx.fits_hook_transfer (h : Core w) (hw : w.Narrow) (ha : a ∈ w.wallets)
    (hcard : (insert b w.wallets).card < 2 ^ 64) :
    Fits (reflection_token.hook_transfer a b n) w := by
  unfold reflection_token.hook_transfer
  refine .call (fits_withdraw_hook_impl h hw) fun asset v hc => ?_
  obtain ⟨-, hn, -, rfl⟩ := (commits_withdraw_hook_wallet h ha asset).mp hc
  have hs := h.moved_sent ha hn
  refine fits_deposit_hook_impl hs.core (hw.moved hs) ?_
  show (insert b (w.materializedAll a false .TRANSFER_SEND).wallets).card < 2 ^ 64
  rwa [World.wallets_materializedAll]

/-- A transfer through the hooks goes through exactly when the sender's effective
balance covers it, and moves the amount from one to the other. -/
theorem Core.hook_transfer {fits : Prop} (h : Core w) (hl : w.reflection.lifecycle ≠ .CONFIGURING)
    (ha : a ∈ w.wallets) (hb : is_excluded_store w.reflection (.primary .trfl b) = false)
    (hnarrow : fits → w.Narrow) (hcard : fits → (insert b w.wallets).card < 2 ^ 64) :
    (n ≤ w.effective a → ∃ w', Tx.Performs fits (reflection_token.hook_transfer a b n) w () w')
      ∧ ∀ w', Tx.Commits (reflection_token.hook_transfer a b n) arithmetic w () w' →
        n ≤ w.effective a
          ∧ (a ≠ b → w'.effective a + n = w.effective a ∧ w'.effective b = w.effective b + n)
          ∧ (a = b → w'.effective a = w.effective a)
          ∧ ∀ c, c ≠ a → c ≠ b → w'.raw c = w.raw c
            ∧ w'.pending (some c) = w.pending (some c) ∧ w'.effective c = w.effective c := by
  refine ⟨fun hn => ⟨_, h.performs (Tx.Commits.executes
    ((Tx.commits_hook_transfer h hl ha hb ()).mpr ⟨hn, rfl⟩) inferInstance)
      fun hf => Tx.fits_hook_transfer h (hnarrow hf) ha (hcard hf)⟩, fun w' ht => ?_⟩
  have hs : Sound arithmetic (reflection_token.hook_transfer a b n) := inferInstance
  obtain ⟨hn, rfl⟩ := (Tx.commits_hook_transfer h hl ha hb ()).mp (hs.commits ht)
  refine ⟨hn, fun hab => ⟨?_, ?_⟩, fun hab => ?_, fun c hca hcb => ?_⟩
  · rw [World.effective_arrived, if_neg hab, World.effective_sent hn, if_pos rfl]
    omega
  · rw [World.effective_arrived, if_pos rfl, World.effective_sent hn, if_neg (Ne.symm hab)]
  · -- To itself, what was taken comes back.
    subst hab
    rw [World.effective_arrived, if_pos rfl, World.effective_sent hn, if_pos rfl]
    omega
  · obtain ⟨hraw, hpend⟩ := World.parts_bystander hn hca hcb
    exact ⟨hraw, hpend, by rw [World.effective, hraw, hpend, World.effective]⟩

/-! ## Claims -/

/-- A claim of no more than is pending. -/
theorem Core.performs_claim {fits : Prop} (h : Core w) (hl : w.reflection.lifecycle ≠ .CONFIGURING)
    (ha : a ∈ w.wallets) (hn0 : 0 < n) (hn : n ≤ w.pending (some a)) (hnarrow : fits → w.Narrow) :
    Tx.Performs fits (Call.claim a n).run w () (w.materialized a n true .MANUAL) :=
  h.performs (m := reflection_token.claim a n)
    (Tx.Commits.executes ((Tx.commits_claim h ()).mpr ⟨hl, ha, hn0, hn, rfl⟩)
      (Call.claim a n).sound)
    fun hf => Tx.fits_claim h (hnarrow hf)

/-- Two claims commit one after the other, and leave what one claim of the sum
leaves. -/
theorem Reachable.claim_add (h : Reachable arithmetic fee_bps w) (hm : 0 < m) (hn : 0 < n)
    (hmn : m + n ≤ w.pending (some a)) :
    ∃ w₁ w₂ w₃, Tx.Performs (ShortRun fee_bps w) (Call.claim a m).run w () w₁
      ∧ Tx.Performs (ShortRun fee_bps w) (Call.claim a n).run w₁ () w₂
      ∧ Tx.Performs (ShortRun fee_bps w) (Call.claim a (m + n)).run w () w₃
      ∧ w₂.unlogged = w₃.unlogged := by
  have hc := h.core
  have ha := hc.wallet_of_pending (a := a) (by omega)
  have hl := h.of_wallet ha
  have hpos : a ∈ w.reflection.positions := by
    by_contra hna
    rw [hc.membership.pending_of_notMem hna] at hmn
    omega
  -- The first claim leaves the rest pending.
  have hv := hc.moved_materialized (n := m) hpos (by omega) true .MANUAL
  have hp : (w.materialized a m true .MANUAL).pending (some a) = w.pending (some a) - m := by
    rw [World.pending_materialized, if_pos rfl]
  refine ⟨w.materialized a m true .MANUAL, _, w.materialized a (m + n) true .MANUAL,
    hc.performs_claim hl ha hm (by omega) fun hs => hs.narrow,
    hv.core.performs_claim ?_ ?_ hn (by omega) fun hs => hs.narrow.moved hv,
    hc.performs_claim hl ha (by omega) hmn fun hs => hs.narrow, ?_⟩
  · rw [hv.frame.lifecycle]
    exact hl
  · rw [World.wallets, World.custody_materialized]
    exact ha
  · -- Only the events tell two claims from one.
    have hu : (w.materialized a m true .MANUAL).settledWallet a n
        = (w.materialized a m true .MANUAL).unlogged.settledWallet a n := rfl
    rw [World.unlogged_materialized _ a (by omega), World.unlogged_materialized _ a (by omega), hu,
      World.unlogged_materialized _ a (by omega), World.settledWallet_add]

/-! ## Conservation -/

/-- **Effective balances are conserved.** The effective balance is what the
derived-balance hook tells. No claim and no automatic payment moves any of
them. A transfer through the hooks goes through exactly when the sender's
covers it, and moves the amount from one to the other and nothing of anybody
else's. Two claims in a row are one. After a short run of the machine no width
stops any of it. -/
theorem effective_balance_conserved (h : Reachable arithmetic fee_bps w) :
    (∀ a, Tx.Performs (ShortRun fee_bps w)
        (reflection_token.derived_balance_hook_impl (.primary .trfl a)) w (w.effective a) w)
      ∧ (∀ a n w',
        (Call.claim a n).Commits arithmetic w w' ∨ (Call.claim_all a).Commits arithmetic w w' →
        ∀ c, w'.effective c = w.effective c)
      ∧ (∀ a explicit_claim trigger x w',
        Tx.Commits (reflection_token.materialize_all_to_store a (.primary .trfl a) explicit_claim
          trigger) arithmetic w x w' → ∀ c, w'.effective c = w.effective c)
      ∧ (∀ a b n, w.reflection.lifecycle ≠ .CONFIGURING → a ∈ w.wallets →
        is_excluded_store w.reflection (.primary .trfl b) = false →
        (n ≤ w.effective a → ∃ w',
            Tx.Performs (ShortRun fee_bps w ∧ (insert b w.wallets).card < 2 ^ 64)
              (reflection_token.hook_transfer a b n) w () w')
          ∧ ∀ w', Tx.Commits (reflection_token.hook_transfer a b n) arithmetic w () w' →
            n ≤ w.effective a
              ∧ (a ≠ b → w'.effective a + n = w.effective a ∧ w'.effective b = w.effective b + n)
              ∧ (a = b → w'.effective a = w.effective a)
              ∧ ∀ c, c ≠ a → c ≠ b → w'.raw c = w.raw c
                ∧ w'.pending (some c) = w.pending (some c) ∧ w'.effective c = w.effective c)
      ∧ (∀ a m n, 0 < m → 0 < n → m + n ≤ w.pending (some a) → ∃ w₁ w₂ w₃,
        Tx.Performs (ShortRun fee_bps w) (Call.claim a m).run w () w₁
          ∧ Tx.Performs (ShortRun fee_bps w) (Call.claim a n).run w₁ () w₂
          ∧ Tx.Performs (ShortRun fee_bps w) (Call.claim a (m + n)).run w () w₃
          ∧ w₂.unlogged = w₃.unlogged) := by
  have hc := h.core
  refine ⟨fun a => ?_, fun a n w' hcl c => hc.effective_claimed hcl c, fun a x t y w' hm => ?_,
    fun a b n hl ha hb => hc.hook_transfer hl ha hb (fun hf => hf.1.narrow) fun hf => hf.2,
    fun a m n hm hn hmn => h.claim_add hm hn hmn⟩
  · exact hc.performs (Tx.Commits.executes
      ((Tx.commits_derived_balance_hook_impl hc _).mpr ⟨rfl, rfl⟩) inferInstance)
      fun hs => Tx.fits_derived_balance_hook_impl hc hs.narrow
  · have hs : Sound arithmetic
        (reflection_token.materialize_all_to_store a (.primary .trfl a) x t) :=
      inferInstance
    obtain ⟨-, rfl⟩ := (Tx.commits_materialize_all_to_store hc x t y).mp (hs.commits hm)
    exact fun c => World.effective_materializedAll _ _

end

open Sample in
/-- An account that is owed two units claims them one by one, and sends what it
has to an account that holds nothing yet. -/
theorem effective_balance_conserved_owing : ∃ w w₁ w₂ w', owing = some w
    ∧ Tx.Commits (reflection_token.derived_balance_hook_impl (.primary .trfl (.account 8))) .machine
      w (w.effective (.account 8)) w
    ∧ Tx.Commits (Call.claim (.account 8) 1).run .machine w () w₁
    ∧ Tx.Commits (Call.claim (.account 8) 1).run .machine w₁ () w₂
    ∧ Tx.Commits (reflection_token.hook_transfer (.account 8) (.account 6)
      (w.effective (.account 8))) .machine w () w' := by
  obtain ⟨w, hw, hlive, -, h₈⟩ := exists_owing
  have hshort := shortRun_owing hw
  have hfacts : (owing.map fun w => decide (
      is_excluded_store w.reflection (.primary .trfl (.account 6)) = false
        ∧ w.custody.registered_wallet_count < 2 ^ 64 - 1)) = some true := by
    decide +kernel
  rw [hw, Option.map_some] at hfacts
  obtain ⟨heligible, hcount⟩ := of_decide_eq_true (Option.some.inj hfacts)
  have hc := hshort.reachable.core
  have hcard : (insert (.account 6) w.wallets).card < 2 ^ 64 := hc.card_insert_lt hcount
  obtain ⟨hderived, -, -, htransfer, hclaims⟩ := effective_balance_conserved hshort.reachable
  obtain ⟨w₁, w₂, -, h₁, h₂, -, -⟩ := hclaims (.account 8) 1 1 (by omega) (by omega) (by omega)
  obtain ⟨w', hx⟩ := (htransfer (.account 8) (.account 6) _ (by simp [hlive])
    (hc.wallet_of_pending (by omega)) heligible).1 le_rfl
  exact ⟨w, w₁, w₂, w', hw, (hderived _).commits hshort, h₁.commits hshort, h₂.commits hshort,
    hx.commits ⟨hshort, hcard⟩⟩

end CedraReflect
