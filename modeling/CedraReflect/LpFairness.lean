/-
The LP epoch: its books, and what its owners earn.

The stored sums of the epoch are sums over its positions and its vault is
partitioned as the core's is (`lp_epoch_books`). Against an accumulator an
owner, kept by walking over all owners at every routed reward, the epoch is
exact (`lp_fairness`): it loses to nobody more than the fraction of a unit that
an exit retires. And nothing is left behind on the way from a swap to the
owners (`nothing_stranded`).
-/
import CedraReflect.NaiveAccrual

set_option autoImplicit false
set_option linter.constructorNameAsVariable false

namespace CedraReflect

open Dividend (Ledger Act Valid Run)
open reflection_math (MAGNITUDE MAGNITUDE_pos)
open reflection_token (TOTAL_SUPPLY is_excluded_store)

/-! ## The books -/

section Books

variable {e e' : LpEpoch} {w w' : World}

/-- What has been handed out, carried over, retired and set aside is what has been received. -/
theorem LpAccounting.magnified (h : LpAccounting e) :
    (e.total_shares : ℤ) * e.index + e.aggregate_correction.toInt + e.index_remainder
        + e.retired_residue_magnified + MAGNITUDE * e.unallocated_rewards
      = MAGNITUDE * e.lifetime_received := by
  have hb := h.valid.balance
  simp only [LpEpoch.ledger_remainder, LpEpoch.ledger_retired, LpEpoch.ledger_unallocated,
    LpEpoch.ledger_received] at hb
  have hagg := h.aggregate
  omega

/-- The stored correction is the sum of all corrections. -/
theorem LpAccounting.aggregate_correction (h : LpAccounting e) :
    e.aggregate_correction.toInt = ∑ a ∈ e.positions.keys, (e.position a).correction.toInt := by
  have hagg := h.aggregate
  have htot : (e.total_shares : ℤ) = ∑ a ∈ e.positions.keys, ((e.position a).shares : ℤ) := by
    rw [h.total, Ledger.total]
    push_cast
    rfl
  rw [Ledger.accruedSum, Finset.sum_congr rfl (fun a _ => e.ledger_accrued a),
    Finset.sum_add_distrib, ← Finset.sum_mul, htot] at hagg
  exact add_left_cancel hagg

theorem Tx.recompute_rounding_frame
    (hc : Tx.Commits (lp_rewards.recompute_rounding e) .ideal w e' w') :
    ∃ reserve, e' = { e with rounding_reserve := reserve } := by
  simp only [lp_rewards.recompute_rounding, Tx.commits_bind, Tx.commits_pure] at hc
  obtain ⟨_, _, _, _, _, _, _, _, _, _, _, _, reserve, _, _, rfl, _⟩ := hc
  exact ⟨reserve, rfl⟩

/-- A retirement takes less than a unit off an owner's correction, whatever the epoch. -/
theorem Tx.retirement {owner : Address}
    (hc : Tx.Commits (lp_rewards.normalize_zero_position e owner) .ideal w e' w') :
    ∃ r < MAGNITUDE, e'.retired_residue_magnified = e.retired_residue_magnified + r
      ∧ (e'.position owner).correction.toInt = (e.position owner).correction.toInt - r := by
  simp only [lp_rewards.normalize_zero_position, Tx.commits_bind, Tx.commits_require,
    Tx.commits_lp_borrow_position, Tx.commits_checked, Tx.commits_sub, Tx.commits_ite,
    Tx.commits_pure, Tx.commits_subtract_unsigned, Tx.commits_emit] at hc
  obtain ⟨_, _, _, _, _, _, position, _, ⟨hpos, rfl⟩, normalized, _, ⟨rfl, rfl⟩, _, _, ⟨hneg, rfl⟩,
    ceiling, _, ⟨rfl, rfl⟩, _, _, ⟨hlt, rfl⟩, residue, _, ⟨hle, rfl, rfl⟩, hc⟩ := hc
  have hres : position.correction.magnitude - position.claimed * MAGNITUDE < MAGNITUDE := by omega
  rcases hc with ⟨_, correction, _, ⟨rfl, rfl⟩, aggregate, _, ⟨rfl, rfl⟩, retired, _, ⟨rfl, rfl⟩,
    epoch, _, hrec, _, _, _, rfl, _⟩ | ⟨hz, rfl, _⟩
  · obtain ⟨reserve, rfl⟩ := Tx.recompute_rounding_frame hrec
    refine ⟨_, hres, rfl, ?_⟩
    rw [LpEpoch.position_insert owner rfl, if_pos rfl, Tx.position_of_lookup hpos]
    exact SignedU256.toInt_ofInt _
  · exact ⟨0, MAGNITUDE_pos, rfl, by simp⟩

end Books

section Retirement

variable {e e' : LpEpoch} {w : World} {c : Call} {bs : List (Act Address)}

theorem LpEpoch.retired_payment (e : LpEpoch) (a : Address) :
    (e.payment a).map Act.retired = [] ∨ (e.payment a).map Act.retired = [0] := by
  unfold LpEpoch.payment
  split
  · exact .inl rfl
  · exact .inr rfl

/-- A call retires at most once. -/
theorem LpActs.retired_lt (h : LpActs e w c bs) (hrun : Run MAGNITUDE e.ledger bs e'.ledger) :
    (bs.map Act.retired).sum < MAGNITUDE := by
  have hlt := hrun.retired_sum.2
  have hM := MAGNITUDE_pos
  have hpay : ∀ (f : LpEpoch) (b : Address), ((f.payment b).map Act.retired).sum = 0 := by
    intro f b
    rcases f.retired_payment b with h | h <;> simp [h]
  have hexit : ∀ (f : LpEpoch) (b : Address), (∀ i r, Act.retire i r ∈ f.exit b → r < MAGNITUDE) →
      ((f.exit b).map Act.retired).sum < MAGNITUDE := by
    intro f b hf
    unfold LpEpoch.exit LpEpoch.retirement at hf ⊢
    split_ifs at hf ⊢ with h₁ h₂
    · simpa using hM
    · simpa [Act.retired] using hf b _ (by simp)
    · simpa using hM
  cases h with
  | sell | buy =>
      unfold LpEpoch.routing
      split <;> simpa [Act.retired] using hM
  | add => simp [hpay, Act.retired, hM]
  | remove =>
      simp only [List.map_append, List.sum_append, hpay, List.map_cons, Act.retired, List.map_nil,
        List.sum_cons, List.sum_nil, Nat.zero_add]
      exact hexit _ _ fun i r hm => hlt i r (by simp [hm])
  | transfer =>
      simp only [List.map_append, List.sum_append, hpay, List.map_cons, Act.retired, List.map_nil,
        List.sum_cons, List.sum_nil, Nat.zero_add]
      exact hexit _ _ fun i r hm => hlt i r (by simp [hm])
  | claim => simpa [Act.retired] using hM
  | none _ => simpa using hM

end Retirement

section

variable [NamedAddresses] {arithmetic : Arithmetic} {fee_bps : ℕ} {w : World} {e : LpEpoch} {k : ℕ}

/-- What an owner is owed can be read. -/
theorem Launched.performs_pending_for (h : Launched e w) (a : Address) :
    Tx.Performs (ShortRun fee_bps w) (lp_rewards.pending_for e a) w (e.pending a) w := by
  have hacc := h.deployed.books.accounting
  have hlt := h.deployed.backed.pending_lt hacc a
  refine h.deployed.core.performs (Tx.Commits.executes
    ((Tx.commits_pending_for hacc hlt _).mpr ⟨rfl, rfl⟩) inferInstance) fun hs => ?_
  obtain ⟨n, hn, -, hwithin, hshares⟩ := hs.launched h
  exact Tx.fits_pending_for hacc (hwithin.narrow hn.le hshares) hlt

/-- **The books of the LP epoch.** The stored sums are the sums over the
positions. The vault is the liability, the unallocated rewards and the rounding
reserve, and what was received and not claimed. The magnified books balance.
All pending amounts are defined, on the machine after any short run, and covered
by the liability. Who has no shares is owed nothing, down to the last fraction;
and no exit retires a whole unit. -/
theorem lp_epoch_books (h : Reachable arithmetic fee_bps w) (he : w.lp_epoch k = some e) :
    (e.total_shares = (∑ a ∈ e.positions.keys, (e.position a).shares)
        ∧ e.aggregate_correction.toInt = (∑ a ∈ e.positions.keys, (e.position a).correction.toInt)
        ∧ e.lifetime_claimed = ∑ a ∈ e.positions.keys, (e.position a).claimed)
      ∧ (∃ liability : ℕ, Tx.Commits (lp_rewards.aggregate_liability e) .ideal w liability w
        ∧ w.balance e.reward_vault = liability + e.unallocated_rewards + e.rounding_reserve
        ∧ (∑ a ∈ e.positions.keys, e.pending a) ≤ liability)
      ∧ w.balance e.reward_vault + e.lifetime_claimed = e.lifetime_received
      ∧ (e.total_shares : ℤ) * e.index + e.aggregate_correction.toInt + e.index_remainder
          + e.retired_residue_magnified + MAGNITUDE * e.unallocated_rewards
        = MAGNITUDE * e.lifetime_received
      ∧ (∀ a, Tx.Performs (ShortRun fee_bps w) (lp_rewards.pending_for e a) w (e.pending a) w)
      ∧ (∀ a, (e.position a).shares = 0 →
        (e.position a).correction.toInt = (e.position a).claimed * MAGNITUDE ∧ e.pending a = 0)
      ∧ (∀ a e' w', Tx.Commits (lp_rewards.normalize_zero_position e a) arithmetic w e' w' →
        ∃ r < MAGNITUDE, e'.retired_residue_magnified = e.retired_residue_magnified + r
          ∧ (e'.position a).correction.toInt = (e.position a).correction.toInt - r)
      ∧ ∀ (c : Call) w' e', c.Commits arithmetic w w' → w'.lp_epoch k = some e' →
        e.retired_residue_magnified ≤ e'.retired_residue_magnified
          ∧ e'.retired_residue_magnified < e.retired_residue_magnified + MAGNITUDE := by
  obtain ⟨rfl, hl⟩ := h.of_lp_epoch he
  have hb := hl.deployed.books
  have hacc := hb.accounting
  have hbacked := hl.deployed.backed
  obtain ⟨liability, hliab⟩ := Int.eq_ofNat_of_zero_le hacc.liability_nonneg
  have hpart := hacc.partition
  have hsum := hacc.valid.sum_pending_le_liability MAGNITUDE_pos
  have hvault := hl.deployed.vault
  rw [hliab, ← hb.rounding] at hpart
  rw [hliab] at hsum
  refine ⟨⟨hacc.total, hacc.aggregate_correction, hacc.settled⟩, ⟨liability, ?_, ?_, ?_⟩, ?_,
    hacc.magnified, fun a => ?_, fun a hz => ?_, fun a e' w' hn => ?_, fun c w' e' hc he' => ?_⟩
  · exact (Tx.commits_lp_aggregate_liability hacc liability).mpr ⟨hliab.symm, rfl⟩
  · rw [hb.vault]
    omega
  · exact_mod_cast hsum
  · rw [hb.vault]
    exact hvault
  · exact hl.performs_pending_for a
  · exact ⟨hb.idle a hz, LpEpoch.pending_idle hb hz⟩
  · have hs : Sound arithmetic (lp_rewards.normalize_zero_position e a) := inferInstance
    exact Tx.retirement (hs.commits hn)
  · obtain ⟨e'', ht⟩ := hl.transition (Call.Commits.ideal hc)
    obtain ⟨as, bs, -, hbs, hp⟩ := hl.passage ht
    obtain rfl := (hp.launched.lp_epoch_eq he').2
    have hlt := hbs.retired_lt hp.lp_run
    have hret : e'.retired_residue_magnified
        = e.retired_residue_magnified + (bs.map Act.retired).sum := hp.lp_run.retired_sum.1
    omega

end

open Sample in
theorem lp_epoch_books_traded : ∃ w e, traded = some w ∧ w.lp_epoch 1 = some e
    ∧ w.balance e.reward_vault + e.lifetime_claimed = e.lifetime_received
    ∧ Tx.Commits (lp_rewards.pending_for e (.account 4)) .machine w (e.pending (.account 4)) w := by
  have hsome : (traded.bind fun w => w.lp_epoch 1).isSome = true := by decide +kernel
  obtain ⟨w, hw⟩ := exists_traded
  rw [hw] at hsome
  obtain ⟨e, he⟩ := Option.isSome_iff_exists.mp hsome
  obtain ⟨-, -, hvault, -, hpending, -⟩ := lp_epoch_books (reachable_traded hw) he
  exact ⟨w, e, hw, he, hvault, (hpending _).commits (shortRun_traded hw)⟩

/-! ## Naive iteration over the owners -/

/-- What a swap earns the pool in whole units, which is routed to the owners. -/
def Call.reward (w : World) : Call → ℕ
  | .sell_trfl seller gross _ _ => w.sellRouted seller gross
  | .buy_trfl buyer input _ _ => w.buyRouted buyer input
  | _ => 0

/-- The owner whose last shares a call takes, if it does. -/
def Call.leaver (e : LpEpoch) : Call → Option Address
  | .remove_liquidity a n _ _ _ => if n = (e.position a).shares then some a else none
  | .transfer_lp_shares a _ n => if n = (e.position a).shares then some a else none
  | _ => none

/-- An accumulator for every owner, with the index the rewards have moved. -/
structure NaiveLp where
  index : ℕ
  remainder : ℕ
  accumulator : Address → ℕ

namespace NaiveLp

/-- Before the first reward. -/
def zero : NaiveLp := ⟨0, 0, fun _ => 0⟩

/-- A reward is shared by walking over all owners. -/
def receive (v : NaiveLp) (e : LpEpoch) (reward : ℕ) : NaiveLp :=
  let shares := ∑ a ∈ e.positions.keys, (e.position a).shares
  let increase := (MAGNITUDE * reward + v.remainder) / shares
  { index := v.index + increase
    remainder := (MAGNITUDE * reward + v.remainder) % shares
    accumulator := fun a => v.accumulator a + (e.position a).shares * increase }

/-- Who leaves loses the fraction of a unit. -/
def leave (v : NaiveLp) (a : Address) : NaiveLp :=
  { v with
    accumulator :=
      Function.update v.accumulator a (v.accumulator a - v.accumulator a % MAGNITUDE) }

/-- The naive books after a call that commits from `w` with the epoch `e`. -/
def after (v : NaiveLp) (w : World) (e : LpEpoch) (c : Call) : NaiveLp :=
  let v := if c.reward w = 0 then v else v.receive e (c.reward w)
  match c.leaver e with
  | some a => v.leave a
  | none => v

/-- The naive books are kept beside the contract, from the launch on. -/
def step [NamedAddresses] (arithmetic : Arithmetic) (s : World × NaiveLp) (c : Call) :
    World × NaiveLp :=
  match c.run arithmetic s.1, s.1.lp_epoch 1 with
  | .ok (_, w'), some e => (w', s.2.after s.1 e c)
  | .ok (_, w'), none => (w', s.2)
  | .error _, _ => s

/-- The contract and the naive books after a list of attempts. -/
def run [NamedAddresses] (arithmetic : Arithmetic) (s : World × NaiveLp) (cs : List Call) :
    World × NaiveLp :=
  cs.foldl (step arithmetic) s

end NaiveLp

/-- The naive books tell what the epoch's index and corrections encode. -/
structure EncodesLp (e : LpEpoch) (v : NaiveLp) : Prop where
  index : e.index = v.index
  remainder : e.index_remainder = v.remainder
  accrued : ∀ a, e.ledger.accrued a = v.accumulator a

namespace EncodesLp

variable {e e' : LpEpoch} {v : NaiveLp} {bs : List (Act Address)}

/-- Where nothing is received, accumulators only lose what is retired. -/
theorem still (h : EncodesLp e v) (hrun : Run MAGNITUDE e.ledger bs e'.ledger)
    (hbs : ∀ x ∈ bs, (∀ n, x ≠ .receive n) ∧ ∀ i r, x ≠ .retire i r) : EncodesLp e' v := by
  obtain ⟨hi, hr, -, -⟩ := hrun.scalars_eq fun x hx => (hbs x hx).1
  exact ⟨hi.trans h.index, hr.trans h.remainder, fun a =>
    (hrun.accrued_eq a fun x hx => ⟨(hbs x hx).1, (hbs x hx).2 a⟩).trans (h.accrued a)⟩

theorem receive {reward : ℕ} (h : EncodesLp e v)
    (hrun : Run MAGNITUDE e.ledger [.receive reward] e'.ledger) (ht : e.ledger.total ≠ 0) :
    EncodesLp e' (v.receive e reward) := by
  obtain ⟨hi, hr, hacc⟩ := hrun.receive_still ht (by simp)
  have hinc : e.ledger.increment MAGNITUDE reward
      = (MAGNITUDE * reward + v.remainder) / ∑ a ∈ e.positions.keys, (e.position a).shares := by
    rw [Ledger.increment, e.ledger_remainder, h.remainder]
    rfl
  refine ⟨?_, ?_, fun a => ?_⟩
  · change e'.index = _ at hi
    rw [hi, hinc, e.ledger_index, h.index]
    rfl
  · change e'.index_remainder = _ at hr
    rw [hr, e.ledger_remainder, h.remainder]
    rfl
  · rw [hacc, hinc, h.accrued, e.ledger_shares, NaiveLp.receive]
    push_cast
    rfl

/-- An exit leaves whole units only. -/
theorem leave {a : Address} {r : ℕ} (h : EncodesLp e v)
    (hi : e'.index = e.index) (hr : e'.index_remainder = e.index_remainder)
    (ha : e'.ledger.accrued a = e.ledger.accrued a - r) (hlt : r < MAGNITUDE)
    (hwhole : ∃ n : ℕ, e'.ledger.accrued a = n * MAGNITUDE)
    (hb : ∀ b, b ≠ a → e'.ledger.accrued b = e.ledger.accrued b) :
    EncodesLp e' (v.leave a) := by
  refine ⟨hi.trans h.index, hr.trans h.remainder, fun b => ?_⟩
  by_cases hab : b = a
  · subst hab
    obtain ⟨n, hn⟩ := hwhole
    have hv := h.accrued b
    have hacc : v.accumulator b = MAGNITUDE * n + r := by
      zify
      rw [← hv]
      linarith
    show _ = ((Function.update v.accumulator b _ b : ℕ) : ℤ)
    rw [Function.update_self, hacc, Nat.mul_add_mod, Nat.mod_eq_of_lt hlt, Nat.add_sub_cancel, hn]
    push_cast
    ring
  · show _ = ((Function.update v.accumulator a _ b : ℕ) : ℤ)
    rw [hb b hab, Function.update_of_ne hab, h.accrued]

/-- An entry that may end in the exit of `a`. -/
theorem exit {a : Address} {f : LpEpoch} {pre : List (Act Address)} (h : EncodesLp e v)
    (hb : Books e') (hrun : Run MAGNITUDE e.ledger (pre ++ f.exit a) e'.ledger)
    (hpre : ∀ x ∈ pre, (∀ n, x ≠ .receive n) ∧ ∀ i r, x ≠ .retire i r)
    (hf : (f.position a).shares = (e'.position a).shares) :
    EncodesLp e' (if (e'.position a).shares = 0 then v.leave a else v) := by
  by_cases hz : (e'.position a).shares = 0
  · rw [if_pos hz]
    obtain ⟨r, hexit⟩ : ∃ r, f.exit a = [] ∧ r = 0 ∨ f.exit a = [.retire a r] := by
      rw [LpEpoch.exit, if_pos (hf.trans hz), LpEpoch.retirement]
      split
      · exact ⟨0, .inl ⟨rfl, rfl⟩⟩
      · exact ⟨_, .inr rfl⟩
    have hnorec : ∀ x ∈ pre ++ f.exit a, ∀ n, x ≠ .receive n := by
      intro x hx n
      rcases List.mem_append.mp hx with hx | hx
      · exact (hpre x hx).1 n
      · rcases hexit with ⟨he, -⟩ | he
        · simp [he] at hx
        · rw [he, List.mem_singleton] at hx
          simp [hx]
    have hsum : ∀ b, ((pre ++ f.exit a).map (Act.retiredOf b)).sum = if b = a then r else 0 := by
      intro b
      have hzero : (pre.map (Act.retiredOf b)).sum = 0 := by
        refine List.sum_eq_zero fun x hx => ?_
        obtain ⟨y, hy, rfl⟩ := List.mem_map.mp hx
        cases y with
        | retire i r => exact absurd rfl ((hpre _ hy).2 i r)
        | _ => rfl
      rw [List.map_append, List.sum_append, hzero]
      rcases hexit with ⟨he, rfl⟩ | he
      · simp [he]
      · simp [he, Act.retiredOf]
    have hlt : r < MAGNITUDE := by
      rcases hexit with ⟨-, rfl⟩ | he
      · exact MAGNITUDE_pos
      · exact hrun.retired_sum.2 a r (by simp [he])
    obtain ⟨hi, hr, -, -⟩ := hrun.scalars_eq hnorec
    refine h.leave (r := r) hi hr ?_ hlt ⟨(e'.position a).claimed, ?_⟩ fun b hba => ?_
    · rw [hrun.accrued_sum a hnorec, hsum, if_pos rfl]
    · rw [e'.ledger_accrued, hz, hb.idle a hz]
      simp
    · rw [hrun.accrued_sum b hnorec, hsum, if_neg hba]
      simp
  · rw [if_neg hz]
    have hexit : f.exit a = [] := by rw [LpEpoch.exit, if_neg (by rw [hf]; exact hz)]
    rw [hexit, List.append_nil] at hrun
    exact h.still hrun hpre

end EncodesLp

theorem LpEpoch.still_payment (e : LpEpoch) (a : Address) :
    ∀ x ∈ e.payment a, (∀ n, x ≠ Act.receive n) ∧ ∀ i r, x ≠ Act.retire i r := by
  intro x hx
  unfold LpEpoch.payment at hx
  split at hx
  · simp at hx
  · rw [List.mem_singleton.mp hx]
    simp

section FairStep

variable {e e' : LpEpoch} {w w' : World} {v : NaiveLp} {c : Call}

theorem NaiveLp.after_leave (e' : LpEpoch) {a : Address} {n : ℕ} (hr : c.reward w = 0)
    (hc : c.leaver e = if n = (e.position a).shares then some a else none)
    (hn : n ≤ (e.position a).shares)
    (hs : (e'.position a).shares = (e.position a).shares - n) :
    v.after w e c = if (e'.position a).shares = 0 then v.leave a else v := by
  unfold NaiveLp.after
  rw [hr, if_pos rfl, hc, hs]
  by_cases h : n = (e.position a).shares
  · rw [if_pos h, if_pos (by omega)]
  · rw [if_neg h, if_neg (by omega)]

theorem NaiveLp.after_of_not_epoch (hc : c.of_epoch = false) : v.after w e c = v := by
  cases c <;> first | rfl | cases hc

variable [NamedAddresses]

/-- **One step of the simulation.** -/
theorem EncodesLp.transition (hl : Launched e w) (h : EncodesLp e v)
    (ht : Transition e w c e' w') : EncodesLp e' (v.after w e c) := by
  obtain ⟨as, bs, -, hbs, hp⟩ := hl.passage ht
  have hrun := hp.lp_run
  have hbooks := hp.launched.deployed.books
  have hroute : ∀ n, Run MAGNITUDE e.ledger (LpEpoch.routing n) e'.ledger → e.ledger.total ≠ 0 →
      EncodesLp e' (if n = 0 then v else v.receive e n) := by
    intro n hrun ht
    unfold LpEpoch.routing at hrun
    by_cases hn : n = 0
    · rw [if_pos hn] at hrun ⊢
      exact h.still hrun (by simp)
    · rw [if_neg hn] at hrun ⊢
      exact h.receive hrun ht
  have htotal : Live e w → e.ledger.total ≠ 0 := fun hlive => by
    rw [← hl.deployed.books.accounting.total]
    exact hlive.shares_pos.ne'
  -- Payments and changes of shares leave every accumulator; only a receipt or an exit moves one.
  have hstill : ∀ (x y : Address) (mid : List (Act Address)),
      (∀ z ∈ mid, (∀ n, z ≠ .receive n) ∧ ∀ i r, z ≠ .retire i r) →
      ∀ z ∈ (e.payment x ++ (e.rewarded x).payment y) ++ mid,
        (∀ n, z ≠ .receive n) ∧ ∀ i r, z ≠ .retire i r := by
    intro x y mid hmid z hz
    rcases List.mem_append.mp hz with hz | hz
    · rcases List.mem_append.mp hz with hz | hz
      · exact e.still_payment x z hz
      · exact (e.rewarded x).still_payment y z hz
    · exact hmid z hz
  cases hbs with
  | sell =>
      cases ht with
      | sell hs => exact hroute _ hrun (htotal hs.live)
  | buy =>
      cases ht with
      | buy hs => exact hroute _ hrun (htotal hs.live)
  | @add a max_rfl max_usd limit deadline n =>
      refine h.still hrun fun x hx => ?_
      rcases List.mem_append.mp hx with hx | hx
      · exact e.still_payment a x hx
      · rcases List.mem_cons.mp hx with rfl | hx
        · simp
        · simp [List.mem_singleton.mp hx]
  | @remove a n min_rfl min_usd deadline =>
      have hown : n ≤ (e.position a).shares := by
        cases ht with
        | remove hs _ => exact hs.owned
        | remove_all hs _ => exact hs.owned
      have hpos : ∀ b, (e'.position b).shares
          = (((e.rewarded a).withdrawn a n).position b).shares := by
        cases ht with
        | remove hs _ => exact fun b => rfl
        | remove_all hs _ => exact fun b => rfl
      rw [← List.append_assoc] at hrun
      have hexit := h.exit (a := a) hbooks hrun (fun x hx => ?_) ?_
      · rwa [NaiveLp.after_leave e' rfl rfl hown ?_]
        rw [hpos, LpEpoch.shares_withdrawn, if_pos rfl, LpEpoch.shares_rewarded]
      · rcases List.mem_append.mp hx with hx | hx
        · exact e.still_payment a x hx
        · rcases List.mem_cons.mp hx with rfl | hx
          · simp
          · simp [List.mem_singleton.mp hx]
      · rw [hpos]
        exact LpEpoch.shares_exited.symm
  | @transfer a b n =>
      cases ht with
      | transfer_shares hs =>
          rw [← List.append_assoc] at hrun
          have hexit := h.exit (a := a) hbooks hrun (hstill a b _ (by simp))
            LpEpoch.shares_exited.symm
          rwa [NaiveLp.after_leave (((e.rewarded a).rewarded b).transferred a b n) rfl rfl
            hs.owned ?_]
          rw [LpEpoch.shares_transferred hs.distinct, if_pos rfl, LpEpoch.shares_rewarded,
            LpEpoch.shares_rewarded]
  | claim => exact h.still hrun (by simp)
  | none hc =>
      rw [NaiveLp.after_of_not_epoch hc]
      exact h.still hrun (by simp)

omit [NamedAddresses] in
/-- What is pending and what has been claimed are the whole units of the accumulator. -/
theorem EncodesLp.pending (h : EncodesLp e v) (hb : Books e) (a : Address) :
    (e.position a).claimed + e.pending a = v.accumulator a / MAGNITUDE := by
  have hp := hb.accounting.valid.pending_eq MAGNITUDE_pos a
  rw [h.accrued a, e.ledger_claimed] at hp
  change (e.pending a : ℤ) = _ at hp
  have : ((v.accumulator a / MAGNITUDE : ℕ) : ℤ) = (v.accumulator a : ℤ) / MAGNITUDE :=
    Int.natCast_ediv _ _
  omega

omit [NamedAddresses] in
/-- Leaving costs no whole unit. -/
theorem NaiveLp.whole_leave (v : NaiveLp) (a b : Address) :
    (v.leave a).accumulator b / MAGNITUDE = v.accumulator b / MAGNITUDE := by
  by_cases hab : b = a
  · subst hab
    show Function.update v.accumulator b _ b / MAGNITUDE = _
    rw [Function.update_self]
    have hdm := Nat.div_add_mod (v.accumulator b) MAGNITUDE
    have heq : v.accumulator b - v.accumulator b % MAGNITUDE
        = MAGNITUDE * (v.accumulator b / MAGNITUDE) := by omega
    rw [heq, Nat.mul_div_cancel_left _ MAGNITUDE_pos]
  · show Function.update v.accumulator a _ b / MAGNITUDE = _
    rw [Function.update_of_ne hab]

omit [NamedAddresses] in
theorem NaiveLp.whole_after (hc : c.swap = false) (a : Address) :
    (v.after w e c).accumulator a / MAGNITUDE = v.accumulator a / MAGNITUDE := by
  have hr : c.reward w = 0 := by
    cases c <;> first | rfl | cases hc
  unfold NaiveLp.after
  rw [hr, if_pos rfl]
  cases c.leaver e with
  | some b => exact v.whole_leave b a
  | none => rfl

/-- What a swap earns the pool is received by the epoch within the swap. -/
theorem Launched.swap_routed (hl : Launched e w) (ht : Transition e w c e' w')
    (hc : c.swap = true) :
    (∀ a, (e'.position a).shares = (e.position a).shares)
      ∧ e'.lifetime_received = e.lifetime_received + c.reward w
      ∧ w'.custody.pool_position.claimed = w.custody.pool_position.claimed + c.reward w
      ∧ Live e w := by
  obtain ⟨as, bs, has, -, hp⟩ := hl.passage ht
  have hchk : ∀ n, (∀ a, ((e.checkpointed n).position a).shares = (e.position a).shares)
      ∧ (e.checkpointed n).lifetime_received = e.lifetime_received + n := by
    intro n
    unfold LpEpoch.checkpointed
    split
    · next hn => exact ⟨fun _ => rfl, by rw [hn, Nat.add_zero]⟩
    · exact ⟨fun _ => rfl, rfl⟩
  -- What the pool has claimed rises by what the run pays it, which is what is routed.
  have hclaimed := hp.core_run.claimed_sum none
  have hacts : ∀ {x y : Option Address} {n fee routed : ℕ}, SwapActs x y n fee routed as →
      (as.map (Act.paidTo none)).sum = routed := by
    rintro x y n fee routed ⟨pre, mid, hpre, hmid, rfl⟩
    have hquiet : ∀ zs : List (Act (Option Address)), (∀ z ∈ zs, Quiet z) →
        (zs.map (Act.paidTo none)).sum = 0 := by
      intro zs hzs
      refine List.sum_eq_zero fun z hz => ?_
      obtain ⟨u, hu, rfl⟩ := List.mem_map.mp hz
      have hq := hzs u hu
      rcases u with _ | _ | _ | ⟨_ | b, _⟩ | _ | _ <;> first | rfl | exact hq.elim
    have hrec : ((Core.receipts fee).map (Act.paidTo (none : Option Address))).sum = 0 := by
      unfold Core.receipts
      split <;> rfl
    have hrt : ((World.routing routed).map (Act.paidTo none)).sum = routed := by
      unfold World.routing
      split
      · next hn => rw [hn]; rfl
      · simp [Act.paidTo]
    simp only [List.map_append, List.map_cons, List.sum_append, List.sum_cons, hquiet pre hpre,
      hquiet mid hmid, hrec, hrt, Act.paidTo, List.map_nil, List.sum_nil, Nat.zero_add]
  cases ht with
  | sell hs =>
      cases has with
      | sell h =>
          rw [hacts h] at hclaimed
          exact ⟨(hchk _).1, (hchk _).2, hclaimed, hs.live⟩
      | quiet hq _ => cases hq
  | buy hs =>
      cases has with
      | buy h =>
          rw [hacts h] at hclaimed
          exact ⟨(hchk _).1, (hchk _).2, hclaimed, hs.live⟩
      | quiet hq _ => cases hq
  | _ => cases hc

/-- The naive books beside a state: there are none before the launch. -/
structure SimulatesLp (w : World) (v : NaiveLp) : Prop where
  before : w.lp_epoch 1 = none → v = .zero
  encodes : ∀ e, w.lp_epoch 1 = some e → EncodesLp e v

variable {arithmetic : Arithmetic} {fee_bps : ℕ} {admin : Address} {w₀ : World}

theorem Configuring.no_epoch (h : Configuring fee_bps w) : w.lp_epoch 1 = none := by
  obtain ⟨faucet, bound, now, rfl⟩ := h
  rfl

theorem Configuring.simulatesLp (h : Configuring fee_bps w) : SimulatesLp w .zero :=
  ⟨fun _ => rfl, fun e he => by rw [h.no_epoch] at he; cases he⟩

/-- The first owner starts with nothing earned. -/
theorem encodesLp_launchEpoch : EncodesLp World.launchEpoch .zero := by
  refine ⟨rfl, rfl, fun a => ?_⟩
  rw [LpEpoch.ledger_accrued, position_launchEpoch]
  split <;> simp [World.launchEpoch, lp_rewards.new_epoch, NaiveLp.zero]

theorem SimulatesLp.step (hw : Reachable arithmetic fee_bps w) (h : SimulatesLp w v) (c : Call) :
    (NaiveLp.step arithmetic (w, v) c).1 = c.attempt arithmetic w
      ∧ SimulatesLp (NaiveLp.step arithmetic (w, v) c).1 (NaiveLp.step arithmetic (w, v) c).2 := by
  unfold NaiveLp.step Call.attempt
  cases hr : c.run arithmetic w with
  | error x => exact ⟨rfl, h⟩
  | ok p =>
      have hc : c.Commits arithmetic w p.2 := hr
      obtain ⟨hfee, hp⟩ := hw.phase
      -- Before the launch there is no epoch to encode, and the launch opens the one encoded by
      -- zero.
      cases hp with
      | configuring hconf =>
          obtain rfl := h.before hconf.no_epoch
          simp only [hconf.no_epoch]
          refine ⟨trivial, ?_⟩
          obtain hconf' | ⟨-, hboot, -, now, hp⟩ := hconf.call hfee (Call.Commits.ideal hc)
          · exact hconf'.simulatesLp
          · have hlaunched := launched_launched fee_bps now [tokenCreated fee_bps] hboot hfee
            rw [hp]
            refine ⟨fun _ => rfl, fun e he => ?_⟩
            obtain ⟨-, rfl⟩ := hlaunched.lp_epoch_eq he
            exact encodesLp_launchEpoch
      | @launched e hl _ =>
          obtain ⟨e', ht⟩ := hl.transition (Call.Commits.ideal hc)
          obtain ⟨_, _, -, -, hp⟩ := hl.passage ht
          simp only [hl.lp_epoch]
          refine ⟨trivial, fun hnone => ?_, fun e'' he => ?_⟩
          · rw [hp.launched.lp_epoch] at hnone
            cases hnone
          · obtain ⟨-, rfl⟩ := hp.launched.lp_epoch_eq he
            exact (h.encodes e hl.lp_epoch).transition hl ht

theorem SimulatesLp.run (hw : Reachable arithmetic fee_bps w) (h : SimulatesLp w v)
    (cs : List Call) :
    (NaiveLp.run arithmetic (w, v) cs).1 = Call.attempts arithmetic w cs
      ∧ SimulatesLp (NaiveLp.run arithmetic (w, v) cs).1 (NaiveLp.run arithmetic (w, v) cs).2 := by
  induction cs generalizing w v with
  | nil => exact ⟨rfl, h⟩
  | cons c cs ih =>
      obtain ⟨⟨w', v'⟩, hstep⟩ : ∃ s, NaiveLp.step arithmetic (w, v) c = s := ⟨_, rfl⟩
      have hs := h.step hw c
      rw [hstep] at hs
      obtain ⟨hatt, h'⟩ := hs
      replace hatt : w' = c.attempt arithmetic w := hatt
      have hw' : Reachable arithmetic fee_bps w' := hatt ▸ hw.attempts [c]
      have hrun : NaiveLp.run arithmetic (w, v) (c :: cs) = NaiveLp.run arithmetic (w', v') cs := by
        rw [← hstep]
        rfl
      have hatts : Call.attempts arithmetic w (c :: cs) = Call.attempts arithmetic w' cs := by
        rw [hatt, Call.attempts, List.foldl_cons, Call.attempts]
      rw [hrun, hatts]
      exact ih hw' h'

/-- **LP fairness.** After any list of attempts an owner's `shares * index +
correction` is the accumulator that rewards have raised, each over the shares
then outstanding, and exits have rounded down; what the owner has been paid and
can still claim are its whole units. A call that is not a swap changes that sum
for nobody, and a swap routes all that it earns the pool to the shares that are
outstanding before and after it. -/
theorem lp_fairness
    (hg : Tx.Commits (reflection_token.initialize_token admin fee_bps) arithmetic .unpublished
      () w₀)
    (cs : List Call) : ∃ w v, NaiveLp.run arithmetic (w₀, .zero) cs = (w, v)
      ∧ w = Call.attempts arithmetic w₀ cs
      ∧ ∀ e, w.lp_epoch 1 = some e →
        e.index = v.index ∧ e.index_remainder = v.remainder
        ∧ (∀ a, ((e.position a).shares : ℤ) * e.index + (e.position a).correction.toInt
          = v.accumulator a)
        ∧ (∀ a, Tx.Performs (ShortRun fee_bps w) (lp_rewards.pending_for e a) w (e.pending a) w
          ∧ (e.position a).claimed + e.pending a = v.accumulator a / MAGNITUDE)
        ∧ ∀ (c : Call) w', c.Commits arithmetic w w' → ∃ e', w'.lp_epoch 1 = some e'
          ∧ (c.swap = false → ∀ a, (e'.position a).claimed + e'.pending a
            = (e.position a).claimed + e.pending a)
          ∧ (c.swap = true → (∀ a, (e'.position a).shares = (e.position a).shares)
            ∧ 0 < ∑ a ∈ e.positions.keys, (e.position a).shares
            ∧ e'.lifetime_received = e.lifetime_received + c.reward w
            ∧ w'.custody.pool_position.claimed = w.custody.pool_position.claimed + c.reward w
            ∧ w'.pending none = 0) := by
  have hw₀ : Reachable arithmetic fee_bps w₀ := .genesis hg
  -- The simulation holds of the deployment and is kept by every attempt.
  have hsim : SimulatesLp w₀ .zero := by
    have hs : Sound arithmetic (reflection_token.initialize_token admin fee_bps) := inferInstance
    obtain ⟨-, -, rfl⟩ := (Tx.commits_initialize_token ()).mp (hs.commits hg)
    have hconf : Configuring fee_bps _ := ⟨false, false, 0, rfl⟩
    exact hconf.simulatesLp
  obtain ⟨hatt, h⟩ := hsim.run hw₀ cs
  obtain ⟨⟨w, v⟩, hrun⟩ : ∃ s, NaiveLp.run arithmetic (w₀, .zero) cs = s := ⟨_, rfl⟩
  rw [hrun] at hatt h
  replace hatt : w = Call.attempts arithmetic w₀ cs := hatt
  have hw : Reachable arithmetic fee_bps w := hatt ▸ hw₀.attempts cs
  refine ⟨w, v, hrun, hatt, fun e he => ?_⟩
  obtain ⟨-, hl⟩ := hw.of_lp_epoch he
  have henc := h.encodes e he
  have hb := hl.deployed.books
  refine ⟨henc.index, henc.remainder, fun a => ?_,
    fun a => ⟨hl.performs_pending_for a, henc.pending hb a⟩, fun c w' hc => ?_⟩
  · exact (e.ledger_accrued a).symm.trans (henc.accrued a)
  · obtain ⟨e', ht⟩ := hl.transition (Call.Commits.ideal hc)
    obtain ⟨_, _, -, -, hp⟩ := hl.passage ht
    refine ⟨e', hp.launched.lp_epoch, fun hswap a => ?_, fun hswap => ?_⟩
    · rw [henc.pending hb, (henc.transition hl ht).pending hp.launched.deployed.books,
        NaiveLp.whole_after hswap]
    · obtain ⟨hshares, hrec, hclaimed, hlive⟩ := hl.swap_routed ht hswap
      have hpos := hlive.shares_pos
      rw [hb.accounting.total] at hpos
      exact ⟨hshares, hpos, hrec, hclaimed, hp.launched.settled⟩

/-- **No fee is stranded.** Once launched, nothing is unallocated in the core or
in the epoch, the epoch is healthy and the pool is owed nothing between two
calls; a checkpoint has nothing to do. Every fee is divided over somebody's
shares, and what a swap earns the pool has reached the epoch by its end. -/
theorem nothing_stranded (h : Reachable arithmetic fee_bps w)
    (hl : w.reflection.lifecycle ≠ .CONFIGURING) :
    w.reflection.unallocated_fees = 0
      ∧ Tx.Performs (ShortRun fee_bps w) reflection_token.pool_pending_rewards w 0 w
      ∧ (∃ e, w.lp_epoch 1 = some e ∧ e.unallocated_rewards = 0 ∧ e.quarantined = false)
      ∧ (w.reflection.lifecycle = .LIVE → Tx.Executes pool.checkpoint_lp_rewards w () w
        ∧ ∀ w', Tx.Commits pool.checkpoint_lp_rewards arithmetic w () w' → w' = w)
      ∧ ∀ (c : Call) w', c.Commits arithmetic w w' →
        (∀ r, c.receipt w = some r → 0 < r.total) ∧ w'.pending none = 0
          ∧ (c.swap = true →
            w'.custody.pool_position.claimed = w.custody.pool_position.claimed + c.reward w
            ∧ ∃ e e', w.lp_epoch 1 = some e ∧ w'.lp_epoch 1 = some e'
              ∧ e'.lifetime_received = e.lifetime_received + c.reward w) := by
  obtain ⟨e, hl⟩ := h.launched hl
  have hpool := h.performs_pool_pending_rewards
  rw [hl.settled] at hpool
  refine ⟨hl.deployed.unallocated, hpool,
    ⟨e, hl.lp_epoch, hl.deployed.books.unallocated, hl.deployed.books.healthy⟩,
    fun hlive => ⟨?_, fun w' hc => ?_⟩, fun c w' hc => ?_⟩
  · refine Tx.Commits.executes ((Tx.commits_checkpoint_lp_rewards hl ()).mpr ⟨?_, rfl⟩)
      Call.checkpoint_lp_rewards.sound
    rcases hl.phase with hp | hp
    · exact hp
    · rw [hp.lifecycle] at hlive
      cases hlive
  · exact ((Tx.commits_checkpoint_lp_rewards hl ()).mp
      (Call.checkpoint_lp_rewards.sound.commits hc)).2
  · obtain ⟨e', ht⟩ := hl.transition (Call.Commits.ideal hc)
    obtain ⟨_, _, -, -, hp⟩ := hl.passage ht
    obtain ⟨u, hu⟩ := h.encodes
    refine ⟨(hu.transition hl ht).2, hp.launched.settled, fun hswap => ?_⟩
    obtain ⟨-, hrec, hclaimed, -⟩ := hl.swap_routed ht hswap
    exact ⟨hclaimed, e, e', hl.lp_epoch, hp.launched.lp_epoch, hrec⟩

end FairStep

/-! ### At the sample -/

namespace Sample

theorem lp_fairness_opening : ∃ w₀ w v,
    Tx.Commits (reflection_token.initialize_token (.account 1) 50) .machine .unpublished () w₀
      ∧ NaiveLp.run .machine (w₀, .zero) opening = (w, v)
      ∧ ∀ e, w.lp_epoch 1 = some e → e.index = v.index := by
  obtain ⟨w, hw⟩ := exists_traded
  unfold traded at hw
  cases calls_of_script hw with
  | cons hg hs =>
      obtain ⟨w, v, hrun, -, h⟩ := lp_fairness hg opening
      exact ⟨_, w, v, hg, hrun, fun e he => (h e he).1⟩

theorem nothing_stranded_traded : ∃ w, traded = some w ∧ w.reflection.unallocated_fees = 0 := by
  obtain ⟨w, hw⟩ := exists_traded
  exact ⟨w, hw, (nothing_stranded (reachable_traded hw) (by rw [live_traded hw]; simp)).1⟩

end Sample

end CedraReflect
