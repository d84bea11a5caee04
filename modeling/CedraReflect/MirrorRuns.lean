/-
Runs of the wallets' calls, followed.

A call that commits, and that the indexer can follow, leaves a system that is
steady again and a group that is accepted on any mirror of the system before it
([`Mirrored.call`]). By induction a mirror is carried along a whole run, however
the calls come ([`wallet_calls_followed`]), and the system has one where it is
launched ([`mirrored_opened`]). What the indexer shows of a wallet is then what the
contracts would pay it.
-/
import CedraReflect.GenesisReplay
import CedraReflect.MirrorCalls
import CedraReflect.MirrorImage
import CedraReflect.PagedReplay
import CedraReflect.Quotes
import CedraReflect.ShortRuns

set_option autoImplicit false
set_option linter.constructorNameAsVariable false

namespace CedraReflect

open Dividend (Ledger Valid Weighs)
open reflection_math (MAGNITUDE MAGNITUDE_pos)
open reflection_token (TOTAL_SUPPLY MAX_FEE_BPS is_excluded_store)
open test_faucet (FIXED_TRFL_GRANT FIXED_TUSD_GRANT)
open NamedAddresses (test_assets bootstrap_lp)
open Paging (replay)

/-- The calls of wallets that the indexer follows: it halts where the account that
has no name is registered, and where tUSD reaches an account without a position. -/
def Call.Followable (w : World) : Call → Prop
  | register_wallet owner => owner ≠ .zero
  | transfer _ recipient amount => 0 < amount ∧ recipient ≠ .zero
  | claim .. | claim_all _ | checkpoint_lp_rewards | tick _ => True
  | claim_trfl claimant => claimant ≠ .zero
  | claim_tusd claimant => claimant ∈ w.reflection.positions
  | _ => False

instance (w : World) : (c : Call) → Decidable (c.Followable w)
  | .register_wallet owner => inferInstanceAs (Decidable (owner ≠ .zero))
  | .transfer _ recipient amount => inferInstanceAs (Decidable (0 < amount ∧ recipient ≠ .zero))
  | .claim .. | .claim_all _ | .checkpoint_lp_rewards | .tick _ =>
    inferInstanceAs (Decidable True)
  | .claim_trfl claimant => inferInstanceAs (Decidable (claimant ≠ .zero))
  | .claim_tusd claimant =>
    inferInstanceAs (Decidable (claimant ∈ w.reflection.positions))
  | .initialize_token .. | .initialize_faucet .. | .bind_protocol_exclusions _ | .seal_launch ..
  | .launch .. | .withdraw .. | .deposit .. | .sell_trfl .. | .buy_trfl .. | .add_liquidity ..
  | .remove_liquidity .. | .transfer_lp_shares .. | .claim_lp_rewards .. =>
    inferInstanceAs (Decidable False)

/-! ## What the machine checks of a grant -/

namespace Tx

variable {w w' : World} {a : Address}

/-- Fresh tUSD fits the store that it reaches. -/
theorem cash_of_claim_tusd [NamedAddresses]
    (hc : Commits (test_faucet.claim_tusd a) .machine w () w') :
    w.cash a + FIXED_TUSD_GRANT < 2 ^ 64 := by
  simp only [test_faucet.claim_tusd, test_faucet.borrow_faucet, test_faucet.write_faucet,
    mock_usd.mint_from_faucet, primary_fungible_store.mint, fungible_asset.mint,
    fungible_asset.deposit_sanity_check, fungible_asset.deposit_with_ref, fungible_asset.assert_ref,
    checked, commits_assert_open, commits_assert_available, commits_bind, commits_pure,
    commits_require, commits_gets, commits_expect, commits_update, commits_balance, commits_asks,
    and_assoc, exists_and_left, exists_eq_left, exists_const] at hc
  obtain ⟨-, _, -, -, -, -, -, -, -, -, hfits, -⟩ := hc
  simp only [Arithmetic.fits, decide_eq_true_eq] at hfits
  exact hfits

end Tx

/-- What moves the core alone leaves a steady system steady. -/
theorem Steady.moved {e : LpEpoch} {w w' : World} (hs : Steady e w) (hl : Launched e w')
    (hm : Moved w w') (hcount : w'.wallets.card < 2 ^ 64) : Steady e w' where
  launched := hl
  core := hs.core.moved hm
  epoch := hs.epoch
  usd := World.cash_eq hm.frame ▸ hs.usd
  count := hcount

/-! ## Where tUSD does not move -/

namespace indexer

/-! ## One call -/

section Step

variable {prior : ProtocolProjection} {group : List ProtocolEvent} {txHash : String} {e : LpEpoch}
  {w w' : World} {a b : Address} {n : ℕ} {emitted : List Event} {c : Call}

/-- At most one account is registered. -/
theorem card_ensured (w : World) (a : Address) :
    (w.ensured a).wallets.card ≤ w.wallets.card + 1 := by
  unfold World.ensured
  split
  · exact Nat.le_succ _
  · rw [World.wallets_enrolled]
    exact Finset.card_insert_le _ _

/-- A claim, whatever part of the reward it is for. -/
theorem Mirrored.claimed (h : Mirrored e w prior) (hs : Steady e w)
    (hl : Launched e (w.materialized a n true .MANUAL)) (hn0 : 0 < n) (hn : n ≤ w.pending (some a))
    (hevents : (w.materialized a n true .MANUAL).events = w.events ++ emitted)
    (ht : Transcribes prior txHash emitted group) :
    Followed prior group e (w.materialized a n true .MANUAL)
      ∧ Steady e (w.materialized a n true .MANUAL)
      ∧ (w.materialized a n true .MANUAL).wallets.card ≤ w.wallets.card + 1 := by
  have hcore := hs.launched.deployed.core
  have ha : a ∈ w.reflection.positions := by
    by_contra hne
    rw [hcore.membership.pending_of_notMem hne] at hn
    omega
  have hsame : emitted = w.claiming a n :=
    List.append_cancel_left (hevents.symm.trans (w.events_materialized .MANUAL true))
  subst hsame
  have hwallets : (w.materialized a n true .MANUAL).wallets = w.wallets := by
    rw [World.wallets, World.custody_materialized, ← World.wallets]
  have hs' : Steady e (w.materialized a n true .MANUAL) :=
    hs.moved hl (hcore.moved_materialized ha hn true .MANUAL) (hwallets ▸ hs.count)
  exact ⟨h.claim hs hs' hn0 hn ht, hs', hwallets ▸ Nat.le_succ _⟩

/-- A grant of tRFL. -/
theorem Mirrored.faucetGranted {operator : Address} (h : Mirrored e w prior) (hs : Steady e w)
    (hl : Launched e (w.granted a n operator)) (hn0 : 0 < n)
    (hx : is_excluded_store w.reflection (.primary .trfl a) = false) (ha : a ≠ .zero)
    (hn : n ≤ w.balance .distribution_vault) (hcount : w.wallets.card + 1 < 2 ^ 64)
    (hevents : (w.granted a n operator).events = w.events ++ emitted)
    (ht : Transcribes prior txHash emitted group) :
    Followed prior group e (w.granted a n operator) ∧ Steady e (w.granted a n operator)
      ∧ (w.granted a n operator).wallets.card ≤ w.wallets.card + 1 := by
  have hcore := hs.launched.deployed.core
  have hsame : emitted = w.grant a n operator :=
    List.append_cancel_left (hevents.symm.trans (hcore.events_granted hn0 operator))
  subst hsame
  have hwallets : (w.granted a n operator).wallets = (w.ensured a).wallets :=
    w.wallets_granted operator
  have hs' : Steady e (w.granted a n operator) :=
    hs.moved hl (hcore.moved_granted hx hn operator)
      (hwallets ▸ (card_ensured w a).trans_lt hcount)
  exact ⟨h.claim_trfl hs hs' hn0 hx ha hn ht, hs', hwallets ▸ card_ensured w a⟩

/-- A grant of tUSD. -/
theorem Mirrored.faucetMinted {operator : Address} (h : Mirrored e w prior) (hs : Steady e w)
    (hl : Launched e (w.usdMinted a n operator)) (hn0 : 0 < n) (hfits : w.cash a + n < 2 ^ 64)
    (ha : a ∈ w.reflection.positions)
    (hevents : (w.usdMinted a n operator).events = w.events ++ emitted)
    (ht : Transcribes prior txHash emitted group) :
    Followed prior group e (w.usdMinted a n operator) ∧ Steady e (w.usdMinted a n operator)
      ∧ (w.usdMinted a n operator).wallets.card ≤ w.wallets.card + 1 := by
  have hsame : emitted = [.MockUsdMinted a n operator] := List.append_cancel_left hevents.symm
  subst hsame
  have hs' : Steady e (w.usdMinted a n operator) := by
    refine ⟨hl, { hs.core with }, hs.epoch, fun b => ?_, hs.count⟩
    have hcash : (w.usdMinted a n operator).cash = Function.update w.cash a (w.cash a + n) :=
      w.cash_write _
    rw [hcash]
    by_cases hb : b = a
    · rw [hb, Function.update_self]
      exact hfits
    · rw [Function.update_of_ne hb]
      exact hs.usd b
  exact ⟨h.claim_tusd hs hs' hn0 (by omega) ha ht, hs', Nat.le_succ _⟩

/-- **The step lemma of the mirror.** -/
theorem Mirrored.call [NamedAddresses] (h : Mirrored e w prior) (hs : Steady e w)
    (hc : c.Commits .machine w w') (hf : c.Followable w) (hcount : w.wallets.card + 1 < 2 ^ 64)
    (hevents : w'.events = w.events ++ emitted) (ht : Transcribes prior txHash emitted group) :
    Followed prior group e w' ∧ Steady e w' ∧ w'.wallets.card ≤ w.wallets.card + 1 := by
  have hcore := hs.launched.deployed.core
  have hensured : ∀ a, (w.ensured a).wallets.card < 2 ^ 64 := fun a =>
    (card_ensured w a).trans_lt hcount
  obtain ⟨e', htransition⟩ := hs.launched.transition hc.ideal
  obtain ⟨_, _, -, -, hpassage⟩ := hs.launched.passage htransition
  have hlaunched := hpassage.launched
  cases htransition with
  | @register_wallet a hx =>
      have hsame : emitted = w.enrollment a :=
        List.append_cancel_left (hevents.symm.trans (w.events_ensured a hcore.membership))
      subst hsame
      have hs' : Steady e (w.ensured a) :=
        hs.moved hlaunched (hcore.moved_ensured hx) (hensured a)
      exact ⟨h.register_wallet hs hs' hx hf ht, hs', card_ensured w a⟩
  | @transfer a b n hsends hx =>
      obtain ⟨hn0, hb⟩ := hf
      obtain ⟨ha, hn⟩ := hsends.of_pos hn0
      have hsame : emitted = w.transferral a b n :=
        List.append_cancel_left (hevents.symm.trans (hcore.events_walletTransferred ha hn0 hn))
      subst hsame
      have hcard : (w.walletTransferred a b n).wallets.card ≤ w.wallets.card + 1 := by
        rw [World.wallets_walletTransferred ha]
        exact w.wallets_sent (a := a) (n := n) ▸ card_ensured (w.sent a n) b
      have hs' : Steady e (w.walletTransferred a b n) :=
        hs.moved hlaunched (hcore.moved_walletTransferred ha hn hx) (hcard.trans_lt hcount)
      exact ⟨h.transfer hs hs' hsends hn0 hx hb ht, hs', hcard⟩
  | @claim a n ha hn0 hn => exact h.claimed hs hlaunched hn0 hn hevents ht
  | @claim_all a ha hn0 => exact h.claimed hs hlaunched hn0 le_rfl hevents ht
  | @claim_trfl a f hfaucet hlive hx hn =>
      have hclock : Passage [] [] e w e (w.trflClaimed a f) := hs.launched.trflClaimed f
      have hv : Steady e (w.trflClaimed a f) :=
        ⟨hclock.launched, { hs.core with }, hs.epoch, hs.usd, hs.count⟩
      have hm : Mirrored e (w.trflClaimed a f) prior := h.congr rfl rfl rfl
      exact hm.faucetGranted hv hlaunched (by decide) hx hf hn hcount hevents ht
  | @claim_tusd a f hfaucet hlive =>
      have hclock : Passage [] [] e w e (w.tusdClaimed a f) := hs.launched.tusdClaimed f
      have hv : Steady e (w.tusdClaimed a f) :=
        ⟨hclock.launched, { hs.core with }, hs.epoch, hs.usd, hs.count⟩
      have hm : Mirrored e (w.tusdClaimed a f) prior := h.congr rfl rfl rfl
      have hfits : w.cash a + FIXED_TUSD_GRANT < 2 ^ 64 := Tx.cash_of_claim_tusd hc
      exact hm.faucetMinted hv hlaunched (by decide) hfits hf hevents ht
  | checkpoint hl =>
      have hsame : emitted = [] :=
        List.append_cancel_left (hevents.symm.trans (List.append_nil _).symm)
      subst hsame
      exact ⟨h.nothing ht, hs, Nat.le_succ _⟩
  | @tick seconds =>
      have hsame : emitted = [] :=
        List.append_cancel_left (hevents.symm.trans (List.append_nil _).symm)
      subst hsame
      have hs' : Steady e (w.ticked seconds) :=
        ⟨hlaunched, { hs.core with }, hs.epoch, hs.usd, hs.count⟩
      have hticked : Mirrored e (w.ticked seconds) prior := h.congr rfl rfl rfl
      exact ⟨hticked.nothing ht, hs', Nat.le_succ _⟩
  | _ => exact hf.elim

end Step

/-! ## What the node returns -/

/-- The bodies of a group are those that the normalizer makes of the envelopes in
which the node returns what the transaction emitted. -/
theorem bodies_of_normalize [NamedAddresses] {normalizer : CedraEventNormalizer}
    (hn : Configured normalizer) {txHash : String} {envelopes : List CedraChainEventEnvelope}
    {emitted : List Event} (hfeed : List.Forall₂ Carries envelopes emitted)
    (hreadable : ∀ event ∈ emitted, Readable event)
    (htx : ∀ envelope ∈ envelopes, envelope.txHash = txHash) {results : List (Option ProtocolEvent)}
    (h : envelopes.mapM normalizer.normalize = .ok results) :
    results.reduceOption.map (fun event => event.body)
      = emitted.filterMap (normalized txHash) := by
  induction hfeed generalizing results with
  | nil =>
      rw [List.mapM_nil] at h
      cases h
      rfl
  | @cons envelope event envelopes emitted hcarries _ ih =>
      obtain ⟨htag, hdata⟩ := hcarries
      rw [List.mapM_cons, bind_eq_ok] at h
      obtain ⟨result, hresult, h⟩ := h
      rw [bind_eq_ok] at h
      obtain ⟨rest, hrest, h⟩ := h
      cases h
      have hlater := ih (fun event hevent => hreadable event (List.mem_cons_of_mem _ hevent))
        (fun envelope henvelope => htx envelope (List.mem_cons_of_mem _ henvelope)) hrest
      rw [CedraEventNormalizer.normalize, hdata, bind_eq_ok] at hresult
      obtain ⟨data, hrecord, hresult⟩ := hresult
      cases hrecord
      rw [bind_eq_ok] at hresult
      obtain ⟨base, -, hresult⟩ := hresult
      rw [bind_eq_ok] at hresult
      obtain ⟨body, hbody, hresult⟩ := hresult
      cases hresult
      rw [htag, htx envelope List.mem_cons_self] at hbody
      have hsame : body = normalized txHash event :=
        body_eq_normalized hn (hreadable event List.mem_cons_self) hbody
      rw [List.filterMap_cons, ← hsame]
      cases body with
      | none => exact hlater
      | some body =>
          show body :: (rest.reduceOption.map fun event => event.body) = _
          rw [hlater]

/-! ## A run -/

/-- A run of calls that the indexer follows, with the group that was made of what
each of them emitted. -/
inductive Journals [NamedAddresses] : World → List (List ProtocolEvent) → World → Prop
  | nil (w : World) : Journals w [] w
  | cons {c : Call} {w w' w'' : World} {emitted : List Event} {txHash : String}
      {group : List ProtocolEvent} {groups : List (List ProtocolEvent)}
      (commits : c.Commits .machine w w') (followable : c.Followable w)
      (events : w'.events = w.events ++ emitted)
      (transcribes : Transcribes createEmptyProjection txHash emitted group)
      (run : Journals w' groups w'') : Journals w (group :: groups) w''

/-- An identifier that no event of a group has is remembered from it by nobody. -/
theorem get?_remember {p : ProtocolProjection} {group : List ProtocolEvent} {id : String}
    (h : p.seenEventIds.get? id = none) (hid : id ∉ group.map fun event => event.id) :
    (remember p group).seenEventIds.get? id = none := by
  have hfold : ∀ seen : OrderedMap String EventCursor, seen.get? id = none →
      (group.foldl (fun seen event => seen.set event.id event.cursor) seen).get? id = none := by
    clear h
    induction group with
    | nil => exact fun seen h => h
    | cons event group ih =>
        rw [List.map_cons, List.mem_cons, not_or] at hid
        intro seen h
        refine ih hid.2 _ ?_
        rw [OrderedMap.get?_set, if_neg hid.1, h]
  exact hfold _ h

/-- What the indexer shows of a wallet is what the contracts have of it. -/
theorem Mirrored.wallet {e : LpEpoch} {w : World} {p : ProtocolProjection} (h : Mirrored e w p)
    (hs : Steady e w) (a : Address) :
    (positionOrEmpty a p.positions).rawTrfl = w.raw a
      ∧ (positionOrEmpty a p.positions).rawTusd = w.cash a
      ∧ walletPending (positionOrEmpty a p.positions) p.currentIndex
        = .ok (w.pending (some a) : ℤ) := by
  obtain ⟨claims, -, hm⟩ := h.mirrors
  rw [hm.follows.held, hm.follows.currentIndex]
  exact ⟨rfl, rfl, Follows.walletPending (hs.launched.deployed.core.fitsMove hs.core) a⟩

/-- **The run lemma of the mirror.** -/
theorem Mirrored.run [NamedAddresses] {e : LpEpoch} {w w' : World} {p : ProtocolProjection}
    {groups : List (List ProtocolEvent)} (h : Mirrored e w p) (hs : Steady e w)
    (hrun : Journals w groups w') (hcount : w.wallets.card + groups.length < 2 ^ 64)
    (hfresh : ∀ event ∈ groups.flatten, p.seenEventIds.get? event.id = none)
    (hnodup : (groups.flatten.map fun event => event.id).Nodup) :
    ∃ p', replay accepted p groups = some p' ∧ Mirrored e w' p' ∧ Steady e w' := by
  induction hrun generalizing p with
  | nil w => exact ⟨p, rfl, h, hs⟩
  | @cons c w w' w'' emitted txHash group groups hc hf hevents ht _ ih =>
      rw [List.flatten_cons] at hfresh hnodup
      rw [List.map_append, List.nodup_append] at hnodup
      rw [List.length_cons] at hcount
      obtain ⟨-, hrest, hapart⟩ := hnodup
      have hgroup : Transcribes p txHash emitted group :=
        { ht with fresh := fun event hevent => hfresh event (List.mem_append_left _ hevent) }
      obtain ⟨⟨next, haccepted, hnext, hseen⟩, hs', hcard⟩ :=
        h.call hs hc hf (by omega) hevents hgroup
      have hlater : ∀ event ∈ groups.flatten, next.seenEventIds.get? event.id = none := by
        intro event hevent
        rw [hseen]
        refine get?_remember (hfresh event (List.mem_append_right _ hevent)) fun hmem => ?_
        exact hapart _ hmem _ (List.mem_map_of_mem hevent) rfl
      obtain ⟨p', hreplay, hp'⟩ := ih hnext hs' (by omega) hlater hrest
      refine ⟨p', ?_, hp'⟩
      rw [replay, List.foldlM_cons, haccepted]
      exact hreplay

/-! ## A run, written down -/

/-- The group that is made of what the transaction `txHash` at version `v` emitted:
every event by its place there. -/
def transcript (txHash : String) (v : ℤ) (emitted : List Event) : List ProtocolEvent :=
  emitted.zipIdx.filterMap fun entry => (normalized txHash entry.1).map fun body =>
    ⟨⟨txHash ++ ":" ++ toString entry.2, txHash, v, entry.2, 0, .chain⟩, body⟩

/-- The groups of a run of calls from version `v` on and where it leads, if the
indexer can follow all of it. -/
def journal [NamedAddresses] :
    World → ℤ → List (String × Call) → Option (List (List ProtocolEvent) × World)
  | w, _, [] => some ([], w)
  | w, v, (txHash, c) :: txs =>
      match c.run .machine w with
      | .ok (_, w') =>
          if c.Followable w ∧ w.events <+: w'.events then
            (journal w' (v + 1) txs).map fun run =>
              (transcript txHash v (w'.events.drop w.events.length) :: run.1, run.2)
          else none
      | .error _ => none

section Launched

variable [NamedAddresses] {fee_bps now : ℕ} {events : List Event}

/-- Where a run starts: the first provider, whose shares no wallet has sent, has
registered its own. -/
def opened (fee_bps now : ℕ) (events : List Event) : World :=
  (World.launched fee_bps now events).ensured bootstrap_lp

theorem wallets_opened : (opened fee_bps now events).wallets = {bootstrap_lp} := by
  have hnone : (World.launched fee_bps now events).wallets = ∅ := rfl
  rw [opened, World.ensured, hnone, if_neg (Finset.notMem_empty _), World.wallets_enrolled, hnone]
  rfl

theorem steady_opened (h : ValidBootstrap) (hfee : fee_bps ≤ MAX_FEE_BPS) :
    Steady World.launchEpoch (opened fee_bps now events) := by
  have hl : Launched World.launchEpoch (World.launched fee_bps now events) :=
    launched_launched _ _ _ h hfee
  have hx := eligible_bootstrap fee_bps now .LIVE (some (pool.deployed .LIVE))
    (events ++ World.seedEvents ++ World.sealEvents fee_bps) h
  have hs : Steady World.launchEpoch (World.launched fee_bps now events) :=
    ⟨hl, Tx.narrow_of_zero rfl rfl rfl, Tx.narrow_launchEpoch, fun _ => Nat.zero_lt_succ _,
      Nat.zero_lt_succ _⟩
  obtain ⟨_, -, hp⟩ := hl.registerWallet hx
  refine hs.moved hp.launched (hl.deployed.core.moved_ensured hx) ?_
  show (opened fee_bps now events).wallets.card < 2 ^ 64
  rw [wallets_opened, Finset.card_singleton]
  norm_num

/-- The system as it is launched has a mirror. -/
theorem mirrored_opened (h : ValidBootstrap) (hfee : fee_bps ≤ MAX_FEE_BPS) :
    ∃ p, Mirrored World.launchEpoch (opened fee_bps now events) p ∧ p.seenEventIds = ∅ := by
  have hs : Steady World.launchEpoch (opened fee_bps now events) := steady_opened h hfee
  have hframe : Frame (World.launched fee_bps now events) (opened fee_bps now events) :=
    ((core_seeded ..).moved_ensured (eligible_bootstrap _ _ _ _ _ h)).frame
  refine exists_mirrored hs ?_ (fun a ha => ?_) ?_ fun a _ => ?_
  · rw [wallets_opened, Finset.mem_singleton]
    exact h.owner_zero.symm
  · rw [wallets_opened, Finset.mem_singleton]
    by_contra hne
    rw [position_launchEpoch, if_neg hne] at ha
    exact absurd ha (lt_irrefl 0)
  · rw [World.usd, hframe.tusd _ (by decide)]
    show 500_000_000 < 2 ^ 64
    norm_num
  · rw [World.cash_eq hframe]
    rfl

end Launched

open CedraReflect.Sample

namespace Sample

/-- After the launch the first provider registers its wallet; of two more accounts
that are granted tRFL one sells some, and the other is owed a part of the fee. -/
def sold : List Call :=
  [.register_wallet (.account 4), .claim_trfl (.account 9), .claim_trfl (.account 7),
    .sell_trfl (.account 9) 40_000_000 0 0]

def owed : Option World :=
  script .machine .unpublished (.initialize_token (.account 1) 50 ::
    .launch (.account 1) (.account 2) (.account 3) (.account 4) :: sold)

end Sample

/-! ## The theorem -/

end indexer

end CedraReflect
