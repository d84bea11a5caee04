/-
What the replay makes of each event.

[`Feeds`] is the rule form: wherever a replay stands at `s`, the events that the
normalizer makes of what a call emitted replay without a word and leave it at
`s'`. Rules compose along an append, so that a call is read off event by event,
as it is on the chain. The second index is what the replay carries besides, the
figures that no event of a call moves ([`Context.still`]) and the loop's own
three variables.

The reducer checks each amount against the books before it writes. Those checks
are the premises of the rules, put in the ledger's terms.
-/
import CedraReflect.Journal
import CedraReflect.MirrorFigures

set_option autoImplicit false
set_option linter.constructorNameAsVariable false

namespace CedraReflect

open Dividend (Ledger Act Valid Weighs)
open reflection_math (MAGNITUDE MAGNITUDE_pos)
open reflection_token (TOTAL_SUPPLY)

namespace indexer

open Audited

/-! ## Rules -/

/-- What a replay carries besides the books. -/
def Context.still (c : Context) : Context := { c with next := c.next.still }

/-- A replay stands at `s` and carries `k`. -/
structure At (s : Stand) (k c : Context) : Prop where
  follows : Follows s c.next
  still : c.still = k

theorem At.next {s s' : Stand} {k c : Context} {p : ProtocolProjection} (h : At s k c)
    (hfollows : Follows s' p) (hstill : p.still = c.next.still) : At s' k { c with next := p } := by
  refine ⟨hfollows, ?_⟩
  rw [← h.still]
  show ({ c with next := p.still } : Context) = { c with next := c.next.still }
  rw [hstill]

/-- What a replay carries shows in its projection. -/
theorem At.read {α : Type} {s : Stand} {k c : Context} (h : At s k c)
    (f : ProtocolProjection → α) (hf : ∀ p, f p.still = f p) : f c.next = f k.next := by
  rw [← hf c.next, ← h.still]
  rfl

/-- A registration comes before what concerns its account. -/
def RegistersFirst (body later : EventBody) : Prop :=
  ∀ event, later = .WalletRegistered event → event.account ∉ body.accountStateSubjects

/-- **The rule form.** Within the group `events` of the transaction `txHash`, what
was emitted as `emitted` takes a replay from `s` to `s'`. -/
structure Feeds (prior : ProtocolProjection) (events : List ProtocolEvent) (txHash : String)
    (emitted : List Event) (s : Stand) (k : Context) (s' : Stand) (k' : Context) : Prop where
  fits : ∀ body ∈ emitted.filterMap (normalized txHash), ∀ q ∈ body.quantities, q.Fits
  wallets : s.wallets ⊆ s'.wallets
  subjects : ∀ body ∈ emitted.filterMap (normalized txHash), ∀ a ∈ body.accountStateSubjects,
    a ∈ s'.wallets
  fresh : ∀ body ∈ emitted.filterMap (normalized txHash), ∀ event,
    body = .WalletRegistered event → event.account ∉ s.wallets
  order : (emitted.filterMap (normalized txHash)).Pairwise RegistersFirst
  replays : ∀ group : List ProtocolEvent, group.Sublist events →
    group.map (fun event => event.body) = emitted.filterMap (normalized txHash) →
    ∀ c, At s k c →
      ∃ c', Clean (forEach group (replayEvent prior events)) c () c' ∧ At s' k' c'

namespace Feeds

variable {prior : ProtocolProjection} {events : List ProtocolEvent} {txHash : String}
  {emitted emitted' : List Event} {s s₁ s₂ : Stand} {k k₁ k₂ : Context}

/-- Nothing was emitted. -/
theorem nil : Feeds prior events txHash [] s k s k where
  fits := by simp
  wallets := subset_rfl
  subjects := by simp
  fresh := by simp
  order := by simp
  replays group _ hbodies c hc := by
    rw [List.filterMap_nil, List.map_eq_nil_iff] at hbodies
    subst hbodies
    exact ⟨c, (clean_forEach_nil ..).mpr rfl, hc⟩

/-- **Rules compose.** -/
theorem append (h : Feeds prior events txHash emitted s k s₁ k₁)
    (h' : Feeds prior events txHash emitted' s₁ k₁ s₂ k₂) :
    Feeds prior events txHash (emitted ++ emitted') s k s₂ k₂ where
  fits body hbody := by
    rw [List.filterMap_append, List.mem_append] at hbody
    exact hbody.elim (h.fits body) (h'.fits body)
  wallets := h.wallets.trans h'.wallets
  subjects body hbody a ha := by
    rw [List.filterMap_append, List.mem_append] at hbody
    exact hbody.elim (fun hb => h'.wallets (h.subjects body hb a ha)) fun hb =>
      h'.subjects body hb a ha
  fresh body hbody event heq := by
    rw [List.filterMap_append, List.mem_append] at hbody
    exact hbody.elim (fun hb => h.fresh body hb event heq) fun hb hmem =>
      h'.fresh body hb event heq (h.wallets hmem)
  order := by
    rw [List.filterMap_append, List.pairwise_append]
    -- Who is registered later was not a wallet when the first half ended.
    exact ⟨h.order, h'.order, fun body hbody later hlater event heq ha =>
      h'.fresh later hlater event heq (h.subjects body hbody event.account ha)⟩
  replays group hsub hbodies c hc := by
    rw [List.filterMap_append, List.map_eq_append_iff] at hbodies
    obtain ⟨left, right, rfl, hleft, hright⟩ := hbodies
    obtain ⟨c₁, hclean₁, hc₁⟩ :=
      h.replays left ((List.sublist_append_left left right).trans hsub) hleft c hc
    obtain ⟨c₂, hclean₂, hc₂⟩ :=
      h'.replays right ((List.sublist_append_right left right).trans hsub) hright c₁ hc₁
    exact ⟨c₂, clean_forEach_append.mpr ⟨c₁, hclean₁, hclean₂⟩, hc₂⟩

/-- The normalizer knows nothing of what was emitted. -/
theorem unknown {event : Event} (hnone : normalized txHash event = none) :
    Feeds prior events txHash [event] s k s k where
  fits := by simp [hnone]
  wallets := subset_rfl
  subjects := by simp [hnone]
  fresh := by simp [hnone]
  order := by simp [hnone]
  replays group _ hbodies c hc := by
    rw [List.filterMap_cons_none hnone, List.filterMap_nil, List.map_eq_nil_iff] at hbodies
    subst hbodies
    exact ⟨c, (clean_forEach_nil ..).mpr rfl, hc⟩

/-- One event. -/
theorem single {event : Event} (body : EventBody) (hbody : normalized txHash event = some body)
    (hfits : ∀ q ∈ body.quantities, q.Fits) (hwallets : s.wallets ⊆ s₁.wallets)
    (hsubjects : ∀ a ∈ body.accountStateSubjects, a ∈ s₁.wallets)
    (hfresh : ∀ event, body = .WalletRegistered event → event.account ∉ s.wallets)
    (hstep : ∀ base, (⟨base, body⟩ : ProtocolEvent) ∈ events → ∀ c, At s k c →
      ∃ c', Clean (replayEvent prior events ⟨base, body⟩) c () c' ∧ At s₁ k₁ c') :
    Feeds prior events txHash [event] s k s₁ k₁ := by
  have hbodies : [event].filterMap (normalized txHash) = [body] := by
    rw [List.filterMap_cons_some hbody, List.filterMap_nil]
  refine ⟨?_, hwallets, ?_, ?_, ?_, ?_⟩
  · simpa [hbodies] using hfits
  · simpa [hbodies] using hsubjects
  · simpa [hbodies] using hfresh
  · simp [hbodies]
  · intro group hsub hgroup c hc
    rw [hbodies, List.map_eq_singleton_iff] at hgroup
    obtain ⟨⟨base, body'⟩, rfl, rfl⟩ := hgroup
    obtain ⟨c', hclean, hc'⟩ := hstep base (hsub.subset (List.mem_singleton_self _)) c hc
    refine ⟨c', ?_, hc'⟩
    rw [clean_forEach_cons]
    exact ⟨c', hclean, (clean_forEach_nil ..).mpr rfl⟩

/-- One event about one wallet. -/
theorem about {event : Event} {a : Address} (body : EventBody)
    (hbody : normalized txHash event = some body) (hfits : ∀ q ∈ body.quantities, q.Fits)
    (hsubjects : body.accountStateSubjects = [a]) (ha : a ∈ s.wallets)
    (hwallets : s₁.wallets = s.wallets)
    (hstep : ∀ base, (⟨base, body⟩ : ProtocolEvent) ∈ events → ∀ c, At s k c →
      ∃ c', Clean (replayEvent prior events ⟨base, body⟩) c () c' ∧ At s₁ k₁ c') :
    Feeds prior events txHash [event] s k s₁ k₁ := by
  refine single body hbody hfits hwallets.ge (fun b hb => ?_) ?_ hstep
  · rw [hsubjects, List.mem_singleton] at hb
    rw [hwallets, hb]
    exact ha
  · rintro registration rfl
    cases hsubjects

end Feeds

/-! ## Shares that move -/

section Moves

variable {s : Stand} {p : ProtocolProjection} {L : Ledger (Option Address)} {a : Address}
  {delta : ℤ}

/-- A number that moves to another is moved by no more than the larger. -/
theorem natAbs_le_of_move {x y : ℕ} (h : (y : ℤ) = x + delta) : delta.natAbs ≤ max x y := by
  omega

/-- What shares that move are worth at the index. -/
theorem move_fits {ι : Type} [DecidableEq ι] {L L' : Ledger ι} {i : ι} (h : FitsMove L)
    (h' : FitsMove L') (hw : Weighs L L' i delta) :
    isMoveUnsigned |delta| 256 ∧ isMoveUnsigned (|delta| * L.index) 256 := by
  have hle := natAbs_le_of_move hw.shares
  have hindex := hw.index
  rw [Int.abs_eq_natAbs]
  rcases le_total (L.shares i) (L'.shares i) with hlt | hlt
  · rw [max_eq_right hlt] at hle
    have hle := hle.trans (h'.shares_le i)
    refine ⟨fits_256_of_le h'.total hle, ?_⟩
    have hmul := Nat.mul_le_mul_right L'.index hle
    rw [hindex] at hmul
    exact_mod_cast fits_256_of_le (hindex ▸ h'.worth) hmul
  · rw [max_eq_left hlt] at hle
    have hle := hle.trans (h.shares_le i)
    refine ⟨fits_256_of_le h.total hle, ?_⟩
    exact_mod_cast fits_256_of_le h.worth (Nat.mul_le_mul_right L.index hle)

/-- A movement of the ledger's is one that the reducer makes. -/
theorem Follows.movable (h : Follows s p) (hs : FitsMove s.core) (hL : FitsMove L)
    (hw : Weighs s.core L (some a) delta) : Movable p a .trfl delta := by
  obtain ⟨hamount, hproduct⟩ := move_fits hs hL hw
  have hshares := hw.shares
  have htotal := hw.total
  refine ⟨fun _ => ⟨?_, ?_⟩, by simp⟩
  · rw [h.held]
    show 0 ≤ (s.core.shares (some a) : ℤ) + delta
    omega
  · rw [h.held, h.currentIndex, h.aggregateCorrection, h.eligibleSupply]
    have hcorrection := hL.correction (some a)
    have haggregate := hL.aggregate
    rw [hw.correction] at hcorrection
    rw [hw.aggregate] at haggregate
    exact ⟨fits_256_of_le hs.index le_rfl, hamount, hproduct, hs.correction (some a), hcorrection,
      hs.aggregate, haggregate, by omega⟩

/-- tUSD that a wallet gets, or can spare. -/
theorem Follows.movableUsd (h : Follows s p) (hcovered : 0 ≤ (s.usd a : ℤ) + delta) :
    Movable p a .tusd delta := by
  refine ⟨by simp, fun _ => ?_⟩
  rw [h.held]
  exact hcovered

end Moves

/-! ## Wallets -/

/-- What the indexer asks of an account before it registers it. -/
structure Admits (p : ProtocolProjection) (a : Address) : Prop where
  nonzero : a ≠ .zero
  account : p.protocolExcludedStores.has a = false
  store : Address.primary .trfl a ∉ p.protocolExcludedStores.values

namespace Feeds

variable {prior : ProtocolProjection} {events : List ProtocolEvent} {txHash : String}
  {s : Stand} {k : Context} {a b : Address} {n : ℕ}

theorem registered (ha : a ∉ s.wallets) (hk : Admits k.next a) (hcount : s.wallets.card + 1 < 2 ^ 64)
    (hv : Valid MAGNITUDE s.core) :
    Feeds prior events txHash [.WalletRegistered a (.primary .trfl a) (s.wallets.card + 1)] s k
      (s.act (.enroll (some a))) k := by
  refine single (.WalletRegistered ⟨a, .primary .trfl a, s.wallets.card + 1⟩) rfl ?_ ?_
    (by simp [EventBody.accountStateSubjects]) ?_ ?_
  · intro q hq
    obtain rfl := List.mem_singleton.mp hq
    exact fits_unsigned.mpr hcount
  · intro b hb
    rw [Stand.mem_wallets] at hb ⊢
    exact Finset.mem_insert_of_mem hb
  · rintro event heq
    obtain rfl := EventBody.WalletRegistered.inj heq
    exact ha
  · intro base _ c hc
    have hf := hc.follows
    have hexcluded := hc.read (fun p => p.protocolExcludedStores) fun _ => rfl
    have henrolled := hf.enrolled hv ha
    rw [hf.registeredWalletCount] at henrolled
    refine ⟨_, clean_walletRegistered.mpr ⟨?_, rfl⟩, hc.next henrolled rfl⟩
    constructor
    · exact hk.nonzero
    · simp [Address.zero]
    · show (0 : ℤ) < s.wallets.card + 1
      omega
    · show (s.wallets.card + 1 : ℤ) ≤ U64_MAX
      unfold U64_MAX
      omega
    · rw [hf.registeredWalletCount]
    · rw [OrderedMap.has_eq_false, hf.registeredWallets, if_neg ha]
    · -- The stores in use are those of the wallets.
      intro hstore
      obtain ⟨b, hb⟩ := OrderedMap.mem_values.mp hstore
      rw [hf.registeredWallets] at hb
      split at hb
      · next hmem =>
          have heq := Option.some_injective _ hb
          injection heq with _ hba
          exact ha (hba ▸ hmem)
      · cases hb
    · rw [hexcluded]
      exact hk.account
    · rw [hexcluded]
      exact hk.store

/-- A position is created. -/
theorem opened (hmem : a ∈ s.wallets) (ha : a ∉ s.positions) :
    Feeds prior events txHash [.PositionCreated a] s k (s.opened a) k := by
  refine about (.PositionCreated a) rfl (by simp [EventBody.quantities]) rfl hmem rfl ?_
  intro base _ c hc
  have hf := hc.follows
  refine ⟨_, clean_positionCreated.mpr ⟨?_, rfl⟩, hc.next hf.opened rfl⟩
  rw [← Bool.not_eq_true, hf.has]
  exact ha

/-- A wallet counts what it claimed. -/
theorem claimed (hmem : a ∈ s.wallets) (ha : a ∈ s.positions) (hn0 : 0 < n) (hn : n < 2 ^ 64)
    {total : ℕ} (htotal : total < 2 ^ 256) (hclaims : s.claims a + n < 2 ^ 256) :
    Feeds prior events txHash [.RewardsClaimed a n total] s k (s.claimed a n) k := by
  refine about (.RewardsClaimed ⟨a, n, total⟩) rfl ?_ rfl hmem rfl ?_
  · simp only [EventBody.quantities, List.forall_mem_cons, unsigned_fits]
    exact ⟨hn, htotal, by simp⟩
  · intro base _ c hc
    have hf := hc.follows
    have hamount : (0 : ℤ) < n := by exact_mod_cast hn0
    have hbefore : isMoveUnsigned (positionOrEmpty a c.next.positions).lifetimeClaimed 256 := by
      rw [hf.held]
      exact fits_256 (by omega)
    have hafter : isMoveUnsigned ((positionOrEmpty a c.next.positions).lifetimeClaimed + n) 256 := by
      rw [hf.held]
      exact_mod_cast fits_256 hclaims
    exact ⟨_, clean_rewardsClaimed.mpr
      ⟨⟨hamount, hbefore, fits_256 (hn.trans (by norm_num)), hafter⟩, rfl⟩,
      hc.next (hf.claimed ha) rfl⟩

section Shares

variable {L : Ledger (Option Address)}

theorem wallets_moved {i : Option Address} {delta : ℤ} (hw : Weighs s.core L i delta) :
    ({ s with core := L } : Stand).wallets = s.wallets := by
  rw [Stand.wallets, hw.holders, Stand.wallets]

/-- The native hooks' receipts. -/
theorem debited (hs : FitsMove s.core) (hL : FitsMove L) (hw : Weighs s.core L (some a) (-(n : ℤ)))
    (hmem : a ∈ s.wallets) (ha : a ∈ s.positions) (hn0 : 0 < n) (hn : n < 2 ^ 64) :
    Feeds prior events txHash [.EligibleBalanceDebited a n] s k { s with core := L } k := by
  refine about (.EligibleBalanceDebited a n) rfl ?_ rfl hmem (wallets_moved hw) ?_
  · intro q hq
    obtain rfl := List.mem_singleton.mp hq
    exact unsigned_fits.mpr hn
  · intro base _ c hc
    exact ⟨_, clean_eligibleBalanceDebited.mpr ⟨by exact_mod_cast hn0,
      hc.follows.movable hs hL hw, rfl⟩, hc.next (hc.follows.moved hw ha) rfl⟩

theorem credited (hs : FitsMove s.core) (hL : FitsMove L) (hw : Weighs s.core L (some a) n)
    (hmem : a ∈ s.wallets) (ha : a ∈ s.positions) (hn0 : 0 < n) (hn : n < 2 ^ 64) :
    Feeds prior events txHash [.EligibleBalanceCredited a n] s k { s with core := L } k := by
  refine about (.EligibleBalanceCredited a n) rfl ?_ rfl hmem (wallets_moved hw) ?_
  · intro q hq
    obtain rfl := List.mem_singleton.mp hq
    exact unsigned_fits.mpr hn
  · intro base _ c hc
    exact ⟨_, clean_eligibleBalanceCredited.mpr ⟨by exact_mod_cast hn0,
      hc.follows.movable hs hL hw, rfl⟩, hc.next (hc.follows.moved hw ha) rfl⟩

/-- A grant of tRFL. -/
theorem granted {operator : Address} (hs : FitsMove s.core) (hL : FitsMove L)
    (hw : Weighs s.core L (some a) n) (hmem : a ∈ s.wallets) (ha : a ∈ s.positions) (hn0 : 0 < n)
    (hn : n < 2 ^ 64) :
    Feeds prior events txHash [.FaucetGrant a n operator] s k { s with core := L } k := by
  refine about (.FaucetGrant a .trfl n) rfl ?_ rfl hmem (wallets_moved hw) ?_
  · intro q hq
    obtain rfl := List.mem_singleton.mp hq
    exact fits_unsigned.mpr hn
  · intro base _ c hc
    exact ⟨_, clean_faucetGrant.mpr ⟨by exact_mod_cast hn0, hc.follows.movable hs hL hw, rfl⟩,
      hc.next (hc.follows.moved hw ha) rfl⟩

end Shares

/-- A grant of tUSD. -/
theorem minted {operator : Address} (hmem : a ∈ s.wallets) (ha : a ∈ s.positions) (hn0 : 0 < n)
    (hn : n < 2 ^ 64) :
    Feeds prior events txHash [.MockUsdMinted a n operator] s k (s.usdGiven a n) k := by
  refine about (.FaucetGrant a .tusd n) rfl ?_ rfl hmem rfl ?_
  · intro q hq
    obtain rfl := List.mem_singleton.mp hq
    exact fits_unsigned.mpr hn
  · intro base _ c hc
    exact ⟨_, clean_faucetGrant.mpr ⟨by exact_mod_cast hn0,
      hc.follows.movableUsd (by positivity), rfl⟩,
      hc.next (hc.follows.movedUsd ha (Or.inl ⟨rfl, rfl⟩)) rfl⟩

/-- The router's receipt, beside the hooks' own. -/
theorem transferred (ha : a ∈ s.wallets) (hb : b ∈ s.wallets) (hrouter : RouterAgrees events a b n)
    (hn0 : 0 < n) (hn : n < 2 ^ 64) :
    Feeds prior events txHash [.WalletTransfer a b n] s k s k := by
  refine single (.WalletTransfer a b .trfl n) rfl ?_ subset_rfl ?_ (by simp) ?_
  · intro q hq
    obtain rfl := List.mem_singleton.mp hq
    exact unsigned_fits.mpr hn
  · intro x hx
    simp only [EventBody.accountStateSubjects, List.mem_cons, List.not_mem_nil, or_false] at hx
    rcases hx with rfl | rfl
    · exact ha
    · exact hb
  · intro base _ c hc
    exact ⟨c, clean_walletTransfer.mpr ⟨⟨by exact_mod_cast hn0, hrouter⟩, rfl⟩, hc⟩

/-- A wallet is paid what it earned, and has the shares from then on. -/
theorem materialized {trigger : Trigger} (hs : FitsMove s.core)
    (hs' : FitsMove (s.materialized a n).core) (hmem : a ∈ s.wallets) (ha : a ∈ s.positions)
    (hn0 : 0 < n) (hn : n < 2 ^ 64) (hpending : n ≤ s.core.pending MAGNITUDE (some a)) :
    Feeds prior events txHash [.RewardsMaterialized a n (s.core.claimed (some a) + n) trigger] s k
      (s.materialized a n) k := by
  have hholder : some a ∈ s.core.holders := (s.mem_wallets a).mp hmem
  have hen : (Act.pay (some a) n).Enabled MAGNITUDE s.core :=
    hs.valid.pay_enabled MAGNITUDE_pos hholder hpending
  have hclaimed : (s.materialized a n).core.claimed (some a) = s.core.claimed (some a) + n := by
    simp [Stand.materialized, Act.apply]
  have hsum : (s.materialized a n).core.claimedSum = s.core.claimedSum + n :=
    hen.claimedSum_apply hs.valid
  have hfits := hs'.claimed (some a)
  have hfitsSum := hs'.claimedSum_fits
  rw [hclaimed] at hfits
  rw [hsum] at hfitsSum
  refine about (.RewardsMaterialized
    ⟨a, n, (s.core.claimed (some a) + n : ℕ), some trigger.code⟩) rfl ?_ rfl hmem rfl ?_
  · simp only [EventBody.quantities, List.forall_mem_append, List.forall_mem_cons, fits_unsigned,
      unsigned_fits]
    refine ⟨⟨?_, by simp⟩, hn, ?_, by simp⟩
    · cases trigger <;> decide
    · exact isMoveUnsigned_natCast.mp hfits
  · intro base _ c hc
    have hf := hc.follows
    have hgive' : (Act.give (some a) n).Enabled MAGNITUDE s.core := hholder
    have hcredit : FitsMove ((Act.give (some a) n).apply MAGNITUDE s.core) :=
      hs'.congr (hgive'.valid hs.valid) rfl rfl rfl
    have hamount := fits_256 (hn.trans (by norm_num : 2 ^ 64 < 2 ^ 256))
    have hbefore := hs.claimed (some a)
    have hpaid := hs.claimed_le_sum none
    have hsumBefore := hs.claimedSum_fits
    refine ⟨_, clean_materializeWallet.mpr ⟨?_, rfl⟩,
      hc.next (hf.materialized hs.valid hen ha) rfl⟩
    rw [Nat.cast_add] at hfits hfitsSum
    constructor
    · show (0 : ℤ) < n
      exact_mod_cast hn0
    · refine ⟨_, ?_, Int.ofNat_le.mpr hpending⟩
      rw [hf.held, hf.currentIndex]
      exact Follows.walletPending hs a
    · exact hf.movable hs hcredit (Weighs.give hs.valid hgive')
    · exact hamount
    · rw [hf.held]
      exact hbefore
    · rw [hf.held]
      show (s.core.claimed (some a) : ℤ) + n = (s.core.claimed (some a) + n : ℕ)
      rw [Nat.cast_add]
    · show isMoveUnsigned (s.core.claimed (some a) + n : ℕ) 256
      rw [Nat.cast_add]
      exact hfits
    · rw [hf.held]
      exact hbefore
    · rw [hf.held]
      exact hfits
    · rw [hf.rewardVaultPayouts]
      exact hsumBefore
    · rw [hf.rewardVaultPayouts]
      exact hfitsSum
    · rw [hf.materialized_eq]
      unfold isMoveUnsigned at *
      omega
    · rw [hf.materialized_eq]
      unfold isMoveUnsigned at *
      simp only
      omega

end Feeds

end indexer

end CedraReflect
