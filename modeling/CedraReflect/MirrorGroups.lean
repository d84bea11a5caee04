/-
A transaction's group, from the events to its acceptance.

What a call emits reaches the reducer as one group: the normalizer's events, of
one transaction and one ledger version, in order and under fresh identifiers
([`Transcribes`]). Everything the reducer asks about identity follows from that.
The rules of [`Feeds`] give the replay, and the books close where it ends, so
that the group is accepted and the projection stands where the chain does
([`Feeds.accepts`]).
-/
import CedraReflect.MirrorBooks

set_option autoImplicit false
set_option linter.constructorNameAsVariable false

namespace CedraReflect

open Dividend (Ledger Act Valid Weighs)
open reflection_math (MAGNITUDE MAGNITUDE_pos)

namespace indexer

open Audited

/-! ## What a group's bodies say -/

section Bodies

variable {α : Type} {payload : EventBody → Option α} {events : List ProtocolEvent}

/-- The payloads that are filtered out of a group depend on its bodies only. -/
theorem select_snd (payload : EventBody → Option α) (events : List ProtocolEvent) :
    (select payload events).map Prod.snd = (events.map fun event => event.body).filterMap payload := by
  unfold select
  rw [List.map_filterMap, List.filterMap_map]
  congr 1
  funext event
  rw [Function.comp_apply]
  cases payload event.body <;> rfl

/-- How many of the payloads are as asked. -/
theorem length_filter_select (p : α → Bool) :
    ((select payload events).filter fun entry => p entry.2).length
      = (((events.map fun event => event.body).filterMap payload).filter p).length := by
  rw [← select_snd, List.filter_map, List.length_map]
  rfl

end Bodies

/-! ## Identity -/

/-- `group` is the transcript of what was emitted in the transaction `txHash`. -/
structure Transcribes (prior : ProtocolProjection) (txHash : String) (emitted : List Event)
    (group : List ProtocolEvent) : Prop where
  bodies : group.map (fun event => event.body) = emitted.filterMap (normalized txHash)
  admissible : ∀ event ∈ group, event.toEventBase.Admissible
  transaction : ∀ event ∈ group, event.txHash = txHash
  version : ∀ event ∈ group, ∀ other ∈ group, event.ledgerVersion = other.ledgerVersion
  ordered : group.Pairwise fun event later => event.eventIndex < later.eventIndex
  fresh : ∀ event ∈ group, prior.seenEventIds.get? event.id = none
  nodup : (group.map fun event => event.id).Nodup

/-- The normalizer makes no event that the reducer does not know. -/
theorem normalized_known {txHash : String} {event : Event} {body : EventBody}
    (h : normalized txHash event = some body) (type : String) : body ≠ .Unknown type := by
  rintro rfl
  cases event <;> simp [normalized] at h

/-- **Events of one transaction that are new and in order raise no alert.** -/
theorem identityAlerts_eq_nil {prior : ProtocolProjection} {first : EventBase} {ids : List String}
    {previous : ℤ} {events : List ProtocolEvent}
    (hdomains : ∀ event ∈ events, assertProtocolEventMoveDomains event = .ok ())
    (hsame : ∀ event ∈ events, event.ledgerVersion = first.ledgerVersion
      ∧ event.txHash = first.txHash)
    (hprevious : ∀ event ∈ events, previous < event.eventIndex)
    (hordered : events.Pairwise fun event later => event.eventIndex < later.eventIndex)
    (hfresh : ∀ event ∈ events, prior.seenEventIds.get? event.id = none)
    (hids : ∀ event ∈ events, event.id ∉ ids)
    (hnodup : (events.map fun event => event.id).Nodup) :
    identityAlerts prior first ids previous events = [] := by
  induction events generalizing ids previous with
  | nil => rfl
  | cons event events ih =>
      rw [List.forall_mem_cons] at hdomains hsame hprevious hfresh hids
      rw [List.pairwise_cons] at hordered
      rw [List.map_cons, List.nodup_cons] at hnodup
      rw [identityAlerts, ih hdomains.2 hsame.2 hordered.1 hordered.2 hfresh.2 ?_ hnodup.2,
        List.append_nil]
      · have hother : ¬ (event.ledgerVersion ≠ first.ledgerVersion
            ∨ event.txHash ≠ first.txHash) := by
          rw [not_or, not_not, not_not]
          exact hsame.1
        have hbefore : ¬ event.eventIndex ≤ previous := not_le.mpr hprevious.1
        have hreused : ¬ ((prior.seenEventIds.get? event.id).isSome = true ∨ event.id ∈ ids) := by
          rw [hfresh.1]
          simpa using hids.1
        simp only [identityChecks, hdomains.1, if_neg hother, if_neg hbefore, if_neg hreused,
          List.append_nil]
      · intro later hlater
        rw [List.mem_append, List.mem_singleton, not_or]
        refine ⟨hids.2 later hlater, fun heq => hnodup.1 ?_⟩
        rw [← heq]
        exact List.mem_map_of_mem hlater

section Transcribed

variable {prior : ProtocolProjection} {txHash : String} {emitted : List Event}
  {first : ProtocolEvent} {rest : List ProtocolEvent}

theorem Transcribes.identity (h : Transcribes prior txHash emitted (first :: rest))
    (hfits : ∀ body ∈ emitted.filterMap (normalized txHash), ∀ q ∈ body.quantities, q.Fits) :
    identityAlerts prior first.toEventBase [] (-1) (first :: rest) = [] := by
  refine identityAlerts_eq_nil (fun event hevent => ?_) (fun event hevent => ?_)
    (fun event hevent => ?_) h.ordered h.fresh (by simp) h.nodup
  · have hbody : event.body ∈ emitted.filterMap (normalized txHash) := by
      rw [← h.bodies]
      exact List.mem_map_of_mem hevent
    obtain ⟨source, -, hsource⟩ := List.mem_filterMap.mp hbody
    exact assertProtocolEventMoveDomains_eq_ok.mpr
      ⟨h.admissible event hevent, normalized_known hsource, hfits _ hbody⟩
  · have hfirst := List.mem_cons_self (a := first) (l := rest)
    exact ⟨h.version event hevent first hfirst,
      (h.transaction event hevent).trans (h.transaction first hfirst).symm⟩
  · have hindex := (h.admissible event hevent).eventIndex.1
    omega

end Transcribed

/-! ## The receipts -/

/-- Of two members of an ordered list one comes first, or they are one. -/
theorem pairwise_trichotomy {α : Type} {R : α → α → Prop} {l : List α} (h : l.Pairwise R) {a b : α}
    (ha : a ∈ l) (hb : b ∈ l) : R a b ∨ a = b ∨ R b a := by
  obtain ⟨i, hi, rfl⟩ := List.getElem_of_mem ha
  obtain ⟨j, hj, rfl⟩ := List.getElem_of_mem hb
  rw [List.pairwise_iff_getElem] at h
  rcases lt_trichotomy i j with hij | rfl | hij
  · exact Or.inl (h i j hi hj hij)
  · exact Or.inr (Or.inl rfl)
  · exact Or.inr (Or.inr (h j i hj hi hij))

/-- Registrations come before what concerns their accounts. -/
theorem registrationOrder_of {events : List ProtocolEvent} {c : Context}
    (hordered : events.Pairwise fun event later => event.eventIndex < later.eventIndex)
    (hfirst : (events.map fun event => event.body).Pairwise RegistersFirst) :
    Clean (registrationOrder events) c () c := by
  rw [List.pairwise_map] at hfirst
  have hboth := hordered.and hfirst
  refine (clean_forEach_look (p := fun _ => True) (fun entry hentry c' => ?_) ()).mpr
    ⟨by simp, rfl⟩
  obtain ⟨base, registration⟩ := entry
  obtain ⟨event, hevent, hpayload⟩ := List.mem_filterMap.mp hentry
  obtain ⟨registration', hregistration, heq⟩ := Option.map_eq_some_iff.mp hpayload
  obtain ⟨rfl, rfl⟩ := Prod.mk.inj heq
  have hbody : event.body = .WalletRegistered registration' := by
    cases hb : event.body <;> rw [hb] at hregistration <;> simp_all [EventBody.registration]
  have hnone : events.find? (fun candidate => candidate.id ≠ event.toEventBase.id
      ∧ registration'.account ∈ candidate.body.accountStateSubjects
      ∧ candidate.eventIndex ≤ event.toEventBase.eventIndex) = none := by
    rw [List.find?_eq_none]
    intro candidate hcandidate hbad
    obtain ⟨hid, hsubject, hle⟩ := of_decide_eq_true hbad
    rcases pairwise_trichotomy hboth hcandidate hevent with h | h | h
    · exact h.2 registration' hbody hsubject
    · exact hid (by rw [h])
    · exact absurd h.1 (not_lt.mpr hle)
  simp only [clean_alertIf, hnone, Option.isSome_none, Bool.false_eq_true, not_false_eq_true,
    true_and]

/-- What concerns wallets alone. -/
def EventBody.walletwise : EventBody → Bool
  | WalletRegistered _ | PositionCreated _ | FaucetGrant .. | WalletTransfer ..
  | EligibleBalanceDebited .. | EligibleBalanceCredited .. | RewardsMaterialized _
  | RewardsClaimed _ => true
  | _ => false

/-- Nothing of the pool's is among what concerns wallets. -/
theorem select_walletwise {α : Type} {payload : EventBody → Option α} {events : List ProtocolEvent}
    (hevents : ∀ event ∈ events, event.body.walletwise = true)
    (hpayload : ∀ body : EventBody, body.walletwise = true → payload body = none) :
    select payload events = [] := by
  refine List.filterMap_eq_nil_iff.mpr fun event hevent => ?_
  rw [hpayload _ (hevents event hevent), Option.map_none]

/-- A claim has its materialization beside it. -/
def ClaimsPaired (bodies : List EventBody) : Prop :=
  ∀ claim ∈ bodies.filterMap EventBody.explicitClaim, ∃ entry,
    (bodies.filterMap EventBody.materialization).filter (fun entry =>
      entry.account = claim.account ∧ entry.amount = claim.amount) = [entry]
      ∧ entry.totalClaimed = claim.totalClaimed

theorem claimPairs_of {events : List ProtocolEvent} {c : Context}
    (h : ClaimsPaired (events.map fun event => event.body)) : Clean (claimPairs events) c () c := by
  refine (clean_forEach_look (p := fun _ => True) (fun entry hentry c' => ?_) ()).mpr
    ⟨by simp, rfl⟩
  obtain ⟨base, claim⟩ := entry
  have hclaim : claim ∈ (events.map fun event => event.body).filterMap EventBody.explicitClaim := by
    rw [← select_snd]
    exact List.mem_map_of_mem hentry
  obtain ⟨entry, hfilter, htotal⟩ := h claim hclaim
  rw [← select_snd, List.filter_map, List.map_eq_singleton_iff] at hfilter
  obtain ⟨found, hfound, rfl⟩ := hfilter
  have hlist : ∀ p : EventBase × RewardsMaterializedEvent → Bool,
      (∀ entry, p entry = decide (entry.2.account = claim.account ∧ entry.2.amount = claim.amount)) →
      (select EventBody.materialization events).filter p = [found] := by
    intro p hp
    rw [← hfound]
    exact List.filter_congr fun entry _ => hp entry
  simp only [clean_alertIf]
  rw [hlist]
  · simp [htotal]
  · intro entry
    rfl

/-- **The receipts of wallets agree** once registrations come first and claims are
paired. -/
theorem groupChecks_of_walletwise {prior : ProtocolProjection} {first : EventBase}
    {events : List ProtocolEvent} {c : Context}
    (hwalletwise : ∀ event ∈ events, event.body.walletwise = true)
    (hregistrations : Clean (registrationOrder events) c () c)
    (hclaims : Clean (claimPairs events) c () c) :
    Clean (groupChecks prior first events) c () c := by
  have hnone {α : Type} (payload : EventBody → Option α)
      (hpayload : ∀ body : EventBody, body.walletwise = true → payload body = none) :
      select payload events = [] := select_walletwise hwalletwise hpayload
  have hswaps := hnone EventBody.swap (by rintro ⟨⟩ h <;> first | rfl | cases h)
  have hliquidity := hnone EventBody.liquidity (by rintro ⟨⟩ h <;> first | rfl | cases h)
  have hcustody := hnone EventBody.custodyChange (by rintro ⟨⟩ h <;> first | rfl | cases h)
  have hroutes := hnone EventBody.route (by rintro ⟨⟩ h <;> first | rfl | cases h)
  have hadvances := hnone EventBody.lpAdvance (by rintro ⟨⟩ h <;> first | rfl | cases h)
  have hquarantines := hnone EventBody.lpQuarantine (by rintro ⟨⟩ h <;> first | rfl | cases h)
  have hopenings := hnone EventBody.lpOpening (by rintro ⟨⟩ h <;> first | rfl | cases h)
  have hreroutings := hnone EventBody.routeOpening (by rintro ⟨⟩ h <;> first | rfl | cases h)
  have htransitions := hnone EventBody.lpTerminalTransition
    (by rintro ⟨⟩ h <;> first | rfl | cases h)
  have hclassifications := hnone EventBody.lpTerminalClassification
    (by rintro ⟨⟩ h <;> first | rfl | cases h)
  have hresidues := hnone EventBody.lpResidue (by rintro ⟨⟩ h <;> first | rfl | cases h)
  have hreceipts : Clean (poolReceipts first events) c () c := by
    simp [poolReceipts, expectedCustody, hswaps, hliquidity, hcustody]
  have hpairs : Clean (routePairs prior first events) c () c := by
    simp [routePairs, hroutes, hadvances, hquarantines, hopenings, hreroutings]
  have hterminal : Clean (terminalPairs events) c () c := by
    simp [terminalPairs, htransitions, hclassifications]
  have hexits : Clean (residueExits events) c () c := by
    simp [residueExits, hresidues]
  have hliquid : Clean (liquidityChecks prior events) c () c := by
    simp [liquidityChecks, hliquidity]
  simp only [groupChecks, clean_bind]
  exact ⟨_, _, hregistrations, _, _, hreceipts, _, _, hpairs, _, _, hterminal, _, _, hexits, _, _,
    hliquid, hclaims⟩

/-! ## Acceptance -/

/-- A projection stands at `s` and is fit to be replayed on. -/
structure Mirrors (s : Stand) (p : ProtocolProjection) : Prop where
  follows : Follows s p
  domains : assertProjectionMoveDomains p = .ok ()

/-- What a projection remembers after a group is what it did, or of the group. -/
theorem mem_remembered {seen : OrderedMap String EventCursor} {events : List ProtocolEvent}
    {cursor : EventCursor}
    (h : cursor ∈ (events.foldl (fun seen event => seen.set event.id event.cursor) seen).values) :
    cursor ∈ seen.values ∨ ∃ event ∈ events, cursor = event.cursor := by
  induction events generalizing seen with
  | nil => exact Or.inl h
  | cons event events ih =>
      rcases ih h with h | ⟨later, hlater, rfl⟩
      · rcases OrderedMap.mem_values_set h with rfl | h
        · exact Or.inr ⟨event, List.mem_cons_self, rfl⟩
        · exact Or.inl h
      · exact Or.inr ⟨later, List.mem_cons_of_mem _ hlater, rfl⟩

theorem domains_remember {p : ProtocolProjection} {events : List ProtocolEvent}
    (hp : assertProjectionMoveDomains p = .ok ())
    (hevents : ∀ event ∈ events, event.toEventBase.Admissible) :
    assertProjectionMoveDomains (remember p events) = .ok () := by
  obtain ⟨hquantities, hseen⟩ := assertProjectionMoveDomains_eq_ok.mp hp
  refine assertProjectionMoveDomains_eq_ok.mpr ⟨hquantities, fun cursor hcursor => ?_⟩
  rcases mem_remembered hcursor with h | ⟨event, hevent, rfl⟩
  · exact hseen cursor h
  · exact ⟨(hevents event hevent).ledgerVersion, (hevents event hevent).eventIndex⟩

/-- **A group that feeds a projection is accepted**, and the projection stands
where the chain does from then on. -/
theorem Feeds.accepts {prior : ProtocolProjection} {group : List ProtocolEvent} {txHash : String}
    {emitted : List Event} {s s' : Stand} {k : Context}
    (h : Feeds prior group txHash emitted s (Context.initial prior).still s' k)
    (hm : Mirrors s prior) (ht : Transcribes prior txHash emitted group)
    (hreceipts : ∀ first, Clean (groupChecks prior first group) (.initial prior) ()
      (.initial prior))
    (hclosable : ∀ c, At s' k c → Closable s' group c) :
    ∃ next, accepted prior group = some next ∧ Mirrors s' next
      ∧ next.still = remember k.next group := by
  obtain ⟨c, hclean, hc⟩ := h.replays group (List.Sublist.refl _) ht.bodies (.initial prior)
    ⟨hm.follows, rfl⟩
  have hsorted : sortEvents group = group :=
    sortEvents_of_pairwise (ht.ordered.imp fun hlt => hlt.le)
  rcases hgroup : group with _ | ⟨first, rest⟩
  · subst hgroup
    obtain rfl := (clean_forEach_nil ..).mp hclean
    refine ⟨prior, accepted_eq_some.mpr (Or.inl ⟨hsorted, rfl⟩), ⟨hc.follows, hm.domains⟩, ?_⟩
    rw [← hc.still]
    rfl
  · rw [← hgroup]
    have hbooks := (hclosable c hc).closes first.toEventBase hc.follows
    have hdomains := (hclosable c hc).domains hc.follows
    refine ⟨_, accepted_eq_some.mpr (Or.inr ⟨first, rest, c, _, hsorted.trans hgroup,
      ⟨hm.domains, ?_, ⟨_, hgroup ▸ hreceipts _⟩, hgroup ▸ hclean, hgroup ▸ hbooks⟩, rfl⟩), ?_, ?_⟩
    · exact (hgroup ▸ ht).identity h.fits
    · rw [← hgroup]
      exact ⟨{ hc.follows with }, domains_remember hdomains ht.admissible⟩
    · rw [← hgroup, ← hc.still]
      rfl

end indexer

end CedraReflect
