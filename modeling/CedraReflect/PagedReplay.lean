/-
Replay does not depend on how a history is paged.

An indexer that polls a source for its own cursor stands at a prefix of the
finalized history ([`StandsAt`]): its projection is the fold of
`reduceEventGroup` over the transactions of the prefix, its cursor that of the
prefix's last event. A poll moves it forward over the new transactions of the
page, in ledger order, up to the first one that is rejected.
-/
import CedraReflect.EventIndexer

set_option autoImplicit false
set_option linter.constructorNameAsVariable false

namespace CedraReflect.indexer

open Paging

/-! ## Histories -/

/-- A transaction replays without an alert, and to what. -/
def accepted (projection : ProtocolProjection) (transaction : List ProtocolEvent) :
    Option ProtocolProjection :=
  match reduceEventGroup projection transaction with
  | .ok ⟨next, []⟩ => some next
  | _ => none

/-- The fold of `reduceEventGroup`, from the empty projection. -/
def replayed (transactions : List (List ProtocolEvent)) : Option ProtocolProjection :=
  replay accepted createEmptyProjection transactions

/-- The cursor of the last event. -/
def cursorAt (transactions : List (List ProtocolEvent)) : Option EventCursor :=
  transactions.flatten.getLast?.map fun event => event.cursor

/-- The transactions of a finalized ledger, in its order. -/
def Finalized (history : List (List ProtocolEvent)) : Prop :=
  IsLog (fun event : ProtocolEvent => event.cursor.place) (fun event => event.ledgerVersion) history

/-- The replica after the first `n` transactions of a history. -/
structure StandsAt (history : List (List ProtocolEvent)) (n : ℕ) (replica : Replica) : Prop where
  le : n ≤ history.length
  projection : replayed (history.take n) = some replica.projection
  cursor : replica.cursor = cursorAt (history.take n)

/-- A transaction that no cursor of the prefix covers. -/
def isNew (cursor : Option EventCursor) (transaction : List ProtocolEvent) : Bool :=
  transaction.all fun event => event.after cursor

/-- **A page for a cursor.** Whole transactions, none of them twice and in no
particular order: some that are replayed already and the `next` ones. -/
structure Serves (history : List (List ProtocolEvent)) (cursor : Option EventCursor)
    (events : List ProtocolEvent) (next : List (List ProtocolEvent)) : Prop where
  contiguous : next <+: history.filter (isNew cursor)
  whole : ∃ old, old.Sublist (history.filter fun transaction => !isNew cursor transaction) ∧
    events.Perm (old ++ next).flatten

namespace Sample

/-- An event of the transaction at version `v`. -/
def event (v i : ℤ) (id : String) (body : EventBody) : ProtocolEvent :=
  ⟨⟨id, "0x" , v, i, 1_000, .chain⟩, body⟩

/-- The launch of a deployment that charges 1 %, by the bootstrap account 1. -/
def launch : List ProtocolEvent :=
  [ event 7 0 "7:0" (.TokenCreated
      ⟨"v0.2", "cedra-reflect", "cedra-testnet", .metadata .trfl, .reward_vault,
        .distribution_vault, 100, 1_000_000_000_000_000, 6, "testnet-v0.2.0"⟩),
    event 7 1 "7:1" (.PoolReserveBound .usd_reserve (.account 4)),
    event 7 2 "7:2" (.CustodyAdapterRegistered ⟨1, .rfl_reserve, 1, .lp_reward_vault⟩),
    event 7 3 "7:3" (.LpEpochOpened ⟨1, .lp_epoch_state, .lp_reward_vault⟩),
    event 7 4 "7:4" (.WalletRegistered ⟨.account 1, .primary .trfl (.account 1), 1⟩),
    event 7 5 "7:5" (.CustodySharesChanged ⟨true, 500_000_000, 500_000_000, 500_000_000⟩),
    event 7 6 "7:6" (.LpSharesChanged
      ⟨1, .account 1, true, 500_000_000, 500_000_000, 500_000_000⟩),
    event 7 7 "7:7" (.LaunchSealed
      ⟨"v0.2", 100, 30, 2_000, 100_000_000_000, 100_000_000_000, 100_000_000_000, 10_000,
        1_000_000_000, 1_000_000_000, 3_600, .account 1, .rfl_reserve, .usd_reserve,
        .lp_reward_vault, 500_000_000, 500_000_000, 500_000_000⟩),
    event 7 8 "7:8" (.LiquiditySeeded
      ⟨1, .account 1, 500_000_000, 500_000_000, 500_000_000, 500_000_000, 500_000_000⟩) ]

/-- The launch, and the registration of a wallet after it. -/
def history : List (List ProtocolEvent) :=
  [launch, [event 8 0 "8:0" (.WalletRegistered ⟨.account 2, .primary .trfl (.account 2), 2⟩)]]

/-- Both transactions, the last event first. -/
def page : EventPage := ⟨2, history.flatten.reverse, none⟩

theorem history_finalized : Finalized history where
  nonempty := by decide
  same := by decide
  apart := by decide
  ordered := by decide +kernel

theorem page_serves : Serves history Replica.new.cursor page.events history where
  contiguous := by
    rw [List.filter_eq_self.mpr]
    intro transaction _
    simp [isNew, EventBase.after, Replica.new]
  whole := ⟨[], List.nil_sublist _, List.reverse_perm _⟩

end Sample

/-! ## A replica as a reader of a log -/

section Reader

theorem after_cursorAt (done : List (List ProtocolEvent)) (event : ProtocolEvent) :
    event.after (cursorAt done) = decide (∀ last ∈ done.flatten.getLast?,
      last.cursor.place < event.cursor.place) := by
  unfold EventBase.after cursorAt
  rcases done.flatten.getLast? with _ | last
  · simp
  · simp [compareCursor_pos_iff]

variable {history : List (List ProtocolEvent)} {n : ℕ} {replica : Replica}

/-- What is past the cursor after a prefix is what follows the prefix. -/
theorem Finalized.isNew_iff (hlog : Finalized history) {done rest : List (List ProtocolEvent)}
    (hsplit : history = done ++ rest) :
    history.filter (isNew (cursorAt done)) = rest ∧
      history.filter (fun transaction => !isNew (cursorAt done) transaction) = done := by
  subst hsplit
  have hdone : ∀ t ∈ done, isNew (cursorAt done) t = false := by
    intro t ht
    have hfresh := IsLog.fresh hlog (List.singleton_sublist.mpr ht) (List.nil_sublist rest)
    obtain ⟨x, xs, rfl⟩ := List.exists_cons_of_ne_nil
      (hlog.nonempty t (List.mem_append_left _ ht))
    simp only [List.append_nil, List.flatten_cons, List.flatten_nil, List.filter_eq_nil_iff,
      ← after_cursorAt] at hfresh
    have hx := hfresh x List.mem_cons_self
    simp [isNew, hx]
  have hrest : ∀ t ∈ rest, isNew (cursorAt done) t = true := by
    intro t ht
    have hfresh := IsLog.fresh hlog (List.nil_sublist done) (List.singleton_sublist.mpr ht)
    simp only [List.nil_append, List.flatten_cons, List.flatten_nil, List.append_nil,
      List.filter_eq_self, ← after_cursorAt] at hfresh
    simpa [isNew] using hfresh
  constructor
  · rw [List.filter_append, List.filter_eq_nil_iff.mpr fun t ht => by simp [hdone t ht],
      List.filter_eq_self.mpr hrest, List.nil_append]
  · rw [List.filter_append, List.filter_eq_self.mpr fun t ht => by simp [hdone t ht],
      List.filter_eq_nil_iff.mpr fun t ht => by simp [hrest t ht], List.append_nil]

/-- One transaction, as `applyGroups` treats it. -/
def Replica.accept (replica : Replica) : List ProtocolEvent → Option Replica
  | [] => some replica
  | first :: others =>
      if first.after replica.cursor = false then none
      else (accepted replica.projection (first :: others)).map fun projection =>
        ⟨projection, replica.reference + 1,
          (first :: others).getLast?.map fun last => last.cursor⟩

/-- The loop of `processOwned` advances the replica and reports the refusal. -/
theorem Replica.applyGroups_spec (replica : Replica) (processed : ℕ)
    (groups : List (List ProtocolEvent)) :
    (replica.applyGroups processed groups).1 = (advance Replica.accept replica groups).1 ∧
      ∀ counts, (replica.applyGroups processed groups).2 = .ok counts →
        (counts.2.2 = [] ↔ (advance Replica.accept replica groups).2 = []) ∧
        ∀ first others, (advance Replica.accept replica groups).2.head? = some (first :: others) →
          first.after (advance Replica.accept replica groups).1.cursor = true →
          ∃ projection, reduceEventGroup (advance Replica.accept replica groups).1.projection
            (first :: others) = .ok ⟨projection, counts.2.2⟩ := by
  induction groups generalizing replica processed with
  | nil =>
      refine ⟨by simp [applyGroups, advance], ?_⟩
      intro counts hcounts
      simp only [applyGroups, Except.ok.injEq] at hcounts
      subst hcounts
      simp [advance]
  | cons group groups ih =>
      rcases group with _ | ⟨first, others⟩
      · simpa [applyGroups, advance, accept] using ih replica processed
      · by_cases hafter : first.after replica.cursor = false
        · refine ⟨by simp [applyGroups, advance, accept, hafter], ?_⟩
          intro counts hcounts
          simp only [applyGroups, hafter, if_true, Except.ok.injEq] at hcounts
          subst hcounts
          simp [advance, accept, hafter]
        · rcases hgroup : reduceEventGroup replica.projection (first :: others) with
            thrown | ⟨projection, alerts⟩
          · simp [applyGroups, advance, accept, accepted, hafter, hgroup]
          · rcases alerts with _ | ⟨alert, alerts⟩
            · simpa [applyGroups, advance, accept, accepted, hafter, hgroup] using
                ih ⟨projection, replica.reference + 1,
                  (first :: others).getLast?.map fun last => last.cursor⟩
                  (processed + (first :: others).length)
            · refine ⟨by simp [applyGroups, advance, accept, accepted, hafter, hgroup], ?_⟩
              intro counts hcounts
              simp only [applyGroups, hafter, hgroup, Bool.true_eq_false, if_false,
                Except.ok.injEq] at hcounts
              subst hcounts
              simp [advance, accept, accepted, hafter, hgroup]

/-- One more transaction. -/
theorem StandsAt.accept (h : StandsAt history n replica) {transaction : List ProtocolEvent}
    {rest : List (List ProtocolEvent)} (hdrop : history.drop n = transaction :: rest)
    (hne : transaction ≠ []) {replica' : Replica}
    (haccept : replica.accept transaction = some replica') : StandsAt history (n + 1) replica' := by
  have hlt : n < history.length := by
    by_contra hge
    rw [List.drop_of_length_le (by omega)] at hdrop
    exact absurd hdrop (by simp)
  have htake : history.take (n + 1) = history.take n ++ [transaction] := by
    rw [List.take_add, hdrop, List.take_succ_cons, List.take_zero]
  obtain ⟨first, others, rfl⟩ := List.exists_cons_of_ne_nil hne
  rw [Replica.accept] at haccept
  by_cases hafter : first.after replica.cursor = false
  · rw [if_pos hafter] at haccept
    exact absurd haccept (by simp)
  · rw [if_neg hafter, Option.map_eq_some_iff] at haccept
    obtain ⟨projection, hprojection, rfl⟩ := haccept
    refine ⟨by omega, ?_, ?_⟩
    · have hreplayed := h.projection
      unfold replayed at hreplayed ⊢
      rw [htake, replay_append, hreplayed]
      simp [replay, hprojection]
    · show _ = cursorAt _
      unfold cursorAt
      rw [htake, List.flatten_append, List.flatten_singleton, List.getLast?_append,
        List.getLast?_eq_some_getLast hne, Option.some_or]

/-- A run of transactions, all of them accepted. -/
theorem StandsAt.replay (hlog : Finalized history) (h : StandsAt history n replica)
    {done rest : List (List ProtocolEvent)} (hdrop : history.drop n = done ++ rest)
    {replica' : Replica} (hreplay : replay Replica.accept replica done = some replica') :
    StandsAt history (n + done.length) replica' := by
  induction done generalizing n replica with
  | nil =>
      rw [Paging.replay, List.foldlM_nil] at hreplay
      obtain rfl := Option.some_injective _ hreplay
      exact h
  | cons transaction done ih =>
      rw [Paging.replay, List.foldlM_cons] at hreplay
      obtain ⟨between, hbetween, hthen⟩ := Option.bind_eq_some_iff.mp hreplay
      have hmem : transaction ∈ history := List.mem_of_mem_drop (by rw [hdrop]; simp)
      have hstep := h.accept hdrop (hlog.nonempty transaction hmem) hbetween
      have hdrop' : history.drop (n + 1) = done ++ rest := by
        rw [← List.drop_drop, hdrop, List.cons_append, List.drop_succ_cons, List.drop_zero]
      have hdone := ih hstep hdrop' hthen
      rw [List.length_cons]
      rwa [show n + (done.length + 1) = n + 1 + done.length by omega]

/-- Where a replica at a prefix stands in the log. -/
theorem StandsAt.isNew_iff (hlog : Finalized history) (h : StandsAt history n replica) :
    history.filter (isNew replica.cursor) = history.drop n ∧
      history.filter (fun transaction => !isNew replica.cursor transaction) = history.take n := by
  rw [h.cursor]
  exact hlog.isNew_iff (List.take_append_drop n history).symm

/-- The groups that `processOwned` makes of a page are its new transactions. -/
theorem StandsAt.groups (hlog : Finalized history) (h : StandsAt history n replica)
    {events : List ProtocolEvent} {next : List (List ProtocolEvent)}
    (hpage : Serves history replica.cursor events next) :
    group (fun event : ProtocolEvent => event.ledgerVersion)
      ((Replica.sortPage events).filter fun event => event.after replica.cursor) = next := by
  obtain ⟨hnew, hseen⟩ := h.isNew_iff hlog
  obtain ⟨old, hold, hperm⟩ := hpage.whole
  have hcontiguous := hpage.contiguous
  rw [hnew] at hcontiguous
  rw [hseen] at hold
  have hnext : next.Sublist (history.drop n) := hcontiguous.sublist
  have hsub : (old ++ next).Sublist history := by
    have happend := List.Sublist.append hold hnext
    rwa [List.take_append_drop] at happend
  have hsorted : Replica.sortPage events = (old ++ next).flatten := by
    refine (IsLog.sublist hlog hsub).sort hperm _ ?_
    intro x y
    rw [decide_eq_true_eq, compareCursor_nonpos_iff]
  have hsplit : IsLog (fun event : ProtocolEvent => event.cursor.place)
      (fun event => event.ledgerVersion) (history.take n ++ history.drop n) := by
    rw [List.take_append_drop]
    exact hlog
  have hfresh := hsplit.fresh hold hnext
  simp only [← after_cursorAt, ← h.cursor] at hfresh
  rw [hsorted, hfresh]
  exact (IsLog.sublist hlog (hnext.trans (List.drop_sublist n history))).group

/-- A page that is processed. -/
theorem StandsAt.process (hlog : Finalized history) (h : StandsAt history n replica)
    {events : List ProtocolEvent} {next : List (List ProtocolEvent)}
    (hpage : Serves history replica.cursor events next) :
    (replica.process events).1 = (advance Replica.accept replica next).1 := by
  unfold Replica.process
  simp only [h.groups hlog hpage]
  rw [← (replica.applyGroups_spec 0 next).1]
  rcases replica.applyGroups 0 next with ⟨replica', thrown | ⟨a, b, c⟩⟩ <;> rfl

/-- A page that is delivered again, to the replica it led to. -/
theorem StandsAt.redelivered (hlog : Finalized history) (h : StandsAt history n replica)
    {events : List ProtocolEvent} {done left : List (List ProtocolEvent)}
    (hpage : Serves history replica.cursor events (done ++ left)) {replica' : Replica}
    (h' : StandsAt history (n + done.length) replica') :
    Serves history replica'.cursor events left := by
  obtain ⟨hnew, hseen⟩ := h.isNew_iff hlog
  obtain ⟨hnew', hseen'⟩ := h'.isNew_iff hlog
  obtain ⟨old, hold, hperm⟩ := hpage.whole
  have hcontiguous := hpage.contiguous
  rw [hnew] at hcontiguous
  obtain ⟨rest, hrest⟩ := hcontiguous
  have htake : history.take (n + done.length) = history.take n ++ done := by
    rw [List.take_add, ← hrest, List.append_assoc, List.take_left]
  have hdrop : history.drop (n + done.length) = left ++ rest := by
    rw [← List.drop_drop, ← hrest, List.append_assoc, List.drop_left]
  constructor
  · rw [hnew', hdrop]
    exact List.prefix_append left rest
  · refine ⟨old ++ done, ?_, ?_⟩
    · rw [hseen', htake]
      rw [hseen] at hold
      exact hold.append (List.Sublist.refl done)
    · rwa [List.append_assoc]

/-! ## Polls -/

/-- A poll that gets a page of its chain. -/
theorem Replica.pollOnce_fst {limit : ℤ} (hlimit : 1 ≤ limit ∧ limit ≤ 10_000) {page : EventPage}
    (hchain : page.chainId = CEDRA_TESTNET_CHAIN_ID) (persisted : Except Text Unit) :
    (replica.pollOnce limit (.ok page) persisted).1 = (replica.process page.events).1 := by
  unfold pollOnce
  rw [if_neg (by omega)]
  simp only [hchain, ne_eq, not_true_eq_false, if_false]
  rcases replica.process page.events with ⟨replica', thrown | result⟩
  · rfl
  · by_cases halerts : result.alerts = []
    · simp [halerts]
    · rcases persisted with failure | ⟨⟩ <;> simp [halerts]

/-- What such a poll returns, when it returns, is what processing returned. -/
theorem Replica.pollOnce_ok {limit : ℤ} {page : EventPage} {persisted : Except Text Unit}
    {result : ProcessResult} (hpoll : (replica.pollOnce limit (.ok page) persisted).2 = .ok result) :
    (replica.process page.events).2 = .ok result := by
  unfold pollOnce at hpoll
  by_cases hlimit : limit < 1 ∨ 10_000 < limit
  · simp [hlimit] at hpoll
  · by_cases hchain : page.chainId = CEDRA_TESTNET_CHAIN_ID
    · simp only [hlimit, if_false, hchain, ne_eq, not_true_eq_false] at hpoll
      rcases hprocess : replica.process page.events with ⟨replica', thrown | result'⟩
      · simp [hprocess] at hpoll
      · by_cases halerts : result'.alerts = []
        · simpa [hprocess, halerts] using hpoll
        · rcases persisted with failure | ⟨⟩
          · simp [hprocess, halerts] at hpoll
          · simpa [hprocess, halerts] using hpoll
    · simp [hlimit, hchain] at hpoll

/-- The replicas that polls of a source lead to, whatever the source answers
otherwise, the limits are and the journal does. -/
inductive Polled (history : List (List ProtocolEvent)) : Replica → Prop
  | new : Polled history .new
  | poll {replica : Replica} (limit : ℤ) (page : Except Text EventPage)
      (persisted : Except Text Unit) (hpolled : Polled history replica)
      (hpage : ∀ served, page = .ok served → served.chainId = CEDRA_TESTNET_CHAIN_ID →
        ∃ next, Serves history replica.cursor served.events next) :
      Polled history (replica.pollOnce limit page persisted).1

/-- A poll that gets nothing of its chain moves nothing. -/
theorem Replica.pollOnce_idle {limit : ℤ} {page : Except Text EventPage}
    {persisted : Except Text Unit}
    (hidle : ¬ (1 ≤ limit ∧ limit ≤ 10_000) ∨
      ∀ served, page = .ok served → served.chainId ≠ CEDRA_TESTNET_CHAIN_ID) :
    (replica.pollOnce limit page persisted).1 = replica := by
  unfold pollOnce
  by_cases hlimit : limit < 1 ∨ 10_000 < limit
  · rw [if_pos hlimit]
  · rw [if_neg hlimit]
    rcases page with failure | served
    · rfl
    · have hchain := hidle.resolve_left (by omega) served rfl
      simp [hchain]

/-- One page that serves the cursor, in terms of the log. -/
theorem StandsAt.page (hlog : Finalized history) (h : StandsAt history n replica)
    {events : List ProtocolEvent} {next : List (List ProtocolEvent)}
    (hpage : Serves history replica.cursor events next) :
    ∃ done left, next = done ++ left ∧
      StandsAt history (n + done.length) (replica.process events).1 ∧
      (replica.process events).1 = (advance Replica.accept replica next).1 ∧
      left = (advance Replica.accept replica next).2 := by
  obtain ⟨done, hnext, hreplay, _⟩ := advance_spec Replica.accept replica next
  obtain ⟨rest, hrest⟩ := hpage.contiguous
  rw [(h.isNew_iff hlog).1] at hrest
  have hprocess := h.process hlog hpage
  refine ⟨done, (advance Replica.accept replica next).2, hnext, ?_, hprocess, rfl⟩
  rw [hprocess]
  have hdrop : history.drop n
      = done ++ ((advance Replica.accept replica next).2 ++ rest) := by
    rw [← List.append_assoc, ← hnext, hrest]
  exact h.replay hlog hdrop hreplay

theorem StandsAt.new : StandsAt history 0 .new :=
  ⟨Nat.zero_le _, by simp [replayed, Paging.replay, Replica.new], by simp [cursorAt, Replica.new]⟩

/-- **Every polled replica stands at a prefix.** -/
theorem Polled.standsAt (hlog : Finalized history) (hpolled : Polled history replica) :
    ∃ n, StandsAt history n replica := by
  induction hpolled with
  | new => exact ⟨0, StandsAt.new⟩
  | @poll replica limit page persisted _ hpage ih =>
      obtain ⟨n, hn⟩ := ih
      by_cases hserved : (1 ≤ limit ∧ limit ≤ 10_000) ∧
          ∃ served, page = .ok served ∧ served.chainId = CEDRA_TESTNET_CHAIN_ID
      · obtain ⟨hlimit, served, rfl, hchain⟩ := hserved
        obtain ⟨next, hnext⟩ := hpage served rfl hchain
        obtain ⟨done, _, _, hstands, _⟩ := hn.page hlog hnext
        rw [Replica.pollOnce_fst hlimit hchain]
        exact ⟨n + done.length, hstands⟩
      · have hidle : ¬ (1 ≤ limit ∧ limit ≤ 10_000) ∨
            ∀ served, page = .ok served → served.chainId ≠ CEDRA_TESTNET_CHAIN_ID := by
          by_cases hlimit : 1 ≤ limit ∧ limit ≤ 10_000
          · right
            intro served hserved' hchain
            exact hserved ⟨hlimit, served, hserved', hchain⟩
          · exact .inl hlimit
        rw [Replica.pollOnce_idle hidle]
        exact ⟨n, hn⟩

/-- **A transaction that is rejected.** The head of what a page leaves over is
refused by `reduceEventGroup`, and its alerts are those that are reported. -/
theorem StandsAt.rejected (hlog : Finalized history) (h : StandsAt history n replica)
    {events : List ProtocolEvent} {next : List (List ProtocolEvent)}
    (hpage : Serves history replica.cursor events next) {m : ℕ}
    (h' : StandsAt history m (advance Replica.accept replica next).1)
    {transaction : List ProtocolEvent} {left rest : List (List ProtocolEvent)}
    (hleft : (advance Replica.accept replica next).2 = transaction :: left)
    (hdrop : history.drop m = transaction :: rest) :
    accepted (advance Replica.accept replica next).1.projection transaction = none ∧
      ∀ result, (replica.process events).2 = .ok result →
        ∃ projection, reduceEventGroup (advance Replica.accept replica next).1.projection transaction
          = .ok ⟨projection, result.alerts⟩ := by
  have hmem : transaction ∈ history := List.mem_of_mem_drop (by rw [hdrop]; simp)
  obtain ⟨first, others, rfl⟩ := List.exists_cons_of_ne_nil (hlog.nonempty transaction hmem)
  -- A transaction past the prefix is past its cursor, so the order check lets it through.
  have hafter : first.after (advance Replica.accept replica next).1.cursor = true := by
    have hnew : (first :: others) ∈ history.filter
        (isNew (advance Replica.accept replica next).1.cursor) := by
      rw [(h'.isNew_iff hlog).1, hdrop]
      exact List.mem_cons_self
    exact List.all_eq_true.mp (List.mem_filter.mp hnew).2 first List.mem_cons_self
  constructor
  · obtain ⟨_, _, _, hhead⟩ := advance_spec Replica.accept replica next
    have hrefused := hhead (first :: others) (by rw [hleft]; rfl)
    rw [Replica.accept, if_neg (by simp [hafter]), Option.map_eq_none_iff] at hrefused
    exact hrefused
  · intro result hresult
    have hspec := (replica.applyGroups_spec 0 next).2
    unfold Replica.process at hresult
    simp only [h.groups hlog hpage] at hresult
    rcases hgroups : replica.applyGroups 0 next with ⟨replica', thrown | ⟨a, b, alerts⟩⟩
    · simp [hgroups] at hresult
    · rw [hgroups] at hspec hresult
      have halerts : result.alerts = alerts := by
        rw [← Except.ok.inj hresult]
      rw [halerts]
      exact (hspec (a, b, alerts) rfl).2 first others (by rw [hleft]; rfl) hafter

/-- What processing a page that holds the `next` transactions leads to: the
`m`th, which is rejected if it is one of them. -/
structure Processed (history : List (List ProtocolEvent)) (n : ℕ)
    (next : List (List ProtocolEvent)) (processed : Replica × Except Text ProcessResult) (m : ℕ) :
    Prop where
  from_le : n ≤ m
  le_to : m ≤ n + next.length
  standsAt : StandsAt history m processed.1
  complete : ∀ result, processed.2 = .ok result → (result.alerts = [] ↔ m = n + next.length)
  rejected : ∀ transaction, m < n + next.length → history[m]? = some transaction →
    accepted processed.1.projection transaction = none ∧
      ∀ result, processed.2 = .ok result → ∃ projection,
        reduceEventGroup processed.1.projection transaction = .ok ⟨projection, result.alerts⟩

/-- **A page is processed** up to the first of its transactions that is rejected. -/
theorem StandsAt.processed (hlog : Finalized history) (h : StandsAt history n replica)
    {events : List ProtocolEvent} {next : List (List ProtocolEvent)}
    (hpage : Serves history replica.cursor events next) :
    ∃ m, Processed history n next (replica.process events) m := by
  obtain ⟨done, left, hnext, hstands, hprocess, hleft⟩ := h.page hlog hpage
  have hlength : next.length = done.length + left.length := by rw [hnext, List.length_append]
  refine ⟨n + done.length, by omega, by omega, hstands, ?_, ?_⟩
  · intro result hresult
    unfold Replica.process at hresult
    simp only [h.groups hlog hpage] at hresult
    have hspec := (replica.applyGroups_spec 0 next).2
    rcases hgroups : replica.applyGroups 0 next with ⟨replica', thrown | ⟨a, b, alerts⟩⟩
    · simp [hgroups] at hresult
    · rw [hgroups] at hspec hresult
      rw [← Except.ok.inj hresult]
      rw [(hspec (a, b, alerts) rfl).1, ← hleft, ← List.length_eq_zero_iff]
      omega
  · intro transaction hshort htransaction
    obtain ⟨rest, hrest⟩ := hpage.contiguous
    rw [(h.isNew_iff hlog).1, hnext, List.append_assoc] at hrest
    have hdrop : history.drop (n + done.length) = left ++ rest := by
      rw [← List.drop_drop, ← hrest, List.drop_left]
    -- What is left of the page starts with the transaction that was rejected.
    rcases left with _ | ⟨head, left⟩
    · simp at hlength
      omega
    · have hhead : head = transaction := by
        have hget : (history.drop (n + done.length))[0]? = some head := by
          rw [hdrop]
          rfl
        rw [List.getElem?_drop, Nat.add_zero, htransaction] at hget
        exact (Option.some_injective _ hget).symm
      subst hhead
      rw [hprocess] at hstands ⊢
      exact h.rejected hlog hpage hstands hleft.symm hdrop

/-- **Exactly once, atomically and page by page.** Whatever a source answers, a
polled indexer stands at a prefix of the history. A poll whose page holds the
`next` transactions moves it from the `n`th to the `m`th. If `m` falls short of
all of them, the transaction there is rejected from the very projection that the
indexer keeps, with the alerts that the poll returns; and a page that is
delivered again changes nothing. -/
theorem replay_exactly_once (hlog : Finalized history) (hpolled : Polled history replica) :
    ∃ n, StandsAt history n replica ∧
      ∀ (limit : ℤ) (page : EventPage) (next : List (List ProtocolEvent))
        (persisted : Except Text Unit), 1 ≤ limit → limit ≤ 10_000 →
        page.chainId = CEDRA_TESTNET_CHAIN_ID → Serves history replica.cursor page.events next →
        ∃ m, n ≤ m ∧ m ≤ n + next.length ∧
          StandsAt history m (replica.pollOnce limit (.ok page) persisted).1 ∧
          (∀ result, (replica.pollOnce limit (.ok page) persisted).2 = .ok result →
            (result.alerts = [] ↔ m = n + next.length)) ∧
          (∀ transaction, m < n + next.length → history[m]? = some transaction →
            accepted (replica.pollOnce limit (.ok page) persisted).1.projection transaction = none ∧
            ∀ result, (replica.pollOnce limit (.ok page) persisted).2 = .ok result →
              ∃ projection, reduceEventGroup
                (replica.pollOnce limit (.ok page) persisted).1.projection transaction
                  = .ok ⟨projection, result.alerts⟩) ∧
          ∀ again, ((replica.pollOnce limit (.ok page) persisted).1.pollOnce limit (.ok page) again).1
            = (replica.pollOnce limit (.ok page) persisted).1 := by
  obtain ⟨n, hn⟩ := hpolled.standsAt hlog
  refine ⟨n, hn, ?_⟩
  intro limit page next persisted hlow hhigh hchain hpage
  obtain ⟨m, hm⟩ := hn.processed hlog hpage
  rw [Replica.pollOnce_fst ⟨hlow, hhigh⟩ hchain]
  refine ⟨m, hm.from_le, hm.le_to, hm.standsAt, ?_, ?_, ?_⟩
  · intro result hresult
    exact hm.complete result (Replica.pollOnce_ok hresult)
  · intro transaction hshort htransaction
    obtain ⟨hrefused, hreported⟩ := hm.rejected transaction hshort htransaction
    refine ⟨hrefused, ?_⟩
    intro result hresult
    exact hreported result (Replica.pollOnce_ok hresult)
  · intro again
    -- The part that was done is not newer than the cursor any more, and the rest is rejected again.
    obtain ⟨done, left, hnext, hstands, hprocess, hleft⟩ := hn.page hlog hpage
    have hagain : Serves history (replica.process page.events).1.cursor page.events left :=
      hn.redelivered hlog (hnext ▸ hpage) hstands
    rw [Replica.pollOnce_fst ⟨hlow, hhigh⟩ hchain, hstands.process hlog hagain, hleft, hprocess,
      advance_left]

end Reader

theorem replay_exactly_once_launched :
    ∃ n, StandsAt Sample.history n .new ∧ ∃ m, n ≤ m ∧ m ≤ n + 2 ∧
      StandsAt Sample.history m (Replica.new.pollOnce 200 (.ok Sample.page) (.ok ())).1 := by
  obtain ⟨n, hn, hpoll⟩ := replay_exactly_once Sample.history_finalized .new
  obtain ⟨m, hlow, hhigh, hm, _⟩ := hpoll 200 Sample.page Sample.history (.ok ()) (by decide)
    (by decide) (by decide) Sample.page_serves
  exact ⟨n, hn, m, hlow, hhigh, hm⟩

end CedraReflect.indexer
