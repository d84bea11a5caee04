/-
The launch as the indexer sees it.

The launch excludes the primary stores of the two companion publishers, and says
so in two events with the account and the store. The normalizer asks such an
event for a count of remaining slots as well, a field the struct does not have,
so that the feed of no deployment is normalised up to its launch.
-/
import CedraReflect.Journal
import CedraReflect.Reach
import CedraReflect.Transition

set_option autoImplicit false

namespace CedraReflect

open indexer (CedraChainEventEnvelope CedraEventNormalizer ProtocolEvent bind_eq_ok
  Configured of_mapM_eq_ok isType requiredAddress requiredUnsigned requiredBigint asRecord)
open NamedAddresses

section Launch

variable [NamedAddresses] {arithmetic : Arithmetic} {fee_bps : ℕ} {w w' : World}
  {a b c d : Address}

/-! ## The events of the launch -/

/-- A launch that commits leaves the launched state, whose one earlier event is the
token's. -/
theorem launch_launched (hw : Reachable arithmetic fee_bps w)
    (hlaunch : (Call.launch a b c d).Commits arithmetic w w') :
    ∃ now, w' = World.launched fee_bps now [tokenCreated fee_bps] := by
  obtain ⟨hfee, hphase⟩ := hw.phase
  cases hphase with
  | configuring hconfiguring =>
      obtain hstill | ⟨-, -, -, now, rfl⟩ := hconfiguring.call hfee hlaunch.ideal
      · -- The launch leaves the configuring states.
        obtain ⟨faucet, bound, now, rfl⟩ := hconfiguring
        obtain ⟨-, -, -, -, -, -, -, -, heq⟩ := (Tx.commits_launch hfee ()).mp hlaunch.ideal
        obtain ⟨faucet', bound', now', heq'⟩ := hstill
        rw [heq] at heq'
        have hlifecycle := congrArg (fun v : World => v.reflection.lifecycle) heq'
        cases hlifecycle
      · exact ⟨now, rfl⟩
  | launched hlaunched _ =>
      obtain ⟨-, -, -, -, hnone⟩ := Tx.not_commits_configuring w' (r := arithmetic) hlaunched ()
      exact absurd hlaunch (hnone a b c d)

/-- **The feed of a launch**: the token's event, then those of the seed and the seal. -/
theorem launch_events (hw : Reachable arithmetic fee_bps w)
    (hlaunch : (Call.launch a b c d).Commits arithmetic w w') :
    w'.events = [tokenCreated fee_bps] ++ World.seedEvents ++ World.sealEvents fee_bps := by
  obtain ⟨now, rfl⟩ := launch_launched hw hlaunch
  rfl

/-! ## The normalizer on them -/

/-- An envelope of an event, at any place of the ledger. -/
def Carries (envelope : CedraChainEventEnvelope) (event : Event) : Prop :=
  envelope.typeTag = event.typeTag ∧ envelope.data = some event.data

omit [NamedAddresses] in
/-- An exclusion has no count of slots. -/
theorem requiredUnsigned_remaining_slots (account store : Address) (bits : ℕ) (n : ℤ) :
    requiredUnsigned (Event.ProtocolPrimaryStoreExcluded account store).data "remaining_slots" bits
      ≠ .ok n := by
  intro h
  rw [requiredUnsigned, bind_eq_ok] at h
  obtain ⟨parsed, hparsed, -⟩ := h
  cases hparsed

/-- **No envelope of an exclusion is normalised.** -/
theorem normalize_exclusion {normalizer : CedraEventNormalizer} (hn : Configured normalizer)
    {envelope : CedraChainEventEnvelope} {account store : Address}
    (h : Carries envelope (.ProtocolPrimaryStoreExcluded account store))
    (result : Option ProtocolEvent) : normalizer.normalize envelope ≠ .ok result := by
  obtain ⟨htag, hdata⟩ := h
  have hcore : envelope.typeTag = ⟨normalizer.reflectionCore,
      ["reflection_events", "ProtocolPrimaryStoreExcluded"]⟩ := by
    rw [htag, hn.reflectionCore]
    rfl
  intro hok
  rw [CedraEventNormalizer.normalize, hdata, bind_eq_ok] at hok
  obtain ⟨data, hrecord, hok⟩ := hok
  cases hrecord
  rw [bind_eq_ok] at hok
  obtain ⟨eventBase, -, hok⟩ := hok
  rw [bind_eq_ok] at hok
  obtain ⟨body, hbody, -⟩ := hok
  rw [hcore] at hbody
  unfold CedraEventNormalizer.body at hbody
  simp only [isType, List.cons.injEq, and_true, String.reduceEq, and_false, decide_false,
    decide_true, Bool.false_eq_true, if_false, if_true, bind_eq_ok] at hbody
  obtain ⟨_, -, _, -, slots, hslots, -⟩ := hbody
  exact requiredUnsigned_remaining_slots account store 64 slots hslots

/-- The first of the two exclusions. -/
def assetsExcluded : Event :=
  .ProtocolPrimaryStoreExcluded test_assets (.primary .trfl test_assets)

theorem exists_carries {envelopes : List CedraChainEventEnvelope} {events : List Event}
    (h : List.Forall₂ Carries envelopes events) {event : Event}
    (hevent : event ∈ events) : ∃ envelope ∈ envelopes, Carries envelope event := by
  induction h with
  | nil => cases hevent
  | cons hhead _ ih =>
      rcases List.mem_cons.mp hevent with rfl | hevent
      · exact ⟨_, List.mem_cons_self, hhead⟩
      · obtain ⟨envelope, hmem, hcarries⟩ := ih hevent
        exact ⟨envelope, List.mem_cons_of_mem _ hmem, hcarries⟩

/-- **No launch is replayed from genesis**: with every configuration that launches, at
every place of the ledger, the feed of the deployment up to its launch has an event that the
normalizer refuses, so that the feed as a whole is not normalised. -/
theorem genesis_replay (hw : Reachable arithmetic fee_bps w)
    (hlaunch : (Call.launch a b c d).Commits arithmetic w w') {normalizer : CedraEventNormalizer}
    (hn : Configured normalizer) {envelopes : List CedraChainEventEnvelope}
    (hfeed : List.Forall₂ Carries envelopes w'.events) :
    (∃ envelope ∈ envelopes, Carries envelope assetsExcluded
      ∧ ∀ result, normalizer.normalize envelope ≠ .ok result)
    ∧ ∀ events, envelopes.mapM normalizer.normalize ≠ .ok events := by
  have hmem : assetsExcluded ∈ w'.events := by
    rw [launch_events hw hlaunch]
    simp [assetsExcluded, World.seedEvents]
  obtain ⟨envelope, henvelope, hcarries⟩ := exists_carries hfeed hmem
  have hrefused := normalize_exclusion hn hcarries
  refine ⟨⟨envelope, henvelope, hcarries, hrefused⟩, ?_⟩
  intro events hevents
  obtain ⟨result, hresult⟩ := of_mapM_eq_ok hevents envelope henvelope
  exact hrefused result hresult

end Launch

/-! ## A launch -/

namespace Sample

/-- The launch, with a fee of one half percent. -/
def genesis : Option (World × World) := do
  let w ← script .machine .unpublished [.initialize_token (.account 1) 50]
  let w' ← script .machine w [.launch (.account 1) (.account 2) (.account 3) (.account 4)]
  pure (w, w')

theorem exists_genesis : ∃ w w', Reachable .machine 50 w
    ∧ (Call.launch (.account 1) (.account 2) (.account 3) (.account 4)).Commits .machine w w' := by
  obtain ⟨⟨w, w'⟩, hgenesis⟩ : ∃ p, genesis = some p :=
    Option.isSome_iff_exists.mp (by decide +kernel)
  simp only [genesis, Option.bind_eq_bind, Option.bind_eq_some_iff, Option.pure_def,
    Option.some.injEq, Prod.mk.injEq] at hgenesis
  obtain ⟨v, hv, v', hv', rfl, rfl⟩ := hgenesis
  refine ⟨v, v', reachable_of_script hv, ?_⟩
  cases calls_of_script hv' with
  | cons hcall hnil =>
      cases hnil
      exact hcall

def normalizer : CedraEventNormalizer where
  reflectionCore := .account 1
  testAssets := .account 2
  testAmm := .account 3
  nonzero := by decide
  distinct := by decide

theorem normalizer_configured : Configured normalizer := ⟨rfl, rfl, rfl⟩

/-- The exclusion of the assets' publisher, as the node returns it. -/
def exclusionEnvelope : CedraChainEventEnvelope :=
  ⟨assetsExcluded.typeTag, some assetsExcluded.data, "0x1", 2, 3, 0⟩

/-- What the normalizer says of the exclusion. -/
theorem exclusion_refused :
    (∃ w w', Reachable .machine 50 w
      ∧ (Call.launch (.account 1) (.account 2) (.account 3) (.account 4)).Commits .machine w w'
      ∧ assetsExcluded ∈ w'.events)
    ∧ Carries exclusionEnvelope assetsExcluded
    ∧ normalizer.normalize exclusionEnvelope
      = .error "Cedra event field remaining_slots must be a non-negative integer" := by
  obtain ⟨w, w', hw, hlaunch⟩ := exists_genesis
  refine ⟨⟨w, w', hw, hlaunch, ?_⟩, ⟨rfl, rfl⟩, rfl⟩
  rw [launch_events hw hlaunch]
  simp [assetsExcluded, World.seedEvents]

/-- One envelope an event, from the position `index` on. -/
def feed : ℕ → List Event → List CedraChainEventEnvelope
  | _, [] => []
  | index, event :: events =>
      ⟨event.typeTag, some event.data, "0x1", 2, index, 0⟩ :: feed (index + 1) events

theorem feed_carries (index : ℕ) (events : List Event) :
    List.Forall₂ Carries (feed index events) events := by
  induction events generalizing index with
  | nil => exact .nil
  | cons event events ih => exact .cons ⟨rfl, rfl⟩ (ih (index + 1))

/-- The launch of the sample is not replayed. -/
theorem genesis_replay_refused : ∃ w w', Reachable .machine 50 w
    ∧ (Call.launch (.account 1) (.account 2) (.account 3) (.account 4)).Commits .machine w w'
    ∧ ∀ events, (feed 0 w'.events).mapM normalizer.normalize ≠ .ok events := by
  obtain ⟨w, w', hw, hlaunch⟩ := exists_genesis
  exact ⟨w, w', hw, hlaunch,
    (genesis_replay hw hlaunch normalizer_configured (feed_carries 0 w'.events)).2⟩

end Sample

end CedraReflect
