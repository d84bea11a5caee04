/-
Aborts that a computation does not end in.

[`Avoids`] is about one computation in one environment and state: whatever it
aborts with, it is not one of the designated reasons. It is followed through a
`do` block step by step: what the rest of the block may use about the state it
starts in is what the steps before it committed.

A computation that cannot end so in any state is one that [`Spares`] the
reasons. That is a class, so that nothing has to be said about such steps. One
that cannot end so while an invariant holds, and keeps the invariant where it
commits, [`Shelters`] it, and of that too a block is made of its steps.
-/
import CedraReflect.Transaction

set_option autoImplicit false

namespace CedraReflect.Tx

variable {ρ σ ε α β γ : Type}

/-- Started in `s` under `r`, the computation does not abort for a reason in `bad`. -/
def Avoids (bad : ε → Prop) (m : Tx ρ σ ε α) (r : ρ) (s : σ) : Prop :=
  ∀ e, m r s = .error e → ¬ bad e

/-- In no state does the computation abort for a reason in `bad`. -/
class Spares (bad : ε → Prop) (r : ρ) (m : Tx ρ σ ε α) : Prop where
  avoids : ∀ s, Avoids bad m r s

/-- A reason that is not in `bad`. -/
class Spared (bad : ε → Prop) (e : ε) : Prop where
  not_bad : ¬ bad e

variable {bad : ε → Prop} {r r' : ρ} {s : σ} {m : Tx ρ σ ε α} {k : α → Tx ρ σ ε β}

/-! ## Steps that are spared -/

theorem spares [h : Spares bad r m] : Avoids bad m r s := h.avoids s

instance (a : α) : Spares bad r (pure a : Tx ρ σ ε α) := ⟨fun _ _ h => by cases h⟩

instance (f : σ → γ) : Spares bad r (gets f : Tx ρ σ ε γ) := ⟨fun _ _ h => by cases h⟩

instance (f : ρ → γ) : Spares bad r (asks f : Tx ρ σ ε γ) := ⟨fun _ _ h => by cases h⟩

instance (f : σ → σ) : Spares bad r (update f : Tx ρ σ ε Unit) := ⟨fun _ _ h => by cases h⟩

instance (e : ε) [he : Spared bad e] : Spares bad r (abort e : Tx ρ σ ε α) := by
  constructor
  intro s e' h
  cases h
  exact he.not_bad

/-! ## Sequencing -/

/-- **Sequencing.** The rest of the block starts where the first step left the
state, if it did not abort. -/
theorem Avoids.bind (hm : Avoids bad m r s)
    (hk : ∀ a s', Commits m r s a s' → Avoids bad (k a) r s') : Avoids bad (m >>= k) r s := by
  intro e h
  change (m r s >>= fun p => k p.1 r p.2) = .error e at h
  cases hms : m r s with
  | error e' =>
      rw [hms] at h
      cases h
      exact hm e hms
  | ok p =>
      rw [hms] at h
      exact hk p.1 p.2 hms e h

instance [hm : Spares bad r m] [hk : ∀ a, Spares bad r (k a)] : Spares bad r (m >>= k) :=
  ⟨fun s => (hm.avoids s).bind fun a s' _ => (hk a).avoids s'⟩

theorem avoids_ite {p : Prop} [Decidable p] {n : Tx ρ σ ε α} (hm : p → Avoids bad m r s)
    (hn : ¬ p → Avoids bad n r s) : Avoids bad (if p then m else n) r s := by
  split
  · next h => exact hm h
  · next h => exact hn h

theorem avoids_dite {p : Prop} [Decidable p] {m : p → Tx ρ σ ε α} {n : ¬ p → Tx ρ σ ε α}
    (hm : ∀ h, Avoids bad (m h) r s) (hn : ∀ h, Avoids bad (n h) r s) :
    Avoids bad (if h : p then m h else n h) r s := by
  split
  · next h => exact hm h
  · next h => exact hn h

instance {p : Prop} [Decidable p] {n : Tx ρ σ ε α} [hm : Spares bad r m]
    [hn : Spares bad r n] : Spares bad r (if p then m else n) :=
  ⟨fun s => avoids_ite (fun _ => hm.avoids s) fun _ => hn.avoids s⟩

instance {p : Prop} [Decidable p] {m : p → Tx ρ σ ε α} {n : ¬ p → Tx ρ σ ε α}
    [hm : ∀ h, Spares bad r (m h)] [hn : ∀ h, Spares bad r (n h)] :
    Spares bad r (if h : p then m h else n h) :=
  ⟨fun s => avoids_dite (fun h => (hm h).avoids s) fun h => (hn h).avoids s⟩

/-! ## Guards and reads -/

instance {p : Prop} [Decidable p] (e : ε) [Spared bad e] :
    Spares bad r (require p e : Tx ρ σ ε Unit) := by
  unfold require
  infer_instance

instance (o : Option α) (e : ε) [Spared bad e] : Spares bad r (expect o e : Tx ρ σ ε α) := by
  unfold expect
  cases o <;> infer_instance

theorem avoids_require {p : Prop} [Decidable p] {e : ε} (h : p) :
    Avoids bad (require p e : Tx ρ σ ε Unit) r s := by
  rw [require, if_pos h]
  exact spares

/-- What follows a guard may use it. -/
theorem Avoids.guard {p : Prop} [Decidable p] {e : ε} [Spared bad e] {k : Unit → Tx ρ σ ε β}
    (hk : p → Avoids bad (k ()) r s) : Avoids bad (require p e >>= k) r s := by
  refine spares.bind fun u s' hc => ?_
  obtain ⟨hp, rfl⟩ := (commits_require p e r s s' u).mp hc
  exact hk hp

theorem Avoids.read {f : σ → γ} {k : γ → Tx ρ σ ε β} (hk : Avoids bad (k (f s)) r s) :
    Avoids bad (gets f >>= k) r s := by
  refine spares.bind fun c s' hc => ?_
  obtain ⟨rfl, rfl⟩ := (commits_gets f r s s' c).mp hc
  exact hk

theorem Avoids.write {f : σ → σ} {k : Unit → Tx ρ σ ε β} (hk : Avoids bad (k ()) r (f s)) :
    Avoids bad (update f >>= k) r s := by
  refine spares.bind fun u s' hc => ?_
  obtain rfl := (commits_update f r s s' u).mp hc
  exact hk

/-! ## Under an invariant -/

/-- While `P` holds the computation does not abort for a reason in `bad`, and it
keeps `P` where it commits. -/
class Shelters (P : σ → Prop) (bad : ε → Prop) (r : ρ) (m : Tx ρ σ ε α) : Prop where
  avoids : ∀ s, P s → Avoids bad m r s
  keeps : ∀ s a s', P s → Commits m r s a s' → P s'

variable {P : σ → Prop}

theorem sheltered [h : Shelters P bad r m] (hs : P s) : Avoids bad m r s := h.avoids s hs

/-- What is spared and leaves the state alone. -/
theorem Spares.shelters [h : Spares bad r m] (hm : ∀ s a s', Commits m r s a s' → s' = s) :
    Shelters P bad r m := by
  refine ⟨fun s _ => h.avoids s, fun s a s' hs hc => ?_⟩
  rw [hm s a s' hc]
  exact hs

/-- A write that keeps the invariant. -/
theorem shelters_update {f : σ → σ} (hf : ∀ s, P s → P (f s)) :
    Shelters P bad r (update f : Tx ρ σ ε Unit) := by
  refine ⟨fun s _ => spares, fun s a s' hs hc => ?_⟩
  rw [(commits_update f r s s' a).mp hc]
  exact hf s hs

instance (a : α) : Shelters P bad r (pure a : Tx ρ σ ε α) :=
  Spares.shelters fun s b s' hc => ((commits_pure a b r s s').mp hc).2

instance (f : σ → γ) : Shelters P bad r (gets f : Tx ρ σ ε γ) :=
  Spares.shelters fun s c s' hc => ((commits_gets f r s s' c).mp hc).2

instance (f : ρ → γ) : Shelters P bad r (asks f : Tx ρ σ ε γ) :=
  Spares.shelters fun s c s' hc => ((commits_asks f r s s' c).mp hc).2

instance (e : ε) [Spared bad e] : Shelters P bad r (abort e : Tx ρ σ ε α) :=
  Spares.shelters fun s a s' hc => ((commits_abort e r s s' a).mp hc).elim

instance {p : Prop} [Decidable p] (e : ε) [Spared bad e] :
    Shelters P bad r (require p e : Tx ρ σ ε Unit) :=
  Spares.shelters fun s u s' hc => ((commits_require p e r s s' u).mp hc).2

instance (o : Option α) (e : ε) [Spared bad e] :
    Shelters P bad r (expect o e : Tx ρ σ ε α) :=
  Spares.shelters fun s a s' hc => ((commits_expect o e r s s' a).mp hc).2

instance [hm : Shelters P bad r m] [hk : ∀ a, Shelters P bad r (k a)] :
    Shelters P bad r (m >>= k) := by
  refine ⟨fun s hs => ?_, fun s b s'' hs hc => ?_⟩
  · exact (hm.avoids s hs).bind fun a s' hc => (hk a).avoids s' (hm.keeps s a s' hs hc)
  · obtain ⟨a, s', ha, hb⟩ := (commits_bind m k r s s'' b).mp hc
    exact (hk a).keeps s' b s'' (hm.keeps s a s' hs ha) hb

instance {p : Prop} [Decidable p] {n : Tx ρ σ ε α} [hm : Shelters P bad r m]
    [hn : Shelters P bad r n] : Shelters P bad r (if p then m else n) := by
  split
  · exact hm
  · exact hn

instance {p : Prop} [Decidable p] {m : p → Tx ρ σ ε α} {n : ¬ p → Tx ρ σ ε α}
    [hm : ∀ h, Shelters P bad r (m h)] [hn : ∀ h, Shelters P bad r (n h)] :
    Shelters P bad r (if h : p then m h else n h) := by
  split
  · next h => exact hm h
  · next h => exact hn h

/-- What follows a sheltered step may use the invariant. -/
theorem Avoids.shelter [hm : Shelters P bad r m] (hs : P s)
    (hk : ∀ a s', P s' → Commits m r s a s' → Avoids bad (k a) r s') :
    Avoids bad (m >>= k) r s :=
  (hm.avoids s hs).bind fun a s' hc => hk a s' (hm.keeps s a s' hs hc) hc

/-! ## Two environments -/

/-- A computation that avoids the reasons for which the environments part does in
the one what it does in the other. -/
theorem Avoids.commits {stop : ε → Prop} [hs : Agrees r r' stop m] (hm : Avoids stop m r s)
    {a : α} {s' : σ} (hc : Commits m r' s a s') : Commits m r s a s' := by
  obtain h | ⟨e, he, h⟩ := hs.commits_or hc
  · exact h
  · exact absurd he (hm e h)

end CedraReflect.Tx
