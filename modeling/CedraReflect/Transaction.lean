/-
Transactions: computations that read a fixed environment, update a state and
either commit or abort.

An abort carries a reason and no state, so whatever the computation had written
before it is gone: rolling back is not a step that could be forgotten, it is
the shape of the type. Two questions are asked of such a computation.

* *What did it do, given that it committed?* [`Commits`] is that graph, and
  the `commits_*` lemmas turn a `do` block into the conjunction of its guards
  and the state it leaves.
* *Does the environment matter?* [`Agrees`] compares one computation in two
  environments that differ only in how often they give up: the first either
  does what the second does or stops for one of the designated reasons.
-/
import Mathlib.Logic.Relation

set_option autoImplicit false

namespace CedraReflect

/-- A computation reading `ρ`, updating `σ`, committing with an `α` or aborting
with an `ε`. -/
abbrev Tx (ρ σ ε α : Type) : Type := ReaderT ρ (StateT σ (Except ε)) α

namespace Tx

variable {ρ σ ε α β γ : Type}

/-! ## Primitives -/

/-- Read the environment. -/
def asks (f : ρ → γ) : Tx ρ σ ε γ := fun r s => .ok (f r, s)

/-- Read the state. -/
def gets (f : σ → γ) : Tx ρ σ ε γ := fun _ s => .ok (f s, s)

/-- Write the state. -/
def update (f : σ → σ) : Tx ρ σ ε Unit := fun _ s => .ok ((), f s)

/-- Abort, forgetting the state. -/
def abort (e : ε) : Tx ρ σ ε α := fun _ _ => .error e

/-- `assert!`: abort unless `p` holds. -/
def require (p : Prop) [Decidable p] (e : ε) : Tx ρ σ ε Unit :=
  if p then pure () else abort e

/-- The value of an entry that must be there. -/
def expect (o : Option α) (e : ε) : Tx ρ σ ε α :=
  match o with
  | some a => pure a
  | none => abort e

/-! ## What a committed computation did -/

/-- `m`, started in `s` under `r`, commits with result `a` and final state `s'`. -/
def Commits (m : Tx ρ σ ε α) (r : ρ) (s : σ) (a : α) (s' : σ) : Prop := m r s = .ok (a, s')

/-- A computation commits in at most one way. -/
theorem Commits.unique {m : Tx ρ σ ε α} {r : ρ} {s : σ} {a b : α} {s₁ s₂ : σ}
    (h₁ : Commits m r s a s₁) (h₂ : Commits m r s b s₂) : a = b ∧ s₁ = s₂ := by
  unfold Commits at h₁ h₂
  rw [h₁] at h₂
  simpa using h₂

/-- To know one commit is to know them all. -/
theorem Commits.iff {m : Tx ρ σ ε α} {r : ρ} {s s₀ : σ} {a₀ : α} (h : Commits m r s a₀ s₀)
    (a : α) (s' : σ) : Commits m r s a s' ↔ a = a₀ ∧ s' = s₀ :=
  ⟨fun h' => h'.unique h, fun ⟨ha, hs⟩ => by rw [ha, hs]; exact h⟩

@[simp] theorem commits_pure (a b : α) (r : ρ) (s s' : σ) :
    Commits (pure a : Tx ρ σ ε α) r s b s' ↔ b = a ∧ s' = s := by
  show (Except.ok (a, s) : Except ε (α × σ)) = .ok (b, s') ↔ _
  simp [eq_comm]

/-- **Sequencing.** The second half starts where the first half left the state. -/
@[simp] theorem commits_bind (m : Tx ρ σ ε α) (f : α → Tx ρ σ ε β) (r : ρ) (s s'' : σ) (b : β) :
    Commits (m >>= f) r s b s'' ↔ ∃ a s', Commits m r s a s' ∧ Commits (f a) r s' b s'' := by
  show (m r s >>= fun p => f p.1 r p.2) = .ok (b, s'') ↔ _
  unfold Commits
  cases m r s with
  | error e => simp [bind, Except.bind]
  | ok p =>
      constructor
      · intro h
        exact ⟨p.1, p.2, rfl, h⟩
      · rintro ⟨a, s', h, hf⟩
        cases h
        exact hf

@[simp] theorem commits_map (m : Tx ρ σ ε α) (f : α → β) (r : ρ) (s s' : σ) (b : β) :
    Commits (f <$> m) r s b s' ↔ ∃ a, Commits m r s a s' ∧ b = f a := by
  rw [map_eq_pure_bind]
  simp only [commits_bind, commits_pure]
  constructor
  · rintro ⟨a, s₁, h, rfl, rfl⟩
    exact ⟨a, h, rfl⟩
  · rintro ⟨a, h, rfl⟩
    exact ⟨a, s', h, rfl, rfl⟩

@[simp] theorem commits_asks (f : ρ → γ) (r : ρ) (s s' : σ) (c : γ) :
    Commits (asks f : Tx ρ σ ε γ) r s c s' ↔ c = f r ∧ s' = s := by
  simp [Commits, asks, eq_comm]

@[simp] theorem commits_gets (f : σ → γ) (r : ρ) (s s' : σ) (c : γ) :
    Commits (gets f : Tx ρ σ ε γ) r s c s' ↔ c = f s ∧ s' = s := by
  simp [Commits, gets, eq_comm]

@[simp] theorem commits_update (f : σ → σ) (r : ρ) (s s' : σ) (u : Unit) :
    Commits (update f : Tx ρ σ ε Unit) r s u s' ↔ s' = f s := by
  simp [Commits, update, eq_comm]

@[simp] theorem commits_abort (e : ε) (r : ρ) (s s' : σ) (a : α) :
    Commits (abort e : Tx ρ σ ε α) r s a s' ↔ False := by
  simp [Commits, abort]

@[simp] theorem commits_ite (p : Prop) [Decidable p] (m n : Tx ρ σ ε α) (r : ρ) (s s' : σ)
    (a : α) :
    Commits (if p then m else n) r s a s' ↔
      (p ∧ Commits m r s a s') ∨ (¬ p ∧ Commits n r s a s') := by
  split <;> simp_all

@[simp] theorem commits_dite (p : Prop) [Decidable p] (m : p → Tx ρ σ ε α)
    (n : ¬ p → Tx ρ σ ε α) (r : ρ) (s s' : σ) (a : α) :
    Commits (if h : p then m h else n h) r s a s' ↔
      (∃ h : p, Commits (m h) r s a s') ∨ ∃ h : ¬ p, Commits (n h) r s a s' := by
  split <;> simp_all

@[simp] theorem commits_require (p : Prop) [Decidable p] (e : ε) (r : ρ) (s s' : σ) (u : Unit) :
    Commits (require p e : Tx ρ σ ε Unit) r s u s' ↔ p ∧ s' = s := by
  simp [require]

@[simp] theorem commits_expect (o : Option α) (e : ε) (r : ρ) (s s' : σ) (a : α) :
    Commits (expect o e : Tx ρ σ ε α) r s a s' ↔ o = some a ∧ s' = s := by
  cases o <;> simp [expect, eq_comm]

/-! ## Two environments -/

/-- Under `r` the computation does exactly what it does under `r'`, or gives up
with one of the reasons in `stop`. A class, so that the agreement of a `do`
block is found from that of its steps. -/
class Agrees (r r' : ρ) (stop : ε → Prop) (m : Tx ρ σ ε α) : Prop where
  agree : ∀ s, m r s = m r' s ∨ ∃ e, stop e ∧ m r s = .error e

variable {r r' : ρ} {stop : ε → Prop}

instance (a : α) : Agrees r r' stop (pure a : Tx ρ σ ε α) := ⟨fun _ => .inl rfl⟩

instance (f : σ → γ) : Agrees r r' stop (gets f : Tx ρ σ ε γ) := ⟨fun _ => .inl rfl⟩

instance (f : σ → σ) : Agrees r r' stop (update f : Tx ρ σ ε Unit) := ⟨fun _ => .inl rfl⟩

instance (e : ε) : Agrees r r' stop (abort e : Tx ρ σ ε α) := ⟨fun _ => .inl rfl⟩

instance (m : Tx ρ σ ε α) (f : α → Tx ρ σ ε β) [hm : Agrees r r' stop m]
    [hf : ∀ a, Agrees r r' stop (f a)] : Agrees r r' stop (m >>= f) := by
  constructor
  intro s
  show (m r s >>= fun p => f p.1 r p.2) = (m r' s >>= fun p => f p.1 r' p.2)
    ∨ ∃ e, stop e ∧ (m r s >>= fun p => f p.1 r p.2) = .error e
  rcases hm.agree s with h | ⟨e, he, h⟩
  · rw [h]
    cases m r' s with
    | error e => exact .inl rfl
    | ok p => exact (hf p.1).agree p.2
  · rw [h]
    exact .inr ⟨e, he, rfl⟩

instance (p : Prop) [Decidable p] (m n : Tx ρ σ ε α) [Agrees r r' stop m]
    [Agrees r r' stop n] : Agrees r r' stop (if p then m else n) := by
  split <;> infer_instance

instance (p : Prop) [Decidable p] (m : p → Tx ρ σ ε α) (n : ¬ p → Tx ρ σ ε α)
    [∀ h, Agrees r r' stop (m h)] [∀ h, Agrees r r' stop (n h)] :
    Agrees r r' stop (if h : p then m h else n h) := by
  split <;> infer_instance

instance (p : Prop) [Decidable p] (e : ε) :
    Agrees r r' stop (require p e : Tx ρ σ ε Unit) := by
  unfold require
  infer_instance

instance (o : Option α) (e : ε) : Agrees r r' stop (expect o e : Tx ρ σ ε α) := by
  unfold expect
  cases o <;> infer_instance

/-- What commits under the environment that may give up also commits, with the
same result, under the one it is compared with. -/
theorem Agrees.commits {m : Tx ρ σ ε α} (h : Agrees r r' stop m) {s s' : σ} {a : α}
    (hc : Commits m r s a s') : Commits m r' s a s' := by
  unfold Commits at hc ⊢
  rcases h.agree s with h | ⟨e, -, h⟩
  · rw [← h, hc]
  · rw [h] at hc
    cases hc

/-- Conversely a commit under `r'` is, under `r`, the same commit or a stop. -/
theorem Agrees.commits_or {m : Tx ρ σ ε α} (h : Agrees r r' stop m) {s s' : σ} {a : α}
    (hc : Commits m r' s a s') : Commits m r s a s' ∨ ∃ e, stop e ∧ m r s = .error e := by
  unfold Commits at hc ⊢
  rcases h.agree s with h | h
  · exact .inl (by rw [h, hc])
  · exact .inr h

end Tx

end CedraReflect
