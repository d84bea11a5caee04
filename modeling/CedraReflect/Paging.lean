/-
Logs that are read in pages, and replicas that replay them block by block.

A log is a list of blocks whose entries carry strictly increasing keys
([`IsLog`]). A reader is handed pages: some blocks it has already seen and the
next ones it has not, in any order. Sorting a page by key, dropping what is not
past the reader's own key and cutting the rest where the block changes gives
exactly the next blocks of the log ([`group_fresh`]). A replica that applies
blocks until one is refused then stands at a prefix of the log
([`advance_spec`]).
-/
import Mathlib.Data.List.Basic
import Mathlib.Data.List.Flatten
import Mathlib.Order.Lattice

set_option autoImplicit false

namespace CedraReflect.Paging

variable {α κ β σ : Type}

/-! ## Cutting a list where the block changes -/

section Grouping

variable [DecidableEq β] (block : α → β)

/-- Put `x` in the last group if it belongs there, else open a group for it. -/
def place (groups : List (List α)) (x : α) : List (List α) :=
  match groups.getLast? with
  | some (y :: ys) =>
      if block y = block x then groups.dropLast ++ [y :: ys ++ [x]] else groups ++ [[x]]
  | _ => groups ++ [[x]]

/-- The maximal runs of entries of one block. -/
def group (xs : List α) : List (List α) := xs.foldl (place block) []

/-- Entries of the last group's block join it. -/
theorem foldl_place_same (groups : List (List α)) (y : α) (ys xs : List α)
    (hsame : ∀ x ∈ xs, block y = block x) :
    xs.foldl (place block) (groups ++ [y :: ys]) = groups ++ [y :: ys ++ xs] := by
  induction xs generalizing ys with
  | nil => simp
  | cons x xs ih =>
      have hx : block y = block x := hsame x List.mem_cons_self
      have hplace : place block (groups ++ [y :: ys]) x = groups ++ [y :: (ys ++ [x])] := by
        simp [place, hx]
      rw [List.foldl_cons, hplace, ih (ys ++ [x]) fun z hz => hsame z (List.mem_cons_of_mem _ hz)]
      simp

/-- A block opens a group of its own after groups of other blocks. -/
theorem foldl_place_block (groups : List (List α)) (x : α) (xs : List α)
    (hother : ∀ g ∈ groups, ∀ y ∈ g, block y ≠ block x) (hsame : ∀ y ∈ xs, block x = block y) :
    (x :: xs).foldl (place block) groups = groups ++ [x :: xs] := by
  have hplace : place block groups x = groups ++ [[x]] := by
    unfold place
    split
    · rename_i y ys hlast
      have hmem : y :: ys ∈ groups := List.mem_of_getLast? hlast
      rw [if_neg (hother _ hmem y List.mem_cons_self)]
    · rfl
  rw [List.foldl_cons, hplace, foldl_place_same block groups x [] xs hsame]
  simp

end Grouping

/-! ## Logs -/

/-- Nonempty blocks, each of one block number and no two of the same, with
strictly increasing keys throughout. -/
structure IsLog [LinearOrder κ] (key : α → κ) (block : α → β) (blocks : List (List α)) :
    Prop where
  nonempty : ∀ b ∈ blocks, b ≠ []
  same : ∀ b ∈ blocks, ∀ x ∈ b, ∀ y ∈ b, block x = block y
  apart : blocks.Pairwise fun b c => ∀ x ∈ b, ∀ y ∈ c, block x ≠ block y
  ordered : blocks.flatten.Pairwise fun x y => key x < key y

section Pages

variable [LinearOrder κ] {key : α → κ} {block : α → β} {blocks done rest old next : List (List α)}
  {page : List α}

theorem IsLog.sublist (h : IsLog key block blocks) (hsub : old.Sublist blocks) :
    IsLog key block old where
  nonempty b hb := h.nonempty b (hsub.subset hb)
  same b hb := h.same b (hsub.subset hb)
  apart := h.apart.sublist hsub
  ordered := h.ordered.sublist hsub.flatten

/-- A page sorted by key is its blocks in the order of the log. -/
theorem IsLog.sort (h : IsLog key block blocks) (hpage : page.Perm blocks.flatten)
    (le : α → α → Bool) (hle : ∀ x y, le x y = true ↔ key x ≤ key y) :
    page.mergeSort le = blocks.flatten := by
  have hperm : (page.mergeSort le).Perm blocks.flatten := (List.mergeSort_perm page le).trans hpage
  have hsorted : (page.mergeSort le).Pairwise fun x y => le x y = true := by
    apply List.pairwise_mergeSort
    · intro a b c hab hbc
      rw [hle] at hab hbc ⊢
      exact le_trans hab hbc
    · intro a b
      rw [Bool.or_eq_true, hle, hle]
      exact le_total _ _
  -- No two entries of a log share a key, so the sorted page is strictly sorted.
  have hnodup : ((page.mergeSort le).map key).Nodup := by
    rw [(hperm.map key).nodup_iff, List.Nodup, List.pairwise_map]
    exact h.ordered.imp ne_of_lt
  have hstrict : (page.mergeSort le).Pairwise fun x y => key x < key y := by
    rw [List.Nodup, List.pairwise_map] at hnodup
    refine (hsorted.and hnodup).imp ?_
    intro x y hxy
    exact lt_of_le_of_ne ((hle x y).mp hxy.1) hxy.2
  refine List.Perm.eq_of_pairwise ?_ hstrict h.ordered hperm
  intro a b _ _ hab hba
  exact absurd (hab.trans hba) (lt_irrefl _)

/-- Cutting a log where the block changes gives its blocks. -/
theorem IsLog.group [DecidableEq β] (h : IsLog key block blocks) :
    Paging.group block blocks.flatten = blocks := by
  have hgroup : ∀ groups blocks : List (List α),
      (∀ b ∈ groups ++ blocks, b ≠ []) → (∀ b ∈ groups ++ blocks, ∀ x ∈ b, ∀ y ∈ b, block x = block y) →
      ((groups ++ blocks).Pairwise fun b c => ∀ x ∈ b, ∀ y ∈ c, block x ≠ block y) →
      blocks.flatten.foldl (place block) groups = groups ++ blocks := by
    intro groups blocks hne hsame hapart
    -- The groups that were closed stay as they are while the next block is placed.
    induction blocks generalizing groups with
    | nil => simp
    | cons b blocks ih =>
        rcases b with _ | ⟨x, xs⟩
        · exact absurd rfl (hne [] (by simp))
        · have hother : ∀ g ∈ groups, ∀ y ∈ g, block y ≠ block x := by
            intro g hg y hy
            exact (List.pairwise_append.mp hapart).2.2 g hg (x :: xs) List.mem_cons_self y hy x
              List.mem_cons_self
          have hjoin : ∀ y ∈ xs, block x = block y := by
            intro y hy
            exact hsame (x :: xs) (by simp) x List.mem_cons_self y (List.mem_cons_of_mem _ hy)
          have hassoc : groups ++ (x :: xs) :: blocks = (groups ++ [x :: xs]) ++ blocks := by simp
          rw [List.flatten_cons, List.foldl_append, foldl_place_block block groups x xs hother hjoin,
            hassoc]
          rw [hassoc] at hne hsame hapart
          exact ih (groups ++ [x :: xs]) hne hsame hapart
  exact hgroup [] blocks h.nonempty h.same h.apart

/-- What the reader's own key does not cover of a page is the next blocks. The
key is that of the last entry replayed, and `none` where nothing was. -/
theorem IsLog.fresh (h : IsLog key block (done ++ rest)) (hold : old.Sublist done)
    (hnext : next.Sublist rest) :
    (old ++ next).flatten.filter (fun x =>
      decide (∀ y ∈ done.flatten.getLast?, key y < key x)) = next.flatten := by
  have hsplit := List.pairwise_append.mp (by simpa using h.ordered)
  rw [List.flatten_append, List.filter_append]
  -- Nothing of the old part is beyond the key of the last entry, and all of the new part is.
  have hdrop : old.flatten.filter (fun x =>
      decide (∀ y ∈ done.flatten.getLast?, key y < key x)) = [] := by
    rw [List.filter_eq_nil_iff]
    intro x hx
    have hxd : x ∈ done.flatten := hold.flatten.subset hx
    obtain ⟨init, last, hlast⟩ := List.eq_nil_or_concat' done.flatten |>.resolve_left
      (List.ne_nil_of_mem hxd)
    have hle : key x ≤ key last := by
      have hpair := hsplit.1
      rw [hlast] at hxd hpair
      rcases List.mem_append.mp hxd with hin | hin
      · exact le_of_lt ((List.pairwise_append.mp hpair).2.2 x hin last (by simp))
      · rw [List.mem_singleton] at hin
        rw [hin]
    simpa [hlast] using hle
  have hkeep : next.flatten.filter (fun x =>
      decide (∀ y ∈ done.flatten.getLast?, key y < key x)) = next.flatten := by
    rw [List.filter_eq_self]
    intro x hx
    rw [decide_eq_true_eq]
    intro y hy
    exact hsplit.2.2 y (List.mem_of_getLast? hy) x (hnext.flatten.subset hx)
  rw [hdrop, hkeep, List.nil_append]

end Pages

/-! ## Replicas -/

section Replicas

variable (accept : σ → List α → Option σ)

/-- The state after a list of blocks, all of them accepted. -/
def replay (s : σ) (blocks : List (List α)) : Option σ := blocks.foldlM accept s

/-- Apply blocks up to the first refusal; also what was left. -/
def advance (s : σ) : List (List α) → σ × List (List α)
  | [] => (s, [])
  | b :: blocks =>
      match accept s b with
      | some s' => advance s' blocks
      | none => (s, b :: blocks)

theorem replay_append (s : σ) (done next : List (List α)) :
    replay accept s (done ++ next) = (replay accept s done).bind fun s' => replay accept s' next := by
  simp [replay]

/-- **A replica stands at a prefix.** It has replayed some of the blocks it was
given, and the next one, if there is one, it refuses. -/
theorem advance_spec (s : σ) (blocks : List (List α)) :
    ∃ done, blocks = done ++ (advance accept s blocks).2 ∧
      replay accept s done = some (advance accept s blocks).1 ∧
      ∀ b ∈ (advance accept s blocks).2.head?, accept (advance accept s blocks).1 b = none := by
  induction blocks generalizing s with
  | nil => exact ⟨[], by simp [advance, replay]⟩
  | cons b blocks ih =>
      rcases hb : accept s b with _ | s'
      · refine ⟨[], ?_, ?_, ?_⟩
        · simp [advance, hb]
        · simp [advance, hb, replay]
        · simp [advance, hb]
      · obtain ⟨done, hblocks, hreplay, hhead⟩ := ih s'
        have hadvance : advance accept s (b :: blocks) = advance accept s' blocks := by
          simp [advance, hb]
        rw [hadvance]
        refine ⟨b :: done, ?_, ?_, hhead⟩
        · rw [List.cons_append, ← hblocks]
        · simpa [replay, hb] using hreplay

/-- What was left is refused again. -/
theorem advance_left (s : σ) (blocks : List (List α)) :
    advance accept (advance accept s blocks).1 (advance accept s blocks).2
      = advance accept s blocks := by
  obtain ⟨_, _, _, hhead⟩ := advance_spec accept s blocks
  rcases hrest : (advance accept s blocks).2 with _ | ⟨b, left⟩
  · rw [advance, ← hrest]
  · rw [hrest] at hhead
    rw [advance, hhead b (by simp), ← hrest]

end Replicas

end CedraReflect.Paging
