/-
Trees whose branches have names.

A leaf is found by the names on the way to it. A walk takes the branches of every
node by name, whatever order they are listed in, and acts at each leaf with the
path to it. The leaves then come in the order of their paths, a path compared
with another where they first differ: a name that begins another name orders
everything below it, as a comparison of whole texts would not.
-/
import CedraReflect.KeyOrder
import CedraReflect.Throwing
import Mathlib.Data.List.Perm.Basic

set_option autoImplicit false

namespace CedraReflect

open indexer (ok_bind)

inductive NamedTree (κ α : Type) where
  | leaf (value : α)
  | node (branches : List (κ × NamedTree κ α))

namespace NamedTree

variable {κ α ε ρ : Type}

/-- The leaf below the branch `k`. -/
def under (k : κ) (leaf : List κ × α) : List κ × α := (k :: leaf.1, leaf.2)

/-! ## Leaves and walks -/

mutual

/-- The leaves with their paths, as they are listed. -/
def leaves : NamedTree κ α → List (List κ × α)
  | .leaf value => [([], value)]
  | .node branches => leavesOf branches

def leavesOf : List (κ × NamedTree κ α) → List (List κ × α)
  | [] => []
  | (k, t) :: branches => (leaves t).map (under k) ++ leavesOf branches

end

section Walk

variable (le : κ → κ → Bool)

mutual

/-- The leaves with their paths, the branches of every node by name. -/
def ordered : NamedTree κ α → List (List κ × α)
  | .leaf value => [([], value)]
  | .node branches => (sortBy le (orderedOf branches)).flatMap Prod.snd

def orderedOf : List (κ × NamedTree κ α) → List (κ × List (List κ × α))
  | [] => []
  | (k, t) :: branches => (k, (ordered t).map (under k)) :: orderedOf branches

end

/-- What there is to do at each branch, done in turn. -/
def inTurn : List (κ × Except ε (List ρ)) → Except ε (List ρ)
  | [] => .ok []
  | (_, action) :: rest => do
      let first ← action
      let others ← inTurn rest
      pure (first ++ others)

variable (enter : List κ → Except ε Unit) (visit : List κ → α → Except ε (List ρ))

mutual

/-- A walk from `path` on. Every branch is entered and every leaf visited by its path. What
there is to do at the branches of a node is sorted by their names before any of it is done. -/
def walk (path : List κ) : NamedTree κ α → Except ε (List ρ)
  | .leaf value => visit path value
  | .node branches => inTurn (sortBy le (walkOf path branches))

def walkOf (path : List κ) : List (κ × NamedTree κ α) → List (κ × Except ε (List ρ))
  | [] => []
  | (k, t) :: branches =>
      (k, do
        enter (path ++ [k])
        walk (path ++ [k]) t) :: walkOf path branches

end

end Walk

theorem leavesOf_eq (branches : List (κ × NamedTree κ α)) :
    leavesOf branches = branches.flatMap fun b => (leaves b.2).map (under b.1) := by
  induction branches with
  | nil => rw [leavesOf, List.flatMap_nil]
  | cons b branches ih => rw [leavesOf, List.flatMap_cons, ih]

section Order

variable {le : κ → κ → Bool}

theorem orderedOf_eq (branches : List (κ × NamedTree κ α)) :
    orderedOf le branches = branches.map fun b => (b.1, (ordered le b.2).map (under b.1)) := by
  induction branches with
  | nil => rw [orderedOf, List.map_nil]
  | cons b branches ih => rw [orderedOf, List.map_cons, ih]

/-- A node in order: its branches by name, and each of them in order. -/
theorem ordered_node (branches : List (κ × NamedTree κ α)) :
    ordered le (.node branches)
      = (sortBy le branches).flatMap fun b => (ordered le b.2).map (under b.1) := by
  rw [ordered, orderedOf_eq, ← map_sortBy, List.flatMap_map]

theorem walkOf_eq (enter : List κ → Except ε Unit) (visit : List κ → α → Except ε (List ρ))
    (path : List κ) (branches : List (κ × NamedTree κ α)) :
    walkOf le enter visit path branches = branches.map fun b =>
      (b.1, do
        enter (path ++ [b.1])
        walk le enter visit (path ++ [b.1]) b.2) := by
  induction branches with
  | nil => rw [walkOf, List.map_nil]
  | cons b branches ih => rw [walkOf, List.map_cons, ih]

/-- A walk of a node: the branches are sorted by name, then each is entered and walked. -/
theorem walk_node (enter : List κ → Except ε Unit) (visit : List κ → α → Except ε (List ρ))
    (path : List κ) (branches : List (κ × NamedTree κ α)) :
    walk le enter visit path (.node branches) =
      inTurn ((sortBy le branches).map fun b =>
        (b.1, do
          enter (path ++ [b.1])
          walk le enter visit (path ++ [b.1]) b.2)) := by
  rw [walk, walkOf_eq, ← map_sortBy]

theorem inTurn_eq_ok {β : Type} {action : β → κ × Except ε (List ρ)} (done : β → List ρ)
    {branches : List β} (h : ∀ b ∈ branches, (action b).2 = .ok (done b)) :
    inTurn (branches.map action) = .ok (branches.flatMap done) := by
  induction branches with
  | nil => rfl
  | cons b branches ih =>
      rw [List.forall_mem_cons] at h
      obtain ⟨k, hk⟩ : ∃ k, action b = (k, .ok (done b)) := ⟨(action b).1, by rw [← h.1]⟩
      rw [List.map_cons, hk, inTurn, ok_bind, ih h.2, ok_bind, List.flatMap_cons]
      rfl

/-- A node is walked without a failure if its branches are. -/
theorem walk_branches {enter : List κ → Except ε Unit} {visit : List κ → α → Except ε (List ρ)}
    (f : List κ → α → List ρ) {path : List κ} {branches : List (κ × NamedTree κ α)}
    (h : ∀ b ∈ branches, enter (path ++ [b.1]) = .ok ()
      ∧ walk le enter visit (path ++ [b.1]) b.2
        = .ok ((ordered le b.2).flatMap fun leaf => f (path ++ [b.1] ++ leaf.1) leaf.2)) :
    walk le enter visit path (.node branches)
      = .ok ((ordered le (.node branches)).flatMap fun leaf => f (path ++ leaf.1) leaf.2) := by
  rw [walk_node, inTurn_eq_ok fun b =>
    (ordered le b.2).flatMap fun leaf => f (path ++ [b.1] ++ leaf.1) leaf.2]
  · congr 1
    rw [ordered_node, List.flatMap_assoc]
    apply List.flatMap_congr
    intro b _
    rw [List.flatMap_map]
    apply List.flatMap_congr
    intro leaf _
    rw [under, List.append_assoc, List.singleton_append]
  · intro b hb
    obtain ⟨henter, hwalk⟩ := h b ((sortBy_perm le branches).mem_iff.mp hb)
    dsimp only
    rw [henter, ok_bind, hwalk]

end Order

/-! ## Trees whose names and leaves are as they should -/

/-- No node has two branches of one name, and names and leaves are as `name` and `value` say. -/
inductive Valid (name : κ → Prop) (value : α → Prop) : NamedTree κ α → Prop where
  | leaf {a : α} (h : value a) : Valid name value (.leaf a)
  | node {branches : List (κ × NamedTree κ α)} (hkeys : (branches.map Prod.fst).Nodup)
      (hname : ∀ b ∈ branches, name b.1) (h : ∀ b ∈ branches, Valid name value b.2) :
      Valid name value (.node branches)

section Valid

variable {name : κ → Prop} {value : α → Prop} {t : NamedTree κ α} {le : κ → κ → Bool}

/-- What a leaf and the way to it are. -/
theorem Valid.leaf_spec (h : Valid name value t) :
    ∀ leaf ∈ leaves t, value leaf.2 ∧ ∀ k ∈ leaf.1, name k := by
  induction h with
  | leaf h =>
      intro leaf hleaf
      rw [leaves, List.mem_singleton] at hleaf
      rw [hleaf]
      exact ⟨h, fun k hk => absurd hk List.not_mem_nil⟩
  | @node branches hkeys hname h ih =>
      intro leaf hleaf
      rw [leaves, leavesOf_eq, List.mem_flatMap] at hleaf
      obtain ⟨b, hb, hleaf⟩ := hleaf
      obtain ⟨inner, hinner, rfl⟩ := List.mem_map.mp hleaf
      obtain ⟨hvalue, hnames⟩ := ih b hb inner hinner
      refine ⟨hvalue, ?_⟩
      intro k hk
      rcases List.mem_cons.mp hk with rfl | hk
      · exact hname b hb
      · exact hnames k hk

/-- **No two leaves have one path**, and none is on the way to another. -/
theorem Valid.paths_nodup (h : Valid name value t) : ((leaves t).map Prod.fst).Nodup := by
  induction h with
  | leaf h =>
      rw [leaves]
      exact List.nodup_singleton _
  | @node branches hkeys hname h ih =>
      rw [leaves, leavesOf_eq, List.map_flatMap, List.nodup_flatMap]
      constructor
      · intro b hb
        have hinner := (ih b hb).map (List.cons_injective (a := b.1))
        rw [List.map_map] at hinner
        rw [List.map_map]
        exact hinner
      · -- Below two branches the paths differ in their first name.
        rw [List.Nodup, List.pairwise_map] at hkeys
        refine hkeys.imp ?_
        intro b c hne
        apply List.disjoint_left.mpr
        intro path hb hc
        obtain ⟨leaf, hleaf, rfl⟩ := List.mem_map.mp hb
        obtain ⟨leaf', hleaf', heq⟩ := List.mem_map.mp hc
        obtain ⟨inner, -, rfl⟩ := List.mem_map.mp hleaf
        obtain ⟨inner', -, rfl⟩ := List.mem_map.mp hleaf'
        exact hne (List.cons.inj heq).1.symm

/-- A walk in order leaves no leaf out. -/
theorem ordered_perm (h : Valid name value t) : (ordered le t).Perm (leaves t) := by
  induction h with
  | leaf h => rw [ordered, leaves]
  | @node branches hkeys hname h ih =>
      rw [ordered_node, leaves, leavesOf_eq]
      refine List.Perm.trans (List.Perm.flatMap_right _ (sortBy_perm le branches)) ?_
      exact List.Perm.flatMap_left _ fun b hb => (ih b hb).map (under b.1)

/-- **A walk in order meets the leaves by their paths.** -/
theorem ordered_sorted [DecidableEq κ] (hle : LinearLe le) (h : Valid name value t) :
    Sorted (lexLe le) (ordered le t) := by
  induction h with
  | leaf h =>
      rw [ordered]
      exact List.pairwise_singleton _ _
  | @node branches hkeys hname h ih =>
      have hperm := sortBy_perm le branches
      rw [ordered_node, Sorted, List.pairwise_flatMap]
      constructor
      · intro b hb
        rw [List.pairwise_map]
        refine (ih b (hperm.mem_iff.mp hb)).imp ?_
        intro leaf leaf' hbefore
        rw [under, under, LinearLe.lexLe_cons]
        exact hbefore
      · -- Two branches are told apart by their names alone.
        have hsorted := sortBy_sorted hle branches
        have hkeys' : ((sortBy le branches).map Prod.fst).Nodup :=
          (hperm.map Prod.fst).nodup_iff.mpr hkeys
        rw [List.Nodup, List.pairwise_map] at hkeys'
        refine (hsorted.and hkeys').imp ?_
        intro b c hbc leaf hleaf leaf' hleaf'
        obtain ⟨inner, -, rfl⟩ := List.mem_map.mp hleaf
        obtain ⟨inner', -, rfl⟩ := List.mem_map.mp hleaf'
        rw [under, under, LinearLe.lexLe_of_ne hbc.2]
        exact hbc.1

/-- **A walk in order is a sort by paths.** -/
theorem ordered_eq [DecidableEq κ] (hle : LinearLe le) (h : Valid name value t) :
    ordered le t = sortBy (lexLe le) (leaves t) :=
  (sortBy_eq hle.lex h.paths_nodup (ordered_perm h) (ordered_sorted hle h)).symm

section Walk

variable {enter : List κ → Except ε Unit} {visit : List κ → α → Except ε (List ρ)}
  (f : List κ → α → List ρ)

/-- Below a branch the walk of a tree does not fail, if it may enter and visit what has such
names. -/
theorem Valid.walk_eq_ok (h : Valid name value t)
    (henter : ∀ path, path ≠ [] → (∀ k ∈ path, name k) → enter path = .ok ())
    (hvisit : ∀ path a, path ≠ [] → (∀ k ∈ path, name k) → value a →
      visit path a = .ok (f path a))
    {path : List κ} (hne : path ≠ []) (hpath : ∀ k ∈ path, name k) :
    walk le enter visit path t
      = .ok ((ordered le t).flatMap fun leaf => f (path ++ leaf.1) leaf.2) := by
  induction h generalizing path with
  | @leaf a h =>
      rw [walk, hvisit path a hne hpath h, ordered, List.flatMap_singleton, List.append_nil]
  | @node branches hkeys hname h ih =>
      apply walk_branches f
      intro b hb
      have hbelow : ∀ k ∈ path ++ [b.1], name k := by
        intro k hk
        rcases List.mem_append.mp hk with hk | hk
        · exact hpath k hk
        · rw [List.mem_singleton.mp hk]
          exact hname b hb
      have hbelow_ne : path ++ [b.1] ≠ [] := by simp
      exact ⟨henter _ hbelow_ne hbelow, ih b hb hbelow_ne hbelow⟩

/-- **The walk of a tree visits its leaves in the order of their paths.** -/
theorem Valid.walk_root {branches : List (κ × NamedTree κ α)}
    (h : Valid name value (.node branches))
    (henter : ∀ path, path ≠ [] → (∀ k ∈ path, name k) → enter path = .ok ())
    (hvisit : ∀ path a, path ≠ [] → (∀ k ∈ path, name k) → value a →
      visit path a = .ok (f path a)) :
    walk le enter visit [] (.node branches)
      = .ok ((ordered le (.node branches)).flatMap fun leaf => f leaf.1 leaf.2) := by
  obtain - | ⟨hkeys, hname, h⟩ := h
  apply walk_branches f
  intro b hb
  have hbelow : ∀ k ∈ [b.1], name k := by
    intro k hk
    rw [List.mem_singleton.mp hk]
    exact hname b hb
  have hbelow_ne : [b.1] ≠ [] := List.cons_ne_nil _ _
  exact ⟨henter _ hbelow_ne hbelow, (h b hb).walk_eq_ok f henter hvisit hbelow_ne hbelow⟩

end Walk

end Valid

end NamedTree

end CedraReflect
