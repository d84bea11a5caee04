/-
Finite maps that remember the order in which their keys were inserted.

Writing an absent key appends it, writing a present one replaces its value where
it stands, and a traversal meets the keys in that order. A map is the list a
traversal sees, with the fact that no key comes twice as a field, so that
looking a key up and meeting it on the way are the same thing
([`OrderedMap.mem_entries`]).
-/
import Mathlib.Algebra.BigOperators.Group.Finset.Basic
import Mathlib.Data.Finset.Basic
import Mathlib.Data.List.Nodup
import Mathlib.Tactic.Abel

set_option autoImplicit false

namespace CedraReflect

/-- A finite map in the order of insertion. -/
@[ext] structure OrderedMap (κ ν : Type) where
  entries : List (κ × ν)
  nodup : (entries.map Prod.fst).Nodup

namespace OrderedMap

variable {κ ν : Type}

def empty : OrderedMap κ ν := ⟨[], List.nodup_nil⟩

instance : EmptyCollection (OrderedMap κ ν) := ⟨empty⟩

instance : Inhabited (OrderedMap κ ν) := ⟨empty⟩

def keys (m : OrderedMap κ ν) : List κ := m.entries.map Prod.fst

def values (m : OrderedMap κ ν) : List ν := m.entries.map Prod.snd

def size (m : OrderedMap κ ν) : ℕ := m.entries.length

@[simp] theorem keys_empty : (∅ : OrderedMap κ ν).keys = [] := rfl

@[simp] theorem values_empty : (∅ : OrderedMap κ ν).values = [] := rfl

theorem nodup_keys (m : OrderedMap κ ν) : m.keys.Nodup := m.nodup

theorem size_eq (m : OrderedMap κ ν) : m.size = m.keys.length := by
  unfold size keys
  rw [List.length_map]

variable [DecidableEq κ]

/-! ## Looking up -/

/-- The value of the first entry with the key `k`. -/
def find (k : κ) : List (κ × ν) → Option ν
  | [] => none
  | (k', v) :: rest => if k' = k then some v else find k rest

def get? (m : OrderedMap κ ν) (k : κ) : Option ν := find k m.entries

def has (m : OrderedMap κ ν) (k : κ) : Bool := (m.get? k).isSome

@[simp] theorem get?_empty (k : κ) : (∅ : OrderedMap κ ν).get? k = none := rfl

theorem find_eq_none {k : κ} {l : List (κ × ν)} : find k l = none ↔ k ∉ l.map Prod.fst := by
  induction l with
  | nil => simp [find]
  | cons p l ih =>
      obtain ⟨k', v⟩ := p
      by_cases hk : k' = k
      · simp [find, hk]
      · rw [find, if_neg hk, ih, List.map_cons, List.mem_cons, not_or]
        exact ⟨fun h => ⟨Ne.symm hk, h⟩, fun h => h.2⟩

theorem find_eq_some {k : κ} {v : ν} {l : List (κ × ν)} (hl : (l.map Prod.fst).Nodup) :
    find k l = some v ↔ (k, v) ∈ l := by
  induction l with
  | nil => simp [find]
  | cons p l ih =>
      obtain ⟨k', v'⟩ := p
      rw [List.map_cons, List.nodup_cons] at hl
      by_cases hk : k' = k
      · subst hk
        have hmem : (k', v) ∉ l := fun h => hl.1 (List.mem_map_of_mem h : _ ∈ List.map Prod.fst l)
        simp [find, hmem, eq_comm]
      · simp [find, hk, ih hl.2, Ne.symm hk]

/-- **A traversal meets exactly what a lookup finds.** -/
theorem mem_entries {m : OrderedMap κ ν} {k : κ} {v : ν} :
    (k, v) ∈ m.entries ↔ m.get? k = some v :=
  (find_eq_some m.nodup).symm

theorem mem_keys {m : OrderedMap κ ν} {k : κ} : k ∈ m.keys ↔ m.has k = true := by
  unfold has get?
  cases h : find k m.entries with
  | none => simpa [keys] using find_eq_none.mp h
  | some v =>
      simp only [Option.isSome_some, iff_true]
      exact List.mem_map_of_mem ((find_eq_some m.nodup).mp h)

theorem has_iff {m : OrderedMap κ ν} {k : κ} : m.has k = true ↔ ∃ v, m.get? k = some v :=
  Option.isSome_iff_exists

theorem has_eq_false {m : OrderedMap κ ν} {k : κ} : m.has k = false ↔ m.get? k = none := by
  unfold has
  cases m.get? k <;> simp

theorem mem_values {m : OrderedMap κ ν} {v : ν} : v ∈ m.values ↔ ∃ k, m.get? k = some v := by
  unfold values
  rw [List.mem_map]
  constructor
  · rintro ⟨⟨k, v'⟩, hmem, rfl⟩
    exact ⟨k, mem_entries.mp hmem⟩
  · rintro ⟨k, hk⟩
    exact ⟨(k, v), mem_entries.mpr hk, rfl⟩

/-! ## Writing -/

/-- The entries with `k` mapped to `v`, in place if it is there. -/
def put (k : κ) (v : ν) : List (κ × ν) → List (κ × ν)
  | [] => [(k, v)]
  | (k', v') :: rest => if k' = k then (k, v) :: rest else (k', v') :: put k v rest

theorem map_fst_put (k : κ) (v : ν) (l : List (κ × ν)) :
    (put k v l).map Prod.fst
      = if k ∈ l.map Prod.fst then l.map Prod.fst else l.map Prod.fst ++ [k] := by
  induction l with
  | nil => simp [put]
  | cons p l ih =>
      obtain ⟨k', v'⟩ := p
      by_cases hk : k' = k
      · simp [put, hk]
      · simp only [put, if_neg hk, List.map_cons, ih, List.mem_cons, Ne.symm hk, false_or]
        split <;> rfl

def set (m : OrderedMap κ ν) (k : κ) (v : ν) : OrderedMap κ ν :=
  ⟨put k v m.entries, by
    rw [map_fst_put]
    split
    · exact m.nodup
    · next hk => exact List.Nodup.concat hk m.nodup |> (by simpa using ·)⟩

theorem find_put (k k' : κ) (v : ν) (l : List (κ × ν)) :
    find k' (put k v l) = if k' = k then some v else find k' l := by
  induction l with
  | nil => simp [put, find, eq_comm]
  | cons p l ih =>
      obtain ⟨k₀, v₀⟩ := p
      by_cases hk : k₀ = k
      · subst hk
        by_cases hk' : k₀ = k'
        · simp [put, find, hk']
        · simp [put, find, hk', Ne.symm hk']
      · by_cases hk' : k₀ = k'
        · subst hk'
          simp [put, find, hk]
        · simp [put, find, hk, hk', ih]

@[simp] theorem get?_set (m : OrderedMap κ ν) (k k' : κ) (v : ν) :
    (m.set k v).get? k' = if k' = k then some v else m.get? k' :=
  find_put k k' v m.entries

@[simp] theorem has_set (m : OrderedMap κ ν) (k k' : κ) (v : ν) :
    (m.set k v).has k' = (decide (k' = k) || m.has k') := by
  unfold has
  rw [get?_set]
  split <;> simp_all

/-- Writing a key twice writes it once. -/
theorem put_put (k : κ) (v w : ν) (l : List (κ × ν)) : put k v (put k w l) = put k v l := by
  induction l with
  | nil => simp [put]
  | cons p l ih =>
      obtain ⟨k', v'⟩ := p
      by_cases hk : k' = k
      · simp [put, hk]
      · simp [put, hk, ih]

@[simp] theorem set_set (m : OrderedMap κ ν) (k : κ) (v w : ν) : (m.set k w).set k v = m.set k v :=
  OrderedMap.ext (put_put k v w m.entries)

theorem keys_set (m : OrderedMap κ ν) (k : κ) (v : ν) :
    (m.set k v).keys = if m.has k = true then m.keys else m.keys ++ [k] := by
  have h := map_fst_put k v m.entries
  have hmem := mem_keys (m := m) (k := k)
  unfold keys at hmem ⊢
  rw [set, h]
  exact if_congr hmem rfl rfl

theorem mem_keys_set {m : OrderedMap κ ν} {k k' : κ} {v : ν} :
    k' ∈ (m.set k v).keys ↔ k' = k ∨ k' ∈ m.keys := by
  rw [mem_keys, mem_keys, has_set, Bool.or_eq_true, decide_eq_true_eq]

/-- An absent key is appended. -/
theorem entries_set_of_absent {m : OrderedMap κ ν} {k : κ} (hk : m.get? k = none) (v : ν) :
    (m.set k v).entries = m.entries ++ [(k, v)] := by
  have hput : ∀ l : List (κ × ν), find k l = none → put k v l = l ++ [(k, v)] := by
    intro l
    induction l with
    | nil =>
        intro _
        rfl
    | cons p l ih =>
        obtain ⟨k', v'⟩ := p
        intro hfind
        by_cases hk' : k' = k
        · rw [find, if_pos hk'] at hfind
          exact absurd hfind (by simp)
        · rw [find, if_neg hk'] at hfind
          rw [put, if_neg hk', ih hfind, List.cons_append]
  exact hput m.entries hk

/-- What a traversal meets after a write is what was written, or was there. -/
theorem mem_values_set {m : OrderedMap κ ν} {k : κ} {v x : ν} (h : x ∈ (m.set k v).values) :
    x = v ∨ x ∈ m.values := by
  obtain ⟨k', hk'⟩ := mem_values.mp h
  rw [get?_set] at hk'
  by_cases hk : k' = k
  · rw [if_pos hk] at hk'
    exact Or.inl (Option.some_injective _ hk').symm
  · rw [if_neg hk] at hk'
    exact Or.inr (mem_values.mpr ⟨k', hk'⟩)

/-- Every value names the key it is under. -/
def KeyedBy (key : ν → κ) (m : OrderedMap κ ν) : Prop := ∀ k v, m.get? k = some v → key v = k

theorem keyedBy_empty (key : ν → κ) : (∅ : OrderedMap κ ν).KeyedBy key := by
  intro k v h
  exact absurd h (by simp)

theorem KeyedBy.set {key : ν → κ} {m : OrderedMap κ ν} (h : m.KeyedBy key) {k : κ} {v : ν}
    (hv : key v = k) : (m.set k v).KeyedBy key := by
  intro k' v' h'
  rw [get?_set] at h'
  by_cases hk : k' = k
  · rw [if_pos hk] at h'
    rw [← Option.some.inj h', hv, hk]
  · rw [if_neg hk] at h'
    exact h k' v' h'

/-- The entries of such a map are its values under their keys. -/
theorem KeyedBy.entries_eq {key : ν → κ} {m : OrderedMap κ ν} (h : m.KeyedBy key) :
    (m.values.map fun v => (key v, v)) = m.entries := by
  unfold values
  rw [List.map_map]
  refine List.map_congr_left ?_ |>.trans (List.map_id _)
  rintro ⟨k, v⟩ hmem
  exact Prod.ext (h k v (mem_entries.mp hmem)) rfl

/-! ## Sums over a traversal -/

/-- A write changes a sum by what it adds to its own entry, an absent entry
counting as nothing. -/
theorem sum_values_set {α : Type} [AddCommGroup α] (m : OrderedMap κ ν) (k : κ) (v : ν)
    (f : ν → α) :
    ((m.set k v).values.map f).sum
      = (m.values.map f).sum + (f v - ((m.get? k).map f).getD 0) := by
  have hput : ∀ l : List (κ × ν), ((put k v l).map fun entry => f entry.2).sum
      = (l.map fun entry => f entry.2).sum + (f v - ((find k l).map f).getD 0) := by
    intro l
    induction l with
    | nil => simp [put, find]
    | cons p l ih =>
        obtain ⟨k', v'⟩ := p
        by_cases hk : k' = k
        · simp only [put, find, if_pos hk, List.map_cons, List.sum_cons, Option.map_some,
            Option.getD_some]
          abel
        · simp only [put, find, if_neg hk, List.map_cons, List.sum_cons, ih]
          abel
  unfold values
  rw [List.map_map, List.map_map]
  exact hput m.entries

/-- A sum over a part of a traversal is one over the keys that it meets. -/
theorem sum_sublist {α : Type} [AddCommMonoid α] {m : OrderedMap κ ν} {l : List (κ × ν)}
    (hl : l.Sublist m.entries) {f : ν → α} {g : κ → α}
    (hg : ∀ k v, m.get? k = some v → f v = g k) :
    (l.map fun entry => f entry.2).sum = ∑ k ∈ (l.map Prod.fst).toFinset, g k := by
  rw [List.sum_toFinset _ (m.nodup.sublist (hl.map _)), List.map_map]
  congr 1
  exact List.map_congr_left fun entry hentry => hg _ _ (mem_entries.mp (hl.subset hentry))

/-- So is a sum over what a traversal has met so far. -/
theorem sum_prefix {m : OrderedMap κ ν} {part : List ν} (h : part <+: m.values) :
    ∃ S : Finset κ, ∀ {α : Type} [AddCommMonoid α] {f : ν → α} {g : κ → α},
      (∀ k v, m.get? k = some v → f v = g k) → (part.map f).sum = ∑ k ∈ S, g k := by
  refine ⟨((m.entries.take part.length).map Prod.fst).toFinset, fun hg => ?_⟩
  rw [← sum_sublist (List.take_sublist _ _) hg]
  conv_lhs => rw [List.prefix_iff_eq_take.mp h, values, ← List.map_take, List.map_map]
  rfl

theorem sum_values {α : Type} [AddCommMonoid α] {m : OrderedMap κ ν} {f : ν → α} {g : κ → α}
    (hg : ∀ k v, m.get? k = some v → f v = g k) :
    (m.values.map f).sum = ∑ k ∈ m.keys.toFinset, g k := by
  unfold values
  rw [List.map_map]
  exact sum_sublist (List.Sublist.refl _) hg

end OrderedMap

end CedraReflect
