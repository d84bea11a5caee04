/-
Lists sorted by keys, under orders that a function decides.

Two lists with the same entries, each in order and no key twice, are one list. So
what a program gets by sorting does not depend on how it sorts or in which order
it met the entries, and two programs agree if their orders agree on the keys
there are.
-/
import Mathlib.Data.List.Sort

set_option autoImplicit false

namespace CedraReflect

/-! ## Orders -/

/-- A linear order, decided by `le`. -/
structure LinearLe {κ : Type} (le : κ → κ → Bool) : Prop where
  total : ∀ a b, le a b = true ∨ le b a = true
  trans : ∀ a b c, le a b = true → le b c = true → le a c = true
  antisymm : ∀ a b, le a b = true → le b a = true → a = b

/-- Sequences by their first difference, and a beginning before what it begins. -/
def lexLe {κ : Type} [DecidableEq κ] (le : κ → κ → Bool) : List κ → List κ → Bool
  | [], _ => true
  | _ :: _, [] => false
  | a :: as, b :: bs => if a = b then lexLe le as bs else le a b

/-- Where two sequences first differ, if neither is a beginning of the other. -/
def firstDifference {κ : Type} [DecidableEq κ] : List κ → List κ → Option (κ × κ)
  | a :: as, b :: bs => if a = b then firstDifference as bs else some (a, b)
  | _, _ => none

namespace LinearLe

variable {κ α : Type} {le : κ → κ → Bool}

theorem refl (h : LinearLe le) (a : κ) : le a a = true := by
  rcases h.total a a with haa | haa
  · exact haa
  · exact haa

/-- An order of images is one of the things they determine. -/
theorem comap (h : LinearLe le) {f : α → κ} (hf : ∀ a b, f a = f b → a = b) :
    LinearLe fun a b => le (f a) (f b) where
  total a b := h.total (f a) (f b)
  trans a b c := h.trans (f a) (f b) (f c)
  antisymm a b hab hba := hf a b (h.antisymm _ _ hab hba)

variable [DecidableEq κ]

theorem lexLe_cons (le : κ → κ → Bool) (a : κ) (as bs : List κ) :
    lexLe le (a :: as) (a :: bs) = lexLe le as bs := by
  rw [lexLe, if_pos rfl]

theorem lexLe_of_ne {a b : κ} (h : a ≠ b) (as bs : List κ) :
    lexLe le (a :: as) (b :: bs) = le a b := by
  rw [lexLe, if_neg h]

theorem lexLe_total (h : LinearLe le) (as bs : List κ) :
    lexLe le as bs = true ∨ lexLe le bs as = true := by
  induction as generalizing bs with
  | nil => exact Or.inl rfl
  | cons a as ih =>
      cases bs with
      | nil => exact Or.inr rfl
      | cons b bs =>
          by_cases hab : a = b
          · rw [hab, lexLe_cons, lexLe_cons]
            exact ih bs
          · rw [lexLe_of_ne hab, lexLe_of_ne (Ne.symm hab)]
            exact h.total a b

theorem lexLe_antisymm (h : LinearLe le) {as bs : List κ} (hab : lexLe le as bs = true)
    (hba : lexLe le bs as = true) : as = bs := by
  induction as generalizing bs with
  | nil =>
      cases bs with
      | nil => rfl
      | cons b bs => cases hba
  | cons a as ih =>
      cases bs with
      | nil => cases hab
      | cons b bs =>
          by_cases hne : a = b
          · rw [hne, lexLe_cons] at hab hba
            rw [hne, ih hab hba]
          · rw [lexLe_of_ne hne] at hab
            rw [lexLe_of_ne (Ne.symm hne)] at hba
            exact absurd (h.antisymm a b hab hba) hne

/-- Of three sequences two have the same first element, or the three first elements are in
order and the first two sequences differ there. -/
theorem lexLe_trans (h : LinearLe le) {as bs cs : List κ} (hab : lexLe le as bs = true)
    (hbc : lexLe le bs cs = true) : lexLe le as cs = true := by
  induction as generalizing bs cs with
  | nil => rfl
  | cons a as ih =>
      cases bs with
      | nil => cases hab
      | cons b bs =>
          cases cs with
          | nil => cases hbc
          | cons c cs =>
              by_cases hne : a = b
              · rw [hne, lexLe_cons] at hab
                by_cases hne' : b = c
                · rw [hne', lexLe_cons] at hbc
                  rw [hne, hne', lexLe_cons]
                  exact ih hab hbc
                · rw [lexLe_of_ne hne'] at hbc
                  rw [hne, lexLe_of_ne hne']
                  exact hbc
              · rw [lexLe_of_ne hne] at hab
                by_cases hne' : b = c
                · rw [← hne', lexLe_of_ne hne]
                  exact hab
                · rw [lexLe_of_ne hne'] at hbc
                  -- Were the outer two equal, so would be the inner one by antisymmetry.
                  have hac : a ≠ c := by
                    intro heq
                    rw [← heq] at hbc
                    exact hne (h.antisymm a b hab hbc)
                  rw [lexLe_of_ne hac]
                  exact h.trans a b c hab hbc

/-- **Sequences are ordered as their elements are.** -/
theorem lex (h : LinearLe le) : LinearLe (lexLe le) where
  total := h.lexLe_total
  trans _ _ _ := h.lexLe_trans
  antisymm _ _ := h.lexLe_antisymm

/-- Two orders that agree on the elements order the sequences alike. -/
theorem lexLe_congr {le' : κ → κ → Bool} {as bs : List κ}
    (h : ∀ a ∈ as, ∀ b ∈ bs, le a b = le' a b) : lexLe le as bs = lexLe le' as bs := by
  induction as generalizing bs with
  | nil => rfl
  | cons a as ih =>
      cases bs with
      | nil => rfl
      | cons b bs =>
          by_cases hab : a = b
          · subst hab
            rw [lexLe_cons, lexLe_cons]
            apply ih
            intro c hc d hd
            exact h c (List.mem_cons_of_mem a hc) d (List.mem_cons_of_mem a hd)
          · rw [lexLe_of_ne hab, lexLe_of_ne hab]
            exact h a List.mem_cons_self b List.mem_cons_self

/-- Sequences of images are ordered by the images. -/
theorem lexLe_map [DecidableEq α] {f : α → κ} (hf : Function.Injective f) (as bs : List α) :
    lexLe le (as.map f) (bs.map f) = lexLe (fun a b => le (f a) (f b)) as bs := by
  induction as generalizing bs with
  | nil => rfl
  | cons a as ih =>
      cases bs with
      | nil => rfl
      | cons b bs =>
          rw [List.map_cons, List.map_cons]
          by_cases hab : a = b
          · rw [hab, lexLe_cons, lexLe_cons]
            exact ih bs
          · have himage : f a ≠ f b := fun heq => hab (hf heq)
            rw [lexLe_of_ne hab, lexLe_of_ne himage]

/-- **Two orders of sequences differ where the orders of elements differ at the first
difference.** -/
theorem lexLe_differ_iff {le' : κ → κ → Bool} {as bs : List κ} :
    lexLe le as bs = true ∧ lexLe le' as bs = false
      ↔ ∃ a b, firstDifference as bs = some (a, b) ∧ le a b = true ∧ le' a b = false := by
  induction as generalizing bs with
  | nil => simp [lexLe, firstDifference]
  | cons a as ih =>
      cases bs with
      | nil => simp [lexLe, firstDifference]
      | cons b bs =>
          by_cases hab : a = b
          · rw [hab, lexLe_cons, lexLe_cons, firstDifference, if_pos rfl]
            exact ih
          · rw [lexLe_of_ne hab, lexLe_of_ne hab, firstDifference, if_neg hab]
            constructor
            · exact fun h => ⟨a, b, rfl, h⟩
            · rintro ⟨c, d, heq, h⟩
              obtain ⟨hc, hd⟩ := Prod.mk.inj (Option.some.inj heq)
              rw [hc, hd]
              exact h

end LinearLe

/-! ## Sorting by keys -/

section SortBy

variable {κ α β : Type} {le le' : κ → κ → Bool}

/-- The entries by their keys. -/
def sortBy (le : κ → κ → Bool) (entries : List (κ × α)) : List (κ × α) :=
  entries.insertionSort fun a b => le a.1 b.1 = true

/-- The entries are in order. -/
def Sorted (le : κ → κ → Bool) (entries : List (κ × α)) : Prop :=
  entries.Pairwise fun a b => le a.1 b.1 = true

theorem sortBy_perm (le : κ → κ → Bool) (entries : List (κ × α)) :
    (sortBy le entries).Perm entries := List.perm_insertionSort _ _

theorem sortBy_sorted (h : LinearLe le) (entries : List (κ × α)) :
    Sorted le (sortBy le entries) := by
  have : Std.Total fun a b : κ × α => le a.1 b.1 = true := ⟨fun a b => h.total a.1 b.1⟩
  have : IsTrans (κ × α) fun a b => le a.1 b.1 = true := ⟨fun a b c => h.trans a.1 b.1 c.1⟩
  exact List.pairwise_insertionSort _ entries

/-- **Entries in order are determined.** -/
theorem eq_of_perm (h : LinearLe le) {l l' : List (κ × α)} (hkeys : (l.map Prod.fst).Nodup)
    (hperm : l.Perm l') (hl : Sorted le l) (hl' : Sorted le l') : l = l' := by
  refine List.Perm.eq_of_pairwise ?_ hl hl' hperm
  intro a b ha hb hab hba
  exact List.inj_on_of_nodup_map hkeys ha (hperm.mem_iff.mpr hb) (h.antisymm _ _ hab hba)

theorem sortBy_eq (h : LinearLe le) {l l' : List (κ × α)} (hkeys : (l.map Prod.fst).Nodup)
    (hperm : l'.Perm l) (hl' : Sorted le l') : sortBy le l = l' := by
  have hsame : (sortBy le l).Perm l' := (sortBy_perm le l).trans hperm.symm
  have hkeys' : ((sortBy le l).map Prod.fst).Nodup :=
    ((sortBy_perm le l).map Prod.fst).nodup_iff.mpr hkeys
  exact eq_of_perm h hkeys' hsame (sortBy_sorted h l) hl'

/-- The order in which the entries came does not matter. -/
theorem sortBy_congr_perm (h : LinearLe le) {l l' : List (κ × α)}
    (hkeys : (l.map Prod.fst).Nodup) (hperm : l.Perm l') : sortBy le l = sortBy le l' :=
  sortBy_eq h hkeys ((sortBy_perm le l').trans hperm.symm) (sortBy_sorted h l')

/-- Two orders that agree on the keys sort alike. -/
theorem sortBy_congr {l : List (κ × α)}
    (hle : ∀ a ∈ l.map Prod.fst, ∀ b ∈ l.map Prod.fst, le a b = le' a b) :
    sortBy le l = sortBy le' l := by
  have hid := List.map_insertionSort (fun a b : κ × α => le a.1 b.1 = true)
    (fun a b : κ × α => le' a.1 b.1 = true) id l
    (fun a ha b hb => by
      rw [hle a.1 (List.mem_map_of_mem ha) b.1 (List.mem_map_of_mem hb)]
      rfl)
  rw [List.map_id, List.map_id] at hid
  exact hid

/-- Entries may be sorted by the images of their keys. -/
theorem map_sortBy_image {κ' : Type} (le : κ' → κ' → Bool) (g : κ → κ') (f : κ × α → β)
    (l : List (κ × α)) :
    (sortBy (fun a b => le (g a) (g b)) l).map (fun entry => (g entry.1, f entry))
      = sortBy le (l.map fun entry => (g entry.1, f entry)) := by
  apply List.map_insertionSort
  intro a _ b _
  rfl

/-- What is made of an entry moves with it. -/
theorem map_sortBy (f : κ × α → β) (l : List (κ × α)) :
    (sortBy le l).map (fun entry => (entry.1, f entry))
      = sortBy le (l.map fun entry => (entry.1, f entry)) := map_sortBy_image le id f l

/-- **Sorting forgets the order of the entries and nothing else.** -/
theorem sortBy_eq_sortBy_iff (h : LinearLe le) {l l' : List (κ × α)}
    (hkeys : (l.map Prod.fst).Nodup) : sortBy le l = sortBy le l' ↔ l.Perm l' := by
  constructor
  · intro heq
    refine (sortBy_perm le l).symm.trans ?_
    rw [heq]
    exact sortBy_perm le l'
  · exact sortBy_congr_perm h hkeys

/-- **Two orders sort alike exactly if they agree on the keys.** -/
theorem sortBy_keys_eq_iff (h : LinearLe le) (h' : LinearLe le') {l : List (κ × α)}
    (hkeys : (l.map Prod.fst).Nodup) :
    (sortBy le l).map Prod.fst = (sortBy le' l).map Prod.fst
      ↔ ∀ a ∈ l.map Prod.fst, ∀ b ∈ l.map Prod.fst, le a b = le' a b := by
  constructor
  · intro heq
    have hperm : ((sortBy le l).map Prod.fst).Perm (l.map Prod.fst) := (sortBy_perm le l).map _
    have hsorted : ((sortBy le l).map Prod.fst).Pairwise fun a b => le a b = true :=
      List.pairwise_map.mpr (sortBy_sorted h l)
    have hsorted' : ((sortBy le l).map Prod.fst).Pairwise fun a b => le' a b = true := by
      rw [heq]
      exact List.pairwise_map.mpr (sortBy_sorted h' l)
    -- Of two keys the first one is before the other in both orders, the second one in neither.
    have hbefore : ((sortBy le l).map Prod.fst).Pairwise fun a b => le a b = le' a b :=
      (hsorted.and hsorted').imp fun hab => hab.1.trans hab.2.symm
    have hafter : ((sortBy le l).map Prod.fst).Pairwise (flip fun a b => le a b = le' a b) := by
      refine ((hsorted.and hsorted').and (hperm.nodup_iff.mpr hkeys)).imp ?_
      rintro a b ⟨⟨hab, hab'⟩, hne⟩
      have hba : ¬ le b a = true := fun hba => hne (h.antisymm a b hab hba)
      have hba' : ¬ le' b a = true := fun hba => hne (h'.antisymm a b hab' hba)
      rw [flip, Bool.eq_false_iff.mpr hba, Bool.eq_false_iff.mpr hba']
    have hself : ∀ a ∈ (sortBy le l).map Prod.fst, le a a = le' a a := by
      intro a _
      rw [h.refl, h'.refl]
    intro a ha b hb
    exact List.Pairwise.forall_of_forall_of_flip hself hbefore hafter (hperm.mem_iff.mpr ha)
      (hperm.mem_iff.mpr hb)
  · intro hagree
    rw [sortBy_congr hagree]

end SortBy

end CedraReflect
