/-
JSON values up to the order of names.

Two values are the same if they differ in the order of names alone. Sorting the
objects by any linear order takes the same values to one value, and others to
others. Sorting by two orders takes a value to one only if the orders agree on the
names of each of its objects, the inner ones too. A language whose objects put
indices first sorts by an order of its own, whatever order it is asked for.
-/
import CedraReflect.JsonObject
import CedraReflect.KeyOrder
import Mathlib.Data.List.TakeWhile

set_option autoImplicit false

namespace CedraReflect.Json

variable {ν : Type}

/-- No object repeats a name. -/
abbrev Distinct (v : Json ν) : Prop := Plain (fun _ => none) v

/-! ## The same value -/

section Same

variable [DecidableEq ν]

mutual

/-- Equality of values, without the order of names. -/
def same : Json ν → Json ν → Bool
  | .null, .null => true
  | .boolean a, .boolean b => a = b
  | .number a, .number b => a = b
  | .string a, .string b => a = b
  | .array items, .array items' => sameItems items items'
  | .object members, .object members' =>
      members.length = members'.length && sameMembers members members'
  | _, _ => false

def sameItems : List (Json ν) → List (Json ν) → Bool
  | [], [] => true
  | v :: items, w :: items' => same v w && sameItems items items'
  | _, _ => false

/-- Every member has a member of its name with the same value. -/
def sameMembers : List (String × Json ν) → List (String × Json ν) → Bool
  | [], _ => true
  | (k, v) :: members, members' =>
      (match members'.lookup k with
        | some w => same v w
        | none => false) && sameMembers members members'

end

theorem sameMembers_eq_true_iff {members members' : List (String × Json ν)} :
    sameMembers members members' = true
      ↔ ∀ m ∈ members, ∃ w, members'.lookup m.1 = some w ∧ same m.2 w = true := by
  induction members with
  | nil =>
      rw [sameMembers]
      exact ⟨fun _ m hm => absurd hm List.not_mem_nil, fun _ => rfl⟩
  | cons m members ih =>
      rw [sameMembers, Bool.and_eq_true, ih, List.forall_mem_cons]
      refine and_congr_left fun _ => ?_
      cases hlookup : members'.lookup m.1 with
      | none =>
          constructor
          · rintro ⟨⟩
          · rintro ⟨w, ⟨⟩, -⟩
      | some w =>
          constructor
          · exact fun hsame => ⟨w, rfl, hsame⟩
          · rintro ⟨w', heq, hsame⟩
            rw [Option.some.inj heq]
            exact hsame

variable {le : String → String → Bool}

theorem sameItems_iff {f : Json ν → Json ν} {items items' : List (Json ν)}
    (hf : ∀ v ∈ items, ∀ w ∈ items', (f v = f w ↔ same v w = true)) :
    items.map f = items'.map f ↔ sameItems items items' = true := by
  induction items generalizing items' with
  | nil =>
      cases items' with
      | nil => simp [sameItems]
      | cons w items' => simp [sameItems]
  | cons v items ih =>
      cases items' with
      | nil => simp [sameItems]
      | cons w items' =>
          have hfirst := hf v List.mem_cons_self w List.mem_cons_self
          have hrest := ih fun v hv w hw =>
            hf v (List.mem_cons_of_mem _ hv) w (List.mem_cons_of_mem _ hw)
          rw [List.map_cons, List.map_cons, List.cons_eq_cons, sameItems, Bool.and_eq_true,
            hfirst, hrest]

/-- Members whose values are taken by `f` alike are a permutation of one another just if they
are the same. -/
theorem sameMembers_iff {f : Json ν → Json ν} {members members' : List (String × Json ν)}
    (hkeys : (members.map Prod.fst).Nodup) (hkeys' : (members'.map Prod.fst).Nodup)
    (hf : ∀ m ∈ members, ∀ m' ∈ members', (f m.2 = f m'.2 ↔ same m.2 m'.2 = true)) :
    (members.map fun m => (m.1, f m.2)).Perm (members'.map fun m => (m.1, f m.2))
      ↔ members.length = members'.length ∧ sameMembers members members' = true := by
  rw [sameMembers_eq_true_iff]
  constructor
  · intro hperm
    have hlength := hperm.length_eq
    rw [List.length_map, List.length_map] at hlength
    refine ⟨hlength, ?_⟩
    intro m hm
    have hmem := hperm.mem_iff.mp (List.mem_map_of_mem hm)
    obtain ⟨m', hm', heq⟩ := List.mem_map.mp hmem
    obtain ⟨hname, hvalue⟩ := Prod.mk.inj heq
    refine ⟨m'.2, ?_, (hf m hm m' hm').mp hvalue.symm⟩
    rw [lookup_eq_some hkeys', ← hname]
    exact hm'
  · rintro ⟨hlength, hsame⟩
    -- Every one of the first members is among the second, and there are as many.
    have hsubset : (members.map fun m => (m.1, f m.2)) ⊆ members'.map fun m => (m.1, f m.2) := by
      intro entry hentry
      obtain ⟨m, hm, rfl⟩ := List.mem_map.mp hentry
      obtain ⟨w, hlookup, hw⟩ := hsame m hm
      have hmem := (lookup_eq_some hkeys').mp hlookup
      rw [(hf m hm (m.1, w) hmem).mpr hw]
      exact List.mem_map_of_mem hmem
    have hnodup : (members.map fun m => (m.1, f m.2)).Nodup := by
      apply List.Nodup.of_map Prod.fst
      rw [List.map_map]
      exact hkeys
    apply (List.subperm_of_subset hnodup hsubset).perm_of_length_le
    rw [List.length_map, List.length_map, hlength]

/-- **Sorted objects are equal just if the values are the same.** -/
theorem sorted_eq_iff_same (hle : LinearLe le) {v w : Json ν} (hv : Distinct v)
    (hw : Distinct w) :
    mapObjects (sortMembers le) v = mapObjects (sortMembers le) w ↔ same v w = true := by
  -- Along the value: what is no object is compared as it is, and an object by its sorted members.
  induction hv generalizing w with
  | null => cases w <;> simp [mapObjects, same]
  | boolean value => cases w <;> simp [mapObjects, same]
  | number value => cases w <;> simp [mapObjects, same]
  | string value => cases w <;> simp [mapObjects, same]
  | @array items h ih =>
      cases hw with
      | @array items' h' =>
          rw [mapObjects, mapObjects, mapItems_eq, mapItems_eq, same, Json.array.injEq]
          exact sameItems_iff fun v hv w hw => ih v hv (h' w hw)
      | _ => simp [mapObjects, same]
  | @object members hkeys hindex h ih =>
      cases hw with
      | @object members' hkeys' hindex' h' =>
          have hmapped : ((mapMembers (sortMembers le) members).map Prod.fst).Nodup := by
            rw [keys_mapMembers]
            exact hkeys
          rw [mapObjects, mapObjects, same, Json.object.injEq]
          change sortBy le _ = sortBy le _ ↔ _
          rw [sortBy_eq_sortBy_iff hle hmapped, mapMembers_eq, mapMembers_eq,
            sameMembers_iff hkeys hkeys' fun m hm m' hm' => ih m hm (h' m' hm'),
            Bool.and_eq_true, decide_eq_true_eq]
      | _ => simp [mapObjects, same]

end Same

/-! ## Every object of a value -/

section EachObject

variable (p : List String → Bool)

mutual

/-- The names of every object are as `p` says. -/
def eachObject : Json ν → Bool
  | .array items => eachItem items
  | .object members => p (members.map Prod.fst) && eachMember members
  | _ => true

def eachItem : List (Json ν) → Bool
  | [] => true
  | v :: items => eachObject v && eachItem items

def eachMember : List (String × Json ν) → Bool
  | [] => true
  | (_, v) :: members => eachObject v && eachMember members

end

variable {p}

theorem eachObject_array {items : List (Json ν)} :
    eachObject p (.array items) = true ↔ ∀ v ∈ items, eachObject p v = true := by
  rw [eachObject]
  induction items with
  | nil => simp [eachItem]
  | cons v items ih => rw [eachItem, Bool.and_eq_true, ih, List.forall_mem_cons]

theorem eachObject_object {members : List (String × Json ν)} :
    eachObject p (.object members) = true
      ↔ p (members.map Prod.fst) = true ∧ ∀ m ∈ members, eachObject p m.2 = true := by
  have hmembers : eachMember p members = true ↔ ∀ m ∈ members, eachObject p m.2 = true := by
    induction members with
    | nil => simp [eachMember]
    | cons m members ih => rw [eachMember, Bool.and_eq_true, ih, List.forall_mem_cons]
  rw [eachObject, Bool.and_eq_true, hmembers]

end EachObject

section Agree

variable {le le' : String → String → Bool}

theorem mem_of_sorted {members : List (String × Json ν)}
    (h : sortMembers le (mapMembers (sortMembers le) members)
      = sortMembers le' (mapMembers (sortMembers le') members))
    (hkeys : (members.map Prod.fst).Nodup) :
    ∀ m ∈ members,
      mapObjects (sortMembers le) m.2 = mapObjects (sortMembers le') m.2 := by
  intro m hm
  have hmem : (m.1, mapObjects (sortMembers le) m.2)
      ∈ sortMembers le (mapMembers (sortMembers le) members) := by
    rw [(sortMembers_perm _).mem_iff, mapMembers_eq]
    exact List.mem_map_of_mem hm
  rw [h, (sortMembers_perm _).mem_iff, mapMembers_eq, List.mem_map] at hmem
  obtain ⟨m', hm', heq⟩ := hmem
  obtain ⟨hname, hvalue⟩ := Prod.mk.inj heq
  -- The name has one value only.
  have hsame : m' = m := List.inj_on_of_nodup_map hkeys hm' hm hname
  rw [← hvalue, hsame]

/-- **Two orders sort a value alike just if they agree on the names of each object.** -/
theorem sorted_agree_iff (hle : LinearLe le) (hle' : LinearLe le') {p : List String → Bool}
    (hp : ∀ names, p names = true ↔ ∀ a ∈ names, ∀ b ∈ names, le a b = le' a b) {v : Json ν}
    (hv : Distinct v) :
    mapObjects (sortMembers le) v = mapObjects (sortMembers le') v ↔ eachObject p v = true := by
  induction hv with
  | null => simp [mapObjects, eachObject]
  | boolean value => simp [mapObjects, eachObject]
  | number value => simp [mapObjects, eachObject]
  | string value => simp [mapObjects, eachObject]
  | @array items h ih =>
      rw [mapObjects, mapObjects, mapItems_eq, mapItems_eq, Json.array.injEq, eachObject_array,
        List.map_inj_left]
      exact forall₂_congr ih
  | @object members hkeys hindex h ih =>
      rw [mapObjects, mapObjects, Json.object.injEq, eachObject_object, hp]
      have hkeys_mapped : ∀ f, ((mapMembers f members).map Prod.fst).Nodup := by
        intro f
        rw [keys_mapMembers]
        exact hkeys
      constructor
      · intro heq
        -- A name has one member on either side, so that the members agree before their order does.
        have hvalues := mem_of_sorted heq hkeys
        have hmapped : mapMembers (sortMembers le) members
            = mapMembers (sortMembers le') members := by
          rw [mapMembers_eq, mapMembers_eq]
          apply List.map_congr_left
          intro m hm
          rw [hvalues m hm]
        have hnames := congrArg (List.map Prod.fst) heq
        rw [← hmapped] at hnames
        have hagree := (sortBy_keys_eq_iff hle hle' (hkeys_mapped _)).mp hnames
        rw [keys_mapMembers] at hagree
        exact ⟨hagree, fun m hm => (ih m hm).mp (hvalues m hm)⟩
      · rintro ⟨hagree, hvalues⟩
        have hmapped : mapMembers (sortMembers le) members
            = mapMembers (sortMembers le') members := by
          rw [mapMembers_eq, mapMembers_eq]
          apply List.map_congr_left
          intro m hm
          rw [(ih m hm).mpr (hvalues m hm)]
        rw [hmapped]
        apply sortBy_congr
        rw [keys_mapMembers]
        exact hagree

end Agree

/-! ## Objects that put indices first -/

section Index

variable {index : String → Option ℕ} {le : String → String → Bool}

/-- Indices before all other names and by their numbers, the others by `le`. -/
def indexLe (index : String → Option ℕ) (le : String → String → Bool) (a b : String) : Bool :=
  match index a, index b with
  | some m, some n => m ≤ n
  | some _, none => true
  | none, some _ => false
  | none, none => le a b

theorem indexLe_linear (hle : LinearLe le)
    (hindex : ∀ a b n, index a = some n → index b = some n → a = b) :
    LinearLe (indexLe index le) where
  total a b := by
    unfold indexLe
    -- Indices come first and by number; the other names follow by the order given.
    cases index a <;> cases index b
    · exact hle.total a b
    · exact Or.inr rfl
    · exact Or.inl rfl
    · simp only [decide_eq_true_eq]
      exact Nat.le_total _ _
  trans a b c hab hbc := by
    unfold indexLe at *
    cases ha : index a <;> cases hb : index b <;> cases hc : index c <;>
      simp only [ha, hb, hc, decide_eq_true_eq, reduceCtorEq] at hab hbc ⊢
    · exact hle.trans a b c hab hbc
    · exact hab.trans hbc
  antisymm a b hab hba := by
    unfold indexLe at *
    cases ha : index a <;> cases hb : index b <;>
      simp only [ha, hb, decide_eq_true_eq, reduceCtorEq] at hab hba
    · exact hle.antisymm a b hab hba
    · rw [Nat.le_antisymm hab hba] at ha
      exact hindex a b _ ha hb

/-- **A new name goes where sorting would put it**, if one that is no index may come last. -/
theorem assign_eq {object : List (String × Json ν)} {k : String} {v : Json ν}
    (hle : LinearLe (indexLe index le)) (hnew : k ∉ object.map Prod.fst)
    (hlast : ∀ m ∈ object, le m.1 k = true) :
    assign index object k v
      = object.orderedInsert (fun a b => indexLe index le a.1 b.1 = true) (k, v) := by
  have hcontains : ¬ (object.map Prod.fst).contains k = true := by
    rw [List.contains_iff_mem]
    exact hnew
  rw [assign, if_neg hcontains, List.orderedInsert_eq_take_drop]
  -- A name that is no index is appended, and an index goes before the first larger one.
  cases hk : index k with
  | none =>
      have hbefore : ∀ m ∈ object, decide (¬ indexLe index le k m.1 = true) = true := by
        intro m hm
        have hmk : indexLe index le m.1 k = true := by
          unfold indexLe
          rw [hk]
          cases index m.1 with
          | none => exact hlast m hm
          | some n => rfl
        rw [decide_eq_true_eq]
        intro hkm
        exact hnew (hle.antisymm _ _ hmk hkm ▸ List.mem_map_of_mem hm)
      rw [List.takeWhile_eq_self_iff.mpr hbefore, List.dropWhile_eq_nil_iff.mpr hbefore]
  | some n =>
      have hbefore : (fun m : String × Json ν => (index m.1).any (· < n))
          = fun m => decide (¬ indexLe index le k m.1 = true) := by
        funext m
        unfold indexLe
        rw [hk]
        cases index m.1 with
        | none => rfl
        | some i =>
            rw [Option.any_some, decide_eq_decide, decide_eq_true_eq]
            exact Nat.not_le.symm
      rw [← hbefore]

theorem foldl_assign_sorted {object members : List (String × Json ν)}
    (hle : LinearLe (indexLe index le)) (hkeys : ((object ++ members).map Prod.fst).Nodup)
    (hobject : Sorted (indexLe index le) object) (hmembers : Sorted le members)
    (hlast : ∀ m ∈ object, ∀ m' ∈ members, le m.1 m'.1 = true) :
    Sorted (indexLe index le)
        (members.foldl (fun object member => assign index object member.1 member.2) object)
      ∧ (members.foldl (fun object member => assign index object member.1 member.2) object).Perm
        (object ++ members) := by
  induction members generalizing object with
  | nil =>
      rw [List.append_nil]
      exact ⟨hobject, List.Perm.refl _⟩
  | cons member members ih =>
      have hnew : member.1 ∉ object.map Prod.fst := by
        rw [List.map_append, List.map_cons] at hkeys
        exact fun hmem => List.disjoint_of_nodup_append hkeys hmem List.mem_cons_self
      have hassign := assign_eq (v := member.2) hle hnew
        fun m hm => hlast m hm member List.mem_cons_self
      have hinsert := List.perm_orderedInsert
        (fun a b : String × Json ν => indexLe index le a.1 b.1 = true) member object
      have hperm : (object.orderedInsert (fun a b => indexLe index le a.1 b.1 = true) member
          ++ members).Perm (object ++ member :: members) :=
        (hinsert.append_right members).trans List.perm_middle.symm
      have htotal : Std.Total fun a b : String × Json ν => indexLe index le a.1 b.1 = true :=
        ⟨fun a b => hle.total a.1 b.1⟩
      have htrans : IsTrans (String × Json ν) fun a b => indexLe index le a.1 b.1 = true :=
        ⟨fun a b c => hle.trans a.1 b.1 c.1⟩
      rw [Sorted, List.pairwise_cons] at hmembers
      rw [List.foldl_cons, hassign]
      -- The object stays sorted and only gains the members that were assigned.
      obtain ⟨hsorted, hall⟩ := ih ((hperm.map Prod.fst).nodup_iff.mpr hkeys)
        (List.Pairwise.orderedInsert member object hobject) hmembers.2 (by
          intro m hm m' hm'
          rcases List.mem_cons.mp (hinsert.mem_iff.mp hm) with rfl | hm
          · exact hmembers.1 m' hm'
          · exact hlast m hm m' (List.mem_cons_of_mem _ hm'))
      exact ⟨hsorted, hall.trans hperm⟩

/-- **An object made of sorted members is sorted by indices first**, whatever their order was. -/
theorem properties_sortMembers {members : List (String × Json ν)} (hle : LinearLe le)
    (hindex : ∀ a b n, index a = some n → index b = some n → a = b)
    (hkeys : (members.map Prod.fst).Nodup) :
    properties index (sortMembers le members) = sortMembers (indexLe index le) members := by
  have hlinear := indexLe_linear hle hindex
  have hperm : (sortMembers le members).Perm members := sortMembers_perm members
  have hkeys' : (([] ++ sortMembers le members).map Prod.fst).Nodup := by
    rw [List.nil_append]
    exact (hperm.map Prod.fst).nodup_iff.mpr hkeys
  obtain ⟨hsorted, hall⟩ := foldl_assign_sorted hlinear hkeys' List.Pairwise.nil
    (sortBy_sorted hle members) fun m hm => absurd hm List.not_mem_nil
  rw [List.nil_append] at hall
  exact (sortBy_eq hlinear hkeys (hall.trans hperm) hsorted).symm

end Index

end CedraReflect.Json
