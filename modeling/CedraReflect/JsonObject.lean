/-
The objects of JSON values, as a language keeps them.

A text may repeat a name and may have its names in any order. A language that
reads it keeps one value a name, the last, where the first stood; some names it
may move to the front, those that spell an index. An object none of this touches
is plain: reading it, and reading what was printed of it, leaves it as it is.
-/
import CedraReflect.JsonText

set_option autoImplicit false

namespace CedraReflect.Json

variable {ν : Type}

/-! ## Members -/

/-- The value of a member. -/
def get (k : String) : Json ν → Option (Json ν)
  | .object members => members.lookup k
  | _ => none

/-- `object[k] = v`: an index goes before all that is none, and among the others by its
number. -/
def assign (index : String → Option ℕ) (members : List (String × Json ν)) (k : String)
    (v : Json ν) : List (String × Json ν) :=
  if (members.map Prod.fst).contains k then
    members.map fun member => if member.1 = k then (k, v) else member
  else
    match index k with
    | none => members ++ [(k, v)]
    | some n =>
        let before : String × Json ν → Bool := fun member => (index member.1).any (· < n)
        members.takeWhile before ++ (k, v) :: members.dropWhile before

/-- The members of an object that is made of `members` one by one. -/
def properties (index : String → Option ℕ) (members : List (String × Json ν)) :
    List (String × Json ν) :=
  members.foldl (fun object member => assign index object member.1 member.2) []

/-- Members by name. -/
def sortMembers (le : String → String → Bool) (members : List (String × Json ν)) :
    List (String × Json ν) :=
  members.insertionSort fun a b => le a.1 b.1 = true

mutual

/-- Every object rebuilt, the inner ones first. -/
def mapObjects (rebuild : List (String × Json ν) → List (String × Json ν)) : Json ν → Json ν
  | .null => .null
  | .boolean value => .boolean value
  | .number value => .number value
  | .string value => .string value
  | .array items => .array (mapItems rebuild items)
  | .object members => .object (rebuild (mapMembers rebuild members))

def mapItems (rebuild : List (String × Json ν) → List (String × Json ν)) :
    List (Json ν) → List (Json ν)
  | [] => []
  | v :: items => mapObjects rebuild v :: mapItems rebuild items

def mapMembers (rebuild : List (String × Json ν) → List (String × Json ν)) :
    List (String × Json ν) → List (String × Json ν)
  | [] => []
  | (k, v) :: members => (k, mapObjects rebuild v) :: mapMembers rebuild members

end

variable {index : String → Option ℕ} {le : String → String → Bool}
  {rebuild : List (String × Json ν) → List (String × Json ν)}

theorem mapItems_eq (items : List (Json ν)) :
    mapItems rebuild items = items.map (mapObjects rebuild) := by
  induction items with
  | nil => rw [mapItems, List.map_nil]
  | cons v items ih => rw [mapItems, List.map_cons, ih]

theorem mapMembers_eq (members : List (String × Json ν)) :
    mapMembers rebuild members
      = members.map fun member => (member.1, mapObjects rebuild member.2) := by
  induction members with
  | nil => rw [mapMembers, List.map_nil]
  | cons member members ih => rw [mapMembers, List.map_cons, ih]

theorem keys_mapMembers (members : List (String × Json ν)) :
    (mapMembers rebuild members).map Prod.fst = members.map Prod.fst := by
  rw [mapMembers_eq, List.map_map]
  rfl

/-! ## Plain objects -/

/-- No name of an object is repeated or an index. -/
inductive Plain (index : String → Option ℕ) : Json ν → Prop where
  | null : Plain index .null
  | boolean (value : Bool) : Plain index (.boolean value)
  | number (value : ν) : Plain index (.number value)
  | string (value : String) : Plain index (.string value)
  | array {items : List (Json ν)} (h : ∀ v ∈ items, Plain index v) : Plain index (.array items)
  | object {members : List (String × Json ν)} (hkeys : (members.map Prod.fst).Nodup)
      (hindex : ∀ k ∈ members.map Prod.fst, index k = none)
      (h : ∀ member ∈ members, Plain index member.2) : Plain index (.object members)

theorem foldl_assign {acc members : List (String × Json ν)}
    (hkeys : ((acc ++ members).map Prod.fst).Nodup)
    (hindex : ∀ k ∈ members.map Prod.fst, index k = none) :
    members.foldl (fun object member => assign index object member.1 member.2) acc
      = acc ++ members := by
  induction members generalizing acc with
  | nil => rw [List.foldl_nil, List.append_nil]
  | cons member members ih =>
      have hnew : (acc.map Prod.fst).contains member.1 = false := by
        rw [List.map_append, List.map_cons] at hkeys
        have hdisjoint := List.disjoint_of_nodup_append hkeys
        rw [List.contains_eq_mem, decide_eq_false_iff_not]
        exact fun hmem => hdisjoint hmem List.mem_cons_self
      have hnone : index member.1 = none := hindex _ List.mem_cons_self
      have hassign : assign index acc member.1 member.2 = acc ++ [member] := by
        rw [assign, hnew, hnone]
        rfl
      have hsplit : acc ++ member :: members = acc ++ [member] ++ members := by
        rw [List.append_assoc, List.singleton_append]
      rw [hsplit] at hkeys ⊢
      rw [List.foldl_cons, hassign]
      exact ih hkeys fun k hk => hindex k (List.mem_cons_of_mem _ hk)

/-- Members without repetitions or indices stay where they are. -/
theorem properties_eq {members : List (String × Json ν)} (hkeys : (members.map Prod.fst).Nodup)
    (hindex : ∀ k ∈ members.map Prod.fst, index k = none) : properties index members = members := by
  rw [properties, foldl_assign (by simpa using hkeys) hindex, List.nil_append]

/-- **What no object needs changes nothing.** -/
theorem Plain.mapObjects_eq {v : Json ν} (h : Plain index v)
    (hrebuild : ∀ members : List (String × Json ν), (members.map Prod.fst).Nodup →
      (∀ k ∈ members.map Prod.fst, index k = none) → rebuild members = members) :
    mapObjects rebuild v = v := by
  -- Along the value: nothing but an object is rebuilt, and a plain one is left.
  induction h with
  | null => rw [mapObjects]
  | boolean value => rw [mapObjects]
  | number value => rw [mapObjects]
  | string value => rw [mapObjects]
  | @array items h ih =>
      rw [mapObjects, mapItems_eq]
      have hid : items.map (mapObjects rebuild) = items.map id := List.map_congr_left ih
      rw [hid, List.map_id]
  | @object members hkeys hindex h ih =>
      have hid : mapMembers rebuild members = members := by
        rw [mapMembers_eq]
        have hmap : members.map (fun member => (member.1, mapObjects rebuild member.2))
            = members.map id := by
          apply List.map_congr_left
          intro member hmember
          rw [ih member hmember]
          rfl
        rw [hmap, List.map_id]
      rw [mapObjects, hid, hrebuild members hkeys hindex]

theorem Plain.properties_eq {v : Json ν} (h : Plain index v) :
    mapObjects (properties index) v = v :=
  h.mapObjects_eq fun _ hkeys hindex => Json.properties_eq hkeys hindex

/-- Two ways to rebuild objects agree on a plain value if they do on plain members. -/
theorem Plain.mapObjects_congr {f g : List (String × Json ν) → List (String × Json ν)} {v : Json ν}
    (h : Plain index v)
    (hfg : ∀ members : List (String × Json ν), (members.map Prod.fst).Nodup →
      (∀ k ∈ members.map Prod.fst, index k = none) → f members = g members) :
    mapObjects f v = mapObjects g v := by
  induction h with
  | null => rw [mapObjects, mapObjects]
  | boolean value => rw [mapObjects, mapObjects]
  | number value => rw [mapObjects, mapObjects]
  | string value => rw [mapObjects, mapObjects]
  | array h ih =>
      rw [mapObjects, mapObjects, mapItems_eq, mapItems_eq, List.map_congr_left ih]
  | @object members hkeys hindex h ih =>
      have hmembers : mapMembers f members = mapMembers g members := by
        rw [mapMembers_eq, mapMembers_eq]
        apply List.map_congr_left
        intro member hmember
        rw [ih member hmember]
      rw [mapObjects, mapObjects, hmembers, hfg]
      · rw [keys_mapMembers]
        exact hkeys
      · rw [keys_mapMembers]
        exact hindex

theorem sortMembers_perm (members : List (String × Json ν)) :
    (sortMembers le members).Perm members := List.perm_insertionSort _ _

/-- A plain value is plain when its objects are sorted. -/
theorem Plain.sorted {v : Json ν} (h : Plain index v) :
    Plain index (mapObjects (sortMembers le) v) := by
  induction h with
  | null => rw [mapObjects]; exact .null
  | boolean value => rw [mapObjects]; exact .boolean value
  | number value => rw [mapObjects]; exact .number value
  | string value => rw [mapObjects]; exact .string value
  | array h ih =>
      rw [mapObjects, mapItems_eq]
      apply Plain.array
      intro w hw
      obtain ⟨v, hv, rfl⟩ := List.mem_map.mp hw
      exact ih v hv
  | @object members hkeys hindex h ih =>
      -- Sorting permutes the members, so that the names are the same ones.
      have hperm : (sortMembers le (mapMembers (sortMembers le) members)).Perm _ :=
        sortMembers_perm _
      have hmap := hperm.map Prod.fst
      rw [keys_mapMembers] at hmap
      rw [mapObjects]
      refine .object (hmap.nodup_iff.mpr hkeys) (fun k hk => hindex k (hmap.mem_iff.mp hk)) ?_
      intro member hmember
      have hmem := hperm.mem_iff.mp hmember
      rw [mapMembers_eq, List.mem_map] at hmem
      obtain ⟨source, hsource, rfl⟩ := hmem
      exact ih source hsource

/-! ## Members of sorted objects -/

theorem lookup_eq_some {members : List (String × Json ν)} (hkeys : (members.map Prod.fst).Nodup)
    {k : String} {v : Json ν} : members.lookup k = some v ↔ (k, v) ∈ members := by
  induction members with
  | nil => simp
  | cons member members ih =>
      obtain ⟨k', v'⟩ := member
      rw [List.map_cons, List.nodup_cons] at hkeys
      obtain ⟨hnew, hkeys⟩ := hkeys
      by_cases hk : k = k'
      · subst hk
        rw [List.lookup_cons_self]
        constructor
        · intro heq
          rw [Option.some.inj heq]
          exact List.mem_cons_self
        · intro hmem
          rcases List.mem_cons.mp hmem with heq | hmem
          · rw [(Prod.mk.inj heq).2]
          · exact absurd (List.mem_map_of_mem hmem) hnew
      · have hbeq : (k == k') = false := beq_false_of_ne hk
        rw [List.lookup_cons, hbeq, List.mem_cons]
        simp only [Prod.mk.injEq, hk, false_and, false_or]
        exact ih hkeys

/-- Sorting moves no value to another name. -/
theorem Plain.get_sorted {v : Json ν} (h : Plain index v) (k : String) :
    get k (mapObjects (sortMembers le) v) = (get k v).map (mapObjects (sortMembers le)) := by
  cases h with
  | null => rw [mapObjects]; rfl
  | boolean value => rw [mapObjects]; rfl
  | number value => rw [mapObjects]; rfl
  | string value => rw [mapObjects]; rfl
  | array h => rw [mapObjects]; rfl
  | @object members hkeys hindex h =>
      have hperm : (sortMembers le (mapMembers (sortMembers le) members)).Perm _ :=
        sortMembers_perm _
      have hkeys' : ((sortMembers le (mapMembers (sortMembers le) members)).map Prod.fst).Nodup := by
        rw [(hperm.map Prod.fst).nodup_iff, keys_mapMembers]
        exact hkeys
      rw [mapObjects, get, get]
      apply Option.ext
      intro w
      rw [lookup_eq_some hkeys', hperm.mem_iff, mapMembers_eq, List.mem_map, Option.map_eq_some_iff]
      -- A name is found once on either side, wherever its member stands.
      constructor
      · rintro ⟨⟨k', v⟩, hmem, heq⟩
        obtain ⟨rfl, rfl⟩ := Prod.mk.inj heq
        exact ⟨v, (lookup_eq_some hkeys).mpr hmem, rfl⟩
      · rintro ⟨v, hlookup, rfl⟩
        exact ⟨(k, v), (lookup_eq_some hkeys).mp hlookup, rfl⟩

/-- Texts are the same in every order. -/
theorem mapItems_strings (texts : List String) :
    mapItems rebuild (texts.map .string) = texts.map (.string : String → Json ν) := by
  rw [mapItems_eq, List.map_map]
  apply List.map_congr_left
  intro s _
  rw [Function.comp_apply, mapObjects]

end CedraReflect.Json
