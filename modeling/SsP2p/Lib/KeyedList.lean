import Mathlib.Data.List.Nodup
import Mathlib.Data.Option.Basic

/-!
# Lists with unique keys

A `KeyedList` holds items with pairwise distinct keys, as a hashed container
with a unique index does.  Everything a program observes of it goes through
`find`, so each operation is described by what `find` answers afterwards.
-/

namespace SsP2p

/-- Items with pairwise distinct keys. -/
structure KeyedList {Item Key : Type*} (key : Item → Key) where
  items : List Item
  nodup : (items.map key).Nodup

namespace KeyedList

variable {Item Key : Type*} {key : Item → Key}

theorem ext_items {left right : KeyedList key} (heq : left.items = right.items) :
    left = right := by
  cases left
  cases right
  cases heq
  rfl

def empty : KeyedList key := ⟨[], List.nodup_nil⟩

def filter (keep : Item → Bool) (list : KeyedList key) : KeyedList key where
  items := list.items.filter keep
  nodup := list.nodup.sublist (List.filter_sublist.map key)

variable [DecidableEq Key]

def find (k : Key) (list : KeyedList key) : Option Item :=
  list.items.find? fun item => decide (key item = k)

/-- Add an item at the end; an item whose key is there changes nothing. -/
def insert (item : Item) (list : KeyedList key) : KeyedList key :=
  if h : key item ∈ list.items.map key then list
  else
    { items := list.items ++ [item]
      nodup := by
        simpa [List.nodup_append, list.nodup] using h }

/-- Rewrite the item with key `k` by a function that keeps its key. -/
def modify (k : Key) (change : Item → Item)
    (hchange : ∀ item, key (change item) = key item) (list : KeyedList key) :
    KeyedList key where
  items := list.items.map fun item => if key item = k then change item else item
  nodup := by
    have hkeys : (key ∘ fun item => if key item = k then change item else item) =
        key := by
      funext item
      by_cases hitem : key item = k
      · simp [hitem, hchange]
      · simp [hitem]
    rw [List.map_map, hkeys]
    exact list.nodup

theorem find_eq_some_iff {list : KeyedList key} {k : Key} {item : Item} :
    list.find k = some item ↔ item ∈ list.items ∧ key item = k := by
  constructor
  · intro hfind
    exact ⟨List.mem_of_find?_eq_some hfind, by
      simpa using List.find?_some hfind⟩
  · rintro ⟨hmem, rfl⟩
    cases hfind : list.find (key item) with
    | none =>
        have habsent := List.find?_eq_none.mp hfind item hmem
        simp at habsent
    | some other =>
        have hother : other ∈ list.items := List.mem_of_find?_eq_some hfind
        have hkey : key other = key item := by simpa using List.find?_some hfind
        rw [List.inj_on_of_nodup_map list.nodup hother hmem hkey]

theorem key_of_find {list : KeyedList key} {k : Key} {item : Item}
    (hfind : list.find k = some item) : key item = k :=
  (find_eq_some_iff.mp hfind).2

theorem find_eq_none_iff {list : KeyedList key} {k : Key} :
    list.find k = none ↔ k ∉ list.items.map key := by
  simp [find, List.find?_eq_none]

@[simp]
theorem find_empty (k : Key) : (empty : KeyedList key).find k = none := rfl

theorem find_insert {list : KeyedList key} {item : Item}
    (hfresh : list.find (key item) = none) (k : Key) :
    (list.insert item).find k = if key item = k then some item else list.find k := by
  have hnotMem := find_eq_none_iff.mp hfresh
  simp only [insert, dif_neg hnotMem, find, List.find?_append]
  by_cases hkey : key item = k
  · subst hkey
    rw [find] at hfresh
    simp [hfresh]
  · simp [hkey]

/-- An item that is there already stays. -/
theorem find_insert_self (list : KeyedList key) (item : Item) :
    (list.insert item).find (key item) = some ((list.find (key item)).getD item) := by
  cases hfind : list.find (key item) with
  | none => rw [find_insert hfind, if_pos rfl, Option.getD_none]
  | some found =>
      have hmem : key item ∈ list.items.map key := by
        by_contra hnotMem
        rw [find_eq_none_iff.mpr hnotMem] at hfind
        cases hfind
      rw [insert, dif_pos hmem, hfind, Option.getD_some]

theorem find_insert_of_ne (list : KeyedList key) {item : Item} {k : Key}
    (hne : key item ≠ k) : (list.insert item).find k = list.find k := by
  rw [insert]
  split
  · rfl
  · simp [find, List.find?_append, hne]

theorem mem_items_insert {list : KeyedList key} {item other : Item}
    (hmem : other ∈ (list.insert item).items) : other = item ∨ other ∈ list.items := by
  rw [insert] at hmem
  split at hmem
  · exact Or.inr hmem
  · exact (List.mem_append.mp hmem).symm.imp_left List.mem_singleton.mp

/-- What is found after an insertion is the item or was there before. -/
theorem find_insert_cases {list : KeyedList key} {item found : Item} {k : Key}
    (hfind : (list.insert item).find k = some found) :
    key item = k ∧ found = item ∨ list.find k = some found := by
  by_cases hkey : key item = k
  · subst hkey
    rw [find_insert_self] at hfind
    cases hold : list.find (key item) with
    | none =>
        rw [hold, Option.getD_none] at hfind
        exact Or.inl ⟨rfl, (Option.some.inj hfind).symm⟩
    | some old =>
        rw [hold, Option.getD_some] at hfind
        exact Or.inr hfind
  · rw [find_insert_of_ne list hkey] at hfind
    exact Or.inr hfind

theorem find_modify (list : KeyedList key) (k : Key) (change : Item → Item)
    (hchange : ∀ item, key (change item) = key item) (j : Key) :
    (list.modify k change hchange).find j =
      if j = k then (list.find k).map change else list.find j := by
  simp only [modify, find, List.find?_map]
  by_cases hkey : j = k
  · subst hkey
    rw [if_pos rfl]
    have hsame : ((fun item => decide (key item = j)) ∘ fun item =>
        if key item = j then change item else item) =
          fun item => decide (key item = j) := by
      funext item
      by_cases hitem : key item = j <;> simp [hitem, hchange]
    rw [hsame]
    cases hfind : list.items.find? fun item => decide (key item = j) with
    | none => rfl
    | some item =>
        have hitem : key item = j := by simpa using List.find?_some hfind
        simp [hitem]
  · rw [if_neg hkey]
    have hsame : ((fun item => decide (key item = j)) ∘ fun item =>
        if key item = k then change item else item) =
          fun item => decide (key item = j) := by
      funext item
      by_cases hitem : key item = k <;> simp [hitem, hchange]
    rw [hsame]
    cases hfind : list.items.find? fun item => decide (key item = j) with
    | none => rfl
    | some item =>
        have hitem : key item = j := by simpa using List.find?_some hfind
        simp [hitem, hkey]

/-- What is found after the item with key `k` was rewritten. -/
theorem find_modify_of_find {list : KeyedList key} {item : Item} {k : Key}
    (hfind : list.find k = some item) (change : Item → Item)
    (hchange : ∀ item, key (change item) = key item) (j : Key) :
    (list.modify k change hchange).find j =
      if j = k then some (change item) else list.find j := by
  rw [find_modify, hfind, Option.map_some]

/-- Every item that is found was there before, rewritten or not. -/
theorem find_modify_cases {list : KeyedList key} {found : Item} {k j : Key}
    {change : Item → Item} (hchange : ∀ item, key (change item) = key item)
    (hfind : (list.modify k change hchange).find j = some found) :
    ∃ old, list.find j = some old ∧ (found = change old ∨ found = old) := by
  rw [find_modify] at hfind
  split_ifs at hfind with hkey
  · obtain ⟨old, hold, rfl⟩ := Option.map_eq_some_iff.mp hfind
    exact ⟨old, hkey ▸ hold, Or.inl rfl⟩
  · exact ⟨found, hfind, Or.inr rfl⟩

theorem find_modify_of_none {list : KeyedList key} {j : Key} (hnone : list.find j = none)
    (k : Key) (change : Item → Item) (hchange : ∀ item, key (change item) = key item) :
    (list.modify k change hchange).find j = none := by
  rw [find_modify]
  split_ifs with hkey
  · rw [← hkey, hnone, Option.map_none]
  · exact hnone

/-- Rewriting items by keys that are all different rewrites each of them once. -/
theorem find_foldl_modify (change : Item → Item)
    (hchange : ∀ item, key (change item) = key item) {keys : List Key} (hkeys : keys.Nodup)
    (list : KeyedList key) (j : Key) :
    (keys.foldl (fun list k => list.modify k change hchange) list).find j =
      if j ∈ keys then (list.find j).map change else list.find j := by
  induction keys generalizing list with
  | nil => rfl
  | cons k keys ih =>
      obtain ⟨hnotMem, hkeys⟩ := List.nodup_cons.mp hkeys
      rw [List.foldl_cons, ih hkeys, find_modify]
      by_cases hkey : j = k
      · subst hkey
        rw [if_neg hnotMem, if_pos rfl, if_pos List.mem_cons_self]
      · simp only [List.mem_cons, hkey, false_or, if_false]

/-- What a rewrite keeps of every item it keeps of all of them. -/
theorem map_items_modify {Seen : Type*} (see : Item → Seen) (change : Item → Item)
    (hsee : ∀ item, see (change item) = see item)
    (hchange : ∀ item, key (change item) = key item) (list : KeyedList key) (k : Key) :
    (list.modify k change hchange).items.map see = list.items.map see := by
  rw [modify, List.map_map]
  apply List.map_congr_left
  intro item hitem
  by_cases hkey : key item = k
  · rw [Function.comp_apply, if_pos hkey, hsee]
  · rw [Function.comp_apply, if_neg hkey]

theorem map_items_foldl_modify {Seen : Type*} (see : Item → Seen) (change : Item → Item)
    (hsee : ∀ item, see (change item) = see item)
    (hchange : ∀ item, key (change item) = key item) (keys : List Key)
    (list : KeyedList key) :
    (keys.foldl (fun list k => list.modify k change hchange) list).items.map see =
      list.items.map see := by
  induction keys generalizing list with
  | nil => rfl
  | cons k keys ih =>
      rw [List.foldl_cons, ih, map_items_modify see change hsee hchange]

theorem find_filter (list : KeyedList key) (keep : Item → Bool) (k : Key) :
    (list.filter keep).find k = (list.find k).filter keep := by
  cases hfind : list.find k with
  | none =>
      rw [find_eq_none_iff] at hfind
      rw [Option.filter_none, find_eq_none_iff]
      intro hmem
      obtain ⟨item, hitem, rfl⟩ := List.mem_map.mp hmem
      exact hfind (List.mem_map_of_mem (List.mem_of_mem_filter hitem))
  | some item =>
      obtain ⟨hmem, hkey⟩ := find_eq_some_iff.mp hfind
      by_cases hkeep : keep item = true
      · rw [Option.filter_some_pos hkeep, find_eq_some_iff]
        exact ⟨List.mem_filter.mpr ⟨hmem, hkeep⟩, hkey⟩
      · rw [Option.filter_some_neg (by simpa using hkeep), find_eq_none_iff]
        intro hkept
        obtain ⟨other, hother, hsame⟩ := List.mem_map.mp hkept
        obtain ⟨hin, htrue⟩ := List.mem_filter.mp hother
        have heq := List.inj_on_of_nodup_map list.nodup hin hmem
          (hsame.trans hkey.symm)
        exact hkeep (heq ▸ htrue)

theorem find_of_find_filter {list : KeyedList key} {keep : Item → Bool} {k : Key}
    {item : Item} (hfind : (list.filter keep).find k = some item) :
    list.find k = some item := by
  rw [find_filter] at hfind
  exact (Option.filter_eq_some_iff.mp hfind).1

theorem find_filter_of_none {list : KeyedList key} {k : Key} (keep : Item → Bool)
    (hnone : list.find k = none) : (list.filter keep).find k = none := by
  rw [Option.eq_none_iff_forall_ne_some]
  intro item hfind
  rw [find_of_find_filter hfind] at hnone
  cases hnone

@[simp]
theorem isSome_find_insert {list : KeyedList key} {item : Item} {k : Key} :
    ((list.insert item).find k).isSome = true ↔
      key item = k ∨ (list.find k).isSome = true := by
  cases hfresh : list.find (key item) with
  | none =>
      rw [find_insert hfresh]
      by_cases hkey : key item = k <;> simp [hkey]
  | some other =>
      have hmem : key item ∈ list.items.map key := by
        by_contra hnotMem
        rw [find_eq_none_iff.mpr hnotMem] at hfresh
        cases hfresh
      rw [insert, dif_pos hmem]
      constructor
      · exact Or.inr
      · rintro (rfl | hfind)
        · rw [hfresh]
          rfl
        · exact hfind

@[simp]
theorem isSome_find_modify (list : KeyedList key) (k : Key) (change : Item → Item)
    (hchange : ∀ item, key (change item) = key item) (j : Key) :
    ((list.modify k change hchange).find j).isSome = (list.find j).isSome := by
  rw [find_modify]
  by_cases hkey : j = k
  · rw [if_pos hkey, Option.isSome_map, hkey]
  · rw [if_neg hkey]

/-- A rewrite that leaves the found item alone changes nothing. -/
theorem modify_eq_self_iff {list : KeyedList key} {k : Key}
    {change : Item → Item} {hchange : ∀ item, key (change item) = key item} :
    list.modify k change hchange = list ↔
      ∀ item, list.find k = some item → change item = item := by
  constructor
  · intro heq item hfind
    have hafter := find_modify list k change hchange k
    rw [heq, if_pos rfl, hfind, Option.map_some] at hafter
    exact (Option.some.inj hafter).symm
  · intro hfixed
    apply ext_items
    simp only [modify]
    conv_rhs => rw [← List.map_id list.items]
    refine List.map_congr_left fun item hitem => ?_
    by_cases hkey : key item = k
    · simp [hkey, hfixed item (find_eq_some_iff.mpr ⟨hitem, hkey⟩)]
    · simp [hkey]

theorem modify_eq_self_iff_of_find {list : KeyedList key} {k : Key} {item : Item}
    (hfind : list.find k = some item) {change : Item → Item}
    {hchange : ∀ item, key (change item) = key item} :
    list.modify k change hchange = list ↔ change item = item := by
  rw [modify_eq_self_iff, hfind]
  simp

/-- An insertion changes nothing exactly when the key is there. -/
theorem insert_eq_self_iff {list : KeyedList key} {item : Item} :
    list.insert item = list ↔ (list.find (key item)).isSome = true := by
  constructor
  · intro heq
    rw [← heq, find_insert_self]
    rfl
  · intro hsome
    have hmem : key item ∈ list.items.map key := by
      by_contra hnotMem
      rw [find_eq_none_iff.mpr hnotMem] at hsome
      cases hsome
    rw [insert, dif_pos hmem]

end KeyedList

end SsP2p
