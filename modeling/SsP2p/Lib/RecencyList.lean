import Mathlib.Data.List.Basic
import Mathlib.Data.List.Nodup
import Mathlib.Data.List.Perm.Basic
import Mathlib.Data.Finset.Card
import Mathlib.Data.Finset.Dedup

/-!
# Bounded recency lists

A recency list holds at most `capacity` entries with pairwise distinct keys,
from the least to the most recently seen one.  The operations are given on bare
lists, with the facts about lengths and keys, and then on `RecencyList`, whose
fields carry both bounds.
-/

namespace SsP2p

namespace Recency

variable {Entry Key : Type*} [DecidableEq Key] (key : Entry → Key)

/-- The entry with key `k` moves to the back; without one nothing happens. -/
def touch (k : Key) (entries : List Entry) : List Entry :=
  match entries.find? fun entry => decide (key entry = k) with
  | none => entries
  | some entry => entries.eraseP (fun entry => decide (key entry = k)) ++ [entry]

def forget (k : Key) (entries : List Entry) : List Entry :=
  entries.eraseP fun entry => decide (key entry = k)

/-- A known entry is touched, an unknown one is appended while there is room. -/
def learn (capacity : ℕ) (entry : Entry) (entries : List Entry) : List Entry :=
  if key entry ∈ entries.map key then touch key (key entry) entries
  else if capacity ≤ entries.length then entries
  else entries ++ [entry]

/-- An unknown entry takes the place of the one with key `k`. -/
def replace (k : Key) (entry : Entry) (entries : List Entry) : List Entry :=
  match entries.findIdx? fun other => decide (key other = k) with
  | none => entries
  | some position =>
      if key entry ∈ entries.map key then entries else entries.set position entry

variable {key}

theorem touch_of_notMem {k : Key} {entries : List Entry}
    (habsent : k ∉ entries.map key) : touch key k entries = entries := by
  have hfind : (entries.find? fun entry => decide (key entry = k)) = none := by
    rw [List.find?_eq_none]
    intro entry hentry
    simp only [decide_eq_true_eq]
    rintro rfl
    exact habsent (List.mem_map_of_mem hentry)
  simp [touch, hfind]

theorem touch_perm (k : Key) (entries : List Entry) :
    (touch key k entries).Perm entries := by
  unfold touch
  cases hfind : entries.find? fun entry => decide (key entry = k) with
  | none => exact List.Perm.refl _
  | some entry =>
      have hperm : entries.Perm
          (entry :: entries.eraseP fun entry => decide (key entry = k)) := by
        obtain ⟨hkey, front, back, rfl, hfront⟩ := List.find?_eq_some_iff_append.mp hfind
        have herase : (front ++ entry :: back).eraseP
            (fun entry => decide (key entry = k)) = front ++ back := by
          rw [List.eraseP_append_right _ (by simpa using hfront),
            List.eraseP_cons, hkey]
          rfl
        rw [herase]
        exact List.perm_middle
      exact (List.perm_append_comm.trans hperm.symm)

theorem mem_touch_iff {k : Key} {entries : List Entry} {entry : Entry} :
    entry ∈ touch key k entries ↔ entry ∈ entries :=
  (touch_perm k entries).mem_iff

theorem length_touch (k : Key) (entries : List Entry) :
    (touch key k entries).length = entries.length :=
  (touch_perm k entries).length_eq

theorem keys_touch_perm (k : Key) (entries : List Entry) :
    ((touch key k entries).map key).Perm (entries.map key) :=
  (touch_perm k entries).map key

theorem forget_sublist (k : Key) (entries : List Entry) :
    (forget key k entries).Sublist entries :=
  List.eraseP_sublist

theorem mem_of_mem_forget {k : Key} {entries : List Entry} {entry : Entry}
    (hentry : entry ∈ forget key k entries) : entry ∈ entries :=
  (forget_sublist k entries).subset hentry

theorem mem_forget_of_mem {k : Key} {entries : List Entry} {entry : Entry}
    (hentry : entry ∈ entries) (hkey : key entry ≠ k) : entry ∈ forget key k entries :=
  (List.mem_eraseP_of_neg (by simpa using hkey)).mpr hentry

theorem mem_learn {capacity : ℕ} {entry other : Entry} {entries : List Entry}
    (hother : other ∈ learn key capacity entry entries) :
    other ∈ entries ∨ other = entry := by
  unfold learn at hother
  split_ifs at hother with hknown hfull
  · exact Or.inl (mem_touch_iff.mp hother)
  · exact Or.inl hother
  · simpa using hother

theorem mem_learn_of_mem {capacity : ℕ} {entry other : Entry} {entries : List Entry}
    (hother : other ∈ entries) : other ∈ learn key capacity entry entries := by
  rw [learn]
  split_ifs
  · exact mem_touch_iff.mpr hother
  · exact hother
  · exact List.mem_append_left _ hother

theorem length_learn_le {capacity : ℕ} (entry : Entry) {entries : List Entry}
    (hlength : entries.length ≤ capacity) :
    (learn key capacity entry entries).length ≤ capacity := by
  unfold learn
  split_ifs with hknown hfull
  · rwa [length_touch]
  · exact hlength
  · rw [List.length_append, List.length_singleton]
    omega

theorem nodup_keys_learn {capacity : ℕ} (entry : Entry) {entries : List Entry}
    (hnodup : (entries.map key).Nodup) :
    ((learn key capacity entry entries).map key).Nodup := by
  unfold learn
  split_ifs with hknown hfull
  · exact (keys_touch_perm _ entries).nodup_iff.mpr hnodup
  · exact hnodup
  · rw [List.map_append]
    exact List.Nodup.append hnodup (List.nodup_singleton _)
      (by simpa using hknown)

theorem length_replace (k : Key) (entry : Entry) (entries : List Entry) :
    (replace key k entry entries).length = entries.length := by
  unfold replace
  split
  · rfl
  · split_ifs
    · rfl
    · exact List.length_set

theorem nodup_keys_replace (k : Key) (entry : Entry) {entries : List Entry}
    (hnodup : (entries.map key).Nodup) :
    ((replace key k entry entries).map key).Nodup := by
  unfold replace
  split
  · exact hnodup
  · split_ifs with hknown
    · exact hnodup
    · rw [List.map_set]
      exact hnodup.set hknown

/-! ### The operations as filters -/

/-- With distinct keys, forgetting `k` is a filter. -/
theorem forget_eq_filter {k : Key} {entries : List Entry}
    (hnodup : (entries.map key).Nodup) :
    forget key k entries = entries.filter fun entry => decide (key entry ≠ k) := by
  induction entries with
  | nil => rfl
  | cons head tail ih =>
      obtain ⟨hhead, htail⟩ := List.nodup_cons.mp hnodup
      by_cases hkey : key head = k
      · have hother : ∀ entry ∈ tail, decide (key entry ≠ k) = true := by
          intro entry hentry
          rw [decide_eq_true_eq]
          rintro rfl
          exact hhead (hkey ▸ List.mem_map_of_mem hentry)
        rw [forget, List.eraseP_cons_of_pos (by simpa using hkey),
          List.filter_cons_of_neg (by simpa using hkey), List.filter_eq_self.mpr hother]
      · rw [forget, List.eraseP_cons_of_neg (by simpa using hkey),
          List.filter_cons_of_pos (by simpa using hkey), ← ih htail, forget]

/-- With distinct keys, an entry is the only one with its key. -/
theorem filter_key_eq {entries : List Entry} {entry : Entry}
    (hnodup : (entries.map key).Nodup) (hentry : entry ∈ entries) :
    entries.filter (fun other => decide (key other = key entry)) = [entry] := by
  induction entries with
  | nil => cases hentry
  | cons head tail ih =>
      obtain ⟨hhead, htail⟩ := List.nodup_cons.mp hnodup
      cases List.mem_cons.mp hentry with
      | inl heq =>
          have hother : ∀ other ∈ tail, ¬ decide (key other = key head) = true := by
            intro other hmem
            rw [decide_eq_true_eq]
            intro hkey
            exact hhead (hkey ▸ List.mem_map_of_mem hmem)
          rw [heq, List.filter_cons_of_pos (by simp),
            List.filter_eq_nil_iff.mpr hother]
      | inr hmem =>
          have hne : ¬ key head = key entry := fun hkey =>
            hhead (hkey ▸ List.mem_map_of_mem hmem)
          rw [List.filter_cons_of_neg (by simpa using hne), ih htail hmem]

/-- With distinct keys, touching `k` puts the entry with that key after the others. -/
theorem touch_eq_filter {k : Key} {entries : List Entry}
    (hnodup : (entries.map key).Nodup) :
    touch key k entries = (entries.filter fun entry => decide (key entry ≠ k)) ++
      entries.filter fun entry => decide (key entry = k) := by
  rw [← forget_eq_filter hnodup]
  by_cases hmem : k ∈ entries.map key
  · obtain ⟨entry, hentry, rfl⟩ := List.mem_map.mp hmem
    have hsingle := filter_key_eq hnodup hentry
    have hfind : (entries.filter fun other => decide (key other = key entry)).head? =
        entries.find? fun other => decide (key other = key entry) := List.head?_filter
    rw [hsingle] at hfind
    rw [touch, ← hfind, hsingle]
    rfl
  · have hforget : forget key k entries = entries := by
      apply List.eraseP_of_forall_not
      intro entry hentry
      rw [decide_eq_true_eq]
      rintro rfl
      exact hmem (List.mem_map_of_mem hentry)
    have hnone : (entries.filter fun entry => decide (key entry = k)) = [] := by
      rw [List.filter_eq_nil_iff]
      intro entry hentry
      rw [decide_eq_true_eq]
      rintro rfl
      exact hmem (List.mem_map_of_mem hentry)
    rw [touch_of_notMem hmem, hforget, hnone, List.append_nil]

/-- Learning an entry moves no entry that is selected when none with its key is. -/
theorem filter_learn {capacity : ℕ} {entry : Entry} {entries : List Entry}
    {selects : Entry → Bool} (hnodup : (entries.map key).Nodup)
    (hselects : ∀ other, key other = key entry → selects other = false) :
    (learn key capacity entry entries).filter selects = entries.filter selects := by
  rw [learn]
  split_ifs
  · have hothers : (entries.filter fun other => decide (key other ≠ key entry)).filter
        selects = entries.filter selects := by
      rw [List.filter_filter]
      apply List.filter_congr
      intro other _
      by_cases hkey : key other = key entry
      · simp [hkey, hselects other hkey]
      · simp [hkey]
    have hsame : (entries.filter fun other => decide (key other = key entry)).filter
        selects = [] := by
      rw [List.filter_eq_nil_iff]
      intro other hother
      rw [hselects other (by simpa using (List.mem_filter.mp hother).2)]
      exact Bool.false_ne_true
    rw [touch_eq_filter hnodup, List.filter_append, hothers, hsame, List.append_nil]
  · rfl
  · rw [List.filter_append, List.filter_cons_of_neg (by simp [hselects entry rfl]),
      List.filter_nil, List.append_nil]

end Recency

/-- A list of at most `capacity` entries with distinct keys, oldest first. -/
structure RecencyList {Entry Key : Type*} (key : Entry → Key) (capacity : ℕ) where
  entries : List Entry
  length_le : entries.length ≤ capacity
  nodup_keys : (entries.map key).Nodup

namespace RecencyList

variable {Entry Key : Type*} [DecidableEq Key] {key : Entry → Key} {capacity : ℕ}

def empty : RecencyList key capacity where
  entries := []
  length_le := Nat.zero_le _
  nodup_keys := List.nodup_nil

def touch (list : RecencyList key capacity) (k : Key) : RecencyList key capacity where
  entries := Recency.touch key k list.entries
  length_le := (Recency.length_touch k list.entries).trans_le list.length_le
  nodup_keys := (Recency.keys_touch_perm k list.entries).nodup_iff.mpr list.nodup_keys

def forget (list : RecencyList key capacity) (k : Key) : RecencyList key capacity where
  entries := Recency.forget key k list.entries
  length_le := (Recency.forget_sublist k list.entries).length_le.trans list.length_le
  nodup_keys := ((Recency.forget_sublist k list.entries).map key).nodup list.nodup_keys

def learn (list : RecencyList key capacity) (entry : Entry) :
    RecencyList key capacity where
  entries := Recency.learn key capacity entry list.entries
  length_le := Recency.length_learn_le entry list.length_le
  nodup_keys := Recency.nodup_keys_learn entry list.nodup_keys

def replace (list : RecencyList key capacity) (k : Key) (entry : Entry) :
    RecencyList key capacity where
  entries := Recency.replace key k entry list.entries
  length_le := (Recency.length_replace k entry list.entries).trans_le list.length_le
  nodup_keys := Recency.nodup_keys_replace k entry list.nodup_keys

end RecencyList

end SsP2p
