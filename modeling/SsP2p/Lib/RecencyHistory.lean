import SsP2p.Lib.RecencyList

/-!
# Recency lists and their history

A log says of every operation on a recency list what it did: an entry was admitted, a key
was seen again, or dropped.  The log alone decides the list: it holds what was admitted and
not dropped since, ordered by when each key was last admitted or seen.
-/

namespace SsP2p.Recency

/-- What one operation did to a recency list. -/
inductive Effect (Entry Key : Type*) where
  | admitted (entry : Entry)
  | seen (k : Key)
  | dropped (k : Key)
  | nothing
  deriving DecidableEq

variable {Entry Key : Type*} [DecidableEq Key] (key : Entry → Key)

namespace Effect

/-- The key was admitted or seen again. -/
def sees (k : Key) : Effect Entry Key → Bool
  | admitted entry => decide (key entry = k)
  | seen other => decide (other = k)
  | dropped _ => false
  | nothing => false

def apply (effect : Effect Entry Key) (entries : List Entry) : List Entry :=
  match effect with
  | admitted entry => entries ++ [entry]
  | seen k => touch key k entries
  | dropped k => forget key k entries
  | nothing => entries

/-- No key is admitted twice. -/
def Fits (entries : List Entry) : Effect Entry Key → Prop
  | admitted entry => key entry ∉ entries.map key
  | _ => True

end Effect

/-- The entry was admitted, and its key not dropped since. -/
def Kept (log : List (Effect Entry Key)) (entry : Entry) : Prop :=
  ∃ before after, log = before ++ .admitted entry :: after ∧ .dropped (key entry) ∉ after

/-- When the key was last admitted or seen, as a position in the log. -/
def lastSeen (log : List (Effect Entry Key)) (k : Key) : Option ℕ :=
  ((List.range log.length).filter fun position =>
    log[position]?.any (Effect.sees key k)).getLast?

/-- The key of the first entry was last seen before that of the second one. -/
def SeenBefore (log : List (Effect Entry Key)) (first second : Entry) : Prop :=
  ∃ early late, lastSeen key log (key first) = some early ∧
    lastSeen key log (key second) = some late ∧ early < late

/-- The list is the one that the log decides. -/
structure Reflects (log : List (Effect Entry Key)) (entries : List Entry) : Prop where
  kept : ∀ entry, entry ∈ entries ↔ Kept key log entry
  ordered : entries.Pairwise (SeenBefore key log)

variable {key}

/-! ### One more effect in the log -/

section Append

variable {log : List (Effect Entry Key)} {effect : Effect Entry Key}

omit [DecidableEq Key] in
theorem kept_append_iff {entry : Entry} :
    Kept key (log ++ [effect]) entry ↔
      Kept key log entry ∧ effect ≠ .dropped (key entry) ∨ effect = .admitted entry := by
  constructor
  · rintro ⟨before, after, hlog, hkept⟩
    cases List.eq_nil_or_concat after with
    | inl hnil =>
        rw [hnil, ← List.concat_eq_append, ← List.concat_eq_append] at hlog
        exact Or.inr (List.concat_inj.mp hlog).2
    | inr hlast =>
        obtain ⟨rest, last, rfl⟩ := hlast
        rw [List.concat_eq_append, ← List.cons_append, ← List.append_assoc,
          ← List.concat_eq_append, ← List.concat_eq_append] at hlog
        obtain ⟨rfl, rfl⟩ := List.concat_inj.mp hlog
        rw [List.concat_eq_append, List.mem_append, List.mem_singleton, not_or] at hkept
        exact Or.inl ⟨⟨before, rest, rfl, hkept.1⟩, Ne.symm hkept.2⟩
  · intro hcases
    rcases hcases with ⟨⟨before, after, rfl, hkept⟩, hother⟩ | rfl
    · refine ⟨before, after ++ [effect], by simp, ?_⟩
      rw [List.mem_append, List.mem_singleton, not_or]
      exact ⟨hkept, Ne.symm hother⟩
    · exact ⟨log, [], rfl, List.not_mem_nil⟩

theorem lastSeen_append (k : Key) :
    lastSeen key (log ++ [effect]) k =
      if effect.sees key k then some log.length else lastSeen key log k := by
  have hold : (List.range log.length).filter (fun position =>
      (log ++ [effect])[position]?.any (Effect.sees key k)) =
        (List.range log.length).filter fun position =>
          log[position]?.any (Effect.sees key k) := by
    apply List.filter_congr
    intro position hposition
    rw [List.getElem?_append_left (List.mem_range.mp hposition)]
  rw [lastSeen, List.length_append, List.length_singleton, List.range_succ, List.filter_append,
    hold, List.filter_singleton, List.getElem?_concat_length, Option.any_some]
  cases effect.sees key k with
  | true =>
      rw [cond_true, if_pos rfl, List.getLast?_append, List.getLast?_singleton, Option.some_or]
  | false =>
      rw [cond_false, if_neg Bool.false_ne_true, List.append_nil]
      rfl

theorem lt_length_of_lastSeen {k : Key} {position : ℕ}
    (hlast : lastSeen key log k = some position) : position < log.length :=
  List.mem_range.mp (List.mem_of_mem_filter (List.mem_of_getLast? hlast))

/-- What is kept was seen. -/
theorem exists_lastSeen_of_kept {entry : Entry} (hkept : Kept key log entry) :
    ∃ position, lastSeen key log (key entry) = some position := by
  obtain ⟨before, after, rfl, -⟩ := hkept
  rw [← Option.isSome_iff_exists, lastSeen, List.getLast?_isSome]
  apply List.ne_nil_of_mem
  rw [List.mem_filter, List.mem_range]
  constructor
  · rw [List.length_append, List.length_cons]
    exact Nat.lt_add_of_pos_right (Nat.succ_pos _)
  · rw [List.getElem?_append_right le_rfl, Nat.sub_self, List.getElem?_cons_zero,
      Option.any_some]
    exact decide_eq_true rfl

theorem SeenBefore.key_ne {first second : Entry} (hbefore : SeenBefore key log first second) :
    key first ≠ key second := by
  obtain ⟨early, late, hearly, hlate, hlt⟩ := hbefore
  intro heq
  rw [heq, hlate] at hearly
  exact hlt.ne' (Option.some.inj hearly)

/-- An effect on other keys changes nothing in the order of two entries. -/
theorem SeenBefore.append {first second : Entry} (hbefore : SeenBefore key log first second)
    (hfirst : effect.sees key (key first) = false)
    (hsecond : effect.sees key (key second) = false) :
    SeenBefore key (log ++ [effect]) first second := by
  obtain ⟨early, late, hearly, hlate, hlt⟩ := hbefore
  refine ⟨early, late, ?_, ?_, hlt⟩
  · rw [lastSeen_append, hfirst, if_neg Bool.false_ne_true, hearly]
  · rw [lastSeen_append, hsecond, if_neg Bool.false_ne_true, hlate]

/-- What the effect sees comes after everything else. -/
theorem seenBefore_append {first second : Entry} (hkept : Kept key log first)
    (hfirst : effect.sees key (key first) = false)
    (hsecond : effect.sees key (key second) = true) :
    SeenBefore key (log ++ [effect]) first second := by
  obtain ⟨early, hearly⟩ := exists_lastSeen_of_kept hkept
  refine ⟨early, log.length, ?_, ?_, lt_length_of_lastSeen hearly⟩
  · rw [lastSeen_append, hfirst, if_neg Bool.false_ne_true, hearly]
  · rw [lastSeen_append, hsecond, if_pos rfl]

end Append

/-! ### Lists that reflect their log -/

theorem reflects_nil : Reflects key [] ([] : List Entry) where
  kept entry := by
    refine iff_of_false List.not_mem_nil ?_
    rintro ⟨before, after, hlog, -⟩
    exact List.append_ne_nil_of_right_ne_nil before (List.cons_ne_nil _ after) hlog.symm
  ordered := List.Pairwise.nil

section Steps

variable {log : List (Effect Entry Key)} {entries : List Entry}
  (hreflects : Reflects key log entries)

include hreflects

/-- No key is there twice. -/
theorem Reflects.nodup_keys : (entries.map key).Nodup :=
  List.pairwise_map.mpr (hreflects.ordered.imp SeenBefore.key_ne)

theorem Reflects.admitted {entry : Entry} (hnew : key entry ∉ entries.map key) :
    Reflects key (log ++ [.admitted entry]) (entries ++ [entry]) := by
  have hothers : ∀ other ∈ entries, Effect.sees key (key other) (.admitted entry) = false := by
    intro other hother
    rw [Effect.sees, decide_eq_false_iff_not]
    exact fun heq => hnew (heq ▸ List.mem_map_of_mem hother)
  constructor
  · intro other
    rw [kept_append_iff, ← hreflects.kept, List.mem_append, List.mem_singleton]
    apply or_congr
    · exact (and_iff_left (by simp)).symm
    · exact ⟨fun heq => congrArg Effect.admitted heq.symm,
        fun heq => (Effect.admitted.inj heq).symm⟩
  · rw [List.pairwise_append]
    refine ⟨?_, List.pairwise_singleton _ _, ?_⟩
    · apply hreflects.ordered.imp_of_mem
      intro first second hfirst hsecond hbefore
      exact hbefore.append (hothers first hfirst) (hothers second hsecond)
    · intro first hfirst second hsecond
      obtain rfl := List.mem_singleton.mp hsecond
      exact seenBefore_append ((hreflects.kept first).mp hfirst) (hothers first hfirst)
        (decide_eq_true rfl)

theorem Reflects.seen (k : Key) :
    Reflects key (log ++ [.seen k]) (touch key k entries) := by
  have hnodup := hreflects.nodup_keys
  constructor
  · intro other
    rw [mem_touch_iff, kept_append_iff, hreflects.kept]
    simp
  · rw [touch_eq_filter hnodup, List.pairwise_append]
    have hothers : ∀ other, other ∈ entries.filter (fun entry => decide (key entry ≠ k)) →
        other ∈ entries ∧ Effect.sees key (key other) (Effect.seen k : Effect Entry Key) =
          false := by
      intro other hother
      obtain ⟨hmem, hne⟩ := List.mem_filter.mp hother
      rw [Effect.sees, decide_eq_false_iff_not]
      exact ⟨hmem, fun heq => of_decide_eq_true hne heq.symm⟩
    refine ⟨?_, ?_, ?_⟩
    · apply (hreflects.ordered.sublist List.filter_sublist).imp_of_mem
      intro first second hfirst hsecond hbefore
      exact hbefore.append (hothers first hfirst).2 (hothers second hsecond).2
    · apply (hreflects.ordered.sublist List.filter_sublist).imp_of_mem
      intro first second hfirst hsecond hbefore
      have hkeys : key first = key second :=
        (of_decide_eq_true (List.mem_filter.mp hfirst).2).trans
          (of_decide_eq_true (List.mem_filter.mp hsecond).2).symm
      exact absurd hkeys hbefore.key_ne
    · intro first hfirst second hsecond
      obtain ⟨hmem, hother⟩ := hothers first hfirst
      have hsecondKey := of_decide_eq_true (List.mem_filter.mp hsecond).2
      exact seenBefore_append ((hreflects.kept first).mp hmem) hother
        (decide_eq_true hsecondKey.symm)

theorem Reflects.dropped (k : Key) :
    Reflects key (log ++ [.dropped k]) (forget key k entries) := by
  rw [forget_eq_filter hreflects.nodup_keys]
  constructor
  · intro other
    rw [List.mem_filter, decide_eq_true_eq, kept_append_iff, hreflects.kept]
    simp [eq_comm]
  · apply (hreflects.ordered.sublist List.filter_sublist).imp
    intro first second hbefore
    exact hbefore.append rfl rfl

theorem Reflects.nothing : Reflects key (log ++ [.nothing]) entries := by
  constructor
  · intro other
    rw [kept_append_iff, hreflects.kept]
    simp
  · apply hreflects.ordered.imp
    intro first second hbefore
    exact hbefore.append rfl rfl

/-- The list after an effect reflects the log with it. -/
theorem Reflects.append {effect : Effect Entry Key} (hfits : effect.Fits key entries) :
    Reflects key (log ++ [effect]) (effect.apply key entries) := by
  cases effect with
  | admitted entry => exact hreflects.admitted hfits
  | seen k => exact hreflects.seen k
  | dropped k => exact hreflects.dropped k
  | nothing => exact hreflects.nothing

end Steps

end SsP2p.Recency
