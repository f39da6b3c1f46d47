import Mathlib.Data.List.AList
import Mathlib.Data.List.Induction

/-!
# Inserting only what is missing

`emplace` adds a key with its value to a map that does not have the key, and leaves the map as it is
otherwise. A map that is filled by it keeps the value that came first for a key: `lookup_emplaceAll`
says what a map that had entries before has afterwards, compared to one that was filled from empty,
and `entries_emplaceAll` in which order the keys went in. A map has its newest entry first.
-/

namespace MyChat.Emplace

variable {K V : Type} [DecidableEq K] {s : AList fun _ : K => V} {a k : K} {v : V}
variable {entries : List (K × V)}

/-- The map with an entry for `k`: its own, or else `v`. -/
def emplace (s : AList fun _ : K => V) (k : K) (v : V) : AList fun _ : K => V :=
  if k ∈ s then s else s.insert k v

/-- The entries one after the other. -/
def emplaceAll (s : AList fun _ : K => V) (entries : List (K × V)) : AList fun _ : K => V :=
  entries.foldl (fun s entry => emplace s entry.1 entry.2) s

@[simp] theorem emplaceAll_nil : emplaceAll s [] = s := rfl

@[simp] theorem emplaceAll_cons (entry : K × V) :
    emplaceAll s (entry :: entries) = emplaceAll (emplace s entry.1 entry.2) entries := rfl

/-- The last of the entries. -/
theorem emplaceAll_concat (entry : K × V) :
    emplaceAll s (entries ++ [entry]) = emplace (emplaceAll s entries) entry.1 entry.2 := by
  simp [emplaceAll]

/-- A lookup after `emplace`. -/
theorem lookup_emplace :
    (emplace s k v).lookup a = (s.lookup a).or (if a = k then some v else none) := by
  unfold emplace
  by_cases hk : k ∈ s
  · rw [if_pos hk]
    by_cases ha : a = k
    · subst ha
      obtain ⟨w, hw⟩ := Option.isSome_iff_exists.mp (AList.lookup_isSome.mpr hk)
      rw [hw, Option.some_or]
    · rw [if_neg ha, Option.or_none]
  · rw [if_neg hk]
    by_cases ha : a = k
    · subst ha
      rw [AList.lookup_insert, AList.lookup_eq_none.mpr hk, if_pos rfl, Option.none_or]
    · rw [AList.lookup_insert_ne ha, if_neg ha, Option.or_none]

/-- A map that is filled has what it had, and else what an empty map would have. -/
theorem lookup_emplaceAll :
    (emplaceAll s entries).lookup a = (s.lookup a).or ((emplaceAll ∅ entries).lookup a) := by
  induction entries using List.reverseRecOn with
  | nil => simp
  | append_singleton entries entry ih =>
    rw [emplaceAll_concat, emplaceAll_concat, lookup_emplace, lookup_emplace, ih, Option.or_assoc]

/-- A map that was filled from empty has for a key the value that came first. -/
theorem lookup_emplaceAll_empty :
    (emplaceAll ∅ entries).lookup a = (entries.find? fun entry => entry.1 = a).map Prod.snd := by
  induction entries with
  | nil => simp
  | cons entry entries ih =>
    rw [emplaceAll_cons, lookup_emplaceAll, lookup_emplace, ih, AList.lookup_empty, Option.none_or]
    by_cases ha : a = entry.1
    · rw [if_pos ha, List.find?_cons_of_pos (by simpa using ha.symm)]
      rfl
    · rw [if_neg ha, List.find?_cons_of_neg (by simpa using Ne.symm ha), Option.none_or]

/-- The keys of a map that is filled are its own and those that an empty map would have. -/
theorem mem_emplaceAll : a ∈ emplaceAll s entries ↔ a ∈ s ∨ a ∈ emplaceAll ∅ entries := by
  rw [← AList.lookup_isSome, lookup_emplaceAll, Option.isSome_or, Bool.or_eq_true,
    AList.lookup_isSome, AList.lookup_isSome]

/-- The entries of a map after `emplace`. -/
theorem entries_emplace :
    (emplace s k v).entries = if k ∈ s then s.entries else ⟨k, v⟩ :: s.entries := by
  unfold emplace
  by_cases hk : k ∈ s
  · rw [if_pos hk, if_pos hk]
  · rw [if_neg hk, if_neg hk, AList.entries_insert_of_notMem hk]

/-- A map that is filled has its own entries first, and before them, as newer, those entries of a
map that was filled from empty whose keys it did not have. -/
theorem entries_emplaceAll :
    (emplaceAll s entries).entries =
      ((emplaceAll ∅ entries).entries.filter fun entry => entry.1 ∉ s) ++ s.entries := by
  induction entries using List.reverseRecOn with
  | nil => simp
  | append_singleton entries entry ih =>
    rw [emplaceAll_concat, emplaceAll_concat, entries_emplace, entries_emplace, ih]
    by_cases hs : entry.1 ∈ s
    · have hmem : entry.1 ∈ emplaceAll s entries := mem_emplaceAll.mpr (.inl hs)
      rw [if_pos hmem]
      by_cases hnew : entry.1 ∈ emplaceAll ∅ entries
      · rw [if_pos hnew]
      · rw [if_neg hnew, List.filter_cons_of_neg (by simpa using hs)]
    · by_cases hnew : entry.1 ∈ emplaceAll ∅ entries
      · have hmem : entry.1 ∈ emplaceAll s entries := mem_emplaceAll.mpr (.inr hnew)
        rw [if_pos hmem, if_pos hnew]
      · have hmem : entry.1 ∉ emplaceAll s entries := fun h =>
          (mem_emplaceAll.mp h).elim hs hnew
        rw [if_neg hmem, if_neg hnew, List.filter_cons_of_pos (by simpa using hs), List.cons_append]

/-- An entry of a map that is filled is its own, or one of a key that it did not have. -/
theorem mem_entries_emplaceAll {entry : (_ : K) × V} :
    entry ∈ (emplaceAll s entries).entries ↔
      entry ∈ s.entries ∨ entry ∈ (emplaceAll ∅ entries).entries ∧ entry.1 ∉ s := by
  rw [entries_emplaceAll, List.mem_append, List.mem_filter, decide_eq_true_iff, or_comm]

/-- A map is filled as an empty one would be exactly when its own entries are the first of it, in
their order. -/
theorem emplaceAll_eq_iff :
    emplaceAll s entries = emplaceAll ∅ entries ↔
      s.entries <:+ (emplaceAll ∅ entries).entries := by
  constructor
  · intro h
    rw [← h, entries_emplaceAll]
    exact List.suffix_append _ _
  · rintro ⟨newer, hnewer⟩
    apply AList.ext
    have hnodup : (newer.map Sigma.fst ++ s.entries.map Sigma.fst).Nodup := by
      rw [← List.map_append, hnewer]
      exact (emplaceAll ∅ entries).nodupKeys
    have hdisjoint : ∀ entry ∈ newer, entry.1 ∉ s := fun entry hentry hmem =>
      (List.nodup_append.mp hnodup).2.2 _ (List.mem_map_of_mem hentry) _ hmem rfl
    have hnew : newer.filter (fun entry => entry.1 ∉ s) = newer :=
      List.filter_eq_self.mpr fun entry hentry => decide_eq_true (hdisjoint entry hentry)
    have hold : s.entries.filter (fun entry => entry.1 ∉ s) = [] := by
      rw [List.filter_eq_nil_iff]
      intro entry hentry
      have hmem : entry.1 ∈ s := List.mem_map_of_mem hentry
      simpa using hmem
    rw [entries_emplaceAll, ← hnewer, List.filter_append, hnew, hold, List.append_nil]

/-- A map stays as it is exactly when it has every key that an empty map would have. -/
theorem entries_emplaceAll_eq_iff :
    (emplaceAll s entries).entries = s.entries ↔ ∀ k ∈ emplaceAll ∅ entries, k ∈ s := by
  rw [entries_emplaceAll, List.append_left_eq_self, List.filter_eq_nil_iff]
  constructor
  · intro h k hk
    obtain ⟨v, hv⟩ := Option.isSome_iff_exists.mp (AList.lookup_isSome.mpr hk)
    simpa using h ⟨k, v⟩ (AList.mem_lookup_iff.mp hv)
  · intro h entry hentry
    have hkey : entry.1 ∈ emplaceAll ∅ entries := List.mem_map_of_mem hentry
    simpa using h entry.1 hkey

end MyChat.Emplace
