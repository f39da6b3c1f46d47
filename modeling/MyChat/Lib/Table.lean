import Mathlib.Data.List.Nodup
import Mathlib.Data.Nat.Basic

/-!
# Tables with a generated key

A database table whose key is generated by a sequence: each row has an id, no two rows have the
same, and the sequence is past all of them. A sequence may skip values, as it does after a
transaction that was rolled back, so that `persist` takes the number of values that it skips.

`load_persist`, `load_update`, and `load_erase` say what each operation does to every row, and
`mem_rows` that loading by id finds the rows of the table. `Changes` compares two tables row by
row: which rows are new, which are another than before, and which are gone.
-/

namespace MyChat

/-- A table of rows of type `ρ`, each with its id. -/
structure Table (ρ : Type) where
  /-- The rows, in the order in which they were inserted. -/
  rows : List (ℕ × ρ)
  /-- The sequence's next value. -/
  nextId : ℕ
  /-- The sequence is past every row. -/
  lt_nextId : ∀ row ∈ rows, row.1 < nextId
  /-- No two rows have the same id. -/
  nodup : (rows.map Prod.fst).Nodup

namespace Table

variable {ρ : Type} (t : Table ρ)

/-- A table with no row; ids start at one. -/
def empty : Table ρ where
  rows := []
  nextId := 1
  lt_nextId := by simp
  nodup := List.nodup_nil

/-- The row with the given id. -/
def load (id : ℕ) : Option ρ := (t.rows.find? fun row => row.1 = id).map Prod.snd

/-- The id that the next row gets when the sequence skips `skip` values. -/
def freshId (skip : ℕ) : ℕ := t.nextId + skip

theorem freshId_not_mem (skip : ℕ) : t.freshId skip ∉ t.rows.map Prod.fst := by
  intro hmem
  obtain ⟨row, hrow, heq⟩ := List.mem_map.mp hmem
  have hlt := t.lt_nextId row hrow
  unfold freshId at heq
  omega

/-- Insert a row under the sequence's next value. -/
def persist (skip : ℕ) (r : ρ) : Table ρ where
  rows := t.rows ++ [(t.freshId skip, r)]
  nextId := t.freshId skip + 1
  lt_nextId row hrow := by
    rcases List.mem_append.mp hrow with h | h
    · have hlt := t.lt_nextId row h
      unfold freshId
      omega
    · rw [List.mem_singleton.mp h]
      exact Nat.lt_succ_self _
  nodup := by
    rw [List.map_append, List.map_singleton]
    exact t.nodup.append (List.nodup_singleton _)
      (List.disjoint_singleton.mpr (t.freshId_not_mem skip))

/-- Replace the row with the given id by what `f` makes of it. -/
def update (id : ℕ) (f : ρ → ρ) : Table ρ where
  rows := t.rows.map fun row => if row.1 = id then (row.1, f row.2) else row
  nextId := t.nextId
  lt_nextId row hrow := by
    obtain ⟨old, hold, rfl⟩ := List.mem_map.mp hrow
    have hlt := t.lt_nextId old hold
    split_ifs <;> exact hlt
  nodup := by
    have hkeys : (t.rows.map fun row => if row.1 = id then (row.1, f row.2) else row).map
        Prod.fst = t.rows.map Prod.fst := by
      rw [List.map_map]
      refine List.map_congr_left fun row _ => ?_
      rw [Function.comp_apply]
      split_ifs <;> rfl
    rw [hkeys]
    exact t.nodup

/-- Delete the rows that meet a condition. -/
def erase (p : ρ → Bool) : Table ρ where
  rows := t.rows.filter fun row => !p row.2
  nextId := t.nextId
  lt_nextId row hrow := t.lt_nextId row (List.mem_of_mem_filter hrow)
  nodup := t.nodup.sublist (List.filter_sublist.map Prod.fst)

/-- Loading by id finds the rows of the table. -/
theorem mem_rows {id : ℕ} {r : ρ} : (id, r) ∈ t.rows ↔ t.load id = some r := by
  unfold load
  constructor
  · intro hmem
    -- The first row with the id is the only one.
    obtain ⟨pre, post, hrows⟩ := List.append_of_mem hmem
    have hpre : ∀ row ∈ pre, ¬ (row.1 = id) := by
      intro row hrow heq
      have hnodup := t.nodup
      rw [hrows, List.map_append, List.map_cons] at hnodup
      exact (List.nodup_append.mp hnodup).2.2 _ (List.mem_map_of_mem hrow) _ List.mem_cons_self heq
    have hnone : pre.find? (fun row => row.1 = id) = none :=
      List.find?_eq_none.mpr fun row hrow => by simpa using hpre row hrow
    rw [hrows, List.find?_append, hnone]
    simp
  · intro h
    obtain ⟨⟨id', r'⟩, hfind, rfl⟩ := Option.map_eq_some_iff.mp h
    obtain rfl : id' = id := by simpa using List.find?_some hfind
    exact List.mem_of_find?_eq_some hfind

/-- A fresh id is free. -/
theorem load_freshId (skip : ℕ) : t.load (t.freshId skip) = none := by
  rcases hload : t.load (t.freshId skip) with _ | r
  · rfl
  · exact absurd (List.mem_map_of_mem (t.mem_rows.mpr hload)) (t.freshId_not_mem skip)

/-- The rows after an insert. -/
theorem load_persist (skip : ℕ) (r : ρ) (id : ℕ) :
    (t.persist skip r).load id = if id = t.freshId skip then some r else t.load id := by
  split_ifs with hid
  · rw [← mem_rows, hid]
    exact List.mem_append_right _ (List.mem_singleton.mpr rfl)
  · have hne : ¬ (t.freshId skip = id) := fun h => hid h.symm
    simp [load, persist, List.find?_append, hne]

/-- The rows after an update. -/
theorem load_update (i : ℕ) (f : ρ → ρ) (id : ℕ) :
    (t.update i f).load id = if id = i then (t.load id).map f else t.load id := by
  -- The change keeps the ids, so that the row is found at the same place.
  have hfind : ∀ rows : List (ℕ × ρ),
      (rows.map fun row => if row.1 = i then (row.1, f row.2) else row).find?
        (fun row => row.1 = id) =
      (rows.find? fun row => row.1 = id).map fun row =>
        if row.1 = i then (row.1, f row.2) else row := by
    intro rows
    rw [List.find?_map]
    congr 1
    refine congrArg (fun p => List.find? p rows) (funext fun row => ?_)
    rw [Function.comp_apply]
    split_ifs <;> rfl
  unfold load update
  dsimp only
  rw [hfind]
  rcases hload : t.rows.find? (fun row => row.1 = id) with _ | ⟨id', r⟩
  · rw [hload]
    simp
  · obtain rfl : id' = id := by simpa using List.find?_some hload
    rw [hload]
    by_cases hid : id' = i <;> simp [hid]

/-- The rows after a deletion. -/
theorem load_erase {p : ρ → Bool} {id : ℕ} {r : ρ} :
    (t.erase p).load id = some r ↔ t.load id = some r ∧ p r = false := by
  rw [← mem_rows, ← mem_rows]
  simp [erase]

/-- An insert keeps the rows that are there. -/
theorem load_persist_of_some {id : ℕ} {r : ρ} (skip : ℕ) (r' : ρ) (h : t.load id = some r) :
    (t.persist skip r').load id = some r := by
  rw [← mem_rows] at h ⊢
  exact List.mem_append_left _ h

/-! ## Changes -/

/-- The rows of the second table that the first has not are `made`, those that differ are `altered`,
and those that the second has not are `removed`. -/
structure Changes (made : ρ → Prop) (altered : ℕ → ρ → ρ → Prop) (removed : ρ → Prop)
    (t t' : Table ρ) : Prop where
  /-- A row that is new. -/
  made : ∀ id r, t.load id = none → t'.load id = some r → made r
  /-- A row that is another than before. -/
  altered : ∀ id r r', t.load id = some r → t'.load id = some r' → r' ≠ r → altered id r r'
  /-- A row that is gone. -/
  removed : ∀ id r, t.load id = some r → t'.load id = none → removed r

section Changes

variable {t : Table ρ} {made : ρ → Prop} {altered : ℕ → ρ → ρ → Prop} {removed : ρ → Prop}

/-- A table differs from itself in nothing. -/
theorem Changes.refl : Changes made altered removed t t := by
  refine ⟨fun id r hnone hsome => ?_, fun id r r' hr hr' hne => ?_, fun id r hsome hnone => ?_⟩
  · exact absurd (hnone.symm.trans hsome) (by simp)
  · exact absurd (Option.some.inj (hr'.symm.trans hr)) hne
  · exact absurd (hsome.symm.trans hnone) (by simp)

/-- An insert makes one row. -/
theorem changes_persist (skip : ℕ) {r : ρ} (h : made r) :
    Changes made altered removed t (t.persist skip r) := by
  refine ⟨fun id r' hnone hsome => ?_, fun id r₁ r' hr hr' hne => ?_, fun id r' hsome hnone => ?_⟩
  · rw [load_persist] at hsome
    split_ifs at hsome
    · exact Option.some.inj hsome ▸ h
    · exact absurd (hnone.symm.trans hsome) (by simp)
  · rw [t.load_persist_of_some skip r hr] at hr'
    exact absurd (Option.some.inj hr').symm hne
  · rw [t.load_persist_of_some skip r hsome] at hnone
    exact nomatch hnone

/-- An update alters one row. -/
theorem changes_update (i : ℕ) {f : ρ → ρ} (h : ∀ r, t.load i = some r → altered i r (f r)) :
    Changes made altered removed t (t.update i f) := by
  refine ⟨fun id r' hnone hsome => ?_, fun id r r' hr hr' hne => ?_, fun id r' hsome hnone => ?_⟩
  · rw [load_update, hnone] at hsome
    split_ifs at hsome
    exact nomatch hsome
  · rw [load_update, hr] at hr'
    split_ifs at hr' with hid
    · subst hid
      exact Option.some.inj hr' ▸ h r hr
    · exact absurd (Option.some.inj hr').symm hne
  · rw [load_update, hsome] at hnone
    split_ifs at hnone with hid
    · exact nomatch hnone

/-- A deletion removes the rows that meet its condition. -/
theorem changes_erase {p : ρ → Bool} (h : ∀ r, p r = true → removed r) :
    Changes made altered removed t (t.erase p) := by
  refine ⟨fun id r' hnone hsome => ?_, fun id r r' hr hr' hne => ?_, fun id r hsome hnone => ?_⟩
  · exact absurd (hnone.symm.trans (t.load_erase.mp hsome).1) (by simp)
  · exact absurd (Option.some.inj ((t.load_erase.mp hr').1.symm.trans hr)) hne
  · refine h r ?_
    by_contra hp
    rw [t.load_erase.mpr ⟨hsome, eq_false_of_ne_true hp⟩] at hnone
    exact nomatch hnone

end Changes

end Table

end MyChat
