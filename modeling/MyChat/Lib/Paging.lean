import Mathlib.Data.List.Perm.Basic
import Mathlib.Data.List.Nodup

/-!
# Reading a pool in parts

A pool of rows is read in parts: each part is the beginning of what is left, in an order that is
chosen anew each time. `Drained` says that the parts so far and what is left make up the pool, that
the parts are in order together, and that nothing that is left comes before them; `Drained.take`
is the rule for the next part. `LastPage` says that a page shows the end of the pool.
-/

namespace MyChat.Paging

variable {α : Type} {r : α → α → Prop} {pool taken rest l : List α}

/-- `taken` was read of the pool, in order, and `rest` is left. -/
structure Drained (r : α → α → Prop) (pool taken rest : List α) : Prop where
  /-- What was read and what is left make up the pool. -/
  perm : (taken ++ rest).Perm pool
  /-- What was read is in order. -/
  sorted : taken.Pairwise r
  /-- What was read comes before what is left. -/
  before : ∀ a ∈ taken, ∀ b ∈ rest, r a b

/-- Nothing was read. -/
theorem drained_nil : Drained r pool [] pool :=
  ⟨List.Perm.refl _, List.Pairwise.nil, fun _ h => absurd h List.not_mem_nil⟩

/-- The order of what is left does not matter. -/
theorem Drained.of_perm (h : Drained r pool taken rest) (hperm : l.Perm rest) :
    Drained r pool taken l :=
  ⟨(hperm.append_left taken).trans h.perm, h.sorted,
    fun a ha b hb => h.before a ha b (hperm.mem_iff.mp hb)⟩

/-- The next part is read. -/
theorem Drained.take (h : Drained r pool taken rest) (hperm : l.Perm rest) (hsorted : l.Pairwise r)
    (n : ℕ) : Drained r pool (taken ++ l.take n) (l.drop n) := by
  obtain ⟨htaken, hrest, hbetween⟩ := List.pairwise_append.mp
    ((List.take_append_drop n l).symm ▸ hsorted)
  refine ⟨?_, List.pairwise_append.mpr ⟨h.sorted, htaken, fun a ha b hb => ?_⟩, fun a ha b hb => ?_⟩
  · rw [List.append_assoc, List.take_append_drop]
    exact (hperm.append_left taken).trans h.perm
  · exact h.before a ha b (hperm.mem_iff.mp (List.mem_of_mem_take hb))
  · rcases List.mem_append.mp ha with hold | hnew
    · exact h.before a hold b (hperm.mem_iff.mp (List.mem_of_mem_drop hb))
    · exact hbetween a hnew b hb

theorem Drained.length (h : Drained r pool taken rest) :
    taken.length + rest.length = pool.length := by
  rw [← List.length_append]
  exact h.perm.length_eq

/-- A row of the pool was read or is left. -/
theorem Drained.mem (h : Drained r pool taken rest) {a : α} :
    a ∈ pool ↔ a ∈ taken ∨ a ∈ rest := by
  rw [← h.perm.mem_iff, List.mem_append]

/-- A row is not left when it was read. -/
theorem mem_drop_iff {a : α} {n : ℕ} (hnodup : l.Nodup) :
    a ∈ l.drop n ↔ a ∈ l ∧ a ∉ l.take n := by
  rw [← List.take_append_drop n l, List.nodup_append] at hnodup
  constructor
  · exact fun h => ⟨List.mem_of_mem_drop h, fun htake => hnodup.2.2 a htake a h rfl⟩
  · rintro ⟨hmem, htake⟩
    rw [← List.take_append_drop n l, List.mem_append] at hmem
    exact hmem.resolve_left htake

/-! ## The last page -/

/-- A page that shows the end of the pool: it is in order, it has `n` rows or all of them, and
nothing that was left out comes after a row of the page. -/
structure LastPage (r : α → α → Prop) (n : ℕ) (pool page : List α) : Prop where
  /-- The page is in order. -/
  sorted : page.Pairwise r
  /-- The page is full, or has all rows. -/
  length : page.length = min n pool.length
  /-- What was left out comes before the page. -/
  rest : ∃ rest, (rest ++ page).Perm pool ∧ ∀ a ∈ rest, ∀ b ∈ page, r a b

/-- No row of the pool comes after all rows of a last page. -/
theorem LastPage.exists_after {n : ℕ} {page : List α} (h : LastPage r n pool page)
    (hrefl : ∀ a, r a a) (hn : 0 < n) {a : α} (ha : a ∈ pool) : ∃ b ∈ page, r a b := by
  obtain ⟨rest, hperm, hrest⟩ := h.rest
  rcases List.mem_append.mp (hperm.mem_iff.mpr ha) with hmem | hmem
  · have hpool := List.length_pos_of_mem ha
    have hpos : 0 < page.length := by
      have hlength := h.length
      omega
    obtain ⟨b, hb⟩ := List.exists_mem_of_length_pos hpos
    exact ⟨b, hb, hrest a hmem b hb⟩
  · exact ⟨a, hmem, hrefl a⟩

/-- The beginning of the pool is a last page only if it is all of it, or all rows are alike. -/
theorem lastPage_take_iff {n : ℕ} (htrans : ∀ {a b c}, r a b → r b c → r a c) (hn : 0 < n)
    (hperm : l.Perm pool) (hsorted : l.Pairwise r) :
    LastPage r n pool (l.take n) ↔ pool.length ≤ n ∨ ∀ a ∈ pool, ∀ b ∈ pool, r a b := by
  have hsplit := hsorted
  rw [← List.take_append_drop n l] at hsplit
  obtain ⟨htake, -, hbetween⟩ := List.pairwise_append.mp hsplit
  have hlength : (l.take n).length = min n pool.length := by
    rw [List.length_take, hperm.length_eq]
  constructor
  · intro h
    by_contra hnot
    obtain ⟨hlt, hall⟩ := not_or.mp hnot
    rw [Nat.not_le] at hlt
    refine hall fun a ha b hb => ?_
    -- What was left out is the end of the list, and comes both after and before the page.
    obtain ⟨rest, hrest, hbefore⟩ := h.rest
    have hdrop : rest.Perm (l.drop n) := by
      have hboth : (rest ++ l.take n).Perm (l.drop n ++ l.take n) :=
        calc (rest ++ l.take n).Perm pool := hrest
          List.Perm _ l := hperm.symm
          List.Perm _ (l.take n ++ l.drop n) := by rw [List.take_append_drop]
          List.Perm _ (l.drop n ++ l.take n) := List.perm_append_comm
      exact (List.perm_append_right_iff _).mp hboth
    have hback : ∀ a ∈ l.drop n, ∀ b ∈ l.take n, r a b :=
      fun a ha b hb => hbefore a (hdrop.mem_iff.mpr ha) b hb
    -- Both halves have a row, through which two rows of one half are related.
    obtain ⟨first, hfirst⟩ : ∃ first, first ∈ l.take n :=
      List.exists_mem_of_length_pos (by omega)
    obtain ⟨last, hlast⟩ : ∃ last, last ∈ l.drop n := by
      refine List.exists_mem_of_length_pos ?_
      rw [List.length_drop, hperm.length_eq]
      omega
    rw [← hperm.mem_iff, ← List.take_append_drop n l, List.mem_append] at ha hb
    rcases ha with ha | ha <;> rcases hb with hb | hb
    · exact htrans (hbetween a ha last hlast) (hback last hlast b hb)
    · exact hbetween a ha b hb
    · exact hback a ha b hb
    · exact htrans (hback a ha first hfirst) (hbetween first hfirst b hb)
  · rintro (hle | hall)
    · have hwhole : l.take n = l := List.take_of_length_le (hperm.length_eq ▸ hle)
      exact ⟨htake, hlength, [], by rwa [List.nil_append, hwhole],
        fun a ha => absurd ha List.not_mem_nil⟩
    · refine ⟨htake, hlength, l.drop n, ?_, fun a ha b hb => ?_⟩
      · calc (l.drop n ++ l.take n).Perm (l.take n ++ l.drop n) := List.perm_append_comm
          List.Perm _ l := by rw [List.take_append_drop]
          List.Perm _ pool := hperm
      · exact hall a (hperm.mem_iff.mp (List.mem_of_mem_drop ha)) b
          (hperm.mem_iff.mp (List.mem_of_mem_take hb))

end MyChat.Paging
