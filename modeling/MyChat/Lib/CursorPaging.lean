import Mathlib.Data.List.Sort

/-!
# Paging by a cursor

Rows are read in pages, the greatest key first. Each page has the first `n` of the rows whose keys
are below a cursor, in an order that leaves rows of equal keys open, and the next cursor is the key
of the page's last row. The comparison is strict, so that rows with the key of the cursor are passed
over. `Reading.perm_iff` says that the pages have all rows if and only if no page ends between two
rows of equal keys, and `exists_reading` that paging ends.
-/

namespace MyChat.CursorPaging

variable {α κ : Type}

/-- No page of `n` ends between two equal keys. -/
def NoTie (n : ℕ) (keys : List κ) : Prop :=
  ∀ j, 0 < j → j * n < keys.length → keys[j * n - 1]? ≠ keys[j * n]?

/-- No page ends between equal keys: the first does not, and none of the others. -/
theorem noTie_iff {n : ℕ} (hn : 0 < n) (keys : List κ) :
    NoTie n keys ↔ (n < keys.length → keys[n - 1]? ≠ keys[n]?) ∧ NoTie n (keys.drop n) := by
  -- The end of a later page is the end of the page before it among the keys after the first page.
  have hindex : ∀ j, 0 < j → n + (j * n - 1) = (j + 1) * n - 1 ∧ n + j * n = (j + 1) * n := by
    intro j hj
    have hpos : 0 < j * n := Nat.mul_pos hj hn
    rw [Nat.add_mul, Nat.one_mul]
    omega
  unfold NoTie
  simp only [List.length_drop, List.getElem?_drop]
  constructor
  · intro h
    refine ⟨fun hlt => ?_, fun j hj hlt => ?_⟩
    · have hfirst := h 1 Nat.one_pos
      rw [Nat.one_mul] at hfirst
      exact hfirst hlt
    · rw [(hindex j hj).1, (hindex j hj).2]
      refine h (j + 1) j.succ_pos ?_
      rw [← (hindex j hj).2]
      omega
  · rintro ⟨hfirst, hrest⟩ j hj hlt
    rcases Nat.eq_or_lt_of_le hj with rfl | hj'
    · rw [Nat.one_mul] at hlt ⊢
      exact hfirst hlt
    · obtain ⟨i, rfl⟩ : ∃ i, j = i + 1 := ⟨j - 1, by omega⟩
      have hi : 0 < i := by omega
      rw [← (hindex i hi).1, ← (hindex i hi).2]
      refine hrest i hi ?_
      rw [← (hindex i hi).2] at hlt
      omega

variable [LinearOrder κ]

/-- The rows below the cursor. -/
def rowsBelow (key : α → κ) (rows : List α) (cursor : κ) : List α :=
  rows.filter fun a => key a < cursor

/-- A page: the first `n` rows below the cursor. -/
def IsPage (key : α → κ) (n : ℕ) (rows : List α) (cursor : κ) (page : List α) : Prop :=
  ∃ l : List α, l.Perm (rowsBelow key rows cursor) ∧ l.Pairwise (fun a b => key b ≤ key a) ∧
    page = l.take n

/-- Pages that are read one after the other, up to the first that is empty; `P cursor page` says
which pages are read at a cursor. -/
inductive Reading {β : Type} (key : β → κ) (P : κ → List β → Prop) : κ → List (List β) → Prop
  /-- The page is empty. -/
  | stop {cursor} (h : P cursor []) : Reading key P cursor []
  /-- The next cursor is the key of the last row. -/
  | next {cursor page last pages} (h : P cursor page) (hlast : page.getLast? = some last)
      (hrest : Reading key P (key last) pages) : Reading key P cursor (page :: pages)

/-- The pages of the first `n` rows below each cursor. -/
abbrev Pages (key : α → κ) (n : ℕ) (rows : List α) : κ → List (List α) → Prop :=
  Reading key (IsPage key n rows)

/-- Keys, the greatest first. -/
def descending (keys : List κ) : List κ := keys.insertionSort fun a b => b ≤ a

variable {key : α → κ} {n : ℕ} {rows l page : List α} {cursor : κ} {pages : List (List α)} {last : α}

theorem mem_rowsBelow {a : α} : a ∈ rowsBelow key rows cursor ↔ a ∈ rows ∧ key a < cursor := by
  rw [rowsBelow, List.mem_filter, decide_eq_true_eq]

/-- A lower cursor. -/
theorem rowsBelow_rowsBelow {cursor' : κ} (h : cursor' ≤ cursor) :
    rowsBelow key (rowsBelow key rows cursor) cursor' = rowsBelow key rows cursor' := by
  unfold rowsBelow
  rw [List.filter_filter]
  refine List.filter_congr fun a _ => ?_
  rw [← Bool.decide_and]
  exact decide_eq_decide.mpr ⟨fun h => h.1, fun hlt => ⟨hlt, lt_of_lt_of_le hlt h⟩⟩

/-- The keys of rows that are in order are the keys in order. -/
theorem map_key_eq_descending (hperm : l.Perm rows) (hsorted : l.Pairwise fun a b => key b ≤ key a) :
    l.map key = descending (rows.map key) := by
  have htotal : Std.Total fun a b : κ => b ≤ a := ⟨fun a b => le_total b a⟩
  have htrans : IsTrans κ fun a b => b ≤ a := ⟨fun _ _ _ h h' => h'.trans h⟩
  have hkeys : (l.map key).Pairwise fun a b => b ≤ a := List.pairwise_map.mpr hsorted
  have hdescending : (descending (rows.map key)).Pairwise fun a b => b ≤ a :=
    List.pairwise_insertionSort _ _
  refine List.Perm.eq_of_pairwise (fun _ _ _ _ h h' => le_antisymm h' h) hkeys hdescending ?_
  exact (hperm.map key).trans (List.perm_insertionSort _ _).symm

/-- Rows of a page are below its cursor. -/
theorem IsPage.lt (h : IsPage key n rows cursor page) {a : α} (ha : a ∈ page) :
    a ∈ rows ∧ key a < cursor := by
  obtain ⟨l, hperm, -, rfl⟩ := h
  exact mem_rowsBelow.mp (hperm.mem_iff.mp (List.mem_of_mem_take ha))

/-- Rows of all pages are below the cursor. -/
theorem Reading.lt (h : Pages key n rows cursor pages) {a : α} (ha : a ∈ pages.flatten) :
    a ∈ rows ∧ key a < cursor := by
  induction h with
  | stop => exact absurd ha List.not_mem_nil
  | next hpage hlast _ ih =>
    -- A row of a later page is below the cursor that the first page ends with.
    rw [List.flatten_cons, List.mem_append] at ha
    rcases ha with ha | ha
    · exact hpage.lt ha
    · have hcursor := (hpage.lt (List.mem_of_getLast? hlast)).2
      exact ⟨(ih ha).1, (ih ha).2.trans hcursor⟩

/-- The last row of a page has the least key. -/
theorem key_last_le (hsorted : page.Pairwise fun a b => key b ≤ key a)
    (hlast : page.getLast? = some last) {a : α} (ha : a ∈ page) : key last ≤ key a := by
  obtain ⟨init, rfl⟩ := List.getLast?_eq_some_iff.mp hlast
  rcases List.mem_append.mp ha with ha | ha
  · exact (List.pairwise_append.mp hsorted).2.2 a ha last (List.mem_singleton.mpr rfl)
  · rw [List.mem_singleton.mp ha]

/-- The keys do not increase, within a page and from page to page. -/
theorem Reading.sorted (h : Pages key n rows cursor pages) :
    pages.flatten.Pairwise fun a b => key b ≤ key a := by
  induction h with
  | stop => exact List.Pairwise.nil
  | next hpage hlast hrest ih =>
    obtain ⟨l, -, hsorted, rfl⟩ := hpage
    have htake := hsorted.sublist (List.take_sublist n l)
    rw [List.flatten_cons, List.pairwise_append]
    exact ⟨htake, ih, fun a ha b hb => (hrest.lt hb).2.le.trans (key_last_le htake hlast ha)⟩

/-! ## Whether the pages have all rows -/

/-- What is below the last row of a page is among the rows after the page. -/
theorem rowsBelow_last_perm (hperm : l.Perm (rowsBelow key rows cursor))
    (hsorted : l.Pairwise fun a b => key b ≤ key a) (hlast : (l.take n).getLast? = some last) :
    (rowsBelow key rows (key last)).Perm (rowsBelow key (l.drop n) (key last)) := by
  have hmem : last ∈ l := List.mem_of_mem_take (List.mem_of_getLast? hlast)
  have hcursor : key last ≤ cursor := (mem_rowsBelow.mp (hperm.mem_iff.mp hmem)).2.le
  -- No row of the page is below its last one.
  have htake : rowsBelow key (l.take n) (key last) = [] := by
    unfold rowsBelow
    rw [List.filter_eq_nil_iff]
    intro a ha
    rw [decide_eq_true_eq, not_lt]
    exact key_last_le (hsorted.sublist (List.take_sublist n l)) hlast ha
  have hsplit : rowsBelow key l (key last) = rowsBelow key (l.drop n) (key last) := by
    conv_lhs => rw [← List.take_append_drop n l]
    unfold rowsBelow at htake ⊢
    rw [List.filter_append, htake, List.nil_append]
  rw [← hsplit, ← rowsBelow_rowsBelow hcursor]
  exact (hperm.filter _).symm

/-- The next page begins after the page when the rows after the page are below its last row. -/
theorem append_perm_iff (hperm : l.Perm (rowsBelow key rows cursor))
    (hsorted : l.Pairwise fun a b => key b ≤ key a) (hlast : (l.take n).getLast? = some last)
    {rest : List α} (hrest : ∀ a ∈ rest, key a < key last) :
    (l.take n ++ rest).Perm (rowsBelow key rows cursor) ↔
      rowsBelow key (l.drop n) (key last) = l.drop n ∧ rest.Perm (rowsBelow key rows (key last)) := by
  have hbelow := rowsBelow_last_perm hperm hsorted hlast
  -- With the page taken away on both sides, the rest is to be what comes after the page.
  have hdrop : (l.take n ++ rest).Perm (rowsBelow key rows cursor) ↔ rest.Perm (l.drop n) := by
    have hcancel : (l.take n ++ rest).Perm (l.take n ++ l.drop n) ↔ rest.Perm (l.drop n) :=
      List.perm_append_left_iff _
    rw [← hcancel, List.take_append_drop]
    exact ⟨fun h => h.trans hperm.symm, fun h => h.trans hperm⟩
  rw [hdrop]
  constructor
  · intro h
    have hself : rowsBelow key (l.drop n) (key last) = l.drop n := by
      unfold rowsBelow
      rw [List.filter_eq_self]
      exact fun a ha => decide_eq_true (hrest a (h.mem_iff.mpr ha))
    exact ⟨hself, h.trans (hself ▸ hbelow.symm)⟩
  · rintro ⟨hself, h⟩
    exact h.trans (hself ▸ hbelow)

/-- The rows after a page are below its last row when the first of them is. -/
theorem rowsBelow_drop_eq_iff (hn : 0 < n) (hsorted : l.Pairwise fun a b => key b ≤ key a)
    (hlast : (l.take n).getLast? = some last) :
    rowsBelow key (l.drop n) (key last) = l.drop n ↔
      (n < (l.map key).length → (l.map key)[n - 1]? ≠ (l.map key)[n]?) := by
  rw [List.length_map]
  rcases Nat.lt_or_ge n l.length with hlt | hge
  · -- The last row of the page is at place `n - 1`, and the first after it at place `n`.
    have hprev : l[n - 1]? = some last := by
      rw [List.getLast?_eq_getElem?, List.length_take, Nat.min_eq_left hlt.le,
        List.getElem?_take_of_lt (by omega)] at hlast
      exact hlast
    have hcons : l.drop n = l[n] :: l.drop (n + 1) := List.drop_eq_getElem_cons hlt
    have hsplit := hsorted
    rw [← List.take_append_drop n l, hcons] at hsplit
    obtain ⟨-, htail, hbetween⟩ := List.pairwise_append.mp hsplit
    have hle : key l[n] ≤ key last :=
      hbetween last (List.mem_of_getLast? hlast) l[n] List.mem_cons_self
    rw [List.getElem?_map, List.getElem?_map, hprev, List.getElem?_eq_getElem hlt]
    simp only [hlt, Option.map_some, ne_eq, Option.some.injEq, forall_const]
    unfold rowsBelow
    rw [List.filter_eq_self, hcons]
    constructor
    · intro h heq
      have hfirst := of_decide_eq_true (h l[n] List.mem_cons_self)
      exact absurd heq.symm hfirst.ne
    · intro hne a ha
      refine decide_eq_true (lt_of_le_of_lt ?_ (lt_of_le_of_ne hle (Ne.symm hne)))
      rcases List.mem_cons.mp ha with rfl | ha
      · exact le_rfl
      · exact (List.pairwise_cons.mp htail).1 a ha
  · rw [List.drop_eq_nil_of_le hge]
    exact ⟨fun _ hlt => absurd hlt (Nat.not_lt.mpr hge), fun _ => rfl⟩

/-- The pages have all rows below the cursor if and only if none ends between two equal keys. -/
theorem Reading.perm_iff (h : Pages key n rows cursor pages) (hn : 0 < n) :
    pages.flatten.Perm (rowsBelow key rows cursor) ↔
      NoTie n (descending ((rowsBelow key rows cursor).map key)) := by
  induction h with
  | stop hpage =>
    obtain ⟨l, hperm, -, htake⟩ := hpage
    -- The first page is empty, so that there are no rows.
    have hl : l = [] := by
      rcases List.take_eq_nil_iff.mp htake.symm with hzero | hnil
      · omega
      · exact hnil
    subst hl
    rw [← hperm.nil_eq]
    exact ⟨fun _ j _ hlt => absurd hlt (Nat.not_lt_zero _), fun _ => List.Perm.refl _⟩
  | next hpage hlast hrest ih =>
    obtain ⟨l, hperm, hsorted, rfl⟩ := hpage
    rw [List.flatten_cons, append_perm_iff hperm hsorted hlast fun a ha => (hrest.lt ha).2,
      ← map_key_eq_descending hperm hsorted, noTie_iff hn,
      ← rowsBelow_drop_eq_iff hn hsorted hlast, ih]
    refine and_congr_right fun hself => ?_
    -- The rows after the page are those that the next pages read.
    have hnext : (l.drop n).Perm (rowsBelow key _ (key _)) :=
      (hself ▸ rowsBelow_last_perm hperm hsorted hlast).symm
    rw [← map_key_eq_descending hnext (hsorted.sublist (List.drop_sublist n l)), List.map_drop]

/-! ## Pages of another form -/

variable {β : Type} {P : κ → List β → Prop} {pages' : List (List β)}

/-- Pages of rows in another form. -/
theorem Reading.map (key : α → κ) (f : β → α) (h : Reading (fun b => key (f b)) P cursor pages')
    (hP : ∀ cursor page, P cursor page → IsPage key n rows cursor (page.map f)) :
    Pages key n rows cursor (pages'.map (List.map f)) := by
  induction h with
  | stop hpage => exact .stop (hP _ _ hpage)
  | next hpage hlast _ ih =>
    refine .next (hP _ _ hpage) ?_ ih
    rw [List.getLast?_map, hlast, Option.map_some]

/-- Reading ends, whatever the pages are. -/
theorem exists_reading (key : α → κ) (f : β → α) (hpage : ∀ cursor, ∃ page, P cursor page)
    (hP : ∀ cursor page, P cursor page → IsPage key n rows cursor (page.map f)) (cursor : κ) :
    ∃ pages, Reading (fun b => key (f b)) P cursor pages := by
  induction hk : (rowsBelow key rows cursor).length using Nat.strongRecOn generalizing cursor with
  | ind k ih =>
    -- By the number of rows below the cursor, of which each page with a row leaves fewer.
    obtain ⟨page, hfirst⟩ := hpage cursor
    rcases hlast : page.getLast? with _ | last
    · rw [List.getLast?_eq_none_iff] at hlast
      exact ⟨[], .stop (hlast ▸ hfirst)⟩
    · -- The last row is not below its own key.
      have hmem := (hP _ _ hfirst).lt (List.mem_map_of_mem (List.mem_of_getLast? hlast))
      have hlt : (rowsBelow key rows (key (f last))).length < k := by
        rw [← hk, ← rowsBelow_rowsBelow hmem.2.le]
        refine List.length_filter_lt_length_iff_exists.mpr ⟨f last, mem_rowsBelow.mpr hmem, ?_⟩
        simp
      obtain ⟨pages, hpages⟩ := ih _ hlt (key (f last)) rfl
      exact ⟨page :: pages, .next hfirst hlast hpages⟩

end MyChat.CursorPaging
