import Mathlib.Data.List.Infix
import Mathlib.Data.List.Perm.Basic
import Mathlib.Data.List.Sort
import Mathlib.Data.Nat.Basic

/-!
# Queries

What a database leaves open or decides when it answers a query: the order of rows that no `ORDER BY`
fixes, which is an `Arrangement`, the first row when one does, and the patterns of `LIKE`.
-/

namespace MyChat

/-- An order in which a query returns its rows, as the positions of the rows for each number of
rows. -/
structure Arrangement where
  /-- The positions in the order in which their rows are returned. -/
  positions : ℕ → List ℕ
  /-- Every position is there once. -/
  perm : ∀ n, (positions n).Perm (List.range n)

namespace Arrangement

/-- The arrangement that leaves the rows as they are. -/
def asStored : Arrangement := ⟨List.range, fun _ => List.Perm.refl _⟩

variable {ρ : Type} (π : Arrangement) (rows : List ρ)

/-- The rows in the order of the arrangement. -/
def arrange : List ρ := (π.positions rows.length).filterMap fun i => rows[i]?

theorem filterMap_range : (List.range rows.length).filterMap (fun i => rows[i]?) = rows := by
  induction rows with
  | nil => rfl
  | cons row rows ih =>
    rw [List.length_cons, List.range_succ_eq_map, List.filterMap_cons, List.filterMap_map]
    exact congrArg (row :: ·) ih

/-- Every row is returned, as often as it is there. -/
theorem arrange_perm : (π.arrange rows).Perm rows := by
  have hperm := (π.perm rows.length).filterMap fun i => rows[i]?
  rw [filterMap_range] at hperm
  exact hperm

/-- The rows that are returned are those that are there. -/
theorem mem_arrange {row : ρ} : row ∈ π.arrange rows ↔ row ∈ rows := (π.arrange_perm rows).mem_iff

/-- The arrangement that puts one position before the others. -/
def first (i : ℕ) : Arrangement where
  positions n := if i < n then i :: (List.range n).erase i else List.range n
  perm n := by
    split_ifs with hi
    · exact (List.perm_cons_erase (List.mem_range.mpr hi)).symm
    · exact List.Perm.refl _

/-- Any of the rows can be the first that is returned. -/
theorem exists_arrange_eq_cons {row : ρ} (h : row ∈ rows) :
    ∃ π : Arrangement, ∃ rest, π.arrange rows = row :: rest := by
  obtain ⟨i, hi, hrow⟩ := List.getElem_of_mem h
  refine ⟨first i, ((List.range rows.length).erase i).filterMap fun j => rows[j]?, ?_⟩
  show ((if i < rows.length then i :: (List.range rows.length).erase i
    else List.range rows.length).filterMap fun j => rows[j]?) = _
  rw [if_pos hi, List.filterMap_cons, List.getElem?_eq_getElem hi, hrow]

end Arrangement

/-- The first row of a query that is ordered by a key, the greatest first, is the first of the rows
with the greatest key. -/
theorem head?_insertionSort {ρ κ : Type} [LinearOrder κ] (key : ρ → κ) {rows : List ρ} {m : κ}
    (hle : ∀ row ∈ rows, key row ≤ m) (hmax : ∃ row ∈ rows, key row = m) :
    (rows.insertionSort fun a b => key b ≤ key a).head? = rows.find? fun row => key row = m := by
  induction rows with
  | nil => exact absurd hmax (by simp)
  | cons row rows ih =>
    have hrest : ∀ row' ∈ rows, key row' ≤ m := fun row' h => hle row' (List.mem_cons_of_mem _ h)
    rw [List.insertionSort_cons]
    by_cases hrow : key row = m
    · -- The row comes before all others.
      have hfirst : ∀ row' ∈ rows.insertionSort (fun a b => key b ≤ key a), key row' ≤ key row :=
        fun row' h => hrow ▸ hrest row' ((List.mem_insertionSort _).mp h)
      rw [List.find?_cons_of_pos (by simpa using hrow)]
      cases hsort : rows.insertionSort (fun a b => key b ≤ key a) with
      | nil => rfl
      | cons row' rest =>
        have hle' := hfirst row' (by rw [hsort]; exact List.mem_cons_self)
        rw [List.orderedInsert_cons, if_pos hle']
        rfl
    · -- The row is inserted after the first of the others.
      have hmax' : ∃ row' ∈ rows, key row' = m := by
        obtain ⟨row', hmem, hkey⟩ := hmax
        rcases List.mem_cons.mp hmem with rfl | hmem
        · exact absurd hkey hrow
        · exact ⟨row', hmem, hkey⟩
      have hhead := ih hrest hmax'
      rw [List.find?_cons_of_neg (by simpa using hrow), ← hhead]
      cases hsort : rows.insertionSort (fun a b => key b ≤ key a) with
      | nil =>
        obtain ⟨row', hmem, -⟩ := hmax'
        rw [← List.mem_insertionSort (fun a b => key b ≤ key a), hsort] at hmem
        exact absurd hmem List.not_mem_nil
      | cons row' rest =>
        rw [hsort, List.head?_cons] at hhead
        have hkey : key row' = m := by simpa using List.find?_some hhead.symm
        have hlt : ¬ key row' ≤ key row := by
          rw [hkey, not_le]
          exact lt_of_le_of_ne (hle row List.mem_cons_self) hrow
        rw [List.orderedInsert_cons, if_neg hlt]
        rfl

/-- No row of a query that is ordered by a key, the greatest first, has a greater one than the
first. -/
theorem key_le_head {ρ κ : Type} [LinearOrder κ] (key : ρ → κ) {rows rest : List ρ} {first row : ρ}
    (hsort : rows.insertionSort (fun a b => key b ≤ key a) = first :: rest) (hrow : row ∈ rows) :
    key row ≤ key first := by
  have htotal : Std.Total fun a b : ρ => key b ≤ key a := ⟨fun a b => le_total (key b) (key a)⟩
  have htrans : IsTrans ρ fun a b => key b ≤ key a := ⟨fun _ _ _ h h' => h'.trans h⟩
  have hsorted := List.pairwise_insertionSort (fun a b => key b ≤ key a) rows
  rw [← List.mem_insertionSort fun a b => key b ≤ key a, hsort] at hrow
  rw [hsort] at hsorted
  rcases List.mem_cons.mp hrow with rfl | hrest
  · exact le_rfl
  · exact List.rel_of_pairwise_cons hsorted hrest

/-! ## Patterns -/

/-- `LIKE`: `%` stands for any text, `_` for one character, and a backslash takes the meaning from
the character after it. -/
def like : List Char → List Char → Bool
  | [], text => text.isEmpty
  | '%' :: pattern, text => text.tails.any (like pattern)
  | '_' :: pattern, _ :: text => like pattern text
  | '\\' :: c :: pattern, d :: text => c = d && like pattern text
  | c :: pattern, d :: text => c = d && like pattern text
  | _ :: _, [] => false

/-- The character has no meaning of its own in a pattern of `LIKE`. -/
def IsPlain (c : Char) : Prop := c ≠ '%' ∧ c ≠ '_' ∧ c ≠ '\\'

instance (c : Char) : Decidable (IsPlain c) := inferInstanceAs (Decidable (_ ∧ _))

/-- Plain characters can be checked one by one. -/
theorem isPlain_of_all {text : List Char} (h : (text.all fun c => IsPlain c) = true) :
    ∀ c ∈ text, IsPlain c :=
  fun c hc => of_decide_eq_true (List.all_eq_true.mp h c hc)

@[simp] theorem like_nil (text : List Char) : like [] text = text.isEmpty := by
  rw [like]

theorem like_percent (pattern text : List Char) :
    like ('%' :: pattern) text = text.tails.any (like pattern) := by
  rw [like]

theorem like_cons_of_plain {c : Char} (hc : IsPlain c) (pattern text : List Char) :
    like (c :: pattern) text = true ↔ ∃ rest, text = c :: rest ∧ like pattern rest = true := by
  obtain ⟨hpercent, hunderscore, hbackslash⟩ := hc
  cases text with
  | nil => simp [like]
  | cons d text =>
    rw [like.eq_5 _ _ _ _ hpercent hunderscore fun _ _ h _ => hbackslash h]
    simp only [Bool.and_eq_true, decide_eq_true_eq, List.cons.injEq]
    constructor
    · rintro ⟨rfl, h⟩
      exact ⟨text, ⟨rfl, rfl⟩, h⟩
    · rintro ⟨rest, ⟨rfl, rfl⟩, h⟩
      exact ⟨rfl, h⟩

/-- A pattern of plain characters and a last `%` matches what begins with these characters. -/
theorem like_prefix_of_plain {keyword : List Char} (hplain : ∀ c ∈ keyword, IsPlain c)
    (text : List Char) : like (keyword ++ ['%']) text = true ↔ keyword <+: text := by
  induction keyword generalizing text with
  | nil =>
    rw [List.nil_append, like_percent, List.any_eq_true]
    exact iff_of_true ⟨[], (List.mem_tails _ _).mpr List.nil_suffix, by simp⟩ List.nil_prefix
  | cons c keyword ih =>
    rw [List.cons_append, like_cons_of_plain (hplain c List.mem_cons_self)]
    have hrest : ∀ rest, like (keyword ++ ['%']) rest = true ↔ keyword <+: rest :=
      ih fun d hd => hplain d (List.mem_cons_of_mem _ hd)
    constructor
    · rintro ⟨rest, rfl, h⟩
      exact List.cons_prefix_cons.mpr ⟨rfl, (hrest rest).mp h⟩
    · rintro ⟨rest, rfl⟩
      exact ⟨keyword ++ rest, rfl, (hrest _).mpr (List.prefix_append _ _)⟩

/-- A pattern of plain characters between two `%` matches what has these characters in it. -/
theorem like_infix_of_plain {keyword : List Char} (hplain : ∀ c ∈ keyword, IsPlain c)
    (text : List Char) : like ('%' :: (keyword ++ ['%'])) text = true ↔ keyword <:+: text := by
  rw [like_percent, List.any_eq_true, List.infix_iff_prefix_suffix]
  refine exists_congr fun rest => ?_
  rw [List.mem_tails, like_prefix_of_plain hplain, and_comm]

/-- A text that a pattern of `LIKE` matches: nothing stands for `%`, and an `x` for `_`. -/
def likeInstance : List Char → List Char
  | [] => []
  | '%' :: pattern => likeInstance pattern
  | '_' :: pattern => 'x' :: likeInstance pattern
  | '\\' :: c :: pattern => c :: likeInstance pattern
  | c :: pattern => c :: likeInstance pattern

theorem like_likeInstance (pattern : List Char) : like pattern (likeInstance pattern) = true := by
  fun_induction likeInstance pattern with
  | case1 => simp
  | case2 pattern ih =>
    rw [like_percent, List.any_eq_true]
    exact ⟨_, (List.mem_tails _ _).mpr (List.suffix_refl _), ih⟩
  | case3 pattern ih => rwa [like]
  | case4 c pattern ih => simp [like, ih]
  | case5 c pattern hpercent hunderscore hbackslash ih =>
    rw [like.eq_5 _ _ _ _ hpercent hunderscore hbackslash]
    simp [ih]

theorem likeInstance_cons_of_plain {c : Char} (hc : IsPlain c) (pattern : List Char) :
    likeInstance (c :: pattern) = c :: likeInstance pattern := by
  obtain ⟨hpercent, hunderscore, hbackslash⟩ := hc
  rw [likeInstance.eq_5 _ _ hpercent hunderscore fun _ _ h _ => hbackslash h]

/-- The `%` after a keyword stands for nothing, or for itself after a backslash. -/
theorem likeInstance_length (keyword : List Char) :
    (likeInstance (keyword ++ ['%'])).length ≤ keyword.length := by
  fun_induction likeInstance keyword with
  | case1 => simp [likeInstance]
  | case2 keyword ih =>
    simp only [List.cons_append, likeInstance, List.length_cons]
    omega
  | case3 keyword ih => simpa [likeInstance] using ih
  | case4 c keyword ih =>
    simp only [List.cons_append, likeInstance, List.length_cons]
    omega
  | case5 c keyword hpercent hunderscore hescape ih =>
    by_cases hbackslash : c = '\\'
    · -- The backslash is the last character.
      rcases keyword with _ | ⟨d, keyword⟩
      · simp [hbackslash, likeInstance]
      · exact (hescape d keyword hbackslash rfl).elim
    · rw [List.cons_append, likeInstance_cons_of_plain ⟨hpercent, hunderscore, hbackslash⟩]
      simpa using ih

/-- Only a keyword of plain characters is its own instance between two `%`. -/
theorem plain_of_likeInstance_eq {keyword : List Char}
    (h : likeInstance (keyword ++ ['%']) = keyword) : ∀ c ∈ keyword, IsPlain c := by
  fun_induction likeInstance keyword with
  | case1 => simp
  | case2 keyword ih =>
    -- The instance is shorter.
    have hlength := likeInstance_length keyword
    simp only [List.cons_append, likeInstance] at h
    rw [h, List.length_cons] at hlength
    omega
  | case3 keyword ih => simp [likeInstance] at h
  | case4 c keyword ih =>
    have hlength := likeInstance_length keyword
    simp only [List.cons_append, likeInstance] at h
    have hsame := congrArg List.length h
    simp only [List.length_cons] at hsame
    omega
  | case5 c keyword hpercent hunderscore hescape ih =>
    by_cases hbackslash : c = '\\'
    · rcases keyword with _ | ⟨d, keyword⟩
      · simp [hbackslash, likeInstance] at h
      · exact (hescape d keyword hbackslash rfl).elim
    · have hplain : IsPlain c := ⟨hpercent, hunderscore, hbackslash⟩
      rw [List.cons_append, likeInstance_cons_of_plain hplain] at h
      intro d hd
      rcases List.mem_cons.mp hd with rfl | hd
      · exact hplain
      · exact ih (List.cons.inj h).2 d hd

/-- A keyword with a character that has a meaning of its own, between two `%`, matches a text that
it is not in. -/
theorem exists_like_not_infix {keyword : List Char} (h : ¬ ∀ c ∈ keyword, IsPlain c) :
    ∃ text, like ('%' :: (keyword ++ ['%'])) text = true ∧ ¬ keyword <:+: text := by
  refine ⟨likeInstance ('%' :: (keyword ++ ['%'])), like_likeInstance _, fun hpart => h ?_⟩
  rw [show likeInstance ('%' :: (keyword ++ ['%'])) = likeInstance (keyword ++ ['%']) by
    rw [likeInstance]] at hpart
  exact plain_of_likeInstance_eq (hpart.eq_of_length_le (likeInstance_length keyword)).symm

end MyChat
