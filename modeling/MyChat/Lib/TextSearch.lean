import Mathlib.Data.List.Infix
import Mathlib.Tactic.ByContra

/-!
# Searching in a text

`find` is the search for the first place of a pattern, `std::string::find`. A text of parts with a
separator between them has the part `k` at `offset parts k`, and the part ends there at a separator
or at the end of the text (`drop_offset`).
-/

namespace MyChat.TextSearch

variable {α : Type} [DecidableEq α]

/-- The first position at which the pattern stands in the text. -/
def find (pattern : List α) : List α → Option ℕ
  | [] => if pattern = [] then some 0 else none
  | c :: text =>
    if pattern.isPrefixOf (c :: text) then some 0 else (find pattern text).map (· + 1)

/-- The pattern stands at the position found, and at no earlier one. -/
theorem find_eq_some_iff {pattern : List α} : ∀ {text : List α} {i : ℕ},
    find pattern text = some i ↔
      i ≤ text.length ∧ pattern <+: text.drop i ∧ ∀ j < i, ¬ pattern <+: text.drop j
  | [], i => by
    simp only [find, List.drop_nil, List.prefix_nil, List.length_nil, Nat.le_zero]
    split_ifs with h
    · constructor
      · rintro hi
        obtain rfl : 0 = i := Option.some.inj hi
        exact ⟨rfl, h, by simp⟩
      · rintro ⟨rfl, -, -⟩
        rfl
    · exact ⟨fun hi => absurd hi (by simp), fun hi => absurd hi.2.1 h⟩
  | c :: text, i => by
    by_cases hzero : pattern <+: c :: text
    · rw [find, if_pos (List.isPrefixOf_iff_prefix.mpr hzero)]
      constructor
      · rintro hi
        obtain rfl : 0 = i := Option.some.inj hi
        exact ⟨Nat.zero_le _, hzero, by simp⟩
      · rintro ⟨-, -, hfirst⟩
        cases i with
        | zero => rfl
        | succ i => exact absurd hzero (hfirst 0 (Nat.succ_pos i))
    · rw [find, if_neg fun h => hzero (List.isPrefixOf_iff_prefix.mp h)]
      cases i with
      | zero =>
        constructor
        · intro h
          obtain ⟨j, -, hj⟩ := Option.map_eq_some_iff.mp h
          exact absurd hj (by simp)
        · exact fun h => absurd h.2.1 hzero
      | succ i =>
        have ih : find pattern text = some i ↔
            i ≤ text.length ∧ pattern <+: text.drop i ∧ ∀ j < i, ¬ pattern <+: text.drop j :=
          find_eq_some_iff
        rw [Option.map_eq_some_iff]
        constructor
        · rintro ⟨j, hj, hji⟩
          obtain rfl : j = i := by omega
          obtain ⟨hle, hat, hfirst⟩ := ih.mp hj
          refine ⟨Nat.succ_le_succ hle, hat, fun k hk => ?_⟩
          cases k with
          | zero => exact hzero
          | succ k => exact hfirst k (Nat.lt_of_succ_lt_succ hk)
        · rintro ⟨hle, hat, hfirst⟩
          exact ⟨i, ih.mpr ⟨Nat.le_of_succ_le_succ hle, hat, fun k hk =>
            hfirst (k + 1) (Nat.succ_lt_succ hk)⟩, rfl⟩

/-- A pattern that stands somewhere is found there or before. -/
theorem exists_find {pattern text : List α} {i : ℕ} (hi : i ≤ text.length)
    (h : pattern <+: text.drop i) : ∃ j ≤ i, find pattern text = some j := by
  induction i using Nat.strong_induction_on with
  | h i ih =>
    by_cases hfirst : ∀ j < i, ¬ pattern <+: text.drop j
    · exact ⟨i, Nat.le_refl i, find_eq_some_iff.mpr ⟨hi, h, hfirst⟩⟩
    · push Not at hfirst
      obtain ⟨j, hj, hat⟩ := hfirst
      obtain ⟨k, hk, hfind⟩ := ih j hj (by omega) hat
      exact ⟨k, by omega, hfind⟩

/-! ## Parts with separators -/

omit [DecidableEq α]

/-- Where the part `k` starts in a text of parts with a separator between them. -/
def offset : List (List α) → ℕ → ℕ
  | part :: parts, k + 1 => part.length + 1 + offset parts k
  | _, _ => 0

theorem offset_lt {parts : List (List α)} {j k : ℕ} (h : j < k) (hk : k ≤ parts.length) :
    offset parts j < offset parts k := by
  induction parts generalizing j k with
  | nil => simp only [List.length_nil] at hk; omega
  | cons part parts ih =>
    obtain ⟨k, rfl⟩ : ∃ m, k = m + 1 := ⟨k - 1, by omega⟩
    cases j with
    | zero =>
      rw [offset, offset]
      · omega
      · simp
    | succ j =>
      have hlt := ih (Nat.lt_of_succ_lt_succ h) (by simpa using hk)
      rw [offset, offset]
      omega

/-- At its place stands the part, and after it a separator or nothing. -/
theorem drop_offset (sep : α) {parts : List (List α)} {k : ℕ} (hk : k < parts.length) :
    ∃ tail, ([sep].intercalate parts).drop (offset parts k) = parts[k] ++ tail ∧
      (tail = [] ∨ ∃ rest, tail = sep :: rest) := by
  induction parts generalizing k with
  | nil => exact absurd hk (by simp)
  | cons part parts ih =>
    cases parts with
    | nil =>
      obtain rfl : k = 0 := by simpa using hk
      exact ⟨[], by simp [offset], .inl rfl⟩
    | cons part' parts =>
      rw [List.intercalate_cons_cons]
      cases k with
      | zero => exact ⟨_, by simp [offset], .inr ⟨[sep].intercalate (part' :: parts), rfl⟩⟩
      | succ k =>
        obtain ⟨tail, hdrop, htail⟩ := ih (k := k) (by simpa using hk)
        refine ⟨tail, ?_, htail⟩
        have hoff : offset (part :: part' :: parts) (k + 1) =
            (part ++ [sep]).length + offset (part' :: parts) k := by
          rw [offset, List.length_append, List.length_singleton]
        rw [hoff, List.drop_append, List.drop_of_length_le (by omega), List.nil_append,
          Nat.add_sub_cancel_left, hdrop]
        rfl

/-- A part starts inside the text or at its end. -/
theorem offset_le (sep : α) {parts : List (List α)} {k : ℕ} (hk : k < parts.length) :
    offset parts k ≤ ([sep].intercalate parts).length := by
  induction parts generalizing k with
  | nil => exact absurd hk (by simp)
  | cons part parts ih =>
    cases k with
    | zero => simp [offset]
    | succ k =>
      cases parts with
      | nil => exact absurd hk (by simp)
      | cons part' parts =>
        have hle := ih (k := k) (by simpa using hk)
        rw [List.intercalate_cons_cons, List.length_append, List.length_append]
        rw [offset, List.length_singleton]
        omega

end MyChat.TextSearch
