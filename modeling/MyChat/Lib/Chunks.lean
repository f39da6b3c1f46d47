import Mathlib.Data.List.Range
import Mathlib.Tactic.Common

/-!
# Loops in chunks

A loop over the positions below `n`, one after another (`range`), and the same loop in chunks of a
fixed size, whose outer loop advances by the size (`loop`). The outer loop ends when its counter is
past the last position, which a size of zero never brings about, so that it is given a number of
rounds that it may take.

`loop_eq` says that a positive size makes no difference, and `loop_zero` that with size zero the
loop does not end unless there is nothing to do.
-/

namespace MyChat.Chunks

variable {β : Type} (f : ℕ → β → β) (size n : ℕ)

/-- The loop over the positions from `i` to below `stop`. -/
def range (i stop : ℕ) (b : β) : β := (List.range' i (stop - i)).foldl (fun b j => f j b) b

/-- The loop in chunks from position `i`; `none` when it has not ended after so many rounds. -/
def loop : (fuel i : ℕ) → β → Option β
  | 0, _, _ => none
  | fuel + 1, i, b =>
    if i < n then loop fuel (i + size) (range f i (min (i + size) n) b) else some b

theorem range_of_le {i stop : ℕ} (h : stop ≤ i) (b : β) : range f i stop b = b := by
  rw [range, Nat.sub_eq_zero_of_le h]
  rfl

/-- The first position. -/
theorem range_succ {i stop : ℕ} (h : i < stop) (b : β) :
    range f i stop b = range f (i + 1) stop (f i b) := by
  have hcount : stop - i = (stop - (i + 1)) + 1 := by omega
  rw [range, hcount, List.range'_succ, List.foldl_cons]
  rfl

/-- A loop up to some position and one from there. -/
theorem range_append {i mid stop : ℕ} (hi : i ≤ mid) (hmid : mid ≤ stop) (b : β) :
    range f mid stop (range f i mid b) = range f i stop b := by
  have hcount : stop - i = (mid - i) + (stop - mid) := by omega
  have hmid : i + (mid - i) = mid := by omega
  rw [range, range, range, hcount, ← List.range'_append_1, List.foldl_append, hmid]

/-- What every position keeps the loop keeps. -/
theorem range_inv {I : ℕ → β → Prop} (hstep : ∀ j b, j < n → I j b → I (j + 1) (f j b)) {b : β}
    (h0 : I 0 b) : I n (range f 0 n b) := by
  have hupto : ∀ j ≤ n, I j (range f 0 j b) := by
    intro j
    induction j with
    | zero => exact fun _ => h0
    | succ j ih =>
      intro hj
      have hlast : range f j (j + 1) (range f 0 j b) = f j (range f 0 j b) := by
        rw [range_succ f (Nat.lt_succ_self j), range_of_le f (Nat.le_refl _)]
      rw [← range_append f (Nat.zero_le j) (Nat.le_succ j), hlast]
      exact hstep j _ hj (ih (Nat.le_of_succ_le hj))
  exact hupto n (Nat.le_refl n)

variable {f size n}

/-- A loop in chunks of a positive size ends, and has done what the loop does. -/
theorem loop_eq (hsize : 0 < size) {fuel i : ℕ} (hfuel : n - i < fuel) (b : β) :
    loop f size n fuel i b = some (range f i n b) := by
  induction fuel generalizing i b with
  | zero => omega
  | succ fuel ih =>
    unfold loop
    split_ifs with hi
    · rw [ih (by omega)]
      by_cases hlast : i + size ≤ n
      · rw [Nat.min_eq_left hlast, range_append f (Nat.le_add_right i size) hlast]
      · -- The last chunk ends with the positions.
        rw [Nat.min_eq_right (by omega), range_of_le f (by omega) (range f i n b)]
    · rw [range_of_le f (by omega)]

/-- A loop in chunks of size zero goes on at the position where it is. -/
theorem loop_zero {i : ℕ} (hi : i < n) (fuel : ℕ) (b : β) : loop f 0 n fuel i b = none := by
  induction fuel generalizing b with
  | zero => rfl
  | succ fuel ih =>
    unfold loop
    rw [if_pos hi]
    exact ih _

/-- A loop over no position ends at once. -/
theorem loop_of_le {i fuel : ℕ} (hi : n ≤ i) (b : β) : loop f size n (fuel + 1) i b = some b := by
  unfold loop
  rw [if_neg (by omega)]

end MyChat.Chunks
