import Mathlib.Data.Nat.Basic
import Mathlib.Tactic.Ring
import Mathlib.Tactic.Linarith

/-!
# Base-128 varints

A varint writes a number in base 128, least significant digit first, with the top bit of every byte
but the last set. `put k n` writes `n` in at most `k + 1` bytes and `get k` reads a number of at
most `k + 1` bytes back, with the number of bytes it took. `get_put` is the round trip, at any
bound of the reader that is not below the writer's and with any bytes after the number.
-/

namespace MyChat.Varint

/-- The varint of `n`, in at most `k + 1` bytes. -/
def put : ℕ → ℕ → List UInt8
  | 0, n => [UInt8.ofNat n]
  | k + 1, n =>
    if n < 128 then [UInt8.ofNat n] else UInt8.ofNat (n % 128 + 128) :: put k (n / 128)

/-- The number that a varint of at most `k + 1` bytes at the head of the list encodes, and the
number of bytes it takes; `none` when the list ends inside it or it is longer. -/
def get : ℕ → List UInt8 → Option (ℕ × ℕ)
  | _, [] => none
  | 0, b :: _ => if b.toNat < 128 then some (b.toNat, 1) else none
  | k + 1, b :: bs =>
    if b.toNat < 128 then some (b.toNat, 1)
    else (get k bs).map fun (v, n) => (b.toNat % 128 + 128 * v, n + 1)

/-- The varint of a 32-bit number, which takes at most five bytes. -/
def put32 (n : ℕ) : List UInt8 := put 4 n

/-- A number below 128 is its own varint. -/
theorem put_of_lt {k n : ℕ} (h : n < 128) : put k n = [UInt8.ofNat n] := by
  cases k with
  | zero => rfl
  | succ k => rw [put, if_pos h]

/-- A varint has at least one byte and at most its bound. -/
theorem put_length (k n : ℕ) : 1 ≤ (put k n).length ∧ (put k n).length ≤ k + 1 := by
  induction k generalizing n with
  | zero => simp [put]
  | succ k ih =>
    rw [put]
    split_ifs
    · simp
    · have := ih (n / 128)
      simp only [List.length_cons]
      omega

/-- What `get` takes from the list is at least one byte and lies inside the list. -/
theorem get_length {k : ℕ} {bs : List UInt8} {v n : ℕ} (h : get k bs = some (v, n)) :
    1 ≤ n ∧ n ≤ bs.length := by
  -- Each step takes one byte, or fails.
  induction k generalizing bs v n with
  | zero =>
    cases bs with
    | nil => simp [get] at h
    | cons b bs =>
      rw [get] at h
      split_ifs at h
      simp only [Option.some.injEq, Prod.mk.injEq] at h
      simp [← h.2]
  | succ k ih =>
    cases bs with
    | nil => simp [get] at h
    | cons b bs =>
      rw [get] at h
      split_ifs at h
      · simp only [Option.some.injEq, Prod.mk.injEq] at h
        simp [← h.2]
      · obtain ⟨⟨v', n'⟩, hget, heq⟩ := Option.map_eq_some_iff.mp h
        simp only [Prod.mk.injEq] at heq
        have := ih hget
        rw [← heq.2, List.length_cons]
        omega

/-- What `get` takes from the list is at most its bound. -/
theorem get_le {k : ℕ} {bs : List UInt8} {v n : ℕ} (h : get k bs = some (v, n)) : n ≤ k + 1 := by
  induction k generalizing bs v n with
  | zero =>
    rcases bs with _ | ⟨b, bs⟩
    · simp [get] at h
    · rw [get] at h
      split_ifs at h
      obtain ⟨-, rfl⟩ := Prod.mk.inj (Option.some.inj h)
      omega
  | succ k ih =>
    rcases bs with _ | ⟨b, bs⟩
    · simp [get] at h
    · rw [get] at h
      split_ifs at h
      · obtain ⟨-, rfl⟩ := Prod.mk.inj (Option.some.inj h)
        omega
      · obtain ⟨⟨v', n'⟩, hget, heq⟩ := Option.map_eq_some_iff.mp h
        obtain ⟨-, rfl⟩ := Prod.mk.inj heq
        have := ih hget
        omega

/-- A longer bound, and more or fewer bytes after the number, do not change what is read. -/
theorem get_of_take_eq {j k : ℕ} {bs bs' : List UInt8} {v n : ℕ} (hjk : j ≤ k)
    (h : get j bs = some (v, n)) (htake : bs'.take n = bs.take n) : get k bs' = some (v, n) := by
  induction j generalizing k bs bs' v n with
  | zero =>
    rcases bs with _ | ⟨b, bs⟩
    · simp [get] at h
    · rw [get] at h
      split_ifs at h with hlt
      obtain ⟨rfl, rfl⟩ := Prod.mk.inj (Option.some.inj h)
      rcases bs' with _ | ⟨b', bs'⟩
      · simp at htake
      · obtain rfl : b' = b := by simpa using htake
        cases k <;> rw [get, if_pos hlt]
  | succ j ih =>
    obtain ⟨k, rfl⟩ : ∃ k', k = k' + 1 := ⟨k - 1, by omega⟩
    rcases bs with _ | ⟨b, bs⟩
    · simp [get] at h
    · rw [get] at h
      split_ifs at h with hlt
      · obtain ⟨rfl, rfl⟩ := Prod.mk.inj (Option.some.inj h)
        rcases bs' with _ | ⟨b', bs'⟩
        · simp at htake
        · obtain rfl : b' = b := by simpa using htake
          rw [get, if_pos hlt]
      · obtain ⟨⟨v', n'⟩, hget, heq⟩ := Option.map_eq_some_iff.mp h
        obtain ⟨rfl, rfl⟩ := Prod.mk.inj heq
        rcases bs' with _ | ⟨b', bs'⟩
        · simp at htake
        · rw [List.take_succ_cons, List.take_succ_cons, List.cons.injEq] at htake
          obtain ⟨rfl, htail⟩ := htake
          rw [get, if_neg hlt, ih (Nat.le_of_succ_le_succ hjk) hget htail, Option.map_some]

/-- Reading what was written, whatever follows it. -/
theorem get_put (j k n : ℕ) (rest : List UInt8) (hjk : j ≤ k) (hn : n < 128 ^ (j + 1)) :
    get k (put j n ++ rest) = some (n, (put j n).length) := by
  -- On the number of digits.
  induction j generalizing k n with
  | zero =>
    have hlt : n < 128 := by simpa using hn
    have hb : (UInt8.ofNat n).toNat = n := by rw [UInt8.toNat_ofNat']; omega
    cases k <;> simp [put, get, hb, hlt]
  | succ j ih =>
    obtain ⟨k, rfl⟩ : ∃ k', k = k' + 1 := ⟨k - 1, by omega⟩
    by_cases hlt : n < 128
    · have hb : (UInt8.ofNat n).toNat = n := by rw [UInt8.toNat_ofNat']; omega
      simp [put, get, hb, hlt]
    · have hb : (UInt8.ofNat (n % 128 + 128)).toNat = n % 128 + 128 := by
        rw [UInt8.toNat_ofNat']; omega
      have hdiv : n / 128 < 128 ^ (j + 1) := by
        rw [Nat.div_lt_iff_lt_mul (by norm_num), ← pow_succ]
        exact hn
      have hrec := ih k (n / 128) (by omega) hdiv
      rw [put, if_neg hlt, List.cons_append, get, hb, if_neg (by omega), hrec]
      simp only [Option.map_some, List.length_cons, Option.some.injEq, Prod.mk.injEq, and_true]
      omega

/-- The bound of the writer does not matter to a number that is below both. -/
theorem put_eq_put {j k n : ℕ} (hjk : j ≤ k) (hn : n < 128 ^ (j + 1)) : put j n = put k n := by
  induction j generalizing k n with
  | zero => rw [put_of_lt (by simpa using hn), put_of_lt (by simpa using hn)]
  | succ j ih =>
    obtain ⟨k, rfl⟩ : ∃ k', k = k' + 1 := ⟨k - 1, by omega⟩
    by_cases hlt : n < 128
    · rw [put_of_lt hlt, put_of_lt hlt]
    · have hdiv : n / 128 < 128 ^ (j + 1) := by
        rw [Nat.div_lt_iff_lt_mul (by norm_num), ← pow_succ]
        exact hn
      rw [put, if_neg hlt, put, if_neg hlt, ih (Nat.le_of_succ_le_succ hjk) hdiv]

/-- The round trip of a 32-bit number, for a reader of up to ten bytes. -/
theorem get_put32 (n : ℕ) (rest : List UInt8) (hn : n < 2 ^ 32) :
    get 9 (put32 n ++ rest) = some (n, (put32 n).length) :=
  get_put 4 9 n rest (by omega) (lt_trans hn (by norm_num))

/-- Two numbers with the same varint at the head of a list are the same, with the same rest. -/
theorem put_append_inj {j n m : ℕ} {rest rest' : List UInt8} (hn : n < 128 ^ (j + 1))
    (hm : m < 128 ^ (j + 1)) (h : put j n ++ rest = put j m ++ rest') : n = m ∧ rest = rest' := by
  have hget := get_put j j n rest le_rfl hn
  rw [h, get_put j j m rest' le_rfl hm] at hget
  have hnm : n = m := by
    simp only [Option.some.injEq, Prod.mk.injEq] at hget
    exact hget.1.symm
  rw [hnm] at h
  exact ⟨hnm, List.append_cancel_left h⟩

end MyChat.Varint
