import Mathlib.Data.BitVec

/-!
# The bitwise operators of JavaScript numbers

JavaScript computes `&`, `|`, `^`, and `<<` on the 32-bit words of its operands and gives the signed
reading of the result; `>>>` gives the unsigned reading. Numbers are integers here, which is what
the operators see of a number within the exact range, and `bits` is the word that they take of one.
Each operator is the one of `BitVec` on words (`bits_or` and the like), and on numbers that are not
negative and fit in 31 bits, resp. 32 bits, it is the operator of `ℕ`.

`nearest` is the number that stands for an integer beyond the exact range; within the range it is
the integer (`nearest_of_lt`).
-/

namespace MyChat.Js

/-- The 32-bit word of a number, as `ToInt32` and `ToUint32` take it. -/
def bits (x : ℤ) : BitVec 32 := BitVec.ofInt 32 x

/-- `a & b`. -/
def and (a b : ℤ) : ℤ := (bits a &&& bits b).toInt

/-- `a | b`. -/
def or (a b : ℤ) : ℤ := (bits a ||| bits b).toInt

/-- `a ^ b`. -/
def xor (a b : ℤ) : ℤ := (bits a ^^^ bits b).toInt

/-- `a << n`. -/
def shl (a : ℤ) (n : ℕ) : ℤ := (bits a <<< (n % 32)).toInt

/-- `a >>> n`. -/
def shrU (a : ℤ) (n : ℕ) : ℤ := ((bits a >>> (n % 32)).toNat : ℤ)

/-! ## On words -/

@[simp] theorem bits_toInt (v : BitVec 32) : bits v.toInt = v := BitVec.ofInt_toInt

@[simp] theorem bits_natCast (n : ℕ) : bits n = BitVec.ofNat 32 n := BitVec.ofInt_natCast ..

theorem bits_toNat (v : BitVec 32) : bits (v.toNat : ℤ) = v := by simp

@[simp] theorem bits_or (a b : ℤ) : bits (or a b) = bits a ||| bits b := bits_toInt _

@[simp] theorem bits_xor (a b : ℤ) : bits (xor a b) = bits a ^^^ bits b := bits_toInt _

@[simp] theorem bits_shl (a : ℤ) (n : ℕ) : bits (shl a n) = bits a <<< (n % 32) := bits_toInt _

@[simp] theorem bits_shrU (a : ℤ) (n : ℕ) : bits (shrU a n) = bits a >>> (n % 32) := bits_toNat _

/-- `x >>> 0` is the unsigned reading of the word of `x`. -/
theorem shrU_zero (a : ℤ) : shrU a 0 = ((bits a).toNat : ℤ) := by
  simp [shrU]

/-! ## On small numbers -/

/-- A mask below `2^31` gives the bitwise and of the word with it. -/
theorem and_mask (a : ℤ) {m : ℕ} (hm : m < 2 ^ 31) :
    and a m = (((bits a).toNat &&& m : ℕ) : ℤ) := by
  have hle : (bits a).toNat &&& m ≤ m := Nat.and_le_right
  have hnat : (bits a &&& bits m).toNat = (bits a).toNat &&& m := by
    rw [bits_natCast, BitVec.toNat_and, BitVec.toNat_ofNat, Nat.mod_eq_of_lt (by omega)]
  rw [and, BitVec.toInt_eq_toNat_of_lt (by omega), hnat]

/-- The bitwise and of a 32-bit number with a mask below `2^31`. -/
theorem and_natCast {a m : ℕ} (hm : m < 2 ^ 31) (ha : a < 2 ^ 32) :
    and a m = ((a &&& m : ℕ) : ℤ) := by
  rw [and_mask _ hm, bits_natCast, BitVec.toNat_ofNat, Nat.mod_eq_of_lt ha]

/-- The bitwise or of two numbers below `2^31`. -/
theorem or_natCast {a b : ℕ} (ha : a < 2 ^ 31) (hb : b < 2 ^ 31) :
    or a b = ((a ||| b : ℕ) : ℤ) := by
  have hlt : a ||| b < 2 ^ 31 := Nat.or_lt_two_pow ha hb
  have hnat : (bits a ||| bits b).toNat = a ||| b := by
    rw [bits_natCast, bits_natCast, BitVec.toNat_or, BitVec.toNat_ofNat, BitVec.toNat_ofNat,
      Nat.mod_eq_of_lt (by omega), Nat.mod_eq_of_lt (by omega)]
  rw [or, BitVec.toInt_eq_toNat_of_lt (by omega), hnat]

/-- `>>>` divides a 32-bit number. -/
theorem shrU_natCast {a n : ℕ} (ha : a < 2 ^ 32) (hn : n < 32) :
    shrU a n = ((a / 2 ^ n : ℕ) : ℤ) := by
  rw [shrU, bits_natCast, Nat.mod_eq_of_lt hn, BitVec.toNat_ushiftRight, BitVec.toNat_ofNat,
    Nat.mod_eq_of_lt ha, Nat.shiftRight_eq_div_pow]

/-! ## Rounding -/

/-- The number nearest to `n`, which has 53 significant bits; the even one of two that are equally
near. -/
def nearest (n : ℕ) : ℕ :=
  let unit := 2 ^ (n.log2 - 52)
  let below := n / unit
  let rest := n % unit
  if 2 * rest < unit ∨ 2 * rest = unit ∧ below % 2 = 0 then below * unit else (below + 1) * unit

/-- An integer of 53 bits is a number. -/
theorem nearest_of_lt {n : ℕ} (h : n < 2 ^ 53) : nearest n = n := by
  have hlog : n.log2 - 52 = 0 := by
    rcases Nat.eq_zero_or_pos n with rfl | hpos
    · rfl
    · have hlt := (Nat.log2_lt hpos.ne').mpr h
      omega
  simp only [nearest, hlog, pow_zero, Nat.div_one, Nat.mod_one, mul_zero, Nat.zero_lt_one, true_or,
    if_true, mul_one]

/-- The first integer that is no number is rounded to the even neighbour. -/
example : nearest (2 ^ 53 + 1) = 2 ^ 53 ∧ nearest (2 ^ 53 + 3) = 2 ^ 53 + 4 := by decide

end MyChat.Js
