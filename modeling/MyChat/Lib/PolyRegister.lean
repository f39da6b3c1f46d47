import MyChat.Lib.ShiftRegister
import Mathlib.Algebra.CharP.Two
import Mathlib.Algebra.Field.ZMod
import Mathlib.Algebra.Polynomial.Div
import Mathlib.Tactic.LinearCombination

/-!
# Shift registers divide polynomials

The contents of a reflected register of width `w` are a polynomial over the field of two elements of
degree below `w`: the bit at place `i` is the coefficient of `X^(w - 1 - i)` (`toPoly`). A step of
the register multiplies it by `X`, adds `X^w` times the input bit, and subtracts the polynomial
`X^w + toPoly p` when that brings the degree below `w` again. So a run over bits `bs` computes the
remainder of division by that polynomial (`toPoly_feed`), where the first bit fed is the highest
coefficient of the dividend (`bitsPoly`).
-/

namespace MyChat.ShiftRegister

open Polynomial

variable {w : ℕ}

/-- A bit as an element of the field of two elements. -/
def coef (b : Bool) : ZMod 2 := if b then 1 else 0

@[simp] theorem coef_false : coef false = 0 := rfl

@[simp] theorem coef_true : coef true = 1 := rfl

@[simp] theorem coef_xor (a b : Bool) : coef (a ^^ b) = coef a + coef b := by
  cases a <;> cases b <;> decide

/-- The polynomial of a register, the lowest bit its highest coefficient. -/
noncomputable def toPoly (r : BitVec w) : (ZMod 2)[X] :=
  ∑ i ∈ Finset.range w, C (coef (r.getLsbD i)) * X ^ (w - 1 - i)

/-- The polynomial of a list of bits, the first bit its highest coefficient. -/
noncomputable def bitsPoly : List Bool → (ZMod 2)[X]
  | [] => 0
  | b :: bs => C (coef b) * X ^ bs.length + bitsPoly bs

/-- The polynomial that a register with feedback `p` divides by. -/
noncomputable def modulus (p : BitVec w) : (ZMod 2)[X] := X ^ w + toPoly p

/-- Adding registers adds their polynomials. -/
theorem toPoly_xor (r s : BitVec w) : toPoly (r ^^^ s) = toPoly r + toPoly s := by
  simp only [toPoly, BitVec.getLsbD_xor, coef_xor, C_add, add_mul, Finset.sum_add_distrib]

theorem degree_toPoly_lt (r : BitVec w) : (toPoly r).degree < w := by
  rw [degree_lt_iff_coeff_zero]
  intro m hm
  simp only [toPoly, finsetSum_coeff, coeff_C_mul_X_pow]
  refine Finset.sum_eq_zero fun i hi => if_neg ?_
  have := Finset.mem_range.mp hi
  omega

theorem monic_modulus (p : BitVec w) : (modulus p).Monic := monic_X_pow_add (degree_toPoly_lt p)

theorem degree_modulus (p : BitVec w) : (modulus p).degree = w := by
  rw [modulus, add_comm, degree_add_eq_right_of_degree_lt] <;> rw [degree_X_pow]
  exact degree_toPoly_lt p

/-- Moving a register down multiplies by `X`; the bit that leaves it is what reaches degree `w`. -/
theorem X_mul_toPoly (r : BitVec w) :
    X * toPoly r = toPoly (r >>> 1) + C (coef (r.getLsbD 0)) * X ^ w := by
  cases w with
  | zero => simp [toPoly, BitVec.of_length_zero]
  | succ n =>
    have hhigh : (r >>> 1).getLsbD n = false := by
      rw [BitVec.getLsbD_ushiftRight]
      exact BitVec.getLsbD_of_ge r _ (by omega)
    have hrest : ∀ i ∈ Finset.range n,
        X * (C (coef (r.getLsbD (i + 1))) * X ^ (n + 1 - 1 - (i + 1))) =
          C (coef ((r >>> 1).getLsbD i)) * (X : (ZMod 2)[X]) ^ (n + 1 - 1 - i) := by
      intro i hi
      have hlt := Finset.mem_range.mp hi
      rw [BitVec.getLsbD_ushiftRight, Nat.add_comm 1 i,
        show n + 1 - 1 - i = (n + 1 - 1 - (i + 1)) + 1 by omega, pow_succ]
      ring
    rw [toPoly, toPoly, Finset.mul_sum, Finset.sum_range_succ', Finset.sum_congr rfl hrest,
      Finset.sum_range_succ, hhigh]
    simp only [coef_false, C_0, zero_mul, add_zero, Nat.add_sub_cancel, Nat.sub_zero, pow_succ]
    ring

/-- One step: the dividend so far times `X` plus the new bit, less the divisor when the register's
low bit and the new bit add to one. -/
theorem toPoly_feedBit (p r : BitVec w) (b : Bool) :
    X * toPoly r + C (coef b) * X ^ w =
      toPoly (feedBit p r b) + C (coef (r.getLsbD 0 ^^ b)) * modulus p := by
  have htwo : toPoly p + toPoly p = 0 := CharTwo.add_self_eq_zero _
  rw [X_mul_toPoly, feedBit, coef_xor, C_add, modulus]
  by_cases hc : (r.getLsbD 0 ^^ b) = true
  · have hsum : C (coef (r.getLsbD 0)) + C (coef b) = (1 : (ZMod 2)[X]) := by
      rw [← C_add, ← coef_xor, hc, coef_true, C_1]
    rw [if_pos hc, toPoly_xor, hsum]
    linear_combination X ^ w * hsum - htwo
  · have hsum : C (coef (r.getLsbD 0)) + C (coef b) = (0 : (ZMod 2)[X]) := by
      rw [← C_add, ← coef_xor, Bool.eq_false_iff.mpr hc, coef_false, C_0]
    rw [if_neg hc, hsum]
    linear_combination X ^ w * hsum

/-- A run: the register's polynomial moved up by the number of bits, plus the bits moved up by the
width, is the new polynomial plus a multiple of the divisor. -/
theorem exists_toPoly_feed (p : BitVec w) (bs : List Bool) (r : BitVec w) :
    ∃ q, toPoly (feed p r bs) + modulus p * q =
      X ^ bs.length * toPoly r + X ^ w * bitsPoly bs := by
  induction bs generalizing r with
  | nil => exact ⟨0, by simp [bitsPoly]⟩
  | cons b bs ih =>
    obtain ⟨q, hq⟩ := ih (feedBit p r b)
    have hstep := toPoly_feedBit p r b
    refine ⟨q + X ^ bs.length * C (coef (r.getLsbD 0 ^^ b)), ?_⟩
    rw [feed_cons, bitsPoly, List.length_cons, pow_succ]
    linear_combination hq - X ^ bs.length * hstep

/-- The register after `bs` is the remainder of division by the feedback polynomial: of its old
contents followed by the bits, or, what is the same, of the bits followed by `w` zeros with the old
contents added to the first `w` of them. -/
theorem toPoly_feed (p r : BitVec w) (bs : List Bool) :
    toPoly (feed p r bs) = (X ^ bs.length * toPoly r + X ^ w * bitsPoly bs) %ₘ modulus p := by
  obtain ⟨q, hq⟩ := exists_toPoly_feed p bs r
  have hdeg : (toPoly (feed p r bs)).degree < (modulus p).degree := by
    rw [degree_modulus]
    exact degree_toPoly_lt _
  exact (div_modByMonic_unique q _ (monic_modulus p) ⟨hq, hdeg⟩).2.symm

/-- A word added to a register counts as input: it is the same to feed its low bits and to add it
first and then feed zeros. -/
theorem feed_preload (p r s : BitVec w) (n : ℕ) (hs : s >>> n = 0#w) :
    feed p r (lowBits s n) = feed p (r ^^^ s) (List.replicate n false) := by
  have hself : ∀ bs : List Bool,
      List.zipWith (· ^^ ·) bs bs = List.replicate bs.length false := fun bs => by
    simp [List.zipWith_self]
  have hsum := feed_xor p (lowBits s n) (lowBits s n) r s rfl
  rw [hself, lowBits_length, feed_lowBits, hs, BitVec.xor_zero] at hsum
  exact hsum.symm

end MyChat.ShiftRegister
