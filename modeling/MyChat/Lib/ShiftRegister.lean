import Mathlib.Data.BitVec
import Mathlib.Data.List.Basic

/-!
# Reflected linear feedback shift registers

A reflected register of width `w` takes one bit at a time at its low end: the low bit of the
register and the new bit are added, the register moves down one place, and the feedback polynomial
`p` is added when the sum is one. `feed` runs it over a list of bits. The register is linear in the
pair of its contents and its input (`feed_xor`), and when the top bit of `p` is set a step can be
run backwards, since the top bit of the new contents says whether `p` was added. Run backwards over
at most `w` bits, a register that ends at zero was the word of those bits (`feed_eq_zero_iff`).

`eq_false_of_feed_burst` is the guarantee that cyclic redundancy checks rest on: an error pattern
whose set bits all lie in a window of `w` places does not take the register from zero to zero.
-/

namespace MyChat.ShiftRegister

variable {w : ℕ}

/-- One step of the register with feedback `p`: the low bit of `r` and the input bit decide whether
`p` is added to `r` moved down one place. -/
def feedBit (p r : BitVec w) (b : Bool) : BitVec w :=
  if (r.getLsbD 0 ^^ b) = true then (r >>> 1) ^^^ p else r >>> 1

/-- The register after a list of input bits. -/
def feed (p r : BitVec w) (bs : List Bool) : BitVec w := bs.foldl (feedBit p) r

@[simp] theorem feed_nil (p r : BitVec w) : feed p r [] = r := rfl

@[simp] theorem feed_cons (p r : BitVec w) (b : Bool) (bs : List Bool) :
    feed p r (b :: bs) = feed p (feedBit p r b) bs := rfl

/-- Feeding two lists one after the other. -/
theorem feed_append (p r : BitVec w) (as bs : List Bool) :
    feed p r (as ++ bs) = feed p (feed p r as) bs := List.foldl_append ..

/-! ## Linearity -/

/-- One step is linear in the contents and the input bit. -/
theorem feedBit_xor (p r s : BitVec w) (a b : Bool) :
    feedBit p (r ^^^ s) (a ^^ b) = feedBit p r a ^^^ feedBit p s b := by
  have hlow : ((r ^^^ s).getLsbD 0 ^^ (a ^^ b)) = ((r.getLsbD 0 ^^ a) ^^ (s.getLsbD 0 ^^ b)) := by
    rw [BitVec.getLsbD_xor]
    cases r.getLsbD 0 <;> cases s.getLsbD 0 <;> cases a <;> cases b <;> rfl
  have hpp : ∀ x y : BitVec w, (x ^^^ p) ^^^ (y ^^^ p) = x ^^^ y := fun x y => by
    rw [BitVec.xor_comm y p, BitVec.xor_assoc, ← BitVec.xor_assoc p p y, BitVec.xor_self,
      BitVec.zero_xor]
  unfold feedBit
  rw [hlow, BitVec.ushiftRight_xor_distrib]
  cases hr : (r.getLsbD 0 ^^ a) <;> cases hs : (s.getLsbD 0 ^^ b)
  · simp
  · simp [BitVec.xor_assoc]
  · simp [BitVec.xor_assoc, BitVec.xor_comm p]
  · simp [hpp]

/-- The register is linear in its contents and its input. -/
theorem feed_xor (p : BitVec w) : ∀ (as bs : List Bool) (r s : BitVec w), as.length = bs.length →
    feed p (r ^^^ s) (List.zipWith (· ^^ ·) as bs) = feed p r as ^^^ feed p s bs
  | [], [], _, _, _ => rfl
  | a :: as, b :: bs, r, s, h => by
    simp only [List.zipWith_cons_cons, feed_cons, feedBit_xor]
    exact feed_xor p as bs _ _ (by simpa using h)

/-- Feeding zeros to an empty register leaves it empty. -/
theorem feed_zero_zeros (p : BitVec w) (n : ℕ) :
    feed p 0#w (List.replicate n false) = 0#w := by
  induction n with
  | zero => rfl
  | succ n ih =>
    have hstep : feedBit p 0#w false = 0#w := by simp [feedBit]
    rw [List.replicate_succ, feed_cons, hstep, ih]

/-! ## Several bits at once -/

/-- The `n` low bits of a register, lowest first. -/
def lowBits (r : BitVec w) (n : ℕ) : List Bool := (List.range n).map r.getLsbD

@[simp] theorem lowBits_length (r : BitVec w) (n : ℕ) : (lowBits r n).length = n := by
  simp [lowBits]

/-- A register that is fed its own low bits only moves down. -/
theorem feed_lowBits (p r : BitVec w) (n : ℕ) : feed p r (lowBits r n) = r >>> n := by
  induction n generalizing r with
  | zero => simp [lowBits]
  | succ n ih =>
    have hlow : lowBits r (n + 1) = r.getLsbD 0 :: lowBits (r >>> 1) n := by
      simp only [lowBits, List.range_succ_eq_map, List.map_cons, List.map_map]
      congr 1
      refine List.map_congr_left fun i _ => ?_
      simp [BitVec.getLsbD_ushiftRight, Nat.add_comm]
    have hstep : feedBit p r (r.getLsbD 0) = r >>> 1 := by simp [feedBit]
    rw [hlow, feed_cons, hstep, ih, ← BitVec.shiftRight_add, Nat.add_comm]

/-- Adding a list of bits twice gives the other list back. -/
theorem zipWith_xor_cancel : ∀ (as bs : List Bool), as.length = bs.length →
    List.zipWith (· ^^ ·) as (List.zipWith (· ^^ ·) as bs) = bs
  | [], [], _ => rfl
  | a :: as, b :: bs, h => by
    simp [zipWith_xor_cancel as bs (by simpa using h)]

/-- A whole chunk of input: the register moves down by the chunk's length, and what the chunk adds
is that of the empty register fed the sum of the chunk and the low bits it meets. -/
theorem feed_chunk (p r : BitVec w) (bs : List Bool) :
    feed p r bs =
      (r >>> bs.length) ^^^ feed p 0#w (List.zipWith (· ^^ ·) (lowBits r bs.length) bs) := by
  have hlen : (lowBits r bs.length).length = bs.length := lowBits_length _ _
  conv_lhs => rw [← BitVec.xor_zero (x := r), ← zipWith_xor_cancel _ bs hlen]
  rw [feed_xor p _ _ _ _ (by simp), feed_lowBits]

theorem zipWith_xor_zeros (as : List Bool) :
    List.zipWith (· ^^ ·) as (List.replicate as.length false) = as := by
  induction as with
  | nil => rfl
  | cons a as ih =>
    rw [List.length_cons, List.replicate_succ, List.zipWith_cons_cons, ih, Bool.xor_false]

/-- A register that is fed zeros moves down, and its low bits are fed to the empty register. -/
theorem feed_zeros (p r : BitVec w) (n : ℕ) :
    feed p r (List.replicate n false) = (r >>> n) ^^^ feed p 0#w (lowBits r n) := by
  have hzeros := zipWith_xor_zeros (lowBits r n)
  rw [lowBits_length] at hzeros
  rw [feed_chunk, List.length_replicate, hzeros]

/-! ## Running backwards -/

/-- When the top bit of `p` is set, a step that leaves the top bit clear did not add `p`: the low
bit of the old contents was the input bit, and the rest moved down. -/
theorem feedBit_top_clear {p r : BitVec w} {b : Bool} (hp : p.getLsbD (w - 1) = true)
    (h : (feedBit p r b).getLsbD (w - 1) = false) :
    r.getLsbD 0 = b ∧ feedBit p r b = r >>> 1 := by
  have htop : (r >>> 1).getLsbD (w - 1) = false := by
    rw [BitVec.getLsbD_ushiftRight]
    exact BitVec.getLsbD_of_ge r _ (by omega)
  unfold feedBit at h ⊢
  by_cases hb : (r.getLsbD 0 ^^ b) = true
  · rw [if_pos hb, BitVec.getLsbD_xor, htop, hp] at h
    simp at h
  · rw [if_neg hb]
    refine ⟨?_, rfl⟩
    cases hr : r.getLsbD 0 <;> cases b <;> simp_all

/-- Over at most `w` bits the register ends at zero exactly when it started as the word of those
bits. -/
theorem feed_eq_zero_iff {p : BitVec w} (hp : p.getLsbD (w - 1) = true) :
    ∀ (bs : List Bool) (r : BitVec w), bs.length ≤ w →
      (feed p r bs = 0#w ↔ ∀ i, r.getLsbD i = bs.getD i false)
  | [], r, _ => by
    rw [feed_nil]
    constructor
    · rintro rfl i
      simp
    · intro h
      exact BitVec.eq_of_getLsbD_eq fun i _ => by simpa using h i
  | b :: bs, r, hlen => by
    have hlen' : bs.length + 1 ≤ w := hlen
    rw [feed_cons, feed_eq_zero_iff hp bs _ (by omega)]
    constructor
    · intro h
      -- The remaining bits do not reach the top place, so `p` was not added in this step.
      have htop : (feedBit p r b).getLsbD (w - 1) = false := by
        rw [h (w - 1), List.getD_eq_getElem?_getD, List.getElem?_eq_none (by omega)]
        rfl
      obtain ⟨hlow, hshift⟩ := feedBit_top_clear hp htop
      intro i
      cases i with
      | zero => simpa using hlow
      | succ i =>
        have hi := h i
        rw [hshift, BitVec.getLsbD_ushiftRight, Nat.add_comm] at hi
        simpa using hi
    · intro h i
      have hlow : r.getLsbD 0 = b := by simpa using h 0
      have hi := h (i + 1)
      rw [List.getD_cons_succ] at hi
      rw [← hi, feedBit, if_neg (by simp [hlow]), BitVec.getLsbD_ushiftRight, Nat.add_comm]

/-- Feeding zeros is injective: a register that they take to zero was empty. -/
theorem eq_zero_of_feed_zeros {p : BitVec w} (hp : p.getLsbD (w - 1) = true) (hw : 0 < w) (n : ℕ)
    {r : BitVec w} (h : feed p r (List.replicate n false) = 0#w) : r = 0#w := by
  induction n generalizing r with
  | zero => exact h
  | succ n ih =>
    have hstep : feed p r [false] = 0#w := by
      rw [List.replicate_succ, feed_cons] at h
      exact ih h
    rw [feed_eq_zero_iff hp [false] _ (Nat.succ_le_of_lt hw)] at hstep
    refine BitVec.eq_of_getLsbD_eq fun i _ => ?_
    rw [hstep i]
    cases i <;> simp

/-! ## Bursts -/

/-- The set bits of `e` all lie in the `w` places from `k` on. -/
def InWindow (w k : ℕ) (e : List Bool) : Prop :=
  ∀ i, e[i]? = some true → k ≤ i ∧ i < k + w

/-- A list with no set bit is a list of zeros. -/
theorem eq_replicate_of_forall {e : List Bool} (h : ∀ i : ℕ, e[i]? ≠ some true) :
    e = List.replicate e.length false := by
  refine List.eq_replicate_iff.mpr ⟨rfl, fun b hb => ?_⟩
  obtain ⟨i, hi⟩ := List.mem_iff_getElem?.mp hb
  cases b with
  | false => rfl
  | true => exact absurd hi (h i)

/-- An error pattern inside a window of `w` places that takes the empty register to zero has no
set bit. -/
theorem eq_false_of_feed_burst {p : BitVec w} (hp : p.getLsbD (w - 1) = true) (hw : 0 < w)
    {k : ℕ} {e : List Bool} (hwin : InWindow w k e) (h : feed p 0#w e = 0#w) :
    ∀ b ∈ e, b = false := by
  -- The places before the window, the window, and the places after it.
  have hsplit : e = e.take k ++ ((e.drop k).take w ++ (e.drop k).drop w) := by
    rw [List.take_append_drop, List.take_append_drop]
  have hpre : e.take k = List.replicate (e.take k).length false := by
    refine eq_replicate_of_forall fun i hi => ?_
    rw [List.getElem?_take] at hi
    split_ifs at hi with hik
    have := hwin i hi
    omega
  have hpost : (e.drop k).drop w = List.replicate ((e.drop k).drop w).length false := by
    refine eq_replicate_of_forall fun i hi => ?_
    rw [List.getElem?_drop, List.getElem?_drop] at hi
    have := hwin _ hi
    omega
  rw [hsplit, feed_append, feed_append, hpre, feed_zero_zeros, hpost] at h
  have hmid := eq_zero_of_feed_zeros hp hw _ h
  rw [feed_eq_zero_iff hp _ _ (by rw [List.length_take]; omega)] at hmid
  intro b hb
  rw [hsplit, List.mem_append, List.mem_append, hpre, hpost] at hb
  rcases hb with hb | hb | hb
  · exact (List.mem_replicate.mp hb).2
  · obtain ⟨i, hi⟩ := List.mem_iff_getElem?.mp hb
    have := hmid i
    rw [List.getD_eq_getElem?_getD, hi] at this
    simpa using this.symm
  · exact (List.mem_replicate.mp hb).2

end MyChat.ShiftRegister
