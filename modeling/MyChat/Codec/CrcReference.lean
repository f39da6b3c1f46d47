import MyChat.Codec.Crc32
import MyChat.Lib.PolyRegister

/-!
# The checksum against its definition

The CRC-32 that other implementations compute is defined without a table: each byte is added to the
low end of the register, which is then moved down eight times, the polynomial `0xEDB88320` added
whenever the bit that left was set (`referenceCrc32`). The literal table of
`common/network/protobuf_codec.cpp` computes this definition, and the register after the data is
the remainder of division by the generator polynomial of degree 32 (`generator`): of the bits of the
data, each byte lowest bit first, behind which 32 zeros stand and to whose first 32 places ones are
added. A table with one digit changed would fail `crc32Table_toList` already.
-/

namespace MyChat.Codec

open ShiftRegister Polynomial

/-! ## The definition bit by bit -/

/-- One bit of the reflected CRC-32: the register moves down, and the polynomial is added when the
bit that leaves is set. -/
def referenceBit (crc : UInt32) : UInt32 :=
  if crc &&& 1 ≠ 0 then (crc >>> 1) ^^^ 0xEDB88320 else crc >>> 1

/-- `n` bits. -/
def referenceBits : ℕ → UInt32 → UInt32
  | 0, crc => crc
  | n + 1, crc => referenceBits n (referenceBit crc)

/-- One byte: it is added to the low end of the register, and eight bits leave. -/
def referenceByte (crc : UInt32) (byte : UInt8) : UInt32 :=
  referenceBits 8 (crc ^^^ byte.toUInt32)

/-- The reflected CRC-32 with initial value and final sum `0xFFFFFFFF`. -/
def referenceCrc32 (data : Bytes) : UInt32 := data.foldl referenceByte 0xFFFFFFFF ^^^ 0xFFFFFFFF

/-- The loop of `calculateCRC32` from a register in the middle of the data. -/
def updateCRC32 (crc : UInt32) (data : Bytes) : UInt32 := data.foldl crcByte crc

theorem calculateCRC32_eq_update (data : Bytes) :
    calculateCRC32 data = updateCRC32 0xffffffff data ^^^ 0xffffffff := rfl

/-- Processing two strings is processing the second from the register that the first leaves. -/
theorem updateCRC32_append (crc : UInt32) (x y : Bytes) :
    updateCRC32 crc (x ++ y) = updateCRC32 (updateCRC32 crc x) y := List.foldl_append ..

/-! ## The table -/

/-- One bit of the definition is one step of the register fed a zero. -/
theorem referenceBit_toBitVec (crc : UInt32) :
    (referenceBit crc).toBitVec = feedBit poly crc.toBitVec false := by
  have hlow : (crc &&& 1 ≠ 0) ↔ (crc.toBitVec.getLsbD 0 ^^ false) = true := by
    rw [Bool.xor_false, ne_eq, ← UInt32.toBitVec_inj]
    constructor
    · intro h
      by_contra hbit
      refine h (BitVec.eq_of_getLsbD_eq fun i _ => ?_)
      cases i with
      | zero => simpa using hbit
      | succ i => simp [BitVec.getLsbD_one]
    · intro h hzero
      have hset : crc.toBitVec[0] = true := by simpa using h
      have hclear : crc.toBitVec[0] = false := by
        simpa using congrArg (fun r : BitVec 32 => r.getLsbD 0) hzero
      rw [hset] at hclear
      exact absurd hclear (by decide)
  unfold referenceBit feedBit
  by_cases h : crc &&& 1 ≠ 0
  · rw [if_pos h, if_pos (hlow.mp h)]
    rfl
  · rw [if_neg h, if_neg fun hc => h (hlow.mpr hc)]
    rfl

/-- Several bits are as many steps fed zeros. -/
theorem referenceBits_toBitVec (n : ℕ) (crc : UInt32) :
    (referenceBits n crc).toBitVec = feed poly crc.toBitVec (List.replicate n false) := by
  induction n generalizing crc with
  | zero => rfl
  | succ n ih =>
    rw [referenceBits, ih, referenceBit_toBitVec, List.replicate_succ, feed_cons]

/-- One look at the table is one byte of the definition. -/
theorem crcByte_eq_referenceByte (crc : UInt32) (byte : UInt8) :
    crcByte crc byte = referenceByte crc byte := by
  have hhigh : byte.toUInt32.toBitVec >>> 8 = 0#32 := by
    refine BitVec.eq_of_getLsbD_eq fun i _ => ?_
    simp [BitVec.getLsbD_ushiftRight]
  have hbits : lowBits byte.toUInt32.toBitVec 8 = byteBits byte := by
    refine List.map_congr_left fun i hi => ?_
    have hi8 : i < 8 := List.mem_range.mp hi
    simp [show i < 32 by omega]
  apply UInt32.toBitVec_inj.mp
  rw [crcByte_toBitVec, referenceByte, referenceBits_toBitVec, UInt32.toBitVec_xor, ← hbits,
    feed_preload _ _ _ _ hhigh]

/-- The loop over the table is the loop of the definition. -/
theorem calculateCRC32_eq_reference (data : Bytes) :
    calculateCRC32 data = referenceCrc32 data := by
  have hbyte : crcByte = referenceByte := by
    funext crc byte
    exact crcByte_eq_referenceByte crc byte
  rw [calculateCRC32, referenceCrc32, hbyte]

/-! ## The generator -/

/-- The generator of CRC-32. -/
noncomputable def generator : (ZMod 2)[X] :=
  X ^ 32 + X ^ 26 + X ^ 23 + X ^ 22 + X ^ 16 + X ^ 12 + X ^ 11 + X ^ 10 + X ^ 8 + X ^ 7 + X ^ 5 +
    X ^ 4 + X ^ 2 + X + 1

/-- The feedback word is the generator without its leading term, reflected. -/
theorem modulus_poly : modulus poly = generator := by
  simp only [modulus, toPoly, poly, generator, Finset.sum_range_succ, Finset.sum_range_zero]
  simp [coef]
  ring

/-- The register after the data, from any contents: the remainder of what it held, followed by the
bits of the data. -/
theorem toPoly_updateCRC32 (crc : UInt32) (data : Bytes) :
    toPoly (updateCRC32 crc data).toBitVec =
      (X ^ (8 * data.length) * toPoly crc.toBitVec + X ^ 32 * bitsPoly (bitsOf data)) %ₘ
        generator := by
  rw [updateCRC32, foldl_crcByte_toBitVec, toPoly_feed, bitsOf_length, modulus_poly]

/-- The checksum is the reflected CRC-32, bit by bit and as the complement of a remainder, and it
can be computed in parts. -/
theorem calculateCRC32_reference (data : Bytes) :
    calculateCRC32 data = referenceCrc32 data ∧
      toPoly (calculateCRC32 data ^^^ 0xFFFFFFFF).toBitVec =
        (X ^ (8 * data.length) * toPoly (BitVec.allOnes 32) + X ^ 32 * bitsPoly (bitsOf data)) %ₘ
          generator ∧
      ∀ x y, data = x ++ y →
        calculateCRC32 data =
          updateCRC32 (updateCRC32 0xFFFFFFFF x) y ^^^ 0xFFFFFFFF := by
  refine ⟨calculateCRC32_eq_reference data, ?_, ?_⟩
  · have hcancel : calculateCRC32 data ^^^ 0xFFFFFFFF = updateCRC32 0xFFFFFFFF data := by
      rw [calculateCRC32_eq_update, UInt32.xor_assoc, UInt32.xor_self, UInt32.xor_zero]
    rw [hcancel, toPoly_updateCRC32]
    rfl
  · rintro x y rfl
    rw [calculateCRC32_eq_update, updateCRC32_append]

/-- The check value that catalogues of these codes list, the checksum of the digits one to nine. -/
example : referenceCrc32 (utf8 "123456789") = 0xCBF43926 := by decide +kernel

end MyChat.Codec
