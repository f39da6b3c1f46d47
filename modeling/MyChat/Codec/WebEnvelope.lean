import MyChat.Codec.Crc32
import MyChat.Lib.JsNumber
import MyChat.Lib.Varint

/-!
# The web client's frame codec

`encodeEnvelope` and `decodeEnvelopeFrame` of `clients/web/src/api/protobufEnvelope.ts`, with the
varint and CRC functions they call. The client computes with JavaScript numbers, whose bitwise
operators give signed results; the theorems say that the signs never show: `writeVarint32` writes
the standard varint (`writeVarint32_eq`), `readVarint32` reads it back (`readVarint32_put32`), and
`verifyAndStripCrc` accepts exactly what the server's check accepts (`verifyAndStripCrc_eq`).

`splitEnvelopeFrame` is `decodeEnvelopeFrame` up to the three sections, which it then hands to the
parsers of the header and of the payload. The browser's `TextDecoder` turns the type name into a
string; it is a parameter, and `TextDecoder.Spec` is what its standard says of well-formed UTF-8.
-/

namespace MyChat.Web

open Codec ShiftRegister

/-- `new TextDecoder()`. -/
structure TextDecoder where
  /-- `decode`, which replaces what is not UTF-8 and does not fail. -/
  decode : Bytes → String

/-- A string without the byte order mark at its start, if it has one. -/
def dropByteOrderMark (s : String) : String :=
  match s.toList with
  | '\uFEFF' :: cs => String.ofList cs
  | _ => s

/-- What the encoding standard says of `TextDecoder` with its default options, on UTF-8: it decodes
the bytes, less a byte order mark at their start. -/
def TextDecoder.Spec (td : TextDecoder) : Prop := ∀ s, td.decode (utf8 s) = dropByteOrderMark s

/-- A decoder that meets the standard on UTF-8 and replaces anything else. -/
def TextDecoder.replacing : TextDecoder where
  decode bytes :=
    match String.fromUTF8? ⟨bytes.toArray⟩ with
    | some s => dropByteOrderMark s
    | none => "\uFFFD"

theorem TextDecoder.replacing_spec : TextDecoder.replacing.Spec := by
  intro s
  have hvalid : String.fromUTF8? ⟨(utf8 s).toArray⟩ = some s := by
    simp [utf8, String.fromUTF8?, s.isValidUTF8, String.fromUTF8]
  simp [TextDecoder.replacing, hvalid]

/-- The errors that the frame functions throw. -/
inductive FrameError where
  /-- "Frame too small". -/
  | frameTooSmall
  /-- "CRC mismatch: received=… calculated=…". -/
  | crcMismatch (received calculated : ℤ)
  /-- "Invalid varint32". -/
  | invalidVarint32
  /-- "Unexpected end of varint32". -/
  | unexpectedEnd
  deriving DecidableEq, Repr

/-- The number that an element of a `Uint8Array` is. -/
def ofByte (b : UInt8) : ℤ := b.toNat

/-- What a `Uint8Array` keeps of a number that is stored in it. -/
def toByte (x : ℤ) : UInt8 := UInt8.ofInt x

/-- `bytes.slice(start, stop)`. -/
def slice (bytes : Bytes) (start stop : ℕ) : Bytes := (bytes.take stop).drop start

/-! ## Varints -/

/-- The number after the shift of a turn of `writeVarint32` is smaller. -/
theorem shrU_seven_lt {x : ℤ} (hx : x > 127) : (Js.shrU x 7).toNat < x.toNat := by
  have hle : (Js.bits x).toNat ≤ x.toNat := by
    rw [Js.bits, BitVec.toNat_ofInt]
    omega
  rw [Js.shrU, Int.toNat_natCast, BitVec.toNat_ushiftRight, Nat.shiftRight_eq_div_pow,
    show 7 % 32 = 7 from rfl]
  omega

/-- The loop of `writeVarint32` from `current` on, and the push after it. -/
def writeVarint32Loop (current : ℤ) : List ℤ :=
  if current > 127 then
    Js.or (Js.and current 0x7f) 0x80 :: writeVarint32Loop (Js.shrU current 7)
  else [current]
termination_by current.toNat
decreasing_by exact shrU_seven_lt ‹_›

/-- `writeVarint32`. -/
def writeVarint32 (value : ℤ) : Bytes := (writeVarint32Loop (Js.shrU value 0)).map toByte

/-- The loop of `readVarint32`: the value and the offset after it. -/
def readVarint32Loop (bytes : Bytes) (result : ℤ) (shift offset : ℕ) :
    Except FrameError (ℕ × ℕ) :=
  if h : offset < bytes.length then
    let byte := ofByte bytes[offset]
    let result := Js.or result (Js.shl (Js.and byte 0x7f) shift)
    if Js.and byte 0x80 = 0 then .ok ((Js.shrU result 0).toNat, offset + 1)
    else if shift + 7 > 28 then .error .invalidVarint32
    else readVarint32Loop bytes result (shift + 7) (offset + 1)
  else .error .unexpectedEnd
termination_by bytes.length - offset

/-- `readVarint32`. -/
def readVarint32 (bytes : Bytes) (startOffset : ℕ) : Except FrameError (ℕ × ℕ) :=
  readVarint32Loop bytes 0 0 startOffset

/-! ## The checksum -/

/-- One of the eight turns that compute an entry of `crcTable`. -/
def crcTableTurn (crc : ℤ) : ℤ :=
  if Js.and crc 1 ≠ 0 then Js.xor 0xedb88320 (Js.shrU crc 1) else Js.shrU crc 1

/-- `crcTable[i]`, as the module's top-level loop fills it in. -/
def crcTable (i : ℤ) : ℤ := Js.shrU (crcTableTurn^[8] i) 0

/-- One turn of the loop of `crc32`. -/
def crcStep (crc : ℤ) (byte : UInt8) : ℤ :=
  Js.xor (crcTable (Js.and (Js.xor crc (ofByte byte)) 0xff)) (Js.shrU crc 8)

/-- `crc32`. -/
def crc32 (bytes : Bytes) : ℤ :=
  Js.shrU (Js.xor (bytes.foldl crcStep 0xffffffff) 0xffffffff) 0

/-- The trailer of a frame as a number, from its four bytes. -/
def receivedCrc : Bytes → ℤ
  | [a, b, c, d] =>
    Js.or (Js.or (Js.or (ofByte a) (Js.shl (ofByte b) 8)) (Js.shl (ofByte c) 16))
      (Js.shl (ofByte d) 24)
  | _ => 0

/-- `verifyAndStripCrc`. -/
def verifyAndStripCrc (bytes : Bytes) : Except FrameError Bytes :=
  if bytes.length < 4 then .error .frameTooSmall
  else
    let body := slice bytes 0 (bytes.length - 4)
    let received := receivedCrc (bytes.drop (bytes.length - 4))
    let calculated := Js.or (crc32 body) 0
    if received ≠ calculated then
      .error (.crcMismatch (Js.shrU received 0) (Js.shrU calculated 0))
    else .ok body

/-! ## Frames -/

/-- `encodeEnvelope`. -/
def encodeEnvelope (headerBytes : Bytes) (typeName : String) (messageBytes : Bytes) : Bytes :=
  let typeBytes := utf8 typeName
  let headerSize := writeVarint32 headerBytes.length
  let typeSize := writeVarint32 typeBytes.length
  let body := headerSize ++ (typeSize ++ (typeBytes ++ (headerBytes ++ messageBytes)))
  let crc := crc32 body
  body ++ [toByte (Js.and crc 0xff), toByte (Js.and (Js.shrU crc 8) 0xff),
    toByte (Js.and (Js.shrU crc 16) 0xff), toByte (Js.and (Js.shrU crc 24) 0xff)]

/-- The sections of a frame: the type name, the header's bytes, and the message's. -/
structure FrameSections where
  /-- `typeName`. -/
  typeName : String
  /-- `headerBytes`. -/
  headerBytes : Bytes
  /-- `messageBytes`. -/
  messageBytes : Bytes
  deriving DecidableEq, Repr

/-- `decodeEnvelopeFrame` up to the calls of the parsers. -/
def splitEnvelopeFrame (td : TextDecoder) (frame : Bytes) : Except FrameError FrameSections := do
  let withoutCrc ← verifyAndStripCrc frame
  let (headerSize, offset) ← readVarint32 withoutCrc 0
  let (typeNameSize, offset) ← readVarint32 withoutCrc offset
  let typeName := td.decode (slice withoutCrc offset (offset + typeNameSize))
  let offset := offset + typeNameSize
  let headerBytes := slice withoutCrc offset (offset + headerSize)
  let offset := offset + headerSize
  let messageBytes := slice withoutCrc offset withoutCrc.length
  return ⟨typeName, headerBytes, messageBytes⟩

/-! ## What the varint functions compute -/

@[simp] theorem toByte_natCast (n : ℕ) : toByte n = UInt8.ofNat n := by
  apply UInt8.toNat_inj.mp
  rw [toByte, UInt8.ofInt, UInt8.toNat_ofNat', UInt8.toNat_ofNat']
  omega

/-- The loop of `writeVarint32` writes the varint of a number with at most `k + 1` digits. -/
theorem writeVarint32Loop_eq (k : ℕ) {n : ℕ} (hk : n < 128 ^ (k + 1)) (hn : n < 2 ^ 32) :
    (writeVarint32Loop n).map toByte = Varint.put k n := by
  -- On `k`, with one digit of seven bits for each turn.
  induction k generalizing n with
  | zero =>
    rw [writeVarint32Loop, if_neg (by omega), Varint.put_of_lt (by omega)]
    simp
  | succ k ih =>
    rw [writeVarint32Loop]
    by_cases hlt : n < 128
    · rw [if_neg (by omega), Varint.put_of_lt hlt]
      simp
    · have hdiv : n / 128 < 128 ^ (k + 1) := by
        rw [Nat.div_lt_iff_lt_mul (by norm_num), ← pow_succ]
        exact hk
      have hmod : Js.and (n : ℤ) 0x7f = ((n % 128 : ℕ) : ℤ) := by
        have h := Js.and_natCast (a := n) (m := 0x7f) (by norm_num) hn
        rwa [Nat.and_two_pow_sub_one_eq_mod n 7] at h
      -- The low digit is below `0x80`, so that `|` adds.
      have hor : Js.or ((n % 128 : ℕ) : ℤ) 0x80 = ((n % 128 + 128 : ℕ) : ℤ) := by
        have h := Js.or_natCast (a := n % 128) (b := 0x80) (by omega) (by norm_num)
        have hadd := Nat.two_pow_add_eq_or_of_lt (i := 7) (b := n % 128) (by omega) 1
        rw [Nat.or_comm, ← hadd] at h
        push_cast at h ⊢
        omega
      have hshr : Js.shrU (n : ℤ) 7 = ((n / 128 : ℕ) : ℤ) := Js.shrU_natCast hn (by norm_num)
      rw [if_pos (by omega), Varint.put, if_neg hlt, List.map_cons, hmod, hor, hshr,
        ih hdiv (by omega), toByte_natCast]

/-- `writeVarint32` writes the standard varint of its argument as a 32-bit number. -/
theorem writeVarint32_eq (n : ℕ) : writeVarint32 n = Varint.put32 (n % 2 ^ 32) := by
  have hlt : n % 2 ^ 32 < 2 ^ 32 := Nat.mod_lt _ (by norm_num)
  unfold writeVarint32
  rw [Js.shrU_zero, Js.bits_natCast, BitVec.toNat_ofNat]
  exact writeVarint32Loop_eq 4 (lt_trans hlt (by norm_num)) hlt

/-- The low seven bits of a byte. -/
theorem and_low_seven (b : UInt8) : Js.and (ofByte b) 0x7f = ((b.toNat % 128 : ℕ) : ℤ) := by
  have hb := b.toNat_lt
  have h := Js.and_natCast (a := b.toNat) (m := 0x7f) (by norm_num) (by omega)
  rwa [Nat.and_two_pow_sub_one_eq_mod _ 7] at h

/-- The top bit of a byte is clear when the byte is below 128. -/
theorem and_top_bit (b : UInt8) : Js.and (ofByte b) 0x80 = 0 ↔ b.toNat < 128 := by
  have hb : b.toNat < 256 := b.toNat_lt
  have hall : ∀ n < 256, (n &&& 0x80 = 0 ↔ n < 128) := by decide +kernel
  have h := Js.and_natCast (a := b.toNat) (m := 0x80) (by norm_num) (by omega)
  rw [← hall _ hb, ofByte, show (0x80 : ℤ) = ((0x80 : ℕ) : ℤ) from rfl, h, Int.natCast_eq_zero]

/-- A turn of `readVarint32` adds seven bits above those read before. -/
theorem bits_or_shl {result : ℤ} {r m shift : ℕ} (hbits : Js.bits result = BitVec.ofNat 32 r)
    (hr : r < 2 ^ shift) (hshift : shift < 32) :
    Js.bits (Js.or result (Js.shl m shift)) = BitVec.ofNat 32 (r + m * 2 ^ shift) := by
  have hshl : BitVec.ofNat 32 m <<< shift = BitVec.ofNat 32 (m * 2 ^ shift) := by
    apply BitVec.eq_of_toNat_eq
    rw [BitVec.toNat_shiftLeft, BitVec.toNat_ofNat, BitVec.toNat_ofNat, Nat.shiftLeft_eq,
      Nat.mod_mul_mod]
  have hadd := Nat.shiftLeft_add_eq_or_of_lt hr m
  rw [Nat.shiftLeft_eq] at hadd
  rw [Js.bits_or, Js.bits_shl, hbits, Js.bits_natCast, Nat.mod_eq_of_lt hshift, hshl,
    BitVec.or_comm, ← BitVec.ofNat_or, ← hadd, Nat.add_comm]

/-- One turn of the loop of `readVarint32`, at the byte `b`. -/
theorem readVarint32Loop_cons {bytes tail : Bytes} {b : UInt8} {offset : ℕ} (result : ℤ)
    (shift : ℕ) (hbytes : bytes.drop offset = b :: tail) :
    readVarint32Loop bytes result shift offset =
      let result' := Js.or result (Js.shl ((b.toNat % 128 : ℕ) : ℤ) shift)
      if b.toNat < 128 then .ok ((Js.shrU result' 0).toNat, offset + 1)
      else if shift + 7 > 28 then .error .invalidVarint32
      else readVarint32Loop bytes result' (shift + 7) (offset + 1) := by
  have hlt : offset < bytes.length := by
    have hlen := congrArg List.length hbytes
    rw [List.length_drop, List.length_cons] at hlen
    omega
  have hget : bytes[offset] = b := by
    rw [List.drop_eq_getElem_cons hlt] at hbytes
    exact (List.cons.inj hbytes).1
  rw [readVarint32Loop, dif_pos hlt, hget]
  simp only [and_low_seven, and_top_bit]

/-- The last turn of `readVarint32`: the byte that ends the varint. -/
theorem readVarint32Loop_last {bytes rest : Bytes} {result : ℤ} {r n shift offset : ℕ}
    (hbits : Js.bits result = BitVec.ofNat 32 r) (hr : r < 2 ^ shift) (hshift : shift < 32)
    (hn : r + n * 2 ^ shift < 2 ^ 32) (hlt : n < 128)
    (hbytes : bytes.drop offset = UInt8.ofNat n :: rest) :
    readVarint32Loop bytes result shift offset = .ok (r + n * 2 ^ shift, offset + 1) := by
  have hb : (UInt8.ofNat n).toNat = n := by rw [UInt8.toNat_ofNat']; omega
  rw [readVarint32Loop_cons _ _ hbytes]
  simp only [hb, if_pos hlt, Nat.mod_eq_of_lt hlt]
  rw [Js.shrU_zero, bits_or_shl hbits hr hshift, BitVec.toNat_ofNat, Nat.mod_eq_of_lt hn,
    Int.toNat_natCast]

/-- `readVarint32` from the middle of a varint: `r` is what was read so far and `n` what the bytes
that follow still add. -/
theorem readVarint32Loop_put (j : ℕ) {bytes rest : Bytes} {result : ℤ} {r n shift offset : ℕ}
    (hj : shift + 7 * j = 28) (hbits : Js.bits result = BitVec.ofNat 32 r) (hr : r < 2 ^ shift)
    (hn : r + n * 2 ^ shift < 2 ^ 32) (hbytes : bytes.drop offset = Varint.put j n ++ rest) :
    readVarint32Loop bytes result shift offset =
      .ok (r + n * 2 ^ shift, offset + (Varint.put j n).length) := by
  -- On the digits that are still to come; `shift` grows by seven with each.
  induction j generalizing result r n shift offset with
  | zero =>
    -- Five bytes hold 35 bits, of which the fifth byte's top three are not there.
    obtain rfl : shift = 28 := by omega
    exact readVarint32Loop_last hbits hr (by omega) hn (by omega) hbytes
  | succ j ih =>
    by_cases hlt : n < 128
    · rw [Varint.put_of_lt hlt] at hbytes ⊢
      exact readVarint32Loop_last hbits hr (by omega) hn hlt hbytes
    · rw [Varint.put, if_neg hlt, List.cons_append] at hbytes
      have hb : (UInt8.ofNat (n % 128 + 128)).toNat = n % 128 + 128 := by
        rw [UInt8.toNat_ofNat']; omega
      have hmod : (n % 128 + 128) % 128 = n % 128 := by omega
      have hpow : 2 ^ (shift + 7) = 128 * 2 ^ shift := by rw [pow_add]; ring
      -- The digits split into the one that this turn reads and the rest.
      have hsplit : r + n % 128 * 2 ^ shift + n / 128 * 2 ^ (shift + 7) = r + n * 2 ^ shift := by
        conv_rhs => rw [← Nat.div_add_mod n 128]
        rw [hpow]
        ring
      have hr' : r + n % 128 * 2 ^ shift < 2 ^ (shift + 7) := by
        have hdigit : n % 128 ≤ 127 := by omega
        have := Nat.mul_le_mul_right (2 ^ shift) hdigit
        rw [hpow]
        omega
      have htail : bytes.drop (offset + 1) = Varint.put j (n / 128) ++ rest := by
        rw [← List.drop_drop, hbytes, List.drop_one, List.tail_cons]
      have hrec := ih (by omega) (bits_or_shl hbits hr (by omega)) hr' (by rw [hsplit]; exact hn)
        htail
      rw [readVarint32Loop_cons _ _ hbytes]
      simp only [hb, hmod]
      rw [if_neg (by omega), if_neg (by omega), hrec, hsplit, Varint.put, if_neg hlt,
        List.length_cons, Nat.add_right_comm, Nat.add_assoc]

/-- `readVarint32` reads a varint that was written. -/
theorem readVarint32_put32 {bytes rest : Bytes} {n offset : ℕ} (hn : n < 2 ^ 32)
    (hbytes : bytes.drop offset = Varint.put32 n ++ rest) :
    readVarint32 bytes offset = .ok (n, offset + (Varint.put32 n).length) := by
  have hzero : Js.bits 0 = BitVec.ofNat 32 0 := rfl
  have h := readVarint32Loop_put 4 (show 0 + 7 * 4 = 28 by norm_num) hzero (by norm_num) (by omega)
    hbytes
  rwa [Nat.zero_add, pow_zero, Nat.mul_one] at h

/-! ## What the checksum functions compute -/

/-- A turn is a step of the register that is fed no bit. -/
theorem bits_crcTableTurn (crc : ℤ) :
    Js.bits (crcTableTurn crc) = feedBit poly (Js.bits crc) false := by
  have hlow : Js.and crc 1 ≠ 0 ↔ (Js.bits crc).getLsbD 0 = true := by
    have hmask := Js.and_mask crc (show 1 < 2 ^ 31 by norm_num)
    rw [Nat.and_one_is_mod] at hmask
    rw [show (1 : ℤ) = ((1 : ℕ) : ℤ) from rfl, hmask, BitVec.getLsbD, Nat.testBit_zero,
      decide_eq_true_iff]
    omega
  unfold crcTableTurn feedBit
  rw [Bool.xor_false]
  by_cases hbit : (Js.bits crc).getLsbD 0 = true
  · rw [if_pos (hlow.mpr hbit), if_pos hbit, Js.bits_xor, Js.bits_shrU, BitVec.xor_comm]
    rfl
  · rw [if_neg (mt hlow.mp hbit), if_neg hbit, Js.bits_shrU]

theorem bits_crcTableTurns (n : ℕ) (crc : ℤ) :
    Js.bits (crcTableTurn^[n] crc) = feed poly (Js.bits crc) (List.replicate n false) := by
  induction n generalizing crc with
  | zero => rfl
  | succ n ih =>
    rw [Function.iterate_succ_apply, ih, bits_crcTableTurn, List.replicate_succ, feed_cons]

/-- The table that the module computes is the server's. -/
theorem bits_crcTable (i : Fin 256) :
    Js.bits (crcTable (i : ℕ)) = (crc32Table.get i).toBitVec := by
  have hi := i.isLt
  have hmoved : Js.bits ((i : ℕ) : ℤ) >>> 8 = 0#32 := by
    apply BitVec.eq_of_toNat_eq
    rw [BitVec.toNat_ushiftRight, Js.bits_natCast, BitVec.toNat_ofNat, Nat.shiftRight_eq_div_pow,
      BitVec.toNat_ofNat]
    omega
  have hbits : lowBits (Js.bits ((i : ℕ) : ℤ)) 8 = byteBits (UInt8.ofNat i) := by
    refine List.map_congr_left fun j hj => ?_
    have hj8 : j < 8 := List.mem_range.mp hj
    rw [Js.bits_natCast, UInt8.toBitVec_ofNat', BitVec.getLsbD_ofNat, BitVec.getLsbD_ofNat]
    simp [hj8, show j < 32 by omega]
  -- The eight low bits are those of the index, and nothing is above them.
  rw [crcTable, Js.shrU_zero, Js.bits_toNat, bits_crcTableTurns, feed_zeros, hmoved, hbits,
    crc32Table_get, BitVec.zero_xor]

/-- The word of a byte. -/
theorem bits_ofByte (b : UInt8) : Js.bits (ofByte b) = b.toUInt32.toBitVec := by
  apply BitVec.eq_of_toNat_eq
  have hb := b.toNat_lt
  rw [ofByte, Js.bits_natCast, BitVec.toNat_ofNat, UInt32.toNat_toBitVec, UInt8.toNat_toUInt32,
    Nat.mod_eq_of_lt (by omega)]

/-- One turn of the loop of `crc32` is one of the server's. -/
theorem bits_crcStep (crc : ℤ) (byte : UInt8) :
    Js.bits (crcStep crc byte) = (crcByte ⟨Js.bits crc⟩ byte).toBitVec := by
  have hindex : Js.and (Js.xor crc (ofByte byte)) 0xff =
      ((((⟨Js.bits crc⟩ : UInt32) ^^^ byte.toUInt32) &&& 0xff).toUInt8.toFin : ℕ) := by
    have h := Js.and_mask (Js.xor crc (ofByte byte)) (m := 0xff) (by norm_num)
    rw [show (0xff : ℤ) = ((0xff : ℕ) : ℤ) from rfl, h, Js.bits_xor, bits_ofByte]
    simp only [BitVec.toNat_xor, UInt32.toNat_toBitVec, UInt8.toNat_toUInt32, UInt8.toFin_val,
      UInt32.toNat_toUInt8, UInt32.toNat_and, UInt32.toNat_xor, UInt32.reduceToNat]
    rw [Nat.and_two_pow_sub_one_eq_mod _ 8, Nat.and_two_pow_sub_one_eq_mod _ 8, Nat.mod_mod]
    rfl
  rw [crcStep, Js.bits_xor, hindex, bits_crcTable, Js.bits_shrU, crcByte, BitVec.xor_comm]
  rfl

/-- `crc32` is the server's checksum. -/
theorem crc32_eq (bytes : Bytes) : crc32 bytes = ((calculateCRC32 bytes).toNat : ℤ) := by
  have hloop : ∀ (bytes : Bytes) (crc : ℤ), Js.bits (bytes.foldl crcStep crc) =
      (bytes.foldl crcByte ⟨Js.bits crc⟩).toBitVec := by
    intro bytes
    induction bytes with
    | nil => exact fun _ => rfl
    | cons b bytes ih =>
      intro crc
      rw [List.foldl_cons, List.foldl_cons, ih, bits_crcStep]
  rw [crc32, Js.shrU_zero, Js.bits_xor, hloop]
  rfl

/-- The number that is compared with the checksum is the trailer's word, read as signed. -/
theorem receivedCrc_eq {t : Bytes} (ht : t.length = 4) :
    receivedCrc t = (leWord t).toBitVec.toInt := by
  match t, ht with
  | [a, b, c, d], _ =>
    rw [receivedCrc, Js.or]
    simp only [Js.bits_or, Js.bits_shl, bits_ofByte]
    rfl

/-- `verifyAndStripCrc` on a frame of at least four bytes makes the server's comparison. -/
theorem verifyAndStripCrc_eq {bytes : Bytes} (h4 : 4 ≤ bytes.length) :
    verifyAndStripCrc bytes =
      if crcAccepts bytes then .ok (bytes.take (bytes.length - 4))
      else .error (.crcMismatch (leWord (bytes.drop (bytes.length - 4))).toNat
        (calculateCRC32 (bytes.take (bytes.length - 4))).toNat) := by
  have hbody : slice bytes 0 (bytes.length - 4) = bytes.take (bytes.length - 4) := rfl
  have hreceived : receivedCrc (bytes.drop (bytes.length - 4)) =
      (leWord (bytes.drop (bytes.length - 4))).toBitVec.toInt :=
    receivedCrc_eq (by rw [List.length_drop]; omega)
  -- Both sides of the comparison are signed readings of words.
  have hcalculated : Js.or (crc32 (bytes.take (bytes.length - 4))) 0 =
      (calculateCRC32 (bytes.take (bytes.length - 4))).toBitVec.toInt := by
    rw [crc32_eq, Js.or, ← UInt32.toNat_toBitVec, Js.bits_toNat]
    simp [Js.bits]
  have hunsigned : ∀ v : UInt32, Js.shrU v.toBitVec.toInt 0 = (v.toNat : ℤ) := by
    intro v
    rw [Js.shrU_zero, Js.bits_toInt, UInt32.toNat_toBitVec]
  unfold verifyAndStripCrc
  rw [if_neg (by omega)]
  simp only [hbody, hreceived, hcalculated, hunsigned]
  simp only [crcAccepts, beq_iff_eq, ne_eq, BitVec.toInt_inj, UInt32.toBitVec_inj, ite_not]

/-! ## Frames -/

/-- The low byte of a number's word. -/
theorem toByte_and (x : ℤ) : toByte (Js.and x 0xff) = (⟨Js.bits x⟩ : UInt32).toUInt8 := by
  apply UInt8.toNat_inj.mp
  have h := Js.and_mask x (m := 0xff) (by norm_num)
  rw [show (0xff : ℤ) = ((0xff : ℕ) : ℤ) from rfl, h, toByte_natCast, UInt8.toNat_ofNat',
    Nat.and_two_pow_sub_one_eq_mod _ 8, Nat.mod_mod, UInt32.toNat_toUInt8]
  rfl

/-- The body that `encodeEnvelope` writes, before the trailer. -/
def envelopeBody (headerBytes : Bytes) (typeName : String) (messageBytes : Bytes) : Bytes :=
  Varint.put32 (headerBytes.length % 2 ^ 32) ++
    (Varint.put32 ((utf8 typeName).length % 2 ^ 32) ++
      (utf8 typeName ++ (headerBytes ++ messageBytes)))

/-- `encodeEnvelope` writes its body and the server's trailer. -/
theorem encodeEnvelope_eq (headerBytes : Bytes) (typeName : String) (messageBytes : Bytes) :
    encodeEnvelope headerBytes typeName messageBytes =
      envelopeBody headerBytes typeName messageBytes ++
        leBytes (calculateCRC32 (envelopeBody headerBytes typeName messageBytes)) := by
  have hbits : ∀ v : UInt32, Js.bits (v.toNat : ℤ) = v.toBitVec := fun v => Js.bits_toNat _
  unfold encodeEnvelope
  simp only [writeVarint32_eq, crc32_eq, toByte_and, Js.bits_shrU, hbits]
  rfl

end MyChat.Web
