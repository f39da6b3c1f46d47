import MyChat.Lib.ShiftRegister
import Mathlib.Tactic.IntervalCases

/-!
# The CRC-32 trailer of a frame

`calculateCRC32` of `common/network/protobuf_codec.cpp` runs a byte at a time over a literal table
of 256 words. Each byte is eight steps of the reflected shift register with feedback `0xedb88320`
(`crcByte_toBitVec`), so the checksum is the register's contents after the bits of the data, lowest
bit of each byte first, with the initial and final complement (`calculateCRC32_toBitVec`).

A frame carries the checksum of its body in its last four bytes, in the byte order of the host,
which is little-endian. `crcAccepts` is the comparison that `decode` and `decodeEnvelope` make, and
`not_crcAccepts_of_burst` is what it guarantees: a frame that passes no longer passes after an error
whose bits lie in a window of 32 places, wherever the window falls.
-/

namespace MyChat.Codec

open ShiftRegister

/-- A byte string, as the code's `std::string` buffers and `Uint8Array`s hold it. -/
abbrev Bytes := List UInt8

/-- The bytes of a string in UTF-8. -/
def utf8 (s : String) : Bytes := s.toUTF8.data.toList

theorem utf8_length (s : String) : (utf8 s).length = s.utf8ByteSize := rfl

/-- Two texts do not have the same bytes. -/
theorem utf8_injective {s s' : String} (h : utf8 s = utf8 s') : s = s' :=
  String.toByteArray_inj.mp (ByteArray.ext (Array.toList_inj.mp h))

set_option maxRecDepth 4000 in
/-- `crc32_table`. -/
def crc32Table : Vector UInt32 256 := #v[
  0x00000000, 0x77073096, 0xee0e612c, 0x990951ba, 0x076dc419, 0x706af48f, 0xe963a535, 0x9e6495a3,
  0x0edb8832, 0x79dcb8a4, 0xe0d5e91e, 0x97d2d988, 0x09b64c2b, 0x7eb17cbd, 0xe7b82d07, 0x90bf1d91,
  0x1db71064, 0x6ab020f2, 0xf3b97148, 0x84be41de, 0x1adad47d, 0x6ddde4eb, 0xf4d4b551, 0x83d385c7,
  0x136c9856, 0x646ba8c0, 0xfd62f97a, 0x8a65c9ec, 0x14015c4f, 0x63066cd9, 0xfa0f3d63, 0x8d080df5,
  0x3b6e20c8, 0x4c69105e, 0xd56041e4, 0xa2677172, 0x3c03e4d1, 0x4b04d447, 0xd20d85fd, 0xa50ab56b,
  0x35b5a8fa, 0x42b2986c, 0xdbbbc9d6, 0xacbcf940, 0x32d86ce3, 0x45df5c75, 0xdcd60dcf, 0xabd13d59,
  0x26d930ac, 0x51de003a, 0xc8d75180, 0xbfd06116, 0x21b4f4b5, 0x56b3c423, 0xcfba9599, 0xb8bda50f,
  0x2802b89e, 0x5f058808, 0xc60cd9b2, 0xb10be924, 0x2f6f7c87, 0x58684c11, 0xc1611dab, 0xb6662d3d,
  0x76dc4190, 0x01db7106, 0x98d220bc, 0xefd5102a, 0x71b18589, 0x06b6b51f, 0x9fbfe4a5, 0xe8b8d433,
  0x7807c9a2, 0x0f00f934, 0x9609a88e, 0xe10e9818, 0x7f6a0dbb, 0x086d3d2d, 0x91646c97, 0xe6635c01,
  0x6b6b51f4, 0x1c6c6162, 0x856530d8, 0xf262004e, 0x6c0695ed, 0x1b01a57b, 0x8208f4c1, 0xf50fc457,
  0x65b0d9c6, 0x12b7e950, 0x8bbeb8ea, 0xfcb9887c, 0x62dd1ddf, 0x15da2d49, 0x8cd37cf3, 0xfbd44c65,
  0x4db26158, 0x3ab551ce, 0xa3bc0074, 0xd4bb30e2, 0x4adfa541, 0x3dd895d7, 0xa4d1c46d, 0xd3d6f4fb,
  0x4369e96a, 0x346ed9fc, 0xad678846, 0xda60b8d0, 0x44042d73, 0x33031de5, 0xaa0a4c5f, 0xdd0d7cc9,
  0x5005713c, 0x270241aa, 0xbe0b1010, 0xc90c2086, 0x5768b525, 0x206f85b3, 0xb966d409, 0xce61e49f,
  0x5edef90e, 0x29d9c998, 0xb0d09822, 0xc7d7a8b4, 0x59b33d17, 0x2eb40d81, 0xb7bd5c3b, 0xc0ba6cad,
  0xedb88320, 0x9abfb3b6, 0x03b6e20c, 0x74b1d29a, 0xead54739, 0x9dd277af, 0x04db2615, 0x73dc1683,
  0xe3630b12, 0x94643b84, 0x0d6d6a3e, 0x7a6a5aa8, 0xe40ecf0b, 0x9309ff9d, 0x0a00ae27, 0x7d079eb1,
  0xf00f9344, 0x8708a3d2, 0x1e01f268, 0x6906c2fe, 0xf762575d, 0x806567cb, 0x196c3671, 0x6e6b06e7,
  0xfed41b76, 0x89d32be0, 0x10da7a5a, 0x67dd4acc, 0xf9b9df6f, 0x8ebeeff9, 0x17b7be43, 0x60b08ed5,
  0xd6d6a3e8, 0xa1d1937e, 0x38d8c2c4, 0x4fdff252, 0xd1bb67f1, 0xa6bc5767, 0x3fb506dd, 0x48b2364b,
  0xd80d2bda, 0xaf0a1b4c, 0x36034af6, 0x41047a60, 0xdf60efc3, 0xa867df55, 0x316e8eef, 0x4669be79,
  0xcb61b38c, 0xbc66831a, 0x256fd2a0, 0x5268e236, 0xcc0c7795, 0xbb0b4703, 0x220216b9, 0x5505262f,
  0xc5ba3bbe, 0xb2bd0b28, 0x2bb45a92, 0x5cb36a04, 0xc2d7ffa7, 0xb5d0cf31, 0x2cd99e8b, 0x5bdeae1d,
  0x9b64c2b0, 0xec63f226, 0x756aa39c, 0x026d930a, 0x9c0906a9, 0xeb0e363f, 0x72076785, 0x05005713,
  0x95bf4a82, 0xe2b87a14, 0x7bb12bae, 0x0cb61b38, 0x92d28e9b, 0xe5d5be0d, 0x7cdcefb7, 0x0bdbdf21,
  0x86d3d2d4, 0xf1d4e242, 0x68ddb3f8, 0x1fda836e, 0x81be16cd, 0xf6b9265b, 0x6fb077e1, 0x18b74777,
  0x88085ae6, 0xff0f6a70, 0x66063bca, 0x11010b5c, 0x8f659eff, 0xf862ae69, 0x616bffd3, 0x166ccf45,
  0xa00ae278, 0xd70dd2ee, 0x4e048354, 0x3903b3c2, 0xa7672661, 0xd06016f7, 0x4969474d, 0x3e6e77db,
  0xaed16a4a, 0xd9d65adc, 0x40df0b66, 0x37d83bf0, 0xa9bcae53, 0xdebb9ec5, 0x47b2cf7f, 0x30b5ffe9,
  0xbdbdf21c, 0xcabac28a, 0x53b39330, 0x24b4a3a6, 0xbad03605, 0xcdd70693, 0x54de5729, 0x23d967bf,
  0xb3667a2e, 0xc4614ab8, 0x5d681b02, 0x2a6f2b94, 0xb40bbe37, 0xc30c8ea1, 0x5a05df1b, 0x2d02ef8d]

/-- One turn of the loop of `calculateCRC32`. -/
def crcByte (crc : UInt32) (byte : UInt8) : UInt32 :=
  let index : UInt8 := ((crc ^^^ byte.toUInt32) &&& 0xff).toUInt8
  (crc >>> 8) ^^^ crc32Table.get index.toFin

/-- `ProtobufCodec::calculateCRC32`. -/
def calculateCRC32 (data : Bytes) : UInt32 := data.foldl crcByte 0xffffffff ^^^ 0xffffffff

/-- The four bytes of a word in memory, as `memcpy` writes them on a little-endian host. -/
def leBytes (v : UInt32) : Bytes :=
  [v.toUInt8, (v >>> 8).toUInt8, (v >>> 16).toUInt8, (v >>> 24).toUInt8]

/-- The word that `memcpy` reads from four bytes on a little-endian host. -/
def leWord : Bytes → UInt32
  | [a, b, c, d] =>
    a.toUInt32 ||| (b.toUInt32 <<< 8) ||| (c.toUInt32 <<< 16) ||| (d.toUInt32 <<< 24)
  | _ => 0

/-- `received_crc == calculated_crc`, on an input of at least four bytes. -/
def crcAccepts (input : Bytes) : Bool :=
  leWord (input.drop (input.length - 4)) == calculateCRC32 (input.take (input.length - 4))

/-! ## Bits -/

/-- The bits of a byte, lowest first. -/
def byteBits (b : UInt8) : List Bool := lowBits b.toBitVec 8

/-- The bits of a byte string, byte by byte and lowest bit first. -/
def bitsOf (x : Bytes) : List Bool := x.flatMap byteBits

@[simp] theorem byteBits_length (b : UInt8) : (byteBits b).length = 8 := lowBits_length _ _

@[simp] theorem bitsOf_length (x : Bytes) : (bitsOf x).length = 8 * x.length := by
  induction x with
  | nil => rfl
  | cons b x ih =>
    simp only [bitsOf, List.flatMap_cons, List.length_append, byteBits_length] at ih ⊢
    rw [ih, List.length_cons]
    omega

theorem bitsOf_append (x y : Bytes) : bitsOf (x ++ y) = bitsOf x ++ bitsOf y :=
  List.flatMap_append

/-- The byte-wise sum of two strings. -/
def xorBytes (x e : Bytes) : Bytes := List.zipWith (· ^^^ ·) x e

/-- The bits of a sum are the sums of the bits. -/
theorem bitsOf_xorBytes : ∀ (x e : Bytes), x.length = e.length →
    bitsOf (xorBytes x e) = List.zipWith (· ^^ ·) (bitsOf x) (bitsOf e)
  | [], [], _ => rfl
  | a :: x, b :: e, h => by
    have hbits : byteBits (a ^^^ b) = List.zipWith (· ^^ ·) (byteBits a) (byteBits b) := by
      simp [byteBits, lowBits, List.zipWith_map, List.zipWith_self]
    simp only [xorBytes, bitsOf, List.zipWith_cons_cons, List.flatMap_cons]
    rw [hbits, List.zipWith_append (by simp)]
    congr 1
    exact bitsOf_xorBytes x e (by simpa using h)

/-! ## The register -/

/-- The feedback word, the reflected polynomial `0xEDB88320`. -/
def poly : BitVec 32 := 0xedb88320#32

/-- The table holds eight steps of the register for each byte. -/
theorem crc32Table_toList : crc32Table.toList =
    (List.range 256).map fun i => ⟨feed poly 0#32 (byteBits (UInt8.ofNat i))⟩ := by
  decide +kernel

theorem crc32Table_get (i : Fin 256) :
    (crc32Table.get i).toBitVec = feed poly 0#32 (byteBits (UInt8.ofNat i)) := by
  have hget : crc32Table.toList[(i : ℕ)]? = some (crc32Table.get i) := by
    rw [Vector.getElem?_toList, Vector.getElem?_eq_getElem i.isLt]
    rfl
  rw [crc32Table_toList, List.getElem?_map, List.getElem?_range i.isLt] at hget
  exact congrArg UInt32.toBitVec (Option.some.inj hget).symm

/-- The table's index, as bits: the sum of the byte and the low bits of the register. -/
theorem byteBits_index (crc : UInt32) (byte : UInt8) :
    byteBits ((crc ^^^ byte.toUInt32) &&& 0xff).toUInt8 =
      List.zipWith (· ^^ ·) (lowBits crc.toBitVec 8) (byteBits byte) := by
  simp only [byteBits, lowBits, List.zipWith_map, List.zipWith_self]
  refine List.map_congr_left fun i hi => ?_
  have hi8 : i < 8 := List.mem_range.mp hi
  have hmask : (255#8)[i] = true := by
    rw [BitVec.getElem_eq_testBit_toNat]
    interval_cases i <;> rfl
  simp [hi8, hmask, show i < 32 by omega]

/-- One turn of the loop is eight steps of the register. -/
theorem crcByte_toBitVec (crc : UInt32) (byte : UInt8) :
    (crcByte crc byte).toBitVec = feed poly crc.toBitVec (byteBits byte) := by
  have hbyte : ∀ i : UInt8, UInt8.ofNat i.toFin = i := fun i => UInt8.ofNat_toNat
  rw [feed_chunk, byteBits_length, ← byteBits_index, crcByte]
  simp only [UInt32.toBitVec_xor, crc32Table_get, hbyte]
  rfl

/-- The loop of `calculateCRC32` from any register. -/
theorem foldl_crcByte_toBitVec (data : Bytes) (crc : UInt32) :
    (data.foldl crcByte crc).toBitVec = feed poly crc.toBitVec (bitsOf data) := by
  induction data generalizing crc with
  | nil => rfl
  | cons b data ih =>
    have hbits : bitsOf (b :: data) = byteBits b ++ bitsOf data := List.flatMap_cons
    rw [List.foldl_cons, ih, crcByte_toBitVec, hbits, feed_append]

/-- The checksum is the register after the bits of the data, complemented at both ends. -/
theorem calculateCRC32_toBitVec (data : Bytes) :
    (calculateCRC32 data).toBitVec =
      feed poly (BitVec.allOnes 32) (bitsOf data) ^^^ BitVec.allOnes 32 := by
  rw [calculateCRC32, UInt32.toBitVec_xor, foldl_crcByte_toBitVec]
  rfl

/-! ## The trailer -/

@[simp] theorem leBytes_length (v : UInt32) : (leBytes v).length = 4 := rfl

/-- Reading a word back from memory. -/
theorem leWord_leBytes (v : UInt32) : leWord (leBytes v) = v := by
  apply UInt32.toBitVec_inj.mp
  refine BitVec.eq_of_getLsbD_eq fun i hi => ?_
  simp only [leWord, leBytes, UInt32.toBitVec_or, UInt32.toBitVec_shiftLeft,
    UInt8.toBitVec_toUInt32, UInt32.toBitVec_toUInt8, UInt32.toBitVec_shiftRight,
    BitVec.getLsbD_or]
  interval_cases i <;> simp [-UInt32.toBitVec_toUInt8]

/-- The bits of a word of four bytes are theirs, in order. -/
theorem leWord_getLsbD {t : Bytes} (ht : t.length = 4) (i : ℕ) :
    (leWord t).toBitVec.getLsbD i = (bitsOf t).getD i false := by
  obtain ⟨a, b, c, d, rfl⟩ : ∃ a b c d, t = [a, b, c, d] := by
    match t, ht with
    | [a, b, c, d], _ => exact ⟨a, b, c, d, rfl⟩
  by_cases hi : i < 32
  · simp only [leWord, bitsOf, byteBits, lowBits, List.range, List.range.loop, List.flatMap_cons,
      List.map_cons, List.map_nil, List.flatMap_nil, List.cons_append, List.nil_append]
    interval_cases i <;> simp
  · rw [BitVec.getLsbD_of_ge _ _ (by omega), List.getD_eq_getElem?_getD,
      List.getElem?_eq_none (by rw [bitsOf_length]; simp; omega)]
    rfl

/-- What the check computes on a body and its trailer. -/
theorem crcAccepts_append (body t : Bytes) (ht : t.length = 4) :
    crcAccepts (body ++ t) = true ↔ leWord t = calculateCRC32 body := by
  have hlen : (body ++ t).length - 4 = body.length := by simp [ht]
  rw [crcAccepts, hlen, List.drop_left, List.take_left, beq_iff_eq]

/-- A frame that ends with the checksum of its body passes the check. -/
theorem crcAccepts_leBytes (body : Bytes) :
    crcAccepts (body ++ leBytes (calculateCRC32 body)) = true := by
  rw [crcAccepts_append _ _ (leBytes_length _), leWord_leBytes]

/-! ## Errors -/

/-- Two strings that differ by `e` and both pass: `e` takes the empty register to zero. -/
theorem feed_eq_zero_of_crcAccepts {x e : Bytes} (hlen : e.length = x.length) (h4 : 4 ≤ x.length)
    (hx : crcAccepts x = true) (hxe : crcAccepts (xorBytes x e) = true) :
    feed poly 0#32 (bitsOf e) = 0#32 := by
  -- The body and the trailer of the string and of the error.
  obtain ⟨body, t, rfl, ht⟩ : ∃ body t, x = body ++ t ∧ t.length = 4 :=
    ⟨x.take (x.length - 4), x.drop (x.length - 4), (List.take_append_drop _ _).symm, by
      rw [List.length_drop]; omega⟩
  obtain ⟨eb, et, rfl, heb⟩ : ∃ eb et, e = eb ++ et ∧ eb.length = body.length :=
    ⟨e.take body.length, e.drop body.length, (List.take_append_drop _ _).symm, by
      rw [List.length_take, hlen, List.length_append]; omega⟩
  have het : et.length = 4 := by simp only [List.length_append] at hlen; omega
  have hsum : xorBytes (body ++ t) (eb ++ et) = xorBytes body eb ++ xorBytes t et :=
    List.zipWith_append heb.symm
  have hst : (xorBytes t et).length = 4 := by simp [xorBytes, ht, het]
  rw [crcAccepts_append _ _ ht] at hx
  rw [hsum, crcAccepts_append _ _ hst] at hxe
  -- The two checksums differ by what the error in the body adds.
  have hcrc : (calculateCRC32 (xorBytes body eb)).toBitVec =
      (calculateCRC32 body).toBitVec ^^^ feed poly 0#32 (bitsOf eb) := by
    rw [calculateCRC32_toBitVec, calculateCRC32_toBitVec, bitsOf_xorBytes _ _ heb.symm]
    conv_lhs => rw [← BitVec.xor_zero (x := BitVec.allOnes 32)]
    rw [feed_xor _ _ _ _ _ (by simp [heb]), BitVec.xor_zero, BitVec.xor_assoc, BitVec.xor_assoc,
      BitVec.xor_comm (feed poly 0#32 (bitsOf eb))]
  -- So the error in the trailer is the word that the error in the body leaves in the register.
  rw [bitsOf_append, feed_append,
    feed_eq_zero_iff (p := poly) (by decide) _ _ (by rw [bitsOf_length, het])]
  intro i
  have hi : (leWord (xorBytes t et)).toBitVec.getLsbD i =
      ((leWord t).toBitVec.getLsbD i ^^ (bitsOf et).getD i false) := by
    rw [leWord_getLsbD hst, leWord_getLsbD ht, bitsOf_xorBytes _ _ (by omega),
      List.getD_eq_getElem?_getD, List.getD_eq_getElem?_getD, List.getD_eq_getElem?_getD,
      List.getElem?_zipWith]
    by_cases hi : i < 32
    · rw [List.getElem?_eq_getElem (by rw [bitsOf_length]; omega),
        List.getElem?_eq_getElem (by rw [bitsOf_length]; omega)]
      rfl
    · rw [List.getElem?_eq_none (by rw [bitsOf_length]; omega),
        List.getElem?_eq_none (by rw [bitsOf_length]; omega)]
      rfl
  rw [hxe, hx, hcrc, BitVec.getLsbD_xor] at hi
  exact Bool.xor_right_inj.mp hi

/-- A string that passes no longer passes after an error with a set bit whose bits all lie in a
window of 32 places. -/
theorem not_crcAccepts_of_burst {x e : Bytes} (hlen : e.length = x.length) (h4 : 4 ≤ x.length)
    (hx : crcAccepts x = true) {k : ℕ} (hwin : InWindow 32 k (bitsOf e)) (he : true ∈ bitsOf e) :
    crcAccepts (xorBytes x e) = false := by
  by_contra hxe
  have hzero := feed_eq_zero_of_crcAccepts hlen h4 hx (by simpa using hxe)
  have := eq_false_of_feed_burst (p := poly) (by decide) (by norm_num) hwin hzero true he
  exact absurd this (by decide)

end MyChat.Codec
