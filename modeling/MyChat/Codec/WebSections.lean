import MyChat.Codec.Agreement
import MyChat.Codec.WebRecords

/-!
# Frames that the web client accepts

`decodeEnvelopeFrame` cuts its sections with `slice`, which stops at the end of the bytes, and does
not compare the declared sizes with anything: a size that is zero or larger than what is left gives
an empty or a shorter section, which the parsers of the client may well accept. The server's
decoders reject such a frame.

`rejectsMalformed_sizes` says that the client does as the server on the frames whose sizes are not
zero and fit, and that it does so on no other frame from which it cuts a header and a message.
-/

namespace MyChat.Web

open Codec

/-! ## The whole decoder -/

/-- What `decodeEnvelopeFrame` returns. -/
structure DecodedEnvelope where
  /-- `header`. -/
  header : ImHeader
  /-- `typeName`. -/
  typeName : String
  /-- `payload`. -/
  payload : Payload
  deriving DecidableEq, Repr

/-- What `decodeEnvelopeFrame` throws: an error of its own, or one of the `Reader`. -/
inductive EnvelopeError where
  /-- An error of the frame functions. -/
  | frame (error : FrameError)
  /-- An error of a `Reader`. -/
  | reader (message : String)
  deriving DecidableEq, Repr

/-- The two parsers that `decodeEnvelopeFrame` calls on the sections. -/
def decodeSections (reader : Reader) (sections : FrameSections) :
    Except EnvelopeError DecodedEnvelope := do
  let header ← (decodeImHeader reader sections.headerBytes).mapError .reader
  let payload ← (decodePayload reader sections.typeName sections.messageBytes).mapError .reader
  return ⟨header, sections.typeName, payload⟩

/-- `decodeEnvelopeFrame`. -/
def decodeEnvelopeFrame (td : TextDecoder) (reader : Reader) (frame : Bytes) :
    Except EnvelopeError DecodedEnvelope := do
  let sections ← (splitEnvelopeFrame td frame).mapError .frame
  decodeSections reader sections

/-! ## The sizes -/

/-- The client reads the sizes `headerSize` and `typeNameSize` in the first `pos` bytes of the
body. -/
def DeclaresSizes (body : Bytes) (headerSize typeNameSize pos : ℕ) : Prop :=
  ∃ mid, readVarint32 body 0 = .ok (headerSize, mid) ∧
    readVarint32 body mid = .ok (typeNameSize, pos)

/-- The sections that the client cuts out of a body for these sizes. -/
def cutSections (td : TextDecoder) (body : Bytes) (headerSize typeNameSize pos : ℕ) :
    FrameSections :=
  ⟨td.decode (slice body pos (pos + typeNameSize)),
    slice body (pos + typeNameSize) (pos + typeNameSize + headerSize),
    slice body (pos + typeNameSize + headerSize) body.length⟩

theorem slice_length (body : Bytes) (start stop : ℕ) :
    (slice body start stop).length = min stop body.length - start := by
  rw [slice, List.length_drop, List.length_take]

/-- The client's split of a frame, from the sizes that it reads. -/
theorem splitEnvelopeFrame_eq_ok {td : TextDecoder} {frame : Bytes} {s : FrameSections} :
    splitEnvelopeFrame td frame = .ok s ↔ ∃ body hs ts p, verifyAndStripCrc frame = .ok body ∧
      DeclaresSizes body hs ts p ∧ s = cutSections td body hs ts p := by
  unfold splitEnvelopeFrame
  simp only [bind_eq_ok]
  constructor
  · rintro ⟨body, hbody, ⟨hs, mid⟩, hsize, ⟨ts, p⟩, htype, h⟩
    exact ⟨body, hs, ts, p, hbody, ⟨mid, hsize, htype⟩, (Except.ok.inj h).symm⟩
  · rintro ⟨body, hs, ts, p, hbody, ⟨mid, hsize, htype⟩, rfl⟩
    exact ⟨body, hbody, (hs, mid), hsize, (ts, p), htype, rfl⟩

/-- The sizes that the client reads are determined by the body. -/
theorem DeclaresSizes.unique {body : Bytes} {hs hs' ts ts' p p' : ℕ}
    (h : DeclaresSizes body hs ts p) (h' : DeclaresSizes body hs' ts' p') :
    hs = hs' ∧ ts = ts' ∧ p = p' := by
  obtain ⟨mid, h1, h2⟩ := h
  obtain ⟨mid', h1', h2'⟩ := h'
  rw [h1, Except.ok.injEq, Prod.mk.injEq] at h1'
  obtain ⟨rfl, rfl⟩ := h1'
  rw [h2, Except.ok.injEq, Prod.mk.injEq] at h2'
  exact ⟨rfl, h2'⟩

theorem readVarint32Loop_nil {bytes : Bytes} {offset : ℕ} (result : ℤ) (shift : ℕ)
    (hbytes : bytes.drop offset = []) :
    readVarint32Loop bytes result shift offset = .error .unexpectedEnd := by
  rw [readVarint32Loop, dif_neg (by rw [List.drop_eq_nil_iff] at hbytes; omega)]

/-- The last turn of `readVarint32`: 32 bits of what was read so far and of the byte. -/
theorem shrU_or_shl {result : ℤ} {r m shift : ℕ} (hbits : Js.bits result = BitVec.ofNat 32 r)
    (hr : r < 2 ^ shift) (hshift : shift < 32) :
    (Js.shrU (Js.or result (Js.shl m shift)) 0).toNat = (r + m * 2 ^ shift) % 2 ^ 32 := by
  rw [Js.shrU_zero, bits_or_shl hbits hr hshift, BitVec.toNat_ofNat, Int.toNat_natCast]

/-- The loop of `readVarint32` reads a varint of at most five bytes and keeps 32 bits of it. -/
theorem readVarint32Loop_get (j : ℕ) {bytes : Bytes} {result : ℤ} {r n shift offset stop : ℕ}
    (hj : shift + 7 * j = 28) (hbits : Js.bits result = BitVec.ofNat 32 r) (hr : r < 2 ^ shift)
    (h : readVarint32Loop bytes result shift offset = .ok (n, stop)) :
    ∃ v k, Varint.get j (bytes.drop offset) = some (v, k) ∧ stop = offset + k ∧
      n = (r + v * 2 ^ shift) % 2 ^ 32 := by
  -- On the bytes that are still allowed; `shift` grows by seven with each.
  induction j generalizing result r shift offset with
  | zero =>
    rcases hbytes : bytes.drop offset with _ | ⟨b, tail⟩
    · simp [readVarint32Loop_nil result shift hbytes] at h
    · rw [readVarint32Loop_cons result shift hbytes] at h
      dsimp only at h
      split_ifs at h with hlt hmore
      · obtain ⟨rfl, rfl⟩ := Prod.mk.inj (Except.ok.inj h)
        rw [shrU_or_shl hbits hr (by omega), Nat.mod_eq_of_lt hlt]
        exact ⟨b.toNat, 1, by rw [Varint.get, if_pos hlt], rfl, rfl⟩
      · omega
  | succ j ih =>
    rcases hbytes : bytes.drop offset with _ | ⟨b, tail⟩
    · simp [readVarint32Loop_nil result shift hbytes] at h
    · have htail : bytes.drop (offset + 1) = tail := by
        rw [← List.drop_drop, hbytes, List.drop_one, List.tail_cons]
      rw [readVarint32Loop_cons result shift hbytes] at h
      dsimp only at h
      split_ifs at h with hlt hmore
      · obtain ⟨rfl, rfl⟩ := Prod.mk.inj (Except.ok.inj h)
        rw [shrU_or_shl hbits hr (by omega), Nat.mod_eq_of_lt hlt]
        exact ⟨b.toNat, 1, by rw [Varint.get, if_pos hlt], rfl, rfl⟩
      · have hpow : 2 ^ (shift + 7) = 128 * 2 ^ shift := by rw [pow_add]; ring
        have hr' : r + b.toNat % 128 * 2 ^ shift < 2 ^ (shift + 7) := by
          have hdigit : b.toNat % 128 ≤ 127 := by omega
          have := Nat.mul_le_mul_right (2 ^ shift) hdigit
          rw [hpow]
          omega
        obtain ⟨v, k, hget, hstop, hn⟩ := ih (by omega) (bits_or_shl hbits hr (by omega)) hr' h
        rw [htail] at hget
        refine ⟨b.toNat % 128 + 128 * v, k + 1, ?_, by omega, ?_⟩
        · rw [Varint.get, if_neg hlt, hget, Option.map_some]
        · rw [hn, hpow]
          congr 1
          ring

/-- What the client reads as a varint, the server reads as the same number at the same place. -/
theorem readVarint32_server {io : CodedIO} (hio : io.Spec) {bytes : Bytes} {n offset stop : ℕ}
    (h : readVarint32 bytes offset = .ok (n, stop)) (hlimit : offset + 5 ≤ totalBytesLimit) :
    io.readVarint32 bytes totalBytesLimit offset = some (UInt32.ofNat n, stop) ∧ n < 2 ^ 32 ∧
      stop ≤ offset + 5 := by
  have hzero : Js.bits 0 = BitVec.ofNat 32 0 := rfl
  obtain ⟨v, k, hget, rfl, hn⟩ :=
    readVarint32Loop_get 4 (show 0 + 7 * 4 = 28 by norm_num) hzero (by norm_num) h
  have hk := Varint.get_le hget
  -- The server's reader sees the varint whole, up to the total bytes limit.
  have htake : ((bytes.take totalBytesLimit).drop offset).take k = (bytes.drop offset).take k := by
    rw [List.drop_take, List.take_take, min_eq_left (by omega)]
  have hread := Varint.get_of_take_eq (show 4 ≤ 9 by norm_num) hget htake
  have hvalue : n = v % 2 ^ 32 := by rw [hn]; simp
  have hword : UInt32.ofNat v = UInt32.ofNat n := by
    apply UInt32.toNat_inj.mp
    rw [UInt32.toNat_ofNat', UInt32.toNat_ofNat', hvalue, Nat.mod_mod]
  refine ⟨?_, by omega, by omega⟩
  rw [hio.readVarint32, hread, Option.map_some, ← hword]

/-! ## Malformed frames -/

/-- The server's decoders read two sizes from the data and find one of them zero, or too large for
what is left. -/
def SizesRejected (io : CodedIO) (data : Bytes) : Prop :=
  ∃ hs mid ts p, io.readVarint32 data totalBytesLimit 0 = some (hs, mid) ∧
    io.readVarint32 data totalBytesLimit mid = some (ts, p) ∧
    (hs = 0 ∨ ts = 0 ∨ data.length < p + ts.toNat + hs.toNat)

/-- The sections that the client cuts out of the body have the declared lengths, which are not zero,
and are, after the two varints and before the bytes of the message, the whole body. -/
structure SectionsExact (body : Bytes) (headerSize typeNameSize pos : ℕ) : Prop where
  /-- The size of the header is not zero. -/
  headerSize_ne : headerSize ≠ 0
  /-- The size of the type name is not zero. -/
  typeNameSize_ne : typeNameSize ≠ 0
  /-- The type name has the declared length. -/
  typeName_length : (slice body pos (pos + typeNameSize)).length = typeNameSize
  /-- The header has the declared length. -/
  header_length :
    (slice body (pos + typeNameSize) (pos + typeNameSize + headerSize)).length = headerSize
  /-- The parts of the body. -/
  body_eq : body = body.take pos ++ (slice body pos (pos + typeNameSize) ++
    (slice body (pos + typeNameSize) (pos + typeNameSize + headerSize) ++
      slice body (pos + typeNameSize + headerSize) body.length))

/-- On this frame the client throws, or returns what its parsers make of exact sections, and the
server's decoders do not reject the sizes. -/
def RejectsMalformed (io : CodedIO) (td : TextDecoder) (reader : Reader) (frame : Bytes) : Prop :=
  ∀ body envelope, verifyAndStripCrc frame = .ok body →
    decodeEnvelopeFrame td reader frame = .ok envelope →
    (∃ hs ts p, DeclaresSizes body hs ts p ∧ SectionsExact body hs ts p ∧
      decodeSections reader (cutSections td body hs ts p) = .ok envelope) ∧
    ¬ SizesRejected io body

theorem mapError_eq_ok {ε ε' α : Type} {x : Except ε α} {f : ε → ε'} {a : α} :
    x.mapError f = .ok a ↔ x = .ok a := by
  cases x <;> simp [Except.mapError]

/-- What the client returns of a frame comes from the sections that it cut. -/
theorem decodeEnvelopeFrame_eq_ok {td : TextDecoder} {reader : Reader} {frame : Bytes}
    {envelope : DecodedEnvelope} :
    decodeEnvelopeFrame td reader frame = .ok envelope ↔ ∃ body hs ts p,
      verifyAndStripCrc frame = .ok body ∧ DeclaresSizes body hs ts p ∧
      decodeSections reader (cutSections td body hs ts p) = .ok envelope := by
  unfold decodeEnvelopeFrame
  simp only [bind_eq_ok, mapError_eq_ok, splitEnvelopeFrame_eq_ok]
  constructor
  · rintro ⟨s, ⟨body, hs, ts, p, hbody, hsizes, rfl⟩, hdecode⟩
    exact ⟨body, hs, ts, p, hbody, hsizes, hdecode⟩
  · rintro ⟨body, hs, ts, p, hbody, hsizes, hdecode⟩
    exact ⟨_, ⟨body, hs, ts, p, hbody, hsizes, rfl⟩, hdecode⟩

theorem slice_append_drop (body : Bytes) {start stop : ℕ} (h : start ≤ stop) :
    slice body start stop ++ body.drop stop = body.drop start := by
  rw [slice, List.drop_take, show body.drop stop = (body.drop start).drop (stop - start) by
    rw [List.drop_drop, Nat.add_sub_cancel' h], List.take_append_drop]

/-- The sections are exact when the sizes are not zero and fit. -/
theorem sectionsExact_iff {body : Bytes} {hs ts p : ℕ} :
    SectionsExact body hs ts p ↔ hs ≠ 0 ∧ ts ≠ 0 ∧ p + ts + hs ≤ body.length := by
  constructor
  · rintro ⟨hhs, hts, -, hheader, -⟩
    rw [slice_length] at hheader
    exact ⟨hhs, hts, by omega⟩
  · rintro ⟨hhs, hts, hfit⟩
    refine ⟨hhs, hts, by rw [slice_length]; omega, by rw [slice_length]; omega, ?_⟩
    have hlast : slice body (p + ts + hs) body.length = body.drop (p + ts + hs) := by
      rw [slice, List.take_length]
    rw [hlast, slice_append_drop body (by omega), slice_append_drop body (by omega),
      List.take_append_drop]

/-- Sizes that the client reads and that are not zero and fit are not rejected by the server. -/
theorem not_sizesRejected {io : CodedIO} (hio : io.Spec) {body : Bytes} {hs ts p : ℕ}
    (hsizes : DeclaresSizes body hs ts p) (hhs : hs ≠ 0) (hts : ts ≠ 0)
    (hfit : p + ts + hs ≤ body.length) : ¬ SizesRejected io body := by
  have h26 : totalBytesLimit = 2 ^ 26 := rfl
  obtain ⟨mid, h1, h2⟩ := hsizes
  obtain ⟨hserver1, hlt1, hmid⟩ := readVarint32_server hio h1 (by omega)
  obtain ⟨hserver2, hlt2, -⟩ := readVarint32_server hio h2 (by omega)
  rintro ⟨hs', mid', ts', p', h1', h2', hbad⟩
  rw [hserver1, Option.some.injEq, Prod.mk.injEq] at h1'
  obtain ⟨rfl, rfl⟩ := h1'
  rw [hserver2, Option.some.injEq, Prod.mk.injEq] at h2'
  obtain ⟨rfl, rfl⟩ := h2'
  have hword : ∀ n, n < 2 ^ 32 → UInt32.ofNat n = 0 → n = 0 := by
    intro n hn hzero
    have := congrArg UInt32.toNat hzero
    rwa [UInt32.toNat_ofNat_of_lt' hn] at this
  rw [UInt32.toNat_ofNat_of_lt' hlt1, UInt32.toNat_ofNat_of_lt' hlt2] at hbad
  rcases hbad with hzero | hzero | hlarge
  · exact hhs (hword hs hlt1 hzero)
  · exact hts (hword ts hlt2 hzero)
  · omega

/-- The sizes that the client reads in a frame with its trailer are not zero, and fit in what is
left of the body. -/
def SizesFit (frame : Bytes) : Prop :=
  ∀ body hs ts p, verifyAndStripCrc frame = .ok body → DeclaresSizes body hs ts p →
    hs ≠ 0 ∧ ts ≠ 0 ∧ p + ts + hs ≤ body.length

/-- The bytes that the client cuts out of a frame with its trailer are a header and a message of the
type that it cuts. -/
def SectionsWhole (td : TextDecoder) (frame : Bytes) : Prop :=
  ∀ body hs ts p, verifyAndStripCrc frame = .ok body → DeclaresSizes body hs ts p →
    IsImHeader (cutSections td body hs ts p).headerBytes ∧
    IsPayload (cutSections td body hs ts p).typeName (cutSections td body hs ts p).messageBytes

/-- The client's parsers read a header and a message of the type. -/
theorem decodeSections_isPayload {reader : Reader} (hr : reader.Spec) {sections : FrameSections}
    (hheader : IsImHeader sections.headerBytes)
    (hpayload : IsPayload sections.typeName sections.messageBytes) :
    ∃ envelope, decodeSections reader sections = .ok envelope := by
  obtain ⟨header, hheader⟩ := decodeImHeader_isImHeader hr hheader
  obtain ⟨payload, hpayload⟩ := decodePayload_isPayload hr hpayload
  refine ⟨⟨header, sections.typeName, payload⟩, ?_⟩
  rw [decodeSections, hheader, hpayload]
  rfl

/-- What the client returns of a frame whose sizes fit has exact sections. -/
theorem SizesFit.rejectsMalformed {io : CodedIO} (hio : io.Spec) {td : TextDecoder}
    {reader : Reader} {frame : Bytes} (hfit : SizesFit frame) :
    RejectsMalformed io td reader frame := by
  intro body envelope hbody haccepted
  obtain ⟨body', hs, ts, p, hbody', hsizes, hdecode⟩ := decodeEnvelopeFrame_eq_ok.mp haccepted
  rw [hbody, Except.ok.injEq] at hbody'
  subst hbody'
  have hexact := hfit body hs ts p hbody hsizes
  exact ⟨⟨hs, ts, p, hsizes, sectionsExact_iff.mpr hexact, hdecode⟩,
    not_sizesRejected hio hsizes hexact.1 hexact.2.1 hexact.2.2⟩

/-- Sections that the client reads are exact only when the sizes fit. -/
theorem RejectsMalformed.sizesFit {io : CodedIO} {td : TextDecoder} {reader : Reader}
    (hr : reader.Spec) {frame : Bytes} (hwhole : SectionsWhole td frame)
    (hrejects : RejectsMalformed io td reader frame) : SizesFit frame := by
  intro body hs ts p hbody hsizes
  obtain ⟨hheader, hpayload⟩ := hwhole body hs ts p hbody hsizes
  obtain ⟨envelope, hdecode⟩ := decodeSections_isPayload hr hheader hpayload
  have haccepted := decodeEnvelopeFrame_eq_ok.mpr ⟨body, hs, ts, p, hbody, hsizes, hdecode⟩
  obtain ⟨⟨hs', ts', p', hsizes', hexact, -⟩, -⟩ := hrejects body envelope hbody haccepted
  obtain ⟨rfl, rfl, rfl⟩ := hsizes.unique hsizes'
  exact sectionsExact_iff.mp hexact

/-- The client rejects what is malformed on every frame whose sizes fit; and only on these, among
the frames from which it cuts a header and a message. -/
theorem rejectsMalformed_sizes {io : CodedIO} (hio : io.Spec) (td : TextDecoder) {reader : Reader}
    (hr : reader.Spec) (frame : Bytes) :
    (SizesFit frame → RejectsMalformed io td reader frame) ∧
    (SectionsWhole td frame → (RejectsMalformed io td reader frame ↔ SizesFit frame)) :=
  ⟨fun hfit => hfit.rejectsMalformed hio,
    fun hwhole => ⟨fun hrejects => hrejects.sizesFit hr hwhole,
      fun hfit => hfit.rejectsMalformed hio⟩⟩

/-! ## Three frames -/

/-- The body with its trailer. -/
def withCrc (body : Bytes) : Bytes := body ++ leBytes (calculateCRC32 body)

theorem verifyAndStripCrc_withCrc (body : Bytes) : verifyAndStripCrc (withCrc body) = .ok body := by
  rw [withCrc, verifyAndStripCrc_eq (by simp), crcAccepts_leBytes, if_pos rfl]
  simp

/-- Sizes below 128 take one byte each. -/
theorem declaresSizes_small {hs ts : ℕ} (hhs : hs < 128) (hts : ts < 128) (rest : Bytes) :
    DeclaresSizes (UInt8.ofNat hs :: UInt8.ofNat ts :: rest) hs ts 2 := by
  have hput : ∀ n, n < 128 → Varint.put32 n = [UInt8.ofNat n] := fun n hn => Varint.put_of_lt hn
  set bytes := UInt8.ofNat hs :: UInt8.ofNat ts :: rest with hbytes
  have h1 : readVarint32 bytes 0 = .ok (hs, 0 + (Varint.put32 hs).length) :=
    readVarint32_put32 (by omega) (by rw [hput hs hhs, hbytes]; rfl)
  have h2 : readVarint32 bytes 1 = .ok (ts, 1 + (Varint.put32 ts).length) :=
    readVarint32_put32 (by omega) (by rw [hput ts hts, hbytes]; rfl)
  rw [hput hs hhs] at h1
  rw [hput ts hts] at h2
  exact ⟨1, h1, h2⟩

/-- A frame with a header that holds the sequence number one, the type name `ab`, and no message. -/
def exactFrame : Bytes := withCrc [0x02, 0x02, 0x61, 0x62, 0x10, 0x01]

/-- A frame that declares a header of five bytes and a type name of two, and ends after the type
name `ab`. -/
def shortFrame : Bytes := withCrc [0x05, 0x02, 0x61, 0x62]

/-- The client rejects what is malformed, of which there is nothing in `exactFrame`; and does not on
`shortFrame`, from which it cuts an empty header and an empty message. -/
theorem rejectsMalformed_exactFrame :
    RejectsMalformed .documented .replacing .documented exactFrame ∧
    ¬ RejectsMalformed .documented .replacing .documented shortFrame := by
  constructor
  · refine (rejectsMalformed_sizes CodedIO.documented_spec _ Reader.documented_spec _).1 ?_
    intro body hs ts p hbody hsizes
    rw [exactFrame, verifyAndStripCrc_withCrc, Except.ok.injEq] at hbody
    subst hbody
    have hdeclared : DeclaresSizes [0x02, 0x02, 0x61, 0x62, 0x10, 0x01] 2 2 2 :=
      declaresSizes_small (by norm_num) (by norm_num) _
    obtain ⟨rfl, rfl, rfl⟩ := hdeclared.unique hsizes
    exact ⟨by norm_num, by norm_num, by decide⟩
  · have hdeclared : DeclaresSizes [0x05, 0x02, 0x61, 0x62] 5 2 2 :=
      declaresSizes_small (by norm_num) (by norm_num) _
    have hcut : cutSections .replacing [0x05, 0x02, 0x61, 0x62] 5 2 2 = ⟨"ab", [], []⟩ := by
      decide +kernel
    have hwhole : SectionsWhole .replacing shortFrame := by
      intro body hs ts p hbody hsizes
      rw [shortFrame, verifyAndStripCrc_withCrc, Except.ok.injEq] at hbody
      subst hbody
      obtain ⟨rfl, rfl, rfl⟩ := hdeclared.unique hsizes
      rw [hcut]
      exact ⟨isMessage_nil _ _, trivial⟩
    rw [(rejectsMalformed_sizes CodedIO.documented_spec _ Reader.documented_spec _).2 hwhole]
    intro hfit
    obtain ⟨-, -, hle⟩ := hfit _ _ _ _ (verifyAndStripCrc_withCrc _) hdeclared
    exact absurd hle (by decide)

/-- A frame with two sizes of zero and nothing else. -/
def zeroSizesFrame : Bytes := withCrc [0x00, 0x00]

/-- A body of small sizes from which the client cuts no header and no message is accepted under a
type name that has no parser. -/
theorem decodeEnvelopeFrame_withCrc {hs ts : ℕ} (hhs : hs < 128) (hts : ts < 128) {rest : Bytes}
    {typeName : String} (hcut : cutSections .replacing (UInt8.ofNat hs :: UInt8.ofNat ts :: rest)
      hs ts 2 = ⟨typeName, [], []⟩)
    (hpayload : decodePayload .documented typeName [] = .ok (.rawBytes 0)) :
    decodeEnvelopeFrame .replacing .documented
      (withCrc (UInt8.ofNat hs :: UInt8.ofNat ts :: rest)) = .ok ⟨{}, typeName, .rawBytes 0⟩ := by
  refine decodeEnvelopeFrame_eq_ok.mpr ⟨_, hs, ts, 2, verifyAndStripCrc_withCrc _,
    declaresSizes_small hhs hts rest, ?_⟩
  have hheader : decodeImHeader .documented [] = .ok {} := readFields_nil _ _ _
  rw [hcut, decodeSections]
  simp only [hheader, hpayload, Except.mapError, ok_bind]
  rfl

/-- The client accepts two sizes of zero, and a size of five with no byte left. The server rejects
both frames. -/
theorem decodeEnvelopeFrame_accepts :
    decodeEnvelopeFrame .replacing .documented zeroSizesFrame = .ok ⟨{}, "", .rawBytes 0⟩ ∧
    decodeEnvelope .documented (singleField (utf8 "im.base.IMHeader")) zeroSizesFrame =
      .error .rejected ∧
    ¬ RejectsMalformed .documented .replacing .documented zeroSizesFrame ∧
    decodeEnvelopeFrame .replacing .documented shortFrame = .ok ⟨{}, "ab", .rawBytes 0⟩ ∧
    decodeEnvelope .documented (singleField (utf8 "im.base.IMHeader")) shortFrame =
      .error .rejected ∧
    ¬ RejectsMalformed .documented .replacing .documented shortFrame := by
  have hzero : decodeEnvelopeFrame .replacing .documented zeroSizesFrame =
      .ok ⟨{}, "", .rawBytes 0⟩ :=
    decodeEnvelopeFrame_withCrc (show 0 < 128 by norm_num) (show 0 < 128 by norm_num)
      (by decide +kernel) rfl
  have hshort : decodeEnvelopeFrame .replacing .documented shortFrame =
      .ok ⟨{}, "ab", .rawBytes 0⟩ :=
    decodeEnvelopeFrame_withCrc (show 5 < 128 by norm_num) (show 2 < 128 by norm_num)
      (by decide +kernel) rfl
  refine ⟨hzero, by decide +kernel, fun h => ?_, hshort, by decide +kernel, fun h => ?_⟩
  · obtain ⟨-, hserver⟩ := h _ _ (verifyAndStripCrc_withCrc _) hzero
    exact hserver ⟨0, 1, 0, 2, by decide +kernel, by decide +kernel, Or.inl rfl⟩
  · obtain ⟨-, hserver⟩ := h _ _ (verifyAndStripCrc_withCrc _) hshort
    exact hserver ⟨5, 1, 2, 2, by decide +kernel, by decide +kernel, Or.inr (Or.inr (by decide))⟩

end MyChat.Web
