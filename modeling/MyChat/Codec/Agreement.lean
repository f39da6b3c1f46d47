import MyChat.Codec.Envelope
import MyChat.Codec.WebEnvelope

/-!
# The server's and the web client's codecs on the wire

The two codecs write the same frame (`encodeEnvelope_eq_encodeFrame`). The client's split finds the
three sections of every frame of theirs, where the type name comes out of the `TextDecoder` without
a byte order mark (`splitEnvelopeFrame_encodeEnvelope`). The server's split finds them when the
header ends within its total bytes limit of 64 MiB, and otherwise rejects the frame.

Both check the trailer in the same way, so that both reject a frame after an error that its
checksum detects (`rejected_of_burst`).
-/

namespace MyChat.Codec

open Web ShiftRegister

/-! ## Frames -/

/-- The part of a byte string between two of the parts that it is put together from. -/
theorem slice_append {bytes mid post : Bytes} {start : ℕ} (pre : Bytes)
    (hbytes : bytes = pre ++ (mid ++ post)) (hstart : start = pre.length) :
    slice bytes start (start + mid.length) = mid := by
  rw [slice, hbytes, hstart, ← List.append_assoc, ← List.length_append, List.take_left,
    List.drop_left]

/-- The client accepts the trailer that it writes. -/
theorem verifyAndStripCrc_encodeEnvelope (headerBytes : Bytes) (typeName : String)
    (messageBytes : Bytes) :
    verifyAndStripCrc (encodeEnvelope headerBytes typeName messageBytes) =
      .ok (envelopeBody headerBytes typeName messageBytes) := by
  rw [encodeEnvelope_eq, verifyAndStripCrc_eq (by simp), crcAccepts_leBytes, if_pos rfl]
  simp

/-- The client's split of a frame finds the sections that it was put together from. -/
theorem splitEnvelopeFrame_encodeEnvelope (td : TextDecoder) (headerBytes : Bytes)
    (typeName : String) (messageBytes : Bytes) (hh : headerBytes.length < 2 ^ 32)
    (ht : (utf8 typeName).length < 2 ^ 32) :
    splitEnvelopeFrame td (encodeEnvelope headerBytes typeName messageBytes) =
      .ok ⟨td.decode (utf8 typeName), headerBytes, messageBytes⟩ := by
  have hbody : envelopeBody headerBytes typeName messageBytes =
      Varint.put32 headerBytes.length ++ (Varint.put32 (utf8 typeName).length ++
        (utf8 typeName ++ (headerBytes ++ messageBytes))) := by
    rw [envelopeBody, Nat.mod_eq_of_lt hh, Nat.mod_eq_of_lt ht]
  have hstrip := verifyAndStripCrc_encodeEnvelope headerBytes typeName messageBytes
  -- The two sizes and the three sections, each at the offset where the one before ends.
  set body := envelopeBody headerBytes typeName messageBytes
  set hs := Varint.put32 headerBytes.length
  set ts := Varint.put32 (utf8 typeName).length
  have hsize1 : Web.readVarint32 body 0 = .ok (headerBytes.length, 0 + hs.length) :=
    Web.readVarint32_put32 hh hbody
  have hsize2 : Web.readVarint32 body (0 + hs.length) =
      .ok ((utf8 typeName).length, 0 + hs.length + ts.length) :=
    Web.readVarint32_put32 ht (by rw [hbody, Nat.zero_add, List.drop_left])
  have htype : slice body (0 + hs.length + ts.length)
      (0 + hs.length + ts.length + (utf8 typeName).length) = utf8 typeName :=
    slice_append (hs ++ ts) (by rw [hbody, List.append_assoc]) (by simp)
  have hheader : slice body (0 + hs.length + ts.length + (utf8 typeName).length)
      (0 + hs.length + ts.length + (utf8 typeName).length + headerBytes.length) = headerBytes :=
    slice_append (hs ++ ts ++ utf8 typeName)
      (by rw [hbody, List.append_assoc, List.append_assoc])
      (by rw [List.length_append, List.length_append, Nat.zero_add])
  have hmessage : slice body
      (0 + hs.length + ts.length + (utf8 typeName).length + headerBytes.length) body.length =
        messageBytes := by
    rw [slice, List.take_length, hbody, Nat.zero_add, ← List.length_append, ← List.length_append,
      ← List.length_append, ← List.append_assoc, ← List.append_assoc, ← List.append_assoc,
      List.drop_left]
  unfold splitEnvelopeFrame
  simp only [hstrip, hsize1, hsize2, ok_bind, htype, hheader, hmessage]
  rfl

/-- The two codecs write the same bytes. -/
theorem encodeFrame_eq_encodeEnvelope {io : CodedIO} (hio : io.Spec) (headerBytes : Bytes)
    (typeName : String) (messageBytes : Bytes) :
    encodeFrame io headerBytes (utf8 typeName) messageBytes =
      encodeEnvelope headerBytes typeName messageBytes := by
  have hbody : frameBody io headerBytes (utf8 typeName) messageBytes =
      envelopeBody headerBytes typeName messageBytes := by
    simp only [frameBody, envelopeBody, hio.writeVarint32, UInt32.toNat_ofNat']
  rw [encodeEnvelope_eq, ← hbody]
  rfl

/-- The codecs agree on the wire. For all header bytes, type name, and message bytes, `encode` and
`encodeEnvelope` write the same frame; the client splits it into exactly those, less a byte order
mark at the start of the type name; and the server splits it into exactly those when its header
ends within the total bytes limit, and rejects it otherwise. -/
theorem codecs_agree {io : CodedIO} (hio : io.Spec) {td : TextDecoder} (htd : td.Spec)
    (headerBytes : Bytes) (typeName : String) (messageBytes : Bytes) (hheader : headerBytes ≠ [])
    (htype : utf8 typeName ≠ [])
    (hlen : (encodeEnvelope headerBytes typeName messageBytes).length < 2 ^ 31) :
    (∀ {H M : Type} (hdr : MessageType H) (msg : MessageType M) (h : H) (m : M),
      hdr.serialize h = some headerBytes → msg.serialize m = some messageBytes →
      msg.typeName = utf8 typeName →
      encode io hdr msg h m = some (encodeEnvelope headerBytes typeName messageBytes)) ∧
    splitEnvelopeFrame td (encodeFrame io headerBytes (utf8 typeName) messageBytes) =
      .ok ⟨dropByteOrderMark typeName, headerBytes, messageBytes⟩ ∧
    ∀ {H : Type} (hdr : MessageType H),
      decodeEnvelope io hdr (encodeEnvelope headerBytes typeName messageBytes) =
        if headerEnd headerBytes (utf8 typeName) ≤ totalBytesLimit then do
          let header ← orReject (hdr.parse headerBytes)
          if hdr.isInitialized header = true then .ok (header, utf8 typeName, messageBytes)
          else .error .rejected
        else .error .rejected := by
  have heq := encodeFrame_eq_encodeEnvelope hio headerBytes typeName messageBytes
  rw [← heq] at hlen
  have hparts : headerBytes.length < 2 ^ 32 ∧ (utf8 typeName).length < 2 ^ 32 := by
    simp only [encodeFrame, frameBody, List.length_append] at hlen
    omega
  -- The frames are equal, so that each side's split is that of its own frame.
  refine ⟨?_, ?_, ?_⟩
  · intro H M hdr msg h m hh hm ht
    rw [← heq, encode, hh, hm, ht]
    rfl
  · rw [heq, splitEnvelopeFrame_encodeEnvelope td _ _ _ hparts.1 hparts.2, htd typeName]
  · intro H hdr
    rw [← heq]
    exact decodeEnvelope_encodeFrame hio hdr _ _ _ hheader htype hlen hparts.1 hparts.2

/-- The agreement on a `BaseRequest` with the payload `hi`. -/
theorem codecs_agree_base_request :
    let headerBytes := 0x0a :: 0x03 :: utf8 "1.0"
    let frame := encodeEnvelope headerBytes "im.base.BaseRequest" (0x0a :: 0x02 :: utf8 "hi")
    splitEnvelopeFrame .replacing frame =
        .ok ⟨"im.base.BaseRequest", headerBytes, 0x0a :: 0x02 :: utf8 "hi"⟩ ∧
      decodeEnvelope .documented (singleField (utf8 "im.base.IMHeader")) frame =
        .ok (utf8 "1.0", utf8 "im.base.BaseRequest", 0x0a :: 0x02 :: utf8 "hi") := by
  intro headerBytes frame
  have hlen : frame.length < 2 ^ 31 := by
    rw [show frame = _ from encodeEnvelope_eq _ _ _]
    decide +kernel
  obtain ⟨-, hsplit, hdecode⟩ := codecs_agree CodedIO.documented_spec TextDecoder.replacing_spec
    headerBytes "im.base.BaseRequest" (0x0a :: 0x02 :: utf8 "hi") (by decide) (by decide +kernel)
    hlen
  rw [encodeFrame_eq_encodeEnvelope CodedIO.documented_spec] at hsplit
  refine ⟨hsplit, ?_⟩
  rw [hdecode]
  decide +kernel

/-- A header that holds only a version, of `n` bytes `a`. -/
def versionHeader (n : ℕ) : Bytes := 0x0a :: (Varint.put32 n ++ List.replicate n 0x61)

/-- Such a header is well formed. -/
theorem parse_versionHeader (name : Bytes) {n : ℕ} (h0 : 0 < n) (hn : n < 2 ^ 31) :
    (singleField name).parse (versionHeader n) = some (List.replicate n 0x61) := by
  have hne : List.replicate n (0x61 : UInt8) ≠ [] := by
    rw [ne_eq, List.replicate_eq_nil_iff]
    omega
  refine (singleField_spec name).parse_serialize _ _ ?_
  unfold singleField versionHeader
  simp only [List.length_replicate, if_neg hne, if_pos hn]

theorem versionHeader_length (n : ℕ) :
    n + 2 ≤ (versionHeader n).length ∧ (versionHeader n).length ≤ n + 6 := by
  have h := Varint.put_length 4 n
  simp only [versionHeader, List.length_cons, List.length_append, List.length_replicate,
    Varint.put32]
  omega

/-- The size of a frame is that of its sections and at most fourteen bytes more. -/
theorem encodeEnvelope_length_le (headerBytes : Bytes) (typeName : String) (messageBytes : Bytes) :
    (encodeEnvelope headerBytes typeName messageBytes).length ≤
      headerBytes.length + (utf8 typeName).length + messageBytes.length + 14 := by
  have h1 := Varint.put_length 4 (headerBytes.length % 2 ^ 32)
  have h2 := Varint.put_length 4 ((utf8 typeName).length % 2 ^ 32)
  rw [encodeEnvelope_eq, envelopeBody]
  simp only [List.length_append, leBytes_length, Varint.put32]
  omega

/-- The server rejects a frame of the client's whose header is 64 MiB long. -/
theorem decodeEnvelope_versionHeader {H : Type} (hdr : MessageType H) {n : ℕ}
    (hlimit : totalBytesLimit ≤ n) (hn : n < 2 ^ 30) :
    decodeEnvelope .documented hdr (encodeEnvelope (versionHeader n) "im.base.BaseRequest" []) =
      .error .rejected := by
  have htype : (utf8 "im.base.BaseRequest").length = 19 := by decide
  have hsize := versionHeader_length n
  have hlen := encodeEnvelope_length_le (versionHeader n) "im.base.BaseRequest" []
  rw [List.length_nil] at hlen
  rw [← encodeFrame_eq_encodeEnvelope CodedIO.documented_spec] at hlen ⊢
  rw [decodeEnvelope_encodeFrame CodedIO.documented_spec hdr (versionHeader n) _ _
    (List.cons_ne_nil _ _) (by decide) (by omega) (by omega) (by omega), if_neg]
  unfold headerEnd
  omega

/-- Where the codecs part. The server rejects the frame that the client writes for a well-formed
header of 64 MiB, and the client's split of a frame of the server's drops the byte order mark that
its type name starts with. -/
theorem codecs_disagree :
    (encodeEnvelope (versionHeader (2 ^ 26)) "im.base.BaseRequest" []).length < 2 ^ 31 ∧
    (singleField (utf8 "im.base.IMHeader")).parse (versionHeader (2 ^ 26)) ≠ none ∧
    decodeEnvelope .documented (singleField (utf8 "im.base.IMHeader"))
      (encodeEnvelope (versionHeader (2 ^ 26)) "im.base.BaseRequest" []) = .error .rejected ∧
    splitEnvelopeFrame .replacing
      (encodeFrame .documented (0x0a :: 0x03 :: utf8 "1.0") (utf8 "\uFEFFm") []) =
        .ok ⟨"m", 0x0a :: 0x03 :: utf8 "1.0", []⟩ := by
  -- The frame of 64 MiB is not computed: its size and split follow from the lemmas above.
  refine ⟨?_, ?_, ?_, ?_⟩
  · have htype : (utf8 "im.base.BaseRequest").length = 19 := by decide +kernel
    have hsize := (versionHeader_length (2 ^ 26)).2
    have hlen := encodeEnvelope_length_le (versionHeader (2 ^ 26)) "im.base.BaseRequest" []
    rw [List.length_nil] at hlen
    omega
  · rw [parse_versionHeader _ (by norm_num) (by norm_num)]
    exact Option.some_ne_none _
  · exact decodeEnvelope_versionHeader _ (by decide) (by norm_num)
  · rw [encodeFrame_eq_encodeEnvelope CodedIO.documented_spec,
      splitEnvelopeFrame_encodeEnvelope _ _ _ _ (by decide +kernel) (by decide +kernel),
      TextDecoder.replacing_spec]
    decide +kernel

/-! ## Errors -/

/-- A frame with a right trailer after a non-zero error whose bits lie in a window of 32 places:
both of the server's decoders reject it, and the client's check throws. -/
theorem rejected_of_burst (body e : Bytes)
    (hlen : e.length = (body ++ leBytes (calculateCRC32 body)).length) {k : ℕ}
    (hwin : InWindow 32 k (bitsOf e)) (he : true ∈ bitsOf e) :
    let x := xorBytes (body ++ leBytes (calculateCRC32 body)) e
    crcAccepts x = false ∧
    (∀ {H M : Type} (io : CodedIO) (hdr : MessageType H) (msg : MessageType M) (target : M),
      decode io hdr msg x target = .error .rejected ∧
      decodeEnvelope io hdr x = .error .rejected) ∧
    ∃ received calculated, verifyAndStripCrc x = .error (.crcMismatch received calculated) := by
  intro x
  have h4 : 4 ≤ (body ++ leBytes (calculateCRC32 body)).length := by simp
  have hx : crcAccepts x = false :=
    not_crcAccepts_of_burst hlen h4 (crcAccepts_leBytes body) hwin he
  have hx4 : 4 ≤ x.length := by
    rw [show x.length = min _ _ from List.length_zipWith]
    omega
  -- Each decoder checks the trailer before anything else.
  have hdata : dataWithoutCrc x = .error .rejected := by
    rw [dataWithoutCrc, if_neg (by omega), hx]
    rfl
  refine ⟨hx, ?_, ?_⟩
  · intro H M io hdr msg target
    unfold decode decodeEnvelope
    rw [hdata]
    exact ⟨rfl, rfl⟩
  · rw [verifyAndStripCrc_eq hx4, hx]
    exact ⟨_, _, rfl⟩

/-- Two flipped bits on either side of the start of the trailer of the frame with body `a`. -/
theorem rejected_of_burst_across_trailer :
    let x := xorBytes (utf8 "a" ++ leBytes (calculateCRC32 (utf8 "a"))) [0x80, 0x01, 0, 0, 0]
    crcAccepts x = false ∧
    (∀ {H M : Type} (io : CodedIO) (hdr : MessageType H) (msg : MessageType M) (target : M),
      decode io hdr msg x target = .error .rejected ∧
      decodeEnvelope io hdr x = .error .rejected) ∧
    ∃ received calculated, verifyAndStripCrc x = .error (.crcMismatch received calculated) := by
  have hwin : InWindow 32 7 (bitsOf [0x80, 0x01, 0, 0, 0]) := by
    have hlow : ∀ i < 40, (bitsOf [0x80, 0x01, 0, 0, 0])[i]? = some true → 7 ≤ i ∧ i < 39 := by
      decide +kernel
    intro i hi
    have hi40 := List.getElem?_eq_some_iff.mp hi
    exact hlow i hi40.1 hi
  exact rejected_of_burst (utf8 "a") [0x80, 0x01, 0, 0, 0] (by decide +kernel) hwin
    (by decide +kernel)

end MyChat.Codec
