import MyChat.Codec.Envelope

/-!
# `decode` against `decodeEnvelope`

The two decoders of the server walk a frame up to its message in the same way (`readSections`) and
part there. `decodeEnvelope` returns the type name and the bytes that are left. `decode` parses
these bytes into the caller's object and compares the type name with the object's, but only when
there is a byte left: the frame of a message with no bytes, which is one with every field at its
default, is accepted with any type name and leaves the object as it was.

`decodersAgree_iff` says that this is the only difference, for every input and every object.
-/

namespace MyChat.Codec

/-! ## The sections of a frame -/

theorem readRange_eq_ok {data bytes : Bytes} {start len : ℕ}
    (h : readRange data start len = .ok bytes) :
    start + len ≤ data.length ∧ bytes = (data.drop start).take len := by
  unfold readRange at h
  split_ifs at h with hlen
  exact ⟨hlen, (Except.ok.inj h).symm⟩

/-- A `uint32_t` count that is skipped is not negative as an `int`, and that many bytes remain
before the end of the data and the limit. -/
theorem skip_asInt {io : CodedIO} (hio : io.Spec) {data : Bytes} {limit pos pos' : ℕ} {n : UInt32}
    (h : io.skip data limit pos (asInt n.toNat) = some pos') :
    pos' = pos + n.toNat ∧ pos' ≤ min data.length limit := by
  have hn := n.toNat_lt
  rw [hio.skip] at h
  split_ifs at h with hcount
  obtain ⟨hnonneg, hle⟩ := hcount
  have hsmall : n.toNat < 2 ^ 31 := by
    by_contra hlarge
    have hneg : asInt n.toNat = n.toNat - 2 ^ 32 := by
      rw [asInt, Int.bmod_def]
      omega
    omega
  have hcast : asInt n.toNat = n.toNat := Int.bmod_eq_of_le (by omega) (by omega)
  rw [hcast] at hle h
  rw [Int.toNat_natCast, Option.some.injEq] at h
  omega

/-- The sections of a frame are returned exactly when the declared sizes pass the check, and the
sections end within the data and the total bytes limit. -/
theorem readSections_eq_ok {io : CodedIO} (hio : io.Spec) {data : Bytes} {s : Sections} :
    readSections io data = .ok s ↔ ∃ hs ts p, Declares io data hs ts p ∧
      hs + ts ≤ UInt32.ofInt (asInt data.length - p) ∧
      p + ts.toNat + hs.toNat ≤ min data.length totalBytesLimit ∧
      s = ⟨(data.drop p).take ts.toNat, (data.drop (p + ts.toNat)).take hs.toNat,
        p + ts.toNat + hs.toNat⟩ := by
  have h26 : totalBytesLimit = 2 ^ 26 := rfl
  constructor
  · intro h
    -- Sizes that are not read, or are zero, are rejected.
    have hdecl : ∃ hs ts p, Declares io data hs ts p := by
      by_contra hnone
      push Not at hnone
      rw [readSections_of_not_declares hnone] at h
      simp at h
    obtain ⟨hs, ts, p, hd⟩ := hdecl
    rw [hd.readSections_eq] at h
    split_ifs at h with hcheck
    obtain ⟨typeName, htype, h⟩ := bind_eq_ok.mp h
    obtain ⟨pos, hskip, h⟩ := bind_eq_ok.mp h
    obtain ⟨headerData, hheader, h⟩ := bind_eq_ok.mp h
    obtain ⟨pos', hskip', h⟩ := bind_eq_ok.mp h
    obtain ⟨rfl, -⟩ := skip_asInt hio (orReject_eq_ok.mp hskip)
    obtain ⟨rfl, hfit⟩ := skip_asInt hio (orReject_eq_ok.mp hskip')
    obtain ⟨-, rfl⟩ := readRange_eq_ok htype
    obtain ⟨-, rfl⟩ := readRange_eq_ok hheader
    exact ⟨hs, ts, p, hd, UInt32.not_lt.mp hcheck, hfit, (Except.ok.inj h).symm⟩
  · rintro ⟨hs, ts, p, hd, hcheck, hfit, rfl⟩
    rw [hd.readSections_eq, if_neg (UInt32.not_lt.mpr hcheck), readRange_ok (by omega), ok_bind,
      skip_small hio _ _ _ (by omega), if_pos (by omega), orReject_some, ok_bind,
      readRange_ok (by omega), ok_bind, skip_small hio _ _ _ (by omega), if_pos (by omega)]
    rfl

/-! ## The end of a frame -/

/-- The input is a frame with the type name `typeName` and the header `headerData` and nothing
after them: its trailer is right, its declared sizes pass the check of the decoders, the sections
end within the data and the total bytes limit, and the `int` that is left for the message is not
positive. -/
def EndsAtHeader (io : CodedIO) (input typeName headerData : Bytes) : Prop :=
  ∃ data hs ts p, dataWithoutCrc input = .ok data ∧ Declares io data hs ts p ∧
    hs + ts ≤ UInt32.ofInt (asInt data.length - p) ∧
    p + ts.toNat + hs.toNat ≤ min data.length totalBytesLimit ∧
    asInt data.length ≤ p + ts.toNat + hs.toNat ∧
    typeName = (data.drop p).take ts.toNat ∧
    headerData = (data.drop (p + ts.toNat)).take hs.toNat

/-- `decode` into `target` succeeds exactly when `decodeEnvelope` does with the type name of `msg`
and bytes that parse as it; and when it does, the two headers are equal and the message is the one
that was parsed. -/
def DecodersAgree {H M : Type} (io : CodedIO) (hdr : MessageType H) (msg : MessageType M)
    (input : Bytes) (target : M) : Prop :=
  ((∃ header message, decode io hdr msg input target = .ok (header, message)) ↔
    ∃ header bytes message, decodeEnvelope io hdr input = .ok (header, msg.typeName, bytes) ∧
      msg.parse bytes = some message) ∧
  ∀ header message, decode io hdr msg input target = .ok (header, message) →
    ∃ bytes, decodeEnvelope io hdr input = .ok (header, msg.typeName, bytes) ∧
      msg.parse bytes = some message

section Walks

variable {io : CodedIO} (hio : io.Spec) {H M : Type} {hdr : MessageType H} {msg : MessageType M}
include hio

/-- The sections of a frame end with the header exactly when no byte is left for the message. -/
theorem endsAtHeader_iff {input typeName headerData : Bytes} :
    EndsAtHeader io input typeName headerData ↔ ∃ data s, dataWithoutCrc input = .ok data ∧
      readSections io data = .ok s ∧ asInt data.length - s.messagePosition ≤ 0 ∧
      typeName = s.typeName ∧ headerData = s.headerData := by
  constructor
  · rintro ⟨data, hs, ts, p, hdata, hd, hcheck, hfit, hend, rfl, rfl⟩
    have hs' := (readSections_eq_ok hio).mpr ⟨hs, ts, p, hd, hcheck, hfit, rfl⟩
    refine ⟨data, _, hdata, hs', ?_, rfl, rfl⟩
    push_cast
    omega
  · rintro ⟨data, s, hdata, hs', hend, rfl, rfl⟩
    obtain ⟨hs, ts, p, hd, hcheck, hfit, rfl⟩ := (readSections_eq_ok hio).mp hs'
    refine ⟨data, hs, ts, p, hdata, hd, hcheck, hfit, ?_, rfl, rfl⟩
    push_cast at hend
    omega

/-- The message starts inside the data, or at its end. -/
theorem messagePosition_le {data : Bytes} {s : Sections} (hs : readSections io data = .ok s) :
    s.messagePosition ≤ data.length := by
  obtain ⟨hh, ts, p, -, -, hfit, rfl⟩ := (readSections_eq_ok hio).mp hs
  exact le_trans hfit (min_le_left _ _)

omit hio in
/-- What `decode` did when it succeeds. -/
theorem decode_eq_ok {input : Bytes} {target message : M} {header : H} :
    decode io hdr msg input target = .ok (header, message) ↔ ∃ data s,
      dataWithoutCrc input = .ok data ∧ readSections io data = .ok s ∧
      hdr.parse s.headerData = some header ∧ hdr.isInitialized header = true ∧
      decodeMessage msg data s target = .ok message := by
  unfold decode
  simp only [bind_eq_ok, orReject_eq_ok]
  constructor
  · rintro ⟨data, hdata, s, hs, header', hparse, message', hmessage, h⟩
    split_ifs at h with hinit
    obtain ⟨rfl, rfl⟩ := Prod.mk.inj (Except.ok.inj h)
    exact ⟨data, s, hdata, hs, hparse, hinit, hmessage⟩
  · rintro ⟨data, s, hdata, hs, hparse, hinit, hmessage⟩
    exact ⟨data, hdata, s, hs, header, hparse, message, hmessage, if_pos hinit⟩

omit hio in
/-- What `decodeEnvelope` did when it succeeds. -/
theorem decodeEnvelope_eq_ok {input typeName bytes : Bytes} {header : H} :
    decodeEnvelope io hdr input = .ok (header, typeName, bytes) ↔ ∃ data s,
      dataWithoutCrc input = .ok data ∧ readSections io data = .ok s ∧
      hdr.parse s.headerData = some header ∧ hdr.isInitialized header = true ∧
      readRange data s.messagePosition
        (max (asInt data.length - s.messagePosition) 0).toNat = .ok bytes ∧
      s.typeName = typeName := by
  unfold decodeEnvelope
  simp only [bind_eq_ok, orReject_eq_ok]
  constructor
  · rintro ⟨data, hdata, s, hs, header', hparse, h⟩
    split_ifs at h with hinit
    obtain ⟨bytes', hbytes, h⟩ := bind_eq_ok.mp h
    obtain ⟨rfl, rfl, rfl⟩ := by simpa [pure, Except.pure] using h
    exact ⟨data, s, hdata, hs, hparse, hinit, hbytes, rfl⟩
  · rintro ⟨data, s, hdata, hs, hparse, hinit, hbytes, rfl⟩
    refine ⟨data, hdata, s, hs, header, hparse, ?_⟩
    rw [if_pos hinit, hbytes]
    rfl

variable (msg) in
/-- A frame that ends with its header: `decode` returns the object as it was, and `decodeEnvelope`
the frame's type name and no bytes. -/
theorem decoders_of_endsAtHeader {input typeName headerData : Bytes} (target : M) {header : H}
    (hend : EndsAtHeader io input typeName headerData)
    (hparse : hdr.parse headerData = some header) (hinit : hdr.isInitialized header = true) :
    decode io hdr msg input target = .ok (header, target) ∧
      decodeEnvelope io hdr input = .ok (header, typeName, []) := by
  obtain ⟨data, s, hdata, hs, hsize, rfl, rfl⟩ := (endsAtHeader_iff hio).mp hend
  have hpos := messagePosition_le hio hs
  constructor
  · refine decode_eq_ok.mpr ⟨data, s, hdata, hs, hparse, hinit, ?_⟩
    unfold decodeMessage
    rw [if_neg (by omega)]
  · refine decodeEnvelope_eq_ok.mpr ⟨data, s, hdata, hs, hparse, hinit, ?_, rfl⟩
    rw [max_eq_right hsize, Int.toNat_zero, readRange_ok (by omega), List.take_zero]

omit hio in
/-- `decode` returns a message exactly when `decodeEnvelope` returns the type name of `msg` and
bytes that parse as it, provided that no bytes parse as the object when no byte is left. -/
theorem decodeMessage_eq_ok (hM : msg.Spec) {data : Bytes} {s : Sections} {target message : M}
    (hpos : s.messagePosition ≤ data.length)
    (hend : asInt data.length - s.messagePosition ≤ 0 →
      s.typeName = msg.typeName ∧ target = msg.fresh) :
    decodeMessage msg data s target = .ok message ↔ ∃ bytes,
      readRange data s.messagePosition
        (max (asInt data.length - s.messagePosition) 0).toNat = .ok bytes ∧
      s.typeName = msg.typeName ∧ msg.parse bytes = some message := by
  unfold decodeMessage
  by_cases hsize : 0 < asInt data.length - s.messagePosition
  · -- The bytes are parsed first, and then the type names are compared.
    rw [if_pos hsize, max_eq_left hsize.le]
    simp only [bind_eq_ok, orReject_eq_ok, hM.isInitialized, true_and]
    constructor
    · rintro ⟨bytes, hbytes, message', hparse, h⟩
      split_ifs at h with htype
      obtain rfl := Except.ok.inj h
      exact ⟨bytes, hbytes, htype, hparse⟩
    · rintro ⟨bytes, hbytes, htype, hparse⟩
      exact ⟨bytes, hbytes, message, hparse, if_pos htype⟩
  · -- No bytes parse as a new object, which the object is.
    obtain ⟨htype, htarget⟩ := hend (not_lt.mp hsize)
    have hbytes : readRange data s.messagePosition 0 = .ok [] := by
      rw [readRange_ok (by omega), List.take_zero]
    rw [if_neg hsize, max_eq_right (not_lt.mp hsize), Int.toNat_zero, hbytes]
    constructor
    · intro h
      rw [← Except.ok.inj h]
      exact ⟨[], rfl, htype, by rw [hM.parse_nil, htarget]⟩
    · rintro ⟨bytes, hnil, -, hparse⟩
      rw [← Except.ok.inj hnil, hM.parse_nil, ← htarget] at hparse
      rw [Option.some.inj hparse]

end Walks

/-! ## Agreement -/

/-- The two decoders agree on an input and an object exactly when the input is no frame that ends
with a well-formed header, or it has the object's type name and the object is as a new one. -/
theorem decodersAgree_iff {io : CodedIO} (hio : io.Spec) {H M : Type} (hdr : MessageType H)
    {msg : MessageType M} (hM : msg.Spec) (input : Bytes) (target : M) :
    DecodersAgree io hdr msg input target ↔
      ∀ typeName headerData header, EndsAtHeader io input typeName headerData →
        hdr.parse headerData = some header → hdr.isInitialized header = true →
        typeName = msg.typeName ∧ target = msg.fresh := by
  constructor
  · rintro ⟨-, hsame⟩ typeName headerData header hend hparse hinit
    obtain ⟨hdec, henv⟩ := decoders_of_endsAtHeader hio msg target hend hparse hinit
    obtain ⟨bytes, henv', htarget⟩ := hsame header target hdec
    rw [henv, Except.ok.injEq, Prod.mk.injEq, Prod.mk.injEq] at henv'
    obtain ⟨-, htype, rfl⟩ := henv'
    rw [hM.parse_nil] at htarget
    exact ⟨htype, (Option.some.inj htarget).symm⟩
  · intro hends
    -- After the walk that they share, the two calls differ in what they do with the message only.
    have hboth : ∀ header message, decode io hdr msg input target = .ok (header, message) ↔
        ∃ bytes, decodeEnvelope io hdr input = .ok (header, msg.typeName, bytes) ∧
          msg.parse bytes = some message := by
      intro header message
      simp only [decode_eq_ok, decodeEnvelope_eq_ok]
      constructor
      · rintro ⟨data, s, hdata, hs, hparse, hinit, hmessage⟩
        obtain ⟨bytes, hbytes, htype, hmsg⟩ :=
          (decodeMessage_eq_ok hM (messagePosition_le hio hs) fun hsize =>
            hends _ _ header ((endsAtHeader_iff hio).mpr ⟨data, s, hdata, hs, hsize, rfl, rfl⟩)
              hparse hinit).mp hmessage
        exact ⟨bytes, ⟨data, s, hdata, hs, hparse, hinit, hbytes, htype⟩, hmsg⟩
      · rintro ⟨bytes, ⟨data, s, hdata, hs, hparse, hinit, hbytes, htype⟩, hmsg⟩
        refine ⟨data, s, hdata, hs, hparse, hinit, ?_⟩
        exact (decodeMessage_eq_ok hM (messagePosition_le hio hs) fun hsize =>
          hends _ _ header ((endsAtHeader_iff hio).mpr ⟨data, s, hdata, hs, hsize, rfl, rfl⟩)
            hparse hinit).mpr ⟨bytes, hbytes, htype, hmsg⟩
    refine ⟨?_, fun header message h => (hboth header message).mp h⟩
    simp only [hboth]
    exact ⟨fun ⟨header, message, bytes, h⟩ => ⟨header, bytes, message, h⟩,
      fun ⟨header, bytes, message, h⟩ => ⟨header, message, bytes, h⟩⟩

/-- The frame of a `BaseRequest` with no payload, under a header that holds only the version
`1.0`. -/
def emptyRequestFrame : Bytes :=
  encodeFrame .documented (0x0a :: 0x03 :: utf8 "1.0") (utf8 "im.base.BaseRequest") []

/-- The data of `emptyRequestFrame` and the sizes that it declares. -/
theorem emptyRequestFrame_declares :
    ∃ data, dataWithoutCrc emptyRequestFrame = .ok data ∧ data.length = 26 ∧
      Declares .documented data 5 19 2 ∧ (data.drop 2).take 19 = utf8 "im.base.BaseRequest" := by
  refine ⟨_, dataWithoutCrc_encodeFrame _ _ _ _, by decide,
    ⟨⟨1, by decide, by decide⟩, by decide, by decide⟩, by decide⟩

/-- The decoders agree on `emptyRequestFrame` and a new `BaseRequest`. -/
theorem decodersAgree_emptyRequestFrame :
    DecodersAgree .documented (singleField (utf8 "im.base.IMHeader"))
      (singleField (utf8 "im.base.BaseRequest")) emptyRequestFrame [] := by
  refine (decodersAgree_iff CodedIO.documented_spec _ (singleField_spec _) _ _).mpr ?_
  rintro typeName headerData header ⟨data, hs, ts, p, hdata, hd, -, -, -, rfl, -⟩ - -
  obtain ⟨data', hdata', -, hd', htype⟩ := emptyRequestFrame_declares
  rw [hdata', Except.ok.injEq] at hdata
  obtain rfl := hdata
  obtain ⟨rfl, rfl, rfl⟩ := hd.unique hd'
  exact ⟨htype, rfl⟩

/-- The declared sizes of `emptyRequestFrame` fit. `decode` takes it for a `BaseResponse`, and takes
a `BaseRequest` that held the payload `x` for the one that it decoded. -/
theorem decoders_disagree :
    ¬ SizesDoNotFit .documented emptyRequestFrame ∧
    decode .documented (singleField (utf8 "im.base.IMHeader"))
      (singleField (utf8 "im.base.BaseResponse")) emptyRequestFrame [] = .ok (utf8 "1.0", []) ∧
    ¬ DecodersAgree .documented (singleField (utf8 "im.base.IMHeader"))
      (singleField (utf8 "im.base.BaseResponse")) emptyRequestFrame [] ∧
    decode .documented (singleField (utf8 "im.base.IMHeader"))
      (singleField (utf8 "im.base.BaseRequest")) emptyRequestFrame (utf8 "x") =
        .ok (utf8 "1.0", utf8 "x") ∧
    ¬ DecodersAgree .documented (singleField (utf8 "im.base.IMHeader"))
      (singleField (utf8 "im.base.BaseRequest")) emptyRequestFrame (utf8 "x") := by
  have henv : decodeEnvelope .documented (singleField (utf8 "im.base.IMHeader"))
      emptyRequestFrame = .ok (utf8 "1.0", utf8 "im.base.BaseRequest", []) := by decide +kernel
  have htype : decode .documented (singleField (utf8 "im.base.IMHeader"))
      (singleField (utf8 "im.base.BaseResponse")) emptyRequestFrame [] =
        .ok (utf8 "1.0", []) := by decide +kernel
  have hobject : decode .documented (singleField (utf8 "im.base.IMHeader"))
      (singleField (utf8 "im.base.BaseRequest")) emptyRequestFrame (utf8 "x") =
        .ok (utf8 "1.0", utf8 "x") := by decide +kernel
  refine ⟨?_, htype, ?_, hobject, ?_⟩
  · rintro ⟨data, hs, ts, p, hdata, hd, hlarge⟩
    obtain ⟨data', hdata', hlen, hd', -⟩ := emptyRequestFrame_declares
    rw [hdata', Except.ok.injEq] at hdata
    obtain rfl := hdata
    obtain ⟨rfl, rfl, rfl⟩ := hd.unique hd'
    rw [hlen] at hlarge
    exact absurd hlarge (by decide)
  · rintro ⟨-, hsame⟩
    obtain ⟨bytes, henv', -⟩ := hsame _ _ htype
    rw [henv, Except.ok.injEq, Prod.mk.injEq, Prod.mk.injEq] at henv'
    exact absurd henv'.2.1 (by decide +kernel)
  · rintro ⟨-, hsame⟩
    obtain ⟨bytes, henv', hparse⟩ := hsame _ _ hobject
    rw [henv, Except.ok.injEq, Prod.mk.injEq, Prod.mk.injEq] at henv'
    obtain ⟨-, -, rfl⟩ := henv'
    exact absurd hparse (by decide +kernel)

end MyChat.Codec
