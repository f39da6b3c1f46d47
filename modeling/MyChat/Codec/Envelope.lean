import MyChat.Codec.ProtobufCodec

/-!
# What the frame decoders read and return

The two sizes of a frame decide everything that `readSections` does, and there are three cases.
When the sections that they declare fit the data, it returns them, unless they end past the total
bytes limit (`readSections_fits`). When they do not fit, it rejects the frame as long as the
`uint32_t` sum of the two sizes is their sum (`readSections_too_large`). When that sum wraps around,
the check compares a small number with the bytes that remain, and a frame that passes makes the
code copy a range that leaves the data (`readSections_wraps`): the type name if its size alone does
not fit, and otherwise the header, whose size is then at least `2^31`.

`readsInside_iff` puts the cases together. `decode_encode` is the round trip of a frame of
at most 64 MiB.
-/

namespace MyChat.Codec

/-! ## Except -/

@[simp] theorem ok_bind {ε α β : Type} (a : α) (f : α → Except ε β) :
    (Except.ok a >>= f) = f a := rfl

@[simp] theorem error_bind {ε α β : Type} (e : ε) (f : α → Except ε β) :
    (Except.error e >>= f) = .error e := rfl

@[simp] theorem orReject_some {α : Type} (a : α) : orReject (some a) = .ok a := rfl

@[simp] theorem orReject_none {α : Type} : orReject (none : Option α) = .error .rejected := rfl

/-- A computation that went through did each of its steps. -/
theorem bind_eq_ok {ε α β : Type} {x : Except ε α} {f : α → Except ε β} {b : β} :
    x >>= f = .ok b ↔ ∃ a, x = .ok a ∧ f a = .ok b := by
  cases x with
  | error e => simp
  | ok a => simp

theorem orReject_eq_ok {α : Type} {x : Option α} {a : α} : orReject x = .ok a ↔ x = some a := by
  cases x with
  | none => simp
  | some b => simp

/-! ## The stream -/

section Stream

variable {io : CodedIO} (hio : io.Spec)
include hio

/-- A varint that was read ends after its start, inside the data and the limit. -/
theorem readVarint32_pos {data : Bytes} {limit pos p : ℕ} {v : UInt32}
    (h : io.readVarint32 data limit pos = some (v, p)) :
    pos < p ∧ p ≤ data.length ∧ p ≤ limit := by
  rw [hio.readVarint32, Option.map_eq_some_iff] at h
  obtain ⟨⟨v', n⟩, hget, heq⟩ := h
  obtain ⟨h1, h2⟩ := Varint.get_length hget
  simp only [Prod.mk.injEq] at heq
  rw [List.length_drop, List.length_take] at h2
  omega

/-- Reading a varint that was written after `pre`, when the limit leaves room for it. -/
theorem readVarint32_put32 (pre rest : Bytes) {limit v : ℕ} (hv : v < 2 ^ 32)
    (hlimit : pre.length + 5 ≤ limit) :
    io.readVarint32 (pre ++ (Varint.put32 v ++ rest)) limit pre.length =
      some (UInt32.ofNat v, pre.length + (Varint.put32 v).length) := by
  have hlen : (Varint.put32 v).length ≤ 5 := (Varint.put_length 4 v).2
  -- What the reader sees from `pre.length` on, up to the limit, starts with the whole varint.
  have hdata : ((pre ++ (Varint.put32 v ++ rest)).take limit).drop pre.length =
      Varint.put32 v ++ rest.take (limit - pre.length - (Varint.put32 v).length) := by
    rw [List.drop_take, List.drop_left, List.take_append, List.take_of_length_le (by omega)]
  rw [hio.readVarint32, hdata, Varint.get_put32 _ _ hv]
  rfl

/-- Skipping a count below `2^31` succeeds exactly when that many bytes remain. -/
theorem skip_small (data : Bytes) (limit pos : ℕ) {n : ℕ} (hn : n < 2 ^ 31) :
    io.skip data limit pos (asInt n) =
      if pos + n ≤ data.length ∧ pos + n ≤ limit then some (pos + n) else none := by
  have hcast : asInt n = n := Int.bmod_eq_of_le (by omega) (by omega)
  rw [hio.skip, hcast]
  have hiff : (0 ≤ (n : ℤ) ∧ (pos : ℤ) + n ≤ (min data.length limit : ℕ)) ↔
      (pos + n ≤ data.length ∧ pos + n ≤ limit) := by omega
  simp only [hiff, Int.toNat_natCast]

end Stream

/-- The bytes that remain after the two sizes, as the `uint32_t` that the check compares with. -/
theorem remainingBytes_toNat {data : Bytes} {p : ℕ} (hlen : data.length < 2 ^ 31)
    (hp : p ≤ data.length) :
    (UInt32.ofInt (asInt data.length - p)).toNat = data.length - p := by
  have hcast : asInt data.length = data.length := Int.bmod_eq_of_le (by omega) (by omega)
  have hsub : ((data.length : ℤ) - p) % 2 ^ 32 = ((data.length - p : ℕ) : ℤ) := by omega
  rw [hcast, UInt32.ofInt, hsub, Int.toNat_natCast, UInt32.toNat_ofNat']
  omega

theorem readRange_ok {data : Bytes} {start len : ℕ} (h : start + len ≤ data.length) :
    readRange data start len = .ok ((data.drop start).take len) := if_pos h

theorem readRange_outOfBounds {data : Bytes} {start len : ℕ} (h : data.length < start + len) :
    readRange data start len = .error (.outOfBounds start len) := if_neg (by omega)

/-! ## The cases of the two sizes -/

/-- The data declares the sizes `headerSize` and `typeNameSize`, neither zero, in its first `pos`
bytes. -/
structure Declares (io : CodedIO) (data : Bytes) (headerSize typeNameSize : UInt32) (pos : ℕ) :
    Prop where
  /-- Both sizes are read. -/
  sizes : ∃ mid, io.readVarint32 data totalBytesLimit 0 = some (headerSize, mid) ∧
    io.readVarint32 data totalBytesLimit mid = some (typeNameSize, pos)
  /-- The header's size is not zero. -/
  headerSize_ne : headerSize ≠ 0
  /-- The type name's size is not zero. -/
  typeNameSize_ne : typeNameSize ≠ 0

/-- The `uint32_t` sum of the two sizes wraps around to at most the bytes that remain after them,
and the type name, if it fits, ends within the total bytes limit. -/
def Wraps (data : Bytes) (headerSize typeNameSize : UInt32) (pos : ℕ) : Prop :=
  2 ^ 32 ≤ headerSize.toNat + typeNameSize.toNat ∧
    (headerSize.toNat + typeNameSize.toNat) % 2 ^ 32 ≤ data.length - pos ∧
    (data.length < pos + typeNameSize.toNat ∨ pos + typeNameSize.toNat ≤ totalBytesLimit)

section Sizes

variable {io : CodedIO} (hio : io.Spec) {data : Bytes} {hs ts : UInt32} {p : ℕ}
include hio

theorem Declares.pos_le (hd : Declares io data hs ts p) : p ≤ data.length := by
  obtain ⟨mid, -, h2⟩ := hd.sizes
  exact (readVarint32_pos hio h2).2.1

omit hio in
/-- What `readSections` does after the two sizes. -/
theorem Declares.readSections_eq (hd : Declares io data hs ts p) :
    readSections io data =
      if hs + ts > UInt32.ofInt (asInt data.length - p) then .error .rejected
      else do
        let typeName ← readRange data p ts.toNat
        let pos ← orReject (io.skip data totalBytesLimit p (asInt ts.toNat))
        let headerData ← readRange data (p + ts.toNat) hs.toNat
        let pos ← orReject (io.skip data totalBytesLimit pos (asInt hs.toNat))
        return ⟨typeName, headerData, pos⟩ := by
  obtain ⟨mid, h1, h2⟩ := hd.sizes
  unfold readSections
  rw [h1, orReject_some, ok_bind]
  simp only [h2, orReject_some, ok_bind]
  rw [if_neg (by simp [hd.headerSize_ne, hd.typeNameSize_ne])]

/-- Sections that fit are returned, unless they end past the total bytes limit. -/
theorem readSections_fits (hlen : data.length < 2 ^ 31) (hd : Declares io data hs ts p)
    (hfit : p + ts.toNat + hs.toNat ≤ data.length) :
    readSections io data =
      if p + ts.toNat + hs.toNat ≤ totalBytesLimit then
        .ok ⟨(data.drop p).take ts.toNat, (data.drop (p + ts.toNat)).take hs.toNat,
          p + ts.toNat + hs.toNat⟩
      else .error .rejected := by
  have hp := hd.pos_le hio
  have hrem := remainingBytes_toNat hlen hp
  -- Sizes that fit have a sum below `2^31`, which does not wrap.
  have hsum : (hs + ts).toNat = hs.toNat + ts.toNat := by
    rw [UInt32.toNat_add]; omega
  rw [hd.readSections_eq, if_neg (by rw [gt_iff_lt, UInt32.lt_iff_toNat_lt, hrem, hsum]; omega),
    readRange_ok (by omega), ok_bind, skip_small hio _ _ _ (by omega)]
  by_cases h1 : p + ts.toNat ≤ totalBytesLimit
  · rw [if_pos ⟨by omega, h1⟩, orReject_some, ok_bind, readRange_ok (by omega), ok_bind,
      skip_small hio _ _ _ (by omega)]
    by_cases h2 : p + ts.toNat + hs.toNat ≤ totalBytesLimit
    · rw [if_pos ⟨hfit, h2⟩, if_pos h2]
      rfl
    · rw [if_neg (by omega), if_neg h2]
      rfl
  · rw [if_neg (by omega), if_neg (by omega)]
    rfl

/-- Sections that do not fit are rejected when the `uint32_t` sum of the sizes does not wrap, or
wraps to more than the bytes that remain. -/
theorem readSections_too_large (hlen : data.length < 2 ^ 31) (hd : Declares io data hs ts p)
    (hlarge : data.length - p < (hs.toNat + ts.toNat) % 2 ^ 32) :
    readSections io data = .error .rejected := by
  have hrem := remainingBytes_toNat hlen (hd.pos_le hio)
  rw [hd.readSections_eq, if_pos]
  rw [gt_iff_lt, UInt32.lt_iff_toNat_lt, hrem, UInt32.toNat_add]
  exact hlarge

/-- When the sum wraps to at most the bytes that remain, the code copies a range that leaves the
data, unless the type name fits and ends past the total bytes limit. -/
theorem readSections_wraps (hlen : data.length < 2 ^ 31) (hd : Declares io data hs ts p)
    (hw : Wraps data hs ts p) :
    ∃ start len, readSections io data = .error (.outOfBounds start len) := by
  obtain ⟨hwrap, hsmall, hlimit⟩ := hw
  have hp := hd.pos_le hio
  have hrem := remainingBytes_toNat hlen hp
  have hhs := hs.toNat_lt
  have hts := ts.toNat_lt
  rw [hd.readSections_eq,
    if_neg (by rw [gt_iff_lt, UInt32.lt_iff_toNat_lt, hrem, UInt32.toNat_add]; omega)]
  by_cases htype : p + ts.toNat ≤ data.length
  · -- The type name fits, so the header's size is `2^31` or more and its range does not.
    rw [readRange_ok htype, ok_bind, skip_small hio _ _ _ (by omega)]
    rw [if_pos ⟨htype, by omega⟩, orReject_some, ok_bind, readRange_outOfBounds (by omega),
      error_bind]
    exact ⟨_, _, rfl⟩
  · rw [readRange_outOfBounds (by omega), error_bind]
    exact ⟨_, _, rfl⟩

/-- A type name that fits but ends past the total bytes limit is not skipped. -/
theorem readSections_past_limit (hlen : data.length < 2 ^ 31) (hd : Declares io data hs ts p)
    (htype : p + ts.toNat ≤ data.length) (hlimit : totalBytesLimit < p + ts.toNat) :
    readSections io data = .error .rejected := by
  rw [hd.readSections_eq]
  split_ifs
  · rfl
  · rw [readRange_ok htype, ok_bind, skip_small hio _ _ _ (by omega), if_neg (by omega)]
    rfl

end Sizes

/-- `readSections` stops before the sizes are used when one of them is not read or is zero. -/
theorem readSections_of_not_declares {io : CodedIO} {data : Bytes}
    (h : ∀ hs ts p, ¬ Declares io data hs ts p) : readSections io data = .error .rejected := by
  unfold readSections
  cases h1 : io.readVarint32 data totalBytesLimit 0 with
  | none => rfl
  | some r1 =>
    obtain ⟨hs, mid⟩ := r1
    rw [orReject_some, ok_bind]
    simp only
    cases h2 : io.readVarint32 data totalBytesLimit mid with
    | none => rfl
    | some r2 =>
      obtain ⟨ts, p⟩ := r2
      rw [orReject_some, ok_bind]
      simp only
      -- Both sizes were read, so that one of them is zero.
      rw [if_pos]
      by_contra hne
      rw [not_or] at hne
      exact h hs ts p ⟨⟨mid, h1, h2⟩, hne.1, hne.2⟩

/-- Everything that `readSections` can do: reject, return sections that fit the data and the limit,
or read outside the data after a sum that wrapped. -/
theorem readSections_cases {io : CodedIO} (hio : io.Spec) {data : Bytes}
    (hlen : data.length < 2 ^ 31) :
    readSections io data = .error .rejected ∨
    (∃ hs ts p, Declares io data hs ts p ∧ p + ts.toNat + hs.toNat ≤ data.length ∧
      readSections io data = .ok ⟨(data.drop p).take ts.toNat,
        (data.drop (p + ts.toNat)).take hs.toNat, p + ts.toNat + hs.toNat⟩) ∨
    (∃ hs ts p, Declares io data hs ts p ∧ Wraps data hs ts p ∧
      ∃ start len, readSections io data = .error (.outOfBounds start len)) := by
  by_cases hdecl : ∃ hs ts p, Declares io data hs ts p
  · obtain ⟨hs, ts, p, hd⟩ := hdecl
    have hp := hd.pos_le hio
    have hhs := hs.toNat_lt
    have hts := ts.toNat_lt
    by_cases hfit : p + ts.toNat + hs.toNat ≤ data.length
    · rw [readSections_fits hio hlen hd hfit]
      split_ifs
      · exact .inr (.inl ⟨hs, ts, p, hd, hfit, rfl⟩)
      · exact .inl rfl
    · -- The sizes do not fit: the sum wraps, is too large, or the limit stops the reader.
      by_cases hw : Wraps data hs ts p
      · exact .inr (.inr ⟨hs, ts, p, hd, hw, readSections_wraps hio hlen hd hw⟩)
      · left
        by_cases hlarge : data.length - p < (hs.toNat + ts.toNat) % 2 ^ 32
        · exact readSections_too_large hio hlen hd hlarge
        · unfold Wraps at hw
          exact readSections_past_limit hio hlen hd (by omega) (by omega)
  · push Not at hdecl
    exact .inl (readSections_of_not_declares hdecl)

/-! ## Staying inside the frame -/

/-- The run of a decoder does not read outside the data. -/
def StaysInside {α : Type} (r : Except DecodeFault α) : Prop :=
  ∀ start len, r ≠ .error (.outOfBounds start len)

/-- The input passes the CRC check and declares sections that do not fit. -/
def SizesDoNotFit (io : CodedIO) (input : Bytes) : Prop :=
  ∃ data hs ts p, dataWithoutCrc input = .ok data ∧ Declares io data hs ts p ∧
    data.length < p + ts.toNat + hs.toNat

/-- The input passes the CRC check, and the sizes that it declares wrap. -/
def SizesWrap (io : CodedIO) (input : Bytes) : Prop :=
  ∃ data hs ts p, dataWithoutCrc input = .ok data ∧ Declares io data hs ts p ∧ Wraps data hs ts p

/-- On this input, `decode` into `target` and `decodeEnvelope` read no byte outside the data, and
reject it if the sizes that it declares do not fit. -/
def ReadsInside {H M : Type} (io : CodedIO) (hdr : MessageType H) (msg : MessageType M)
    (input : Bytes) (target : M) : Prop :=
  StaysInside (decode io hdr msg input target) ∧ StaysInside (decodeEnvelope io hdr input) ∧
    (SizesDoNotFit io input → decode io hdr msg input target = .error .rejected ∧
      decodeEnvelope io hdr input = .error .rejected)

/-- The data without its trailer is shorter than the input. -/
theorem dataWithoutCrc_length {input data : Bytes} (h : dataWithoutCrc input = .ok data) :
    data.length + 4 = input.length := by
  unfold dataWithoutCrc at h
  split_ifs at h with h4
  cases h
  rw [List.length_take]
  omega

/-- The header of the sections is part of the data. -/
theorem headerData_length {io : CodedIO} {data : Bytes} {s : Sections}
    (h : readSections io data = .ok s) : s.headerData.length ≤ data.length := by
  unfold readSections at h
  obtain ⟨⟨headerSize, pos⟩, -, h⟩ := bind_eq_ok.mp h
  obtain ⟨⟨typeNameSize, afterSizes⟩, -, h⟩ := bind_eq_ok.mp h
  dsimp only at h
  split_ifs at h
  obtain ⟨typeName, -, h⟩ := bind_eq_ok.mp h
  obtain ⟨pos', -, h⟩ := bind_eq_ok.mp h
  obtain ⟨headerData, hheader, h⟩ := bind_eq_ok.mp h
  obtain ⟨pos'', -, h⟩ := bind_eq_ok.mp h
  obtain rfl := Except.ok.inj h
  unfold readRange at hheader
  split_ifs at hheader
  obtain rfl := Except.ok.inj hheader
  rw [List.length_take, List.length_drop]
  omega

/-- The header of a frame that was decoded was parsed from a part of it. -/
theorem header_of_decodeEnvelope {H : Type} {io : CodedIO} {hdr : MessageType H} {input : Bytes}
    {header : H} {typeName payload : Bytes}
    (h : decodeEnvelope io hdr input = .ok (header, typeName, payload)) :
    ∃ headerData, hdr.parse headerData = some header ∧ headerData.length ≤ input.length := by
  unfold decodeEnvelope at h
  obtain ⟨data, hdata, h⟩ := bind_eq_ok.mp h
  obtain ⟨s, hs, h⟩ := bind_eq_ok.mp h
  obtain ⟨parsed, hparsed, h⟩ := bind_eq_ok.mp h
  split_ifs at h
  obtain ⟨bytes, -, h⟩ := bind_eq_ok.mp h
  obtain ⟨rfl, -, -⟩ := Prod.mk.inj (Except.ok.inj h)
  have hsections := headerData_length hs
  have hinput := dataWithoutCrc_length hdata
  exact ⟨s.headerData, orReject_eq_ok.mp hparsed, by omega⟩

/-- The sizes that the data declares are determined by it. -/
theorem Declares.unique {io : CodedIO} {data : Bytes} {hs hs' ts ts' : UInt32} {p p' : ℕ}
    (h : Declares io data hs ts p) (h' : Declares io data hs' ts' p') :
    hs = hs' ∧ ts = ts' ∧ p = p' := by
  obtain ⟨mid, h1, h2⟩ := h.sizes
  obtain ⟨mid', h1', h2'⟩ := h'.sizes
  rw [h1, Option.some.injEq, Prod.mk.injEq] at h1'
  obtain ⟨rfl, rfl⟩ := h1'
  rw [h2, Option.some.injEq, Prod.mk.injEq] at h2'
  exact ⟨rfl, h2'⟩

section Decoders

variable {io : CodedIO} (hio : io.Spec) {H M : Type} (hdr : MessageType H) (msg : MessageType M)

/-- The message range lies inside the data. -/
theorem decodeMessage_staysInside {data : Bytes} (hlen : data.length < 2 ^ 31) (s : Sections)
    (target : M) : StaysInside (decodeMessage msg data s target) := by
  have hcast : asInt data.length = data.length := Int.bmod_eq_of_le (by omega) (by omega)
  intro start len
  unfold decodeMessage
  rw [hcast]
  by_cases hsize : 0 < (data.length : ℤ) - s.messagePosition
  · rw [if_pos hsize, readRange_ok (by omega), ok_bind]
    cases msg.parse _ with
    | none => simp
    | some m =>
      rw [orReject_some, ok_bind]
      split_ifs <;> simp
  · rw [if_neg hsize]
    simp

/-- After its sections `decode` reads nothing outside the data. -/
theorem decode_staysInside {input data : Bytes} {s : Sections} (target : M)
    (hlen : input.length < 2 ^ 31) (hdata : dataWithoutCrc input = .ok data)
    (hs : readSections io data = .ok s) : StaysInside (decode io hdr msg input target) := by
  have hlen' := dataWithoutCrc_length hdata
  have hmsg := decodeMessage_staysInside msg (show data.length < 2 ^ 31 by omega) s target
  intro start len
  unfold decode
  rw [hdata, ok_bind, hs, ok_bind]
  cases hdr.parse s.headerData with
  | none => simp
  | some h =>
    rw [orReject_some, ok_bind]
    cases hm : decodeMessage msg data s target with
    | error e =>
      rw [error_bind]
      intro he
      exact hmsg start len (by rw [hm]; simpa using he)
    | ok m =>
      rw [ok_bind]
      split_ifs <;> simp [pure, Except.pure]

/-- After its sections `decodeEnvelope` reads nothing outside the data. -/
theorem decodeEnvelope_staysInside {input data : Bytes} {s : Sections}
    (hlen : input.length < 2 ^ 31) (hdata : dataWithoutCrc input = .ok data)
    (hs : readSections io data = .ok s) (hpos : s.messagePosition ≤ data.length) :
    StaysInside (decodeEnvelope io hdr input) := by
  have hlen' := dataWithoutCrc_length hdata
  have hcast : asInt data.length = data.length := Int.bmod_eq_of_le (by omega) (by omega)
  intro start len
  unfold decodeEnvelope
  rw [hdata, ok_bind, hs, ok_bind]
  cases hdr.parse s.headerData with
  | none => simp
  | some h =>
    rw [orReject_some, ok_bind]
    have hread := readRange_ok (show s.messagePosition +
      (max ((data.length : ℤ) - s.messagePosition) 0).toNat ≤ data.length by omega)
    simp only [hcast, hread, ok_bind]
    split_ifs <;> simp [pure, Except.pure]

/-- A decoder whose sections fail fails in the same way. -/
theorem decoders_of_sections_error {input data : Bytes} {e : DecodeFault} (target : M)
    (hdata : dataWithoutCrc input = .ok data) (hs : readSections io data = .error e) :
    decode io hdr msg input target = .error e ∧ decodeEnvelope io hdr input = .error e := by
  unfold decode decodeEnvelope
  rw [hdata, ok_bind, ok_bind, hs, error_bind, error_bind]
  exact ⟨rfl, rfl⟩

include hio in
/-- On an input below `2^31` bytes, the decoders read no byte outside `data_without_crc` and reject
every frame whose declared sizes do not fit, exactly when the sizes do not wrap. -/
theorem readsInside_iff (input : Bytes) (target : M) (hlen : input.length < 2 ^ 31) :
    ReadsInside io hdr msg input target ↔ ¬ SizesWrap io input := by
  cases hdata : dataWithoutCrc input with
  | error e =>
    have he : e = .rejected := by
      unfold dataWithoutCrc at hdata
      split_ifs at hdata <;> simpa using hdata.symm
    have hdec : decode io hdr msg input target = .error .rejected := by
      unfold decode; rw [hdata, he]; rfl
    have henv : decodeEnvelope io hdr input = .error .rejected := by
      unfold decodeEnvelope; rw [hdata, he]; rfl
    simp [ReadsInside, hdec, henv, StaysInside, SizesWrap, hdata]
  | ok data =>
    have hlen' := dataWithoutCrc_length hdata
    -- Sizes that wrap make both decoders leave the data, whatever the parsers do.
    have hwrap : SizesWrap io input → ∃ start len,
        readSections io data = .error (.outOfBounds start len) := by
      rintro ⟨data', hs, ts, p, hdata', hd, hw⟩
      rw [hdata, Except.ok.injEq] at hdata'
      subst hdata'
      exact readSections_wraps hio (by omega) hd hw
    rcases readSections_cases hio (show data.length < 2 ^ 31 by omega) with
      hrej | ⟨hs, ts, p, hd, hfit, hok⟩ | ⟨hs, ts, p, hd, hw, start, len, hoob⟩
    · obtain ⟨hdec, henv⟩ := decoders_of_sections_error hdr msg target hdata hrej
      have hnot : ¬ SizesWrap io input := fun h => by
        obtain ⟨start, len, hoob⟩ := hwrap h
        simp [hrej] at hoob
      simp [ReadsInside, hdec, henv, StaysInside, hnot]
    · have hnot : ¬ SizesWrap io input := fun h => by
        obtain ⟨start, len, hoob⟩ := hwrap h
        simp [hok] at hoob
      -- The data declares one pair of sizes only.
      have hfits : ¬ SizesDoNotFit io input := by
        rintro ⟨data', hs', ts', p', hdata', hd', hlarge⟩
        rw [hdata, Except.ok.injEq] at hdata'
        subst hdata'
        obtain ⟨rfl, rfl, rfl⟩ := hd.unique hd'
        omega
      exact ⟨fun _ => hnot, fun _ => ⟨decode_staysInside hdr msg target hlen hdata hok,
        decodeEnvelope_staysInside hdr hlen hdata hok hfit, fun h => absurd h hfits⟩⟩
    · obtain ⟨hdec, -⟩ := decoders_of_sections_error hdr msg target hdata hoob
      exact ⟨fun ⟨hin, _⟩ => absurd hdec (hin start len),
        fun h => absurd ⟨data, hs, ts, p, hdata, hd, hw⟩ h⟩

end Decoders

/-- The data of a frame whose sizes wrap: a header of `2^32 - 1` bytes and a type name of two. -/
def wrapData : Bytes := [0xff, 0xff, 0xff, 0xff, 0x0f, 0x02, 0x61, 0x62]

/-- The same with its trailer. -/
def wrapFrame : Bytes := wrapData ++ leBytes (calculateCRC32 wrapData)

/-- Both decoders read `2^32 - 1` bytes from the end of `wrapData`. -/
theorem wrapFrame_outOfBounds :
    wrapFrame.length < 2 ^ 31 ∧
      decode .documented (singleField [0x48]) (singleField [0x61, 0x62]) wrapFrame [] =
        .error (.outOfBounds 8 (2 ^ 32 - 1)) ∧
      decodeEnvelope .documented (singleField [0x48]) wrapFrame =
        .error (.outOfBounds 8 (2 ^ 32 - 1)) ∧
      ¬ ReadsInside .documented (singleField [0x48]) (singleField [0x61, 0x62]) wrapFrame [] := by
  have hdec : decode .documented (singleField [0x48]) (singleField [0x61, 0x62]) wrapFrame [] =
      .error (.outOfBounds 8 (2 ^ 32 - 1)) := by decide +kernel
  refine ⟨by decide +kernel, hdec, by decide +kernel, fun h => h.1 _ _ hdec⟩

/-- A frame of a one-byte header, the type name `ab`, and no message. -/
def plainFrame : Bytes := encodeFrame .documented [0x0a] [0x61, 0x62] []

/-- `plainFrame` declares a header of one byte and a type name of two. -/
theorem plainFrame_readsInside :
    plainFrame.length < 2 ^ 31 ∧
      ReadsInside .documented (singleField [0x48]) (singleField [0x61, 0x62]) plainFrame [] := by
  refine ⟨by decide +kernel,
    (readsInside_iff CodedIO.documented_spec _ _ _ _ (by decide +kernel)).mpr ?_⟩
  rintro ⟨data, hs, ts, p, hdata, hd, hwrap, -⟩
  have hdata' : dataWithoutCrc plainFrame = .ok [0x01, 0x02, 0x61, 0x62, 0x0a] := by
    decide +kernel
  rw [hdata', Except.ok.injEq] at hdata
  subst hdata
  have hd' : Declares .documented [0x01, 0x02, 0x61, 0x62, 0x0a] 1 2 2 :=
    ⟨⟨1, by decide +kernel, by decide +kernel⟩, by decide, by decide⟩
  obtain ⟨rfl, rfl, -⟩ := hd.unique hd'
  exact absurd hwrap (by decide)

/-! ## Frames that were encoded -/

section Frames

variable {io : CodedIO} (hio : io.Spec)
include hio

/-- The end of the header in the body of a frame. -/
def headerEnd (headerData messageType : Bytes) : ℕ :=
  (Varint.put32 headerData.length).length + (Varint.put32 messageType.length).length +
    messageType.length + headerData.length

/-- The body of a frame, with the sizes as varints. -/
theorem frameBody_eq (hb tn mb : Bytes) (hh : hb.length < 2 ^ 32) (ht : tn.length < 2 ^ 32) :
    frameBody io hb tn mb =
      Varint.put32 hb.length ++ (Varint.put32 tn.length ++ (tn ++ (hb ++ mb))) := by
  simp only [frameBody, hio.writeVarint32, UInt32.toNat_ofNat_of_lt' hh,
    UInt32.toNat_ofNat_of_lt' ht]

/-- The body is what precedes the message and the message. -/
theorem frameBody_length (hb tn mb : Bytes) (hh : hb.length < 2 ^ 32) (ht : tn.length < 2 ^ 32) :
    (frameBody io hb tn mb).length = headerEnd hb tn + mb.length := by
  rw [frameBody_eq hio _ _ _ hh ht, headerEnd]
  simp only [List.length_append]
  omega

/-- The body of a frame declares the sizes of its parts. -/
theorem frameBody_declares (hb tn mb : Bytes) (hh : hb.length < 2 ^ 32) (ht : tn.length < 2 ^ 32)
    (hb0 : hb ≠ []) (tn0 : tn ≠ []) :
    Declares io (frameBody io hb tn mb) (UInt32.ofNat hb.length) (UInt32.ofNat tn.length)
      ((Varint.put32 hb.length).length + (Varint.put32 tn.length).length) := by
  have hne : ∀ l : Bytes, l.length < 2 ^ 32 → l ≠ [] → UInt32.ofNat l.length ≠ 0 := by
    intro l hl hl0 h
    have := congrArg UInt32.toNat h
    rw [UInt32.toNat_ofNat_of_lt' hl] at this
    exact hl0 (List.length_eq_zero_iff.mp (by simpa using this))
  have h5 := (Varint.put_length 4 hb.length).2
  rw [frameBody_eq hio _ _ _ hh ht]
  refine ⟨⟨(Varint.put32 hb.length).length, ?_, ?_⟩, hne hb hh hb0, hne tn ht tn0⟩
  · have := readVarint32_put32 hio [] (Varint.put32 tn.length ++ (tn ++ (hb ++ mb))) hh
      (show _ ≤ totalBytesLimit by decide)
    simpa using this
  · exact readVarint32_put32 hio _ _ ht (by unfold Varint.put32 totalBytesLimit; omega)

/-- The sections of a frame that was encoded, unless the header ends past the limit. -/
theorem readSections_frameBody (hb tn mb : Bytes) (hb0 : hb ≠ []) (tn0 : tn ≠ [])
    (hlen : (frameBody io hb tn mb).length < 2 ^ 31) (hh : hb.length < 2 ^ 32)
    (ht : tn.length < 2 ^ 32) :
    readSections io (frameBody io hb tn mb) =
      if headerEnd hb tn ≤ totalBytesLimit then .ok ⟨tn, hb, headerEnd hb tn⟩
      else .error .rejected := by
  have hdecl := frameBody_declares hio hb tn mb hh ht hb0 tn0
  have hsize := frameBody_length hio hb tn mb hh ht
  have hfits := readSections_fits hio hlen hdecl
    (by rw [UInt32.toNat_ofNat_of_lt' hh, UInt32.toNat_ofNat_of_lt' ht, hsize, headerEnd]; omega)
  rw [UInt32.toNat_ofNat_of_lt' hh, UInt32.toNat_ofNat_of_lt' ht] at hfits
  have htype : ((frameBody io hb tn mb).drop
      ((Varint.put32 hb.length).length + (Varint.put32 tn.length).length)).take tn.length = tn := by
    rw [frameBody_eq hio _ _ _ hh ht, ← List.append_assoc, ← List.length_append, List.drop_left,
      List.take_left]
  have hheader : ((frameBody io hb tn mb).drop
      ((Varint.put32 hb.length).length + (Varint.put32 tn.length).length + tn.length)).take
        hb.length = hb := by
    rw [frameBody_eq hio _ _ _ hh ht, ← List.append_assoc, ← List.append_assoc,
      ← List.length_append, ← List.length_append, List.drop_left, List.take_left]
  rw [hfits, htype, hheader]
  rfl

/-- A frame has one header. -/
theorem headerData_of_encodeFrame_eq {hb tn mb hb' tn' mb' : Bytes} (hh : hb.length < 2 ^ 32)
    (hh' : hb'.length < 2 ^ 32) (ht : tn.length < 2 ^ 32) (ht' : tn'.length < 2 ^ 32)
    (h : encodeFrame io hb tn mb = encodeFrame io hb' tn' mb') : hb = hb' := by
  have hbody : frameBody io hb tn mb = frameBody io hb' tn' mb' :=
    (List.append_inj' h (by rw [leBytes_length, leBytes_length])).1
  rw [frameBody_eq hio _ _ _ hh ht, frameBody_eq hio _ _ _ hh' ht'] at hbody
  -- The two sizes come first, and tell where the type name and the header end.
  have hsmall : ∀ n, n < 2 ^ 32 → n < 128 ^ (4 + 1) := fun n hn => by omega
  obtain ⟨hsize, hbody⟩ := Varint.put_append_inj (hsmall _ hh) (hsmall _ hh') hbody
  obtain ⟨htype, hbody⟩ := Varint.put_append_inj (hsmall _ ht) (hsmall _ ht') hbody
  have hrest := (List.append_inj hbody htype).2
  exact (List.append_inj hrest hsize).1

/-- What follows the header in the body of a frame is the message. -/
theorem drop_headerEnd (hb tn mb : Bytes) (hh : hb.length < 2 ^ 32) (ht : tn.length < 2 ^ 32) :
    (frameBody io hb tn mb).drop (headerEnd hb tn) = mb := by
  rw [frameBody_eq hio _ _ _ hh ht, headerEnd, ← List.append_assoc, ← List.append_assoc,
    ← List.append_assoc, ← List.length_append, ← List.length_append, ← List.length_append,
    List.drop_left]

omit hio in
/-- An encoded frame passes the checks of its size and trailer. -/
theorem dataWithoutCrc_encodeFrame (io : CodedIO) (hb tn mb : Bytes) :
    dataWithoutCrc (encodeFrame io hb tn mb) = .ok (frameBody io hb tn mb) := by
  unfold dataWithoutCrc encodeFrame
  simp only [List.length_append, leBytes_length, crcAccepts_leBytes, if_true,
    Nat.add_sub_cancel, List.take_left]
  rw [if_neg (by omega)]

/-- `decodeEnvelope` on a frame that was encoded: it hands the header's bytes to the header's
parser and returns the type name and the message's bytes, unless the header ends past the total
bytes limit. -/
theorem decodeEnvelope_encodeFrame {H : Type} (hdr : MessageType H) (hb tn mb : Bytes)
    (hb0 : hb ≠ []) (tn0 : tn ≠ []) (hlen : (encodeFrame io hb tn mb).length < 2 ^ 31)
    (hh : hb.length < 2 ^ 32) (ht : tn.length < 2 ^ 32) :
    decodeEnvelope io hdr (encodeFrame io hb tn mb) =
      if headerEnd hb tn ≤ totalBytesLimit then do
        let header ← orReject (hdr.parse hb)
        if hdr.isInitialized header = true then .ok (header, tn, mb) else .error .rejected
      else .error .rejected := by
  have hlen' := dataWithoutCrc_length (dataWithoutCrc_encodeFrame io hb tn mb)
  have hsize := frameBody_length hio hb tn mb hh ht
  have hcast : asInt (frameBody io hb tn mb).length = (frameBody io hb tn mb).length :=
    Int.bmod_eq_of_le (by omega) (by omega)
  unfold decodeEnvelope
  rw [dataWithoutCrc_encodeFrame, ok_bind,
    readSections_frameBody hio hb tn mb hb0 tn0 (by omega) hh ht]
  split_ifs with hlimit
  · rw [ok_bind]
    have hmsg : readRange (frameBody io hb tn mb) (headerEnd hb tn)
        (max (asInt (frameBody io hb tn mb).length - headerEnd hb tn) 0).toNat = .ok mb := by
      rw [readRange_ok (by rw [hcast]; omega), drop_headerEnd hio hb tn mb hh ht, hcast, hsize,
        List.take_of_length_le (by omega)]
    simp only [hmsg, ok_bind]
    rfl
  · rfl

/-- `decode` on a frame that was encoded with the type name of `msg`. -/
theorem decode_encodeFrame {H M : Type} (hdr : MessageType H) (msg : MessageType M) (hb mb : Bytes)
    (target : M) (hb0 : hb ≠ []) (tn0 : msg.typeName ≠ [])
    (hlen : (encodeFrame io hb msg.typeName mb).length < 2 ^ 31)
    (hh : hb.length < 2 ^ 32) (ht : msg.typeName.length < 2 ^ 32)
    (hlimit : headerEnd hb msg.typeName ≤ totalBytesLimit) {h : H} {m : M}
    (hhdr : hdr.parse hb = some h) (hinit : hdr.isInitialized h = true)
    (hmsg : if mb = [] then m = target else msg.parse mb = some m ∧ msg.isInitialized m = true) :
    decode io hdr msg (encodeFrame io hb msg.typeName mb) target = .ok (h, m) := by
  have hlen' := dataWithoutCrc_length (dataWithoutCrc_encodeFrame io hb msg.typeName mb)
  have hsize := frameBody_length hio hb msg.typeName mb hh ht
  -- What is left after the header is the message.
  have hrest : asInt (frameBody io hb msg.typeName mb).length - headerEnd hb msg.typeName =
      mb.length := by
    rw [asInt, Int.bmod_eq_of_le (by omega) (by omega)]
    omega
  have hmessage : decodeMessage msg (frameBody io hb msg.typeName mb)
      ⟨msg.typeName, hb, headerEnd hb msg.typeName⟩ target = .ok m := by
    unfold decodeMessage
    simp only [hrest]
    by_cases hmb : mb = []
    · rw [if_pos hmb] at hmsg
      rw [hmb, hmsg, if_neg (by simp)]
    · rw [if_neg hmb] at hmsg
      have hpos : 0 < mb.length := List.length_pos_iff.mpr hmb
      rw [if_pos (by omega), readRange_ok (by omega), ok_bind,
        drop_headerEnd hio hb msg.typeName mb hh ht, List.take_of_length_le (by omega), hmsg.1,
        orReject_some, ok_bind, if_pos ⟨hmsg.2, trivial⟩]
  unfold decode
  rw [dataWithoutCrc_encodeFrame, ok_bind,
    readSections_frameBody hio hb msg.typeName mb hb0 tn0 (by omega) hh ht, if_pos hlimit, ok_bind,
    hhdr, orReject_some, ok_bind, hmessage, ok_bind, if_pos hinit]
  rfl

end Frames

/-- The round trip: a frame of at most 64 MiB that was encoded from a header with a non-empty
serialization and a message with a non-empty type name is decoded to that header and message, also
when the message serializes to no bytes. -/
theorem decode_encode {io : CodedIO} (hio : io.Spec) {H M : Type} {hdr : MessageType H}
    {msg : MessageType M} (hH : hdr.Spec) (hM : msg.Spec) (h : H) (m : M) (frame : Bytes)
    (henc : encode io hdr msg h m = some frame) (hne : hdr.serialize h ≠ some [])
    (htype : msg.typeName ≠ []) (hlen : frame.length ≤ 64 * 2 ^ 20) :
    ∃ messageData, msg.serialize m = some messageData ∧
      decodeEnvelope io hdr frame = .ok (h, msg.typeName, messageData) ∧
      decode io hdr msg frame msg.fresh = .ok (h, m) := by
  unfold encode at henc
  obtain ⟨hb, hhb, henc⟩ := Option.bind_eq_some_iff.mp henc
  obtain ⟨mb, hmb, henc⟩ := Option.bind_eq_some_iff.mp henc
  have hframe : encodeFrame io hb msg.typeName mb = frame := by simpa using henc
  subst hframe
  have hb0 : hb ≠ [] := fun h0 => hne (by rw [hhb, h0])
  -- Everything before the message is part of a frame of at most 64 MiB.
  have hparts : hb.length ≤ (encodeFrame io hb msg.typeName mb).length ∧
      msg.typeName.length ≤ (encodeFrame io hb msg.typeName mb).length := by
    simp only [encodeFrame, frameBody, List.length_append]
    omega
  have hh : hb.length < 2 ^ 32 := by omega
  have ht : msg.typeName.length < 2 ^ 32 := by omega
  have hlimit : headerEnd hb msg.typeName ≤ totalBytesLimit := by
    have hsize := frameBody_length hio hb msg.typeName mb hh ht
    have hlen' := dataWithoutCrc_length (dataWithoutCrc_encodeFrame io hb msg.typeName mb)
    have h64 : totalBytesLimit = 64 * 2 ^ 20 := rfl
    omega
  have hparse := hH.parse_serialize h hb hhb
  refine ⟨mb, hmb, ?_, ?_⟩
  · rw [decodeEnvelope_encodeFrame hio hdr hb msg.typeName mb hb0 htype (by omega) hh ht,
      if_pos hlimit, hparse, orReject_some, ok_bind, if_pos (hH.isInitialized h)]
  · refine decode_encodeFrame hio hdr msg hb mb msg.fresh hb0 htype (by omega) hh ht hlimit hparse
      (hH.isInitialized h) ?_
    have hpm := hM.parse_serialize m mb hmb
    -- A message of no bytes is not parsed: the fresh target is returned as it is.
    by_cases hmb0 : mb = []
    · rw [if_pos hmb0]
      rw [hmb0, hM.parse_nil] at hpm
      exact (Option.some.inj hpm).symm
    · rw [if_neg hmb0]
      exact ⟨hpm, hM.isInitialized m⟩

/-- The round trip of a `BaseRequest` under a header that holds only the version `1.0`: with the
payload `hi`, and with none, when the message serializes to no bytes. -/
theorem decode_encode_base_request :
    let hdr := singleField (utf8 "im.base.IMHeader")
    let msg := singleField (utf8 "im.base.BaseRequest")
    let frame := encodeFrame .documented (0x0a :: 0x03 :: utf8 "1.0") (utf8 "im.base.BaseRequest")
    (∃ messageData, msg.serialize (utf8 "hi") = some messageData ∧
      decodeEnvelope .documented hdr (frame (0x0a :: 0x02 :: utf8 "hi")) =
        .ok (utf8 "1.0", msg.typeName, messageData) ∧
      decode .documented hdr msg (frame (0x0a :: 0x02 :: utf8 "hi")) msg.fresh =
        .ok (utf8 "1.0", utf8 "hi")) ∧
    ∃ messageData, msg.serialize [] = some messageData ∧
      decodeEnvelope .documented hdr (frame []) = .ok (utf8 "1.0", msg.typeName, messageData) ∧
      decode .documented hdr msg (frame []) msg.fresh = .ok (utf8 "1.0", []) :=
  ⟨decode_encode CodedIO.documented_spec (singleField_spec _) (singleField_spec _) _ _ _
      (by decide +kernel) (by decide +kernel) (by decide +kernel) (by decide +kernel),
    decode_encode CodedIO.documented_spec (singleField_spec _) (singleField_spec _) _ _ _
      (by decide +kernel) (by decide +kernel) (by decide +kernel) (by decide +kernel)⟩

end MyChat.Codec
