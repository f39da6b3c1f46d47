import MyChat.Network.TcpSession

/-!
# TCP framing

The frames of a session, read back. `reads_lawful` says that the reader is one of exact lengths, so
that the way in which the stream was split into chunks does not matter (`ExactRead.receiveAll_eq`).
`Waits` is the reader between two frames; `receive_frame` reads one whole frame from there to there
and records what it did, and `receive_frames` is the induction over the frames. A header that
announces too long a body or an unknown type closes the session (`receive_refused`), and a closed
session reads nothing (`receive_closed`).
-/

namespace MyChat.Network

open Codec (Bytes)
open ExactRead (receive receiveAll)

namespace TcpReader

/-! ## Buffers -/

theorem length_overwrite (buffer : Bytes) (offset : ℕ) (bytes : Bytes) :
    (overwrite buffer offset bytes).length = buffer.length := by
  induction bytes generalizing buffer offset with
  | nil => rfl
  | cons b bytes ih => rw [overwrite, ih, List.length_set]

/-- What a first transfer wrote, a second one goes on with. -/
theorem overwrite_append (buffer : Bytes) (offset : ℕ) (a b : Bytes) :
    overwrite buffer offset (a ++ b) =
      overwrite (overwrite buffer offset a) (offset + a.length) b := by
  induction a generalizing buffer offset with
  | nil => simp [overwrite]
  | cons x a ih =>
    have hoffset : offset + (x :: a).length = offset + 1 + a.length := by
      rw [List.length_cons]
      omega
    rw [List.cons_append, overwrite, ih, overwrite, hoffset]

/-- The buffer up to the end of what was written. -/
theorem take_overwrite {buffer bytes : Bytes} {offset : ℕ}
    (h : offset + bytes.length ≤ buffer.length) :
    (overwrite buffer offset bytes).take (offset + bytes.length) = buffer.take offset ++ bytes := by
  induction bytes generalizing buffer offset with
  | nil => simp [overwrite]
  | cons b bytes ih =>
    rw [List.length_cons] at h
    have hset : (buffer.set offset b).take (offset + 1) = buffer.take offset ++ [b] := by
      have hlt : offset < (buffer.set offset b).length := by
        rw [List.length_set]
        omega
      rw [List.take_add_one, List.getElem?_eq_getElem hlt, List.getElem_set_self,
        List.take_set_of_le (Nat.le_refl offset)]
      rfl
    have hend : offset + (b :: bytes).length = offset + 1 + bytes.length := by
      rw [List.length_cons]
      omega
    have hlen : offset + 1 + bytes.length ≤ (buffer.set offset b).length := by
      rw [List.length_set]
      omega
    rw [overwrite, hend, ih hlen, hset, List.append_assoc, List.singleton_append]

/-- A buffer that is written from its start on begins with what was written. -/
theorem take_overwrite_zero {buffer bytes : Bytes} (h : bytes.length ≤ buffer.length) :
    (overwrite buffer 0 bytes).take bytes.length = bytes := by
  have hfits : 0 + bytes.length ≤ buffer.length := by omega
  have htake := take_overwrite hfits
  rw [Nat.zero_add, List.take_zero, List.nil_append] at htake
  exact htake

/-- A buffer that is written whole is what was written. -/
theorem overwrite_whole {buffer bytes : Bytes} (h : bytes.length = buffer.length) :
    overwrite buffer 0 bytes = bytes := by
  have htake := take_overwrite_zero (Nat.le_of_eq h)
  rwa [h, ← length_overwrite buffer 0 bytes, List.take_length] at htake

/-! ## The reads -/

theorem wanted_of_header {r : TcpReader} {filled : ℕ} (h : r.reading = .header filled) :
    r.wanted = headerSize - filled := by
  simp only [wanted, h]

theorem wanted_of_body {r : TcpReader} {length filled : ℕ} (h : r.reading = .body length filled) :
    r.wanted = length - filled := by
  simp only [wanted, h]

theorem wanted_of_closed {r : TcpReader} (h : r.reading = .closed) : r.wanted = 0 := by
  simp only [wanted, h]

/-- A handler starts the next read whatever the last one was. -/
theorem onHeader_reading (r : TcpReader) (reading : Reading) :
    { r with reading := reading }.onHeader = r.onHeader := rfl

theorem onBody_reading (r : TcpReader) (reading : Reading) (length : ℕ) :
    { r with reading := reading }.onBody length = r.onBody length := rfl

/-- A transfer that leaves the header's read waiting. -/
theorem transfer_header_short {r : TcpReader} {filled : ℕ} {bytes : Bytes}
    (h : r.reading = .header filled) (hshort : filled + bytes.length < headerSize) :
    r.transfer bytes = { r with header := overwrite r.header filled bytes,
                                reading := .header (filled + bytes.length) } := by
  simp only [transfer, h, Nat.not_le.mpr hshort, if_false]

/-- A transfer that leaves the body's read waiting. -/
theorem transfer_body_short {r : TcpReader} {length filled : ℕ} {bytes : Bytes}
    (h : r.reading = .body length filled) (hshort : filled + bytes.length < length) :
    r.transfer bytes = { r with bodyBuffer := overwrite r.bodyBuffer filled bytes,
                                reading := .body length (filled + bytes.length) } := by
  simp only [transfer, h, Nat.not_le.mpr hshort, if_false]

theorem wanted_transfer {r : TcpReader} {a : Bytes} (h : a.length < r.wanted) :
    (r.transfer a).wanted = r.wanted - a.length := by
  rcases hreading : r.reading with filled | ⟨length, filled⟩ | _
  · rw [wanted_of_header hreading] at h ⊢
    rw [transfer_header_short hreading (by omega), wanted_of_header rfl]
    omega
  · rw [wanted_of_body hreading] at h ⊢
    rw [transfer_body_short hreading (by omega), wanted_of_body rfl]
    omega
  · rw [wanted_of_closed hreading] at h
    omega

theorem transfer_append {r : TcpReader} {a : Bytes} (h : a.length < r.wanted) (b : Bytes) :
    (r.transfer a).transfer b = r.transfer (a ++ b) := by
  rcases hreading : r.reading with filled | ⟨length, filled⟩ | _
  · rw [wanted_of_header hreading] at h
    rw [transfer_header_short hreading (by omega)]
    simp only [transfer, hreading, overwrite_append, List.length_append, Nat.add_assoc]
    generalize overwrite (overwrite r.header filled a) (filled + a.length) b = header
    rw [onHeader_reading { r with header := header } (.header (filled + a.length)),
      onHeader_reading { r with header := header } (.header filled)]
  · rw [wanted_of_body hreading] at h
    rw [transfer_body_short hreading (by omega)]
    simp only [transfer, hreading, overwrite_append, List.length_append, Nat.add_assoc]
    generalize overwrite (overwrite r.bodyBuffer filled a) (filled + a.length) b = bodyBuffer
    rw [onBody_reading { r with bodyBuffer := bodyBuffer } (.body length (filled + a.length)),
      onBody_reading { r with bodyBuffer := bodyBuffer } (.body length filled)]
  · rw [wanted_of_closed hreading] at h
    omega

/-- The session reads exact lengths. -/
theorem reads_lawful : reads.Lawful where
  wanted_transfer := fun _ _ h => wanted_transfer h
  transfer_append := fun _ _ b h _ => transfer_append h b

/-- A closed session reads nothing. -/
theorem receive_closed {r : TcpReader} (h : r.reading = .closed) (bytes : Bytes) :
    receive reads r bytes = r := by
  exact ExactRead.receive_of_wanted_eq_zero reads (wanted_of_closed h) bytes

/-- The reader waits for the first byte of a header. -/
structure Waits (r : TcpReader) : Prop where
  /-- The header's read is pending and has no byte yet. -/
  reading : r.reading = .header 0
  /-- `header_` has room for a header. -/
  header_length : r.header.length = headerSize

theorem waits_start (header : Vector UInt8 headerSize) : Waits (start header) where
  reading := rfl
  header_length := header.length_toList

/-- No transfer changes the size of `header_`. -/
theorem header_length_transfer (r : TcpReader) (bytes : Bytes) :
    (r.transfer bytes).header.length = r.header.length := by
  have honHeader : ∀ r : TcpReader, r.onHeader.header = r.header := by
    intro r
    simp only [onHeader, doReadBody, onBody, doReadHeader, close, act]
    split_ifs <;> rfl
  rcases hreading : r.reading with filled | ⟨length, filled⟩ | _
  · simp only [transfer, hreading]
    split_ifs
    · rw [honHeader, length_overwrite]
    · exact length_overwrite _ _ _
  · simp only [transfer, hreading, onBody, doReadHeader, act]
    split_ifs <;> rfl
  · simp only [transfer, hreading]

/-- A session that waits for the first byte of a header, whatever it read before. -/
theorem waits_of_reading {header : Vector UInt8 headerSize} {bytes : Bytes}
    (h : (receive reads (start header) bytes).reading = .header 0) :
    Waits (receive reads (start header) bytes) where
  reading := h
  header_length := by
    refine ExactRead.receive_inv (I := fun r : TcpReader => r.header.length = headerSize) ?_
      (waits_start header).header_length bytes
    intro r a hr
    exact (header_length_transfer r a).trans hr

/-- A header that comes to a waiting reader goes to its handler. -/
theorem receive_header {r : TcpReader} (hr : Waits r) {header : Bytes}
    (hlen : header.length = headerSize) (rest : Bytes) :
    receive reads r (header ++ rest) = receive reads { r with header := header }.onHeader rest := by
  have hne : header ≠ [] := by
    rw [← List.length_pos_iff, hlen]
    decide
  have hwanted : header.length = reads.wanted r := by
    rw [hlen]
    exact (wanted_of_header hr.reading).symm
  have htransfer : r.transfer header = { r with header := header }.onHeader := by
    have hwhole : overwrite r.header 0 header = header :=
      overwrite_whole (hlen.trans hr.header_length.symm)
    have hall : headerSize ≤ 0 + header.length := by omega
    simp only [transfer, hr.reading, hwhole, hall, if_true]
  rw [ExactRead.receive_append_of_length_eq hne hwanted]
  exact congrArg (receive reads · rest) htransfer

/-- A body that comes after its header is handed to the message handler. -/
theorem receive_body {r : TcpReader} (hr : r.header.length = headerSize) (message rest : Bytes) :
    ∃ r', receive reads (r.doReadBody message.length) (message ++ rest) = receive reads r' rest ∧
      Waits r' ∧ r'.actions = r.actions ++ [.messageHandler message] := by
  rcases eq_or_ne message [] with rfl | hne
  · exact ⟨r.doReadBody 0, rfl, ⟨rfl, hr⟩, rfl⟩
  -- The body goes into the buffer, which is long enough for it by now.
  generalize hbuffer :
    r.bodyBuffer ++ List.replicate (message.length - r.bodyBuffer.length) 0 = buffer
  have hlong : message.length ≤ buffer.length := by
    rw [← hbuffer, List.length_append, List.length_replicate]
    omega
  have hzero : message.length ≠ 0 := by simpa using hne
  have hread : r.doReadBody message.length =
      { r with bodyBuffer := buffer, reading := .body message.length 0 } := by
    simp only [doReadBody, hbuffer, hzero, if_false]
  have hwanted : message.length = reads.wanted (r.doReadBody message.length) := by
    rw [hread]
    rfl
  have htransfer : reads.transfer (r.doReadBody message.length) message =
      { r with bodyBuffer := overwrite buffer 0 message,
               reading := .header 0,
               actions := r.actions ++ [.messageHandler message] } := by
    have hall : message.length ≤ 0 + message.length := by omega
    rw [hread]
    simp only [reads, transfer, hall, if_true, onBody, act, doReadHeader,
      take_overwrite_zero hlong]
  rw [ExactRead.receive_append_of_length_eq hne hwanted, htransfer]
  exact ⟨_, rfl, ⟨rfl, hr⟩, rfl⟩

end TcpReader

/-! ## Frames -/

/-- What the other end is to do about it. -/
def TcpEvent.answer : TcpEvent → ReadAction
  | .message body => .messageHandler body
  | .ping => .sendHeartbeat .pong
  | .pong => .handlePong

/-- The event is no message that is longer than `max_body_length`. -/
def TcpEvent.Fits : TcpEvent → Prop
  | .message body => body.length ≤ maxBodyLength
  | .ping => True
  | .pong => True

/-- The header announces more than `max_body_length` bytes or has a type that the reader does not
know. -/
def Refused (header : Bytes) : Prop :=
  maxBodyLength < (ntohl (ofNativeBytes header)).toNat ∨
    header.getD 4 0 ∉ [HeaderMsgType.normal, .ping, .pong].map HeaderMsgType.toByte

namespace TcpReader

theorem onHeader_ping (r : TcpReader) : { r with header := heartbeatHeader .ping }.onHeader =
    ({ r with header := heartbeatHeader .ping }.act (.sendHeartbeat .pong)).doReadHeader := by
  have hsmall : ¬ maxBodyLength < (ntohl (ofNativeBytes (heartbeatHeader .ping))).toNat := by decide
  have htype : (heartbeatHeader .ping).getD 4 0 = HeaderMsgType.ping.toByte := rfl
  have hnormal : HeaderMsgType.ping.toByte ≠ HeaderMsgType.normal.toByte := by decide
  simp only [onHeader, hsmall, htype, hnormal, if_false, if_true]

theorem onHeader_pong (r : TcpReader) : { r with header := heartbeatHeader .pong }.onHeader =
    ({ r with header := heartbeatHeader .pong }.act .handlePong).doReadHeader := by
  have hsmall : ¬ maxBodyLength < (ntohl (ofNativeBytes (heartbeatHeader .pong))).toNat := by decide
  have htype : (heartbeatHeader .pong).getD 4 0 = HeaderMsgType.pong.toByte := rfl
  have hnormal : HeaderMsgType.pong.toByte ≠ HeaderMsgType.normal.toByte := by decide
  have hping : HeaderMsgType.pong.toByte ≠ HeaderMsgType.ping.toByte := by decide
  simp only [onHeader, hsmall, htype, hnormal, hping, if_false, if_true]

/-- One whole frame. -/
theorem receive_frame {r : TcpReader} (hr : Waits r) {event : TcpEvent} (hfits : event.Fits)
    (rest : Bytes) :
    ∃ r', receive reads r (event.frame ++ rest) = receive reads r' rest ∧ Waits r' ∧
      r'.actions = r.actions ++ [event.answer] := by
  cases event with
  | message body =>
    have hsmall : ¬ maxBodyLength < body.length := Nat.not_lt.mpr hfits
    have hlength : (ntohl (ofNativeBytes (messageHeader body.length))).toNat = body.length := by
      apply ntohl_messageHeader
      have hmax : maxBodyLength < 4294967296 := by decide
      omega
    have htype : (messageHeader body.length).getD 4 0 = HeaderMsgType.normal.toByte := rfl
    have hheader : { r with header := messageHeader body.length }.onHeader =
        { r with header := messageHeader body.length }.doReadBody body.length := by
      simp only [onHeader, hlength, hsmall, if_false, htype, if_true]
    rw [TcpEvent.frame, List.append_assoc, receive_header hr (TcpEvent.header_length _)]
    simp only [TcpEvent.header, TcpEvent.body, hheader]
    exact receive_body (messageHeader_length _) body rest
  | ping =>
    rw [TcpEvent.frame, List.append_assoc, receive_header hr (TcpEvent.header_length _)]
    exact ⟨_, congrArg (receive reads · rest) (onHeader_ping r), ⟨rfl, rfl⟩, rfl⟩
  | pong =>
    rw [TcpEvent.frame, List.append_assoc, receive_header hr (TcpEvent.header_length _)]
    exact ⟨_, congrArg (receive reads · rest) (onHeader_pong r), ⟨rfl, rfl⟩, rfl⟩

/-- Whole frames, one after another. -/
theorem receive_frames {r : TcpReader} (hr : Waits r) {events : List TcpEvent}
    (hfits : ∀ event ∈ events, event.Fits) (rest : Bytes) :
    ∃ r', receive reads r ((events.map TcpEvent.frame).flatten ++ rest) = receive reads r' rest ∧
      Waits r' ∧ r'.actions = r.actions ++ events.map TcpEvent.answer := by
  induction events generalizing r with
  | nil => exact ⟨r, rfl, hr, (List.append_nil _).symm⟩
  | cons event events ih =>
    obtain ⟨r₁, hreceive₁, hr₁, hactions₁⟩ := receive_frame hr (hfits event List.mem_cons_self)
      ((events.map TcpEvent.frame).flatten ++ rest)
    obtain ⟨r₂, hreceive₂, hr₂, hactions₂⟩ :=
      ih hr₁ fun e he => hfits e (List.mem_cons_of_mem event he)
    refine ⟨r₂, ?_, hr₂, ?_⟩
    · rw [List.map_cons, List.flatten_cons, List.append_assoc, hreceive₁, hreceive₂]
    · rw [hactions₂, hactions₁, List.append_assoc, List.map_cons, List.singleton_append]

/-- A header that is refused closes the session, and nothing after it is read. -/
theorem receive_refused {r : TcpReader} (hr : Waits r) {header : Bytes}
    (hlen : header.length = headerSize) (hrefused : Refused header) (rest : Bytes) :
    (receive reads r (header ++ rest)).reading = .closed ∧
      (receive reads r (header ++ rest)).actions = r.actions ++ [.close] := by
  have hheader : { r with header := header }.onHeader = { r with header := header }.close := by
    rcases hrefused with hlong | htype
    · simp only [onHeader, hlong, if_true]
    · have hne : ∀ type ∈ [HeaderMsgType.normal, .ping, .pong],
          header.getD 4 0 ≠ type.toByte := by
        intro type htype' heq
        exact htype (heq ▸ List.mem_map_of_mem htype')
      have hnormal := hne .normal (by decide)
      have hping := hne .ping (by decide)
      have hpong := hne .pong (by decide)
      simp only [onHeader, hnormal, hping, hpong, if_false, ite_self]
  rw [receive_header hr hlen, hheader, receive_closed rfl]
  exact ⟨rfl, rfl⟩

/-- The other end's frames, however the stream is split into chunks: the reader does for each of
them what it is to do, in their order, and waits for the next. A header that is refused, wherever it
comes in a stream, closes the session, and nothing after it is read. -/
theorem framing_round_trip (header : Vector UInt8 headerSize) :
    (∀ (events : List TcpEvent) (chunks : List Bytes), (∀ event ∈ events, event.Fits) →
      chunks.flatten = (events.map TcpEvent.frame).flatten →
      (receiveAll reads (start header) chunks).actions = events.map TcpEvent.answer ∧
        (receiveAll reads (start header) chunks).reading = .header 0) ∧
    (∀ (before next rest : Bytes) (chunks : List Bytes),
      (receive reads (start header) before).reading = .header 0 →
      next.length = headerSize → Refused next → chunks.flatten = before ++ (next ++ rest) →
      (receiveAll reads (start header) chunks).actions =
          (receive reads (start header) before).actions ++ [.close] ∧
        (receiveAll reads (start header) chunks).reading = .closed) := by
  constructor
  · intro events chunks hfits hchunks
    obtain ⟨r, hreceive, hr, hactions⟩ := receive_frames (waits_start header) hfits []
    rw [List.append_nil, ExactRead.receive_nil] at hreceive
    rw [ExactRead.receiveAll_eq reads_lawful, hchunks, hreceive]
    exact ⟨hactions, hr.reading⟩
  · intro before next rest chunks hbefore hlen hrefused hchunks
    obtain ⟨hclosed, hactions⟩ := receive_refused (waits_of_reading hbefore) hlen hrefused rest
    rw [ExactRead.receiveAll_eq reads_lawful, hchunks, ExactRead.receive_append reads_lawful]
    exact ⟨hactions, hclosed⟩

/-- An empty message, a message of two bytes, a `PING`, and a `PONG` in chunks that cut a header and
a body, and then a header of type 3. -/
theorem framing_round_trip_four_frames :
    (receiveAll reads (start (Vector.replicate 5 0))
        [[0, 0], [0, 0, 0, 0, 0, 0, 2], [0, 7], [8, 0, 0, 0, 0, 1, 0, 0, 0, 0, 2]]).actions =
      [.messageHandler [], .messageHandler [7, 8], .sendHeartbeat .pong, .handlePong] ∧
    (receiveAll reads (start (Vector.replicate 5 0)) [[0, 0], [0, 0, 3, 0, 0, 0, 0, 0]]).actions =
      [.close] := by
  have hround := framing_round_trip (Vector.replicate 5 0)
  constructor
  · refine (hround.1 [.message [], .message [7, 8], .ping, .pong] _ ?_ (by decide)).1
    intro event hevent
    simp only [List.mem_cons, List.not_mem_nil, or_false] at hevent
    rcases hevent with rfl | rfl | rfl | rfl <;> simp [TcpEvent.Fits, maxBodyLength]
  · have hbefore : receive reads (start (Vector.replicate 5 0)) [] = start (Vector.replicate 5 0) :=
      ExactRead.receive_nil reads _
    have hnext := hround.2 [] [0, 0, 0, 0, 3] [0, 0, 0, 0, 0]
      [[0, 0], [0, 0, 3, 0, 0, 0, 0, 0]] (by rw [hbefore]; rfl) rfl (.inr (by decide)) rfl
    rw [hbefore] at hnext
    exact hnext.1

end TcpReader

end MyChat.Network
