import MyChat.Codec.Crc32
import MyChat.Lib.ExactRead

/-!
# A TCP session

`common/network/tcp_session.cpp`: the frames that a session writes and the state machine that reads
them back. A frame is a header of five bytes, the length of the body in network byte order and a
type, and the body. `do_write` and `send_heartbeat` build it from the memory of local variables, so
the bytes of a `uint32_t` in the memory of the host are part of the model; the host is
little-endian.

The reader reads exactly `HEADER_SIZE` bytes into `header_`, then, after the header of a message,
exactly as many bytes as the header announces into `body_buffer_`, which is used again for every
message. What it does is recorded in `actions`. The clock is left out: no read takes longer than
`read_timeout`.
-/

namespace MyChat.Network

open Codec (Bytes)

/-! ## Frames -/

/-- `HeaderMsgType`. -/
inductive HeaderMsgType where
  | normal
  | ping
  | pong
  | unknown
  | enumEnd
  deriving DecidableEq, Repr

/-- `static_cast<uint8_t>(type)`. -/
def HeaderMsgType.toByte : HeaderMsgType → UInt8
  | .normal => 0
  | .ping => 1
  | .pong => 2
  | .unknown => 3
  | .enumEnd => 4

/-- `HEADER_SIZE`. -/
def headerSize : ℕ := 5

/-- `max_body_length`. -/
def maxBodyLength : ℕ := 10 * 1024 * 1024

/-- The bytes of a `uint32_t` in memory. -/
def nativeBytes (n : UInt32) : Bytes :=
  [UInt8.ofNat n.toNat, UInt8.ofNat (n.toNat / 256), UInt8.ofNat (n.toNat / 65536),
    UInt8.ofNat (n.toNat / 16777216)]

/-- `std::memcpy` of the first four bytes into a `uint32_t`. -/
def ofNativeBytes (bytes : Bytes) : UInt32 :=
  UInt32.ofNat ((bytes.getD 0 0).toNat + 256 * (bytes.getD 1 0).toNat +
    65536 * (bytes.getD 2 0).toNat + 16777216 * (bytes.getD 3 0).toNat)

/-- `htonl`, which reverses the bytes. -/
def htonl (n : UInt32) : UInt32 := ofNativeBytes (nativeBytes n).reverse

/-- `ntohl`. -/
def ntohl (n : UInt32) : UInt32 := htonl n

/-- The header that `do_write` builds for a message of this size: `length` and `msg_type`. -/
def messageHeader (size : ℕ) : Bytes :=
  nativeBytes (htonl (UInt32.ofNat size)) ++ [HeaderMsgType.normal.toByte]

/-- The header that `send_heartbeat` builds, which is its whole frame. -/
def heartbeatHeader (type : HeaderMsgType) : Bytes := nativeBytes 0 ++ [type.toByte]

/-- What a session puts on the wire in one frame. -/
inductive TcpEvent where
  /-- A message that was passed to `send`. -/
  | message (body : Bytes)
  /-- `send_heartbeat(PING)`. -/
  | ping
  /-- `send_heartbeat(PONG)`. -/
  | pong
  deriving DecidableEq, Repr

namespace TcpEvent

/-- The local variables that `do_write` or `send_heartbeat` passes to `async_write`. -/
def header : TcpEvent → Bytes
  | .message body => messageHeader body.length
  | .ping => heartbeatHeader .ping
  | .pong => heartbeatHeader .pong

/-- The buffer that follows them. -/
def body : TcpEvent → Bytes
  | .message body => body
  | .ping => []
  | .pong => []

/-- The bytes of all the buffers. -/
def frame (event : TcpEvent) : Bytes := event.header ++ event.body

end TcpEvent

/-! ## The reader -/

/-- The read that is pending. -/
inductive Reading where
  /-- The `async_read` of `header_`, with the number of bytes it has so far. -/
  | header (filled : ℕ)
  /-- The `async_read` of a body of `length` bytes. -/
  | body (length filled : ℕ)
  /-- None: the session is closed. -/
  | closed
  deriving DecidableEq, Repr

/-- What the reader did. -/
inductive ReadAction where
  /-- `message_handler_(message)`. -/
  | messageHandler (message : Bytes)
  /-- `send_heartbeat(type)`. -/
  | sendHeartbeat (type : HeaderMsgType)
  /-- `handle_pong()`. -/
  | handlePong
  /-- `close()`. -/
  | close
  deriving DecidableEq, Repr

/-- The reading side of a session. -/
structure TcpReader where
  /-- The pending read. -/
  reading : Reading
  /-- `header_`. -/
  header : Bytes
  /-- `body_buffer_`. -/
  bodyBuffer : Bytes
  /-- What the reader did, the oldest first. -/
  actions : List ReadAction
  deriving DecidableEq, Repr

namespace TcpReader

/-- The bytes that the socket writes into a buffer from an offset on. -/
def overwrite (buffer : Bytes) (offset : ℕ) : Bytes → Bytes
  | [] => buffer
  | b :: bs => overwrite (buffer.set offset b) (offset + 1) bs

/-- The reader does something. -/
def act (r : TcpReader) (action : ReadAction) : TcpReader :=
  { r with actions := r.actions ++ [action] }

/-- `do_read_header`. -/
def doReadHeader (r : TcpReader) : TcpReader := { r with reading := .header 0 }

/-- `close`, after which no read is started. -/
def close (r : TcpReader) : TcpReader := { r.act .close with reading := .closed }

/-- The handler of the body's read. -/
def onBody (r : TcpReader) (length : ℕ) : TcpReader :=
  (r.act (.messageHandler (r.bodyBuffer.take length))).doReadHeader

/-- `do_read_body`. A read into a buffer of size zero completes without waiting for the peer. -/
def doReadBody (r : TcpReader) (length : ℕ) : TcpReader :=
  let r := { r with
    bodyBuffer := r.bodyBuffer ++ List.replicate (length - r.bodyBuffer.length) 0 }
  if length = 0 then r.onBody length else { r with reading := .body length 0 }

/-- The handler of the header's read. The body that a `PING` or a `PONG` announces is not read. -/
def onHeader (r : TcpReader) : TcpReader :=
  let bodyLength := (ntohl (ofNativeBytes r.header)).toNat
  let msgType := r.header.getD 4 0
  if maxBodyLength < bodyLength then r.close
  else if msgType = HeaderMsgType.normal.toByte then r.doReadBody bodyLength
  else if msgType = HeaderMsgType.ping.toByte then (r.act (.sendHeartbeat .pong)).doReadHeader
  else if msgType = HeaderMsgType.pong.toByte then (r.act .handlePong).doReadHeader
  else r.close

/-- The bytes that the pending read still waits for. -/
def wanted (r : TcpReader) : ℕ :=
  match r.reading with
  | .header filled => headerSize - filled
  | .body length filled => length - filled
  | .closed => 0

/-- The pending read gets some bytes. -/
def transfer (r : TcpReader) (bytes : Bytes) : TcpReader :=
  match r.reading with
  | .header filled =>
    let r := { r with header := overwrite r.header filled bytes }
    if headerSize ≤ filled + bytes.length then r.onHeader
    else { r with reading := .header (filled + bytes.length) }
  | .body length filled =>
    let r := { r with bodyBuffer := overwrite r.bodyBuffer filled bytes }
    if length ≤ filled + bytes.length then r.onBody length
    else { r with reading := .body length (filled + bytes.length) }
  | .closed => r

/-- The session's reads as exact-length reads. -/
def reads : ExactRead.Reader TcpReader UInt8 where
  wanted := wanted
  transfer := transfer

/-- The reader that `start` starts, over the buffers that the constructor made. The bytes of
`header_` are whatever the memory held. -/
def start (header : Vector UInt8 headerSize) : TcpReader where
  reading := .header 0
  header := header.toList
  bodyBuffer := List.replicate maxBodyLength 0
  actions := []

end TcpReader

/-! ## The bytes of a length -/

@[simp] theorem messageHeader_length (size : ℕ) : (messageHeader size).length = headerSize := rfl

@[simp] theorem heartbeatHeader_length (type : HeaderMsgType) :
    (heartbeatHeader type).length = headerSize := rfl

@[simp] theorem TcpEvent.header_length (event : TcpEvent) : event.header.length = headerSize := by
  cases event <;> rfl

theorem uint8_ofNat_toNat_add {b : UInt8} {n m : ℕ} (h : n = b.toNat + 256 * m) :
    UInt8.ofNat n = b := by
  rw [← UInt8.toNat_inj, UInt8.toNat_ofNat', h]
  have hb : b.toNat < 256 := UInt8.toNat_lt b
  omega

/-- Four bytes that are copied into a `uint32_t` are its bytes. -/
theorem nativeBytes_ofNativeBytes (b0 b1 b2 b3 : UInt8) (rest : Bytes) :
    nativeBytes (ofNativeBytes (b0 :: b1 :: b2 :: b3 :: rest)) = [b0, b1, b2, b3] := by
  have h0 : b0.toNat < 256 := UInt8.toNat_lt b0
  have h1 : b1.toNat < 256 := UInt8.toNat_lt b1
  have h2 : b2.toNat < 256 := UInt8.toNat_lt b2
  have h3 : b3.toNat < 256 := UInt8.toNat_lt b3
  have hvalue : (ofNativeBytes (b0 :: b1 :: b2 :: b3 :: rest)).toNat =
      b0.toNat + 256 * b1.toNat + 65536 * b2.toNat + 16777216 * b3.toNat := by
    rw [ofNativeBytes, UInt32.toNat_ofNat']
    simp only [List.getD_cons_zero, List.getD_cons_succ]
    omega
  rw [nativeBytes, hvalue]
  rw [uint8_ofNat_toNat_add (b := b0)
      (m := b1.toNat + 256 * b2.toNat + 65536 * b3.toNat) (by omega),
    uint8_ofNat_toNat_add (b := b1) (m := b2.toNat + 256 * b3.toNat) (by omega),
    uint8_ofNat_toNat_add (b := b2) (m := b3.toNat) (by omega),
    uint8_ofNat_toNat_add (b := b3) (m := 0) (by omega)]

/-- The bytes of a `uint32_t`, copied back. -/
theorem ofNativeBytes_nativeBytes (n : UInt32) (rest : Bytes) :
    ofNativeBytes (nativeBytes n ++ rest) = n := by
  have hn : n.toNat < 4294967296 := UInt32.toNat_lt n
  rw [← UInt32.toNat_inj, ofNativeBytes, UInt32.toNat_ofNat']
  simp only [nativeBytes, List.cons_append, List.getD_cons_zero, List.getD_cons_succ,
    UInt8.toNat_ofNat']
  omega

/-- `htonl` reverses the bytes in memory. -/
theorem nativeBytes_htonl (n : UInt32) : nativeBytes (htonl n) = (nativeBytes n).reverse := by
  rw [htonl]
  exact nativeBytes_ofNativeBytes _ _ _ _ []

theorem htonl_htonl (n : UInt32) : htonl (htonl n) = n := by
  rw [htonl, nativeBytes_htonl, List.reverse_reverse]
  simpa using ofNativeBytes_nativeBytes n []

/-- The length that the reader takes from a message's header. -/
theorem ntohl_messageHeader (size : ℕ) (h : size < 4294967296) :
    (ntohl (ofNativeBytes (messageHeader size))).toNat = size := by
  rw [messageHeader, ofNativeBytes_nativeBytes, ntohl, htonl_htonl, UInt32.toNat_ofNat',
    Nat.mod_eq_of_lt h]

end MyChat.Network
