import MyChat.Codec.WebRoundTrip
import MyChat.Gateway.ReplyHeaders

/-!
# The messages of a gateway on the wire

What the protobuf library writes and reads for the messages that a gateway exchanges with its
clients over a WebSocket: `IMHeader`, `SendMessageRequest`, `SendMessageResponse`, and
`BaseResponse`. A message is written as its fields in the order of their numbers, those at their
default left out, and read from any records that have its fields, also from those of a writer that
leaves out less.

`Wire.Proto3` is what a gateway relies on, and `protoWire` a library that does it.
-/

namespace MyChat.Gateway

open MyChat.Codec MyChat.Wire
open MyChat.Web (imHeaderSchema messageBodySchema sendMessageRequestSchema requestRecords)

/-! ## Fields as records -/

/-- The value of the record of a field, which has none at its default. -/
def ProtoValue.value? : ProtoValue → Option Value
  | .number n => if n = 0 then none else some (.number n)
  | .text s => if s = "" then none else some (textValue s)

/-- A tag of one byte. -/
theorem put32_tag {tag : ℕ} (h : tag < 128) : Varint.put32 tag = [UInt8.ofNat tag] :=
  Varint.put_of_lt h

/-- A length with 32 bits. -/
theorem put32_length {n : ℕ} (h : n < 2 ^ 32) : Varint.put32 n = putLength n := by
  rcases Nat.lt_or_ge n 4 with hlt | hge
  · rw [Varint.put32, putLength, Varint.put_of_lt (by omega), Varint.put_of_lt (by omega)]
  · exact Varint.put_eq_put hge (by omega)

/-- A message as a field. -/
theorem protoMessage_eq {field : ℕ} (hfield : field < 15) {bytes : Bytes}
    (hbytes : bytes.length < 2 ^ 32) :
    protoMessage field bytes = (Record.mk field (.bytes bytes)).put := by
  have htag : (Record.mk field (.bytes bytes)).tag = 8 * field + 2 := rfl
  rw [Record.put, htag, put32_tag (by omega), protoMessage, put32_length hbytes]
  rfl

/-- A field is written as its record. -/
theorem protoField_eq {field : ℕ} (hfield : field < 15) {value : ProtoValue} (hfits : value.Fits) :
    protoField field value = (recordOf field value.value?).flatMap Record.put := by
  rw [flatMap_put_recordOf]
  rcases value with n | s
  · rw [protoField, protoNumber, ProtoValue.value?]
    by_cases hn : n = 0
    · rw [if_pos hn, if_pos hn]
    · have htag : (Record.mk field (.number n)).tag = 8 * field := rfl
      rw [if_neg hn, if_neg hn]
      dsimp only
      rw [Record.put, htag, put32_tag (by omega)]
      rfl
  · rw [protoField, protoText, ProtoValue.value?]
    by_cases hs : s = ""
    · rw [if_pos hs, if_pos hs]
    · rw [if_neg hs, if_neg hs]
      exact protoMessage_eq hfield hfits

/-- The records of the fields of a message, numbered from `field` on. -/
def protoRecords (field : ℕ) : List ProtoValue → List Record
  | [] => []
  | value :: values => recordOf field value.value? ++ protoRecords (field + 1) values

theorem protoFields_eq {values : List ProtoValue} {field : ℕ}
    (hfields : field + values.length ≤ 15) (hfits : ∀ value ∈ values, value.Fits) :
    protoFields field values = (protoRecords field values).flatMap Record.put := by
  induction values generalizing field with
  | nil => rfl
  | cons value values ih =>
    rw [List.length_cons] at hfields
    obtain ⟨hvalue, hvalues⟩ := List.forall_mem_cons.mp hfits
    rw [protoFields, protoRecords, List.flatMap_append, protoField_eq (by omega) hvalue,
      ih (by omega) hvalues]

/-- A character has at most four bytes. -/
theorem utf8ByteSize_le (s : String) : s.utf8ByteSize ≤ 4 * s.length := by
  have hchars : ∀ l : List Char, (l.flatMap String.utf8EncodeChar).length ≤ 4 * l.length := by
    intro l
    induction l with
    | nil => exact le_rfl
    | cons c l ih =>
      have hc := Char.utf8Size_le_four c
      rw [List.flatMap_cons, List.length_append, String.length_utf8EncodeChar, List.length_cons]
      omega
  have hbytes : s.utf8ByteSize = (s.toList.flatMap String.utf8EncodeChar).length := by
    rw [← String.size_toByteArray, ← String.utf8Encode_toList, List.utf8Encode]
    simp
  rw [hbytes]
  exact (hchars s.toList).trans (by rw [String.length_toList])

/-- The numeral of a number with 64 bits is short. -/
theorem toString_size {n : ℕ} (h : n < 2 ^ 64) : (toString n).utf8ByteSize ≤ 80 := by
  have hlength : (toString n).length ≤ 20 :=
    (Nat.length_repr_le_iff (by norm_num)).mpr (lt_trans h (by norm_num))
  have hsize := utf8ByteSize_le (toString n)
  omega

/-- A field takes at most a tag, a length or a number, and its text. -/
def ProtoValue.size : ProtoValue → ℕ
  | .number _ => 11
  | .text s => s.utf8ByteSize + 6

theorem protoFields_length (values : List ProtoValue) (field : ℕ) :
    (protoFields field values).length ≤ (values.map ProtoValue.size).sum := by
  induction values generalizing field with
  | nil => exact le_rfl
  | cons value values ih =>
    have hrest := ih (field + 1)
    have hvalue : (protoField field value).length ≤ value.size := by
      rcases value with n | s
      · have := Varint.put_length 9 n
        rw [protoField, protoNumber, ProtoValue.size]
        split_ifs
        · exact Nat.zero_le _
        · rw [List.length_cons]
          omega
      · have := Varint.put_length 4 (utf8 s).length
        rw [protoField, protoText, ProtoValue.size]
        split_ifs
        · exact Nat.zero_le _
        · rw [List.length_cons, List.length_append, utf8_length, Varint.put32]
          rw [utf8_length] at this
          omega
    rw [protoFields, List.length_append, List.map_cons, List.sum_cons]
    omega

/-! ## The messages -/

/-- The fields of a header under their names in the schema. -/
def IMHeader.data (header : IMHeader) : List (String × Datum) :=
  [("version", .text header.version), ("seq", .int header.seq.toNat),
    ("cmd_id", .int header.cmdId.toNat), ("from_uid", .text header.fromUid),
    ("to_uid", .text header.toUid), ("timestamp", .int header.timestamp.toNat),
    ("token", .text header.token), ("device_id", .text header.deviceId),
    ("platform", .text header.platform)]

/-- The fields of a body under their names in the schema. -/
def MessageBody.data (body : MessageBody) : List (String × Datum) :=
  [("message_id", .text body.messageId), ("type", .int body.messageType),
    ("content", .text body.content), ("is_recalled", .flag body.isRecalled),
    ("is_read", .flag body.isRead), ("at_uids", .text body.atUids), ("ext", .text body.ext),
    ("sender_uid", .text body.senderUid), ("receiver_uid", .text body.receiverUid),
    ("create_time", .int body.createTime), ("delivered_time", .int body.deliveredTime),
    ("read_time", .int body.readTime)]

/-- The fields of a body. -/
def MessageBody.fields (body : MessageBody) : List ProtoValue :=
  [.text body.messageId, .number body.messageType, .text body.content,
    .number body.isRecalled.toNat, .number body.isRead.toNat, .text body.atUids, .text body.ext,
    .text body.senderUid, .text body.receiverUid, .number (ofSigned body.createTime),
    .number (ofSigned body.deliveredTime), .number (ofSigned body.readTime)]

/-- The fields of a base response. -/
def BaseResponse.fields (response : BaseResponse) : List ProtoValue :=
  [.number response.errorCode.toNat, .text response.errorMessage]

/-- The bytes of a response to a send. -/
def SendMessageResponse.bytes (response : SendMessageResponse) : Bytes :=
  protoMessage 1 (protoFields 1 response.base.fields) ++
    match response.message with
    | none => []
    | some body => protoMessage 2 (protoFields 1 body.fields)

/-- The message has these records, which can be on the wire and are not too many for it. -/
structure WrittenAs (bytes : Bytes) (records : List Record) : Prop where
  /-- The bytes of the records. -/
  eq : bytes = records.flatMap Record.put
  /-- They can be on the wire. -/
  valid : ∀ r ∈ records, r.Valid
  /-- `ParseFromString` takes no 2 GiB. -/
  length : bytes.length < 2 ^ 31

/-- What the protobuf library does for these messages. -/
structure Wire.Proto3 (wire : Wire) : Prop where
  /-- The streams are as documented. -/
  io : wire.io.Spec
  /-- `SerializeToString` writes the fields of a header unless they have 2 GiB. -/
  header_serialize : ∀ header, (headerBytes header).length < 2 ^ 31 →
    wire.header.serialize header = some (headerBytes header)
  /-- `ParseFromString` reads the fields of a header from its records. -/
  header_parse : ∀ {bytes records}, WrittenAs bytes records → ∀ header : IMHeader,
    readMessage imHeaderSchema bytes = some header.data → wire.header.parse bytes = some header
  /-- A proto3 message has no required field. -/
  header_isInitialized : ∀ header, wire.header.isInitialized header = true
  /-- `ParseFromString` reads a request of a header and a body from their bytes. -/
  request_parse : ∀ {bytes header body : Bytes} {headerRecords bodyRecords},
    bytes = (requestRecords header body).flatMap Record.put → bytes.length < 2 ^ 31 →
    WrittenAs header headerRecords → WrittenAs body bodyRecords →
    ∀ (h : IMHeader) (b : MessageBody),
    readMessage imHeaderSchema header = some h.data →
    readMessage messageBodySchema body = some b.data → wire.sendRequest.parse bytes = some ⟨b⟩
  /-- `SerializeToString` writes a response unless it has 2 GiB. -/
  response_serialize : ∀ response : SendMessageResponse, response.bytes.length < 2 ^ 31 →
    wire.sendResponse.serialize response = some response.bytes
  /-- `GetTypeName` of `SendMessageResponse`. -/
  response_typeName : wire.sendResponse.typeName = utf8 "im.message.SendMessageResponse"
  /-- `SerializeToString` writes the fields of a base response unless they have 2 GiB. -/
  base_serialize : ∀ response : BaseResponse, (protoFields 1 response.fields).length < 2 ^ 31 →
    wire.baseResponse.serialize response = some (protoFields 1 response.fields)
  /-- `GetTypeName` of `BaseResponse`. -/
  base_typeName : wire.baseResponse.typeName = utf8 "im.base.BaseResponse"

/-! ## A library -/

/-- A header from the values of its fields. -/
def IMHeader.ofData : List (String × Datum) → Option IMHeader
  | [(_, .text version), (_, .int seq), (_, .int cmdId), (_, .text fromUid), (_, .text toUid),
      (_, .int timestamp), (_, .text token), (_, .text deviceId), (_, .text platform)] =>
    some ⟨version, UInt32.ofNat seq.toNat, UInt32.ofNat cmdId.toNat, fromUid, toUid,
      UInt64.ofNat timestamp.toNat, token, deviceId, platform⟩
  | _ => none

/-- A body from the values of its fields. -/
def MessageBody.ofData : List (String × Datum) → Option MessageBody
  | [(_, .text messageId), (_, .int messageType), (_, .text content), (_, .flag isRecalled),
      (_, .flag isRead), (_, .text atUids), (_, .text ext), (_, .text senderUid),
      (_, .text receiverUid), (_, .int createTime), (_, .int deliveredTime), (_, .int readTime)] =>
    some ⟨messageId, messageType.toNat, content, isRecalled, isRead, atUids, ext, senderUid,
      receiverUid, createTime, deliveredTime, readTime⟩
  | _ => none

theorem IMHeader.ofData_data (header : IMHeader) : IMHeader.ofData header.data = some header := by
  simp [IMHeader.data, IMHeader.ofData]

theorem MessageBody.ofData_data (body : MessageBody) :
    MessageBody.ofData body.data = some body := by
  simp [MessageBody.data, MessageBody.ofData]

/-- The bytes, unless there are 2 GiB. -/
def unlessTooLong (bytes : Bytes) : Option Bytes :=
  if bytes.length < 2 ^ 31 then some bytes else none

/-- `ParseFromString` of a `SendMessageRequest`. -/
def readRequest (bytes : Bytes) : Option SendMessageRequest := do
  match ← readMessage sendMessageRequestSchema bytes with
  | [(_, .message header), (_, .message body)] =>
    let _ ← readMessage imHeaderSchema (header.getD [])
    let body ← (readMessage messageBodySchema (body.getD [])).bind MessageBody.ofData
    return ⟨body⟩
  | _ => none

/-- A library that reads and writes the wire format. -/
def protoWire : Wire where
  io := .documented
  header :=
    { typeName := utf8 "im.base.IMHeader"
      serialize := fun header => unlessTooLong (headerBytes header)
      parse := fun bytes => (readMessage imHeaderSchema bytes).bind IMHeader.ofData
      isInitialized := fun _ => true
      fresh := ⟨"", 0, 0, "", "", 0, "", "", ""⟩ }
  sendRequest :=
    { typeName := utf8 "im.message.SendMessageRequest"
      serialize := fun req => unlessTooLong (protoMessage 2 (protoFields 1 req.body.fields))
      parse := readRequest
      isInitialized := fun _ => true
      fresh := ⟨{}⟩ }
  sendResponse :=
    { typeName := utf8 "im.message.SendMessageResponse"
      serialize := fun response => unlessTooLong response.bytes
      parse := fun _ => none
      isInitialized := fun _ => true
      fresh := ⟨⟨.success, ""⟩, none⟩ }
  baseResponse :=
    { typeName := utf8 "im.base.BaseResponse"
      serialize := fun response => unlessTooLong (protoFields 1 response.fields)
      parse := fun _ => none
      isInitialized := fun _ => true
      fresh := ⟨.success, ""⟩ }

theorem protoWire_proto3 : protoWire.Proto3 where
  io := CodedIO.documented_spec
  header_serialize _ h := if_pos h
  header_parse _ header h := by
    change (readMessage imHeaderSchema _).bind IMHeader.ofData = _
    rw [h, Option.bind_some, IMHeader.ofData_data]
  header_isInitialized _ := rfl
  request_parse {bytes header body _ _} hbytes _ _ _ h b hh hb := by
    have hread := MyChat.Web.readMessage_request header body
    rw [← hbytes] at hread
    change readRequest bytes = _
    simp only [readRequest, hread, hh, hb, MessageBody.ofData_data, Option.bind_eq_bind,
      Option.bind_some, Option.getD_some]
    rfl
  response_serialize _ h := if_pos h
  response_typeName := rfl
  base_serialize _ h := if_pos h
  base_typeName := rfl

end MyChat.Gateway
