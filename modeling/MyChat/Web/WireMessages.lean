import MyChat.Codec.WebSections
import MyChat.Gateway.ProtoMessages
import MyChat.Web.Acknowledgement

/-!
# The messages of a send on the wire

A direct message that the web client sends passes as bytes: the header and the request that
protobufjs writes, in the client's envelope, which `parse_websocket_message_enhanced` unpacks; and
the response, which the gateway's protobuf library writes and `ProtobufCodec::encode` packs, and
which `decodeEnvelopeFrame` unpacks.

`parse_sendFrame` says what the server finds in a frame of the client's, and
`decodeEnvelopeFrame_response` what the client finds in an answer of the server's: the fields that
were written, where one that was absent or at its default is at its default or absent.
-/

namespace MyChat.Web

open Codec Wire

/-! ## The client's frame -/

/-- The bytes that `encodeSendMessageFrame` returns. -/
def SendFrame.bytes (writer : Writer) (frame : SendFrame) : Bytes :=
  encodeEnvelope (encodeImHeader writer frame.header) "im.message.SendMessageRequest"
    (encodeSendMessageRequest writer frame.header frame.body)

/-- The body that the server reads of the client's: a field that is absent is at its default. -/
def MessageBody.received (body : MessageBody) : Gateway.MessageBody where
  messageId := body.messageId.getD ""
  messageType := (body.type.getD 0).toNat
  content := body.content.getD ""
  isRecalled := body.isRecalled.getD false
  isRead := body.isRead.getD false
  atUids := body.atUids.getD ""
  ext := body.ext.getD ""
  senderUid := body.senderUid.getD ""
  receiverUid := body.receiverUid.getD ""
  createTime := (body.createTime.map NumberOrString.toInt).getD 0
  deliveredTime := (body.deliveredTime.map NumberOrString.toInt).getD 0
  readTime := (body.readTime.map NumberOrString.toInt).getD 0

/-- The server reads the fields of a header. -/
theorem data_received {value : ImHeader} (hvalue : value.Valid) :
    value.received.data = value.data := by
  have hnumber : ∀ o : Option ℕ, (∀ n ∈ o, n < 2 ^ 32) →
      (UInt32.ofNat (o.getD 0)).toNat = o.getD 0 := by
    intro o ho
    refine UInt32.toNat_ofNat_of_lt' ?_
    rcases o with _ | n
    · decide
    · exact ho n rfl
  have htime : ((UInt64.ofNat ((value.timestamp.map NumberOrString.toInt).getD 0).toNat).toNat :
      ℤ) = (value.timestamp.map NumberOrString.toInt).getD 0 := by
    rcases htimestamp : value.timestamp with _ | t
    · rfl
    · obtain ⟨n, hden, hn⟩ := hvalue.timestamp t htimestamp
      rw [Option.map_some, Option.getD_some, hden.toInt_eq, Int.toNat_natCast,
        UInt64.toNat_ofNat_of_lt' (lt_trans hn (by decide))]
  simp only [Gateway.IMHeader.data, ImHeader.data, ImHeader.received, hnumber _ hvalue.seq,
    hnumber _ hvalue.cmdId, htime]

/-- The server reads the fields of a body. -/
theorem data_received_body {value : MessageBody} (htype : ∀ n ∈ value.type, 0 ≤ n) :
    value.received.data = value.data := by
  have hnonneg : 0 ≤ value.type.getD 0 := by
    rcases hvalue : value.type with _ | n
    · exact le_rfl
    · exact htype n hvalue
  simp only [Gateway.MessageBody.data, MessageBody.data, MessageBody.received,
    Int.toNat_of_nonneg hnonneg]

/-- The frame can be sent: its values are in range, it has a command, and the server takes its
size. -/
structure SendFrame.Fits (writer : Writer) (frame : SendFrame) : Prop where
  /-- The values of the header. -/
  header : frame.header.Valid
  /-- The values of the body. -/
  body : frame.body.Valid
  /-- The type of the message is an enumerator. -/
  type : ∀ n ∈ frame.body.type, 0 ≤ n
  /-- There is a version. -/
  version : present frame.header.version ≠ none
  /-- The command is `CMD_SEND_MESSAGE`. -/
  cmdId : frame.header.cmdId = some 2001
  /-- The size. -/
  length : (frame.bytes writer).length ≤ Gateway.maxFrameSize

/-- A section is not longer than its frame. -/
theorem length_le_encodeEnvelope (headerBytes : Bytes) (typeName : String) (messageBytes : Bytes) :
    headerBytes.length ≤ (encodeEnvelope headerBytes typeName messageBytes).length ∧
      messageBytes.length ≤ (encodeEnvelope headerBytes typeName messageBytes).length := by
  rw [encodeEnvelope_eq, envelopeBody]
  simp only [List.length_append]
  omega

/-- A text takes at least its bytes. -/
theorem utf8ByteSize_le_textRecord (number : ℕ) (s : Option String) :
    (s.getD "").utf8ByteSize ≤ ((textRecord number s).flatMap Record.put).length := by
  rw [← getD_present, textRecord, flatMap_put_recordOf]
  rcases present s with _ | text
  · exact Nat.le_refl 0
  · have hlength : (utf8 text).length = text.utf8ByteSize := utf8_length text
    simp only [Option.map_some, Option.getD_some, Record.put, textValue, Value.put,
      List.length_append]
    unfold utf8 at hlength
    omega

/-- The texts of a header are parts of its bytes. -/
theorem textSize_le_records (value : ImHeader) :
    value.received.textSize ≤ (value.records.flatMap Record.put).length := by
  have hversion := utf8ByteSize_le_textRecord 1 value.version
  have hfromUid := utf8ByteSize_le_textRecord 4 value.fromUid
  have htoUid := utf8ByteSize_le_textRecord 5 value.toUid
  have htoken := utf8ByteSize_le_textRecord 7 value.token
  have hdeviceId := utf8ByteSize_le_textRecord 8 value.deviceId
  have hplatform := utf8ByteSize_le_textRecord 9 value.platform
  simp only [ImHeader.records, List.flatMap_append, List.length_append, Gateway.IMHeader.textSize,
    ImHeader.received]
  omega

/-- A header with a version is not empty. -/
theorem records_ne_nil {value : ImHeader} (hversion : present value.version ≠ none) :
    value.records.flatMap Record.put ≠ [] := by
  have hsize := utf8ByteSize_le_textRecord 1 value.version
  have hpos : (value.version.getD "").utf8ByteSize ≠ 0 := by
    intro hzero
    have hempty := String.utf8ByteSize_eq_zero_iff.mp hzero
    rcases hvalue : value.version with _ | s
    · rw [hvalue] at hversion
      exact hversion rfl
    · rw [hvalue] at hversion hempty
      rw [Option.getD_some] at hempty
      rw [hempty] at hversion
      exact hversion rfl
  intro hnil
  have hlength := congrArg List.length hnil
  simp only [ImHeader.records, List.flatMap_append, List.length_append, List.length_nil] at hlength
  omega

section Request

variable {writer : Writer} {wire : Gateway.Wire} {frame : SendFrame}

/-- The sizes of the parts of a frame that can be sent. -/
theorem SendFrame.Fits.sizes (h : frame.Fits writer) :
    (encodeImHeader writer frame.header).length ≤ Gateway.maxFrameSize ∧
      (encodeSendMessageRequest writer frame.header frame.body).length ≤ Gateway.maxFrameSize := by
  have hparts := length_le_encodeEnvelope (encodeImHeader writer frame.header)
    "im.message.SendMessageRequest" (encodeSendMessageRequest writer frame.header frame.body)
  exact ⟨hparts.1.trans h.length, hparts.2.trans h.length⟩

theorem SendFrame.Fits.received_cmdId (h : frame.Fits writer) :
    frame.header.received.cmdId = 2001 := by
  rw [ImHeader.received, h.cmdId]
  rfl

/-- The texts of the header of a frame that can be sent are not longer than the frame. -/
theorem SendFrame.Fits.textSize (hw : writer.Spec) (h : frame.Fits writer) :
    frame.header.received.textSize ≤ Gateway.maxFrameSize := by
  have hheader := h.sizes.1
  rw [encodeImHeader_eq hw h.header] at hheader
  exact (textSize_le_records frame.header).trans hheader

/-- The server parses the header and the body of a request. -/
theorem parse_request (hwire : wire.Proto3) (hw : writer.Spec) (h : frame.Fits writer) :
    wire.header.parse (encodeImHeader writer frame.header) = some frame.header.received ∧
      wire.sendRequest.parse (encodeSendMessageRequest writer frame.header frame.body) =
        some ⟨frame.body.received⟩ := by
  have hheader := encodeImHeader_eq hw h.header
  have hbody := encodeMessageBody_eq hw h.body
  have hmax : Gateway.maxFrameSize < 2 ^ 31 := by decide
  have hsizes := h.sizes
  have hwritten : Gateway.WrittenAs (encodeImHeader writer frame.header) frame.header.records :=
    ⟨hheader, ImHeader.records_valid h.header, by omega⟩
  have hheaderData : readMessage imHeaderSchema (encodeImHeader writer frame.header) =
      some frame.header.received.data := by
    rw [hheader, readMessage_imHeader h.header, data_received h.header]
  have hbodyData : readMessage messageBodySchema (encodeMessageBody writer frame.body) =
      some frame.body.received.data := by
    rw [hbody, readMessage_messageBody h.body, data_received_body h.type]
  -- The body is a part of the request.
  have hrequest := encodeSendMessageRequest_eq hw frame.header frame.body
  have hbodyLength : (encodeMessageBody writer frame.body).length < 2 ^ 31 := by
    have hle : (encodeMessageBody writer frame.body).length ≤
        (encodeSendMessageRequest writer frame.header frame.body).length := by
      rw [encodeSendMessageRequest, hw.bytes (encodeMessageBody writer frame.body)]
      simp only [List.length_append]
      omega
    omega
  refine ⟨hwire.header_parse hwritten _ hheaderData, ?_⟩
  exact hwire.request_parse hrequest (by omega) hwritten
    ⟨hbody, frame.body.records_valid, hbodyLength⟩ _ _ hheaderData hbodyData

/-- The server's parser makes of the client's frame the message that the frame carries. -/
theorem parse_sendFrame (hwire : wire.Proto3) (hw : writer.Spec) (h : frame.Fits writer)
    (sessionId generated : String) :
    Gateway.parseWebsocketMessageEnhanced wire (frame.bytes writer) sessionId generated =
      .ok ⟨.websocket, if sessionId = "" then generated else sessionId, frame.header.received,
        utf8 "im.message.SendMessageRequest",
        encodeSendMessageRequest writer frame.header frame.body⟩ := by
  have hsizes := h.sizes
  have hmax : Gateway.maxFrameSize = 10485760 := rfl
  have hlimit : totalBytesLimit = 67108864 := rfl
  have htype : (utf8 "im.message.SendMessageRequest").length = 29 := by decide
  have hframe := encodeFrame_eq_encodeEnvelope hwire.io (encodeImHeader writer frame.header)
    "im.message.SendMessageRequest" (encodeSendMessageRequest writer frame.header frame.body)
  have hheader : encodeImHeader writer frame.header ≠ [] := by
    rw [encodeImHeader_eq hw h.header]
    exact records_ne_nil h.version
  have hlength := h.length
  have hne : frame.bytes writer ≠ [] := by
    intro hnil
    have hparts := (length_le_encodeEnvelope (encodeImHeader writer frame.header)
      "im.message.SendMessageRequest" (encodeSendMessageRequest writer frame.header frame.body)).1
    have hpos := List.length_pos_iff.mpr hheader
    have hzero : (frame.bytes writer).length = 0 := by rw [hnil]; rfl
    unfold SendFrame.bytes at hzero
    omega
  have hend : headerEnd (encodeImHeader writer frame.header)
      (utf8 "im.message.SendMessageRequest") ≤ totalBytesLimit := by
    have h1 := Varint.put_length 4 (encodeImHeader writer frame.header).length
    have h2 := Varint.put_length 4 (utf8 "im.message.SendMessageRequest").length
    unfold headerEnd
    unfold Varint.put32
    omega
  have hdecode : decodeEnvelope wire.io wire.header (frame.bytes writer) =
      .ok (frame.header.received, utf8 "im.message.SendMessageRequest",
        encodeSendMessageRequest writer frame.header frame.body) := by
    have hbytes : frame.bytes writer = _ := hframe.symm
    have hlen : (encodeFrame wire.io (encodeImHeader writer frame.header)
        (utf8 "im.message.SendMessageRequest")
        (encodeSendMessageRequest writer frame.header frame.body)).length < 2 ^ 31 := by
      rw [← hbytes]
      omega
    rw [hbytes, decodeEnvelope_encodeFrame hwire.io wire.header _ _ _ hheader (by decide) hlen
      (by omega) (by omega), if_pos hend, (parse_request hwire hw h).1, orReject_some, ok_bind,
      if_pos (hwire.header_isInitialized _)]
  unfold Gateway.parseWebsocketMessageEnhanced
  rw [if_neg hne, if_neg (by omega), hdecode]
  exact if_neg (by rw [h.received_cmdId]; decide)

/-- The texts of the body of a frame that can be sent are not longer than the frame. -/
theorem SendFrame.Fits.content_size (hw : writer.Spec) (h : frame.Fits writer) :
    frame.body.received.content.utf8ByteSize ≤ Gateway.maxFrameSize := by
  have hcontent := utf8ByteSize_le_textRecord 3 frame.body.content
  have hbody : (encodeMessageBody writer frame.body).length ≤
      (encodeSendMessageRequest writer frame.header frame.body).length := by
    rw [encodeSendMessageRequest, hw.bytes (encodeMessageBody writer frame.body)]
    simp only [List.length_append]
    omega
  have hsize := h.sizes.2
  rw [encodeMessageBody_eq hw h.body] at hbody
  simp only [MessageBody.records, List.flatMap_append, List.length_append] at hbody
  unfold MessageBody.received
  dsimp only
  omega

end Request

/-! ## The server's answer -/

/-- The base that the client reads of the server's. -/
def ofBaseResponse (response : Gateway.BaseResponse) : BaseResponse where
  errorCode := (written 0 response.errorCode.toNat).map fun n : ℕ => (n : ℤ)
  errorMessage := written "" response.errorMessage

theorem present_written (s : String) : present (written "" s) = written "" s := by
  unfold written
  by_cases hs : s = ""
  · rw [if_pos hs]
    rfl
  · rw [if_neg hs]
    exact present_some hs

/-- The record of a text that the server writes. -/
theorem recordOf_text (number : ℕ) (s : String) :
    recordOf number (Gateway.ProtoValue.text s).value? = textRecord number (written "" s) := by
  rw [textRecord, present_written, Gateway.ProtoValue.value?, written]
  split_ifs <;> rfl

/-- The record of a number that the server writes, when the client reads it as some value. -/
theorem recordOf_number {α β : Type} [DecidableEq α] (number : ℕ) {n : ℕ} {a default : α}
    {toNumber : β → ℕ} {read : α → β} (hdefault : a = default ↔ n = 0)
    (hread : toNumber (read a) = n) : recordOf number (Gateway.ProtoValue.number n).value? =
      numberRecord number toNumber ((written default a).map read) := by
  rw [numberRecord, Gateway.ProtoValue.value?, written]
  by_cases hn : n = 0
  · rw [if_pos hn, if_pos (hdefault.mpr hn)]
    rfl
  · rw [if_neg hn, if_neg (mt hdefault.mp hn), Option.map_some, Option.map_some, hread]

/-- The numeral of a time that the server writes. -/
theorem toInt_toString (t : ℤ) : (NumberOrString.string (toString t)).toInt = t :=
  NumberOrString.Denotes.toInt_eq (Or.inr rfl)

/-- The numeral of a time is one already. -/
theorem numeral_toString (t : ℤ) :
    (NumberOrString.string (toString t)).numeral = .string (toString t) := by
  rw [NumberOrString.numeral, toInt_toString]

/-- A header is written as the records of the header that the client reads. -/
theorem records_ofIMHeader (header : Gateway.IMHeader) :
    Gateway.protoRecords 1 header.fields = (ofIMHeader header).records := by
  have hnumber : ∀ number n, recordOf number (Gateway.ProtoValue.number n).value? =
      numberRecord number id (written 0 n) := by
    intro number n
    have h : recordOf number (Gateway.ProtoValue.number n).value? =
        numberRecord number id ((written 0 n).map id) := recordOf_number number Iff.rfl rfl
    rwa [Option.map_id, id] at h
  have htime : recordOf 6 (Gateway.ProtoValue.number header.timestamp.toNat).value? =
      numberRecord 6 (fun t : NumberOrString => t.toInt.toNat)
        ((written 0 header.timestamp.toNat).map fun t => .string (toString t)) := by
    refine recordOf_number 6 Iff.rfl ?_
    exact congrArg Int.toNat (toInt_toString header.timestamp.toNat)
  simp only [Gateway.IMHeader.fields, Gateway.protoRecords, Nat.reduceAdd, recordOf_text,
    hnumber 2, hnumber 3, htime, ImHeader.records, ofIMHeader, List.append_assoc, List.append_nil]

/-- A time that the client can read is a number of 64 bits. -/
theorem isTime_toString {t : ℤ} (h : (NumberOrString.string (toString t)).IsTime) :
    -2 ^ 53 < t ∧ t < 2 ^ 53 := by
  obtain ⟨n, hden, hlow, hhigh⟩ := h
  have hsame := hden.toInt_eq
  rw [toInt_toString] at hsame
  omega

/-- The type of a message that the client reads. -/
theorem type_ofMessageBody (body : Gateway.MessageBody) :
    (ofMessageBody body).type = (written 0 body.messageType).map fun n : ℕ => (n : ℤ) := by
  rw [ofMessageBody]
  rcases written 0 body.messageType with _ | n
  · rfl
  · rfl

/-- A body is written as the records of the body that the client reads. -/
theorem records_ofMessageBody {body : Gateway.MessageBody} (hbody : (ofMessageBody body).Valid) :
    Gateway.protoRecords 1 body.fields = (ofMessageBody body).records := by
  have htype : recordOf 2 (Gateway.ProtoValue.number body.messageType).value? =
      numberRecord 2 ofSigned (ofMessageBody body).type := by
    have hvalid := hbody.type
    rw [type_ofMessageBody] at hvalid ⊢
    refine recordOf_number 2 Iff.rfl ?_
    by_cases hzero : body.messageType = 0
    · rw [hzero]
      rfl
    · rw [written, if_neg hzero, Option.map_some] at hvalid
      have hlt := (hvalid body.messageType rfl).2
      unfold ofSigned
      omega
  have hflag : ∀ number (b : Bool), recordOf number (Gateway.ProtoValue.number b.toNat).value? =
      numberRecord number Bool.toNat (written false b) := by
    intro number b
    cases b <;> rfl
  have htime : ∀ number (t : ℤ), (∀ v ∈ (written 0 t).map fun t =>
        NumberOrString.string (toString t), v.IsTime) →
      recordOf number (Gateway.ProtoValue.number (ofSigned t)).value? =
        numberRecord number NumberOrString.signed
          ((written 0 t).map fun t => .string (toString t)) := by
    intro number t ht
    have hzero : t = 0 ↔ ofSigned t = 0 := by
      by_cases hzero : t = 0
      · rw [hzero]
        exact iff_of_true rfl rfl
      · have hsome : (written 0 t).map (fun t => NumberOrString.string (toString t)) =
            some (.string (toString t)) := by
          rw [written, if_neg hzero, Option.map_some]
        have hrange : -2 ^ 53 < t ∧ t < 2 ^ 53 :=
          isTime_toString (ht (.string (toString t)) hsome)
        unfold ofSigned
        omega
    refine recordOf_number number hzero ?_
    rw [NumberOrString.signed, toInt_toString]
  simp only [Gateway.MessageBody.fields, Gateway.protoRecords, Nat.reduceAdd, recordOf_text, htype,
    hflag, htime 10 _ hbody.createTime, htime 11 _ hbody.deliveredTime, htime 12 _ hbody.readTime,
    MessageBody.records, List.append_assoc, List.append_nil]
  rfl

/-- What the client reads of the server's header has no empty string, and its time is a numeral. -/
theorem normalized_ofIMHeader (header : Gateway.IMHeader) :
    (ofIMHeader header).normalized = ofIMHeader header := by
  have htime : (written 0 header.timestamp.toNat).map
      (NumberOrString.numeral ∘ fun t => .string (toString t)) =
      (written 0 header.timestamp.toNat).map fun t => .string (toString t) :=
    congrArg (fun f => (written 0 header.timestamp.toNat).map f)
      (funext fun t : ℕ => numeral_toString t)
  simp only [ImHeader.normalized, ofIMHeader, present_written, Option.map_map, htime]

theorem normalized_ofMessageBody (body : Gateway.MessageBody) :
    (ofMessageBody body).normalized = ofMessageBody body := by
  have htime : ∀ t : ℤ, (written 0 t).map
      (NumberOrString.numeral ∘ fun t => .string (toString t)) =
      (written 0 t).map fun t => .string (toString t) :=
    fun t => congrArg (fun f => (written 0 t).map f) (funext fun t : ℤ => numeral_toString t)
  simp only [MessageBody.normalized, ofMessageBody, present_written, Option.map_map, htime]

section Answer

variable {reader : Reader}

/-- The client reads the header that the server writes. -/
theorem decodeImHeader_headerBytes (hr : reader.Spec) {header : Gateway.IMHeader}
    (h : header.textSize < 2 ^ 31) :
    decodeImHeader reader (Gateway.headerBytes header) = .ok (ofIMHeader header) := by
  have hnumber : ∀ {n m : ℕ}, n < m → ∀ k ∈ written 0 n, k < m := by
    intro n m hn k hk
    unfold written at hk
    split_ifs at hk
    · exact absurd hk (by simp)
    · exact Option.some.inj hk ▸ hn
  rw [Gateway.headerBytes_eq, Gateway.protoFields_eq (by simp [Gateway.IMHeader.fields])
    (Gateway.fits_fields h), records_ofIMHeader,
    decodeImHeader_fields hr (hnumber header.seq.toNat_lt) (hnumber header.cmdId.toNat_lt),
    normalized_ofIMHeader]
  intro t ht
  obtain ⟨n, hn, rfl⟩ := Option.map_eq_some_iff.mp ht
  exact ⟨n, Or.inr rfl, hnumber header.timestamp.toNat_lt n hn⟩

/-- The texts of a body fit into it. -/
def FitsBody (body : Gateway.MessageBody) : Prop := ∀ value ∈ body.fields, value.Fits

/-- The client reads the body that the server writes. -/
theorem decodeMessageBody_fields (hr : reader.Spec) {body : Gateway.MessageBody}
    (hfits : FitsBody body) (hbody : (ofMessageBody body).Valid) :
    decodeMessageBody reader (Gateway.protoFields 1 body.fields) = .ok (ofMessageBody body) := by
  rw [Gateway.protoFields_eq (by simp [Gateway.MessageBody.fields]) hfits,
    records_ofMessageBody hbody, decodeMessageBody_records hr hbody, normalized_ofMessageBody]

/-- The client reads the base that the server writes. -/
theorem decodeBaseResponse_fields (hr : reader.Spec) {response : Gateway.BaseResponse}
    (hfits : ∀ value ∈ response.fields, value.Fits) :
    decodeBaseResponse reader (Gateway.protoFields 1 response.fields) =
      .ok (ofBaseResponse response) := by
  have hcode : response.errorCode.toNat < 2 ^ 31 := by
    cases response.errorCode <;> decide
  have hsigned : ofSigned response.errorCode.toNat = response.errorCode.toNat := by
    unfold ofSigned
    omega
  have hrecords : Gateway.protoRecords 1 response.fields =
      numberRecord 1 ofSigned (ofBaseResponse response).errorCode ++
        textRecord 2 (ofBaseResponse response).errorMessage := by
    have hnumber : recordOf 1 (Gateway.ProtoValue.number response.errorCode.toNat).value? =
        numberRecord 1 ofSigned ((written 0 response.errorCode.toNat).map fun n : ℕ => (n : ℤ)) :=
      recordOf_number 1 Iff.rfl hsigned
    simp only [Gateway.BaseResponse.fields, Gateway.protoRecords, Nat.reduceAdd, hnumber,
      recordOf_text, ofBaseResponse, List.append_nil]
  have hread : ∀ n ∈ (ofBaseResponse response).errorCode, ∀ rest,
      reader.int32.read (Varint.put 9 (ofSigned n) ++ rest) = .ok (n, rest) := by
    intro n hn rest
    obtain ⟨m, hm, rfl⟩ := Option.map_eq_some_iff.mp hn
    unfold written at hm
    split_ifs at hm
    obtain rfl := Option.some.inj hm
    exact hr.int32 _ rest (by omega) (by omega)
  rw [Gateway.protoFields_eq (by simp [Gateway.BaseResponse.fields]) hfits, hrecords,
    List.flatMap_append]
  refine Eq.trans (Reads.readFields_eq
    (Reads.append (Reads.number hr (fun o (out : BaseResponse) => { out with
      errorCode := o.or out.errorCode }) (by norm_num) rfl hread rfl fun _ => rfl)
    (Reads.text hr (fun o (out : BaseResponse) => { out with
      errorMessage := o.or out.errorMessage }) (by norm_num) rfl rfl fun _ => rfl)) {}) ?_
  simp only [Function.comp_apply, Option.or_none, ofBaseResponse, present_written]

/-- The response can be sent: its texts fit, its values are in range, and it has less than 2 GiB. -/
structure Sendable (response : Gateway.SendMessageResponse) : Prop where
  /-- The text of the base. -/
  base : ∀ value ∈ response.base.fields, value.Fits
  /-- The texts of the message. -/
  fits : ∀ body ∈ response.message, FitsBody body
  /-- The values of the message. -/
  valid : ∀ body ∈ response.message, (ofMessageBody body).Valid
  /-- The size. -/
  length : response.bytes.length < 2 ^ 31

/-- The client reads the response that the server writes. -/
theorem decodeSendMessageResponse_bytes (hr : reader.Spec)
    {response : Gateway.SendMessageResponse} (h : Sendable response) :
    decodeSendMessageResponse reader response.bytes =
      .ok ⟨some (ofBaseResponse response.base), response.message.map ofMessageBody⟩ := by
  have hlength := h.length
  have hle : ∀ field bytes, bytes.length ≤ (Gateway.protoMessage field bytes).length := by
    intro field bytes
    rw [Gateway.protoMessage]
    simp only [List.length_cons, List.length_append]
    omega
  have hbaseLength : (Gateway.protoFields 1 response.base.fields).length < 2 ^ 32 := by
    have hpart := hle 1 (Gateway.protoFields 1 response.base.fields)
    rw [Gateway.SendMessageResponse.bytes, List.length_append] at hlength
    omega
  have hfirst : Reads reader (sendMessageResponseField reader)
      (Record.mk 1 (.bytes (Gateway.protoFields 1 response.base.fields))).put _ :=
    Reads.message hr (fun b (out : SendMessageResponse) => { out with base := some b })
      (by norm_num) rfl (decodeBaseResponse_fields hr h.base)
  rw [Gateway.SendMessageResponse.bytes,
    Gateway.protoMessage_eq (show 1 < 15 by norm_num) hbaseLength]
  rcases hmessage : response.message with _ | body
  · have hone := hfirst.readFields_eq {}
    rw [List.append_nil]
    exact hone
  · have hbodyLength : (Gateway.protoFields 1 body.fields).length < 2 ^ 32 := by
      have hpart := hle 2 (Gateway.protoFields 1 body.fields)
      rw [Gateway.SendMessageResponse.bytes, List.length_append, hmessage] at hlength
      dsimp only at hlength
      omega
    have hsecond : Reads reader (sendMessageResponseField reader)
        (Record.mk 2 (.bytes (Gateway.protoFields 1 body.fields))).put _ :=
      Reads.message hr (fun b (out : SendMessageResponse) => { out with message := some b })
        (by norm_num) rfl (decodeMessageBody_fields hr (h.fits body hmessage)
          (h.valid body hmessage))
    have hboth := (hfirst.append hsecond).readFields_eq {}
    dsimp only
    rw [Gateway.protoMessage_eq (show 2 < 15 by norm_num) hbodyLength]
    exact hboth

variable {td : TextDecoder} {wire : Gateway.Wire}

/-- A frame ends with its checksum. -/
theorem encodeFrame_ne_nil (io : CodedIO) (headerData messageType messageData : Bytes) :
    encodeFrame io headerData messageType messageData ≠ [] := by
  intro hnil
  have hlength := congrArg List.length hnil
  simp only [encodeFrame, List.length_append, leBytes_length, List.length_nil] at hlength
  omega

/-- A header that is not too long is serialized. -/
theorem serialize_header (hwire : wire.Proto3) {header : Gateway.IMHeader}
    (h : header.textSize < 2 ^ 30) :
    (Gateway.headerBytes header).length < 2 ^ 31 ∧
      wire.header.serialize header = some (Gateway.headerBytes header) := by
  have hlength : (Gateway.headerBytes header).length < 2 ^ 31 := by
    have := (Gateway.headerBytes_length header).2
    omega
  exact ⟨hlength, hwire.header_serialize header hlength⟩

/-- The client's decoder makes of the server's frame the header and the response that it was made
of. -/
theorem decodeEnvelopeFrame_response (htd : td.Spec) (hr : reader.Spec) (hwire : wire.Proto3)
    {header : Gateway.IMHeader} (hheader : header.textSize < 2 ^ 30)
    {response : Gateway.SendMessageResponse} (h : Sendable response) :
    ∃ frame, encode wire.io wire.header wire.sendResponse header response = some frame ∧
      frame ≠ [] ∧ decodeEnvelopeFrame td reader frame = .ok ⟨ofIMHeader header,
        "im.message.SendMessageResponse", .sendMessageResponse
          ⟨some (ofBaseResponse response.base), response.message.map ofMessageBody⟩⟩ := by
  obtain ⟨hlength, hserialize⟩ := serialize_header hwire hheader
  refine ⟨encodeFrame wire.io (Gateway.headerBytes header)
    (utf8 "im.message.SendMessageResponse") response.bytes, ?_, encodeFrame_ne_nil _ _ _ _, ?_⟩
  · rw [encode, hserialize, hwire.response_serialize response h.length, hwire.response_typeName]
    rfl
  · have hname : td.decode (utf8 "im.message.SendMessageResponse") =
        "im.message.SendMessageResponse" := htd _
    rw [encodeFrame_eq_encodeEnvelope hwire.io, decodeEnvelopeFrame,
      splitEnvelopeFrame_encodeEnvelope td _ _ _ (by omega) (by decide), hname]
    have hpayload := decodeSendMessageResponse_bytes hr h
    simp only [Except.mapError, ok_bind, decodeSections,
      decodeImHeader_headerBytes hr (show header.textSize < 2 ^ 31 by omega), decodePayload,
      hpayload, Except.map]
    rfl

/-- What `applyDecodedWsPayload` finds of a `SendMessageResponse` in a frame that arrives. -/
def receivedResponse (td : TextDecoder) (reader : Reader) (frame : Bytes) :
    Option (ImHeader × Option MessageBody) :=
  match decodeEnvelopeFrame td reader frame with
  | .error _ => none
  | .ok envelope =>
    if envelope.typeName = "im.message.SendMessageResponse" then
      match envelope.payload with
      | .sendMessageResponse value => some (envelope.header, value.message)
      | _ => none
    else none

/-- A frame of another type is no `SendMessageResponse`. -/
theorem receivedResponse_base (htd : td.Spec) (hwire : wire.Proto3) {header : Gateway.IMHeader}
    (hheader : header.textSize < 2 ^ 30) {response : Gateway.BaseResponse} {frame : Bytes}
    (h : encode wire.io wire.header wire.baseResponse header response = some frame) :
    receivedResponse td reader frame = none := by
  obtain ⟨hlength, hserialize⟩ := serialize_header hwire hheader
  rw [encode, hserialize, hwire.base_typeName] at h
  obtain ⟨messageData, -, hframe⟩ : ∃ messageData, wire.baseResponse.serialize response =
      some messageData ∧ some (encodeFrame wire.io (Gateway.headerBytes header)
        (utf8 "im.base.BaseResponse") messageData) = some frame := Option.bind_eq_some_iff.mp h
  obtain rfl := Option.some.inj hframe
  have hname : td.decode (utf8 "im.base.BaseResponse") = "im.base.BaseResponse" := htd _
  have hsplit := splitEnvelopeFrame_encodeEnvelope td (Gateway.headerBytes header)
    "im.base.BaseResponse" messageData (by omega) (by decide)
  rw [← encodeFrame_eq_encodeEnvelope hwire.io, hname] at hsplit
  rw [receivedResponse]
  rcases hdecode : decodeEnvelopeFrame td reader _ with _ | envelope
  · rfl
  · -- The type name of the envelope is that of its sections.
    rw [decodeEnvelopeFrame, hsplit] at hdecode
    obtain ⟨sections, hsections, hdecode⟩ := bind_eq_ok.mp hdecode
    obtain rfl : _ = sections := Except.ok.inj hsections
    obtain ⟨header', -, hdecode⟩ := bind_eq_ok.mp hdecode
    obtain ⟨payload, -, hdecode⟩ := bind_eq_ok.mp hdecode
    obtain rfl : _ = envelope := Except.ok.inj hdecode
    exact if_neg (show ¬ "im.base.BaseResponse" = "im.message.SendMessageResponse" by decide)

end Answer

/-! ## A frame at the server -/

/-- A field that is a message takes its bytes, a tag, and a length. -/
theorem protoMessage_length (field : ℕ) (bytes : Bytes) :
    (Gateway.protoMessage field bytes).length ≤ bytes.length + 6 := by
  have hlength := (Varint.put_length 4 bytes.length).2
  rw [Gateway.protoMessage, List.length_cons, List.length_append, Varint.put32]
  omega

/-- A refusal can be sent. -/
theorem sendable_error (code : Gateway.BaseErrorCode) {text : String}
    (htext : text.utf8ByteSize ≤ 100) : Sendable ⟨⟨code, text⟩, none⟩ where
  base := by
    have hcode : code.toNat < 2 ^ 31 := by
      cases code <;> decide
    simp only [Gateway.BaseResponse.fields, List.forall_mem_cons, Gateway.ProtoValue.Fits,
      utf8_length]
    exact ⟨by omega, by omega, fun value hvalue => absurd hvalue List.not_mem_nil⟩
  fits _ hbody := absurd hbody (by simp)
  valid _ hbody := absurd hbody (by simp)
  length := by
    have hfields := Gateway.protoFields_length [.number code.toNat, .text text] 1
    have hmessage := protoMessage_length 1 (Gateway.protoFields 1 [.number code.toNat, .text text])
    simp only [List.map_cons, List.map_nil, List.sum_cons, List.sum_nil,
      Gateway.ProtoValue.size] at hfields
    simp only [Gateway.SendMessageResponse.bytes, Gateway.BaseResponse.fields, List.append_nil]
    omega

/-- The type of a stored message is an enumerator. -/
theorem messageTypeNumber_lt (type : Chat.MessageType) : Gateway.messageTypeNumber type < 4 := by
  cases type <;> decide

/-- The answer to a message that is stored can be sent. -/
theorem sendable_success {data : Chat.MessageData} (hid : data.msgId < 2 ^ 64)
    (hcontent : data.content.utf8ByteSize ≤ Gateway.maxFrameSize) :
    Sendable ⟨⟨.success, ""⟩, some (Gateway.responseBody data)⟩ := by
  have hmax : Gateway.maxFrameSize = 10485760 := rfl
  have hnumeral := Gateway.toString_size hid
  have htype := messageTypeNumber_lt data.msgType
  have hempty : "".utf8ByteSize = 0 := rfl
  have hzero : ofSigned 0 = 0 := rfl
  refine ⟨?_, fun body hbody => ?_, fun body hbody => ?_, ?_⟩
  · simp only [Gateway.BaseResponse.fields, List.forall_mem_cons, Gateway.ProtoValue.Fits,
      Gateway.BaseErrorCode.toNat, utf8_length]
    exact ⟨by omega, by omega, fun value hvalue => absurd hvalue List.not_mem_nil⟩
  · obtain rfl := Option.some.inj hbody
    simp only [FitsBody, Gateway.MessageBody.fields, Gateway.responseBody, List.forall_mem_cons,
      Gateway.ProtoValue.Fits, utf8_length, hempty, hzero, Bool.toNat_false]
    refine ⟨?_, ?_, ?_, ?_, ?_, ?_, ?_, ?_, ?_, ?_, ?_, ?_,
      fun value hvalue => absurd hvalue List.not_mem_nil⟩ <;> omega
  · obtain rfl := Option.some.inj hbody
    refine ⟨fun n hn => ?_, ?_, ?_, ?_⟩
    · rw [type_ofMessageBody] at hn
      obtain ⟨m, hm, rfl⟩ := Option.map_eq_some_iff.mp hn
      unfold written at hm
      split_ifs at hm
      obtain rfl := Option.some.inj hm
      simp only [Gateway.responseBody]
      omega
    all_goals exact fun t ht => absurd ht (by simp [ofMessageBody, Gateway.responseBody, written])
  · have hbase := protoMessage_length 1
      (Gateway.protoFields 1 (Gateway.BaseResponse.fields ⟨.success, ""⟩))
    have hbaseFields := Gateway.protoFields_length (Gateway.BaseResponse.fields ⟨.success, ""⟩) 1
    have hbody := protoMessage_length 2
      (Gateway.protoFields 1 (Gateway.responseBody data).fields)
    have hbodyFields := Gateway.protoFields_length (Gateway.responseBody data).fields 1
    simp only [Gateway.BaseResponse.fields, Gateway.MessageBody.fields, Gateway.responseBody,
      List.map_cons, List.map_nil, List.sum_cons, List.sum_nil, Gateway.ProtoValue.size,
      hempty] at hbase hbaseFields hbody hbodyFields
    simp only [Gateway.SendMessageResponse.bytes, Gateway.BaseResponse.fields,
      Gateway.MessageBody.fields, Gateway.responseBody, List.length_append]
    omega

end MyChat.Web
