import MyChat.Codec.WebMessages

/-!
# Messages of the web client, written and read

What `encodeImHeader`, `encodeMessageBody`, and `encodeSendMessageRequest` write is a list of
records of the wire format, one for each field that is present (`ImHeader.records` and
`MessageBody.records`). Read with the schemas of `common/proto/base.proto` and
`common/proto/message.proto`, the records give the values of the fields; read by the client's own
decoders, they give the message back, where an empty string is absent and a time is its decimal
numeral.
-/

namespace MyChat.Web

open Codec Wire

/-! ## The schemas -/

/-- `IMHeader` of `base.proto`. -/
def imHeaderSchema : List FieldDecl :=
  [⟨"version", 1, .string⟩, ⟨"seq", 2, .uint32⟩, ⟨"cmd_id", 3, .uint32⟩, ⟨"from_uid", 4, .string⟩,
    ⟨"to_uid", 5, .string⟩, ⟨"timestamp", 6, .uint64⟩, ⟨"token", 7, .string⟩,
    ⟨"device_id", 8, .string⟩, ⟨"platform", 9, .string⟩]

/-- `MessageBody` of `message.proto`. -/
def messageBodySchema : List FieldDecl :=
  [⟨"message_id", 1, .string⟩, ⟨"type", 2, .enum⟩, ⟨"content", 3, .string⟩,
    ⟨"is_recalled", 4, .bool⟩, ⟨"is_read", 5, .bool⟩, ⟨"at_uids", 6, .string⟩, ⟨"ext", 7, .string⟩,
    ⟨"sender_uid", 8, .string⟩, ⟨"receiver_uid", 9, .string⟩, ⟨"create_time", 10, .int64⟩,
    ⟨"delivered_time", 11, .int64⟩, ⟨"read_time", 12, .int64⟩]

/-- `SendMessageRequest` of `message.proto`. -/
def sendMessageRequestSchema : List FieldDecl := [⟨"header", 1, .message⟩, ⟨"body", 2, .message⟩]

/-! ## Values -/

/-- A string that is there and not empty. -/
def present (s : Option String) : Option String := s.filter (· ≠ "")

theorem present_some {s : String} (h : s ≠ "") : present (some s) = some s := by
  rw [present, Option.filter_some, if_pos (by simpa using h)]

/-- The decimal numeral of a time. -/
def NumberOrString.numeral (t : NumberOrString) : NumberOrString := .string (toString t.toInt)

/-- The values of the fields of a header are in range: `seq` and `cmdId` are numbers of 32 bits, and
`timestamp` is a number below `2^53`. -/
structure ImHeader.Valid (value : ImHeader) : Prop where
  /-- `seq`. -/
  seq : ∀ n ∈ value.seq, n < 2 ^ 32
  /-- `cmdId`. -/
  cmdId : ∀ n ∈ value.cmdId, n < 2 ^ 32
  /-- `timestamp`. -/
  timestamp : ∀ t ∈ value.timestamp, ∃ n : ℕ, t.Denotes n ∧ n < 2 ^ 53

/-- The time is an integer of magnitude below `2^53`. -/
def NumberOrString.IsTime (t : NumberOrString) : Prop :=
  ∃ n : ℤ, t.Denotes n ∧ -2 ^ 53 < n ∧ n < 2 ^ 53

/-- The values of the fields of a body are in range: `type` is a signed number of 32 bits, and the
times are integers of magnitude below `2^53`. -/
structure MessageBody.Valid (value : MessageBody) : Prop where
  /-- `type`. -/
  type : ∀ n ∈ value.type, -2 ^ 31 ≤ n ∧ n < 2 ^ 31
  /-- `createTime`. -/
  createTime : ∀ t ∈ value.createTime, t.IsTime
  /-- `deliveredTime`. -/
  deliveredTime : ∀ t ∈ value.deliveredTime, t.IsTime
  /-- `readTime`. -/
  readTime : ∀ t ∈ value.readTime, t.IsTime

/-- The header with no empty string and its time as a decimal numeral. -/
def ImHeader.normalized (value : ImHeader) : ImHeader where
  version := present value.version
  seq := value.seq
  cmdId := value.cmdId
  fromUid := present value.fromUid
  toUid := present value.toUid
  timestamp := value.timestamp.map NumberOrString.numeral
  token := present value.token
  deviceId := present value.deviceId
  platform := present value.platform

/-- The body with no empty string and its times as decimal numerals. -/
def MessageBody.normalized (value : MessageBody) : MessageBody where
  messageId := present value.messageId
  type := value.type
  content := present value.content
  isRecalled := value.isRecalled
  isRead := value.isRead
  atUids := present value.atUids
  ext := present value.ext
  senderUid := present value.senderUid
  receiverUid := present value.receiverUid
  createTime := value.createTime.map NumberOrString.numeral
  deliveredTime := value.deliveredTime.map NumberOrString.numeral
  readTime := value.readTime.map NumberOrString.numeral

/-- The fields of a header under their names in the schema; one that is absent is at its default. -/
def ImHeader.data (value : ImHeader) : List (String × Datum) :=
  [("version", .text (value.version.getD "")), ("seq", .int (value.seq.getD 0)),
    ("cmd_id", .int (value.cmdId.getD 0)), ("from_uid", .text (value.fromUid.getD "")),
    ("to_uid", .text (value.toUid.getD "")),
    ("timestamp", .int ((value.timestamp.map NumberOrString.toInt).getD 0)),
    ("token", .text (value.token.getD "")), ("device_id", .text (value.deviceId.getD "")),
    ("platform", .text (value.platform.getD ""))]

/-- The fields of a body under their names in the schema; one that is absent is at its default. -/
def MessageBody.data (value : MessageBody) : List (String × Datum) :=
  [("message_id", .text (value.messageId.getD "")), ("type", .int (value.type.getD 0)),
    ("content", .text (value.content.getD "")),
    ("is_recalled", .flag (value.isRecalled.getD false)),
    ("is_read", .flag (value.isRead.getD false)), ("at_uids", .text (value.atUids.getD "")),
    ("ext", .text (value.ext.getD "")), ("sender_uid", .text (value.senderUid.getD "")),
    ("receiver_uid", .text (value.receiverUid.getD "")),
    ("create_time", .int ((value.createTime.map NumberOrString.toInt).getD 0)),
    ("delivered_time", .int ((value.deliveredTime.map NumberOrString.toInt).getD 0)),
    ("read_time", .int ((value.readTime.map NumberOrString.toInt).getD 0))]

/-! ## Records -/

/-- The record of a string that is there and not empty. -/
def textRecord (number : ℕ) (s : Option String) : List Record :=
  recordOf number ((present s).map textValue)

/-- The record of a value that is there and is a number on the wire. -/
def numberRecord {α : Type} (number : ℕ) (toNumber : α → ℕ) (value : Option α) : List Record :=
  recordOf number (value.map fun a => .number (toNumber a))

/-- The records of a header. -/
def ImHeader.records (value : ImHeader) : List Record :=
  textRecord 1 value.version ++ numberRecord 2 id value.seq ++ numberRecord 3 id value.cmdId ++
  textRecord 4 value.fromUid ++ textRecord 5 value.toUid ++
  numberRecord 6 (fun t => t.toInt.toNat) value.timestamp ++ textRecord 7 value.token ++
  textRecord 8 value.deviceId ++ textRecord 9 value.platform

/-- The varint of a time that may be negative. -/
def NumberOrString.signed (t : NumberOrString) : ℕ := ofSigned t.toInt

/-- The records of a body. -/
def MessageBody.records (value : MessageBody) : List Record :=
  textRecord 1 value.messageId ++ numberRecord 2 ofSigned value.type ++
  textRecord 3 value.content ++ numberRecord 4 Bool.toNat value.isRecalled ++
  numberRecord 5 Bool.toNat value.isRead ++ textRecord 6 value.atUids ++ textRecord 7 value.ext ++
  textRecord 8 value.senderUid ++ textRecord 9 value.receiverUid ++
  numberRecord 10 NumberOrString.signed value.createTime ++
  numberRecord 11 NumberOrString.signed value.deliveredTime ++
  numberRecord 12 NumberOrString.signed value.readTime

section Writing

variable {writer : Writer} (hw : writer.Spec)
include hw

omit hw in
/-- An empty string is treated as an absent one. -/
theorem whenTruthy_eq (s : Option String) (write : String → Bytes) :
    whenTruthy s write = whenDefined (present s) write := by
  rcases s with _ | s
  · rfl
  · by_cases hs : s = ""
    · rw [hs]
      rfl
    · rw [present_some hs]
      exact if_neg hs

omit hw in
/-- A field is written as its record when it is present. -/
theorem whenDefined_eq {α : Type} {number : ℕ} {toValue : α → Value} {write : α → Bytes}
    {value : Option α} (hwrite : ∀ a ∈ value, write a = (Record.mk number (toValue a)).put) :
    whenDefined value write = (recordOf number (value.map toValue)).flatMap Record.put := by
  rw [flatMap_put_recordOf]
  cases value with
  | none => rfl
  | some a => exact hwrite a rfl

/-- `if (value) writer.uint32(tag).string(value);`. -/
theorem whenTruthy_string {number tag : ℕ} (htag : tag = 8 * number + 2) (hn : tag < 2 ^ 32)
    (s : Option String) :
    whenTruthy s (fun v => writer.uint32 tag ++ writer.string v) =
      (textRecord number s).flatMap Record.put := by
  rw [whenTruthy_eq]
  refine whenDefined_eq fun v _ => ?_
  rw [hw.uint32 tag hn, hw.string, htag]
  rfl

/-- `if (value !== undefined) writer.uint32(tag).write(value);`, for a number on the wire. -/
theorem whenDefined_number {α : Type} {number tag : ℕ} {write : α → Bytes} {toNumber : α → ℕ}
    (htag : tag = 8 * number) (hn : tag < 2 ^ 32) {value : Option α}
    (hwrite : ∀ a ∈ value, write a = Varint.put 9 (toNumber a)) :
    whenDefined value (fun v => writer.uint32 tag ++ write v) =
      (numberRecord number toNumber value).flatMap Record.put := by
  refine whenDefined_eq fun v hv => ?_
  rw [hw.uint32 tag hn, hwrite v hv, htag]
  rfl

theorem uint32_eq {n : ℕ} (hn : n < 2 ^ 32) : writer.uint32 n = Varint.put 9 n := by
  rw [hw.uint32 n hn]
  exact Varint.put_eq_put (by norm_num) (by omega)

/-- `encodeImHeader` writes the records of the header. -/
theorem encodeImHeader_eq {value : ImHeader} (hvalue : value.Valid) :
    encodeImHeader writer value = value.records.flatMap Record.put := by
  have htimestamp : ∀ t ∈ value.timestamp, writer.uint64 t = Varint.put 9 t.toInt.toNat := by
    intro t ht
    obtain ⟨n, hden, hn⟩ := hvalue.timestamp t ht
    rw [hw.uint64 t n hden hn, hden.toInt_eq, Int.toNat_natCast]
  unfold encodeImHeader ImHeader.records
  rw [whenTruthy_string hw (show 10 = 8 * 1 + 2 from rfl) (by norm_num),
    whenDefined_number hw (show 16 = 8 * 2 from rfl) (by norm_num)
      fun n hn => uint32_eq hw (hvalue.seq n hn),
    whenDefined_number hw (show 24 = 8 * 3 from rfl) (by norm_num)
      fun n hn => uint32_eq hw (hvalue.cmdId n hn),
    whenTruthy_string hw (show 34 = 8 * 4 + 2 from rfl) (by norm_num),
    whenTruthy_string hw (show 42 = 8 * 5 + 2 from rfl) (by norm_num),
    whenDefined_number hw (show 48 = 8 * 6 from rfl) (by norm_num) htimestamp,
    whenTruthy_string hw (show 58 = 8 * 7 + 2 from rfl) (by norm_num),
    whenTruthy_string hw (show 66 = 8 * 8 + 2 from rfl) (by norm_num),
    whenTruthy_string hw (show 74 = 8 * 9 + 2 from rfl) (by norm_num)]
  simp only [List.flatMap_append]
  rfl

/-- `encodeMessageBody` writes the records of the body. -/
theorem encodeMessageBody_eq {value : MessageBody} (hvalue : value.Valid) :
    encodeMessageBody writer value = value.records.flatMap Record.put := by
  have htime : ∀ (time : Option NumberOrString), (∀ t ∈ time, t.IsTime) →
      ∀ t ∈ time, writer.int64 t = Varint.put 9 t.signed := by
    intro time htime t ht
    obtain ⟨n, hden, hlow, hhigh⟩ := htime t ht
    rw [hw.int64 t n hden hlow hhigh, NumberOrString.signed, hden.toInt_eq]
  unfold encodeMessageBody MessageBody.records
  rw [whenTruthy_string hw (show 10 = 8 * 1 + 2 from rfl) (by norm_num),
    whenDefined_number hw (show 16 = 8 * 2 from rfl) (by norm_num)
      fun n hn => hw.int32 n (hvalue.type n hn).1 (hvalue.type n hn).2,
    whenTruthy_string hw (show 26 = 8 * 3 + 2 from rfl) (by norm_num),
    whenDefined_number hw (show 32 = 8 * 4 from rfl) (by norm_num) fun b _ => hw.bool b,
    whenDefined_number hw (show 40 = 8 * 5 from rfl) (by norm_num) fun b _ => hw.bool b,
    whenTruthy_string hw (show 50 = 8 * 6 + 2 from rfl) (by norm_num),
    whenTruthy_string hw (show 58 = 8 * 7 + 2 from rfl) (by norm_num),
    whenTruthy_string hw (show 66 = 8 * 8 + 2 from rfl) (by norm_num),
    whenTruthy_string hw (show 74 = 8 * 9 + 2 from rfl) (by norm_num),
    whenDefined_number hw (show 80 = 8 * 10 from rfl) (by norm_num) (htime _ hvalue.createTime),
    whenDefined_number hw (show 88 = 8 * 11 from rfl) (by norm_num) (htime _ hvalue.deliveredTime),
    whenDefined_number hw (show 96 = 8 * 12 from rfl) (by norm_num) (htime _ hvalue.readTime)]
  simp only [List.flatMap_append]

/-- The records of a request: one of the header, and one of the body. -/
def requestRecords (header body : Bytes) : List Record := [⟨1, .bytes header⟩, ⟨2, .bytes body⟩]

/-- `encodeSendMessageRequest` writes the header and the body as two fields of the request. -/
theorem encodeSendMessageRequest_eq (header : ImHeader) (body : MessageBody) :
    encodeSendMessageRequest writer header body =
      (requestRecords (encodeImHeader writer header)
        (encodeMessageBody writer body)).flatMap Record.put := by
  rw [encodeSendMessageRequest, hw.uint32 10 (by norm_num), hw.uint32 18 (by norm_num), hw.bytes,
    hw.bytes]
  simp only [requestRecords, List.flatMap_cons, List.flatMap_nil, List.append_nil]
  rfl

end Writing

/-! ## Reading with the schemas -/

theorem textRecord_valid {number : ℕ} {s : Option String} (hpos : 0 < number)
    (hlt : number < 2 ^ 29) : ∀ r ∈ textRecord number s, r.Valid := by
  refine forall_mem_recordOf.mpr fun v hv => ⟨hpos, hlt, ?_⟩
  obtain ⟨text, -, rfl⟩ := Option.map_eq_some_iff.mp hv
  trivial

theorem numberRecord_valid {α : Type} {number : ℕ} {toNumber : α → ℕ} {value : Option α}
    (hpos : 0 < number) (hlt : number < 2 ^ 29) (hvalue : ∀ a ∈ value, toNumber a < 2 ^ 64) :
    ∀ r ∈ numberRecord number toNumber value, r.Valid := by
  refine forall_mem_recordOf.mpr fun v hv => ⟨hpos, hlt, ?_⟩
  obtain ⟨a, ha, rfl⟩ := Option.map_eq_some_iff.mp hv
  exact hvalue a ha

/-- The records of a header can be on the wire. -/
theorem ImHeader.records_valid {value : ImHeader} (hvalue : value.Valid) :
    ∀ r ∈ value.records, r.Valid := by
  have htimestamp : ∀ t ∈ value.timestamp, t.toInt.toNat < 2 ^ 64 := by
    intro t ht
    obtain ⟨n, hden, hn⟩ := hvalue.timestamp t ht
    rw [hden.toInt_eq]
    omega
  simp only [ImHeader.records, List.forall_mem_append, and_assoc]
  exact ⟨textRecord_valid (by norm_num) (by norm_num),
    numberRecord_valid (by norm_num) (by norm_num)
      fun n hn => lt_trans (hvalue.seq n hn) (by norm_num),
    numberRecord_valid (by norm_num) (by norm_num)
      fun n hn => lt_trans (hvalue.cmdId n hn) (by norm_num),
    textRecord_valid (by norm_num) (by norm_num), textRecord_valid (by norm_num) (by norm_num),
    numberRecord_valid (by norm_num) (by norm_num) htimestamp,
    textRecord_valid (by norm_num) (by norm_num), textRecord_valid (by norm_num) (by norm_num),
    textRecord_valid (by norm_num) (by norm_num)⟩

/-- The records of a body can be on the wire. -/
theorem MessageBody.records_valid (value : MessageBody) : ∀ r ∈ value.records, r.Valid := by
  have htime : ∀ number (time : Option NumberOrString), 0 < number → number < 2 ^ 29 →
      ∀ r ∈ numberRecord number NumberOrString.signed time, r.Valid :=
    fun _ _ hpos hlt => numberRecord_valid hpos hlt fun t _ => ofSigned_lt t.toInt
  have hbool : ∀ number (b : Option Bool), 0 < number → number < 2 ^ 29 →
      ∀ r ∈ numberRecord number Bool.toNat b, r.Valid :=
    fun _ _ hpos hlt => numberRecord_valid hpos hlt fun b _ => by cases b <;> norm_num
  simp only [MessageBody.records, List.forall_mem_append, and_assoc]
  exact ⟨textRecord_valid (by norm_num) (by norm_num),
    numberRecord_valid (by norm_num) (by norm_num) fun n _ => ofSigned_lt n,
    textRecord_valid (by norm_num) (by norm_num),
    hbool 4 _ (by norm_num) (by norm_num), hbool 5 _ (by norm_num) (by norm_num),
    textRecord_valid (by norm_num) (by norm_num), textRecord_valid (by norm_num) (by norm_num),
    textRecord_valid (by norm_num) (by norm_num), textRecord_valid (by norm_num) (by norm_num),
    htime 10 _ (by norm_num) (by norm_num), htime 11 _ (by norm_num) (by norm_num),
    htime 12 _ (by norm_num) (by norm_num)⟩

theorem getD_present (s : Option String) : (present s).getD "" = s.getD "" := by
  rcases s with _ | s
  · rfl
  · by_cases hs : s = ""
    · rw [hs]
      rfl
    · rw [present_some hs]

section Fields

variable {name : String} {number : ℕ} {rs : List Record}

/-- A text field, in records that have it when it is present. -/
theorem readsAs_text {s : Option String}
    (h : valuesOf number rs = ((present s).map textValue).toList) :
    (FieldDecl.mk name number .string).ReadsAs rs (name, .text (s.getD "")) := by
  have hread := FieldDecl.read_text (f := ⟨name, number, .string⟩) rfl h
  rw [getD_present] at hread
  exact ⟨rfl, hread⟩

/-- A number field, in records that have it when it is present. -/
theorem readsAs_number {α : Type} {kind : Kind} {toNumber : α → ℕ} {value : Option α}
    {datum : Datum} (hstring : kind ≠ .string) (hmessage : kind ≠ .message)
    (h : valuesOf number rs = (value.map fun a => Value.number (toNumber a)).toList)
    (hnone : value = none → kind.ofNumber 0 = datum)
    (hsome : ∀ a ∈ value, kind.ofNumber (toNumber a) = datum) :
    (FieldDecl.mk name number kind).ReadsAs rs (name, datum) := by
  refine ⟨rfl, ?_⟩
  rcases value with _ | a
  · rw [FieldDecl.read_number (o := none) hstring hmessage h, Option.getD_none, hnone rfl]
  · rw [FieldDecl.read_number (o := some (toNumber a)) hstring hmessage h, Option.getD_some,
      hsome a rfl]

theorem readsAs_uint32 {n : Option ℕ} (hn : ∀ m ∈ n, m < 2 ^ 32)
    (h : valuesOf number rs = (n.map fun m => Value.number (id m)).toList) :
    (FieldDecl.mk name number .uint32).ReadsAs rs (name, .int (n.getD 0 : ℕ)) := by
  refine readsAs_number (by simp) (by simp) h (fun hnone => ?_) fun m hm => ?_
  · rw [hnone]
    rfl
  · rw [Option.mem_def.mp hm]
    exact congrArg (fun k : ℕ => Datum.int k) (Nat.mod_eq_of_lt (hn m hm))

theorem readsAs_bool {b : Option Bool}
    (h : valuesOf number rs = (b.map fun a => Value.number a.toNat).toList) :
    (FieldDecl.mk name number .bool).ReadsAs rs (name, .flag (b.getD false)) := by
  refine readsAs_number (by simp) (by simp) h (fun hnone => ?_) fun a ha => ?_
  · rw [hnone]
    rfl
  · rw [Option.mem_def.mp ha]
    cases a <;> rfl

theorem readsAs_enum {n : Option ℤ} (hn : ∀ m ∈ n, -2 ^ 31 ≤ m ∧ m < 2 ^ 31)
    (h : valuesOf number rs = (n.map fun m => Value.number (ofSigned m)).toList) :
    (FieldDecl.mk name number .enum).ReadsAs rs (name, .int (n.getD 0)) := by
  refine readsAs_number (by simp) (by simp) h (fun hnone => ?_) fun m hm => ?_
  · rw [hnone]
    rfl
  · rw [Option.mem_def.mp hm]
    exact congrArg Datum.int (toInt_ofSigned_32 (hn m hm).1 (hn m hm).2)

theorem readsAs_uint64 {time : Option NumberOrString}
    (htime : ∀ t ∈ time, ∃ n : ℕ, t.Denotes n ∧ n < 2 ^ 53)
    (h : valuesOf number rs = (time.map fun t => Value.number t.toInt.toNat).toList) :
    (FieldDecl.mk name number .uint64).ReadsAs rs
      (name, .int ((time.map NumberOrString.toInt).getD 0)) := by
  refine readsAs_number (by simp) (by simp) h (fun hnone => ?_) fun t ht => ?_
  · rw [hnone]
    rfl
  · obtain ⟨n, hden, -⟩ := htime t ht
    rw [Option.mem_def.mp ht, Option.map_some, Option.getD_some, hden.toInt_eq, Int.toNat_natCast]
    rfl

theorem readsAs_int64 {time : Option NumberOrString} (htime : ∀ t ∈ time, t.IsTime)
    (h : valuesOf number rs = (time.map fun t => Value.number t.signed).toList) :
    (FieldDecl.mk name number .int64).ReadsAs rs
      (name, .int ((time.map NumberOrString.toInt).getD 0)) := by
  refine readsAs_number (by simp) (by simp) h (fun hnone => ?_) fun t ht => ?_
  · rw [hnone]
    rfl
  · obtain ⟨n, hden, hlow, hhigh⟩ := htime t ht
    rw [Option.mem_def.mp ht, Option.map_some, Option.getD_some, NumberOrString.signed,
      hden.toInt_eq]
    exact congrArg Datum.int (toInt_ofSigned_64 (by omega) (by omega))

end Fields

/-- Read with the schema, the records of a header give its fields. -/
theorem readMessage_imHeader {value : ImHeader} (hvalue : value.Valid) :
    readMessage imHeaderSchema (value.records.flatMap Record.put) = some value.data := by
  refine readMessage_put (ImHeader.records_valid hvalue) ?_
  refine .cons (readsAs_text ?_) (.cons (readsAs_uint32 hvalue.seq ?_)
    (.cons (readsAs_uint32 hvalue.cmdId ?_) (.cons (readsAs_text ?_) (.cons (readsAs_text ?_)
    (.cons (readsAs_uint64 hvalue.timestamp ?_) (.cons (readsAs_text ?_) (.cons (readsAs_text ?_)
    (.cons (readsAs_text ?_) .nil))))))))
  -- Each record is found by its number.
  all_goals simp [ImHeader.records, textRecord, numberRecord]

/-- Read with the schema, the records of a body give its fields. -/
theorem readMessage_messageBody {value : MessageBody} (hvalue : value.Valid) :
    readMessage messageBodySchema (value.records.flatMap Record.put) = some value.data := by
  refine readMessage_put value.records_valid ?_
  refine .cons (readsAs_text ?_) (.cons (readsAs_enum hvalue.type ?_) (.cons (readsAs_text ?_)
    (.cons (readsAs_bool ?_) (.cons (readsAs_bool ?_) (.cons (readsAs_text ?_)
    (.cons (readsAs_text ?_) (.cons (readsAs_text ?_) (.cons (readsAs_text ?_)
    (.cons (readsAs_int64 hvalue.createTime ?_) (.cons (readsAs_int64 hvalue.deliveredTime ?_)
    (.cons (readsAs_int64 hvalue.readTime ?_) .nil)))))))))))
  all_goals simp [MessageBody.records, textRecord, numberRecord]

/-- Read with the schema, a request gives the bytes of its header and of its body. -/
theorem readMessage_request (header body : Bytes) :
    readMessage sendMessageRequestSchema ((requestRecords header body).flatMap Record.put) =
      some [("header", .message (some header)), ("body", .message (some body))] := by
  refine readMessage_put ?_ (.cons ⟨rfl, ?_⟩ (.cons ⟨rfl, ?_⟩ .nil))
  · simp only [requestRecords, List.forall_mem_cons]
    exact ⟨⟨by norm_num, by norm_num, trivial⟩, ⟨by norm_num, by norm_num, trivial⟩,
      fun r hr => absurd hr List.not_mem_nil⟩
  · exact FieldDecl.read_message rfl rfl
  · exact FieldDecl.read_message rfl rfl

/-! ## Reading with the client -/

section Loop

variable {Out : Type} {reader : Reader} {field : ℕ → Primitive (Out → Out)}

/-- The loop of a decoder reads these bytes, whatever follows them, and updates its message. -/
def Reads (reader : Reader) (field : ℕ → Primitive (Out → Out)) (bytes : Bytes)
    (update : Out → Out) : Prop :=
  ∀ out rest,
    readFields reader field out (bytes ++ rest) = readFields reader field (update out) rest

theorem Reads.nil : Reads reader field [] id := fun _ _ => rfl

theorem Reads.append {bytes bytes' : Bytes} {update update' : Out → Out}
    (h : Reads reader field bytes update) (h' : Reads reader field bytes' update') :
    Reads reader field (bytes ++ bytes') (update' ∘ update) := by
  intro out rest
  rw [List.append_assoc, h, h']
  rfl

/-- The whole of the bytes. -/
theorem Reads.readFields_eq {bytes : Bytes} {update : Out → Out}
    (h : Reads reader field bytes update) (out : Out) :
    readFields reader field out bytes = .ok (update out) := by
  have hrest := h out []
  rwa [List.append_nil, readFields_nil] at hrest

/-- A turn of the loop at a record that its `switch` reads. -/
theorem Reads.record (hr : reader.Spec) {r : Record} {update : Out → Out} (htag : r.tag < 2 ^ 32)
    (hread : ∀ rest, (field r.tag).read (r.value.put ++ rest) = .ok (update, rest)) :
    Reads reader field r.put update := by
  intro out rest
  have htagRead := hr.uint32 r.tag (r.value.put ++ rest) htag
  rw [readFields, if_neg]
  · rw [Record.put, List.append_assoc]
    split
    · next e he =>
      rw [htagRead] at he
      simp at he
    · next tag rest' he =>
      rw [htagRead, Except.ok.injEq, Prod.mk.injEq] at he
      obtain ⟨rfl, rfl⟩ := he
      split
      · next e he =>
        rw [hread rest] at he
        simp at he
      · next update' rest'' he =>
        rw [hread rest, Except.ok.injEq, Prod.mk.injEq] at he
        obtain ⟨rfl, rfl⟩ := he
        rfl
  · intro hnil
    have hlen := (Varint.put_length 4 r.tag).1
    have hzero := congrArg List.length hnil
    simp only [Record.put, Varint.put32, List.length_append, List.length_nil] at hzero
    omega

/-- A field that is assigned when its record is there. -/
theorem Reads.recordOf {α β : Type} (hr : reader.Spec) {number wireType : ℕ} {value : Option α}
    {toValue : α → Value} {p : Primitive β} {get : α → β} {assign : β → Out → Out}
    (set : Option α → Out → Out) (htag : 8 * number + wireType < 2 ^ 32)
    (hfield : field (8 * number + wireType) = p.assign assign)
    (htype : ∀ a, (toValue a).wireType = wireType)
    (hread : ∀ a ∈ value, ∀ rest, p.read ((toValue a).put ++ rest) = .ok (get a, rest))
    (hnone : set none = id) (hsome : ∀ a, set (some a) = assign (get a)) :
    Reads reader field ((Wire.recordOf number (value.map toValue)).flatMap Record.put)
      (set value) := by
  rw [flatMap_put_recordOf]
  rcases value with _ | a
  · rw [hnone]
    exact Reads.nil
  · have heq : (Record.mk number (toValue a)).tag = 8 * number + wireType := by
      rw [Record.tag, htype]
    refine Reads.record hr (by rw [heq]; exact htag) fun rest => ?_
    rw [heq, hfield, hsome]
    exact andThen_read (hread a rfl rest) rfl

/-- A field that is a string. -/
theorem Reads.text (hr : reader.Spec) {number : ℕ} {s : Option String}
    {assign : String → Out → Out} (set : Option String → Out → Out)
    (htag : 8 * number + 2 < 2 ^ 32) (hfield : field (8 * number + 2) = reader.string.assign assign)
    (hnone : set none = id) (hsome : ∀ a, set (some a) = assign a) :
    Reads reader field ((textRecord number s).flatMap Record.put) (set (present s)) := by
  refine Reads.recordOf hr set htag hfield (fun _ => rfl) (fun a _ rest => ?_) hnone hsome
  have hput : (textValue a).put ++ rest = putLength (utf8 a).length ++ (utf8 a ++ rest) :=
    List.append_assoc _ _ _
  rw [hput]
  exact hr.string a rest

/-- A field that is a number on the wire. -/
theorem Reads.number {α β : Type} (hr : reader.Spec) {number : ℕ} {toNumber : α → ℕ}
    {value : Option α} {p : Primitive β} {get : α → β} {assign : β → Out → Out}
    (set : Option α → Out → Out) (htag : 8 * number < 2 ^ 32)
    (hfield : field (8 * number) = p.assign assign)
    (hread : ∀ a ∈ value, ∀ rest, p.read (Varint.put 9 (toNumber a) ++ rest) = .ok (get a, rest))
    (hnone : set none = id) (hsome : ∀ a, set (some a) = assign (get a)) :
    Reads reader field ((numberRecord number toNumber value).flatMap Record.put) (set value) :=
  Reads.recordOf hr set htag hfield (fun _ => rfl) hread hnone hsome

/-- A field that is a message of its own, which another decoder reads from its bytes. -/
theorem Reads.message {α : Type} (hr : reader.Spec) {number : ℕ} {bytes : Bytes}
    {decode : Bytes → Except String α} {a : α} (assign : α → Out → Out)
    (htag : 8 * number + 2 < 2 ^ 32)
    (hfield : field (8 * number + 2) = (reader.bytes.andThen decode).assign assign)
    (hdecode : decode bytes = .ok a) :
    Reads reader field (Record.mk number (.bytes bytes)).put (assign a) := by
  refine Reads.record hr htag fun rest => ?_
  have hbytes : reader.bytes.read ((Value.bytes bytes).put ++ rest) = .ok (bytes, rest) := by
    rw [Value.put, List.append_assoc]
    exact hr.bytes bytes rest
  change (field (8 * number + 2)).read _ = _
  rw [hfield]
  exact andThen_read (andThen_read hbytes hdecode) rfl

end Loop

section Reading

variable {reader : Reader} (hr : reader.Spec)
include hr

theorem uint32_read {n : ℕ} (hn : n < 2 ^ 32) (rest : Bytes) :
    reader.uint32.read (Varint.put 9 n ++ rest) = .ok (n, rest) := by
  rw [← Varint.put_eq_put (j := 4) (by norm_num) (by omega)]
  exact hr.uint32 n rest hn

/-- The client reads the records of a header with numbers of the types of its fields. -/
theorem decodeImHeader_fields {value : ImHeader} (hseq : ∀ n ∈ value.seq, n < 2 ^ 32)
    (hcmdId : ∀ n ∈ value.cmdId, n < 2 ^ 32)
    (htime : ∀ t ∈ value.timestamp, ∃ n : ℕ, t.Denotes n ∧ n < 2 ^ 64) :
    decodeImHeader reader (value.records.flatMap Record.put) = .ok value.normalized := by
  have htimestamp : ∀ t ∈ value.timestamp, ∀ rest,
      reader.uint64.read (Varint.put 9 t.toInt.toNat ++ rest) = .ok (t.toInt.toNat, rest) := by
    intro t ht rest
    obtain ⟨n, hden, hn⟩ := htime t ht
    exact hr.uint64 _ rest (by rw [hden.toInt_eq]; omega)
  have hnumeral : (value.timestamp.map fun t => .string (toString t.toInt.toNat)) =
      value.timestamp.map NumberOrString.numeral := by
    refine Option.map_congr fun t ht => ?_
    obtain ⟨n, hden, -⟩ := htime t ht
    rw [NumberOrString.numeral, hden.toInt_eq, Int.toNat_natCast]
    rfl
  unfold decodeImHeader ImHeader.records
  simp only [List.flatMap_append, List.append_assoc]
  -- One field after another; each keeps what was read before it.
  refine Eq.trans (Reads.readFields_eq
    (Reads.append (Reads.text hr (fun o (out : ImHeader) => { out with
      version := o.or out.version }) (by norm_num) rfl rfl fun _ => rfl)
    (Reads.append (Reads.number hr (fun o (out : ImHeader) => { out with
      seq := o.or out.seq })
      (by norm_num) rfl (fun n hn => uint32_read hr (hseq n hn)) rfl fun _ => rfl)
    (Reads.append (Reads.number hr (fun o (out : ImHeader) => { out with
      cmdId := o.or out.cmdId })
      (by norm_num) rfl (fun n hn => uint32_read hr (hcmdId n hn)) rfl fun _ => rfl)
    (Reads.append (Reads.text hr (fun o (out : ImHeader) => { out with
      fromUid := o.or out.fromUid }) (by norm_num) rfl rfl fun _ => rfl)
    (Reads.append (Reads.text hr (fun o (out : ImHeader) => { out with
      toUid := o.or out.toUid }) (by norm_num) rfl rfl fun _ => rfl)
    (Reads.append (Reads.number hr (fun o (out : ImHeader) => { out with
      timestamp := (o.map fun t => .string (toString t.toInt.toNat)).or out.timestamp })
      (by norm_num) rfl htimestamp rfl fun _ => rfl)
    (Reads.append (Reads.text hr (fun o (out : ImHeader) => { out with
      token := o.or out.token }) (by norm_num) rfl rfl fun _ => rfl)
    (Reads.append (Reads.text hr (fun o (out : ImHeader) => { out with
      deviceId := o.or out.deviceId }) (by norm_num) rfl rfl fun _ => rfl)
    (Reads.text hr (fun o (out : ImHeader) => { out with
      platform := o.or out.platform }) (by norm_num) rfl rfl fun _ => rfl))))))))) {}) ?_
  simp only [Function.comp_apply, Option.or_none, hnumeral]
  rfl

/-- The client reads the records of a header as the header. -/
theorem decodeImHeader_records {value : ImHeader} (hvalue : value.Valid) :
    decodeImHeader reader (value.records.flatMap Record.put) = .ok value.normalized := by
  refine decodeImHeader_fields hr hvalue.seq hvalue.cmdId fun t ht => ?_
  obtain ⟨n, hden, hn⟩ := hvalue.timestamp t ht
  exact ⟨n, hden, by omega⟩

/-- The client reads the records of a body as the body. -/
theorem decodeMessageBody_records {value : MessageBody} (hvalue : value.Valid) :
    decodeMessageBody reader (value.records.flatMap Record.put) = .ok value.normalized := by
  have htype : ∀ n ∈ value.type, ∀ rest,
      reader.int32.read (Varint.put 9 (ofSigned n) ++ rest) = .ok (n, rest) :=
    fun n hn rest => hr.int32 n rest (hvalue.type n hn).1 (hvalue.type n hn).2
  have htime : ∀ (time : Option NumberOrString), (∀ t ∈ time, t.IsTime) → ∀ t ∈ time, ∀ rest,
      reader.int64.read (Varint.put 9 t.signed ++ rest) = .ok (t.toInt, rest) := by
    intro time htime t ht rest
    obtain ⟨n, hden, hlow, hhigh⟩ := htime t ht
    rw [NumberOrString.signed, hden.toInt_eq]
    exact hr.int64 n rest (by omega) (by omega)
  unfold decodeMessageBody MessageBody.records
  simp only [List.flatMap_append, List.append_assoc]
  -- As for the header.
  refine Eq.trans (Reads.readFields_eq
    (Reads.append (Reads.text hr (fun o (out : MessageBody) => { out with
      messageId := o.or out.messageId }) (by norm_num) rfl rfl fun _ => rfl)
    (Reads.append (Reads.number hr (fun o (out : MessageBody) => { out with
      type := o.or out.type }) (by norm_num) rfl htype rfl fun _ => rfl)
    (Reads.append (Reads.text hr (fun o (out : MessageBody) => { out with
      content := o.or out.content }) (by norm_num) rfl rfl fun _ => rfl)
    (Reads.append (Reads.number hr (fun o (out : MessageBody) => { out with
      isRecalled := o.or out.isRecalled })
      (by norm_num) rfl (fun b _ => hr.bool b) rfl fun _ => rfl)
    (Reads.append (Reads.number hr (fun o (out : MessageBody) => { out with
      isRead := o.or out.isRead })
      (by norm_num) rfl (fun b _ => hr.bool b) rfl fun _ => rfl)
    (Reads.append (Reads.text hr (fun o (out : MessageBody) => { out with
      atUids := o.or out.atUids }) (by norm_num) rfl rfl fun _ => rfl)
    (Reads.append (Reads.text hr (fun o (out : MessageBody) => { out with
      ext := o.or out.ext }) (by norm_num) rfl rfl fun _ => rfl)
    (Reads.append (Reads.text hr (fun o (out : MessageBody) => { out with
      senderUid := o.or out.senderUid }) (by norm_num) rfl rfl fun _ => rfl)
    (Reads.append (Reads.text hr (fun o (out : MessageBody) => { out with
      receiverUid := o.or out.receiverUid }) (by norm_num) rfl rfl fun _ => rfl)
    (Reads.append (Reads.number hr (fun o (out : MessageBody) => { out with
      createTime := (o.map NumberOrString.numeral).or out.createTime })
      (by norm_num) rfl (htime _ hvalue.createTime) rfl fun _ => rfl)
    (Reads.append (Reads.number hr (fun o (out : MessageBody) => { out with
      deliveredTime := (o.map NumberOrString.numeral).or out.deliveredTime })
      (by norm_num) rfl (htime _ hvalue.deliveredTime) rfl fun _ => rfl)
    (Reads.number hr (fun o (out : MessageBody) => { out with
      readTime := (o.map NumberOrString.numeral).or out.readTime })
      (by norm_num) rfl (htime _ hvalue.readTime) rfl fun _ => rfl)))))))))))) {}) ?_
  simp only [Function.comp_apply, Option.or_none]
  rfl

/-- The client reads the two records of a request with its own decoders. -/
theorem decodeSendMessageRequest_records {header body : Bytes} {h : ImHeader} {b : MessageBody}
    (hheader : decodeImHeader reader header = .ok h)
    (hbody : decodeMessageBody reader body = .ok b) :
    decodeSendMessageRequest reader ((requestRecords header body).flatMap Record.put) =
      .ok ⟨some h, some b⟩ := by
  have hfirst : Reads reader (sendMessageRequestField reader) (Record.mk 1 (.bytes header)).put _ :=
    Reads.message hr (fun h (out : SendMessageRequest) => { out with header := some h })
      (by norm_num) rfl hheader
  have hsecond : Reads reader (sendMessageRequestField reader) (Record.mk 2 (.bytes body)).put _ :=
    Reads.message hr (fun b (out : SendMessageRequest) => { out with body := some b })
      (by norm_num) rfl hbody
  have hboth := (hfirst.append hsecond).readFields_eq {}
  simp only [requestRecords, List.flatMap_cons, List.flatMap_nil, List.append_nil]
  exact hboth

end Reading

/-! ## The round trip -/

/-- A request that the client wrote, with every field of the header and of the body present or not:
its own decoder returns the header and the body, less empty strings and with times as decimal
numerals; and the schemas of the `.proto` files give their fields. -/
theorem sendMessageRequest_roundTrip {writer : Writer} (hw : writer.Spec) {reader : Reader}
    (hr : reader.Spec) {header : ImHeader} (hheader : header.Valid) {body : MessageBody}
    (hbody : body.Valid) :
    decodeSendMessageRequest reader (encodeSendMessageRequest writer header body) =
        .ok ⟨some header.normalized, some body.normalized⟩ ∧
      ∃ headerBytes bodyBytes,
        readMessage sendMessageRequestSchema (encodeSendMessageRequest writer header body) =
          some [("header", .message (some headerBytes)), ("body", .message (some bodyBytes))] ∧
        readMessage imHeaderSchema headerBytes = some header.data ∧
        readMessage messageBodySchema bodyBytes = some body.data := by
  have hheaderBytes := encodeImHeader_eq hw hheader
  have hbodyBytes := encodeMessageBody_eq hw hbody
  rw [encodeSendMessageRequest_eq hw]
  refine ⟨?_, encodeImHeader writer header, encodeMessageBody writer body,
    readMessage_request _ _, ?_, ?_⟩
  · refine decodeSendMessageRequest_records hr ?_ ?_
    · rw [hheaderBytes, decodeImHeader_records hr hheader]
    · rw [hbodyBytes, decodeMessageBody_records hr hbody]
  · rw [hheaderBytes, readMessage_imHeader hheader]
  · rw [hbodyBytes, readMessage_messageBody hbody]

/-- The round trip of a text at the largest `seq`, under a time given as a numeral and with an empty
token, whose body was created before 1970. -/
theorem sendMessageRequest_roundTrip_text :
    let header : ImHeader :=
      { version := some "1.0", seq := some (2 ^ 32 - 1),
        timestamp := some (.string "1700000000000"), token := some "" }
    let body : MessageBody :=
      { type := some (-1), content := some "你好", isRead := some false,
        createTime := some (.number (-5)) }
    decodeSendMessageRequest .documented (encodeSendMessageRequest .documented header body) =
        .ok ⟨some header.normalized, some body.normalized⟩ ∧
      ∃ headerBytes bodyBytes,
        readMessage sendMessageRequestSchema (encodeSendMessageRequest .documented header body) =
          some [("header", .message (some headerBytes)), ("body", .message (some bodyBytes))] ∧
        readMessage imHeaderSchema headerBytes = some header.data ∧
        readMessage messageBodySchema bodyBytes = some body.data := by
  refine sendMessageRequest_roundTrip Writer.documented_spec Reader.documented_spec
    ⟨?_, ?_, ?_⟩ ⟨?_, ?_, ?_, ?_⟩
  · rintro n ⟨⟩
    norm_num
  · rintro n ⟨⟩
  · rintro t ⟨⟩
    exact ⟨1700000000000, Or.inr rfl, by norm_num⟩
  · rintro n ⟨⟩
    norm_num
  · rintro t ⟨⟩
    exact ⟨-5, Or.inl rfl, by norm_num, by norm_num⟩
  · rintro t ⟨⟩
  · rintro t ⟨⟩

end MyChat.Web
