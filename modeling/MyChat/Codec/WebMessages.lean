import MyChat.Codec.Envelope
import MyChat.Codec.WebEnvelope
import MyChat.Lib.WireFormat

/-!
# The web client's message codec

The functions of `clients/web/src/api/protobufEnvelope.ts` between the messages of a frame and their
bytes. They call the `Reader` and the `Writer` of protobufjs, which is not part of the repository:
`Writer` is the record of what each call appends, and `Reader` that of the reads, each of which
takes a value from the bytes at the position or throws. `Writer.Spec` and `Reader.Spec` say that
these are the primitives of the wire format.

A decoder is a loop that reads a tag and switches on the number of the field, and ends at the last
byte (`readFields`).
-/

namespace MyChat.Web

open Codec

/-! ## Messages -/

/-- A value of the type `number | string`. -/
inductive NumberOrString where
  /-- A number. -/
  | number (n : ℤ)
  /-- A string. -/
  | string (s : String)
  deriving DecidableEq, Repr

/-- `ImHeader`. -/
structure ImHeader where
  /-- `version`. -/
  version : Option String := none
  /-- `seq`. -/
  seq : Option ℕ := none
  /-- `cmdId`. -/
  cmdId : Option ℕ := none
  /-- `fromUid`. -/
  fromUid : Option String := none
  /-- `toUid`. -/
  toUid : Option String := none
  /-- `timestamp`. -/
  timestamp : Option NumberOrString := none
  /-- `token`. -/
  token : Option String := none
  /-- `deviceId`. -/
  deviceId : Option String := none
  /-- `platform`. -/
  platform : Option String := none
  deriving DecidableEq, Repr

/-- `BaseResponse`. -/
structure BaseResponse where
  /-- `errorCode`. -/
  errorCode : Option ℤ := none
  /-- `errorMessage`. -/
  errorMessage : Option String := none
  deriving DecidableEq, Repr

/-- `MessageBody`. -/
structure MessageBody where
  /-- `messageId`. -/
  messageId : Option String := none
  /-- `type`. -/
  type : Option ℤ := none
  /-- `content`. -/
  content : Option String := none
  /-- `isRecalled`. -/
  isRecalled : Option Bool := none
  /-- `isRead`. -/
  isRead : Option Bool := none
  /-- `atUids`. -/
  atUids : Option String := none
  /-- `ext`. -/
  ext : Option String := none
  /-- `senderUid`. -/
  senderUid : Option String := none
  /-- `receiverUid`. -/
  receiverUid : Option String := none
  /-- `createTime`. -/
  createTime : Option NumberOrString := none
  /-- `deliveredTime`. -/
  deliveredTime : Option NumberOrString := none
  /-- `readTime`. -/
  readTime : Option NumberOrString := none
  deriving DecidableEq, Repr

/-- `PushMessageBody`. -/
structure PushMessageBody where
  /-- `pushId`. -/
  pushId : Option String := none
  /-- `type`. -/
  type : Option ℤ := none
  /-- `content`. -/
  content : Option String := none
  /-- `relatedMessageId`. -/
  relatedMessageId : Option String := none
  /-- `ext`. -/
  ext : Option String := none
  deriving DecidableEq, Repr

/-- What `decodeSendMessageRequest` returns. -/
structure SendMessageRequest where
  /-- `header`. -/
  header : Option ImHeader := none
  /-- `body`. -/
  body : Option MessageBody := none
  deriving DecidableEq, Repr

/-- What `decodeSendMessageResponse` returns. -/
structure SendMessageResponse where
  /-- `base`. -/
  base : Option BaseResponse := none
  /-- `message`. -/
  message : Option MessageBody := none
  deriving DecidableEq, Repr

/-- What `decodePushRequest` returns. -/
structure PushRequest where
  /-- `header`. -/
  header : Option ImHeader := none
  /-- `body`. -/
  body : Option PushMessageBody := none
  deriving DecidableEq, Repr

/-! ## Writing -/

/-- The calls of a `Writer`: the bytes that each of them appends. -/
structure Writer where
  /-- `uint32`. -/
  uint32 : ℕ → Bytes
  /-- `int32`. -/
  int32 : ℤ → Bytes
  /-- `uint64`. -/
  uint64 : NumberOrString → Bytes
  /-- `int64`. -/
  int64 : NumberOrString → Bytes
  /-- `bool`. -/
  bool : Bool → Bytes
  /-- `string`. -/
  string : String → Bytes
  /-- `bytes`. -/
  bytes : Bytes → Bytes

/-- `if (value) …` on a string that may be absent: an empty one is not written either. -/
def whenTruthy (value : Option String) (write : String → Bytes) : Bytes :=
  match value with
  | some s => if s = "" then [] else write s
  | none => []

/-- `if (value !== undefined) …`. -/
def whenDefined {α : Type} (value : Option α) (write : α → Bytes) : Bytes :=
  match value with
  | some a => write a
  | none => []

/-- `encodeImHeader`. -/
def encodeImHeader (writer : Writer) (value : ImHeader) : Bytes :=
  whenTruthy value.version (fun v => writer.uint32 10 ++ writer.string v) ++
  whenDefined value.seq (fun v => writer.uint32 16 ++ writer.uint32 v) ++
  whenDefined value.cmdId (fun v => writer.uint32 24 ++ writer.uint32 v) ++
  whenTruthy value.fromUid (fun v => writer.uint32 34 ++ writer.string v) ++
  whenTruthy value.toUid (fun v => writer.uint32 42 ++ writer.string v) ++
  whenDefined value.timestamp (fun v => writer.uint32 48 ++ writer.uint64 v) ++
  whenTruthy value.token (fun v => writer.uint32 58 ++ writer.string v) ++
  whenTruthy value.deviceId (fun v => writer.uint32 66 ++ writer.string v) ++
  whenTruthy value.platform (fun v => writer.uint32 74 ++ writer.string v)

/-- `encodeMessageBody`. -/
def encodeMessageBody (writer : Writer) (value : MessageBody) : Bytes :=
  whenTruthy value.messageId (fun v => writer.uint32 10 ++ writer.string v) ++
  whenDefined value.type (fun v => writer.uint32 16 ++ writer.int32 v) ++
  whenTruthy value.content (fun v => writer.uint32 26 ++ writer.string v) ++
  whenDefined value.isRecalled (fun v => writer.uint32 32 ++ writer.bool v) ++
  whenDefined value.isRead (fun v => writer.uint32 40 ++ writer.bool v) ++
  whenTruthy value.atUids (fun v => writer.uint32 50 ++ writer.string v) ++
  whenTruthy value.ext (fun v => writer.uint32 58 ++ writer.string v) ++
  whenTruthy value.senderUid (fun v => writer.uint32 66 ++ writer.string v) ++
  whenTruthy value.receiverUid (fun v => writer.uint32 74 ++ writer.string v) ++
  whenDefined value.createTime (fun v => writer.uint32 80 ++ writer.int64 v) ++
  whenDefined value.deliveredTime (fun v => writer.uint32 88 ++ writer.int64 v) ++
  whenDefined value.readTime (fun v => writer.uint32 96 ++ writer.int64 v)

/-- `encodeSendMessageRequest`. -/
def encodeSendMessageRequest (writer : Writer) (header : ImHeader) (body : MessageBody) : Bytes :=
  writer.uint32 10 ++ writer.bytes (encodeImHeader writer header) ++
  (writer.uint32 18 ++ writer.bytes (encodeMessageBody writer body))

/-! ## Reading -/

/-- A read: the value at the head of the bytes, which are those from `pos` on, and the bytes after
it, or the message of the error that is thrown. It takes a byte or more. -/
structure Primitive (α : Type) where
  /-- The read. -/
  read : Bytes → Except String (α × Bytes)
  /-- A value takes a byte or more. -/
  shorter : ∀ {bytes a rest}, read bytes = .ok (a, rest) → rest.length < bytes.length

/-- The reads of a `Reader`. What `uint64` and `int64` return is a `Long`, which is a number
here. -/
structure Reader where
  /-- `uint32`. -/
  uint32 : Primitive ℕ
  /-- `int32`. -/
  int32 : Primitive ℤ
  /-- `uint64`. -/
  uint64 : Primitive ℕ
  /-- `int64`. -/
  int64 : Primitive ℤ
  /-- `bool`. -/
  bool : Primitive Bool
  /-- `string`. -/
  string : Primitive String
  /-- `bytes`. -/
  bytes : Primitive Bytes
  /-- `skipType`. -/
  skipType : ℕ → Primitive Unit

/-- A read and what is done with its value, which may throw. -/
def Primitive.andThen {α β : Type} (p : Primitive α) (f : α → Except String β) : Primitive β where
  read bytes := do
    let (a, rest) ← p.read bytes
    let b ← f a
    return (b, rest)
  shorter {bytes b rest} h := by
    obtain ⟨⟨a, rest'⟩, hread, h⟩ := bind_eq_ok.mp h
    obtain ⟨b', -, h⟩ := bind_eq_ok.mp h
    obtain ⟨-, rfl⟩ := Prod.mk.inj (Except.ok.inj h)
    exact p.shorter hread

/-- `out.field = read(); break;`. -/
def Primitive.assign {α Out : Type} (p : Primitive α) (set : α → Out → Out) :
    Primitive (Out → Out) :=
  p.andThen fun a => .ok (set a)

/-- `tag >>> 3`. -/
def fieldOf (tag : ℕ) : ℕ := (Js.shrU tag 3).toNat

/-- `tag & 7`. -/
def wireTypeOf (tag : ℕ) : ℕ := (Js.and tag 7).toNat

/-- The loop of a decoder: while there are bytes, a tag is read, and `field` says what the `switch`
does at it. -/
def readFields {Out : Type} (reader : Reader) (field : ℕ → Primitive (Out → Out)) (out : Out)
    (bytes : Bytes) : Except String Out :=
  if bytes = [] then .ok out
  else
    match _htag : reader.uint32.read bytes with
    | .error e => .error e
    | .ok (tag, rest) =>
      match _hfield : (field tag).read rest with
      | .error e => .error e
      | .ok (update, rest') => readFields reader field (update out) rest'
termination_by bytes.length
decreasing_by exact lt_trans ((field tag).shorter _hfield) (reader.uint32.shorter _htag)

theorem readFields_nil {Out : Type} (reader : Reader) (field : ℕ → Primitive (Out → Out))
    (out : Out) : readFields reader field out [] = .ok out := by
  rw [readFields, if_pos rfl]

/-- `default: reader.skipType(tag & 7); break;`. -/
def skipField {Out : Type} (reader : Reader) (tag : ℕ) : Primitive (Out → Out) :=
  (reader.skipType (wireTypeOf tag)).assign fun _ out => out

/-- The `switch` of `decodeImHeader`. -/
def imHeaderField (reader : Reader) (tag : ℕ) : Primitive (ImHeader → ImHeader) :=
  match fieldOf tag with
  | 1 => reader.string.assign fun v out => { out with version := some v }
  | 2 => reader.uint32.assign fun v out => { out with seq := some v }
  | 3 => reader.uint32.assign fun v out => { out with cmdId := some v }
  | 4 => reader.string.assign fun v out => { out with fromUid := some v }
  | 5 => reader.string.assign fun v out => { out with toUid := some v }
  | 6 => reader.uint64.assign fun v out => { out with timestamp := some (.string (toString v)) }
  | 7 => reader.string.assign fun v out => { out with token := some v }
  | 8 => reader.string.assign fun v out => { out with deviceId := some v }
  | 9 => reader.string.assign fun v out => { out with platform := some v }
  | _ => skipField reader tag

/-- `decodeImHeader`. -/
def decodeImHeader (reader : Reader) (bytes : Bytes) : Except String ImHeader :=
  readFields reader (imHeaderField reader) {} bytes

/-- The `switch` of `decodeMessageBody`. -/
def messageBodyField (reader : Reader) (tag : ℕ) : Primitive (MessageBody → MessageBody) :=
  match fieldOf tag with
  | 1 => reader.string.assign fun v out => { out with messageId := some v }
  | 2 => reader.int32.assign fun v out => { out with type := some v }
  | 3 => reader.string.assign fun v out => { out with content := some v }
  | 4 => reader.bool.assign fun v out => { out with isRecalled := some v }
  | 5 => reader.bool.assign fun v out => { out with isRead := some v }
  | 6 => reader.string.assign fun v out => { out with atUids := some v }
  | 7 => reader.string.assign fun v out => { out with ext := some v }
  | 8 => reader.string.assign fun v out => { out with senderUid := some v }
  | 9 => reader.string.assign fun v out => { out with receiverUid := some v }
  | 10 => reader.int64.assign fun v out => { out with createTime := some (.string (toString v)) }
  | 11 => reader.int64.assign fun v out => { out with deliveredTime := some (.string (toString v)) }
  | 12 => reader.int64.assign fun v out => { out with readTime := some (.string (toString v)) }
  | _ => skipField reader tag

/-- `decodeMessageBody`. -/
def decodeMessageBody (reader : Reader) (bytes : Bytes) : Except String MessageBody :=
  readFields reader (messageBodyField reader) {} bytes

/-- The branches of `decodeSendMessageRequest`. -/
def sendMessageRequestField (reader : Reader) (tag : ℕ) :
    Primitive (SendMessageRequest → SendMessageRequest) :=
  match fieldOf tag with
  | 1 => (reader.bytes.andThen (decodeImHeader reader)).assign
      fun v out => { out with header := some v }
  | 2 => (reader.bytes.andThen (decodeMessageBody reader)).assign
      fun v out => { out with body := some v }
  | _ => skipField reader tag

/-- `decodeSendMessageRequest`. -/
def decodeSendMessageRequest (reader : Reader) (bytes : Bytes) : Except String SendMessageRequest :=
  readFields reader (sendMessageRequestField reader) {} bytes

/-- The `switch` of `decodeBaseResponse`, which reads the payload and drops it. -/
def baseResponseField (reader : Reader) (tag : ℕ) : Primitive (BaseResponse → BaseResponse) :=
  match fieldOf tag with
  | 1 => reader.int32.assign fun v out => { out with errorCode := some v }
  | 2 => reader.string.assign fun v out => { out with errorMessage := some v }
  | 3 => reader.bytes.assign fun _ out => out
  | _ => skipField reader tag

/-- `decodeBaseResponse`. -/
def decodeBaseResponse (reader : Reader) (bytes : Bytes) : Except String BaseResponse :=
  readFields reader (baseResponseField reader) {} bytes

/-- The branches of `decodeSendMessageResponse`. -/
def sendMessageResponseField (reader : Reader) (tag : ℕ) :
    Primitive (SendMessageResponse → SendMessageResponse) :=
  match fieldOf tag with
  | 1 => (reader.bytes.andThen (decodeBaseResponse reader)).assign
      fun v out => { out with base := some v }
  | 2 => (reader.bytes.andThen (decodeMessageBody reader)).assign
      fun v out => { out with message := some v }
  | _ => skipField reader tag

/-- `decodeSendMessageResponse`. -/
def decodeSendMessageResponse (reader : Reader) (bytes : Bytes) :
    Except String SendMessageResponse :=
  readFields reader (sendMessageResponseField reader) {} bytes

/-- The `switch` of `decodePushMessageBody`. -/
def pushMessageBodyField (reader : Reader) (tag : ℕ) :
    Primitive (PushMessageBody → PushMessageBody) :=
  match fieldOf tag with
  | 1 => reader.string.assign fun v out => { out with pushId := some v }
  | 2 => reader.int32.assign fun v out => { out with type := some v }
  | 3 => reader.string.assign fun v out => { out with content := some v }
  | 4 => reader.string.assign fun v out => { out with relatedMessageId := some v }
  | 5 => reader.string.assign fun v out => { out with ext := some v }
  | _ => skipField reader tag

/-- `decodePushMessageBody`. -/
def decodePushMessageBody (reader : Reader) (bytes : Bytes) : Except String PushMessageBody :=
  readFields reader (pushMessageBodyField reader) {} bytes

/-- The branches of `decodePushRequest`. -/
def pushRequestField (reader : Reader) (tag : ℕ) : Primitive (PushRequest → PushRequest) :=
  match fieldOf tag with
  | 1 => (reader.bytes.andThen (decodeImHeader reader)).assign
      fun v out => { out with header := some v }
  | 2 => (reader.bytes.andThen (decodePushMessageBody reader)).assign
      fun v out => { out with body := some v }
  | _ => skipField reader tag

/-- `decodePushRequest`. -/
def decodePushRequest (reader : Reader) (bytes : Bytes) : Except String PushRequest :=
  readFields reader (pushRequestField reader) {} bytes

/-- What `decodePayload` returns. -/
inductive Payload where
  /-- A `SendMessageResponse`. -/
  | sendMessageResponse (value : SendMessageResponse)
  /-- A `SendMessageRequest`. -/
  | sendMessageRequest (value : SendMessageRequest)
  /-- A `PushRequest`. -/
  | pushRequest (value : PushRequest)
  /-- A `BaseResponse`. -/
  | baseResponse (value : BaseResponse)
  /-- `{ rawBytes }`. -/
  | rawBytes (n : ℕ)
  deriving DecidableEq, Repr

/-- `decodePayload`. -/
def decodePayload (reader : Reader) (typeName : String) (bytes : Bytes) : Except String Payload :=
  match typeName with
  | "im.message.SendMessageResponse" =>
    (decodeSendMessageResponse reader bytes).map .sendMessageResponse
  | "im.message.SendMessageRequest" =>
    (decodeSendMessageRequest reader bytes).map .sendMessageRequest
  | "im.push.PushRequest" => (decodePushRequest reader bytes).map .pushRequest
  | "im.base.BaseResponse" => (decodeBaseResponse reader bytes).map .baseResponse
  | _ => .ok (.rawBytes bytes.length)

/-! ## The primitives of the wire format -/

/-- The value is this number, as itself or as its decimal numeral. -/
def NumberOrString.Denotes (v : NumberOrString) (n : ℤ) : Prop :=
  v = .number n ∨ v = .string (toString n)

/-- The number that a value is, or that its text says. -/
def NumberOrString.toInt : NumberOrString → ℤ
  | .number n => n
  | .string s =>
    match s.toList with
    | '-' :: digits => -(Nat.ofDigitChars 10 digits 0)
    | digits => Nat.ofDigitChars 10 digits 0

theorem NumberOrString.Denotes.toInt_eq {v : NumberOrString} {n : ℤ} (h : v.Denotes n) :
    v.toInt = n := by
  rcases h with rfl | rfl
  · rfl
  · rcases n with m | m
    · -- The first digit is no minus sign.
      have hdigits : (toString (Int.ofNat m)).toList = Nat.toDigits 10 m := Nat.toList_repr
      have hne : ∀ digits, Nat.toDigits 10 m ≠ '-' :: digits := by
        intro digits heq
        have hmem : '-' ∈ Nat.toDigits 10 m := by rw [heq]; exact List.mem_cons_self
        exact absurd (Nat.isDigit_of_mem_toDigits (by decide) (by decide) hmem) (by decide)
      simp only [NumberOrString.toInt, hdigits, Nat.ofDigitChars_ten_toDigits]
      rfl
    · have hdigits : (toString (Int.negSucc m)).toList = '-' :: Nat.toDigits 10 (m + 1) := by
        show ("-" ++ Nat.repr (m + 1)).toList = _
        rw [String.toList_append, Nat.toList_repr]
        rfl
      simp only [NumberOrString.toInt, hdigits, Nat.ofDigitChars_ten_toDigits]
      rfl

/-- The writes of the wire format. Those of 64 bits take a number that JavaScript holds exactly, or
its decimal numeral. -/
structure Writer.Spec (writer : Writer) : Prop where
  /-- A varint. -/
  uint32 : ∀ n < 2 ^ 32, writer.uint32 n = Varint.put32 n
  /-- The two's complement in 64 bits as a varint. -/
  int32 : ∀ n, -2 ^ 31 ≤ n → n < 2 ^ 31 → writer.int32 n = Varint.put 9 (Wire.ofSigned n)
  /-- A varint. -/
  uint64 : ∀ (v : NumberOrString) (n : ℕ), v.Denotes n → n < 2 ^ 53 →
    writer.uint64 v = Varint.put 9 n
  /-- The two's complement in 64 bits as a varint. -/
  int64 : ∀ (v : NumberOrString) (n : ℤ), v.Denotes n → -2 ^ 53 < n → n < 2 ^ 53 →
    writer.int64 v = Varint.put 9 (Wire.ofSigned n)
  /-- The varint of one or zero. -/
  bool : ∀ b, writer.bool b = Varint.put 9 b.toNat
  /-- The text in UTF-8, after its length. -/
  string : ∀ s, writer.string s = Wire.putLength (utf8 s).length ++ utf8 s
  /-- The bytes, after their length. -/
  bytes : ∀ bs, writer.bytes bs = Wire.putLength bs.length ++ bs

/-- The reads of the wire format: each returns a value that was written, whatever follows it. -/
structure Reader.Spec (reader : Reader) : Prop where
  /-- A varint of 32 bits. -/
  uint32 : ∀ n rest, n < 2 ^ 32 → reader.uint32.read (Varint.put32 n ++ rest) = .ok (n, rest)
  /-- A signed number of 32 bits, as its two's complement in 64. -/
  int32 : ∀ n rest, -2 ^ 31 ≤ n → n < 2 ^ 31 →
    reader.int32.read (Varint.put 9 (Wire.ofSigned n) ++ rest) = .ok (n, rest)
  /-- A varint of 64 bits. -/
  uint64 : ∀ n rest, n < 2 ^ 64 → reader.uint64.read (Varint.put 9 n ++ rest) = .ok (n, rest)
  /-- A signed number of 64 bits, as its two's complement. -/
  int64 : ∀ n rest, -2 ^ 63 ≤ n → n < 2 ^ 63 →
    reader.int64.read (Varint.put 9 (Wire.ofSigned n) ++ rest) = .ok (n, rest)
  /-- One or zero. -/
  bool : ∀ b rest, reader.bool.read (Varint.put 9 b.toNat ++ rest) = .ok (b, rest)
  /-- A text in UTF-8, after its length. -/
  string : ∀ s rest,
    reader.string.read (Wire.putLength (utf8 s).length ++ (utf8 s ++ rest)) = .ok (s, rest)
  /-- Bytes, after their length. -/
  bytes : ∀ bs rest, reader.bytes.read (Wire.putLength bs.length ++ (bs ++ rest)) = .ok (bs, rest)

/-- A writer that writes the wire format. -/
def Writer.documented : Writer where
  uint32 n := Varint.put32 (n % 2 ^ 32)
  int32 n := Varint.put 9 (Wire.ofSigned n)
  uint64 v := Varint.put 9 (Wire.ofSigned v.toInt)
  int64 v := Varint.put 9 (Wire.ofSigned v.toInt)
  bool b := Varint.put 9 b.toNat
  string s := Wire.putLength (utf8 s).length ++ utf8 s
  bytes bs := Wire.putLength bs.length ++ bs

theorem Writer.documented_spec : Writer.documented.Spec where
  uint32 n hn := congrArg Varint.put32 (Nat.mod_eq_of_lt hn)
  int32 _ _ _ := rfl
  uint64 v n hv hn := by
    have hsigned : Wire.ofSigned v.toInt = n := by
      rw [hv.toInt_eq, Wire.ofSigned]
      omega
    exact congrArg (Varint.put 9) hsigned
  int64 v n hv _ _ := congrArg (fun n => Varint.put 9 (Wire.ofSigned n)) hv.toInt_eq
  bool _ := rfl
  string _ := rfl
  bytes _ := rfl

/-- A varint of 64 bits. -/
def readVarint : Primitive ℕ where
  read bytes :=
    match Varint.get 9 bytes with
    | some (n, k) => .ok (n % 2 ^ 64, bytes.drop k)
    | none => .error "index out of range"
  shorter {bytes n rest} h := by
    split at h
    · next n' k hget =>
      obtain ⟨-, rfl⟩ := Prod.mk.inj (Except.ok.inj h)
      have := Varint.get_length hget
      rw [List.length_drop]
      omega
    · simp at h

/-- Bytes, after their length. -/
def readBytes : Primitive Bytes where
  read bytes :=
    match (Wire.getLength bytes).bind fun (n, k) => Wire.takeExactly n (bytes.drop k) with
    | some (part, rest) => .ok (part, rest)
    | none => .error "index out of range"
  shorter {bytes part rest} h := by
    split at h
    · next part' rest' hget =>
      obtain ⟨rfl, rfl⟩ := Prod.mk.inj (Except.ok.inj h)
      obtain ⟨⟨n, k⟩, hlength, htake⟩ := Option.bind_eq_some_iff.mp hget
      have hk := Varint.get_length hlength
      have hn := Wire.takeExactly_eq_some htake
      rw [List.length_drop] at hn
      omega
    · simp at h

/-- A word of `n + 1` bytes that is skipped. -/
def skipWord (n : ℕ) : Primitive Unit where
  read bytes :=
    match Wire.takeExactly (n + 1) bytes with
    | some (_, rest) => .ok ((), rest)
    | none => .error "index out of range"
  shorter {bytes part rest} h := by
    split at h
    · next part' rest' htake =>
      obtain ⟨-, rfl⟩ := Prod.mk.inj (Except.ok.inj h)
      have := Wire.takeExactly_eq_some htake
      omega
    · simp at h

/-- A read that throws. -/
def throwing {α : Type} (message : String) : Primitive α where
  read _ := .error message
  shorter h := by simp at h

/-- A reader that reads the wire format, without groups. -/
def Reader.documented : Reader where
  uint32 := readVarint.andThen fun n => .ok (n % 2 ^ 32)
  int32 := readVarint.andThen fun n => .ok (BitVec.ofNat 32 n).toInt
  uint64 := readVarint
  int64 := readVarint.andThen fun n => .ok (BitVec.ofNat 64 n).toInt
  bool := readVarint.andThen fun n => .ok (n ≠ 0)
  string := readBytes.andThen fun bs => .ok ((Wire.decodeUtf8 bs).getD "\uFFFD")
  bytes := readBytes
  skipType wireType :=
    match wireType with
    | 0 => readVarint.andThen fun _ => .ok ()
    | 1 => skipWord 7
    | 2 => readBytes.andThen fun _ => .ok ()
    | 5 => skipWord 3
    | _ => throwing "invalid wire type"

theorem readVarint_put {k n : ℕ} (rest : Bytes) (hk : k ≤ 9) (hn : n < 128 ^ (k + 1))
    (h64 : n < 2 ^ 64) : readVarint.read (Varint.put k n ++ rest) = .ok (n, rest) := by
  simp only [readVarint, Varint.get_put k 9 n rest hk hn, List.drop_left, Nat.mod_eq_of_lt h64]

theorem readBytes_put (bs rest : Bytes) :
    readBytes.read (Wire.putLength bs.length ++ (bs ++ rest)) = .ok (bs, rest) := by
  have hlength : bs.length ≤ (bs ++ rest).length := by
    rw [List.length_append]
    omega
  have hget := Wire.getLength_putLength hlength
  simp only [readBytes, hget, Option.bind_some, List.drop_left, Wire.takeExactly_append]

theorem andThen_read {α β : Type} {p : Primitive α} {f : α → Except String β} {bytes rest : Bytes}
    {a : α} {b : β} (hread : p.read bytes = .ok (a, rest)) (hf : f a = .ok b) :
    (p.andThen f).read bytes = .ok (b, rest) := by
  show (do
    let (a, rest) ← p.read bytes
    let b ← f a
    return (b, rest)) = _
  rw [hread, ok_bind]
  dsimp only
  rw [hf]
  rfl

theorem Reader.documented_spec : Reader.documented.Spec where
  uint32 n rest hn := by
    show (readVarint.andThen fun n => .ok (n % 2 ^ 32)).read (Varint.put 4 n ++ rest) = _
    refine andThen_read (readVarint_put rest (by norm_num) (by omega) (by omega)) ?_
    rw [Nat.mod_eq_of_lt hn]
  int32 n rest hlow hhigh := by
    have h64 := Wire.ofSigned_lt n
    show (readVarint.andThen fun n => .ok (BitVec.ofNat 32 n).toInt).read _ = _
    refine andThen_read (readVarint_put rest le_rfl (by omega) h64) ?_
    rw [Wire.toInt_ofSigned_32 hlow hhigh]
  uint64 n rest hn := readVarint_put rest le_rfl (by omega) hn
  int64 n rest hlow hhigh := by
    have h64 := Wire.ofSigned_lt n
    show (readVarint.andThen fun n => .ok (BitVec.ofNat 64 n).toInt).read _ = _
    refine andThen_read (readVarint_put rest le_rfl (by omega) h64) ?_
    rw [Wire.toInt_ofSigned_64 hlow hhigh]
  bool b rest := by
    show (readVarint.andThen fun n => .ok (decide (n ≠ 0))).read _ = _
    refine andThen_read (readVarint_put rest le_rfl ?_ ?_) ?_
    · cases b <;> norm_num
    · cases b <;> norm_num
    · cases b <;> rfl
  string s rest := by
    show (readBytes.andThen fun bs => .ok ((Wire.decodeUtf8 bs).getD "\uFFFD")).read _ = _
    refine andThen_read (readBytes_put (utf8 s) rest) ?_
    rw [show Wire.decodeUtf8 (utf8 s) = some s from Wire.decodeUtf8_toUTF8 s, Option.getD_some]
  bytes := readBytes_put

end MyChat.Web
