import MyChat.Codec.Crc32
import MyChat.Lib.Varint

/-!
# The frame codec

`encode`, `decode`, and `decodeEnvelope` of `common/network/protobuf_codec.cpp`. A frame is

    [header_size][type_name_size][type_name][header_data][message_data][CRC32]

with the two sizes as varints. The codec calls Google's protobuf library, which is not part of the
repository: `CodedIO` is the record of the stream operations it calls and `MessageType` that of a
generated message class, and `CodedIO.Spec` and `MessageType.Spec` say what their documentation
promises.

A decoder of the model ends in a value, in `rejected` where the code returns `false`, or in
`outOfBounds` where the code reads a range that is not inside `data_without_crc`; what the C++ does
after such a read is undefined, so the model stops there. `readSections` is the part that the two
decoders share.
-/

namespace MyChat.Codec

/-! ## The protobuf library -/

/-- The operations of `google::protobuf::io` that the codec calls. A reading stream is the data it
was made on, its total bytes limit, and its position. -/
structure CodedIO where
  /-- The bytes that `CodedOutputStream::WriteVarint32` writes. -/
  writeVarint32 : UInt32 → Bytes
  /-- `CodedInputStream::ReadVarint32`: the value and the position after it. -/
  readVarint32 : (data : Bytes) → (limit pos : ℕ) → Option (UInt32 × ℕ)
  /-- `CodedInputStream::Skip`: the position after the bytes skipped. -/
  skip : (data : Bytes) → (limit pos : ℕ) → (count : ℤ) → Option ℕ

/-- The documented behaviour of the stream operations. -/
structure CodedIO.Spec (io : CodedIO) : Prop where
  /-- `WriteVarint32` writes the standard varint. -/
  writeVarint32 : ∀ v, io.writeVarint32 v = Varint.put32 v.toNat
  /-- `ReadVarint32` reads a varint of at most ten bytes, before the end of the data and the total
  bytes limit, and truncates it to 32 bits. -/
  readVarint32 : ∀ data limit pos, io.readVarint32 data limit pos =
    (Varint.get 9 ((data.take limit).drop pos)).map fun (v, n) => (UInt32.ofNat v, pos + n)
  /-- `Skip` fails on a negative count and when fewer bytes remain before the end of the data or
  the total bytes limit. -/
  skip : ∀ data limit pos count, io.skip data limit pos count =
    if 0 ≤ count ∧ pos + count ≤ (min data.length limit : ℕ) then some (pos + count.toNat) else none

/-- The stream operations as documented. -/
def CodedIO.documented : CodedIO where
  writeVarint32 v := Varint.put32 v.toNat
  readVarint32 data limit pos :=
    (Varint.get 9 ((data.take limit).drop pos)).map fun (v, n) => (UInt32.ofNat v, pos + n)
  skip data limit pos count :=
    if 0 ≤ count ∧ pos + count ≤ (min data.length limit : ℕ) then some (pos + count.toNat) else none

theorem CodedIO.documented_spec : CodedIO.documented.Spec where
  writeVarint32 _ := rfl
  readVarint32 _ _ _ := rfl
  skip _ _ _ _ := rfl

/-- What the codec calls of a generated message class with values in `M`. -/
structure MessageType (M : Type) where
  /-- `GetTypeName`, which does not depend on the object. -/
  typeName : Bytes
  /-- `SerializeToString`. -/
  serialize : M → Option Bytes
  /-- `ParseFromString` and `ParseFromArray`, which replace what the object held. -/
  parse : Bytes → Option M
  /-- `IsInitialized`. -/
  isInitialized : M → Bool
  /-- A new object of the class. -/
  fresh : M

/-- What proto3 promises of a message class: parsing inverts serialization, no field is required,
and no bytes are the message with every field at its default. -/
structure MessageType.Spec {M : Type} (T : MessageType M) : Prop where
  /-- Parsing inverts serialization. -/
  parse_serialize : ∀ m bytes, T.serialize m = some bytes → T.parse bytes = some m
  /-- A proto3 message has no required field. -/
  isInitialized : ∀ m, T.isInitialized m = true
  /-- The empty string parses to a new object. -/
  parse_nil : T.parse [] = some T.fresh

/-- The class of messages whose only field, numbered 1, is a string or a byte string, such as
`BaseRequest`; its serialization is that of any message with no other field set. -/
def singleField (name : Bytes) : MessageType Bytes where
  typeName := name
  serialize value :=
    if value = [] then some []
    else if value.length < 2 ^ 31 then some (0x0a :: (Varint.put32 value.length ++ value))
    else none
  parse bytes :=
    match bytes with
    | [] => some []
    | tag :: rest =>
      if tag = 0x0a then
        (Varint.get 9 rest).bind fun (n, k) =>
          if (rest.drop k).length = n then some (rest.drop k) else none
      else none
  isInitialized _ := true
  fresh := []

theorem singleField_spec (name : Bytes) : (singleField name).Spec where
  parse_serialize value bytes h := by
    simp only [singleField] at h ⊢
    split_ifs at h with hnil hlen
    · cases h
      rw [hnil]
    · cases h
      simp only [if_true, Varint.get_put32 _ _ (show value.length < 2 ^ 32 by omega),
        Option.bind_some, List.drop_left]
  isInitialized _ := rfl
  parse_nil := rfl

/-! ## Encoding -/

/-- Steps 4 to 8 of `encode`: the two sizes and the serialized parts. -/
def frameBody (io : CodedIO) (headerData messageType messageData : Bytes) : Bytes :=
  let headerSize := UInt32.ofNat headerData.length
  let typeNameSize := UInt32.ofNat messageType.length
  io.writeVarint32 headerSize ++
    (io.writeVarint32 typeNameSize ++ (messageType ++ (headerData ++ messageData)))

/-- Steps 4 to 9 of `encode`: the body and its checksum. -/
def encodeFrame (io : CodedIO) (headerData messageType messageData : Bytes) : Bytes :=
  let output := frameBody io headerData messageType messageData
  output ++ leBytes (calculateCRC32 output)

/-- `ProtobufCodec::encode`; `none` where it returns `false`. -/
def encode {H M : Type} (io : CodedIO) (hdr : MessageType H) (msg : MessageType M) (header : H)
    (message : M) : Option Bytes := do
  let headerData ← hdr.serialize header
  let messageData ← msg.serialize message
  return encodeFrame io headerData msg.typeName messageData

/-! ## Decoding -/

/-- How a decoder ends without a value. -/
inductive DecodeFault where
  /-- The code returns `false`. -/
  | rejected
  /-- The code reads `len` bytes from `start` on, and they are not all inside the data. -/
  | outOfBounds (start len : ℕ)
  deriving DecidableEq, Repr

/-- The result of a call that must succeed for decoding to go on. -/
def orReject {α : Type} : Option α → Except DecodeFault α
  | some a => .ok a
  | none => .error .rejected

/-- The bytes `data[start], …, data[start + len - 1]`, as the code copies them. -/
def readRange (data : Bytes) (start len : ℕ) : Except DecodeFault Bytes :=
  if start + len ≤ data.length then .ok ((data.drop start).take len)
  else .error (.outOfBounds start len)

/-- `static_cast<int>`. -/
def asInt (n : ℤ) : ℤ := n.bmod (2 ^ 32)

/-- The argument of `SetTotalBytesLimit`, 64 MiB. -/
def totalBytesLimit : ℕ := 64 <<< 20

/-- The size and CRC checks, and the data without its trailer. -/
def dataWithoutCrc (input : Bytes) : Except DecodeFault Bytes :=
  if input.length < 4 then .error .rejected
  else if crcAccepts input then .ok (input.take (input.length - 4))
  else .error .rejected

/-- The sections of a frame before the message, and the position of the message. -/
structure Sections where
  /-- `type_name_data`, or `type_name_out`. -/
  typeName : Bytes
  /-- `header_data`. -/
  headerData : Bytes
  /-- `message_position`. -/
  messagePosition : ℕ
  deriving DecidableEq, Repr

/-- The steps from the two sizes to the position of the message, which `decode` and
`decodeEnvelope` share. -/
def readSections (io : CodedIO) (data : Bytes) : Except DecodeFault Sections := do
  let (headerSize, pos) ← orReject (io.readVarint32 data totalBytesLimit 0)
  let (typeNameSize, afterSizes) ← orReject (io.readVarint32 data totalBytesLimit pos)
  if headerSize = 0 ∨ typeNameSize = 0 then .error .rejected
  else
    let remainingBytes := asInt data.length - afterSizes
    -- The sum and the comparison are in `uint32_t`.
    if headerSize + typeNameSize > UInt32.ofInt remainingBytes then .error .rejected
    else
      let typeName ← readRange data afterSizes typeNameSize.toNat
      let pos ← orReject (io.skip data totalBytesLimit afterSizes (asInt typeNameSize.toNat))
      let headerData ← readRange data (afterSizes + typeNameSize.toNat) headerSize.toNat
      let pos ← orReject (io.skip data totalBytesLimit pos (asInt headerSize.toNat))
      return ⟨typeName, headerData, pos⟩

/-- Step 10 of `decode`: the message is parsed and its type compared only when there are bytes left
for it; otherwise the object keeps what it held. -/
def decodeMessage {M : Type} (msg : MessageType M) (data : Bytes) (s : Sections) (target : M) :
    Except DecodeFault M :=
  let messageSize := asInt data.length - s.messagePosition
  if 0 < messageSize then do
    let bytes ← readRange data s.messagePosition messageSize.toNat
    let message ← orReject (msg.parse bytes)
    if msg.isInitialized message = true ∧ s.typeName = msg.typeName then .ok message
    else .error .rejected
  else .ok target

/-- `ProtobufCodec::decode` into the object `target`. -/
def decode {H M : Type} (io : CodedIO) (hdr : MessageType H) (msg : MessageType M) (input : Bytes)
    (target : M) : Except DecodeFault (H × M) := do
  let data ← dataWithoutCrc input
  let s ← readSections io data
  let header ← orReject (hdr.parse s.headerData)
  let message ← decodeMessage msg data s target
  if hdr.isInitialized header = true then return (header, message) else .error .rejected

/-- `ProtobufCodec::decodeEnvelope`: the header, the type name, and the bytes of the message. -/
def decodeEnvelope {H : Type} (io : CodedIO) (hdr : MessageType H) (input : Bytes) :
    Except DecodeFault (H × Bytes × Bytes) := do
  let data ← dataWithoutCrc input
  let s ← readSections io data
  let header ← orReject (hdr.parse s.headerData)
  if hdr.isInitialized header = true then
    let messageSize := max (asInt data.length - s.messagePosition) 0
    let bytes ← readRange data s.messagePosition messageSize.toNat
    return (header, s.typeName, bytes)
  else .error .rejected

end MyChat.Codec
