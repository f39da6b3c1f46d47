import MyChat.Codec.WebRoundTrip

/-!
# Sections that the web client reads

A section of a frame is a message of its type when it is a run of records of the fields of the
schema (`IsMessage`), each of them whole and of the kind of its field, in any order and any number
of times. The decoders of the client read every such section, the empty one among them, because a
turn of their loop reads a record (`Reads.record`).
-/

namespace MyChat.Web

open Codec Wire

/-! ## Messages on the wire -/

/-- The value is one of the kind, as it is written. A message is bytes of which `inner` holds. -/
def HasKind (inner : Bytes → Prop) : Kind → Value → Prop
  | .string, v => ∃ s, v = textValue s
  | .uint32, v => ∃ n < 2 ^ 32, v = .number n
  | .uint64, v => ∃ n < 2 ^ 64, v = .number n
  | .int64, v => ∃ n : ℤ, -2 ^ 63 ≤ n ∧ n < 2 ^ 63 ∧ v = .number (ofSigned n)
  | .bool, v => ∃ b : Bool, v = .number b.toNat
  | .enum, v => ∃ n : ℤ, -2 ^ 31 ≤ n ∧ n < 2 ^ 31 ∧ v = .number (ofSigned n)
  | .message, v => ∃ bs, v = .bytes bs ∧ inner bs

/-- The bytes are a run of records of the fields of the schema, where `inner` says what the bytes of
a field are that is a message of its own. -/
def IsMessage (schema : List FieldDecl) (inner : ℕ → Bytes → Prop) (bytes : Bytes) : Prop :=
  ∃ rs : List Record, bytes = rs.flatMap Record.put ∧
    ∀ r ∈ rs, ∃ f ∈ schema, f.number = r.number ∧ HasKind (inner f.number) f.kind r.value

theorem isMessage_nil (schema : List FieldDecl) (inner : ℕ → Bytes → Prop) :
    IsMessage schema inner [] :=
  ⟨[], rfl, fun _ hr => absurd hr List.not_mem_nil⟩

/-- `BaseResponse` of `base.proto`. Its payload is bytes, which are on the wire as a message is. -/
def baseResponseSchema : List FieldDecl :=
  [⟨"error_code", 1, .enum⟩, ⟨"error_message", 2, .string⟩, ⟨"payload", 3, .message⟩]

/-- `PushMessageBody` of `push.proto`. -/
def pushMessageBodySchema : List FieldDecl :=
  [⟨"push_id", 1, .string⟩, ⟨"type", 2, .enum⟩, ⟨"content", 3, .string⟩,
    ⟨"related_message_id", 4, .string⟩, ⟨"ext", 5, .string⟩]

/-- `SendMessageResponse` of `message.proto`. -/
def sendMessageResponseSchema : List FieldDecl := [⟨"base", 1, .message⟩, ⟨"message", 2, .message⟩]

/-- `PushRequest` of `push.proto`. -/
def pushRequestSchema : List FieldDecl := [⟨"header", 1, .message⟩, ⟨"body", 2, .message⟩]

/-- The bytes are an `IMHeader`. -/
def IsImHeader : Bytes → Prop := IsMessage imHeaderSchema fun _ _ => False

/-- The bytes are a `MessageBody`. -/
def IsMessageBody : Bytes → Prop := IsMessage messageBodySchema fun _ _ => False

/-- The bytes are a `BaseResponse`. -/
def IsBaseResponse : Bytes → Prop := IsMessage baseResponseSchema fun _ _ => True

/-- The bytes are a `PushMessageBody`. -/
def IsPushMessageBody : Bytes → Prop := IsMessage pushMessageBodySchema fun _ _ => False

/-- What the bytes of the first and of the second field of a message of two are. -/
def firstSecond (first second : Bytes → Prop) (number : ℕ) : Bytes → Prop :=
  if number = 1 then first else second

/-- The bytes are a message of the type, if it is one of those that the client has a parser for. -/
def IsPayload (typeName : String) (bytes : Bytes) : Prop :=
  match typeName with
  | "im.message.SendMessageResponse" =>
    IsMessage sendMessageResponseSchema (firstSecond IsBaseResponse IsMessageBody) bytes
  | "im.message.SendMessageRequest" =>
    IsMessage sendMessageRequestSchema (firstSecond IsImHeader IsMessageBody) bytes
  | "im.push.PushRequest" =>
    IsMessage pushRequestSchema (firstSecond IsImHeader IsPushMessageBody) bytes
  | "im.base.BaseResponse" => IsBaseResponse bytes
  | _ => True

/-! ## Reading -/

section

variable {Out : Type} {reader : Reader} {field : ℕ → Primitive (Out → Out)}

/-- The loop of a decoder reads a record with any value of the kind. -/
def ReadsKind (reader : Reader) (field : ℕ → Primitive (Out → Out)) (number : ℕ)
    (inner : Bytes → Prop) (kind : Kind) : Prop :=
  ∀ v, HasKind inner kind v → ∃ update, Reads reader field (Record.mk number v).put update

/-- A decoder that reads every field of a schema reads its messages. -/
theorem readFields_isMessage {schema : List FieldDecl} {inner : ℕ → Bytes → Prop} {bytes : Bytes}
    (hfields : ∀ f ∈ schema, ReadsKind reader field f.number (inner f.number) f.kind)
    (h : IsMessage schema inner bytes) (out : Out) :
    ∃ out', readFields reader field out bytes = .ok out' := by
  obtain ⟨rs, rfl, hrs⟩ := h
  -- One record after another.
  have hreads : ∃ update, Reads reader field (rs.flatMap Record.put) update := by
    induction rs with
    | nil => exact ⟨id, Reads.nil⟩
    | cons r rs ih =>
      obtain ⟨f, hf, hnumber, hkind⟩ := hrs r List.mem_cons_self
      obtain ⟨first, hfirst⟩ := hfields f hf r.value hkind
      rw [hnumber] at hfirst
      obtain ⟨rest, hrest⟩ := ih fun r' hr' => hrs r' (List.mem_cons_of_mem r hr')
      rw [List.flatMap_cons]
      exact ⟨_, hfirst.append hrest⟩
  obtain ⟨update, hupdate⟩ := hreads
  exact ⟨_, hupdate.readFields_eq out⟩

variable (hr : reader.Spec)
include hr

/-- A record whose value the primitive of its field reads. -/
theorem reads_value {α : Type} {number : ℕ} {v : Value} {p : Primitive α} {assign : α → Out → Out}
    {a : α} (htag : 8 * number + v.wireType < 2 ^ 32)
    (hfield : field (8 * number + v.wireType) = p.assign assign)
    (hread : ∀ rest, p.read (v.put ++ rest) = .ok (a, rest)) :
    ∃ update, Reads reader field (Record.mk number v).put update := by
  refine ⟨assign a, Reads.record hr htag fun rest => ?_⟩
  change (field (8 * number + v.wireType)).read (v.put ++ rest) = _
  rw [hfield]
  exact andThen_read (hread rest) rfl

theorem readsKind_string {number : ℕ} {inner : Bytes → Prop} {assign : String → Out → Out}
    (htag : 8 * number + 2 < 2 ^ 32)
    (hfield : field (8 * number + 2) = reader.string.assign assign) :
    ReadsKind reader field number inner .string := by
  rintro v ⟨s, rfl⟩
  refine reads_value (a := s) hr htag hfield fun rest => ?_
  exact (congrArg reader.string.read (List.append_assoc _ _ _)).trans (hr.string s rest)

theorem readsKind_uint32 {number : ℕ} {inner : Bytes → Prop} {assign : ℕ → Out → Out}
    (htag : 8 * number < 2 ^ 32) (hfield : field (8 * number) = reader.uint32.assign assign) :
    ReadsKind reader field number inner .uint32 := by
  rintro v ⟨n, hn, rfl⟩
  exact reads_value hr htag hfield (uint32_read hr hn)

theorem readsKind_uint64 {number : ℕ} {inner : Bytes → Prop} {assign : ℕ → Out → Out}
    (htag : 8 * number < 2 ^ 32) (hfield : field (8 * number) = reader.uint64.assign assign) :
    ReadsKind reader field number inner .uint64 := by
  rintro v ⟨n, hn, rfl⟩
  exact reads_value hr htag hfield fun rest => hr.uint64 n rest hn

theorem readsKind_int64 {number : ℕ} {inner : Bytes → Prop} {assign : ℤ → Out → Out}
    (htag : 8 * number < 2 ^ 32) (hfield : field (8 * number) = reader.int64.assign assign) :
    ReadsKind reader field number inner .int64 := by
  rintro v ⟨n, hlow, hhigh, rfl⟩
  exact reads_value hr htag hfield fun rest => hr.int64 n rest hlow hhigh

theorem readsKind_bool {number : ℕ} {inner : Bytes → Prop} {assign : Bool → Out → Out}
    (htag : 8 * number < 2 ^ 32) (hfield : field (8 * number) = reader.bool.assign assign) :
    ReadsKind reader field number inner .bool := by
  rintro v ⟨b, rfl⟩
  exact reads_value hr htag hfield (hr.bool b)

theorem readsKind_enum {number : ℕ} {inner : Bytes → Prop} {assign : ℤ → Out → Out}
    (htag : 8 * number < 2 ^ 32) (hfield : field (8 * number) = reader.int32.assign assign) :
    ReadsKind reader field number inner .enum := by
  rintro v ⟨n, hlow, hhigh, rfl⟩
  exact reads_value hr htag hfield fun rest => hr.int32 n rest hlow hhigh

/-- Bytes that are not decoded further. -/
theorem readsKind_bytes {number : ℕ} {inner : Bytes → Prop} (assign : Bytes → Out → Out)
    (htag : 8 * number + 2 < 2 ^ 32)
    (hfield : field (8 * number + 2) = reader.bytes.assign assign) :
    ReadsKind reader field number inner .message := by
  rintro v ⟨bs, rfl, -⟩
  refine reads_value (a := bs) hr htag hfield fun rest => ?_
  exact (congrArg reader.bytes.read (List.append_assoc _ _ _)).trans (hr.bytes bs rest)

/-- A message that another decoder reads from its bytes. -/
theorem readsKind_message {α : Type} {number : ℕ} {inner : Bytes → Prop}
    {decode : Bytes → Except String α} {assign : α → Out → Out} (htag : 8 * number + 2 < 2 ^ 32)
    (hfield : field (8 * number + 2) = (reader.bytes.andThen decode).assign assign)
    (hdecode : ∀ bs, inner bs → ∃ a, decode bs = .ok a) :
    ReadsKind reader field number inner .message := by
  rintro v ⟨bs, rfl, hbs⟩
  obtain ⟨a, ha⟩ := hdecode bs hbs
  refine reads_value hr htag hfield fun rest => andThen_read ?_ ha
  exact (congrArg reader.bytes.read (List.append_assoc _ _ _)).trans (hr.bytes bs rest)

end

section

variable {reader : Reader} (hr : reader.Spec)
include hr

/-- The client reads every `IMHeader`. -/
theorem decodeImHeader_isImHeader {bytes : Bytes} (h : IsImHeader bytes) :
    ∃ header, decodeImHeader reader bytes = .ok header := by
  refine readFields_isMessage ?_ h _
  simp only [imHeaderSchema, List.forall_mem_cons]
  exact ⟨readsKind_string hr (by norm_num) rfl, readsKind_uint32 hr (by norm_num) rfl,
    readsKind_uint32 hr (by norm_num) rfl, readsKind_string hr (by norm_num) rfl,
    readsKind_string hr (by norm_num) rfl, readsKind_uint64 hr (by norm_num) rfl,
    readsKind_string hr (by norm_num) rfl, readsKind_string hr (by norm_num) rfl,
    readsKind_string hr (by norm_num) rfl, fun _ hf => absurd hf List.not_mem_nil⟩

/-- The client reads every `MessageBody`. -/
theorem decodeMessageBody_isMessageBody {bytes : Bytes} (h : IsMessageBody bytes) :
    ∃ body, decodeMessageBody reader bytes = .ok body := by
  refine readFields_isMessage ?_ h _
  simp only [messageBodySchema, List.forall_mem_cons]
  exact ⟨readsKind_string hr (by norm_num) rfl, readsKind_enum hr (by norm_num) rfl,
    readsKind_string hr (by norm_num) rfl, readsKind_bool hr (by norm_num) rfl,
    readsKind_bool hr (by norm_num) rfl, readsKind_string hr (by norm_num) rfl,
    readsKind_string hr (by norm_num) rfl, readsKind_string hr (by norm_num) rfl,
    readsKind_string hr (by norm_num) rfl, readsKind_int64 hr (by norm_num) rfl,
    readsKind_int64 hr (by norm_num) rfl, readsKind_int64 hr (by norm_num) rfl,
    fun _ hf => absurd hf List.not_mem_nil⟩

/-- The client reads every `BaseResponse`, whatever its payload is. -/
theorem decodeBaseResponse_isBaseResponse {bytes : Bytes} (h : IsBaseResponse bytes) :
    ∃ base, decodeBaseResponse reader bytes = .ok base := by
  refine readFields_isMessage ?_ h _
  simp only [baseResponseSchema, List.forall_mem_cons]
  exact ⟨readsKind_enum hr (by norm_num) rfl, readsKind_string hr (by norm_num) rfl,
    readsKind_bytes hr (fun _ out => out) (by norm_num) rfl,
    fun _ hf => absurd hf List.not_mem_nil⟩

/-- The client reads every `PushMessageBody`. -/
theorem decodePushMessageBody_isPushMessageBody {bytes : Bytes} (h : IsPushMessageBody bytes) :
    ∃ body, decodePushMessageBody reader bytes = .ok body := by
  refine readFields_isMessage ?_ h _
  simp only [pushMessageBodySchema, List.forall_mem_cons]
  exact ⟨readsKind_string hr (by norm_num) rfl, readsKind_enum hr (by norm_num) rfl,
    readsKind_string hr (by norm_num) rfl, readsKind_string hr (by norm_num) rfl,
    readsKind_string hr (by norm_num) rfl, fun _ hf => absurd hf List.not_mem_nil⟩

omit hr in
/-- The client counts the bytes of a payload that it has no parser for. -/
theorem decodePayload_of_unknown {typeName : String} (bytes : Bytes)
    (hresponse : typeName ≠ "im.message.SendMessageResponse")
    (hrequest : typeName ≠ "im.message.SendMessageRequest")
    (hpush : typeName ≠ "im.push.PushRequest") (hbase : typeName ≠ "im.base.BaseResponse") :
    decodePayload reader typeName bytes = .ok (.rawBytes bytes.length) := by
  unfold decodePayload
  split
  · exact absurd rfl hresponse
  · exact absurd rfl hrequest
  · exact absurd rfl hpush
  · exact absurd rfl hbase
  · rfl

/-- The client reads every payload of the type that the frame names. -/
theorem decodePayload_isPayload {typeName : String} {bytes : Bytes} (h : IsPayload typeName bytes) :
    ∃ payload, decodePayload reader typeName bytes = .ok payload := by
  have hmap : ∀ {α : Type} {x : Except String α} {f : α → Payload}, (∃ a, x = .ok a) →
      ∃ payload, x.map f = .ok payload := by
    rintro α x f ⟨a, rfl⟩
    exact ⟨f a, rfl⟩
  unfold IsPayload at h
  split at h
  · refine hmap (readFields_isMessage ?_ h _)
    simp only [sendMessageResponseSchema, List.forall_mem_cons]
    exact ⟨readsKind_message hr (by norm_num) rfl fun _ => decodeBaseResponse_isBaseResponse hr,
      readsKind_message hr (by norm_num) rfl fun _ => decodeMessageBody_isMessageBody hr,
      fun _ hf => absurd hf List.not_mem_nil⟩
  · refine hmap (readFields_isMessage ?_ h _)
    simp only [sendMessageRequestSchema, List.forall_mem_cons]
    exact ⟨readsKind_message hr (by norm_num) rfl fun _ => decodeImHeader_isImHeader hr,
      readsKind_message hr (by norm_num) rfl fun _ => decodeMessageBody_isMessageBody hr,
      fun _ hf => absurd hf List.not_mem_nil⟩
  · refine hmap (readFields_isMessage ?_ h _)
    simp only [pushRequestSchema, List.forall_mem_cons]
    exact ⟨readsKind_message hr (by norm_num) rfl fun _ => decodeImHeader_isImHeader hr,
      readsKind_message hr (by norm_num) rfl fun _ => decodePushMessageBody_isPushMessageBody hr,
      fun _ hf => absurd hf List.not_mem_nil⟩
  · exact hmap (decodeBaseResponse_isBaseResponse hr h)
  · exact ⟨_, decodePayload_of_unknown bytes ‹_› ‹_› ‹_› ‹_›⟩

end

end MyChat.Web
