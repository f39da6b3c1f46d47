import Mathlib.Algebra.Ring.Int.Defs
import Mathlib.Data.List.Sort
import MyChat.Chat.MessageService
import MyChat.Rpc.Base

/-!
# Messages through the message server

The gateway reaches the single-chat messages through a message client: `LocalMessageClient`, which
calls the `MessageService` of its own process, or `RemoteMessageClient`, which calls the
`MessageGrpcService` of a message server. The message on the wire has no status: the server folds
status and read time into `is_read`, and the client guesses the status back from `is_read` and the
delivered time.

`toData_fillMessageBody` says what the guess is. A message that was marked delivered after it was
read comes back as read; `remoteCall_eq_localCall_iff` says that from every reachable table the two
clients do the same on every call except a `get_conversation` that selects such a message.
-/

namespace MyChat.Chat

open Rpc Run

/-! ## The wire -/

/-- `im.message.MessageType`. -/
inductive ProtoMessageType where
  /-- `TEXT`. -/
  | text
  /-- `IMAGE`. -/
  | image
  /-- `FILE`. -/
  | file
  /-- `AUDIO`. -/
  | audio
  /-- `VIDEO`. -/
  | video
  /-- `SYSTEM`. -/
  | system
  /-- `RECALL`. -/
  | recall
  /-- `CARD`. -/
  | card
  /-- `LOCATION`. -/
  | location
  /-- `FORWARD`. -/
  | forward
  /-- `CUSTOM`. -/
  | custom
  deriving DecidableEq, Repr

/-- `to_proto_type`, the same in the client and in the server. -/
def toProtoType : MessageType → ProtoMessageType
  | .text => .text
  | .image => .image
  | .file => .file
  | .system => .system

/-- `to_service_type`, the same in the client and in the server. -/
def toServiceType : ProtoMessageType → MessageType
  | .text => .text
  | .image => .image
  | .file => .file
  | .system => .system
  | _ => .text

@[simp] theorem toServiceType_toProtoType (type : MessageType) :
    toServiceType (toProtoType type) = type := by
  cases type <;> rfl

/-- `im.message.MessageBody`, as far as the two sides set it. -/
structure MessageBody where
  /-- `message_id`. -/
  messageId : String := ""
  /-- `type`. -/
  type : ProtoMessageType := .text
  /-- `content`. -/
  content : String := ""
  /-- `is_read`. -/
  isRead : Bool := false
  /-- `sender_uid`. -/
  senderUid : String := ""
  /-- `receiver_uid`. -/
  receiverUid : String := ""
  /-- `create_time`. -/
  createTime : ℤ := 0
  /-- `delivered_time`. -/
  deliveredTime : ℤ := 0
  /-- `read_time`. -/
  readTime : ℤ := 0
  deriving DecidableEq, Repr

/-- `SendMessageRequest`: the fields of its header and body that the client sets. -/
structure SendMessageRequest where
  /-- `header.from_uid`. -/
  fromUid : String
  /-- `header.to_uid`. -/
  toUid : String
  /-- `header.timestamp`, a `uint64`. -/
  timestamp : ℕ
  /-- `body.type`. -/
  type : ProtoMessageType
  /-- `body.content`. -/
  content : String
  deriving DecidableEq, Repr

/-- `SendMessageResponse`. -/
structure SendMessageResponse where
  /-- `base`. -/
  base : BaseResponse
  /-- `message`. -/
  message : MessageBody := {}

/-- `GetConversationResponse` and `PullOfflineResponse`. -/
structure MessagesResponse where
  /-- `base`. -/
  base : BaseResponse
  /-- `messages`. -/
  messages : List MessageBody := []

/-- `MarkMessageDeliveredResponse` and `MarkMessageReadResponse`. -/
structure MarkResponse where
  /-- `base`. -/
  base : BaseResponse
  /-- `marked`. -/
  marked : Bool := false

/-- `static_cast<uint64_t>`. -/
def toUint64 (x : ℤ) : ℕ := (x % 2 ^ 64).toNat

/-- `static_cast<int64_t>`. -/
def toInt64 (x : ℕ) : ℤ := (x : ℤ).bmod (2 ^ 64)

/-- A positive time survives the two casts. -/
theorem toInt64_toUint64 {x : ℤ} (hpos : 0 < x) (hmax : x ≤ int64Max) :
    toInt64 (toUint64 x) = x := by
  unfold int64Max at hmax
  unfold toInt64 toUint64
  rw [Int.toNat_of_nonneg (by omega), Int.bmod_def]
  omega

/-! ## `MessageGrpcService` -/

namespace MessageGrpcService

/-- `send_error_code`. -/
def sendErrorCode (errorCode : String) : Rpc.ErrorCode :=
  if errorCode = "EMPTY_SENDER" ∨ errorCode = "EMPTY_RECEIVER" ∨ errorCode = "EMPTY_CONTENT" then
    .paramError
  else .serverError

/-- `fill_message_body`. -/
def fillMessageBody (data : MessageData) : MessageBody where
  messageId := toString data.msgId
  type := toProtoType data.msgType
  content := data.content
  isRead := data.readTime > 0 ∨ data.status = .read
  senderUid := data.senderUid
  receiverUid := data.receiverUid
  createTime := data.createTime
  deliveredTime := data.deliveredTime
  readTime := data.readTime

/-- `SendMessage`; `now` is `now_ms()` at the server. -/
def sendMessage (now : ℤ) (outcome : SendOutcome) (t : Messages) (request : SendMessageRequest) :
    SendMessageResponse × Messages :=
  let timestamp := toInt64 request.timestamp
  let serviceRequest : SendRequest :=
    { senderUid := request.fromUid
      receiverUid := request.toUid
      content := request.content
      msgType := toServiceType request.type
      nowMs := if timestamp ≤ 0 then now else timestamp }
  match sendTextMessage outcome t serviceRequest with
  | (.error (code, message), t) => ({ base := ⟨sendErrorCode code, message⟩ }, t)
  | (.ok data, t) => ({ base := .ok, message := fillMessageBody data }, t)

/-- `GetConversation`. -/
def getConversation (commits : Bool) (q : QueryOrder) (t : Messages) (userA userB : String)
    (beforeTime limit : ℤ) : MessagesResponse :=
  if userA = "" ∨ userB = "" then { base := ⟨.paramError, "user_a and user_b are required"⟩ }
  else
    { base := .ok
      messages :=
        (Chat.getConversation commits q t userA userB beforeTime limit).map fillMessageBody }

/-- `PullOffline`. -/
def pullOffline (commits : Bool) (q : QueryOrder) (t : Messages) (receiverUid : String)
    (beforeTime limit : ℤ) : MessagesResponse :=
  if receiverUid = "" then { base := ⟨.paramError, "receiver_uid is required"⟩ }
  else
    { base := .ok
      messages := (Chat.pullOffline commits q t receiverUid beforeTime limit).map fillMessageBody }

/-- What `MarkDelivered` and `MarkRead` share; `mark` is the service's function. -/
def markRpc (mark : Messages → ℕ → ℤ → Bool × Messages) (now : ℤ) (t : Messages) (msgId : ℕ)
    (time : ℤ) : MarkResponse × Messages :=
  if msgId = 0 then ({ base := ⟨.paramError, "msg_id is required"⟩ }, t)
  else
    match mark t msgId (if time > 0 then time else now) with
    | (true, t) => ({ base := .ok, marked := true }, t)
    | (false, t) => ({ base := ⟨.notFound, "Message not found"⟩ }, t)

/-- `MarkDelivered`. -/
def markDelivered (now : ℤ) (commits : Bool) (t : Messages) (msgId : ℕ) (deliveredTime : ℤ) :
    MarkResponse × Messages :=
  markRpc (Chat.markDelivered commits) now t msgId deliveredTime

/-- `MarkRead`. -/
def markRead (now : ℤ) (commits : Bool) (t : Messages) (msgId : ℕ) (readTime : ℤ) :
    MarkResponse × Messages :=
  markRpc (Chat.markRead commits) now t msgId readTime

end MessageGrpcService

/-! ## `RemoteMessageClient` -/

namespace RemoteMessageClient

open MessageGrpcService (fillMessageBody)

/-- `to_data`. -/
def toData (body : MessageBody) : MessageData where
  msgId := if body.messageId = "" then 0 else (stoull body.messageId).getD 0
  senderUid := body.senderUid
  receiverUid := body.receiverUid
  content := body.content
  msgType := toServiceType body.type
  status :=
    if body.isRead then .read else if body.deliveredTime > 0 then .delivered else .sent
  createTime := body.createTime
  deliveredTime := body.deliveredTime
  readTime := body.readTime

/-- `send_error_code`. -/
def sendErrorCode : Rpc.ErrorCode → String
  | .paramError => "PARAM_ERROR"
  | .serverError => "REMOTE_MESSAGE_SERVER_ERROR"
  | _ => "REMOTE_MESSAGE_ERROR"

/-- `send_text_message`. -/
def sendTextMessage (now : ℤ) (outcome : SendOutcome) (t : Messages) (request : SendRequest) :
    SendResult × Messages :=
  let (response, t) := MessageGrpcService.sendMessage now outcome t
    { fromUid := request.senderUid
      toUid := request.receiverUid
      timestamp := toUint64 request.nowMs
      type := toProtoType request.msgType
      content := request.content }
  if response.base.errorCode ≠ .success then
    (.error (sendErrorCode response.base.errorCode, response.base.errorMessage), t)
  else (.ok (toData response.message), t)

/-- What `get_conversation` and `pull_offline` do with the response. -/
def ofMessages (response : MessagesResponse) : List MessageData :=
  if response.base.errorCode ≠ .success then [] else response.messages.map toData

/-- `get_conversation`. -/
def getConversation (commits : Bool) (q : QueryOrder) (t : Messages) (userA userB : String)
    (beforeTime limit : ℤ) : List MessageData :=
  ofMessages (MessageGrpcService.getConversation commits q t userA userB beforeTime limit)

/-- `pull_offline`. -/
def pullOffline (commits : Bool) (q : QueryOrder) (t : Messages) (receiverUid : String)
    (beforeTime limit : ℤ) : List MessageData :=
  ofMessages (MessageGrpcService.pullOffline commits q t receiverUid beforeTime limit)

/-- What `mark_delivered` and `mark_read` do with the response. -/
def ofMark (response : MarkResponse × Messages) : Bool × Messages :=
  (decide (response.1.base.errorCode = .success) && response.1.marked, response.2)

/-- `mark_delivered`. -/
def markDelivered (now : ℤ) (commits : Bool) (t : Messages) (msgId : ℕ) (deliveredTime : ℤ) :
    Bool × Messages :=
  ofMark (MessageGrpcService.markDelivered now commits t msgId deliveredTime)

/-- `mark_read`. -/
def markRead (now : ℤ) (commits : Bool) (t : Messages) (msgId : ℕ) (readTime : ℤ) :
    Bool × Messages :=
  ofMark (MessageGrpcService.markRead now commits t msgId readTime)

end RemoteMessageClient

/-! ## Calls through either client -/

/-- A call of a message client, with how its transactions end. -/
inductive MessageCall where
  /-- `send_text_message`. -/
  | sendTextMessage (outcome : SendOutcome) (request : SendRequest)
  /-- `get_conversation`. -/
  | getConversation (commits : Bool) (q : QueryOrder) (userA userB : String)
      (beforeTime limit : ℤ)
  /-- `pull_offline`. -/
  | pullOffline (commits : Bool) (q : QueryOrder) (receiverUid : String) (beforeTime limit : ℤ)
  /-- `mark_delivered`. -/
  | markDelivered (commits : Bool) (msgId : ℕ) (deliveredTime : ℤ)
  /-- `mark_read`. -/
  | markRead (commits : Bool) (msgId : ℕ) (readTime : ℤ)

/-- What a call returns. -/
inductive MessageAnswer where
  /-- The message that a send returns on success; `none` for an error. -/
  | sent (message : Option MessageData)
  /-- A list of messages. -/
  | messages (messages : List MessageData)
  /-- Whether a mark was set. -/
  | marked (marked : Bool)
  deriving DecidableEq, Repr

/-- The call through `LocalMessageClient`: its answer and the table after it. -/
def localCall (t : Messages) : MessageCall → MessageAnswer × Messages
  | .sendTextMessage outcome request =>
    let (result, t) := sendTextMessage outcome t request
    (.sent result.toOption, t)
  | .getConversation commits q userA userB beforeTime limit =>
    (.messages (getConversation commits q t userA userB beforeTime limit), t)
  | .pullOffline commits q receiverUid beforeTime limit =>
    (.messages (pullOffline commits q t receiverUid beforeTime limit), t)
  | .markDelivered commits msgId deliveredTime =>
    let (marked, t) := markDelivered commits t msgId deliveredTime
    (.marked marked, t)
  | .markRead commits msgId readTime =>
    let (marked, t) := markRead commits t msgId readTime
    (.marked marked, t)

/-- The call through `RemoteMessageClient`. -/
def remoteCall (now : ℤ) (t : Messages) : MessageCall → MessageAnswer × Messages
  | .sendTextMessage outcome request =>
    let (result, t) := RemoteMessageClient.sendTextMessage now outcome t request
    (.sent result.toOption, t)
  | .getConversation commits q userA userB beforeTime limit =>
    (.messages
      (RemoteMessageClient.getConversation commits q t userA userB beforeTime limit), t)
  | .pullOffline commits q receiverUid beforeTime limit =>
    (.messages (RemoteMessageClient.pullOffline commits q t receiverUid beforeTime limit), t)
  | .markDelivered commits msgId deliveredTime =>
    let (marked, t) := RemoteMessageClient.markDelivered now commits t msgId deliveredTime
    (.marked marked, t)
  | .markRead commits msgId readTime =>
    let (marked, t) := RemoteMessageClient.markRead now commits t msgId readTime
    (.marked marked, t)

/-- The table after a call. -/
def messageStep (t : Messages) (call : MessageCall) : Messages := (localCall t call).2

/-- The uids are not empty, the id is not zero, and the time is a positive `int64_t`. -/
def MessageCall.Valid : MessageCall → Prop
  | .sendTextMessage _ request => request.senderUid ≠ "" ∧ request.receiverUid ≠ "" ∧
      0 < request.nowMs ∧ request.nowMs ≤ int64Max
  | .getConversation _ _ userA userB _ _ => userA ≠ "" ∧ userB ≠ ""
  | .pullOffline _ _ receiverUid _ _ => receiverUid ≠ ""
  | .markDelivered _ msgId time => msgId ≠ 0 ∧ 0 < time
  | .markRead _ msgId time => msgId ≠ 0 ∧ 0 < time

/-- An insert that commits gives the row an id that its `uint64_t` holds: the sequence ends before
that. -/
def MessageCall.Fits (t : Messages) : MessageCall → Prop
  | .sendTextMessage outcome _ => outcome.createCommits = true → t.freshId outcome.skip < 2 ^ 64
  | _ => True

/-- The client takes the message for something else: it is delivered, and it was read before or has
no delivered time. -/
def Message.Misread (msg : Message) : Prop :=
  msg.status = .delivered ∧ (0 < msg.readTime ∨ msg.deliveredTime ≤ 0)

instance (msg : Message) : Decidable msg.Misread :=
  inferInstanceAs (Decidable (_ ∧ _))

/-- The rows that a `get_conversation` selects; the other calls return no message that was
marked. -/
def MessageCall.selected (t : Messages) : MessageCall → List (ℕ × Message)
  | .getConversation commits q userA userB beforeTime limit =>
    findConversation commits q t userA userB (if beforeTime > 0 then beforeTime else int64Max)
      (if limit > 0 then limit else 50)
  | _ => []

/-! ## The message that comes back -/

/-- What holds of every row that can be reached: its id fits, and a message that was not marked has
no times. -/
def Stored (row : ℕ × Message) : Prop :=
  row.1 < 2 ^ 64 ∧ (row.2.status = .sent → row.2.deliveredTime = 0 ∧ row.2.readTime = 0)

/-- A message comes back with its fields, and the status that the client guesses. -/
theorem toData_fillMessageBody {data : MessageData} (hid : data.msgId < 2 ^ 64) :
    RemoteMessageClient.toData (MessageGrpcService.fillMessageBody data) =
      { data with
        status :=
          if data.readTime > 0 ∨ data.status = .read then .read
          else if data.deliveredTime > 0 then .delivered else .sent } := by
  have hback : stoull data.msgId.repr = some data.msgId := by
    rw [← Nat.toString_eq_repr]
    exact stoull_toString hid
  unfold RemoteMessageClient.toData MessageGrpcService.fillMessageBody
  by_cases hread : data.readTime > 0 ∨ data.status = .read <;> simp [hread, hback]

/-- A row comes back as it is unless the client takes it for something else. -/
theorem toData_row_iff {row : ℕ × Message} (hrow : Stored row) :
    RemoteMessageClient.toData (MessageGrpcService.fillMessageBody (toData row)) = toData row ↔
      ¬ row.2.Misread := by
  obtain ⟨id, senderUid, receiverUid, content, msgType, status, createTime, deliveredTime,
    readTime⟩ := row
  obtain ⟨hid, hsent⟩ := hrow
  rw [toData_fillMessageBody hid]
  unfold Message.Misread toData
  cases status with
  | sent =>
    obtain ⟨rfl, rfl⟩ := hsent rfl
    simp
  | delivered =>
    by_cases hread : readTime > 0
    · simp [hread]
    · by_cases hdelivered : deliveredTime > 0
      · simp [hread, hdelivered]
      · have hle : deliveredTime ≤ 0 := by omega
        simp [hread, hdelivered, hle]
  | read => simp

/-- A list of rows comes back as it is unless the client takes one for something else. -/
theorem map_toData_iff {rows : List (ℕ × Message)} (hrows : ∀ row ∈ rows, Stored row) :
    ((rows.map toData).map MessageGrpcService.fillMessageBody).map RemoteMessageClient.toData =
      rows.map toData ↔ ∀ row ∈ rows, ¬ row.2.Misread := by
  rw [List.map_map, List.map_map, List.map_inj_left]
  exact forall₂_congr fun row hrow => toData_row_iff (hrows row hrow)

/-! ## The rows that can be reached -/

/-- A row that a query selects is a row of the table. -/
theorem mem_rows_of_mem_findConversation {commits : Bool} {q : QueryOrder} {t : Messages}
    {userA userB : String} {beforeTime limit : ℤ} {row : ℕ × Message}
    (h : row ∈ findConversation commits q t userA userB beforeTime limit) : row ∈ t.rows := by
  unfold findConversation at h
  split_ifs at h
  · have hmem := (q.perm _).mem_iff.mp (List.mem_of_mem_take h)
    exact (List.mem_filter.mp hmem).1
  · exact absurd h List.not_mem_nil

/-- Marking keeps what holds of the rows, as it makes no message unmarked. -/
theorem stored_writeBack {t : Messages} (ht : ∀ row ∈ t.rows, Stored row) (commits : Bool)
    (msgId : ℕ) {change : Message → Message} (hchange : ∀ msg, (change msg).status ≠ .sent) :
    ∀ row ∈ (writeBack commits t msgId change).2.rows, Stored row := by
  intro ⟨id, msg⟩ hrow
  rw [Table.mem_rows, load_writeBack] at hrow
  split_ifs at hrow
  · obtain ⟨old, hold, rfl⟩ := Option.map_eq_some_iff.mp hrow
    have hid := (ht (id, old) (t.mem_rows.mpr hold)).1
    exact ⟨hid, fun hsent => absurd hsent (hchange old)⟩
  · exact ht (id, msg) (t.mem_rows.mpr hrow)

/-- The row that a send inserts. -/
def SendRequest.row (request : SendRequest) : Message :=
  ⟨request.senderUid, request.receiverUid, request.content, request.msgType, .sent, request.nowMs,
    0, 0⟩

/-- How a send ends: with an error before the insert, or with the row inserted and, unless the query
fails, returned. -/
theorem sendTextMessage_cases (outcome : SendOutcome) (t : Messages) (request : SendRequest) :
    (∃ e, sendTextMessage outcome t request = (.error e, t)) ∨
      outcome.createCommits = true ∧ ∃ result,
        sendTextMessage outcome t request = (result, t.persist outcome.skip request.row) ∧
        ((∃ e, result = .error e) ∨
          result = .ok (toData (t.freshId outcome.skip, request.row))) := by
  unfold sendTextMessage
  split_ifs
  · exact Or.inl ⟨_, rfl⟩
  · exact Or.inl ⟨_, rfl⟩
  · exact Or.inl ⟨_, rfl⟩
  · unfold create findById
    rcases outcome with ⟨createCommits, skip, findCommits⟩
    cases createCommits with
    | false => exact Or.inl ⟨_, rfl⟩
    | true =>
      refine Or.inr ⟨rfl, ?_⟩
      cases findCommits with
      | false => exact ⟨_, rfl, Or.inl ⟨_, rfl⟩⟩
      | true =>
        -- The query finds the row under the id that the insert returned.
        refine ⟨.ok (toData (t.freshId skip, request.row)), ?_, Or.inr rfl⟩
        simp only [if_true, Table.load_persist, Option.map_some]
        rfl

/-- A send stores an unmarked message. -/
theorem stored_sendTextMessage {t : Messages} (ht : ∀ row ∈ t.rows, Stored row)
    (outcome : SendOutcome) (request : SendRequest)
    (hfits : outcome.createCommits = true → t.freshId outcome.skip < 2 ^ 64) :
    ∀ row ∈ (sendTextMessage outcome t request).2.rows, Stored row := by
  rcases sendTextMessage_cases outcome t request with ⟨e, hsend⟩ | ⟨hcommits, result, hsend, -⟩
  · rw [hsend]
    exact ht
  · rw [hsend]
    intro row hrow
    rcases List.mem_append.mp hrow with hold | hnew
    · exact ht row hold
    · rw [List.mem_singleton.mp hnew]
      exact ⟨hfits hcommits, fun _ => ⟨rfl, rfl⟩⟩

/-- One call keeps what holds of the rows. -/
theorem stored_messageStep {t : Messages} (ht : ∀ row ∈ t.rows, Stored row) (call : MessageCall)
    (hfits : call.Fits t) : ∀ row ∈ (messageStep t call).rows, Stored row := by
  cases call with
  | sendTextMessage outcome request => exact stored_sendTextMessage ht outcome request hfits
  | getConversation => exact ht
  | pullOffline => exact ht
  | markDelivered commits msgId time => exact stored_writeBack ht commits msgId (by simp)
  | markRead commits msgId time => exact stored_writeBack ht commits msgId (by simp)

/-- What holds of every row of every reachable table. -/
theorem stored_run {calls : List MessageCall}
    (hrun : EveryStep messageStep Table.empty (fun _ t call => call.Fits t) calls) :
    ∀ row ∈ (run messageStep Table.empty calls).rows, Stored row := by
  refine hrun.inv (I := fun _ t => ∀ row ∈ t.rows, Stored row) ?_ ?_
  · intro row hrow
    exact absurd hrow List.not_mem_nil
  · intro pre t call ht hfits
    exact stored_messageStep ht call hfits

/-! ## The two clients -/

/-- The server's service gets the request that the client was given. -/
theorem sendMessage_eq (now : ℤ) (outcome : SendOutcome) (t : Messages) {request : SendRequest}
    (hpos : 0 < request.nowMs) (hmax : request.nowMs ≤ int64Max) :
    MessageGrpcService.sendMessage now outcome t
        ⟨request.senderUid, request.receiverUid, toUint64 request.nowMs,
          toProtoType request.msgType, request.content⟩ =
      match sendTextMessage outcome t request with
      | (.error (code, message), t) =>
        ({ base := ⟨MessageGrpcService.sendErrorCode code, message⟩ }, t)
      | (.ok data, t) =>
        ({ base := .ok, message := MessageGrpcService.fillMessageBody data }, t) := by
  have htime : ¬ (request.nowMs ≤ 0) := by omega
  unfold MessageGrpcService.sendMessage
  simp only [toServiceType_toProtoType, toInt64_toUint64 hpos hmax, htime, if_false]

/-- A send does the same through both clients. -/
theorem remoteCall_sendTextMessage (now : ℤ) {t : Messages} {outcome : SendOutcome}
    {request : SendRequest} (hfits : (MessageCall.sendTextMessage outcome request).Fits t)
    (hvalid : (MessageCall.sendTextMessage outcome request).Valid) :
    remoteCall now t (.sendTextMessage outcome request) =
      localCall t (.sendTextMessage outcome request) := by
  obtain ⟨-, -, hpos, hmax⟩ := hvalid
  have hfailed : ∀ code, MessageGrpcService.sendErrorCode code ≠ .success := by
    intro code
    unfold MessageGrpcService.sendErrorCode
    split_ifs <;> decide
  unfold remoteCall localCall RemoteMessageClient.sendTextMessage
  simp only [sendMessage_eq now outcome t hpos hmax]
  rcases sendTextMessage_cases outcome t request with
    ⟨⟨code, message⟩, hsend⟩ | ⟨hcommits, result, hsend, ⟨⟨code, message⟩, rfl⟩ | rfl⟩
  · rw [hsend]
    simp [hfailed, Except.toOption]
  · rw [hsend]
    simp [hfailed, Except.toOption]
  · have hrow : Stored (t.freshId outcome.skip, request.row) :=
      ⟨hfits hcommits, fun _ => ⟨rfl, rfl⟩⟩
    have hback := (toData_row_iff hrow).mpr fun hmisread =>
      absurd hmisread.1 (by simp [SendRequest.row])
    rw [hsend]
    simp [BaseResponse.ok, Except.toOption, hback]

/-- A mark does the same through both clients. -/
theorem ofMark_markRpc (mark : Messages → ℕ → ℤ → Bool × Messages) (now : ℤ) (t : Messages)
    {msgId : ℕ} {time : ℤ} (hid : msgId ≠ 0) (htime : 0 < time) :
    RemoteMessageClient.ofMark (MessageGrpcService.markRpc mark now t msgId time) =
      mark t msgId time := by
  unfold RemoteMessageClient.ofMark MessageGrpcService.markRpc
  simp only [hid, if_false, gt_iff_lt, htime, if_true]
  rcases mark t msgId time with ⟨_ | _, t'⟩ <;> simp [BaseResponse.ok]

/-- From every reachable table, each call does the same through `RemoteMessageClient` as through
`LocalMessageClient`, in the table and in what it returns on success, if and only if it is not a
`get_conversation` that selects a message that the client takes for something else. -/
theorem remoteCall_eq_localCall_iff (now : ℤ) (calls : List MessageCall) (call : MessageCall)
    (hrun : EveryStep messageStep Table.empty (fun _ t call => call.Fits t) calls)
    (hfits : call.Fits (run messageStep Table.empty calls)) (hvalid : call.Valid) :
    remoteCall now (run messageStep Table.empty calls) call =
        localCall (run messageStep Table.empty calls) call ↔
      ∀ row ∈ call.selected (run messageStep Table.empty calls), ¬ row.2.Misread := by
  have hstored := stored_run hrun
  generalize run messageStep Table.empty calls = t at hfits hstored ⊢
  cases call with
  | sendTextMessage outcome request =>
    simp [MessageCall.selected, remoteCall_sendTextMessage now hfits hvalid]
  | getConversation commits q userA userB beforeTime limit =>
    obtain ⟨hA, hB⟩ := hvalid
    unfold remoteCall localCall RemoteMessageClient.getConversation
      MessageGrpcService.getConversation RemoteMessageClient.ofMessages getConversation
      MessageCall.selected
    simp only [hA, hB, or_self, if_false, BaseResponse.ok, ne_eq, not_true_eq_false,
      Prod.mk.injEq, and_true, MessageAnswer.messages.injEq]
    exact map_toData_iff fun row hrow => hstored row (mem_rows_of_mem_findConversation hrow)
  | pullOffline commits q receiverUid beforeTime limit =>
    unfold remoteCall localCall RemoteMessageClient.pullOffline
      MessageGrpcService.pullOffline RemoteMessageClient.ofMessages pullOffline
      MessageCall.selected
    have huid : receiverUid ≠ "" := hvalid
    simp only [huid, if_false, BaseResponse.ok, ne_eq, not_true_eq_false,
      Prod.mk.injEq, and_true, MessageAnswer.messages.injEq, List.not_mem_nil, false_implies,
      implies_true, iff_true]
    -- The messages that are pulled are unmarked.
    refine (map_toData_iff fun row hrow => hstored row (of_mem_findOffline hrow).1).mpr ?_
    intro row hrow hmisread
    have hdelivered := hmisread.1
    rw [(of_mem_findOffline hrow).2.2.1] at hdelivered
    exact absurd hdelivered (by decide)
  | markDelivered commits msgId time =>
    simp [MessageCall.selected, remoteCall, localCall, RemoteMessageClient.markDelivered,
      MessageGrpcService.markDelivered, ofMark_markRpc _ now t hvalid.1 hvalid.2]
  | markRead commits msgId time =>
    simp [MessageCall.selected, remoteCall, localCall, RemoteMessageClient.markRead,
      MessageGrpcService.markRead, ofMark_markRpc _ now t hvalid.1 hvalid.2]

/-- The query order that keeps the order of rows with equal create times. -/
def byCreateTime : QueryOrder where
  order rows := rows.insertionSort fun a b => a.2.createTime ≤ b.2.createTime
  perm rows := List.perm_insertionSort _ rows
  sorted rows :=
    have : Std.Total fun a b : ℕ × Message => a.2.createTime ≤ b.2.createTime :=
      ⟨fun a b => Int.le_total a.2.createTime b.2.createTime⟩
    have : IsTrans (ℕ × Message) fun a b => a.2.createTime ≤ b.2.createTime :=
      ⟨fun _ _ _ => Int.le_trans⟩
    List.pairwise_insertionSort _ rows

/-- A message from `alice` to `bob`. -/
def helloCall : MessageCall :=
  .sendTextMessage ⟨true, 0, true⟩ ⟨"alice", "bob", "hello", .text, 1⟩

/-- Their conversation. -/
def conversationCall : MessageCall := .getConversation true byCreateTime "alice" "bob" 0 0

/-- A message that was delivered and read is the same through both clients. -/
theorem remoteCall_eq_localCall_delivered_read :
    remoteCall 9 (run messageStep Table.empty
        [helloCall, .markDelivered true 1 2, .markRead true 1 3]) conversationCall =
      localCall (run messageStep Table.empty
        [helloCall, .markDelivered true 1 2, .markRead true 1 3]) conversationCall := by
  refine (remoteCall_eq_localCall_iff 9
    [helloCall, .markDelivered true 1 2, .markRead true 1 3] conversationCall ?_ trivial ?_).mpr ?_
  · rw [everyStep_cons, everyStep_cons, everyStep_cons]
    exact ⟨fun _ => by decide, trivial, trivial, everyStep_nil⟩
  · exact ⟨by decide, by decide⟩
  · decide +kernel

/-- A message that was read and then marked delivered is delivered for `LocalMessageClient` and read
for `RemoteMessageClient`. -/
theorem remoteCall_read_delivered :
    (∀ call ∈ [helloCall, .markRead true 1 2, .markDelivered true 1 3, conversationCall],
      call.Valid) ∧
    localCall (run messageStep Table.empty
        [helloCall, .markRead true 1 2, .markDelivered true 1 3]) conversationCall ≠
      remoteCall 9 (run messageStep Table.empty
        [helloCall, .markRead true 1 2, .markDelivered true 1 3]) conversationCall ∧
    (localCall (run messageStep Table.empty
        [helloCall, .markRead true 1 2, .markDelivered true 1 3]) conversationCall).1 =
      .messages [⟨⟨"alice", "bob", "hello", .text, .delivered, 1, 3, 2⟩, 1⟩] ∧
    (remoteCall 9 (run messageStep Table.empty
        [helloCall, .markRead true 1 2, .markDelivered true 1 3]) conversationCall).1 =
      .messages [⟨⟨"alice", "bob", "hello", .text, .read, 1, 3, 2⟩, 1⟩] := by
  have hlocal : (localCall (run messageStep Table.empty
      [helloCall, .markRead true 1 2, .markDelivered true 1 3]) conversationCall).1 =
      .messages [⟨⟨"alice", "bob", "hello", .text, .delivered, 1, 3, 2⟩, 1⟩] := by
    decide +kernel
  have hremote : (remoteCall 9 (run messageStep Table.empty
      [helloCall, .markRead true 1 2, .markDelivered true 1 3]) conversationCall).1 =
      .messages [⟨⟨"alice", "bob", "hello", .text, .read, 1, 3, 2⟩, 1⟩] := by
    decide +kernel
  refine ⟨?_, ?_, hlocal, hremote⟩
  · simp [helloCall, conversationCall, MessageCall.Valid, int64Max]
  · intro heq
    rw [heq, hremote] at hlocal
    exact absurd hlocal (by decide)

end MyChat.Chat
