import MyChat.Lib.Table
import MyChat.Lib.Run

/-!
# The single-chat messages

The table `im_messages` and the functions of `services/message/message_repository.cpp` and
`services/message/message_service.cpp` on it. A repository call is one transaction; one that fails,
which the code sees as an `odb::exception`, changes nothing, and whether it does is the flag
`commits` that each call is given. A query orders its rows by their create time and leaves the order
of rows with equal times open: it is a `QueryOrder`.
-/

namespace MyChat.Chat

/-- `MessageStatus`. -/
inductive MessageStatus where
  /-- `SENT`: stored, not delivered yet. -/
  | sent
  /-- `DELIVERED`. -/
  | delivered
  /-- `READ`. -/
  | read
  deriving DecidableEq, Repr

/-- The value of the enumerator, which orders the statuses. -/
def MessageStatus.toNat : MessageStatus → ℕ
  | .sent => 0
  | .delivered => 1
  | .read => 2

/-- `MessageType`. -/
inductive MessageType where
  /-- `TEXT`. -/
  | text
  /-- `IMAGE`. -/
  | image
  /-- `FILE`. -/
  | file
  /-- `SYSTEM`. -/
  | system
  deriving DecidableEq, Repr

/-- A row of `im_messages`, without its id `msg_id`. Times are in milliseconds. -/
structure Message where
  /-- `sender_uid`. -/
  senderUid : String
  /-- `receiver_uid`. -/
  receiverUid : String
  /-- `content`. -/
  content : String
  /-- `msg_type`. -/
  msgType : MessageType
  /-- `status`. -/
  status : MessageStatus
  /-- `create_time`. -/
  createTime : ℤ
  /-- `delivered_time`. -/
  deliveredTime : ℤ
  /-- `read_time`. -/
  readTime : ℤ
  deriving DecidableEq, Repr

/-- `MessageData`: a message with its id. -/
structure MessageData extends Message where
  /-- `msg_id`. -/
  msgId : ℕ
  deriving DecidableEq, Repr

/-- `MessageService::to_data`. -/
def toData (row : ℕ × Message) : MessageData := { row.2 with msgId := row.1 }

/-- The table `im_messages`. -/
abbrev Messages := Table Message

/-- An order in which a query returns its rows: by create time. -/
structure QueryOrder where
  /-- The rows in that order. -/
  order : List (ℕ × Message) → List (ℕ × Message)
  /-- Every row is returned once. -/
  perm : ∀ rows, (order rows).Perm rows
  /-- The create times do not decrease. -/
  sorted : ∀ rows, (order rows).Pairwise fun a b => a.2.createTime ≤ b.2.createTime

/-! ## MessageRepository -/

/-- `create`, when it commits: the message's id and the table with it. -/
def create (commits : Bool) (skip : ℕ) (msg : Message) (t : Messages) : Option ℕ × Messages :=
  if commits then (some (t.freshId skip), t.persist skip msg) else (none, t)

/-- `find_by_id`. -/
def findById (commits : Bool) (t : Messages) (msgId : ℕ) : Option (ℕ × Message) :=
  if commits then (t.load msgId).map fun msg => (msgId, msg) else none

/-- The loop of the two list queries: the first `limit` rows, none when it is not positive. -/
def takeLimit (rows : List (ℕ × Message)) (limit : ℤ) : List (ℕ × Message) := rows.take limit.toNat

/-- `find_conversation`. -/
def findConversation (commits : Bool) (q : QueryOrder) (t : Messages) (userA userB : String)
    (beforeTime limit : ℤ) : List (ℕ × Message) :=
  if commits then
    takeLimit (q.order (t.rows.filter fun row =>
      (row.2.senderUid = userA ∧ row.2.receiverUid = userB ∧ row.2.createTime < beforeTime) ∨
      (row.2.senderUid = userB ∧ row.2.receiverUid = userA ∧ row.2.createTime < beforeTime))) limit
  else []

/-- `find_offline`. -/
def findOffline (commits : Bool) (q : QueryOrder) (t : Messages) (receiverUid : String)
    (beforeTime limit : ℤ) : List (ℕ × Message) :=
  if commits then
    takeLimit (q.order (t.rows.filter fun row =>
      row.2.receiverUid = receiverUid ∧ row.2.status = .sent ∧ row.2.createTime < beforeTime)) limit
  else []

/-- A row that `find_offline` returns is an undelivered message of the receiver. -/
theorem of_mem_findOffline {commits : Bool} {q : QueryOrder} {t : Messages} {receiverUid : String}
    {beforeTime limit : ℤ} {row : ℕ × Message}
    (h : row ∈ findOffline commits q t receiverUid beforeTime limit) :
    row ∈ t.rows ∧ row.2.receiverUid = receiverUid ∧ row.2.status = .sent ∧
      row.2.createTime < beforeTime := by
  unfold findOffline at h
  split_ifs at h
  · have hmem := (q.perm _).mem_iff.mp (List.mem_of_mem_take h)
    obtain ⟨hrows, hfilter⟩ := List.mem_filter.mp hmem
    exact ⟨hrows, of_decide_eq_true hfilter⟩
  · exact absurd h List.not_mem_nil

/-- In a list that is sorted by a key, an entry stands among the first `n` when at most `n` entries
have a key that is not above its own. -/
theorem mem_take_of_sorted {α : Type} {key : α → ℤ} {l : List α} {x : α} {n : ℕ}
    (hsorted : l.Pairwise fun a b => key a ≤ key b) (hx : x ∈ l)
    (hcount : l.countP (fun a => key a ≤ key x) ≤ n) : x ∈ l.take n := by
  induction l generalizing n with
  | nil => exact absurd hx List.not_mem_nil
  | cons a l ih =>
    obtain ⟨hhead, htail⟩ := List.pairwise_cons.mp hsorted
    have hle : key a ≤ key x := by
      rcases List.mem_cons.mp hx with rfl | hmem
      · exact Int.le_refl _
      · exact hhead x hmem
    rw [List.countP_cons_of_pos (by simpa using hle)] at hcount
    -- The head counts, so that `n` is not zero and the tail has room for `n - 1`.
    obtain ⟨m, rfl⟩ : ∃ m, n = m + 1 := ⟨n - 1, by omega⟩
    rw [List.take_succ_cons]
    rcases List.mem_cons.mp hx with rfl | hmem
    · exact List.mem_cons_self
    · exact List.mem_cons_of_mem a (ih htail hmem (by omega))

/-- `find_offline` returns an undelivered message of the receiver when its limit has room for the
undelivered messages up to it. -/
theorem mem_findOffline (q : QueryOrder) {t : Messages} {row : ℕ × Message} {beforeTime limit : ℤ}
    (hrow : row ∈ t.rows) (hsent : row.2.status = .sent) (hbefore : row.2.createTime < beforeTime)
    (hcount : (t.rows.countP fun other => other.2.receiverUid = row.2.receiverUid ∧
      other.2.status = .sent ∧ other.2.createTime ≤ row.2.createTime) ≤ limit.toNat) :
    row ∈ findOffline true q t row.2.receiverUid beforeTime limit := by
  unfold findOffline takeLimit
  rw [if_pos rfl]
  -- The query returns the selected rows by create time, in an order that is otherwise open.
  refine mem_take_of_sorted (q.sorted _) ?_ ?_
  · rw [(q.perm _).mem_iff, List.mem_filter]
    exact ⟨hrow, by simp [hsent, hbefore]⟩
  · rw [(q.perm _).countP_eq, List.countP_filter]
    refine Nat.le_trans (List.countP_mono_left fun other _ hother => ?_) hcount
    simp only [Bool.and_eq_true, decide_eq_true_eq] at hother ⊢
    exact ⟨hother.2.1, hother.2.2.1, hother.1⟩

/-- What `mark_delivered` and `mark_read` share: load the row, write it back changed, and commit. -/
def writeBack (commits : Bool) (t : Messages) (msgId : ℕ) (change : Message → Message) :
    Bool × Messages :=
  if commits ∧ (t.load msgId).isSome then (true, t.update msgId change) else (false, t)

/-- `mark_delivered`. -/
def markDelivered (commits : Bool) (t : Messages) (msgId : ℕ) (deliveredTime : ℤ) :
    Bool × Messages :=
  writeBack commits t msgId fun msg =>
    { msg with status := .delivered, deliveredTime := deliveredTime }

/-- `mark_read`. -/
def markRead (commits : Bool) (t : Messages) (msgId : ℕ) (readTime : ℤ) : Bool × Messages :=
  writeBack commits t msgId fun msg => { msg with status := .read, readTime := readTime }

/-- The rows after a row was written back. -/
theorem load_writeBack (commits : Bool) (t : Messages) (msgId : ℕ) (change : Message → Message)
    (id : ℕ) : (writeBack commits t msgId change).2.load id =
      if commits ∧ id = msgId then (t.load id).map change else t.load id := by
  unfold writeBack
  by_cases hc : commits = true
  · by_cases hid : id = msgId
    · rcases hload : t.load msgId with _ | msg
      · simp [hc, hid, hload]
      · simp [hc, hid, hload, Table.load_update]
    · split_ifs <;> simp_all [Table.load_update]
  · simp [hc]

/-- `writeBack` succeeds when it commits and the row is there. -/
theorem writeBack_fst (commits : Bool) (t : Messages) (msgId : ℕ) (change : Message → Message) :
    (writeBack commits t msgId change).1 = true ↔
      commits = true ∧ ∃ msg, t.load msgId = some msg := by
  unfold writeBack
  rw [← Option.isSome_iff_exists]
  split_ifs with h <;> simp [h]

/-! ## MessageService -/

/-- `SendRequest`. -/
structure SendRequest where
  /-- `sender_uid`. -/
  senderUid : String
  /-- `receiver_uid`. -/
  receiverUid : String
  /-- `content`. -/
  content : String
  /-- `msg_type`. -/
  msgType : MessageType
  /-- `now_ms`. -/
  nowMs : ℤ
  deriving DecidableEq, Repr

/-- `SendResult`: the stored message, or an error code and its text. -/
abbrev SendResult := Except (String × String) MessageData

/-- How the transactions of one `send_text_message` end: the insert, the values that the sequence
skips before it, and the query that reads the message back. -/
structure SendOutcome where
  /-- The insert commits. -/
  createCommits : Bool
  /-- The values that the sequence skips. -/
  skip : ℕ
  /-- The query commits. -/
  findCommits : Bool
  deriving DecidableEq, Repr

/-- `send_text_message`. -/
def sendTextMessage (outcome : SendOutcome) (t : Messages) (request : SendRequest) :
    SendResult × Messages :=
  if request.senderUid = "" then
    (.error ("EMPTY_SENDER", "Sender UID must not be empty"), t)
  else if request.receiverUid = "" then
    (.error ("EMPTY_RECEIVER", "Receiver UID must not be empty"), t)
  else if request.content = "" then
    (.error ("EMPTY_CONTENT", "Message content must not be empty"), t)
  else
    let msg : Message := ⟨request.senderUid, request.receiverUid, request.content,
      request.msgType, .sent, request.nowMs, 0, 0⟩
    match create outcome.createCommits outcome.skip msg t with
    | (none, t) => (.error ("PERSIST_FAILED", "Failed to persist message"), t)
    | (some msgId, t) =>
      -- The row is stored by now, also when reading it back fails.
      match findById outcome.findCommits t msgId with
      | none => (.error ("PERSIST_FAILED", "Message persisted but could not be read back"), t)
      | some row => (.ok (toData row), t)

/-- What `send_text_message` stores: nothing, or the message of its request, under a new id. -/
theorem messages_sendTextMessage (outcome : SendOutcome) (t : Messages) (request : SendRequest) :
    (sendTextMessage outcome t request).2 = t ∨
      (sendTextMessage outcome t request).2 = t.persist outcome.skip ⟨request.senderUid,
        request.receiverUid, request.content, request.msgType, .sent, request.nowMs, 0, 0⟩ := by
  unfold sendTextMessage
  split_ifs
  · exact Or.inl rfl
  · exact Or.inl rfl
  · exact Or.inl rfl
  · unfold create
    rcases outcome with ⟨createCommits, skip, findCommits⟩
    rcases createCommits with _ | _
    · exact Or.inl rfl
    · -- The row stays, whether or not it is read back.
      simp only [if_true]
      split <;> exact Or.inr rfl

/-- `INT64_MAX`. -/
def int64Max : ℤ := 9223372036854775807

/-- `get_conversation`. -/
def getConversation (commits : Bool) (q : QueryOrder) (t : Messages) (userA userB : String)
    (beforeTime limit : ℤ) : List MessageData :=
  (findConversation commits q t userA userB (if beforeTime > 0 then beforeTime else int64Max)
    (if limit > 0 then limit else 50)).map toData

/-- `pull_offline`. -/
def pullOffline (commits : Bool) (q : QueryOrder) (t : Messages) (receiverUid : String)
    (beforeTime limit : ℤ) : List MessageData :=
  (findOffline commits q t receiverUid (if beforeTime > 0 then beforeTime else int64Max)
    (if limit > 0 then limit else 50)).map toData

/-- A message that `pull_offline` returns is an undelivered row of the receiver's. -/
theorem load_of_mem_pullOffline {commits : Bool} {q : QueryOrder} {t : Messages}
    {receiverUid : String} {beforeTime limit : ℤ} {m : MessageData}
    (h : m ∈ pullOffline commits q t receiverUid beforeTime limit) :
    ∃ msg, t.load m.msgId = some msg ∧ msg.receiverUid = receiverUid ∧ msg.status = .sent := by
  obtain ⟨row, hrow, rfl⟩ := List.mem_map.mp h
  obtain ⟨hmem, hreceiver, hsent, -⟩ := of_mem_findOffline hrow
  exact ⟨row.2, t.mem_rows.mp hmem, hreceiver, hsent⟩

end MyChat.Chat
