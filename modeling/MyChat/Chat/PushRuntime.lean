import MyChat.Chat.MessageService

/-!
# Pushing a message

`PushRuntime::notify_user` of `services/push/push_runtime.cpp` with the fan-out policies of
`services/push/fanout_policy.cpp`. What a push finds around it, the receiver's sessions, how each
`send_payload` ends, and how the transaction of `mark_delivered` does, is its `PushEnv`.

`notifyUser_cases` is what the callers need of a push: it marks the message with the id that it was
given delivered when a session accepted the payload, and otherwise does nothing.
-/

namespace MyChat.Chat

/-- `PushSessionInfo`. -/
structure PushSessionInfo where
  /-- `session_id`. -/
  sessionId : String
  /-- `platform`. -/
  platform : String
  /-- `connect_time`. -/
  connectTime : ℤ
  deriving DecidableEq, Repr

/-! ## Fan-out -/

/-- The fan-out policies. -/
inductive FanoutPolicy where
  /-- `AllSessionsFanoutPolicy`. -/
  | allSessions
  /-- `PlatformFilterFanoutPolicy`. -/
  | platformFilter (allowedPlatforms : List String)
  /-- `NewestSessionFanoutPolicy`. -/
  | newestSession
  deriving DecidableEq, Repr

/-- The loop of `NewestSessionFanoutPolicy`: a later session wins only if it is strictly newer. -/
def newest (first : PushSessionInfo) (rest : List PushSessionInfo) : PushSessionInfo :=
  rest.foldl (fun newest session =>
    if session.connectTime > newest.connectTime then session else newest) first

/-- `select_sessions`. -/
def FanoutPolicy.selectSessions (policy : FanoutPolicy) (sessions : List PushSessionInfo) :
    List String :=
  match policy with
  | .allSessions => sessions.map PushSessionInfo.sessionId
  | .platformFilter allowed =>
    (sessions.filter fun session => session.platform ∈ allowed).map PushSessionInfo.sessionId
  | .newestSession =>
    match sessions with
    | [] => []
    | first :: rest => [(newest first rest).sessionId]

/-! ## The payload -/

/-- `PushContext`. -/
structure PushContext where
  /-- `sender_uid`. -/
  senderUid : String
  /-- `conversation_type`. -/
  conversationType : String
  /-- `conversation_id`. -/
  conversationId : String
  deriving DecidableEq, Repr

/-- `json_escape`. -/
def jsonEscape (value : String) : String :=
  String.join (value.toList.map fun ch =>
    match ch with
    | '\\' => "\\\\"
    | '"' => "\\\""
    | '\n' => "\\n"
    | '\r' => "\\r"
    | '\t' => "\\t"
    | ch => ch.toString)

/-- `build_context_ext`. -/
def buildContextExt (context : PushContext) : String :=
  let fields := [("sender_uid", context.senderUid), ("conversation_type", context.conversationType),
    ("conversation_id", context.conversationId)].filter fun field => field.2 ≠ ""
  if fields = [] then ""
  else "\x7b" ++ ",".intercalate (fields.map fun field =>
    "\"" ++ field.1 ++ "\":\"" ++ jsonEscape field.2 ++ "\"") ++ "\x7d"

/-- The frame that `build_payload` encodes: the header's fields and the body's. -/
structure PushPayload where
  /-- `version` of the header. -/
  version : String
  /-- `cmd_id` of the header. -/
  cmdId : ℕ
  /-- `from_uid` of the header. -/
  fromUid : String
  /-- `to_uid` of the header. -/
  toUid : String
  /-- `timestamp` of the header. -/
  timestamp : ℤ
  /-- `content` of the body. -/
  content : String
  /-- `related_message_id` of the body. -/
  relatedMessageId : String
  /-- `ext` of the body. -/
  ext : String
  deriving DecidableEq, Repr

/-- How one call of `send_payload` ends. -/
inductive PayloadOutcome where
  /-- It returns `true`. -/
  | accepted
  /-- It returns `false`. -/
  | refused
  /-- It throws a `std::exception`. -/
  | throws
  deriving DecidableEq, Repr

/-- What a call of `notify_user` finds. -/
structure PushEnv where
  /-- The session provider, the payload sender, the delivery marker, and the policy are there. -/
  deps : Bool
  /-- The result of `get_sessions`; `none` when it throws. -/
  sessions : Option (List PushSessionInfo)
  /-- The fan-out policy. -/
  policy : FanoutPolicy
  /-- The device id of the service identity. -/
  serviceDeviceId : String
  /-- `ProtobufCodec::encode` succeeds on the payload. -/
  encodes : Bool
  /-- How `send_payload` ends for the session at each place of the selection. -/
  send : ℕ → String → PayloadOutcome
  /-- The message client is there and the transaction of its `mark_delivered` commits. -/
  markCommits : Bool
  /-- `now_ms()`. -/
  now : ℤ

/-- `build_payload`; `none` for the empty string. -/
def buildPayload (env : PushEnv) (receiverUid : String) (msgId : ℕ) (content : String)
    (context : PushContext) : Option PushPayload :=
  if env.encodes then
    some ⟨"1.0", 5001, if context.senderUid = "" then env.serviceDeviceId else context.senderUid,
      receiverUid, env.now, content, toString msgId, buildContextExt context⟩
  else none

/-! ## The push -/

/-- The sessions that a push is sent to: none when the push ends before its loop. -/
def PushEnv.selected (env : PushEnv) : List String :=
  if env.deps then
    match env.sessions with
    | none => []
    | some sessions => env.policy.selectSessions sessions
  else []

/-- The sessions at which `send_payload` returned `true`, as the loop counts them. -/
def acceptedBy (env : PushEnv) (selected : List String) : List String :=
  (selected.zipIdx.filter fun entry => env.send entry.2 entry.1 = .accepted).map Prod.fst

/-- `notify_user`: the sessions that accepted the payload, and the messages after. -/
def notifyUser (env : PushEnv) (t : Messages) (receiverUid : String) (msgId : ℕ)
    (content : String) (context : PushContext) : List String × Messages :=
  if env.selected = [] then ([], t)
  else
    match buildPayload env receiverUid msgId content context with
    | none => ([], t)
    | some _ =>
      let accepted := acceptedBy env env.selected
      -- `success_count > 0`
      if accepted.length > 0 then (accepted, (markDelivered env.markCommits t msgId env.now).2)
      else (accepted, t)

/-- A session of the selection accepts the payload: the push is sent, and `send_payload` returns
`true` somewhere. -/
def PushEnv.Accepts (env : PushEnv) : Prop :=
  env.encodes = true ∧ ∃ i sessionId, env.selected[i]? = some sessionId ∧
    env.send i sessionId = .accepted

/-- The loop finds the sessions that accept. -/
theorem acceptedBy_ne_nil {env : PushEnv} {selected : List String} :
    acceptedBy env selected ≠ [] ↔
      ∃ i sessionId, selected[i]? = some sessionId ∧ env.send i sessionId = .accepted := by
  unfold acceptedBy
  rw [ne_eq, List.map_eq_nil_iff, List.filter_eq_nil_iff]
  push Not
  constructor
  · rintro ⟨⟨sessionId, i⟩, hmem, hsend⟩
    exact ⟨i, sessionId, by simpa using List.mk_mem_zipIdx_iff_getElem?.mp hmem,
      by simpa using hsend⟩
  · rintro ⟨i, sessionId, hget, hsend⟩
    exact ⟨(sessionId, i), List.mk_mem_zipIdx_iff_getElem?.mpr hget, by simpa using hsend⟩

/-- What a push does: when a session accepts, the message is marked delivered and the sessions that
accepted are returned; otherwise nothing happens. -/
theorem notifyUser_cases (env : PushEnv) (t : Messages) (receiverUid : String) (msgId : ℕ)
    (content : String) (context : PushContext) :
    (env.Accepts ∧ (notifyUser env t receiverUid msgId content context).1 ≠ [] ∧
      (notifyUser env t receiverUid msgId content context).2 =
        (markDelivered env.markCommits t msgId env.now).2) ∨
    (¬ env.Accepts ∧ notifyUser env t receiverUid msgId content context = ([], t)) := by
  unfold notifyUser buildPayload
  by_cases hencodes : env.encodes = true
  · by_cases haccepts : acceptedBy env env.selected = []
    · -- No session accepts.
      refine Or.inr ⟨fun h => acceptedBy_ne_nil.mpr h.2 haccepts, ?_⟩
      rw [if_pos hencodes]
      simp only [haccepts, List.length_nil, gt_iff_lt, Nat.lt_irrefl, if_false]
      split_ifs <;> rfl
    · -- A session that accepts was selected, so that the push did not end early.
      have hselected : env.selected ≠ [] := fun h => haccepts (by rw [h]; rfl)
      refine Or.inl ⟨⟨hencodes, acceptedBy_ne_nil.mp haccepts⟩, ?_⟩
      rw [if_pos hencodes, if_neg hselected]
      simp only [gt_iff_lt, List.length_pos_iff.mpr haccepts, if_true]
      exact ⟨haccepts, trivial⟩
  · refine Or.inr ⟨fun h => hencodes h.1, ?_⟩
    rw [if_neg hencodes]
    split_ifs <;> rfl

end MyChat.Chat
