import MyChat.Chat.PushRuntime
import MyChat.Network.WebSocketServer
import MyChat.Rpc.Base

/-!
# Pushing through the push server

A push can be made in the gateway, by `PushService` of `gateway/push/push_service.cpp`, or through a
push server: `RemotePushNotifier` sends it to `PushGrpcService`, whose `PushRuntime` asks the
gateway back for the receiver's sessions, for each send, and for the mark, through the adapters of
`services/push/push_server_adapters.cpp` and `GatewayPushDeliveryService`. Both ways run the same
`PushRuntime`, over different `PushDeps`.

What a push does at the gateway is the list of its `PushEffect`s: the payloads that it hands to
sessions and the marks that it asks the message client for. `runtimeNotifyUser_same` says that it is
the same, up to times, over dependencies that do the same; `adapters_same` says that the adapters
are such.
-/

namespace MyChat.Chat

open Rpc Network

/-! ## The runtime -/

/-- What a push does at the gateway. -/
inductive PushEffect where
  /-- `session->send(payload)`. -/
  | send (sessionId : String) (payload : PushPayload)
  /-- `msg_client_->mark_delivered(msg_id, delivered_time)`. -/
  | mark (msgId : ℕ) (deliveredTime : ℤ)
  deriving DecidableEq, Repr

/-- The session provider, the payload sender, and the delivery marker of a runtime. The sender is
told which send of the push it is, so that equal sends may end differently. -/
structure PushDeps where
  /-- `get_sessions`; `none` when it throws. -/
  getSessions : String → Option (List PushSessionInfo)
  /-- `send_payload`: how it ends and what it does. -/
  sendPayload : ℕ → String → PushPayload → PayloadOutcome × List PushEffect
  /-- `mark_delivered`: its result, `none` when it throws, and what it does. -/
  markDelivered : ℕ → ℤ → Option Bool × List PushEffect

/-- The process that a runtime runs in. -/
structure PushProcess where
  /-- The device id of its service identity. -/
  serviceDeviceId : String
  /-- `now_ms()` when the payload is built. -/
  payloadTime : ℤ
  /-- `now_ms()` when the message is marked. -/
  markTime : ℤ
  /-- The clock is past the epoch. -/
  markTime_pos : 0 < markTime

/-- `build_payload`, which reads the process's identity and clock only. -/
def PushProcess.buildPayload (process : PushProcess) (encodes : Bool) (receiverUid : String)
    (msgId : ℕ) (content : String) (context : PushContext) : Option PushPayload :=
  Chat.buildPayload
    { deps := true
      sessions := none
      policy := .allSessions
      serviceDeviceId := process.serviceDeviceId
      encodes := encodes
      send := fun _ _ => .refused
      markCommits := false
      now := process.payloadTime }
    receiverUid msgId content context

/-- The loop over the selected sessions, from its `i`th on: `success_count` and what it did. -/
def sendLoop (deps : PushDeps) (payload : PushPayload) : ℕ → List String → ℕ × List PushEffect
  | _, [] => (0, [])
  | i, sessionId :: rest =>
    let (outcome, effects) := deps.sendPayload i sessionId payload
    let (count, more) := sendLoop deps payload (i + 1) rest
    (if outcome = .accepted then count + 1 else count, effects ++ more)

/-- `PushRuntime::notify_user`. `encodes` says whether `ProtobufCodec::encode` succeeds. -/
def runtimeNotifyUser (deps : PushDeps) (policy : Option FanoutPolicy) (encodes : Bool)
    (process : PushProcess) (receiverUid : String) (msgId : ℕ) (content : String)
    (context : PushContext) : List PushEffect :=
  match policy with
  | none => []
  | some policy =>
    match deps.getSessions receiverUid with
    | none => []
    | some sessions =>
      if sessions = [] then []
      else if policy.selectSessions sessions = [] then []
      else
        match process.buildPayload encodes receiverUid msgId content context with
        | none => []
        | some payload =>
          let (count, effects) := sendLoop deps payload 0 (policy.selectSessions sessions)
          if count > 0 then effects ++ (deps.markDelivered msgId process.markTime).2 else effects

/-! ## The gateway -/

/-- `DeviceSessionInfo`, as far as a push reads it. -/
structure DeviceSession where
  /-- `session_id`. -/
  sessionId : String
  /-- `platform`. -/
  platform : String
  /-- `connect_time` in milliseconds, as the registry stores it. -/
  connectTimeMs : ℤ
  deriving DecidableEq, Repr

/-- What a push finds at the gateway. -/
structure PushGateway where
  /-- `conn_mgr_` is set. -/
  connMgr : Bool
  /-- `ws_server_` is set. -/
  wsServer : Bool
  /-- `msg_client_` is set. -/
  msgClient : Bool
  /-- `get_user_sessions`; `none` when `get_sessions` throws. -/
  userSessions : String → Option (List DeviceSession)
  /-- The numbers of the sessions that are in the server's map at each send. -/
  live : ℕ → List ℕ
  /-- `session->send` throws at this send. -/
  sendThrows : ℕ → Bool
  /-- The result of the message client's `mark_delivered`; `none` when it throws. -/
  marked : Option Bool

/-- The `time_point` of so many milliseconds, in nanoseconds. -/
def fromEpochMs (epochMs : ℤ) : ℤ := epochMs * 1000000

/-- `duration_cast<milliseconds>`, which rounds towards zero. -/
def toEpochMs (timePoint : ℤ) : ℤ := timePoint.tdiv 1000000

namespace PushGateway

/-- `PushService::get_sessions`. -/
def getSessions (g : PushGateway) (receiverUid : String) : Option (List PushSessionInfo) :=
  if g.connMgr then
    (g.userSessions receiverUid).map fun sessions => sessions.map fun session =>
      ⟨session.sessionId, session.platform, fromEpochMs session.connectTimeMs⟩
  else some []

/-- `PushService::send_payload`. -/
def sendPayload (g : PushGateway) (i : ℕ) (sessionId : String) (payload : PushPayload) :
    PayloadOutcome × List PushEffect :=
  if !g.wsServer then (.refused, [])
  -- `get_session` finds the sessions under the ids that `generate_id` gave them.
  else if sessionId ∉ (g.live i).map generateId then (.refused, [])
  else if g.sendThrows i then (.throws, [.send sessionId payload])
  else (.accepted, [.send sessionId payload])

/-- `PushService::mark_delivered`. -/
def markDelivered (g : PushGateway) (msgId : ℕ) (deliveredTime : ℤ) :
    Option Bool × List PushEffect :=
  if g.msgClient then (g.marked, [.mark msgId deliveredTime]) else (some false, [])

/-- `PushService`, as the dependencies of its own runtime and of the delivery service. -/
def pushService (g : PushGateway) : PushDeps where
  getSessions := g.getSessions
  sendPayload := g.sendPayload
  markDelivered := g.markDelivered

end PushGateway

/-- `PushService::notify_user`. -/
def localNotifyUser (g : PushGateway) (policy : Option FanoutPolicy) (encodes : Bool)
    (process : PushProcess) (receiverUid : String) (msgId : ℕ) (content : String)
    (context : PushContext) : List PushEffect :=
  runtimeNotifyUser g.pushService policy encodes process receiverUid msgId content context

/-! ## `GatewayPushDeliveryService` -/

/-- `im.push.PushSession`. -/
structure ProtoPushSession where
  /-- `session_id`. -/
  sessionId : String
  /-- `platform`. -/
  platform : String
  /-- `connect_time_ms`. -/
  connectTimeMs : ℤ
  deriving DecidableEq, Repr

/-- `ListUserSessionsResponse`. -/
structure ListUserSessionsResponse where
  /-- `base`. -/
  base : BaseResponse
  /-- `sessions`. -/
  sessions : List ProtoPushSession := []

/-- `SendSessionPayloadResponse`. -/
structure SendSessionPayloadResponse where
  /-- `base`. -/
  base : BaseResponse
  /-- `accepted`. -/
  accepted : Bool := false

/-- `MarkMessageDeliveredResponse`. -/
structure MarkMessageDeliveredResponse where
  /-- `base`. -/
  base : BaseResponse
  /-- `marked`. -/
  marked : Bool := false

/-- `ListUserSessions`, on the dependencies that the service was made with. The text of an exception
is left out, here and below: the adapters only log it. -/
def listUserSessions (deps : Option PushDeps) (receiverUid : String) : ListUserSessionsResponse :=
  match deps with
  | none => { base := ⟨.serverError, "Push session provider is not configured"⟩ }
  | some deps =>
    if receiverUid = "" then { base := ⟨.paramError, "receiver_uid is required"⟩ }
    else
      match deps.getSessions receiverUid with
      | none => { base := ⟨.serverError, ""⟩ }
      | some sessions =>
        { base := .ok
          sessions := sessions.map fun session =>
            ⟨session.sessionId, session.platform, toEpochMs session.connectTime⟩ }

/-- `SendSessionPayload`. A payload that was built is not empty. -/
def sendSessionPayload (deps : Option PushDeps) (i : ℕ) (sessionId : String)
    (payload : PushPayload) : SendSessionPayloadResponse × List PushEffect :=
  match deps with
  | none => ({ base := ⟨.serverError, "Push payload sender is not configured"⟩ }, [])
  | some deps =>
    if sessionId = "" then
      ({ base := ⟨.paramError, "session_id and payload are required"⟩ }, [])
    else
      match deps.sendPayload i sessionId payload with
      | (.accepted, effects) => ({ base := .ok, accepted := true }, effects)
      | (.refused, effects) => ({ base := .ok, accepted := false }, effects)
      | (.throws, effects) => ({ base := ⟨.serverError, ""⟩ }, effects)

/-- `MarkMessageDelivered`. -/
def markMessageDelivered (deps : Option PushDeps) (msgId : ℕ) (deliveredTime : ℤ) :
    MarkMessageDeliveredResponse × List PushEffect :=
  match deps with
  | none => ({ base := ⟨.serverError, "Push delivery marker is not configured"⟩ }, [])
  | some deps =>
    if msgId = 0 ∨ deliveredTime ≤ 0 then
      ({ base := ⟨.paramError, "msg_id and delivered_time are required"⟩ }, [])
    else
      match deps.markDelivered msgId deliveredTime with
      | (some marked, effects) => ({ base := .ok, marked := marked }, effects)
      | (none, effects) => ({ base := ⟨.serverError, ""⟩ }, effects)

/-! ## The push server -/

/-- The adapters `RemoteGatewayPush*` over a delivery service. -/
def remoteGatewayDeps (delivery : Option PushDeps) : PushDeps where
  getSessions receiverUid :=
    let response := listUserSessions delivery receiverUid
    if response.base.errorCode ≠ .success then some []
    else some (response.sessions.map fun session =>
      ⟨session.sessionId, session.platform, fromEpochMs session.connectTimeMs⟩)
  sendPayload i sessionId payload :=
    let (response, effects) := sendSessionPayload delivery i sessionId payload
    if response.base.errorCode ≠ .success then (.refused, effects)
    else (if response.accepted then .accepted else .refused, effects)
  markDelivered msgId deliveredTime :=
    let (response, effects) := markMessageDelivered delivery msgId deliveredTime
    if response.base.errorCode ≠ .success then (some false, effects)
    else (some response.marked, effects)

/-- `NotifyUserRequest`. -/
structure NotifyUserRequest where
  /-- `receiver_uid`. -/
  receiverUid : String
  /-- `msg_id`. -/
  msgId : ℕ
  /-- `content`. -/
  content : String
  /-- `sender_uid`. -/
  senderUid : String
  /-- `conversation_type`. -/
  conversationType : String
  /-- `conversation_id`. -/
  conversationId : String
  deriving DecidableEq, Repr

/-- `PushGrpcService::NotifyUser`, on the notifier that it was made with. -/
def notifyUserRpc
    (notifier : Option (String → ℕ → String → PushContext → List PushEffect))
    (request : NotifyUserRequest) : BaseResponse × List PushEffect :=
  match notifier with
  | none => (⟨.serverError, "Push notifier is not configured"⟩, [])
  | some notify =>
    if request.receiverUid = "" ∨ request.msgId = 0 then
      (⟨.paramError, "receiver_uid and msg_id are required"⟩, [])
    else
      (.ok, notify request.receiverUid request.msgId request.content
        ⟨request.senderUid, request.conversationType, request.conversationId⟩)

/-- `RemotePushNotifier::notify_user`, which ends the same whatever the response is. -/
def remotePushNotifier (rpc : NotifyUserRequest → BaseResponse × List PushEffect)
    (receiverUid : String) (msgId : ℕ) (content : String) (context : PushContext) :
    List PushEffect :=
  (rpc ⟨receiverUid, msgId, content, context.senderUid, context.conversationType,
    context.conversationId⟩).2

/-- A push through the push server. -/
def remoteNotifyUser (g : PushGateway) (policy : Option FanoutPolicy) (encodes : Bool)
    (process : PushProcess) (receiverUid : String) (msgId : ℕ) (content : String)
    (context : PushContext) : List PushEffect :=
  remotePushNotifier
    (notifyUserRpc (some
      (runtimeNotifyUser (remoteGatewayDeps (some g.pushService)) policy encodes process)))
    receiverUid msgId content context

/-! ## Up to times -/

/-- The payload without its timestamp. -/
def PushPayload.withoutTime (payload : PushPayload) : PushPayload := { payload with timestamp := 0 }

/-- The effect without its times. -/
def PushEffect.withoutTime : PushEffect → PushEffect
  | .send sessionId payload => .send sessionId payload.withoutTime
  | .mark msgId _ => .mark msgId 0

/-- Two lists of effects are the same up to times. -/
def SameEffects (effects effects' : List PushEffect) : Prop :=
  effects.map PushEffect.withoutTime = effects'.map PushEffect.withoutTime

theorem SameEffects.append {a a' b b' : List PushEffect} (ha : SameEffects a a')
    (hb : SameEffects b b') : SameEffects (a ++ b) (a' ++ b') := by
  unfold SameEffects at *
  rw [List.map_append, List.map_append, ha, hb]

/-- The dependencies do the same for a push of the message to the receiver. -/
structure SameDeps (deps deps' : PushDeps) (receiverUid : String) (msgId : ℕ) : Prop where
  /-- The same sessions, where an exception counts as none. -/
  sessions : (deps.getSessions receiverUid).getD [] = (deps'.getSessions receiverUid).getD []
  /-- Payloads that are the same up to the time are accepted by the same sends. -/
  accepted : ∀ i sessionId payload payload',
    (deps.sendPayload i sessionId payload).1 = .accepted ↔
      (deps'.sendPayload i sessionId payload').1 = .accepted
  /-- They do the same. -/
  send : ∀ i sessionId payload payload', payload.withoutTime = payload'.withoutTime →
    SameEffects (deps.sendPayload i sessionId payload).2
      (deps'.sendPayload i sessionId payload').2
  /-- The message is marked the same. -/
  mark : ∀ time time', 0 < time → 0 < time' →
    SameEffects (deps.markDelivered msgId time).2 (deps'.markDelivered msgId time').2

/-- The loop does the same over such dependencies. -/
theorem sendLoop_same {deps deps' : PushDeps} {receiverUid : String} {msgId : ℕ}
    (h : SameDeps deps deps' receiverUid msgId) {payload payload' : PushPayload}
    (hpayload : payload.withoutTime = payload'.withoutTime) (i : ℕ) (selected : List String) :
    (sendLoop deps payload i selected).1 = (sendLoop deps' payload' i selected).1 ∧
      SameEffects (sendLoop deps payload i selected).2 (sendLoop deps' payload' i selected).2 := by
  induction selected generalizing i with
  | nil => exact ⟨rfl, rfl⟩
  | cons sessionId rest ih =>
    obtain ⟨hcount, heffects⟩ := ih (i + 1)
    have haccepted := h.accepted i sessionId payload payload'
    have hsend := h.send i sessionId payload payload' hpayload
    simp only [sendLoop]
    refine ⟨?_, hsend.append heffects⟩
    rw [hcount]
    exact if_congr haccepted rfl rfl

/-- Two processes build the same payload up to the time, when the sender is known. -/
theorem buildPayload_same (process process' : PushProcess) (encodes : Bool) (receiverUid : String)
    (msgId : ℕ) (content : String) {context : PushContext} (hsender : context.senderUid ≠ "") :
    (process.buildPayload encodes receiverUid msgId content context).map
        PushPayload.withoutTime =
      (process'.buildPayload encodes receiverUid msgId content context).map
        PushPayload.withoutTime := by
  rcases encodes with _ | _
  · rfl
  · simp only [PushProcess.buildPayload, buildPayload, if_true, if_neg hsender, Option.map_some,
      PushPayload.withoutTime]

/-- A push as a function of the sessions, where an exception counts as none. -/
theorem runtimeNotifyUser_some (deps : PushDeps) (policy : FanoutPolicy) (encodes : Bool)
    (process : PushProcess) (receiverUid : String) (msgId : ℕ) (content : String)
    (context : PushContext) :
    runtimeNotifyUser deps (some policy) encodes process receiverUid msgId content context =
      let sessions := (deps.getSessions receiverUid).getD []
      if sessions = [] then []
      else if policy.selectSessions sessions = [] then []
      else
        match process.buildPayload encodes receiverUid msgId content context with
        | none => []
        | some payload =>
          let (count, effects) := sendLoop deps payload 0 (policy.selectSessions sessions)
          if count > 0 then effects ++ (deps.markDelivered msgId process.markTime).2
          else effects := by
  rcases hsessions : deps.getSessions receiverUid with _ | sessions
  · simp only [runtimeNotifyUser, hsessions, Option.getD_none, if_true]
  · simp only [runtimeNotifyUser, hsessions, Option.getD_some]

/-- A push does the same, up to times, over dependencies that do. -/
theorem runtimeNotifyUser_same {deps deps' : PushDeps} {receiverUid : String} {msgId : ℕ}
    (h : SameDeps deps deps' receiverUid msgId) (policy : Option FanoutPolicy) (encodes : Bool)
    (process process' : PushProcess) (content : String) {context : PushContext}
    (hsender : context.senderUid ≠ "") :
    SameEffects (runtimeNotifyUser deps policy encodes process receiverUid msgId content context)
      (runtimeNotifyUser deps' policy encodes process' receiverUid msgId content context) := by
  rcases policy with _ | policy
  · rfl
  rw [runtimeNotifyUser_some, runtimeNotifyUser_some, h.sessions]
  generalize (deps'.getSessions receiverUid).getD [] = sessions
  dsimp only
  split_ifs with hempty hselected
  · rfl
  · rfl
  have hbuild := buildPayload_same process process' encodes receiverUid msgId content hsender
  rcases hpayload : process.buildPayload encodes receiverUid msgId content context with _ | payload
  · rw [hpayload, Option.map_none, eq_comm, Option.map_eq_none_iff] at hbuild
    rw [hbuild]
    rfl
  · rw [hpayload, Option.map_some, eq_comm, Option.map_eq_some_iff] at hbuild
    obtain ⟨payload', hpayload', hsame⟩ := hbuild
    rw [hpayload']
    obtain ⟨hcount, heffects⟩ := sendLoop_same h hsame.symm 0 (policy.selectSessions sessions)
    dsimp only
    rw [hcount]
    split_ifs with hpos
    · exact heffects.append (h.mark _ _ process.markTime_pos process'.markTime_pos)
    · exact heffects

/-! ## The adapters -/

theorem toEpochMs_fromEpochMs (epochMs : ℤ) : toEpochMs (fromEpochMs epochMs) = epochMs :=
  Int.mul_tdiv_cancel epochMs (by decide)

/-- The sessions that come back over the adapter: the times are whole milliseconds, so that none of
them changes. -/
theorem getSessions_remote (g : PushGateway) {receiverUid : String} (h : receiverUid ≠ "") :
    (remoteGatewayDeps (some g.pushService)).getSessions receiverUid =
      some ((g.getSessions receiverUid).getD []) := by
  have hkeep : ∀ sessions : List DeviceSession,
      (sessions.map fun session => (⟨session.sessionId, session.platform,
        fromEpochMs (toEpochMs (fromEpochMs session.connectTimeMs))⟩ : PushSessionInfo)) =
      sessions.map fun session => ⟨session.sessionId, session.platform,
        fromEpochMs session.connectTimeMs⟩ := by
    intro sessions
    simp only [toEpochMs_fromEpochMs]
  simp only [remoteGatewayDeps, listUserSessions, h, if_false, PushGateway.pushService,
    PushGateway.getSessions]
  rcases g.connMgr with _ | _
  · simp [BaseResponse.ok]
  · rcases g.userSessions receiverUid with _ | sessions
    · simp
    · simpa [BaseResponse.ok, Function.comp_def] using hkeep sessions

/-- No session has the empty id, which the delivery service refuses. -/
theorem sendPayload_empty (g : PushGateway) (i : ℕ) (payload : PushPayload) :
    g.sendPayload i "" payload = (.refused, []) := by
  have hnone : "" ∉ (g.live i).map generateId := by
    intro hmem
    obtain ⟨n, -, hn⟩ := List.mem_map.mp hmem
    exact generateId_ne_empty n hn
  unfold PushGateway.sendPayload
  simp only [hnone, not_false_eq_true, if_true, ite_self]

/-- One send over the adapter: an exception at the gateway comes back as a refusal. -/
theorem sendPayload_remote (g : PushGateway) (i : ℕ) (sessionId : String) (payload : PushPayload) :
    (remoteGatewayDeps (some g.pushService)).sendPayload i sessionId payload =
      (if (g.sendPayload i sessionId payload).1 = .accepted then .accepted else .refused,
        (g.sendPayload i sessionId payload).2) := by
  simp only [remoteGatewayDeps, sendSessionPayload, PushGateway.pushService]
  rcases eq_or_ne sessionId "" with rfl | hne
  · simp [sendPayload_empty]
  · simp only [hne, if_false]
    rcases g.sendPayload i sessionId payload with ⟨_ | _ | _, effects⟩ <;> rfl

/-- The gateway accepts a payload whatever its time. -/
theorem sendPayload_fst (g : PushGateway) (i : ℕ) (sessionId : String)
    (payload payload' : PushPayload) :
    (g.sendPayload i sessionId payload).1 = (g.sendPayload i sessionId payload').1 := by
  unfold PushGateway.sendPayload
  split_ifs <;> rfl

theorem sendPayload_sameEffects (g : PushGateway) (i : ℕ) (sessionId : String)
    {payload payload' : PushPayload} (h : payload.withoutTime = payload'.withoutTime) :
    SameEffects (g.sendPayload i sessionId payload).2 (g.sendPayload i sessionId payload').2 := by
  unfold PushGateway.sendPayload
  split_ifs
  · rfl
  · exact congrArg (fun p => [PushEffect.send sessionId p]) h
  · exact congrArg (fun p => [PushEffect.send sessionId p]) h
  · rfl

/-- The adapters over the delivery service do what `PushService` does. -/
theorem adapters_same (g : PushGateway) {receiverUid : String} (hreceiver : receiverUid ≠ "")
    {msgId : ℕ} (hmsgId : msgId ≠ 0) :
    SameDeps (remoteGatewayDeps (some g.pushService)) g.pushService receiverUid msgId where
  sessions := by
    rw [getSessions_remote g hreceiver, Option.getD_some]
    rfl
  accepted := by
    intro i sessionId payload payload'
    rw [sendPayload_remote, sendPayload_fst g i sessionId payload payload']
    change _ ↔ (g.sendPayload i sessionId payload').1 = .accepted
    by_cases haccepted : (g.sendPayload i sessionId payload').1 = .accepted <;> simp [haccepted]
  send := by
    intro i sessionId payload payload' hpayload
    rw [sendPayload_remote]
    exact sendPayload_sameEffects g i sessionId hpayload
  mark := by
    intro time time' htime _
    have hvalid : ¬ (msgId = 0 ∨ time ≤ 0) := by
      rw [not_or]
      exact ⟨hmsgId, by omega⟩
    simp only [remoteGatewayDeps, markMessageDelivered, hvalid, if_false, PushGateway.pushService,
      PushGateway.markDelivered]
    rcases g.msgClient with _ | _
    · rfl
    · rcases g.marked with _ | marked <;> rfl

/-! ## The two ways -/

/-- Through the push server the same sessions get the same payload in the same order, and the same
message is marked under the same condition, up to times, as in the gateway: for every state of the
gateway, every way in which the sends and the mark end, and every policy. -/
theorem remote_push_same (g : PushGateway) (policy : Option FanoutPolicy) (encodes : Bool)
    (process process' : PushProcess) (receiverUid : String) (msgId : ℕ) (content : String)
    (context : PushContext) (hreceiver : receiverUid ≠ "") (hmsgId : msgId ≠ 0)
    (hsender : context.senderUid ≠ "") :
    SameEffects (remoteNotifyUser g policy encodes process receiverUid msgId content context)
      (localNotifyUser g policy encodes process' receiverUid msgId content context) := by
  have hvalid : ¬ (receiverUid = "" ∨ msgId = 0) := not_or.mpr ⟨hreceiver, hmsgId⟩
  have hrpc : remoteNotifyUser g policy encodes process receiverUid msgId content context =
      runtimeNotifyUser (remoteGatewayDeps (some g.pushService)) policy encodes process receiverUid
        msgId content context := by
    simp only [remoteNotifyUser, remotePushNotifier, notifyUserRpc, hvalid, if_false]
  rw [hrpc]
  exact runtimeNotifyUser_same (adapters_same g hreceiver hmsgId) policy encodes process process'
    content hsender

/-- A gateway with two of a user's three sessions: the first send throws and the second is
accepted. -/
def twoSessionGateway : PushGateway where
  connMgr := true
  wsServer := true
  msgClient := true
  userSessions := fun _ => some [⟨"session_1", "ios", 5⟩, ⟨"", "web", 6⟩, ⟨"session_2", "web", 7⟩]
  live := fun _ => [1, 2]
  sendThrows := fun i => i = 0
  marked := some true

/-- A push to it through the push server, where one session of the registry has no id. -/
theorem remote_push_same_two_sessions :
    SameEffects
      (remoteNotifyUser twoSessionGateway (some .allSessions) true ⟨"push-1", 10, 11, by decide⟩
        "bob" 3 "hi" ⟨"alice", "direct", "alice"⟩)
      (localNotifyUser twoSessionGateway (some .allSessions) true ⟨"gateway-1", 20, 21, by decide⟩
        "bob" 3 "hi" ⟨"alice", "direct", "alice"⟩) ∧
    (localNotifyUser twoSessionGateway (some .allSessions) true ⟨"gateway-1", 20, 21, by decide⟩
      "bob" 3 "hi" ⟨"alice", "direct", "alice"⟩).length = 3 :=
  ⟨remote_push_same twoSessionGateway (some .allSessions) true ⟨"push-1", 10, 11, by decide⟩
    ⟨"gateway-1", 20, 21, by decide⟩ "bob" 3 "hi" ⟨"alice", "direct", "alice"⟩ (by decide)
    (by decide) (by decide), by decide +kernel⟩

end MyChat.Chat
