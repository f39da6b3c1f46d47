import MyChat.Chat.RemoteMessages
import MyChat.Social.Reading
import MyChat.Social.SocialControllers

/-!
# Friends through the friend server

`RemoteFriendClient` of `gateway/http/remote_friend_client.cpp`, which calls the `FriendGrpcService`
of a friend server (`services/friend/friend_grpc_service.cpp`). The server runs the `FriendService`
in a process of its own, with its own clock.

The lemmas at the end say what is left of the way to the server and back: each operation of the
remote client has the result of the service, with its error codes mapped.
-/

namespace MyChat.Social

open Rpc CommandProgram
open Chat (toUint64 toInt64 toInt64_toUint64 int64Max)

/-! ## The wire -/

/-- `im.friend.FriendRequestStatus`. -/
inductive ProtoFriendStatus where
  /-- `PENDING`. -/
  | pending
  /-- `ACCEPTED`. -/
  | accepted
  /-- `REJECTED`. -/
  | rejected
  deriving DecidableEq, Repr

/-- `to_proto_status`; the wire has no `BLOCKED`. -/
def toProtoStatus : FriendStatus → ProtoFriendStatus
  | .pending => .pending
  | .accepted => .accepted
  | .rejected => .rejected
  | .blocked => .pending

/-- `to_service_status`. -/
def toServiceStatus : ProtoFriendStatus → FriendStatus
  | .accepted => .accepted
  | .rejected => .rejected
  | .pending => .pending

/-- Every status but `BLOCKED` comes back from the wire as it was. -/
theorem toServiceStatus_toProtoStatus {status : FriendStatus} (h : status ≠ .blocked) :
    toServiceStatus (toProtoStatus status) = status := by
  cases status with
  | blocked => exact absurd rfl h
  | _ => rfl

/-- `im.friend.FriendInfo`, as far as the server sets it. -/
structure ProtoFriend where
  /-- `uid`. -/
  uid : String := ""
  /-- `add_time`. -/
  addTime : ℤ := 0
  /-- `friend_id`. -/
  friendId : ℕ := 0
  /-- `nickname`. -/
  nickname : String := ""
  /-- `status`. -/
  status : ProtoFriendStatus := .pending
  deriving DecidableEq, Repr

/-- `im.friend.FriendRequest`, as far as the server sets it. -/
structure ProtoFriendRequest where
  /-- `request_id`. -/
  requestId : String := ""
  /-- `from_uid`. -/
  fromUid : String := ""
  /-- `to_uid`. -/
  toUid : String := ""
  /-- `status`. -/
  status : ProtoFriendStatus := .pending
  /-- `create_time`. -/
  createTime : ℤ := 0
  /-- `friend_id`. -/
  friendId : ℕ := 0
  /-- `nickname`. -/
  nickname : String := ""
  deriving DecidableEq, Repr

/-- `im.friend.AddFriendRequest`, with `from_uid` and `timestamp` of its header. -/
structure AddFriendRpc where
  /-- `header.from_uid`. -/
  fromUid : String
  /-- `header.timestamp`, a `uint64`. -/
  timestamp : ℕ
  /-- `to_uid`. -/
  toUid : String
  deriving DecidableEq, Repr

/-- `im.friend.AddFriendResponse`. -/
structure AddFriendResponse where
  /-- `base`. -/
  base : BaseResponse
  /-- `request`. -/
  request : ProtoFriendRequest := {}
  deriving DecidableEq, Repr

/-- `im.friend.HandleFriendRequest`, with `from_uid` of its header. Its response is a
`BaseResponse`. -/
structure HandleFriendRpc where
  /-- `header.from_uid`. -/
  fromUid : String
  /-- `request_id`. -/
  requestId : String
  /-- `accept`. -/
  accept : Bool
  deriving DecidableEq, Repr

/-- `im.friend.GetFriendListResponse`; the request is its header's `from_uid`. -/
structure FriendListResponse where
  /-- `base`. -/
  base : BaseResponse
  /-- `friends`. -/
  friends : List ProtoFriend := []
  deriving DecidableEq, Repr

/-- `im.friend.GetFriendRequestsResponse`; the request is its header's `from_uid`. -/
structure FriendRequestsResponse where
  /-- `base`. -/
  base : BaseResponse
  /-- `requests`. -/
  requests : List ProtoFriendRequest := []
  deriving DecidableEq, Repr

/-- The time that a server takes from the timestamp of a header: its own when there is none. -/
def headerTime (now : ℤ) (timestamp : ℕ) : ℤ := if timestamp > 0 then toInt64 timestamp else now

/-- A positive time reaches the server. -/
theorem headerTime_toUint64 (now : ℤ) {t : ℤ} (hpos : 0 < t) (hmax : t ≤ int64Max) :
    headerTime now (toUint64 t) = t := by
  have hsent : toUint64 t > 0 := by
    unfold int64Max at hmax
    unfold toUint64
    omega
  unfold headerTime
  rw [if_pos hsent, toInt64_toUint64 hpos hmax]

/-! ## `FriendGrpcService` -/

namespace FriendGrpcService

/-- `friend_error_code`. -/
def friendErrorCode (errorCode : String) : ErrorCode :=
  if errorCode = "EMPTY_UID" ∨ errorCode = "SELF_REQUEST" ∨ errorCode = "NOT_PENDING" then
    .paramError
  else if errorCode = "TARGET_NOT_FOUND" ∨ errorCode = "NOT_FOUND" then .notFound
  else if errorCode = "ALREADY_EXISTS" then .alreadyExists
  else if errorCode = "FORBIDDEN" then .permissionDenied
  else .serverError

/-- `fill_friend_info`. -/
def fillFriendInfo (dto : FriendInfo) : ProtoFriend where
  uid := dto.friendUid
  addTime := dto.createdAt
  friendId := dto.friendId
  nickname := dto.nickname
  status := toProtoStatus dto.status

/-- `fill_friend_request`. -/
def fillFriendRequest (dto : FriendInfo) : ProtoFriendRequest where
  requestId := toString dto.friendId
  friendId := dto.friendId
  fromUid := dto.friendUid
  status := toProtoStatus dto.status
  createTime := dto.createdAt
  nickname := dto.nickname

/-- `SendRequest`; `now` is `now_ms()` of the server. -/
def sendRequest (now : ℤ) (request : AddFriendRpc) : Program AddFriendResponse := do
  match ← FriendService.sendRequest now
      ⟨request.fromUid, request.toUid, headerTime now request.timestamp⟩ with
  | .error (code, message) => return { base := ⟨friendErrorCode code, message⟩ }
  | .ok _ =>
    let pending ← FriendService.getPendingRequests request.toUid
    match pending.find? fun item => item.friendUid = request.fromUid with
    | none => return { base := .ok }
    | some item =>
      return { base := .ok, request := { fillFriendRequest item with toUid := request.toUid } }

/-- The end of `RespondToRequest`: the response to the service's result. -/
def respond : FriendResult → BaseResponse
  | .error (code, message) => ⟨friendErrorCode code, message⟩
  | .ok _ => .ok

/-- `RespondToRequest`. -/
def respondToRequest (request : HandleFriendRpc) : Program BaseResponse := do
  match stoull request.requestId with
  | none => return ⟨.paramError, "request_id must be a numeric friend id"⟩
  | some friendId =>
    return respond (← FriendService.respondToRequest friendId request.fromUid request.accept)

/-- `GetFriends`. -/
def getFriends (fromUid : String) : Program FriendListResponse := do
  if fromUid = "" then return { base := ⟨.paramError, "from_uid is required"⟩ }
  else
    let friends ← FriendService.getFriends fromUid
    return { base := .ok, friends := friends.map fillFriendInfo }

/-- `GetPendingRequests`. -/
def getPendingRequests (fromUid : String) : Program FriendRequestsResponse := do
  if fromUid = "" then return { base := ⟨.paramError, "from_uid is required"⟩ }
  else
    let requests ← FriendService.getPendingRequests fromUid
    return { base := .ok
             requests := requests.map fun item =>
               { fillFriendRequest item with toUid := fromUid } }

end FriendGrpcService

/-! ## `RemoteFriendClient` -/

namespace RemoteFriendClient

/-- `to_info`, of a friend. -/
def toInfo (info : ProtoFriend) : FriendInfo where
  friendId := info.friendId
  friendUid := info.uid
  nickname := info.nickname
  status := toServiceStatus info.status
  createdAt := info.addTime

/-- `to_info`, of a request. -/
def requestToInfo (request : ProtoFriendRequest) : FriendInfo where
  friendId := request.friendId
  friendUid := request.fromUid
  nickname := request.nickname
  status := toServiceStatus request.status
  createdAt := request.createTime

/-- `friend_error_code`. -/
def friendErrorCode : ErrorCode → String
  | .paramError => "PARAM_ERROR"
  | .notFound => "NOT_FOUND"
  | .alreadyExists => "ALREADY_EXISTS"
  | .permissionDenied => "FORBIDDEN"
  | .serverError => "REMOTE_FRIEND_SERVER_ERROR"
  | _ => "REMOTE_FRIEND_ERROR"

/-- The end of a call: the result that the client makes of the response; `message` is its own text
for a success. -/
def ofBase (message : String) (base : BaseResponse) : FriendResult :=
  if base.errorCode ≠ .success then .error (friendErrorCode base.errorCode, base.errorMessage)
  else .ok message

/-- `send_request`. -/
def sendRequest (now : ℤ) (request : FriendRequest) : Program FriendResult := do
  let response ← FriendGrpcService.sendRequest now
    ⟨request.requesterUid, toUint64 request.nowMs, request.targetUid⟩
  return ofBase "Friend request sent" response.base

/-- `respond_to_request`. -/
def respondToRequest (friendId : ℕ) (uid : String) (accept : Bool) : Program FriendResult := do
  let base ← FriendGrpcService.respondToRequest ⟨uid, toString friendId, accept⟩
  return ofBase (if accept then "Friend request accepted" else "Friend request rejected") base

/-- `get_friends`. -/
def getFriends (uid : String) : Program (List FriendInfo) := do
  let response ← FriendGrpcService.getFriends uid
  if response.base.errorCode ≠ .success then return [] else return response.friends.map toInfo

/-- `get_pending_requests`. -/
def getPendingRequests (uid : String) : Program (List FriendInfo) := do
  let response ← FriendGrpcService.getPendingRequests uid
  if response.base.errorCode ≠ .success then return []
  else return response.requests.map requestToInfo

end RemoteFriendClient

/-- `RemoteFriendClient`; `now` is `now_ms()` of the server. -/
def remoteFriendClient (now : ℤ) : FriendClient where
  sendRequest := RemoteFriendClient.sendRequest now
  respondToRequest := RemoteFriendClient.respondToRequest
  getFriends := RemoteFriendClient.getFriends
  getPendingRequests := RemoteFriendClient.getPendingRequests

/-! ## To the server and back -/

/-- A list comes back as it was, when each of its items does. -/
theorem map_back {α β : Type} {f : α → β} {fill : β → α} {l : List β}
    (h : ∀ b ∈ l, f (fill b) = b) : (l.map fill).map f = l := by
  rw [List.map_map]
  exact (List.map_congr_left h).trans (List.map_id l)

/-- A request that has a time is sent at it, whatever the clock of the service. -/
theorem FriendService.sendRequest_now (now now' : ℤ) {request : FriendRequest}
    (hpos : 0 < request.nowMs) : sendRequest now request = sendRequest now' request := by
  have htime : ∀ t : ℤ, (if request.nowMs > 0 then request.nowMs else t) = request.nowMs :=
    fun _ => if_pos hpos
  unfold sendRequest
  rw [htime, htime]

namespace RemoteFriendClient

open FriendGrpcService (fillFriendInfo fillFriendRequest respond)

/-- No error is mapped to `SUCCESS`. -/
theorem friendErrorCode_ne_success (errorCode : String) :
    FriendGrpcService.friendErrorCode errorCode ≠ .success := by
  unfold FriendGrpcService.friendErrorCode
  split_ifs <;> decide

/-- What the remote client makes of a result of the service. -/
def remoteResult (message : String) : FriendResult → FriendResult
  | .error (code, text) =>
    .error (friendErrorCode (FriendGrpcService.friendErrorCode code), text)
  | .ok _ => .ok message

/-- A result that comes back. -/
theorem ofBase_respond (message : String) (answer : FriendResult) :
    ofBase message (respond answer) = remoteResult message answer := by
  cases answer with
  | error error => exact if_pos (friendErrorCode_ne_success error.1)
  | ok text => rfl

variable {tx : Command → Tx} {s : Stores}

/-- `send_request` has the service's result: the pending requests, which the server reads after it,
are not looked at. -/
theorem result_sendRequest (now now' : ℤ) {request : FriendRequest} (hpos : 0 < request.nowMs)
    (hmax : request.nowMs ≤ int64Max) :
    result tx s (sendRequest now' request) =
      remoteResult "Friend request sent" (result tx s (FriendService.sendRequest now request)) := by
  unfold sendRequest FriendGrpcService.sendRequest
  rw [headerTime_toUint64 now' hpos hmax, FriendService.sendRequest_now now now' hpos,
    result_bind_pure, result_bind]
  rcases result tx s (FriendService.sendRequest now' request) with ⟨code, text⟩ | text
  · exact ofBase_respond _ (.error (code, text))
  · dsimp only
    rw [result_bind]
    split <;> rfl

/-- `respond_to_request` is the service's. -/
theorem respondToRequest_eq {friendId : ℕ} (hid : friendId < 2 ^ 64) (uid : String)
    (accept : Bool) :
    respondToRequest friendId uid accept = do
      return remoteResult (if accept then "Friend request accepted" else "Friend request rejected")
        (← FriendService.respondToRequest friendId uid accept) := by
  unfold respondToRequest FriendGrpcService.respondToRequest
  simp only [stoull_toString hid, CommandProgram.bind_assoc, pure_eq, done_bind, ofBase_respond]

/-- Friends come back from the wire as they were. -/
theorem toInfo_fillFriendInfo {info : FriendInfo} (h : info.status ≠ .blocked) :
    toInfo (fillFriendInfo info) = info := by
  unfold toInfo fillFriendInfo
  rw [toServiceStatus_toProtoStatus h]

/-- So do requests. -/
theorem requestToInfo_fillFriendRequest {info : FriendInfo} (h : info.status ≠ .blocked)
    (toUid : String) :
    requestToInfo { fillFriendRequest info with toUid := toUid } = info := by
  unfold requestToInfo fillFriendRequest
  rw [toServiceStatus_toProtoStatus h]

/-- `get_friends` finds nothing for no uid. -/
theorem getFriends_empty : getFriends "" = pure [] := rfl

/-- For a uid it finds what the service finds. -/
theorem result_getFriends {uid : String} (huid : uid ≠ "") :
    result tx s (getFriends uid) = result tx s (FriendService.getFriends uid) := by
  unfold getFriends FriendGrpcService.getFriends
  rw [if_neg huid, result_bind, result_bind_pure]
  refine map_back fun info hinfo => toInfo_fillFriendInfo ?_
  rw [FriendService.status_of_mem_getFriends hinfo]
  decide

/-- `get_pending_requests` finds nothing for no uid. -/
theorem getPendingRequests_empty : getPendingRequests "" = pure [] := rfl

/-- For a uid it finds what the service finds. -/
theorem result_getPendingRequests {uid : String} (huid : uid ≠ "") :
    result tx s (getPendingRequests uid) = result tx s (FriendService.getPendingRequests uid) := by
  unfold getPendingRequests FriendGrpcService.getPendingRequests
  rw [if_neg huid, result_bind, result_bind_pure]
  refine map_back fun info hinfo => requestToInfo_fillFriendRequest ?_ uid
  rw [FriendService.status_of_mem_getPendingRequests hinfo]
  decide

end RemoteFriendClient

end MyChat.Social
