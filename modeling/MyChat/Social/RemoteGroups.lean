import MyChat.Social.RemoteFriends
import MyChat.Social.RemoteUsers

/-!
# Groups through the group server

`RemoteGroupClient` of `gateway/http/remote_group_client.cpp`, which calls the `GroupGrpcService` of
a group server (`services/group/group_grpc_service.cpp`). The server runs the `GroupService` and the
`GroupMessageService` in a process of its own, with its own clock.

The lemmas at the end say what is left of the way to the server and back.
-/

namespace MyChat.Social

open Rpc CommandProgram
open Chat (toUint64 int64Max)
open RemoteUserClient (toInt32)

/-! ## The wire -/

/-- `im.group.GroupRole`. -/
inductive ProtoGroupRole where
  /-- `MEMBER`. -/
  | member
  /-- `ADMIN`. -/
  | admin
  /-- `OWNER`. -/
  | owner
  deriving DecidableEq, Repr

/-- `to_proto_role`. -/
def toProtoRole : GroupRole → ProtoGroupRole
  | .member => .member
  | .admin => .admin
  | .owner => .owner

/-- `to_service_role`. -/
def toServiceRole : ProtoGroupRole → GroupRole
  | .admin => .admin
  | .owner => .owner
  | .member => .member

@[simp] theorem toServiceRole_toProtoRole (role : GroupRole) :
    toServiceRole (toProtoRole role) = role := by
  cases role <;> rfl

/-- `im.group.GroupInfo`, as far as the server sets it. -/
structure ProtoGroup where
  /-- `group_id`. -/
  groupId : String := ""
  /-- `group_record_id`. -/
  groupRecordId : ℕ := 0
  /-- `name`. -/
  name : String := ""
  /-- `owner_uid`. -/
  ownerUid : String := ""
  /-- `create_time`. -/
  createTime : ℤ := 0
  /-- `member_count`. -/
  memberCount : ℤ := 0
  deriving DecidableEq, Repr

/-- `im.group.GroupMember`, as far as the server sets it. -/
structure ProtoMember where
  /-- `uid`. -/
  uid : String
  /-- `role`. -/
  role : ProtoGroupRole
  /-- `nickname`. -/
  nickname : String
  /-- `join_time`. -/
  joinTime : ℤ
  /-- `member_record_id`. -/
  memberRecordId : ℕ
  deriving DecidableEq, Repr

/-- `im.group.GroupMessage`. -/
structure ProtoGroupMessage where
  /-- `msg_id`. -/
  msgId : ℕ := 0
  /-- `group_id`. -/
  groupId : ℕ := 0
  /-- `sender_uid`. -/
  senderUid : String := ""
  /-- `sender_nickname`. -/
  senderNickname : String := ""
  /-- `content`. -/
  content : String := ""
  /-- `create_time`. -/
  createTime : ℤ := 0
  deriving DecidableEq, Repr

/-- `im.group.CreateGroupRequest`, with `from_uid` and `timestamp` of its header. -/
structure CreateGroupRpc where
  /-- `header.from_uid`. -/
  fromUid : String
  /-- `header.timestamp`, a `uint64`. -/
  timestamp : ℕ
  /-- `name`. -/
  name : String
  deriving DecidableEq, Repr

/-- `im.group.CreateGroupResponse`. -/
structure CreateGroupResponse where
  /-- `base`. -/
  base : BaseResponse
  /-- `group`. -/
  group : ProtoGroup := {}
  /-- `group_id`. -/
  groupId : ℕ := 0
  deriving DecidableEq, Repr

/-- `im.group.JoinGroupRequest`, with `from_uid` and `timestamp` of its header. Its response is a
`BaseResponse`, as that of `LeaveGroupRequest`. -/
structure JoinGroupRpc where
  /-- `header.from_uid`. -/
  fromUid : String
  /-- `header.timestamp`, a `uint64`. -/
  timestamp : ℕ
  /-- `group_id`. -/
  groupId : ℕ
  deriving DecidableEq, Repr

/-- `im.group.GetGroupInfoRequest` and `im.group.GetGroupMembersRequest`, with `from_uid` of the
header. -/
structure GroupRpc where
  /-- `header.from_uid`. -/
  fromUid : String := ""
  /-- `group_id`. -/
  groupId : String := ""
  /-- `group_record_id`. -/
  groupRecordId : ℕ := 0
  deriving DecidableEq, Repr

/-- `im.group.GetGroupInfoResponse`. -/
structure GroupInfoResponse where
  /-- `base`. -/
  base : BaseResponse
  /-- `group`. -/
  group : ProtoGroup := {}
  /-- `members`. -/
  members : List ProtoMember := []
  /-- `joined`. -/
  joined : Bool := false
  deriving DecidableEq, Repr

/-- `im.group.SearchGroupsRequest`. -/
structure SearchGroupsRpc where
  /-- `keyword`. -/
  keyword : String
  /-- `limit`, an `int32`. -/
  limit : ℤ
  deriving DecidableEq, Repr

/-- `im.group.SearchGroupsResponse` and `im.group.GetGroupListResponse`. -/
structure GroupsResponse where
  /-- `base`. -/
  base : BaseResponse
  /-- `groups`. -/
  groups : List ProtoGroup := []
  deriving DecidableEq, Repr

/-- `im.group.GroupExistsResponse`. -/
structure GroupExistsResponse where
  /-- `base`. -/
  base : BaseResponse
  /-- `exists`. -/
  found : Bool := false
  deriving DecidableEq, Repr

/-- `im.group.GetGroupMembersResponse`. -/
structure MembersResponse where
  /-- `base`. -/
  base : BaseResponse
  /-- `members`. -/
  members : List ProtoMember := []
  deriving DecidableEq, Repr

/-- `im.group.SendGroupMessageRequest`, with `from_uid` and `timestamp` of its header. -/
structure SendGroupMessageRpc where
  /-- `header.from_uid`. -/
  fromUid : String
  /-- `header.timestamp`, a `uint64`. -/
  timestamp : ℕ
  /-- `group_id`. -/
  groupId : ℕ
  /-- `content`. -/
  content : String
  /-- `create_time`. -/
  createTime : ℤ
  deriving DecidableEq, Repr

/-- `im.group.SendGroupMessageResponse`. -/
structure SendGroupMessageResponse where
  /-- `base`. -/
  base : BaseResponse
  /-- `message`. -/
  message : ProtoGroupMessage := {}
  deriving DecidableEq, Repr

/-- `im.group.GetGroupMessagesRequest`, with `from_uid` of its header. -/
structure GroupMessagesRpc where
  /-- `header.from_uid`. -/
  fromUid : String
  /-- `group_id`. -/
  groupId : String := ""
  /-- `since`. -/
  since : ℤ
  /-- `limit`, an `int32`. -/
  limit : ℤ
  /-- `group_record_id`. -/
  groupRecordId : ℕ
  deriving DecidableEq, Repr

/-- `im.group.GetGroupMessagesResponse`. -/
structure GroupMessagesResponse where
  /-- `base`. -/
  base : BaseResponse
  /-- `messages`. -/
  messages : List ProtoGroupMessage := []
  deriving DecidableEq, Repr

/-! ## `GroupGrpcService` -/

namespace GroupGrpcService

/-- `group_error_code`. -/
def groupErrorCode (errorCode : String) : ErrorCode :=
  if errorCode = "EMPTY_NAME" ∨ errorCode = "EMPTY_CREATOR" ∨ errorCode = "EMPTY_UID" ∨
      errorCode = "EMPTY_SENDER" ∨ errorCode = "INVALID_GROUP" then .paramError
  else if errorCode = "GROUP_NOT_FOUND" ∨ errorCode = "CREATOR_NOT_FOUND" ∨
      errorCode = "USER_NOT_FOUND" then .notFound
  else if errorCode = "ALREADY_MEMBER" then .alreadyExists
  else if errorCode = "NOT_MEMBER" ∨ errorCode = "OWNER_CANNOT_LEAVE" ∨ errorCode = "FORBIDDEN" then
    .permissionDenied
  else .serverError

/-- `group_id_from`. -/
def groupIdFrom (groupId : String) (groupRecordId : ℕ) : ℕ :=
  if groupRecordId ≠ 0 then groupRecordId
  else if groupId = "" then 0
  else (stoull groupId).getD 0

/-- `fill_group_info`. -/
def fillGroupInfo (dto : GroupInfo) : ProtoGroup where
  groupId := toString dto.groupId
  groupRecordId := dto.groupId
  name := dto.name
  ownerUid := dto.creatorUid
  createTime := dto.createdAt
  memberCount := dto.memberCount

/-- `fill_member_info`. -/
def fillMemberInfo (dto : MemberInfo) : ProtoMember where
  uid := dto.userUid
  role := toProtoRole dto.role
  nickname := dto.nickname
  joinTime := dto.joinedAt
  memberRecordId := dto.id

/-- `fill_group_message`. -/
def fillGroupMessage (groupId : ℕ) (dto : GroupMessageInfo) : ProtoGroupMessage where
  msgId := dto.msgId
  groupId := groupId
  senderUid := dto.senderUid
  senderNickname := dto.senderNickname
  content := dto.content
  createTime := dto.createdAt

/-- `CreateGroup`; `now` is `now_ms()` of the server. -/
def createGroup (now : ℤ) (request : CreateGroupRpc) : Program CreateGroupResponse := do
  match ← GroupService.createGroup now
      ⟨request.name, request.fromUid, headerTime now request.timestamp⟩ with
  | .error (code, message) => return { base := ⟨groupErrorCode code, message⟩ }
  | .ok created =>
    let groups ← GroupService.listMyGroups request.fromUid
    return { base := .ok
             group := ((groups.find? fun group => group.groupId = created.groupId).map
               fillGroupInfo).getD {}
             groupId := created.groupId }

/-- The end of `JoinGroup` and `LeaveGroup`: the response to the service's result. -/
def respond : GroupResult → BaseResponse
  | .error (code, message) => ⟨groupErrorCode code, message⟩
  | .ok _ => .ok

/-- `JoinGroup`. -/
def joinGroup (now : ℤ) (request : JoinGroupRpc) : Program BaseResponse := do
  if request.groupId = 0 ∨ request.fromUid = "" then
    return ⟨.paramError, "group_id and from_uid are required"⟩
  else
    return respond (← GroupService.joinGroup now request.groupId request.fromUid
      (headerTime now request.timestamp))

/-- `LeaveGroup`. -/
def leaveGroup (groupId : ℕ) (fromUid : String) : Program BaseResponse := do
  if groupId = 0 ∨ fromUid = "" then
    return ⟨.paramError, "group_id and from_uid are required"⟩
  else return respond (← GroupService.leaveGroup groupId fromUid)

/-- `GetGroupInfo`. -/
def getGroupInfo (request : GroupRpc) : Program GroupInfoResponse := do
  let groupId := groupIdFrom request.groupId request.groupRecordId
  if groupId = 0 then return { base := ⟨.paramError, "group_id is required"⟩ }
  else
    match ← GroupService.getGroupInfo groupId with
    | none => return { base := ⟨.notFound, "Group not found"⟩ }
    | some group =>
      if request.fromUid = "" then return { base := .ok, group := fillGroupInfo group }
      else
        let members ← GroupService.listMembers groupId request.fromUid
        return { base := .ok
                 group := fillGroupInfo group
                 members := members.map fillMemberInfo
                 joined := !members.isEmpty }

/-- `SearchGroups`. -/
def searchGroups (request : SearchGroupsRpc) : Program GroupsResponse := do
  if request.keyword = "" then return { base := ⟨.paramError, "keyword is required"⟩ }
  else
    let limit := if request.limit > 0 then request.limit.toNat else 20
    let groups ← GroupService.searchGroups request.keyword limit
    return { base := .ok, groups := groups.map fillGroupInfo }

/-- `GroupExists`. -/
def groupExists (groupId : ℕ) : Program GroupExistsResponse := do
  if groupId = 0 then return { base := ⟨.paramError, "group_id is required"⟩ }
  else return { base := .ok, found := ← GroupService.groupExists groupId }

/-- `ListMyGroups`. -/
def listMyGroups (fromUid : String) : Program GroupsResponse := do
  if fromUid = "" then return { base := ⟨.paramError, "from_uid is required"⟩ }
  else
    let groups ← GroupService.listMyGroups fromUid
    return { base := .ok, groups := groups.map fillGroupInfo }

/-- `ListMembers`. -/
def listMembers (request : GroupRpc) : Program MembersResponse := do
  let groupId := groupIdFrom request.groupId request.groupRecordId
  if groupId = 0 ∨ request.fromUid = "" then
    return { base := ⟨.paramError, "group_id and from_uid are required"⟩ }
  else
    let found ← GroupService.groupExists groupId
    if !found then return { base := ⟨.notFound, "Group not found"⟩ }
    else
      let members ← GroupService.listMembers groupId request.fromUid
      if members = [] then return { base := ⟨.permissionDenied, "Not a member of this group"⟩ }
      else return { base := .ok, members := members.map fillMemberInfo }

/-- `SendGroupMessage`. -/
def sendGroupMessage (now : ℤ) (request : SendGroupMessageRpc) :
    Program SendGroupMessageResponse := do
  if request.groupId = 0 ∨ request.fromUid = "" ∨ request.content = "" then
    return { base := ⟨.paramError, "group_id, from_uid, and content are required"⟩ }
  else
    let sentAt :=
      if request.createTime > 0 then request.createTime else headerTime now request.timestamp
    match ← GroupMessageService.sendMessage request.groupId request.fromUid request.content
        sentAt with
    | .error (code, message) => return { base := ⟨groupErrorCode code, message⟩ }
    | .ok msgId =>
      -- The message is read back as the newest of the group.
      let messages ← GroupMessageService.getHistory request.groupId (sentAt + 1) 1
      match messages.head? with
      | some message => return { base := .ok, message := fillGroupMessage request.groupId message }
      | none =>
        return { base := .ok
                 message :=
                   { msgId := msgId
                     groupId := request.groupId
                     senderUid := request.fromUid
                     content := request.content
                     createTime := sentAt } }

/-- `GetGroupMessages`. -/
def getGroupMessages (now : ℤ) (request : GroupMessagesRpc) : Program GroupMessagesResponse := do
  let groupId := groupIdFrom request.groupId request.groupRecordId
  if groupId = 0 ∨ request.fromUid = "" then
    return { base := ⟨.paramError, "group_id and from_uid are required"⟩ }
  else
    let found ← GroupService.groupExists groupId
    if !found then return { base := ⟨.notFound, "Group not found"⟩ }
    else
      let members ← GroupService.listMembers groupId request.fromUid
      if members = [] then return { base := ⟨.permissionDenied, "Not a member of this group"⟩ }
      else
        let limit := if request.limit > 0 then request.limit else 50
        let before := if request.since > 0 then request.since else now
        let messages ← GroupMessageService.getHistory groupId before limit
        return { base := .ok, messages := messages.map (fillGroupMessage groupId) }

end GroupGrpcService

/-! ## `RemoteGroupClient` -/

namespace RemoteGroupClient

/-- `to_group_info`. -/
def toGroupInfo (info : ProtoGroup) : GroupInfo where
  groupId :=
    if info.groupRecordId ≠ 0 then info.groupRecordId
    else if info.groupId = "" then 0
    else (stoull info.groupId).getD 0
  name := info.name
  creatorUid := info.ownerUid
  createdAt := info.createTime
  memberCount := info.memberCount

/-- `to_member_info`. -/
def toMemberInfo (info : ProtoMember) : MemberInfo where
  id := info.memberRecordId
  userUid := info.uid
  nickname := info.nickname
  role := toServiceRole info.role
  joinedAt := info.joinTime

/-- `to_group_message`. -/
def toGroupMessage (message : ProtoGroupMessage) : GroupMessageInfo where
  msgId := message.msgId
  senderUid := message.senderUid
  senderNickname := message.senderNickname
  content := message.content
  createdAt := message.createTime

/-- `group_error_code`. -/
def groupErrorCode : ErrorCode → String
  | .paramError => "PARAM_ERROR"
  | .notFound => "GROUP_NOT_FOUND"
  | .alreadyExists => "ALREADY_MEMBER"
  | .permissionDenied => "NOT_MEMBER"
  | .serverError => "REMOTE_GROUP_SERVER_ERROR"
  | _ => "REMOTE_GROUP_ERROR"

/-- The end of the calls that return a result, which is `value` for a success. -/
def ofBase {α : Type} (value : α) (base : BaseResponse) : Except (String × String) α :=
  if base.errorCode ≠ .success then .error (groupErrorCode base.errorCode, base.errorMessage)
  else .ok value

/-- The end of the calls that return a list. -/
def ofList {α β : Type} (f : α → β) (base : BaseResponse) (items : List α) : List β :=
  if base.errorCode ≠ .success then [] else items.map f

/-- `create_group`. -/
def createGroup (now : ℤ) (request : CreateGroupRequest) : Program GroupResult := do
  let response ← GroupGrpcService.createGroup now
    ⟨request.creatorUid, toUint64 request.nowMs, request.name⟩
  return ofBase ⟨"Group created", response.groupId⟩ response.base

/-- `join_group`. -/
def joinGroup (now : ℤ) (groupId : ℕ) (userUid : String) (nowMs : ℤ) : Program GroupResult := do
  let base ← GroupGrpcService.joinGroup now ⟨userUid, toUint64 nowMs, groupId⟩
  return ofBase ⟨"Joined group", groupId⟩ base

/-- `leave_group`. -/
def leaveGroup (groupId : ℕ) (userUid : String) : Program GroupResult := do
  let base ← GroupGrpcService.leaveGroup groupId userUid
  return ofBase ⟨"Left group", groupId⟩ base

/-- `list_my_groups`. -/
def listMyGroups (userUid : String) : Program (List GroupInfo) := do
  let response ← GroupGrpcService.listMyGroups userUid
  return ofList toGroupInfo response.base response.groups

/-- `get_group_info`. -/
def getGroupInfo (groupId : ℕ) : Program (Option GroupInfo) := do
  if groupId = 0 then return none
  else
    let response ← GroupGrpcService.getGroupInfo { groupRecordId := groupId }
    if response.base.errorCode ≠ .success then return none
    else return some (toGroupInfo response.group)

/-- `search_groups`. -/
def searchGroups (keyword : String) (limit : ℕ) : Program (List GroupInfo) := do
  if keyword = "" ∨ limit = 0 then return []
  else
    let response ← GroupGrpcService.searchGroups ⟨keyword, toInt32 limit⟩
    return ofList toGroupInfo response.base response.groups

/-- `group_exists`. -/
def groupExists (groupId : ℕ) : Program Bool := do
  let response ← GroupGrpcService.groupExists groupId
  return response.base.errorCode = .success && response.found

/-- `list_members`. -/
def listMembers (groupId : ℕ) (callerUid : String) : Program (List MemberInfo) := do
  let response ← GroupGrpcService.listMembers { fromUid := callerUid, groupRecordId := groupId }
  return ofList toMemberInfo response.base response.members

/-- `send_message`. -/
def sendMessage (now : ℤ) (groupId : ℕ) (senderUid content : String) (nowMs : ℤ) :
    Program GroupSendResult := do
  let response ← GroupGrpcService.sendGroupMessage now
    ⟨senderUid, toUint64 nowMs, groupId, content, nowMs⟩
  return ofBase ⟨messageSent, response.message.msgId⟩ response.base

/-- `get_history`. -/
def getHistory (now : ℤ) (groupId : ℕ) (callerUid : String) (beforeTime limit : ℤ) :
    Program (List GroupMessageInfo) := do
  let response ← GroupGrpcService.getGroupMessages now
    { fromUid := callerUid, groupRecordId := groupId, since := beforeTime, limit := limit }
  return ofList toGroupMessage response.base response.messages

end RemoteGroupClient

/-- `RemoteGroupClient`; `now` is `now_ms()` of the server. -/
def remoteGroupClient (now : ℤ) : GroupClient where
  createGroup := RemoteGroupClient.createGroup now
  joinGroup := RemoteGroupClient.joinGroup now
  leaveGroup := RemoteGroupClient.leaveGroup
  listMyGroups := RemoteGroupClient.listMyGroups
  getGroupInfo := RemoteGroupClient.getGroupInfo
  searchGroups := RemoteGroupClient.searchGroups
  groupExists := RemoteGroupClient.groupExists
  listMembers := RemoteGroupClient.listMembers
  sendMessage := RemoteGroupClient.sendMessage now
  getHistory := RemoteGroupClient.getHistory now

/-! ## To the server and back -/

/-- A group that has a time is created at it, whatever the clock of the service. -/
theorem GroupService.createGroup_now (now now' : ℤ) {request : CreateGroupRequest}
    (hpos : 0 < request.nowMs) : createGroup now request = createGroup now' request := by
  have htime : ∀ t : ℤ, (if request.nowMs > 0 then request.nowMs else t) = request.nowMs :=
    fun _ => if_pos hpos
  unfold createGroup
  rw [htime, htime]

/-- A member that has a time joins at it. -/
theorem GroupService.joinGroup_now (now now' : ℤ) (groupId : ℕ) (userUid : String) {t : ℤ}
    (hpos : 0 < t) : joinGroup now groupId userUid t = joinGroup now' groupId userUid t := by
  have htime : ∀ now : ℤ, (if t > 0 then t else now) = t := fun _ => if_pos hpos
  unfold joinGroup
  rw [htime, htime]

namespace RemoteGroupClient

open GroupGrpcService (fillGroupInfo fillMemberInfo fillGroupMessage groupIdFrom respond)

/-- A group comes back from the wire as it was: no id is written as the number zero. -/
theorem toGroupInfo_fillGroupInfo (info : GroupInfo) : toGroupInfo (fillGroupInfo info) = info := by
  have hid : (if info.groupId ≠ 0 then info.groupId
      else if toString info.groupId = "" then 0
      else (stoull (toString info.groupId)).getD 0) = info.groupId := by
    by_cases h : info.groupId = 0
    · rw [h, if_neg (by decide), if_neg (by decide), stoull_toString (by decide)]
      rfl
    · exact if_pos h
  unfold toGroupInfo fillGroupInfo
  rw [hid]

/-- So does a member. -/
theorem toMemberInfo_fillMemberInfo (info : MemberInfo) :
    toMemberInfo (fillMemberInfo info) = info := by
  unfold toMemberInfo fillMemberInfo
  rw [toServiceRole_toProtoRole]

/-- So does a message. -/
theorem toGroupMessage_fillGroupMessage (groupId : ℕ) (info : GroupMessageInfo) :
    toGroupMessage (fillGroupMessage groupId info) = info := rfl

/-- A list comes back as it was, when each of its items does. -/
theorem ofList_map {α β : Type} {f : α → β} {fill : β → α} (h : ∀ b, f (fill b) = b) (l : List β) :
    ofList f .ok (l.map fill) = l :=
  map_back fun b _ => h b

/-- The server takes the number of a group that has no text. -/
@[simp] theorem groupIdFrom_empty (groupId : ℕ) : groupIdFrom "" groupId = groupId := by
  unfold groupIdFrom
  by_cases h : groupId = 0
  · rw [h]
    rfl
  · rw [if_pos h]

/-- No error is mapped to `SUCCESS`. -/
theorem groupErrorCode_ne_success (errorCode : String) :
    GroupGrpcService.groupErrorCode errorCode ≠ .success := by
  unfold GroupGrpcService.groupErrorCode
  split_ifs <;> decide

/-- What the remote client makes of a result of the service. -/
def remoteResult {α β : Type} (f : α → β) :
    Except (String × String) α → Except (String × String) β
  | .error (code, text) => .error (groupErrorCode (GroupGrpcService.groupErrorCode code), text)
  | .ok a => .ok (f a)

/-- An error that comes back. -/
theorem ofBase_error {α β : Type} (f : α → β) (value : β) (code text : String) :
    ofBase value ⟨GroupGrpcService.groupErrorCode code, text⟩ =
      remoteResult f (.error (code, text)) :=
  if_pos (groupErrorCode_ne_success code)

/-- A result that comes back. -/
theorem ofBase_respond (value : GroupDone) (answer : GroupResult) :
    ofBase value (respond answer) = remoteResult (fun _ => value) answer := by
  cases answer with
  | error error => exact ofBase_error _ value error.1 error.2
  | ok done => rfl

variable {tx : Command → Tx} {s : Stores}

/-- `create_group` has the service's result: the groups, which the server reads after it, are not
looked at. -/
theorem result_createGroup (now now' : ℤ) {request : CreateGroupRequest} (hpos : 0 < request.nowMs)
    (hmax : request.nowMs ≤ int64Max) :
    result tx s (createGroup now' request) =
      remoteResult (fun done => ⟨"Group created", done.groupId⟩)
        (result tx s (GroupService.createGroup now request)) := by
  unfold createGroup GroupGrpcService.createGroup
  rw [headerTime_toUint64 now' hpos hmax, GroupService.createGroup_now now now' hpos,
    result_bind_pure, result_bind]
  rcases result tx s (GroupService.createGroup now' request) with ⟨code, text⟩ | done
  · exact ofBase_error _ _ code text
  · dsimp only
    rw [result_bind_pure]
    rfl

/-- `join_group` refuses no uid. -/
theorem joinGroup_empty (now : ℤ) (groupId : ℕ) (t : ℤ) :
    joinGroup now groupId "" t =
      pure (.error ("PARAM_ERROR", "group_id and from_uid are required")) := by
  simp [joinGroup, GroupGrpcService.joinGroup, ofBase, groupErrorCode]

/-- `join_group` is the service's. -/
theorem joinGroup_eq (now now' : ℤ) {groupId : ℕ} {userUid : String} {t : ℤ} (hid : groupId ≠ 0)
    (huid : userUid ≠ "") (hpos : 0 < t) (hmax : t ≤ int64Max) :
    joinGroup now' groupId userUid t = do
      return remoteResult (fun _ => ⟨"Joined group", groupId⟩)
        (← GroupService.joinGroup now groupId userUid t) := by
  unfold joinGroup GroupGrpcService.joinGroup
  rw [headerTime_toUint64 now' hpos hmax, GroupService.joinGroup_now now now' groupId userUid hpos]
  simp only [hid, huid, or_self, if_false, CommandProgram.bind_assoc, pure_eq, done_bind,
    ofBase_respond]

/-- `leave_group` refuses no uid. -/
theorem leaveGroup_empty (groupId : ℕ) :
    leaveGroup groupId "" =
      pure (.error ("PARAM_ERROR", "group_id and from_uid are required")) := by
  simp [leaveGroup, GroupGrpcService.leaveGroup, ofBase, groupErrorCode]

/-- `leave_group` is the service's. -/
theorem leaveGroup_eq {groupId : ℕ} {userUid : String} (hid : groupId ≠ 0) (huid : userUid ≠ "") :
    leaveGroup groupId userUid = do
      return remoteResult (fun _ => ⟨"Left group", groupId⟩)
        (← GroupService.leaveGroup groupId userUid) := by
  unfold leaveGroup GroupGrpcService.leaveGroup
  simp only [hid, huid, or_self, if_false, CommandProgram.bind_assoc, pure_eq, done_bind,
    ofBase_respond]

/-- `list_my_groups` finds nothing for no uid. -/
theorem listMyGroups_empty : listMyGroups "" = pure [] := rfl

/-- For a uid it is the service's. -/
theorem listMyGroups_eq {userUid : String} (huid : userUid ≠ "") :
    listMyGroups userUid = GroupService.listMyGroups userUid := by
  unfold listMyGroups GroupGrpcService.listMyGroups
  simp only [huid, if_false, CommandProgram.bind_assoc, pure_eq, done_bind,
    ofList_map toGroupInfo_fillGroupInfo, bind_done]

/-- `get_group_info` finds nothing for no group. -/
theorem getGroupInfo_zero : getGroupInfo 0 = pure none := rfl

/-- For a group it is the service's. -/
theorem getGroupInfo_eq {groupId : ℕ} (hid : groupId ≠ 0) :
    getGroupInfo groupId = GroupService.getGroupInfo groupId := by
  unfold getGroupInfo GroupGrpcService.getGroupInfo
  simp only [hid, if_false, groupIdFrom_empty, CommandProgram.bind_assoc]
  refine Eq.trans (congrArg _ (funext fun group => ?_)) (bind_done _)
  cases group with
  | none => rfl
  | some group => exact congrArg (fun info => done (some info)) (toGroupInfo_fillGroupInfo group)

/-- `search_groups` is the service's, on a keyword and a limit that an `int32` holds. -/
theorem searchGroups_eq {keyword : String} {limit : ℕ} (hkeyword : keyword ≠ "") (hpos : 0 < limit)
    (hmax : limit < 2 ^ 31) :
    searchGroups keyword limit = GroupService.searchGroups keyword limit := by
  have hlimit : toInt32 limit = limit := by
    unfold toInt32
    rw [Int.bmod_def]
    omega
  have hne : limit ≠ 0 := by omega
  have hpos' : (limit : ℤ) > 0 := by omega
  unfold searchGroups GroupGrpcService.searchGroups
  simp only [hkeyword, hne, or_self, if_false, hlimit, if_pos hpos', Int.toNat_natCast,
    CommandProgram.bind_assoc, pure_eq, done_bind, ofList_map toGroupInfo_fillGroupInfo, bind_done]

/-- For a group it is the service's. -/
theorem groupExists_eq {groupId : ℕ} (hid : groupId ≠ 0) :
    groupExists groupId = GroupService.groupExists groupId := by
  unfold groupExists GroupGrpcService.groupExists
  simp only [hid, if_false, CommandProgram.bind_assoc, pure_eq, done_bind]
  exact bind_done _

theorem reads_groupExists (groupId : ℕ) : Reads (serve tx) (groupExists groupId) := by
  by_cases hid : groupId = 0
  · rw [hid]
    exact reads_done _
  · rw [groupExists_eq hid]
    exact GroupService.reads_groupExists groupId

/-- `group_exists` finds no group without an id, and else what the service finds. -/
theorem result_groupExists (groupId : ℕ) :
    result tx s (groupExists groupId) =
      if groupId = 0 then false else result tx s (GroupService.groupExists groupId) := by
  split_ifs with hid
  · rw [hid]
    rfl
  · rw [groupExists_eq hid]

theorem reads_listMembers (groupId : ℕ) (callerUid : String) :
    Reads (serve tx) (listMembers groupId callerUid) := by
  unfold listMembers GroupGrpcService.listMembers
  refine Reads.bind ?_ fun _ => reads_done _
  dsimp only
  split_ifs
  · exact reads_done _
  · refine (GroupService.reads_groupExists _).bind fun found => ?_
    split_ifs
    · exact reads_done _
    · refine (GroupService.reads_listMembers _ _).bind fun members => ?_
      split_ifs <;> exact reads_done _

/-- `list_members` finds nothing for no group or no uid, and else what the service finds. -/
theorem result_listMembers (groupId : ℕ) (callerUid : String) :
    result tx s (listMembers groupId callerUid) =
      if groupId = 0 ∨ callerUid = "" then []
      else result tx s (GroupService.listMembers groupId callerUid) := by
  unfold listMembers GroupGrpcService.listMembers
  rw [result_bind_pure, groupIdFrom_empty]
  dsimp only
  split_ifs with hrefused
  · rfl
  · rw [result_bind_of_reads (GroupService.reads_groupExists groupId)]
    cases hfound : result tx s (GroupService.groupExists groupId) with
    | false => exact (GroupService.listMembers_of_not_exists callerUid hfound).symm
    | true =>
      rw [Bool.not_true, if_neg Bool.false_ne_true,
        result_bind_of_reads (GroupService.reads_listMembers groupId callerUid)]
      split_ifs with hmembers
      · exact hmembers.symm
      · exact ofList_map toMemberInfo_fillMemberInfo _

/-- The id that the client gets of a message: that of the first message that the server read
back. -/
def sentId (messages : List GroupMessageInfo) (msgId : ℕ) : ℕ :=
  (messages.head?.map GroupMessageInfo.msgId).getD msgId

/-- `send_message` has the service's result, but for the id of the message. -/
theorem result_sendMessage (now : ℤ) {groupId : ℕ} {senderUid content : String} {t : ℤ}
    (hid : groupId ≠ 0) (huid : senderUid ≠ "") (hcontent : content ≠ "") (hpos : 0 < t) :
    let sent := GroupMessageService.sendMessage groupId senderUid content t
    result tx s (sendMessage now groupId senderUid content t) =
      remoteResult (fun msgId => ⟨messageSent, sentId (result tx (after tx s sent)
        (GroupMessageService.getHistory groupId (t + 1) 1)) msgId⟩) (result tx s sent) := by
  intro sent
  have hfields : ¬ (groupId = 0 ∨ senderUid = "" ∨ content = "") := by
    rw [not_or, not_or]
    exact ⟨hid, huid, hcontent⟩
  unfold sendMessage GroupGrpcService.sendGroupMessage
  rw [result_bind_pure, if_neg hfields]
  dsimp only
  rw [if_pos hpos, result_bind]
  rcases result tx s sent with ⟨code, text⟩ | msgId
  · exact ofBase_error _ _ code text
  · dsimp only
    rw [result_bind]
    cases result tx (after tx s sent) (GroupMessageService.getHistory groupId (t + 1) 1) with
    | nil => rfl
    | cons message messages => rfl

/-- `get_history` finds, for a member, what the service finds before the same time, or before the
server's time when there is none. -/
theorem result_getHistory (now : ℤ) {groupId : ℕ} {callerUid : String} (beforeTime : ℤ) {limit : ℤ}
    (hid : groupId ≠ 0) (huid : callerUid ≠ "")
    (hfound : result tx s (GroupService.groupExists groupId) = true)
    (hmember : result tx s (GroupService.listMembers groupId callerUid) ≠ []) (hlimit : 0 < limit) :
    result tx s (getHistory now groupId callerUid beforeTime limit) =
      result tx s (GroupMessageService.getHistory groupId
        (if beforeTime > 0 then beforeTime else now) limit) := by
  have hfields : ¬ (groupId = 0 ∨ callerUid = "") := by
    rw [not_or]
    exact ⟨hid, huid⟩
  unfold getHistory GroupGrpcService.getGroupMessages
  rw [result_bind_pure, groupIdFrom_empty]
  dsimp only
  rw [if_neg hfields, result_bind_of_reads (GroupService.reads_groupExists groupId), hfound,
    Bool.not_true, if_neg Bool.false_ne_true,
    result_bind_of_reads (GroupService.reads_listMembers groupId callerUid), if_neg hmember,
    if_pos hlimit, result_bind_pure]
  exact ofList_map (toGroupMessage_fillGroupMessage groupId) _

end RemoteGroupClient

end MyChat.Social
