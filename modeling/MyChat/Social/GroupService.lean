import MyChat.Rpc.Base
import MyChat.Social.UserService

/-!
# `GroupService` and `GroupMessageService`

The functions of `services/group/group_service.cpp` and `services/group/group_message_service.cpp`,
and those of the group repository that take several transactions, as programs over transactions.
-/

namespace MyChat.Social

open Rpc Chat

/-- `CreateGroupRequest`. -/
structure CreateGroupRequest where
  /-- `name`. -/
  name : String
  /-- `creator_uid`. -/
  creatorUid : String
  /-- `now_ms`. -/
  nowMs : ℤ
  deriving DecidableEq, Repr

/-- What a `GroupResult` holds on success. -/
structure GroupDone where
  /-- `message`. -/
  message : String
  /-- `group_id`. -/
  groupId : ℕ
  deriving DecidableEq, Repr

/-- `GroupResult`: a success, or an error code and its text. -/
abbrev GroupResult := Except (String × String) GroupDone

/-- `GroupInfoDTO`. -/
structure GroupInfo where
  /-- `group_id`. -/
  groupId : ℕ
  /-- `name`. -/
  name : String
  /-- `creator_uid`. -/
  creatorUid : String
  /-- `created_at`. -/
  createdAt : ℤ
  /-- `member_count`. -/
  memberCount : ℤ
  deriving DecidableEq, Repr

/-- `MemberInfoDTO`. -/
structure MemberInfo where
  /-- `id`. -/
  id : ℕ
  /-- `user_uid`. -/
  userUid : String
  /-- `nickname`. -/
  nickname : String
  /-- `role`. -/
  role : GroupRole
  /-- `joined_at`. -/
  joinedAt : ℤ
  deriving DecidableEq, Repr

/-- `GroupMessageDTO`. -/
structure GroupMessageInfo where
  /-- `msg_id`. -/
  msgId : ℕ
  /-- `sender_uid`. -/
  senderUid : String
  /-- `sender_nickname`. -/
  senderNickname : String
  /-- `content`. -/
  content : String
  /-- `created_at`. -/
  createdAt : ℤ
  deriving DecidableEq, Repr

namespace GroupRepository

/-- `find_groups_by_user`: the groups are loaded one by one, and those that are not found are left
out. -/
def findGroupsByUser (userUid : String) : Program (List (ℕ × Group)) := do
  match ← query (.findGroupIds userUid) with
  | none => return []
  | some ids =>
    let groups ← ids.mapM fun id => do
      return (← query (.findGroupById id)).map fun g => (id, g)
    return groups.filterMap id

/-- `search_groups`: a keyword that is a number is tried as an id first. -/
def searchGroups (keyword : String) (limit : ℕ) : Program (List (ℕ × Group)) := do
  if keyword = "" ∨ limit = 0 then return []
  else
    match stoull keyword with
    | none => query (.searchByName keyword limit)
    | some id =>
      match ← query (.findGroupById id) with
      | some g => return [(id, g)]
      | none => query (.searchByName keyword limit)

end GroupRepository

namespace GroupService

open GroupRepository

/-- `create_group`; `now` is `now_ms()`, for a request that has no time. -/
def createGroup (now : ℤ) (request : CreateGroupRequest) : Program GroupResult := do
  if request.name = "" then return .error ("EMPTY_NAME", "Group name must not be empty")
  else if request.creatorUid = "" then
    return .error ("EMPTY_CREATOR", "Creator UID must not be empty")
  else
    let creator ← UserService.getProfileByUid request.creatorUid
    if creator.isNone then return .error ("CREATOR_NOT_FOUND", "Creator user does not exist")
    else
      let t := if request.nowMs > 0 then request.nowMs else now
      let created ← query (.createGroupWithOwner ⟨request.name, request.creatorUid, t⟩
        ⟨0, request.creatorUid, .owner, t⟩)
      match created with
      | none => return .error ("PERSIST_FAILED", "Failed to persist group with owner")
      | some groupId => return .ok ⟨"Group created", groupId⟩

/-- `join_group`; `now` is `now_ms()`, for a call that has no time. -/
def joinGroup (now : ℤ) (groupId : ℕ) (userUid : String) (t : ℤ) : Program GroupResult := do
  let group ← query (.findGroupById groupId)
  if group.isNone then return .error ("GROUP_NOT_FOUND", "Group not found")
  else if userUid = "" then return .error ("EMPTY_UID", "User UID must not be empty")
  else
    let user ← UserService.getProfileByUid userUid
    if user.isNone then return .error ("USER_NOT_FOUND", "User does not exist")
    else
      let existing ← query (.findMember groupId userUid)
      if existing.isSome then
        return .error ("ALREADY_MEMBER", "User is already a member of this group")
      else
        let added ← query (.addMember ⟨groupId, userUid, .member, if t > 0 then t else now⟩)
        if added then return .ok ⟨"Joined group", 0⟩
        else return .error ("PERSIST_FAILED", "Failed to add member")

/-- `leave_group`. -/
def leaveGroup (groupId : ℕ) (userUid : String) : Program GroupResult := do
  let group ← query (.findGroupById groupId)
  if group.isNone then return .error ("GROUP_NOT_FOUND", "Group not found")
  else
    match ← query (.findMember groupId userUid) with
    | none => return .error ("NOT_MEMBER", "User is not a member of this group")
    | some row =>
      if row.2.role = .owner then
        return .error ("OWNER_CANNOT_LEAVE",
          "Owner cannot leave the group; transfer ownership first")
      else
        let removed ← query (.removeMember groupId userUid)
        if removed then return .ok ⟨"Left group", 0⟩
        else return .error ("REMOVE_FAILED", "Failed to remove member")

/-- The `GroupInfoDTO` of a group, with its members counted. -/
def toGroupInfo (row : ℕ × Group) : Program GroupInfo := do
  let members ← query (.findMembers row.1)
  return ⟨row.1, row.2.name, row.2.creatorUid, row.2.createdAt,
    (members.length : ℤ).bmod (2 ^ 32)⟩

/-- `list_my_groups`. -/
def listMyGroups (userUid : String) : Program (List GroupInfo) := do
  (← findGroupsByUser userUid).mapM toGroupInfo

/-- `get_group_info`. -/
def getGroupInfo (groupId : ℕ) : Program (Option GroupInfo) := do
  match ← query (.findGroupById groupId) with
  | none => return none
  | some g => return some (← toGroupInfo (groupId, g))

/-- `search_groups`. -/
def searchGroups (keyword : String) (limit : ℕ) : Program (List GroupInfo) := do
  (← GroupRepository.searchGroups keyword limit).mapM toGroupInfo

/-- `group_exists`. -/
def groupExists (groupId : ℕ) : Program Bool := do
  return (← query (.findGroupById groupId)).isSome

/-- `resolve_nickname`, also that of `GroupMessageService`. -/
def resolveNickname (uid : String) : Program String := do
  match ← UserService.getProfileByUid uid with
  | some profile => return profile.nickname
  | none => return uid

/-- `list_members`. -/
def listMembers (groupId : ℕ) (callerUid : String) : Program (List MemberInfo) := do
  let group ← query (.findGroupById groupId)
  if group.isNone then return []
  else
    let caller ← query (.findMember groupId callerUid)
    if caller.isNone then return []
    else
      (← query (.findMembers groupId)).mapM fun row => do
        let nickname ← resolveNickname row.2.userUid
        return ⟨row.1, row.2.userUid, nickname, row.2.role, row.2.joinedAt⟩

end GroupService

namespace GroupMessageService

/-- `send_message`: the id of the message, or an error code and its text. -/
def sendMessage (groupId : ℕ) (senderUid content : String) (nowMs : ℤ) :
    Program (Except (String × String) ℕ) := do
  if groupId = 0 then return .error ("INVALID_GROUP", "Invalid group id")
  else if senderUid = "" then return .error ("EMPTY_SENDER", "Sender uid is empty")
  else
    let found ← GroupService.groupExists groupId
    if !found then return .error ("GROUP_NOT_FOUND", "Group not found")
    else
      let members ← GroupService.listMembers groupId senderUid
      if members = [] then return .error ("FORBIDDEN", "Not a member of this group")
      else
        match ← query (.createGroupMessage ⟨groupId, senderUid, content, nowMs⟩) with
        | none => return .error ("STORE_FAILED", "Failed to store message")
        | some id => return .ok id

/-- `get_history`. -/
def getHistory (groupId : ℕ) (beforeTime limit : ℤ) : Program (List GroupMessageInfo) := do
  (← query (.findByGroup groupId beforeTime limit)).mapM fun row => do
    let nickname ← GroupService.resolveNickname row.2.senderUid
    return ⟨row.1, row.2.senderUid, nickname, row.2.content, row.2.createdAt⟩

end GroupMessageService

end MyChat.Social
