import MyChat.Social.FriendService
import MyChat.Social.GroupService

/-!
# The handlers of friends and groups

`FriendHttpController`, `GroupHttpController`, and `GroupMessageHttpController` of `gateway/http`.
They reach the services through a `FriendClient` and a `GroupClient`; the local ones, which call the
services in the gateway's own process, are here. The fan-out of a group message to its members comes
after the response is settled, and is left to the push notifier.

Every handler begins with the same check of the token, so that a `SocialCall` is what a handler does
for a user.
-/

namespace MyChat.Social

open Rpc Chat

/-! ## Clients -/

/-- `FriendClient`. -/
structure FriendClient where
  /-- `send_request`. -/
  sendRequest : FriendRequest → Program FriendResult
  /-- `respond_to_request`. -/
  respondToRequest : ℕ → String → Bool → Program FriendResult
  /-- `get_friends`. -/
  getFriends : String → Program (List FriendInfo)
  /-- `get_pending_requests`. -/
  getPendingRequests : String → Program (List FriendInfo)

/-- `LocalFriendClient`; `now` is `now_ms()` of the service. -/
def localFriendClient (now : ℤ) : FriendClient where
  sendRequest := FriendService.sendRequest now
  respondToRequest := FriendService.respondToRequest
  getFriends := FriendService.getFriends
  getPendingRequests := FriendService.getPendingRequests

/-- What a `GroupSendResult` holds on success. -/
structure GroupSent where
  /-- `message`. -/
  message : String
  /-- `msg_id`. -/
  msgId : ℕ
  deriving DecidableEq, Repr

/-- `GroupSendResult`: a success, or an error code and its text. -/
abbrev GroupSendResult := Except (String × String) GroupSent

/-- `GroupClient`. -/
structure GroupClient where
  /-- `create_group`. -/
  createGroup : CreateGroupRequest → Program GroupResult
  /-- `join_group`. -/
  joinGroup : ℕ → String → ℤ → Program GroupResult
  /-- `leave_group`. -/
  leaveGroup : ℕ → String → Program GroupResult
  /-- `list_my_groups`. -/
  listMyGroups : String → Program (List GroupInfo)
  /-- `get_group_info`. -/
  getGroupInfo : ℕ → Program (Option GroupInfo)
  /-- `search_groups`. -/
  searchGroups : String → ℕ → Program (List GroupInfo)
  /-- `group_exists`. -/
  groupExists : ℕ → Program Bool
  /-- `list_members`. -/
  listMembers : ℕ → String → Program (List MemberInfo)
  /-- `send_message`. -/
  sendMessage : ℕ → String → String → ℤ → Program GroupSendResult
  /-- `get_history`. -/
  getHistory : ℕ → String → ℤ → ℤ → Program (List GroupMessageInfo)

/-- The text of a `GroupSendResult` that succeeds. -/
def messageSent : String := "Message sent"

/-- `LocalGroupClient`; `now` is `now_ms()` of the service. -/
def localGroupClient (now : ℤ) : GroupClient where
  createGroup := GroupService.createGroup now
  joinGroup := GroupService.joinGroup now
  leaveGroup := GroupService.leaveGroup
  listMyGroups := GroupService.listMyGroups
  getGroupInfo := GroupService.getGroupInfo
  searchGroups := GroupService.searchGroups
  groupExists := GroupService.groupExists
  listMembers := GroupService.listMembers
  sendMessage groupId senderUid content nowMs := do
    return (← GroupMessageService.sendMessage groupId senderUid content nowMs).map fun msgId =>
      ⟨messageSent, msgId⟩
  -- The caller is not looked at.
  getHistory groupId _ beforeTime limit :=
    GroupMessageService.getHistory groupId beforeTime limit

/-! ## Requests and responses -/

/-- What is asked of a handler, after the token. -/
inductive SocialCall where
  /-- `handle_send_request`, with `target_uid`. -/
  | sendRequest (body : JsonBody String)
  /-- `handle_respond_request`, with `friend_id` and `accept`. -/
  | respondRequest (body : JsonBody (UInt64 × Bool))
  /-- `handle_list_friends`. -/
  | listFriends
  /-- `handle_pending_requests`. -/
  | pendingRequests
  /-- `handle_create_group`, with `name`. -/
  | createGroup (body : JsonBody String)
  /-- `handle_join_group`, with `group_id`. -/
  | joinGroup (body : JsonBody UInt64)
  /-- `handle_leave_group`, with `group_id`. -/
  | leaveGroup (body : JsonBody UInt64)
  /-- `handle_group_info`, with the parameter `group_id`. -/
  | groupInfo (groupId : String)
  /-- `handle_search_groups`, with the parameters `q` and `keyword`. -/
  | searchGroups (q keyword : Option String)
  /-- `handle_list_groups`. -/
  | listGroups
  /-- `handle_list_members`, with the parameter `group_id`. -/
  | listMembers (groupId : String)
  /-- `handle_send_message`, with `group_id` and `content`. -/
  | sendMessage (body : JsonBody (UInt64 × String))
  /-- `handle_get_history`, with the parameters `group_id`, `before`, and `limit`. -/
  | getHistory (groupId : String) (before limit : NumberParam)
  deriving DecidableEq, Repr

/-- A request. -/
structure SocialRequest where
  /-- The `Authorization` header. -/
  authorization : Option String
  /-- What it asks for. -/
  call : SocialCall
  deriving DecidableEq, Repr

/-- The body of a success. -/
inductive SocialBody where
  /-- `message`. -/
  | message (text : String)
  /-- `message` and `group_id`. -/
  | groupCreated (text : String) (groupId : ℕ)
  /-- `friends`. -/
  | friends (friends : List FriendInfo)
  /-- `pending_requests`. -/
  | pendingRequests (requests : List FriendInfo)
  /-- `group`, `joined`, and `members`. -/
  | group (group : GroupInfo) (joined : Bool) (members : List MemberInfo)
  /-- `groups`, each with `joined`, and as `group` the first of them. -/
  | foundGroups (groups : List (GroupInfo × Bool)) (group : Option GroupInfo)
  /-- `groups`. -/
  | groups (groups : List GroupInfo)
  /-- `members`. -/
  | members (members : List MemberInfo)
  /-- `message` and `msg_id`. -/
  | messageSent (text : String) (msgId : ℕ)
  /-- `messages`. -/
  | messages (messages : List GroupMessageInfo)
  deriving DecidableEq, Repr

/-- A response to a call. -/
abbrev SocialResponse := HttpResponse SocialBody

/-- The rest of a handler, once the fields of its body were read. -/
def withBody {α : Type} (body : JsonBody α) (next : α → Program SocialResponse) :
    Program SocialResponse :=
  match body with
  | .invalid => return .failure 400 "Invalid JSON body"
  | .typeError => return .failure 500 "Internal server error"
  | .fields values => next values

/-- The rest of a handler, once its parameter `group_id` was read. -/
def withGroupId (groupId : String) (next : ℕ → Program SocialResponse) : Program SocialResponse :=
  if groupId = "" then return .failure 400 "Missing query parameter: group_id"
  else
    match stoull groupId with
    | none => return .failure 400 "Invalid group_id"
    | some id => next id

/-! ## `FriendHttpController` -/

namespace FriendHttpController

/-- The status of an error of `handle_send_request`. -/
def sendStatus (errorCode : String) : ℕ :=
  if errorCode = "ALREADY_EXISTS" then 409 else if errorCode = "TARGET_NOT_FOUND" then 404 else 400

/-- The status of an error of `handle_respond_request`. -/
def respondStatus (errorCode : String) : ℕ :=
  if errorCode = "NOT_FOUND" then 404 else if errorCode = "FORBIDDEN" then 403 else 400

/-- The response to a result of the friend client. -/
def respond (status : ℕ) (errorStatus : String → ℕ) : FriendResult → SocialResponse
  | .error (code, message) => .failure (errorStatus code) message
  | .ok message => .success status (.message message)

variable (client : FriendClient) (nowMs : ℤ) (uid : String)

/-- `handle_send_request`. -/
def handleSendRequest (body : JsonBody String) : Program SocialResponse :=
  withBody body fun targetUid => do
    if targetUid = "" then return .failure 400 "Missing required field: target_uid"
    else return respond 201 sendStatus (← client.sendRequest ⟨uid, targetUid, nowMs⟩)

/-- `handle_respond_request`. -/
def handleRespondRequest (body : JsonBody (UInt64 × Bool)) : Program SocialResponse :=
  withBody body fun (friendId, accept) => do
    if friendId = 0 then return .failure 400 "Missing required field: friend_id"
    else return respond 200 respondStatus (← client.respondToRequest friendId.toNat uid accept)

/-- `handle_list_friends`. -/
def handleListFriends : Program SocialResponse := do
  return .success 200 (.friends (← client.getFriends uid))

/-- `handle_pending_requests`. -/
def handlePendingRequests : Program SocialResponse := do
  return .success 200 (.pendingRequests (← client.getPendingRequests uid))

end FriendHttpController

/-! ## `GroupHttpController` -/

namespace GroupHttpController

/-- The status of an error of `handle_create_group`. -/
def createStatus (errorCode : String) : ℕ := if errorCode = "CREATOR_NOT_FOUND" then 404 else 400

/-- The status of an error of `handle_join_group`. -/
def joinStatus (errorCode : String) : ℕ :=
  if errorCode = "GROUP_NOT_FOUND" then 404
  else if errorCode = "USER_NOT_FOUND" then 404
  else if errorCode = "ALREADY_MEMBER" then 409
  else 400

/-- The status of an error of `handle_leave_group`. -/
def leaveStatus (errorCode : String) : ℕ :=
  if errorCode = "GROUP_NOT_FOUND" then 404
  else if errorCode = "NOT_MEMBER" then 403
  else if errorCode = "OWNER_CANNOT_LEAVE" then 403
  else 400

/-- The response to a result of the group client. -/
def respond (status : ℕ) (body : GroupDone → SocialBody) (errorStatus : String → ℕ) :
    GroupResult → SocialResponse
  | .error (code, message) => .failure (errorStatus code) message
  | .ok done => .success status (body done)

variable (client : GroupClient) (nowMs : ℤ) (uid : String)

/-- `handle_create_group`. -/
def handleCreateGroup (body : JsonBody String) : Program SocialResponse :=
  withBody body fun name => do
    if name = "" then return .failure 400 "Missing required field: name"
    else
      return respond 201 (fun done => .groupCreated done.message done.groupId) createStatus
        (← client.createGroup ⟨name, uid, nowMs⟩)

/-- `handle_join_group`. -/
def handleJoinGroup (body : JsonBody UInt64) : Program SocialResponse :=
  withBody body fun groupId => do
    if groupId = 0 then return .failure 400 "Missing required field: group_id"
    else
      return respond 200 (fun done => .message done.message) joinStatus
        (← client.joinGroup groupId.toNat uid nowMs)

/-- `handle_leave_group`. -/
def handleLeaveGroup (body : JsonBody UInt64) : Program SocialResponse :=
  withBody body fun groupId => do
    if groupId = 0 then return .failure 400 "Missing required field: group_id"
    else
      return respond 200 (fun done => .message done.message) leaveStatus
        (← client.leaveGroup groupId.toNat uid)

/-- `handle_group_info`. -/
def handleGroupInfo (groupId : String) : Program SocialResponse :=
  withGroupId groupId fun id => do
    match ← client.getGroupInfo id with
    | none => return .failure 404 "Group not found"
    | some group =>
      let members ← client.listMembers id uid
      return .success 200 (.group group (!members.isEmpty) members)

/-- `handle_search_groups`. -/
def handleSearchGroups (q keyword : Option String) : Program SocialResponse := do
  let query := if q.getD "" = "" then keyword.getD "" else q.getD ""
  if query = "" then return .failure 400 "Missing required query parameter: q"
  else
    let groups ← client.searchGroups query 20
    let mine ← client.listMyGroups uid
    return .success 200 (.foundGroups
      (groups.map fun group => (group, mine.any fun own => own.groupId = group.groupId))
      groups.head?)

/-- `handle_list_groups`. -/
def handleListGroups : Program SocialResponse := do
  return .success 200 (.groups (← client.listMyGroups uid))

/-- The rest of a handler of a group's members, once the group was found and the user among its
members. -/
def withMembers (groupId : ℕ) (next : List MemberInfo → Program SocialResponse) :
    Program SocialResponse := do
  let found ← client.groupExists groupId
  if !found then return .failure 404 "Group not found"
  else
    let members ← client.listMembers groupId uid
    if members = [] then return .failure 403 "Not a member of this group"
    else next members

/-- `handle_list_members`. -/
def handleListMembers (groupId : String) : Program SocialResponse :=
  withGroupId groupId fun id => withMembers client uid id fun members =>
    return .success 200 (.members members)

end GroupHttpController

/-! ## `GroupMessageHttpController` -/

namespace GroupMessageHttpController

open GroupHttpController (withMembers)

/-- The response of `handle_send_message` to the client's result. -/
def sendResponse : GroupSendResult → SocialResponse
  | .error (_, message) => .failure 500 ("Failed to send message: " ++ message)
  | .ok sent => .success 201 (.messageSent sent.message sent.msgId)

variable (client : GroupClient) (nowMs : ℤ) (uid : String)

/-- `handle_send_message`. -/
def handleSendMessage (body : JsonBody (UInt64 × String)) : Program SocialResponse :=
  withBody body fun (groupId, content) =>
    if groupId = 0 then return .failure 400 "Missing required field: group_id"
    else if content = "" then return .failure 400 "Missing required field: content"
    else withMembers client uid groupId.toNat fun _ => do
      return sendResponse (← client.sendMessage groupId.toNat uid content nowMs)

/-- The time that `handle_get_history` reads; `none` when it is invalid. -/
def beforeTime : NumberParam → Option ℤ
  | .absent => some nowMs
  | .invalid => none
  | .value n => some n

/-- The limit that it reads, brought into its bounds. -/
def historyLimit : NumberParam → Option ℤ
  | .absent => some 50
  | .invalid => none
  | .value n => some (min 200 (max 1 n))

/-- `handle_get_history`. -/
def handleGetHistory (groupId : String) (before limit : NumberParam) : Program SocialResponse :=
  withGroupId groupId fun id => withMembers client uid id fun _ => do
    match beforeTime nowMs before with
    | none => return .failure 400 "Invalid 'before' parameter"
    | some before =>
      match historyLimit limit with
      | none => return .failure 400 "Invalid 'limit' parameter"
      | some limit => return .success 200 (.messages (← client.getHistory id uid before limit))

end GroupMessageHttpController

/-! ## The gateway -/

/-- The gateway's friend and group API. -/
structure SocialApi where
  /-- The friend client. -/
  friendClient : FriendClient
  /-- The group client. -/
  groupClient : GroupClient

namespace SocialApi

open FriendHttpController GroupHttpController GroupMessageHttpController

variable (api : SocialApi) (nowMs : ℤ)

/-- What a handler does for a user; `nowMs` is `now_ms()`. -/
def answer (uid : String) : SocialCall → Program SocialResponse
  | .sendRequest body => handleSendRequest api.friendClient nowMs uid body
  | .respondRequest body => handleRespondRequest api.friendClient uid body
  | .listFriends => handleListFriends api.friendClient uid
  | .pendingRequests => handlePendingRequests api.friendClient uid
  | .createGroup body => handleCreateGroup api.groupClient nowMs uid body
  | .joinGroup body => handleJoinGroup api.groupClient nowMs uid body
  | .leaveGroup body => handleLeaveGroup api.groupClient uid body
  | .groupInfo groupId => handleGroupInfo api.groupClient uid groupId
  | .searchGroups q keyword => handleSearchGroups api.groupClient uid q keyword
  | .listGroups => handleListGroups api.groupClient uid
  | .listMembers groupId => handleListMembers api.groupClient uid groupId
  | .sendMessage body => handleSendMessage api.groupClient nowMs uid body
  | .getHistory groupId before limit =>
    handleGetHistory api.groupClient nowMs uid groupId before limit

/-- A handler, from its request on. -/
def handle (verify : Verify) (request : SocialRequest) : Program SocialResponse :=
  match authenticate verify request.authorization with
  | .error response => return response
  | .ok info => api.answer nowMs info.userId request.call

end SocialApi

end MyChat.Social
