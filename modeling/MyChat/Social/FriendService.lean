import MyChat.Social.UserService

/-!
# `FriendService`

The functions of `services/friend/friend_service.cpp` as programs over the repositories'
transactions.
-/

namespace MyChat.Social

/-- `FriendRequest`. -/
structure FriendRequest where
  /-- `requester_uid`. -/
  requesterUid : String
  /-- `target_uid`. -/
  targetUid : String
  /-- `now_ms`. -/
  nowMs : ℤ
  deriving DecidableEq, Repr

/-- `FriendResult`: the text of a success, or an error code and its text. -/
abbrev FriendResult := Except (String × String) String

/-- `FriendInfoDTO`. -/
structure FriendInfo where
  /-- `friend_id`. -/
  friendId : ℕ
  /-- `friend_uid`. -/
  friendUid : String
  /-- `nickname`. -/
  nickname : String
  /-- `status`. -/
  status : FriendStatus
  /-- `created_at`. -/
  createdAt : ℤ
  deriving DecidableEq, Repr

namespace FriendService

/-- `send_request`; `now` is `now_ms()`, for a request that has no time. -/
def sendRequest (now : ℤ) (request : FriendRequest) : Program FriendResult := do
  if request.requesterUid = "" ∨ request.targetUid = "" then
    return .error ("EMPTY_UID", "Requester and target UIDs must not be empty")
  else if request.requesterUid = request.targetUid then
    return .error ("SELF_REQUEST", "Cannot send friend request to yourself")
  else
    let target ← UserService.getProfileByUid request.targetUid
    if target.isNone then return .error ("TARGET_NOT_FOUND", "Target user does not exist")
    else
      let existing ← query (.findRelationship request.requesterUid request.targetUid)
      if existing.isSome then
        return .error ("ALREADY_EXISTS", "A relationship between these users already exists")
      else
        let created ← query (.createFriend ⟨request.requesterUid, request.targetUid, .pending,
          if request.nowMs > 0 then request.nowMs else now⟩)
        if created then return .ok "Friend request sent"
        else return .error ("PERSIST_FAILED", "Failed to persist friend request")

/-- `respond_to_request`. -/
def respondToRequest (friendId : ℕ) (uid : String) (accept : Bool) : Program FriendResult := do
  match ← query (.findFriendById friendId) with
  | none => return .error ("NOT_FOUND", "Friend request not found")
  | some f =>
    if f.targetUid ≠ uid then
      return .error ("FORBIDDEN", "Only the target user can respond to this request")
    else if f.status ≠ .pending then
      return .error ("NOT_PENDING", "Friend request is not in pending status")
    else
      let updated ← query (.updateStatus friendId (if accept then .accepted else .rejected))
      if updated then
        return .ok (if accept then "Friend request accepted" else "Friend request rejected")
      else return .error ("UPDATE_FAILED", "Failed to update friend request status")

/-- `resolve_nickname`. -/
def resolveNickname (uid : String) : Program String := do
  match ← UserService.getProfileByUid uid with
  | some profile => return profile.nickname
  | none => return uid

/-- `to_friend_info`. -/
def toFriendInfo (row : ℕ × Friend) (uid : String) : Program FriendInfo := do
  let otherUid := if row.2.requesterUid = uid then row.2.targetUid else row.2.requesterUid
  let nickname ← resolveNickname otherUid
  return ⟨row.1, otherUid, nickname, row.2.status, row.2.createdAt⟩

/-- `get_friends`. -/
def getFriends (uid : String) : Program (List FriendInfo) := do
  (← query (.findFriends uid)).mapM fun row => toFriendInfo row uid

/-- `get_pending_requests`. -/
def getPendingRequests (uid : String) : Program (List FriendInfo) := do
  (← query (.findPending uid)).mapM fun row => toFriendInfo row uid

end FriendService

end MyChat.Social
