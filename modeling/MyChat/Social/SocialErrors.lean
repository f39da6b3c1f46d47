import MyChat.Social.RemoteGroups

/-!
# The errors of friends and groups

The errors that the functions of the friend and group services return, and the status that the
gateway gives each of them when its code went to the server's `ErrorCode` and back.
`TARGET_NOT_FOUND` comes back as `NOT_FOUND` and `CREATOR_NOT_FOUND` as `GROUP_NOT_FOUND`, which the
handlers of a friend request and of a new group do not look for. All other errors keep their status.
-/

namespace MyChat.Social

open CommandProgram
open Chat (HttpResponse)

/-- The user service finds the user. -/
def Registered (tx : Command → Tx) (s : Stores) (uid : String) : Prop :=
  result tx s (UserService.getProfileByUid uid) ≠ none

/-- A success that satisfies `P`, or one of the errors. -/
def OneOf {α : Type} (P : α → Prop) (errors : List (String × String)) :
    Except (String × String) α → Prop
  | .ok a => P a
  | .error error => error ∈ errors

/-- A success that satisfies less. -/
theorem OneOf.imp {α : Type} {P Q : α → Prop} {errors : List (String × String)}
    {answer : Except (String × String) α} (h : OneOf P errors answer) (hPQ : ∀ a, P a → Q a) :
    OneOf Q errors answer := by
  cases answer with
  | error error => exact h
  | ok a => exact hPQ a h

variable {tx : Command → Tx} {s : Stores}

section Returns

variable {α : Type} {P : α → Prop} {errors : List (String × String)}

/-- One of the errors. -/
theorem returns_error {error : String × String} (h : error ∈ errors) :
    (pure (.error error) : Program (Except (String × String) α)).Returns (OneOf P errors) := h

/-- A success. -/
theorem returns_ok {a : α} (h : P a) :
    (pure (.ok a) : Program (Except (String × String) α)).Returns (OneOf P errors) := h

end Returns

/-- What a program returns whatever the replies, it returns on the tables. -/
theorem result_of_returns {α : Type} {Q : α → Prop} {p : Program α} (h : p.Returns Q) :
    Q (result tx s p) := h.exec

/-! ## `FriendService` -/

namespace FriendService

/-- The errors of `send_request`, but for a target that is not found. -/
def sendErrors : List (String × String) :=
  [("EMPTY_UID", "Requester and target UIDs must not be empty"),
    ("SELF_REQUEST", "Cannot send friend request to yourself"),
    ("ALREADY_EXISTS", "A relationship between these users already exists"),
    ("PERSIST_FAILED", "Failed to persist friend request")]

/-- A request that gets as far as its target, which is not found. -/
theorem sendRequest_of_missing (now : ℤ) {request : FriendRequest}
    (hrequester : request.requesterUid ≠ "") (htarget : request.targetUid ≠ "")
    (hself : request.requesterUid ≠ request.targetUid)
    (hmissing : ¬ Registered tx s request.targetUid) :
    result tx s (sendRequest now request) =
      .error ("TARGET_NOT_FOUND", "Target user does not exist") := by
  unfold sendRequest
  rw [if_neg (not_or.mpr ⟨hrequester, htarget⟩), if_neg hself,
    result_bind_of_reads (reads_getProfileByUid _), not_not.mp hmissing]
  rfl

/-- Every other request succeeds, or has one of the other errors. -/
theorem sendRequest_oneOf (now : ℤ) {request : FriendRequest}
    (h : request.requesterUid ≠ "" → request.targetUid ≠ "" →
      request.requesterUid ≠ request.targetUid → Registered tx s request.targetUid) :
    OneOf (· = "Friend request sent") sendErrors (result tx s (sendRequest now request)) := by
  unfold sendRequest
  by_cases hempty : request.requesterUid = "" ∨ request.targetUid = ""
  · rw [if_pos hempty]
    exact result_of_returns (returns_error (by decide))
  by_cases hself : request.requesterUid = request.targetUid
  · rw [if_neg hempty, if_pos hself]
    exact result_of_returns (returns_error (by decide))
  obtain ⟨hrequester, htarget⟩ := not_or.mp hempty
  have hfound := h hrequester htarget hself
  rw [if_neg hempty, if_neg hself, result_bind_of_reads (reads_getProfileByUid _),
    if_neg (mt Option.isNone_iff_eq_none.mp hfound)]
  refine result_of_returns (Returns.bind _ fun existing => ?_)
  refine Returns.ite (fun _ => returns_error (by decide)) fun _ => ?_
  exact Returns.bind _ fun created =>
    Returns.ite (fun _ => returns_ok rfl) fun _ => returns_error (by decide)

/-- The errors of `respond_to_request`. -/
def respondErrors : List (String × String) :=
  [("NOT_FOUND", "Friend request not found"),
    ("FORBIDDEN", "Only the target user can respond to this request"),
    ("NOT_PENDING", "Friend request is not in pending status"),
    ("UPDATE_FAILED", "Failed to update friend request status")]

/-- A response to a request succeeds, or has one of these errors. -/
theorem respondToRequest_oneOf (friendId : ℕ) (uid : String) (accept : Bool) :
    OneOf (· = if accept then "Friend request accepted" else "Friend request rejected")
      respondErrors (result tx s (respondToRequest friendId uid accept)) := by
  unfold respondToRequest
  refine result_of_returns (Returns.bind _ fun found => ?_)
  cases found with
  | none => exact returns_error (by decide)
  | some f =>
    refine Returns.ite (fun _ => returns_error (by decide)) fun _ => ?_
    refine Returns.ite (fun _ => returns_error (by decide)) fun _ => ?_
    exact Returns.bind _ fun updated =>
      Returns.ite (fun _ => returns_ok rfl) fun _ => returns_error (by decide)

end FriendService

/-! ## `GroupService` and `GroupMessageService` -/

namespace GroupService

/-- The errors of `create_group`, but for a creator that is not found. -/
def createErrors : List (String × String) :=
  [("EMPTY_NAME", "Group name must not be empty"),
    ("EMPTY_CREATOR", "Creator UID must not be empty"),
    ("PERSIST_FAILED", "Failed to persist group with owner")]

/-- A group that gets as far as its creator, which is not found. -/
theorem createGroup_of_missing (now : ℤ) {request : CreateGroupRequest} (hname : request.name ≠ "")
    (hcreator : request.creatorUid ≠ "") (hmissing : ¬ Registered tx s request.creatorUid) :
    result tx s (createGroup now request) =
      .error ("CREATOR_NOT_FOUND", "Creator user does not exist") := by
  unfold createGroup
  rw [if_neg hname, if_neg hcreator, result_bind_of_reads (reads_getProfileByUid _),
    not_not.mp hmissing]
  rfl

/-- Every other group is created, or has one of the other errors. -/
theorem createGroup_oneOf (now : ℤ) {request : CreateGroupRequest}
    (h : request.name ≠ "" → request.creatorUid ≠ "" → Registered tx s request.creatorUid) :
    OneOf (fun created => created.message = "Group created") createErrors
      (result tx s (createGroup now request)) := by
  unfold createGroup
  by_cases hname : request.name = ""
  · rw [if_pos hname]
    exact result_of_returns (returns_error (by decide))
  by_cases hcreator : request.creatorUid = ""
  · rw [if_neg hname, if_pos hcreator]
    exact result_of_returns (returns_error (by decide))
  have hfound := h hname hcreator
  rw [if_neg hname, if_neg hcreator, result_bind_of_reads (reads_getProfileByUid _),
    if_neg (mt Option.isNone_iff_eq_none.mp hfound)]
  refine result_of_returns (Returns.bind _ fun created => ?_)
  cases created with
  | none => exact returns_error (by decide)
  | some groupId => exact returns_ok rfl

/-- The errors of `join_group`. -/
def joinErrors : List (String × String) :=
  [("GROUP_NOT_FOUND", "Group not found"),
    ("EMPTY_UID", "User UID must not be empty"),
    ("USER_NOT_FOUND", "User does not exist"),
    ("ALREADY_MEMBER", "User is already a member of this group"),
    ("PERSIST_FAILED", "Failed to add member")]

/-- A user joins a group, or has one of these errors. -/
theorem joinGroup_oneOf (now : ℤ) (groupId : ℕ) (userUid : String) (t : ℤ) :
    OneOf (fun joined => joined.message = "Joined group") joinErrors
      (result tx s (joinGroup now groupId userUid t)) := by
  unfold joinGroup
  refine result_of_returns (Returns.bind _ fun group => ?_)
  refine Returns.ite (fun _ => returns_error (by decide)) fun _ => ?_
  refine Returns.ite (fun _ => returns_error (by decide)) fun _ => ?_
  refine Returns.bind _ fun user => ?_
  refine Returns.ite (fun _ => returns_error (by decide)) fun _ => ?_
  refine Returns.bind _ fun existing => ?_
  refine Returns.ite (fun _ => returns_error (by decide)) fun _ => ?_
  exact Returns.bind _ fun added =>
    Returns.ite (fun _ => returns_ok rfl) fun _ => returns_error (by decide)

/-- The errors of `leave_group`. -/
def leaveErrors : List (String × String) :=
  [("GROUP_NOT_FOUND", "Group not found"),
    ("NOT_MEMBER", "User is not a member of this group"),
    ("OWNER_CANNOT_LEAVE", "Owner cannot leave the group; transfer ownership first"),
    ("REMOVE_FAILED", "Failed to remove member")]

/-- A member leaves a group, or has one of these errors. -/
theorem leaveGroup_oneOf (groupId : ℕ) (userUid : String) :
    OneOf (fun left => left.message = "Left group") leaveErrors
      (result tx s (leaveGroup groupId userUid)) := by
  unfold leaveGroup
  refine result_of_returns (Returns.bind _ fun group => ?_)
  refine Returns.ite (fun _ => returns_error (by decide)) fun _ => ?_
  refine Returns.bind _ fun member => ?_
  cases member with
  | none => exact returns_error (by decide)
  | some row =>
    refine Returns.ite (fun _ => returns_error (by decide)) fun _ => ?_
    exact Returns.bind _ fun removed =>
      Returns.ite (fun _ => returns_ok rfl) fun _ => returns_error (by decide)

end GroupService

/-! ## Their status -/

namespace FriendHttpController

variable {status : ℕ} {errorStatus : String → ℕ} {text : String} {errors : List (String × String)}

/-- A result of the service has the same response when it comes back from the server, if its errors
keep their status. -/
theorem respond_remoteResult
    (hback : ∀ error ∈ errors, errorStatus (RemoteFriendClient.friendErrorCode
      (FriendGrpcService.friendErrorCode error.1)) = errorStatus error.1)
    {answer : FriendResult} (h : OneOf (· = text) errors answer) :
    respond status errorStatus answer =
      respond status errorStatus (RemoteFriendClient.remoteResult text answer) := by
  cases answer with
  | error error =>
    change HttpResponse.failure (errorStatus error.1) error.2 = .failure _ error.2
    rw [hback error h]
  | ok sent => exact congrArg (fun text => HttpResponse.success status (SocialBody.message text)) h

/-- The errors of a friend request that are looked for come back as themselves. -/
theorem sendStatus_back : ∀ error ∈ FriendService.sendErrors,
    sendStatus (RemoteFriendClient.friendErrorCode (FriendGrpcService.friendErrorCode error.1)) =
      sendStatus error.1 := by
  decide

/-- So do those of the response to one. -/
theorem respondStatus_back : ∀ error ∈ FriendService.respondErrors,
    respondStatus (RemoteFriendClient.friendErrorCode (FriendGrpcService.friendErrorCode error.1)) =
      respondStatus error.1 := by
  decide

end FriendHttpController

namespace GroupHttpController

variable {status : ℕ} {body : GroupDone → SocialBody} {errorStatus : String → ℕ}
  {f : GroupDone → GroupDone} {errors : List (String × String)}

/-- A result of the service has the same response when it comes back from the server, if its errors
keep their status. -/
theorem respond_remoteResult
    (hback : ∀ error ∈ errors, errorStatus (RemoteGroupClient.groupErrorCode
      (GroupGrpcService.groupErrorCode error.1)) = errorStatus error.1)
    {answer : GroupResult}
    (h : OneOf (fun success => body success = body (f success)) errors answer) :
    respond status body errorStatus answer =
      respond status body errorStatus (RemoteGroupClient.remoteResult f answer) := by
  cases answer with
  | error error =>
    change HttpResponse.failure (errorStatus error.1) error.2 = .failure _ error.2
    rw [hback error h]
  | ok success => exact congrArg (HttpResponse.success status) h

/-- No result of the service has the response of the text that the server refuses a call with. -/
theorem respond_ne_failure {P : GroupDone → Prop} {text : String}
    (htext : ∀ error ∈ errors, error.2 ≠ text) {answer : GroupResult} (h : OneOf P errors answer)
    (refused : ℕ) : respond status body errorStatus answer ≠ .failure refused text := by
  cases answer with
  | error error => exact fun heq => htext error h (HttpResponse.failure.inj heq).2
  | ok success => simp [respond]

/-- The errors of a new group have one status. -/
theorem createStatus_back : ∀ error ∈ GroupService.createErrors,
    createStatus (RemoteGroupClient.groupErrorCode (GroupGrpcService.groupErrorCode error.1)) =
      createStatus error.1 := by
  decide

/-- The errors of a user who joins keep their status. -/
theorem joinStatus_back : ∀ error ∈ GroupService.joinErrors,
    joinStatus (RemoteGroupClient.groupErrorCode (GroupGrpcService.groupErrorCode error.1)) =
      joinStatus error.1 := by
  decide

/-- So do those of a member who leaves. -/
theorem leaveStatus_back : ∀ error ∈ GroupService.leaveErrors,
    leaveStatus (RemoteGroupClient.groupErrorCode (GroupGrpcService.groupErrorCode error.1)) =
      leaveStatus error.1 := by
  decide

end GroupHttpController

end MyChat.Social
