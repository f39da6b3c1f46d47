import MyChat.Social.SocialErrors

/-!
# When the friend and group API is the same over both clients

A request about friends or groups, answered by a gateway with the local clients and by a gateway
with the remote clients, from the same tables. `social_transparent_iff` says exactly when the two
responses are the same.

They differ where an error has its own status in the handler but not on the wire, which is when the
target of a friend request or the creator of a group is not found; where the servers refuse a uid
that is empty or a group whose id is zero, which the local clients do not; where a message is not
the first that the server reads back among the messages of its time; and where a history is asked
for before a time that is not positive, for which the server takes its own.
-/

namespace MyChat.Social

open Rpc CommandProgram
open Chat (GroupMessage GroupMessages HttpResponse JsonBody UserTokenInfo Verify authenticate
  int64Max)
open FriendHttpController GroupHttpController GroupMessageHttpController

/-! ## The two deployments -/

/-- A reading of the gateway's clock: a time after the epoch that an `int64` holds. -/
structure Clock where
  /-- `now_ms()`. -/
  ms : ℤ
  /-- The time is after the epoch. -/
  pos : 0 < ms
  /-- An `int64` holds it. -/
  le : ms ≤ int64Max

/-- The API over the local clients; `now` is `now_ms()` of the services. -/
def localApi (now : ℤ) : SocialApi := ⟨localFriendClient now, localGroupClient now⟩

/-- The API over the remote clients; `now` is `now_ms()` of the servers. -/
def remoteApi (now : ℤ) : SocialApi := ⟨remoteFriendClient now, remoteGroupClient now⟩

/-! ## Where they agree -/

/-- The fields of a body, if they were read, satisfy `P`. -/
def Fields {α : Type} (P : α → Prop) : JsonBody α → Prop
  | .fields values => P values
  | .invalid => True
  | .typeError => True

/-- The group that a parameter `group_id` names. -/
def groupParam (groupId : String) : Option ℕ := if groupId = "" then none else stoull groupId

section Conditions

variable (tx : Command → Tx) (s : Stores) (now : ℤ) (uid : String)

/-- The group service lists its members to the user. -/
def Member (groupId : ℕ) : Prop := result tx s (GroupService.listMembers groupId uid) ≠ []

/-- Nothing about the group is refused by the server only: there is no group with the id zero, and
no member with an empty uid. -/
structure Named (groupId : ℕ) : Prop where
  /-- The group. -/
  group : groupId = 0 → result tx s (GroupService.groupExists groupId) = false
  /-- The user. -/
  user : uid = "" → ¬ Member tx s uid groupId

/-- The first message of the group at a time, in the order in which the query for the newest message
up to then finds its rows. -/
def firstAt (t : GroupMessages) (groupId : ℕ) (time : ℤ) : Option (ℕ × GroupMessage) :=
  let outcome := tx (.findByGroup groupId (time + 1) 1)
  if outcome.commits then
    (outcome.arrangement.arrange (t.rows.filter fun row =>
      row.2.groupId = groupId ∧ row.2.createdAt < time + 1)).find? fun row => row.2.createdAt = time
  else none

/-- If the message is stored, it is the first of its group's messages at its time. -/
def StoredFirst (m : GroupMessage) : Prop :=
  let stored := GroupMessageRepository.create (tx (.createGroupMessage m)) s.groupMessages m
  ∀ id ∈ stored.1, ∀ row ∈ firstAt tx stored.2 m.groupId m.createdAt, row.1 = id

/-- The group's messages before a time. -/
def messagesBefore (groupId : ℕ) (time : ℤ) : List (ℕ × GroupMessage) :=
  s.groupMessages.rows.filter fun row => row.2.groupId = groupId ∧ row.2.createdAt < time

/-- The newest of the rows, in the order in which a query finds them. -/
def newest (arrangement : Arrangement) (limit : ℤ) (rows : List (ℕ × GroupMessage)) :
    List (ℕ × GroupMessage) :=
  ((arrangement.arrange rows).insertionSort fun a b => b.2.createdAt ≤ a.2.createdAt).take
    limit.toNat

/-- By the group's rows, the query for the messages before the time finds what the one for those
before the server's time finds: when one of the two fails, the other has none to find, and when both
commit, none is from between, and those of one time come in one order. -/
def FoundAlike (groupId : ℕ) (time limit : ℤ) : Prop :=
  let first := tx (.findByGroup groupId time limit)
  let second := tx (.findByGroup groupId now limit)
  match first.commits, second.commits with
  | false, false => True
  | true, false => messagesBefore s groupId time = []
  | false, true => messagesBefore s groupId now = []
  | true, true => messagesBefore s groupId time = messagesBefore s groupId now ∧
      newest first.arrangement limit (messagesBefore s groupId now) =
        newest second.arrangement limit (messagesBefore s groupId now)

/-- The user's call is answered alike over the two clients. -/
def Agrees (clock : Clock) : SocialCall → Prop
  | .sendRequest body => Fields (fun targetUid =>
      uid ≠ "" → targetUid ≠ "" → uid ≠ targetUid → Registered tx s targetUid) body
  | .respondRequest _ => True
  | .listFriends => uid = "" → result tx s (FriendService.getFriends uid) = []
  | .pendingRequests => uid = "" → result tx s (FriendService.getPendingRequests uid) = []
  | .createGroup body => Fields (fun name => name ≠ "" → uid ≠ "" → Registered tx s uid) body
  | .joinGroup body => Fields (fun groupId => groupId ≠ 0 → uid ≠ "") body
  | .leaveGroup body => Fields (fun groupId => groupId ≠ 0 → uid ≠ "") body
  | .groupInfo groupId => ∀ id ∈ groupParam groupId, Named tx s uid id
  | .searchGroups q keyword =>
    let query := if q.getD "" = "" then keyword.getD "" else q.getD ""
    query ≠ "" → uid = "" → ∀ group ∈ result tx s (GroupService.searchGroups query 20),
      ∀ own ∈ result tx s (GroupService.listMyGroups uid), own.groupId ≠ group.groupId
  | .listGroups => uid = "" → result tx s (GroupService.listMyGroups uid) = []
  | .listMembers groupId => ∀ id ∈ groupParam groupId, Named tx s uid id
  | .sendMessage body => Fields (fun (groupId, content) => groupId ≠ 0 → content ≠ "" →
      Named tx s uid groupId.toNat ∧ (Member tx s uid groupId.toNat →
        StoredFirst tx s ⟨groupId.toNat, uid, content, clock.ms⟩)) body
  | .getHistory groupId before limit => ∀ id ∈ groupParam groupId,
      Named tx s uid id ∧ (Member tx s uid id →
        ∀ time ∈ beforeTime clock.ms before, ∀ count ∈ historyLimit limit,
          time ≤ 0 → FoundAlike tx s now id time count)

end Conditions

variable {tx : Command → Tx} {s : Stores}

/-! ## The parts of a handler -/

/-- What follows the fields of a body. -/
theorem same_withBody_iff {α : Type} {next next' : α → Program SocialResponse} {P : α → Prop}
    (h : ∀ values, result tx s (next values) = result tx s (next' values) ↔ P values)
    (body : JsonBody α) :
    result tx s (withBody body next) = result tx s (withBody body next') ↔ Fields P body := by
  cases body with
  | invalid => exact iff_of_true rfl trivial
  | typeError => exact iff_of_true rfl trivial
  | fields values => exact h values

/-- What follows the parameter `group_id`. -/
theorem same_withGroupId_iff {next next' : ℕ → Program SocialResponse} {P : ℕ → Prop}
    (h : ∀ id, result tx s (next id) = result tx s (next' id) ↔ P id) (groupId : String) :
    result tx s (withGroupId groupId next) = result tx s (withGroupId groupId next') ↔
      ∀ id ∈ groupParam groupId, P id := by
  unfold withGroupId groupParam
  by_cases hempty : groupId = ""
  · simp [hempty]
  · rw [if_neg hempty, if_neg hempty, if_neg hempty]
    cases hid : stoull groupId with
    | none => simp
    | some id => simpa using h id

variable {now now' : ℤ} {uid : String}

/-- What a handler of a group's members responds, over a client that finds the group or not, lists
its members, and changes nothing. -/
theorem result_withMembers {client : GroupClient} {groupId : ℕ} (found : Bool)
    (members : List MemberInfo) (hexists : Reads (serve tx) (client.groupExists groupId))
    (hlist : Reads (serve tx) (client.listMembers groupId uid))
    (hfound : result tx s (client.groupExists groupId) = found)
    (hmembers : result tx s (client.listMembers groupId uid) = members)
    (next : List MemberInfo → Program SocialResponse) :
    result tx s (withMembers client uid groupId next) =
      if found = true then
        if members = [] then .failure 403 "Not a member of this group"
        else result tx s (next members)
      else .failure 404 "Group not found" := by
  unfold withMembers
  rw [result_bind_of_reads hexists, hfound]
  cases found with
  | false => rfl
  | true =>
    rw [Bool.not_true, if_neg Bool.false_ne_true, if_pos rfl, result_bind_of_reads hlist, hmembers]
    split_ifs <;> rfl

/-- What follows the members of a group. A handler that got that far no longer answers that the
group is missing or the user not among its members. -/
theorem same_withMembers_iff {groupId : ℕ} {next next' : List MemberInfo → Program SocialResponse}
    (hnext : ∀ members status text, result tx s (next members) = .failure status text →
      status ≠ 403 ∧ status ≠ 404) :
    result tx s (withMembers (localGroupClient now) uid groupId next) =
        result tx s (withMembers (remoteGroupClient now') uid groupId next') ↔
      Named tx s uid groupId ∧ (Member tx s uid groupId →
        result tx s (next (result tx s (GroupService.listMembers groupId uid))) =
          result tx s (next' (result tx s (GroupService.listMembers groupId uid)))) := by
  rw [result_withMembers (result tx s (GroupService.groupExists groupId))
      (result tx s (GroupService.listMembers groupId uid)) (GroupService.reads_groupExists groupId)
      (GroupService.reads_listMembers groupId uid) rfl rfl,
    result_withMembers _ _ (RemoteGroupClient.reads_groupExists groupId)
      (RemoteGroupClient.reads_listMembers groupId uid)
      (RemoteGroupClient.result_groupExists groupId)
      (RemoteGroupClient.result_listMembers groupId uid)]
  have hmissing : ∀ members, result tx s (next members) ≠ .failure 404 "Group not found" :=
    fun members h => (hnext members _ _ h).2 rfl
  have hrefused : ∀ members,
      result tx s (next members) ≠ .failure 403 "Not a member of this group" :=
    fun members h => (hnext members _ _ h).1 rfl
  cases hfound : result tx s (GroupService.groupExists groupId) with
  | false =>
    have hnone : ¬ Member tx s uid groupId := fun hmember =>
      hmember (GroupService.listMembers_of_not_exists uid hfound)
    rw [ite_self]
    exact iff_of_true rfl ⟨⟨fun _ => hfound, fun _ => hnone⟩, fun hmember => absurd hmember hnone⟩
  | true =>
    rw [if_pos rfl]
    by_cases hid : groupId = 0
    · -- The server finds no group.
      rw [if_pos hid, if_neg Bool.false_ne_true]
      refine iff_of_false ?_ fun h => absurd (h.1.group hid) (by rw [hfound]; decide)
      split_ifs
      · exact fun h => absurd (HttpResponse.failure.inj h).1 (by decide)
      · exact hmissing _
    rw [if_neg hid, if_pos rfl]
    by_cases hmembers : result tx s (GroupService.listMembers groupId uid) = []
    · -- The user is not a member for either.
      have hnone : ¬ Member tx s uid groupId := fun hmember => hmember hmembers
      rw [if_pos hmembers, hmembers, ite_self, if_pos rfl]
      exact iff_of_true rfl ⟨⟨fun h => absurd h hid, fun _ => hnone⟩, fun hmember =>
        absurd hmember hnone⟩
    rw [if_neg hmembers]
    by_cases huid : uid = ""
    · -- The server lists no members.
      have hempty : groupId = 0 ∨ uid = "" := .inr huid
      rw [if_pos hempty, if_pos rfl]
      exact iff_of_false (hrefused _) fun h => h.1.user huid hmembers
    · rw [if_neg (not_or.mpr ⟨hid, huid⟩), if_neg hmembers]
      exact ⟨fun h => ⟨⟨fun h => absurd h hid, fun h => absurd h huid⟩, fun _ => h⟩,
        fun h => h.2 hmembers⟩

/-- A list that the server refuses to a user with no uid, and that is else the same. -/
theorem same_list_iff {α : Type} {items items' : List α} (hrefused : uid = "" → items' = [])
    (hsame : uid ≠ "" → items' = items) : items = items' ↔ (uid = "" → items = []) := by
  by_cases huid : uid = ""
  · rw [hrefused huid]
    exact ⟨fun h _ => h, fun h => h huid⟩
  · exact iff_of_true (hsame huid).symm fun h => absurd h huid

/-! ## Friends -/

variable (clock : Clock)

/-- `handle_send_request` over the two clients. -/
theorem same_sendRequest_iff (body : JsonBody String) :
    result tx s (handleSendRequest (localFriendClient now) clock.ms uid body) =
        result tx s (handleSendRequest (remoteFriendClient now') clock.ms uid body) ↔
      Agrees tx s now' uid clock (.sendRequest body) := by
  refine same_withBody_iff (fun targetUid => ?_) body
  by_cases htarget : targetUid = ""
  · rw [if_pos htarget, if_pos htarget]
    exact iff_of_true rfl fun _ h => absurd htarget h
  rw [if_neg htarget, if_neg htarget, result_bind_pure, result_bind_pure]
  dsimp only [localFriendClient, remoteFriendClient]
  rw [RemoteFriendClient.result_sendRequest now now' clock.pos clock.le]
  by_cases hmissing : uid ≠ "" ∧ uid ≠ targetUid ∧ ¬ Registered tx s targetUid
  · -- The handler has a status for the error of the service, not for the one that comes back.
    obtain ⟨huid, hself, hmissing⟩ := hmissing
    rw [FriendService.sendRequest_of_missing now huid htarget hself hmissing]
    exact iff_of_false (by decide) fun h => hmissing (h huid htarget hself)
  · have hfound : uid ≠ "" → targetUid ≠ "" → uid ≠ targetUid → Registered tx s targetUid :=
      fun huid _ hself => not_not.mp fun h => hmissing ⟨huid, hself, h⟩
    have hresult : OneOf (· = "Friend request sent") FriendService.sendErrors
        (result tx s (FriendService.sendRequest now ⟨uid, targetUid, clock.ms⟩)) :=
      FriendService.sendRequest_oneOf now hfound
    exact iff_of_true (FriendHttpController.respond_remoteResult sendStatus_back hresult) hfound

/-- `handle_respond_request` over the two clients. -/
theorem same_respondRequest (body : JsonBody (UInt64 × Bool)) :
    result tx s (handleRespondRequest (localFriendClient now) uid body) =
      result tx s (handleRespondRequest (remoteFriendClient now') uid body) := by
  unfold handleRespondRequest
  cases body with
  | invalid => simp only [withBody]
  | typeError => simp only [withBody]
  | fields values =>
    obtain ⟨friendId, accept⟩ := values
    dsimp only [withBody, localFriendClient, remoteFriendClient]
    by_cases hid : friendId = 0
    · rw [if_pos hid, if_pos hid]
    · rw [if_neg hid, if_neg hid, RemoteFriendClient.respondToRequest_eq friendId.toNat_lt,
        result_bind_pure, result_bind_pure, result_bind_pure]
      exact FriendHttpController.respond_remoteResult respondStatus_back
        (FriendService.respondToRequest_oneOf _ _ _)

/-- `handle_list_friends` over the two clients. -/
theorem same_listFriends_iff :
    result tx s (handleListFriends (localFriendClient now) uid) =
        result tx s (handleListFriends (remoteFriendClient now') uid) ↔
      Agrees tx s now' uid clock .listFriends := by
  unfold handleListFriends
  rw [result_bind_pure, result_bind_pure, HttpResponse.success.injEq, SocialBody.friends.injEq,
    eq_self, true_and]
  refine same_list_iff (fun huid => ?_) RemoteFriendClient.result_getFriends
  rw [huid]
  exact congrArg (result tx s) RemoteFriendClient.getFriends_empty

/-- `handle_pending_requests` over the two clients. -/
theorem same_pendingRequests_iff :
    result tx s (handlePendingRequests (localFriendClient now) uid) =
        result tx s (handlePendingRequests (remoteFriendClient now') uid) ↔
      Agrees tx s now' uid clock .pendingRequests := by
  unfold handlePendingRequests
  rw [result_bind_pure, result_bind_pure, HttpResponse.success.injEq,
    SocialBody.pendingRequests.injEq, eq_self, true_and]
  refine same_list_iff (fun huid => ?_) RemoteFriendClient.result_getPendingRequests
  rw [huid]
  exact congrArg (result tx s) RemoteFriendClient.getPendingRequests_empty

/-! ## Groups -/

/-- `handle_create_group` over the two clients. -/
theorem same_createGroup_iff (body : JsonBody String) :
    result tx s (handleCreateGroup (localGroupClient now) clock.ms uid body) =
        result tx s (handleCreateGroup (remoteGroupClient now') clock.ms uid body) ↔
      Agrees tx s now' uid clock (.createGroup body) := by
  refine same_withBody_iff (fun name => ?_) body
  by_cases hname : name = ""
  · rw [if_pos hname, if_pos hname]
    exact iff_of_true rfl fun h => absurd hname h
  rw [if_neg hname, if_neg hname, result_bind_pure, result_bind_pure]
  dsimp only [localGroupClient, remoteGroupClient]
  rw [RemoteGroupClient.result_createGroup now now' clock.pos clock.le]
  by_cases hmissing : uid ≠ "" ∧ ¬ Registered tx s uid
  · -- The handler has a status for the error of the service, not for the one that comes back.
    obtain ⟨huid, hmissing⟩ := hmissing
    rw [GroupService.createGroup_of_missing now hname huid hmissing]
    exact iff_of_false (by decide) fun h => hmissing (h hname huid)
  · have hfound : name ≠ "" → uid ≠ "" → Registered tx s uid := fun _ huid =>
      not_not.mp fun h => hmissing ⟨huid, h⟩
    have hresult : OneOf (fun created => created.message = "Group created")
        GroupService.createErrors
        (result tx s (GroupService.createGroup now ⟨name, uid, clock.ms⟩)) :=
      GroupService.createGroup_oneOf now hfound
    refine iff_of_true (GroupHttpController.respond_remoteResult createStatus_back ?_) hfound
    exact hresult.imp fun created hmessage =>
      congrArg (SocialBody.groupCreated · created.groupId) hmessage

/-- A call that the server refuses to a user with no uid, and that has else the service's result. -/
theorem same_action_iff {errorStatus : String → ℕ} {errors : List (String × String)}
    {text : String} {answer answer' : GroupResult} (groupId : ℕ)
    (hback : ∀ error ∈ errors, errorStatus (RemoteGroupClient.groupErrorCode
      (GroupGrpcService.groupErrorCode error.1)) = errorStatus error.1)
    (htext : ∀ error ∈ errors, error.2 ≠ "group_id and from_uid are required")
    (hresult : OneOf (fun success => success.message = text) errors answer)
    (hrefused : uid = "" → answer' =
      .error ("PARAM_ERROR", "group_id and from_uid are required"))
    (hsame : uid ≠ "" → answer' =
      RemoteGroupClient.remoteResult (fun _ => ⟨text, groupId⟩) answer) :
    GroupHttpController.respond 200 (fun success => .message success.message) errorStatus answer =
        GroupHttpController.respond 200 (fun success => .message success.message) errorStatus
          answer' ↔ uid ≠ "" := by
  by_cases huid : uid = ""
  · rw [hrefused huid]
    exact iff_of_false (respond_ne_failure htext hresult _) fun h => h huid
  · rw [hsame huid]
    refine iff_of_true (GroupHttpController.respond_remoteResult hback ?_) huid
    exact hresult.imp fun success hmessage => congrArg SocialBody.message hmessage

/-- `handle_join_group` over the two clients. -/
theorem same_joinGroup_iff (body : JsonBody UInt64) :
    result tx s (handleJoinGroup (localGroupClient now) clock.ms uid body) =
        result tx s (handleJoinGroup (remoteGroupClient now') clock.ms uid body) ↔
      Agrees tx s now' uid clock (.joinGroup body) := by
  refine same_withBody_iff (fun groupId => ?_) body
  by_cases hid : groupId = 0
  · rw [if_pos hid, if_pos hid]
    exact iff_of_true rfl fun h => absurd hid h
  have hid' : groupId.toNat ≠ 0 := fun h => hid (UInt64.toNat_inj.mp h)
  rw [if_neg hid, if_neg hid, result_bind_pure, result_bind_pure]
  refine (same_action_iff groupId.toNat joinStatus_back (by decide)
    (GroupService.joinGroup_oneOf now groupId.toNat uid clock.ms) (fun huid => ?_)
    fun huid => ?_).trans ⟨fun h _ => h, fun h => h hid⟩
  · rw [huid]
    exact congrArg (result tx s) (RemoteGroupClient.joinGroup_empty now' groupId.toNat clock.ms)
  · dsimp only [remoteGroupClient]
    rw [RemoteGroupClient.joinGroup_eq now now' hid' huid clock.pos clock.le, result_bind_pure]

/-- `handle_leave_group` over the two clients. -/
theorem same_leaveGroup_iff (body : JsonBody UInt64) :
    result tx s (handleLeaveGroup (localGroupClient now) uid body) =
        result tx s (handleLeaveGroup (remoteGroupClient now') uid body) ↔
      Agrees tx s now' uid clock (.leaveGroup body) := by
  refine same_withBody_iff (fun groupId => ?_) body
  by_cases hid : groupId = 0
  · rw [if_pos hid, if_pos hid]
    exact iff_of_true rfl fun h => absurd hid h
  have hid' : groupId.toNat ≠ 0 := fun h => hid (UInt64.toNat_inj.mp h)
  rw [if_neg hid, if_neg hid, result_bind_pure, result_bind_pure]
  refine (same_action_iff groupId.toNat leaveStatus_back (by decide)
    (GroupService.leaveGroup_oneOf groupId.toNat uid) (fun huid => ?_)
    fun huid => ?_).trans ⟨fun h _ => h, fun h => h hid⟩
  · rw [huid]
    exact congrArg (result tx s) (RemoteGroupClient.leaveGroup_empty groupId.toNat)
  · dsimp only [remoteGroupClient]
    rw [RemoteGroupClient.leaveGroup_eq hid' huid, result_bind_pure]

/-- `handle_list_groups` over the two clients. -/
theorem same_listGroups_iff :
    result tx s (handleListGroups (localGroupClient now) uid) =
        result tx s (handleListGroups (remoteGroupClient now') uid) ↔
      Agrees tx s now' uid clock .listGroups := by
  unfold handleListGroups
  rw [result_bind_pure, result_bind_pure, HttpResponse.success.injEq, SocialBody.groups.injEq,
    eq_self, true_and]
  refine same_list_iff (fun huid => ?_) fun huid =>
    congrArg (result tx s) (RemoteGroupClient.listMyGroups_eq huid)
  rw [huid]
  exact congrArg (result tx s) RemoteGroupClient.listMyGroups_empty

/-- `handle_list_members` over the two clients. -/
theorem same_listMembers_iff (groupId : String) :
    result tx s (handleListMembers (localGroupClient now) uid groupId) =
        result tx s (handleListMembers (remoteGroupClient now') uid groupId) ↔
      Agrees tx s now' uid clock (.listMembers groupId) := by
  refine same_withGroupId_iff (fun id => ?_) groupId
  rw [same_withMembers_iff]
  · exact and_iff_left fun _ => rfl
  · intro members status text h
    exact absurd h (by simp)

/-- Of a group that is not found nothing is refused by the server only. -/
theorem named_of_not_exists {groupId : ℕ}
    (h : result tx s (GroupService.groupExists groupId) = false) : Named tx s uid groupId where
  group _ := h
  user _ hmember := hmember (GroupService.listMembers_of_not_exists uid h)

/-- Of a group with an id the members are refused to a user with no uid. -/
theorem named_iff {groupId : ℕ} (hid : groupId ≠ 0) :
    Named tx s uid groupId ↔
      (uid = "" → result tx s (GroupService.listMembers groupId uid) = []) :=
  ⟨fun h huid => not_not.mp (h.user huid), fun h =>
    ⟨fun hzero => absurd hzero hid, fun huid => not_not.mpr (h huid)⟩⟩

/-- `handle_group_info` over the two clients. -/
theorem same_groupInfo_iff (groupId : String) :
    result tx s (handleGroupInfo (localGroupClient now) uid groupId) =
        result tx s (handleGroupInfo (remoteGroupClient now') uid groupId) ↔
      Agrees tx s now' uid clock (.groupInfo groupId) := by
  refine same_withGroupId_iff (fun id => ?_) groupId
  dsimp only [localGroupClient, remoteGroupClient]
  have hexists : (result tx s (GroupService.getGroupInfo id)).isSome =
      result tx s (GroupService.groupExists id) := GroupService.isSome_getGroupInfo id
  by_cases hid : id = 0
  · subst hid
    rw [RemoteGroupClient.getGroupInfo_zero,
      result_bind_of_reads (GroupService.reads_getGroupInfo 0)]
    cases hinfo : result tx s (GroupService.getGroupInfo 0) with
    | none =>
      rw [hinfo] at hexists
      exact iff_of_true rfl (named_of_not_exists hexists.symm)
    | some group =>
      rw [hinfo] at hexists
      refine iff_of_false (fun h => ?_) fun h => ?_
      · rw [result_bind_pure] at h
        exact absurd h (by simp)
      · rw [h.group rfl] at hexists
        exact absurd hexists (by simp)
  rw [RemoteGroupClient.getGroupInfo_eq hid,
    result_bind_of_reads (GroupService.reads_getGroupInfo id),
    result_bind_of_reads (GroupService.reads_getGroupInfo id)]
  cases hinfo : result tx s (GroupService.getGroupInfo id) with
  | none =>
    rw [hinfo] at hexists
    exact iff_of_true rfl (named_of_not_exists hexists.symm)
  | some group =>
    dsimp only
    rw [named_iff hid, result_bind_pure, result_bind_pure, HttpResponse.success.injEq,
      SocialBody.group.injEq, eq_self, eq_self, true_and, true_and]
    -- Whether the user joined goes by the members.
    rw [and_iff_right_of_imp fun hmembers => by rw [hmembers], RemoteGroupClient.result_listMembers]
    exact same_list_iff (fun huid => if_pos (.inr huid)) fun huid => if_neg (not_or.mpr ⟨hid, huid⟩)

/-- `handle_search_groups` over the two clients. -/
theorem same_searchGroups_iff (q keyword : Option String) :
    result tx s (handleSearchGroups (localGroupClient now) uid q keyword) =
        result tx s (handleSearchGroups (remoteGroupClient now') uid q keyword) ↔
      Agrees tx s now' uid clock (.searchGroups q keyword) := by
  unfold handleSearchGroups Agrees
  dsimp only [localGroupClient, remoteGroupClient]
  generalize (if q.getD "" = "" then keyword.getD "" else q.getD "") = text
  by_cases htext : text = ""
  · rw [if_pos htext, if_pos htext]
    exact iff_of_true rfl fun h => absurd htext h
  rw [if_neg htext, if_neg htext,
    RemoteGroupClient.searchGroups_eq htext (by decide) (by decide),
    result_bind_of_reads (GroupService.reads_searchGroups text 20),
    result_bind_of_reads (GroupService.reads_searchGroups text 20), result_bind_pure,
    result_bind_pure]
  by_cases huid : uid = ""
  · subst huid
    rw [RemoteGroupClient.listMyGroups_empty]
    simp [List.map_inj_left, htext]
  · rw [RemoteGroupClient.listMyGroups_eq huid]
    exact iff_of_true rfl fun _ h => absurd h huid

/-! ## Group messages -/

/-- The group of a member is found. -/
theorem Member.groupExists {groupId : ℕ} (h : Member tx s uid groupId) :
    result tx s (GroupService.groupExists groupId) = true := by
  by_contra hmissing
  exact h (GroupService.listMembers_of_not_exists uid (Bool.not_eq_true _ ▸ hmissing))

/-- The result of `send_message` of the service, once the message was stored or not. -/
def storedResult : Option ℕ → Except (String × String) ℕ
  | none => .error ("STORE_FAILED", "Failed to store message")
  | some msgId => .ok msgId

/-- `send_message` of the service, for a member: the message is stored, or the storing failed. -/
theorem exec_sendMessage {groupId : ℕ} (hid : groupId ≠ 0) (huid : uid ≠ "")
    (hmember : Member tx s uid groupId) (content : String) (t : ℤ) :
    let m : GroupMessage := ⟨groupId, uid, content, t⟩
    let stored := GroupMessageRepository.create (tx (.createGroupMessage m)) s.groupMessages m
    (GroupMessageService.sendMessage groupId uid content t).exec (serve tx) s =
      (storedResult stored.1, { s with groupMessages := stored.2 }) := by
  intro m stored
  have hexec : (query (.createGroupMessage m)).exec (serve tx) s =
      (stored.1, { s with groupMessages := stored.2 }) := rfl
  unfold GroupMessageService.sendMessage
  rw [if_neg hid, if_neg huid, exec_bind_of_reads (GroupService.reads_groupExists groupId),
    hmember.groupExists,
    Bool.not_true, if_neg Bool.false_ne_true,
    exec_bind_of_reads (GroupService.reads_listMembers groupId uid), if_neg hmember, exec_bind,
    hexec]
  cases stored.1 <;> rfl

/-- The newest message of the group up to a time is the first of that time, if there is one. -/
theorem head?_findByGroup {t : GroupMessages} {groupId : ℕ} {time : ℤ}
    (h : ∃ row ∈ t.rows, row.2.groupId = groupId ∧ row.2.createdAt = time) :
    (GroupMessageRepository.findByGroup (tx (.findByGroup groupId (time + 1) 1)) t groupId
      (time + 1) 1).head? = firstAt tx t groupId time := by
  unfold GroupMessageRepository.findByGroup firstAt
  dsimp only
  by_cases hcommits : (tx (.findByGroup groupId (time + 1) 1)).commits = true
  · rw [if_pos hcommits, if_pos hcommits, List.head?_take, if_neg (by decide)]
    refine head?_insertionSort (fun row : ℕ × GroupMessage => row.2.createdAt)
      (fun row hrow => ?_) ?_
    · rw [Arrangement.mem_arrange, List.mem_filter, decide_eq_true_eq] at hrow
      omega
    · obtain ⟨row, hrow, hgroup, htime⟩ := h
      refine ⟨row, ?_, htime⟩
      rw [Arrangement.mem_arrange, List.mem_filter, decide_eq_true_eq]
      exact ⟨hrow, hgroup, by omega⟩
  · rw [if_neg hcommits, if_neg hcommits]
    rfl

/-- The id that comes back of a stored message is its own when it is the first of its time. -/
theorem sentId_eq_iff {t : GroupMessages} {m : GroupMessage} {msgId : ℕ}
    (h : (msgId, m) ∈ t.rows) :
    RemoteGroupClient.sentId (result tx { s with groupMessages := t }
        (GroupMessageService.getHistory m.groupId (m.createdAt + 1) 1)) msgId = msgId ↔
      ∀ row ∈ firstAt tx t m.groupId m.createdAt, row.1 = msgId := by
  rw [GroupMessageService.result_getHistory, ← head?_findByGroup ⟨_, h, rfl, rfl⟩]
  unfold RemoteGroupClient.sentId
  change (Option.map _ (List.map _ (GroupMessageRepository.findByGroup _ t _ _ _)).head?).getD _ =
    _ ↔ _
  cases GroupMessageRepository.findByGroup (tx (.findByGroup m.groupId (m.createdAt + 1) 1)) t
    m.groupId (m.createdAt + 1) 1 with
  | nil => simp
  | cons row rows => simp

/-- A message is the first of its time when its group has no other of the time. -/
theorem storedFirst_of_alone {m : GroupMessage} (h : ∀ row ∈ s.groupMessages.rows,
    row.2.groupId = m.groupId → row.2.createdAt ≠ m.createdAt) : StoredFirst tx s m := by
  intro msgId hstored row hfirst
  have hmem : row ∈ (GroupMessageRepository.create (tx (.createGroupMessage m)) s.groupMessages
      m).2.rows ∧ row.2.groupId = m.groupId ∧ row.2.createdAt = m.createdAt := by
    unfold firstAt at hfirst
    dsimp only at hfirst
    split_ifs at hfirst
    · have hfound := List.mem_of_find?_eq_some hfirst
      rw [Arrangement.mem_arrange, List.mem_filter, decide_eq_true_eq] at hfound
      exact ⟨hfound.1, hfound.2.1, by simpa using List.find?_some hfirst⟩
    · exact absurd hfirst (by simp)
  obtain ⟨hrow, hgroup, htime⟩ := hmem
  unfold GroupMessageRepository.create at hstored hrow
  split_ifs at hstored hrow
  · rcases List.mem_append.mp hrow with hold | hnew
    · exact absurd htime (h row hold hgroup)
    · rw [List.mem_singleton.mp hnew]
      exact Option.some.inj hstored
  · exact absurd hstored (by simp)

/-- A member's message over the two clients. -/
theorem same_sent_iff {groupId : ℕ} {content : String} (hid : groupId ≠ 0) (huid : uid ≠ "")
    (hcontent : content ≠ "") (hmember : Member tx s uid groupId) :
    sendResponse (result tx s ((localGroupClient now).sendMessage groupId uid content clock.ms)) =
        sendResponse (result tx s
          ((remoteGroupClient now').sendMessage groupId uid content clock.ms)) ↔
      StoredFirst tx s ⟨groupId, uid, content, clock.ms⟩ := by
  let m : GroupMessage := ⟨groupId, uid, content, clock.ms⟩
  let stored := GroupMessageRepository.create (tx (.createGroupMessage m)) s.groupMessages m
  let sent := GroupMessageService.sendMessage groupId uid content clock.ms
  have hexec := exec_sendMessage hid huid hmember content clock.ms
  have hresult : result tx s sent = storedResult stored.1 := congrArg Prod.fst hexec
  have hafter : after tx s sent = { s with groupMessages := stored.2 } := congrArg Prod.snd hexec
  dsimp only [localGroupClient, remoteGroupClient]
  rw [result_bind_pure, RemoteGroupClient.result_sendMessage now' hid huid hcontent clock.pos,
    hresult, hafter]
  -- Both clients store the message in the same way; the remote one reads its id back.
  change _ ↔ ∀ msgId ∈ stored.1, ∀ row ∈ firstAt tx stored.2 groupId clock.ms, row.1 = msgId
  cases hstored : stored.1 with
  | none => exact iff_of_true rfl fun msgId h => absurd h (by simp)
  | some msgId =>
    have hmem : (msgId, m) ∈ stored.2.rows := GroupMessageService.mem_rows_create hstored
    let back := RemoteGroupClient.sentId (result tx { s with groupMessages := stored.2 }
      (GroupMessageService.getHistory groupId (clock.ms + 1) 1)) msgId
    change HttpResponse.success 201 (SocialBody.messageSent messageSent msgId) =
      .success 201 (.messageSent messageSent back) ↔ _
    rw [HttpResponse.success.injEq, SocialBody.messageSent.injEq, eq_self, eq_self, true_and,
      true_and]
    calc msgId = back
      _ ↔ back = msgId := eq_comm
      _ ↔ ∀ row ∈ firstAt tx stored.2 groupId clock.ms, row.1 = msgId := sentId_eq_iff hmem
      _ ↔ _ := by simp

/-- A message that was not sent has one status. -/
theorem sendResponse_status {answer : GroupSendResult} {status : ℕ} {text : String}
    (h : sendResponse answer = .failure status text) : status = 500 := by
  cases answer with
  | error error => exact (HttpResponse.failure.inj h).1.symm
  | ok sent => exact absurd h (by simp [sendResponse])

/-- `handle_send_message` over the two clients. -/
theorem same_sendMessage_iff (body : JsonBody (UInt64 × String)) :
    result tx s (handleSendMessage (localGroupClient now) clock.ms uid body) =
        result tx s (handleSendMessage (remoteGroupClient now') clock.ms uid body) ↔
      Agrees tx s now' uid clock (.sendMessage body) := by
  refine same_withBody_iff (fun values => ?_) body
  obtain ⟨groupId, content⟩ := values
  dsimp only
  by_cases hid : groupId = 0
  · rw [if_pos hid, if_pos hid]
    exact iff_of_true rfl fun h => absurd hid h
  by_cases hcontent : content = ""
  · rw [if_neg hid, if_neg hid, if_pos hcontent, if_pos hcontent]
    exact iff_of_true rfl fun _ h => absurd hcontent h
  have hid' : groupId.toNat ≠ 0 := fun h => hid (UInt64.toNat_inj.mp h)
  rw [if_neg hid, if_neg hid, if_neg hcontent, if_neg hcontent, same_withMembers_iff]
  · refine Iff.trans ?_ ⟨fun h _ _ => h, fun h => h hid hcontent⟩
    refine and_congr_right fun hnamed => forall_congr' fun hmember => ?_
    have huid : uid ≠ "" := fun h => hnamed.user h hmember
    rw [result_bind_pure, result_bind_pure]
    exact same_sent_iff clock hid' huid hcontent hmember
  · intro members status text h
    rw [result_bind_pure] at h
    rw [sendResponse_status h]
    decide

section Newest

variable {rows rows' : List (ℕ × GroupMessage)} {arrangement arrangement' : Arrangement} {limit : ℤ}

/-- Of some rows one is the newest. -/
theorem newest_eq_nil_iff (hlimit : 0 < limit) :
    newest arrangement limit rows = [] ↔ rows = [] := by
  unfold newest
  have hne : limit.toNat ≠ 0 := by omega
  rw [List.take_eq_nil_iff, or_iff_right hne, ← List.length_eq_zero_iff, List.length_insertionSort,
    (arrangement.arrange_perm rows).length_eq, List.length_eq_zero_iff]

/-- Where the same rows are the newest, a row is no newer than all rows that there are. -/
theorem exists_le_of_newest_eq (hlimit : 0 < limit)
    (h : newest arrangement limit rows = newest arrangement' limit rows')
    {row : ℕ × GroupMessage} (hrow : row ∈ rows') :
    ∃ row' ∈ rows, row.2.createdAt ≤ row'.2.createdAt := by
  have hmem := (arrangement'.mem_arrange rows').mpr hrow
  have hcount : limit.toNat = limit.toNat - 1 + 1 := by omega
  unfold newest at h
  cases hsort : (arrangement'.arrange rows').insertionSort
      fun a b => b.2.createdAt ≤ a.2.createdAt with
  | nil =>
    rw [← List.mem_insertionSort fun a b => b.2.createdAt ≤ a.2.createdAt, hsort] at hmem
    exact absurd hmem List.not_mem_nil
  | cons first rest =>
    have hfirst : first ∈ (first :: rest).take limit.toNat := by
      rw [hcount]
      exact List.mem_cons_self
    rw [hsort] at h
    rw [← h] at hfirst
    have hfound := (List.mem_insertionSort _).mp (List.mem_of_mem_take hfirst)
    exact ⟨first, (arrangement.mem_arrange rows).mp hfound,
      key_le_head (fun row : ℕ × GroupMessage => row.2.createdAt) hsort hmem⟩

end Newest

/-- When the newest messages before two times are the same, none is from between. -/
theorem messagesBefore_eq {groupId : ℕ} {time time' limit : ℤ}
    {arrangement arrangement' : Arrangement} (hlimit : 0 < limit) (h : newest arrangement limit (messagesBefore s groupId time) =
      newest arrangement' limit (messagesBefore s groupId time')) :
    messagesBefore s groupId time = messagesBefore s groupId time' := by
  -- A message before the one time is no newer than some message before the other.
  have hbefore : ∀ {a a' : Arrangement} {t t' : ℤ},
      newest a limit (messagesBefore s groupId t) =
        newest a' limit (messagesBefore s groupId t') →
      ∀ row ∈ s.groupMessages.rows, row.2.groupId = groupId → row.2.createdAt < t' →
        row.2.createdAt < t := by
    intro a a' t t' heq row hrow hgroup hlt
    have hmem : row ∈ messagesBefore s groupId t' := by
      rw [messagesBefore, List.mem_filter, decide_eq_true_eq]
      exact ⟨hrow, hgroup, hlt⟩
    obtain ⟨row', hrow', hle⟩ := exists_le_of_newest_eq hlimit heq hmem
    rw [messagesBefore, List.mem_filter, decide_eq_true_eq] at hrow'
    omega
  refine List.filter_congr fun row hrow => decide_eq_decide.mpr ?_
  exact and_congr_right fun hgroup => ⟨hbefore h.symm row hrow hgroup, hbefore h row hrow hgroup⟩

/-- Two histories of a group are the same when their queries find the same: a message of a history
has all of its row but the group. -/
theorem same_history_iff {groupId : ℕ} {time limit : ℤ} (hlimit : 0 < limit) :
    result tx s (GroupMessageService.getHistory groupId time limit) =
        result tx s (GroupMessageService.getHistory groupId now limit) ↔
      FoundAlike tx s now groupId time limit := by
  have hquery : ∀ t, result tx s (query (.findByGroup groupId t limit)) =
      if (tx (.findByGroup groupId t limit)).commits = true then
        newest (tx (.findByGroup groupId t limit)).arrangement limit (messagesBefore s groupId t)
      else [] := fun _ => rfl
  have hrows : result tx s (GroupMessageService.getHistory groupId time limit) =
        result tx s (GroupMessageService.getHistory groupId now limit) ↔
      result tx s (query (.findByGroup groupId time limit)) =
        result tx s (query (.findByGroup groupId now limit)) := by
    constructor
    · intro h
      rw [← GroupMessageService.map_infoRow_getHistory,
        ← GroupMessageService.map_infoRow_getHistory, h]
    · intro h
      rw [GroupMessageService.result_getHistory, GroupMessageService.result_getHistory, h]
  rw [hrows, hquery, hquery]
  unfold FoundAlike
  dsimp only
  rcases (tx (.findByGroup groupId time limit)).commits with _ | _ <;>
    rcases (tx (.findByGroup groupId now limit)).commits with _ | _
  · exact iff_of_true rfl trivial
  · rw [if_neg Bool.false_ne_true, if_pos rfl, eq_comm]
    exact newest_eq_nil_iff hlimit
  · rw [if_neg Bool.false_ne_true, if_pos rfl]
    exact newest_eq_nil_iff hlimit
  · rw [if_pos rfl, if_pos rfl]
    constructor
    · intro h
      have hsame := messagesBefore_eq hlimit h
      exact ⟨hsame, hsame ▸ h⟩
    · rintro ⟨hsame, hties⟩
      rw [hsame, hties]

/-- The limit of a history is positive. -/
theorem historyLimit_pos {limit : Chat.NumberParam} {count : ℤ}
    (h : historyLimit limit = some count) : 0 < count := by
  cases limit with
  | absent =>
    obtain rfl := Option.some.inj h
    decide
  | invalid => exact absurd h (by simp [historyLimit])
  | value n =>
    obtain rfl := Option.some.inj h
    omega

/-- `handle_get_history` over the two clients. -/
theorem same_getHistory_iff (groupId : String) (before limit : Chat.NumberParam) :
    result tx s (handleGetHistory (localGroupClient now) clock.ms uid groupId before limit) =
        result tx s (handleGetHistory (remoteGroupClient now') clock.ms uid groupId before limit) ↔
      Agrees tx s now' uid clock (.getHistory groupId before limit) := by
  refine same_withGroupId_iff (fun id => ?_) groupId
  rw [same_withMembers_iff]
  · refine and_congr_right fun hnamed => forall_congr' fun hmember => ?_
    have huid : uid ≠ "" := fun h => hnamed.user h hmember
    have hfound := hmember.groupExists
    have hid : id ≠ 0 := fun h => absurd (hnamed.group h) (by rw [hfound]; decide)
    -- A query that is not valid is refused alike; else it is the time that matters.
    cases beforeTime clock.ms before with
    | none => exact iff_of_true rfl fun time h => absurd h (by simp)
    | some time =>
      cases hlimit : historyLimit limit with
      | none => exact iff_of_true rfl fun _ _ count h => absurd h (by simp)
      | some count =>
        dsimp only [localGroupClient, remoteGroupClient]
        rw [result_bind_pure, result_bind_pure, HttpResponse.success.injEq,
          SocialBody.messages.injEq, eq_self, true_and,
          RemoteGroupClient.result_getHistory now' time hid huid hfound hmember
            (historyLimit_pos hlimit)]
        by_cases hpos : time > 0
        · rw [if_pos hpos]
          simp
          omega
        · rw [if_neg hpos, same_history_iff (historyLimit_pos hlimit)]
          simp
          omega
  · intro members status text h
    -- What follows the members refuses with 400 only.
    have hstatus : 400 = status := by
      cases htime : beforeTime clock.ms before with
      | none =>
        rw [htime] at h
        exact (HttpResponse.failure.inj h).1
      | some time =>
        cases hlimit : historyLimit limit with
        | none =>
          rw [htime, hlimit] at h
          exact (HttpResponse.failure.inj h).1
        | some count =>
          simp only [htime, hlimit, result_bind_pure] at h
          exact absurd h (by simp)
    rw [← hstatus]
    decide

/-! ## The API -/

/-- A user's call over the two clients. -/
theorem same_answer_iff (call : SocialCall) :
    result tx s ((localApi now).answer clock.ms uid call) =
        result tx s ((remoteApi now').answer clock.ms uid call) ↔
      Agrees tx s now' uid clock call := by
  cases call with
  | sendRequest body => exact same_sendRequest_iff clock body
  | respondRequest body => exact iff_of_true (same_respondRequest body) trivial
  | listFriends => exact same_listFriends_iff clock
  | pendingRequests => exact same_pendingRequests_iff clock
  | createGroup body => exact same_createGroup_iff clock body
  | joinGroup body => exact same_joinGroup_iff clock body
  | leaveGroup body => exact same_leaveGroup_iff clock body
  | groupInfo groupId => exact same_groupInfo_iff clock groupId
  | searchGroups q keyword => exact same_searchGroups_iff clock q keyword
  | listGroups => exact same_listGroups_iff clock
  | listMembers groupId => exact same_listMembers_iff clock groupId
  | sendMessage body => exact same_sendMessage_iff clock body
  | getHistory groupId before limit => exact same_getHistory_iff clock groupId before limit

/-- The response to a request is the same over the local and over the remote clients exactly when
its token is refused, or its call is answered alike. -/
theorem social_transparent_iff (tx : Command → Tx) (s : Stores) (verify : Verify) (clock : Clock)
    (now now' : ℤ) (request : SocialRequest) :
    result tx s ((localApi now).handle clock.ms verify request) =
        result tx s ((remoteApi now').handle clock.ms verify request) ↔
      ∀ info : UserTokenInfo,
        authenticate verify request.authorization =
            (.ok info : Except SocialResponse UserTokenInfo) →
          Agrees tx s now' info.userId clock request.call := by
  unfold SocialApi.handle
  rcases authenticate verify request.authorization with response | info
  · exact iff_of_true rfl fun info h => absurd h (by simp)
  · simpa using same_answer_iff clock request.call

/-- A user `alice`, and nobody else. -/
def onlyAlice : Stores :=
  { Stores.empty with
    users :=
      { rows := [⟨"alice", "alice", "", "Alice", "", .unknown, "", 1, 1, false⟩]
        uid_nodup := by decide
        account_nodup := by decide } }

/-- A request to `bob`, with a token. -/
def requestToBob : SocialRequest := ⟨some "Bearer token", .sendRequest (.fields "bob")⟩

/-- A friend request to a user who does not exist is not found over the local client, and bad over
the remote client. -/
theorem sendRequest_differs :
    result (fun _ => .commit) onlyAlice ((localApi 5).handle 5 (fun _ => some ⟨"alice", "phone"⟩)
        requestToBob) = .failure 404 "Target user does not exist" ∧
      result (fun _ => .commit) onlyAlice ((remoteApi 6).handle 5 (fun _ => some ⟨"alice", "phone"⟩)
        requestToBob) = .failure 400 "Target user does not exist" := by
  decide +kernel

end MyChat.Social
