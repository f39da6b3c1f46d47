import MyChat.Social.Permissions

/-!
# Every change and every response has an authority

The local and the remote clients keep to what a user may change and see, and so do the handlers over
either. `social_writes` says that in every interleaving of requests to gateways of both kinds each
row that is made, changed, or deleted is so by a request whose token is of the user who may, on the
ground of tables that this very request has met, and `social_reads` says the same of what a response
shows.
-/

namespace MyChat.Social

open Interleaving CommandProgram
open Chat (HttpResponse JsonBody Verify authenticate)

section User

variable {verify : Verify} {visit : SocialVisit} {uid : String}

/-! ## Clients -/

variable (verify visit uid) in
/-- The friend client keeps the warrant when it is called for the user. -/
structure AllowsFriends (client : FriendClient) : Prop where
  /-- `send_request`. -/
  sendRequest : ∀ targetUid nowMs met s, Allowed verify visit (fun _ _ => True) met
    (client.sendRequest ⟨uid, targetUid, nowMs⟩) s
  /-- `respond_to_request`. -/
  respondToRequest : ∀ friendId accept met s, Allowed verify visit (fun _ _ => True) met
    (client.respondToRequest friendId uid accept) s
  /-- `get_friends`. -/
  getFriends : ∀ met s, Allowed verify visit
    (fun met' infos => ∀ info ∈ infos, ShowsFriend uid met' .accepted info) met
    (client.getFriends uid) s
  /-- `get_pending_requests`. -/
  getPendingRequests : ∀ met s, Allowed verify visit
    (fun met' infos => ∀ info ∈ infos, ShowsRequest uid met' info) met
    (client.getPendingRequests uid) s

variable (verify visit uid) in
/-- The group client keeps the warrant when it is called for the user. -/
structure AllowsGroups (client : GroupClient) : Prop where
  /-- `create_group`. -/
  createGroup : ∀ name nowMs met s, Allowed verify visit (fun _ _ => True) met
    (client.createGroup ⟨name, uid, nowMs⟩) s
  /-- `join_group`. -/
  joinGroup : ∀ groupId nowMs met s, Allowed verify visit (fun _ _ => True) met
    (client.joinGroup groupId uid nowMs) s
  /-- `leave_group`. -/
  leaveGroup : ∀ groupId met s, Allowed verify visit (fun _ _ => True) met
    (client.leaveGroup groupId uid) s
  /-- `list_my_groups`. -/
  listMyGroups : ∀ met s, Allowed verify visit
    (fun met' groups => ∀ group ∈ groups, ∃ s ∈ met', IsMember s group.groupId uid) met
    (client.listMyGroups uid) s
  /-- `get_group_info`. -/
  getGroupInfo : ∀ groupId met s, Allowed verify visit
    (fun _ found => ∀ group ∈ (found : Option GroupInfo), group.groupId = groupId) met
    (client.getGroupInfo groupId) s
  /-- `search_groups`. -/
  searchGroups : ∀ keyword limit met s, Allowed verify visit (fun _ _ => True) met
    (client.searchGroups keyword limit) s
  /-- `group_exists`. -/
  groupExists : ∀ groupId met s, Allowed verify visit (fun _ _ => True) met
    (client.groupExists groupId) s
  /-- `list_members`. -/
  listMembers : ∀ groupId met s, Allowed verify visit
    (fun met' members => ∀ info ∈ members, ShowsMember uid met' groupId info) met
    (client.listMembers groupId uid) s
  /-- `send_message`. -/
  sendMessage : ∀ groupId content nowMs met s, Allowed verify visit (fun _ _ => True) met
    (client.sendMessage groupId uid content nowMs) s
  /-- `get_history`. -/
  getHistory : ∀ groupId before limit met s, Allowed verify visit
    (fun met' infos => ∀ info ∈ infos, IsMessage met' groupId info) met
    (client.getHistory groupId uid before limit) s

/-- `LocalFriendClient`. -/
theorem allowsFriends_local (hby : visit.IsBy verify uid) (now : ℤ) :
    AllowsFriends verify visit uid (localFriendClient now) where
  sendRequest _ _ := allowed_sendRequest hby now rfl
  respondToRequest := allowed_respondToRequest hby
  getFriends := allowed_getFriends hby
  getPendingRequests := allowed_getPendingRequests hby

/-- `LocalGroupClient`. -/
theorem allowsGroups_local (hby : visit.IsBy verify uid) (now : ℤ) :
    AllowsGroups verify visit uid (localGroupClient now) where
  createGroup _ _ := allowed_createGroup hby now rfl
  joinGroup := allowed_joinGroup hby now
  leaveGroup := allowed_leaveGroup hby
  listMyGroups := allowed_listMyGroups hby
  getGroupInfo := allowed_getGroupInfo hby
  searchGroups := allowed_searchGroups hby
  groupExists := allowed_groupExists hby
  listMembers := allowed_listMembers hby
  sendMessage groupId content nowMs met s :=
    warranted_bind (allowed_sendMessage hby groupId content nowMs met s) fun _ _ _ _ _ _ => trivial
  getHistory := allowed_getHistory hby

section Remote

/-- `send_request` of the remote client, whose server reads the pending requests after it. -/
theorem allowed_remoteSendRequest (hby : visit.IsBy verify uid) (now : ℤ) (targetUid : String)
    (nowMs : ℤ) (met : Set Stores) (s : Stores) :
    Allowed verify visit (fun _ _ => True) met
      (RemoteFriendClient.sendRequest now ⟨uid, targetUid, nowMs⟩) s := by
  refine warranted_bind (Q := fun _ _ _ => True) ?_ fun _ _ _ _ _ _ => trivial
  refine warranted_bind (allowed_sendRequest hby now rfl met s) fun met₁ s₁ result _ _ _ => ?_
  cases result with
  | error error => trivial
  | ok text =>
  -- These are the requests to the target, of which one is sent back.
  refine warranted_bind (Q := fun _ _ _ => True) ?_ fun _ _ pending _ _ _ => ?_
  · refine allowed_read hby (fun _ _ => rfl) fun s₂ tx₂ _ => ?_
    exact (warranted_mapM fun row _ met s =>
      allowed_toFriendInfo hby row targetUid met s).mono fun _ _ _ _ _ _ => trivial
  · dsimp only
    split <;> trivial

/-- `RemoteFriendClient`. -/
theorem allowsFriends_remote (hby : visit.IsBy verify uid) (now : ℤ) :
    AllowsFriends verify visit uid (remoteFriendClient now) where
  sendRequest := allowed_remoteSendRequest hby now
  respondToRequest friendId accept met s := by
    refine warranted_bind (Q := fun _ _ _ => True) ?_ fun _ _ _ _ _ _ => trivial
    unfold FriendGrpcService.respondToRequest
    dsimp only
    rcases Rpc.stoull (toString friendId) with _ | id
    · trivial
    · exact warranted_bind (allowed_respondToRequest hby id accept met s) fun _ _ _ _ _ _ => trivial
  getFriends met s := by
    by_cases huid : uid = ""
    · subst huid
      exact fun info hinfo => absurd hinfo List.not_mem_nil
    have heq : RemoteFriendClient.getFriends uid = FriendService.getFriends uid >>= fun infos =>
        done ((infos.map FriendGrpcService.fillFriendInfo).map RemoteFriendClient.toInfo) := by
      unfold RemoteFriendClient.getFriends FriendGrpcService.getFriends
      rw [if_neg huid, CommandProgram.bind_assoc]
      rfl
    change Allowed verify visit _ met (RemoteFriendClient.getFriends uid) s
    rw [heq]
    refine warranted_bind (allowed_getFriends hby met s) fun met' _ infos _ _ hinfos => ?_
    -- What is accepted comes back from the wire as it was.
    have hsame : ∀ info ∈ infos,
        RemoteFriendClient.toInfo (FriendGrpcService.fillFriendInfo info) = info :=
      fun info hinfo => RemoteFriendClient.toInfo_fillFriendInfo
        (by rw [(hinfos info hinfo).1]; decide)
    have hback := map_back hsame
    exact fun info hinfo => hinfos info (hback ▸ hinfo)
  getPendingRequests met s := by
    by_cases huid : uid = ""
    · subst huid
      exact fun info hinfo => absurd hinfo List.not_mem_nil
    have heq : RemoteFriendClient.getPendingRequests uid =
        FriendService.getPendingRequests uid >>= fun infos =>
          done ((infos.map fun item => { FriendGrpcService.fillFriendRequest item with
            toUid := uid }).map RemoteFriendClient.requestToInfo) := by
      unfold RemoteFriendClient.getPendingRequests FriendGrpcService.getPendingRequests
      rw [if_neg huid, CommandProgram.bind_assoc]
      rfl
    change Allowed verify visit _ met (RemoteFriendClient.getPendingRequests uid) s
    rw [heq]
    refine warranted_bind (allowed_getPendingRequests hby met s) fun met' _ infos _ _ hinfos => ?_
    have hsame : ∀ info ∈ infos, RemoteFriendClient.requestToInfo
        { FriendGrpcService.fillFriendRequest info with toUid := uid } = info :=
      fun info hinfo => RemoteFriendClient.requestToInfo_fillFriendRequest
        (by rw [(hinfos info hinfo).1.1]; decide) uid
    have hback := map_back hsame
    exact fun info hinfo => hinfos info (hback ▸ hinfo)

/-- `list_members` of the remote client. -/
theorem allowed_remoteListMembers (hby : visit.IsBy verify uid) (groupId : ℕ) (met : Set Stores)
    (s : Stores) :
    Allowed verify visit (fun met' members => ∀ info ∈ members, ShowsMember uid met' groupId info)
      met (RemoteGroupClient.listMembers groupId uid) s := by
  have hnil : ∀ met', ∀ info ∈ ([] : List MemberInfo), ShowsMember uid met' groupId info :=
    fun _ info hinfo => absurd hinfo List.not_mem_nil
  unfold RemoteGroupClient.listMembers GroupGrpcService.listMembers
  rw [RemoteGroupClient.groupIdFrom_empty]
  dsimp only
  by_cases hrefused : groupId = 0 ∨ uid = ""
  · rw [if_pos hrefused]
    exact hnil met
  rw [if_neg hrefused, CommandProgram.bind_assoc]
  refine warranted_bind (allowed_groupExists hby groupId met s) fun met₁ s₁ found _ _ _ => ?_
  cases found with
  | false => exact hnil met₁
  | true =>
  rw [Bool.not_true, if_neg Bool.false_ne_true, CommandProgram.bind_assoc]
  refine warranted_bind (allowed_listMembers hby groupId met₁ s₁)
    fun met₂ s₂ members _ _ hshows => ?_
  by_cases hempty : members = []
  · rw [if_pos hempty]
    exact hnil met₂
  · rw [if_neg hempty]
    have hback := RemoteGroupClient.ofList_map RemoteGroupClient.toMemberInfo_fillMemberInfo members
    exact fun info hinfo => hshows info (hback ▸ hinfo)

/-- `send_message` of the remote client, whose server reads the newest message of the group after
it. -/
theorem allowed_remoteSendMessage (hby : visit.IsBy verify uid) (now : ℤ) (groupId : ℕ)
    (content : String) (nowMs : ℤ) (met : Set Stores) (s : Stores) :
    Allowed verify visit (fun _ _ => True) met
      (RemoteGroupClient.sendMessage now groupId uid content nowMs) s := by
  refine warranted_bind (Q := fun _ _ _ => True) ?_ fun _ _ _ _ _ _ => trivial
  unfold GroupGrpcService.sendGroupMessage
  dsimp only
  by_cases hrefused : groupId = 0 ∨ uid = "" ∨ content = ""
  · rw [if_pos hrefused]
    trivial
  rw [if_neg hrefused]
  refine warranted_bind (allowed_sendMessage hby groupId content _ met s)
    fun met₁ s₁ result _ _ _ => ?_
  cases result with
  | error error => trivial
  | ok msgId =>
  refine warranted_bind (allowed_getHistory hby groupId _ 1 met₁ s₁) fun _ _ messages _ _ _ => ?_
  rcases messages.head? with _ | message
  · trivial
  · trivial

/-- `get_history` of the remote client. -/
theorem allowed_remoteGetHistory (hby : visit.IsBy verify uid) (now : ℤ) (groupId : ℕ)
    (before limit : ℤ) (met : Set Stores) (s : Stores) :
    Allowed verify visit (fun met' infos => ∀ info ∈ infos, IsMessage met' groupId info) met
      (RemoteGroupClient.getHistory now groupId uid before limit) s := by
  have hnil : ∀ met', ∀ info ∈ ([] : List GroupMessageInfo), IsMessage met' groupId info :=
    fun _ info hinfo => absurd hinfo List.not_mem_nil
  unfold RemoteGroupClient.getHistory GroupGrpcService.getGroupMessages
  rw [RemoteGroupClient.groupIdFrom_empty]
  dsimp only
  by_cases hrefused : groupId = 0 ∨ uid = ""
  · rw [if_pos hrefused]
    exact hnil met
  rw [if_neg hrefused, CommandProgram.bind_assoc]
  refine warranted_bind (allowed_groupExists hby groupId met s) fun met₁ s₁ found _ _ _ => ?_
  cases found with
  | false => exact hnil met₁
  | true =>
  rw [Bool.not_true, if_neg Bool.false_ne_true, CommandProgram.bind_assoc]
  refine warranted_bind (allowed_listMembers hby groupId met₁ s₁) fun met₂ s₂ members _ _ _ => ?_
  by_cases hempty : members = []
  · rw [if_pos hempty]
    exact hnil met₂
  rw [if_neg hempty, CommandProgram.bind_assoc]
  refine warranted_bind (allowed_getHistory hby groupId _ _ met₂ s₂)
    fun met₃ _ infos _ _ hinfos => ?_
  have hback := RemoteGroupClient.ofList_map
    (RemoteGroupClient.toGroupMessage_fillGroupMessage groupId) infos
  exact fun info hinfo => hinfos info (hback ▸ hinfo)

/-- `RemoteGroupClient`. -/
theorem allowsGroups_remote (hby : visit.IsBy verify uid) (now : ℤ) :
    AllowsGroups verify visit uid (remoteGroupClient now) where
  createGroup name nowMs met s := by
    refine warranted_bind (Q := fun _ _ _ => True) ?_ fun _ _ _ _ _ _ => trivial
    refine warranted_bind (allowed_createGroup hby now rfl met s) fun met₁ s₁ result _ _ _ => ?_
    cases result with
    | error error => trivial
    | ok created =>
      exact warranted_bind (allowed_listMyGroups hby met₁ s₁) fun _ _ _ _ _ _ => trivial
  joinGroup groupId nowMs met s := by
    refine warranted_bind (Q := fun _ _ _ => True) ?_ fun _ _ _ _ _ _ => trivial
    unfold GroupGrpcService.joinGroup
    split_ifs
    · trivial
    · exact warranted_bind (allowed_joinGroup hby now groupId _ met s) fun _ _ _ _ _ _ => trivial
  leaveGroup groupId met s := by
    refine warranted_bind (Q := fun _ _ _ => True) ?_ fun _ _ _ _ _ _ => trivial
    unfold GroupGrpcService.leaveGroup
    split_ifs
    · trivial
    · exact warranted_bind (allowed_leaveGroup hby groupId met s) fun _ _ _ _ _ _ => trivial
  listMyGroups met s := by
    by_cases huid : uid = ""
    · subst huid
      exact fun group hgroup => absurd hgroup List.not_mem_nil
    · change Allowed verify visit _ met (RemoteGroupClient.listMyGroups uid) s
      rw [RemoteGroupClient.listMyGroups_eq huid]
      exact allowed_listMyGroups hby met s
  getGroupInfo groupId met s := by
    by_cases hid : groupId = 0
    · subst hid
      exact fun group hgroup => absurd hgroup (by simp)
    · change Allowed verify visit _ met (RemoteGroupClient.getGroupInfo groupId) s
      rw [RemoteGroupClient.getGroupInfo_eq hid]
      exact allowed_getGroupInfo hby groupId met s
  searchGroups keyword limit met s := by
    change Allowed verify visit _ met (RemoteGroupClient.searchGroups keyword limit) s
    unfold RemoteGroupClient.searchGroups GroupGrpcService.searchGroups
    dsimp only
    by_cases hempty : keyword = "" ∨ limit = 0
    · rw [if_pos hempty]
      trivial
    rw [if_neg hempty, if_neg fun h => hempty (Or.inl h), CommandProgram.bind_assoc]
    exact warranted_bind (allowed_searchGroups hby keyword _ met s) fun _ _ _ _ _ _ => trivial
  groupExists groupId met s := by
    by_cases hid : groupId = 0
    · subst hid
      trivial
    · change Allowed verify visit _ met (RemoteGroupClient.groupExists groupId) s
      rw [RemoteGroupClient.groupExists_eq hid]
      exact allowed_groupExists hby groupId met s
  listMembers := allowed_remoteListMembers hby
  sendMessage := allowed_remoteSendMessage hby now
  getHistory := allowed_remoteGetHistory hby now

end Remote

/-! ## Handlers -/

section Handlers

open FriendHttpController GroupHttpController GroupMessageHttpController

variable {call : SocialCall} {met : Set Stores} {s : Stores}

/-- A handler that needs the fields of its body. -/
theorem allowed_withBody {α : Type} (body : JsonBody α) {next : α → Program SocialResponse}
    (h : ∀ values, body = .fields values →
      Allowed verify visit (fun met r => Shows uid met call r) met (next values) s) :
    Allowed verify visit (fun met r => Shows uid met call r) met (withBody body next) s := by
  cases body with
  | invalid => trivial
  | typeError => trivial
  | fields values => exact h values rfl

/-- A handler that needs the id of a group. -/
theorem allowed_withGroupId {groupId : String} {next : ℕ → Program SocialResponse}
    (h : ∀ id, Rpc.stoull groupId = some id →
      Allowed verify visit (fun met r => Shows uid met call r) met (next id) s) :
    Allowed verify visit (fun met r => Shows uid met call r) met (withGroupId groupId next) s := by
  unfold withGroupId
  by_cases hempty : groupId = ""
  · rw [if_pos hempty]
    trivial
  rw [if_neg hempty]
  rcases hid : Rpc.stoull groupId with _ | id
  · trivial
  · exact h id hid

/-- What a response to a result of the friend client shows. -/
theorem shows_friendResult (status : ℕ) (errorStatus : String → ℕ) (result : FriendResult) :
    Shows uid met call (FriendHttpController.respond status errorStatus result) := by
  cases result with
  | error error => trivial
  | ok text => trivial

/-- The requests about friends. -/
theorem allowed_friendHandlers {client : FriendClient} (h : AllowsFriends verify visit uid client)
    (nowMs : ℤ) :
    (∀ body, Allowed verify visit (fun met r => Shows uid met call r) met
      (handleSendRequest client nowMs uid body) s) ∧
    (∀ body, Allowed verify visit (fun met r => Shows uid met call r) met
      (handleRespondRequest client uid body) s) ∧
    Allowed verify visit (fun met r => Shows uid met call r) met (handleListFriends client uid) s ∧
    Allowed verify visit (fun met r => Shows uid met call r) met
      (handlePendingRequests client uid) s := by
  refine ⟨fun body => allowed_withBody body fun targetUid _ => ?_,
    fun body => allowed_withBody body fun values _ => ?_, ?_, ?_⟩
  · by_cases hempty : targetUid = ""
    · simp only [hempty, if_true]
      trivial
    simp only [hempty, if_false]
    exact warranted_bind (h.sendRequest targetUid nowMs met s) fun _ _ result _ _ _ =>
      shows_friendResult 201 sendStatus result
  · by_cases hzero : values.1 = 0
    · simp only [hzero, if_true]
      trivial
    simp only [hzero, if_false]
    exact warranted_bind (h.respondToRequest values.1.toNat values.2 met s) fun _ _ result _ _ _ =>
      shows_friendResult 200 respondStatus result
  · exact warranted_bind (h.getFriends met s) fun _ _ _ _ _ hinfos => hinfos
  · exact warranted_bind (h.getPendingRequests met s) fun _ _ _ _ _ hinfos => hinfos

/-- What a response to a result of the group client shows. -/
theorem shows_groupResult (status : ℕ) {body : GroupDone → SocialBody} (errorStatus : String → ℕ)
    (hbody : ∀ status done, Shows uid met call (.success status (body done)))
    (result : GroupResult) :
    Shows uid met call (GroupHttpController.respond status body errorStatus result) := by
  cases result with
  | error error => trivial
  | ok done => exact hbody status done

/-- The requests that change groups. -/
theorem allowed_groupActions {client : GroupClient} (h : AllowsGroups verify visit uid client)
    (nowMs : ℤ) :
    (∀ body, Allowed verify visit (fun met r => Shows uid met call r) met
      (handleCreateGroup client nowMs uid body) s) ∧
    (∀ body, Allowed verify visit (fun met r => Shows uid met call r) met
      (handleJoinGroup client nowMs uid body) s) ∧
    ∀ body, Allowed verify visit (fun met r => Shows uid met call r) met
      (handleLeaveGroup client uid body) s := by
  refine ⟨fun body => allowed_withBody body fun name _ => ?_,
    fun body => allowed_withBody body fun groupId _ => ?_,
    fun body => allowed_withBody body fun groupId _ => ?_⟩
  · by_cases hempty : name = ""
    · simp only [hempty, if_true]
      trivial
    simp only [hempty, if_false]
    refine warranted_bind (h.createGroup name nowMs met s) fun _ _ result _ _ _ => ?_
    exact shows_groupResult 201 createStatus (fun _ _ => by trivial) result
  · by_cases hzero : groupId = 0
    · simp only [hzero, if_true]
      trivial
    simp only [hzero, if_false]
    refine warranted_bind (h.joinGroup groupId.toNat nowMs met s) fun _ _ result _ _ _ => ?_
    exact shows_groupResult 200 joinStatus (fun _ _ => by trivial) result
  · by_cases hzero : groupId = 0
    · simp only [hzero, if_true]
      trivial
    simp only [hzero, if_false]
    refine warranted_bind (h.leaveGroup groupId.toNat met s) fun _ _ result _ _ _ => ?_
    exact shows_groupResult 200 leaveStatus (fun _ _ => by trivial) result

/-- `handle_group_info` shows the members to a member. -/
theorem allowed_handleGroupInfo {client : GroupClient} (h : AllowsGroups verify visit uid client)
    (groupId : String) :
    Allowed verify visit (fun met r => Shows uid met call r) met
      (handleGroupInfo client uid groupId) s := by
  refine allowed_withGroupId fun id _ => ?_
  refine warranted_bind (h.getGroupInfo id met s) fun met₁ s₁ found _ _ hid => ?_
  rcases found with _ | group
  · trivial
  obtain rfl : group.groupId = id := hid group rfl
  refine warranted_bind (h.listMembers group.groupId met₁ s₁) fun met₂ s₂ members _ _ hshows => ?_
  refine ⟨fun hjoined => ?_, hshows⟩
  -- Only a member is shown any member.
  cases members with
  | nil => exact nomatch hjoined
  | cons info members => exact (hshows info List.mem_cons_self).1

/-- `handle_search_groups` says which of the groups are the user's. -/
theorem allowed_handleSearchGroups {client : GroupClient}
    (h : AllowsGroups verify visit uid client) (q keyword : Option String) :
    Allowed verify visit (fun met r => Shows uid met call r) met
      (handleSearchGroups client uid q keyword) s := by
  unfold handleSearchGroups
  by_cases hempty : (if q.getD "" = "" then keyword.getD "" else q.getD "") = ""
  · rw [if_pos hempty]
    trivial
  rw [if_neg hempty]
  refine warranted_bind (h.searchGroups _ 20 met s) fun met₁ s₁ groups _ _ _ => ?_
  refine warranted_bind (h.listMyGroups met₁ s₁) fun met₂ s₂ mine _ _ hmine => ?_
  intro found hfound hjoined
  obtain ⟨group, -, rfl⟩ := List.mem_map.mp hfound
  obtain ⟨own, hown, heq⟩ := List.any_eq_true.mp hjoined
  exact of_decide_eq_true heq ▸ hmine own hown

/-- What comes after the user was found in the group. -/
theorem allowed_withMembers {client : GroupClient} (h : AllowsGroups verify visit uid client)
    (groupId : ℕ) {next : List MemberInfo → Program SocialResponse}
    (hnext : ∀ met' s' members, members ≠ [] →
      (∀ info ∈ members, ShowsMember uid met' groupId info) →
      Allowed verify visit (fun met r => Shows uid met call r) met' (next members) s') :
    Allowed verify visit (fun met r => Shows uid met call r) met
      (withMembers client uid groupId next) s := by
  unfold withMembers
  refine warranted_bind (h.groupExists groupId met s) fun met₁ s₁ found _ _ _ => ?_
  cases found with
  | false => trivial
  | true =>
  refine warranted_bind (h.listMembers groupId met₁ s₁) fun met₂ s₂ members _ _ hshows => ?_
  cases members with
  | nil => trivial
  | cons info members =>
  rw [if_neg (List.cons_ne_nil info members)]
  exact hnext met₂ s₂ _ (List.cons_ne_nil info members) hshows

/-- `handle_send_message` writes for the user. -/
theorem allowed_handleSendMessage {client : GroupClient} (h : AllowsGroups verify visit uid client)
    (nowMs : ℤ) (body : JsonBody (UInt64 × String)) :
    Allowed verify visit (fun met r => Shows uid met call r) met
      (handleSendMessage client nowMs uid body) s := by
  refine allowed_withBody body fun values _ => ?_
  by_cases hzero : values.1 = 0
  · simp only [hzero, if_true]
    trivial
  by_cases hempty : values.2 = ""
  · simp only [hzero, hempty, if_true, if_false]
    trivial
  simp only [hzero, hempty, if_false]
  refine allowed_withMembers h values.1.toNat fun met' s' _ _ _ => ?_
  refine warranted_bind (h.sendMessage values.1.toNat values.2 nowMs met' s')
    fun _ _ result _ _ _ => ?_
  cases result with
  | error error => trivial
  | ok sent => trivial

/-- What the handler of a request does for its user is what this user may. -/
theorem allowed_answer {api : SocialApi}
    (hfriends : AllowsFriends verify visit uid api.friendClient)
    (hgroups : AllowsGroups verify visit uid api.groupClient) (nowMs : ℤ) (call : SocialCall)
    (met : Set Stores) (s : Stores) :
    Allowed verify visit (fun met r => Shows uid met call r) met (api.answer nowMs uid call) s := by
  cases call with
  | sendRequest body => exact (allowed_friendHandlers hfriends nowMs).1 body
  | respondRequest body => exact (allowed_friendHandlers hfriends nowMs).2.1 body
  | listFriends => exact (allowed_friendHandlers hfriends nowMs).2.2.1
  | pendingRequests => exact (allowed_friendHandlers hfriends nowMs).2.2.2
  | createGroup body => exact (allowed_groupActions hgroups nowMs).1 body
  | joinGroup body => exact (allowed_groupActions hgroups nowMs).2.1 body
  | leaveGroup body => exact (allowed_groupActions hgroups nowMs).2.2 body
  | groupInfo groupId => exact allowed_handleGroupInfo hgroups groupId
  | searchGroups q keyword => exact allowed_handleSearchGroups hgroups q keyword
  | listGroups => exact warranted_bind (hgroups.listMyGroups met s) fun _ _ _ _ _ hgroups => hgroups
  | listMembers groupId =>
    refine allowed_withGroupId fun id hid => ?_
    refine allowed_withMembers hgroups id fun met' s' members hne hshows => ?_
    exact ⟨groupId, id, rfl, hid, hne, hshows⟩
  | sendMessage body => exact allowed_handleSendMessage hgroups nowMs body
  | getHistory groupId before limit =>
    refine allowed_withGroupId fun id hid => ?_
    refine allowed_withMembers hgroups id fun met' s' members hne hshows => ?_
    rcases beforeTime nowMs before with _ | time
    · trivial
    rcases historyLimit limit with _ | n
    · trivial
    obtain ⟨info, hinfo⟩ := List.exists_mem_of_ne_nil members hne
    obtain ⟨⟨s₀, hs₀, hmember⟩, -⟩ := hshows info hinfo
    refine warranted_bind (hgroups.getHistory id time n met' s')
      fun met₂ _ infos hsub _ hinfos => ?_
    exact ⟨groupId, before, limit, id, rfl, hid, ⟨s₀, hsub hs₀, hmember⟩, hinfos⟩

end Handlers

end User

/-! ## Runs -/

/-- The handler of a request keeps the warrant, whatever its deployment. -/
theorem warranted_visit (verify : Verify) (visit : SocialVisit) (s : Stores) :
    Warranted (socialWarrant verify) handle visit
      (fun met _ => (socialWarrant verify).ends visit met) ∅ (visit.program verify) s := by
  unfold SocialVisit.program SocialApi.handle
  rcases hauth : authenticate (β := SocialBody) verify visit.request.authorization with
    response | info
  · refine Or.inr ?_
    unfold authenticate at hauth
    dsimp only at hauth
    split_ifs at hauth
    · exact ⟨_, (Except.error.inj hauth).symm⟩
    · split at hauth
      · exact ⟨_, (Except.error.inj hauth).symm⟩
      · exact nomatch hauth
  · have hby : visit.IsBy verify info.userId := ⟨info, hauth, rfl⟩
    have hanswer : Allowed verify visit
        (fun met r => Shows info.userId met visit.request.call r) ∅
        ((visit.deployment.api visit.now).answer visit.nowMs info.userId visit.request.call) s := by
      rcases visit.deployment with _ | _
      · exact allowed_answer (allowsFriends_local hby _) (allowsGroups_local hby _) _ _ ∅ s
      · exact allowed_answer (allowsFriends_remote hby _) (allowsGroups_remote hby _) _ _ ∅ s
    exact hanswer.mono fun met' _ r _ _ hshows => Or.inl ⟨info.userId, hby, hshows⟩

/-- At every moment of every run the tables stay as they are, or a request whose token is of some
user makes a change that this user may make, on the ground of tables that the request has met. -/
theorem social_writes (verify : Verify) (server : Stores) (turns : List (Turn SocialVisit Tx))
    (t : Turn SocialVisit Tx) :
    (socialAfter verify server (turns ++ [t])).server = (socialAfter verify server turns).server ∨
      ∃ i tx visit p uid, t = .turn i tx ∧
        (socialAfter verify server turns).calls[i]? = some (visit, p) ∧ visit.IsBy verify uid ∧
        ActsAs uid (socialMet verify server turns i) (socialAfter verify server turns).server
          (socialAfter verify server (turns ++ [t])).server := by
  have hheld : Held (socialWarrant verify) _ _ server turns _ :=
    warranted_run (fun visit s => warranted_visit verify visit s) turns
  rcases hheld.entitled t with hsame | ⟨i, tx, visit, p, ht, hcall, uid, hby, hacts⟩
  · exact Or.inl hsame
  · exact Or.inr ⟨i, tx, visit, p, uid, ht, hcall, hby, hacts⟩

/-- In every run a response shows what its user may see, of tables that the request has met, or
refuses a request without a token of a user. -/
theorem social_reads (verify : Verify) (server : Stores) (turns : List (Turn SocialVisit Tx))
    {i : ℕ} {visit : SocialVisit} {response : SocialResponse}
    (hcall : (socialAfter verify server turns).calls[i]? = some (visit, .done response)) :
    (∃ uid, visit.IsBy verify uid ∧
      Shows uid (socialMet verify server turns i) visit.request.call response) ∨
      ∃ text, response = .failure 401 text := by
  have hheld : Held (socialWarrant verify) _ _ server turns _ :=
    warranted_run (fun visit s => warranted_visit verify visit s) turns
  exact hheld.ends hcall

/-- A group with one member, who has written one message to it. -/
def oneMember : Stores where
  users := .empty
  friends := .empty
  groups := Table.empty.persist 0 ⟨"readers", "alice", 5⟩
  members := Table.empty.persist 0 ⟨1, "alice", .owner, 5⟩
  groupMessages := Table.empty.persist 0 ⟨1, "alice", "hello", 10⟩

/-- Tokens that are the uid of their user. -/
def verifyUid : Verify := fun token => some ⟨token, "device"⟩

/-- The history of the group, asked for by its member. -/
def aliceReads : SocialVisit where
  deployment := .inProcess
  now := 20
  nowMs := 20
  request := ⟨some "Bearer alice", .getHistory "1" .absent .absent⟩

/-- The member is shown the message. -/
theorem social_reads_alice :
    (∃ uid, aliceReads.IsBy verifyUid uid ∧
      Shows uid (socialMet verifyUid oneMember
        (.start aliceReads :: List.replicate 7 (.turn 0 Tx.commit)) 0) aliceReads.request.call
        (.success 200 (.messages [⟨1, "alice", "alice", "hello", 10⟩]))) ∨
      ∃ text, (HttpResponse.success 200 (.messages [⟨1, "alice", "alice", "hello", 10⟩]) :
        SocialResponse) = .failure 401 text :=
  social_reads verifyUid oneMember (.start aliceReads :: List.replicate 7 (.turn 0 Tx.commit))
    (by rfl)

end MyChat.Social
