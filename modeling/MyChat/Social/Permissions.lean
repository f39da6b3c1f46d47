import MyChat.Lib.Warrants
import MyChat.Social.FriendRequests
import MyChat.Social.GroupMembership
import MyChat.Social.SocialTransparency

/-!
# What a user may change and see

Requests of any users reach the friend and group API at any time, and their transactions take turns.
A service decides on what it read some transactions ago: it checks who may answer a friend request,
and who may write to a group or read it, before it does, and by then another request may have
changed that.

`ActsAs` says which changes are a user's to make, and `Shows` which responses are a user's to see,
on the ground of the tables that a request has met. The services keep to both when they are called
for the user of the request's token.
-/

namespace MyChat.Social

open Interleaving CommandProgram
open Chat (GroupMessage Verify authenticate)

/-! ## Visits -/

/-- How a gateway reaches the services. -/
inductive Deployment where
  /-- Over the local clients. -/
  | inProcess
  /-- Over the remote clients. -/
  | remote
  deriving DecidableEq, Repr

/-- The gateway's API; `now` is `now_ms()` of the services. -/
def Deployment.api : Deployment → ℤ → SocialApi
  | .inProcess => localApi
  | .remote => remoteApi

/-- A request to a gateway, with the clocks that it finds. -/
structure SocialVisit where
  /-- How the gateway reaches the services. -/
  deployment : Deployment
  /-- `now_ms()` of the services. -/
  now : ℤ
  /-- `now_ms()` of the handler. -/
  nowMs : ℤ
  /-- The request. -/
  request : SocialRequest
  deriving DecidableEq, Repr

/-- The handler that answers. -/
def SocialVisit.program (verify : Verify) (visit : SocialVisit) : Program SocialResponse :=
  (visit.deployment.api visit.now).handle visit.nowMs verify visit.request

/-- The token of the request is of the user. -/
def SocialVisit.IsBy (verify : Verify) (visit : SocialVisit) (uid : String) : Prop :=
  ∃ info, authenticate (β := SocialBody) verify visit.request.authorization = .ok info ∧
    info.userId = uid

/-- The tables and the requests after the turns. -/
abbrev socialAfter (verify : Verify) (server : Stores) (turns : List (Turn SocialVisit Tx)) :
    State Stores SocialVisit Command Command.Reply SocialResponse :=
  Interleaving.after (SocialVisit.program verify) handle server turns

/-- The tables that a request has met. -/
abbrev socialMet (verify : Verify) (server : Stores) (turns : List (Turn SocialVisit Tx)) (i : ℕ) :
    Set Stores :=
  Met (SocialVisit.program verify) handle server turns i

/-! ## What a user may change -/

/-- The user is a member of the group. -/
def IsMember (s : Stores) (groupId : ℕ) (uid : String) : Prop :=
  ∃ id m, s.members.load id = some m ∧ m.IsOf groupId uid

/-- A friend request of the user, to another one who was found. -/
def Asks (uid : String) (met : Set Stores) (f : Friend) : Prop :=
  f.requesterUid = uid ∧ f.targetUid ≠ uid ∧ f.status = .pending ∧
    ∃ s ∈ met, f.targetUid ∈ s.users.rows.map User.uid

/-- An answer of the user to a request that was found pending. -/
def Answers (uid : String) (met : Set Stores) (id : ℕ) (f f' : Friend) : Prop :=
  f.targetUid = uid ∧ (f' = { f with status := .accepted } ∨ f' = { f with status := .rejected }) ∧
    ∃ s ∈ met, ∃ f₀, s.friends.load id = some f₀ ∧ f₀.status = .pending

/-- A membership of the user: of a group that was found, or the owner's of a group that the user has
just made. -/
def Joins (uid : String) (met : Set Stores) (s' : Stores) (m : GroupMember) : Prop :=
  m.userUid = uid ∧
    (m.role = .member ∧ (∃ s ∈ met, ∃ g, s.groups.load m.groupId = some g) ∨
      m.role = .owner ∧ ∃ g, s'.groups.load m.groupId = some g ∧ g.creatorUid = uid)

/-- A membership of the user that was found not to be the owner's. -/
def Leaves (uid : String) (met : Set Stores) (m : GroupMember) : Prop :=
  m.userUid = uid ∧ ∃ s ∈ met, ∃ id m₀, s.members.load id = some m₀ ∧ m₀.IsOf m.groupId uid ∧
    m₀.role ≠ .owner

/-- A message of the user to a group in which the user was found. -/
def Writes (uid : String) (met : Set Stores) (m : GroupMessage) : Prop :=
  m.senderUid = uid ∧ ∃ s ∈ met, IsMember s m.groupId uid

/-- What differs between the tables is the user's doing, on the ground of tables that were met. -/
structure ActsAs (uid : String) (met : Set Stores) (s s' : Stores) : Prop where
  /-- The users stay as they are. -/
  users : s'.users = s.users
  /-- Requests are made and answered. -/
  friends : Table.Changes (Asks uid met) (Answers uid met) (fun _ => False) s.friends s'.friends
  /-- Groups are made. -/
  groups : Table.Changes (fun g => g.creatorUid = uid) (fun _ _ _ => False) (fun _ => False)
    s.groups s'.groups
  /-- Groups are joined and left. -/
  members : Table.Changes (Joins uid met s') (fun _ _ _ => False) (Leaves uid met)
    s.members s'.members
  /-- Messages are written. -/
  groupMessages : Table.Changes (Writes uid met) (fun _ _ _ => False) (fun _ => False)
    s.groupMessages s'.groupMessages

/-! ## What a user may see -/

/-- A relationship of the user that has the status, with the other one's uid and the time of the
row. -/
def ShowsFriend (uid : String) (met : Set Stores) (status : FriendStatus) (info : FriendInfo) :
    Prop :=
  info.status = status ∧ ∃ s ∈ met, ∃ f, s.friends.load info.friendId = some f ∧
    f.status = status ∧ info.createdAt = f.createdAt ∧
      (f.requesterUid = uid ∧ info.friendUid = f.targetUid ∨
        f.targetUid = uid ∧ info.friendUid = f.requesterUid)

/-- A request that the user may answer. -/
def ShowsRequest (uid : String) (met : Set Stores) (info : FriendInfo) : Prop :=
  ShowsFriend uid met .pending info ∧
    ∃ s ∈ met, ∃ f, s.friends.load info.friendId = some f ∧ f.targetUid = uid

/-- A member of the group, whose member the user is. -/
def ShowsMember (uid : String) (met : Set Stores) (groupId : ℕ) (info : MemberInfo) : Prop :=
  (∃ s ∈ met, IsMember s groupId uid) ∧
    ∃ s ∈ met, s.members.load info.id = some ⟨groupId, info.userUid, info.role, info.joinedAt⟩

/-- A message of the group. -/
def IsMessage (met : Set Stores) (groupId : ℕ) (info : GroupMessageInfo) : Prop :=
  ∃ s ∈ met, s.groupMessages.load info.msgId =
    some ⟨groupId, info.senderUid, info.content, info.createdAt⟩

/-- What the response to a call shows is of the user, or of a group of which the user is a member,
in tables that were met. -/
def Shows (uid : String) (met : Set Stores) (call : SocialCall) : SocialResponse → Prop
  | .success _ (.friends friends) => ∀ info ∈ friends, ShowsFriend uid met .accepted info
  | .success _ (.pendingRequests requests) => ∀ info ∈ requests, ShowsRequest uid met info
  | .success _ (.group group joined members) =>
      (joined = true → ∃ s ∈ met, IsMember s group.groupId uid) ∧
        ∀ info ∈ members, ShowsMember uid met group.groupId info
  | .success _ (.foundGroups groups _) => ∀ found ∈ groups, found.2 = true →
      ∃ s ∈ met, IsMember s found.1.groupId uid
  | .success _ (.groups groups) => ∀ group ∈ groups, ∃ s ∈ met, IsMember s group.groupId uid
  | .success _ (.members members) => ∃ groupId id, call = .listMembers groupId ∧
      Rpc.stoull groupId = some id ∧ members ≠ [] ∧ ∀ info ∈ members, ShowsMember uid met id info
  | .success _ (.messages messages) => ∃ groupId before limit id,
      call = .getHistory groupId before limit ∧ Rpc.stoull groupId = some id ∧
        (∃ s ∈ met, IsMember s id uid) ∧ ∀ info ∈ messages, IsMessage met id info
  | _ => True

/-! ## The warrant -/

/-- Relationships stay, with their users. -/
def FriendsStay (s s' : Stores) : Prop :=
  ∀ id f, s.friends.load id = some f → ∃ f', s'.friends.load id = some f' ∧
    f'.requesterUid = f.requesterUid ∧ f'.targetUid = f.targetUid

theorem FriendsStay.refl (s : Stores) : FriendsStay s s := fun _ f h => ⟨f, h, rfl, rfl⟩

theorem FriendsStay.trans {a b c : Stores} (hab : FriendsStay a b) (hbc : FriendsStay b c) :
    FriendsStay a c := by
  intro id f hf
  obtain ⟨f', hf', hr, ht⟩ := hab id f hf
  obtain ⟨f'', hf'', hr', ht'⟩ := hbc id f' hf'
  exact ⟨f'', hf'', hr'.trans hr, ht'.trans ht⟩

theorem ActsAs.refl (uid : String) (met : Set Stores) (s : Stores) : ActsAs uid met s s :=
  ⟨rfl, .refl, .refl, .refl, .refl⟩

/-- What one user does leaves the relationships of the others where they are. -/
theorem ActsAs.friendsStay {uid : String} {met : Set Stores} {s s' : Stores}
    (h : ActsAs uid met s s') : FriendsStay s s' := by
  intro id f hf
  rcases hf' : s'.friends.load id with _ | f'
  · exact (h.friends.removed id f hf hf').elim
  refine ⟨f', rfl, ?_⟩
  by_cases heq : f' = f
  · rw [heq]
    exact ⟨rfl, rfl⟩
  · obtain ⟨-, rfl | rfl, -⟩ := h.friends.altered id f f' hf hf' heq
    · exact ⟨rfl, rfl⟩
    · exact ⟨rfl, rfl⟩

/-- What a request may do and show, when its token is of a user; without one it may do nothing. -/
def socialWarrant (verify : Verify) : Warrant Stores SocialVisit SocialResponse where
  rely := FriendsStay
  guar visit met s s' := ∃ uid, visit.IsBy verify uid ∧ ActsAs uid met s s'
  ends visit met response :=
    (∃ uid, visit.IsBy verify uid ∧ Shows uid met visit.request.call response) ∨
      ∃ text, response = .failure 401 text
  rely_refl := FriendsStay.refl
  rely_trans := FriendsStay.trans
  guar_rely := fun ⟨_, _, hacts⟩ => hacts.friendsStay

/-- A user who was found is there. -/
theorem uid_mem_of_findByUid {tx : Tx} {s : Stores} {uid : String} {user : User}
    (h : (handle tx s (.findByUid uid)).1 = some user) : uid ∈ s.users.rows.map User.uid := by
  change UserRepository.findByUid tx s.users uid = some user at h
  unfold UserRepository.findByUid at h
  split_ifs at h
  have huid : user.uid = uid := by simpa using List.find?_some h
  exact huid ▸ List.mem_map_of_mem (List.mem_of_find?_eq_some h)

/-- A relationship that was found is there. -/
theorem load_of_findFriendById {tx : Tx} {s : Stores} {friendId : ℕ} {f : Friend}
    (h : (handle tx s (.findFriendById friendId)).1 = some f) :
    s.friends.load friendId = some f := by
  change FriendRepository.findById tx s.friends friendId = some f at h
  unfold FriendRepository.findById at h
  split_ifs at h
  exact h

/-- The friends that were found are there. -/
theorem load_of_findFriends {tx : Tx} {s : Stores} {uid : String} {row : ℕ × Friend}
    (h : row ∈ (handle tx s (.findFriends uid)).1) : s.friends.load row.1 = some row.2 ∧
      (row.2.requesterUid = uid ∨ row.2.targetUid = uid) ∧ row.2.status = .accepted := by
  change row ∈ FriendRepository.findFriends tx s.friends uid at h
  unfold FriendRepository.findFriends at h
  split_ifs at h
  · rw [Arrangement.mem_arrange, List.mem_filter, decide_eq_true_eq] at h
    exact ⟨s.friends.mem_rows.mp h.1, h.2⟩
  · exact absurd h List.not_mem_nil

/-- The pending requests that were found are there. -/
theorem load_of_findPending {tx : Tx} {s : Stores} {uid : String} {row : ℕ × Friend}
    (h : row ∈ (handle tx s (.findPending uid)).1) : s.friends.load row.1 = some row.2 ∧
      row.2.targetUid = uid ∧ row.2.status = .pending := by
  change row ∈ FriendRepository.findPending tx s.friends uid at h
  unfold FriendRepository.findPending at h
  split_ifs at h
  · rw [Arrangement.mem_arrange, List.mem_filter, decide_eq_true_eq] at h
    exact ⟨s.friends.mem_rows.mp h.1, h.2⟩
  · exact absurd h List.not_mem_nil

/-- The groups of the memberships that were found. -/
theorem isMember_of_findGroupIds {tx : Tx} {s : Stores} {uid : String} {ids : List ℕ} {id : ℕ}
    (h : (handle tx s (.findGroupIds uid)).1 = some ids) (hid : id ∈ ids) : IsMember s id uid := by
  change GroupRepository.findGroupIds tx s.members uid = some ids at h
  unfold GroupRepository.findGroupIds at h
  split_ifs at h
  obtain rfl := Option.some.inj h
  obtain ⟨row, hrow, rfl⟩ := List.mem_map.mp hid
  rw [Arrangement.mem_arrange, List.mem_filter, decide_eq_true_eq] at hrow
  exact ⟨row.1, row.2, s.members.mem_rows.mp hrow.1, rfl, hrow.2⟩

/-- The members that were found are there. -/
theorem load_of_findMembers {tx : Tx} {s : Stores} {groupId : ℕ} {row : ℕ × GroupMember}
    (h : row ∈ (handle tx s (.findMembers groupId)).1) :
    s.members.load row.1 = some row.2 ∧ row.2.groupId = groupId := by
  change row ∈ GroupRepository.findMembers tx s.members groupId at h
  unfold GroupRepository.findMembers at h
  split_ifs at h
  · rw [Arrangement.mem_arrange, List.mem_filter, decide_eq_true_eq] at h
    exact ⟨s.members.mem_rows.mp h.1, h.2⟩
  · exact absurd h List.not_mem_nil

/-- The messages that were found are there. -/
theorem load_of_findByGroup {tx : Tx} {s : Stores} {groupId : ℕ} {before limit : ℤ}
    {row : ℕ × GroupMessage} (h : row ∈ (handle tx s (.findByGroup groupId before limit)).1) :
    s.groupMessages.load row.1 = some row.2 ∧ row.2.groupId = groupId := by
  change row ∈ GroupMessageRepository.findByGroup tx s.groupMessages groupId before limit at h
  unfold GroupMessageRepository.findByGroup at h
  split_ifs at h
  · have hmem := (List.mem_insertionSort _).mp (List.mem_of_mem_take h)
    rw [Arrangement.mem_arrange, List.mem_filter, decide_eq_true_eq] at hmem
    exact ⟨s.groupMessages.mem_rows.mp hmem.1, hmem.2.1⟩
  · exact absurd h List.not_mem_nil

/-- How the insert of a message ends. -/
theorem handle_createGroupMessage (tx : Tx) (s : Stores) (m : GroupMessage) :
    handle tx s (.createGroupMessage m) = (some (s.groupMessages.freshId tx.skip),
        { s with groupMessages := s.groupMessages.persist tx.skip m }) ∨
      handle tx s (.createGroupMessage m) = (none, s) := by
  have heq : handle tx s (.createGroupMessage m) =
      ((GroupMessageRepository.create tx s.groupMessages m).1,
        { s with groupMessages := (GroupMessageRepository.create tx s.groupMessages m).2 }) := rfl
  rw [heq]
  unfold GroupMessageRepository.create
  split_ifs
  · exact Or.inl rfl
  · exact Or.inr rfl

section User

variable {verify : Verify} {visit : SocialVisit} {uid : String}

/-- The program of a request keeps the warrant, and its result satisfies `Q`. -/
abbrev Allowed {α : Type} (verify : Verify) (visit : SocialVisit) (Q : Set Stores → α → Prop)
    (met : Set Stores) (p : Program α) (s : Stores) : Prop :=
  Warranted (socialWarrant verify) handle visit (fun met _ => Q met) met p s

/-- A transaction that only reads, before the rest of a program. -/
theorem allowed_read (hby : visit.IsBy verify uid) {α : Type} {Q : Set Stores → α → Prop}
    {met : Set Stores} {c : Command} {rest : c.Reply → Program α} {s : Stores}
    (hread : ∀ tx s, (handle tx s c).2 = s)
    (h : ∀ s' tx, FriendsStay s s' →
      Allowed verify visit Q (insert s' met) (rest (handle tx s' c).1) s') :
    Allowed verify visit Q met (query c >>= rest) s :=
  warranted_read hread (fun met s => ⟨uid, hby, ActsAs.refl uid met s⟩) h

/-- A transaction that ends a program, or changes nothing. -/
theorem allowed_write (hby : visit.IsBy verify uid) {α : Type} {Q : Set Stores → α → Prop}
    {met : Set Stores} {c : Command} {rest : c.Reply → Program α} {s : Stores}
    (h : ∀ s' tx, FriendsStay s s' → ActsAs uid met s' (handle tx s' c).2 ∧
      Allowed verify visit Q (insert s' met) (rest (handle tx s' c).1) (handle tx s' c).2) :
    Allowed verify visit Q met (query c >>= rest) s := by
  refine warranted_send fun s' tx hrely => ?_
  obtain ⟨hacts, hrest⟩ := h s' tx hrely
  exact ⟨⟨uid, hby, hacts⟩, hrest⟩

/-! ## The friend service -/

/-- `send_request` asks for the user. -/
theorem allowed_sendRequest (hby : visit.IsBy verify uid) (now : ℤ) {request : FriendRequest}
    (huid : request.requesterUid = uid) (met : Set Stores) (s : Stores) :
    Allowed verify visit (fun _ _ => True) met (FriendService.sendRequest now request) s := by
  unfold FriendService.sendRequest
  by_cases hempty : request.requesterUid = "" ∨ request.targetUid = ""
  · rw [if_pos hempty]
    trivial
  rw [if_neg hempty]
  by_cases hself : request.requesterUid = request.targetUid
  · rw [if_pos hself]
    trivial
  rw [if_neg hself]
  refine allowed_read hby (fun _ _ => rfl) fun s₁ tx₁ _ => ?_
  rcases htarget : (handle tx₁ s₁ (.findByUid request.targetUid)).1 with _ | target
  · trivial
  have hfound : request.targetUid ∈ s₁.users.rows.map User.uid := uid_mem_of_findByUid htarget
  refine allowed_read hby (fun _ _ => rfl) fun s₂ tx₂ _ => ?_
  rcases (handle tx₂ s₂ (.findRelationship request.requesterUid request.targetUid)).1 with
    _ | existing
  · refine allowed_write hby fun s₃ tx₃ _ => ?_
    rcases handle_createFriend tx₃ s₃ ⟨request.requesterUid, request.targetUid, .pending,
      if request.nowMs > 0 then request.nowMs else now⟩ with ⟨-, -, heq⟩ | heq
    · rw [heq]
      have htarget : request.targetUid ≠ uid := fun h => hself (huid.trans h.symm)
      refine ⟨⟨rfl, ?_, .refl, .refl, .refl⟩, trivial⟩
      exact Table.changes_persist tx₃.skip ⟨huid, htarget, rfl, s₁, by simp, hfound⟩
    · rw [heq]
      exact ⟨ActsAs.refl uid _ s₃, trivial⟩
  · trivial

/-- `respond_to_request` answers for the user. -/
theorem allowed_respondToRequest (hby : visit.IsBy verify uid) (friendId : ℕ) (accept : Bool)
    (met : Set Stores) (s : Stores) :
    Allowed verify visit (fun _ _ => True) met
      (FriendService.respondToRequest friendId uid accept) s := by
  unfold FriendService.respondToRequest
  refine allowed_read hby (fun _ _ => rfl) fun s₁ tx₁ _ => ?_
  rcases hfind : (handle tx₁ s₁ (.findFriendById friendId)).1 with _ | f
  · trivial
  have hload : s₁.friends.load friendId = some f := load_of_findFriendById hfind
  by_cases htarget : f.targetUid ≠ uid
  · simp only [htarget, if_true, ne_eq, not_false_eq_true]
    trivial
  by_cases hstatus : f.status ≠ .pending
  · simp only [htarget, hstatus, if_true, if_false, ne_eq, not_false_eq_true]
    trivial
  simp only [htarget, hstatus, if_false]
  -- The row may have been answered since it was read, but its target is the same.
  refine allowed_write hby fun s₂ tx₂ hstay => ?_
  have hanswers : ∀ f₂, s₂.friends.load friendId = some f₂ →
      Answers uid (insert s₁ met) friendId f₂
        { f₂ with status := if accept then .accepted else .rejected } := by
    intro f₂ hf₂
    obtain ⟨f', hf', -, ht⟩ := hstay friendId f hload
    obtain rfl : f' = f₂ := Option.some.inj (hf'.symm.trans hf₂)
    refine ⟨ht.trans (not_not.mp htarget), ?_, s₁, by simp, f, hload, not_not.mp hstatus⟩
    cases accept with
    | true => exact Or.inl rfl
    | false => exact Or.inr rfl
  rcases handle_updateStatus tx₂ s₂ friendId (if accept then .accepted else .rejected) with
    ⟨-, heq⟩ | heq
  · rw [heq]
    exact ⟨⟨rfl, Table.changes_update friendId hanswers, .refl, .refl, .refl⟩, trivial⟩
  · rw [heq]
    exact ⟨ActsAs.refl uid _ s₂, trivial⟩

/-- `to_friend_info` of a row tells its id, its status, its time, and the other user. -/
theorem allowed_toFriendInfo (hby : visit.IsBy verify uid) (row : ℕ × Friend) (user : String)
    (met : Set Stores) (s : Stores) :
    Allowed verify visit
      (fun _ info => info.friendId = row.1 ∧ info.status = row.2.status ∧
        info.createdAt = row.2.createdAt ∧ info.friendUid =
          if row.2.requesterUid = user then row.2.targetUid else row.2.requesterUid)
      met (FriendService.toFriendInfo row user) s := by
  unfold FriendService.toFriendInfo FriendService.resolveNickname
  refine allowed_read hby (fun _ _ => rfl) fun s₁ tx₁ _ => ?_
  rcases (handle tx₁ s₁ (.findByUid _)).1 with _ | user
  · exact ⟨rfl, rfl, rfl, rfl⟩
  · exact ⟨rfl, rfl, rfl, rfl⟩

/-- `get_friends` and `get_pending_requests`, from the rows that their query found. -/
theorem allowed_friendInfos (hby : visit.IsBy verify uid) {status : FriendStatus} {met : Set Stores}
    {s s₀ : Stores} (hs₀ : s₀ ∈ met) {rows : List (ℕ × Friend)}
    (hrows : ∀ row ∈ rows, s₀.friends.load row.1 = some row.2 ∧
      (row.2.requesterUid = uid ∨ row.2.targetUid = uid) ∧ row.2.status = status) :
    Allowed verify visit (fun met' infos => ∀ info ∈ infos, ShowsFriend uid met' status info ∧
        ∃ row ∈ rows, row.1 = info.friendId) met
      (rows.mapM fun row => FriendService.toFriendInfo row uid) s := by
  refine (warranted_mapM fun row _ met s => allowed_toFriendInfo hby row uid met s).mono ?_
  intro met' _ infos hsub _ hinfos info hinfo
  obtain ⟨row, hrow, hid, hstatus, htime, hother⟩ := hinfos info hinfo
  obtain ⟨hload, huid, hrow_status⟩ := hrows row hrow
  refine ⟨⟨hstatus.trans hrow_status, s₀, hsub hs₀, row.2, ?_, hrow_status, htime, ?_⟩, row, hrow,
    hid.symm⟩
  · rw [hid]
    exact hload
  · split_ifs at hother with hrequester
    · exact Or.inl ⟨hrequester, hother⟩
    · exact Or.inr ⟨huid.resolve_left hrequester, hother⟩

/-- `get_friends`. -/
theorem allowed_getFriends (hby : visit.IsBy verify uid) (met : Set Stores) (s : Stores) :
    Allowed verify visit (fun met' infos => ∀ info ∈ infos, ShowsFriend uid met' .accepted info) met
      (FriendService.getFriends uid) s := by
  refine allowed_read hby (fun _ _ => rfl) fun s₁ tx₁ _ => ?_
  have hmet : s₁ ∈ insert s₁ met := Set.mem_insert s₁ met
  refine (allowed_friendInfos hby hmet fun row hrow => load_of_findFriends hrow).mono ?_
  exact fun _ _ _ _ _ h info hinfo => (h info hinfo).1

/-- `get_pending_requests`. -/
theorem allowed_getPendingRequests (hby : visit.IsBy verify uid) (met : Set Stores) (s : Stores) :
    Allowed verify visit (fun met' infos => ∀ info ∈ infos, ShowsRequest uid met' info) met
      (FriendService.getPendingRequests uid) s := by
  refine allowed_read hby (fun _ _ => rfl) fun s₁ tx₁ _ => ?_
  have hmet : s₁ ∈ insert s₁ met := Set.mem_insert s₁ met
  refine (allowed_friendInfos hby hmet fun row hrow =>
    ⟨(load_of_findPending hrow).1, Or.inr (load_of_findPending hrow).2.1,
      (load_of_findPending hrow).2.2⟩).mono ?_
  intro met' _ infos hsub _ h info hinfo
  obtain ⟨hshows, row, hrow, hid⟩ := h info hinfo
  obtain ⟨hload, htarget, -⟩ := load_of_findPending hrow
  exact ⟨hshows, s₁, hsub hmet, row.2, hid ▸ hload, htarget⟩

/-! ## The group service -/

/-- `create_group` makes a group for the user. -/
theorem allowed_createGroup (hby : visit.IsBy verify uid) (now : ℤ) {request : CreateGroupRequest}
    (huid : request.creatorUid = uid) (met : Set Stores) (s : Stores) :
    Allowed verify visit (fun _ _ => True) met (GroupService.createGroup now request) s := by
  unfold GroupService.createGroup
  by_cases hname : request.name = ""
  · rw [if_pos hname]
    trivial
  rw [if_neg hname]
  by_cases hcreator : request.creatorUid = ""
  · rw [if_pos hcreator]
    trivial
  rw [if_neg hcreator]
  refine allowed_read hby (fun _ _ => rfl) fun s₁ tx₁ _ => ?_
  rcases (handle tx₁ s₁ (.findByUid request.creatorUid)).1 with _ | creator
  · trivial
  refine allowed_write hby fun s₂ tx₂ _ => ?_
  rcases handle_createGroupWithOwner tx₂ s₂ ⟨request.name, request.creatorUid,
      if request.nowMs > 0 then request.nowMs else now⟩ ⟨0, request.creatorUid, .owner,
      if request.nowMs > 0 then request.nowMs else now⟩ with ⟨-, heq⟩ | heq
  · rw [heq]
    refine ⟨⟨rfl, .refl, Table.changes_persist tx₂.skip huid, ?_, .refl⟩, trivial⟩
    -- The owner's membership is of the group that is inserted with it.
    have hgroup := (s₂.groups.load_persist tx₂.skip ⟨request.name, request.creatorUid,
      if request.nowMs > 0 then request.nowMs else now⟩ _).trans (if_pos rfl)
    exact Table.changes_persist tx₂.skip' ⟨huid, Or.inr ⟨rfl, _, hgroup, huid⟩⟩
  · rw [heq]
    exact ⟨ActsAs.refl uid _ s₂, trivial⟩

/-- `join_group` makes the user a member. -/
theorem allowed_joinGroup (hby : visit.IsBy verify uid) (now : ℤ) (groupId : ℕ) (t : ℤ)
    (met : Set Stores) (s : Stores) :
    Allowed verify visit (fun _ _ => True) met (GroupService.joinGroup now groupId uid t) s := by
  unfold GroupService.joinGroup
  refine allowed_read hby (fun _ _ => rfl) fun s₁ tx₁ _ => ?_
  rcases hfound : (handle tx₁ s₁ (.findGroupById groupId)).1 with _ | g
  · trivial
  by_cases huid : uid = ""
  · simp only [huid, if_true, Option.isNone_some, Bool.false_eq_true, if_false]
    trivial
  simp only [huid, Option.isNone_some, Bool.false_eq_true, if_false]
  refine allowed_read hby (fun _ _ => rfl) fun s₂ tx₂ _ => ?_
  rcases (handle tx₂ s₂ (.findByUid uid)).1 with _ | user
  · trivial
  refine allowed_read hby (fun _ _ => rfl) fun s₃ tx₃ _ => ?_
  rcases (handle tx₃ s₃ (.findMember groupId uid)).1 with _ | existing
  · refine allowed_write hby fun s₄ tx₄ _ => ?_
    rcases handle_addMember tx₄ s₄ ⟨groupId, uid, .member, if t > 0 then t else now⟩ with
      ⟨-, heq⟩ | heq
    · rw [heq]
      refine ⟨⟨rfl, .refl, .refl, ?_, .refl⟩, trivial⟩
      exact Table.changes_persist tx₄.skip
        ⟨rfl, Or.inl ⟨rfl, s₁, by simp, g, load_of_findGroupById hfound⟩⟩
    · rw [heq]
      exact ⟨ActsAs.refl uid _ s₄, trivial⟩
  · trivial

/-- `leave_group` takes the user's membership away. -/
theorem allowed_leaveGroup (hby : visit.IsBy verify uid) (groupId : ℕ) (met : Set Stores)
    (s : Stores) :
    Allowed verify visit (fun _ _ => True) met (GroupService.leaveGroup groupId uid) s := by
  unfold GroupService.leaveGroup
  refine allowed_read hby (fun _ _ => rfl) fun s₁ tx₁ _ => ?_
  rcases (handle tx₁ s₁ (.findGroupById groupId)).1 with _ | g
  · trivial
  refine allowed_read hby (fun _ _ => rfl) fun s₂ tx₂ _ => ?_
  rcases hmember : (handle tx₂ s₂ (.findMember groupId uid)).1 with _ | row
  · trivial
  by_cases hrole : row.2.role = .owner
  · simp only [hrole, if_true]
    trivial
  simp only [hrole, if_false]
  obtain ⟨hrow, hof⟩ := load_of_findMember hmember
  have hleaves : ∀ m : GroupMember, decide (m.groupId = groupId ∧ m.userUid = uid) = true →
      Leaves uid (insert s₂ (insert s₁ met)) m := by
    intro m hm
    obtain ⟨hgroup, huser⟩ := of_decide_eq_true hm
    exact ⟨huser, s₂, by simp, row.1, row.2, hrow, hgroup ▸ hof, hrole⟩
  refine allowed_write hby fun s₃ tx₃ _ => ?_
  rcases handle_removeMember tx₃ s₃ groupId uid with heq | heq
  · rw [heq]
    exact ⟨⟨rfl, .refl, .refl, Table.changes_erase hleaves, .refl⟩, trivial⟩
  · rw [heq]
    exact ⟨ActsAs.refl uid _ s₃, trivial⟩

/-- The info of a group names it. -/
theorem allowed_toGroupInfo (hby : visit.IsBy verify uid) (row : ℕ × Group) (met : Set Stores)
    (s : Stores) :
    Allowed verify visit (fun _ info => info.groupId = row.1) met (GroupService.toGroupInfo row)
      s :=
  allowed_read hby (fun _ _ => rfl) fun _ _ _ => rfl

/-- `find_groups_by_user` finds the user's groups. -/
theorem allowed_findGroupsByUser (hby : visit.IsBy verify uid) (met : Set Stores) (s : Stores) :
    Allowed verify visit (fun met' rows => ∀ row ∈ rows, ∃ s ∈ met', IsMember s row.1 uid) met
      (GroupRepository.findGroupsByUser uid) s := by
  unfold GroupRepository.findGroupsByUser
  refine allowed_read hby (fun _ _ => rfl) fun s₁ tx₁ _ => ?_
  rcases hfound : (handle tx₁ s₁ (.findGroupIds uid)).1 with _ | ids
  · exact fun row hrow => absurd hrow List.not_mem_nil
  -- A group is loaded for each id, under which it is returned.
  have hload : ∀ id ∈ ids, ∀ met s, Allowed verify visit
      (fun _ found => ∀ row ∈ (found : Option (ℕ × Group)), row.1 = id) met
      (do return (← query (.findGroupById id)).map fun g => (id, g)) s := by
    intro id _ met s
    refine allowed_read hby (fun _ _ => rfl) fun s' tx' _ row hrow => ?_
    obtain ⟨g, -, rfl⟩ := Option.map_eq_some_iff.mp hrow
    rfl
  refine warranted_bind (warranted_mapM hload) fun met' _ found hsub _ hP row hrow => ?_
  obtain ⟨loaded, hloaded, hrow⟩ := List.mem_filterMap.mp hrow
  obtain ⟨id, hid, hkey⟩ := hP loaded hloaded
  exact ⟨s₁, hsub (by simp), hkey row hrow ▸ isMember_of_findGroupIds hfound hid⟩

/-- `list_my_groups`. -/
theorem allowed_listMyGroups (hby : visit.IsBy verify uid) (met : Set Stores) (s : Stores) :
    Allowed verify visit (fun met' groups => ∀ group ∈ groups, ∃ s ∈ met',
      IsMember s group.groupId uid) met (GroupService.listMyGroups uid) s := by
  refine warranted_bind (allowed_findGroupsByUser hby met s) fun met₁ s₁ rows _ _ hrows => ?_
  refine (warranted_mapM fun row _ met s => allowed_toGroupInfo hby row met s).mono ?_
  intro met₂ _ groups hsub _ hgroups group hgroup
  obtain ⟨row, hrow, hid⟩ := hgroups group hgroup
  obtain ⟨s', hs', hmember⟩ := hrows row hrow
  exact ⟨s', hsub hs', hid ▸ hmember⟩

/-- `get_group_info` is about the group that it is asked for. -/
theorem allowed_getGroupInfo (hby : visit.IsBy verify uid) (groupId : ℕ) (met : Set Stores)
    (s : Stores) :
    Allowed verify visit (fun _ found => ∀ group ∈ (found : Option GroupInfo),
      group.groupId = groupId) met (GroupService.getGroupInfo groupId) s := by
  unfold GroupService.getGroupInfo
  refine allowed_read hby (fun _ _ => rfl) fun s₁ tx₁ _ => ?_
  rcases (handle tx₁ s₁ (.findGroupById groupId)).1 with _ | g
  · exact fun group hgroup => absurd hgroup (by simp)
  refine warranted_bind (allowed_toGroupInfo hby (groupId, g) _ s₁) fun _ _ info _ _ hinfo => ?_
  exact fun group hgroup => Option.some.inj hgroup ▸ hinfo

/-- `search_groups` reads. -/
theorem allowed_searchGroups (hby : visit.IsBy verify uid) (keyword : String) (limit : ℕ)
    (met : Set Stores) (s : Stores) :
    Allowed verify visit (fun _ _ => True) met (GroupService.searchGroups keyword limit) s := by
  unfold GroupService.searchGroups GroupRepository.searchGroups
  have hrows : ∀ rows : List (ℕ × Group), ∀ met s,
      Allowed verify visit (fun _ _ => True) met (rows.mapM GroupService.toGroupInfo) s :=
    fun rows met s => (warranted_mapM fun row _ met s =>
      allowed_toGroupInfo hby row met s).mono fun _ _ _ _ _ _ => trivial
  by_cases hempty : keyword = "" ∨ limit = 0
  · rw [if_pos hempty]
    exact hrows [] met s
  rw [if_neg hempty]
  rcases Rpc.stoull keyword with _ | id
  · exact allowed_read hby (fun _ _ => rfl) fun s₁ _ _ => hrows _ _ s₁
  refine allowed_read hby (fun _ _ => rfl) fun s₁ tx₁ _ => ?_
  rcases (handle tx₁ s₁ (.findGroupById id)).1 with _ | g
  · exact allowed_read hby (fun _ _ => rfl) fun s₂ _ _ => hrows _ _ s₂
  · exact hrows [(id, g)] _ s₁

/-- `group_exists` reads. -/
theorem allowed_groupExists (hby : visit.IsBy verify uid) (groupId : ℕ) (met : Set Stores)
    (s : Stores) :
    Allowed verify visit (fun _ _ => True) met (GroupService.groupExists groupId) s :=
  allowed_read hby (fun _ _ => rfl) fun _ _ _ => trivial

/-- `resolve_nickname` reads. -/
theorem allowed_resolveNickname (hby : visit.IsBy verify uid) (other : String) (met : Set Stores)
    (s : Stores) :
    Allowed verify visit (fun _ _ => True) met (GroupService.resolveNickname other) s := by
  refine allowed_read hby (fun _ _ => rfl) fun s₁ tx₁ _ => ?_
  rcases (handle tx₁ s₁ (.findByUid other)).1 with _ | user
  · trivial
  · trivial

/-- `list_members` shows the members to a member. -/
theorem allowed_listMembers (hby : visit.IsBy verify uid) (groupId : ℕ) (met : Set Stores)
    (s : Stores) :
    Allowed verify visit (fun met' members => ∀ info ∈ members, ShowsMember uid met' groupId info)
      met (GroupService.listMembers groupId uid) s := by
  unfold GroupService.listMembers
  have hnil : ∀ met', ∀ info ∈ ([] : List MemberInfo), ShowsMember uid met' groupId info :=
    fun _ info hinfo => absurd hinfo List.not_mem_nil
  refine allowed_read hby (fun _ _ => rfl) fun s₁ tx₁ _ => ?_
  rcases (handle tx₁ s₁ (.findGroupById groupId)).1 with _ | g
  · exact hnil _
  refine allowed_read hby (fun _ _ => rfl) fun s₂ tx₂ _ => ?_
  rcases hcaller : (handle tx₂ s₂ (.findMember groupId uid)).1 with _ | caller
  · exact hnil _
  obtain ⟨hrow, hof⟩ := load_of_findMember hcaller
  refine allowed_read hby (fun _ _ => rfl) fun s₃ tx₃ _ => ?_
  -- The infos tell the rows, each with a nickname.
  have hinfo : ∀ row ∈ (handle tx₃ s₃ (.findMembers groupId)).1, ∀ met s, Allowed verify visit
      (fun _ info => info.id = row.1 ∧ info.userUid = row.2.userUid ∧ info.role = row.2.role ∧
        info.joinedAt = row.2.joinedAt) met
      (do
        let nickname ← GroupService.resolveNickname row.2.userUid
        return (⟨row.1, row.2.userUid, nickname, row.2.role, row.2.joinedAt⟩ : MemberInfo)) s :=
    fun row _ met s => warranted_bind (allowed_resolveNickname hby row.2.userUid met s)
      fun _ _ _ _ _ _ => ⟨rfl, rfl, rfl, rfl⟩
  refine (warranted_mapM hinfo).mono fun met' _ infos hsub _ hinfos info hmem => ?_
  obtain ⟨row, hmember, hid, huser, hrole, hjoined⟩ := hinfos info hmem
  obtain ⟨hload, hgroup⟩ := load_of_findMembers hmember
  refine ⟨⟨s₂, hsub (by simp), caller.1, caller.2, hrow, hof⟩, s₃, hsub (by simp), ?_⟩
  rw [hid, huser, hrole, hjoined, ← hgroup]
  exact hload

/-! ## The group message service -/

/-- `send_message` writes for the user, who was found in the group. -/
theorem allowed_sendMessage (hby : visit.IsBy verify uid) (groupId : ℕ) (content : String)
    (nowMs : ℤ) (met : Set Stores) (s : Stores) :
    Allowed verify visit (fun _ _ => True) met
      (GroupMessageService.sendMessage groupId uid content nowMs) s := by
  unfold GroupMessageService.sendMessage
  by_cases hid : groupId = 0
  · rw [if_pos hid]
    trivial
  rw [if_neg hid]
  by_cases huid : uid = ""
  · rw [if_pos huid]
    trivial
  rw [if_neg huid]
  refine warranted_bind (allowed_groupExists hby groupId met s) fun met₁ s₁ found _ _ _ => ?_
  cases found with
  | false => trivial
  | true =>
  refine warranted_bind (allowed_listMembers hby groupId met₁ s₁)
    fun met₂ s₂ members _ _ hshows => ?_
  cases members with
  | nil => trivial
  | cons info members =>
  obtain ⟨hmember, -⟩ := hshows info List.mem_cons_self
  rw [if_neg (List.cons_ne_nil info members)]
  refine allowed_write hby fun s₃ tx₃ _ => ?_
  rcases handle_createGroupMessage tx₃ s₃ ⟨groupId, uid, content, nowMs⟩ with heq | heq
  · rw [heq]
    exact ⟨⟨rfl, .refl, .refl, .refl, Table.changes_persist tx₃.skip ⟨rfl, hmember⟩⟩, trivial⟩
  · rw [heq]
    exact ⟨ActsAs.refl uid _ s₃, trivial⟩

/-- `get_history` shows messages of the group. -/
theorem allowed_getHistory (hby : visit.IsBy verify uid) (groupId : ℕ) (before limit : ℤ)
    (met : Set Stores) (s : Stores) :
    Allowed verify visit (fun met' infos => ∀ info ∈ infos, IsMessage met' groupId info) met
      (GroupMessageService.getHistory groupId before limit) s := by
  refine allowed_read hby (fun _ _ => rfl) fun s₁ tx₁ _ => ?_
  have hinfo : ∀ row ∈ (handle tx₁ s₁ (.findByGroup groupId before limit)).1, ∀ met s,
      Allowed verify visit (fun _ info => info.msgId = row.1 ∧ info.senderUid = row.2.senderUid ∧
        info.content = row.2.content ∧ info.createdAt = row.2.createdAt) met
      (do
        let nickname ← GroupService.resolveNickname row.2.senderUid
        return (⟨row.1, row.2.senderUid, nickname, row.2.content, row.2.createdAt⟩ :
          GroupMessageInfo)) s :=
    fun row _ met s => warranted_bind (allowed_resolveNickname hby row.2.senderUid met s)
      fun _ _ _ _ _ _ => ⟨rfl, rfl, rfl, rfl⟩
  refine (warranted_mapM hinfo).mono fun met' _ infos hsub _ hinfos info hmem => ?_
  obtain ⟨row, hrow, hid, hsender, hcontent, hcreated⟩ := hinfos info hmem
  obtain ⟨hload, hgroup⟩ := load_of_findByGroup hrow
  refine ⟨s₁, hsub (by simp), ?_⟩
  rw [hid, hsender, hcontent, hcreated, ← hgroup]
  exact hload

end User

end MyChat.Social
