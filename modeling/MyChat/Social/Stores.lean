import MyChat.Chat.Controllers
import MyChat.Lib.CommandProgram
import MyChat.Lib.Query
import MyChat.Lib.Table

/-!
# The tables of users, friends, and groups

The rows of `services/odb` and the functions of the repositories of `services/user`,
`services/friend`, and `services/group` on their tables. A repository call is one transaction. How
it ends is a `Tx`: whether it commits, which values its sequences skip, and in which order its query
returns rows. A transaction that fails, which the code sees as an `odb::exception`, changes nothing;
so does an insert that a unique index refuses.

The services are programs over these calls, a `Command` for each, so that calls of several users can
take turns between transactions.
-/

namespace MyChat.Social

open Chat (GroupMessage GroupMessages)

/-! ## Rows -/

/-- `Gender`. -/
inductive Gender where
  /-- `UNKNOWN`. -/
  | unknown
  /-- `MALE`. -/
  | male
  /-- `FEMALE`. -/
  | female
  /-- `OTHER`. -/
  | other
  deriving DecidableEq, Repr

/-- A row of `im_users`. -/
structure User where
  /-- `uid`. -/
  uid : String
  /-- `account`. -/
  account : String
  /-- `password_hash`. -/
  passwordHash : String
  /-- `nickname`. -/
  nickname : String
  /-- `avatar`. -/
  avatar : String
  /-- `gender`. -/
  gender : Gender
  /-- `signature`. -/
  signature : String
  /-- `create_time`. -/
  createTime : ℤ
  /-- `last_login`. -/
  lastLogin : ℤ
  /-- `online`. -/
  online : Bool
  deriving DecidableEq, Repr

/-- `FriendStatus`. -/
inductive FriendStatus where
  /-- `PENDING`. -/
  | pending
  /-- `ACCEPTED`. -/
  | accepted
  /-- `REJECTED`. -/
  | rejected
  /-- `BLOCKED`. -/
  | blocked
  deriving DecidableEq, Repr

/-- A row of `im_friends`, without its id `friend_id`. -/
structure Friend where
  /-- `requester_uid`. -/
  requesterUid : String
  /-- `target_uid`. -/
  targetUid : String
  /-- `status`. -/
  status : FriendStatus
  /-- `created_at`. -/
  createdAt : ℤ
  deriving DecidableEq, Repr

/-- `GroupRole`. -/
inductive GroupRole where
  /-- `OWNER`. -/
  | owner
  /-- `ADMIN`. -/
  | admin
  /-- `MEMBER`. -/
  | member
  deriving DecidableEq, Repr

/-- A row of `im_groups`, without its id `group_id`. -/
structure Group where
  /-- `name`. -/
  name : String
  /-- `creator_uid`. -/
  creatorUid : String
  /-- `created_at`. -/
  createdAt : ℤ
  deriving DecidableEq, Repr

/-- A row of `im_group_members`, without its id. -/
structure GroupMember where
  /-- `group_id`. -/
  groupId : ℕ
  /-- `user_uid`. -/
  userUid : String
  /-- `role`. -/
  role : GroupRole
  /-- `joined_at`. -/
  joinedAt : ℤ
  deriving DecidableEq, Repr

/-! ## Tables -/

/-- The table `im_users`, with its primary key `uid` and its unique index on `account`. -/
structure Users where
  /-- The rows. -/
  rows : List User
  /-- No two rows have the same uid. -/
  uid_nodup : (rows.map User.uid).Nodup
  /-- No two rows have the same account. -/
  account_nodup : (rows.map User.account).Nodup

namespace Users

/-- A table with no row. -/
def empty : Users := ⟨[], List.nodup_nil, List.nodup_nil⟩

/-- The primary key and the unique index accept the row. -/
def Accepts (users : Users) (user : User) : Prop :=
  user.uid ∉ users.rows.map User.uid ∧ user.account ∉ users.rows.map User.account

instance (users : Users) (user : User) : Decidable (users.Accepts user) :=
  inferInstanceAs (Decidable (_ ∧ _))

/-- Insert a row. -/
def insert (users : Users) (user : User) (h : users.Accepts user) : Users where
  rows := users.rows ++ [user]
  uid_nodup := by
    rw [List.map_append]
    exact users.uid_nodup.append (List.nodup_singleton _) (List.disjoint_singleton.mpr h.1)
  account_nodup := by
    rw [List.map_append]
    exact users.account_nodup.append (List.nodup_singleton _) (List.disjoint_singleton.mpr h.2)

/-- Write back the row of `uid` with `f` applied, which keeps the two keys. -/
def update (users : Users) (uid : String) (f : User → User) (huid : ∀ user, (f user).uid = user.uid)
    (haccount : ∀ user, (f user).account = user.account) : Users where
  rows := users.rows.map fun user => if user.uid = uid then f user else user
  uid_nodup := by
    have hsame : (users.rows.map fun user => if user.uid = uid then f user else user).map User.uid =
        users.rows.map User.uid := by
      rw [List.map_map]
      refine List.map_congr_left fun user _ => ?_
      rw [Function.comp_apply]
      split_ifs
      · exact huid user
      · rfl
    rw [hsame]
    exact users.uid_nodup
  account_nodup := by
    have hsame : (users.rows.map fun user => if user.uid = uid then f user else user).map
        User.account = users.rows.map User.account := by
      rw [List.map_map]
      refine List.map_congr_left fun user _ => ?_
      rw [Function.comp_apply]
      split_ifs
      · exact haccount user
      · rfl
    rw [hsame]
    exact users.account_nodup

end Users

/-- The tables. -/
structure Stores where
  /-- `im_users`. -/
  users : Users
  /-- `im_friends`. -/
  friends : Table Friend
  /-- `im_groups`. -/
  groups : Table Group
  /-- `im_group_members`. -/
  members : Table GroupMember
  /-- `im_group_messages`. -/
  groupMessages : GroupMessages

/-- The tables with no row. -/
def Stores.empty : Stores := ⟨.empty, .empty, .empty, .empty, .empty⟩

/-- How a transaction ends. -/
structure Tx where
  /-- It commits. -/
  commits : Bool
  /-- The values that the sequence of the first row that it inserts skips. -/
  skip : ℕ
  /-- The values that the sequence of a second row skips. -/
  skip' : ℕ
  /-- The order in which its query returns rows. -/
  arrangement : Arrangement

/-- A transaction that commits and leaves nothing to chance. -/
def Tx.commit : Tx := ⟨true, 0, 0, .asStored⟩

/-! ## UserRepository -/

namespace UserRepository

/-- `create`. -/
def create (tx : Tx) (users : Users) (user : User) : Bool × Users :=
  if h : tx.commits = true ∧ users.Accepts user then (true, users.insert user h.2)
  else (false, users)

/-- `find_by_uid`. -/
def findByUid (tx : Tx) (users : Users) (uid : String) : Option User :=
  if tx.commits then users.rows.find? fun user => user.uid = uid else none

/-- `find_by_account`. -/
def findByAccount (tx : Tx) (users : Users) (account : String) : Option User :=
  if tx.commits then users.rows.find? fun user => user.account = account else none

/-- `search_by_account_or_nickname`. -/
def searchByAccountOrNickname (tx : Tx) (users : Users) (keyword : String) (limit : ℕ) :
    List User :=
  if keyword = "" ∨ limit = 0 then []
  else if tx.commits then
    let pattern := ("%" ++ keyword ++ "%").toList
    (tx.arrangement.arrange (users.rows.filter fun user =>
      like pattern user.account.toList || like pattern user.nickname.toList)).take limit
  else []

/-- The change that `update_last_login` makes to the row. -/
def setLastLogin (lastLogin : ℤ) (user : User) : User := { user with lastLogin := lastLogin }

/-- The change that `update_profile` makes to the row. -/
def setProfile (nickname avatar : String) (gender : Gender) (signature : String) (user : User) :
    User :=
  { user with nickname := nickname, avatar := avatar, gender := gender, signature := signature }

@[simp] theorem setLastLogin_uid (lastLogin : ℤ) (user : User) :
    (setLastLogin lastLogin user).uid = user.uid := rfl

@[simp] theorem setLastLogin_account (lastLogin : ℤ) (user : User) :
    (setLastLogin lastLogin user).account = user.account := rfl

@[simp] theorem setProfile_uid (nickname avatar : String) (gender : Gender) (signature : String)
    (user : User) : (setProfile nickname avatar gender signature user).uid = user.uid := rfl

@[simp] theorem setProfile_account (nickname avatar : String) (gender : Gender)
    (signature : String) (user : User) :
    (setProfile nickname avatar gender signature user).account = user.account := rfl

/-- `update_last_login`. -/
def updateLastLogin (tx : Tx) (users : Users) (uid : String) (lastLogin : ℤ) : Bool × Users :=
  if tx.commits ∧ uid ∈ users.rows.map User.uid then
    (true, users.update uid (setLastLogin lastLogin) (setLastLogin_uid lastLogin)
      (setLastLogin_account lastLogin))
  else (false, users)

/-- `update_profile`. -/
def updateProfile (tx : Tx) (users : Users) (uid nickname avatar : String) (gender : Gender)
    (signature : String) : Option User × Users :=
  if tx.commits then
    match users.rows.find? fun user => user.uid = uid with
    | none => (none, users)
    | some user =>
      (some (setProfile nickname avatar gender signature user),
        users.update uid (setProfile nickname avatar gender signature)
          (setProfile_uid nickname avatar gender signature)
          (setProfile_account nickname avatar gender signature))
  else (none, users)

end UserRepository

/-! ## FriendRepository -/

namespace FriendRepository

/-- The unique index `im_friends_pair_i` accepts the row. -/
def Accepts (t : Table Friend) (f : Friend) : Prop :=
  ∀ row ∈ t.rows, ¬ (row.2.requesterUid = f.requesterUid ∧ row.2.targetUid = f.targetUid)

instance (t : Table Friend) (f : Friend) : Decidable (Accepts t f) :=
  inferInstanceAs (Decidable (∀ row ∈ t.rows, _))

/-- `create`. -/
def create (tx : Tx) (t : Table Friend) (f : Friend) : Bool × Table Friend :=
  if tx.commits ∧ Accepts t f then (true, t.persist tx.skip f) else (false, t)

/-- `find_by_id`. -/
def findById (tx : Tx) (t : Table Friend) (friendId : ℕ) : Option Friend :=
  if tx.commits then t.load friendId else none

/-- The row relates the two users, in either direction. -/
def Relates (userA userB : String) (f : Friend) : Prop :=
  (f.requesterUid = userA ∧ f.targetUid = userB) ∨ (f.requesterUid = userB ∧ f.targetUid = userA)

instance (userA userB : String) (f : Friend) : Decidable (Relates userA userB f) :=
  inferInstanceAs (Decidable (_ ∨ _))

/-- `find_relationship`. -/
def findRelationship (tx : Tx) (t : Table Friend) (userA userB : String) : Option (ℕ × Friend) :=
  if tx.commits then
    (tx.arrangement.arrange (t.rows.filter fun row => Relates userA userB row.2)).head?
  else none

/-- `find_friends`. -/
def findFriends (tx : Tx) (t : Table Friend) (uid : String) : List (ℕ × Friend) :=
  if tx.commits then
    tx.arrangement.arrange (t.rows.filter fun row =>
      (row.2.requesterUid = uid ∨ row.2.targetUid = uid) ∧ row.2.status = .accepted)
  else []

/-- `find_pending`. -/
def findPending (tx : Tx) (t : Table Friend) (uid : String) : List (ℕ × Friend) :=
  if tx.commits then
    tx.arrangement.arrange (t.rows.filter fun row =>
      row.2.targetUid = uid ∧ row.2.status = .pending)
  else []

/-- `update_status`. -/
def updateStatus (tx : Tx) (t : Table Friend) (friendId : ℕ) (status : FriendStatus) :
    Bool × Table Friend :=
  if tx.commits ∧ (t.load friendId).isSome then
    (true, t.update friendId fun f => { f with status := status })
  else (false, t)

end FriendRepository

/-! ## GroupRepository -/

namespace GroupRepository

/-- The unique index `im_group_members_pair_i` accepts the row. -/
def Accepts (t : Table GroupMember) (m : GroupMember) : Prop :=
  ∀ row ∈ t.rows, ¬ (row.2.groupId = m.groupId ∧ row.2.userUid = m.userUid)

instance (t : Table GroupMember) (m : GroupMember) : Decidable (Accepts t m) :=
  inferInstanceAs (Decidable (∀ row ∈ t.rows, _))

/-- `create_group_with_owner`; `owner` gets the id of the new group, which is returned. -/
def createGroupWithOwner (tx : Tx) (groups : Table Group) (members : Table GroupMember) (g : Group)
    (owner : GroupMember) : Option ℕ × Table Group × Table GroupMember :=
  let owner := { owner with groupId := groups.freshId tx.skip }
  if tx.commits ∧ Accepts members owner then
    (some (groups.freshId tx.skip), groups.persist tx.skip g, members.persist tx.skip' owner)
  else (none, groups, members)

/-- `find_group_by_id`. -/
def findGroupById (tx : Tx) (groups : Table Group) (groupId : ℕ) : Option Group :=
  if tx.commits then groups.load groupId else none

/-- The transaction of `find_groups_by_user`: the groups of the user's memberships; `none` when it
fails. -/
def findGroupIds (tx : Tx) (members : Table GroupMember) (userUid : String) : Option (List ℕ) :=
  if tx.commits then
    some ((tx.arrangement.arrange (members.rows.filter fun row => row.2.userUid = userUid)).map
      fun row => row.2.groupId)
  else none

/-- The query of `search_groups`. -/
def searchByName (tx : Tx) (groups : Table Group) (keyword : String) (limit : ℕ) :
    List (ℕ × Group) :=
  if tx.commits then
    (tx.arrangement.arrange (groups.rows.filter fun row =>
      like ("%" ++ keyword ++ "%").toList row.2.name.toList)).take limit
  else []

/-- `add_member`. -/
def addMember (tx : Tx) (members : Table GroupMember) (m : GroupMember) :
    Bool × Table GroupMember :=
  if tx.commits ∧ Accepts members m then (true, members.persist tx.skip m) else (false, members)

/-- `remove_member`, which succeeds also when there is no such row. -/
def removeMember (tx : Tx) (members : Table GroupMember) (groupId : ℕ) (userUid : String) :
    Bool × Table GroupMember :=
  if tx.commits then (true, members.erase fun m => m.groupId = groupId ∧ m.userUid = userUid)
  else (false, members)

/-- `find_members`. -/
def findMembers (tx : Tx) (members : Table GroupMember) (groupId : ℕ) : List (ℕ × GroupMember) :=
  if tx.commits then
    tx.arrangement.arrange (members.rows.filter fun row => row.2.groupId = groupId)
  else []

/-- `find_member`. -/
def findMember (tx : Tx) (members : Table GroupMember) (groupId : ℕ) (userUid : String) :
    Option (ℕ × GroupMember) :=
  if tx.commits then
    (tx.arrangement.arrange (members.rows.filter fun row =>
      row.2.groupId = groupId ∧ row.2.userUid = userUid)).head?
  else none

end GroupRepository

/-! ## GroupMessageRepository -/

namespace GroupMessageRepository

/-- `create`: the id of the message. -/
def create (tx : Tx) (t : GroupMessages) (m : GroupMessage) : Option ℕ × GroupMessages :=
  if tx.commits then (some (t.freshId tx.skip), t.persist tx.skip m) else (none, t)

/-- `find_by_group`: `ORDER BY created_at DESC LIMIT limit`. A negative limit is an error of the
query. -/
def findByGroup (tx : Tx) (t : GroupMessages) (groupId : ℕ) (beforeTime limit : ℤ) :
    List (ℕ × GroupMessage) :=
  if tx.commits then
    ((tx.arrangement.arrange (t.rows.filter fun row =>
      row.2.groupId = groupId ∧ row.2.createdAt < beforeTime)).insertionSort
        fun a b => b.2.createdAt ≤ a.2.createdAt).take limit.toNat
  else []

end GroupMessageRepository

/-! ## Commands -/

/-- A transaction of a repository. -/
inductive Command where
  /-- `UserRepository::create`. -/
  | createUser (user : User)
  /-- `UserRepository::find_by_uid`. -/
  | findByUid (uid : String)
  /-- `UserRepository::find_by_account`. -/
  | findByAccount (account : String)
  /-- `UserRepository::search_by_account_or_nickname`. -/
  | searchUsers (keyword : String) (limit : ℕ)
  /-- `UserRepository::update_last_login`. -/
  | updateLastLogin (uid : String) (lastLogin : ℤ)
  /-- `UserRepository::update_profile`. -/
  | updateProfile (uid nickname avatar : String) (gender : Gender) (signature : String)
  /-- `FriendRepository::create`. -/
  | createFriend (f : Friend)
  /-- `FriendRepository::find_by_id`. -/
  | findFriendById (friendId : ℕ)
  /-- `FriendRepository::find_relationship`. -/
  | findRelationship (userA userB : String)
  /-- `FriendRepository::find_friends`. -/
  | findFriends (uid : String)
  /-- `FriendRepository::find_pending`. -/
  | findPending (uid : String)
  /-- `FriendRepository::update_status`. -/
  | updateStatus (friendId : ℕ) (status : FriendStatus)
  /-- `GroupRepository::create_group_with_owner`. -/
  | createGroupWithOwner (g : Group) (owner : GroupMember)
  /-- `GroupRepository::find_group_by_id`. -/
  | findGroupById (groupId : ℕ)
  /-- The transaction of `GroupRepository::find_groups_by_user`. -/
  | findGroupIds (userUid : String)
  /-- The query of `GroupRepository::search_groups`. -/
  | searchByName (keyword : String) (limit : ℕ)
  /-- `GroupRepository::add_member`. -/
  | addMember (m : GroupMember)
  /-- `GroupRepository::remove_member`. -/
  | removeMember (groupId : ℕ) (userUid : String)
  /-- `GroupRepository::find_members`. -/
  | findMembers (groupId : ℕ)
  /-- `GroupRepository::find_member`. -/
  | findMember (groupId : ℕ) (userUid : String)
  /-- `GroupMessageRepository::create`. -/
  | createGroupMessage (m : GroupMessage)
  /-- `GroupMessageRepository::find_by_group`. -/
  | findByGroup (groupId : ℕ) (beforeTime limit : ℤ)
  deriving DecidableEq, Repr

/-- What the repository returns. -/
abbrev Command.Reply : Command → Type
  | .createUser _ => Bool
  | .findByUid _ => Option User
  | .findByAccount _ => Option User
  | .searchUsers _ _ => List User
  | .updateLastLogin _ _ => Bool
  | .updateProfile _ _ _ _ _ => Option User
  | .createFriend _ => Bool
  | .findFriendById _ => Option Friend
  | .findRelationship _ _ => Option (ℕ × Friend)
  | .findFriends _ => List (ℕ × Friend)
  | .findPending _ => List (ℕ × Friend)
  | .updateStatus _ _ => Bool
  | .createGroupWithOwner _ _ => Option ℕ
  | .findGroupById _ => Option Group
  | .findGroupIds _ => Option (List ℕ)
  | .searchByName _ _ => List (ℕ × Group)
  | .addMember _ => Bool
  | .removeMember _ _ => Bool
  | .findMembers _ => List (ℕ × GroupMember)
  | .findMember _ _ => Option (ℕ × GroupMember)
  | .createGroupMessage _ => Option ℕ
  | .findByGroup _ _ _ => List (ℕ × GroupMessage)

/-- The transaction on the tables. -/
def handle (tx : Tx) (s : Stores) : (c : Command) → c.Reply × Stores
  | .createUser user =>
    let (reply, users) := UserRepository.create tx s.users user
    (reply, { s with users := users })
  | .findByUid uid => (UserRepository.findByUid tx s.users uid, s)
  | .findByAccount account => (UserRepository.findByAccount tx s.users account, s)
  | .searchUsers keyword limit =>
    (UserRepository.searchByAccountOrNickname tx s.users keyword limit, s)
  | .updateLastLogin uid lastLogin =>
    let (reply, users) := UserRepository.updateLastLogin tx s.users uid lastLogin
    (reply, { s with users := users })
  | .updateProfile uid nickname avatar gender signature =>
    let (reply, users) :=
      UserRepository.updateProfile tx s.users uid nickname avatar gender signature
    (reply, { s with users := users })
  | .createFriend f =>
    let (reply, friends) := FriendRepository.create tx s.friends f
    (reply, { s with friends := friends })
  | .findFriendById friendId => (FriendRepository.findById tx s.friends friendId, s)
  | .findRelationship userA userB => (FriendRepository.findRelationship tx s.friends userA userB, s)
  | .findFriends uid => (FriendRepository.findFriends tx s.friends uid, s)
  | .findPending uid => (FriendRepository.findPending tx s.friends uid, s)
  | .updateStatus friendId status =>
    let (reply, friends) := FriendRepository.updateStatus tx s.friends friendId status
    (reply, { s with friends := friends })
  | .createGroupWithOwner g owner =>
    let (reply, groups, members) :=
      GroupRepository.createGroupWithOwner tx s.groups s.members g owner
    (reply, { s with groups := groups, members := members })
  | .findGroupById groupId => (GroupRepository.findGroupById tx s.groups groupId, s)
  | .findGroupIds userUid => (GroupRepository.findGroupIds tx s.members userUid, s)
  | .searchByName keyword limit => (GroupRepository.searchByName tx s.groups keyword limit, s)
  | .addMember m =>
    let (reply, members) := GroupRepository.addMember tx s.members m
    (reply, { s with members := members })
  | .removeMember groupId userUid =>
    let (reply, members) := GroupRepository.removeMember tx s.members groupId userUid
    (reply, { s with members := members })
  | .findMembers groupId => (GroupRepository.findMembers tx s.members groupId, s)
  | .findMember groupId userUid => (GroupRepository.findMember tx s.members groupId userUid, s)
  | .createGroupMessage m =>
    let (reply, groupMessages) := GroupMessageRepository.create tx s.groupMessages m
    (reply, { s with groupMessages := groupMessages })
  | .findByGroup groupId beforeTime limit =>
    (GroupMessageRepository.findByGroup tx s.groupMessages groupId beforeTime limit, s)

/-- A program over the repositories. -/
abbrev Program (α : Type) := CommandProgram Command Command.Reply α

/-- The repository call as a program. -/
abbrev query (c : Command) : Program c.Reply := .send c

end MyChat.Social
