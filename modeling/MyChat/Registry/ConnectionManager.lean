import Mathlib.Data.List.AList
import Mathlib.Data.Finset.Basic
import Mathlib.Data.List.Infix
import Mathlib.Logic.Function.Basic
import MyChat.Lib.Run

/-!
# The session registry in Redis

`gateway/connection_manager/connection_manager.cpp` keeps, for every user who is connected, the
sessions of his devices in Redis. Four kinds of keys hold them:

* `user:sessions:{user_id}`, a hash from a device field, the text `device_id:platform`, to the
  session;
* `user:platform:{user_id}`, the set of the user's device fields;
* `session:user:{session_id}`, a hash with the user, device, and platform of a session;
* `online:users`, the set of the users who have a session.

The kinds have different prefixes, so that the model keeps each in a map of its own from the key's
text. A value of `user:sessions` is the JSON text of a `DeviceSessionInfo`, which is represented by
the record that `from_json` reads back from it. The code walks a hash in the order of an
`unordered_map`, which nothing fixes: it is a `WalkOrder` that each call is given. Redis is taken to
execute every command, and a call to be executed before the next one starts.
-/

namespace MyChat.Registry

/-- A session as `user:sessions` holds it, with its connect time in milliseconds. -/
structure DeviceSessionInfo where
  /-- `session_id`. -/
  sessionId : String
  /-- `device_id`. -/
  deviceId : String
  /-- `platform`. -/
  platform : String
  /-- `connect_time`. -/
  connectTime : ℤ
  deriving DecidableEq, Repr

/-- A hash: its fields, each with a value. -/
abbrev Hash (V : Type) := AList fun _ : String => V

/-- The registry's part of Redis, by the text of the keys. -/
structure Redis where
  /-- The hashes `user:sessions:{user_id}`. -/
  userSessions : String → Hash DeviceSessionInfo
  /-- The sets `user:platform:{user_id}`. -/
  userPlatform : String → Finset String
  /-- The hashes `session:user:{session_id}`. -/
  sessionUser : String → Hash String
  /-- The set `online:users`. -/
  onlineUsers : Finset String

/-- Redis with no key of the registry. -/
def Redis.empty : Redis where
  userSessions _ := ∅
  userPlatform _ := ∅
  sessionUser _ := ∅
  onlineUsers := ∅

/-- An order in which an `unordered_map` is walked. -/
structure WalkOrder where
  /-- The entries in that order. -/
  walk : List (Σ _ : String, DeviceSessionInfo) → List (Σ _ : String, DeviceSessionInfo)
  /-- Every entry is visited once. -/
  perm : ∀ entries, (walk entries).Perm entries

/-- The order of the entries themselves. -/
def WalkOrder.inOrder : WalkOrder := ⟨id, fun _ => .rfl⟩

/-! ## Keys and fields -/

/-- `generate_redis_key`. -/
def generateRedisKey (kind userId : String) : String := kind ++ ":" ++ userId

/-- `generate_device_field`. -/
def generateDeviceField (deviceId platform : String) : String := deviceId ++ ":" ++ platform

/-- The device id that `remove_connection` reads off a field: the text before the first `:`. -/
def fieldDeviceId (field : String) : Option String :=
  if ':' ∈ field.toList then some (String.ofList (field.toList.takeWhile (· ≠ ':'))) else none

/-- `text.find(pattern) != npos`. -/
def contains (text pattern : String) : Bool := decide (pattern.toList <:+: text.toList)

/-- `user:sessions:{user_id}`. -/
def sessionsOf (r : Redis) (userId : String) : Hash DeviceSessionInfo :=
  r.userSessions (generateRedisKey "user:sessions" userId)

/-- `user:platform:{user_id}`. -/
def platformsOf (r : Redis) (userId : String) : Finset String :=
  r.userPlatform (generateRedisKey "user:platform" userId)

/-- `session:user:{session_id}`. -/
def userOf (r : Redis) (sessionId : String) : Hash String :=
  r.sessionUser (generateRedisKey "session:user" sessionId)

/-! ## Commands -/

/-- `hset user:sessions:{user_id} field info`. -/
def hsetSession (userId field : String) (info : DeviceSessionInfo) (r : Redis) : Redis :=
  { r with
    userSessions := Function.update r.userSessions (generateRedisKey "user:sessions" userId)
      ((sessionsOf r userId).insert field info) }

/-- `hdel user:sessions:{user_id} field`. -/
def hdelSession (userId field : String) (r : Redis) : Redis :=
  { r with
    userSessions := Function.update r.userSessions (generateRedisKey "user:sessions" userId)
      ((sessionsOf r userId).erase field) }

/-- `sadd user:platform:{user_id} field`. -/
def saddPlatform (userId field : String) (r : Redis) : Redis :=
  { r with
    userPlatform := Function.update r.userPlatform (generateRedisKey "user:platform" userId)
      (insert field (platformsOf r userId)) }

/-- `srem user:platform:{user_id} field`. -/
def sremPlatform (userId field : String) (r : Redis) : Redis :=
  { r with
    userPlatform := Function.update r.userPlatform (generateRedisKey "user:platform" userId)
      ((platformsOf r userId).erase field) }

/-- `hset session:user:{session_id} field value`. -/
def hsetUser (sessionId field value : String) (r : Redis) : Redis :=
  { r with
    sessionUser := Function.update r.sessionUser (generateRedisKey "session:user" sessionId)
      ((userOf r sessionId).insert field value) }

/-- `del session:user:{session_id}`. -/
def delUser (sessionId : String) (r : Redis) : Redis :=
  { r with
    sessionUser := Function.update r.sessionUser (generateRedisKey "session:user" sessionId) ∅ }

/-- `sadd online:users user_id`. -/
def saddOnline (userId : String) (r : Redis) : Redis :=
  { r with onlineUsers := insert userId r.onlineUsers }

/-- `srem online:users user_id`. -/
def sremOnline (userId : String) (r : Redis) : Redis :=
  { r with onlineUsers := r.onlineUsers.erase userId }

/-! ## Calls -/

/-- `check_and_kick_same_platform`: the session that is disconnected, if any. `multiDevice` is
`enable_multi_device` of the platform's configuration. -/
def checkAndKickSamePlatform (multiDevice : String → Bool) (order : WalkOrder) (r : Redis)
    (userId deviceId platform : String) : Option String :=
  if multiDevice platform then none
  else
    let found := (order.walk (sessionsOf r userId).entries).find? fun entry =>
      contains entry.1 (":" ++ platform) && !contains entry.1 deviceId
    -- The code uses the empty id for "none".
    (found.map fun entry => entry.2.sessionId).filter fun sessionId => sessionId ≠ ""

/-- `add_connection`: the session that is disconnected for the new one, and the registry after. -/
def addConnection (multiDevice : String → Bool) (order : WalkOrder) (now : ℤ) (r : Redis)
    (userId deviceId platform sessionId : String) : Option String × Redis :=
  let kicked := checkAndKickSamePlatform multiDevice order r userId deviceId platform
  let info : DeviceSessionInfo := ⟨sessionId, deviceId, platform, now⟩
  let field := generateDeviceField deviceId platform
  let r := hsetSession userId field info r
  let r := saddPlatform userId field r
  let r := hsetUser sessionId "user_id" userId r
  let r := hsetUser sessionId "device_id" deviceId r
  let r := hsetUser sessionId "platform" platform r
  (kicked, saddOnline userId r)

/-- The entry that `remove_connection` stops at: the first whose field starts with the device. -/
def findDevice (order : WalkOrder) (r : Redis) (userId deviceId : String) :
    Option (Σ _ : String, DeviceSessionInfo) :=
  (order.walk (sessionsOf r userId).entries).find? fun entry =>
    fieldDeviceId entry.1 = some deviceId

/-- The commands that `remove_connection` executes on that entry. -/
def eraseEntry (userId : String) (entry : Σ _ : String, DeviceSessionInfo) (r : Redis) : Redis :=
  delUser entry.2.sessionId (sremPlatform userId entry.1 (hdelSession userId entry.1 r))

/-- The end of `remove_connection`: a user with no session left is no longer online. -/
def dropIfOffline (userId : String) (r : Redis) : Redis :=
  if (sessionsOf r userId).entries.isEmpty then sremOnline userId r else r

/-- `remove_connection(user_id, device_id)`. -/
def removeConnection (order : WalkOrder) (r : Redis) (userId deviceId : String) : Redis :=
  match findDevice order r userId deviceId with
  | some entry => dropIfOffline userId (eraseEntry userId entry r)
  | none => dropIfOffline userId r

/-- A field of `session:user:{session_id}`, as `user_info[field]` reads it. -/
def userInfo (r : Redis) (sessionId field : String) : String :=
  ((userOf r sessionId).lookup field).getD ""

/-- `remove_connection(session)`. -/
def removeSession (order : WalkOrder) (r : Redis) (sessionId : String) : Redis :=
  let userId := userInfo r sessionId "user_id"
  let deviceId := userInfo r sessionId "device_id"
  if userId = "" then r else removeConnection order r userId deviceId

/-- A call of the connection manager that writes the registry, with what it depends on. -/
inductive Call where
  /-- `add_connection`. -/
  | add (userId deviceId platform sessionId : String) (now : ℤ) (order : WalkOrder)
  /-- `remove_connection(user_id, device_id)`. -/
  | remove (userId deviceId : String) (order : WalkOrder)
  /-- `remove_connection(session)`. -/
  | removeSession (sessionId : String) (order : WalkOrder)

/-- The registry after a call. -/
def step (multiDevice : String → Bool) (r : Redis) : Call → Redis
  | .add userId deviceId platform sessionId now order =>
    (addConnection multiDevice order now r userId deviceId platform sessionId).2
  | .remove userId deviceId order => removeConnection order r userId deviceId
  | .removeSession sessionId order => Registry.removeSession order r sessionId

/-! ## Queries -/

/-- `get_session`: the id of the session that it asks the WebSocket server for. -/
def getSession (r : Redis) (userId deviceId platform : String) : Option String :=
  ((sessionsOf r userId).lookup (generateDeviceField deviceId platform)).map
    DeviceSessionInfo.sessionId

/-- `get_user_sessions`. -/
def getUserSessions (order : WalkOrder) (r : Redis) (userId : String) : List DeviceSessionInfo :=
  (order.walk (sessionsOf r userId).entries).map Sigma.snd

/-- `is_user_online_on_platform`. -/
def isUserOnlineOnPlatform (r : Redis) (userId platform : String) : Bool :=
  decide (∃ field ∈ platformsOf r userId, contains field (":" ++ platform) = true)

/-! ## What the commands change -/

/-- Keys of one kind differ when their users or sessions do. -/
@[simp] theorem generateRedisKey_inj {kind a b : String} :
    generateRedisKey kind a = generateRedisKey kind b ↔ a = b := by
  unfold generateRedisKey
  constructor
  · intro h
    have hlist := congrArg String.toList h
    rw [String.toList_append, String.toList_append (t := b)] at hlist
    exact String.toList_inj.mp (List.append_cancel_left hlist)
  · rintro rfl
    rfl

/-- A field is in a hash when it has a value. -/
theorem mem_iff_lookup {V : Type} {hash : Hash V} {f : String} :
    f ∈ hash ↔ ∃ value, hash.lookup f = some value := by
  rw [← AList.lookup_isSome, Option.isSome_iff_exists]

/-- A hash exists when it has a field. -/
theorem ne_empty_iff {V : Type} {hash : Hash V} : hash ≠ ∅ ↔ ∃ f, f ∈ hash := by
  constructor
  · intro h
    rcases hentries : hash.entries with _ | ⟨⟨f, value⟩, rest⟩
    · exact absurd (AList.ext hentries) h
    · exact ⟨f, AList.mem_keys.mpr (by simp [AList.keys, hentries])⟩
  · rintro ⟨f, hf⟩ rfl
    exact AList.notMem_empty f hf

/-- `get_user_sessions` lists the values of the user's hash. -/
theorem mem_getUserSessions_iff {order : WalkOrder} {r : Redis} {u : String}
    {info : DeviceSessionInfo} :
    info ∈ getUserSessions order r u ↔ ∃ f, (sessionsOf r u).lookup f = some info := by
  unfold getUserSessions
  rw [List.mem_map]
  constructor
  · rintro ⟨⟨f, value⟩, hmem, rfl⟩
    exact ⟨f, AList.mem_lookup_iff.mpr ((order.perm _).mem_iff.mp hmem)⟩
  · rintro ⟨f, hf⟩
    exact ⟨⟨f, info⟩, (order.perm _).mem_iff.mpr (AList.mem_lookup_iff.mp hf), rfl⟩

section Commands

variable (r : Redis) (userId field sessionId value u s : String) (info : DeviceSessionInfo)

@[simp] theorem sessionsOf_hsetSession : sessionsOf (hsetSession userId field info r) u =
    if u = userId then (sessionsOf r userId).insert field info else sessionsOf r u := by
  simp [sessionsOf, hsetSession, Function.update_apply]

@[simp] theorem sessionsOf_hdelSession : sessionsOf (hdelSession userId field r) u =
    if u = userId then (sessionsOf r userId).erase field else sessionsOf r u := by
  simp [sessionsOf, hdelSession, Function.update_apply]

@[simp] theorem platformsOf_saddPlatform : platformsOf (saddPlatform userId field r) u =
    if u = userId then insert field (platformsOf r userId) else platformsOf r u := by
  simp [platformsOf, saddPlatform, Function.update_apply]

@[simp] theorem platformsOf_sremPlatform : platformsOf (sremPlatform userId field r) u =
    if u = userId then (platformsOf r userId).erase field else platformsOf r u := by
  simp [platformsOf, sremPlatform, Function.update_apply]

@[simp] theorem userOf_hsetUser : userOf (hsetUser sessionId field value r) s =
    if s = sessionId then (userOf r sessionId).insert field value else userOf r s := by
  simp [userOf, hsetUser, Function.update_apply]

@[simp] theorem userOf_delUser : userOf (delUser sessionId r) s =
    if s = sessionId then ∅ else userOf r s := by
  simp [userOf, delUser, Function.update_apply]

@[simp] theorem sessionsOf_saddPlatform :
    sessionsOf (saddPlatform userId field r) u = sessionsOf r u := rfl
@[simp] theorem sessionsOf_sremPlatform :
    sessionsOf (sremPlatform userId field r) u = sessionsOf r u := rfl
@[simp] theorem sessionsOf_hsetUser :
    sessionsOf (hsetUser sessionId field value r) u = sessionsOf r u := rfl
@[simp] theorem sessionsOf_delUser : sessionsOf (delUser sessionId r) u = sessionsOf r u := rfl
@[simp] theorem sessionsOf_saddOnline : sessionsOf (saddOnline userId r) u = sessionsOf r u := rfl
@[simp] theorem sessionsOf_sremOnline : sessionsOf (sremOnline userId r) u = sessionsOf r u := rfl

@[simp] theorem platformsOf_hsetSession :
    platformsOf (hsetSession userId field info r) u = platformsOf r u := rfl
@[simp] theorem platformsOf_hdelSession :
    platformsOf (hdelSession userId field r) u = platformsOf r u := rfl
@[simp] theorem platformsOf_hsetUser :
    platformsOf (hsetUser sessionId field value r) u = platformsOf r u := rfl
@[simp] theorem platformsOf_delUser : platformsOf (delUser sessionId r) u = platformsOf r u := rfl
@[simp] theorem platformsOf_saddOnline :
    platformsOf (saddOnline userId r) u = platformsOf r u := rfl
@[simp] theorem platformsOf_sremOnline :
    platformsOf (sremOnline userId r) u = platformsOf r u := rfl

@[simp] theorem userOf_hsetSession :
    userOf (hsetSession userId field info r) s = userOf r s := rfl
@[simp] theorem userOf_hdelSession : userOf (hdelSession userId field r) s = userOf r s := rfl
@[simp] theorem userOf_saddPlatform : userOf (saddPlatform userId field r) s = userOf r s := rfl
@[simp] theorem userOf_sremPlatform : userOf (sremPlatform userId field r) s = userOf r s := rfl
@[simp] theorem userOf_saddOnline : userOf (saddOnline userId r) s = userOf r s := rfl
@[simp] theorem userOf_sremOnline : userOf (sremOnline userId r) s = userOf r s := rfl

end Commands

/-! ## What the calls change -/

section Calls

variable (multiDevice : String → Bool) (order : WalkOrder) (now : ℤ) (r : Redis)
  (userId deviceId platform sessionId u s : String)

/-- The registry after `add_connection`. -/
def added : Redis := (addConnection multiDevice order now r userId deviceId platform sessionId).2

theorem sessionsOf_added :
    sessionsOf (added multiDevice order now r userId deviceId platform sessionId) u =
      if u = userId then (sessionsOf r userId).insert (generateDeviceField deviceId platform)
        ⟨sessionId, deviceId, platform, now⟩
      else sessionsOf r u := by
  simp [added, addConnection]

theorem platformsOf_added :
    platformsOf (added multiDevice order now r userId deviceId platform sessionId) u =
      if u = userId then insert (generateDeviceField deviceId platform) (platformsOf r userId)
      else platformsOf r u := by
  simp [added, addConnection]

theorem userOf_added :
    userOf (added multiDevice order now r userId deviceId platform sessionId) s =
      if s = sessionId then (((userOf r sessionId).insert "user_id" userId).insert "device_id"
        deviceId).insert "platform" platform
      else userOf r s := by
  by_cases hs : s = sessionId <;> simp [added, addConnection, hs]

/-- The values of `user:sessions` after `add_connection`. -/
theorem lookup_added (f : String) :
    (sessionsOf (added multiDevice order now r userId deviceId platform sessionId) u).lookup f =
      if u = userId ∧ f = generateDeviceField deviceId platform then
        some ⟨sessionId, deviceId, platform, now⟩
      else (sessionsOf r u).lookup f := by
  rw [sessionsOf_added]
  by_cases hu : u = userId
  · by_cases hf : f = generateDeviceField deviceId platform
    · rw [if_pos hu, if_pos ⟨hu, hf⟩, hf, AList.lookup_insert]
    · rw [if_pos hu, if_neg (fun h => hf h.2), AList.lookup_insert_ne hf, hu]
  · rw [if_neg hu, if_neg (fun h => hu h.1)]

theorem onlineUsers_added :
    (added multiDevice order now r userId deviceId platform sessionId).onlineUsers =
      insert userId r.onlineUsers := rfl

theorem sessionsOf_dropIfOffline : sessionsOf (dropIfOffline userId r) u = sessionsOf r u := by
  unfold dropIfOffline
  split_ifs <;> rfl

theorem platformsOf_dropIfOffline : platformsOf (dropIfOffline userId r) u = platformsOf r u := by
  unfold dropIfOffline
  split_ifs <;> rfl

theorem userOf_dropIfOffline : userOf (dropIfOffline userId r) s = userOf r s := by
  unfold dropIfOffline
  split_ifs <;> rfl

/-- Who is online after the last part of `remove_connection`. -/
theorem mem_onlineUsers_dropIfOffline : u ∈ (dropIfOffline userId r).onlineUsers ↔
    u ∈ r.onlineUsers ∧ (u = userId → sessionsOf r userId ≠ ∅) := by
  have hempty : (sessionsOf r userId).entries.isEmpty = true ↔ sessionsOf r userId = ∅ := by
    rw [List.isEmpty_iff, AList.ext_iff, AList.empty_entries]
  unfold dropIfOffline
  split_ifs with h
  · simp [sremOnline, hempty.mp h, and_comm]
  · rw [hempty] at h
    simp [h]

variable (entry : Σ _ : String, DeviceSessionInfo)

theorem sessionsOf_eraseEntry : sessionsOf (eraseEntry userId entry r) u =
    if u = userId then (sessionsOf r userId).erase entry.1 else sessionsOf r u := by
  simp [eraseEntry]

/-- The values of `user:sessions` after an entry is erased. -/
theorem lookup_eraseEntry (f : String) : (sessionsOf (eraseEntry userId entry r) u).lookup f =
    if u = userId ∧ f = entry.1 then none else (sessionsOf r u).lookup f := by
  rw [sessionsOf_eraseEntry]
  by_cases hu : u = userId
  · by_cases hf : f = entry.1
    · rw [if_pos hu, if_pos ⟨hu, hf⟩, hf, AList.lookup_erase]
    · rw [if_pos hu, if_neg (fun h => hf h.2), AList.lookup_erase_ne hf, hu]
  · rw [if_neg hu, if_neg (fun h => hu h.1)]

theorem platformsOf_eraseEntry : platformsOf (eraseEntry userId entry r) u =
    if u = userId then (platformsOf r userId).erase entry.1 else platformsOf r u := by
  simp [eraseEntry]

theorem userOf_eraseEntry : userOf (eraseEntry userId entry r) s =
    if s = entry.2.sessionId then ∅ else userOf r s := by
  simp [eraseEntry]

theorem onlineUsers_eraseEntry : (eraseEntry userId entry r).onlineUsers = r.onlineUsers := rfl

/-- What `remove_connection` can do: erase one of the user's entries whose field starts with the
device, or, when there is none, nothing; and then drop the user if he has no entry left. -/
theorem removeConnection_cases :
    (∃ field info, (sessionsOf r userId).lookup field = some info ∧
      fieldDeviceId field = some deviceId ∧
      removeConnection order r userId deviceId =
        dropIfOffline userId (eraseEntry userId ⟨field, info⟩ r)) ∨
    ((∀ field ∈ (sessionsOf r userId).keys, fieldDeviceId field ≠ some deviceId) ∧
      removeConnection order r userId deviceId = dropIfOffline userId r) := by
  unfold removeConnection
  rcases hfind : findDevice order r userId deviceId with _ | ⟨field, info⟩
  · refine Or.inr ⟨fun field hfield heq => ?_, rfl⟩
    obtain ⟨info, hinfo⟩ := List.exists_of_mem_keys hfield
    have hmem := (order.perm _).mem_iff.mpr hinfo
    exact absurd heq (by simpa using List.find?_eq_none.mp hfind _ hmem)
  · refine Or.inl ⟨field, info, ?_, ?_, rfl⟩
    · have hmem := (order.perm _).mem_iff.mp (List.mem_of_find?_eq_some hfind)
      exact AList.mem_lookup_iff.mpr hmem
    · simpa using List.find?_some hfind

end Calls

end MyChat.Registry
