import MyChat.Social.Stores

/-!
# `UserService`

The functions of `services/user/user_service.cpp` as programs over the repository's transactions.
What a process has besides the database, its random numbers and its password hasher, is a
`UserProcess`.
-/

namespace MyChat.Social

/-- `UserProfile`. -/
structure UserProfile where
  /-- `uid`. -/
  uid : String
  /-- `account`. -/
  account : String
  /-- `nickname`. -/
  nickname : String
  /-- `avatar`. -/
  avatar : String
  /-- `gender`. -/
  gender : Gender
  /-- `signature`. -/
  signature : String
  /-- `create_time`. -/
  createTime : ℤ
  /-- `last_login`. -/
  lastLogin : ℤ
  /-- `online`. -/
  online : Bool
  deriving DecidableEq, Repr

/-- `RegisterRequest`. -/
structure RegisterRequest where
  /-- `account`. -/
  account : String
  /-- `password`. -/
  password : String
  /-- `nickname`. -/
  nickname : String
  /-- `now_ms`. -/
  nowMs : ℤ
  deriving DecidableEq, Repr

/-- `UpdateProfileRequest`. -/
structure UpdateProfileRequest where
  /-- `uid`. -/
  uid : String
  /-- `nickname`. -/
  nickname : String
  /-- `avatar`. -/
  avatar : String
  /-- `gender`. -/
  gender : Gender
  /-- `signature`. -/
  signature : String
  deriving DecidableEq, Repr

/-- `RegisterResult`, `LoginResult`, and `UpdateProfileResult`: the profile, or an error code and
its text. -/
abbrev UserResult := Except (String × String) UserProfile

/-- What a call of the service draws and computes outside the database. -/
structure UserProcess where
  /-- The bytes that `RAND_bytes` gives to `GenerateUid`; `none` when it fails. -/
  randomBytes : Option (Fin 16 → UInt8)
  /-- `hasher_->hash`, with the salt that it draws; `none` when it throws. -/
  hash : String → Option String
  /-- `hasher_->verify`. -/
  verify : String → String → Bool

/-- A byte under `%02x`. -/
def hexByte (byte : UInt8) : List Char :=
  [Nat.digitChar (byte.toNat / 16), Nat.digitChar (byte.toNat % 16)]

/-- The bytes of a version 4 UUID. -/
def uidByte (bytes : Fin 16 → UInt8) (i : Fin 16) : UInt8 :=
  if i = 6 then bytes i &&& 0x0f ||| 0x40 else if i = 8 then bytes i &&& 0x3f ||| 0x80
  else bytes i

/-- The bytes at the given places, under `%02x`. -/
def hexBytes (bytes : Fin 16 → UInt8) (places : List (Fin 16)) : List Char :=
  places.flatMap fun i => hexByte (uidByte bytes i)

/-- `GenerateUid`, on the bytes that it drew. -/
def generateUid (bytes : Fin 16 → UInt8) : String :=
  String.ofList (hexBytes bytes [0, 1, 2, 3] ++ '-' :: hexBytes bytes [4, 5] ++
    '-' :: hexBytes bytes [6, 7] ++ '-' :: hexBytes bytes [8, 9] ++
    '-' :: hexBytes bytes [10, 11, 12, 13, 14, 15])

/-- A generated uid is not empty. -/
theorem generateUid_ne_empty (bytes : Fin 16 → UInt8) : generateUid bytes ≠ "" := by
  intro h
  have hlist := congrArg String.toList h
  simp [generateUid] at hlist

/-- `to_profile`. -/
def User.toProfile (user : User) : UserProfile where
  uid := user.uid
  account := user.account
  nickname := user.nickname
  avatar := user.avatar
  gender := user.gender
  signature := user.signature
  createTime := user.createTime
  lastLogin := user.lastLogin
  online := user.online

namespace UserService

/-- The row that `register_user` makes of a request. -/
def newUser (uid passwordHash : String) (request : RegisterRequest) : User where
  uid := uid
  account := request.account
  passwordHash := passwordHash
  nickname := if request.nickname = "" then request.account else request.nickname
  avatar := ""
  gender := .unknown
  signature := ""
  createTime := request.nowMs
  lastLogin := request.nowMs
  online := false

/-- `register_user`; `none` when an exception leaves it. -/
def registerUser (process : UserProcess) (request : RegisterRequest) :
    Program (Option UserResult) := do
  if request.account = "" then
    return some (.error ("EMPTY_ACCOUNT", "Account must not be empty"))
  else if request.password = "" then
    return some (.error ("EMPTY_PASSWORD", "Password must not be empty"))
  else
    let existing ← query (.findByAccount request.account)
    if existing.isSome then
      return some (.error ("DUPLICATE_ACCOUNT", "Account already exists"))
    else
      match process.randomBytes, process.hash request.password with
      | some bytes, some passwordHash =>
        let user := newUser (generateUid bytes) passwordHash request
        let created ← query (.createUser user)
        if created then return some (.ok user.toProfile)
        else return some (.error ("PERSIST_FAILED", "Failed to persist user"))
      | _, _ => return none

/-- `login_by_account`. -/
def loginByAccount (process : UserProcess) (account password : String) (nowMs : ℤ) :
    Program UserResult := do
  match ← query (.findByAccount account) with
  | none => return .error ("INVALID_ACCOUNT", "Account not found")
  | some user =>
    if !process.verify password user.passwordHash then
      return .error ("WRONG_PASSWORD", "Incorrect password")
    else
      -- A login succeeds also when its time cannot be stored.
      let updated ← query (.updateLastLogin user.uid nowMs)
      if updated then return .ok { user with lastLogin := nowMs }.toProfile
      else return .ok user.toProfile

/-- `get_profile_by_uid`. -/
def getProfileByUid (uid : String) : Program (Option UserProfile) := do
  return (← query (.findByUid uid)).map User.toProfile

/-- `get_profile_by_account`. -/
def getProfileByAccount (account : String) : Program (Option UserProfile) := do
  return (← query (.findByAccount account)).map User.toProfile

/-- `search_profiles`. -/
def searchProfiles (keyword : String) (limit : ℕ) : Program (List UserProfile) := do
  if keyword = "" ∨ limit = 0 then return []
  else
    match ← getProfileByUid keyword with
    | some profile => return [profile]
    | none => return (← query (.searchUsers keyword limit)).map User.toProfile

/-- `update_profile`. -/
def updateProfile (request : UpdateProfileRequest) : Program UserResult := do
  if request.uid = "" then return .error ("EMPTY_UID", "User uid must not be empty")
  else if request.nickname = "" then return .error ("EMPTY_NICKNAME", "Nickname must not be empty")
  else
    let updated ← query (.updateProfile request.uid request.nickname request.avatar request.gender
      request.signature)
    match updated with
    | none => return .error ("USER_NOT_FOUND", "User profile not found")
    | some user => return .ok user.toProfile

end UserService

end MyChat.Social
