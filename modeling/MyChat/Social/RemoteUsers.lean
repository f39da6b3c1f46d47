import MyChat.Rpc.Base
import MyChat.Social.UserHttpController

/-!
# Users through the user server

`RemoteUserClient` of `gateway/http/remote_user_client.cpp`, which calls the `UserGrpcService` of a
user server (`services/user/user_grpc_service.cpp`). The server runs the `UserService` in a process
of its own, with its own random numbers and its own clock.

The lemmas at the end say what is left of the way to the server and back: each operation of the
remote client is the operation of the service in the server's process, with its error codes mapped.
-/

namespace MyChat.Social

open Rpc

/-! ## The wire -/

/-- `im.user.Gender`. -/
inductive ProtoGender where
  /-- `UNKNOWN`. -/
  | unknown
  /-- `MALE`. -/
  | male
  /-- `FEMALE`. -/
  | female
  /-- `OTHER`. -/
  | other
  deriving DecidableEq, Repr

/-- `to_proto_gender` of the server, and the same switch in the client. -/
def toProtoGender : Gender → ProtoGender
  | .male => .male
  | .female => .female
  | .other => .other
  | .unknown => .unknown

/-- `to_service_gender`, the same in the client and in the server. -/
def toServiceGender : ProtoGender → Gender
  | .male => .male
  | .female => .female
  | .other => .other
  | .unknown => .unknown

@[simp] theorem toServiceGender_toProtoGender (gender : Gender) :
    toServiceGender (toProtoGender gender) = gender := by
  cases gender <;> rfl

/-- `im.user.UserInfo`, as far as the two sides set it. -/
structure UserInfo where
  /-- `uid`. -/
  uid : String := ""
  /-- `account`. -/
  account : String := ""
  /-- `nickname`. -/
  nickname : String := ""
  /-- `avatar`. -/
  avatar : String := ""
  /-- `gender`. -/
  gender : ProtoGender := .unknown
  /-- `signature`. -/
  signature : String := ""
  /-- `create_time`. -/
  createTime : ℤ := 0
  /-- `last_login`. -/
  lastLogin : ℤ := 0
  /-- `online`. -/
  online : Bool := false
  deriving DecidableEq, Repr

/-- `im.user.RegisterRequest`, as far as the server reads it. -/
structure RegisterRpc where
  /-- `account`. -/
  account : String := ""
  /-- `phone_number`. -/
  phoneNumber : String := ""
  /-- `email`. -/
  email : String := ""
  /-- `password`. -/
  password : String := ""
  /-- `nickname`. -/
  nickname : String := ""
  deriving DecidableEq, Repr

/-- `im.user.LoginRequest`, as far as the server reads it. -/
structure LoginRpc where
  /-- `account`. -/
  account : String := ""
  /-- `phone_number`. -/
  phoneNumber : String := ""
  /-- `email`. -/
  email : String := ""
  /-- `password`. -/
  password : String := ""
  deriving DecidableEq, Repr

/-- `im.user.GetUserInfoRequest`. -/
structure GetUserInfoRpc where
  /-- `account`. -/
  account : String := ""
  /-- `uid`. -/
  uid : String := ""
  deriving DecidableEq, Repr

/-- `im.user.SearchUsersRequest`. -/
structure SearchUsersRpc where
  /-- `keyword`. -/
  keyword : String := ""
  /-- `limit`, an `int32`. -/
  limit : ℤ := 0
  deriving DecidableEq, Repr

/-- `im.user.UpdateUserInfoRequest`, with `from_uid` of its header. -/
structure UpdateUserInfoRpc where
  /-- `header.from_uid`. -/
  fromUid : String := ""
  /-- `user`. -/
  user : UserInfo := {}
  deriving DecidableEq, Repr

/-- `RegisterResponse`, `LoginResponse`, `GetUserInfoResponse`, and `UpdateUserInfoResponse`. -/
structure UserResponse where
  /-- `base`. -/
  base : BaseResponse
  /-- `user`. -/
  user : UserInfo := {}
  deriving DecidableEq, Repr

/-- `SearchUsersResponse`. -/
structure SearchUsersResponse where
  /-- `base`. -/
  base : BaseResponse
  /-- `users`. -/
  users : List UserInfo := []
  deriving DecidableEq, Repr

/-! ## `UserGrpcService` -/

/-- The process of the user server at a call. -/
structure UserServer where
  /-- Its random numbers and its hasher. -/
  process : UserProcess
  /-- `now_ms()`. -/
  nowMs : ℤ
  /-- The text of the exception, if one leaves the service. -/
  what : String

namespace UserGrpcService

/-- `register_error_code`. -/
def registerErrorCode (errorCode : String) : ErrorCode :=
  if errorCode = "DUPLICATE_ACCOUNT" then .alreadyExists
  else if errorCode = "EMPTY_ACCOUNT" ∨ errorCode = "EMPTY_PASSWORD" then .paramError
  else .serverError

/-- `login_error_code`. -/
def loginErrorCode (errorCode : String) : ErrorCode :=
  if errorCode = "INVALID_ACCOUNT" ∨ errorCode = "WRONG_PASSWORD" then .authFailed
  else .serverError

/-- `update_error_code`. -/
def updateErrorCode (errorCode : String) : ErrorCode :=
  if errorCode = "EMPTY_UID" ∨ errorCode = "EMPTY_NICKNAME" then .paramError
  else if errorCode = "USER_NOT_FOUND" then .notFound
  else .serverError

/-- `fill_user_info`. -/
def fillUserInfo (profile : UserProfile) : UserInfo where
  uid := profile.uid
  account := profile.account
  nickname := profile.nickname
  avatar := profile.avatar
  gender := toProtoGender profile.gender
  signature := profile.signature
  createTime := profile.createTime
  lastLogin := profile.lastLogin
  online := profile.online

/-- The end of `Register`, `Login`, and `UpdateUserInfo`: the response to the service's result. -/
def respond (code : String → ErrorCode) : UserResult → UserResponse
  | .error (errorCode, message) => { base := ⟨code errorCode, message⟩ }
  | .ok profile => { base := .ok, user := fillUserInfo profile }

/-- The account of a request that may name a phone number or an email instead. -/
def accountOf (account phoneNumber email : String) : String :=
  let account := if account = "" then phoneNumber else account
  if account = "" then email else account

variable (server : UserServer)

/-- `Register`. -/
def register (request : RegisterRpc) : Program UserResponse := do
  let result ← UserService.registerUser server.process
    { account := accountOf request.account request.phoneNumber request.email
      password := request.password
      nickname := request.nickname
      nowMs := server.nowMs }
  match result with
  | none => return { base := ⟨.serverError, server.what⟩ }
  | some result => return respond registerErrorCode result

/-- `Login`. -/
def login (request : LoginRpc) : Program UserResponse := do
  let account := accountOf request.account request.phoneNumber request.email
  if account = "" ∨ request.password = "" then
    return { base := ⟨.paramError, "Missing required fields: account, password"⟩ }
  else
    return respond loginErrorCode
      (← UserService.loginByAccount server.process account request.password server.nowMs)

/-- The end of `GetUserInfo`: the response to the profile that was found. -/
def profileResponse : Option UserProfile → UserResponse
  | none => { base := ⟨.notFound, "User profile not found"⟩ }
  | some profile => { base := .ok, user := fillUserInfo profile }

/-- `GetUserInfo`. -/
def getUserInfo (request : GetUserInfoRpc) : Program UserResponse := do
  if request.uid ≠ "" then return profileResponse (← UserService.getProfileByUid request.uid)
  else if request.account ≠ "" then
    return profileResponse (← UserService.getProfileByAccount request.account)
  else return { base := ⟨.paramError, "Missing required field: uid or account"⟩ }

/-- `SearchUsers`. -/
def searchUsers (request : SearchUsersRpc) : Program SearchUsersResponse := do
  if request.keyword = "" then return { base := ⟨.paramError, "Missing required field: keyword"⟩ }
  else
    let limit := if 0 < request.limit then request.limit.toNat else 20
    let profiles ← UserService.searchProfiles request.keyword limit
    return { base := .ok, users := profiles.map fillUserInfo }

/-- `UpdateUserInfo`. -/
def updateUserInfo (request : UpdateUserInfoRpc) : Program UserResponse := do
  return respond updateErrorCode (← UserService.updateProfile
    { uid := if request.fromUid = "" then request.user.uid else request.fromUid
      nickname := request.user.nickname
      avatar := request.user.avatar
      gender := toServiceGender request.user.gender
      signature := request.user.signature })

end UserGrpcService

/-! ## `RemoteUserClient` -/

namespace RemoteUserClient

open UserGrpcService (fillUserInfo respond profileResponse)

/-- `to_profile`. -/
def toProfile (user : UserInfo) : UserProfile where
  uid := user.uid
  account := user.account
  nickname := user.nickname
  avatar := user.avatar
  gender := toServiceGender user.gender
  signature := user.signature
  createTime := user.createTime
  lastLogin := user.lastLogin
  online := user.online

/-- `register_error_code`. -/
def registerErrorCode : ErrorCode → String
  | .alreadyExists => "DUPLICATE_ACCOUNT"
  | .paramError => "PARAM_ERROR"
  | _ => "REMOTE_USER_ERROR"

/-- `login_error_code`. -/
def loginErrorCode : ErrorCode → String
  | .authFailed => "INVALID_ACCOUNT"
  | .paramError => "PARAM_ERROR"
  | _ => "REMOTE_USER_ERROR"

/-- `update_error_code`. -/
def updateErrorCode : ErrorCode → String
  | .paramError => "PARAM_ERROR"
  | .notFound => "USER_NOT_FOUND"
  | _ => "REMOTE_USER_ERROR"

/-- The end of the calls of `Register`, `Login`, and `UpdateUserInfo`: the result that the client
makes of the response. -/
def ofResponse (code : ErrorCode → String) (response : UserResponse) : UserResult :=
  if response.base.errorCode ≠ .success then
    .error (code response.base.errorCode, response.base.errorMessage)
  else .ok (toProfile response.user)

/-- The end of the calls of `GetUserInfo`. -/
def profileOf (response : UserResponse) : Option UserProfile :=
  if response.base.errorCode ≠ .success then none else some (toProfile response.user)

/-- The end of the call of `SearchUsers`. -/
def profilesOf (response : SearchUsersResponse) : List UserProfile :=
  if response.base.errorCode ≠ .success then [] else response.users.map toProfile

/-- `static_cast<int32_t>`. -/
def toInt32 (n : ℕ) : ℤ := (n : ℤ).bmod (2 ^ 32)

variable (server : UserServer)

/-- `register_user`. -/
def registerUser (request : RegisterRequest) : Program UserResult := do
  return ofResponse registerErrorCode (← UserGrpcService.register server
    { account := request.account, password := request.password, nickname := request.nickname })

/-- `login_by_account`, which does not send its time. -/
def loginByAccount (account password : String) (_nowMs : ℤ) : Program UserResult := do
  return ofResponse loginErrorCode
    (← UserGrpcService.login server { account := account, password := password })

/-- `get_profile_by_uid`. -/
def getProfileByUid (uid : String) : Program (Option UserProfile) := do
  return profileOf (← UserGrpcService.getUserInfo { uid := uid })

/-- `get_profile_by_account`. -/
def getProfileByAccount (account : String) : Program (Option UserProfile) := do
  return profileOf (← UserGrpcService.getUserInfo { account := account })

/-- `search_profiles`. -/
def searchProfiles (keyword : String) (limit : ℕ) : Program (List UserProfile) := do
  if keyword = "" ∨ limit = 0 then return []
  else
    return profilesOf
      (← UserGrpcService.searchUsers { keyword := keyword, limit := toInt32 limit })

/-- `update_profile`. -/
def updateProfile (request : UpdateProfileRequest) : Program UserResult := do
  return ofResponse updateErrorCode (← UserGrpcService.updateUserInfo
    { fromUid := request.uid
      user :=
        { nickname := request.nickname
          avatar := request.avatar
          gender := toProtoGender request.gender
          signature := request.signature } })

end RemoteUserClient

/-- `RemoteUserClient`. -/
def remoteUserClient (server : UserServer) : UserClient where
  registerUser := fun request => do return some (← RemoteUserClient.registerUser server request)
  loginByAccount := RemoteUserClient.loginByAccount server
  getProfileByUid := RemoteUserClient.getProfileByUid
  getProfileByAccount := RemoteUserClient.getProfileByAccount
  searchProfiles := RemoteUserClient.searchProfiles
  updateProfile := RemoteUserClient.updateProfile

/-! ## To the server and back -/

namespace RemoteUserClient

open UserGrpcService (fillUserInfo respond profileResponse accountOf)

/-- A profile comes back from the wire as it was. -/
@[simp] theorem toProfile_fillUserInfo (profile : UserProfile) :
    toProfile (fillUserInfo profile) = profile := by
  simp only [toProfile, fillUserInfo, toServiceGender_toProtoGender]

/-- So does a profile that may be missing. -/
@[simp] theorem profileOf_profileResponse (profile : Option UserProfile) :
    profileOf (profileResponse profile) = profile := by
  cases profile with
  | none => simp [profileOf, profileResponse]
  | some profile => simp [profileOf, profileResponse, BaseResponse.ok]

/-- A list of profiles comes back as it was. -/
@[simp] theorem profilesOf_map (profiles : List UserProfile) :
    profilesOf { base := .ok, users := profiles.map fillUserInfo } = profiles := by
  simp [profilesOf, BaseResponse.ok, Function.comp_def]

/-- A result comes back with its error code mapped, when no error is mapped to `SUCCESS`. -/
theorem ofResponse_respond {code : String → ErrorCode} (hcode : ∀ e, code e ≠ .success)
    (code' : ErrorCode → String) (result : UserResult) :
    ofResponse code' (respond code result) =
      result.mapError fun error => (code' (code error.1), error.2) := by
  cases result with
  | error error => exact if_pos (hcode error.1)
  | ok profile => simp [ofResponse, respond, BaseResponse.ok, Except.mapError]

/-- No error of `Register` is mapped to `SUCCESS`. -/
theorem register_ne_success (errorCode : String) :
    UserGrpcService.registerErrorCode errorCode ≠ .success := by
  unfold UserGrpcService.registerErrorCode
  split_ifs <;> decide

/-- Nor is an error of `Login`. -/
theorem login_ne_success (errorCode : String) :
    UserGrpcService.loginErrorCode errorCode ≠ .success := by
  unfold UserGrpcService.loginErrorCode
  split_ifs <;> decide

/-- Nor is an error of `UpdateUserInfo`. -/
theorem update_ne_success (errorCode : String) :
    UserGrpcService.updateErrorCode errorCode ≠ .success := by
  unfold UserGrpcService.updateErrorCode
  split_ifs <;> decide

/-- The account that the server takes from a request that names neither a phone number nor an
email. -/
@[simp] theorem accountOf_empty (account : String) : accountOf account "" "" = account := by
  unfold accountOf
  by_cases h : account = ""
  · simp [h]
  · simp [h]

/-- What the remote client makes of the result of `register_user`, also of an exception. -/
def registerResult (server : UserServer) : Option UserResult → UserResult
  | none => .error ("REMOTE_USER_ERROR", server.what)
  | some result => result.mapError fun error =>
    (registerErrorCode (UserGrpcService.registerErrorCode error.1), error.2)

/-- What it makes of the result of `login_by_account`. -/
def loginResult (result : UserResult) : UserResult :=
  result.mapError fun error => (loginErrorCode (UserGrpcService.loginErrorCode error.1), error.2)

/-- What it makes of the result of `update_profile`. -/
def updateResult (result : UserResult) : UserResult :=
  result.mapError fun error => (updateErrorCode (UserGrpcService.updateErrorCode error.1), error.2)

/-- The client tells a duplicate account as the service does. -/
theorem register_code_iff (errorCode : String) :
    registerErrorCode (UserGrpcService.registerErrorCode errorCode) = "DUPLICATE_ACCOUNT" ↔
      errorCode = "DUPLICATE_ACCOUNT" := by
  unfold UserGrpcService.registerErrorCode
  split_ifs with hduplicate hempty <;> simp [registerErrorCode, *]

/-- The client tells refused credentials as the service does, though no longer which of the two was
wrong. -/
theorem login_code_iff (errorCode : String) :
    (loginErrorCode (UserGrpcService.loginErrorCode errorCode) = "WRONG_PASSWORD" ∨
        loginErrorCode (UserGrpcService.loginErrorCode errorCode) = "INVALID_ACCOUNT") ↔
      errorCode = "WRONG_PASSWORD" ∨ errorCode = "INVALID_ACCOUNT" := by
  unfold UserGrpcService.loginErrorCode
  split_ifs with hrefused
  · simp [loginErrorCode, hrefused.symm]
  · simp [loginErrorCode, or_comm, hrefused]

/-- The error codes that the service has for an update come back as codes of the same status. -/
theorem update_code_cases (errorCode : String) (h : errorCode ≠ "PARAM_ERROR") :
    let code := updateErrorCode (UserGrpcService.updateErrorCode errorCode)
    ((code = "EMPTY_UID" ∨ code = "EMPTY_NICKNAME" ∨ code = "PARAM_ERROR") ↔
        errorCode = "EMPTY_UID" ∨ errorCode = "EMPTY_NICKNAME" ∨ errorCode = "PARAM_ERROR") ∧
      (code = "USER_NOT_FOUND" ↔ errorCode = "USER_NOT_FOUND") := by
  unfold UserGrpcService.updateErrorCode
  split_ifs with hempty hmissing
  · rcases hempty with rfl | rfl <;> simp [updateErrorCode]
  · simp [updateErrorCode, hmissing]
  · rw [not_or] at hempty
    simp [updateErrorCode, hempty, hmissing, h]

/-- `register_user` is the service's, at the server's time. -/
theorem registerUser_eq (server : UserServer) (request : RegisterRequest) :
    registerUser server request = do
      return registerResult server
        (← UserService.registerUser server.process { request with nowMs := server.nowMs }) := by
  unfold registerUser UserGrpcService.register
  rw [CommandProgram.bind_assoc, accountOf_empty]
  refine congrArg _ (funext fun result => ?_)
  cases result with
  | none => rfl
  | some result =>
    exact congrArg CommandProgram.done (ofResponse_respond register_ne_success _ result)

/-- `login_by_account` is the service's, at the server's time, on an account and a password that the
server does not refuse. -/
theorem loginByAccount_eq (server : UserServer) {account password : String}
    (haccount : account ≠ "") (hpassword : password ≠ "") (nowMs : ℤ) :
    loginByAccount server account password nowMs = do
      return loginResult
        (← UserService.loginByAccount server.process account password server.nowMs) := by
  have hfields : ¬ (account = "" ∨ password = "") := by simp [haccount, hpassword]
  unfold loginByAccount UserGrpcService.login
  simp only [accountOf_empty, if_neg hfields]
  rw [CommandProgram.bind_assoc]
  refine congrArg _ (funext fun result => ?_)
  exact congrArg CommandProgram.done (ofResponse_respond login_ne_success _ result)

/-- `get_profile_by_uid` is the service's, on a uid. -/
theorem getProfileByUid_eq {uid : String} (huid : uid ≠ "") :
    getProfileByUid uid = UserService.getProfileByUid uid := by
  unfold getProfileByUid UserGrpcService.getUserInfo UserService.getProfileByUid
  rw [if_pos huid]
  simp only [CommandProgram.bind_assoc, CommandProgram.pure_eq, CommandProgram.done_bind,
    profileOf_profileResponse]

/-- On no uid it finds nothing. -/
theorem getProfileByUid_empty : getProfileByUid "" = pure none := by
  simp [getProfileByUid, UserGrpcService.getUserInfo, profileOf]

/-- `search_profiles` is the service's, on a keyword and a limit that an `int32` holds. -/
theorem searchProfiles_eq {keyword : String} {limit : ℕ} (hkeyword : keyword ≠ "")
    (hpos : 0 < limit) (hmax : limit < 2 ^ 31) :
    searchProfiles keyword limit = UserService.searchProfiles keyword limit := by
  have hlimit : toInt32 limit = limit := by
    unfold toInt32
    rw [Int.bmod_def]
    omega
  have hsent : ¬ (keyword = "" ∨ limit = 0) := by
    rintro (h | h)
    · exact hkeyword h
    · omega
  have hpos' : (0 : ℤ) < limit := by omega
  unfold searchProfiles UserGrpcService.searchUsers
  simp only [if_neg hsent, if_neg hkeyword, hlimit, if_pos hpos', Int.toNat_natCast,
    CommandProgram.bind_assoc, CommandProgram.pure_eq, CommandProgram.done_bind, profilesOf_map]
  exact CommandProgram.bind_done _

/-- `update_profile` is the service's. -/
theorem updateProfile_eq (request : UpdateProfileRequest) :
    updateProfile request = do return updateResult (← UserService.updateProfile request) := by
  have huid : (if request.uid = "" then "" else request.uid) = request.uid := by
    by_cases h : request.uid = ""
    · rw [if_pos h, h]
    · rw [if_neg h]
  unfold updateProfile UserGrpcService.updateUserInfo
  simp only [toServiceGender_toProtoGender, huid]
  rw [CommandProgram.bind_assoc]
  refine congrArg _ (funext fun result => ?_)
  exact congrArg CommandProgram.done (ofResponse_respond update_ne_success _ result)

end RemoteUserClient

end MyChat.Social
