import Mathlib.Algebra.Ring.Nat
import MyChat.Social.UserService

/-!
# `UserHttpController`

The handlers of `gateway/http/user_http_controller.cpp`. They reach the users through a
`UserClient`, of which `LocalUserClient`, that calls the `UserService` of the gateway's own process,
is the one here.
-/

namespace MyChat.Social

open Chat

/-! ## Clients -/

/-- `UserClient`. An operation that an exception can leave has a result that is `none` then. -/
structure UserClient where
  /-- `register_user`. -/
  registerUser : RegisterRequest → Program (Option UserResult)
  /-- `login_by_account`. -/
  loginByAccount : String → String → ℤ → Program UserResult
  /-- `get_profile_by_uid`. -/
  getProfileByUid : String → Program (Option UserProfile)
  /-- `get_profile_by_account`. -/
  getProfileByAccount : String → Program (Option UserProfile)
  /-- `search_profiles`. -/
  searchProfiles : String → ℕ → Program (List UserProfile)
  /-- `update_profile`. -/
  updateProfile : UpdateProfileRequest → Program UserResult

/-- `LocalUserClient`. -/
def localUserClient (process : UserProcess) : UserClient where
  registerUser := UserService.registerUser process
  loginByAccount := UserService.loginByAccount process
  getProfileByUid := UserService.getProfileByUid
  getProfileByAccount := UserService.getProfileByAccount
  searchProfiles := UserService.searchProfiles
  updateProfile := UserService.updateProfile

/-! ## Requests and responses -/

/-- The fields that `handle_register` and `handle_login` read of the body. -/
structure Credentials where
  /-- `account`, empty by default. -/
  account : String
  /-- `password`, empty by default. -/
  password : String
  /-- `nickname`, empty by default, which `handle_login` does not read. -/
  nickname : String
  /-- `device_id`, by default `http-default`. -/
  deviceId : String
  /-- `platform`, by default `web`. -/
  platform : String
  deriving DecidableEq, Repr

/-- The fields that `handle_update_profile` reads of the body, `none` where absent. -/
structure ProfileChange where
  /-- `nickname`. -/
  nickname : Option String
  /-- `avatar`. -/
  avatar : Option String
  /-- `signature`. -/
  signature : Option String
  /-- `get<int>` of `gender`, when it is an integer. -/
  gender : Option Int32
  deriving DecidableEq, Repr

/-- A request, by the handler that it reaches. -/
inductive UserRequest where
  /-- `handle_register`. -/
  | register (body : JsonBody Credentials)
  /-- `handle_login`. -/
  | login (body : JsonBody Credentials)
  /-- `handle_profile`. -/
  | profile (authorization : Option String)
  /-- `handle_update_profile`. -/
  | updateProfile (authorization : Option String) (body : JsonBody ProfileChange)
  /-- `handle_search_user`, with its parameters `q` and `keyword`. -/
  | searchUser (authorization q keyword : Option String)
  deriving DecidableEq, Repr

/-- The tokens that `generate_tokens` returns. -/
structure Tokens where
  /-- `new_access_token`. -/
  access : String
  /-- `new_refresh_token`. -/
  refresh : String
  deriving DecidableEq, Repr

/-- The body of a success. -/
inductive UserBody where
  /-- The profile and its tokens. -/
  | session (profile : UserProfile) (tokens : Tokens)
  /-- The profile. -/
  | profile (profile : UserProfile)
  /-- `users`, and as `profile` the first of them. -/
  | users (users : List UserProfile) (profile : Option UserProfile)
  deriving DecidableEq, Repr

/-! ## Handlers -/

/-- The values that a handler gets besides its request. -/
structure UserHttpController where
  /-- The client. -/
  client : UserClient
  /-- `verify_access_token`. -/
  verify : Verify
  /-- `generate_tokens`, of the uid, the account, the device, and the platform. -/
  generateTokens : String → String → String → String → Tokens
  /-- `now_ms()`. -/
  nowMs : ℤ

namespace UserHttpController

/-- `parse_gender`. -/
def parseGender (gender : Int32) : Gender :=
  if gender = 1 then .male else if gender = 2 then .female else if gender = 3 then .other
  else .unknown

variable (controller : UserHttpController)

/-- The body of a success of `handle_register` and `handle_login`. -/
def session (credentials : Credentials) (profile : UserProfile) : UserBody :=
  .session profile (controller.generateTokens profile.uid profile.account credentials.deviceId
    credentials.platform)

/-- The response of `handle_register` to the client's result. -/
def registerResponse (credentials : Credentials) : Option UserResult → HttpResponse UserBody
  | none => .failure 500 "Internal server error"
  | some (.error (code, message)) =>
    if code = "DUPLICATE_ACCOUNT" then .failure 409 "Account already exists"
    else .failure 500 message
  | some (.ok profile) => .success 201 (controller.session credentials profile)

/-- `handle_register`. -/
def handleRegister : JsonBody Credentials → Program (HttpResponse UserBody)
  | .invalid => return .failure 400 "Invalid JSON body"
  | .typeError => return .failure 500 "Internal server error"
  | .fields body => do
    if body.account = "" ∨ body.password = "" then
      return .failure 400 "Missing required fields: account, password"
    else
      let result ← controller.client.registerUser
        { account := body.account
          password := body.password
          nickname := if body.nickname = "" then body.account else body.nickname
          nowMs := controller.nowMs }
      return controller.registerResponse body result

/-- The response of `handle_login` to the client's result. -/
def loginResponse (credentials : Credentials) : UserResult → HttpResponse UserBody
  | .error (code, message) =>
    if code = "WRONG_PASSWORD" ∨ code = "INVALID_ACCOUNT" then
      .failure 401 "Invalid account or password"
    else .failure 500 message
  | .ok profile => .success 200 (controller.session credentials profile)

/-- `handle_login`. -/
def handleLogin : JsonBody Credentials → Program (HttpResponse UserBody)
  | .invalid => return .failure 400 "Invalid JSON body"
  | .typeError => return .failure 500 "Internal server error"
  | .fields body => do
    if body.account = "" ∨ body.password = "" then
      return .failure 400 "Missing required fields: account, password"
    else
      let result ← controller.client.loginByAccount body.account body.password controller.nowMs
      return controller.loginResponse body result

/-- `handle_profile`. -/
def handleProfile (authorization : Option String) : Program (HttpResponse UserBody) := do
  match authenticate controller.verify authorization with
  | .error response => return response
  | .ok info =>
    match ← controller.client.getProfileByUid info.userId with
    | none => return .failure 404 "User profile not found"
    | some profile => return .success 200 (.profile profile)

/-- The change that `handle_update_profile` asks the client for. -/
def updateRequest (uid : String) (current : UserProfile) (body : ProfileChange) :
    UpdateProfileRequest where
  uid := uid
  nickname := body.nickname.getD current.nickname
  avatar := body.avatar.getD current.avatar
  gender := body.gender.elim current.gender parseGender
  signature := body.signature.getD current.signature

/-- The response of `handle_update_profile` to the client's result. -/
def updateResponse : UserResult → HttpResponse UserBody
  | .error (code, message) =>
    if code = "EMPTY_UID" ∨ code = "EMPTY_NICKNAME" ∨ code = "PARAM_ERROR" then
      .failure 400 message
    else if code = "USER_NOT_FOUND" then .failure 404 message
    else .failure 500 message
  | .ok profile => .success 200 (.profile profile)

/-- `handle_update_profile`. -/
def handleUpdateProfile (authorization : Option String) (body : JsonBody ProfileChange) :
    Program (HttpResponse UserBody) := do
  match authenticate controller.verify authorization with
  | .error response => return response
  | .ok info =>
    if body = .invalid then return .failure 400 "Invalid JSON body"
    else
      match ← controller.client.getProfileByUid info.userId with
      | none => return .failure 404 "User profile not found"
      | some current =>
        match body with
        -- The fields are read, and their types looked at, after the profile was found.
        | .fields change =>
          let update := updateRequest info.userId current change
          if update.nickname = "" then return .failure 400 "Nickname must not be empty"
          else return updateResponse (← controller.client.updateProfile update)
        | _ => return .failure 500 "Internal server error"

/-- `handle_search_user`. -/
def handleSearchUser (authorization q keyword : Option String) :
    Program (HttpResponse UserBody) := do
  match authenticate controller.verify authorization with
  | .error response => return response
  | .ok _ =>
    let query := if q.getD "" = "" then keyword.getD "" else q.getD ""
    if query = "" then return .failure 400 "Missing required query parameter: q"
    else
      let profiles ← controller.client.searchProfiles query 20
      return .success 200 (.users profiles profiles.head?)

/-- The handler of a request. -/
def handle : UserRequest → Program (HttpResponse UserBody)
  | .register body => controller.handleRegister body
  | .login body => controller.handleLogin body
  | .profile authorization => controller.handleProfile authorization
  | .updateProfile authorization body => controller.handleUpdateProfile authorization body
  | .searchUser authorization q keyword => controller.handleSearchUser authorization q keyword

end UserHttpController

end MyChat.Social
