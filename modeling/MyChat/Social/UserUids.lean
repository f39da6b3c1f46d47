import MyChat.Lib.Run
import MyChat.Social.RemoteUsers

/-!
# Every user has a uid

A user is inserted by `register_user` alone, with the uid that `GenerateUid` made, which is not
empty. So no request of the user API, over either client, brings a user with an empty uid into the
table (`namesUsers_runAt`), and no run of requests does (`namesUsers_run`).
-/

namespace MyChat.Social

open Chat CommandProgram

/-! ## What the operations send -/

/-- A command that inserts no user with an empty uid. -/
def InsertsUid (c : Command) : Prop := ∀ user, c = .createUser user → user.uid ≠ ""

/-- A command that inserts no user. -/
theorem insertsUid_of_ne {c : Command} (h : ∀ user, c ≠ .createUser user) : InsertsUid c :=
  fun user hc => absurd hc (h user)

/-- An operation on the users inserts no user with an empty uid. -/
structure UserClient.InsertsUids (client : UserClient) : Prop where
  /-- `register_user`. -/
  registerUser : ∀ request, (client.registerUser request).Sends InsertsUid
  /-- `login_by_account`. -/
  loginByAccount : ∀ account password nowMs,
    (client.loginByAccount account password nowMs).Sends InsertsUid
  /-- `get_profile_by_uid`. -/
  getProfileByUid : ∀ uid, (client.getProfileByUid uid).Sends InsertsUid
  /-- `search_profiles`. -/
  searchProfiles : ∀ keyword limit, (client.searchProfiles keyword limit).Sends InsertsUid
  /-- `update_profile`. -/
  updateProfile : ∀ request, (client.updateProfile request).Sends InsertsUid

/-- `register_user` inserts a generated uid. -/
theorem sends_registerUser (process : UserProcess) (request : RegisterRequest) :
    (UserService.registerUser process request).Sends InsertsUid := by
  unfold UserService.registerUser
  split_ifs
  · exact sends_done _
  · exact sends_done _
  refine Sends.bind ((sends_send _).mpr (insertsUid_of_ne (by simp))) fun existing => ?_
  split_ifs
  · exact sends_done _
  rcases process.randomBytes with _ | bytes
  · exact sends_done _
  rcases process.hash request.password with _ | hash
  · exact sends_done _
  refine Sends.bind ((sends_send _).mpr ?_) fun created => ?_
  · intro user huser
    cases huser
    exact generateUid_ne_empty bytes
  · split_ifs <;> exact sends_done _

/-- The other operations of the service insert no user. -/
theorem sends_loginByAccount (process : UserProcess) (account password : String) (nowMs : ℤ) :
    (UserService.loginByAccount process account password nowMs).Sends InsertsUid := by
  unfold UserService.loginByAccount
  refine Sends.bind ((sends_send _).mpr (insertsUid_of_ne (by simp))) fun found => ?_
  rcases found with _ | user
  · exact sends_done _
  dsimp only
  split_ifs
  · exact sends_done _
  refine Sends.bind ((sends_send _).mpr (insertsUid_of_ne (by simp))) fun updated => ?_
  split_ifs <;> exact sends_done _

/-- A lookup by uid inserts no user. -/
theorem sends_getProfileByUid (uid : String) :
    (UserService.getProfileByUid uid).Sends InsertsUid :=
  Sends.bind ((sends_send _).mpr (insertsUid_of_ne (by simp))) fun _ => sends_done _

/-- Nor does a lookup by account. -/
theorem sends_getProfileByAccount (account : String) :
    (UserService.getProfileByAccount account).Sends InsertsUid :=
  Sends.bind ((sends_send _).mpr (insertsUid_of_ne (by simp))) fun _ => sends_done _

/-- Nor does a search. -/
theorem sends_searchProfiles (keyword : String) (limit : ℕ) :
    (UserService.searchProfiles keyword limit).Sends InsertsUid := by
  unfold UserService.searchProfiles
  split_ifs
  · exact sends_done _
  refine Sends.bind (sends_getProfileByUid keyword) fun found => ?_
  rcases found with _ | profile
  · exact Sends.bind ((sends_send _).mpr (insertsUid_of_ne (by simp))) fun _ => sends_done _
  · exact sends_done _

/-- Nor does an update of a profile. -/
theorem sends_updateProfile (request : UpdateProfileRequest) :
    (UserService.updateProfile request).Sends InsertsUid := by
  unfold UserService.updateProfile
  split_ifs
  · exact sends_done _
  · exact sends_done _
  refine Sends.bind ((sends_send _).mpr (insertsUid_of_ne (by simp))) fun updated => ?_
  rcases updated with _ | user <;> exact sends_done _

/-- The local client. -/
theorem insertsUids_local (process : UserProcess) : (localUserClient process).InsertsUids where
  registerUser := sends_registerUser process
  loginByAccount := sends_loginByAccount process
  getProfileByUid := sends_getProfileByUid
  searchProfiles := sends_searchProfiles
  updateProfile := sends_updateProfile

/-- A program whose result only has its response made. -/
theorem sends_map {α β : Type} {p : Program α} (hp : p.Sends InsertsUid) (f : α → β) :
    (p >>= fun a => done (f a)).Sends InsertsUid :=
  hp.bind fun _ => sends_done _

/-- A login at the server inserts no user. -/
theorem sends_login (server : UserServer) (request : LoginRpc) :
    (UserGrpcService.login server request).Sends InsertsUid := by
  unfold UserGrpcService.login
  dsimp only
  split_ifs
  · exact sends_done _
  · exact sends_map (sends_loginByAccount _ _ _ _) _

theorem sends_getUserInfo (request : GetUserInfoRpc) :
    (UserGrpcService.getUserInfo request).Sends InsertsUid := by
  unfold UserGrpcService.getUserInfo
  split_ifs
  · exact sends_map (sends_getProfileByUid _) _
  · exact sends_map (sends_getProfileByAccount _) _
  · exact sends_done _

theorem sends_searchUsers (request : SearchUsersRpc) :
    (UserGrpcService.searchUsers request).Sends InsertsUid := by
  unfold UserGrpcService.searchUsers
  split_ifs
  · exact sends_done _
  · exact sends_map (sends_searchProfiles _ _) _
  · exact sends_map (sends_searchProfiles _ _) _

/-- The remote client. -/
theorem insertsUids_remote (server : UserServer) : (remoteUserClient server).InsertsUids where
  registerUser request := by
    have hremote : (RemoteUserClient.registerUser server request).Sends InsertsUid := by
      rw [RemoteUserClient.registerUser_eq]
      exact sends_map (sends_registerUser _ _) _
    exact sends_map hremote some
  loginByAccount account password nowMs := sends_map (sends_login server _) _
  getProfileByUid uid := sends_map (sends_getUserInfo _) _
  searchProfiles keyword limit := by
    change (RemoteUserClient.searchProfiles keyword limit).Sends InsertsUid
    unfold RemoteUserClient.searchProfiles
    split_ifs
    · exact sends_done _
    · exact sends_map (sends_searchUsers _) _
  updateProfile request := by
    have hremote : (RemoteUserClient.updateProfile request).Sends InsertsUid := by
      rw [RemoteUserClient.updateProfile_eq]
      exact sends_map (sends_updateProfile _) _
    exact hremote

/-! ## Requests -/

section Requests

variable {controller : UserHttpController} (h : controller.client.InsertsUids)
include h

/-- `handle_register`. -/
theorem sends_handleRegister (body : JsonBody Credentials) :
    (controller.handleRegister body).Sends InsertsUid := by
  cases body with
  | invalid => exact sends_done _
  | typeError => exact sends_done _
  | fields body =>
    unfold UserHttpController.handleRegister
    by_cases hmissing : body.account = "" ∨ body.password = ""
    · simp only [hmissing, if_true]
      exact sends_done _
    · simp only [hmissing, if_false]
      exact sends_map (h.registerUser _) _

/-- `handle_login`. -/
theorem sends_handleLogin (body : JsonBody Credentials) :
    (controller.handleLogin body).Sends InsertsUid := by
  cases body with
  | invalid => exact sends_done _
  | typeError => exact sends_done _
  | fields body =>
    unfold UserHttpController.handleLogin
    by_cases hmissing : body.account = "" ∨ body.password = ""
    · simp only [hmissing, if_true]
      exact sends_done _
    · simp only [hmissing, if_false]
      exact sends_map (h.loginByAccount _ _ _) _

/-- `handle_profile`. -/
theorem sends_handleProfile (authorization : Option String) :
    (controller.handleProfile authorization).Sends InsertsUid := by
  unfold UserHttpController.handleProfile
  rcases authenticate controller.verify authorization with response | info
  · exact sends_done _
  refine (h.getProfileByUid _).bind fun found => ?_
  rcases found with _ | profile <;> exact sends_done _

/-- `handle_update_profile`. -/
theorem sends_handleUpdateProfile (authorization : Option String) (body : JsonBody ProfileChange) :
    (controller.handleUpdateProfile authorization body).Sends InsertsUid := by
  unfold UserHttpController.handleUpdateProfile
  rcases authenticate controller.verify authorization with response | info
  · exact sends_done _
  by_cases hinvalid : body = .invalid
  · simp only [hinvalid, if_true]
    exact sends_done _
  simp only [hinvalid, if_false]
  refine (h.getProfileByUid _).bind fun found => ?_
  rcases found with _ | current
  · exact sends_done _
  rcases body with _ | _ | change
  · exact sends_done _
  · exact sends_done _
  dsimp only
  split_ifs
  · exact sends_done _
  · exact sends_map (h.updateProfile _) _

/-- `handle_search_user`. -/
theorem sends_handleSearchUser (authorization q keyword : Option String) :
    (controller.handleSearchUser authorization q keyword).Sends InsertsUid := by
  unfold UserHttpController.handleSearchUser
  rcases authenticate controller.verify authorization with response | info
  · exact sends_done _
  by_cases hquery : (if q.getD "" = "" then keyword.getD "" else q.getD "") = ""
  · simp only [hquery, if_true]
    exact sends_done _
  · simp only [hquery, if_false]
    exact sends_map (h.searchProfiles _ _) _

/-- A request inserts no user with an empty uid. -/
theorem sends_handle (request : UserRequest) : (controller.handle request).Sends InsertsUid := by
  cases request with
  | register body => exact sends_handleRegister h body
  | login body => exact sends_handleLogin h body
  | profile authorization => exact sends_handleProfile h authorization
  | updateProfile authorization body => exact sends_handleUpdateProfile h authorization body
  | searchUser authorization q keyword => exact sends_handleSearchUser h authorization q keyword

end Requests

/-! ## The table -/

/-- No user has an empty uid. -/
def NamesUsers (s : Stores) : Prop := ∀ user ∈ s.users.rows, user.uid ≠ ""

/-- A table whose rows were changed, but not their uids, names its users as before. -/
theorem namesUsers_update {s : Stores} {uid : String} {f : User → User}
    (huid : ∀ user, (f user).uid = user.uid) (haccount : ∀ user, (f user).account = user.account)
    (hs : NamesUsers s) :
    NamesUsers { s with users := s.users.update uid f huid haccount } := by
  intro user huser
  obtain ⟨row, hrow, rfl⟩ := List.mem_map.mp huser
  by_cases h : row.uid = uid
  · rw [if_pos h, huid]
    exact hs row hrow
  · rw [if_neg h]
    exact hs row hrow

/-- A command keeps the users named, when it inserts none without a uid. -/
theorem namesUsers_handle {tx : Tx} {s : Stores} {c : Command} (hc : InsertsUid c)
    (hs : NamesUsers s) : NamesUsers (Social.handle tx s c).2 := by
  -- Three commands write to the users: one inserts, two change columns that are not the uid.
  cases c with
  | createUser user =>
    have heq : (Social.handle tx s (.createUser user)).2 =
        { s with users := (UserRepository.create tx s.users user).2 } := rfl
    rw [heq]
    unfold UserRepository.create
    split_ifs with haccepts
    · intro row hrow
      rcases List.mem_append.mp hrow with hold | hnew
      · exact hs row hold
      · rw [List.mem_singleton.mp hnew]
        exact hc user rfl
    · exact hs
  | updateLastLogin uid time =>
    have heq : (Social.handle tx s (.updateLastLogin uid time)).2 =
        { s with users := (UserRepository.updateLastLogin tx s.users uid time).2 } := rfl
    rw [heq]
    unfold UserRepository.updateLastLogin
    split_ifs
    · exact namesUsers_update (UserRepository.setLastLogin_uid time)
        (UserRepository.setLastLogin_account time) hs
    · exact hs
  | updateProfile uid nickname avatar gender signature =>
    have heq : (Social.handle tx s (.updateProfile uid nickname avatar gender signature)).2 =
        { s with users := (UserRepository.updateProfile tx s.users uid nickname avatar gender
          signature).2 } := rfl
    rw [heq]
    unfold UserRepository.updateProfile
    by_cases hcommits : tx.commits = true
    · rw [if_pos hcommits]
      split
      · exact hs
      · exact namesUsers_update (UserRepository.setProfile_uid nickname avatar gender signature)
          (UserRepository.setProfile_account nickname avatar gender signature) hs
    · rw [if_neg hcommits]
      exact hs
  | _ => exact hs

/-- A request over either client keeps every user named, whichever of its transactions fail. -/
theorem namesUsers_runAt {controller : UserHttpController} (h : controller.client.InsertsUids)
    (outside : ℕ → Tx) (request : UserRequest) {s : Stores} (hs : NamesUsers s) :
    NamesUsers (runAt Social.handle outside (controller.handle request) s).2 := by
  have hkeeps : ∀ (w : Stores × ℕ) c, InsertsUid c → NamesUsers w.1 →
      NamesUsers (handleAt Social.handle outside w c).2.1 := fun w c hc hw =>
    namesUsers_handle hc hw
  exact (sends_handle h request).exec_inv hkeeps hs

/-- A request that a gateway has answered over either client. -/
structure AnsweredRequest where
  /-- The controller of the gateway. -/
  controller : UserHttpController
  /-- Its client. -/
  client : (∃ process, controller.client = localUserClient process) ∨
    ∃ server, controller.client = remoteUserClient server
  /-- How the transactions ended. -/
  outside : ℕ → Tx
  /-- The request. -/
  request : UserRequest

/-- The stores that the request leaves. -/
def answerRequest (s : Stores) (e : AnsweredRequest) : Stores :=
  (runAt Social.handle e.outside (e.controller.handle e.request) s).2

/-- A run of requests keeps every user named. -/
theorem namesUsers_run {s : Stores} (hs : NamesUsers s) (earlier : List AnsweredRequest) :
    NamesUsers (Run.run answerRequest s earlier) := by
  induction earlier using List.reverseRecOn with
  | nil => exact hs
  | append_singleton earlier e ih =>
    have hclient : e.controller.client.InsertsUids := by
      rcases e.client with ⟨process, h⟩ | ⟨server, h⟩
      · rw [h]
        exact insertsUids_local process
      · rw [h]
        exact insertsUids_remote server
    rw [Run.run_concat]
    exact namesUsers_runAt hclient e.outside e.request ih

end MyChat.Social
