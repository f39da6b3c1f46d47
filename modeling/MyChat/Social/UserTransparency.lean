import Mathlib.Data.List.Forall2
import MyChat.Social.UserUids

/-!
# The user API is the same over both clients

After any run of requests the next one is answered by a gateway with the local client and by a
gateway with the remote client, from the same tables and with the same transactions failing. The two
responses have the same status, and the two stores the same rows, up to what the two processes draw
and read from their clocks: `Deployments.user_transparent`.

The two clients differ on a request for the profile of no uid, which the user server refuses, while
the local client looks for a user with an empty uid. No user has one, which the run has kept:
`namesUsers_run`.
-/

namespace MyChat.Social

open Chat CommandProgram
open UserService (newUser)

/-! ## What may differ -/

/-- The two deployments: the gateway's own process and clock, behind the local client, and the user
server, behind the remote client. -/
structure Deployments where
  /-- The process of the gateway. -/
  gateway : UserProcess
  /-- `now_ms()` of the gateway. -/
  nowMs : ℤ
  /-- The user server. -/
  server : UserServer

namespace Deployments

variable (d : Deployments)

/-- The times are equal, or the two clocks' readings. -/
def SameTime (t t' : ℤ) : Prop := t = t' ∨ t = d.nowMs ∧ t' = d.server.nowMs

/-- The uids are equal, or freshly generated by the two processes. -/
def SameUid (uid uid' : String) : Prop :=
  uid = uid' ∨ ∃ bytes bytes', d.gateway.randomBytes = some bytes ∧
    d.server.process.randomBytes = some bytes' ∧ uid = generateUid bytes ∧ uid' = generateUid bytes'

/-- The hashes are equal, or of one password with the salts of the two processes. -/
def SameHash (hash hash' : String) : Prop :=
  hash = hash' ∨ ∃ password, d.gateway.hash password = some hash ∧
    d.server.process.hash password = some hash'

/-- The rows are the same, up to clock readings, and freshly generated uids and salts. -/
structure SameUser (user user' : User) : Prop where
  /-- Their uids. -/
  uid : d.SameUid user.uid user'.uid
  /-- Their accounts. -/
  account : user.account = user'.account
  /-- Their password hashes. -/
  passwordHash : d.SameHash user.passwordHash user'.passwordHash
  /-- Their nicknames. -/
  nickname : user.nickname = user'.nickname
  /-- Their avatars. -/
  avatar : user.avatar = user'.avatar
  /-- Their genders. -/
  gender : user.gender = user'.gender
  /-- Their signatures. -/
  signature : user.signature = user'.signature
  /-- Their create times. -/
  createTime : d.SameTime user.createTime user'.createTime
  /-- Their last logins. -/
  lastLogin : d.SameTime user.lastLogin user'.lastLogin
  /-- Whether they are online. -/
  online : user.online = user'.online

/-- The profiles are the same, up to clock readings and freshly generated uids. -/
structure SameProfile (profile profile' : UserProfile) : Prop where
  /-- Their uids. -/
  uid : d.SameUid profile.uid profile'.uid
  /-- Their accounts. -/
  account : profile.account = profile'.account
  /-- Their nicknames. -/
  nickname : profile.nickname = profile'.nickname
  /-- Their avatars. -/
  avatar : profile.avatar = profile'.avatar
  /-- Their genders. -/
  gender : profile.gender = profile'.gender
  /-- Their signatures. -/
  signature : profile.signature = profile'.signature
  /-- Their create times. -/
  createTime : d.SameTime profile.createTime profile'.createTime
  /-- Their last logins. -/
  lastLogin : d.SameTime profile.lastLogin profile'.lastLogin
  /-- Whether they are online. -/
  online : profile.online = profile'.online

/-- The bodies show the same profile and the same users. Only a session shows what was drawn for it;
its tokens are drawn too. -/
def SameBody : UserBody → UserBody → Prop
  | .session profile _, .session profile' _ => d.SameProfile profile profile'
  | .profile profile, .profile profile' => profile = profile'
  | .users users profile, .users users' profile' => users = users' ∧ profile = profile'
  | _, _ => False

/-- The responses have the same status and, on success, the same body. -/
def SameResponse : HttpResponse UserBody → HttpResponse UserBody → Prop
  | .failure status _, .failure status' _ => status = status'
  | .success status body, .success status' body' => status = status' ∧ d.SameBody body body'
  | _, _ => False

/-- The stores are in the same state, up to what the processes drew for the users. -/
structure SameStores (s s' : Stores) : Prop where
  /-- The users, row by row. -/
  users : List.Forall₂ d.SameUser s.users.rows s'.users.rows
  /-- The friends. -/
  friends : s.friends = s'.friends
  /-- The groups. -/
  groups : s.groups = s'.groups
  /-- The members. -/
  members : s.members = s'.members
  /-- The group messages. -/
  groupMessages : s.groupMessages = s'.groupMessages

/-- What the two processes must have in common for the request: their draws fail alike, the uids
that they generate are fresh, and they verify passwords alike. -/
structure Alike (users : Users) : Prop where
  /-- `RAND_bytes` succeeds in both or in neither. -/
  randomBytes : d.gateway.randomBytes.isSome = d.server.process.randomBytes.isSome
  /-- `hash` throws in both or in neither. -/
  hash : ∀ password,
    (d.gateway.hash password).isSome = (d.server.process.hash password).isSome
  /-- `verify` is the same function. -/
  verify : d.gateway.verify = d.server.process.verify
  /-- The uid of the gateway is fresh. -/
  fresh : ∀ bytes ∈ d.gateway.randomBytes, generateUid bytes ∉ users.rows.map User.uid
  /-- The uid of the server is fresh. -/
  fresh' : ∀ bytes ∈ d.server.process.randomBytes, generateUid bytes ∉ users.rows.map User.uid

variable {d}

/-! ## Rows and profiles -/

/-- A row is the same as itself. -/
theorem SameUser.refl (user : User) : d.SameUser user user where
  uid := .inl rfl
  account := rfl
  passwordHash := .inl rfl
  nickname := rfl
  avatar := rfl
  gender := rfl
  signature := rfl
  createTime := .inl rfl
  lastLogin := .inl rfl
  online := rfl

/-- The profiles of the same rows are the same. -/
theorem SameUser.toProfile {user user' : User} (h : d.SameUser user user') :
    d.SameProfile user.toProfile user'.toProfile where
  uid := h.uid
  account := h.account
  nickname := h.nickname
  avatar := h.avatar
  gender := h.gender
  signature := h.signature
  createTime := h.createTime
  lastLogin := h.lastLogin
  online := h.online

/-- A profile is the same as itself. -/
theorem SameProfile.refl (profile : UserProfile) : d.SameProfile profile profile where
  uid := .inl rfl
  account := rfl
  nickname := rfl
  avatar := rfl
  gender := rfl
  signature := rfl
  createTime := .inl rfl
  lastLogin := .inl rfl
  online := rfl

/-- A row that logs in at the two clocks' time. -/
theorem SameUser.login (user : User) :
    d.SameUser (UserRepository.setLastLogin d.nowMs user)
      (UserRepository.setLastLogin d.server.nowMs user) :=
  { SameUser.refl user with lastLogin := .inr ⟨rfl, rfl⟩ }

/-- The row that `register_user` makes of a request in the two processes. -/
theorem same_newUser {uid uid' hash hash' : String}
    (huid : ∃ bytes bytes', d.gateway.randomBytes = some bytes ∧
      d.server.process.randomBytes = some bytes' ∧ uid = generateUid bytes ∧
      uid' = generateUid bytes')
    (hhash : ∃ password, d.gateway.hash password = some hash ∧
      d.server.process.hash password = some hash') (request : RegisterRequest) :
    d.SameUser (newUser uid hash { request with nowMs := d.nowMs })
      (newUser uid' hash' { request with nowMs := d.server.nowMs }) where
  uid := .inr huid
  account := rfl
  passwordHash := .inr hhash
  nickname := rfl
  avatar := rfl
  gender := rfl
  signature := rfl
  createTime := .inr ⟨rfl, rfl⟩
  lastLogin := .inr ⟨rfl, rfl⟩
  online := rfl

/-- A response is the same as itself. -/
theorem sameResponse_refl (response : HttpResponse UserBody) :
    d.SameResponse response response := by
  rcases response with _ | ⟨status, profile | profile | users⟩
  · rfl
  · exact ⟨rfl, SameProfile.refl profile⟩
  · exact ⟨rfl, rfl⟩
  · exact ⟨rfl, rfl, rfl⟩

/-- A store is the same as itself. -/
theorem SameStores.refl (s : Stores) : d.SameStores s s where
  users := List.forall₂_same.mpr fun user _ => SameUser.refl user
  friends := rfl
  groups := rfl
  members := rfl
  groupMessages := rfl

/-! ## Commands -/

variable {s : Stores} {tx : Tx}

/-- The two processes insert the same row, each with its fresh uid: the reply is the same. -/
theorem same_createUser {user user' : User} (hsame : d.SameUser user user')
    (hfresh : user.uid ∉ s.users.rows.map User.uid)
    (hfresh' : user'.uid ∉ s.users.rows.map User.uid) :
    (Social.handle tx s (.createUser user)).1 = (Social.handle tx s (.createUser user')).1 ∧
      d.SameStores (Social.handle tx s (.createUser user)).2
        (Social.handle tx s (.createUser user')).2 := by
  have hhandle : ∀ row, Social.handle tx s (.createUser row) =
      ((UserRepository.create tx s.users row).1,
        { s with users := (UserRepository.create tx s.users row).2 }) := fun _ => rfl
  rw [hhandle, hhandle]
  unfold UserRepository.create
  by_cases hwrites : tx.commits = true ∧ user.account ∉ s.users.rows.map User.account
  · have haccepts : tx.commits = true ∧ s.users.Accepts user := ⟨hwrites.1, hfresh, hwrites.2⟩
    have haccepts' : tx.commits = true ∧ s.users.Accepts user' :=
      ⟨hwrites.1, hfresh', hsame.account ▸ hwrites.2⟩
    rw [dif_pos haccepts, dif_pos haccepts']
    have hs : d.SameStores s s := SameStores.refl s
    exact ⟨rfl, { hs with users := List.rel_append hs.users (.cons hsame .nil) }⟩
  · have hrefuses : ¬ (tx.commits = true ∧ s.users.Accepts user) := fun h => hwrites ⟨h.1, h.2.2⟩
    have hrefuses' : ¬ (tx.commits = true ∧ s.users.Accepts user') := fun h =>
      hwrites ⟨h.1, hsame.account ▸ h.2.2⟩
    rw [dif_neg hrefuses, dif_neg hrefuses']
    exact ⟨rfl, SameStores.refl s⟩

/-- The two processes store the time of a login. -/
theorem same_updateLastLogin (uid : String) :
    (Social.handle tx s (.updateLastLogin uid d.nowMs)).1 =
        (Social.handle tx s (.updateLastLogin uid d.server.nowMs)).1 ∧
      d.SameStores (Social.handle tx s (.updateLastLogin uid d.nowMs)).2
        (Social.handle tx s (.updateLastLogin uid d.server.nowMs)).2 := by
  have hhandle : ∀ time, Social.handle tx s (.updateLastLogin uid time) =
      ((UserRepository.updateLastLogin tx s.users uid time).1,
        { s with users := (UserRepository.updateLastLogin tx s.users uid time).2 }) := fun _ => rfl
  rw [hhandle, hhandle]
  unfold UserRepository.updateLastLogin
  by_cases hwrites : tx.commits = true ∧ uid ∈ s.users.rows.map User.uid
  · rw [if_pos hwrites, if_pos hwrites]
    have hs : d.SameStores s s := SameStores.refl s
    refine ⟨rfl, { hs with users := ?_ }⟩
    unfold Users.update
    rw [List.forall₂_map_left_iff, List.forall₂_map_right_iff, List.forall₂_same]
    intro user _
    by_cases huser : user.uid = uid
    · rw [if_pos huser, if_pos huser]
      exact SameUser.login user
    · rw [if_neg huser, if_neg huser]
      exact SameUser.refl user
  · rw [if_neg hwrites, if_neg hwrites]
    exact ⟨rfl, SameStores.refl s⟩

/-! ## The service in the two processes -/

variable (d) in
/-- The results are the same error, or the same profile. -/
def SameResult : UserResult → UserResult → Prop
  | .error error, .error error' => error = error'
  | .ok profile, .ok profile' => d.SameProfile profile profile'
  | _, _ => False

variable (d) in
/-- The results of two runs are related, and their stores are the same. -/
def SameOutcome {α β : Type} (R : α → β → Prop) (x : α × Stores × ℕ) (y : β × Stores × ℕ) : Prop :=
  R x.1 y.1 ∧ d.SameStores x.2.1 y.2.1

variable {outside : ℕ → Tx} {w : Stores × ℕ}

/-- A call that says in both whether it succeeded, and then the results. -/
theorem same_branch {α β : Type} {R : α → β → Prop} {p p' : Program Bool} {a b : α} {a' b' : β}
    (hp : d.SameOutcome Eq (p.exec (handleAt Social.handle outside) w)
      (p'.exec (handleAt Social.handle outside) w)) (ha : R a a') (hb : R b b') :
    d.SameOutcome R
      ((p >>= fun succeeded => if succeeded then done a else done b).exec
        (handleAt Social.handle outside) w)
      ((p' >>= fun succeeded => if succeeded then done a' else done b').exec
        (handleAt Social.handle outside) w) := by
  have hstores := hp.2
  rw [exec_bind, exec_bind, ← hp.1]
  cases (p.exec (handleAt Social.handle outside) w).1 with
  | true => exact ⟨ha, hstores⟩
  | false => exact ⟨hb, hstores⟩

/-- `register_user` in the two processes. -/
theorem same_registerUser (halike : d.Alike w.1.users) (request : RegisterRequest) :
    d.SameOutcome (Option.Rel d.SameResult)
      ((UserService.registerUser d.gateway { request with nowMs := d.nowMs }).exec
        (handleAt Social.handle outside) w)
      ((UserService.registerUser d.server.process { request with nowMs := d.server.nowMs }).exec
        (handleAt Social.handle outside) w) := by
  unfold UserService.registerUser
  by_cases haccount : request.account = ""
  · simp only [haccount, if_true]
    exact ⟨.some rfl, SameStores.refl _⟩
  by_cases hpassword : request.password = ""
  · simp only [haccount, hpassword, if_true, if_false]
    exact ⟨.some rfl, SameStores.refl _⟩
  simp only [haccount, hpassword, if_false, exec_bind, exec_send]
  by_cases hexists :
      (handleAt Social.handle outside w (.findByAccount request.account)).1.isSome = true
  · simp only [hexists, if_true]
    exact ⟨.some rfl, SameStores.refl _⟩
  simp only [hexists, Bool.false_eq_true, if_false]
  -- Random bytes and hashes may differ, but they are there in both processes or in neither.
  have hbytes := halike.randomBytes
  have hhash := halike.hash request.password
  have hfresh := halike.fresh
  have hfresh' := halike.fresh'
  rcases hb : d.gateway.randomBytes with _ | bytes <;>
    rcases hb' : d.server.process.randomBytes with _ | bytes' <;>
    simp only [hb, hb', Option.isSome_none, Option.isSome_some, reduceCtorEq] at hbytes
  · exact ⟨.none, SameStores.refl _⟩
  rcases hh : d.gateway.hash request.password with _ | hash <;>
    rcases hh' : d.server.process.hash request.password with _ | hash' <;>
    simp only [hh, hh', Option.isSome_none, Option.isSome_some, reduceCtorEq] at hhash
  · exact ⟨.none, SameStores.refl _⟩
  have hsame : d.SameUser _ _ :=
    same_newUser ⟨bytes, bytes', hb, hb', rfl, rfl⟩ ⟨request.password, hh, hh'⟩ request
  exact same_branch (same_createUser hsame (hfresh bytes hb) (hfresh' bytes' hb'))
    (.some hsame.toProfile) (.some rfl)

/-- `login_by_account` in the two processes. -/
theorem same_loginByAccount (halike : d.Alike w.1.users) (account password : String) :
    d.SameOutcome d.SameResult
      ((UserService.loginByAccount d.gateway account password d.nowMs).exec
        (handleAt Social.handle outside) w)
      ((UserService.loginByAccount d.server.process account password d.server.nowMs).exec
        (handleAt Social.handle outside) w) := by
  unfold UserService.loginByAccount
  simp only [exec_bind, exec_send]
  rcases (handleAt Social.handle outside w (.findByAccount account)).1 with _ | user
  · exact ⟨rfl, SameStores.refl _⟩
  simp only [halike.verify]
  by_cases hverify : (!d.server.process.verify password user.passwordHash) = true
  · simp only [hverify, if_true]
    exact ⟨rfl, SameStores.refl _⟩
  simp only [hverify, Bool.false_eq_true, if_false]
  exact same_branch (same_updateLastLogin user.uid) (SameUser.login user).toProfile
    (SameUser.refl user).toProfile

/-! ## The handlers over the two clients -/

section Handlers

variable (verify : Verify) (tokens tokens' : String → String → String → String → Tokens)
  (nowMs' : ℤ)

variable (d) in
/-- The gateway with the local client. -/
def localController : UserHttpController where
  client := localUserClient d.gateway
  verify := verify
  generateTokens := tokens
  nowMs := d.nowMs

variable (d) in
/-- The gateway with the remote client, at a time of its own. -/
def remoteController : UserHttpController where
  client := remoteUserClient d.server
  verify := verify
  generateTokens := tokens'
  nowMs := nowMs'

/-- The response is a function of a result, and the results of two programs are related. -/
theorem SameOutcome.map {α β α' β' : Type} {R : α → β → Prop} {R' : α' → β' → Prop}
    {p : Program α} {q : Program β}
    (h : d.SameOutcome R (p.exec (handleAt Social.handle outside) w)
      (q.exec (handleAt Social.handle outside) w)) {f : α → α'} {g : β → β'}
    (hfg : ∀ a b, R a b → R' (f a) (g b)) :
    d.SameOutcome R' ((p >>= fun a => done (f a)).exec (handleAt Social.handle outside) w)
      ((q >>= fun b => done (g b)).exec (handleAt Social.handle outside) w) := by
  rw [exec_bind, exec_bind]
  exact ⟨hfg _ _ h.1, h.2⟩

/-- A response that is given without a look at the store. -/
theorem same_failure (status : ℕ) (message : String) :
    d.SameOutcome d.SameResponse
      ((done (.failure status message) : Program (HttpResponse UserBody)).exec
        (handleAt Social.handle outside) w)
      ((done (.failure status message) : Program (HttpResponse UserBody)).exec
        (handleAt Social.handle outside) w) :=
  ⟨rfl, SameStores.refl _⟩

/-- `handle_register` gives the same status to the two results. -/
theorem same_registerResponse {result result' : Option UserResult} (credentials : Credentials)
    (h : Option.Rel d.SameResult result result') :
    d.SameResponse ((d.localController verify tokens).registerResponse credentials result)
      ((d.remoteController verify tokens' nowMs').registerResponse credentials
        (some (RemoteUserClient.registerResult d.server result'))) := by
  cases h with
  | none => rfl
  | some h =>
    rename_i result result'
    rcases result with ⟨code, message⟩ | profile <;>
      rcases result' with ⟨code', message'⟩ | profile'
    · obtain ⟨rfl, rfl⟩ := Prod.mk.inj h
      unfold UserHttpController.registerResponse RemoteUserClient.registerResult
      simp only [Except.mapError, RemoteUserClient.register_code_iff]
      by_cases hcode : code = "DUPLICATE_ACCOUNT"
      · rw [if_pos hcode]
        rfl
      · rw [if_neg hcode]
        rfl
    · exact h.elim
    · exact h.elim
    · exact ⟨rfl, h⟩

/-- `handle_login` gives the same status to the two results. -/
theorem same_loginResponse {result result' : UserResult} (credentials : Credentials)
    (h : d.SameResult result result') :
    d.SameResponse ((d.localController verify tokens).loginResponse credentials result)
      ((d.remoteController verify tokens' nowMs').loginResponse credentials
        (RemoteUserClient.loginResult result')) := by
  rcases result with ⟨code, message⟩ | profile <;> rcases result' with ⟨code', message'⟩ | profile'
  · obtain ⟨rfl, rfl⟩ := Prod.mk.inj h
    unfold UserHttpController.loginResponse RemoteUserClient.loginResult
    simp only [Except.mapError, RemoteUserClient.login_code_iff]
    by_cases hcode : code = "WRONG_PASSWORD" ∨ code = "INVALID_ACCOUNT"
    · rw [if_pos hcode]
      rfl
    · rw [if_neg hcode]
      rfl
  · exact h.elim
  · exact h.elim
  · exact ⟨rfl, h⟩

/-- `handle_update_profile` gives the same response to a result of the service and to what the
remote client makes of it. -/
theorem same_updateResponse (result : UserResult)
    (h : ∀ code message, result = .error (code, message) → code ≠ "PARAM_ERROR") :
    d.SameResponse (UserHttpController.updateResponse result)
      (UserHttpController.updateResponse (RemoteUserClient.updateResult result)) := by
  rcases result with ⟨code, message⟩ | profile
  · have hcode := RemoteUserClient.update_code_cases code (h code message rfl)
    unfold UserHttpController.updateResponse RemoteUserClient.updateResult
    simp only [Except.mapError, hcode.1, hcode.2]
    by_cases hparam : code = "EMPTY_UID" ∨ code = "EMPTY_NICKNAME" ∨ code = "PARAM_ERROR"
    · rw [if_pos hparam]
      rfl
    by_cases hmissing : code = "USER_NOT_FOUND"
    · rw [if_neg hparam, if_pos hmissing]
      rfl
    · rw [if_neg hparam, if_neg hmissing]
      rfl
  · exact ⟨rfl, rfl⟩

/-- `handle_register` over the two clients. -/
theorem same_handleRegister (halike : d.Alike w.1.users) (body : JsonBody Credentials) :
    d.SameOutcome d.SameResponse
      (((d.localController verify tokens).handleRegister body).exec
        (handleAt Social.handle outside) w)
      (((d.remoteController verify tokens' nowMs').handleRegister body).exec
        (handleAt Social.handle outside) w) := by
  cases body with
  | invalid => exact same_failure 400 _
  | typeError => exact same_failure 500 _
  | fields body =>
    unfold UserHttpController.handleRegister
    by_cases hmissing : body.account = "" ∨ body.password = ""
    · simp only [hmissing, if_true]
      exact same_failure 400 _
    simp only [hmissing, if_false]
    unfold localController remoteController localUserClient remoteUserClient
    simp only [RemoteUserClient.registerUser_eq, bind_assoc, pure_eq, done_bind]
    let request : RegisterRequest :=
      { account := body.account
        password := body.password
        nickname := if body.nickname = "" then body.account else body.nickname
        nowMs := nowMs' }
    exact (same_registerUser halike request).map fun _ _ h =>
      same_registerResponse verify tokens tokens' nowMs' body h

/-- `handle_login` over the two clients. -/
theorem same_handleLogin (halike : d.Alike w.1.users) (body : JsonBody Credentials) :
    d.SameOutcome d.SameResponse
      (((d.localController verify tokens).handleLogin body).exec
        (handleAt Social.handle outside) w)
      (((d.remoteController verify tokens' nowMs').handleLogin body).exec
        (handleAt Social.handle outside) w) := by
  cases body with
  | invalid => exact same_failure 400 _
  | typeError => exact same_failure 500 _
  | fields body =>
    unfold UserHttpController.handleLogin
    by_cases hmissing : body.account = "" ∨ body.password = ""
    · simp only [hmissing, if_true]
      exact same_failure 400 _
    obtain ⟨haccount, hpassword⟩ := not_or.mp hmissing
    simp only [hmissing, if_false]
    unfold localController remoteController localUserClient remoteUserClient
    simp only [RemoteUserClient.loginByAccount_eq d.server haccount hpassword, bind_assoc, pure_eq,
      done_bind]
    exact (same_loginByAccount halike _ _).map fun _ _ h =>
      same_loginResponse verify tokens tokens' nowMs' body h

/-- The local client finds no profile of no uid. -/
theorem getProfileByUid_empty (hnamed : NamesUsers w.1) :
    (UserService.getProfileByUid "").exec (handleAt Social.handle outside) w =
      (none, w.1, w.2 + 1) := by
  have hnone : UserRepository.findByUid (outside w.2) w.1.users "" = none := by
    unfold UserRepository.findByUid
    split_ifs
    · rw [List.find?_eq_none]
      intro user huser
      simpa using hnamed user huser
    · rfl
  unfold UserService.getProfileByUid
  rw [exec_bind, exec_send]
  change ((UserRepository.findByUid (outside w.2) w.1.users "").map User.toProfile, _) = _
  rw [hnone]
  rfl

/-- What follows the lookup of a profile over the two clients: with no profile the two say so, and a
profile is the same one. -/
theorem same_lookup (hnamed : NamesUsers w.1) (uid message : String)
    {found found' : UserProfile → Program (HttpResponse UserBody)}
    (hfound : ∀ profile w', w'.1 = w.1 → d.SameOutcome d.SameResponse
      ((found profile).exec (handleAt Social.handle outside) w')
      ((found' profile).exec (handleAt Social.handle outside) w')) :
    d.SameOutcome d.SameResponse
      ((UserService.getProfileByUid uid >>= fun profile =>
        match profile with
        | none => done (.failure 404 message)
        | some profile => found profile).exec (handleAt Social.handle outside) w)
      ((RemoteUserClient.getProfileByUid uid >>= fun profile =>
        match profile with
        | none => done (.failure 404 message)
        | some profile => found' profile).exec (handleAt Social.handle outside) w) := by
  by_cases huid : uid = ""
  · subst huid
    rw [RemoteUserClient.getProfileByUid_empty, exec_bind, getProfileByUid_empty hnamed]
    exact ⟨rfl, SameStores.refl _⟩
  · rw [RemoteUserClient.getProfileByUid_eq huid, exec_bind, exec_bind]
    have hstore : ((UserService.getProfileByUid uid).exec (handleAt Social.handle outside) w).2.1 =
        w.1 := rfl
    rcases ((UserService.getProfileByUid uid).exec (handleAt Social.handle outside) w).1 with
      _ | profile
    · exact ⟨rfl, SameStores.refl _⟩
    · exact hfound profile _ hstore

/-- `handle_profile` over the two clients. -/
theorem same_handleProfile (hnamed : NamesUsers w.1)
    (authorization : Option String) :
    d.SameOutcome d.SameResponse
      (((d.localController verify tokens).handleProfile authorization).exec
        (handleAt Social.handle outside) w)
      (((d.remoteController verify tokens' nowMs').handleProfile authorization).exec
        (handleAt Social.handle outside) w) := by
  unfold UserHttpController.handleProfile localController remoteController
  rcases authenticate verify authorization with response | info
  · exact ⟨sameResponse_refl response, SameStores.refl _⟩
  · exact same_lookup hnamed info.userId _ fun profile w' _ => ⟨⟨rfl, rfl⟩, SameStores.refl _⟩

/-- `update_profile` over the two clients. -/
theorem same_updateProfile (request : UpdateProfileRequest) :
    d.SameOutcome d.SameResponse
      ((UserService.updateProfile request >>= fun result =>
        done (UserHttpController.updateResponse result)).exec (handleAt Social.handle outside) w)
      ((RemoteUserClient.updateProfile request >>= fun result =>
        done (UserHttpController.updateResponse result)).exec (handleAt Social.handle outside)
          w) := by
  have hcode : ∀ code message,
      ((UserService.updateProfile request).exec (handleAt Social.handle outside) w).1 =
        .error (code, message) → code ≠ "PARAM_ERROR" := by
    unfold UserService.updateProfile
    by_cases huid : request.uid = ""
    · simp [huid]
    by_cases hnickname : request.nickname = ""
    · simp [huid, hnickname]
    simp only [huid, hnickname, if_false, exec_bind, exec_send]
    cases (handleAt Social.handle outside w (.updateProfile request.uid request.nickname
      request.avatar request.gender request.signature)).1 with
    | none => simp
    | some user => simp
  rw [RemoteUserClient.updateProfile_eq, exec_bind, exec_bind, exec_bind]
  exact ⟨same_updateResponse _ hcode, SameStores.refl _⟩

/-- `handle_update_profile` over the two clients. -/
theorem same_handleUpdateProfile (hnamed : NamesUsers w.1)
    (authorization : Option String) (body : JsonBody ProfileChange) :
    d.SameOutcome d.SameResponse
      (((d.localController verify tokens).handleUpdateProfile authorization body).exec
        (handleAt Social.handle outside) w)
      (((d.remoteController verify tokens' nowMs').handleUpdateProfile authorization body).exec
        (handleAt Social.handle outside) w) := by
  unfold UserHttpController.handleUpdateProfile localController remoteController
  rcases authenticate verify authorization with response | info
  · exact ⟨sameResponse_refl response, SameStores.refl _⟩
  by_cases hinvalid : body = .invalid
  · simp only [hinvalid, if_true]
    exact same_failure 400 _
  simp only [hinvalid, if_false]
  refine same_lookup hnamed info.userId _ fun current w' _ => ?_
  cases body with
  | invalid => exact absurd rfl hinvalid
  | typeError => exact same_failure 500 _
  | fields change =>
    by_cases hnickname :
        (UserHttpController.updateRequest info.userId current change).nickname = ""
    · simp only [hnickname, if_true]
      exact same_failure 400 _
    · simp only [hnickname, if_false]
      exact same_updateProfile _

/-- `handle_search_user` over the two clients. -/
theorem same_handleSearchUser (authorization q keyword : Option String) :
    d.SameOutcome d.SameResponse
      (((d.localController verify tokens).handleSearchUser authorization q keyword).exec
        (handleAt Social.handle outside) w)
      (((d.remoteController verify tokens' nowMs').handleSearchUser authorization q keyword).exec
        (handleAt Social.handle outside) w) := by
  unfold UserHttpController.handleSearchUser localController remoteController
  rcases authenticate verify authorization with response | info
  · exact ⟨sameResponse_refl response, SameStores.refl _⟩
  by_cases hquery : (if q.getD "" = "" then keyword.getD "" else q.getD "") = ""
  · simp only [hquery, if_true]
    exact same_failure 400 _
  simp only [hquery, if_false]
  have hsame : RemoteUserClient.searchProfiles _ 20 = UserService.searchProfiles _ 20 :=
    RemoteUserClient.searchProfiles_eq hquery (by decide) (by decide)
  simp only [localUserClient, remoteUserClient, hsame]
  exact ⟨sameResponse_refl _, SameStores.refl _⟩

/-- One request over the two clients. -/
theorem same_handle (halike : d.Alike w.1.users) (hnamed : NamesUsers w.1)
    (request : UserRequest) :
    d.SameOutcome d.SameResponse
      (((d.localController verify tokens).handle request).exec (handleAt Social.handle outside) w)
      (((d.remoteController verify tokens' nowMs').handle request).exec
        (handleAt Social.handle outside) w) := by
  cases request with
  | register body => exact same_handleRegister verify tokens tokens' nowMs' halike body
  | login body => exact same_handleLogin verify tokens tokens' nowMs' halike body
  | profile authorization =>
    exact same_handleProfile verify tokens tokens' nowMs' hnamed authorization
  | updateProfile authorization body =>
    exact same_handleUpdateProfile verify tokens tokens' nowMs' hnamed authorization body
  | searchUser authorization q keyword =>
    exact same_handleSearchUser verify tokens tokens' nowMs' authorization q keyword

/-- The user API gives the same status and, on success, the same profile and users over the two
clients, and leaves the same store, after any run of requests over either client and whichever
transactions fail. -/
theorem user_transparent {start : Stores} (hnamed : NamesUsers start)
    (earlier : List AnsweredRequest) (outside : ℕ → Tx) (request : UserRequest) :
    let s := Run.run answerRequest start earlier
    d.Alike s.users →
      d.SameResponse
          (runAt Social.handle outside ((d.localController verify tokens).handle request) s).1
          (runAt Social.handle outside
            ((d.remoteController verify tokens' nowMs').handle request) s).1 ∧
        d.SameStores
          (runAt Social.handle outside ((d.localController verify tokens).handle request) s).2
          (runAt Social.handle outside
            ((d.remoteController verify tokens' nowMs').handle request) s).2 := by
  intro s halike
  have hsame : d.SameOutcome d.SameResponse
      (((d.localController verify tokens).handle request).exec (handleAt Social.handle outside)
        (s, 0))
      (((d.remoteController verify tokens' nowMs').handle request).exec
        (handleAt Social.handle outside) (s, 0)) :=
    same_handle verify tokens tokens' nowMs' halike (namesUsers_run hnamed earlier) request
  exact hsame

end Handlers

/-- A gateway and a user server that draw different bytes and salts at different times. -/
def gatewayAndServer : Deployments where
  gateway :=
    { randomBytes := some fun _ => 0
      hash := fun password => some ("a" ++ password)
      verify := fun password hash => hash = "a" ++ password ∨ hash = "b" ++ password }
  nowMs := 1000
  server :=
    { process :=
        { randomBytes := some fun _ => 1
          hash := fun password => some ("b" ++ password)
          verify := fun password hash => hash = "a" ++ password ∨ hash = "b" ++ password }
      nowMs := 1003
      what := "" }

/-- Alice has registered through a user server. -/
def aliceRegistered : AnsweredRequest where
  controller :=
    { client := remoteUserClient
        { process :=
            { randomBytes := some fun _ => 2
              hash := fun password => some ("b" ++ password)
              verify := fun password hash => hash = "b" ++ password }
          nowMs := 900
          what := "" }
      verify := fun _ => none
      generateTokens := fun _ _ _ _ => ⟨"t0", "r0"⟩
      nowMs := 899 }
  client := .inr ⟨_, rfl⟩
  outside := fun _ => .commit
  request := .register (.fields ⟨"alice", "pw", "", "http-default", "web"⟩)

/-- Alice logs in. -/
theorem user_transparent_login :
    let s := Run.run answerRequest Stores.empty [aliceRegistered]
    let request := .login (.fields ⟨"alice", "pw", "", "http-default", "web"⟩)
    gatewayAndServer.SameResponse
        (runAt Social.handle (fun _ => .commit)
          ((gatewayAndServer.localController (fun _ => none) fun _ _ _ _ => ⟨"t", "r"⟩).handle
            request) s).1
        (runAt Social.handle (fun _ => .commit)
          ((gatewayAndServer.remoteController (fun _ => none) (fun _ _ _ _ => ⟨"t'", "r'"⟩)
            1001).handle request) s).1 ∧
      gatewayAndServer.SameStores
        (runAt Social.handle (fun _ => .commit)
          ((gatewayAndServer.localController (fun _ => none) fun _ _ _ _ => ⟨"t", "r"⟩).handle
            request) s).2
        (runAt Social.handle (fun _ => .commit)
          ((gatewayAndServer.remoteController (fun _ => none) (fun _ _ _ _ => ⟨"t'", "r'"⟩)
            1001).handle request) s).2 := by
  have hnamed : NamesUsers Stores.empty := by simp [NamesUsers, Stores.empty, Users.empty]
  refine user_transparent _ _ _ _ hnamed [aliceRegistered] _ _
    { randomBytes := rfl
      hash := fun _ => rfl
      verify := rfl
      fresh := ?_
      fresh' := ?_ }
  · rintro bytes ⟨⟩
    decide +kernel
  · rintro bytes ⟨⟩
    decide +kernel

end Deployments

end MyChat.Social
