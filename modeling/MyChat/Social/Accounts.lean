import MyChat.Social.Permissions
import MyChat.Social.RemoteUsers

/-!
# Accounts

Requests of any users reach the user API of gateways of both deployments, and their transactions
take turns. `accounts_sound` says what every run keeps: an account is made by a registration with
that account, holds the hash of its password for good, is never taken over or deleted, and changes
only by a login with a password that its hash verifies and by updates with a token of its user; and
tokens are issued to nobody else. The handlers of profiles show a user's own, and a search shows any
user who was found.
-/

namespace MyChat.Social

open Interleaving CommandProgram
open Chat (HttpResponse JsonBody Verify authenticate)

/-! ## Visits -/

/-- A request to the user API, with what it finds at the gateway and the user server. -/
structure UserVisit where
  /-- How the gateway reaches the user service. -/
  deployment : Deployment
  /-- The random numbers and the hasher of the process in which the service runs. -/
  process : UserProcess
  /-- `now_ms()` of the gateway. -/
  nowMs : ℤ
  /-- `now_ms()` of the user server. -/
  serverNowMs : ℤ
  /-- The text of the exception, if one leaves the service at the server. -/
  what : String
  /-- The request. -/
  request : UserRequest

namespace UserVisit

variable (verify : Verify) (generateTokens : String → String → String → String → Tokens)
  (visit : UserVisit)

/-- The client over which the gateway reaches the service. -/
def client : UserClient :=
  match visit.deployment with
  | .inProcess => localUserClient visit.process
  | .remote => remoteUserClient ⟨visit.process, visit.serverNowMs, visit.what⟩

/-- The controller of the gateway. -/
def controller : UserHttpController where
  client := visit.client
  verify := verify
  generateTokens := generateTokens
  nowMs := visit.nowMs

/-- The handler that answers. -/
def program : Program (HttpResponse UserBody) :=
  (visit.controller verify generateTokens).handle visit.request

/-- The time at which the service puts what it writes: the remote client sends none. -/
def time : ℤ :=
  match visit.deployment with
  | .inProcess => visit.nowMs
  | .remote => visit.serverNowMs

/-- The `Authorization` header that the handler looks at. -/
def authorization : Option String :=
  match visit.request with
  | .profile authorization => authorization
  | .updateProfile authorization _ => authorization
  | .searchUser authorization _ _ => authorization
  | .register _ | .login _ => none

/-- The token of the request is of the user. -/
def IsBy (uid : String) : Prop :=
  ∃ info, authenticate (β := UserBody) verify visit.authorization = .ok info ∧ info.userId = uid

end UserVisit

/-! ## What a request may change -/

/-- The row of the user is of the same account as before. -/
structure SameAccount (user user' : User) : Prop where
  /-- The uid. -/
  uid : user'.uid = user.uid
  /-- The account. -/
  account : user'.account = user.account
  /-- The hash of the password. -/
  passwordHash : user'.passwordHash = user.passwordHash
  /-- The time of the registration. -/
  createTime : user'.createTime = user.createTime

theorem SameAccount.refl (user : User) : SameAccount user user := ⟨rfl, rfl, rfl, rfl⟩

theorem SameAccount.trans {a b c : User} (hab : SameAccount a b) (hbc : SameAccount b c) :
    SameAccount a c :=
  ⟨hbc.uid.trans hab.uid, hbc.account.trans hab.account, hbc.passwordHash.trans hab.passwordHash,
    hbc.createTime.trans hab.createTime⟩

/-- Accounts stay. -/
def AccountsStay (s s' : Stores) : Prop :=
  ∀ user ∈ s.users.rows, ∃ user' ∈ s'.users.rows, SameAccount user user'

theorem AccountsStay.refl (s : Stores) : AccountsStay s s := fun user h => ⟨user, h, .refl user⟩

theorem AccountsStay.trans {a b c : Stores} (hab : AccountsStay a b) (hbc : AccountsStay b c) :
    AccountsStay a c := by
  intro user huser
  obtain ⟨user', huser', hsame⟩ := hab user huser
  obtain ⟨user'', huser'', hsame'⟩ := hbc user' huser'
  exact ⟨user'', huser'', hsame.trans hsame'⟩

/-- The row that the registration makes: of its account, with the hash of its password. -/
def Registers (visit : UserVisit) (user : User) : Prop :=
  ∃ credentials bytes passwordHash, visit.request = .register (.fields credentials) ∧
    credentials.account ≠ "" ∧ credentials.password ≠ "" ∧
    visit.process.randomBytes = some bytes ∧
    visit.process.hash credentials.password = some passwordHash ∧
    user = UserService.newUser (generateUid bytes) passwordHash
      { account := credentials.account
        password := credentials.password
        nickname :=
          if credentials.nickname = "" then credentials.account else credentials.nickname
        nowMs := visit.time }

/-- The login of the account, with a password that its hash verifies. -/
def Verifies (visit : UserVisit) (credentials : Credentials) (user : User) : Prop :=
  visit.request = .login (.fields credentials) ∧ user.account = credentials.account ∧
    visit.process.verify credentials.password user.passwordHash = true

/-- The row after a login. -/
def LogsIn (visit : UserVisit) (user user' : User) : Prop :=
  (∃ credentials, Verifies visit credentials user) ∧
    user' = UserRepository.setLastLogin visit.time user

/-- The row after an update by its user: what the update leaves out is as it was found. -/
def Edits (verify : Verify) (visit : UserVisit) (met : Set Stores) (user user' : User) : Prop :=
  ∃ authorization change, visit.request = .updateProfile authorization (.fields change) ∧
    visit.IsBy verify user.uid ∧ ∃ s ∈ met, ∃ current ∈ s.users.rows, current.uid = user.uid ∧
      ∃ update, update = UserHttpController.updateRequest user.uid current.toProfile change ∧
        update.nickname ≠ "" ∧ user' = UserRepository.setProfile update.nickname update.avatar
          update.gender update.signature user

/-- What differs between the tables is what the request may change. -/
structure Serves (verify : Verify) (visit : UserVisit) (met : Set Stores) (s s' : Stores) :
    Prop where
  /-- The other tables stay as they are. -/
  others : s' = { s with users := s'.users }
  /-- A row stays, or it is changed by a login or by an update of its user. -/
  kept : ∀ user ∈ s.users.rows, ∃ user' ∈ s'.users.rows,
    user' = user ∨ LogsIn visit user user' ∨ Edits verify visit met user user'
  /-- A row was there, or it is the registration's. -/
  made : ∀ user' ∈ s'.users.rows, (∃ user ∈ s.users.rows, user.uid = user'.uid) ∨
    Registers visit user'

/-! ## What a response may show -/

/-- A search for the query finds the user: by the uid, or by a part of the account or of the
nickname. -/
def FoundBy (query : String) (user : User) : Prop :=
  user.uid = query ∨ like ("%" ++ query ++ "%").toList user.account.toList = true ∨
    like ("%" ++ query ++ "%").toList user.nickname.toList = true

/-- The profiles are those of users who were met and whom a search for the query finds. -/
def AreFound (query : String) (met : Set Stores) (profiles : List UserProfile) : Prop :=
  ∀ profile ∈ profiles, ∃ s ∈ met, ∃ user ∈ s.users.rows, FoundBy query user ∧
    profile = user.toProfile

/-- What a response to a search shows to a user: profiles that the search finds, and as `profile`
the first of them. -/
def ShowsFound (verify : Verify) (visit : UserVisit) (met : Set Stores) (users : List UserProfile)
    (profile : Option UserProfile) : Prop :=
  (∃ uid, visit.IsBy verify uid) ∧ profile = users.head? ∧
    ∃ authorization q keyword, visit.request = .searchUser authorization q keyword ∧
      AreFound (if q.getD "" = "" then keyword.getD "" else q.getD "") met users

/-- Tokens are issued to the user who was just registered, or whose password was verified; a profile
is shown to its user, and what a search finds to any user. -/
def ShowsAccount (verify : Verify) (generateTokens : String → String → String → String → Tokens)
    (visit : UserVisit) (met : Set Stores) : HttpResponse UserBody → Prop
  | .success _ (.session profile tokens) => ∃ credentials,
      tokens = generateTokens profile.uid profile.account credentials.deviceId
        credentials.platform ∧
      (visit.request = .register (.fields credentials) ∧
          (∃ user, Registers visit user ∧ profile = user.toProfile) ∨
        ∃ s ∈ met, ∃ user ∈ s.users.rows, Verifies visit credentials user ∧
          profile.uid = user.uid ∧ profile.account = user.account)
  | .success _ (.profile profile) => visit.IsBy verify profile.uid
  | .success _ (.users users profile) => ShowsFound verify visit met users profile
  | .failure _ _ => True

/-! ## The warrant -/

theorem Serves.refl (verify : Verify) (visit : UserVisit) (met : Set Stores) (s : Stores) :
    Serves verify visit met s s :=
  ⟨rfl, fun user h => ⟨user, h, Or.inl rfl⟩, fun user h => Or.inl ⟨user, h, rfl⟩⟩

/-- What a request changes leaves the accounts as they are. -/
theorem Serves.accountsStay {verify : Verify} {visit : UserVisit} {met : Set Stores}
    {s s' : Stores} (h : Serves verify visit met s s') : AccountsStay s s' := by
  intro user huser
  obtain ⟨user', huser', hchange⟩ := h.kept user huser
  refine ⟨user', huser', ?_⟩
  rcases hchange with rfl | ⟨-, rfl⟩ | ⟨_, _, _, _, _, _, _, _, _, _, _, _, rfl⟩
  · exact .refl user'
  · exact ⟨rfl, rfl, rfl, rfl⟩
  · exact ⟨rfl, rfl, rfl, rfl⟩

/-- What a request to the user API may do and show. -/
def accountWarrant (verify : Verify)
    (generateTokens : String → String → String → String → Tokens) :
    Warrant Stores UserVisit (HttpResponse UserBody) where
  rely := AccountsStay
  guar visit := Serves verify visit
  ends visit := ShowsAccount verify generateTokens visit
  rely_refl := AccountsStay.refl
  rely_trans := AccountsStay.trans
  guar_rely := Serves.accountsStay

/-- An update of one row changes that row only. -/
theorem serves_update {verify : Verify} {visit : UserVisit} {met : Set Stores} {s : Stores}
    {uid : String} {f : User → User} {huid : ∀ user, (f user).uid = user.uid}
    {haccount : ∀ user, (f user).account = user.account}
    (h : ∀ user ∈ s.users.rows, user.uid = uid →
      LogsIn visit user (f user) ∨ Edits verify visit met user (f user)) :
    Serves verify visit met s { s with users := s.users.update uid f huid haccount } := by
  refine ⟨rfl, fun user huser => ?_, fun user' huser' => ?_⟩
  · refine ⟨_, List.mem_map_of_mem huser, ?_⟩
    split_ifs with heq
    · exact Or.inr (h user huser heq)
    · exact Or.inl rfl
  · obtain ⟨user, huser, rfl⟩ := List.mem_map.mp huser'
    refine Or.inl ⟨user, huser, ?_⟩
    split_ifs
    · exact (huid user).symm
    · rfl

/-- A row that was found by its account is there. -/
theorem mem_of_findByAccount {tx : Tx} {s : Stores} {account : String} {user : User}
    (h : (handle tx s (.findByAccount account)).1 = some user) :
    user ∈ s.users.rows ∧ user.account = account := by
  change UserRepository.findByAccount tx s.users account = some user at h
  unfold UserRepository.findByAccount at h
  split_ifs at h
  exact ⟨List.mem_of_find?_eq_some h, by simpa using List.find?_some h⟩

/-- A row that was found by its uid is there. -/
theorem mem_of_findByUid {tx : Tx} {s : Stores} {uid : String} {user : User}
    (h : (handle tx s (.findByUid uid)).1 = some user) :
    user ∈ s.users.rows ∧ user.uid = uid := by
  change UserRepository.findByUid tx s.users uid = some user at h
  unfold UserRepository.findByUid at h
  split_ifs at h
  exact ⟨List.mem_of_find?_eq_some h, by simpa using List.find?_some h⟩

/-- A row that was found by its account or nickname is there. -/
theorem mem_of_searchUsers {tx : Tx} {s : Stores} {keyword : String} {limit : ℕ} {user : User}
    (h : user ∈ (handle tx s (.searchUsers keyword limit)).1) :
    user ∈ s.users.rows ∧ FoundBy keyword user := by
  change user ∈ UserRepository.searchByAccountOrNickname tx s.users keyword limit at h
  unfold UserRepository.searchByAccountOrNickname at h
  split_ifs at h
  · exact absurd h List.not_mem_nil
  · have hmem := (Arrangement.mem_arrange _ _).mp (List.mem_of_mem_take h)
    obtain ⟨hrow, hlike⟩ := List.mem_filter.mp hmem
    exact ⟨hrow, Or.inr (by simpa using hlike)⟩
  · exact absurd h List.not_mem_nil

/-- Rows of one uid are one row. -/
theorem eq_of_uid_eq {users : Users} {user user' : User} (h : user ∈ users.rows)
    (h' : user' ∈ users.rows) (huid : user.uid = user'.uid) : user = user' :=
  List.inj_on_of_nodup_map users.uid_nodup h h' huid

/-- How the insert of a user ends. -/
theorem handle_createUser (tx : Tx) (s : Stores) (user : User) :
    (∃ h : s.users.Accepts user, handle tx s (.createUser user) =
        (true, { s with users := s.users.insert user h })) ∨
      handle tx s (.createUser user) = (false, s) := by
  have heq : handle tx s (.createUser user) = ((UserRepository.create tx s.users user).1,
      { s with users := (UserRepository.create tx s.users user).2 }) := rfl
  rw [heq]
  unfold UserRepository.create
  split_ifs with h
  · exact Or.inl ⟨h.2, rfl⟩
  · exact Or.inr rfl

/-- How the update of a login's time ends. -/
theorem handle_updateLastLogin (tx : Tx) (s : Stores) (uid : String) (lastLogin : ℤ) :
    handle tx s (.updateLastLogin uid lastLogin) =
        (true,
          { s with
            users := s.users.update uid (UserRepository.setLastLogin lastLogin)
              (UserRepository.setLastLogin_uid lastLogin)
              (UserRepository.setLastLogin_account lastLogin) }) ∨
      handle tx s (.updateLastLogin uid lastLogin) = (false, s) := by
  have heq : handle tx s (.updateLastLogin uid lastLogin) =
      ((UserRepository.updateLastLogin tx s.users uid lastLogin).1,
        { s with users := (UserRepository.updateLastLogin tx s.users uid lastLogin).2 }) := rfl
  rw [heq]
  unfold UserRepository.updateLastLogin
  split_ifs
  · exact Or.inl rfl
  · exact Or.inr rfl

/-- How the update of a profile ends. -/
theorem handle_updateProfile (tx : Tx) (s : Stores) (uid nickname avatar : String) (gender : Gender)
    (signature : String) :
    (∃ user ∈ s.users.rows, user.uid = uid ∧
        handle tx s (.updateProfile uid nickname avatar gender signature) =
          (some (UserRepository.setProfile nickname avatar gender signature user),
            { s with
              users := s.users.update uid
                (UserRepository.setProfile nickname avatar gender signature)
                (UserRepository.setProfile_uid nickname avatar gender signature)
                (UserRepository.setProfile_account nickname avatar gender signature) })) ∨
      handle tx s (.updateProfile uid nickname avatar gender signature) = (none, s) := by
  have heq : handle tx s (.updateProfile uid nickname avatar gender signature) =
      ((UserRepository.updateProfile tx s.users uid nickname avatar gender signature).1,
        { s with users :=
          (UserRepository.updateProfile tx s.users uid nickname avatar gender signature).2 }) := rfl
  rw [heq]
  unfold UserRepository.updateProfile
  by_cases hcommits : tx.commits = true
  · simp only [hcommits, if_true]
    rcases hfind : s.users.rows.find? (fun user => user.uid = uid) with _ | user
    · refine Or.inr ?_
      simp only [hfind]
    · simp only [hfind]
      refine Or.inl ⟨user, List.mem_of_find?_eq_some hfind, ?_, rfl⟩
      simpa using List.find?_some hfind
  · rw [if_neg hcommits]
    exact Or.inr rfl

/-- A request that is refused is shown nothing. -/
theorem shows_of_authenticate {verify : Verify}
    {generateTokens : String → String → String → String → Tokens} {visit : UserVisit}
    {met : Set Stores} {authorization : Option String} {response : HttpResponse UserBody}
    (h : authenticate verify authorization = .error response) :
    ShowsAccount verify generateTokens visit met response := by
  unfold authenticate at h
  dsimp only at h
  split_ifs at h
  · exact Except.error.inj h ▸ trivial
  · split at h
    · exact Except.error.inj h ▸ trivial
    · exact nomatch h

section Visit

variable {verify : Verify} {generateTokens : String → String → String → String → Tokens}
  {visit : UserVisit}

/-- The program of a request keeps the warrant, and its result satisfies `Q`. -/
abbrev Permitted {α : Type} (verify : Verify)
    (generateTokens : String → String → String → String → Tokens) (visit : UserVisit)
    (Q : Set Stores → α → Prop) (met : Set Stores) (p : Program α) (s : Stores) : Prop :=
  Warranted (accountWarrant verify generateTokens) handle visit (fun met _ => Q met) met p s

/-- A transaction that only reads, before the rest of a program. -/
theorem permitted_read {α : Type} {Q : Set Stores → α → Prop} {met : Set Stores} {c : Command}
    {rest : c.Reply → Program α} {s : Stores} (hread : ∀ tx s, (handle tx s c).2 = s)
    (h : ∀ s' tx, AccountsStay s s' → Permitted verify generateTokens visit Q (insert s' met)
      (rest (handle tx s' c).1) s') :
    Permitted verify generateTokens visit Q met (query c >>= rest) s :=
  warranted_read hread (fun met s => Serves.refl verify visit met s) h

/-! ## The service -/

/-- `register_user`, of the credentials in the request. -/
theorem permitted_registerUser {credentials : Credentials}
    (hrequest : visit.request = .register (.fields credentials)) (met : Set Stores) (s : Stores) :
    Permitted verify generateTokens visit
      (fun _ result => ∀ profile, result = some (.ok profile) →
        ∃ user, Registers visit user ∧ profile = user.toProfile) met
      (UserService.registerUser visit.process
        { account := credentials.account
          password := credentials.password
          nickname :=
            if credentials.nickname = "" then credentials.account else credentials.nickname
          nowMs := visit.time }) s := by
  unfold UserService.registerUser
  dsimp only
  by_cases haccount : credentials.account = ""
  · rw [if_pos haccount]
    exact fun profile h => nomatch h
  rw [if_neg haccount]
  by_cases hpassword : credentials.password = ""
  · rw [if_pos hpassword]
    exact fun profile h => nomatch h
  rw [if_neg hpassword]
  refine permitted_read (fun _ _ => rfl) fun s₁ tx₁ _ => ?_
  rcases (handle tx₁ s₁ (.findByAccount credentials.account)).1 with _ | existing
  swap
  · exact fun profile h => nomatch h
  rcases hbytes : visit.process.randomBytes with _ | bytes
  · exact fun profile h => nomatch h
  rcases hhash : visit.process.hash credentials.password with _ | passwordHash
  · exact fun profile h => nomatch h
  -- The row is inserted, unless an index refuses it or the transaction fails.
  refine warranted_send fun s₂ tx₂ _ => ?_
  generalize huser : UserService.newUser (generateUid bytes) passwordHash _ = user
  have hregisters : Registers visit user :=
    ⟨credentials, bytes, passwordHash, hrequest, haccount, hpassword, hbytes, hhash, huser.symm⟩
  rcases handle_createUser tx₂ s₂ user with ⟨haccepts, heq⟩ | heq
  · rw [heq]
    refine ⟨⟨rfl, fun row hrow => ⟨row, ?_, Or.inl rfl⟩, fun row hrow => ?_⟩, fun profile h => ?_⟩
    · exact List.mem_append_left _ hrow
    · rcases List.mem_append.mp hrow with hold | hnew
      · exact Or.inl ⟨row, hold, rfl⟩
      · exact Or.inr (List.mem_singleton.mp hnew ▸ hregisters)
    · obtain rfl := Except.ok.inj (Option.some.inj h)
      exact ⟨user, hregisters, rfl⟩
  · rw [heq]
    exact ⟨Serves.refl verify visit _ s₂, fun profile h => nomatch h⟩

/-- `login_by_account`, with the credentials in the request. -/
theorem permitted_loginByAccount {credentials : Credentials}
    (hrequest : visit.request = .login (.fields credentials)) (met : Set Stores) (s : Stores) :
    Permitted verify generateTokens visit
      (fun met' result => ∀ profile, result = .ok profile → ∃ s ∈ met', ∃ user ∈ s.users.rows,
        Verifies visit credentials user ∧ profile.uid = user.uid ∧
          profile.account = user.account) met
      (UserService.loginByAccount visit.process credentials.account credentials.password
        visit.time) s := by
  unfold UserService.loginByAccount
  refine permitted_read (fun _ _ => rfl) fun s₁ tx₁ _ => ?_
  rcases hfind : (handle tx₁ s₁ (.findByAccount credentials.account)).1 with _ | user
  · exact fun profile h => nomatch h
  obtain ⟨hmem, haccount⟩ := mem_of_findByAccount hfind
  rcases hverify : visit.process.verify credentials.password user.passwordHash with _ | _
  · simp only [hverify, Bool.not_false, if_true]
    exact fun profile h => nomatch h
  simp only [hverify, Bool.not_true, Bool.false_eq_true, if_false]
  have hverifies : Verifies visit credentials user := ⟨hrequest, haccount, hverify⟩
  refine warranted_send fun s₂ tx₂ hstay => ?_
  have hprofile : ∀ (row : User) (met' : Set Stores), s₁ ∈ met' → row.uid = user.uid →
      row.account = user.account → ∀ profile, (.ok row.toProfile : UserResult) = .ok profile →
      ∃ s ∈ met', ∃ user ∈ s.users.rows, Verifies visit credentials user ∧
        profile.uid = user.uid ∧ profile.account = user.account := by
    intro row met' hs₁ huid haccount' profile h
    obtain rfl := Except.ok.inj h
    exact ⟨s₁, hs₁, user, hmem, hverifies, huid, haccount'⟩
  rcases handle_updateLastLogin tx₂ s₂ user.uid visit.time with heq | heq
  · rw [heq]
    refine ⟨serves_update fun row hrow huid => Or.inl ⟨⟨credentials, ?_⟩, rfl⟩, ?_⟩
    · -- The row is still of the account whose hash was verified.
      obtain ⟨row', hrow', hsame⟩ := hstay user hmem
      obtain rfl : row = row' := eq_of_uid_eq hrow hrow' (huid.trans hsame.uid.symm)
      exact ⟨hrequest, hsame.account.trans haccount, hsame.passwordHash ▸ hverify⟩
    · exact hprofile { user with lastLogin := visit.time } _ (by simp) rfl rfl
  · rw [heq]
    exact ⟨Serves.refl verify visit _ s₂, hprofile user _ (by simp) rfl rfl⟩

/-- `update_profile`, of the user, with what the request changes of a profile that was found. -/
theorem permitted_updateProfile {uid : String} (hby : visit.IsBy verify uid)
    {authorization : Option String} {change : ProfileChange}
    (hrequest : visit.request = .updateProfile authorization (.fields change)) {met : Set Stores}
    {s₀ : Stores} (hs₀ : s₀ ∈ met) {current : User} (hcurrent : current ∈ s₀.users.rows)
    (huid : current.uid = uid) (s : Stores) :
    Permitted verify generateTokens visit
      (fun _ result => ∀ profile, result = .ok profile → profile.uid = uid) met
      (UserService.updateProfile
        (UserHttpController.updateRequest uid current.toProfile change)) s := by
  generalize hupdate : UserHttpController.updateRequest uid current.toProfile change = update
  have hupdate_uid : update.uid = uid := hupdate ▸ rfl
  unfold UserService.updateProfile
  by_cases hempty : update.uid = ""
  · rw [if_pos hempty]
    exact fun profile h => nomatch h
  rw [if_neg hempty]
  by_cases hnickname : update.nickname = ""
  · rw [if_pos hnickname]
    exact fun profile h => nomatch h
  rw [if_neg hnickname]
  refine warranted_send fun s₁ tx₁ _ => ?_
  rcases handle_updateProfile tx₁ s₁ update.uid update.nickname update.avatar update.gender
    update.signature with ⟨user, -, huser, heq⟩ | heq
  · rw [heq]
    refine ⟨serves_update fun row _ hrow => Or.inr ?_, fun profile h => ?_⟩
    · have hrow_uid : row.uid = uid := hrow.trans hupdate_uid
      subst hrow_uid
      exact ⟨authorization, change, hrequest, hby, s₀, hs₀, current, hcurrent, huid, update,
        hupdate.symm, hnickname, rfl⟩
    · obtain rfl := Except.ok.inj h
      exact huser.trans hupdate_uid
  · rw [heq]
    exact ⟨Serves.refl verify visit _ s₁, fun profile h => nomatch h⟩

/-- `get_profile_by_uid` finds a profile of the uid, and its row was met. -/
theorem permitted_getProfileByUid (uid : String) (met : Set Stores) (s : Stores) :
    Permitted verify generateTokens visit
      (fun met' found => ∀ profile ∈ (found : Option UserProfile), ∃ s ∈ met',
        ∃ user ∈ s.users.rows, user.uid = uid ∧ profile = user.toProfile) met
      (UserService.getProfileByUid uid) s := by
  refine permitted_read (fun _ _ => rfl) fun s₁ tx₁ _ profile hprofile => ?_
  obtain ⟨user, huser, rfl⟩ := Option.map_eq_some_iff.mp hprofile
  obtain ⟨hmem, huid⟩ := mem_of_findByUid huser
  exact ⟨s₁, by simp, user, hmem, huid, rfl⟩

/-- `search_profiles` finds users who were met. -/
theorem permitted_searchProfiles (keyword : String) (limit : ℕ) (met : Set Stores) (s : Stores) :
    Permitted verify generateTokens visit (AreFound keyword) met
      (UserService.searchProfiles keyword limit) s := by
  unfold UserService.searchProfiles
  by_cases hempty : keyword = "" ∨ limit = 0
  · rw [if_pos hempty]
    exact fun profile h => absurd h List.not_mem_nil
  rw [if_neg hempty]
  refine warranted_bind (permitted_getProfileByUid keyword met s) fun met₁ s₁ found _ _ hfound => ?_
  cases found with
  | none =>
    refine permitted_read (fun _ _ => rfl) fun s₂ tx₂ _ profile hprofile => ?_
    obtain ⟨user, huser, rfl⟩ := List.mem_map.mp hprofile
    obtain ⟨hmem, hby⟩ := mem_of_searchUsers huser
    exact ⟨s₂, by simp, user, hmem, hby, rfl⟩
  | some profile =>
    intro profile' hprofile'
    obtain rfl := List.mem_singleton.mp hprofile'
    obtain ⟨s₀, hs₀, user, hmem, huid, rfl⟩ := hfound profile' rfl
    exact ⟨s₀, hs₀, user, hmem, Or.inl huid, rfl⟩

/-! ## Clients -/

variable (verify generateTokens visit) in
/-- The client keeps the warrant when the handler of the request calls it. -/
structure Permits (client : UserClient) : Prop where
  /-- `register_user`. -/
  registerUser : ∀ credentials, visit.request = .register (.fields credentials) → ∀ met s,
    Permitted verify generateTokens visit
      (fun _ result => ∀ profile, result = some (.ok profile) →
        ∃ user, Registers visit user ∧ profile = user.toProfile) met
      (client.registerUser
        { account := credentials.account
          password := credentials.password
          nickname :=
            if credentials.nickname = "" then credentials.account else credentials.nickname
          nowMs := visit.nowMs }) s
  /-- `login_by_account`. -/
  loginByAccount : ∀ credentials, visit.request = .login (.fields credentials) →
    credentials.account ≠ "" → credentials.password ≠ "" → ∀ met s,
    Permitted verify generateTokens visit
      (fun met' result => ∀ profile, result = .ok profile → ∃ s ∈ met', ∃ user ∈ s.users.rows,
        Verifies visit credentials user ∧ profile.uid = user.uid ∧
          profile.account = user.account) met
      (client.loginByAccount credentials.account credentials.password visit.nowMs) s
  /-- `get_profile_by_uid`. -/
  getProfileByUid : ∀ uid met s, Permitted verify generateTokens visit
    (fun met' found => ∀ profile ∈ (found : Option UserProfile), ∃ s ∈ met',
      ∃ user ∈ s.users.rows, user.uid = uid ∧ profile = user.toProfile) met
    (client.getProfileByUid uid) s
  /-- `search_profiles`. -/
  searchProfiles : ∀ keyword limit met s, Permitted verify generateTokens visit (AreFound keyword)
    met (client.searchProfiles keyword limit) s
  /-- `update_profile`. -/
  updateProfile : ∀ uid authorization change, visit.IsBy verify uid →
    visit.request = .updateProfile authorization (.fields change) → ∀ met, ∀ s₀ ∈ met,
    ∀ current ∈ s₀.users.rows, current.uid = uid → ∀ s, Permitted verify generateTokens visit
      (fun _ result => ∀ profile, result = .ok profile → profile.uid = uid) met
      (client.updateProfile (UserHttpController.updateRequest uid current.toProfile change)) s

/-- `LocalUserClient`. -/
theorem permits_local (htime : visit.time = visit.nowMs) :
    Permits verify generateTokens visit (localUserClient visit.process) where
  registerUser credentials hrequest met s := by
    rw [← htime]
    exact permitted_registerUser hrequest met s
  loginByAccount credentials hrequest _ _ met s := by
    rw [← htime]
    exact permitted_loginByAccount hrequest met s
  getProfileByUid := permitted_getProfileByUid
  searchProfiles := permitted_searchProfiles
  updateProfile _ _ _ hby hrequest _ _ hs₀ _ hcurrent huid s :=
    permitted_updateProfile hby hrequest hs₀ hcurrent huid s

/-- A success of the service is the only one that comes back from the wire. -/
theorem ok_of_mapError {f : String × String → String × String} {result : UserResult}
    {profile : UserProfile} (h : result.mapError f = .ok profile) : result = .ok profile := by
  cases result with
  | error error => exact nomatch h
  | ok profile' => exact congrArg Except.ok (Except.ok.inj h)

/-- `RemoteUserClient`. -/
theorem permits_remote (what : String) (htime : visit.time = visit.serverNowMs) :
    Permits verify generateTokens visit
      (remoteUserClient ⟨visit.process, visit.serverNowMs, what⟩) where
  registerUser credentials hrequest met s := by
    change Permitted verify generateTokens visit _ met
      (RemoteUserClient.registerUser _ _ >>= fun result => done (some result)) s
    rw [RemoteUserClient.registerUser_eq, CommandProgram.bind_assoc, ← htime]
    refine warranted_bind (permitted_registerUser hrequest met s) fun _ _ result _ _ hresult => ?_
    intro profile h
    cases result with
    | none => exact nomatch h
    | some result => exact hresult profile (congrArg some (ok_of_mapError (Option.some.inj h)))
  loginByAccount credentials hrequest haccount hpassword met s := by
    change Permitted verify generateTokens visit _ met
      (RemoteUserClient.loginByAccount _ credentials.account credentials.password visit.nowMs) s
    rw [RemoteUserClient.loginByAccount_eq _ haccount hpassword, ← htime]
    refine warranted_bind (permitted_loginByAccount hrequest met s) fun _ _ result _ _ hresult => ?_
    exact fun profile h => hresult profile (ok_of_mapError h)
  getProfileByUid uid met s := by
    change Permitted verify generateTokens visit _ met (RemoteUserClient.getProfileByUid uid) s
    by_cases huid : uid = ""
    · rw [huid, RemoteUserClient.getProfileByUid_empty]
      exact fun profile h => absurd h (by simp)
    · rw [RemoteUserClient.getProfileByUid_eq huid]
      exact permitted_getProfileByUid uid met s
  searchProfiles keyword limit met s := by
    change Permitted verify generateTokens visit _ met
      (RemoteUserClient.searchProfiles keyword limit) s
    unfold RemoteUserClient.searchProfiles UserGrpcService.searchUsers
    by_cases hempty : keyword = "" ∨ limit = 0
    · rw [if_pos hempty]
      exact fun profile h => absurd h List.not_mem_nil
    rw [if_neg hempty, if_neg fun h => hempty (Or.inl h), CommandProgram.bind_assoc]
    refine warranted_bind (permitted_searchProfiles keyword _ met s) fun _ _ profiles _ _ h => ?_
    show AreFound keyword _ (RemoteUserClient.profilesOf
      { base := .ok, users := profiles.map UserGrpcService.fillUserInfo })
    rw [RemoteUserClient.profilesOf_map]
    exact h
  updateProfile uid authorization change hby hrequest met s₀ hs₀ current hcurrent huid s := by
    change Permitted verify generateTokens visit _ met (RemoteUserClient.updateProfile _) s
    rw [RemoteUserClient.updateProfile_eq]
    refine warranted_bind (permitted_updateProfile hby hrequest hs₀ hcurrent huid s)
      fun _ _ result _ _ hresult => ?_
    exact fun profile h => hresult profile (ok_of_mapError h)

/-- The client of the request's gateway. -/
theorem permits_client : Permits verify generateTokens visit visit.client := by
  unfold UserVisit.client
  rcases hdeployment : visit.deployment with _ | _
  · refine permits_local ?_
    unfold UserVisit.time
    rw [hdeployment]
  · refine permits_remote visit.what ?_
    unfold UserVisit.time
    rw [hdeployment]

/-! ## Handlers -/

/-- What a response to a result of `register_user` shows. -/
theorem shows_registerResponse {met : Set Stores} {credentials : Credentials}
    (hrequest : visit.request = .register (.fields credentials)) {result : Option UserResult}
    (h : ∀ profile, result = some (.ok profile) →
      ∃ user, Registers visit user ∧ profile = user.toProfile) :
    ShowsAccount verify generateTokens visit met
      ((visit.controller verify generateTokens).registerResponse credentials result) := by
  rcases result with _ | ⟨code, message⟩ | profile
  · trivial
  · unfold UserHttpController.registerResponse
    dsimp only
    split_ifs <;> trivial
  · exact ⟨credentials, rfl, Or.inl ⟨hrequest, h profile rfl⟩⟩

/-- What a response to a result of `login_by_account` shows. -/
theorem shows_loginResponse {met : Set Stores} {credentials : Credentials} {result : UserResult}
    (h : ∀ profile, result = .ok profile → ∃ s ∈ met, ∃ user ∈ s.users.rows,
      Verifies visit credentials user ∧ profile.uid = user.uid ∧ profile.account = user.account) :
    ShowsAccount verify generateTokens visit met
      ((visit.controller verify generateTokens).loginResponse credentials result) := by
  rcases result with ⟨code, message⟩ | profile
  · unfold UserHttpController.loginResponse
    dsimp only
    split_ifs <;> trivial
  · exact ⟨credentials, rfl, Or.inr (h profile rfl)⟩

/-- What a response to a result of `update_profile` shows. -/
theorem shows_updateResponse {met : Set Stores} {uid : String} (hby : visit.IsBy verify uid)
    {result : UserResult} (h : ∀ profile, result = .ok profile → profile.uid = uid) :
    ShowsAccount verify generateTokens visit met (UserHttpController.updateResponse result) := by
  rcases result with ⟨code, message⟩ | profile
  · unfold UserHttpController.updateResponse
    dsimp only
    split_ifs <;> trivial
  · change visit.IsBy verify profile.uid
    rw [h profile rfl]
    exact hby

/-- `handle_update_profile` updates the user's own profile. -/
theorem permitted_handleUpdateProfile {authorization : Option String}
    {body : JsonBody ProfileChange}
    (hrequest : visit.request = .updateProfile authorization body) (met : Set Stores) (s : Stores) :
    Permitted verify generateTokens visit (ShowsAccount verify generateTokens visit) met
      ((visit.controller verify generateTokens).handleUpdateProfile authorization body) s := by
  have hclient : Permits verify generateTokens visit visit.client := permits_client
  have hauthorization : visit.authorization = authorization := by
    rw [UserVisit.authorization, hrequest]
  unfold UserHttpController.handleUpdateProfile
  rcases hauth : authenticate (β := UserBody) (visit.controller verify generateTokens).verify
    authorization with response | info
  · exact shows_of_authenticate hauth
  have hby : visit.IsBy verify info.userId := ⟨info, hauthorization ▸ hauth, rfl⟩
  by_cases hinvalid : body = .invalid
  · simp only [hinvalid, if_true]
    trivial
  simp only [hinvalid, if_false]
  refine warranted_bind (hclient.getProfileByUid info.userId met s)
    fun met₁ s₁ found _ _ hfound => ?_
  rcases found with _ | profile
  · trivial
  obtain ⟨s₀, hs₀, current, hcurrent, huid, rfl⟩ := hfound profile rfl
  cases body with
  | invalid => exact absurd rfl hinvalid
  | typeError => trivial
  | fields change =>
    dsimp only
    split_ifs
    · trivial
    · exact warranted_bind (hclient.updateProfile info.userId authorization change hby hrequest met₁
        s₀ hs₀ current hcurrent huid s₁) fun _ _ result _ _ h => shows_updateResponse hby h

/-- `handle_register` registers the account of its request. -/
theorem permitted_handleRegister {body : JsonBody Credentials}
    (hrequest : visit.request = .register body) (met : Set Stores) (s : Stores) :
    Permitted verify generateTokens visit (ShowsAccount verify generateTokens visit) met
      ((visit.controller verify generateTokens).handleRegister body) s := by
  have hclient : Permits verify generateTokens visit visit.client := permits_client
  rcases body with _ | _ | credentials
  · trivial
  · trivial
  unfold UserHttpController.handleRegister
  by_cases hempty : credentials.account = "" ∨ credentials.password = ""
  · simp only [hempty, if_true]
    trivial
  simp only [hempty, if_false]
  exact warranted_bind (hclient.registerUser credentials hrequest met s)
    fun _ _ result _ _ h => shows_registerResponse hrequest h

/-- `handle_login` logs in to the account of its request. -/
theorem permitted_handleLogin {body : JsonBody Credentials}
    (hrequest : visit.request = .login body) (met : Set Stores) (s : Stores) :
    Permitted verify generateTokens visit (ShowsAccount verify generateTokens visit) met
      ((visit.controller verify generateTokens).handleLogin body) s := by
  have hclient : Permits verify generateTokens visit visit.client := permits_client
  rcases body with _ | _ | credentials
  · trivial
  · trivial
  unfold UserHttpController.handleLogin
  by_cases hempty : credentials.account = "" ∨ credentials.password = ""
  · simp only [hempty, if_true]
    trivial
  simp only [hempty, if_false]
  obtain ⟨haccount, hpassword⟩ := not_or.mp hempty
  exact warranted_bind (hclient.loginByAccount credentials hrequest haccount hpassword met s)
    fun _ _ result _ _ h => shows_loginResponse h

/-- `handle_profile` shows the user's own profile. -/
theorem permitted_handleProfile {authorization : Option String}
    (hrequest : visit.request = .profile authorization) (met : Set Stores) (s : Stores) :
    Permitted verify generateTokens visit (ShowsAccount verify generateTokens visit) met
      ((visit.controller verify generateTokens).handleProfile authorization) s := by
  have hclient : Permits verify generateTokens visit visit.client := permits_client
  have hauthorization : visit.authorization = authorization := by
    rw [UserVisit.authorization, hrequest]
  unfold UserHttpController.handleProfile
  rcases hauth : authenticate (β := UserBody) (visit.controller verify generateTokens).verify
    authorization with response | info
  · exact shows_of_authenticate hauth
  have hby : visit.IsBy verify info.userId := ⟨info, hauthorization ▸ hauth, rfl⟩
  refine warranted_bind (hclient.getProfileByUid info.userId met s) fun _ _ found _ _ hfound => ?_
  rcases found with _ | profile
  · trivial
  obtain ⟨s₀, -, user, -, huid, rfl⟩ := hfound profile rfl
  change visit.IsBy verify user.uid
  rw [huid]
  exact hby

/-- `handle_search_user` shows any user what it finds. -/
theorem permitted_handleSearchUser {authorization q keyword : Option String}
    (hrequest : visit.request = .searchUser authorization q keyword) (met : Set Stores)
    (s : Stores) :
    Permitted verify generateTokens visit (ShowsAccount verify generateTokens visit) met
      ((visit.controller verify generateTokens).handleSearchUser authorization q keyword) s := by
  have hclient : Permits verify generateTokens visit visit.client := permits_client
  have hauthorization : visit.authorization = authorization := by
    rw [UserVisit.authorization, hrequest]
  unfold UserHttpController.handleSearchUser
  rcases hauth : authenticate (β := UserBody) (visit.controller verify generateTokens).verify
    authorization with response | info
  · exact shows_of_authenticate hauth
  have hby : visit.IsBy verify info.userId := ⟨info, hauthorization ▸ hauth, rfl⟩
  dsimp only
  generalize hquery : (if q.getD "" = "" then keyword.getD "" else q.getD "") = query
  by_cases hempty : query = ""
  · rw [if_pos hempty]
    trivial
  rw [if_neg hempty]
  exact warranted_bind (hclient.searchProfiles query 20 met s) fun _ _ profiles _ _ h =>
    ⟨⟨info.userId, hby⟩, rfl, authorization, q, keyword, hrequest, hquery ▸ h⟩

/-- The handler of a request keeps the warrant, whatever its deployment. -/
theorem permitted_program (met : Set Stores) (s : Stores) :
    Permitted verify generateTokens visit (ShowsAccount verify generateTokens visit) met
      (visit.program verify generateTokens) s := by
  unfold UserVisit.program
  rcases hrequest : visit.request with body | body | authorization | ⟨authorization, body⟩ |
    ⟨authorization, q, keyword⟩
  · exact permitted_handleRegister hrequest met s
  · exact permitted_handleLogin hrequest met s
  · exact permitted_handleProfile hrequest met s
  · exact permitted_handleUpdateProfile hrequest met s
  · exact permitted_handleSearchUser hrequest met s

end Visit

/-! ## Runs -/

section Runs

variable (verify : Verify) (generateTokens : String → String → String → String → Tokens)
  (server : Stores) (turns : List (Turn UserVisit Tx))

/-- The tables and the requests after the turns. -/
abbrev accountsAfter : State Stores UserVisit Command Command.Reply (HttpResponse UserBody) :=
  Interleaving.after (UserVisit.program verify generateTokens) handle server turns

/-- The tables that a request has met. -/
abbrev accountsMet (i : ℕ) : Set Stores :=
  Met (UserVisit.program verify generateTokens) handle server turns i

/-- What holds of accounts in every interleaving. -/
structure AccountsSound : Prop where
  /-- An account was there from the start, or it is that of a registration. -/
  origin : ∀ user ∈ (accountsAfter verify generateTokens server turns).server.users.rows,
    (∃ user₀ ∈ server.users.rows, SameAccount user₀ user) ∨
      ∃ visit user₀, visit ∈ (accountsAfter verify generateTokens server turns).calls.map Prod.fst ∧
        Registers visit user₀ ∧ SameAccount user₀ user
  /-- An account stays, with its uid, its hash, and its time. -/
  stays : ∀ pre post, turns = pre ++ post →
    AccountsStay (accountsAfter verify generateTokens server pre).server
      (accountsAfter verify generateTokens server turns).server
  /-- A turn changes a row only by a login that its hash verifies or an update of its user. -/
  change : ∀ pre t post, turns = pre ++ t :: post →
    ∀ user ∈ (accountsAfter verify generateTokens server pre).server.users.rows,
    ∃ user' ∈ (accountsAfter verify generateTokens server (pre ++ [t])).server.users.rows,
      user' = user ∨ ∃ (i : ℕ) (tx : Tx) (visit : UserVisit) (p : Program (HttpResponse UserBody)),
        t = .turn i tx ∧
        (accountsAfter verify generateTokens server pre).calls[i]? = some (visit, p) ∧
        (LogsIn visit user user' ∨
          Edits verify visit (accountsMet verify generateTokens server pre i) user user')
  /-- Who is issued tokens after a login gave a password that the hash of the account verifies. -/
  login : ∀ (i : ℕ) (visit : UserVisit) credentials status profile tokens,
    (accountsAfter verify generateTokens server turns).calls[i]? =
      some (visit, .done (.success status (.session profile tokens))) →
    visit.request = .login (.fields credentials) →
    ∃ user ∈ (accountsAfter verify generateTokens server turns).server.users.rows,
      user.account = credentials.account ∧
      visit.process.verify credentials.password user.passwordHash = true ∧
      tokens = generateTokens user.uid user.account credentials.deviceId credentials.platform
  /-- Who is shown a profile by the handlers of profiles is its user. -/
  profile : ∀ (i : ℕ) (visit : UserVisit) status profile,
    (accountsAfter verify generateTokens server turns).calls[i]? =
      some (visit, .done (.success status (.profile profile))) → visit.IsBy verify profile.uid
  /-- A search shows to any user the users that it finds. -/
  search : ∀ (i : ℕ) (visit : UserVisit) status users profile,
    (accountsAfter verify generateTokens server turns).calls[i]? =
      some (visit, .done (.success status (.users users profile))) →
    ShowsFound verify visit (accountsMet verify generateTokens server turns i) users profile

variable {verify generateTokens server turns}

variable (verify generateTokens) in
/-- Every request keeps the warrant. -/
theorem warranted_userVisit (visit : UserVisit) (s : Stores) :
    Warranted (accountWarrant verify generateTokens) handle visit
      (fun met _ => (accountWarrant verify generateTokens).ends visit met) ∅
      (visit.program verify generateTokens) s :=
  permitted_program ∅ s

/-- Every account has an origin. -/
theorem accounts_origin :
    ∀ user ∈ (accountsAfter verify generateTokens server turns).server.users.rows,
    (∃ user₀ ∈ server.users.rows, SameAccount user₀ user) ∨
      ∃ visit user₀, visit ∈ (accountsAfter verify generateTokens server turns).calls.map Prod.fst ∧
        Registers visit user₀ ∧ SameAccount user₀ user := by
  induction turns using List.reverseRecOn with
  | nil => exact fun user huser => Or.inl ⟨user, huser, .refl user⟩
  | append_singleton turns t ih =>
    have hmade : ∀ visit,
        visit ∈ (accountsAfter verify generateTokens server turns).calls.map Prod.fst →
        visit ∈ (accountsAfter verify generateTokens server (turns ++ [t])).calls.map Prod.fst :=
      fun visit hvisit => mem_requests_concat t hvisit
    -- A row that was there had an origin, and is of the same account.
    have hold : ∀ user ∈ (accountsAfter verify generateTokens server turns).server.users.rows,
        ∀ user', SameAccount user user' → (∃ user₀ ∈ server.users.rows, SameAccount user₀ user') ∨
          ∃ visit user₀, visit ∈
            (accountsAfter verify generateTokens server (turns ++ [t])).calls.map Prod.fst ∧
            Registers visit user₀ ∧ SameAccount user₀ user' := by
      intro user huser user' hsame
      rcases ih user huser with ⟨user₀, huser₀, hsame₀⟩ | ⟨visit, user₀, hvisit, hregisters, hsame₀⟩
      · exact Or.inl ⟨user₀, huser₀, hsame₀.trans hsame⟩
      · exact Or.inr ⟨visit, user₀, hmade visit hvisit, hregisters, hsame₀.trans hsame⟩
    rcases (warranted_run (warranted_userVisit verify generateTokens) turns).entitled t with
      hsame | ⟨i, tx, visit, p, -, hcall, hserves⟩
    · rw [hsame]
      exact fun user huser => hold user huser user (.refl user)
    · intro user' huser'
      rcases hserves.made user' huser' with ⟨user, huser, huid⟩ | hregisters
      · obtain ⟨user'', huser'', hsame⟩ := hserves.accountsStay user huser
        obtain rfl := eq_of_uid_eq huser'' huser' (hsame.uid.trans huid)
        exact hold user huser _ hsame
      · refine Or.inr ⟨visit, user', hmade visit ?_, hregisters, .refl user'⟩
        exact List.mem_map_of_mem (List.mem_of_getElem? hcall)

/-- Every run keeps the accounts. -/
theorem accounts_sound : AccountsSound verify generateTokens server turns := by
  have hstart := warranted_userVisit verify generateTokens
  have hheld : ∀ turns, Held (accountWarrant verify generateTokens) _ _ server turns _ :=
    warranted_run hstart
  refine ⟨accounts_origin, ?_, ?_, ?_, ?_, ?_⟩
  · rintro pre post rfl
    exact warranted_rely hstart pre post
  · rintro pre t post - user huser
    rcases (hheld pre).entitled t with hsame | ⟨i, tx, visit, p, ht, hcall, hserves⟩
    · rw [hsame]
      exact ⟨user, huser, Or.inl rfl⟩
    · obtain ⟨user', huser', rfl | hchange⟩ := hserves.kept user huser
      · exact ⟨user', huser', Or.inl rfl⟩
      · exact ⟨user', huser', Or.inr ⟨i, tx, visit, p, ht, hcall, hchange⟩⟩
  · intro i visit credentials status profile tokens hcall hrequest
    obtain ⟨credentials', htokens, hissued⟩ := (hheld turns).ends hcall
    rcases hissued with ⟨hregister, -⟩ | ⟨s, hs, user, huser, hverifies, huid, haccount⟩
    · exact nomatch hrequest.symm.trans hregister
    · -- The row that was met is still there, with the hash that was verified.
      obtain ⟨hrequest', haccount', hverify⟩ := hverifies
      obtain rfl : credentials' = credentials := by
        injection hrequest'.symm.trans hrequest with hbody
        injection hbody
      obtain ⟨user', huser', hsame⟩ := rely_of_mem_met hstart hs user huser
      refine ⟨user', huser', hsame.account.trans haccount', ?_, ?_⟩
      · rw [hsame.passwordHash]
        exact hverify
      · rw [htokens, huid, haccount, hsame.uid, hsame.account]
  · exact fun i visit status profile hcall => (hheld turns).ends hcall
  · exact fun i visit status users profile hcall => (hheld turns).ends hcall

end Runs

end MyChat.Social
