import MyChat.Auth.RefreshIdentity
import MyChat.Lib.Throwing

/-!
# Tokens issued with failures

`generate_tokens`, `refresh_access_token`, and the functions that verify tokens of
`gateway/auth/multi_platform_auth.cpp` once more, with everything that can fail on the way. Redis
answers or throws command by command, as a sequence of fates says. The two libraries that may throw
are parameters: jwt-cpp when it signs, and the JSON library when it writes a text that is not UTF-8.
The lifetimes come from a configuration, in which a missing one is zero. Time stands still in a
call. A command that is sent again over a new connection has the same effect as one that is sent
once.

Without failures this is the model of `RefreshToken.lean` (`exec_generateTokens`), and
`verify_access_token` is that of `MultiPlatformAuth.lean` (`exec_verifyAccessToken`).
-/

namespace MyChat.Auth

open CommandProgram

/-! ## The configuration -/

/-- `TokenTimeConfig`. -/
structure TokenTimeConfig where
  /-- `access_token_expire_seconds`. -/
  accessTokenExpireSeconds : ℤ
  /-- `refresh_token_expire_seconds`. -/
  refreshTokenExpireSeconds : ℤ
  deriving DecidableEq, Repr

/-- `platforms` of the constructor of `PlatformTokenStrategy`. -/
def platforms : List String := ["web", "android", "ios", "desktop", "miniapp", "mobile", "unkown"]

/-- `platform_token_configs_` after the constructor. The configuration is what `get<int>` finds
under a path; `none` where it takes the default. -/
def platformTokenConfigs (config : String → Option ℤ) : PlatformType → TokenTimeConfig :=
  platforms.foldl (fun configs platform =>
    let path := "PlatformTokenStrategy." ++ platform ++ "."
    Function.update configs (getPlatformType platform)
      ⟨(config (path ++ "access_token_expire_seconds")).getD 0,
        (config (path ++ "refresh_token_expire_seconds")).getD 0⟩) fun _ => ⟨0, 0⟩

/-- `get_platform_token_config`. -/
def getPlatformTokenConfig (config : String → Option ℤ) (platform : String) : TokenTimeConfig :=
  platformTokenConfigs config (getPlatformType platform)

/-! ## Redis -/

/-- A command of `RedisClient`, or `get_connection`. -/
inductive RedisCommand (T : Type) where
  /-- `get_connection`. -/
  | getConnection
  /-- `GET`. -/
  | get (key : String)
  /-- `EXISTS`. -/
  | existsKey (key : String)
  /-- `TTL`. -/
  | ttl (key : String)
  /-- `SET`. -/
  | set (key : String) (value : RefreshMeta T)
  /-- `EXPIRE`. -/
  | expire (key : String) (seconds : ℤ)
  /-- `SADD`, to a set that nothing reads. -/
  | sadd (key member : String)

/-- The results of a command. -/
abbrev RedisCommand.Result {T : Type} : RedisCommand T → Type
  | .get _ => Option (RefreshMeta T)
  | .existsKey _ => Bool
  | .ttl _ => ℤ
  | .getConnection => Unit
  | .set .. => Unit
  | .expire .. => Unit
  | .sadd .. => Unit

/-- The keys of Redis that the manager writes. -/
structure Redis (T : Type) where
  /-- The records of refresh tokens. -/
  records : ExpiringStore String (RefreshMeta T) T
  /-- The keys of access tokens that were revoked. -/
  revoked : TokenStore T

/-- A program of the manager that catches its exceptions. -/
abbrev RedisProgram (T α : Type) :=
  CommandProgram (RedisCommand T) (fun c => Option c.Result) α

/-- A program of the manager that throws. -/
abbrev RedisThrowing (T α : Type) := Throwing (RedisCommand T) RedisCommand.Result α

namespace RedisClient

variable {T : Type}

/-- `get_connection`. -/
abbrev getConnection : RedisThrowing T Unit := attempt RedisCommand.getConnection

/-- `get`. -/
abbrev get (key : String) : RedisThrowing T (Option (RefreshMeta T)) := attempt (RedisCommand.get key)

/-- `exists`. -/
abbrev existsKey (key : String) : RedisThrowing T Bool := attempt (RedisCommand.existsKey key)

/-- `ttl`. -/
abbrev ttl (key : String) : RedisThrowing T ℤ := attempt (RedisCommand.ttl key)

/-- `set`. -/
abbrev set (key : String) (value : RefreshMeta T) : RedisThrowing T Unit :=
  attempt (RedisCommand.set key value)

/-- `expire`. -/
abbrev expire (key : String) (seconds : ℤ) : RedisThrowing T Unit :=
  attempt (RedisCommand.expire key seconds)

/-- `sadd`. -/
abbrev sadd (key member : String) : RedisThrowing T Unit := attempt (RedisCommand.sadd key member)

end RedisClient

section
variable {T : Type} [LinearOrder T] [Ring T]

/-- What a command does at the time, and its result; `wholeSeconds` is how `TTL` rounds. -/
def perform (wholeSeconds : T → ℤ) (now : T) (r : Redis T) :
    (c : RedisCommand T) → c.Result × Redis T
  | .getConnection => ((), r)
  | .get key => (r.records.get now key, r)
  | .existsKey key => ((r.revoked.get now key).isSome, r)
  | .ttl key => (r.records.ttl wholeSeconds now key, r)
  | .set key value => ((), { r with records := r.records.set key value })
  | .expire key seconds => ((), { r with records := expireKey r.records now key seconds })
  | .sadd .. => ((), r)

end

/-! ## The manager -/

/-- What the manager is made with. -/
structure Issuer (T : Type) where
  /-- jwt-cpp with the manager's secret. -/
  jwt : Jwt
  /-- `sign` returns; it throws on claims that are not UTF-8. -/
  signs : Claims → Bool
  /-- `rtMeta.dump()` returns; it throws on a record that is not UTF-8. -/
  dumps : RefreshMeta T → Bool
  /-- What `get<int>` finds in the configuration. -/
  config : String → Option ℤ
  /-- Whether the share of its time that a record has left at a time is below the platform's
  `refresh_precentage`. -/
  belowPercentage : RefreshMeta T → T → Bool

/-- The time of a call, and the random texts that it makes. -/
structure Moment (T : Type) where
  /-- The clock. -/
  now : T
  /-- What `uuid_unparse` writes. -/
  uuid : String
  /-- It writes 36 characters. -/
  uuid_length : uuid.length = 36
  /-- What `rt_generate` returns. -/
  rt : String
  /-- It returns 32 characters. -/
  rt_length : rt.length = 32

theorem Moment.uuid_ne {T : Type} (m : Moment T) : m.uuid ≠ "" := by
  intro h
  have hlength := m.uuid_length
  rw [h] at hlength
  exact absurd hlength (by decide)

theorem Moment.rt_ne {T : Type} (m : Moment T) : m.rt ≠ "" := by
  intro h
  have hlength := m.rt_length
  rw [h] at hlength
  exact absurd hlength (by decide)

/-- The manager without its failures. -/
def Issuer.manager {T : Type} (issuer : Issuer T) : Manager T where
  jwt := issuer.jwt
  accessExpireSeconds platform :=
    (platformTokenConfigs issuer.config platform).accessTokenExpireSeconds
  refreshExpireSeconds platform :=
    (platformTokenConfigs issuer.config platform).refreshTokenExpireSeconds
  belowPercentage := issuer.belowPercentage

/-- The key of a user's set of refresh tokens. -/
def userTokensKey (userId : String) : String := "user:" ++ userId ++ ":refresh_tokens"

namespace Issuer

variable {T : Type} [LinearOrder T] [Ring T] [FloorRing T] (issuer : Issuer T) (m : Moment T)

/-- The claims that `generate_access_token` sets. -/
def accessClaims (who : Identity) (expireSeconds : ℤ) : Claims :=
  Auth.accessClaims issuer.manager.accessExpireSeconds m.now m.uuid who.userId who.username
    who.deviceId who.platform expireSeconds

/-- `generate_access_token`; an exception of `sign` is caught. -/
def generateAccessToken (who : Identity) (expireSeconds : ℤ) : String :=
  let claims := issuer.accessClaims m who expireSeconds
  if issuer.signs claims then issuer.jwt.sign claims else ""

/-- `rtMeta` of `generate_refresh_token`. -/
def rtMeta (who : Identity) (expireSeconds : ℤ) : RefreshMeta T :=
  let actual := actualExpireSeconds issuer.manager who.platform expireSeconds
  ⟨⟨who, m.now, m.now + (actual : T)⟩, false⟩

/-- `generate_refresh_token`. -/
def generateRefreshToken (who : Identity) (expireSeconds : ℤ) : RedisProgram T String :=
  swallow "" do
    let actual := actualExpireSeconds issuer.manager who.platform expireSeconds
    RedisClient.getConnection
    -- `dump` makes the argument of `set`.
    require (issuer.dumps (issuer.rtMeta m who expireSeconds))
    RedisClient.set (refreshKey m.rt) (issuer.rtMeta m who expireSeconds)
    RedisClient.expire (refreshKey m.rt) actual
    RedisClient.sadd (userTokensKey who.userId) m.rt
    RedisClient.expire (userTokensKey who.userId) actual
    return m.rt

/-- `generate_tokens`. Its handler of exceptions has nothing to catch. -/
def generateTokens (who : Identity) : RedisProgram T TokenResult := do
  let newAccessToken := issuer.generateAccessToken m who 0
  let newRefreshToken ← issuer.generateRefreshToken m who 0
  return ⟨true, newAccessToken, newRefreshToken, ""⟩

omit [LinearOrder T] [Ring T] [FloorRing T] in
/-- `revoke_refresh_token`. The record was parsed from UTF-8, so that it can be written again. -/
def revokeRefreshToken (refreshToken : String) : RedisProgram T Bool := swallow false do
  RedisClient.getConnection
  let stored ← RedisClient.get (refreshKey refreshToken)
  match stored with
  | none => return false
  | some decode =>
    let remaining ← RedisClient.ttl (refreshKey refreshToken)
    RedisClient.set (refreshKey refreshToken) { decode with revoked := true }
    if remaining > 0 then
      RedisClient.expire (refreshKey refreshToken) (toInt remaining)
      return true
    else return true

omit [LinearOrder T] [Ring T] [FloorRing T] in
/-- `verify_refresh_token`; `none` when it returns `false`. -/
def verifyRefreshToken (refreshToken deviceId : String) :
    RedisProgram T (Option (RefreshTokenInfo T)) := swallow none do
  require (refreshToken ≠ "")
  RedisClient.getConnection
  let stored ← RedisClient.get (refreshKey refreshToken)
  match stored with
  | none => return none
  | some decode =>
    if decode.owner.deviceId ≠ deviceId then
      -- A token that another device presents is revoked, and then the exception is thrown.
      let _ ← OptionT.lift (revokeRefreshToken refreshToken)
      failure
    else if decode.revoked then failure
    else return some decode.toRefreshTokenInfo

omit [LinearOrder T] [Ring T] [FloorRing T] in
/-- `should_rotate_refresh_token`. -/
def shouldRotateRefreshToken (refreshToken : String) : RedisProgram T Bool := swallow false do
  RedisClient.getConnection
  let stored ← RedisClient.get (refreshKey refreshToken)
  match stored with
  | none => return false
  | some decode => return issuer.belowPercentage decode m.now

/-- `refresh_access_token` after `verify_refresh_token`. -/
def refreshVerified (refreshToken : String) (verified : Option (RefreshTokenInfo T)) :
    RedisProgram T TokenResult := do
  match verified with
  | none => return ⟨false, "", "", "Invalid refresh token"⟩
  | some userInfo =>
    -- A rotation that fails leaves the new refresh token empty, which nothing checks.
    let rotate ← issuer.shouldRotateRefreshToken m refreshToken
    let newRefreshToken ←
      if rotate then issuer.generateRefreshToken m userInfo.owner 0 else pure ""
    return ⟨true, issuer.generateAccessToken m userInfo.owner 0, newRefreshToken, ""⟩

/-- `refresh_access_token`. -/
def refreshAccessToken (refreshToken deviceId : String) : RedisProgram T TokenResult := do
  let verified ← verifyRefreshToken refreshToken deviceId
  issuer.refreshVerified m refreshToken verified

omit [LinearOrder T] [Ring T] [FloorRing T] in
/-- `is_token_revoked`; an exception counts as `true`. -/
def isTokenRevoked (token : String) : RedisProgram T Bool := swallow true do
  let jti := extractJti issuer.jwt token
  if jti = "" then return false
  else
    RedisClient.getConnection
    RedisClient.existsKey (revokedKey jti)

/-- `verify_access_token` with a `UserTokenInfo`; `none` when it returns `false`. -/
def verifyAccessToken (accessToken : String) : RedisProgram T (Option UserTokenInfo) := do
  match issuer.jwt.verify m.now accessToken with
  | none => return none
  | some decoded =>
    let revoked ← issuer.isTokenRevoked accessToken
    if revoked then return none
    -- The claims are read one by one; the first that is missing throws, and `false` is returned.
    else return do
      return ⟨← decoded.sub, ← decoded.username, ← decoded.deviceId, ← decoded.platform,
        ← decoded.iat, ← decoded.exp⟩

/-- `verify_access_token` with a device id. -/
def verifyAccessTokenDevice (accessToken deviceId : String) : RedisProgram T Bool := do
  if accessToken = "" then return false
  else
    match issuer.jwt.verify m.now accessToken with
    | none => return false
    | some decoded =>
      let revoked ← issuer.isTokenRevoked accessToken
      if revoked then return false
      else return decoded.deviceId = some deviceId

end Issuer

/-! ## Calls -/

section
variable {T α : Type} [LinearOrder T] [Ring T]

/-- The result of a call, and Redis after it, when its commands have these fates. -/
def Redis.run (wholeSeconds : T → ℤ) (now : T) (fate : ℕ → Fate) (r : Redis T)
    (p : RedisProgram T α) : α × Redis T :=
  runAt (handleFate (perform wholeSeconds now)) fate p r

variable {wholeSeconds : T → ℤ} {now : T} {fate : ℕ → Fate}

/-- No command revokes an access token. -/
theorem revoked_exec (p : RedisProgram T α) (w : Redis T × ℕ) :
    (execFate (perform wholeSeconds now) fate p w).2.1.revoked = w.1.revoked := by
  refine exec_mono (R := fun w w' : Redis T × ℕ => w'.1.revoked = w.1.revoked) (fun _ => rfl)
    (fun _ _ _ hab hbc => hbc.trans hab) (fun w c => ?_) p
  -- A command whose reply is lost is done as well.
  unfold handleAt handleFate
  rcases fate w.2 with _ | _ | _
  · cases c <;> rfl
  · cases c <;> rfl
  · rfl

end

/-! ## Access tokens -/

section
variable {T : Type} [LinearOrder T] [Ring T] [FloorRing T] (issuer : Issuer T) (m : Moment T)
  (wholeSeconds : T → ℤ) (fate : ℕ → Fate)

omit [FloorRing T] in
/-- `is_token_revoked` is that of the model whose commands are both answered or both not. -/
theorem exec_isTokenRevoked (r : Redis T) (n : ℕ) (token : String) :
    (execFate (perform wholeSeconds m.now) fate (issuer.isTokenRevoked token) (r, n)).1 =
      Auth.isTokenRevoked issuer.jwt r.revoked m.now (AnsweredFrom fate n 2) token := by
  unfold Issuer.isTokenRevoked Auth.isTokenRevoked
  rw [exec_swallow]
  dsimp only
  -- A token without a `jti` is not looked up. Else the connection and `EXISTS` are to be answered.
  by_cases hjti : extractJti issuer.jwt token = ""
  · rw [if_pos hjti, if_pos hjti]
    rfl
  rw [if_neg hjti, if_neg hjti]
  by_cases hconnected : fate n = .answered
  · rw [exec_attempt_of_answered _ _ hconnected, exec_attempt]
    by_cases hexists : fate (n + 1) = .answered
    · have hanswered : AnsweredFrom fate n 2 :=
        answeredFrom_succ.mpr ⟨hconnected, answeredFrom_succ.mpr ⟨hexists, answeredFrom_zero⟩⟩
      rw [if_pos hexists, if_pos (decide_eq_true hanswered)]
      rfl
    · have hfailed : ¬ AnsweredFrom fate n 2 := fun h => hexists (h 1 (by decide))
      rw [if_neg hexists, if_neg (by simpa using hfailed)]
      rfl
  · have hfailed : ¬ AnsweredFrom fate n 2 := fun h => hconnected (h 0 (by decide))
    rw [exec_attempt_of_not_answered _ _ hconnected, if_neg (by simpa using hfailed)]
    rfl

omit [FloorRing T] in
/-- `verify_access_token` with a `UserTokenInfo` is that of the model. -/
theorem exec_verifyAccessToken (r : Redis T) (n : ℕ) (token : String) :
    (execFate (perform wholeSeconds m.now) fate (issuer.verifyAccessToken m token) (r, n)).1 =
      Auth.verifyAccessToken issuer.jwt r.revoked m.now (AnsweredFrom fate n 2) token := by
  unfold Issuer.verifyAccessToken Auth.verifyAccessToken
  rcases issuer.jwt.verify m.now token with _ | decoded
  · rfl
  dsimp only
  rw [execFate, exec_bind, exec_isTokenRevoked issuer m wholeSeconds fate r n token]
  rcases Auth.isTokenRevoked issuer.jwt r.revoked m.now (AnsweredFrom fate n 2) token with _ | _
  · rfl
  · rfl

omit [FloorRing T] in
/-- `verify_access_token` with a device id is that of the model. -/
theorem exec_verifyAccessTokenDevice (r : Redis T) (n : ℕ) (token deviceId : String) :
    (execFate (perform wholeSeconds m.now) fate (issuer.verifyAccessTokenDevice m token deviceId)
        (r, n)).1 =
      Auth.verifyAccessTokenDevice issuer.jwt r.revoked m.now (AnsweredFrom fate n 2) token
        deviceId := by
  unfold Issuer.verifyAccessTokenDevice Auth.verifyAccessTokenDevice
  by_cases hempty : token = ""
  · rw [if_pos hempty, if_pos hempty]
    rfl
  rw [if_neg hempty, if_neg hempty]
  rcases issuer.jwt.verify m.now token with _ | decoded
  · rfl
  dsimp only
  rw [execFate, exec_bind, exec_isTokenRevoked issuer m wholeSeconds fate r n token]
  rcases Auth.isTokenRevoked issuer.jwt r.revoked m.now (AnsweredFrom fate n 2) token with _ | _
  · rfl
  · rfl

end

/-! ## Refresh tokens -/

section
variable {T : Type} [LinearOrder T] [Ring T] {m : Moment T} {wholeSeconds : T → ℤ} {fate : ℕ → Fate}
  {now : T} {r : Redis T} {n : ℕ}

/-- `verify_refresh_token` accepts a token exactly when Redis answers with a record of it that is
for the device and not revoked. -/
theorem exec_verifyRefreshToken_eq_some {refreshToken deviceId : String}
    {info : RefreshTokenInfo T} :
    (execFate (perform wholeSeconds now) fate (Issuer.verifyRefreshToken refreshToken deviceId)
        (r, n)).1 = some info ↔
      refreshToken ≠ "" ∧ AnsweredFrom fate n 2 ∧
        ∃ decode, r.records.get now (refreshKey refreshToken) = some decode ∧
          decode.owner.deviceId = deviceId ∧ decode.revoked = false ∧
          decode.toRefreshTokenInfo = info := by
  have hgetD : ∀ result : Option (Option (RefreshTokenInfo T)),
      result.getD none = some info ↔ result = some (some info) := by
    rintro (_ | result)
    · simp
    · simp
  unfold Issuer.verifyRefreshToken
  rw [exec_swallow, hgetD]
  by_cases hempty : refreshToken = ""
  · rw [decide_eq_false (by simpa using hempty), run_require_bind_false]
    exact iff_of_false (by simp) fun h => h.1 hempty
  rw [decide_eq_true hempty, run_require_bind_true, exec_attempt_eq_some, exec_attempt_eq_some,
    and_iff_right hempty]
  -- Two commands come before the record is looked at: `get_connection` and `GET`.
  have hanswered : AnsweredFrom fate n 2 ↔ fate n = .answered ∧ fate (n + 1) = .answered := by
    rw [answeredFrom_succ, answeredFrom_succ]
    exact and_congr_right fun _ => and_iff_left answeredFrom_zero
  rw [hanswered, and_assoc]
  refine and_congr_right fun _ => and_congr_right fun _ => ?_
  dsimp only [perform]
  rcases r.records.get now (refreshKey refreshToken) with _ | decode
  · exact iff_of_false (by simp [execFate]) (by simp)
  dsimp only
  by_cases hdevice : decode.owner.deviceId = deviceId
  swap
  · -- The token is revoked, and then an exception is thrown.
    rw [if_pos hdevice]
    refine iff_of_false ?_ fun ⟨d, hd, howner, _⟩ => hdevice (Option.some.inj hd ▸ howner)
    rw [run_lift_bind, execFate, exec_bind]
    exact Option.some_ne_none _ ∘ Eq.symm
  rw [if_neg (not_not.mpr hdevice)]
  by_cases hrevoked : decode.revoked = true
  · rw [if_pos hrevoked]
    refine iff_of_false (Option.some_ne_none _ ∘ Eq.symm) ?_
    rintro ⟨d, hd, -, hvalid, -⟩
    rw [← Option.some.inj hd, hrevoked] at hvalid
    exact absurd hvalid (by decide)
  · rw [if_neg hrevoked]
    simp [execFate, hdevice, hrevoked]

variable {issuer : Issuer T}

/-- Redis after a new refresh token: the record, with the lifetime of its platform. -/
def Issuer.stored (issuer : Issuer T) (m : Moment T) (r : Redis T) (who : Identity)
    (expireSeconds : ℤ) : Redis T :=
  let actual := actualExpireSeconds issuer.manager who.platform expireSeconds
  let records := expireKey (r.records.set (refreshKey m.rt) (issuer.rtMeta m who expireSeconds)) m.now
    (refreshKey m.rt) actual
  { r with records := expireKey records m.now (userTokensKey who.userId) actual }

/-- `generate_refresh_token` when nothing throws. -/
theorem exec_generateRefreshToken_of_answered {who : Identity} {expireSeconds : ℤ}
    (hdumps : issuer.dumps (issuer.rtMeta m who expireSeconds) = true)
    (hanswered : AnsweredFrom fate n 5) :
    execFate (perform wholeSeconds m.now) fate (issuer.generateRefreshToken m who expireSeconds)
        (r, n) = (m.rt, issuer.stored m r who expireSeconds, n + 5) := by
  unfold Issuer.generateRefreshToken
  -- The five commands, in the order in which they are sent.
  obtain ⟨hconnected, hset, hexpire, hsadd, hexpireSet, -⟩ :
      fate n = .answered ∧ fate (n + 1) = .answered ∧ fate (n + 2) = .answered ∧
        fate (n + 3) = .answered ∧ fate (n + 4) = .answered ∧ AnsweredFrom fate (n + 5) 0 := by
    simpa only [answeredFrom_succ] using hanswered
  rw [exec_swallow]
  dsimp only
  rw [exec_attempt_of_answered _ _ hconnected, hdumps, run_require_bind_true,
    exec_attempt_of_answered _ _ hset, exec_attempt_of_answered _ _ hexpire,
    exec_attempt_of_answered _ _ hsadd, exec_attempt_of_answered _ _ hexpireSet]
  rfl

/-- The result of the call then, and Redis after it. -/
theorem run_generateRefreshToken {who : Identity} {expireSeconds : ℤ}
    (hdumps : issuer.dumps (issuer.rtMeta m who expireSeconds) = true)
    (hanswered : AnsweredFrom fate 0 5) :
    r.run wholeSeconds m.now fate (issuer.generateRefreshToken m who expireSeconds) =
      (m.rt, issuer.stored m r who expireSeconds) := by
  have hexec : execFate (perform wholeSeconds m.now) fate
      (issuer.generateRefreshToken m who expireSeconds) (r, 0) =
      (m.rt, issuer.stored m r who expireSeconds, 0 + 5) :=
    exec_generateRefreshToken_of_answered hdumps hanswered
  show ((execFate _ _ _ (r, 0)).1, (execFate _ _ _ (r, 0)).2.1) = _
  rw [hexec]

/-- `generate_refresh_token` when something throws: the token is empty. -/
theorem exec_generateRefreshToken_of_failed {who : Identity} {expireSeconds : ℤ}
    (hfailed : ¬ (issuer.dumps (issuer.rtMeta m who expireSeconds) = true ∧
      AnsweredFrom fate n 5)) :
    (execFate (perform wholeSeconds m.now) fate (issuer.generateRefreshToken m who expireSeconds)
        (r, n)).1 = "" := by
  unfold Issuer.generateRefreshToken
  rw [exec_swallow]
  dsimp only
  rcases hresult : (execFate (perform wholeSeconds m.now) fate _ (r, n)).1 with _ | rt
  · rfl
  -- With a result every command was answered, and the record was written.
  exfalso
  obtain ⟨hconnected, hresult⟩ := (exec_attempt_eq_some _ _).mp hresult
  rcases hdumps : issuer.dumps (issuer.rtMeta m who expireSeconds) with _ | _
  · rw [hdumps, run_require_bind_false] at hresult
    exact absurd hresult (by simp [execFate])
  rw [hdumps, run_require_bind_true] at hresult
  obtain ⟨hset, hresult⟩ := (exec_attempt_eq_some _ _).mp hresult
  obtain ⟨hexpire, hresult⟩ := (exec_attempt_eq_some _ _).mp hresult
  obtain ⟨hsadd, hresult⟩ := (exec_attempt_eq_some _ _).mp hresult
  obtain ⟨hexpireSet, -⟩ := (exec_attempt_eq_some _ _).mp hresult
  refine hfailed ⟨hdumps, ?_⟩
  simp only [answeredFrom_succ, answeredFrom_zero, and_true]
  exact ⟨hconnected, hset, hexpire, hsadd, hexpireSet⟩

end

/-! ## The two calls -/

section
variable {T : Type} [LinearOrder T] [Ring T] [FloorRing T] {issuer : Issuer T} {m : Moment T}
  {wholeSeconds : T → ℤ} {fate : ℕ → Fate} {r : Redis T}

/-- `generate_tokens` reports success, with what the generators return. -/
theorem run_generateTokens (who : Identity) :
    r.run wholeSeconds m.now fate (issuer.generateTokens m who) =
      (⟨true, issuer.generateAccessToken m who 0,
        (r.run wholeSeconds m.now fate (issuer.generateRefreshToken m who 0)).1, ""⟩,
        (r.run wholeSeconds m.now fate (issuer.generateRefreshToken m who 0)).2) := by
  unfold Redis.run runAt Issuer.generateTokens
  rw [exec_bind]
  rfl

/-- Whatever becomes of the rotation, a call with a refresh token that was accepted reports success,
with an access token for the owner. -/
theorem returns_refreshVerified (refreshToken : String) (info : RefreshTokenInfo T) :
    (issuer.refreshVerified m refreshToken (some info)).Returns fun result =>
      result.success = true ∧
        result.newAccessToken = issuer.generateAccessToken m info.owner 0 := by
  unfold Issuer.refreshVerified
  dsimp only
  refine Returns.bind _ fun rotate => Returns.ite (fun _ => ?_) fun _ => ?_
  · exact Returns.bind _ fun newRefreshToken => by exact ⟨rfl, rfl⟩
  · exact Returns.bind _ fun newRefreshToken => by exact ⟨rfl, rfl⟩

/-- When nothing fails, `generate_tokens` does what the model without failures does at that time,
with the same texts: it returns the same, and the same records are there after it. -/
theorem exec_generateTokens {outside : Outside T} {w : World T} {who : Identity}
    (hsigned : issuer.signs (issuer.accessClaims m who 0) = true)
    (hdumps : issuer.dumps (issuer.rtMeta m who 0) = true) (hanswered : AnsweredFrom fate 0 5)
    (hclock : ∀ tick, outside.clock tick = m.now)
    (huuid : outside.uuidGenerate (w.ticks + 1) = m.uuid)
    (hrt : outside.rtGenerate w.generated = m.rt) (hrecords : w.redis = r.records) :
    let out := r.run wholeSeconds m.now fate (issuer.generateTokens m who)
    let model := (generateTokens issuer.manager who).exec (handle outside) w
    out.1 = model.1 ∧ ∀ key ≠ userTokensKey who.userId,
      out.2.records.entries key = model.2.redis.entries key := by
  -- The model reads the clock at each use; here every reading is the same.
  have hmodel : (generateTokens issuer.manager who).exec (handle outside) w =
      (⟨true, issuer.jwt.sign (issuer.accessClaims m who 0), m.rt, ""⟩,
        { redis := expireKey (r.records.set (refreshKey m.rt) (issuer.rtMeta m who 0)) m.now
            (refreshKey m.rt) (actualExpireSeconds issuer.manager who.platform 0)
          ticks := w.ticks + 2 + 4
          generated := w.generated + 1 }) := by
    unfold generateTokens
    rw [exec_bind, exec_issueAccessToken, exec_bind, exec_generateRefreshToken]
    simp only [hclock, huuid, hrt, hrecords, pure_eq, exec_done]
    rfl
  dsimp only
  rw [run_generateTokens, run_generateRefreshToken hdumps hanswered, hmodel]
  refine ⟨?_, fun key hkey => entries_expireKey_of_ne hkey⟩
  unfold Issuer.generateAccessToken
  rw [if_pos hsigned]

end

end MyChat.Auth
