import Mathlib.Algebra.Order.Floor.Defs
import MyChat.Lib.ExpiringStore
import MyChat.Lib.Run

/-!
# Access tokens

The access tokens of `gateway/auth/multi_platform_auth.cpp`: `generate_access_token`, the two
overloads of `verify_access_token`, `is_token_revoked`, `revoke_token`, and `unrevoke_token`.

Times are seconds since the epoch in any ordered ring with a floor, so that the clock of the program
and of Redis is the reals or any finer or coarser clock. jwt-cpp is a `Jwt`, the part of it that
signs and checks under the manager's secret; that `verify` accepts a token from its `iat` and `nbf`
up to its `exp` is part of the model. A Redis command does its work or throws, as the flags that
each call is given say, and a key is there up to its deadline.
-/

namespace MyChat.Auth

/-! ## Platforms -/

/-- `PlatformType`. -/
inductive PlatformType where
  /-- `UNKNOWN`. -/
  | unknown
  /-- `WEB`. -/
  | web
  /-- `MiniApp`. -/
  | miniApp
  /-- `IOS`. -/
  | ios
  /-- `ANDROID`. -/
  | android
  /-- `DESKTOP`. -/
  | desktop
  /-- `MOBILE`. -/
  | mobile
  deriving DecidableEq, Repr

/-- `get_platform_type`. -/
def getPlatformType (platformStr : String) : PlatformType :=
  if platformStr ∈ ["web", "Web", "WEB"] then .web
  else if platformStr ∈ ["miniapp", "mini_app", "Miniapp", "MiniApp", "MINIAPP"] then .miniApp
  else if platformStr ∈ ["ios", "iOS", "IOS"] then .ios
  else if platformStr ∈ ["android", "Android", "ANDROID"] then .android
  else if platformStr ∈ ["desktop", "Desktop", "DESKTOP"] then .desktop
  else if platformStr ∈ ["mobile", "Mobile", "MOBILE"] then .mobile
  else .unknown

/-- `access_token_expire_seconds` of each platform's configuration. -/
abbrev AccessTokenConfig := PlatformType → ℤ

/-! ## JSON Web Tokens -/

/-- The claims of a token that the program reads; `none` where a getter throws, because the claim is
absent or of another type. -/
structure Claims where
  /-- `get_id()`. -/
  jti : Option String
  /-- `get_subject()`. -/
  sub : Option String
  /-- `get_issued_at()`, in seconds. -/
  iat : Option ℤ
  /-- `get_not_before()`, in seconds. -/
  nbf : Option ℤ
  /-- `get_expires_at()`, in seconds. -/
  exp : Option ℤ
  /-- The claim `username`. -/
  username : Option String
  /-- The claim `device_id`. -/
  deviceId : Option String
  /-- The claim `platform`. -/
  platform : Option String
  deriving DecidableEq, Repr

/-- jwt-cpp with the manager's secret. -/
structure Jwt where
  /-- `sign`, for the issuer `mychat-gateway`, the audience `mychat-client`, and the type `access`.
  -/
  sign : Claims → String
  /-- `jwt::decode`; `none` when it throws. -/
  decode : String → Option Claims
  /-- The algorithm is HS256, the signature is valid under the secret, and the issuer and the
  audience are those of the verifier. -/
  trusted : String → Bool

/-- A token that was signed is not empty, decodes to its claims, and is trusted. -/
structure Jwt.Signs (jwt : Jwt) (claims : Claims) : Prop where
  /-- The token is not empty. -/
  ne_empty : jwt.sign claims ≠ ""
  /-- `decode` gives the claims back. -/
  decode_sign : jwt.decode (jwt.sign claims) = some claims
  /-- The token is trusted. -/
  trusted_sign : jwt.trusted (jwt.sign claims) = true

section
variable {T : Type} [LinearOrder T] [Ring T] [FloorRing T]

/-- The times at which `verify` accepts the claims, without leeway: not before `iat` and `nbf`, and
not after `exp`, where they are set. -/
def Claims.Timely (claims : Claims) (now : T) : Prop :=
  (∀ exp ∈ claims.exp, now ≤ (exp : T)) ∧ (∀ iat ∈ claims.iat, (iat : T) ≤ now) ∧
    ∀ nbf ∈ claims.nbf, (nbf : T) ≤ now

instance (claims : Claims) (now : T) : Decidable (claims.Timely now) :=
  inferInstanceAs (Decidable (_ ∧ _ ∧ _))

/-- `jwt::decode` and then `verifier.verify`; `none` when one of them throws. -/
def Jwt.verify (jwt : Jwt) (now : T) (token : String) : Option Claims :=
  match jwt.decode token with
  | none => none
  | some claims => if jwt.trusted token ∧ claims.Timely now then some claims else none

/-! ## The manager -/

/-- The claims that `generate_access_token` sets; a date is truncated to seconds. -/
def accessClaims (config : AccessTokenConfig) (now : T) (jti userId username deviceId platform :
    String) (expireSeconds : ℤ) : Claims where
  jti := some jti
  sub := some userId
  iat := some ⌊now⌋
  nbf := none
  exp := some ⌊now + ((if expireSeconds > 0 then expireSeconds
    else config (getPlatformType platform) : ℤ) : T)⌋
  username := some username
  deviceId := some deviceId
  platform := some platform

/-- `generate_access_token`; `jti` is the text of the new UUID. -/
def generateAccessToken (jwt : Jwt) (config : AccessTokenConfig) (now : T)
    (jti userId username deviceId platform : String) (expireSeconds : ℤ) : String :=
  jwt.sign (accessClaims config now jti userId username deviceId platform expireSeconds)

/-- The keys of Redis that the manager writes for access tokens. -/
abbrev TokenStore (T : Type) := ExpiringStore String String T

/-- `extract_jti`. -/
def extractJti (jwt : Jwt) (token : String) : String :=
  match jwt.decode token with
  | none => ""
  | some claims => claims.jti.getD ""

/-- The key of a token that was revoked. -/
def revokedKey (jti : String) : String := "revoked_access_token:" ++ jti

/-- `is_token_revoked`: a token without an id is not, and a command that throws counts as `true`. -/
def isTokenRevoked (jwt : Jwt) (st : TokenStore T) (now : T) (redisOk : Bool) (token : String) :
    Bool :=
  let jti := extractJti jwt token
  if jti = "" then false
  -- `catch (...)` of `is_token_revoked`.
  else if redisOk then (st.get now (revokedKey jti)).isSome
  else true

/-- `UserTokenInfo`. -/
structure UserTokenInfo where
  /-- `user_id`. -/
  userId : String
  /-- `username`. -/
  username : String
  /-- `device_id`. -/
  deviceId : String
  /-- `platform`. -/
  platform : String
  /-- `create_time`. -/
  createTime : ℤ
  /-- `expire_time`. -/
  expireTime : ℤ
  deriving DecidableEq, Repr

/-- `verify_access_token` with a `UserTokenInfo`; `none` when it returns `false`. -/
def verifyAccessToken (jwt : Jwt) (st : TokenStore T) (now : T) (redisOk : Bool)
    (accessToken : String) : Option UserTokenInfo := do
  let decoded ← jwt.verify now accessToken
  if isTokenRevoked jwt st now redisOk accessToken then none
  else
    return ⟨← decoded.sub, ← decoded.username, ← decoded.deviceId, ← decoded.platform,
      ← decoded.iat, ← decoded.exp⟩

/-- `verify_access_token` with a device id. -/
def verifyAccessTokenDevice (jwt : Jwt) (st : TokenStore T) (now : T) (redisOk : Bool)
    (accessToken deviceId : String) : Bool :=
  -- The overload checks for the empty token itself; the other one leaves that to `decode`.
  if accessToken = "" then false
  else
    match jwt.verify now accessToken with
    | none => false
    | some decoded =>
      if isTokenRevoked jwt st now redisOk accessToken then false
      else decoded.deviceId = some deviceId

/-- `static_cast<int>` of a 64-bit count. -/
def toInt (count : ℤ) : ℤ := count.bmod (2 ^ 32)

/-- The `ttl` of `revoke_token`: `duration_cast<seconds>` truncates the time that is left. -/
def revokedTtl (exp : ℤ) (now : T) : ℤ :=
  if (exp : T) > now then toInt ⌊(exp : T) - now⌋ else 0

/-- `revoke_token`: its result, and Redis after. -/
def revokeToken (jwt : Jwt) (st : TokenStore T) (now : T) (setOk expireOk : Bool) (token : String) :
    Bool × TokenStore T :=
  let jti := extractJti jwt token
  if jti = "" then (false, st)
  else
    -- `get_expires_at` throws when there is no `exp`, and `catch (...)` returns `false`.
    match (jwt.decode token).bind Claims.exp with
    | none => (false, st)
    | some exp =>
      let ttl := revokedTtl exp now
      if ¬ setOk then (false, st)
      else
        -- `set` takes a deadline of an earlier revocation away.
        let st := st.set (revokedKey jti) "1"
        if ttl > 0 then
          if expireOk then (true, st.expire now (revokedKey jti) (ttl : T)) else (false, st)
        else (true, st)

/-- `unrevoke_token`: its result, and Redis after. -/
def unrevokeToken (jwt : Jwt) (st : TokenStore T) (redisOk : Bool) (token : String) :
    Bool × TokenStore T :=
  let jti := extractJti jwt token
  if jti = "" then (false, st)
  else if redisOk then (true, st.del (revokedKey jti))
  else (false, st)

end

end MyChat.Auth
