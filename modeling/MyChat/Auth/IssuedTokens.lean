import Mathlib.Algebra.Order.Floor.Ring
import MyChat.Auth.TokenIssue

/-!
# Whether issued tokens can be used

`generate_access_token` and `generate_refresh_token` catch their own exceptions and return an empty
text, which their callers do not look at: `generate_tokens` and `refresh_access_token` report
success whatever happened. Nothing looks at the lifetimes either, and one that is missing in the
configuration is zero.

`issued_usable_iff` says when such a success is one: the tokens are then accepted at once, and the
access token names the user that it was issued for.
-/

namespace MyChat.Auth

open CommandProgram

/-! ## Access tokens -/

/-- The time has not passed the end of so many seconds, cut to whole seconds: there is at least one
second, or there is none and the time is a whole number of seconds. -/
def Lasts {T : Type} [LinearOrder T] [Ring T] [FloorRing T] (now : T) (seconds : ℤ) : Prop :=
  0 < seconds ∨ seconds = 0 ∧ (⌊now⌋ : T) = now

section
variable {T : Type} [LinearOrder T] [Ring T] [IsStrictOrderedRing T] [FloorRing T]

theorem lasts_iff {now : T} {seconds : ℤ} :
    now ≤ (⌊now + (seconds : T)⌋ : T) ↔ Lasts now seconds := by
  unfold Lasts
  rw [Int.floor_add_intCast, Int.cast_add]
  rcases lt_trichotomy seconds 0 with hneg | rfl | hpos
  · have hend : (⌊now⌋ : T) + (seconds : T) < now :=
      add_lt_of_le_of_neg (Int.floor_le now) (Int.cast_lt_zero.mpr hneg)
    exact iff_of_false (not_le.mpr hend) (by omega)
  · rw [Int.cast_zero, add_zero]
    simp only [lt_self_iff_false, true_and, false_or]
    exact ⟨fun h => le_antisymm (Int.floor_le now) h, fun h => h.ge⟩
  · have hcast : (1 : T) ≤ (seconds : T) := by exact_mod_cast hpos
    exact iff_of_true ((Int.lt_floor_add_one now).le.trans (add_le_add le_rfl hcast)) (Or.inl hpos)

variable (issuer : Issuer T) (m : Moment T) (wholeSeconds : T → ℤ) (check : ℕ → Fate) (r : Redis T)

/-- An access token is accepted at once: by `verify_access_token` with the device of whom it is for,
and by the other overload, which yields his data. -/
structure AccessUsable (who : Identity) (token : String) : Prop where
  /-- With the device id. -/
  device : (r.run wholeSeconds m.now check
    (issuer.verifyAccessTokenDevice m token who.deviceId)).1 = true
  /-- The data. -/
  info : ∃ info, (r.run wholeSeconds m.now check (issuer.verifyAccessToken m token)).1 = some info ∧
    info.userId = who.userId ∧ info.username = who.username ∧ info.deviceId = who.deviceId ∧
    info.platform = who.platform

/-- What it takes for an access token to be made and accepted. -/
structure AccessIssued (who : Identity) : Prop where
  /-- jwt-cpp signs the claims. -/
  signs : issuer.signs (issuer.accessClaims m who 0) = true
  /-- The platform's access tokens have a lifetime. -/
  lasts : Lasts m.now (getPlatformTokenConfig issuer.config who.platform).accessTokenExpireSeconds
  /-- No token with the new id was revoked. -/
  notRevoked : r.revoked.get m.now (revokedKey m.uuid) = none
  /-- Redis answers when it is asked whether the token is revoked. -/
  answered : AnsweredFrom check 0 2

variable {issuer m wholeSeconds check r}

/-- The signed claims are accepted as long as the lifetime lasts. -/
theorem timely_accessClaims (who : Identity) : (issuer.accessClaims m who 0).Timely m.now ↔
    Lasts m.now (getPlatformTokenConfig issuer.config who.platform).accessTokenExpireSeconds := by
  rw [← lasts_iff]
  constructor
  · intro h
    exact h.1 _ rfl
  · intro h
    refine ⟨fun exp hexp => ?_, fun iat hiat => ?_, fun nbf hnbf => absurd hnbf (by
      simp [Issuer.accessClaims, Auth.accessClaims])⟩
    · obtain rfl := Option.some.inj hexp
      exact h
    · obtain rfl := Option.some.inj hiat
      exact Int.floor_le m.now

section Signed

variable {who : Identity} (hsigned : issuer.jwt.Signs (issuer.accessClaims m who 0))
include hsigned

omit [IsStrictOrderedRing T] in
/-- `verify` gives the claims of a signed token as long as the lifetime lasts. -/
theorem verify_signed : issuer.jwt.verify m.now (issuer.jwt.sign (issuer.accessClaims m who 0)) =
    if (issuer.accessClaims m who 0).Timely m.now then some (issuer.accessClaims m who 0)
    else none := by
  unfold Jwt.verify
  rw [hsigned.decode_sign]
  simp only [hsigned.trusted_sign, true_and]

omit [IsStrictOrderedRing T] in
/-- A signed token counts as not revoked when its id was not revoked and Redis says so. -/
theorem isTokenRevoked_signed (revoked : TokenStore T) (redisOk : Bool) :
    isTokenRevoked issuer.jwt revoked m.now redisOk
        (issuer.jwt.sign (issuer.accessClaims m who 0)) = false ↔
      revoked.get m.now (revokedKey m.uuid) = none ∧ redisOk = true := by
  have hjti : extractJti issuer.jwt (issuer.jwt.sign (issuer.accessClaims m who 0)) = m.uuid := by
    unfold extractJti
    rw [hsigned.decode_sign]
    rfl
  unfold isTokenRevoked
  rw [hjti]
  dsimp only
  rw [if_neg m.uuid_ne]
  rcases redisOk with _ | _
  · simp
  · simp

end Signed

/-- A new access token can be used exactly when it was signed, has a lifetime, is not revoked, and
Redis answers. -/
theorem accessUsable_iff
    (hsigns : ∀ claims, issuer.signs claims = true → issuer.jwt.Signs claims) (who : Identity) :
    AccessUsable issuer m wholeSeconds check r who (issuer.generateAccessToken m who 0) ↔
      AccessIssued issuer m check r who := by
  unfold Issuer.generateAccessToken
  by_cases hsigned : issuer.signs (issuer.accessClaims m who 0) = true
  swap
  · -- Without a signature the token is empty, and is not accepted.
    rw [if_neg hsigned]
    refine iff_of_false (fun h => ?_) fun h => hsigned h.signs
    have hdevice := h.device
    rw [Redis.run, runAt] at hdevice
    exact absurd hdevice (by simp [Issuer.verifyAccessTokenDevice])
  rw [if_pos hsigned]
  have hsign := hsigns _ hsigned
  have hverify := verify_signed hsign
  have hrevoked := isTokenRevoked_signed hsign r.revoked (decide (AnsweredFrom check 0 2))
  have hne := hsign.ne_empty
  generalize issuer.jwt.sign (issuer.accessClaims m who 0) = token at hverify hrevoked hne ⊢
  have hdevice : (r.run wholeSeconds m.now check
      (issuer.verifyAccessTokenDevice m token who.deviceId)).1 = Auth.verifyAccessTokenDevice
        issuer.jwt r.revoked m.now (AnsweredFrom check 0 2) token who.deviceId :=
    exec_verifyAccessTokenDevice issuer m wholeSeconds check r 0 token who.deviceId
  have hinfo : (r.run wholeSeconds m.now check (issuer.verifyAccessToken m token)).1 =
      Auth.verifyAccessToken issuer.jwt r.revoked m.now (AnsweredFrom check 0 2) token :=
    exec_verifyAccessToken issuer m wholeSeconds check r 0 token
  constructor
  · intro h
    have haccepted := h.device
    rw [hdevice, verifyAccessTokenDevice, if_neg hne, hverify] at haccepted
    split_ifs at haccepted with htimely hblocked
    obtain ⟨hnone, hanswered⟩ := hrevoked.mp (by simpa using hblocked)
    exact ⟨hsigned, (timely_accessClaims who).mp htimely, hnone, of_decide_eq_true hanswered⟩
  · intro h
    have hblocked := hrevoked.mpr ⟨h.notRevoked, decide_eq_true h.answered⟩
    have hclaims := hverify.trans (if_pos ((timely_accessClaims who).mpr h.lasts))
    constructor
    · rw [hdevice, verifyAccessTokenDevice, if_neg hne, hclaims]
      dsimp only
      rw [hblocked]
      simp [Issuer.accessClaims, Auth.accessClaims]
    · rw [hinfo, verifyAccessToken, hclaims]
      simp [hblocked, Issuer.accessClaims, Auth.accessClaims]

end

/-! ## Refresh tokens -/

/-- A refresh token is not empty, and `verify_refresh_token` accepts it at once with the device of
whom it is for. -/
structure RefreshUsable {T : Type} [LinearOrder T] [Ring T] (m : Moment T) (wholeSeconds : T → ℤ)
    (check : ℕ → Fate) (r : Redis T) (who : Identity) (token : String) : Prop where
  /-- There is a token. -/
  ne_empty : token ≠ ""
  /-- It is accepted. -/
  verified : ∃ info, (r.run wholeSeconds m.now check
    (Issuer.verifyRefreshToken token who.deviceId)).1 = some info

/-- A refresh token that `verify_refresh_token` accepts from the device. -/
structure Presented {T : Type} [LE T] [DecidableLE T] (m : Moment T) (fate : ℕ → Fate) (r : Redis T)
    (refreshToken deviceId : String) (decode : RefreshMeta T) : Prop where
  /-- There is a token. -/
  ne_empty : refreshToken ≠ ""
  /-- Redis answers. -/
  answered : AnsweredFrom fate 0 2
  /-- The record. -/
  record : r.records.get m.now (refreshKey refreshToken) = some decode
  /-- It is for the device. -/
  device : decode.owner.deviceId = deviceId
  /-- It is not revoked. -/
  valid : decode.revoked = false

/-- A refresh token is presented for the one record that it has. -/
theorem Presented.unique {T : Type} [LE T] [DecidableLE T] {m : Moment T} {fate : ℕ → Fate}
    {r : Redis T} {refreshToken deviceId : String} {decode found : RefreshMeta T}
    (h : Presented m fate r refreshToken deviceId decode)
    (hfound : r.records.get m.now (refreshKey refreshToken) = some found) : decode = found :=
  Option.some.inj (h.record.symm.trans hfound)

/-- What it takes for a refresh token to be made and accepted. -/
structure RefreshIssued {T : Type} [Ring T] (issuer : Issuer T) (m : Moment T)
    (fate check : ℕ → Fate) (who : Identity) : Prop where
  /-- The record is written as JSON. -/
  dumps : issuer.dumps (issuer.rtMeta m who 0) = true
  /-- Redis gives a connection and does the four commands. -/
  stored : AnsweredFrom fate 0 5
  /-- The platform's refresh tokens have a lifetime. -/
  lasts : 0 < (getPlatformTokenConfig issuer.config who.platform).refreshTokenExpireSeconds
  /-- Redis answers when it is asked for the record. -/
  answered : AnsweredFrom check 0 2

section
variable {T : Type} [LinearOrder T] [Ring T] [IsStrictOrderedRing T] {issuer : Issuer T}
  {m : Moment T} {wholeSeconds : T → ℤ} {fate check : ℕ → Fate} {r : Redis T}

theorem refreshKey_ne_userTokensKey (rt userId : String) : refreshKey rt ≠ userTokensKey userId := by
  intro h
  have hfirst := congrArg (fun key => key.toList.head?) h
  simp [refreshKey, userTokensKey] at hfirst

/-- The record of a new refresh token is there as long as the lifetime of its platform is not over
at once. -/
theorem get_stored (who : Identity) :
    (issuer.stored m r who 0).records.get m.now (refreshKey m.rt) =
      if 0 < (getPlatformTokenConfig issuer.config who.platform).refreshTokenExpireSeconds then
        some (issuer.rtMeta m who 0)
      else none := by
  have hactual : actualExpireSeconds issuer.manager who.platform 0 =
      (getPlatformTokenConfig issuer.config who.platform).refreshTokenExpireSeconds := rfl
  unfold Issuer.stored
  rw [hactual]
  generalize (getPlatformTokenConfig issuer.config who.platform).refreshTokenExpireSeconds = seconds
  -- The key of the user's set is another one.
  have hother := refreshKey_ne_userTokensKey m.rt who.userId
  unfold expireKey
  by_cases hlasts : 0 < seconds
  · have hnow : m.now ≤ m.now + (seconds : T) :=
      le_add_of_nonneg_right (Int.cast_nonneg hlasts.le)
    simp only [if_neg (not_le.mpr hlasts), if_pos hlasts]
    rw [ExpiringStore.get_expire_of_ne _ _ _ _ hother, ExpiringStore.get_expire_set, if_pos hnow]
  · simp only [if_pos (not_lt.mp hlasts), if_neg hlasts]
    rw [ExpiringStore.get_del_of_ne _ _ hother]
    simp [ExpiringStore.get, ExpiringStore.del]

/-- A new refresh token can be used exactly when its record was written and lasts, and Redis gave
all replies. -/
theorem refreshUsable_iff (who : Identity) :
    RefreshUsable m wholeSeconds check
        (r.run wholeSeconds m.now fate (issuer.generateRefreshToken m who 0)).2 who
        (r.run wholeSeconds m.now fate (issuer.generateRefreshToken m who 0)).1 ↔
      RefreshIssued issuer m fate check who := by
  generalize hrun : r.run wholeSeconds m.now fate (issuer.generateRefreshToken m who 0) = out
  by_cases hmade : issuer.dumps (issuer.rtMeta m who 0) = true ∧ AnsweredFrom fate 0 5
  swap
  · -- The token is empty when anything has thrown.
    have hempty : out.1 = "" := by
      rw [← hrun]
      exact exec_generateRefreshToken_of_failed hmade
    exact iff_of_false (fun h => h.ne_empty hempty) fun h => hmade ⟨h.dumps, h.stored⟩
  have hout : out = (m.rt, issuer.stored m r who 0) := by
    rw [← hrun]
    exact run_generateRefreshToken hmade.1 hmade.2
  rw [hout]
  dsimp only
  constructor
  · intro h
    -- The record is found, and so its lifetime is not over at once.
    obtain ⟨info, hinfo⟩ := h.verified
    obtain ⟨-, hanswered, decode, hget, -⟩ := exec_verifyRefreshToken_eq_some.mp hinfo
    rw [get_stored] at hget
    split_ifs at hget with hlasts
    exact ⟨hmade.1, hmade.2, hlasts, hanswered⟩
  · intro h
    refine ⟨m.rt_ne, ?_⟩
    exact ⟨_, exec_verifyRefreshToken_eq_some.mpr ⟨m.rt_ne, h.answered, issuer.rtMeta m who 0,
      by rw [get_stored, if_pos h.lasts], rfl, rfl, rfl⟩⟩

/-! ## The two calls -/

variable [FloorRing T]

/-- What a call is to be: when `generate_tokens` reports success, its tokens can be used. -/
def GenerateUsable (issuer : Issuer T) (m : Moment T) (wholeSeconds : T → ℤ)
    (fate check : ℕ → Fate) (r : Redis T) (who : Identity) : Prop :=
  let out := r.run wholeSeconds m.now fate (issuer.generateTokens m who)
  out.1.success = true →
    AccessUsable issuer m wholeSeconds check out.2 who out.1.newAccessToken ∧
      RefreshUsable m wholeSeconds check out.2 who out.1.newRefreshToken

/-- When `refresh_access_token` reports success, its access token can be used with the device of the
call, by whom the refresh token is for. -/
def RefreshCallUsable (issuer : Issuer T) (m : Moment T) (wholeSeconds : T → ℤ)
    (fate check : ℕ → Fate) (r : Redis T) (refreshToken deviceId : String) : Prop :=
  let out := r.run wholeSeconds m.now fate (issuer.refreshAccessToken m refreshToken deviceId)
  out.1.success = true → ∃ decode, r.records.get m.now (refreshKey refreshToken) = some decode ∧
    decode.owner.deviceId = deviceId ∧
    AccessUsable issuer m wholeSeconds check out.2 decode.owner out.1.newAccessToken

omit [IsStrictOrderedRing T] in
/-- The condition for an access token is about the tokens that were revoked, and about nothing else
in Redis. -/
theorem accessIssued_congr {r' : Redis T} (hrevoked : r'.revoked = r.revoked) (who : Identity) :
    AccessIssued issuer m check r' who ↔ AccessIssued issuer m check r who := by
  constructor
  · intro h
    exact ⟨h.signs, h.lasts, by rw [← hrevoked]; exact h.notRevoked, h.answered⟩
  · intro h
    exact ⟨h.signs, h.lasts, by rw [hrevoked]; exact h.notRevoked, h.answered⟩

/-- The tokens of `generate_tokens` can be used exactly when both were made and accepted. -/
theorem generateUsable_iff
    (hsigns : ∀ claims, issuer.signs claims = true → issuer.jwt.Signs claims) (who : Identity) :
    GenerateUsable issuer m wholeSeconds fate check r who ↔
      AccessIssued issuer m check r who ∧ RefreshIssued issuer m fate check who := by
  have hrevoked : (r.run wholeSeconds m.now fate
      (issuer.generateRefreshToken m who 0)).2.revoked = r.revoked := revoked_exec _ (r, 0)
  unfold GenerateUsable
  rw [run_generateTokens]
  dsimp only
  rw [accessUsable_iff hsigns, refreshUsable_iff, accessIssued_congr hrevoked]
  exact ⟨fun h => h rfl, fun h _ => h⟩

omit [IsStrictOrderedRing T] [FloorRing T] in
/-- What `verify_refresh_token` returns is the record of a token that is presented. -/
theorem exec_verifyRefreshToken_eq_some_iff_presented {refreshToken deviceId : String}
    {info : RefreshTokenInfo T} :
    (execFate (perform wholeSeconds m.now) fate
        (Issuer.verifyRefreshToken refreshToken deviceId) (r, 0)).1 = some info ↔
      ∃ decode, Presented m fate r refreshToken deviceId decode ∧
        decode.toRefreshTokenInfo = info := by
  rw [exec_verifyRefreshToken_eq_some]
  constructor
  · rintro ⟨hne, hanswered, decode, hget, hdevice, hvalid, hinfo⟩
    exact ⟨decode, ⟨hne, hanswered, hget, hdevice, hvalid⟩, hinfo⟩
  · rintro ⟨decode, ⟨hne, hanswered, hget, hdevice, hvalid⟩, hinfo⟩
    exact ⟨hne, hanswered, decode, hget, hdevice, hvalid, hinfo⟩

omit [IsStrictOrderedRing T] in
/-- `refresh_access_token` with a refresh token that is not presented fails. -/
theorem run_refreshAccessToken_of_not {refreshToken deviceId : String}
    (hnot : ∀ decode, ¬ Presented m fate r refreshToken deviceId decode) :
    (r.run wholeSeconds m.now fate
      (issuer.refreshAccessToken m refreshToken deviceId)).1.success = false := by
  have hnone : (execFate (perform wholeSeconds m.now) fate
      (Issuer.verifyRefreshToken refreshToken deviceId) (r, 0)).1 = none := by
    rw [Option.eq_none_iff_forall_ne_some]
    intro info hinfo
    obtain ⟨decode, hpresented, -⟩ := exec_verifyRefreshToken_eq_some_iff_presented.mp hinfo
    exact hnot decode hpresented
  unfold Redis.run runAt Issuer.refreshAccessToken
  rw [exec_bind, hnone]
  rfl

variable (issuer wholeSeconds) in
omit [IsStrictOrderedRing T] in
/-- `refresh_access_token` with a refresh token that is presented returns a new access token. -/
theorem run_refreshAccessToken_of_presented {refreshToken deviceId : String} {decode : RefreshMeta T}
    (h : Presented m fate r refreshToken deviceId decode) :
    (r.run wholeSeconds m.now fate
        (issuer.refreshAccessToken m refreshToken deviceId)).1.success = true ∧
      (r.run wholeSeconds m.now fate
        (issuer.refreshAccessToken m refreshToken deviceId)).1.newAccessToken =
          issuer.generateAccessToken m decode.owner 0 := by
  have hsome : (execFate (perform wholeSeconds m.now) fate
      (Issuer.verifyRefreshToken refreshToken deviceId) (r, 0)).1 = some decode.toRefreshTokenInfo :=
    exec_verifyRefreshToken_eq_some_iff_presented.mpr ⟨decode, h, rfl⟩
  unfold Redis.run runAt Issuer.refreshAccessToken
  rw [exec_bind, hsome]
  exact (returns_refreshVerified refreshToken decode.toRefreshTokenInfo).exec

/-- The access token of `refresh_access_token` can be used exactly when the refresh token was not
accepted, so that there is none, or it was made and accepted. -/
theorem refreshCallUsable_iff
    (hsigns : ∀ claims, issuer.signs claims = true → issuer.jwt.Signs claims)
    (refreshToken deviceId : String) :
    RefreshCallUsable issuer m wholeSeconds fate check r refreshToken deviceId ↔
      ∀ decode, Presented m fate r refreshToken deviceId decode →
        AccessIssued issuer m check r decode.owner := by
  have hrevoked : (r.run wholeSeconds m.now fate
      (issuer.refreshAccessToken m refreshToken deviceId)).2.revoked = r.revoked :=
    revoked_exec _ (r, 0)
  unfold RefreshCallUsable
  by_cases hnot : ∀ decode, ¬ Presented m fate r refreshToken deviceId decode
  · -- The refresh token is not accepted, and the call reports a failure.
    refine iff_of_true (fun h => ?_) fun decode hpresented => absurd hpresented (hnot decode)
    rw [run_refreshAccessToken_of_not hnot] at h
    exact absurd h (by decide)
  · push Not at hnot
    obtain ⟨decode, hpresented⟩ := hnot
    -- It is accepted: there is one record of it, whose owner the new access token is for.
    obtain ⟨hsuccess, htoken⟩ :=
      run_refreshAccessToken_of_presented issuer wholeSeconds hpresented
    dsimp only
    rw [hsuccess, htoken]
    constructor
    · intro h other hother
      obtain ⟨found, hfound, -, husable⟩ := h rfl
      obtain rfl := hother.unique hfound
      obtain rfl := hpresented.unique hfound
      exact (accessIssued_congr hrevoked _).mp ((accessUsable_iff hsigns _).mp husable)
    · intro h _
      exact ⟨decode, hpresented.record, hpresented.device, (accessUsable_iff hsigns _).mpr
        ((accessIssued_congr hrevoked _).mpr (h decode hpresented))⟩

variable (issuer m wholeSeconds fate check r) in
/-- The tokens of a call that reports success can be used at once exactly when

- `generate_tokens`: the claims were signed and the record was written, by Redis throughout; both
  lifetimes of the platform are there; the new id was not revoked; and Redis answers when the tokens
  are verified;
- `refresh_access_token`: the same of its access token, for the owner of the refresh token, if that
  was accepted. -/
theorem issued_usable_iff
    (hsigns : ∀ claims, issuer.signs claims = true → issuer.jwt.Signs claims) :
    (∀ who, GenerateUsable issuer m wholeSeconds fate check r who ↔
      AccessIssued issuer m check r who ∧ RefreshIssued issuer m fate check who) ∧
    ∀ refreshToken deviceId,
      RefreshCallUsable issuer m wholeSeconds fate check r refreshToken deviceId ↔
        ∀ decode, Presented m fate r refreshToken deviceId decode →
          AccessIssued issuer m check r decode.owner :=
  ⟨generateUsable_iff hsigns, refreshCallUsable_iff hsigns⟩

end

/-! ## Alice's tokens -/

/-- A manager whose libraries do not throw, with this configuration. -/
def sturdyIssuer (config : String → Option ℤ) : Issuer ℤ where
  jwt := numberedJwt
  signs _ := true
  dumps _ := true
  config := config
  belowPercentage _ _ := false

/-- The moment of a call. -/
def someMoment : Moment ℤ where
  now := 1000
  uuid := "0f8b6c1e-3a52-4d0c-9a51-7d2f5f0f6a11"
  uuid_length := by decide
  rt := "q3Zk8PpX0vLw5TtYb1NcR7aSdF9gHj-0"
  rt_length := by decide

/-- Redis without a key. -/
def emptyRedis : Redis ℤ where
  records := ExpiringStore.empty
  revoked := ExpiringStore.empty

/-- With an hour for every token and a Redis that answers, Alice can use her tokens. -/
theorem issued_usable_alice :
    GenerateUsable (sturdyIssuer fun _ => some 3600) someMoment id (fun _ => .answered)
      (fun _ => .answered) emptyRedis aliceOnPhone := by
  have husable := (issued_usable_iff (sturdyIssuer fun _ => some 3600) someMoment id
    (fun _ => .answered) (fun _ => .answered) emptyRedis fun claims _ => numberedJwt_signs claims).1
  refine (husable aliceOnPhone).mpr ⟨⟨rfl, Or.inl (by decide +kernel), rfl, fun _ _ => rfl⟩, ?_⟩
  exact ⟨rfl, fun _ _ => rfl, by decide +kernel, fun _ _ => rfl⟩

/-- `generate_tokens` reports success, and the tokens cannot be used: with a Redis that cannot be
reached, and with a configuration that is empty. -/
theorem unusable_reported :
    ¬ GenerateUsable (sturdyIssuer fun _ => some 3600) someMoment id (fun _ => .refused)
      (fun _ => .answered) emptyRedis aliceOnPhone ∧
    ¬ GenerateUsable (sturdyIssuer fun _ => none) someMoment id (fun _ => .answered)
      (fun _ => .answered) emptyRedis aliceOnPhone := by
  constructor
  · intro h
    have hissued := ((generateUsable_iff fun claims _ => numberedJwt_signs claims) _).mp h
    exact absurd (hissued.2.stored 0 (by decide)) (by decide)
  · intro h
    have hissued := ((generateUsable_iff fun claims _ => numberedJwt_signs claims) _).mp h
    exact absurd hissued.2.lasts (by decide +kernel)

end MyChat.Auth
