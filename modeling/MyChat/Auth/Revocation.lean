import Mathlib.Algebra.Order.Archimedean.Real.Basic
import MyChat.Auth.MultiPlatformAuth

/-!
# Revoked access tokens

`revoke_token` writes the key `revoked_access_token:<jti>` and lets it expire after the seconds that
the token has left, truncated, so that the key may be gone up to a second before the token is. In
that time the token is accepted again (`revoked_token_accepted`). The key stays long enough exactly
when no fraction is cut off, or when no expiry is set at all because less than a second is left or
because the seconds do not fit `int`: `revocation_effective_iff`.
-/

namespace MyChat.Auth

open Run

/-- A call that writes or deletes the key of a token. -/
inductive TokenOp where
  /-- `revoke_token`. -/
  | revoke (token : String) (now : ℝ) (setOk expireOk : Bool)
  /-- `unrevoke_token`. -/
  | unrevoke (token : String) (redisOk : Bool)

/-- The token that a call is about. -/
def TokenOp.token : TokenOp → String
  | .revoke token _ _ _ => token
  | .unrevoke token _ => token

/-- Redis after a call. -/
noncomputable def tokenStep (jwt : Jwt) (st : TokenStore ℝ) : TokenOp → TokenStore ℝ
  | .revoke token now setOk expireOk => (revokeToken jwt st now setOk expireOk token).2
  | .unrevoke token redisOk => (unrevokeToken jwt st redisOk token).2

/-- Both overloads of `verify_access_token` reject the token, for every device id, and whether or
not Redis answers. -/
def Rejected (jwt : Jwt) (st : TokenStore ℝ) (time : ℝ) (token : String) : Prop :=
  ∀ redisOk, verifyAccessToken jwt st time redisOk token = none ∧
    ∀ deviceId, verifyAccessTokenDevice jwt st time redisOk token deviceId = false

/-- The condition on the time of a revocation: less than a second is left, or a whole number of
seconds that `int` holds, or a number whose whole seconds become zero or negative as an `int`. -/
def NothingCutOff (exp : ℤ) (now : ℝ) : Prop :=
  (exp : ℝ) - now < 1 ∨ ((∃ n : ℤ, (exp : ℝ) - now = n) ∧ (exp : ℝ) - now < 2 ^ 31) ∨
    toInt ⌊(exp : ℝ) - now⌋ ≤ 0

/-! ## The time to live -/

theorem toInt_lt (count : ℤ) : toInt count < 2 ^ 31 := by
  unfold toInt Int.bmod
  dsimp only
  split_ifs <;> omega

/-- A count that fits `int` is kept. -/
theorem toInt_of_lt {count : ℤ} (h0 : 0 ≤ count) (h : count < 2 ^ 31) : toInt count = count := by
  -- `bmod` is the remainder in the signed range, which a count below `2^31` is in.
  unfold toInt Int.bmod
  dsimp only
  split_ifs <;> omega

/-- The key of a token that is revoked outlives the token exactly when no fraction is cut off. -/
theorem nothingCutOff_iff (exp : ℤ) (now : ℝ) :
    NothingCutOff exp now ↔
      revokedTtl exp now ≤ 0 ∨ (exp : ℝ) ≤ now + (revokedTtl exp now : ℝ) := by
  -- `⌊exp - now⌋ ≤ exp - now < ⌊exp - now⌋ + 1` is all that is used of the floor.
  have hfloor := Int.floor_le ((exp : ℝ) - now)
  have hlt := Int.lt_floor_add_one ((exp : ℝ) - now)
  by_cases hshort : (exp : ℝ) - now < 1
  · -- Less than a second is left: `ttl` is zero.
    refine iff_of_true (Or.inl hshort) (Or.inl ?_)
    unfold revokedTtl
    split_ifs with hpos
    · have hzero : ⌊(exp : ℝ) - now⌋ = 0 :=
        Int.floor_eq_zero_iff.mpr ⟨by linarith, hshort⟩
      rw [hzero]
      decide
    · exact le_rfl
  · -- From here on at least one second is left, and `ttl` is the cast of the floor.
    have hone : 1 ≤ ⌊(exp : ℝ) - now⌋ := Int.le_floor.mpr (by push_cast; linarith)
    have hpos : (exp : ℝ) > now := by linarith
    rw [revokedTtl, if_pos hpos]
    unfold NothingCutOff
    by_cases hfits : ⌊(exp : ℝ) - now⌋ < 2 ^ 31
    · rw [toInt_of_lt (by omega) hfits]
      constructor
      · rintro (h | ⟨⟨n, hn⟩, -⟩ | h)
        · exact absurd h hshort
        · rw [hn, Int.floor_intCast, ← hn]
          exact Or.inr (by linarith)
        · exact Or.inl h
      · rintro (h | h)
        · exact Or.inr (Or.inr h)
        · have heq : (exp : ℝ) - now = (⌊(exp : ℝ) - now⌋ : ℤ) := by linarith
          refine Or.inr (Or.inl ⟨⟨_, heq⟩, ?_⟩)
          rw [heq]
          exact_mod_cast hfits
    · -- The seconds do not fit: `ttl` is not positive, or too small.
      have hbig : (2 : ℝ) ^ 31 ≤ ⌊(exp : ℝ) - now⌋ := by exact_mod_cast not_lt.mp hfits
      have hsmall : (toInt ⌊(exp : ℝ) - now⌋ : ℝ) < 2 ^ 31 := by
        exact_mod_cast toInt_lt ⌊(exp : ℝ) - now⌋
      constructor
      · rintro (h | ⟨-, h⟩ | h)
        · exact absurd h hshort
        · linarith
        · exact Or.inl h
      · rintro (h | h)
        · exact Or.inr (Or.inr h)
        · linarith

/-! ## The key -/

@[simp] theorem revokedKey_inj {a b : String} : revokedKey a = revokedKey b ↔ a = b := by
  unfold revokedKey
  constructor
  · intro h
    have hlist := congrArg String.toList h
    rw [String.toList_append, String.toList_append] at hlist
    exact String.toList_inj.mp (List.append_cancel_left hlist)
  · rintro rfl
    rfl

section
variable {jwt : Jwt} {st : TokenStore ℝ} {token jti : String} {claims : Claims} {exp : ℤ}

/-- The key is there until the token expires. -/
def Blocks (st : TokenStore ℝ) (jti : String) (exp : ℤ) : Prop :=
  ∀ time : ℝ, time ≤ exp → (st.get time (revokedKey jti)).isSome = true

/-- What `revoke_token` does: nothing, or it sets the key, for ever or for a positive `ttl`. When
`expire` throws, the key is set for ever and the result is `false`. -/
theorem revokeToken_cases (jwt : Jwt) (st : TokenStore ℝ) (now : ℝ) (setOk expireOk : Bool)
    (token : String) :
    revokeToken jwt st now setOk expireOk token = (false, st) ∨
    revokeToken jwt st now setOk expireOk token =
      (false, st.set (revokedKey (extractJti jwt token)) "1") ∨
    ∃ exp, (jwt.decode token).bind Claims.exp = some exp ∧
      ((revokedTtl exp now ≤ 0 ∧ revokeToken jwt st now setOk expireOk token =
          (true, st.set (revokedKey (extractJti jwt token)) "1")) ∨
        (0 < revokedTtl exp now ∧ revokeToken jwt st now setOk expireOk token =
          (true, (st.set (revokedKey (extractJti jwt token)) "1").expire now
            (revokedKey (extractJti jwt token)) (revokedTtl exp now : ℝ)))) := by
  unfold revokeToken
  -- A token that does not decode, or has no `exp`, makes the call throw before it writes.
  rcases hexp : (jwt.decode token).bind Claims.exp with _ | exp
  · dsimp only
    split_ifs <;> exact Or.inl rfl
  · dsimp only
    split_ifs with hjti hset httl
    · exact Or.inl rfl
    · exact Or.inr (Or.inr ⟨exp, rfl, Or.inr ⟨httl, rfl⟩⟩)
    · exact Or.inr (Or.inl rfl)
    · exact Or.inr (Or.inr ⟨exp, rfl, Or.inl ⟨not_lt.mp httl, rfl⟩⟩)
    · exact Or.inl rfl

/-- A revocation that returns `true` leaves the key for its `ttl`, or for ever. -/
theorem get_revokeToken {now : ℝ} {setOk expireOk : Bool} (hjti : extractJti jwt token = jti)
    (hexp : (jwt.decode token).bind Claims.exp = some exp)
    (h : (revokeToken jwt st now setOk expireOk token).1 = true) (time : ℝ) :
    (revokeToken jwt st now setOk expireOk token).2.get time (revokedKey jti) =
      if revokedTtl exp now ≤ 0 ∨ time ≤ now + (revokedTtl exp now : ℝ) then some "1"
      else none := by
  subst hjti
  rcases revokeToken_cases jwt st now setOk expireOk token with heq | heq |
    ⟨exp', hexp', ⟨httl, heq⟩ | ⟨httl, heq⟩⟩
  · rw [heq] at h
    exact absurd h Bool.false_ne_true
  · rw [heq] at h
    exact absurd h Bool.false_ne_true
  · obtain rfl := Option.some.inj (hexp.symm.trans hexp')
    rw [heq, if_pos (Or.inl httl), ExpiringStore.get_set_self]
  · obtain rfl := Option.some.inj (hexp.symm.trans hexp')
    rw [heq, ExpiringStore.get_expire_set]
    simp only [not_le.mpr httl, false_or]

/-- A call for another token leaves the key as it is. -/
theorem get_tokenStep_of_ne {op : TokenOp} (h : extractJti jwt op.token ≠ jti) (time : ℝ) :
    (tokenStep jwt st op).get time (revokedKey jti) = st.get time (revokedKey jti) := by
  -- Keys of different ids differ, so that each command leaves this one alone.
  have hkey : revokedKey jti ≠ revokedKey (extractJti jwt op.token) :=
    fun heq => h (revokedKey_inj.mp heq).symm
  rcases op with ⟨token, now, setOk, expireOk⟩ | ⟨token, redisOk⟩
  · simp only [TokenOp.token] at hkey
    rw [tokenStep]
    rcases revokeToken_cases jwt st now setOk expireOk token with heq | heq |
      ⟨exp, -, ⟨-, heq⟩ | ⟨-, heq⟩⟩
    · rw [heq]
    · rw [heq, ExpiringStore.get_set_of_ne _ _ _ hkey]
    · rw [heq, ExpiringStore.get_set_of_ne _ _ _ hkey]
    · rw [heq, ExpiringStore.get_expire_of_ne _ _ _ _ hkey, ExpiringStore.get_set_of_ne _ _ _ hkey]
  · simp only [TokenOp.token] at hkey
    unfold tokenStep unrevokeToken
    dsimp only
    split_ifs
    · rfl
    · rw [ExpiringStore.get_del_of_ne _ _ hkey]
    · rfl

/-- A revocation that cuts nothing off leaves the key until the token expires. -/
theorem blocks_revokeToken {now : ℝ} {setOk expireOk : Bool} (hjti : extractJti jwt token = jti)
    (hexp : (jwt.decode token).bind Claims.exp = some exp) (hcut : NothingCutOff exp now)
    (h : (revokeToken jwt st now setOk expireOk token).1 = true) :
    Blocks (revokeToken jwt st now setOk expireOk token).2 jti exp := by
  intro time htime
  rw [get_revokeToken hjti hexp h, if_pos]
  · rfl
  · rcases (nothingCutOff_iff exp now).mp hcut with hforever | hlong
    · exact Or.inl hforever
    · exact Or.inr (htime.trans hlong)

/-- A call between the revocation and the check: one for another token, or a revocation of the token
itself that cuts nothing off. -/
def Harmless (jwt : Jwt) (token : String) (exp : ℤ) (op : TokenOp) : Prop :=
  extractJti jwt op.token ≠ extractJti jwt token ∨
    ∃ now setOk expireOk, op = .revoke token now setOk expireOk ∧ NothingCutOff exp now

/-- Such a call leaves the key until the token expires. -/
theorem blocks_tokenStep (hexp : (jwt.decode token).bind Claims.exp = some exp) {op : TokenOp}
    (hop : Harmless jwt token exp op) (h : Blocks st (extractJti jwt token) exp) :
    Blocks (tokenStep jwt st op) (extractJti jwt token) exp := by
  rcases hop with hother | ⟨now, setOk, expireOk, rfl, hcut⟩
  · intro time htime
    rw [get_tokenStep_of_ne hother]
    exact h time htime
  · rw [tokenStep]
    rcases hresult : (revokeToken jwt st now setOk expireOk token).1 with _ | _
    · -- It failed: the key is as it was, or set for ever.
      rcases revokeToken_cases jwt st now setOk expireOk token with heq | heq |
        ⟨exp', -, ⟨-, heq⟩ | ⟨-, heq⟩⟩
      · rw [heq]
        exact h
      · intro time _
        rw [heq, ExpiringStore.get_set_self]
        rfl
      · rw [heq] at hresult
        exact absurd hresult.symm Bool.false_ne_true
      · rw [heq] at hresult
        exact absurd hresult.symm Bool.false_ne_true
    · exact blocks_revokeToken rfl hexp hcut hresult

/-- A run of such calls leaves the key until the token expires. -/
theorem blocks_run (hexp : (jwt.decode token).bind Claims.exp = some exp) {ops : List TokenOp}
    (hops : ∀ op ∈ ops, Harmless jwt token exp op) (h : Blocks st (extractJti jwt token) exp) :
    Blocks (run (tokenStep jwt) st ops) (extractJti jwt token) exp := by
  induction ops using List.reverseRecOn with
  | nil => exact h
  | append_singleton ops op ih =>
    rw [run_concat]
    refine blocks_tokenStep hexp (hops op (by simp)) (ih fun other hother => ?_)
    exact hops other (List.mem_append_left _ hother)

/-! ## Verification -/

/-- A token is rejected when its key is there or when it has expired. -/
theorem rejected_of_blocks (hjti : extractJti jwt token ≠ "")
    (hexp : (jwt.decode token).bind Claims.exp = some exp)
    (h : Blocks st (extractJti jwt token) exp) (time : ℝ) : Rejected jwt st time token := by
  intro redisOk
  -- Either the verifier throws or the key is there.
  have hcases : jwt.verify time token = none ∨ isTokenRevoked jwt st time redisOk token = true := by
    rcases le_or_gt time exp with hle | hgt
    · refine Or.inr ?_
      unfold isTokenRevoked
      dsimp only
      rw [if_neg hjti, h time hle]
      split_ifs <;> rfl
    · refine Or.inl ?_
      obtain ⟨claims, hdecode, hclaims⟩ := Option.bind_eq_some_iff.mp hexp
      unfold Jwt.verify
      rw [hdecode]
      exact if_neg fun hverify => absurd (hverify.2.1 exp hclaims) (not_le.mpr hgt)
  unfold verifyAccessToken verifyAccessTokenDevice
  rcases hcases with hnone | hrevoked
  · rw [hnone]
    exact ⟨rfl, fun deviceId => by simp⟩
  · rw [hrevoked]
    refine ⟨?_, fun deviceId => ?_⟩
    · rcases jwt.verify time token with _ | claims <;> rfl
    · rcases jwt.verify time token with _ | claims <;> simp

end

/-- The token is one that `generate_access_token` returned at the time `now` or before, and `exp` is
the second in which it expires. -/
def AccessToken (jwt : Jwt) (config : AccessTokenConfig) (now : ℝ) (token : String) (exp : ℤ) :
    Prop :=
  ∃ (issuedAt : ℝ) (jti userId username deviceId platform : String) (expireSeconds : ℤ),
    issuedAt ≤ now ∧ jti ≠ "" ∧
    jwt.Signs (accessClaims config issuedAt jti userId username deviceId platform expireSeconds) ∧
    token = generateAccessToken jwt config issuedAt jti userId username deviceId platform
      expireSeconds ∧
    (accessClaims config issuedAt jti userId username deviceId platform expireSeconds).exp = some exp

section
variable {jwt : Jwt} {config : AccessTokenConfig} {st : TokenStore ℝ} {now : ℝ} {token : String}
  {exp : ℤ}

/-- An access token has an id and an expiry. -/
theorem AccessToken.decoded (h : AccessToken jwt config now token exp) :
    extractJti jwt token ≠ "" ∧ (jwt.decode token).bind Claims.exp = some exp := by
  obtain ⟨issuedAt, jti, userId, username, deviceId, platform, expireSeconds, -, hjti, hsigns, rfl,
    hexp⟩ := h
  unfold extractJti generateAccessToken
  rw [hsigns.decode_sign]
  exact ⟨hjti, hexp⟩

/-- When Redis answers, `revoke_token` returns `true` on an access token. -/
theorem AccessToken.revoked (h : AccessToken jwt config now token exp) (time : ℝ) :
    (revokeToken jwt st time true true token).1 = true := by
  unfold revokeToken
  simp only [if_neg h.decoded.1, h.decoded.2]
  split_ifs <;> first | rfl | contradiction

/-- An access token whose key is gone is accepted by both overloads up to the second in which it
expires. -/
theorem AccessToken.accepted (h : AccessToken jwt config now token exp) {time : ℝ}
    (hnow : now ≤ time) (htime : time ≤ exp)
    (hget : st.get time (revokedKey (extractJti jwt token)) = none) :
    ∃ user, verifyAccessToken jwt st time true token = some user ∧
      verifyAccessTokenDevice jwt st time true token user.deviceId = true := by
  have hrevoked : isTokenRevoked jwt st time true token = false := by
    unfold isTokenRevoked
    simp only [if_neg h.decoded.1, hget]
    rfl
  obtain ⟨issuedAt, jti, userId, username, deviceId, platform, expireSeconds, hissued, -, hsigns,
    rfl, hexp⟩ := h
  -- The token was issued before `now`, has no `nbf`, and is not past its `exp`.
  have htimely : (accessClaims config issuedAt jti userId username deviceId platform
      expireSeconds).Timely time := by
    refine ⟨fun e he => ?_, fun iat hiat => ?_, fun nbf hnbf => ?_⟩
    · obtain rfl := Option.some.inj (hexp.symm.trans he)
      exact htime
    · obtain rfl := Option.some.inj hiat
      exact (Int.floor_le issuedAt).trans (hissued.trans hnow)
    · exact absurd hnbf (by simp [accessClaims])
  have hverify : jwt.verify time (generateAccessToken jwt config issuedAt jti userId username
      deviceId platform expireSeconds) = some (accessClaims config issuedAt jti userId username
        deviceId platform expireSeconds) := by
    unfold Jwt.verify generateAccessToken
    rw [hsigns.decode_sign]
    exact if_pos ⟨hsigns.trusted_sign, htimely⟩
  refine ⟨⟨userId, username, deviceId, platform, ⌊issuedAt⌋, exp⟩, ?_, ?_⟩
  · unfold verifyAccessToken
    rw [hverify, hrevoked]
    simp only [Option.bind_eq_bind, Option.bind_some, Bool.false_eq_true, if_false, hexp]
    rfl
  · have hne : generateAccessToken jwt config issuedAt jti userId username deviceId platform
        expireSeconds ≠ "" := hsigns.ne_empty
    unfold verifyAccessTokenDevice
    rw [if_neg hne, hverify, hrevoked]
    simp [accessClaims]

/-- For every access token and every time at which `revoke_token` returns `true` on it. Both
overloads of `verify_access_token` reject it from then on, whatever is revoked and unrevoked
besides, if and only if nothing is cut off from the time that it has left; and then they do so as
well when the token is revoked again, as long as nothing is cut off then either. -/
theorem revocation_effective_iff (jwt : Jwt) (config : AccessTokenConfig) (st : TokenStore ℝ)
    (now : ℝ) (setOk expireOk : Bool) (token : String) (exp : ℤ)
    (htoken : AccessToken jwt config now token exp)
    (hrevoke : (revokeToken jwt st now setOk expireOk token).1 = true) :
    ((∀ ops, (∀ op ∈ ops, extractJti jwt op.token ≠ extractJti jwt token) →
        ∀ time, now ≤ time → Rejected jwt
          (run (tokenStep jwt) (revokeToken jwt st now setOk expireOk token).2 ops) time token) ↔
      NothingCutOff exp now) ∧
    (NothingCutOff exp now → ∀ ops, (∀ op ∈ ops, Harmless jwt token exp op) →
      ∀ time, now ≤ time → Rejected jwt
        (run (tokenStep jwt) (revokeToken jwt st now setOk expireOk token).2 ops) time token) := by
  obtain ⟨hjti, hexp⟩ := htoken.decoded
  -- One direction for both parts: the key stays until `exp`, and after `exp` the verifier rejects.
  have hforward (hcut : NothingCutOff exp now) (ops : List TokenOp)
      (hops : ∀ op ∈ ops, Harmless jwt token exp op) (time : ℝ) : Rejected jwt
        (run (tokenStep jwt) (revokeToken jwt st now setOk expireOk token).2 ops) time token := by
    have hblocks := blocks_revokeToken rfl hexp hcut hrevoke
    exact rejected_of_blocks hjti hexp (blocks_run hexp hops hblocks) time
  refine ⟨⟨fun hrejected => ?_, fun hcut ops hops time _ => ?_⟩, fun hcut ops hops time _ => ?_⟩
  · -- Otherwise the key is gone when the token expires, and the token is accepted then.
    by_contra hcut
    rw [nothingCutOff_iff, not_or, not_le, not_le] at hcut
    obtain ⟨httl, hshort⟩ := hcut
    have hpos : (0 : ℝ) < (revokedTtl exp now : ℝ) := by exact_mod_cast httl
    have hnow : now ≤ exp := by linarith
    have hgone : (revokeToken jwt st now setOk expireOk token).2.get exp
        (revokedKey (extractJti jwt token)) = none := by
      rw [get_revokeToken rfl hexp hrevoke]
      exact if_neg (not_or.mpr ⟨not_le.mpr httl, not_le.mpr hshort⟩)
    obtain ⟨user, haccepted, -⟩ := htoken.accepted hnow le_rfl hgone
    have hnone := (hrejected [] (by simp) exp hnow true).1
    rw [run_nil, haccepted] at hnone
    exact absurd hnone (by simp)
  · exact hforward hcut ops (fun op hop => Or.inl (hops op hop)) time
  · exact hforward hcut ops hops time

end

/-! ## A fraction of a second -/

/-- The claims of the token of Alice's phone, issued at second 1700000000 for three seconds. -/
def aliceClaims : Claims where
  jti := some "0f8b6c1e-3a52-4d0c-9a51-7d2f5f0f6a11"
  sub := some "u1"
  iat := some 1700000000
  nbf := none
  exp := some 1700000003
  username := some "alice"
  deviceId := some "phone"
  platform := some "ios"

/-- The token with these claims, signed with the default secret. -/
def aliceToken : String :=
  "eyJhbGciOiJIUzI1NiJ9." ++
  "eyJhdWQiOiJteWNoYXQtY2xpZW50IiwiZGV2aWNlX2lkIjoicGhvbmUiLCJleHAiOjE3MDAwMDAwMDMsImlhdCI6MTcwMDAw" ++
  "MDAwMCwiaXNzIjoibXljaGF0LWdhdGV3YXkiLCJqdGkiOiIwZjhiNmMxZS0zYTUyLTRkMGMtOWE1MS03ZDJmNWYwZjZhMTEi" ++
  "LCJwbGF0Zm9ybSI6ImlvcyIsInN1YiI6InUxIiwidHlwZSI6ImFjY2VzcyIsInVzZXJuYW1lIjoiYWxpY2UifQ." ++
  "JZKUs6ffBeGHtl5ocHdGvJX7Co00CW4vTC1FVukmyGk"

/-- jwt-cpp on that token. -/
def aliceJwt : Jwt where
  sign _ := aliceToken
  decode token := if token = aliceToken then some aliceClaims else none
  trusted token := token = aliceToken

/-- The claims are those that `generate_access_token` sets. -/
theorem accessClaims_alice (config : AccessTokenConfig) :
    accessClaims config (1700000000 : ℝ) "0f8b6c1e-3a52-4d0c-9a51-7d2f5f0f6a11" "u1" "alice" "phone"
      "ios" 3 = aliceClaims := by
  have hiat : ⌊(1700000000 : ℝ)⌋ = 1700000000 := by norm_num
  have hexp : ⌊(1700000000 : ℝ) + ((3 : ℤ) : ℝ)⌋ = 1700000003 := by
    rw [Int.floor_add_intCast, hiat]
    rfl
  unfold accessClaims aliceClaims
  rw [if_pos (by decide), hiat, hexp]

theorem aliceJwt_accessToken (config : AccessTokenConfig) {now : ℝ} (h : 1700000000 ≤ now) :
    AccessToken aliceJwt config now aliceToken 1700000003 := by
  refine ⟨1700000000, "0f8b6c1e-3a52-4d0c-9a51-7d2f5f0f6a11", "u1", "alice", "phone", "ios", 3, h,
    by decide, ?_, rfl, ?_⟩
  · rw [accessClaims_alice]
    exact ⟨by decide +kernel, by simp only [aliceJwt, if_true],
      by simp only [aliceJwt, decide_true]⟩
  · rw [accessClaims_alice]
    rfl

/-- Alice's token is revoked a whole second after it was issued, and rejected from then on. -/
theorem revocation_effective_whole_second :
    NothingCutOff 1700000003 1700000001 ∧
    ∀ time : ℝ, 1700000001 ≤ time → Rejected aliceJwt
      (revokeToken aliceJwt ExpiringStore.empty (1700000001 : ℝ) true true aliceToken).2 time
      aliceToken := by
  have hcut : NothingCutOff 1700000003 1700000001 :=
    Or.inr (Or.inl ⟨⟨2, by norm_num⟩, by norm_num⟩)
  have htoken : AccessToken aliceJwt (fun _ => 0) 1700000001 aliceToken 1700000003 :=
    aliceJwt_accessToken _ (by norm_num)
  refine ⟨hcut, ?_⟩
  exact (revocation_effective_iff aliceJwt (fun _ => 0) ExpiringStore.empty 1700000001 true true
    aliceToken 1700000003 htoken (htoken.revoked _)).2 hcut [] (by simp)

/-- Revoked a quarter of a second after it was issued, with 2.75 seconds left, the token's key lives
for two seconds. Half a second before the token expires both overloads accept it. -/
theorem revoked_token_accepted :
    let revoked := revokeToken aliceJwt ExpiringStore.empty (1700000000.25 : ℝ) true true aliceToken
    revoked.1 = true ∧
    (∃ user, verifyAccessToken aliceJwt revoked.2 1700000002.5 true aliceToken = some user ∧
      verifyAccessTokenDevice aliceJwt revoked.2 1700000002.5 true aliceToken user.deviceId = true) ∧
    ¬ Rejected aliceJwt revoked.2 1700000002.5 aliceToken := by
  intro revoked
  have htoken : AccessToken aliceJwt (fun _ => 0) 1700000000.25 aliceToken 1700000003 :=
    aliceJwt_accessToken _ (by norm_num)
  have hrevoked : revoked.1 = true := htoken.revoked _
  -- `⌊2.75⌋ = 2`.
  have httl : revokedTtl 1700000003 (1700000000.25 : ℝ) = 2 := by
    have hfloor : ⌊((1700000003 : ℤ) : ℝ) - 1700000000.25⌋ = 2 :=
      Int.floor_eq_iff.mpr ⟨by norm_num, by norm_num⟩
    unfold revokedTtl
    rw [if_pos (by norm_num), hfloor]
    rfl
  have hgone : revoked.2.get 1700000002.5 (revokedKey (extractJti aliceJwt aliceToken)) = none := by
    rw [get_revokeToken rfl htoken.decoded.2 hrevoked, httl]
    exact if_neg (by norm_num)
  have haccepted := htoken.accepted (by norm_num) (by norm_num) hgone
  refine ⟨hrevoked, haccepted, fun hrejected => ?_⟩
  obtain ⟨user, huser, -⟩ := haccepted
  rw [(hrejected true).1] at huser
  exact absurd huser (by simp)

end MyChat.Auth
