import Mathlib.Data.Int.ConditionallyCompleteOrder
import Mathlib.Order.ConditionallyCompleteLattice.Basic
import Mathlib.Order.Hom.Basic
import MyChat.Auth.MultiPlatformAuth
import MyChat.Lib.CommandProgram

/-!
# Refresh tokens

The refresh tokens of `gateway/auth/multi_platform_auth.cpp`. A refresh token is a random text, and
all that is known of it is a record in Redis under its key. The functions of the manager are
programs over the commands that they send to Redis, together with the readings of the clock and the
random values that they ask for, in the order of the source. A program is run to its end or one
command at a time.

Every command succeeds. The comparison of floating point numbers in `should_rotate_refresh_token` is
a parameter. The set `user:<id>:refresh_tokens`, which is written and never read, is left out, and
so are `jti`, `type`, and `last_used` of a record.
-/

namespace MyChat.Auth

/-! ## Records -/

/-- Who a token is for. -/
structure Identity where
  /-- `user_id`. -/
  userId : String
  /-- `username`. -/
  username : String
  /-- `device_id`. -/
  deviceId : String
  /-- `platform`. -/
  platform : String
  deriving DecidableEq, Repr

/-- `UserTokenInfo` as `verify_refresh_token` fills it, with the times of the record. -/
structure RefreshTokenInfo (T : Type) where
  /-- `user_id`, `username`, `device_id`, and `platform`. -/
  owner : Identity
  /-- `create_time`. -/
  createTime : T
  /-- `expire_time`. -/
  expireTime : T
  deriving DecidableEq, Repr

/-- `rtMeta`, the record of a refresh token. -/
structure RefreshMeta (T : Type) extends RefreshTokenInfo T where
  /-- `revoked`. -/
  revoked : Bool
  deriving DecidableEq, Repr

/-- `TokenResult`. -/
structure TokenResult where
  /-- `success`. -/
  success : Bool
  /-- `new_access_token`. -/
  newAccessToken : String
  /-- `new_refresh_token`. -/
  newRefreshToken : String
  /-- `error_message`. -/
  errorMessage : String
  deriving DecidableEq, Repr

/-- The key of a refresh token's record. -/
def refreshKey (rt : String) : String := "refresh_token:" ++ rt

theorem refreshKey_inj {rt rt' : String} : refreshKey rt = refreshKey rt' ↔ rt = rt' :=
  String.append_right_inj _

/-! ## Commands -/

/-- What the functions ask of Redis, of the clock, and of the random generators. -/
inductive Command (T : Type) where
  /-- `GET`. -/
  | get (key : String)
  /-- `TTL`. -/
  | ttl (key : String)
  /-- `SET`. -/
  | set (key : String) (value : RefreshMeta T)
  /-- `EXPIRE`. -/
  | expire (key : String) (seconds : ℤ)
  /-- `DEL`. -/
  | del (key : String)
  /-- `system_clock::now()`. -/
  | now
  /-- `rt_generate()`. -/
  | rtGenerate
  /-- `uuid_generate`. -/
  | uuidGenerate

/-- The replies to a command. -/
abbrev Command.Reply {T : Type} : Command T → Type
  | .get _ => Option (RefreshMeta T)
  | .ttl _ => ℤ
  | .now => T
  | .rtGenerate => String
  | .uuidGenerate => String
  | .set .. => Unit
  | .expire .. => Unit
  | .del _ => Unit

/-- A program of the manager. -/
abbrev Program (T : Type) := CommandProgram (Command T) Command.Reply

section Send

variable {T : Type}

/-- `redis.get`. -/
def Program.get (key : String) : Program T (Option (RefreshMeta T)) :=
  CommandProgram.send (Command.get key)

/-- `redis.ttl`. -/
def Program.ttl (key : String) : Program T ℤ := CommandProgram.send (Command.ttl key)

/-- `redis.set`. -/
def Program.set (key : String) (value : RefreshMeta T) : Program T Unit :=
  CommandProgram.send (Command.set key value)

/-- `redis.expire`. -/
def Program.expire (key : String) (seconds : ℤ) : Program T Unit :=
  CommandProgram.send (Command.expire key seconds)

/-- `redis.del`. -/
def Program.del (key : String) : Program T Unit := CommandProgram.send (Command.del key)

/-- `std::chrono::system_clock::now()`. -/
def Program.now : Program T T := CommandProgram.send Command.now

/-- `rt_generate()`. -/
def Program.rtGenerate : Program T String := CommandProgram.send Command.rtGenerate

/-- `uuid_generate` and `uuid_unparse`. -/
def Program.uuidGenerate : Program T String := CommandProgram.send Command.uuidGenerate

end Send

/-! ## The manager -/

/-- What the manager is configured with. -/
structure Manager (T : Type) where
  /-- jwt-cpp with the manager's secret. -/
  jwt : Jwt
  /-- `access_token_expire_seconds` of each platform. -/
  accessExpireSeconds : AccessTokenConfig
  /-- `refresh_token_expire_seconds` of each platform. -/
  refreshExpireSeconds : PlatformType → ℤ
  /-- Whether the share of its time that a record has left at a time is below the platform's
  `refresh_precentage`. -/
  belowPercentage : RefreshMeta T → T → Bool

section
variable {T : Type} [LinearOrder T] [Ring T] [FloorRing T] (manager : Manager T)

/-- `generate_access_token` with its default for `expire_seconds`. -/
def issueAccessToken (who : Identity) : Program T String := do
  let now ← Program.now
  let jti ← Program.uuidGenerate
  return generateAccessToken manager.jwt manager.accessExpireSeconds now jti who.userId who.username
    who.deviceId who.platform 0

/-- `actual_expire_seconds` of `generate_refresh_token`. -/
def actualExpireSeconds (platform : String) (expireSeconds : ℤ) : ℤ :=
  if expireSeconds > 0 then expireSeconds
  else manager.refreshExpireSeconds (getPlatformType platform)

/-- `generate_refresh_token`. -/
def generateRefreshToken (who : Identity) (expireSeconds : ℤ) : Program T String := do
  let now ← Program.now
  let actual := actualExpireSeconds manager who.platform expireSeconds
  let rt ← Program.rtGenerate
  Program.set (refreshKey rt) ⟨⟨who, now, now + (actual : T)⟩, false⟩
  Program.expire (refreshKey rt) actual
  return rt

/-- `generate_tokens`. -/
def generateTokens (who : Identity) : Program T TokenResult := do
  let accessToken ← issueAccessToken manager who
  let refreshToken ← generateRefreshToken manager who 0
  return ⟨true, accessToken, refreshToken, ""⟩

omit [LinearOrder T] [Ring T] [FloorRing T] in
/-- The body of `revoke_refresh_token` and of `unrevoke_refresh_token`, which differ in the flag
that they store. -/
def setRevoked (revoked : Bool) (refreshToken : String) : Program T Bool := do
  let stored ← Program.get (refreshKey refreshToken)
  match stored with
  | none => return false
  | some decode =>
    let remaining ← Program.ttl (refreshKey refreshToken)
    -- `SET` takes the deadline of the key away, and only a positive `remaining` gives it back.
    Program.set (refreshKey refreshToken) { decode with revoked }
    if remaining > 0 then
      Program.expire (refreshKey refreshToken) (toInt remaining)
      return true
    else
      return true

/-- `revoke_refresh_token`. -/
def revokeRefreshToken (refreshToken : String) : Program T Bool := setRevoked true refreshToken

/-- `unrevoke_refresh_token`. -/
def unrevokeRefreshToken (refreshToken : String) : Program T Bool := setRevoked false refreshToken

/-- `del_refresh_token`. -/
def delRefreshToken (refreshToken : String) : Program T Bool := do
  let _ ← Program.get (refreshKey refreshToken)
  Program.del (refreshKey refreshToken)
  return true

/-- `verify_refresh_token`; `none` when it returns `false`. -/
def verifyRefreshToken (refreshToken deviceId : String) :
    Program T (Option (RefreshTokenInfo T)) := do
  if refreshToken = "" then return none
  else
    let stored ← Program.get (refreshKey refreshToken)
    match stored with
    | none => return none
    | some decode =>
      if decode.owner.deviceId ≠ deviceId then
        let _ ← revokeRefreshToken refreshToken
        return none
      else if decode.revoked then return none
      -- `expire_time` is handed to the caller and compared with nothing.
      else return some decode.toRefreshTokenInfo

/-- `should_rotate_refresh_token`. -/
def shouldRotateRefreshToken (refreshToken : String) : Program T Bool := do
  let stored ← Program.get (refreshKey refreshToken)
  match stored with
  | none => return false
  | some decode =>
    let now ← Program.now
    return manager.belowPercentage decode now

/-- `refresh_access_token` after `verify_refresh_token`. The old refresh token stays valid when a
new one is made: the call that would revoke it is commented out. -/
def refreshVerified (refreshToken : String) (verified : Option (RefreshTokenInfo T)) :
    Program T TokenResult := do
  match verified with
  | none => return ⟨false, "", "", "Invalid refresh token"⟩
  | some userInfo =>
    let rotate ← shouldRotateRefreshToken manager refreshToken
    if rotate then
      let newRefreshToken ← generateRefreshToken manager userInfo.owner 0
      let newAccessToken ← issueAccessToken manager userInfo.owner
      return ⟨true, newAccessToken, newRefreshToken, ""⟩
    else
      let newAccessToken ← issueAccessToken manager userInfo.owner
      return ⟨true, newAccessToken, "", ""⟩

/-- `refresh_access_token`. -/
def refreshAccessToken (refreshToken deviceId : String) : Program T TokenResult := do
  let verified ← verifyRefreshToken refreshToken deviceId
  refreshVerified manager refreshToken verified

end

/-- A call of the manager on a refresh token. -/
inductive Request where
  /-- `verify_refresh_token`. -/
  | verify (refreshToken deviceId : String)
  /-- `refresh_access_token`. -/
  | refresh (refreshToken deviceId : String)
  /-- `revoke_refresh_token`. -/
  | revoke (refreshToken : String)
  /-- `unrevoke_refresh_token`. -/
  | unrevoke (refreshToken : String)
  /-- `del_refresh_token`. -/
  | del (refreshToken : String)

/-! ## The world that answers -/

/-- What the answers to the commands depend on beside Redis. -/
structure Outside (T : Type) [Preorder T] where
  /-- The time at which each command is answered. -/
  clock : ℕ →o T
  /-- The values of `rt_generate`, in their order. -/
  rtGenerate : ℕ → String
  /-- The UUID that a command gets. -/
  uuidGenerate : ℕ → String
  /-- The whole seconds that `TTL` makes of a time. -/
  wholeSeconds : T → ℤ

/-- Redis, and how far the clock and the generator are. -/
structure World (T : Type) where
  /-- The records. -/
  redis : ExpiringStore String (RefreshMeta T) T
  /-- How many commands have been answered. -/
  ticks : ℕ
  /-- How many values `rt_generate` has given. -/
  generated : ℕ

/-- No refresh token has been made. -/
def World.fresh {T : Type} : World T where
  redis := ExpiringStore.empty
  ticks := 0
  generated := 0

section
variable {T : Type} [LinearOrder T] [Ring T] (outside : Outside T)

/-- `EXPIRE`: a timeout that is not positive deletes the key. -/
def expireKey (redis : ExpiringStore String (RefreshMeta T) T) (time : T) (key : String)
    (seconds : ℤ) : ExpiringStore String (RefreshMeta T) T :=
  if seconds ≤ 0 then redis.del key else redis.expire time key (seconds : T)

/-- The reply to a command, and the world after it. -/
def handle (w : World T) : (c : Command T) → c.Reply × World T
  | .get key => (w.redis.get (outside.clock w.ticks) key, { w with ticks := w.ticks + 1 })
  | .ttl key => (w.redis.ttl outside.wholeSeconds (outside.clock w.ticks) key,
      { w with ticks := w.ticks + 1 })
  | .set key value => ((), { w with redis := w.redis.set key value, ticks := w.ticks + 1 })
  | .expire key seconds => ((),
      { w with redis := expireKey w.redis (outside.clock w.ticks) key seconds, ticks := w.ticks + 1 })
  | .del key => ((), { w with redis := w.redis.del key, ticks := w.ticks + 1 })
  | .now => (outside.clock w.ticks, { w with ticks := w.ticks + 1 })
  | .rtGenerate => (outside.rtGenerate w.generated,
      { w with generated := w.generated + 1, ticks := w.ticks + 1 })
  | .uuidGenerate => (outside.uuidGenerate w.ticks, { w with ticks := w.ticks + 1 })

section ExpireKey

variable {redis : ExpiringStore String (RefreshMeta T) T} {time : T} {k other : String} {n : ℤ}
  {value : RefreshMeta T} {deadline : Option T}

/-- After `EXPIRE` a key that is there has a deadline. -/
theorem of_entries_expireKey (h : (expireKey redis time k n).entries k = some (value, deadline)) :
    ∃ d, deadline = some d ∧ (redis.entries k = some (value, some d) ∨
      0 < n ∧ redis.get time k = some value ∧ d = time + (n : T)) := by
  unfold expireKey at h
  split_ifs at h with hn
  · rw [ExpiringStore.entries_del_self] at h
    exact absurd h (by simp)
  · obtain ⟨d, rfl, hd⟩ := ExpiringStore.of_entries_expire h
    exact ⟨d, rfl, hd.imp_right fun hget => ⟨by omega, hget⟩⟩

theorem entries_expireKey_of_ne (h : other ≠ k) :
    (expireKey redis time k n).entries other = redis.entries other := by
  unfold expireKey
  split_ifs
  · exact ExpiringStore.entries_del_of_ne _ h
  · exact ExpiringStore.entries_expire_of_ne _ h

end ExpireKey

variable (w : World T)

/-- What a command does to the record of a key: `SET` writes it without a deadline, after `EXPIRE`
the key has a deadline or is not there, `DEL` deletes it, and nothing else changes it. -/
theorem entry_handle (k : String) (c : Command T) :
    ((handle outside w c).2.redis.entries k = w.redis.entries k ∧ ∀ n, c ≠ .expire k n) ∨
    (∃ value, c = .set k value ∧ (handle outside w c).2.redis.entries k = some (value, none)) ∨
    (∃ n, c = .expire k n ∧
      ∀ value deadline, (handle outside w c).2.redis.entries k = some (value, deadline) →
        ∃ d, deadline = some d ∧ (w.redis.entries k = some (value, some d) ∨
          0 < n ∧ w.redis.get (outside.clock w.ticks) k = some value ∧
            d = outside.clock w.ticks + (n : T))) ∨
    (c = .del k ∧ (handle outside w c).2.redis.entries k = none) := by
  cases c with
  | set key value =>
    rcases eq_or_ne k key with rfl | hne
    · exact Or.inr (Or.inl ⟨value, rfl, ExpiringStore.entries_set_self _ _⟩)
    · exact Or.inl ⟨ExpiringStore.entries_set_of_ne _ _ hne, by simp⟩
  | expire key n =>
    rcases eq_or_ne k key with rfl | hne
    · exact Or.inr (Or.inr (Or.inl ⟨n, rfl, fun value deadline => of_entries_expireKey⟩))
    · exact Or.inl ⟨entries_expireKey_of_ne hne, by simp [hne.symm]⟩
  | del key =>
    rcases eq_or_ne k key with rfl | hne
    · exact Or.inr (Or.inr (Or.inr ⟨rfl, ExpiringStore.entries_del_self _⟩))
    · exact Or.inl ⟨ExpiringStore.entries_del_of_ne _ hne, by simp⟩
  | get key => exact Or.inl ⟨rfl, by simp⟩
  | ttl key => exact Or.inl ⟨rfl, by simp⟩
  | now => exact Or.inl ⟨rfl, by simp⟩
  | rtGenerate => exact Or.inl ⟨rfl, by simp⟩
  | uuidGenerate => exact Or.inl ⟨rfl, by simp⟩

/-- The generator goes on with every value that it gives, and with nothing else. -/
theorem generated_le_handle (c : Command T) : w.generated ≤ (handle outside w c).2.generated := by
  cases c
  case rtGenerate => exact Nat.le_succ _
  all_goals exact Nat.le_refl _

/-- A new refresh token, and the world with its record. -/
theorem exec_generateRefreshToken (manager : Manager T) (who : Identity) (expireSeconds : ℤ) :
    (generateRefreshToken manager who expireSeconds).exec (handle outside) w =
      let rt := outside.rtGenerate w.generated
      let actual := actualExpireSeconds manager who.platform expireSeconds
      (rt,
        { redis := expireKey (w.redis.set (refreshKey rt) ⟨⟨who, outside.clock w.ticks,
            outside.clock w.ticks + (actual : T)⟩, false⟩) (outside.clock (w.ticks + 3))
            (refreshKey rt) actual
          ticks := w.ticks + 4
          generated := w.generated + 1 }) := rfl

end

/-! ## A world for examples -/

/-- Texts of 32 characters and more. -/
def paddedToken (n : ℕ) : String := "q3Zk8PpX0vLw5TtYb1NcR7aSdF9gHj-" ++ Nat.repr n

theorem paddedToken_injective : Function.Injective paddedToken := by
  intro m n h
  have hrepr : Nat.repr m = Nat.repr n := (String.append_right_inj _).mp h
  have hdigits := congrArg (fun text => Nat.ofDigitChars 10 text.toList 0) hrepr
  simpa using hdigits

/-- Everything happens within one second. -/
def sameSecond : Outside ℤ where
  clock := ⟨fun _ => 0, monotone_const⟩
  rtGenerate := paddedToken
  uuidGenerate _ := "0f8b6c1e-3a52-4d0c-9a51-7d2f5f0f6a11"
  wholeSeconds := id

/-- An identity. -/
def aliceOnPhone : Identity := ⟨"u1", "alice", "phone", "ios"⟩

end MyChat.Auth
