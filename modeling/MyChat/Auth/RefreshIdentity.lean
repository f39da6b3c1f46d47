import Mathlib.Logic.Equiv.List
import MyChat.Auth.RefreshToken

/-!
# Whose tokens a refresh gives

Calls of the manager, each run to its end before the next, by any callers with any device ids. A
refresh token comes from `generate_tokens`, or from a `refresh_access_token` that rotates another
refresh token, so that every refresh token is at the end of a chain of refreshes with a
`generate_tokens` at its root. `refresh_keeps_identity` says that all tokens along a chain are for
the user, the name, the device, and the platform of the call at its root, and that a refresh token
that was presented from another device is accepted from no device until it is unrevoked.

Both halves are about the records in Redis. No program changes whom a record is for (`Keeps`,
`Adds`), and only `unrevoke_refresh_token` can make a record valid that is not (`Spares`).
-/

namespace MyChat.Auth

open MyChat.Run

/-! ## What the programs do to the records -/

section Relations

variable {T : Type}

/-- Every record is of a token that was there before, for the same owner. -/
structure Keeps (w w' : World T) : Prop where
  /-- No refresh token was made. -/
  generated : w'.generated = w.generated
  /-- The records. -/
  owner : ∀ key value deadline, w'.redis.entries key = some (value, deadline) →
    ∃ old before, w.redis.entries key = some (old, before) ∧ value.owner = old.owner

/-- The record of a new refresh token for the owner was added. -/
structure Adds [LinearOrder T] (outside : Outside T) (who : Identity) (w w' : World T) : Prop where
  /-- One refresh token was made. -/
  generated : w'.generated = w.generated + 1
  /-- The records. -/
  owner : ∀ key value deadline, w'.redis.entries key = some (value, deadline) →
    (∃ old before, w.redis.entries key = some (old, before) ∧ value.owner = old.owner) ∨
      key = refreshKey (outside.rtGenerate w.generated) ∧ value.owner = who

/-- What happens to the record of a key when it does not become valid: nothing, or it is deleted, or
it is written as revoked. -/
structure Spares (key : String) (w w' : World T) : Prop where
  /-- Time goes on. -/
  ticks : w.ticks ≤ w'.ticks
  /-- The record. -/
  entry : w'.redis.entries key = w.redis.entries key ∨ w'.redis.entries key = none ∨
    ∃ value deadline, w'.redis.entries key = some (value, deadline) ∧ value.revoked = true

theorem Keeps.refl (w : World T) : Keeps w w :=
  ⟨rfl, fun _ value deadline h => ⟨value, deadline, h, rfl⟩⟩

/-- A reading of the clock, or of a record, changes nothing. -/
theorem keeps_tick (w : World T) (n : ℕ) : Keeps w { w with ticks := n } :=
  ⟨rfl, fun _ value deadline h => ⟨value, deadline, h, rfl⟩⟩

end Relations

section Programs

variable {T : Type} [LinearOrder T] [Ring T] {outside : Outside T} {w : World T}

/-- What `setRevoked` does. A record that is there is written with the flag, and may then be deleted
by `EXPIRE`; all other records are left. -/
theorem exec_setRevoked_cases (outside : Outside T) (w : World T) (revoked : Bool) (rt : String) :
    let after := ((setRevoked revoked rt).exec (handle outside) w).2
    after.generated = w.generated ∧ w.ticks < after.ticks ∧
    (∀ key ≠ refreshKey rt, after.redis.entries key = w.redis.entries key) ∧
    ((w.redis.get (outside.clock w.ticks) (refreshKey rt) = none ∧
        after.redis.entries (refreshKey rt) = w.redis.entries (refreshKey rt)) ∨
      ∃ decode, w.redis.get (outside.clock w.ticks) (refreshKey rt) = some decode ∧
        ∀ value deadline, after.redis.entries (refreshKey rt) = some (value, deadline) →
          value = { decode with revoked }) := by
  rcases hget : w.redis.get (outside.clock w.ticks) (refreshKey rt) with _ | decode
  · have hexec : (setRevoked revoked rt).exec (handle outside) w =
        (false, { w with ticks := w.ticks + 1 }) := by
      simp [setRevoked, Program.get, handle, hget]
    rw [hexec]
    exact ⟨rfl, Nat.lt_succ_self _, fun _ _ => rfl, Or.inl ⟨rfl, rfl⟩⟩
  · -- The record is written, and `remaining` decides whether `EXPIRE` follows.
    rcases lt_or_ge 0 (w.redis.ttl outside.wholeSeconds (outside.clock (w.ticks + 1))
      (refreshKey rt)) with hremaining | hremaining
    · have hexec : ((setRevoked revoked rt).exec (handle outside) w).2 =
          ⟨expireKey (w.redis.set (refreshKey rt) { decode with revoked })
            (outside.clock (w.ticks + 3)) (refreshKey rt) (toInt (w.redis.ttl outside.wholeSeconds
              (outside.clock (w.ticks + 1)) (refreshKey rt))), w.ticks + 4, w.generated⟩ := by
        simp [setRevoked, Program.get, Program.ttl, Program.set, Program.expire, handle, hget,
          hremaining]
      rw [hexec]
      refine ⟨rfl, by simp, fun key hne => ?_, Or.inr ⟨decode, rfl, fun value deadline h => ?_⟩⟩
      · rw [entries_expireKey_of_ne hne, ExpiringStore.entries_set_of_ne _ _ hne]
      · obtain ⟨d, -, hold | ⟨-, hnew, -⟩⟩ := of_entries_expireKey h
        · rw [ExpiringStore.entries_set_self] at hold
          exact (Prod.mk.inj (Option.some.inj hold)).1.symm
        · rw [ExpiringStore.get_set_self] at hnew
          exact (Option.some.inj hnew).symm
    · have hexec : ((setRevoked revoked rt).exec (handle outside) w).2 =
          ⟨w.redis.set (refreshKey rt) { decode with revoked }, w.ticks + 3, w.generated⟩ := by
        simp [setRevoked, Program.get, Program.ttl, Program.set, handle, hget, not_lt.mpr hremaining]
      rw [hexec]
      refine ⟨rfl, by simp, fun key hne => ?_, Or.inr ⟨decode, rfl, fun value deadline h => ?_⟩⟩
      · exact ExpiringStore.entries_set_of_ne _ _ hne
      · rw [ExpiringStore.entries_set_self] at h
        exact (Prod.mk.inj (Option.some.inj h)).1.symm

/-- `revoke_refresh_token` and `unrevoke_refresh_token` leave the owners as they are. -/
theorem keeps_setRevoked (outside : Outside T) (w : World T) (revoked : Bool) (rt : String) :
    Keeps w ((setRevoked revoked rt).exec (handle outside) w).2 := by
  obtain ⟨hgenerated, -, hother, hentry⟩ := exec_setRevoked_cases outside w revoked rt
  refine ⟨hgenerated, fun key value deadline h => ?_⟩
  rcases eq_or_ne key (refreshKey rt) with rfl | hne
  · rcases hentry with ⟨-, hsame⟩ | ⟨decode, hget, hwritten⟩
    · exact ⟨value, deadline, by rw [← hsame, h], rfl⟩
    · obtain ⟨before, hold, -⟩ := ExpiringStore.get_eq_some.mp hget
      exact ⟨decode, before, hold, by rw [hwritten value deadline h]⟩
  · exact ⟨value, deadline, by rw [← hother key hne, h], rfl⟩

/-- `revoke_refresh_token` makes no record valid. -/
theorem spares_revoke (outside : Outside T) (w : World T) (key rt : String) :
    Spares key w ((setRevoked true rt).exec (handle outside) w).2 := by
  obtain ⟨-, hticks, hother, hentry⟩ := exec_setRevoked_cases outside w true rt
  refine ⟨hticks.le, ?_⟩
  rcases eq_or_ne key (refreshKey rt) with rfl | hne
  · rcases hentry with ⟨-, hsame⟩ | ⟨decode, -, hwritten⟩
    · exact Or.inl hsame
    · rcases hafter : ((setRevoked true rt).exec (handle outside) w).2.redis.entries (refreshKey rt)
        with _ | ⟨value, deadline⟩
      · exact Or.inr (Or.inl rfl)
      · exact Or.inr (Or.inr ⟨value, deadline, rfl, by rw [hwritten value deadline hafter]⟩)
  · exact Or.inl (hother key hne)

/-- `unrevoke_refresh_token` of another token leaves a record. -/
theorem spares_unrevoke {key rt : String} (hne : key ≠ refreshKey rt) :
    Spares key w ((setRevoked false rt).exec (handle outside) w).2 := by
  obtain ⟨-, hticks, hother, -⟩ := exec_setRevoked_cases outside w false rt
  exact ⟨hticks.le, Or.inl (hother key hne)⟩

/-- What `verify_refresh_token` does. -/
theorem exec_verifyRefreshToken_cases (outside : Outside T) (w : World T) (rt deviceId : String) :
    let out := (verifyRefreshToken rt deviceId).exec (handle outside) w
    (rt = "" ∧ out = (none, w)) ∨
    (rt ≠ "" ∧ w.redis.get (outside.clock w.ticks) (refreshKey rt) = none ∧
      out = (none, { w with ticks := w.ticks + 1 })) ∨
    (∃ decode, rt ≠ "" ∧ w.redis.get (outside.clock w.ticks) (refreshKey rt) = some decode ∧
      decode.owner.deviceId ≠ deviceId ∧ out = (none,
        ((setRevoked true rt).exec (handle outside) { w with ticks := w.ticks + 1 }).2)) ∨
    (∃ decode, rt ≠ "" ∧ w.redis.get (outside.clock w.ticks) (refreshKey rt) = some decode ∧
      decode.owner.deviceId = deviceId ∧
      out = (if decode.revoked then none else some decode.toRefreshTokenInfo,
        { w with ticks := w.ticks + 1 })) := by
  rcases eq_or_ne rt "" with hempty | hempty
  · exact Or.inl ⟨hempty, by simp [verifyRefreshToken, hempty]⟩
  rcases hget : w.redis.get (outside.clock w.ticks) (refreshKey rt) with _ | decode
  · refine Or.inr (Or.inl ⟨hempty, rfl, ?_⟩)
    simp [verifyRefreshToken, hempty, Program.get, handle, hget]
  rcases eq_or_ne decode.owner.deviceId deviceId with hdevice | hdevice
  · refine Or.inr (Or.inr (Or.inr ⟨decode, hempty, rfl, hdevice, ?_⟩))
    rcases hrevoked : decode.revoked with _ | _ <;>
      simp [verifyRefreshToken, hempty, Program.get, handle, hget, hdevice, hrevoked]
  · refine Or.inr (Or.inr (Or.inl ⟨decode, hempty, rfl, hdevice, ?_⟩))
    simp [verifyRefreshToken, hempty, Program.get, handle, hget, hdevice, revokeRefreshToken]

theorem keeps_verifyRefreshToken (rt deviceId : String) :
    Keeps w ((verifyRefreshToken rt deviceId).exec (handle outside) w).2 := by
  rcases exec_verifyRefreshToken_cases outside w rt deviceId with ⟨-, hout⟩ | ⟨-, -, hout⟩ |
    ⟨_, -, -, -, hout⟩ | ⟨_, -, -, -, hout⟩ <;> rw [hout]
  · exact Keeps.refl w
  · exact keeps_tick _ _
  · have hrevoke := keeps_setRevoked outside { w with ticks := w.ticks + 1 } true rt
    exact ⟨hrevoke.generated, hrevoke.owner⟩
  · exact keeps_tick _ _

theorem spares_verifyRefreshToken (key rt deviceId : String) :
    Spares key w ((verifyRefreshToken rt deviceId).exec (handle outside) w).2 := by
  rcases exec_verifyRefreshToken_cases outside w rt deviceId with ⟨-, hout⟩ | ⟨-, -, hout⟩ |
    ⟨_, -, -, -, hout⟩ | ⟨_, -, -, -, hout⟩ <;> rw [hout]
  · exact ⟨Nat.le_refl _, Or.inl rfl⟩
  · exact ⟨Nat.le_succ _, Or.inl rfl⟩
  · have hrevoke := spares_revoke outside { w with ticks := w.ticks + 1 } key rt
    exact ⟨(Nat.le_succ _).trans hrevoke.ticks, hrevoke.entry⟩
  · exact ⟨Nat.le_succ _, Or.inl rfl⟩

theorem exec_delRefreshToken (outside : Outside T) (w : World T) (rt : String) :
    (delRefreshToken rt).exec (handle outside) w =
      (true, ⟨w.redis.del (refreshKey rt), w.ticks + 2, w.generated⟩) := rfl

theorem keeps_delRefreshToken (rt : String) :
    Keeps w ((delRefreshToken rt).exec (handle outside) w).2 := by
  rw [exec_delRefreshToken]
  refine ⟨rfl, fun key value deadline h => ?_⟩
  rcases eq_or_ne key (refreshKey rt) with rfl | hne
  · exact absurd ((ExpiringStore.entries_del_self _).symm.trans h) (by simp)
  · exact ⟨value, deadline, (ExpiringStore.entries_del_of_ne _ hne).symm.trans h, rfl⟩

theorem spares_delRefreshToken (key rt : String) :
    Spares key w ((delRefreshToken rt).exec (handle outside) w).2 := by
  rw [exec_delRefreshToken]
  refine ⟨Nat.le_add_right _ 2, ?_⟩
  rcases eq_or_ne key (refreshKey rt) with rfl | hne
  · exact Or.inr (Or.inl (ExpiringStore.entries_del_self _))
  · exact Or.inl (ExpiringStore.entries_del_of_ne _ hne)

variable {manager : Manager T}

/-- A new refresh token has a record for its owner. -/
theorem adds_generateRefreshToken (manager : Manager T) (outside : Outside T) (w : World T)
    (who : Identity) (expireSeconds : ℤ) :
    Adds outside who w
      ((generateRefreshToken manager who expireSeconds).exec (handle outside) w).2 := by
  rw [exec_generateRefreshToken]
  refine ⟨rfl, fun key value deadline h => ?_⟩
  rcases eq_or_ne key (refreshKey (outside.rtGenerate w.generated)) with rfl | hne
  · refine Or.inr ⟨rfl, ?_⟩
    obtain ⟨d, -, hold | ⟨-, hnew, -⟩⟩ := of_entries_expireKey h
    · rw [ExpiringStore.entries_set_self] at hold
      rw [← (Prod.mk.inj (Option.some.inj hold)).1]
    · rw [ExpiringStore.get_set_self] at hnew
      rw [← Option.some.inj hnew]
  · refine Or.inl ⟨value, deadline, ?_, rfl⟩
    rw [← h]
    exact ((entries_expireKey_of_ne hne).trans (ExpiringStore.entries_set_of_ne _ _ hne)).symm

/-- A new refresh token leaves the records of the others. -/
theorem spares_generateRefreshToken (manager : Manager T) (outside : Outside T) (w : World T)
    {key : String} (who : Identity) (expireSeconds : ℤ)
    (hne : key ≠ refreshKey (outside.rtGenerate w.generated)) :
    Spares key w ((generateRefreshToken manager who expireSeconds).exec (handle outside) w).2 := by
  rw [exec_generateRefreshToken]
  refine ⟨Nat.le_add_right _ 4, Or.inl ?_⟩
  exact (entries_expireKey_of_ne hne).trans (ExpiringStore.entries_set_of_ne _ _ hne)

/-- `should_rotate_refresh_token` only reads. -/
theorem exec_shouldRotate (manager : Manager T) (outside : Outside T) (w : World T) (rt : String) :
    ∃ n ≥ w.ticks, ((shouldRotateRefreshToken manager rt).exec (handle outside) w).2 =
      { w with ticks := n } := by
  rcases hget : w.redis.get (outside.clock w.ticks) (refreshKey rt) with _ | decode
  · exact ⟨w.ticks + 1, Nat.le_succ _, by
      simp [shouldRotateRefreshToken, Program.get, handle, hget]⟩
  · exact ⟨w.ticks + 2, Nat.le_add_right _ 2, by
      simp [shouldRotateRefreshToken, Program.get, Program.now, handle, hget]⟩

end Programs

section Tokens

variable {T : Type} [LinearOrder T] [Ring T] [FloorRing T] {manager : Manager T}
  {outside : Outside T} {w : World T}

theorem exec_issueAccessToken (manager : Manager T) (outside : Outside T) (w : World T)
    (who : Identity) :
    (issueAccessToken manager who).exec (handle outside) w =
      (generateAccessToken manager.jwt manager.accessExpireSeconds (outside.clock w.ticks)
        (outside.uuidGenerate (w.ticks + 1)) who.userId who.username who.deviceId who.platform 0,
        { w with ticks := w.ticks + 2 }) := rfl

/-- What `refresh_access_token` does for a token that was verified: it may make a new refresh token
for the owner of the record, and it signs an access token for the owner. -/
theorem exec_refreshVerified_cases (manager : Manager T) (outside : Outside T) (w : World T)
    (rt : String) (userInfo : RefreshTokenInfo T) :
    let out := (refreshVerified manager rt (some userInfo)).exec (handle outside) w
    ∃ n ≥ w.ticks, ∃ rotated : Bool,
      let made := if rotated then
          (generateRefreshToken manager userInfo.owner 0).exec (handle outside) { w with ticks := n }
        else ("", { w with ticks := n })
      let issued := (issueAccessToken manager userInfo.owner).exec (handle outside) made.2
      out = (⟨true, issued.1, made.1, ""⟩, issued.2) := by
  obtain ⟨n, hn, hworld⟩ := exec_shouldRotate manager outside w rt
  refine ⟨n, hn, ((shouldRotateRefreshToken manager rt).exec (handle outside) w).1, ?_⟩
  rcases hrotate : ((shouldRotateRefreshToken manager rt).exec (handle outside) w).1 with _ | _
  · simp [refreshVerified, hrotate, hworld]
  · simp [refreshVerified, hrotate, hworld]

/-- The access token carries the identity. -/
def Jwt.Carries (jwt : Jwt) (token : String) (who : Identity) : Prop :=
  ∃ claims, jwt.decode token = some claims ∧ claims.sub = some who.userId ∧
    claims.username = some who.username ∧ claims.deviceId = some who.deviceId ∧
    claims.platform = some who.platform

/-- An access token carries the identity that it was made for. -/
theorem carries_issueAccessToken (hsigns : ∀ claims, manager.jwt.Signs claims) (outside : Outside T)
    (w : World T) (who : Identity) :
    manager.jwt.Carries ((issueAccessToken manager who).exec (handle outside) w).1 who := by
  rw [exec_issueAccessToken]
  exact ⟨_, (hsigns _).decode_sign, rfl, rfl, rfl, rfl⟩

/-- A `refresh_access_token` that fails does what `verify_refresh_token` does, and gives no
token. -/
theorem exec_refreshAccessToken_of_none (manager : Manager T) {rt deviceId : String}
    (h : ((verifyRefreshToken rt deviceId).exec (handle outside) w).1 = none) :
    (refreshAccessToken manager rt deviceId).exec (handle outside) w =
      (⟨false, "", "", "Invalid refresh token"⟩,
        ((verifyRefreshToken rt deviceId).exec (handle outside) w).2) := by
  simp [refreshAccessToken, h, refreshVerified]

omit [FloorRing T] in
/-- A `verify_refresh_token` that succeeds has found a record, whose fields it returns, and changes
nothing. -/
theorem verifyRefreshToken_eq_some {rt deviceId : String} {userInfo : RefreshTokenInfo T}
    (h : ((verifyRefreshToken rt deviceId).exec (handle outside) w).1 = some userInfo) :
    ∃ decode deadline, rt ≠ "" ∧ w.redis.entries (refreshKey rt) = some (decode, deadline) ∧
      decode.toRefreshTokenInfo = userInfo ∧
      ((verifyRefreshToken rt deviceId).exec (handle outside) w).2 =
        { w with ticks := w.ticks + 1 } := by
  -- Only the last case has a result.
  rcases exec_verifyRefreshToken_cases outside w rt deviceId with ⟨-, hout⟩ | ⟨-, -, hout⟩ |
    ⟨_, -, -, -, hout⟩ | ⟨decode, hne, hget, -, hout⟩
  · rw [hout] at h
    exact absurd h (by simp)
  · rw [hout] at h
    exact absurd h (by simp)
  · rw [hout] at h
    exact absurd h (by simp)
  · obtain ⟨deadline, hentry, -⟩ := ExpiringStore.get_eq_some.mp hget
    rw [hout] at h ⊢
    refine ⟨decode, deadline, hne, hentry, ?_, rfl⟩
    dsimp only at h
    split_ifs at h
    exact Option.some.inj h

/-- What `refresh_access_token` does: nothing but what `verify_refresh_token` does, or it gives an
access token and maybe a refresh token for the owner of the record that it found. -/
theorem exec_refreshAccessToken_cases (hsigns : ∀ claims, manager.jwt.Signs claims)
    (outside : Outside T) (w : World T) (rt deviceId : String) :
    let out := (refreshAccessToken manager rt deviceId).exec (handle outside) w
    (out.1 = ⟨false, "", "", "Invalid refresh token"⟩ ∧
      out.2 = ((verifyRefreshToken rt deviceId).exec (handle outside) w).2) ∨
    ∃ value deadline, rt ≠ "" ∧ w.redis.entries (refreshKey rt) = some (value, deadline) ∧
      out.1.success = true ∧ manager.jwt.Carries out.1.newAccessToken value.owner ∧
      ((out.1.newRefreshToken = "" ∧ Keeps w out.2) ∨
        (out.1.newRefreshToken = outside.rtGenerate w.generated ∧ Adds outside value.owner w out.2)) ∧
      ∀ key ≠ refreshKey (outside.rtGenerate w.generated), Spares key w out.2 := by
  rcases hverified : ((verifyRefreshToken rt deviceId).exec (handle outside) w).1 with _ | userInfo
  · left
    rw [exec_refreshAccessToken_of_none manager hverified]
    exact ⟨rfl, rfl⟩
  right
  obtain ⟨decode, deadline, hne, hentry, rfl, hworld⟩ := verifyRefreshToken_eq_some hverified
  have hexec : (refreshAccessToken manager rt deviceId).exec (handle outside) w =
      (refreshVerified manager rt (some decode.toRefreshTokenInfo)).exec (handle outside)
        { w with ticks := w.ticks + 1 } := by
    simp [refreshAccessToken, hverified, hworld]
  obtain ⟨n, hn, rotated, hout⟩ := exec_refreshVerified_cases manager outside
    { w with ticks := w.ticks + 1 } rt decode.toRefreshTokenInfo
  have hticks : w.ticks ≤ n := (Nat.le_succ _).trans hn
  refine ⟨decode, deadline, hne, hentry, ?_⟩
  rw [hexec, hout]
  refine ⟨rfl, carries_issueAccessToken hsigns outside _ _, ?_, fun key hkey => ?_⟩
  · rcases rotated with _ | _
    · exact Or.inl ⟨rfl, keeps_tick _ _⟩
    · have hadds := adds_generateRefreshToken manager outside { w with ticks := n } decode.owner 0
      exact Or.inr ⟨rfl, hadds.generated, hadds.owner⟩
  · rcases rotated with _ | _
    · exact ⟨hticks.trans (Nat.le_add_right _ 2), Or.inl rfl⟩
    · have hspares := spares_generateRefreshToken manager outside { w with ticks := n } decode.owner
        0 hkey
      exact ⟨(hticks.trans hspares.ticks).trans (Nat.le_add_right _ 2), hspares.entry⟩

end Tokens

/-! ## Calls one after the other -/

/-- A call of the manager. -/
inductive ManagerCall where
  /-- `generate_tokens`. -/
  | generateTokens (who : Identity)
  /-- A call on a refresh token. -/
  | request (request : Request)

/-- A call that gave tokens, or might have given some. -/
inductive Outcome where
  /-- `generate_tokens` returned. -/
  | generated (who : Identity) (result : TokenResult)
  /-- `refresh_access_token` returned. -/
  | refreshed (refreshToken : String) (result : TokenResult)

/-- The world, and the calls so far that gave tokens. -/
structure Managed (T : Type) where
  /-- Redis, the clock, and the generator. -/
  world : World T
  /-- The outcomes. -/
  history : List Outcome

/-- One call, run to its end. -/
def Managed.step {T : Type} [LinearOrder T] [Ring T] [FloorRing T] (manager : Manager T)
    (outside : Outside T) (s : Managed T) : ManagerCall → Managed T
  | .generateTokens who =>
    let out := (generateTokens manager who).exec (handle outside) s.world
    ⟨out.2, s.history ++ [.generated who out.1]⟩
  | .request (.refresh rt deviceId) =>
    let out := (refreshAccessToken manager rt deviceId).exec (handle outside) s.world
    ⟨out.2, s.history ++ [.refreshed rt out.1]⟩
  | .request (.verify rt deviceId) =>
    { s with world := ((verifyRefreshToken rt deviceId).exec (handle outside) s.world).2 }
  | .request (.revoke rt) =>
    { s with world := ((revokeRefreshToken rt).exec (handle outside) s.world).2 }
  | .request (.unrevoke rt) =>
    { s with world := ((unrevokeRefreshToken rt).exec (handle outside) s.world).2 }
  | .request (.del rt) =>
    { s with world := ((delRefreshToken rt).exec (handle outside) s.world).2 }

/-- The refresh token was obtained through a chain of refreshes that has a `generate_tokens` for the
identity at its root. -/
inductive Obtained (history : List Outcome) (who : Identity) : String → Prop where
  /-- The root. -/
  | root {result : TokenResult} (h : .generated who result ∈ history) :
    Obtained history who result.newRefreshToken
  /-- A refresh that gave a new refresh token. -/
  | refreshed {rt : String} {result : TokenResult} (hfrom : Obtained history who rt)
    (h : .refreshed rt result ∈ history) (hnew : result.newRefreshToken ≠ "") :
    Obtained history who result.newRefreshToken

/-- All tokens along a chain are for the identity at its root. -/
structure SameIdentity {T : Type} (manager : Manager T) (s : Managed T) : Prop where
  /-- The access token of `generate_tokens`. -/
  generated : ∀ who result, .generated who result ∈ s.history →
    manager.jwt.Carries result.newAccessToken who
  /-- An access token of `refresh_access_token`: there is a chain that leads to the refresh token
  that was presented, and whatever chain leads to it, the access token is for its root. -/
  refreshed : ∀ rt result, .refreshed rt result ∈ s.history → result.success = true →
    (∃ who, Obtained s.history who rt) ∧
      ∀ who, Obtained s.history who rt → manager.jwt.Carries result.newAccessToken who
  /-- A refresh that fails gives no token. -/
  failed : ∀ rt result, .refreshed rt result ∈ s.history → result.success = false →
    result.newAccessToken = "" ∧ result.newRefreshToken = ""
  /-- A refresh token is for the root of its chain, as long as Redis knows it. -/
  record : ∀ who rt value deadline, Obtained s.history who rt →
    s.world.redis.entries (refreshKey rt) = some (value, deadline) → value.owner = who

/-! ## The owners of the refresh tokens -/

section Traced

variable {T : Type} [LinearOrder T]

section

variable (manager : Manager T) (outside : Outside T) (owner : ℕ → Identity)

/-- What the tokens of an outcome are, where `owner n` is the identity that the `n`-th of the
`count` refresh tokens was made for. -/
def Outcome.Traced (count : ℕ) : Outcome → Prop
  | .generated who result => manager.jwt.Carries result.newAccessToken who ∧
      ∃ n < count, outside.rtGenerate n = result.newRefreshToken ∧ owner n = who
  | .refreshed rt result =>
      (result.success = false ∧ result.newAccessToken = "" ∧ result.newRefreshToken = "") ∨
      ∃ n < count, outside.rtGenerate n = rt ∧ rt ≠ "" ∧ result.success = true ∧
        manager.jwt.Carries result.newAccessToken (owner n) ∧
        (result.newRefreshToken ≠ "" →
          ∃ m < count, outside.rtGenerate m = result.newRefreshToken ∧ owner m = owner n)

/-- What holds after any calls. -/
structure Traced (s : Managed T) : Prop where
  /-- The tokens that were given. -/
  outcome : ∀ o ∈ s.history, o.Traced manager outside owner s.world.generated
  /-- A chain leads to every refresh token. -/
  chain : ∀ n < s.world.generated, outside.rtGenerate n ≠ "" →
    Obtained s.history (owner n) (outside.rtGenerate n)
  /-- Every record is of a refresh token, for its owner. -/
  record : ∀ key value deadline, s.world.redis.entries key = some (value, deadline) →
    ∃ n < s.world.generated, key = refreshKey (outside.rtGenerate n) ∧ value.owner = owner n

end

variable {manager : Manager T} {outside : Outside T} {w' : World T} {owner owner' : ℕ → Identity}
  {s : Managed T} {count count' : ℕ}

/-- What an outcome says stays true when more refresh tokens are made. -/
theorem Outcome.Traced.mono {o : Outcome} (h : o.Traced manager outside owner count)
    (hcount : count ≤ count') (howner : ∀ n < count, owner' n = owner n) :
    o.Traced manager outside owner' count' := by
  rcases o with ⟨who, result⟩ | ⟨rt, result⟩
  · obtain ⟨hcarries, n, hn, hrt, rfl⟩ := h
    exact ⟨hcarries, n, hn.trans_le hcount, hrt, howner n hn⟩
  · rcases h with hfailed | ⟨n, hn, hrt, hne, hsuccess, hcarries, hrotated⟩
    · exact Or.inl hfailed
    · refine Or.inr ⟨n, hn.trans_le hcount, hrt, hne, hsuccess, ?_, fun hnew => ?_⟩
      · rw [howner n hn]
        exact hcarries
      · obtain ⟨m, hm, hnewrt, hsame⟩ := hrotated hnew
        exact ⟨m, hm.trans_le hcount, hnewrt, by rw [howner m hm, howner n hn, hsame]⟩

theorem Obtained.mono {history history' : List Outcome} (hsub : history ⊆ history') {who : Identity}
    {rt : String} (h : Obtained history who rt) : Obtained history' who rt := by
  induction h with
  | root hmem => exact .root (hsub hmem)
  | refreshed _ hmem hnew ih => exact .refreshed ih (hsub hmem) hnew

/-- A chain leads to a refresh token that was made for its root. -/
theorem Traced.obtained (hinj : outside.rtGenerate.Injective) (h : Traced manager outside owner s)
    {who : Identity} {rt : String} (hobtained : Obtained s.history who rt) :
    ∃ n < s.world.generated, outside.rtGenerate n = rt ∧ owner n = who := by
  induction hobtained with
  | root hmem => exact (h.outcome _ hmem).2
  | refreshed _ hmem hnew ih =>
    obtain ⟨n, -, hn, hwho⟩ := ih
    rcases h.outcome _ hmem with ⟨-, -, hnone⟩ | ⟨n', -, hn', -, -, -, hrotated⟩
    · exact absurd hnone hnew
    · obtain ⟨m, hm, hrt, hsame⟩ := hrotated hnew
      have hnn : n' = n := hinj (hn'.trans hn.symm)
      exact ⟨m, hm, hrt, by rw [hsame, hnn, hwho]⟩

/-- The tokens are for the roots of their chains. -/
theorem Traced.sameIdentity (hinj : outside.rtGenerate.Injective)
    (h : Traced manager outside owner s) : SameIdentity manager s := by
  constructor
  · intro who result hmem
    exact (h.outcome _ hmem).1
  · intro rt result hmem hsuccess
    rcases h.outcome _ hmem with ⟨hfailed, -⟩ | ⟨n, hn, hrt, hne, -, hcarries, -⟩
    · rw [hsuccess] at hfailed
      exact absurd hfailed (by simp)
    · constructor
      · refine ⟨owner n, ?_⟩
        rw [← hrt]
        exact h.chain n hn (by rw [hrt]; exact hne)
      · intro who hobtained
        obtain ⟨n', -, hrt', rfl⟩ := h.obtained hinj hobtained
        rw [hinj (hrt'.trans hrt.symm)]
        exact hcarries
  · intro rt result hmem hfailed
    rcases h.outcome _ hmem with ⟨-, htokens⟩ | ⟨-, -, -, -, hsuccess, -⟩
    · exact htokens
    · rw [hfailed] at hsuccess
      exact absurd hsuccess (by simp)
  · intro who rt value deadline hobtained hentry
    -- No two tokens are the same, so that the record is that of the token.
    obtain ⟨n, -, hrt, rfl⟩ := h.obtained hinj hobtained
    obtain ⟨n', -, hkey, howner⟩ := h.record _ value deadline hentry
    have hnn : n = n' := hinj (hrt.trans (refreshKey_inj.mp hkey))
    rw [hnn, howner]

/-- A call that makes no refresh token. -/
theorem Traced.keep (h : Traced manager outside owner s) (hkeeps : Keeps s.world w')
    (new : List Outcome) (hnew : ∀ o ∈ new, o.Traced manager outside owner s.world.generated) :
    Traced manager outside owner ⟨w', s.history ++ new⟩ := by
  constructor
  · intro o ho
    change o.Traced manager outside owner w'.generated
    rw [hkeeps.generated]
    rcases List.mem_append.mp ho with hold | hlast
    · exact h.outcome o hold
    · exact hnew o hlast
  · intro n hn hne
    change n < w'.generated at hn
    rw [hkeeps.generated] at hn
    exact (h.chain n hn hne).mono (List.subset_append_left _ _)
  · intro key value deadline hentry
    obtain ⟨old, before, hold, hsame⟩ := hkeeps.owner key value deadline hentry
    obtain ⟨n, hn, hkey, howner⟩ := h.record key old before hold
    exact ⟨n, hkeeps.generated ▸ hn, hkey, hsame.trans howner⟩

/-- A call that makes a refresh token. -/
theorem Traced.add {who : Identity} {o : Outcome} (h : Traced manager outside owner s)
    (hadds : Adds outside who s.world w')
    (hnew : o.Traced manager outside (Function.update owner s.world.generated who)
      (s.world.generated + 1))
    (hchain : outside.rtGenerate s.world.generated ≠ "" →
      Obtained (s.history ++ [o]) who (outside.rtGenerate s.world.generated)) :
    Traced manager outside (Function.update owner s.world.generated who)
      ⟨w', s.history ++ [o]⟩ := by
  -- The owners of the tokens that were made before stay.
  have howner : ∀ n < s.world.generated,
      Function.update owner s.world.generated who n = owner n := by
    intro n hn
    exact Function.update_of_ne hn.ne _ _
  constructor
  · intro o' ho'
    change o'.Traced manager outside _ w'.generated
    rw [hadds.generated]
    rcases List.mem_append.mp ho' with hold | hlast
    · exact (h.outcome o' hold).mono (Nat.le_succ _) howner
    · rw [List.mem_singleton.mp hlast]
      exact hnew
  · intro n hn hne
    change n < w'.generated at hn
    rw [hadds.generated] at hn
    rcases Nat.lt_succ_iff_lt_or_eq.mp hn with hlt | rfl
    · rw [howner n hlt]
      exact (h.chain n hlt hne).mono (List.subset_append_left _ _)
    · rw [Function.update_self]
      exact hchain hne
  · intro key value deadline hentry
    rcases hadds.owner key value deadline hentry with ⟨old, before, hold, hsame⟩ | ⟨hkey, hwho⟩
    · obtain ⟨n, hn, hkey, hold⟩ := h.record key old before hold
      refine ⟨n, ?_, hkey, by rw [howner n hn, hsame, hold]⟩
      exact hadds.generated ▸ Nat.lt_succ_of_lt hn
    · refine ⟨s.world.generated, ?_, hkey, by rw [Function.update_self, hwho]⟩
      exact hadds.generated ▸ Nat.lt_succ_self _

/-- A call that gives no tokens. -/
theorem Traced.keepWorld (h : Traced manager outside owner s) (hkeeps : Keeps s.world w') :
    Traced manager outside owner { s with world := w' } := by
  have hkeep := h.keep hkeeps [] (fun o ho => absurd ho List.not_mem_nil)
  rw [List.append_nil] at hkeep
  exact hkeep

end Traced

/-- Every call keeps track of the owners. -/
theorem traced_step {T : Type} [LinearOrder T] [Ring T] [FloorRing T] {manager : Manager T}
    {outside : Outside T} {owner : ℕ → Identity} {s : Managed T}
    (hsigns : ∀ claims, manager.jwt.Signs claims) (h : Traced manager outside owner s)
    (call : ManagerCall) :
    ∃ owner', Traced manager outside owner' (s.step manager outside call) := by
  rcases call with who | ⟨rt, deviceId⟩ | ⟨rt, deviceId⟩ | rt | rt | rt
  · have hadds : Adds outside who s.world ((generateTokens manager who).exec (handle outside)
        s.world).2 := by
      have hgenerate := adds_generateRefreshToken manager outside
        ((issueAccessToken manager who).exec (handle outside) s.world).2 who 0
      exact ⟨hgenerate.generated, hgenerate.owner⟩
    refine ⟨_, h.add hadds ⟨?_, s.world.generated, Nat.lt_succ_self _, rfl, Function.update_self ..⟩
      fun _ => .root (List.mem_append_right _ (List.mem_singleton_self _))⟩
    exact carries_issueAccessToken hsigns outside s.world who
  · exact ⟨owner, h.keepWorld (keeps_verifyRefreshToken rt deviceId)⟩
  · rcases exec_refreshAccessToken_cases hsigns outside s.world rt deviceId with
      ⟨hresult, hworld⟩ | ⟨value, deadline, hne, hentry, hsuccess, hcarries, hmade, -⟩
    · refine ⟨owner, h.keep ?_ _ ?_⟩
      · rw [hworld]
        exact keeps_verifyRefreshToken rt deviceId
      · intro o ho
        rw [List.mem_singleton.mp ho, hresult]
        exact Or.inl ⟨rfl, rfl, rfl⟩
    · obtain ⟨n, hn, hkey, howner⟩ := h.record _ value deadline hentry
      have hrt : outside.rtGenerate n = rt := (refreshKey_inj.mp hkey).symm
      rw [howner] at hcarries hmade
      rcases hmade with ⟨hnone, hkeeps⟩ | ⟨hnew, hadds⟩
      · refine ⟨owner, h.keep hkeeps _ fun o ho => ?_⟩
        rw [List.mem_singleton.mp ho]
        exact Or.inr ⟨n, hn, hrt, hne, hsuccess, hcarries, fun hsome => absurd hnone hsome⟩
      · refine ⟨_, h.add hadds ?_ fun hsome => ?_⟩
        · refine Or.inr ⟨n, Nat.lt_succ_of_lt hn, hrt, hne, hsuccess, ?_, fun _ => ?_⟩
          · rw [Function.update_of_ne hn.ne]
            exact hcarries
          · refine ⟨s.world.generated, Nat.lt_succ_self _, hnew.symm, ?_⟩
            rw [Function.update_self, Function.update_of_ne hn.ne]
        · -- The chain that leads to the old token goes on to the new one.
          have hfrom : Obtained s.history (owner n) rt := by
            rw [← hrt]
            exact h.chain n hn (by rw [hrt]; exact hne)
          rw [← hnew] at hsome ⊢
          exact .refreshed (hfrom.mono (List.subset_append_left _ _))
            (List.mem_append_right _ (List.mem_singleton_self _)) hsome
  · exact ⟨owner, h.keepWorld (keeps_setRevoked outside s.world true rt)⟩
  · exact ⟨owner, h.keepWorld (keeps_setRevoked outside s.world false rt)⟩
  · exact ⟨owner, h.keepWorld (keeps_delRefreshToken rt)⟩

/-! ## Tokens that were presented from another device -/

section Blocked

variable {T : Type} [LinearOrder T] {outside : Outside T} {rt deviceId : String} {w w' : World T}

/-- The token is not accepted: its record is revoked, or past its deadline, or not there. -/
def Blocked (outside : Outside T) (rt : String) (w : World T) : Prop :=
  ∀ value deadline, w.redis.entries (refreshKey rt) = some (value, deadline) →
    value.revoked = true ∨ ∃ d, deadline = some d ∧ d < outside.clock w.ticks

/-- A token stays blocked as long as its record does not become valid. -/
theorem Blocked.spares (h : Blocked outside rt w) (hspares : Spares (refreshKey rt) w w') :
    Blocked outside rt w' := by
  intro value deadline hentry
  rcases hspares.entry with hsame | hgone | ⟨written, before, hwritten, hrevoked⟩
  · rw [hsame] at hentry
    refine (h value deadline hentry).imp_right ?_
    rintro ⟨d, hd, hlt⟩
    exact ⟨d, hd, hlt.trans_le (outside.clock.monotone hspares.ticks)⟩
  · rw [hgone] at hentry
    exact absurd hentry (by simp)
  · rw [hwritten] at hentry
    left
    rw [← (Prod.mk.inj (Option.some.inj hentry)).1]
    exact hrevoked

/-- A token whose key is not there is blocked. -/
theorem blocked_of_get_eq_none (h : w.redis.get (outside.clock w.ticks) (refreshKey rt) = none) :
    Blocked outside rt w := by
  intro value deadline hentry
  right
  by_contra hnone
  push Not at hnone
  have hthere : w.redis.get (outside.clock w.ticks) (refreshKey rt) = some value :=
    ExpiringStore.get_eq_some.mpr ⟨deadline, hentry, fun d hd => hnone d hd⟩
  rw [h] at hthere
  exact absurd hthere (by simp)

variable [Ring T]

/-- No device is accepted with a blocked token. -/
theorem Blocked.verify (h : Blocked outside rt w) (deviceId : String) :
    ((verifyRefreshToken rt deviceId).exec (handle outside) w).1 = none := by
  rcases exec_verifyRefreshToken_cases outside w rt deviceId with ⟨-, hout⟩ | ⟨-, -, hout⟩ |
    ⟨_, -, -, -, hout⟩ | ⟨decode, -, hget, -, hout⟩
  · rw [hout]
  · rw [hout]
  · rw [hout]
  · obtain ⟨deadline, hentry, halive⟩ := ExpiringStore.get_eq_some.mp hget
    rcases h decode deadline hentry with hrevoked | ⟨d, hd, hlt⟩
    · rw [hout, hrevoked]
      rfl
    · exact absurd (halive d hd) (not_le.mpr hlt)

/-- A token that is presented from a device that its record is not for is rejected, and blocked. -/
theorem blocked_presented (outside : Outside T) (hne : rt ≠ "")
    (hdevice : ∀ value deadline, w.redis.entries (refreshKey rt) = some (value, deadline) →
      value.owner.deviceId ≠ deviceId) :
    ((verifyRefreshToken rt deviceId).exec (handle outside) w).1 = none ∧
      Blocked outside rt ((verifyRefreshToken rt deviceId).exec (handle outside) w).2 := by
  have htick : Spares (refreshKey rt) w { w with ticks := w.ticks + 1 } :=
    ⟨Nat.le_succ _, Or.inl rfl⟩
  rcases exec_verifyRefreshToken_cases outside w rt deviceId with ⟨hempty, -⟩ | ⟨-, hget, hout⟩ |
    ⟨_, -, -, -, hout⟩ | ⟨decode, -, hget, hsame, -⟩
  · exact absurd hempty hne
  · rw [hout]
    exact ⟨rfl, (blocked_of_get_eq_none hget).spares htick⟩
  · -- `revoke_refresh_token` reads the record once more, and may find that it has expired.
    rw [hout]
    refine ⟨rfl, ?_⟩
    obtain ⟨-, hticks, -, ⟨hgone, hentry⟩ | ⟨written, -, hrevoked⟩⟩ :=
      exec_setRevoked_cases outside { w with ticks := w.ticks + 1 } true rt
    · exact (blocked_of_get_eq_none hgone).spares ⟨hticks.le, Or.inl hentry⟩
    · intro value deadline hentry
      left
      rw [hrevoked value deadline hentry]
  · obtain ⟨deadline, hentry, -⟩ := ExpiringStore.get_eq_some.mp hget
    exact absurd hsame (hdevice decode deadline hentry)

variable [FloorRing T] {manager : Manager T} {s : Managed T}

/-- A token that was made and is blocked stays so in every call but `unrevoke_refresh_token` of
it. -/
theorem blocked_step (hinj : outside.rtGenerate.Injective)
    (hsigns : ∀ claims, manager.jwt.Signs claims) (h : Blocked outside rt s.world)
    (hissued : ∃ n < s.world.generated, outside.rtGenerate n = rt) (call : ManagerCall)
    (hcall : call ≠ .request (.unrevoke rt)) :
    Blocked outside rt (s.step manager outside call).world := by
  have hother : refreshKey rt ≠ refreshKey (outside.rtGenerate s.world.generated) := by
    obtain ⟨n, hn, rfl⟩ := hissued
    intro hkey
    exact hn.ne (hinj (refreshKey_inj.mp hkey))
  apply h.spares
  rcases call with who | ⟨token, deviceId⟩ | ⟨token, deviceId⟩ | token | token | token
  · have hspares := spares_generateRefreshToken manager outside
      ((issueAccessToken manager who).exec (handle outside) s.world).2 who 0 hother
    exact ⟨(Nat.le_add_right _ 2).trans hspares.ticks, hspares.entry⟩
  · exact spares_verifyRefreshToken _ token deviceId
  · rcases exec_refreshAccessToken_cases hsigns outside s.world token deviceId with
      ⟨-, hworld⟩ | ⟨_, _, -, -, -, -, -, hspares⟩
    · change Spares _ _ ((refreshAccessToken manager token deviceId).exec (handle outside) s.world).2
      rw [hworld]
      exact spares_verifyRefreshToken _ token deviceId
    · exact hspares _ hother
  · exact spares_revoke outside s.world _ token
  · refine spares_unrevoke fun hkey => hcall ?_
    rw [refreshKey_inj.mp hkey]
  · exact spares_delRefreshToken _ token

/-- No call takes back a value of the generator. -/
theorem generated_le_step (s : Managed T) (call : ManagerCall) :
    s.world.generated ≤ (s.step manager outside call).world.generated := by
  have hexec : ∀ {α : Type} (p : Program T α),
      s.world.generated ≤ (p.exec (handle outside) s.world).2.generated := by
    intro α p
    exact CommandProgram.exec_mono (R := fun a b => a.generated ≤ b.generated)
      (fun _ => Nat.le_refl _) (fun _ _ _ => Nat.le_trans)
      (fun w c => generated_le_handle outside w c) p
  rcases call with who | ⟨token, deviceId⟩ | ⟨token, deviceId⟩ | token | token | token
  · exact hexec _
  · exact hexec _
  · exact hexec _
  · exact hexec _
  · exact hexec _
  · exact hexec _

end Blocked

/-! ## Any calls -/

section Runs

variable {T : Type} [LinearOrder T] [Ring T] [FloorRing T] {manager : Manager T}
  {outside : Outside T}

theorem traced_run (outside : Outside T) (hsigns : ∀ claims, manager.jwt.Signs claims)
    (calls : List ManagerCall) :
    ∃ owner, Traced manager outside owner
      (run (Managed.step manager outside) ⟨World.fresh, []⟩ calls) := by
  induction calls using List.reverseRecOn with
  | nil =>
    refine ⟨fun _ => ⟨"", "", "", ""⟩, ?_, ?_, ?_⟩
    · exact fun o ho => absurd ho List.not_mem_nil
    · exact fun n hn => absurd hn (Nat.not_lt_zero n)
    · exact fun key value deadline hentry =>
        absurd hentry (by simp [World.fresh, ExpiringStore.empty])
  | append_singleton calls call ih =>
    obtain ⟨owner, howner⟩ := ih
    rw [run_concat]
    exact traced_step hsigns howner call

/-- A token that was made and is blocked stays so in a run without `unrevoke_refresh_token` of
it. -/
theorem blocked_run (hinj : outside.rtGenerate.Injective)
    (hsigns : ∀ claims, manager.jwt.Signs claims) {rt : String} {s : Managed T}
    (h : Blocked outside rt s.world) (hissued : ∃ n < s.world.generated, outside.rtGenerate n = rt)
    (calls : List ManagerCall) (hcalls : .request (.unrevoke rt) ∉ calls) :
    Blocked outside rt (run (Managed.step manager outside) s calls).world := by
  have hinv : Blocked outside rt (run (Managed.step manager outside) s calls).world ∧
      ∃ n < (run (Managed.step manager outside) s calls).world.generated,
        outside.rtGenerate n = rt := by
    induction calls using List.reverseRecOn with
    | nil => exact ⟨h, hissued⟩
    | append_singleton calls call ih =>
      have hbefore := ih fun hmem => hcalls (List.mem_append_left _ hmem)
      have hcall : call ≠ .request (.unrevoke rt) := by
        rintro rfl
        exact hcalls (List.mem_append_right _ (List.mem_singleton_self _))
      rw [run_concat]
      refine ⟨blocked_step hinj hsigns hbefore.1 hbefore.2 call hcall, ?_⟩
      obtain ⟨n, hn, hrt⟩ := hbefore.2
      exact ⟨n, hn.trans_le (generated_le_step _ call), hrt⟩
  exact hinv.1

/-- In any calls of the manager, the tokens along a chain of refreshes are for the identity at its
root; and once a refresh token was presented from a device that it was not issued for, it is
accepted from no device until it is unrevoked. -/
theorem refresh_keeps_identity (manager : Manager T) (outside : Outside T)
    (hinj : outside.rtGenerate.Injective) (hsigns : ∀ claims, manager.jwt.Signs claims) :
    (∀ calls : List ManagerCall,
      SameIdentity manager (run (Managed.step manager outside) ⟨World.fresh, []⟩ calls)) ∧
    ∀ (before after : List ManagerCall) (present : ManagerCall) (who : Identity)
      (rt deviceId : String),
      Obtained (run (Managed.step manager outside) ⟨World.fresh, []⟩ before).history who rt →
      deviceId ≠ who.deviceId →
      (present = .request (.verify rt deviceId) ∨ present = .request (.refresh rt deviceId)) →
      .request (.unrevoke rt) ∉ after →
      ∀ anyDevice, ((verifyRefreshToken rt anyDevice).exec (handle outside)
        (run (Managed.step manager outside) ⟨World.fresh, []⟩
          (before ++ present :: after)).world).1 = none := by
  constructor
  · intro calls
    obtain ⟨owner, howner⟩ := traced_run outside hsigns calls
    exact howner.sameIdentity hinj
  · intro before after present who rt deviceId hobtained hdevice hpresent hafter anyDevice
    obtain ⟨owner, howner⟩ := traced_run outside hsigns before
    rcases eq_or_ne rt "" with rfl | hne
    · -- The empty token is never accepted.
      rfl
    have hrecord : ∀ value deadline,
        (run (Managed.step manager outside) ⟨World.fresh, []⟩ before).world.redis.entries
          (refreshKey rt) = some (value, deadline) → value.owner.deviceId ≠ deviceId := by
      intro value deadline hentry
      rw [(howner.sameIdentity hinj).record who rt value deadline hobtained hentry]
      exact hdevice.symm
    obtain ⟨hrejected, hblocked⟩ := blocked_presented outside hne hrecord
    have hpresented : Blocked outside rt ((run (Managed.step manager outside) ⟨World.fresh, []⟩
        before).step manager outside present).world := by
      rcases hpresent with rfl | rfl
      · exact hblocked
      · have hrefresh := exec_refreshAccessToken_of_none manager hrejected
        change Blocked outside rt ((refreshAccessToken manager rt deviceId).exec (handle outside)
          (run (Managed.step manager outside) ⟨World.fresh, []⟩ before).world).2
        rw [hrefresh]
        exact hblocked
    obtain ⟨n, hn, hrt, -⟩ := howner.obtained hinj hobtained
    have hissued : ∃ n < ((run (Managed.step manager outside) ⟨World.fresh, []⟩ before).step manager
        outside present).world.generated, outside.rtGenerate n = rt :=
      ⟨n, hn.trans_le (generated_le_step _ present), hrt⟩
    rw [run_append]
    exact (blocked_run hinj hsigns hpresented hissued after hafter).verify anyDevice

end Runs

/-- A text as numbers. -/
def charCodes (text : String) : List ℕ := text.toList.map Char.toNat

/-- The text of numbers. -/
def ofCharCodes (codes : List ℕ) : String := String.ofList (codes.map Char.ofNat)

theorem ofCharCodes_charCodes (text : String) : ofCharCodes (charCodes text) = text := by
  simp [ofCharCodes, charCodes, Function.comp_def]

/-- The fields of claims. -/
def Claims.fields (claims : Claims) : List (Option (List ℕ)) × List (Option ℤ) :=
  ([claims.jti.map charCodes, claims.sub.map charCodes, claims.username.map charCodes,
    claims.deviceId.map charCodes, claims.platform.map charCodes],
    [claims.iat, claims.nbf, claims.exp])

/-- The claims with the given fields. -/
def Claims.ofFields : List (Option (List ℕ)) × List (Option ℤ) → Option Claims
  | ([jti, sub, username, deviceId, platform], [iat, nbf, exp]) =>
    some ⟨jti.map ofCharCodes, sub.map ofCharCodes, iat, nbf, exp, username.map ofCharCodes,
      deviceId.map ofCharCodes, platform.map ofCharCodes⟩
  | _ => none

/-- Tokens that are the numbers of their claims. -/
def numberedJwt : Jwt where
  sign claims := Nat.repr (Encodable.encode claims.fields)
  decode token := (Encodable.decode (Nat.ofDigitChars 10 token.toList 0)).bind Claims.ofFields
  trusted _ := true

theorem numberedJwt_signs (claims : Claims) : numberedJwt.Signs claims := by
  constructor
  · simp [numberedJwt]
  · have hcodes : ofCharCodes ∘ charCodes = id := funext ofCharCodes_charCodes
    simp [numberedJwt, Claims.fields, Claims.ofFields, hcodes]
  · rfl

/-- A manager that gives a new refresh token at each refresh. -/
def rotatingManager : Manager ℤ where
  jwt := numberedJwt
  accessExpireSeconds _ := 5
  refreshExpireSeconds _ := 10
  belowPercentage _ _ := true

/-- Alice refreshes her token. In another run someone presents it from a laptop, and then Alice has
to log in again. -/
theorem refresh_keeps_identity_stolen :
    SameIdentity rotatingManager (run (Managed.step rotatingManager sameSecond) ⟨World.fresh, []⟩
      [.generateTokens aliceOnPhone, .request (.refresh (paddedToken 0) "phone")]) ∧
    ((verifyRefreshToken (paddedToken 0) "phone").exec (handle sameSecond)
      (run (Managed.step rotatingManager sameSecond) ⟨World.fresh, []⟩
        [.generateTokens aliceOnPhone, .request (.refresh (paddedToken 0) "laptop")]).world).1 =
      none := by
  have hall := refresh_keeps_identity rotatingManager sameSecond paddedToken_injective
    numberedJwt_signs
  constructor
  · exact hall.1 _
  · have hobtained : Obtained (run (Managed.step rotatingManager sameSecond) ⟨World.fresh, []⟩
        [.generateTokens aliceOnPhone]).history aliceOnPhone (paddedToken 0) :=
      Obtained.root (List.mem_singleton_self (Outcome.generated aliceOnPhone
        ((generateTokens rotatingManager aliceOnPhone).exec (handle sameSecond) World.fresh).1))
    exact hall.2 [.generateTokens aliceOnPhone] [] _ aliceOnPhone (paddedToken 0) "laptop" hobtained
      (by decide) (Or.inr rfl) List.not_mem_nil "phone"

end MyChat.Auth
