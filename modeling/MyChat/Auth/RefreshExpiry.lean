import MyChat.Auth.RefreshToken
import MyChat.Lib.Slots

/-!
# When a refresh token dies

Calls of the manager on refresh tokens, each from its own thread or gateway, take turns at Redis one
command at a time. A refresh token has an `expire_time`, but `verify_refresh_token` never compares
it with anything: the token dies because its key expires. `revoke_refresh_token` and
`unrevoke_refresh_token` write the record again, which takes the deadline of the key away, and give
the deadline back with a later command, from a `TTL` in whole seconds, and only when that was
positive. The deadline counts from the `EXPIRE`, which comes after the time that the `expire_time`
counts from. `refresh_token_dies` says what keeps a token from being accepted after its
`expire_time` in every interleaving of the calls: every `TTL` of its key finds time left, and no
`verify_refresh_token` reads the key between the `expire_time` and the deadline of the key, or after
the `expire_time` while a call stands between the two commands.
-/

namespace MyChat.Auth

open MyChat.Run

/-! ## Calls that take turns -/

/-- A call that is under way. -/
inductive Call (T : Type) where
  /-- The call is in `verify_refresh_token` of a token, and goes on with its result. -/
  | verifying (token : String) (p : Program T (Option (RefreshTokenInfo T)))
      (rest : Option (RefreshTokenInfo T) → Program T Unit)
  /-- The call is in no `verify_refresh_token`. -/
  | running (p : Program T Unit)

/-- A return of `verify_refresh_token`. -/
structure Returned (T : Type) where
  /-- The token. -/
  token : String
  /-- The result; `none` for `false`. -/
  result : Option (RefreshTokenInfo T)
  /-- The time of the last command of `verify_refresh_token`. -/
  time : T
  deriving DecidableEq, Repr

/-- The calls, and what they share. -/
structure Calls (T : Type) where
  /-- Redis, the clock, and the generator. -/
  world : World T
  /-- The calls that were made. -/
  calls : List (Call T)
  /-- The returns of `verify_refresh_token`. -/
  returned : List (Returned T)

/-- What happens to the calls. -/
inductive CallEvent where
  /-- A call is made. -/
  | call (request : Request)
  /-- A call sends its next command. -/
  | command (i : ℕ)

section
variable {T : Type} [LinearOrder T] [Ring T] [FloorRing T]

/-- What a request does, with its result dropped. -/
def Request.program (manager : Manager T) : Request → Program T Unit
  | .verify rt deviceId => do let _ ← verifyRefreshToken rt deviceId
  | .refresh rt deviceId => do let _ ← refreshAccessToken manager rt deviceId
  | .revoke rt => do let _ ← revokeRefreshToken rt
  | .unrevoke rt => do let _ ← unrevokeRefreshToken rt
  | .del rt => do let _ ← delRefreshToken rt

/-- The call that a request starts. -/
def Request.start (manager : Manager T) : Request → Call T
  | .verify rt deviceId => .verifying rt (verifyRefreshToken rt deviceId) fun _ => return
  | .refresh rt deviceId => .verifying rt (verifyRefreshToken rt deviceId) fun verified => do
      let _ ← refreshVerified manager rt verified
  | .revoke rt => .running (Request.program manager (.revoke rt))
  | .unrevoke rt => .running (Request.program manager (.unrevoke rt))
  | .del rt => .running (Request.program manager (.del rt))

/-- The program that a call has still to run. -/
def Call.program : Call T → Program T Unit
  | .verifying _ p rest => p >>= rest
  | .running p => p

/-- A call whose `verify_refresh_token` is done goes on with the result. -/
def Call.settle (time : T) : Call T → Call T × List (Returned T)
  | .verifying token (.done result) rest => (.running (rest result), [⟨token, result, time⟩])
  | call => (call, [])

variable (manager : Manager T) (outside : Outside T)

/-- A call sends its next command. -/
def Call.advance (w : World T) : Call T → Call T × World T
  | .verifying token p rest =>
    let next := p.advance (handle outside) w
    (.verifying token next.1 rest, next.2)
  | .running p =>
    let next := p.advance (handle outside) w
    (.running next.1, next.2)

/-- One step of the calls. -/
def Calls.step (s : Calls T) : CallEvent → Calls T
  | .call request =>
    let started := (request.start manager).settle (outside.clock s.world.ticks)
    { s with calls := s.calls ++ [started.1], returned := s.returned ++ started.2 }
  | .command i =>
    match s.calls[i]? with
    | none => s
    | some call =>
      let next := call.advance outside s.world
      let settled := next.1.settle (outside.clock s.world.ticks)
      ⟨next.2, s.calls.set i settled.1, s.returned ++ settled.2⟩

variable {manager outside}

/-- A call starts with all of its program. -/
theorem program_start (request : Request) :
    (request.start manager).program = request.program manager := by
  cases request with
  | verify rt deviceId => rfl
  | refresh rt deviceId => exact (CommandProgram.bind_assoc _ _ _).symm
  | revoke rt => rfl
  | unrevoke rt => rfl
  | del rt => rfl

omit [LinearOrder T] [Ring T] [FloorRing T] in
/-- To go on after `verify_refresh_token` takes nothing of the program away. -/
theorem program_settle (time : T) (call : Call T) :
    (call.settle time).1.program = call.program := by
  rcases call with ⟨token, _ | _, rest⟩ | p <;> rfl

omit [FloorRing T] in
/-- A command of a call is the next command of its program. -/
theorem program_advance (w : World T) (token : String) (c : Command T)
    (next : c.Reply → Program T (Option (RefreshTokenInfo T)))
    (rest : Option (RefreshTokenInfo T) → Program T Unit) :
    ((Call.verifying token (.call c next) rest).advance outside w).1.program =
      ((Call.verifying token (.call c next) rest).program.advance (handle outside) w).1 := rfl

end

/-! ## The condition -/

section
variable {T : Type} [LinearOrder T] [Ring T] [FloorRing T]

/-- The command that a call sends next. -/
def Call.pending : Call T → Option (Command T)
  | .verifying _ (.call c _) _ => some c
  | .running (.call c _) => some c
  | _ => none

/-- The call is in `verify_refresh_token`. -/
def Call.Verifying : Call T → Prop
  | .verifying .. => True
  | .running _ => False

variable (outside : Outside T) (rt : String) (expireTime : T)

/-- The condition on a call's next command, for a token and its `expire_time`. -/
structure Calls.InTime (s : Calls T) (call : Call T) : Prop where
  /-- A `TTL` of the token's key finds at least a second left. -/
  ttl : call.pending = some (.ttl (refreshKey rt)) →
    0 < s.world.redis.ttl outside.wholeSeconds (outside.clock s.world.ticks) (refreshKey rt)
  /-- When `verify_refresh_token` reads the key after `expire_time`, the deadline of the key has
  passed too. -/
  deadline : call.Verifying → call.pending = some (.get (refreshKey rt)) →
    expireTime < outside.clock s.world.ticks →
    ∀ value d, s.world.redis.entries (refreshKey rt) = some (value, some d) →
      d < outside.clock s.world.ticks
  /-- When `verify_refresh_token` reads the key after `expire_time`, no call is between its `SET`
  and its `EXPIRE` of the key. -/
  restored : call.Verifying → call.pending = some (.get (refreshKey rt)) →
    expireTime < outside.clock s.world.ticks →
    ∀ other ∈ s.calls, ∀ seconds, other.pending ≠ some (.expire (refreshKey rt) seconds)

/-- The condition on a step. -/
def Calls.StepInTime (s : Calls T) : CallEvent → Prop
  | .call _ => True
  | .command i => ∀ call, s.calls[i]? = some call → s.InTime outside rt expireTime call

end

/-! ## What the programs do to a key -/

section
variable {T α : Type} (rt : String)

/-- What the replies to the commands are like in time: `TTL` of the token's key is positive, and
`rt_generate` gives other tokens. -/
def ReplyInTime : (c : Command T) → c.Reply → Prop
  | .ttl key, seconds => key = refreshKey rt → 0 < seconds
  | .rtGenerate, value => value ≠ rt
  | _, _ => True

/-- What comes next: after a `SET` of the token's key, an `EXPIRE` of it. -/
def Restores : (c : Command T) → (c.Reply → Program T α) → Prop
  | .set key _, next => key = refreshKey rt → ∃ n rest, next () = .call (.expire key n) rest
  | _, _ => True

/-- As long as the replies are in time, the program gives the key of the token its deadline back
whenever it takes it away. -/
def Fits : Program T α → Prop
  | .done _ => True
  | .call c next => Restores rt c next ∧ ∀ reply, ReplyInTime rt c reply → Fits (next reply)

/-- The result of the command is that the token's key is there. -/
def Found : (c : Command T) → c.Reply → Prop
  | .get key, stored => key = refreshKey rt ∧ stored ≠ none
  | _, _ => False

/-- The program has a result other than `none` only right after it found the key of the token. -/
def Vouched : Program T (Option α) → Prop
  | .done result => result = none
  | .call c next =>
    ∀ reply, Vouched (next reply) ∨ Found rt c reply ∧ ∃ a, next reply = .done (some a)

/-- What holds of every call that is under way. -/
def Call.Fits : Call T → Prop
  | .verifying token p rest =>
      Auth.Fits rt p ∧ Vouched token p ∧ ∀ result, Auth.Fits rt (rest result)
  | .running p => Auth.Fits rt p

variable {rt}

/-- One program after the other. -/
theorem fits_bind {β : Type} {p : Program T β} {rest : β → Program T α} (h : Fits rt p)
    (hrest : ∀ b, Fits rt (rest b)) : Fits rt (p >>= rest) := by
  induction p with
  | done b => exact hrest b
  | call c next ih =>
    obtain ⟨hrestores, hnext⟩ := h
    refine ⟨?_, fun reply hreply => ih reply (hnext reply hreply)⟩
    cases c with
    | set key value =>
      intro hkey
      obtain ⟨n, after, hafter⟩ := hrestores hkey
      exact ⟨n, fun reply => after reply >>= rest, congrArg (· >>= rest) hafter⟩
    | _ => trivial

/-- The record is written again only after a `TTL`, and when that was positive the deadline comes
back. -/
theorem fits_setRevoked (revoked : Bool) (token : String) :
    Fits rt (setRevoked revoked token : Program T Bool) := by
  refine ⟨trivial, fun stored _ => ?_⟩
  rcases stored with _ | decode
  · trivial
  refine ⟨trivial, fun remaining hremaining => ?_⟩
  -- The program is now at its `SET`, and `remaining` decides what comes after it.
  show Fits rt (.call (.set (refreshKey token) { decode with revoked }) fun _ =>
    (if remaining > 0 then .call (.expire (refreshKey token) (toInt remaining)) fun _ => .done true
      else .done true : Program T Bool))
  constructor
  · intro hkey
    rw [if_pos (hremaining hkey)]
    exact ⟨_, _, rfl⟩
  · intro _ _
    split_ifs
    · exact ⟨trivial, fun _ _ => trivial⟩
    · trivial

theorem fits_delRefreshToken (token : String) : Fits rt (delRefreshToken token : Program T Bool) :=
  ⟨trivial, fun _ _ => ⟨trivial, fun _ _ => trivial⟩⟩

theorem fits_verifyRefreshToken (token deviceId : String) :
    Fits rt (verifyRefreshToken token deviceId : Program T _) := by
  unfold verifyRefreshToken
  split_ifs
  · trivial
  · refine ⟨trivial, fun stored _ => ?_⟩
    rcases stored with _ | decode
    · trivial
    · show Fits rt (ite _ _ _ : Program T _)
      split_ifs
      · exact fits_bind (fits_setRevoked true token) fun _ => trivial
      · trivial
      · trivial

/-- A program that ends with `none` has no other result. -/
theorem vouched_bind_none {β : Type} {token : String} (p : Program T β) :
    Vouched token (p >>= fun _ => (.done none : Program T (Option α))) := by
  induction p with
  | done b => rfl
  | call c next ih => exact fun reply => Or.inl (ih reply)

/-- `verify_refresh_token` returns `true` only right after it found the token's key. -/
theorem vouched_verifyRefreshToken (token deviceId : String) :
    Vouched token (verifyRefreshToken token deviceId : Program T _) := by
  unfold verifyRefreshToken
  split_ifs
  · rfl
  · intro stored
    rcases stored with _ | decode
    · exact Or.inl rfl
    · show Vouched token (ite _ _ _ : Program T _) ∨
        _ ∧ ∃ a, (ite _ _ _ : Program T _) = .done (some a)
      split_ifs
      · exact Or.inl (vouched_bind_none _)
      · exact Or.inl rfl
      · exact Or.inr ⟨⟨rfl, by simp⟩, _, rfl⟩

variable [LinearOrder T] [Ring T] [FloorRing T] {manager : Manager T}

omit [LinearOrder T] [FloorRing T] in
/-- A new token is another token. -/
theorem fits_generateRefreshToken (who : Identity) (expireSeconds : ℤ) :
    Fits rt (generateRefreshToken manager who expireSeconds) := by
  refine ⟨trivial, fun now _ => ⟨trivial, fun value hvalue => ⟨fun hkey => ?_, fun _ _ => ?_⟩⟩⟩
  · exact absurd (refreshKey_inj.mp hkey) hvalue
  · exact ⟨trivial, fun _ _ => trivial⟩

theorem fits_issueAccessToken (who : Identity) : Fits rt (issueAccessToken manager who) :=
  ⟨trivial, fun _ _ => ⟨trivial, fun _ _ => trivial⟩⟩

theorem fits_refreshVerified (token : String) (verified : Option (RefreshTokenInfo T)) :
    Fits rt (refreshVerified manager token verified) := by
  rcases verified with _ | userInfo
  · trivial
  have hrotate : Fits rt (shouldRotateRefreshToken manager token) := by
    refine ⟨trivial, fun stored _ => ?_⟩
    rcases stored with _ | decode
    · trivial
    · exact ⟨trivial, fun _ _ => trivial⟩
  refine fits_bind hrotate fun rotate => ?_
  split_ifs
  · refine fits_bind (fits_generateRefreshToken userInfo.owner 0) fun _ => ?_
    exact fits_bind (fits_issueAccessToken userInfo.owner) fun _ => trivial
  · exact fits_bind (fits_issueAccessToken userInfo.owner) fun _ => trivial

/-- Every call starts so. -/
theorem fits_start (manager : Manager T) (rt : String) (request : Request) :
    (request.start manager).Fits rt := by
  cases request with
  | verify token deviceId =>
    exact ⟨fits_verifyRefreshToken _ _, vouched_verifyRefreshToken _ _, fun _ => trivial⟩
  | refresh token deviceId =>
    refine ⟨fits_verifyRefreshToken _ _, vouched_verifyRefreshToken _ _, fun verified => ?_⟩
    exact fits_bind (fits_refreshVerified token verified) fun _ => trivial
  | revoke token => exact fits_bind (fits_setRevoked true token) fun _ => trivial
  | unrevoke token => exact fits_bind (fits_setRevoked false token) fun _ => trivial
  | del token => exact fits_bind (fits_delRefreshToken token) fun _ => trivial

end

/-! ## One command of a call -/

section
variable {T : Type} {rt token : String} {p : Program T (Option (RefreshTokenInfo T))}
  {rest : Option (RefreshTokenInfo T) → Program T Unit} {time : T}

theorem fits_settle (hp : Fits rt p) (hrest : ∀ result, Fits rt (rest result))
    (hresult : Vouched token p ∨ ∃ info, p = .done (some info)) :
    ((Call.verifying token p rest).settle time).1.Fits rt := by
  rcases p with result | ⟨c, next⟩
  · exact hrest result
  · refine ⟨hp, hresult.resolve_right ?_, hrest⟩
    rintro ⟨info, hdone⟩
    exact absurd hdone (by simp)

/-- `verify_refresh_token` returns when its program is done. -/
theorem of_mem_settle {r : Returned T} (h : r ∈ ((Call.verifying token p rest).settle time).2) :
    r.token = token ∧ r.time = time ∧ p = .done r.result := by
  rcases p with result | ⟨c, next⟩
  · rw [List.mem_singleton.mp h]
    exact ⟨rfl, rfl, rfl⟩
  · exact absurd h List.not_mem_nil

/-- A call goes on after `verify_refresh_token`. When there was no command right before, the result
was `false`. -/
theorem fits_settle_start {call : Call T} (time : T) (h : call.Fits rt) :
    (call.settle time).1.Fits rt ∧ ∀ r ∈ (call.settle time).2, r.result = none := by
  rcases call with ⟨token, p, rest⟩ | p
  · obtain ⟨hp, hvouched, hrest⟩ := h
    refine ⟨fits_settle hp hrest (Or.inl hvouched), fun r hr => ?_⟩
    obtain ⟨-, -, rfl⟩ := of_mem_settle hr
    exact hvouched
  · exact ⟨h, fun r hr => absurd hr List.not_mem_nil⟩

variable [LinearOrder T] [Ring T] {outside : Outside T} {w : World T}

/-- Only `GET` can find a key. -/
theorem of_found {c : Command T} (h : Found token c (handle outside w c).1) :
    c = .get (refreshKey token) ∧
      w.redis.get (outside.clock w.ticks) (refreshKey token) ≠ none := by
  cases c with
  | get key =>
    obtain ⟨rfl, hfound⟩ := h
    exact ⟨rfl, hfound⟩
  | _ => exact h.elim

/-- A command of a call, and what the call is after it. -/
theorem advance_cases (outside : Outside T) (w : World T) (time : T) {call : Call T}
    (h : call.Fits rt) :
    let next := call.advance outside w
    let settled := next.1.settle time
    (call.pending = none ∧ next.2 = w ∧ settled.1.Fits rt ∧ ∀ r ∈ settled.2, r.result = none) ∨
    ∃ c, call.pending = some c ∧ next.2 = (handle outside w c).2 ∧
      (∀ value, c = .set (refreshKey rt) value →
        ∃ n, settled.1.pending = some (.expire (refreshKey rt) n)) ∧
      (ReplyInTime rt c (handle outside w c).1 → settled.1.Fits rt) ∧
      ∀ r ∈ settled.2, r.result ≠ none →
        call.Verifying ∧ r.time = time ∧ Found r.token c (handle outside w c).1 := by
  rcases call with ⟨token, result | ⟨c, next⟩, rest⟩ | _ | ⟨c, next⟩
  · exact Or.inl ⟨rfl, rfl, fits_settle_start time h⟩
  · obtain ⟨⟨hrestores, hnext⟩, hvouched, hrest⟩ := h
    -- A call of `verify_refresh_token` in the middle, and the rest of what it calls for.
    have hgoes := hvouched (handle outside w c).1
    refine Or.inr ⟨c, rfl, rfl, ?_, ?_, ?_⟩
    · rintro value rfl
      obtain ⟨n, after, hafter⟩ := hrestores rfl
      refine ⟨n, ?_⟩
      show ((Call.verifying token (next ()) rest).settle time).1.pending = _
      rw [hafter]
      rfl
    · intro hreply
      exact fits_settle (hnext _ hreply) hrest (hgoes.imp_right fun hfound => hfound.2)
    · intro r hr hresult
      obtain ⟨rfl, htime, hdone⟩ := of_mem_settle hr
      change next (handle outside w c).1 = .done r.result at hdone
      refine ⟨trivial, htime, ?_⟩
      rcases hgoes with hgoes | ⟨hfound, -⟩
      · rw [hdone] at hgoes
        exact absurd hgoes hresult
      · exact hfound
  · exact Or.inl ⟨rfl, rfl, fits_settle_start time h⟩
  · obtain ⟨hrestores, hnext⟩ := h
    refine Or.inr ⟨c, rfl, rfl, ?_, hnext _, fun r hr => absurd hr List.not_mem_nil⟩
    rintro value rfl
    obtain ⟨n, after, hafter⟩ := hrestores rfl
    refine ⟨n, ?_⟩
    show (Call.running (next ())).pending = _
    rw [hafter]
    rfl

end

/-! ## The invariant -/

section
variable {T : Type} [LinearOrder T] [Ring T]

/-- What holds of a token as long as every step is in time. -/
structure Dying (outside : Outside T) (rt : String) (expireTime : T) (s : Calls T) : Prop where
  /-- `rt_generate` gave the token. -/
  issued : ∃ n < s.world.generated, outside.rtGenerate n = rt
  /-- When the key has no deadline, a call is about to give it one. -/
  pending : ∀ value, s.world.redis.entries (refreshKey rt) = some (value, none) →
    ∃ (j : ℕ) (call : Call T) (seconds : ℤ), s.calls[j]? = some call ∧
      call.pending = some (.expire (refreshKey rt) seconds)
  /-- The calls treat the key as they should. -/
  fits : ∀ call ∈ s.calls, call.Fits rt
  /-- The token was not accepted after `expire_time`. -/
  returned : ∀ r ∈ s.returned, r.token = rt → r.result ≠ none → r.time ≤ expireTime

variable {outside : Outside T} {rt : String} {expireTime : T} {s : Calls T}

/-- A command that is in time has a reply in time. -/
theorem replyInTime_handle (hinj : outside.rtGenerate.Injective)
    (hissued : ∃ n < s.world.generated, outside.rtGenerate n = rt) {call : Call T} {c : Command T}
    (hc : call.pending = some c) (hcond : s.InTime outside rt expireTime call) :
    ReplyInTime rt c (handle outside s.world c).1 := by
  cases c with
  | ttl key =>
    rintro rfl
    exact hcond.ttl hc
  | rtGenerate =>
    obtain ⟨n, hn, rfl⟩ := hissued
    intro hsame
    have hlast : s.world.generated = n := hinj hsame
    omega
  | _ => trivial

omit [Ring T] in
/-- The call that is about to give the key a deadline is still there after another one has become
`next`. -/
theorem Dying.pending_set (h : Dying outside rt expireTime s) {i : ℕ} {call : Call T}
    (hi : s.calls[i]? = some call)
    (hother : ∀ seconds, call.pending ≠ some (.expire (refreshKey rt) seconds)) (next : Call T)
    {value : RefreshMeta T} (hvalue : s.world.redis.entries (refreshKey rt) = some (value, none)) :
    ∃ (j : ℕ) (other : Call T) (seconds : ℤ), (s.calls.set i next)[j]? = some other ∧
      other.pending = some (.expire (refreshKey rt) seconds) := by
  obtain ⟨j, other, seconds, hj, hpending⟩ := h.pending value hvalue
  have hji : j ≠ i := by
    rintro rfl
    rw [hi] at hj
    rw [← Option.some.inj hj] at hpending
    exact hother seconds hpending
  have hset : (s.calls.set i next)[j]? = some other := by
    rw [Slots.getElem?_set hi, if_neg hji, hj]
  exact ⟨j, other, seconds, hset, hpending⟩

/-- After a command the key has a deadline, or a call is about to give it one, where the call that
sent the command has become `next`. -/
theorem dying_entry (h : Dying outside rt expireTime s) {i : ℕ} {call next : Call T} {c : Command T}
    (hi : s.calls[i]? = some call) (hc : call.pending = some c)
    (hset : ∀ value, c = .set (refreshKey rt) value →
      ∃ n, next.pending = some (.expire (refreshKey rt) n)) {value : RefreshMeta T}
    (hvalue : (handle outside s.world c).2.redis.entries (refreshKey rt) = some (value, none)) :
    ∃ (j : ℕ) (other : Call T) (seconds : ℤ), (s.calls.set i next)[j]? = some other ∧
      other.pending = some (.expire (refreshKey rt) seconds) := by
  rcases entry_handle outside s.world (refreshKey rt) c with
    ⟨hsame, hother⟩ | ⟨stored, rfl, hstored⟩ | ⟨n, rfl, hexpire⟩ | ⟨rfl, hgone⟩
  · -- Whoever was about to give the key a deadline is another call.
    have hquiet : ∀ seconds, call.pending ≠ some (.expire (refreshKey rt) seconds) := by
      intro seconds hpending
      rw [hc] at hpending
      exact hother seconds (Option.some.inj hpending)
    rw [hsame] at hvalue
    exact h.pending_set hi hquiet next hvalue
  · obtain ⟨n, hn⟩ := hset stored rfl
    exact ⟨i, next, n, Slots.getElem?_set_self hi, hn⟩
  · obtain ⟨d', hd', -⟩ := hexpire value _ hvalue
    exact absurd hd' (by simp)
  · rw [hgone] at hvalue
    exact absurd hvalue (by simp)

/-- When `verify_refresh_token` finds the token's key in time, it is not after `expire_time`. -/
theorem dying_found (h : Dying outside rt expireTime s) {call : Call T}
    (hcond : s.InTime outside rt expireTime call) (hverifying : call.Verifying)
    (hc : call.pending = some (.get (refreshKey rt)))
    (hfound : s.world.redis.get (outside.clock s.world.ticks) (refreshKey rt) ≠ none) :
    outside.clock s.world.ticks ≤ expireTime := by
  by_contra hlate
  obtain ⟨value, hvalue⟩ := Option.ne_none_iff_exists'.mp hfound
  obtain ⟨_ | d, hentry, hle⟩ := ExpiringStore.get_eq_some.mp hvalue
  · -- The key has no deadline, so that a call is about to give it one.
    obtain ⟨j, other, seconds, hj, hpending⟩ := h.pending value hentry
    exact hcond.restored hverifying hc (not_le.mp hlate) other (List.mem_of_getElem? hj) seconds
      hpending
  · exact absurd (hle d rfl) (not_le.mpr (hcond.deadline hverifying hc (not_le.mp hlate) value d
      hentry))

omit [Ring T] in
/-- A call has become `next` and has returned `results`: what is left to say of the key, of the
call, and of the results. -/
theorem Dying.settle (h : Dying outside rt expireTime s) {i : ℕ} {next : Call T} {w : World T}
    {results : List (Returned T)} (hgenerated : s.world.generated ≤ w.generated)
    (hpending : ∀ value, w.redis.entries (refreshKey rt) = some (value, none) →
      ∃ (j : ℕ) (other : Call T) (seconds : ℤ), (s.calls.set i next)[j]? = some other ∧
        other.pending = some (.expire (refreshKey rt) seconds))
    (hfits : next.Fits rt)
    (hresults : ∀ r ∈ results, r.token = rt → r.result ≠ none → r.time ≤ expireTime) :
    Dying outside rt expireTime ⟨w, s.calls.set i next, s.returned ++ results⟩ := by
  constructor
  · obtain ⟨n, hn, hrt⟩ := h.issued
    exact ⟨n, hn.trans_le hgenerated, hrt⟩
  · exact hpending
  · intro other hother
    rcases List.mem_or_eq_of_mem_set hother with hold | rfl
    · exact h.fits other hold
    · exact hfits
  · intro r hr htoken hresult
    rcases List.mem_append.mp hr with hold | hnew
    · exact h.returned r hold htoken hresult
    · exact hresults r hnew htoken hresult

/-- A command that is in time. -/
theorem dying_command (hinj : outside.rtGenerate.Injective) (h : Dying outside rt expireTime s)
    {i : ℕ} {call : Call T} (hi : s.calls[i]? = some call)
    (hcond : s.InTime outside rt expireTime call) :
    let next := call.advance outside s.world
    let settled := next.1.settle (outside.clock s.world.ticks)
    Dying outside rt expireTime ⟨next.2, s.calls.set i settled.1, s.returned ++ settled.2⟩ := by
  intro next settled
  have hcases := advance_cases outside s.world (outside.clock s.world.ticks)
    (h.fits call (List.mem_of_getElem? hi))
  rcases hcases with ⟨hnone, hworld, hfits, hreturned⟩ | ⟨c, hc, hworld, hset, hfits, hreturned⟩
  · -- The call had come to its end, and sends nothing.
    have hquiet : ∀ seconds, call.pending ≠ some (.expire (refreshKey rt) seconds) := by
      intro seconds hpending
      rw [hnone] at hpending
      exact absurd hpending (by simp)
    refine h.settle ?_ ?_ hfits ?_
    · rw [hworld]
    · rw [hworld]
      exact fun value hvalue => h.pending_set hi hquiet settled.1 hvalue
    · exact fun r hr _ hresult => absurd (hreturned r hr) hresult
  · refine h.settle ?_ ?_ (hfits (replyInTime_handle hinj h.issued hc hcond)) ?_
    · rw [hworld]
      exact generated_le_handle outside s.world c
    · rw [hworld]
      exact fun value hvalue => dying_entry h hi hc hset hvalue
    · intro r hr htoken hresult
      obtain ⟨hverifying, htime, hfound⟩ := hreturned r hr hresult
      rw [htoken] at hfound
      obtain ⟨rfl, hthere⟩ := of_found hfound
      rw [htime]
      exact dying_found h hcond hverifying hc hthere

variable [FloorRing T] {manager : Manager T}

/-- A call that is made. -/
theorem dying_call (h : Dying outside rt expireTime s) (request : Request) :
    Dying outside rt expireTime (s.step manager outside (.call request)) := by
  obtain ⟨hfits, hreturned⟩ := fits_settle_start (outside.clock s.world.ticks)
    (fits_start manager rt request)
  constructor
  · exact h.issued
  · intro value hvalue
    obtain ⟨j, other, seconds, hj, hpending⟩ := h.pending value hvalue
    exact ⟨j, other, seconds, Slots.getElem?_concat_of_some hj, hpending⟩
  · intro other hother
    rcases List.mem_append.mp hother with hold | hnew
    · exact h.fits other hold
    · rw [List.mem_singleton.mp hnew]
      exact hfits
  · intro r hr htoken hresult
    rcases List.mem_append.mp hr with hold | hnew
    · exact h.returned r hold htoken hresult
    · exact absurd (hreturned r hnew) hresult

/-- A step that is in time. -/
theorem dying_step (hinj : outside.rtGenerate.Injective) (h : Dying outside rt expireTime s)
    (e : CallEvent) (hcond : s.StepInTime outside rt expireTime e) :
    Dying outside rt expireTime (s.step manager outside e) := by
  rcases e with request | i
  · exact dying_call h request
  · rcases hi : s.calls[i]? with _ | call
    · rw [Calls.step, hi]
      exact h
    · rw [Calls.step, hi]
      exact dying_command hinj h hi (hcond call hi)

/-! ## The token after its expiry -/

omit [FloorRing T] in
/-- A token that was made: the last command of `generate_refresh_token` gives its key a deadline. -/
theorem dying_created (w : World T) (who : Identity) (expireSeconds : ℤ) :
    Dying outside ((generateRefreshToken manager who expireSeconds).exec (handle outside) w).1
      expireTime ⟨((generateRefreshToken manager who expireSeconds).exec (handle outside) w).2,
        [], []⟩ := by
  rw [exec_generateRefreshToken]
  constructor
  · exact ⟨w.generated, Nat.lt_succ_self _, rfl⟩
  · intro value h
    obtain ⟨d, hd, -⟩ := of_entries_expireKey h
    exact absurd hd (by simp)
  · intro call hcall
    exact absurd hcall List.not_mem_nil
  · intro r hr
    exact absurd hr List.not_mem_nil

/-- A refresh token that was made by `generate_refresh_token` is not accepted after its
`expire_time`, in any interleaving of calls on it and on other tokens in which every command on its
key is in time. -/
theorem refresh_token_dies (manager : Manager T) (outside : Outside T)
    (hinj : outside.rtGenerate.Injective) (w : World T) (who : Identity) (expireSeconds : ℤ)
    (es : List CallEvent) :
    let created := (generateRefreshToken manager who expireSeconds).exec (handle outside) w
    let expireTime := outside.clock w.ticks +
      (actualExpireSeconds manager who.platform expireSeconds : T)
    EveryStep (Calls.step manager outside) ⟨created.2, [], []⟩
      (fun _ s e => s.StepInTime outside created.1 expireTime e) es →
    ∀ r ∈ (run (Calls.step manager outside) ⟨created.2, [], []⟩ es).returned,
      r.token = created.1 → r.result ≠ none → r.time ≤ expireTime := by
  intro created expireTime hsteps
  have hinv : Dying outside created.1 expireTime
      (run (Calls.step manager outside) ⟨created.2, [], []⟩ es) :=
    hsteps.inv (I := fun _ s => Dying outside created.1 expireTime s)
      (dying_created w who expireSeconds) fun _ _ e hI hcond => dying_step hinj hI e hcond
  exact hinv.returned

end

/-- A manager whose refresh tokens live for ten seconds. -/
def tenSecondManager : Manager ℤ where
  jwt := { sign := fun _ => "", decode := fun _ => none, trusted := fun _ => false }
  accessExpireSeconds _ := 5
  refreshExpireSeconds _ := 10
  belowPercentage _ _ := false

/-- A token is unrevoked, and then verified. -/
def unrevokeAndVerify : List CallEvent :=
  [.call (.unrevoke (paddedToken 0)), .command 0, .command 0, .command 0, .command 0,
    .call (.verify (paddedToken 0) "phone"), .command 1]

/-- A step whose command is in time. -/
theorem stepInTime_of_pending {T : Type} [LinearOrder T] [Ring T] {outside : Outside T}
    {rt : String} {expireTime : T} {s : Calls T} {i : ℕ} {c : Command T}
    (hc : s.calls[i]?.bind Call.pending = some c)
    (httl : c = .ttl (refreshKey rt) →
      0 < s.world.redis.ttl outside.wholeSeconds (outside.clock s.world.ticks) (refreshKey rt))
    (hget : c = .get (refreshKey rt) → outside.clock s.world.ticks ≤ expireTime ∨
      (∀ value d, s.world.redis.entries (refreshKey rt) = some (value, some d) →
        d < outside.clock s.world.ticks) ∧ s.calls.filterMap Call.pending = [c]) :
    s.StepInTime outside rt expireTime (.command i) := by
  intro call hcall
  rw [hcall] at hc
  change call.pending = some c at hc
  have hpending {c' : Command T} (h : call.pending = some c') : c = c' :=
    Option.some.inj (hc.symm.trans h)
  constructor
  · exact fun h => httl (hpending h)
  · intro _ h hlate
    exact ((hget (hpending h)).resolve_left (not_le.mpr hlate)).1
  · intro _ h hlate other hother seconds hexpire
    obtain rfl := hpending h
    -- The call itself is the only one with a command to send.
    have hmem : Command.expire (refreshKey rt) seconds ∈ s.calls.filterMap Call.pending :=
      List.mem_filterMap.mpr ⟨other, hother, hexpire⟩
    rw [((hget rfl).resolve_left (not_le.mpr hlate)).2] at hmem
    exact absurd (List.mem_singleton.mp hmem) (by simp)

/-- A command takes a second, so that the deadline of a new key is three seconds after the
`expire_time` of its token, and a long time passes before the tenth. -/
def secondByCommand : Outside ℤ where
  clock := {
    toFun := fun n => if n < 9 then n else n + 100
    monotone' := by
      intro m n hmn
      dsimp only
      split_ifs <;> omega }
  rtGenerate := paddedToken
  uuidGenerate _ := "0f8b6c1e-3a52-4d0c-9a51-7d2f5f0f6a11"
  wholeSeconds := id

/-- After that the token is verified once more. -/
def verifyAgain : List CallEvent :=
  unrevokeAndVerify ++ [.call (.verify (paddedToken 0) "phone"), .command 2]

/-- A token that is unrevoked in time is accepted in its ten seconds, and not long after. -/
theorem refresh_token_dies_unrevoked :
    let returned := (run (Calls.step tenSecondManager secondByCommand)
      ⟨((generateRefreshToken tenSecondManager aliceOnPhone 0).exec (handle secondByCommand)
        World.fresh).2, [], []⟩ verifyAgain).returned
    returned = [⟨paddedToken 0, some ⟨aliceOnPhone, 0, 10⟩, 8⟩, ⟨paddedToken 0, none, 109⟩] ∧
    ∀ r ∈ returned, r.token = paddedToken 0 → r.result ≠ none → r.time ≤ 10 := by
  refine ⟨by decide +kernel, ?_⟩
  apply refresh_token_dies tenSecondManager secondByCommand paddedToken_injective World.fresh
    aliceOnPhone 0 verifyAgain
  rw [verifyAgain, unrevokeAndVerify]
  simp only [List.cons_append, List.nil_append]
  iterate 9 rw [everyStep_cons]
  -- The commands of the run, one by one, each with the condition on its reply.
  refine ⟨trivial, ?_, ?_, ?_, ?_, trivial, ?_, trivial, ?_, everyStep_nil⟩
  · apply stepInTime_of_pending (c := .get (refreshKey (paddedToken 0))) rfl (by simp)
    exact fun _ => Or.inl (by decide +kernel)
  · apply stepInTime_of_pending (c := .ttl (refreshKey (paddedToken 0))) rfl
    · intro _
      decide +kernel
    · simp
  · apply stepInTime_of_pending
      (c := .set (refreshKey (paddedToken 0)) ⟨⟨aliceOnPhone, 0, 10⟩, false⟩) rfl (by simp)
      (by simp)
  · apply stepInTime_of_pending (c := .expire (refreshKey (paddedToken 0)) 8) rfl (by simp)
      (by simp)
  · apply stepInTime_of_pending (c := .get (refreshKey (paddedToken 0))) rfl (by simp)
    exact fun _ => Or.inl (by decide +kernel)
  · -- The key's deadline has passed with the ten seconds.
    apply stepInTime_of_pending (c := .get (refreshKey (paddedToken 0))) rfl (by simp)
    refine fun _ => Or.inr ⟨fun value d h => ?_, rfl⟩
    obtain ⟨-, hd⟩ := Prod.mk.inj (Option.some.inj h)
    rw [← Option.some.inj hd]
    decide +kernel

/-- A `GET` in the last second of a token, and the next two commands after it. -/
def lastSecond : Outside ℤ where
  clock := {
    toFun := fun n => if n < 4 then 0 else if n = 4 then 10 else if n < 7 then 11 else 1000
    monotone' := by
      intro m n hmn
      dsimp only
      split_ifs <;> omega }
  rtGenerate := paddedToken
  uuidGenerate _ := "0f8b6c1e-3a52-4d0c-9a51-7d2f5f0f6a11"
  wholeSeconds := id

/-- The key expires between `GET` and `TTL` of `unrevoke_refresh_token`, whose `SET` then makes it
again, for good. -/
theorem unrevoked_for_good : ¬ ∀ r ∈ (run (Calls.step tenSecondManager lastSecond)
    ⟨((generateRefreshToken tenSecondManager aliceOnPhone 0).exec (handle lastSecond)
      World.fresh).2, [], []⟩ unrevokeAndVerify).returned,
    r.token = paddedToken 0 → r.result ≠ none → r.time ≤ 10 := by
  have hreturned : (run (Calls.step tenSecondManager lastSecond)
      ⟨((generateRefreshToken tenSecondManager aliceOnPhone 0).exec (handle lastSecond)
        World.fresh).2, [], []⟩ unrevokeAndVerify).returned =
      [⟨paddedToken 0, some ⟨aliceOnPhone, 0, 10⟩, 1000⟩] := by decide +kernel
  rw [hreturned]
  intro h
  exact absurd (h _ (List.mem_singleton_self _) rfl (by simp)) (by decide)

end MyChat.Auth
