import MyChat.Gateway.Sessions
import MyChat.Lib.Run

/-!
# One login for each platform

On a platform whose configuration does not have `enable_multi_device`, a login is to disconnect the
user's sessions of other devices on this platform. `check_and_kick_same_platform` looks for them by
two searches in the field `device_id:platform`: it has to contain `:` and the platform, and it must
not contain the device. At the first hit it stops.

`single_login` has two parts. The first says for which states of the registry a login disconnects
every session that it should and no other, in whatever order the hash is walked: exactly those where
what the two searches find is one session of the platform, and the only one to be disconnected
(`KickCondition`). The second says that in every run whose logins meet this condition at most one
device of a user keeps a session on the platform.
-/

namespace MyChat.Gateway

open MyChat.Auth MyChat.Network MyChat.Registry MyChat.Run

/-- The searches of `check_and_kick_same_platform` find the field. -/
def Found (deviceId platform field : String) : Prop :=
  contains field (":" ++ platform) = true ∧ contains field deviceId = false

instance (deviceId platform field : String) : Decidable (Found deviceId platform field) :=
  inferInstanceAs (Decidable (_ ∧ _))

/-- A login disconnects every live session of the user on the platform that has another device, and
no session of another platform. -/
structure KicksExactly (multiDevice : String → Bool) (live : String → Prop) (order : WalkOrder)
    (r : Redis) (userId deviceId platform : String) : Prop where
  /-- Every session that is to be disconnected is. -/
  all : ∀ field info, (sessionsOf r userId).lookup field = some info → info.platform = platform →
    info.deviceId ≠ deviceId → live info.sessionId →
    checkAndKickSamePlatform multiDevice order r userId deviceId platform = some info.sessionId
  /-- No session that is registered under another platform is disconnected. -/
  only : ∀ u field info, (sessionsOf r u).lookup field = some info →
    checkAndKickSamePlatform multiDevice order r userId deviceId platform = some info.sessionId →
    info.platform = platform

/-- What the searches find is one session of the platform, and the only one to be disconnected. -/
structure KickCondition (live : String → Prop) (r : Redis) (userId deviceId platform : String) :
    Prop where
  /-- If a session is to be disconnected, the searches find a field, and none but this session's. -/
  all : ∀ field info, (sessionsOf r userId).lookup field = some info → info.platform = platform →
    info.deviceId ≠ deviceId → live info.sessionId → info.sessionId ≠ "" ∧
      (∃ f ∈ sessionsOf r userId, Found deviceId platform f) ∧
      ∀ f other, (sessionsOf r userId).lookup f = some other → Found deviceId platform f →
        other.sessionId = info.sessionId
  /-- A session that the searches find is registered under the platform and under no other. -/
  only : ∀ f other, (sessionsOf r userId).lookup f = some other → Found deviceId platform f →
    other.sessionId ≠ "" → ∀ u field info, (sessionsOf r u).lookup field = some info →
      info.sessionId = other.sessionId → info.platform = platform

/-! ## What a login disconnects -/

/-- The order that visits one entry before the others. -/
def WalkOrder.first (entry : Σ _ : String, DeviceSessionInfo) : WalkOrder where
  walk entries := if entry ∈ entries then entry :: entries.erase entry else entries
  perm entries := by
    split_ifs with hmem
    · exact (List.perm_cons_erase hmem).symm
    · exact .rfl

section Kick

variable {multiDevice : String → Bool} {live : String → Prop} {order : WalkOrder} {r : Redis}
  {userId deviceId platform : String}

/-- The entry at which the walk stops, and the session of it. -/
theorem checkAndKick_eq (hmulti : multiDevice platform = false) :
    checkAndKickSamePlatform multiDevice order r userId deviceId platform =
      (((order.walk (sessionsOf r userId).entries).find? fun entry =>
        contains entry.1 (":" ++ platform) && !contains entry.1 deviceId).map
          fun entry => entry.2.sessionId).filter fun sessionId => sessionId ≠ "" := by
  rw [checkAndKickSamePlatform, hmulti, if_neg Bool.false_ne_true]

/-- The session that is disconnected is that of a field which the searches find. -/
theorem found_of_checkAndKick {sessionId : String} (hmulti : multiDevice platform = false)
    (h : checkAndKickSamePlatform multiDevice order r userId deviceId platform = some sessionId) :
    sessionId ≠ "" ∧ ∃ field info, (sessionsOf r userId).lookup field = some info ∧
      Found deviceId platform field ∧ info.sessionId = sessionId := by
  rw [checkAndKick_eq hmulti, Option.filter_eq_some_iff] at h
  obtain ⟨hmap, hne⟩ := h
  obtain ⟨⟨field, info⟩, hfind, rfl⟩ := Option.map_eq_some_iff.mp hmap
  have hmem := (order.perm _).mem_iff.mp (List.mem_of_find?_eq_some hfind)
  refine ⟨by simpa using hne, field, info, AList.mem_lookup_iff.mpr hmem, ?_, rfl⟩
  simpa [Found] using List.find?_some hfind

/-- When the searches find a field, the walk stops at one, and its session is disconnected. -/
theorem exists_checkAndKick (hmulti : multiDevice platform = false)
    (h : ∃ f ∈ sessionsOf r userId, Found deviceId platform f) :
    ∃ field info, (sessionsOf r userId).lookup field = some info ∧ Found deviceId platform field ∧
      (info.sessionId ≠ "" →
        checkAndKickSamePlatform multiDevice order r userId deviceId platform =
          some info.sessionId) := by
  obtain ⟨f, hf, hcontains, hnot⟩ := h
  obtain ⟨other, hother⟩ := mem_iff_lookup.mp hf
  have hmem : (⟨f, other⟩ : Σ _ : String, DeviceSessionInfo) ∈
      order.walk (sessionsOf r userId).entries :=
    (order.perm _).mem_iff.mpr (AList.mem_lookup_iff.mp hother)
  have hsome : ((order.walk (sessionsOf r userId).entries).find? fun entry =>
      contains entry.1 (":" ++ platform) && !contains entry.1 deviceId).isSome := by
    rw [List.find?_isSome]
    exact ⟨_, hmem, by simp [hcontains, hnot]⟩
  obtain ⟨⟨field, info⟩, hfind⟩ := Option.isSome_iff_exists.mp hsome
  have hentry := (order.perm _).mem_iff.mp (List.mem_of_find?_eq_some hfind)
  refine ⟨field, info, AList.mem_lookup_iff.mpr hentry, ?_, fun hne => ?_⟩
  · simpa [Found] using List.find?_some hfind
  · rw [checkAndKick_eq hmulti, hfind, Option.map_some]
    simp [hne]

/-- In some order the walk stops at a given field that the searches find. -/
theorem checkAndKick_first {field : String} {info : DeviceSessionInfo}
    (hmulti : multiDevice platform = false)
    (hlookup : (sessionsOf r userId).lookup field = some info)
    (hfound : Found deviceId platform field) :
    checkAndKickSamePlatform multiDevice (WalkOrder.first ⟨field, info⟩) r userId deviceId platform =
      (some info.sessionId).filter fun sessionId => sessionId ≠ "" := by
  have hmem : (⟨field, info⟩ : Σ _ : String, DeviceSessionInfo) ∈ (sessionsOf r userId).entries :=
    AList.mem_lookup_iff.mp hlookup
  rw [checkAndKick_eq hmulti, WalkOrder.first]
  dsimp only
  rw [if_pos hmem, List.find?_cons_of_pos, Option.map_some]
  simp [hfound.1, hfound.2]

/-- A login disconnects what it should, in whatever order the hash is walked, exactly when what the
searches find is one session of the platform, and the only one to be disconnected. -/
theorem kicksExactly_iff (hmulti : multiDevice platform = false) :
    (∀ order, KicksExactly multiDevice live order r userId deviceId platform) ↔
      KickCondition live r userId deviceId platform := by
  constructor
  · intro h
    constructor
    · intro field info hlookup hplatform hdevice hlive
      obtain ⟨hne, f, other, hother, hfound, -⟩ := found_of_checkAndKick hmulti
        ((h .inOrder).all field info hlookup hplatform hdevice hlive)
      refine ⟨hne, ⟨f, mem_iff_lookup.mpr ⟨other, hother⟩, hfound⟩, ?_⟩
      intro f' other' hother' hfound'
      -- The walk may begin with any entry that the search accepts.
      have hkick := (h (WalkOrder.first ⟨f', other'⟩)).all field info hlookup hplatform hdevice hlive
      rw [checkAndKick_first hmulti hother' hfound', Option.filter_eq_some_iff] at hkick
      exact Option.some.inj hkick.1
    · intro f other hother hfound hne u field info hlookup hsame
      refine (h (WalkOrder.first ⟨f, other⟩)).only u field info hlookup ?_
      rw [checkAndKick_first hmulti hother hfound, hsame]
      simp [hne]
  · intro h order
    constructor
    · intro field info hlookup hplatform hdevice hlive
      obtain ⟨hne, hexists, hsame⟩ := h.all field info hlookup hplatform hdevice hlive
      obtain ⟨f, other, hother, hfound, hkick⟩ := exists_checkAndKick hmulti hexists
      have hsession := hsame f other hother hfound
      rw [hkick (hsession ▸ hne), hsession]
    · intro u field info hlookup hkick
      obtain ⟨hne, f, other, hother, hfound, hsession⟩ := found_of_checkAndKick hmulti hkick
      exact h.only f other hother hfound (hsession ▸ hne) u field info hlookup hsession.symm

end Kick

/-! ## Runs -/

section Runs

variable (multiDevice : String → Bool)

/-- One step of the gateway. -/
def loginStep (s : Redis × Process) (e : SessionEvent) : Redis × Process :=
  sessionStep multiDevice s.1 s.2 e

/-- The condition on a login on a platform without `enable_multi_device`. -/
def LoginCondition (s : Redis × Process) : SessionEvent → Prop
  | .connect (some user) _ _ => multiDevice user.platform = false →
    KickCondition (s.2.addSession ⟨some user⟩).Live s.1 user.userId user.deviceId user.platform
  | _ => True

/-- The session stays when the pending closes are processed. -/
def Process.Keeps (p : Process) (sessionId : String) : Prop :=
  p.Live sessionId ∧ sessionId ∉ p.closing

/-- On a platform without `enable_multi_device`, the sessions of a user that stay are of one
device. -/
def OneDevice (s : Redis × Process) : Prop :=
  ∀ u platform, multiDevice platform = false → ∀ f f' info info',
    (sessionsOf s.1 u).lookup f = some info → (sessionsOf s.1 u).lookup f' = some info' →
    info.platform = platform → info'.platform = platform →
    s.2.Keeps info.sessionId → s.2.Keeps info'.sessionId → info.deviceId = info'.deviceId

/-- The ids in the registry and in the process are ids that the process gave. -/
structure GivenIds (s : Redis × Process) : Prop where
  /-- Those of the registry. -/
  registry : ∀ u f info, (sessionsOf s.1 u).lookup f = some info →
    ∃ k ≤ s.2.counter, info.sessionId = generateId k
  /-- Those of the sessions. -/
  live : ∀ id, s.2.Live id → ∃ k ≤ s.2.counter, id = generateId k

end Runs

variable {multiDevice : String → Bool} {r r' : Redis} {p p' : Process}

/-- The next id is new. -/
theorem nextId_ne {id : String} (h : ∃ k ≤ p.counter, id = generateId k) : id ≠ p.nextId := by
  obtain ⟨k, hk, rfl⟩ := h
  intro hid
  have hnext : k = p.counter + 1 := generateId_inj.mp hid
  omega

/-- A step that adds neither an entry to the registry nor a session that stays. -/
theorem OneDevice.shrink (h : OneDevice multiDevice (r, p))
    (hlookup : ∀ u f info, (sessionsOf r' u).lookup f = some info →
      (sessionsOf r u).lookup f = some info)
    (hkeeps : ∀ u f info, (sessionsOf r' u).lookup f = some info → p'.Keeps info.sessionId →
      p.Keeps info.sessionId) : OneDevice multiDevice (r', p') := by
  intro u platform hmulti f f' info info' hf hf' hplatform hplatform' hkept hkept'
  exact h u platform hmulti f f' info info' (hlookup u f info hf) (hlookup u f' info' hf')
    hplatform hplatform' (hkeeps u f info hf hkept) (hkeeps u f' info' hf' hkept')

theorem GivenIds.shrink (h : GivenIds (r, p))
    (hlookup : ∀ u f info, (sessionsOf r' u).lookup f = some info →
      (sessionsOf r u).lookup f = some info)
    (hlive : ∀ id, p'.Live id → p.Live id) (hcounter : p.counter ≤ p'.counter) :
    GivenIds (r', p') := by
  constructor
  · intro u f info hf
    obtain ⟨k, hk, hid⟩ := h.registry u f info (hlookup u f info hf)
    exact ⟨k, Nat.le_trans hk hcounter, hid⟩
  · intro id hid
    obtain ⟨k, hk, hid⟩ := h.live id (hlive id hid)
    exact ⟨k, Nat.le_trans hk hcounter, hid⟩

theorem givenIds_addSession {session : SessionObject} (h : GivenIds (r, p)) :
    GivenIds (r, p.addSession session) := by
  constructor
  · intro u f info hf
    obtain ⟨k, hk, hid⟩ := h.registry u f info hf
    exact ⟨k, Nat.le_succ_of_le hk, hid⟩
  · intro id hid
    rcases live_addSession.mp hid with hlive | rfl
    · obtain ⟨k, hk, hid⟩ := h.live id hlive
      exact ⟨k, Nat.le_succ_of_le hk, hid⟩
    · exact ⟨p.counter + 1, Nat.le_refl _, rfl⟩

/-- A session that is registered already stays if it stayed before the new session came. -/
theorem keeps_of_addSession {session : SessionObject} {id : String} (hne : id ≠ p.nextId)
    (h : (p.addSession session).Keeps id) : p.Keeps id := by
  obtain ⟨hlive, hclosing⟩ := h
  rcases live_addSession.mp hlive with hlive | hid
  · exact ⟨hlive, hclosing⟩
  · exact absurd hid hne

theorem keeps_of_disconnectSession {sessionId id : String}
    (h : (p.disconnectSession sessionId).Keeps id) : p.Keeps id := by
  obtain ⟨hlive, hclosing⟩ := h
  refine ⟨live_disconnectSession.mp hlive, fun hmem => hclosing ?_⟩
  exact mem_closing_disconnectSession.mpr (Or.inl hmem)

theorem keeps_of_kicked {kicked : Option String} {id : String}
    (h : (p.disconnectKicked kicked).Keeps id) : p.Keeps id := by
  rcases kicked with _ | sessionId
  · exact h
  · exact keeps_of_disconnectSession h

/-- A session that was disconnected for a login does not stay. -/
theorem not_keeps_kicked {kicked : Option String} {id : String} (hlive : p.Live id)
    (hkicked : kicked = some id) : ¬ (p.disconnectKicked kicked).Keeps id := by
  rw [hkicked]
  intro h
  exact h.2 (mem_closing_disconnectSession.mpr (Or.inr ⟨rfl, hlive⟩))

section Bind

variable {user : UserTokenInfo} {now : ℤ} {order : WalkOrder}

/-- After a login on a platform without `enable_multi_device`, the sessions of the user on it that
stay are of the device that logged in. -/
theorem deviceId_of_keeps {f : String} {info : DeviceSessionInfo}
    (hmulti : multiDevice user.platform = false)
    (hcond : KickCondition (p.addSession ⟨some user⟩).Live r user.userId user.deviceId user.platform)
    (hlookup : (sessionsOf (added multiDevice order now r user.userId user.deviceId user.platform
      p.nextId) user.userId).lookup f = some info)
    (hplatform : info.platform = user.platform)
    (hkeeps : ((p.addSession ⟨some user⟩).disconnectKicked (checkAndKickSamePlatform multiDevice
      order r user.userId user.deviceId user.platform)).Keeps info.sessionId) :
    info.deviceId = user.deviceId := by
  rw [lookup_added] at hlookup
  split_ifs at hlookup with hnew
  · rw [← Option.some.inj hlookup]
  · by_contra hdevice
    have hlive := (keeps_of_kicked hkeeps).1
    have hkick := ((kicksExactly_iff hmulti).mpr hcond order).all f info hlookup hplatform hdevice
      hlive
    exact not_keeps_kicked hlive hkick hkeeps

theorem oneDevice_bind (h : OneDevice multiDevice (r, p)) (hids : GivenIds (r, p))
    (hcond : multiDevice user.platform = false →
      KickCondition (p.addSession ⟨some user⟩).Live r user.userId user.deviceId user.platform) :
    OneDevice multiDevice (verifyAndBindConnection multiDevice (some user) now order p.nextId r
      (p.addSession ⟨some user⟩)) := by
  intro u platform hmulti f f' info info' hf hf' hplatform hplatform' hkeeps hkeeps'
  by_cases hsame : u = user.userId ∧ platform = user.platform
  · obtain ⟨rfl, rfl⟩ := hsame
    have hdevice := deviceId_of_keeps hmulti (hcond hmulti) hf hplatform hkeeps
    have hdevice' := deviceId_of_keeps hmulti (hcond hmulti) hf' hplatform' hkeeps'
    rw [hdevice, hdevice']
  · -- Neither entry is the new one, so both were there before.
    have hold : ∀ g value, (sessionsOf (added multiDevice order now r user.userId user.deviceId
        user.platform p.nextId) u).lookup g = some value → value.platform = platform →
        (sessionsOf r u).lookup g = some value := by
      intro g value hg hvalue
      rw [lookup_added] at hg
      split_ifs at hg with hnew
      · rw [← Option.some.inj hg] at hvalue
        exact absurd ⟨hnew.1, hvalue.symm⟩ hsame
      · exact hg
    have hf := hold f info hf hplatform
    have hf' := hold f' info' hf' hplatform'
    have hne := nextId_ne (hids.registry u f info hf)
    have hne' := nextId_ne (hids.registry u f' info' hf')
    exact h u platform hmulti f f' info info' hf hf' hplatform hplatform'
      (keeps_of_addSession hne (keeps_of_kicked hkeeps))
      (keeps_of_addSession hne' (keeps_of_kicked hkeeps'))

theorem givenIds_bind (hids : GivenIds (r, p)) :
    GivenIds (verifyAndBindConnection multiDevice (some user) now order p.nextId r
      (p.addSession ⟨some user⟩)) := by
  have hadd : GivenIds (r, p.addSession ⟨some user⟩) := givenIds_addSession hids
  have hcounter : (verifyAndBindConnection multiDevice (some user) now order p.nextId r
      (p.addSession ⟨some user⟩)).2.counter = p.counter + 1 := counter_disconnectKicked
  constructor
  · intro u f info hf
    rw [hcounter]
    have hlookup : (sessionsOf (added multiDevice order now r user.userId user.deviceId
        user.platform p.nextId) u).lookup f = some info := hf
    rw [lookup_added] at hlookup
    split_ifs at hlookup
    · rw [← Option.some.inj hlookup]
      exact ⟨p.counter + 1, Nat.le_refl _, rfl⟩
    · obtain ⟨k, hk, hid⟩ := hids.registry u f info hlookup
      exact ⟨k, Nat.le_succ_of_le hk, hid⟩
  · intro id hid
    rw [hcounter]
    exact hadd.live id (live_disconnectKicked.mp hid)

end Bind

/-! ## The invariant -/

/-- What holds as long as every login meets its condition. -/
structure LoginInv (multiDevice : String → Bool) (s : Redis × Process) : Prop where
  /-- One device stays on each platform. -/
  oneDevice : OneDevice multiDevice s
  /-- The ids were given by the process. -/
  givenIds : GivenIds s

theorem loginInv_start : LoginInv multiDevice (Redis.empty, Process.started) := by
  refine ⟨?_, ?_, ?_⟩
  · intro u platform _ f f' info info' hf
    exact absurd hf (by simp [sessionsOf, Redis.empty])
  · intro u f info hf
    exact absurd hf (by simp [sessionsOf, Redis.empty])
  · intro id hid
    exact absurd rfl hid

theorem loginInv_step {s : Redis × Process} {e : SessionEvent} (h : LoginInv multiDevice s)
    (hcond : LoginCondition multiDevice s e) : LoginInv multiDevice (loginStep multiDevice s e) := by
  obtain ⟨r, p⟩ := s
  obtain ⟨hone, hids⟩ := h
  rcases e with ⟨_ | user, now, order⟩ | sessionId | ⟨sessionId, order⟩ | ⟨sessionId, order⟩
  · refine ⟨hone.shrink (fun _ _ _ hf => hf) ?_, givenIds_addSession hids⟩
    intro u f info hf hkeeps
    exact keeps_of_addSession (nextId_ne (hids.registry u f info hf)) hkeeps
  · exact ⟨oneDevice_bind hone hids hcond, givenIds_bind hids⟩
  · refine ⟨hone.shrink (fun _ _ _ hf => hf) fun _ _ _ _ => keeps_of_disconnectSession, ?_⟩
    refine hids.shrink (fun _ _ _ hf => hf) (fun id hid => live_disconnectSession.mp hid) ?_
    exact Nat.le_of_eq counter_disconnectSession.symm
  · simp only [loginStep, sessionStep]
    split_ifs
    · refine ⟨hone.shrink (fun _ _ _ hf => lookup_of_removeSession hf) fun u f info _ hkeeps => ?_,
        hids.shrink (fun _ _ _ hf => lookup_of_removeSession hf)
          (fun id hid => (live_removeSession.mp hid).1) (Nat.le_refl _)⟩
      obtain ⟨hlive, hne⟩ := live_removeSession.mp hkeeps.1
      refine ⟨hlive, fun hmem => hkeeps.2 ?_⟩
      exact mem_closing_removeSession.mpr ⟨hmem, hne⟩
    · exact ⟨hone, hids⟩
  · exact ⟨hone.shrink (fun _ _ _ hf => lookup_of_removeSession hf) fun _ _ _ _ hkeeps => hkeeps,
      hids.shrink (fun _ _ _ hf => lookup_of_removeSession hf) (fun _ hid => hid) (Nat.le_refl _)⟩

/-- A login on a platform without `enable_multi_device` disconnects what it should, in every state
of the registry and in whatever order the hash is walked, exactly under the condition; and in every
run whose logins meet it, at most one device of a user keeps a session on the platform. -/
theorem single_login (multiDevice : String → Bool) :
    (∀ (r : Redis) (live : String → Prop) (userId deviceId platform : String),
      multiDevice platform = false →
      ((∀ order, KicksExactly multiDevice live order r userId deviceId platform) ↔
        KickCondition live r userId deviceId platform)) ∧
    ∀ es : List SessionEvent,
      EveryStep (loginStep multiDevice) (Redis.empty, Process.started)
        (fun _ s e => LoginCondition multiDevice s e) es →
      OneDevice multiDevice (run (loginStep multiDevice) (Redis.empty, Process.started) es) := by
  constructor
  · intro r live userId deviceId platform hmulti
    exact kicksExactly_iff hmulti
  · intro es h
    have hinv : LoginInv multiDevice
        (run (loginStep multiDevice) (Redis.empty, Process.started) es) :=
      h.inv (I := fun _ s => LoginInv multiDevice s) loginInv_start
        fun _ _ _ hI hC => loginInv_step hI hC
    exact hinv.oneDevice

/-- Alice logs in on the web from two devices, one after the other. -/
def webLogins (device device' : String) : List SessionEvent :=
  [.connect (some ⟨"alice", "Alice", device, "web", 0, 900⟩) 0 .inOrder,
    .connect (some ⟨"alice", "Alice", device', "web", 0, 900⟩) 1 .inOrder]

/-- The tablet takes the place of the phone. -/
theorem single_login_tablet : OneDevice (fun _ => false)
    (run (loginStep fun _ => false) (Redis.empty, Process.started) (webLogins "phone" "tablet")) := by
  apply (single_login _).2
  rw [webLogins, everyStep_cons, everyStep_cons]
  have hempty : ∀ u f, (sessionsOf Redis.empty u).lookup f = none := fun _ _ => rfl
  -- After the first login the registry has one entry, and both searches find it.
  have hone : ∀ u f info, (sessionsOf (added (fun _ => false) .inOrder 0 Redis.empty "alice" "phone"
      "web" "session_1") u).lookup f = some info →
      f = "phone:web" ∧ info = ⟨"session_1", "phone", "web", 0⟩ := by
    intro u f info hf
    rw [lookup_added, hempty] at hf
    split_ifs at hf with hnew
    exact ⟨hnew.2, (Option.some.inj hf).symm⟩
  refine ⟨fun _ => ⟨?_, ?_⟩, fun _ => ⟨?_, ?_⟩, everyStep_nil⟩
  · intro f info hf
    exact absurd ((hempty _ _).symm.trans hf) (by simp)
  · intro f info hf
    exact absurd ((hempty _ _).symm.trans hf) (by simp)
  · intro f info hf _ _ _
    obtain ⟨rfl, rfl⟩ := hone _ f info hf
    refine ⟨by decide, ⟨"phone:web", mem_iff_lookup.mpr ⟨_, hf⟩, by decide +kernel⟩, ?_⟩
    intro f' other hother _
    rw [(hone _ f' other hother).2]
  · intro f other hother _ _ u field info hinfo _
    rw [(hone u field info hinfo).2]

/-- The text `phone10:web` contains `phone1`, so that the old session stays. -/
theorem old_phone_stays : ¬ OneDevice (fun _ => false) (run (loginStep fun _ => false)
    (Redis.empty, Process.started) (webLogins "phone10" "phone1")) := by
  intro h
  have hdevice := h "alice" "web" rfl "phone10:web" "phone1:web" ⟨"session_1", "phone10", "web", 0⟩
    ⟨"session_2", "phone1", "web", 1⟩ (by decide +kernel) (by decide +kernel) rfl rfl
    ⟨by decide +kernel, by decide +kernel⟩ ⟨by decide +kernel, by decide +kernel⟩
  exact absurd hdevice (by decide)

end MyChat.Gateway
