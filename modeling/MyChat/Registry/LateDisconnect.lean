import MyChat.Registry.Consistency

/-!
# A disconnect that comes late

A device that reconnects takes over its field in the registry with a new session, and the old
socket's disconnect may be processed after that. `live` follows the sessions that were added and
neither removed nor replaced, where a session is replaced when a later one is added for the same
user, device, and platform, and `Registered` is what the registry holds of such a session.

`remove_connection(session)` reads the user and the device of the session and removes the first
entry of the user for that device, whichever session it holds, and whichever device and platform
have its text `device:platform`. `OwnsDevice` says that the entry holds the session itself and is
the field of no other live session; while every disconnect meets it, no disconnect touches another
live session (`live_untouched`). The reconnected device is the case in which it fails
(`late_disconnect`).
-/

namespace MyChat.Registry

open Run

/-- A session with the user, device, and platform it was added for. -/
structure Conn where
  /-- The user. -/
  userId : String
  /-- The device. -/
  deviceId : String
  /-- The platform. -/
  platform : String
  /-- The session. -/
  sessionId : String
  deriving DecidableEq, Repr

/-- The field of the session in `user:sessions` and `user:platform`. -/
def Conn.field (c : Conn) : String := generateDeviceField c.deviceId c.platform

/-- The live sessions after one more call. -/
def liveStep (conns : List Conn) : Call → List Conn
  | .add userId deviceId platform sessionId _ _ =>
    -- The session of the same user, device, and platform is replaced.
    ⟨userId, deviceId, platform, sessionId⟩ :: conns.filter fun c =>
      ¬ (c.userId = userId ∧ c.deviceId = deviceId ∧ c.platform = platform)
  | .remove _ _ _ => conns
  | .removeSession sessionId _ => conns.filter fun c => c.sessionId ≠ sessionId

/-- The sessions that the calls added and neither removed nor replaced. -/
def live (calls : List Call) : List Conn := calls.foldl liveStep []

theorem live_concat (calls : List Call) (call : Call) :
    live (calls ++ [call]) = liveStep (live calls) call := by
  simp [live]

/-- The four places of the registry that a session has. -/
structure Registered (r : Redis) (c : Conn) : Prop where
  /-- Its field in `user:sessions` holds it, or a session of another device or platform with the
  same text. -/
  session : ∃ info, (sessionsOf r c.userId).lookup c.field = some info ∧
    (info.deviceId = c.deviceId ∧ info.platform = c.platform → info.sessionId = c.sessionId)
  /-- Its field is a member of `user:platform`. -/
  platform : c.field ∈ platformsOf r c.userId
  /-- Its `session:user` entry is there. -/
  user : UserEntry r c.sessionId c.userId c.deviceId c.platform
  /-- Its user is online. -/
  online : c.userId ∈ r.onlineUsers

/-- The four places of the session are the same in the two registries. -/
structure Untouched (r r' : Redis) (c : Conn) : Prop where
  /-- Its field in `user:sessions`. -/
  session : (sessionsOf r' c.userId).lookup c.field = (sessionsOf r c.userId).lookup c.field
  /-- Its field in `user:platform`. -/
  platform : c.field ∈ platformsOf r' c.userId ↔ c.field ∈ platformsOf r c.userId
  /-- Its `session:user` entry. -/
  user : userOf r' c.sessionId = userOf r c.sessionId
  /-- Its user's place in `online:users`. -/
  online : c.userId ∈ r'.onlineUsers ↔ c.userId ∈ r.onlineUsers

theorem Untouched.refl (r : Redis) (c : Conn) : Untouched r r c := ⟨rfl, .rfl, rfl, .rfl⟩

/-- A session that is not touched stays registered. -/
theorem Untouched.registered {r r' : Redis} {c : Conn} (h : Untouched r r' c)
    (hc : Registered r c) : Registered r' c := by
  obtain ⟨info, hinfo, hs⟩ := hc.session
  refine ⟨⟨info, h.session.trans hinfo, hs⟩, h.platform.mpr hc.platform, ?_, h.online.mpr hc.online⟩
  exact ⟨h.user ▸ hc.user.user, h.user ▸ hc.user.device, h.user ▸ hc.user.platform⟩

/-- Every entry of the session's user whose field starts with the session's device holds the
session, as long as the device has not reconnected, on this or another platform; and it is the field
of no other live session, whose device and platform would have the same text. -/
def OwnsDevice (conns : List Conn) (r : Redis) (sessionId : String) : Prop :=
  userInfo r sessionId "user_id" ≠ "" →
  ∀ entry ∈ (sessionsOf r (userInfo r sessionId "user_id")).entries,
    fieldDeviceId entry.1 = some (userInfo r sessionId "device_id") →
    entry.2.sessionId = sessionId ∧
    ∀ c ∈ conns, c.userId = userInfo r sessionId "user_id" → c.field = entry.1 →
      c.sessionId = sessionId

/-- A live session keeps its user online. -/
theorem online_of_registered {r r' : Redis} {c : Conn} (hc : Registered r c) {userId : String}
    (hsessions : (sessionsOf r' c.userId).lookup c.field =
      (sessionsOf r c.userId).lookup c.field) :
    c.userId ∈ (dropIfOffline userId r').onlineUsers ↔ c.userId ∈ r'.onlineUsers := by
  obtain ⟨own, hown, -⟩ := hc.session
  rw [mem_onlineUsers_dropIfOffline]
  refine and_iff_left fun hu => ne_empty_iff.mpr ⟨c.field, ?_⟩
  rw [← hu]
  exact mem_iff_lookup.mpr ⟨own, hsessions.trans hown⟩

/-- Erasing an entry that holds another session does not touch a registered session whose field is
another. -/
theorem untouched_eraseEntry {r : Redis} {c : Conn} (hc : Registered r c) {userId field : String}
    {info : DeviceSessionInfo} (hs : info.sessionId ≠ c.sessionId)
    (hslot : ¬ (c.userId = userId ∧ c.field = field)) :
    Untouched r (dropIfOffline userId (eraseEntry userId ⟨field, info⟩ r)) c := by
  have hlookup : (sessionsOf (eraseEntry userId ⟨field, info⟩ r) c.userId).lookup c.field =
      (sessionsOf r c.userId).lookup c.field := by
    rw [lookup_eraseEntry, if_neg hslot]
  refine ⟨?_, ?_, ?_, ?_⟩
  · rw [sessionsOf_dropIfOffline, hlookup]
  · rw [platformsOf_dropIfOffline, platformsOf_eraseEntry]
    split_ifs with hu
    · rw [Finset.mem_erase, hu]
      exact and_iff_right fun hf => hslot ⟨hu, hf⟩
    · rfl
  · rw [userOf_dropIfOffline, userOf_eraseEntry, if_neg (Ne.symm hs)]
  · -- The session's entry is still there, so that its user is not dropped.
    rw [online_of_registered hc hlookup, onlineUsers_eraseEntry]

/-- `remove_connection(session)` does not touch another live session, as long as the session owns
its device. -/
theorem untouched_removeSession {conns : List Conn} {r : Redis} {c : Conn} (hmem : c ∈ conns)
    (hc : Registered r c) (order : WalkOrder) {sessionId : String} (hne : c.sessionId ≠ sessionId)
    (howns : OwnsDevice conns r sessionId) :
    Untouched r (removeSession order r sessionId) c := by
  unfold removeSession
  dsimp only
  split_ifs with huser
  · exact Untouched.refl r c
  · rcases removeConnection_cases order r (userInfo r sessionId "user_id")
      (userInfo r sessionId "device_id") with ⟨field, info, hinfo, hdevice, hr⟩ | ⟨-, hr⟩
    · obtain ⟨hsession, hfield⟩ := howns huser ⟨field, info⟩ (AList.mem_lookup_iff.mp hinfo) hdevice
      rw [hr]
      refine untouched_eraseEntry hc (fun hs => hne (hs.symm.trans hsession)) ?_
      rintro ⟨hu, hf⟩
      exact hne (hfield c hmem hu hf)
    · rw [hr]
      refine ⟨by rw [sessionsOf_dropIfOffline], by rw [platformsOf_dropIfOffline],
        userOf_dropIfOffline _ _ _, ?_⟩
      exact online_of_registered hc rfl

/-- `add_connection` registers the new session. -/
theorem registered_added {multiDevice : String → Bool} {order : WalkOrder} {now : ℤ} {r : Redis}
    (c : Conn) (hfresh : userOf r c.sessionId = ∅) :
    Registered (added multiDevice order now r c.userId c.deviceId c.platform c.sessionId) c := by
  refine ⟨⟨⟨c.sessionId, c.deviceId, c.platform, now⟩, ?_, fun _ => rfl⟩, ?_,
    userEntry_added hfresh, ?_⟩
  · exact (lookup_added ..).trans (if_pos ⟨rfl, rfl⟩)
  · rw [platformsOf_added, if_pos rfl]
    exact Finset.mem_insert_self _ _
  · rw [onlineUsers_added]
    exact Finset.mem_insert_self _ _

/-- `add_connection` leaves a registered session registered, unless it replaces it. -/
theorem Registered.added {multiDevice : String → Bool} {order : WalkOrder} {now : ℤ} {r : Redis}
    {c : Conn} (hc : Registered r c) {userId deviceId platform sessionId : String}
    (hs : c.sessionId ≠ sessionId)
    (hslot : ¬ (c.userId = userId ∧ c.deviceId = deviceId ∧ c.platform = platform)) :
    Registered (Registry.added multiDevice order now r userId deviceId platform sessionId) c := by
  obtain ⟨info, hinfo, hinfos⟩ := hc.session
  refine ⟨?_, ?_, hc.user.added hs, ?_⟩
  · by_cases hfield : c.userId = userId ∧ c.field = generateDeviceField deviceId platform
    · -- The new session has the field for another device or platform.
      refine ⟨⟨sessionId, deviceId, platform, now⟩, ?_, ?_⟩
      · rw [lookup_added, if_pos hfield]
      · rintro ⟨hdevice, hplatform⟩
        exact absurd ⟨hfield.1, hdevice.symm, hplatform.symm⟩ hslot
    · refine ⟨info, ?_, hinfos⟩
      rw [lookup_added, if_neg hfield, hinfo]
  · rw [platformsOf_added]
    split_ifs with hu
    · exact Finset.mem_insert_of_mem (hu ▸ hc.platform)
    · exact hc.platform
  · rw [onlineUsers_added]
    exact Finset.mem_insert_of_mem hc.online

/-! ## Runs -/

/-- The call is an `add_connection` or a `remove_connection(session)`. -/
def Call.BySession : Call → Prop
  | .remove _ _ _ => False
  | _ => True

/-- The condition on a call: a session that disconnects owns its device. -/
def DisconnectCondition (pre : List Call) (r : Redis) : Call → Prop
  | .removeSession sessionId _ => OwnsDevice (live pre) r sessionId
  | _ => True

/-- Every live session is registered, and every session in the registry was added. -/
def LiveRegistered (pre : List Call) (r : Redis) : Prop :=
  (∀ c ∈ live pre, Registered r c ∧ c.sessionId ∈ pre.filterMap Call.addedSession) ∧
  ∀ s, userOf r s ≠ ∅ → s ∈ pre.filterMap Call.addedSession

/-- One call keeps the live sessions registered. -/
theorem liveRegistered_step (multiDevice : String → Bool) {pre : List Call} {r : Redis}
    {call : Call} (h : LiveRegistered pre r) (hby : call.BySession)
    (hcond : DisconnectCondition pre r call)
    (hnew : ∀ s, call.addedSession = some s → s ∉ pre.filterMap Call.addedSession) :
    LiveRegistered (pre ++ [call]) (step multiDevice r call) := by
  obtain ⟨hlive, hhist⟩ := h
  unfold LiveRegistered
  rw [List.filterMap_append, live_concat]
  rcases call with ⟨userId, deviceId, platform, sessionId, now, order⟩ | ⟨userId, deviceId, order⟩ |
    ⟨sessionId, order⟩
  · have hfresh : userOf r sessionId = ∅ := by
      by_contra hne
      exact hnew sessionId rfl (hhist sessionId hne)
    refine ⟨fun c hc => ?_, fun s hs => ?_⟩
    · rcases List.mem_cons.mp hc with rfl | hc
      · refine ⟨?_, List.mem_append_right _ (by simp [Call.addedSession])⟩
        exact registered_added ⟨userId, deviceId, platform, sessionId⟩ hfresh
      · -- A session of the same device and platform was replaced and is no longer live.
        obtain ⟨hmem, hslot⟩ := List.mem_filter.mp hc
        obtain ⟨hreg, hadd⟩ := hlive c hmem
        refine ⟨hreg.added (fun hs => hnew sessionId rfl (hs ▸ hadd)) (of_decide_eq_true hslot), ?_⟩
        exact List.mem_append_left _ hadd
    · change userOf (added multiDevice order now r userId deviceId platform sessionId) s ≠ ∅ at hs
      rw [userOf_added] at hs
      split_ifs at hs with hss
      · exact List.mem_append_right _ (by simp [Call.addedSession, hss])
      · exact List.mem_append_left _ (hhist s hs)
  · exact hby.elim
  · refine ⟨fun c hc => ?_, fun s hs => List.mem_append_left _ ?_⟩
    · obtain ⟨hmem, hne⟩ := List.mem_filter.mp hc
      obtain ⟨hreg, hadd⟩ := hlive c hmem
      -- A disconnect leaves every other live session as it is.
      have huntouched := untouched_removeSession hmem hreg order (of_decide_eq_true hne) hcond
      exact ⟨huntouched.registered hreg, List.mem_append_left _ hadd⟩
    · exact hhist s (userOf_removeSession hs)

/-- Every run of `add_connection` and `remove_connection(session)` calls with distinct session ids,
in which each session that disconnects owns its device: every live session is registered after
every call, and each `remove_connection(session)` leaves every other live session untouched. -/
theorem live_untouched (multiDevice : String → Bool) (calls : List Call)
    (hby : ∀ call ∈ calls, call.BySession) (hdistinct : DistinctSessions calls)
    (hcond : EveryStep (step multiDevice) Redis.empty DisconnectCondition calls) :
    (∀ pre, pre <+: calls → ∀ c ∈ live pre,
      Registered (run (step multiDevice) Redis.empty pre) c) ∧
    ∀ pre sessionId order post, calls = pre ++ .removeSession sessionId order :: post →
      ∀ c ∈ live pre, c.sessionId ≠ sessionId →
        Untouched (run (step multiDevice) Redis.empty pre)
          (run (step multiDevice) Redis.empty (pre ++ [.removeSession sessionId order])) c := by
  have hsteps : EveryStep (step multiDevice) Redis.empty (fun pre r call => call.BySession ∧
      DisconnectCondition pre r call ∧
      ∀ s, call.addedSession = some s → s ∉ pre.filterMap Call.addedSession) calls := by
    intro pre call post hcalls
    exact ⟨hby call (by simp [hcalls]), hcond pre call post hcalls,
      fun s hs => (hcalls ▸ hdistinct).not_mem hs⟩
  have hinv : ∀ pre, pre <+: calls →
      LiveRegistered pre (run (step multiDevice) Redis.empty pre) := by
    rintro pre ⟨post, rfl⟩
    refine hsteps.of_append.inv ⟨by simp [live], fun s hs => absurd rfl hs⟩ ?_
    exact fun pre r call h hc => liveRegistered_step multiDevice h hc.1 hc.2.1 hc.2.2
  refine ⟨fun pre hpre c hc => ((hinv pre hpre).1 c hc).1, ?_⟩
  intro pre sessionId order post hcalls c hc hne
  rw [run_concat]
  exact untouched_removeSession hc ((hinv pre ⟨_, hcalls.symm⟩).1 c hc).1 order hne
    (hcond pre _ post hcalls)

/-- A device whose old session disconnects, and then comes back under a new session. -/
def comesBack : List Call :=
  [.add "alice" "phone" "ios" "s1" 0 .inOrder, .add "bob" "phone" "ios" "s2" 1 .inOrder,
    .removeSession "s1" .inOrder, .add "alice" "phone" "ios" "s3" 2 .inOrder]

/-- In that run the disconnect leaves the other user's session untouched. -/
theorem live_untouched_comesBack :
    Untouched (run (step fun _ => false) Redis.empty (comesBack.take 2))
      (run (step fun _ => false) Redis.empty (comesBack.take 3)) ⟨"bob", "phone", "ios", "s2"⟩ := by
  have hcond : EveryStep (step fun _ => false) Redis.empty DisconnectCondition comesBack := by
    unfold comesBack
    rw [everyStep_cons, everyStep_cons, everyStep_cons, everyStep_cons]
    refine ⟨trivial, trivial, ?_, trivial, everyStep_nil⟩
    unfold DisconnectCondition OwnsDevice
    decide +kernel
  have hby : ∀ call ∈ comesBack, call.BySession := by
    simp [comesBack, Call.BySession]
  exact (live_untouched (fun _ => false) comesBack hby (by unfold DistinctSessions; decide)
    hcond).2 (comesBack.take 2) "s1" .inOrder _ rfl _ (by decide +kernel) (by decide)

/-- A device that reconnects before its old session's disconnect is processed. -/
def reconnects : List Call :=
  [.add "alice" "phone" "ios" "s1" 0 .inOrder, .add "alice" "phone" "ios" "s2" 1 .inOrder]

/-- The late disconnect of the old session unregisters the new one, which is live: its field, its
place in `user:platform`, its `session:user` entry, and its user's place in `online:users` go. -/
theorem late_disconnect :
    let r := run (step fun _ => false) Redis.empty reconnects
    let r' := run (step fun _ => false) Redis.empty (reconnects ++ [.removeSession "s1" .inOrder])
    DistinctSessions reconnects ∧
    ⟨"alice", "phone", "ios", "s2"⟩ ∈ live reconnects ∧
    ((sessionsOf r "alice").lookup "phone:ios").isSome = true ∧
    (sessionsOf r' "alice").lookup "phone:ios" = none ∧
    "phone:ios" ∈ platformsOf r "alice" ∧ "phone:ios" ∉ platformsOf r' "alice" ∧
    (userOf r "s2").lookup "user_id" = some "alice" ∧ (userOf r' "s2").lookup "user_id" = none ∧
    "alice" ∈ r.onlineUsers ∧ "alice" ∉ r'.onlineUsers := by
  unfold DistinctSessions
  decide +kernel

/-- Two devices of Alice whose fields have one text. The disconnect of the second unregisters the
first. -/
example :
    let calls : List Call :=
      [.add "alice" "a:b" "c" "s1" 0 .inOrder, .add "alice" "a" "b:c" "s2" 1 .inOrder]
    let r := run (step fun _ => false) Redis.empty (calls ++ [.removeSession "s2" .inOrder])
    ⟨"alice", "a:b", "c", "s1"⟩ ∈ live calls ∧ "a:b:c" ∉ platformsOf r "alice" ∧
      "alice" ∉ r.onlineUsers := by
  decide +kernel

end MyChat.Registry
