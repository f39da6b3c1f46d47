import MyChat.Registry.ConnectionManager

/-!
# Consistency of the registry

`Consistent` ties the four kinds of keys together: a user's device fields are the same in
`user:sessions` and `user:platform`, he is online when he has one, and the sessions with a
`session:user` entry are those in the values of `user:sessions`, with the same user, device, and
platform.

`remove_connection` keeps a registry consistent whatever it is called with (`removeConnection`
lemmas below), but `remove_connection(session)` need not remove that session's entry: it looks for
the first entry whose field starts with the session's device, which is the session's own only when
the device id has no `:` in it and is not registered on another platform too, and it does nothing
for the empty user id. `add_connection` keeps a registry consistent when the user has no session
for the device and platform yet; otherwise the entry is overwritten and the `session:user` entry of
the session that had it stays. `SlotFree` and `FoundBySession` are those conditions, and
`registry_consistent` says that they are enough.
-/

namespace MyChat.Registry

open Run

/-- The session is registered for the user, device, and platform in `session:user`. -/
structure UserEntry (r : Redis) (sessionId userId deviceId platform : String) : Prop where
  /-- The field `user_id`. -/
  user : (userOf r sessionId).lookup "user_id" = some userId
  /-- The field `device_id`. -/
  device : (userOf r sessionId).lookup "device_id" = some deviceId
  /-- The field `platform`. -/
  platform : (userOf r sessionId).lookup "platform" = some platform

/-- The four kinds of keys agree. -/
structure Consistent (r : Redis) : Prop where
  /-- A user's fields are the same in `user:sessions` and `user:platform`. -/
  fields : ∀ u f, f ∈ sessionsOf r u ↔ f ∈ platformsOf r u
  /-- The users online are those with a session. -/
  online : ∀ u, u ∈ r.onlineUsers ↔ sessionsOf r u ≠ ∅
  /-- The sessions with a `session:user` entry are those in the values of `user:sessions`. -/
  registered : ∀ s, userOf r s ≠ ∅ ↔
    ∃ u f info, (sessionsOf r u).lookup f = some info ∧ info.sessionId = s
  /-- Each value of `user:sessions` is under its own device and platform, and its session is
  registered for them and the user. -/
  matching : ∀ u f info, (sessionsOf r u).lookup f = some info →
    f = generateDeviceField info.deviceId info.platform ∧
    UserEntry r info.sessionId u info.deviceId info.platform

/-- No two entries of a consistent registry hold the same session. -/
theorem Consistent.entry_unique {r : Redis} (h : Consistent r) {u u' f f' : String}
    {info info' : DeviceSessionInfo} (hi : (sessionsOf r u).lookup f = some info)
    (hi' : (sessionsOf r u').lookup f' = some info') (hs : info.sessionId = info'.sessionId) :
    u = u' ∧ f = f' := by
  obtain ⟨rfl, hentry⟩ := h.matching _ _ _ hi
  obtain ⟨rfl, hentry'⟩ := h.matching _ _ _ hi'
  have huser := hentry.user.symm.trans (hs ▸ hentry'.user)
  have hdevice := hentry.device.symm.trans (hs ▸ hentry'.device)
  have hplatform := hentry.platform.symm.trans (hs ▸ hentry'.platform)
  rw [Option.some.inj hdevice, Option.some.inj hplatform]
  exact ⟨Option.some.inj huser, rfl⟩

theorem consistent_empty : Consistent Redis.empty where
  fields u f := by simp [sessionsOf, platformsOf, Redis.empty]
  online u := by simp [sessionsOf, Redis.empty]
  registered s := by simp [sessionsOf, userOf, Redis.empty]
  matching u f info h := by simp [sessionsOf, Redis.empty] at h

/-! ## Adding -/

section Add

variable {multiDevice : String → Bool} {order : WalkOrder} {now : ℤ} {r : Redis}
  {userId deviceId platform sessionId : String}

/-- The entry that `add_connection` writes for a session that had none. -/
theorem userEntry_added (hfresh : userOf r sessionId = ∅) :
    UserEntry (added multiDevice order now r userId deviceId platform sessionId) sessionId userId
      deviceId platform := by
  refine ⟨?_, ?_, ?_⟩ <;> rw [userOf_added, if_pos rfl, hfresh] <;> rfl

/-- The other sessions' entries stay. -/
theorem UserEntry.added {s u d p : String} (h : UserEntry r s u d p) (hs : s ≠ sessionId) :
    UserEntry (Registry.added multiDevice order now r userId deviceId platform sessionId) s u d
      p := by
  refine ⟨?_, ?_, ?_⟩ <;> rw [userOf_added, if_neg hs]
  exacts [h.user, h.device, h.platform]

/-- `add_connection` of a new session into a free slot keeps a registry consistent. -/
theorem consistent_added (h : Consistent r) (hfresh : userOf r sessionId = ∅)
    (hfree : generateDeviceField deviceId platform ∉ sessionsOf r userId) :
    Consistent (added multiDevice order now r userId deviceId platform sessionId) := by
  have hnew : UserEntry (added multiDevice order now r userId deviceId platform sessionId)
      sessionId userId deviceId platform := userEntry_added hfresh
  -- An entry of the registry before has another session and is in another slot.
  have hold : ∀ u f info, (sessionsOf r u).lookup f = some info → info.sessionId ≠ sessionId ∧
      ¬ (u = userId ∧ f = generateDeviceField deviceId platform) := by
    intro u f info hinfo
    refine ⟨fun hs => ?_, ?_⟩
    · exact (h.registered sessionId).mpr ⟨u, f, info, hinfo, hs⟩ hfresh
    · rintro ⟨rfl, rfl⟩
      exact hfree (mem_iff_lookup.mpr ⟨info, hinfo⟩)
  have hlookup := lookup_added multiDevice order now r userId deviceId platform sessionId
  -- The four parts: fields, online users, registered sessions, matching entries.
  refine ⟨fun u f => ?_, fun u => ?_, fun s => ?_, fun u f info hinfo => ?_⟩
  · rw [sessionsOf_added, platformsOf_added]
    split_ifs with hu
    · rw [AList.mem_insert, Finset.mem_insert, h.fields]
    · exact h.fields u f
  · rw [onlineUsers_added, Finset.mem_insert, h.online, sessionsOf_added]
    split_ifs with hu
    · simp only [hu, true_or, true_iff]
      exact ne_empty_iff.mpr ⟨_, (AList.mem_insert _).mpr (Or.inl rfl)⟩
    · simp [hu]
  · constructor
    · intro hs
      by_cases hss : s = sessionId
      · exact ⟨userId, _, _, by rw [hlookup, if_pos ⟨rfl, rfl⟩], hss.symm⟩
      · rw [userOf_added, if_neg hss, h.registered] at hs
        obtain ⟨u, f, info, hinfo, rfl⟩ := hs
        exact ⟨u, f, info, by rw [hlookup, if_neg (hold _ _ _ hinfo).2, hinfo], rfl⟩
    · rintro ⟨u, f, info, hinfo, rfl⟩
      rw [hlookup] at hinfo
      split_ifs at hinfo with hslot
      · obtain rfl := Option.some.inj hinfo
        exact ne_empty_iff.mpr ⟨_, mem_iff_lookup.mpr ⟨_, hnew.user⟩⟩
      · rw [userOf_added, if_neg (hold _ _ _ hinfo).1]
        exact (h.registered _).mpr ⟨u, f, info, hinfo, rfl⟩
  · rw [hlookup] at hinfo
    split_ifs at hinfo with hslot
    · obtain rfl := Option.some.inj hinfo
      obtain ⟨rfl, rfl⟩ := hslot
      exact ⟨rfl, hnew⟩
    · obtain ⟨hf, hentry⟩ := h.matching _ _ _ hinfo
      exact ⟨hf, hentry.added (hold _ _ _ hinfo).1⟩

end Add

/-! ## Removing -/

/-- Dropping a user with no entry keeps a registry consistent, also when he was online. -/
theorem consistent_dropIfOffline {r : Redis} {userId : String}
    (hfields : ∀ u f, f ∈ sessionsOf r u ↔ f ∈ platformsOf r u)
    (honline : ∀ u, sessionsOf r u ≠ ∅ → u ∈ r.onlineUsers)
    (honline' : ∀ u, u ∈ r.onlineUsers → u ≠ userId → sessionsOf r u ≠ ∅)
    (hregistered : ∀ s, userOf r s ≠ ∅ ↔
      ∃ u f info, (sessionsOf r u).lookup f = some info ∧ info.sessionId = s)
    (hmatching : ∀ u f info, (sessionsOf r u).lookup f = some info →
      f = generateDeviceField info.deviceId info.platform ∧
      UserEntry r info.sessionId u info.deviceId info.platform) :
    Consistent (dropIfOffline userId r) := by
  refine ⟨fun u f => ?_, fun u => ?_, fun s => ?_, fun u f info hinfo => ?_⟩
  · rw [sessionsOf_dropIfOffline, platformsOf_dropIfOffline]
    exact hfields u f
  · rw [mem_onlineUsers_dropIfOffline, sessionsOf_dropIfOffline]
    constructor
    · rintro ⟨hu, hdrop⟩
      by_cases heq : u = userId
      · exact heq ▸ hdrop heq
      · exact honline' u hu heq
    · exact fun hne => ⟨honline u hne, fun heq => heq ▸ hne⟩
  · simp only [userOf_dropIfOffline, sessionsOf_dropIfOffline]
    exact hregistered s
  · rw [sessionsOf_dropIfOffline] at hinfo
    obtain ⟨hf, huser, hdevice, hplatform⟩ := hmatching u f info hinfo
    exact ⟨hf, ⟨by rwa [userOf_dropIfOffline], by rwa [userOf_dropIfOffline],
      by rwa [userOf_dropIfOffline]⟩⟩

/-- Erasing an entry leaves the other sessions' entries. -/
theorem UserEntry.eraseEntry {r : Redis} {info : DeviceSessionInfo} {s u d p : String}
    (h : UserEntry r s u d p) (userId field : String) (hs : s ≠ info.sessionId) :
    UserEntry (Registry.eraseEntry userId ⟨field, info⟩ r) s u d p := by
  refine ⟨?_, ?_, ?_⟩ <;> rw [userOf_eraseEntry, if_neg hs]
  exacts [h.user, h.device, h.platform]

/-- After an entry of a consistent registry is erased, the sessions with a `session:user` entry are
those in the values that stay. -/
theorem Consistent.registered_eraseEntry {r : Redis} (h : Consistent r) {userId field : String}
    {info : DeviceSessionInfo} (hinfo : (sessionsOf r userId).lookup field = some info)
    (s : String) :
    userOf (eraseEntry userId ⟨field, info⟩ r) s ≠ ∅ ↔ ∃ u f info',
      (sessionsOf (eraseEntry userId ⟨field, info⟩ r) u).lookup f = some info' ∧
        info'.sessionId = s := by
  constructor
  · intro hs
    rw [userOf_eraseEntry] at hs
    split_ifs at hs with hss
    · exact absurd rfl hs
    · obtain ⟨u, f, info', hinfo', rfl⟩ := (h.registered s).mp hs
      refine ⟨u, f, info', ?_, rfl⟩
      rw [lookup_eraseEntry, if_neg, hinfo']
      rintro ⟨rfl, rfl⟩
      exact hss (by rw [Option.some.inj (hinfo'.symm.trans hinfo)])
  · rintro ⟨u, f, info', hinfo', rfl⟩
    rw [lookup_eraseEntry] at hinfo'
    split_ifs at hinfo' with hslot
    -- The entries that stay have other sessions.
    rw [userOf_eraseEntry, if_neg fun hs => hslot (h.entry_unique hinfo' hinfo hs)]
    exact (h.registered _).mpr ⟨u, f, info', hinfo', rfl⟩

/-- `remove_connection(user_id, device_id)` keeps a registry consistent. -/
theorem consistent_removeConnection {r : Redis} (h : Consistent r) (order : WalkOrder)
    (userId deviceId : String) : Consistent (removeConnection order r userId deviceId) := by
  rcases removeConnection_cases order r userId deviceId with
    ⟨field, info, hinfo, -, hr⟩ | ⟨-, hr⟩
  · rw [hr]
    -- The entry is erased from its user's keys and its session's, and the user dropped if it was
    -- his last.
    apply consistent_dropIfOffline
    · intro u f
      rw [sessionsOf_eraseEntry, platformsOf_eraseEntry]
      split_ifs with hu
      · rw [AList.mem_erase, Finset.mem_erase, h.fields]
      · exact h.fields u f
    · intro u hne
      obtain ⟨f, hf⟩ := ne_empty_iff.mp hne
      obtain ⟨info', hinfo'⟩ := mem_iff_lookup.mp hf
      rw [lookup_eraseEntry] at hinfo'
      split_ifs at hinfo'
      rw [onlineUsers_eraseEntry, h.online]
      exact ne_empty_iff.mpr ⟨f, mem_iff_lookup.mpr ⟨info', hinfo'⟩⟩
    · intro u hu hne
      rw [sessionsOf_eraseEntry, if_neg hne]
      rwa [onlineUsers_eraseEntry, h.online] at hu
    · exact h.registered_eraseEntry hinfo
    · intro u f info' hinfo'
      rw [lookup_eraseEntry] at hinfo'
      split_ifs at hinfo' with hslot
      obtain ⟨hf, hentry⟩ := h.matching _ _ _ hinfo'
      exact ⟨hf, hentry.eraseEntry userId field fun hs => hslot (h.entry_unique hinfo' hinfo hs)⟩
  · rw [hr]
    exact consistent_dropIfOffline h.fields (fun u => (h.online u).mpr)
      (fun u hu _ => (h.online u).mp hu) h.registered h.matching

/-- So does `remove_connection(session)`. -/
theorem consistent_removeSession {r : Redis} (h : Consistent r) (order : WalkOrder)
    (sessionId : String) : Consistent (removeSession order r sessionId) := by
  unfold removeSession
  dsimp only
  split_ifs
  · exact h
  · exact consistent_removeConnection h order _ _

/-! ## A session's own field -/

/-- The device id of a field, when it has no `:` in it. -/
theorem fieldDeviceId_generateDeviceField {deviceId platform : String}
    (h : ':' ∉ deviceId.toList) :
    fieldDeviceId (generateDeviceField deviceId platform) = some deviceId := by
  have hlist : (generateDeviceField deviceId platform).toList =
      deviceId.toList ++ ':' :: platform.toList := by
    simp [generateDeviceField, String.toList_append]
  -- The first `:` of the field is the separator.
  have hall : ∀ c ∈ deviceId.toList, decide (c ≠ ':') = true := by
    intro c hc
    exact decide_eq_true fun hcolon => h (hcolon ▸ hc)
  unfold fieldDeviceId
  rw [hlist, if_pos (by simp), List.takeWhile_append_of_pos hall]
  simp

/-- The field that `remove_connection(session)` looks for is the session's own and no other: its
user id is not empty, its device id has no `:`, and the user has no other field that starts with
the device. -/
def FoundBySession (r : Redis) (sessionId : String) : Prop :=
  userInfo r sessionId "user_id" ≠ "" ∧ ':' ∉ (userInfo r sessionId "device_id").toList ∧
  ∀ f ∈ (sessionsOf r (userInfo r sessionId "user_id")).keys,
    fieldDeviceId f = some (userInfo r sessionId "device_id") →
    f = generateDeviceField (userInfo r sessionId "device_id") (userInfo r sessionId "platform")

/-- The registry `r'` is `r` without the session's own field, in `user:sessions` and in
`user:platform`. -/
def RemovesOwnField (r r' : Redis) (sessionId : String) : Prop :=
  ∃ u d p, UserEntry r sessionId u d p ∧
    generateDeviceField d p ∈ sessionsOf r u ∧
    ∀ u' f,
      ((sessionsOf r' u').lookup f =
        if u' = u ∧ f = generateDeviceField d p then none else (sessionsOf r u').lookup f) ∧
      (f ∈ platformsOf r' u' ↔ f ∈ platformsOf r u' ∧ ¬ (u' = u ∧ f = generateDeviceField d p))

/-- `remove_connection(session)` of a registered session removes exactly its own field. -/
theorem removesOwnField_removeSession {r : Redis} (h : Consistent r) (order : WalkOrder)
    {sessionId : String} (hs : userOf r sessionId ≠ ∅) (hfound : FoundBySession r sessionId) :
    RemovesOwnField r (removeSession order r sessionId) sessionId := by
  obtain ⟨u, f, info, hinfo, rfl⟩ := (h.registered sessionId).mp hs
  obtain ⟨rfl, hentry⟩ := h.matching _ _ _ hinfo
  have hmem := mem_iff_lookup.mpr ⟨info, hinfo⟩
  refine ⟨u, info.deviceId, info.platform, hentry, hmem, ?_⟩
  -- What the call reads are the user and the device of the entry.
  have hu : userInfo r info.sessionId "user_id" = u := by rw [userInfo, hentry.user]; rfl
  have hd : userInfo r info.sessionId "device_id" = info.deviceId := by
    rw [userInfo, hentry.device]; rfl
  have hp : userInfo r info.sessionId "platform" = info.platform := by
    rw [userInfo, hentry.platform]; rfl
  obtain ⟨hne, hcolon, hunique⟩ := hfound
  rw [hu] at hne
  rw [hd] at hcolon
  rw [hu, hd, hp] at hunique
  have hcall : removeSession order r info.sessionId =
      removeConnection order r u info.deviceId := by
    unfold removeSession
    rw [hu, hd]
    exact if_neg hne
  rw [hcall]
  rcases removeConnection_cases order r u info.deviceId with
    ⟨field, info', hinfo', hdev, hr⟩ | ⟨hnone, -⟩
  · obtain rfl := hunique field (AList.mem_keys.mp (mem_iff_lookup.mpr ⟨info', hinfo'⟩)) hdev
    intro u' f
    rw [hr, sessionsOf_dropIfOffline, platformsOf_dropIfOffline, lookup_eraseEntry,
      platformsOf_eraseEntry]
    refine ⟨rfl, ?_⟩
    split_ifs with hu'
    · rw [Finset.mem_erase, hu']
      simp only [true_and, and_comm, ne_eq]
    · simp [hu']
  · exact absurd (fieldDeviceId_generateDeviceField hcolon) (hnone _ (AList.mem_keys.mp hmem))

/-! ## Runs -/

/-- The session that a call adds. -/
def Call.addedSession : Call → Option String
  | .add _ _ _ sessionId _ _ => some sessionId
  | _ => none

/-- The session ids that a run adds are pairwise distinct. -/
def DistinctSessions (calls : List Call) : Prop := (calls.filterMap Call.addedSession).Nodup

/-- The condition on a call: `add_connection` finds no session of the user for the device and
platform, and `remove_connection(session)` of a registered session finds its own field. -/
def CallCondition (r : Redis) : Call → Prop
  | .add userId deviceId platform _ _ _ =>
    generateDeviceField deviceId platform ∉ sessionsOf r userId
  | .remove _ _ _ => True
  | .removeSession sessionId _ => userOf r sessionId ≠ ∅ → FoundBySession r sessionId

/-- A session that a run of distinct sessions adds was not added before. -/
theorem DistinctSessions.not_mem {pre post : List Call} {call : Call} {sessionId : String}
    (h : DistinctSessions (pre ++ call :: post)) (hcall : call.addedSession = some sessionId) :
    sessionId ∉ pre.filterMap Call.addedSession := by
  intro hmem
  unfold DistinctSessions at h
  rw [List.filterMap_append, List.filterMap_cons_some hcall] at h
  exact (List.nodup_append.mp h).2.2 _ hmem _ List.mem_cons_self rfl

/-- A consistent registry with no session but those of the history. -/
def History (pre : List Call) (r : Redis) : Prop :=
  Consistent r ∧ ∀ s, userOf r s ≠ ∅ → s ∈ pre.filterMap Call.addedSession

/-- A session that `remove_connection` leaves was there before. -/
theorem userOf_removeConnection {r : Redis} {order : WalkOrder} {userId deviceId s : String}
    (h : userOf (removeConnection order r userId deviceId) s ≠ ∅) : userOf r s ≠ ∅ := by
  rcases removeConnection_cases order r userId deviceId with ⟨field, info, -, -, hr⟩ | ⟨-, hr⟩
  · rw [hr, userOf_dropIfOffline, userOf_eraseEntry] at h
    split_ifs at h
    · exact absurd rfl h
    · exact h
  · rwa [hr, userOf_dropIfOffline] at h

theorem userOf_removeSession {r : Redis} {order : WalkOrder} {sessionId s : String}
    (h : userOf (removeSession order r sessionId) s ≠ ∅) : userOf r s ≠ ∅ := by
  unfold removeSession at h
  dsimp only at h
  split_ifs at h
  · exact h
  · exact userOf_removeConnection h

/-- One call keeps the registry consistent. -/
theorem history_step (multiDevice : String → Bool) {pre : List Call} {r : Redis} {call : Call}
    (h : History pre r) (hcond : CallCondition r call)
    (hnew : ∀ s, call.addedSession = some s → s ∉ pre.filterMap Call.addedSession) :
    History (pre ++ [call]) (step multiDevice r call) := by
  obtain ⟨hcons, hhist⟩ := h
  unfold History
  rw [List.filterMap_append]
  rcases call with ⟨userId, deviceId, platform, sessionId, now, order⟩ | ⟨userId, deviceId, order⟩ |
    ⟨sessionId, order⟩
  · -- A session that is added had no entry, since every entry is of a session added before.
    have hfresh : userOf r sessionId = ∅ := by
      by_contra hne
      exact hnew sessionId rfl (hhist sessionId hne)
    refine ⟨consistent_added hcons hfresh hcond, fun s hs => ?_⟩
    change userOf (added multiDevice order now r userId deviceId platform sessionId) s ≠ ∅ at hs
    rw [userOf_added] at hs
    split_ifs at hs with hss
    · exact List.mem_append_right _ (by simp [Call.addedSession, hss])
    · exact List.mem_append_left _ (hhist s hs)
  · exact ⟨consistent_removeConnection hcons order _ _,
      fun s hs => List.mem_append_left _ (hhist s (userOf_removeConnection hs))⟩
  · exact ⟨consistent_removeSession hcons order _,
      fun s hs => List.mem_append_left _ (hhist s (userOf_removeSession hs))⟩

/-- Every run of calls with distinct session ids from an empty Redis, in which each
`add_connection` finds its slot free and each `remove_connection(session)` finds the session's own
field: the registry is consistent after every call, and each `remove_connection(session)` of a
registered session removes exactly its field. -/
theorem registry_consistent (multiDevice : String → Bool) (calls : List Call)
    (hdistinct : DistinctSessions calls)
    (hcond : EveryStep (step multiDevice) Redis.empty (fun _ r call => CallCondition r call) calls) :
    (∀ pre, pre <+: calls → Consistent (run (step multiDevice) Redis.empty pre)) ∧
    ∀ pre sessionId order post, calls = pre ++ .removeSession sessionId order :: post →
      userOf (run (step multiDevice) Redis.empty pre) sessionId ≠ ∅ →
      RemovesOwnField (run (step multiDevice) Redis.empty pre)
        (run (step multiDevice) Redis.empty (pre ++ [.removeSession sessionId order]))
        sessionId := by
  have hsteps : EveryStep (step multiDevice) Redis.empty (fun pre r call => CallCondition r call ∧
      ∀ s, call.addedSession = some s → s ∉ pre.filterMap Call.addedSession) calls := by
    intro pre call post hcalls
    exact ⟨hcond pre call post hcalls, fun s hs => (hcalls ▸ hdistinct).not_mem hs⟩
  have hinv : ∀ pre, pre <+: calls → History pre (run (step multiDevice) Redis.empty pre) := by
    rintro pre ⟨post, rfl⟩
    refine hsteps.of_append.inv ⟨consistent_empty, fun s hs => absurd rfl hs⟩ ?_
    exact fun pre r call h hc => history_step multiDevice h hc.1 hc.2
  refine ⟨fun pre hpre => (hinv pre hpre).1, fun pre sessionId order post hcalls hs => ?_⟩
  rw [run_concat]
  exact removesOwnField_removeSession (hinv pre ⟨_, hcalls.symm⟩).1 order hs
    (hcond pre _ post hcalls hs)

/-- The run of a user who connects from two devices, one of which disconnects. -/
def twoDevices : List Call :=
  [.add "alice" "phone" "ios" "s1" 0 .inOrder, .add "alice" "laptop" "web" "s2" 1 .inOrder,
    .removeSession "s1" .inOrder]

/-- That run leaves a consistent registry, without the first session's field. -/
theorem registry_consistent_twoDevices :
    Consistent (run (step fun _ => false) Redis.empty twoDevices) ∧
    RemovesOwnField (run (step fun _ => false) Redis.empty (twoDevices.take 2))
      (run (step fun _ => false) Redis.empty twoDevices) "s1" := by
  have hcond : EveryStep (step fun _ => false) Redis.empty (fun _ r call => CallCondition r call)
      twoDevices := by
    unfold twoDevices
    rw [everyStep_cons, everyStep_cons, everyStep_cons]
    refine ⟨?_, ?_, ?_, everyStep_nil⟩
    · unfold CallCondition
      decide +kernel
    · unfold CallCondition
      decide +kernel
    · intro _
      unfold FoundBySession
      decide +kernel
  obtain ⟨hconsistent, hremoves⟩ :=
    registry_consistent (fun _ => false) twoDevices (by unfold DistinctSessions; decide) hcond
  exact ⟨hconsistent _ List.prefix_rfl, hremoves (twoDevices.take 2) "s1" .inOrder [] rfl
    (ne_empty_iff.mpr ⟨"user_id", by decide +kernel⟩)⟩

/-- A device that reconnects: its second session takes the field of the first, whose
`session:user` entry stays, with no value of `user:sessions` that holds it. -/
theorem registry_inconsistent :
    DistinctSessions [.add "alice" "phone" "ios" "s1" 0 .inOrder,
      .add "alice" "phone" "ios" "s2" 1 .inOrder] ∧
    ¬ Consistent (run (step fun _ => false) Redis.empty
      [.add "alice" "phone" "ios" "s1" 0 .inOrder, .add "alice" "phone" "ios" "s2" 1 .inOrder]) := by
  refine ⟨by unfold DistinctSessions; decide, fun h => ?_⟩
  obtain ⟨u, f, info, hinfo, hs⟩ := (h.registered "s1").mp
    (ne_empty_iff.mpr ⟨"user_id", by decide +kernel⟩)
  -- The entry of `s1` names the user, and his only value holds `s2`.
  have hu : u = "alice" := by
    have huser := (h.matching u f info hinfo).2.user
    rw [hs] at huser
    have halice : (userOf (run (step fun _ => false) Redis.empty
        [.add "alice" "phone" "ios" "s1" 0 .inOrder,
          .add "alice" "phone" "ios" "s2" 1 .inOrder]) "s1").lookup "user_id" = some "alice" := by
      decide +kernel
    exact Option.some.inj (huser.symm.trans halice)
  subst hu
  have hall : ∀ entry ∈ (sessionsOf (run (step fun _ => false) Redis.empty
      [.add "alice" "phone" "ios" "s1" 0 .inOrder,
        .add "alice" "phone" "ios" "s2" 1 .inOrder]) "alice").entries,
      entry.2.sessionId ≠ "s1" := by
    decide +kernel
  exact hall _ (AList.mem_lookup_iff.mp hinfo) hs

end MyChat.Registry
