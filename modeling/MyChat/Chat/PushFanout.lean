import Mathlib.Data.List.Induction
import MyChat.Chat.PushRuntime

/-!
# The calls of a push

`PushRuntime::notify_user` and the policies of `services/push/fanout_policy.cpp` with their loops as
they are written, and with the calls that they make: `notifyCalls` is the trace of `send_payload`
and `mark_delivered`. `push_fanout` says that the trace is one call for each session that the policy
is to select, in the order of the list, and one `mark_delivered` when a session has accepted.
`notifyUser_eq_notifyCalls` connects the trace with `notifyUser`.
-/

namespace MyChat.Chat

/-! ## The policies -/

/-- The inner loop of `PlatformFilterFanoutPolicy`, which ends at the first platform that is the
session's. -/
def pushIfAllowed (session : PushSessionInfo) (ids : List String) : List String → List String
  | [] => ids
  | platform :: platforms =>
    if session.platform = platform then ids ++ [session.sessionId]
    else pushIfAllowed session ids platforms

/-- `select_sessions`, with its loops. -/
def FanoutPolicy.selectIds (policy : FanoutPolicy) (sessions : List PushSessionInfo) :
    List String :=
  match policy with
  | .allSessions => sessions.foldl (fun ids session => ids ++ [session.sessionId]) []
  | .platformFilter allowed =>
    sessions.foldl (fun ids session => pushIfAllowed session ids allowed) []
  | .newestSession =>
    match sessions with
    | [] => []
    | first :: rest => [(newest first rest).sessionId]

theorem pushIfAllowed_eq (session : PushSessionInfo) (ids allowed : List String) :
    pushIfAllowed session ids allowed =
      ids ++ if session.platform ∈ allowed then [session.sessionId] else [] := by
  induction allowed with
  | nil => simp [pushIfAllowed]
  | cons platform platforms ih =>
    unfold pushIfAllowed
    by_cases hplatform : session.platform = platform
    · simp [hplatform]
    · simp [hplatform, ih]

/-- The loops select what `selectSessions` says. -/
theorem selectIds_eq (policy : FanoutPolicy) (sessions : List PushSessionInfo) :
    policy.selectIds sessions = policy.selectSessions sessions := by
  cases policy with
  | allSessions =>
    unfold FanoutPolicy.selectIds FanoutPolicy.selectSessions
    -- By induction from the end of the list, since the loop appends one id for each session.
    induction sessions using List.reverseRecOn with
    | nil => rfl
    | append_singleton sessions session ih =>
      simp only [List.foldl_append, List.foldl_cons, List.foldl_nil, List.map_append,
        List.map_cons, List.map_nil] at ih ⊢
      rw [ih]
  | platformFilter allowed =>
    unfold FanoutPolicy.selectIds FanoutPolicy.selectSessions
    induction sessions using List.reverseRecOn with
    | nil => rfl
    | append_singleton sessions session ih =>
      simp only [List.foldl_append, List.foldl_cons, List.foldl_nil, List.filter_append,
        List.map_append] at ih ⊢
      rw [ih, pushIfAllowed_eq]
      by_cases hallowed : session.platform ∈ allowed <;> simp [hallowed]
  | newestSession => rfl

/-- The loop of `NewestSessionFanoutPolicy` finds the first of the sessions with the greatest
connect time. -/
theorem newest_first_max (first : PushSessionInfo) (rest : List PushSessionInfo) :
    ∃ pre post, first :: rest = pre ++ newest first rest :: post ∧
      (∀ session ∈ pre, session.connectTime < (newest first rest).connectTime) ∧
      ∀ session ∈ post, session.connectTime ≤ (newest first rest).connectTime := by
  -- The loop compares each further session with the newest before it.
  induction rest using List.reverseRecOn with
  | nil => exact ⟨[], [], rfl, by simp, by simp⟩
  | append_singleton rest last ih =>
    obtain ⟨pre, post, hsplit, hpre, hpost⟩ := ih
    have hstep : newest first (rest ++ [last]) =
        if last.connectTime > (newest first rest).connectTime then last
        else newest first rest := by
      rw [newest, List.foldl_append]
      rfl
    rw [hstep, ← List.cons_append, hsplit]
    split_ifs with hnewer
    · -- The last session is newer than all others.
      refine ⟨pre ++ newest first rest :: post, [], rfl, fun session hmem => ?_, by simp⟩
      rcases List.mem_append.mp hmem with hmem | hmem
      · exact Int.lt_trans (hpre session hmem) hnewer
      · rcases List.mem_cons.mp hmem with rfl | hmem
        · exact hnewer
        · exact Int.lt_of_le_of_lt (hpost session hmem) hnewer
    · -- A session that is only as new as the newest does not replace it.
      refine ⟨pre, post ++ [last], by simp, hpre, fun session hmem => ?_⟩
      rcases List.mem_append.mp hmem with hmem | hmem
      · exact hpost session hmem
      · rw [List.mem_singleton.mp hmem]
        exact Int.not_lt.mp hnewer

/-- The sessions that a policy is to select. -/
def Selects (sessions : List PushSessionInfo) : FanoutPolicy → List PushSessionInfo → Prop
  | .allSessions, selected => selected = sessions
  | .platformFilter allowed, selected =>
    selected = sessions.filter fun session => session.platform ∈ allowed
  | .newestSession, selected =>
    (sessions = [] ∧ selected = []) ∨ ∃ pre session post, sessions = pre ++ session :: post ∧
      selected = [session] ∧ (∀ other ∈ pre, other.connectTime < session.connectTime) ∧
      ∀ other ∈ post, other.connectTime ≤ session.connectTime

/-- Each policy selects what it is to select. -/
theorem selectIds_selects (policy : FanoutPolicy) (sessions : List PushSessionInfo) :
    ∃ selected, Selects sessions policy selected ∧
      policy.selectIds sessions = selected.map PushSessionInfo.sessionId := by
  rw [selectIds_eq]
  cases policy with
  | allSessions => exact ⟨sessions, rfl, rfl⟩
  | platformFilter allowed => exact ⟨_, rfl, rfl⟩
  | newestSession =>
    rcases sessions with _ | ⟨first, rest⟩
    · exact ⟨[], .inl ⟨rfl, rfl⟩, rfl⟩
    · obtain ⟨pre, post, hsplit, hpre, hpost⟩ := newest_first_max first rest
      exact ⟨[newest first rest], .inr ⟨pre, _, post, hsplit, rfl, hpre, hpost⟩, rfl⟩

/-! ## The calls -/

/-- A call that `notify_user` makes. -/
inductive NotifyCall where
  /-- `send_payload`. -/
  | sendPayload (sessionId : String) (payload : PushPayload)
  /-- `mark_delivered`. -/
  | markDelivered (msgId : ℕ) (deliveredTime : ℤ)
  deriving DecidableEq, Repr

/-- The loop of `notify_user`, with `i` the place of the first of the sessions: the calls and
`success_count`. -/
def notifyLoop (env : PushEnv) (payload : PushPayload) (i : ℕ) :
    List String → List NotifyCall → ℕ → List NotifyCall × ℕ
  | [], calls, successCount => (calls, successCount)
  | sessionId :: selected, calls, successCount =>
    match env.send i sessionId with
    | .accepted => notifyLoop env payload (i + 1) selected (calls ++ [.sendPayload sessionId payload])
      (successCount + 1)
    -- The exception is caught inside the loop.
    | .refused | .throws => notifyLoop env payload (i + 1) selected
      (calls ++ [.sendPayload sessionId payload]) successCount

/-- `notify_user`: the calls that it makes. -/
def notifyCalls (env : PushEnv) (receiverUid : String) (msgId : ℕ) (content : String)
    (context : PushContext) : List NotifyCall :=
  if env.deps then
    match env.sessions with
    | none => []
    | some sessions =>
      if sessions = [] then []
      else
        let selected := env.policy.selectIds sessions
        if selected = [] then []
        else
          match buildPayload env receiverUid msgId content context with
          | none => []
          | some payload =>
            let (calls, successCount) := notifyLoop env payload 0 selected [] 0
            if successCount > 0 then calls ++ [.markDelivered msgId env.now] else calls
  else []

/-- How many of the sessions accept, the first at place `i`. -/
def acceptances (env : PushEnv) (i : ℕ) (selected : List String) : ℕ :=
  (selected.zipIdx i).countP fun entry => env.send entry.2 entry.1 = .accepted

/-- What the loop does: one call for each session, whatever the calls before it did. -/
theorem notifyLoop_eq (env : PushEnv) (payload : PushPayload) (i : ℕ) (selected : List String)
    (calls : List NotifyCall) (successCount : ℕ) :
    notifyLoop env payload i selected calls successCount =
      (calls ++ selected.map fun sessionId => .sendPayload sessionId payload,
        successCount + acceptances env i selected) := by
  induction selected generalizing i calls successCount with
  | nil => simp [notifyLoop, acceptances]
  | cons sessionId selected ih =>
    -- The head adds one to the count when it accepts, and its call in every case.
    have hcount : acceptances env i (sessionId :: selected) = acceptances env (i + 1) selected +
        if env.send i sessionId = .accepted then 1 else 0 := by
      rw [acceptances, List.zipIdx_cons, List.countP_cons]
      simp only [decide_eq_true_eq]
      rfl
    unfold notifyLoop
    rw [hcount]
    rcases env.send i sessionId with _ | _ | _
    · simp only [ih, List.append_assoc, List.map_cons, List.singleton_append, if_true]
      congr 1
      omega
    · simp [ih]
    · simp [ih]

/-- The sessions accept somewhere when the count is not zero. -/
theorem acceptances_pos {env : PushEnv} {selected : List String} :
    0 < acceptances env 0 selected ↔
      ∃ i sessionId, selected[i]? = some sessionId ∧ env.send i sessionId = .accepted := by
  rw [← acceptedBy_ne_nil, acceptances, List.countP_eq_length_filter, acceptedBy, ne_eq,
    List.map_eq_nil_iff, List.length_pos_iff]

/-- `send_payload` returns `true` for one of the sessions. -/
def SomeAccepted (env : PushEnv) (selected : List PushSessionInfo) : Prop :=
  ∃ (i : ℕ) (session : PushSessionInfo), selected[i]? = some session ∧
    env.send i session.sessionId = .accepted

theorem acceptances_map_pos {env : PushEnv} {selected : List PushSessionInfo} :
    0 < acceptances env 0 (selected.map PushSessionInfo.sessionId) ↔ SomeAccepted env selected := by
  rw [acceptances_pos]
  constructor
  · rintro ⟨i, sessionId, hget, hsend⟩
    rw [List.getElem?_map, Option.map_eq_some_iff] at hget
    obtain ⟨session, hsession, rfl⟩ := hget
    exact ⟨i, session, hsession, hsend⟩
  · rintro ⟨i, session, hsession, hsend⟩
    exact ⟨i, session.sessionId, by rw [List.getElem?_map, hsession, Option.map_some], hsend⟩

/-- The calls of a push with a payload. -/
theorem notifyCalls_of_payload {env : PushEnv} {sessions : List PushSessionInfo}
    (hdeps : env.deps = true) (hsessions : env.sessions = some sessions) {receiverUid : String}
    {msgId : ℕ} {content : String} {context : PushContext} {payload : PushPayload}
    (hpayload : buildPayload env receiverUid msgId content context = some payload) :
    notifyCalls env receiverUid msgId content context =
      ((env.policy.selectIds sessions).map fun sessionId => .sendPayload sessionId payload) ++
        if acceptances env 0 (env.policy.selectIds sessions) > 0 then
          [.markDelivered msgId env.now] else [] := by
  -- An empty list returns early in `notify_user`, and selects nothing in any policy.
  have hnone : sessions = [] → env.policy.selectIds sessions = [] := by
    rintro rfl
    rw [selectIds_eq]
    cases env.policy <;> rfl
  unfold notifyCalls
  simp only [hdeps, hsessions, hpayload, notifyLoop_eq, List.nil_append, Nat.zero_add, if_true]
  by_cases hselected : env.policy.selectIds sessions = []
  · have hzero : ¬ acceptances env 0 [] > 0 := Nat.not_lt_zero 0
    rw [if_pos hselected, hselected, if_neg hzero, ite_self]
    rfl
  · rw [if_neg (mt hnone hselected), if_neg hselected]
    split_ifs
    · rfl
    · rw [List.append_nil]

/-- A push calls `send_payload` once for each session that the policy is to select, in the order of
the list and whatever the calls before have returned or thrown, and `mark_delivered` once when a
call has returned `true`, and not otherwise. A push whose payload is not encoded calls nothing. -/
theorem push_fanout (env : PushEnv) (sessions : List PushSessionInfo) (hdeps : env.deps = true)
    (hsessions : env.sessions = some sessions) (receiverUid : String) (msgId : ℕ) (content : String)
    (context : PushContext) :
    ∃ selected, Selects sessions env.policy selected ∧
      (∀ payload, buildPayload env receiverUid msgId content context = some payload →
        ∃ marks, notifyCalls env receiverUid msgId content context =
            (selected.map fun session => .sendPayload session.sessionId payload) ++ marks ∧
          ((SomeAccepted env selected ∧ marks = [.markDelivered msgId env.now]) ∨
            (¬ SomeAccepted env selected ∧ marks = []))) ∧
      (buildPayload env receiverUid msgId content context = none →
        notifyCalls env receiverUid msgId content context = []) := by
  obtain ⟨selected, hselects, hids⟩ := selectIds_selects env.policy sessions
  refine ⟨selected, hselects, fun payload hpayload => ?_, fun hnone => ?_⟩
  · -- `mark_delivered` is called when the count of the loop is not zero.
    refine ⟨if acceptances env 0 (selected.map PushSessionInfo.sessionId) > 0 then
      [.markDelivered msgId env.now] else [], ?_, ?_⟩
    · rw [notifyCalls_of_payload hdeps hsessions hpayload, hids, List.map_map]
      rfl
    · rw [← acceptances_map_pos]
      split_ifs with haccepted
      · exact .inl ⟨haccepted, rfl⟩
      · exact .inr ⟨haccepted, rfl⟩
  · unfold notifyCalls
    simp only [hdeps, hsessions, hnone, ite_self]

/-- Three sessions, of which the two newest are equally new. -/
def threeSessions : List PushSessionInfo :=
  [⟨"s1", "web", 1⟩, ⟨"s2", "mobile", 5⟩, ⟨"s3", "web", 5⟩]

/-- A push to the sessions of a platform that is listed twice; the first call throws. -/
def webPush : PushEnv where
  deps := true
  sessions := some threeSessions
  policy := .platformFilter ["web", "web"]
  serviceDeviceId := "gateway"
  encodes := true
  send i _ := if i = 0 then .throws else .accepted
  markCommits := true
  now := 7

/-- The second session is called although the first call throws. -/
theorem push_fanout_web :
    ∃ selected, Selects threeSessions webPush.policy selected ∧
      (∀ payload, buildPayload webPush "bob" 3 "hello" ⟨"alice", "direct", "alice"⟩ = some payload →
        ∃ marks, notifyCalls webPush "bob" 3 "hello" ⟨"alice", "direct", "alice"⟩ =
            (selected.map fun session => .sendPayload session.sessionId payload) ++ marks ∧
          ((SomeAccepted webPush selected ∧ marks = [.markDelivered 3 7]) ∨
            (¬ SomeAccepted webPush selected ∧ marks = []))) ∧
      (buildPayload webPush "bob" 3 "hello" ⟨"alice", "direct", "alice"⟩ = none →
        notifyCalls webPush "bob" 3 "hello" ⟨"alice", "direct", "alice"⟩ = []) :=
  push_fanout webPush threeSessions rfl rfl "bob" 3 "hello" ⟨"alice", "direct", "alice"⟩

example : (notifyCalls webPush "bob" 3 "hello" ⟨"alice", "direct", "alice"⟩).map
    (fun
      | .sendPayload sessionId _ => sessionId
      | .markDelivered _ _ => "mark_delivered") = ["s1", "s3", "mark_delivered"] := by
  decide

/-! ## What the callers see -/

/-- The messages after a push are those that its calls leave. -/
theorem notifyUser_eq_notifyCalls (env : PushEnv) (t : Messages) (receiverUid : String) (msgId : ℕ)
    (content : String) (context : PushContext) :
    (notifyUser env t receiverUid msgId content context).2 =
      if .markDelivered msgId env.now ∈ notifyCalls env receiverUid msgId content context then
        (markDelivered env.markCommits t msgId env.now).2 else t := by
  unfold notifyUser PushEnv.selected
  by_cases hdeps : env.deps = true
  · rcases hsessions : env.sessions with _ | sessions
    · simp [notifyCalls, hdeps, hsessions]
    · rcases hpayload : buildPayload env receiverUid msgId content context with _ | payload
      · simp [notifyCalls, hdeps, hsessions, hpayload]
      · -- The call is there when a session accepts.
        have hmem : NotifyCall.markDelivered msgId env.now ∈
            notifyCalls env receiverUid msgId content context ↔
              0 < acceptances env 0 (env.policy.selectSessions sessions) := by
          rw [notifyCalls_of_payload hdeps hsessions hpayload, selectIds_eq]
          split_ifs with haccepted <;> simp [haccepted]
        rw [acceptances_pos, ← acceptedBy_ne_nil] at hmem
        simp only [hdeps, if_true, gt_iff_lt, List.length_pos_iff, hmem]
        by_cases hselected : env.policy.selectSessions sessions = []
        · rw [if_pos hselected, hselected]
          rfl
        · rw [if_neg hselected]
          split_ifs <;> rfl
  · simp [notifyCalls, hdeps]

end MyChat.Chat
