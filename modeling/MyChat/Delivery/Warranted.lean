import MyChat.Chat.PushFanout
import MyChat.Delivery.Entitlement

/-!
# The programs of all requests are warranted

A push hands its payload to sessions that the registry listed for the receiver when the push asked,
and the handlers of messages, over either message client and with or without a push notifier, do and
show what their request entitles them to. The friend and group API does to its tables what its own
warrant lets it do.
-/

namespace MyChat.Delivery

open Interleaving CommandProgram
open Chat (Messages Message MessageData PushContext PushPayload SendRequest HttpResponse JsonBody
  Verify authenticate buildContextExt)
open Social (IsMember Stores SocialVisit SocialBody)

variable {multiDevice : String → Bool} {verify : Verify} {visit : Visit} {met : Set World}
  {w w' : World}

/-! ## Pushes -/

/-- A payload carries a message as it was sent. -/
theorem Carries.of_letter {m m' : Message} {payload : PushPayload} (h : Carries m payload)
    (hletter : letter m' = letter m) : Carries m' payload := by
  have hfields : (letter m').senderUid = (letter m).senderUid ∧
      (letter m').receiverUid = (letter m).receiverUid ∧
      (letter m').content = (letter m).content := by
    rw [hletter]
    exact ⟨rfl, rfl, rfl⟩
  obtain ⟨hsender, hreceiver, hcontent⟩ := hfields
  exact ⟨h.1.trans hsender.symm, h.2.1.trans hreceiver.symm, h.2.2.trans hcontent.symm⟩

/-- What holds of a payload holds of it later. -/
theorem OfDirect.of_stays {payload : PushPayload} (h : OfDirect verify visit w payload)
    (hstays : Stays w w') : OfDirect verify visit w' payload := by
  obtain ⟨hsends, hext, id, m, hload, hcarries, hid⟩ := h
  obtain ⟨m', hload', hletter⟩ := hstays.messages id m hload
  exact ⟨hsends, hext, id, m', hload', hcarries.of_letter hletter, hid⟩

/-- What holds of a payload holds of it later. -/
theorem OfGroup.of_stays {met' : Set World} {payload : PushPayload}
    (h : OfGroup verify visit met w payload) (hmet : met ⊆ met') (hstays : Stays w w') :
    OfGroup verify visit met' w' payload := by
  obtain ⟨groupId, hsends, hext, hne, ⟨w₀, hw₀, hmember⟩, id, m, hload, hm⟩ := h
  exact ⟨groupId, hsends, hext, hne, ⟨w₀, hmet hw₀, hmember⟩, id, m,
    hstays.groupMessages id m hload, hm⟩

/-- A payload that a request may hand it may hand later. -/
theorem MayHand.of_stays {met' : Set World} {payload : PushPayload}
    (h : MayHand verify visit met w payload) (hmet : met ⊆ met') (hstays : Stays w w') :
    MayHand verify visit met' w' payload := by
  rcases h with hdirect | hgroup
  · exact Or.inl (hdirect.of_stays hstays)
  · exact Or.inr (hgroup.of_stays hmet hstays)

/-- What is selected is the id of a session of the list. -/
theorem exists_of_mem_selectSessions {policy : Chat.FanoutPolicy}
    {sessions : List Chat.PushSessionInfo} {sessionId : String}
    (h : sessionId ∈ policy.selectSessions sessions) :
    ∃ info ∈ sessions, info.sessionId = sessionId := by
  cases policy with
  | allSessions => exact List.mem_map.mp h
  | platformFilter allowed =>
    obtain ⟨info, hmem, hid⟩ := List.mem_map.mp h
    exact ⟨info, (List.mem_filter.mp hmem).1, hid⟩
  | newestSession =>
    cases sessions with
    | nil => exact absurd h List.not_mem_nil
    | cons first rest =>
      obtain ⟨pre, post, hsplit, -⟩ := Chat.newest_first_max first rest
      refine ⟨Chat.newest first rest, ?_, (List.mem_singleton.mp h).symm⟩
      rw [hsplit]
      simp

/-- What `get_sessions` returns the registry lists. -/
theorem lists_of_mem_getSessions {o : Outcome} {uid : String} {info : Chat.PushSessionInfo}
    (h : info ∈ getSessions o w.redis uid) : Lists w uid info.sessionId := by
  unfold getSessions at h
  split_ifs at h
  · obtain ⟨entry, hentry, rfl⟩ := List.mem_map.mp h
    obtain ⟨f, hlookup⟩ := Registry.mem_getUserSessions_iff.mp hentry
    exact ⟨f, entry, hlookup, rfl⟩
  · exact absurd h List.not_mem_nil

/-- Handing a payload to a session of its receiver. -/
theorem acts_sendPayload {o : Outcome} {sessionId : String} {payload : PushPayload}
    (hmay : MayHand verify visit met w payload)
    (hlists : ∃ w₀ ∈ met, Lists w₀ payload.toUid sessionId) :
    Acts multiDevice verify visit met w
        (handle multiDevice o w (.sendPayload sessionId payload)).2 ∧
      ((handle multiDevice o w (.sendPayload sessionId payload)).1 = true → ∃ session,
        (session, payload) ∈ (handle multiDevice o w (.sendPayload sessionId payload)).2.sent) := by
  rcases hsend : sendPayload o w.process sessionId with _ | session
  · rw [handle_sendPayload_none hsend]
    exact ⟨acts_refl, fun h => nomatch h⟩
  · have hsession : w.process.getSession sessionId = some session := by
      unfold sendPayload at hsend
      split_ifs at hsend
      exact hsend
    rw [handle_sendPayload_some hsend]
    refine ⟨⟨Or.inl rfl, .refl, Or.inr ⟨session, payload, rfl, ?_⟩, Or.inl ⟨rfl, rfl⟩⟩, fun _ => ?_⟩
    · exact ⟨⟨sessionId, hsession, hlists⟩, hmay⟩
    · exact ⟨session, List.mem_cons_self⟩

/-- The loop hands the payload to sessions of its receiver. -/
theorem permitted_sendToAll {payload : PushPayload} {ids : List String}
    (hmay : MayHand verify visit met w payload)
    (hlists : ∀ sessionId ∈ ids, ∃ w₀ ∈ met, Lists w₀ payload.toUid sessionId) :
    Permitted multiDevice verify visit
      (fun _ w' accepted => Stays w w' ∧ (accepted ≠ [] → ∃ session, (session, payload) ∈ w'.sent))
      met (sendToAll payload ids) w := by
  induction ids generalizing met w with
  | nil => exact ⟨Stays.refl w, fun h => absurd rfl h⟩
  | cons sessionId rest ih =>
    refine warranted_send fun w₁ o₁ hstays => ?_
    have hmay₁ : MayHand verify visit met w₁ payload := hmay.of_stays subset_rfl hstays
    have hlisted := hlists sessionId List.mem_cons_self
    have hsend : Acts multiDevice verify visit met w₁
        (handle multiDevice o₁ w₁ (.sendPayload sessionId payload)).2 ∧
        ((handle multiDevice o₁ w₁ (.sendPayload sessionId payload)).1 = true → ∃ session,
          (session, payload) ∈ (handle multiDevice o₁ w₁ (.sendPayload sessionId payload)).2.sent) :=
      acts_sendPayload hmay₁ hlisted
    obtain ⟨hacts, hsent⟩ := hsend
    refine ⟨hacts, ?_⟩
    have hmore : met ⊆ insert w₁ met := Set.subset_insert w₁ met
    refine warranted_bind (ih (hmay₁.of_stays hmore hacts.stays) fun other hother => ?_)
      fun met₂ w₂ others _ _ hothers => ?_
    · obtain ⟨w₀, hw₀, hother⟩ := hlists other (List.mem_cons_of_mem sessionId hother)
      exact ⟨w₀, hmore hw₀, hother⟩
    · refine ⟨(hstays.trans hacts.stays).trans hothers.1, fun haccepted => ?_⟩
      split_ifs at haccepted with haccept
      · obtain ⟨session, hmem⟩ := hsent haccept
        exact ⟨session, hothers.1.sent _ hmem⟩
      · exact hothers.2 haccepted

/-- The payload that `notify_user` builds. -/
def IsPush (receiverUid : String) (msgId : ℕ) (content : String) (context : PushContext)
    (payload : PushPayload) : Prop :=
  payload.fromUid = context.senderUid ∧ payload.toUid = receiverUid ∧ payload.content = content ∧
    payload.relatedMessageId = toString msgId ∧ payload.ext = buildContextExt context

theorem isPush_of_buildPayload {env : Chat.PushEnv} {receiverUid content : String} {msgId : ℕ}
    {context : PushContext} {payload : PushPayload} (huid : context.senderUid ≠ "")
    (h : Chat.buildPayload env receiverUid msgId content context = some payload) :
    IsPush receiverUid msgId content context payload := by
  unfold Chat.buildPayload at h
  rw [if_neg huid] at h
  split_ifs at h
  obtain rfl := Option.some.inj h
  exact ⟨rfl, rfl, rfl, rfl, rfl⟩

/-- `notify_user` hands the payload to sessions of the receiver, and marks its message. -/
theorem permitted_notifyUser {client : MessageClient} {runtime : PushRuntime}
    {receiverUid content : String} {msgId : ℕ} {context : PushContext}
    (hclient : KeepsMessages multiDevice verify visit client) (huid : context.senderUid ≠ "")
    (hmay : ∀ payload, IsPush receiverUid msgId content context payload →
      MayHand verify visit met w payload)
    (hmark : ∀ payload, IsPush receiverUid msgId content context payload → ∀ w', Stays w w' →
      ∀ m, (visit.deployment = .remote → msgId ≠ 0) → w'.messages.load msgId = some m →
      Carries m payload ∨
        ∃ groupId, visit.SendsToGroup verify payload.fromUid groupId payload.content) :
    Permitted multiDevice verify visit (fun _ w' _ => Stays w w') met
      (notifyUser runtime client receiverUid msgId content context) w := by
  unfold notifyUser
  by_cases hdeps : runtime.deps = true
  swap
  · rw [if_pos hdeps]
    exact Stays.refl w
  rw [if_neg (not_not.mpr hdeps)]
  refine permitted_read (fun _ _ => rfl) fun w₁ o₁ hstays₁ => ?_
  have hlists : ∀ info ∈ (handle multiDevice o₁ w₁ (.getSessions receiverUid)).1,
      Lists w₁ receiverUid info.sessionId := fun info hinfo => lists_of_mem_getSessions hinfo
  generalize (handle multiDevice o₁ w₁ (.getSessions receiverUid)).1 = sessions at hlists ⊢
  unfold pushToSessions
  by_cases hnone : (runtime.env sessions).selected = []
  · rw [if_pos hnone]
    exact hstays₁
  rw [if_neg hnone]
  rcases hbuild : Chat.buildPayload (runtime.env sessions) receiverUid msgId content context with
    _ | payload
  · exact hstays₁
  have hpush := isPush_of_buildPayload huid hbuild
  have hmay₁ : MayHand verify visit (insert w₁ met) w₁ payload :=
    (hmay payload hpush).of_stays (Set.subset_insert w₁ met) hstays₁
  -- The sessions of the selection are among those that the registry listed.
  have hselected : ∀ sessionId ∈ (runtime.env sessions).selected,
      ∃ w₀ ∈ insert w₁ met, Lists w₀ payload.toUid sessionId := by
    intro sessionId hmem
    have hpolicy : sessionId ∈ runtime.policy.selectSessions sessions := by
      change sessionId ∈ (if runtime.deps = true then runtime.policy.selectSessions sessions
        else []) at hmem
      rw [if_pos hdeps] at hmem
      exact hmem
    obtain ⟨info, hinfo, rfl⟩ := exists_of_mem_selectSessions hpolicy
    rw [hpush.2.1]
    exact ⟨w₁, Set.mem_insert w₁ met, hlists info hinfo⟩
  refine warranted_bind (permitted_sendToAll hmay₁ hselected) fun met₂ w₂ accepted _ _ h => ?_
  obtain ⟨hstays₂, hsent⟩ := h
  have hstays : Stays w w₂ := hstays₁.trans hstays₂
  by_cases hcount : accepted.length > 0 ∧ runtime.client = true
  swap
  · rw [if_neg hcount]
    exact hstays
  rw [if_pos hcount]
  obtain ⟨session, hmem⟩ := hsent (List.length_pos_iff.mp hcount.1)
  refine warranted_bind (hclient.markDelivered msgId runtime.now met₂ w₂
    fun w' hstays' m hid hload => Or.inr ⟨session, payload, hstays'.sent _ hmem, hpush.2.2.2.1, ?_⟩)
    fun _ _ _ _ _ hstays' => hstays.trans hstays'
  exact hmark payload hpush w' (hstays.trans hstays') m hid hload

/-- `notify_user` for a message that was sent. -/
theorem permitted_notifyDirect {client : MessageClient} {notifier : Option PushRuntime}
    {uid receiverUid content : String} {data : MessageData}
    (hclient : KeepsMessages multiDevice verify visit client)
    (hsends : visit.Sends verify uid receiverUid content) (huid : uid ≠ "")
    {P : ℕ → Message → Prop}
    (hletter : letter data.toMessage = sentRow visit uid receiverUid content)
    (hrow : IsRow visit w P data) :
    Permitted multiDevice verify visit (fun _ w' _ => Stays w w') met
      (notify notifier client receiverUid data.msgId content ⟨uid, "direct", uid⟩) w := by
  obtain ⟨id, m, hload, hnames, hsame, -⟩ := hrow
  have hm : letter m = sentRow visit uid receiverUid content := by
    rw [← hletter, hsame]
    rfl
  -- Every payload of this push carries the row.
  have hcarries : ∀ payload, IsPush receiverUid data.msgId content ⟨uid, "direct", uid⟩ payload →
      Carries m payload := by
    intro payload hpush
    have hown : Carries (sentRow visit uid receiverUid content) payload :=
      ⟨hpush.1, hpush.2.1, hpush.2.2.1⟩
    exact hown.of_letter hm
  cases notifier with
  | none => exact Stays.refl w
  | some runtime =>
  refine permitted_notifyUser hclient huid (fun payload hpush => ?_)
    fun payload hpush w' hstays m' hid hload' => ?_
  · obtain ⟨hfrom, hto, hcontent, hmsgId, hext⟩ := hpush
    refine Or.inl ⟨?_, ?_, id, m, hload, hcarries payload ⟨hfrom, hto, hcontent, hmsgId, hext⟩,
      data.msgId, hnames, hmsgId⟩
    · rw [hfrom, hto, hcontent]
      exact hsends
    · rw [hext, hfrom]
  · have heq : data.msgId = id := hnames.eq hid
    obtain ⟨m'', hload'', hletter''⟩ := hstays.messages id m hload
    obtain rfl : m' = m'' := Option.some.inj (hload'.symm.trans (heq ▸ hload''))
    exact Or.inl ((hcarries payload hpush).of_letter hletter'')

/-! ## Handlers -/

/-- A handler begins with a response to a request without a token of a user, or with its user. -/
theorem authenticate_cases (verify : Verify) (authorization : Option String) :
    (∀ β : Type, ∃ text, authenticate (β := β) verify authorization =
      .error (.failure 401 text)) ∨
    ∃ user, (∀ β : Type, authenticate (β := β) verify authorization = .ok user) ∧
      Bears verify authorization user.userId := by
  unfold Bears authenticate
  dsimp only
  split_ifs
  · exact Or.inl fun β => ⟨_, rfl⟩
  · rcases verify (Chat.extractBearerToken authorization) with _ | user
    · exact Or.inl fun β => ⟨_, rfl⟩
    · exact Or.inr ⟨user, fun β => rfl, user, rfl, rfl⟩

/-- What was sent. -/
theorem fields_of_letter {uid receiverUid content : String} {data : MessageData}
    (h : letter data.toMessage = sentRow visit uid receiverUid content) :
    data.senderUid = uid ∧ data.receiverUid = receiverUid ∧ data.content = content := by
  have hfields : (letter data.toMessage).senderUid = uid ∧
      (letter data.toMessage).receiverUid = receiverUid ∧
      (letter data.toMessage).content = content := by
    rw [h]
    exact ⟨rfl, rfl, rfl⟩
  exact hfields

section Handlers

variable {client : MessageClient} (hclient : KeepsMessages multiDevice verify visit client)
  (notifier : Option PushRuntime)

include hclient

/-- `handle_send` stores and pushes the message of its user, and shows it. -/
theorem permitted_handleSend {authorization : Option String} {body : JsonBody (String × String)}
    (hrequest : visit.request = .send authorization body) :
    Permitted multiDevice verify visit
      (fun met' _ response => Shows verify visit met' (.sent response)) met
      (handleSend verify client notifier visit.nowMs authorization body) w := by
  unfold handleSend
  rcases authenticate_cases verify authorization with hrefused | ⟨user, hok, hbears⟩
  · obtain ⟨text, htext⟩ := hrefused MessageData
    rw [htext]
    trivial
  rw [hok MessageData]
  rcases body with _ | _ | ⟨receiverUid, content⟩
  · trivial
  · trivial
  dsimp only
  by_cases hempty : receiverUid = "" ∨ content = ""
  · rw [if_pos hempty]
    trivial
  rw [if_neg hempty]
  have hsends : visit.Sends verify user.userId receiverUid content := by
    refine ⟨?_, Or.inl ⟨authorization, hrequest⟩⟩
    unfold Visit.IsBy
    rw [hrequest]
    exact hbears
  refine warranted_bind (hclient.sendTextMessage user.userId receiverUid content hsends met w)
    fun met₁ w₁ result _ _ h => ?_
  rcases result with ⟨code, text⟩ | data
  · trivial
  obtain ⟨huid, hmet, hletter, hrow⟩ := h data rfl
  refine warranted_bind (permitted_notifyDirect hclient hsends huid hletter hrow)
    fun met₂ w₂ _ hmore _ _ => ?_
  obtain ⟨hsender, hreceiver, hcontent⟩ := fields_of_letter hletter
  refine ⟨?_, w₁, hmore hmet, hrow.mono fun id m hstored => hstored.of_subset hmore⟩
  rw [hsender, hreceiver, hcontent]
  exact hsends

/-- `handle_send` of the WebSocket handler does the same. -/
theorem permitted_handleWsSend {frame : WsFrame} (hrequest : visit.request = .wsSend frame) :
    Permitted multiDevice verify visit
      (fun met' _ response => Shows verify visit met' (.wsSent response)) met
      (handleWsSend verify client notifier visit.nowMs frame) w := by
  unfold handleWsSend
  by_cases hws : frame.isWebsocket = true
  swap
  · rw [if_pos hws]
    trivial
  rw [if_neg (not_not.mpr hws)]
  by_cases hcmd : frame.cmdId = 2001
  swap
  · rw [if_pos hcmd]
    trivial
  rw [if_neg (not_not.mpr hcmd)]
  rcases hverify : verify frame.token with _ | user
  · trivial
  dsimp only
  by_cases hdevice : frame.deviceId ≠ "" ∧ frame.deviceId ≠ user.deviceId
  · rw [if_pos hdevice]
    trivial
  rw [if_neg hdevice]
  by_cases htype : frame.typeName = "im.message.SendMessageRequest"
  swap
  · rw [if_pos htype]
    trivial
  rw [if_neg (not_not.mpr htype)]
  rcases hframe : frame.content with _ | content
  · trivial
  dsimp only
  by_cases hto : frame.toUid = ""
  · rw [if_pos hto]
    trivial
  rw [if_neg hto]
  by_cases hcontent : content = ""
  · rw [if_pos hcontent]
    trivial
  rw [if_neg hcontent]
  have hsends : visit.Sends verify user.userId frame.toUid content := by
    refine ⟨?_, Or.inr ⟨frame, hrequest, rfl, hframe⟩⟩
    unfold Visit.IsBy
    rw [hrequest]
    exact ⟨user, hverify, rfl⟩
  refine warranted_bind (hclient.sendTextMessage user.userId frame.toUid content hsends met w)
    fun met₁ w₁ result _ _ h => ?_
  rcases result with ⟨code, text⟩ | data
  · trivial
  dsimp only
  by_cases hencodes : frame.encodes = true
  swap
  · rw [if_pos hencodes]
    trivial
  rw [if_neg (not_not.mpr hencodes)]
  obtain ⟨huid, hmet, hletter, hrow⟩ := h data rfl
  refine warranted_bind (permitted_notifyDirect hclient hsends huid hletter hrow)
    fun met₂ w₂ _ hmore _ _ => ?_
  obtain ⟨hsender, hreceiver, hsame⟩ := fields_of_letter hletter
  refine ⟨?_, w₁, hmore hmet, hrow.mono fun id m hstored => hstored.of_subset hmore⟩
  rw [hsender, hreceiver, hsame]
  exact hsends

/-- `handle_history` shows the messages between its user and the peer. -/
theorem permitted_handleHistory {authorization peerUid : Option String}
    {before limit : Chat.NumberParam}
    (hrequest : visit.request = .history authorization peerUid before limit) :
    Permitted multiDevice verify visit
      (fun met' _ response => Shows verify visit met' (.messages response)) met
      (handleHistory verify client authorization peerUid before limit) w := by
  unfold handleHistory
  rcases authenticate_cases verify authorization with hrefused | ⟨user, hok, hbears⟩
  · obtain ⟨text, htext⟩ := hrefused (List MessageData)
    rw [htext]
    trivial
  rw [hok (List MessageData)]
  dsimp only
  by_cases hempty : peerUid.getD "" = ""
  · rw [if_pos hempty]
    trivial
  rw [if_neg hempty]
  rcases hpeer : peerUid with _ | peer
  · exact absurd (by rw [hpeer]; rfl) hempty
  rcases beforeTime before with _ | time
  · trivial
  have hby : visit.IsBy verify user.userId := by
    unfold Visit.IsBy
    rw [hrequest]
    exact hbears
  refine warranted_bind (hclient.getConversation user.userId peer time _ met w)
    fun met₁ w₁ msgs _ _ h => ?_
  exact ⟨user.userId, hby, Or.inl ⟨authorization, peer, before, limit, hpeer ▸ hrequest,
    fun data hdata => ⟨w₁, h data hdata⟩⟩⟩

/-- The loop of `handle_offline` marks messages that were found waiting for the user. -/
theorem permitted_markAll {uid : String} (hpulls : visit.Pulls verify uid) {msgs : List MessageData}
    (hrows : ∀ data ∈ msgs, ∃ w₀ ∈ met, Stays w₀ w ∧ IsRow visit w₀ (fun _ => Waiting uid) data) :
    Permitted multiDevice verify visit (fun _ _ _ => True) met (markAll client visit.nowMs msgs)
      w := by
  induction msgs generalizing met w with
  | nil => trivial
  | cons data rest ih =>
    obtain ⟨w₀, hw₀, hstays₀, id, m, hload, hnames, -, hreceiver, hsent⟩ :=
      hrows data List.mem_cons_self
    refine warranted_bind (hclient.markDelivered data.msgId visit.nowMs met w
      fun w' hstays m' hid hload' => ?_) fun met₁ w₁ _ hmore _ hstays => ih fun other hother => ?_
    · have heq : data.msgId = id := hnames.eq hid
      obtain ⟨m'', hload'', hletter⟩ := (hstays₀.trans hstays).messages id m hload
      obtain rfl : m' = m'' := Option.some.inj (hload'.symm.trans (heq ▸ hload''))
      have hsame : (letter m').receiverUid = (letter m).receiverUid := by rw [hletter]
      have huid : m'.receiverUid = uid := hsame.trans hreceiver
      exact Or.inl ⟨huid.symm ▸ hpulls, w₀, hw₀, m, heq ▸ hload, hsent⟩
    · obtain ⟨w₂, hw₂, hstays₂, hrow⟩ := hrows other (List.mem_cons_of_mem data hother)
      exact ⟨w₂, hmore hw₂, hstays₂.trans hstays, hrow⟩

/-- `handle_offline` shows the messages that were found waiting for its user. -/
theorem permitted_handleOffline {authorization : Option String} {before limit : Chat.NumberParam}
    (hrequest : visit.request = .offline authorization before limit) :
    Permitted multiDevice verify visit
      (fun met' _ response => Shows verify visit met' (.messages response)) met
      (handleOffline verify client visit.nowMs authorization before limit) w := by
  unfold handleOffline
  rcases authenticate_cases verify authorization with hrefused | ⟨user, hok, hbears⟩
  · obtain ⟨text, htext⟩ := hrefused (List MessageData)
    rw [htext]
    trivial
  rw [hok (List MessageData)]
  dsimp only
  rcases beforeTime before with _ | time
  · trivial
  have hby : visit.IsBy verify user.userId := by
    unfold Visit.IsBy
    rw [hrequest]
    exact hbears
  have hpulls : visit.Pulls verify user.userId := ⟨hby, authorization, before, limit, hrequest⟩
  refine warranted_bind (hclient.pullOffline user.userId time _ met w)
    fun met₁ w₁ msgs _ _ h => ?_
  refine warranted_bind (permitted_markAll hclient hpulls fun data hdata =>
    ⟨w₁, (h data hdata).1, Stays.refl w₁, (h data hdata).2⟩) fun met₂ w₂ _ hmore _ _ => ?_
  refine ⟨user.userId, hby, Or.inr ⟨hpulls, fun data hdata => ?_⟩⟩
  obtain ⟨found, hfound, rfl⟩ := List.mem_map.mp hdata
  obtain ⟨hmet, hrow⟩ := h found hfound
  exact ⟨found, rfl, w₁, hmore hmet, hrow⟩

end Handlers

/-! ## Friends and groups -/

section Groups

variable {sv : SocialVisit} (hsv : ∀ uid, sv.IsBy verify uid → visit.IsBy verify uid)

include hsv

/-- What a user may do to friends and groups a request of the user may do here. -/
theorem permitted_relay {α : Type} {Q : Set Stores → Stores → α → Prop} {p : Social.Program α}
    (h : Warranted (Social.socialWarrant verify) Social.handle sv Q (World.social '' met) p
      w.social) :
    Permitted multiDevice verify visit (fun met' w' a => Q (World.social '' met') w'.social a) met
      (relay p) w := by
  refine h.relay (fun _ _ hstays => hstays.friends) (fun o w' c => ⟨o.tx, rfl, rfl⟩)
    fun o w' c met' hguar => ?_
  obtain ⟨uid, hby, hacts⟩ := hguar
  exact ⟨Or.inr ⟨uid, hsv uid hby, hacts⟩, .refl, Or.inl rfl, Or.inl ⟨rfl, rfl⟩⟩

variable {uid : String} (hby : sv.IsBy verify uid) (groupId : ℕ) (content : String)

include hby

/-- The message of the user to the group is stored. -/
def HasGroupMessage (w : World) (uid : String) (groupId : ℕ) (content : String) : Prop :=
  uid ≠ "" ∧ ∃ id m, w.social.groupMessages.load id = some m ∧ m.groupId = groupId ∧
    m.senderUid = uid ∧ m.content = content

omit hsv hby in
theorem HasGroupMessage.of_stays {uid : String} {groupId : ℕ} {content : String}
    (h : HasGroupMessage w uid groupId content) (hstays : Stays w w') :
    HasGroupMessage w' uid groupId content := by
  obtain ⟨huid, id, m, hload, hm⟩ := h
  exact ⟨huid, id, m, hstays.groupMessages id m hload, hm⟩

/-- `send_message` of the service stores the message when it succeeds. -/
theorem permitted_sendMessage (nowMs : ℤ) :
    Permitted multiDevice verify visit
      (fun _ w' result => ∀ id, result = .ok id → HasGroupMessage w' uid groupId content) met
      (relay (Social.GroupMessageService.sendMessage groupId uid content nowMs)) w := by
  unfold Social.GroupMessageService.sendMessage
  have hfail : ∀ (e : String × String) (w' : World) (id : ℕ),
      (Except.error e : Except (String × String) ℕ) = .ok id →
      HasGroupMessage w' uid groupId content := fun _ _ _ h => nomatch h
  by_cases hid : groupId = 0
  · rw [if_pos hid]
    exact hfail _ w
  rw [if_neg hid]
  by_cases huid : uid = ""
  · rw [if_pos huid]
    exact hfail _ w
  rw [if_neg huid, Delivery.relay_bind]
  refine warranted_bind (permitted_relay hsv (Social.allowed_groupExists hby groupId _ _))
    fun met₁ w₁ found _ _ _ => ?_
  cases found with
  | false => exact hfail _ w₁
  | true =>
  change Permitted multiDevice verify visit _ met₁
    (relay (Social.GroupService.listMembers groupId uid >>= _)) w₁
  rw [Delivery.relay_bind]
  refine warranted_bind (permitted_relay hsv (Social.allowed_listMembers hby groupId _ _))
    fun met₂ w₂ members _ _ hshows => ?_
  cases members with
  | nil => exact hfail _ w₂
  | cons info members =>
  obtain ⟨hmember, -⟩ := hshows info List.mem_cons_self
  rw [if_neg (List.cons_ne_nil info members)]
  intro w₃ o₃ _
  rcases Social.handle_createGroupMessage o₃.tx w₃.social ⟨groupId, uid, content, nowMs⟩ with
    heq | heq
  · have hhandle : handle multiDevice o₃ w₃
        (.social (.createGroupMessage ⟨groupId, uid, content, nowMs⟩)) =
        (some (w₃.social.groupMessages.freshId o₃.tx.skip), { w₃ with
          social := { w₃.social with
            groupMessages :=
              w₃.social.groupMessages.persist o₃.tx.skip ⟨groupId, uid, content, nowMs⟩ } }) := by
      simp only [handle, heq]
    rw [hhandle]
    refine ⟨⟨Or.inr ⟨uid, hsv uid hby, rfl, .refl, .refl, .refl,
      Table.changes_persist o₃.tx.skip ⟨rfl, hmember⟩⟩, .refl, Or.inl rfl, Or.inl ⟨rfl, rfl⟩⟩, ?_⟩
    intro id hid
    refine ⟨huid, id, ⟨groupId, uid, content, nowMs⟩, ?_, rfl, rfl, rfl⟩
    rw [Table.load_persist, if_pos (Except.ok.inj hid).symm]
  · have hhandle : handle multiDevice o₃ w₃
        (.social (.createGroupMessage ⟨groupId, uid, content, nowMs⟩)) = (none, w₃) := by
      simp only [handle, heq]
    rw [hhandle]
    exact ⟨acts_refl, hfail _ w₃⟩

/-- `send_message` of the group client that a visit finds. -/
theorem permitted_clientSendMessage (deployment : Social.Deployment) (now nowMs : ℤ) :
    Permitted multiDevice verify visit
      (fun _ w' result => ∀ sent, result = .ok sent → HasGroupMessage w' uid groupId content) met
      (relay ((deployment.api now).groupClient.sendMessage groupId uid content nowMs)) w := by
  cases deployment with
  | inProcess =>
    change Permitted multiDevice verify visit _ met
      (relay (Social.GroupMessageService.sendMessage groupId uid content nowMs >>= _)) w
    rw [Delivery.relay_bind]
    refine warranted_bind (permitted_sendMessage hsv hby groupId content nowMs)
      fun met₁ w₁ result _ _ h => ?_
    intro sent hsent
    cases result with
    | error e => exact nomatch hsent
    | ok id => exact h id rfl
  | remote =>
    change Permitted multiDevice verify visit _ met
      (relay (Social.GroupGrpcService.sendGroupMessage now _ >>= _)) w
    rw [Delivery.relay_bind]
    refine warranted_bind (Q := fun _ w' response => response.base.errorCode = .success →
      HasGroupMessage w' uid groupId content) ?_ fun met₁ w₁ response _ _ h => ?_
    · unfold Social.GroupGrpcService.sendGroupMessage
      dsimp only
      by_cases hrefused : groupId = 0 ∨ uid = "" ∨ content = ""
      · rw [if_pos hrefused]
        exact fun hok => nomatch hok
      rw [if_neg hrefused, Delivery.relay_bind]
      refine warranted_bind (permitted_sendMessage hsv hby groupId content _)
        fun met₁ w₁ result _ _ h => ?_
      cases result with
      | error e =>
        exact fun hok => absurd hok (Social.RemoteGroupClient.groupErrorCode_ne_success e.1)
      | ok id =>
        -- The message that is read back need not be the one that was stored.
        have hstored : HasGroupMessage w₁ uid groupId content := h id rfl
        dsimp only
        rw [Delivery.relay_bind]
        refine warranted_bind (permitted_relay hsv (Social.allowed_getHistory hby groupId _ 1 _ _))
          fun met₂ w₂ messages _ hstays _ => ?_
        rcases messages.head? with _ | message
        · exact fun _ => hstored.of_stays hstays
        · exact fun _ => hstored.of_stays hstays
    · intro sent hsent
      refine h ?_
      by_contra hne
      change Social.RemoteGroupClient.ofBase _ response.base = .ok sent at hsent
      unfold Social.RemoteGroupClient.ofBase at hsent
      rw [if_pos hne] at hsent
      exact nomatch hsent

end Groups

/-- The loop of `handle_send_message` pushes the message to members that were found. -/
theorem permitted_pushToMembers {client : MessageClient} {runtime : PushRuntime}
    (hclient : KeepsMessages multiDevice verify visit client) {uid content : String}
    {groupId msgId : ℕ} (hsends : visit.SendsToGroup verify uid groupId content)
    {members : List Social.MemberInfo} (hstored : HasGroupMessage w uid groupId content)
    (hmembers : ∀ member ∈ members, ∃ w₀ ∈ met, IsMember w₀.social groupId member.userUid) :
    Permitted multiDevice verify visit (fun _ _ _ => True) met
      (pushToMembers client runtime uid groupId msgId content members) w := by
  induction members generalizing met w with
  | nil => trivial
  | cons member rest ih =>
  unfold pushToMembers
  by_cases hown : member.userUid = uid
  · rw [if_neg (not_not.mpr hown)]
    exact ih hstored fun other hother => hmembers other (List.mem_cons_of_mem member hother)
  rw [if_pos hown]
  obtain ⟨huid, id, m, hload, hgroup, hsender, hcontent⟩ := hstored
  have hmay : ∀ payload, IsPush member.userUid msgId content ⟨uid, "group", toString groupId⟩
      payload → MayHand verify visit met w payload := by
    rintro payload ⟨hfrom, hto, hsame, -, hext⟩
    refine Or.inr ⟨groupId, ?_, ?_, ?_, ?_, id, m, hload, hgroup, hsender.trans hfrom.symm,
      hcontent.trans hsame.symm⟩
    · rw [hfrom, hsame]
      exact hsends
    · rw [hext, hfrom]
    · rw [hto, hfrom]
      exact hown
    · rw [hto]
      exact hmembers member List.mem_cons_self
  refine warranted_bind (permitted_notifyUser hclient huid hmay
    fun payload ⟨hfrom, _, hsame, _⟩ w' _ m' _ _ => Or.inr ⟨groupId, ?_⟩)
    fun met₁ w₁ _ hmore _ hstays => ?_
  · rw [hfrom, hsame]
    exact hsends
  · refine ih (HasGroupMessage.of_stays ⟨huid, id, m, hload, hgroup, hsender, hcontent⟩ hstays)
      fun other hother => ?_
    obtain ⟨w₀, hw₀, hmember⟩ := hmembers other (List.mem_cons_of_mem member hother)
    exact ⟨w₀, hmore hw₀, hmember⟩

/-- A user that a handler finds bears the token. -/
theorem bears_of_authenticate {β : Type} {authorization : Option String}
    {user : Chat.UserTokenInfo} (h : authenticate (β := β) verify authorization = .ok user) :
    Bears verify authorization user.userId := by
  rcases authenticate_cases verify authorization with hrefused | ⟨user', hok, hbears⟩
  · obtain ⟨text, htext⟩ := hrefused β
    exact nomatch htext.symm.trans h
  · rw [← Except.ok.inj ((hok β).symm.trans h)]
    exact hbears

/-- `handle_send_message` stores the message of its user, who was found in the group, and pushes it
to the others who were. -/
theorem permitted_handleSendMessage {authorization : Option String}
    {body : JsonBody (UInt64 × String)} (hrequest : visit.request = .sendMessage authorization body)
    (hclient : KeepsMessages multiDevice verify visit
      (messageClient visit.deployment visit.now)) :
    Permitted multiDevice verify visit (fun _ _ _ => True) met
      (handleSendMessage verify (messageClient visit.deployment visit.now) visit.notifier visit.nowMs
        (visit.deployment.api visit.now).groupClient authorization body) w := by
  unfold handleSendMessage
  rcases authenticate_cases verify authorization with hrefused | ⟨user, hok, hbears⟩
  · obtain ⟨text, htext⟩ := hrefused SocialBody
    rw [htext]
    trivial
  rw [hok SocialBody]
  rcases body with _ | _ | ⟨groupId, content⟩
  · trivial
  · trivial
  dsimp only
  by_cases hzero : groupId = 0
  · rw [if_pos hzero]
    trivial
  rw [if_neg hzero]
  by_cases hempty : content = ""
  · rw [if_pos hempty]
    trivial
  rw [if_neg hempty]
  -- What the group client does is the friend and group API's to say.
  let sv : SocialVisit := ⟨visit.deployment, visit.now, visit.nowMs,
    ⟨authorization, .sendMessage (.fields (groupId, content))⟩⟩
  have hsv : ∀ uid, sv.IsBy verify uid → visit.IsBy verify uid := by
    rintro uid ⟨info, hinfo, rfl⟩
    unfold Visit.IsBy
    rw [hrequest]
    exact bears_of_authenticate hinfo
  have hby : sv.IsBy verify user.userId := ⟨user, hok SocialBody, rfl⟩
  have hgroups : Social.AllowsGroups verify sv user.userId
      (visit.deployment.api visit.now).groupClient := by
    rcases visit.deployment with _ | _
    · exact Social.allowsGroups_local hby visit.now
    · exact Social.allowsGroups_remote hby visit.now
  have hsends : visit.SendsToGroup verify user.userId groupId.toNat content :=
    ⟨hsv _ hby, authorization, groupId, hrequest, rfl⟩
  refine warranted_bind (permitted_relay hsv (hgroups.groupExists groupId.toNat _ _))
    fun met₁ w₁ found _ _ _ => ?_
  cases found with
  | false => trivial
  | true =>
  refine warranted_bind (permitted_relay hsv (hgroups.listMembers groupId.toNat _ _))
    fun met₂ w₂ members _ _ hshows => ?_
  by_cases hnone : members = []
  · rw [if_pos hnone]
    trivial
  rw [if_neg hnone]
  have hmembers : ∀ member ∈ members,
      ∃ w₀ ∈ met₂, IsMember w₀.social groupId.toNat member.userUid := by
    intro member hmember
    obtain ⟨-, s, ⟨w₀, hw₀, rfl⟩, hload⟩ := hshows member hmember
    exact ⟨w₀, hw₀, member.id, _, hload, rfl, rfl⟩
  refine warranted_bind (permitted_clientSendMessage hsv hby groupId.toNat content
    visit.deployment visit.now visit.nowMs) fun met₃ w₃ result hmore _ hstored => ?_
  rcases result with ⟨code, text⟩ | sent
  · trivial
  dsimp only
  rcases visit.notifier with _ | runtime
  · trivial
  · refine warranted_bind (permitted_pushToMembers hclient hsends (hstored sent rfl)
      fun member hmember => ?_) fun _ _ _ _ _ _ => trivial
    obtain ⟨w₀, hw₀, hmem⟩ := hmembers member hmember
    exact ⟨w₀, hmore hw₀, hmem⟩

/-! ## Visits -/

/-- Sessions come and go when they do. -/
theorem permitted_session {e : Gateway.SessionEvent} (hrequest : visit.request = .session e) :
    Permitted multiDevice verify visit (fun _ _ _ => True) met (query (.session e)) w :=
  fun _ _ _ => ⟨⟨Or.inl rfl, .refl, Or.inl rfl, Or.inr ⟨e, hrequest, rfl⟩⟩, trivial⟩

/-- The program of a request keeps the warrant. -/
theorem warranted_visit (multiDevice : String → Bool) (verify : Verify) (visit : Visit) (w : World) :
    Warranted (warrant multiDevice verify) (handle multiDevice) visit
      (fun met _ => (warrant multiDevice verify).ends visit met) ∅ (visit.program verify) w := by
  have hclient : KeepsMessages multiDevice verify visit
      (messageClient visit.deployment visit.now) := keepsMessages visit
  unfold Visit.program
  rcases hrequest : visit.request with request | ⟨authorization, body⟩ | frame |
    ⟨authorization, peerUid, before, limit⟩ | ⟨authorization, before, limit⟩ |
    ⟨authorization, body⟩ | ⟨msgId, readTime⟩ | e
  · let sv : SocialVisit := ⟨visit.deployment, visit.now, visit.nowMs, request⟩
    have hsv : ∀ uid, sv.IsBy verify uid → visit.IsBy verify uid := by
      rintro uid ⟨info, hinfo, rfl⟩
      unfold Visit.IsBy
      rw [hrequest]
      exact bears_of_authenticate hinfo
    have hsocial := Social.warranted_visit verify sv w.social
    rw [← Set.image_empty World.social] at hsocial
    exact warranted_bind (permitted_relay hsv hsocial) fun _ _ _ _ _ _ => trivial
  · exact warranted_bind (permitted_handleSend hclient visit.notifier hrequest)
      fun _ _ _ _ _ h => h
  · exact warranted_bind (permitted_handleWsSend hclient visit.notifier hrequest)
      fun _ _ _ _ _ h => h
  · exact warranted_bind (permitted_handleHistory hclient hrequest) fun _ _ _ _ _ h => h
  · exact warranted_bind (permitted_handleOffline hclient hrequest) fun _ _ _ _ _ h => h
  · exact warranted_bind (permitted_handleSendMessage hrequest hclient) fun _ _ _ _ _ _ => trivial
  · exact warranted_bind (hclient.markRead msgId readTime hrequest ∅ w) fun _ _ _ _ _ _ => trivial
  · exact warranted_bind (permitted_session hrequest) fun _ _ _ _ _ _ => trivial

end MyChat.Delivery
