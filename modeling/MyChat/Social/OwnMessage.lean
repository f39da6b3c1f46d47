import MyChat.Lib.Exchanges
import MyChat.Social.Reading
import MyChat.Social.RemoteGroups

/-!
# The message in the answer

`GroupGrpcService::SendGroupMessage` stores a message in one transaction, and answers with the
newest message of the group up to its time, which it reads in another. Calls of any users take turns
between transactions, with times of their own choice.

`answers_own` says that each call answers with the message that it has stored, as long as no group
has two messages of the same time when a call reads its message back, and that `RemoteGroupClient`
returns the id of that message. `tie_answers_other` is a run in which a call answers with the
message of another.
-/

namespace MyChat.Social

open CommandProgram Interleaving Run
open Chat (GroupMessage toUint64)

/-- A call that sends a message to a group; `now` is `now_ms()` of the server. -/
inductive SendCall where
  /-- `GroupGrpcService::SendGroupMessage`. -/
  | rpc (now : ℤ) (request : SendGroupMessageRpc)
  /-- `RemoteGroupClient::send_message`. -/
  | client (now : ℤ) (groupId : ℕ) (senderUid content : String) (nowMs : ℤ)
  deriving DecidableEq, Repr

/-- What a call returns. -/
inductive SendAnswer where
  /-- The response of the server. -/
  | response (response : SendGroupMessageResponse)
  /-- The result of the client. -/
  | result (result : GroupSendResult)
  deriving DecidableEq

/-- The program of a call. -/
def SendCall.program : SendCall → Program SendAnswer
  | .rpc now request => do
    return .response (← GroupGrpcService.sendGroupMessage now request)
  | .client now groupId senderUid content nowMs => do
    return .result (← RemoteGroupClient.sendMessage now groupId senderUid content nowMs)

/-- The tables and the calls after the turns. -/
abbrev sendsAfter (server : Stores) (turns : List (Turn SendCall Tx)) :
    State Stores SendCall Command Command.Reply SendAnswer :=
  Interleaving.after SendCall.program handle server turns

/-- The row that a request is to insert. -/
def SendGroupMessageRpc.row (now : ℤ) (request : SendGroupMessageRpc) : GroupMessage :=
  ⟨request.groupId, request.fromUid, request.content,
    if request.createTime > 0 then request.createTime else headerTime now request.timestamp⟩

/-- The row that a call is to insert. -/
def SendCall.row : SendCall → GroupMessage
  | .rpc now request => request.row now
  | .client now groupId senderUid content nowMs =>
    (⟨senderUid, toUint64 nowMs, groupId, content, nowMs⟩ : SendGroupMessageRpc).row now

/-! ## What an answer is to carry -/

/-- The call has inserted the row, under the id. -/
def Inserted (E : Exchange Command Command.Reply → Prop) (m : GroupMessage) (msgId : ℕ) : Prop :=
  E ⟨.createGroupMessage m, some msgId⟩

/-- A successful response carries the row that the call has inserted. -/
def OwnResponse (m : GroupMessage) (E : Exchange Command Command.Reply → Prop)
    (response : SendGroupMessageResponse) : Prop :=
  response.base.errorCode = .success → Inserted E m response.message.msgId ∧
    response.message.groupId = m.groupId ∧ response.message.senderUid = m.senderUid ∧
    response.message.content = m.content ∧ response.message.createTime = m.createdAt

/-- An answer is about the row that the call has inserted. -/
def OwnAnswer (m : GroupMessage) (E : Exchange Command Command.Reply → Prop) : SendAnswer → Prop
  | .response response => OwnResponse m E response
  | .result (.ok sent) => Inserted E m sent.msgId
  | .result (.error _) => True

/-- Every call that has returned has answered about its own row. -/
def AnswersOwn (server : Stores) (turns : List (Turn SendCall Tx)) : Prop :=
  ∀ (i : ℕ) call answer, (sendsAfter server turns).calls[i]? = some (call, .done answer) →
    OwnAnswer call.row (Exchanged SendCall.program handle server turns i) answer

/-- When a query reads a message back, the group has no two messages of its time. -/
def NoTieAtRead (tx : Tx) (s : Stores) : Command → Prop
  | .findByGroup groupId beforeTime _ => tx.commits = true → ∀ row ∈ s.groupMessages.rows,
      ∀ row' ∈ s.groupMessages.rows, row.2.groupId = groupId → row'.2.groupId = groupId →
        row.2.createdAt = beforeTime - 1 → row'.2.createdAt = beforeTime - 1 → row = row'
  | _ => True

instance (tx : Tx) (s : Stores) : (c : Command) → Decidable (NoTieAtRead tx s c)
  | .findByGroup _ _ _ => inferInstanceAs (Decidable (_ → ∀ row ∈ s.groupMessages.rows,
      ∀ row' ∈ s.groupMessages.rows, _ → _ → _ → _ → row = row'))
  | .createUser _ | .findByUid _ | .findByAccount _ | .searchUsers _ _ | .updateLastLogin _ _
  | .updateProfile _ _ _ _ _ | .createFriend _ | .findFriendById _ | .findRelationship _ _
  | .findFriends _ | .findPending _ | .updateStatus _ _ | .createGroupWithOwner _ _
  | .findGroupById _ | .findGroupIds _ | .searchByName _ _ | .addMember _ | .removeMember _ _
  | .findMembers _ | .findMember _ _ | .createGroupMessage _ => isTrue trivial

/-! ## Reading back -/

/-- Messages stay in the table. -/
def MessagesStay (s s' : Stores) : Prop :=
  ∀ row ∈ s.groupMessages.rows, row ∈ s'.groupMessages.rows

theorem messagesStay_handle (tx : Tx) (s : Stores) (c : Command) :
    MessagesStay s (handle tx s c).2 := by
  cases c with
  | createGroupMessage m =>
    intro row hrow
    change row ∈ (GroupMessageRepository.create tx s.groupMessages m).2.rows
    unfold GroupMessageRepository.create
    split_ifs
    · exact List.mem_append_left _ hrow
    · exact hrow
  | _ => exact fun _ hrow => hrow

/-- The newest message up to the time of a message that has the time to itself is that message,
unless the query fails. -/
theorem findByGroup_own {tx : Tx} {s : Stores} {msgId : ℕ} {m : GroupMessage}
    (hrow : (msgId, m) ∈ s.groupMessages.rows)
    (halone : NoTieAtRead tx s (.findByGroup m.groupId (m.createdAt + 1) 1)) :
    GroupMessageRepository.findByGroup tx s.groupMessages m.groupId (m.createdAt + 1) 1 = [] ∨
      GroupMessageRepository.findByGroup tx s.groupMessages m.groupId (m.createdAt + 1) 1 =
        [(msgId, m)] := by
  unfold GroupMessageRepository.findByGroup
  split_ifs with hcommits
  · right
    -- The message is among those that the query finds.
    have hmem : (msgId, m) ∈ tx.arrangement.arrange (s.groupMessages.rows.filter fun row =>
        row.2.groupId = m.groupId ∧ row.2.createdAt < m.createdAt + 1) := by
      rw [Arrangement.mem_arrange, List.mem_filter, decide_eq_true_eq]
      exact ⟨hrow, rfl, Int.lt_succ_self _⟩
    cases hsort : (tx.arrangement.arrange (s.groupMessages.rows.filter fun row =>
        row.2.groupId = m.groupId ∧ row.2.createdAt < m.createdAt + 1)).insertionSort
          fun a b => b.2.createdAt ≤ a.2.createdAt with
    | nil =>
      rw [← List.mem_insertionSort fun a b => b.2.createdAt ≤ a.2.createdAt, hsort] at hmem
      exact absurd hmem List.not_mem_nil
    | cons first rest =>
      -- The first is as new as the message, and so it is the message.
      have hle := key_le_head (fun row : ℕ × GroupMessage => row.2.createdAt) hsort hmem
      have hfirst : first ∈ tx.arrangement.arrange (s.groupMessages.rows.filter fun row =>
          row.2.groupId = m.groupId ∧ row.2.createdAt < m.createdAt + 1) := by
        rw [← List.mem_insertionSort fun a b => b.2.createdAt ≤ a.2.createdAt, hsort]
        exact List.mem_cons_self
      rw [Arrangement.mem_arrange, List.mem_filter, decide_eq_true_eq] at hfirst
      obtain ⟨hfound, hgroup, hlt⟩ := hfirst
      have hown : first = (msgId, m) := by
        -- Both are of the time just below the bound of the query.
        refine halone hcommits first hfound (msgId, m) hrow hgroup rfl ?_ ?_
        · dsimp only at hle
          omega
        · dsimp only
          omega
      rw [hown]
      rfl
  · exact .inl rfl

/-! ## The programs -/

section Programs

variable {α β : Type} {Post : (Exchange Command Command.Reply → Prop) → α → Prop}
  {E : Exchange Command Command.Reply → Prop} {s : Stores} {m : GroupMessage}

/-- A program goes on so while messages stay in the table. -/
abbrev Goes (Post : (Exchange Command Command.Reply → Prop) → α → Prop)
    (E : Exchange Command Command.Reply → Prop) (p : Program α) (s : Stores) : Prop :=
  Follows MessagesStay handle NoTieAtRead Post E p s

/-- A program before the rest of a program. -/
theorem goes_bind {p : Program β} {rest : β → Program α}
    (h : ∀ b s' E', MessagesStay s s' → (∀ x, E x → E' x) → Goes Post E' (rest b) s') :
    Goes Post E (p >>= rest) s :=
  follows_bind (fun _ _ hrow => hrow) (fun _ _ _ h h' row hrow => h' row (h row hrow))
    messagesStay_handle h

/-- What follows the insert of a message by `send_message`. -/
theorem goes_sendMessage {rest : Except (String × String) ℕ → Program α} (hrow : m.groupId ≠ 0)
    (hsender : m.senderUid ≠ "")
    (herror : ∀ e s' E', Goes Post E' (rest (.error e)) s')
    (hok : ∀ msgId s' E', (msgId, m) ∈ s'.groupMessages.rows → Inserted E' m msgId →
      Goes Post E' (rest (.ok msgId)) s') :
    Goes Post E (GroupMessageService.sendMessage m.groupId m.senderUid m.content m.createdAt >>= rest)
      s := by
  unfold GroupMessageService.sendMessage
  rw [if_neg hrow, if_neg hsender, CommandProgram.bind_assoc]
  -- The group is looked up, then its members; either may refuse the message.
  refine goes_bind fun found s E _ _ => ?_
  by_cases hfound : (!found) = true
  · rw [if_pos hfound]
    exact herror _ s E
  · rw [if_neg hfound, CommandProgram.bind_assoc]
    refine goes_bind fun members s E _ _ => ?_
    by_cases hmembers : members = []
    · rw [if_pos hmembers]
      exact herror _ s E
    · rw [if_neg hmembers, CommandProgram.bind_assoc]
      refine follows_send fun s' tx _ _ => ?_
      have hmem : ∀ msgId, (handle tx s' (.createGroupMessage m)).1 = some msgId →
          (msgId, m) ∈ (handle tx s' (.createGroupMessage m)).2.groupMessages.rows :=
        fun _ hsome => GroupMessageService.mem_rows_create hsome
      obtain ⟨groupId, senderUid, content, createdAt⟩ := m
      dsimp only at hmem ⊢
      revert hmem
      -- The insert commits, or returns nothing.
      rcases handle tx s' (.createGroupMessage ⟨groupId, senderUid, content, createdAt⟩) with
        ⟨_ | msgId, s''⟩
      · exact fun _ => herror _ _ _
      · exact fun hmem => hok msgId _ _ (hmem msgId rfl) (.inr rfl)

/-- `SendGroupMessage` answers with its own row. -/
theorem goes_sendGroupMessage (now : ℤ) (request : SendGroupMessageRpc)
    (E : Exchange Command Command.Reply → Prop) (s : Stores) :
    Goes (OwnResponse (request.row now)) E (GroupGrpcService.sendGroupMessage now request) s := by
  unfold GroupGrpcService.sendGroupMessage
  by_cases hfields : request.groupId = 0 ∨ request.fromUid = "" ∨ request.content = ""
  · rw [if_pos hfields]
    exact fun hsuccess => absurd hsuccess (by decide)
  · rw [if_neg hfields]
    rw [not_or, not_or] at hfields
    refine goes_sendMessage (m := request.row now) hfields.1 hfields.2.1 (fun e s E => ?_)
      fun msgId s E hmem hinserted => ?_
    · exact fun hsuccess => absurd hsuccess (RemoteGroupClient.groupErrorCode_ne_success e.1)
    · dsimp only
      unfold GroupMessageService.getHistory
      rw [CommandProgram.bind_assoc]
      -- The message is still there when it is read back, whatever the others did in between.
      refine follows_send fun s' tx hstay halone => ?_
      have hread := findByGroup_own (hstay _ hmem) halone
      change Goes _ _ ((GroupMessageRepository.findByGroup tx s'.groupMessages
        (request.row now).groupId ((request.row now).createdAt + 1) 1).mapM _ >>= _) s'
      rcases hread with hnone | hown
      · -- Nothing was read, and the answer is made of the request.
        rw [hnone]
        exact fun _ => ⟨.inl hinserted, rfl, rfl, rfl, rfl⟩
      · rw [hown, List.mapM_cons, CommandProgram.bind_assoc, CommandProgram.bind_assoc]
        refine goes_bind fun nickname s' E' _ himp => ?_
        exact fun _ => ⟨himp _ (.inl hinserted), rfl, rfl, rfl, rfl⟩

/-- A call answers about its own row. -/
theorem goes_program (call : SendCall) (E : Exchange Command Command.Reply → Prop) (s : Stores) :
    Goes (OwnAnswer call.row) E call.program s := by
  cases call with
  | rpc now request => exact Follows.map (goes_sendGroupMessage now request E s)
  | client now groupId senderUid content nowMs =>
    refine Follows.map (Follows.map (Follows.of_post (goes_sendGroupMessage now _ E s) ?_))
    intro E response hown
    -- The client takes the id of the response when this reports success.
    unfold RemoteGroupClient.ofBase
    split_ifs with hsuccess
    · exact trivial
    · exact (hown (not_not.mp hsuccess)).1

end Programs

/-! ## Runs -/

/-- More exchanges do not take an answer's row away. -/
theorem upward_ownAnswer (m : GroupMessage) : Upward (OwnAnswer m) := by
  intro E E' answer himp hown
  rcases answer with response | ⟨e | sent⟩
  · exact fun hsuccess => ⟨himp _ (hown hsuccess).1, (hown hsuccess).2⟩
  · exact trivial
  · exact himp _ hown

/-- In every run in which no group has two messages of the same time when one of them is read back,
each call answers about the row that it has inserted. -/
theorem answers_own (server : Stores) (turns : List (Turn SendCall Tx))
    (hrun : EveryStep (Interleaving.step SendCall.program handle) ⟨server, []⟩ (Meets NoTieAtRead)
      turns) : AnswersOwn server turns := by
  intro i call answer hcall
  have hstart : ∀ (call : SendCall) s, Goes (OwnAnswer call.row) (fun _ => False) call.program s :=
    fun call s => goes_program call _ s
  exact post_run (fun _ _ hrow => hrow) (fun _ _ _ h h' row hrow => h' row (h row hrow))
    messagesStay_handle (fun call => upward_ownAnswer call.row) hstart hrun hcall

/-- A group with the one member `alice`. -/
def aliceAlone : Stores where
  users := .empty
  friends := .empty
  groups := Table.empty.persist 0 ⟨"group", "alice", 1⟩
  members := Table.empty.persist 0 ⟨1, "alice", .owner, 1⟩
  groupMessages := .empty

/-- Two devices of `alice` send a message, and both are stored before either is read back. -/
def twoSends (t t' : ℤ) : List (Turn SendCall Tx) :=
  [.start (.rpc 5 ⟨"alice", 0, 1, "first", t⟩), .start (.rpc 5 ⟨"alice", 0, 1, "second", t'⟩)] ++
    List.replicate 6 (.turn 0 .commit) ++ List.replicate 6 (.turn 1 .commit) ++
    List.replicate 2 (.turn 0 .commit) ++ List.replicate 2 (.turn 1 .commit)

/-- At different times, each call answers about its own. -/
theorem answers_own_two : AnswersOwn aliceAlone (twoSends 10 11) := by
  refine answers_own aliceAlone (twoSends 10 11) ?_
  unfold twoSends
  simp only [List.replicate, List.cons_append, List.nil_append, everyStep_cons]
  exact ⟨by decide, by decide, by decide, by decide, by decide, by decide, by decide, by decide,
    by decide, by decide, by decide, by decide, by decide, by decide, by decide +kernel, by decide,
    by decide +kernel, by decide, everyStep_nil⟩

/-- At the same time, the second call answers about the message of the first. -/
theorem tie_answers_other : ¬ AnswersOwn aliceAlone (twoSends 10 10) := by
  intro h
  have hcall : (sendsAfter aliceAlone (twoSends 10 10)).calls[1]? =
      some (.rpc 5 ⟨"alice", 0, 1, "second", 10⟩,
        .done (.response ⟨.ok, ⟨1, 1, "alice", "alice", "first", 10⟩⟩)) := by
    rfl
  obtain ⟨-, -, -, hcontent, -⟩ := h 1 _ _ hcall rfl
  exact absurd hcontent (by decide)

end MyChat.Social
