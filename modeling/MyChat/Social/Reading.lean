import MyChat.Social.FriendService
import MyChat.Social.GroupService

/-!
# What the services read

The result of a program on the tables, when the outcome of a transaction goes by its command: asked
twice, the database answers twice the same. The functions of the friend and group services that
answer a question leave the tables as they are, so that the result of one program after another is
read from the same tables.
-/

namespace MyChat.Social

open CommandProgram

/-- The tables, when the outcome of a transaction goes by its command. -/
abbrev serve (tx : Command → Tx) : Stores → (c : Command) → c.Reply × Stores :=
  handleBy Social.handle tx

variable (tx : Command → Tx) (s : Stores)

/-- The result of a program on the tables. -/
def result {α : Type} (p : Program α) : α := (p.exec (serve tx) s).1

/-- The tables after a program. -/
def after {α : Type} (p : Program α) : Stores := (p.exec (serve tx) s).2

variable {tx s} {α β : Type}

@[simp] theorem result_done (a : α) : result tx s (done a : Program α) = a := rfl

/-- One program after the other. -/
theorem result_bind (p : Program α) (rest : α → Program β) :
    result tx s (p >>= rest) = result tx (after tx s p) (rest (result tx s p)) :=
  congrArg Prod.fst (exec_bind p rest)

/-- A result that is only looked at. -/
theorem result_bind_pure (p : Program α) (f : α → β) :
    result tx s (p >>= fun a => pure (f a)) = f (result tx s p) :=
  result_bind p _

/-- A run of one program after another that reads. -/
theorem exec_bind_of_reads {p : Program α} (h : Reads (serve tx) p) (rest : α → Program β) :
    (p >>= rest).exec (serve tx) s = (rest (result tx s p)).exec (serve tx) s :=
  h.exec_bind

/-- One program after another that reads. -/
theorem result_bind_of_reads {p : Program α} (h : Reads (serve tx) p) (rest : α → Program β) :
    result tx s (p >>= rest) = result tx s (rest (result tx s p)) :=
  congrArg Prod.fst (exec_bind_of_reads h rest)

/-- A reading program for each element of a list. -/
theorem result_mapM {f : α → Program β} (h : ∀ a, Reads (serve tx) (f a)) (l : List α) :
    result tx s (l.mapM f) = l.map fun a => result tx s (f a) :=
  congrArg Prod.fst (exec_mapM h l)

/-- A transaction that changes nothing. -/
theorem reads_query {c : Command} (h : ∀ tx s, (Social.handle tx s c).2 = s) :
    Reads (serve tx) (query c) := fun s => h (tx c) s

/-! ## `UserService` and `FriendService` -/

theorem reads_getProfileByUid (uid : String) : Reads (serve tx) (UserService.getProfileByUid uid) :=
  (reads_query fun _ _ => rfl).bind fun _ => reads_done _

namespace FriendService

theorem reads_toFriendInfo (row : ℕ × Friend) (uid : String) :
    Reads (serve tx) (toFriendInfo row uid) := by
  unfold toFriendInfo resolveNickname
  refine Reads.bind ((reads_getProfileByUid _).bind fun profile => ?_) fun _ => reads_done _
  cases profile with
  | none => exact reads_done _
  | some profile => exact reads_done _

/-- The status in a `FriendInfoDTO` is that of the row. -/
theorem toFriendInfo_status (row : ℕ × Friend) (uid : String) :
    (result tx s (toFriendInfo row uid)).status = row.2.status :=
  congrArg FriendInfo.status (result_bind_pure (resolveNickname _) _)

/-- Friends are relationships that were accepted. -/
theorem status_of_mem_getFriends {uid : String} {info : FriendInfo}
    (h : info ∈ result tx s (getFriends uid)) : info.status = .accepted := by
  unfold getFriends at h
  rw [result_bind_of_reads (reads_query fun _ _ => rfl),
    result_mapM fun row => reads_toFriendInfo row uid] at h
  obtain ⟨row, hrow, rfl⟩ := List.mem_map.mp h
  rw [toFriendInfo_status]
  change row ∈ FriendRepository.findFriends (tx (.findFriends uid)) s.friends uid at hrow
  unfold FriendRepository.findFriends at hrow
  split_ifs at hrow
  · rw [Arrangement.mem_arrange, List.mem_filter, decide_eq_true_eq] at hrow
    exact hrow.2.2
  · exact absurd hrow List.not_mem_nil

/-- Pending requests are relationships that are pending. -/
theorem status_of_mem_getPendingRequests {uid : String} {info : FriendInfo}
    (h : info ∈ result tx s (getPendingRequests uid)) : info.status = .pending := by
  unfold getPendingRequests at h
  rw [result_bind_of_reads (reads_query fun _ _ => rfl),
    result_mapM fun row => reads_toFriendInfo row uid] at h
  obtain ⟨row, hrow, rfl⟩ := List.mem_map.mp h
  rw [toFriendInfo_status]
  change row ∈ FriendRepository.findPending (tx (.findPending uid)) s.friends uid at hrow
  unfold FriendRepository.findPending at hrow
  split_ifs at hrow
  · rw [Arrangement.mem_arrange, List.mem_filter, decide_eq_true_eq] at hrow
    exact hrow.2.2
  · exact absurd hrow List.not_mem_nil

end FriendService

/-! ## `GroupService` and `GroupMessageService` -/

namespace GroupService

theorem reads_toGroupInfo (row : ℕ × Group) : Reads (serve tx) (toGroupInfo row) :=
  (reads_query fun _ _ => rfl).bind fun _ => reads_done _

theorem reads_groupExists (groupId : ℕ) : Reads (serve tx) (groupExists groupId) :=
  (reads_query fun _ _ => rfl).bind fun _ => reads_done _

theorem reads_getGroupInfo (groupId : ℕ) : Reads (serve tx) (getGroupInfo groupId) := by
  refine (reads_query fun _ _ => rfl).bind fun group => ?_
  cases group with
  | none => exact reads_done _
  | some group => exact (reads_toGroupInfo _).bind fun _ => reads_done _

theorem reads_searchGroups (keyword : String) (limit : ℕ) :
    Reads (serve tx) (searchGroups keyword limit) := by
  unfold searchGroups GroupRepository.searchGroups
  refine Reads.bind ?_ fun groups => reads_mapM reads_toGroupInfo groups
  split_ifs
  · exact reads_done _
  · split
    · exact reads_query fun _ _ => rfl
    · refine (reads_query fun _ _ => rfl).bind fun group => ?_
      cases group with
      | none => exact reads_query fun _ _ => rfl
      | some group => exact reads_done _

theorem reads_resolveNickname (uid : String) : Reads (serve tx) (resolveNickname uid) := by
  refine (reads_getProfileByUid uid).bind fun profile => ?_
  cases profile with
  | none => exact reads_done _
  | some profile => exact reads_done _

theorem reads_listMembers (groupId : ℕ) (callerUid : String) :
    Reads (serve tx) (listMembers groupId callerUid) := by
  unfold listMembers
  refine (reads_query fun _ _ => rfl).bind fun group => ?_
  split_ifs
  · exact reads_done _
  · refine (reads_query fun _ _ => rfl).bind fun caller => ?_
    split_ifs
    · exact reads_done _
    · exact (reads_query fun _ _ => rfl).bind fun members =>
        reads_mapM (fun row => (reads_resolveNickname _).bind fun _ => reads_done _) members

/-- No members are listed of a group that is not found. -/
theorem listMembers_of_not_exists {groupId : ℕ} (callerUid : String)
    (h : result tx s (groupExists groupId) = false) :
    result tx s (listMembers groupId callerUid) = [] := by
  have hgroup : (result tx s (query (.findGroupById groupId))).isNone = true := by
    rw [← Option.not_isSome, Bool.not_eq_true']
    exact h
  unfold listMembers
  rw [result_bind_of_reads (reads_query fun _ _ => rfl), if_pos hgroup]
  rfl

/-- A group that is found has an info. -/
theorem isSome_getGroupInfo (groupId : ℕ) :
    (result tx s (getGroupInfo groupId)).isSome = result tx s (groupExists groupId) := by
  unfold getGroupInfo groupExists
  rw [result_bind_of_reads (reads_query fun _ _ => rfl), result_bind_pure]
  cases result tx s (query (.findGroupById groupId)) with
  | none => rfl
  | some group => rfl

end GroupService

namespace GroupMessageService

open GroupService (resolveNickname reads_resolveNickname)

theorem reads_toGroupMessage (row : ℕ × Chat.GroupMessage) :
    Reads (serve tx) (do
      let nickname ← resolveNickname row.2.senderUid
      return (⟨row.1, row.2.senderUid, nickname, row.2.content, row.2.createdAt⟩ :
        GroupMessageInfo)) :=
  (reads_resolveNickname _).bind fun _ => reads_done _

/-- The messages of a history are those that the query finds, each with the nickname of its
sender. -/
theorem result_getHistory (groupId : ℕ) (beforeTime limit : ℤ) :
    result tx s (getHistory groupId beforeTime limit) =
      (result tx s (query (.findByGroup groupId beforeTime limit))).map fun row =>
        ⟨row.1, row.2.senderUid, result tx s (resolveNickname row.2.senderUid), row.2.content,
          row.2.createdAt⟩ := by
  unfold getHistory
  rw [result_bind_of_reads (reads_query fun _ _ => rfl), result_mapM reads_toGroupMessage]
  exact List.map_congr_left fun row _ => result_bind_pure _ _

/-- The messages that the query finds are the group's. -/
theorem groupId_of_mem_findByGroup {groupId : ℕ} {time limit : ℤ} {row : ℕ × Chat.GroupMessage}
    (h : row ∈ result tx s (query (.findByGroup groupId time limit))) :
    row.2.groupId = groupId := by
  change row ∈ GroupMessageRepository.findByGroup (tx (.findByGroup groupId time limit))
    s.groupMessages groupId time limit at h
  unfold GroupMessageRepository.findByGroup at h
  split_ifs at h
  · have hmem := (List.mem_insertionSort _).mp (List.mem_of_mem_take h)
    rw [Arrangement.mem_arrange, List.mem_filter, decide_eq_true_eq] at hmem
    exact hmem.2.1
  · exact absurd h List.not_mem_nil

/-- The row that a message of a group's history is of. -/
def infoRow (groupId : ℕ) (info : GroupMessageInfo) : ℕ × Chat.GroupMessage :=
  (info.msgId, ⟨groupId, info.senderUid, info.content, info.createdAt⟩)

/-- The rows of a history are those that the query finds. -/
theorem map_infoRow_getHistory (groupId : ℕ) (beforeTime limit : ℤ) :
    (result tx s (getHistory groupId beforeTime limit)).map (infoRow groupId) =
      result tx s (query (.findByGroup groupId beforeTime limit)) := by
  rw [result_getHistory, List.map_map]
  refine (List.map_congr_left fun found hfound => ?_).trans (List.map_id _)
  obtain rfl := groupId_of_mem_findByGroup hfound
  rfl

/-- A message that is stored is in the table. -/
theorem mem_rows_create {outcome : Tx} {t : Chat.GroupMessages} {m : Chat.GroupMessage} {msgId : ℕ}
    (h : (GroupMessageRepository.create outcome t m).1 = some msgId) :
    (msgId, m) ∈ (GroupMessageRepository.create outcome t m).2.rows := by
  unfold GroupMessageRepository.create at h ⊢
  split_ifs at h ⊢ with hcommits
  · obtain rfl := Option.some.inj h
    exact List.mem_append_right _ (List.mem_singleton.mpr rfl)

end GroupMessageService

end MyChat.Social
