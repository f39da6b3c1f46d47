import MyChat.Chat.RemoteMessages
import MyChat.Lib.Paging

/-!
# The page of a conversation

`MessageService::get_conversation` gives a client the page of a conversation before a time. The
query of `MessageRepository::find_conversation` returns the oldest messages first, and the loop ends
at the limit, so that the page is the beginning of the conversation and not its end.
`getConversation_lastPage_iff` says when the two are the same; the query for the messages of a
group, which sorts the other way, has no such condition.
-/

namespace MyChat.Chat

/-- The message was sent from one of the users to the other. -/
def Exchanged (userA userB : String) (msg : Message) : Prop :=
  (msg.senderUid = userA ∧ msg.receiverUid = userB) ∨
    (msg.senderUid = userB ∧ msg.receiverUid = userA)

instance (userA userB : String) (msg : Message) : Decidable (Exchanged userA userB msg) :=
  inferInstanceAs (Decidable (_ ∨ _))

/-- The conversation of two users before a time. -/
def conversation (t : Messages) (userA userB : String) (beforeTime : ℤ) : List (ℕ × Message) :=
  t.rows.filter fun row => Exchanged userA userB row.2 ∧ row.2.createTime < beforeTime

/-- What `find_conversation` returns is the beginning of the conversation. -/
theorem findConversation_eq (commits : Bool) (q : QueryOrder) (t : Messages) (userA userB : String)
    (beforeTime limit : ℤ) :
    findConversation commits q t userA userB beforeTime limit =
      if commits then (q.order (conversation t userA userB beforeTime)).take limit.toNat else [] := by
  -- The two halves of the query are the two directions of the conversation.
  have hquery : (t.rows.filter fun row =>
      (row.2.senderUid = userA ∧ row.2.receiverUid = userB ∧ row.2.createTime < beforeTime) ∨
      (row.2.senderUid = userB ∧ row.2.receiverUid = userA ∧ row.2.createTime < beforeTime)) =
      conversation t userA userB beforeTime := by
    refine List.filter_congr fun row _ => decide_eq_decide.mpr ?_
    unfold Exchanged
    tauto
  unfold findConversation
  rw [hquery]
  rfl

/-- A message is not newer than another one. -/
def NotNewer (a b : MessageData) : Prop := a.createTime ≤ b.createTime

/-- `get_conversation` returns the newest messages of the conversation, as many as the limit, if and
only if there are no more than that, or all are of the same time. -/
theorem getConversation_lastPage_iff (commits : Bool) (q : QueryOrder) (t : Messages)
    (userA userB : String) {beforeTime limit : ℤ} (hbefore : 0 < beforeTime) (hlimit : 1 ≤ limit) :
    Paging.LastPage NotNewer limit.toNat ((conversation t userA userB beforeTime).map toData)
        (getConversation commits q t userA userB beforeTime limit) ↔
      conversation t userA userB beforeTime = [] ∨ commits = true ∧
        ((conversation t userA userB beforeTime).length ≤ limit.toNat ∨
          ∀ a ∈ conversation t userA userB beforeTime, ∀ b ∈ conversation t userA userB beforeTime,
            a.2.createTime = b.2.createTime) := by
  -- Both guards of `get_conversation` are passed.
  have hpage : getConversation commits q t userA userB beforeTime limit = if commits then
      ((q.order (conversation t userA userB beforeTime)).map toData).take limit.toNat else [] := by
    unfold getConversation
    rw [if_pos hbefore, if_pos (by omega), findConversation_eq]
    split_ifs
    · exact List.map_take
    · rfl
  generalize conversation t userA userB beforeTime = pool at hpage ⊢
  rw [hpage]
  by_cases hcommits : commits = true
  · -- The page is the beginning of the list that the newest messages end.
    have hiff := Paging.lastPage_take_iff (r := NotNewer) (n := limit.toNat)
      (l := (q.order pool).map toData) Int.le_trans (by omega) ((q.perm pool).map toData)
      (List.pairwise_map.mpr (q.sorted pool))
    rw [if_pos hcommits, hiff, List.length_map]
    constructor
    · rintro (hle | hall)
      · exact .inr ⟨hcommits, .inl hle⟩
      · refine .inr ⟨hcommits, .inr fun a ha b hb => Int.le_antisymm ?_ ?_⟩
        · exact hall _ (List.mem_map_of_mem ha) _ (List.mem_map_of_mem hb)
        · exact hall _ (List.mem_map_of_mem hb) _ (List.mem_map_of_mem ha)
    · rintro (rfl | ⟨-, hle | hall⟩)
      · exact .inl (Nat.zero_le _)
      · exact .inl hle
      · refine .inr fun a ha b hb => ?_
        obtain ⟨row, hrow, rfl⟩ := List.mem_map.mp ha
        obtain ⟨row', hrow', rfl⟩ := List.mem_map.mp hb
        exact (hall row hrow row' hrow').le
  · -- A query that fails returns nothing.
    rw [if_neg hcommits]
    constructor
    · intro h
      have hlength := h.length
      rw [List.length_map, List.length_nil] at hlength
      exact .inl (List.eq_nil_of_length_eq_zero (by omega))
    · rintro (rfl | ⟨htrue, -⟩)
      · exact ⟨List.Pairwise.nil, by simp, [], by simp, by simp⟩
      · exact absurd htrue hcommits

/-- Two messages between `alice` and `bob`. -/
def twoMessages : Messages :=
  (Table.empty.persist 0 ⟨"alice", "bob", "old", .text, .sent, 10, 0, 0⟩).persist 0
    ⟨"bob", "alice", "new", .text, .sent, 20, 0, 0⟩

/-- A page with room for both. -/
theorem getConversation_lastPage_both :
    Paging.LastPage NotNewer 2 ((conversation twoMessages "alice" "bob" int64Max).map toData)
      (getConversation true byCreateTime twoMessages "alice" "bob" int64Max 2) := by
  have hbefore : 0 < int64Max := by decide
  have hlimit : (1 : ℤ) ≤ 2 := by decide
  exact (getConversation_lastPage_iff true byCreateTime twoMessages "alice" "bob" hbefore hlimit).mpr
    (.inr ⟨rfl, .inl (by decide)⟩)

/-- Who asks for the latest message is given the oldest one. -/
theorem getConversation_oldest :
    getConversation true byCreateTime twoMessages "alice" "bob" int64Max 1 =
        [⟨⟨"alice", "bob", "old", .text, .sent, 10, 0, 0⟩, 1⟩] ∧
      ¬ Paging.LastPage NotNewer 1 ((conversation twoMessages "alice" "bob" int64Max).map toData)
        (getConversation true byCreateTime twoMessages "alice" "bob" int64Max 1) := by
  have hpage : getConversation true byCreateTime twoMessages "alice" "bob" int64Max 1 =
      [⟨⟨"alice", "bob", "old", .text, .sent, 10, 0, 0⟩, 1⟩] := by
    decide +kernel
  refine ⟨hpage, fun h => ?_⟩
  -- The newer message would have to be older than one of the page.
  obtain ⟨b, hb, hafter⟩ := h.exists_after (fun a => Int.le_refl a.createTime) (by decide)
    (a := ⟨⟨"bob", "alice", "new", .text, .sent, 20, 0, 0⟩, 2⟩) (by decide)
  rw [hpage, List.mem_singleton] at hb
  rw [hb] at hafter
  exact absurd hafter (by unfold NotNewer; decide)

end MyChat.Chat
