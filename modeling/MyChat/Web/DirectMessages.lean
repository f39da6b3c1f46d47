import MyChat.Chat.RemoteMessages
import MyChat.Lib.CompositeKey
import MyChat.Lib.Run
import Mathlib.Data.List.DropRight
import Mathlib.Data.List.Sort

/-!
# The direct messages that the web client shows

`mergeDirectMessages`, `replaceDirectMessagesForPeer`, and `sortDirectMessages` of
`clients/web/src/App.tsx`, which the state `directMessages` is updated with: a message that was
acknowledged and a list of offline messages are merged into it, and the history of a peer replaces
what it has of the peer. Numbers are integers here, which is what the server sends.

A message is known by its id, sender, and receiver (`identity`); the reducers compare the text that
they make of the three (`key`). Whatever the order of the updates, no message is shown twice and the
list is sorted by time (`updateAll_inv`), and merging a list again changes nothing
(`mergeDirectMessages_idem`). A message leaves the list with a history of its sender or receiver
that lacks it, and in no other way (`shown_update`, `drops_replace_iff`): a history that the server
answered before the message was stored takes it away.
-/

namespace MyChat.Web

/-! ## Model -/

/-- `DirectMessage`. -/
structure DirectMessage where
  /-- `msg_id`. -/
  msgId : ℤ
  /-- `sender_uid`. -/
  senderUid : String
  /-- `receiver_uid`. -/
  receiverUid : String
  /-- `content`. -/
  content : String
  /-- `msg_type`. -/
  msgType : ℤ
  /-- `status`. -/
  status : ℤ
  /-- `create_time`. -/
  createTime : ℤ
  /-- `delivered_time`. -/
  deliveredTime : ℤ
  /-- `read_time`. -/
  readTime : ℤ
  deriving DecidableEq, Repr

/-- `left || right` of two numbers. -/
def numberOr (left right : ℤ) : ℤ := if left = 0 then right else left

/-- `directMessageTime`. -/
def directMessageTime (message : DirectMessage) : ℤ :=
  numberOr message.createTime
    (numberOr message.deliveredTime (numberOr message.readTime (numberOr message.msgId 0)))

/-- `sortDirectMessages`; the sort of an array is stable. -/
def sortDirectMessages (messages : List DirectMessage) : List DirectMessage :=
  messages.insertionSort fun left right => directMessageTime left ≤ directMessageTime right

/-- What the reducers tell messages apart by: `msg_id`, `sender_uid`, and `receiver_uid` with dashes
between them. -/
def DirectMessage.key (message : DirectMessage) : String :=
  toString message.msgId ++ "-" ++ message.senderUid ++ "-" ++ message.receiverUid

/-- `mergeDirectMessages`; `seen` is not written while the incoming messages are added. -/
def mergeDirectMessages (current incoming : List DirectMessage) : List DirectMessage :=
  let seen := current.map DirectMessage.key
  sortDirectMessages (current ++ incoming.filter fun message => message.key ∉ seen)

/-- The characters that `String.prototype.trim` takes away: white space and line terminators. -/
def isSpace (c : Char) : Bool :=
  c ∈ ['\t', '\n', '\u000b', '\u000c', '\r', ' ', '\u00a0', '\u1680', '\u2000', '\u2001', '\u2002',
    '\u2003', '\u2004', '\u2005', '\u2006', '\u2007', '\u2008', '\u2009', '\u200a', '\u2028',
    '\u2029', '\u202f', '\u205f', '\u3000', '\ufeff']

/-- `String.prototype.trim`. -/
def trim (s : String) : String := String.ofList ((s.toList.dropWhile isSpace).rdropWhile isSpace)

/-- The messages that `replaceDirectMessagesForPeer` keeps. -/
def remaining (current : List DirectMessage) (peer : String) : List DirectMessage :=
  current.filter fun message => message.senderUid ≠ peer ∧ message.receiverUid ≠ peer

/-- `replaceDirectMessagesForPeer`. -/
def replaceDirectMessagesForPeer (current incoming : List DirectMessage) (peerUid : String) :
    List DirectMessage :=
  let peer := trim peerUid
  if peer = "" then sortDirectMessages current
  else mergeDirectMessages (remaining current peer) incoming

/-- An update of `directMessages`. -/
inductive Update where
  /-- A message that was acknowledged, or the offline messages. -/
  | merge (incoming : List DirectMessage)
  /-- The history with a peer. -/
  | replace (incoming : List DirectMessage) (peerUid : String)
  deriving DecidableEq, Repr

/-- The list that an update brings. -/
def Update.incoming : Update → List DirectMessage
  | .merge incoming => incoming
  | .replace incoming _ => incoming

/-- `directMessages` after an update. -/
def update (current : List DirectMessage) : Update → List DirectMessage
  | .merge incoming => mergeDirectMessages current incoming
  | .replace incoming peerUid => replaceDirectMessagesForPeer current incoming peerUid

/-- `directMessages` after some updates. -/
abbrev updateAll (current : List DirectMessage) (updates : List Update) : List DirectMessage :=
  Run.run update current updates

/-! ## What a message is known by -/

/-- The id, the sender, and the receiver. -/
def DirectMessage.identity (message : DirectMessage) : ℤ × String × String :=
  (message.msgId, message.senderUid, message.receiverUid)

/-- No two messages of the list have the same id, sender, and receiver. -/
def Distinct (messages : List DirectMessage) : Prop :=
  (messages.map DirectMessage.identity).Nodup

/-- The list is in the order of time. -/
def Sorted (messages : List DirectMessage) : Prop :=
  messages.Pairwise fun left right => directMessageTime left ≤ directMessageTime right

/-- The message is in the list, perhaps with another status or time. -/
def Shown (messages : List DirectMessage) (message : DirectMessage) : Prop :=
  ∃ m ∈ messages, m.identity = message.identity

/-- The update takes the message away: it is the history of its sender or receiver, and has the
message not at all or under a key that a message with others has, too. -/
def Drops (current : List DirectMessage) (message : DirectMessage) : Update → Prop
  | .merge _ => False
  | .replace incoming peerUid =>
    trim peerUid ≠ "" ∧
      (message.senderUid = trim peerUid ∨ message.receiverUid = trim peerUid) ∧
      ∀ m ∈ incoming, m.identity = message.identity →
        m.key ∈ (remaining current (trim peerUid)).map DirectMessage.key

variable {current incoming messages : List DirectMessage}

theorem key_eq_of_identity {a b : DirectMessage} (h : a.identity = b.identity) : a.key = b.key := by
  obtain ⟨hid, hsender, hreceiver⟩ : a.msgId = b.msgId ∧ a.senderUid = b.senderUid ∧
      a.receiverUid = b.receiverUid := by
    simpa [DirectMessage.identity] using h
  rw [DirectMessage.key, hid, hsender, hreceiver, DirectMessage.key]

/-! ## The reducers -/

theorem perm_sortDirectMessages : (sortDirectMessages messages).Perm messages :=
  List.perm_insertionSort _ messages

theorem mem_sortDirectMessages {message : DirectMessage} :
    message ∈ sortDirectMessages messages ↔ message ∈ messages :=
  perm_sortDirectMessages.mem_iff

theorem sorted_sortDirectMessages : Sorted (sortDirectMessages messages) := by
  have htotal : Std.Total fun left right : DirectMessage =>
      directMessageTime left ≤ directMessageTime right := ⟨fun _ _ => Int.le_total _ _⟩
  have htrans : IsTrans DirectMessage fun left right =>
      directMessageTime left ≤ directMessageTime right := ⟨fun _ _ _ => Int.le_trans⟩
  exact List.pairwise_insertionSort _ messages

theorem sortDirectMessages_of_sorted (h : Sorted messages) :
    sortDirectMessages messages = messages := List.Pairwise.insertionSort_eq h

theorem distinct_sortDirectMessages (h : Distinct messages) :
    Distinct (sortDirectMessages messages) :=
  ((perm_sortDirectMessages.map _).nodup_iff).mpr h

/-- A merge adds the messages whose key is not there yet. -/
theorem mem_mergeDirectMessages {message : DirectMessage} :
    message ∈ mergeDirectMessages current incoming ↔ message ∈ current ∨
      message ∈ incoming ∧ message.key ∉ current.map DirectMessage.key := by
  rw [mergeDirectMessages, mem_sortDirectMessages, List.mem_append, List.mem_filter,
    decide_eq_true_iff]

/-- A merge keeps the messages apart: one that is added differs from those that were there. -/
theorem distinct_mergeDirectMessages (hcurrent : Distinct current) (hincoming : Distinct incoming) :
    Distinct (mergeDirectMessages current incoming) := by
  refine distinct_sortDirectMessages ?_
  rw [Distinct, List.map_append, List.nodup_append]
  refine ⟨hcurrent, hincoming.sublist (List.filter_sublist.map _), ?_⟩
  rintro _ hold _ hnew rfl
  obtain ⟨old, hold, hidentity⟩ := List.mem_map.mp hold
  obtain ⟨new, hnew, hidentity'⟩ := List.mem_map.mp hnew
  obtain ⟨-, hkey⟩ := List.mem_filter.mp hnew
  refine of_decide_eq_true hkey ?_
  rw [key_eq_of_identity (hidentity'.trans hidentity.symm)]
  exact List.mem_map_of_mem hold

theorem sorted_mergeDirectMessages : Sorted (mergeDirectMessages current incoming) :=
  sorted_sortDirectMessages

/-- A merge shows what was shown, and what it brings. -/
theorem shown_mergeDirectMessages {message : DirectMessage} :
    Shown (mergeDirectMessages current incoming) message ↔ Shown current message ∨
      ∃ m ∈ incoming, m.identity = message.identity ∧
        m.key ∉ current.map DirectMessage.key := by
  constructor
  · rintro ⟨m, hmem, hidentity⟩
    rcases mem_mergeDirectMessages.mp hmem with hcurrent | ⟨hincoming, hkey⟩
    · exact .inl ⟨m, hcurrent, hidentity⟩
    · exact .inr ⟨m, hincoming, hidentity, hkey⟩
  · rintro (⟨m, hcurrent, hidentity⟩ | ⟨m, hincoming, hidentity, hkey⟩)
    · exact ⟨m, mem_mergeDirectMessages.mpr (.inl hcurrent), hidentity⟩
    · exact ⟨m, mem_mergeDirectMessages.mpr (.inr ⟨hincoming, hkey⟩), hidentity⟩

/-- Merging a list again changes nothing. -/
theorem mergeDirectMessages_idem :
    mergeDirectMessages (mergeDirectMessages current incoming) incoming =
      mergeDirectMessages current incoming := by
  -- Each key of the list is there by now, from before or from the first merge.
  have hseen : ∀ message ∈ incoming, message.key ∈
      (mergeDirectMessages current incoming).map DirectMessage.key := by
    intro message hmem
    by_cases hkey : message.key ∈ current.map DirectMessage.key
    · obtain ⟨m, hm, hmkey⟩ := List.mem_map.mp hkey
      exact List.mem_map.mpr ⟨m, mem_mergeDirectMessages.mpr (.inl hm), hmkey⟩
    · exact List.mem_map_of_mem (mem_mergeDirectMessages.mpr (.inr ⟨hmem, hkey⟩))
  have hnone : incoming.filter (fun message =>
      message.key ∉ (mergeDirectMessages current incoming).map DirectMessage.key) = [] := by
    refine List.filter_eq_nil_iff.mpr fun message hmem hkey => ?_
    exact of_decide_eq_true hkey (hseen message hmem)
  calc mergeDirectMessages (mergeDirectMessages current incoming) incoming
      = sortDirectMessages (mergeDirectMessages current incoming ++ []) := by
        rw [mergeDirectMessages, hnone]
    _ = mergeDirectMessages current incoming := by
        rw [List.append_nil, sortDirectMessages_of_sorted sorted_mergeDirectMessages]

/-! ## An update -/

/-- What is kept beside a history is shown. -/
theorem shown_remaining {peer : String} {message : DirectMessage} :
    Shown (remaining current peer) message ↔ Shown current message ∧
      ¬ (message.senderUid = peer ∨ message.receiverUid = peer) := by
  -- A message of the same identity has the same sender and receiver.
  have hsame : ∀ m : DirectMessage, m.identity = message.identity →
      (m.senderUid = message.senderUid ∧ m.receiverUid = message.receiverUid) := by
    intro m hidentity
    obtain ⟨-, hsender, hreceiver⟩ := Prod.ext_iff.mp hidentity |>.imp_right Prod.ext_iff.mp
    exact ⟨hsender, hreceiver⟩
  rw [not_or]
  constructor
  · rintro ⟨m, hmem, hidentity⟩
    obtain ⟨hcurrent, hother⟩ := List.mem_filter.mp hmem
    obtain ⟨hsender, hreceiver⟩ := hsame m hidentity
    rw [decide_eq_true_iff, hsender, hreceiver] at hother
    exact ⟨⟨m, hcurrent, hidentity⟩, hother⟩
  · rintro ⟨⟨m, hcurrent, hidentity⟩, hother⟩
    obtain ⟨hsender, hreceiver⟩ := hsame m hidentity
    refine ⟨m, List.mem_filter.mpr ⟨hcurrent, ?_⟩, hidentity⟩
    rw [decide_eq_true_iff, hsender, hreceiver]
    exact hother

/-- An update keeps the messages apart. -/
theorem distinct_update (u : Update) (hcurrent : Distinct current)
    (hincoming : Distinct u.incoming) : Distinct (update current u) := by
  cases u with
  | merge incoming => exact distinct_mergeDirectMessages hcurrent hincoming
  | replace incoming peerUid =>
    rw [update, replaceDirectMessagesForPeer]
    split_ifs
    · exact distinct_sortDirectMessages hcurrent
    · have hremaining : Distinct (remaining current (trim peerUid)) :=
        hcurrent.sublist (List.filter_sublist.map _)
      exact distinct_mergeDirectMessages hremaining hincoming

/-- An update sorts the list. -/
theorem sorted_update (u : Update) : Sorted (update current u) := by
  cases u with
  | merge incoming => exact sorted_mergeDirectMessages
  | replace incoming peerUid =>
    rw [update, replaceDirectMessagesForPeer]
    split_ifs
    · exact sorted_sortDirectMessages
    · exact sorted_mergeDirectMessages

/-- A message is still shown after an update that does not drop it, and no longer after one that
does. -/
theorem shown_update {message : DirectMessage} (u : Update) (h : Shown current message) :
    Shown (update current u) message ↔ ¬ Drops current message u := by
  cases u with
  | merge incoming => exact iff_of_true (shown_mergeDirectMessages.mpr (.inl h)) not_false
  | replace incoming peerUid =>
    rw [update, replaceDirectMessagesForPeer, Drops]
    by_cases hpeer : trim peerUid = ""
    · obtain ⟨m, hm, hidentity⟩ := h
      rw [if_pos hpeer]
      exact iff_of_true ⟨m, mem_sortDirectMessages.mpr hm, hidentity⟩ fun hdrops =>
        hdrops.1 hpeer
    · rw [if_neg hpeer, shown_mergeDirectMessages, shown_remaining]
      constructor
      · rintro (⟨-, hother⟩ | ⟨m, hm, hidentity, hkey⟩) ⟨-, hpeer, hlacks⟩
        · exact hother hpeer
        · exact hkey (hlacks m hm hidentity)
      · intro hkeeps
        by_cases hother : message.senderUid = trim peerUid ∨ message.receiverUid = trim peerUid
        · refine .inr ?_
          by_contra hlacks
          refine hkeeps ⟨hpeer, hother, fun m hm hidentity => ?_⟩
          by_contra hkey
          exact hlacks ⟨m, hm, hidentity, hkey⟩
        · exact .inl ⟨h, hother⟩

/-! ## Keys -/

/-- Keys tell messages apart whose senders have uids of one length. -/
theorem identity_eq_of_key {a b : DirectMessage} (ha : 0 ≤ a.msgId) (hb : 0 ≤ b.msgId)
    (hlength : a.senderUid.length = b.senderUid.length) (h : a.key = b.key) :
    a.identity = b.identity := by
  obtain ⟨m, hm⟩ := Int.eq_ofNat_of_zero_le ha
  obtain ⟨n, hn⟩ := Int.eq_ofNat_of_zero_le hb
  have hdash : ∀ k : ℕ, '-' ∉ Nat.toDigits 10 k := fun k hmem =>
    absurd (Nat.isDigit_of_mem_toDigits (by decide) (by decide) hmem) (by decide)
  have hkey : ∀ (message : DirectMessage) (k : ℕ), message.msgId = k → message.key.toList =
      CompositeKey.join '-' (Nat.toDigits 10 k)
        (CompositeKey.join '-' message.senderUid.toList message.receiverUid.toList) := by
    intro message k hk
    have hdigits : (toString (k : ℤ)).toList = Nat.toDigits 10 k := Nat.toList_repr
    rw [DirectMessage.key, hk, String.toList_append, String.toList_append, String.toList_append,
      String.toList_append, hdigits, CompositeKey.join, CompositeKey.join, List.append_assoc,
      List.append_assoc, List.append_assoc]
    rfl
  have hjoin := congrArg String.toList h
  rw [hkey a m hm, hkey b n hn] at hjoin
  -- The id ends at the first dash, and the sender where its length says.
  obtain ⟨hid, hrest⟩ := CompositeKey.join_inj_of_notMem (hdash m) (hdash n) hjoin
  obtain ⟨hsender, hreceiver⟩ := List.append_inj hrest
    (by rw [String.length_toList, String.length_toList, hlength])
  have hmn : m = n := by
    have hvalue := congrArg (Nat.ofDigitChars 10 · 0) hid
    simpa only [Nat.ofDigitChars_ten_toDigits] using hvalue
  rw [DirectMessage.identity, DirectMessage.identity, hm, hn, hmn,
    String.toList_injective hsender, String.toList_injective (List.cons.inj hreceiver).2]

/-- Where all senders have uids of one length, as the uids of the server have, a history drops the
messages of its peer that it does not have. -/
theorem drops_replace_iff {message : DirectMessage} {peerUid : String}
    (hid : 0 ≤ message.msgId) (hids : ∀ m ∈ current, 0 ≤ m.msgId)
    (hlengths : ∀ m ∈ current, m.senderUid.length = message.senderUid.length) :
    Drops current message (.replace incoming peerUid) ↔ trim peerUid ≠ "" ∧
      (message.senderUid = trim peerUid ∨ message.receiverUid = trim peerUid) ∧
      ¬ Shown incoming message := by
  refine and_congr_right fun hpeer => and_congr_right fun hother => ?_
  constructor
  · rintro hlacks ⟨m, hm, hidentity⟩
    obtain ⟨kept, hkept, hkey⟩ := List.mem_map.mp (hlacks m hm hidentity)
    have hcurrent := List.mem_of_mem_filter hkept
    -- The message whose key is in the way would have the peer for its sender or receiver.
    have hsame : kept.identity = message.identity :=
      identity_eq_of_key (hids kept hcurrent) hid (hlengths kept hcurrent)
        (hkey.trans (key_eq_of_identity hidentity))
    exact (shown_remaining.mp ⟨kept, hkept, hsame⟩).2 hother
  · exact fun hlacks m hm hidentity => absurd ⟨m, hm, hidentity⟩ hlacks

/-! ## Runs -/

/-- After any updates the messages are apart and sorted. -/
theorem updateAll_inv {updates : List Update} (h : ∀ u ∈ updates, Distinct u.incoming) :
    Distinct (updateAll [] updates) ∧ Sorted (updateAll [] updates) := by
  have hsteps : Run.EveryStep update [] (fun _ _ u => Distinct u.incoming) updates := by
    rintro pre u post rfl
    exact h u (List.mem_append_right _ List.mem_cons_self)
  exact hsteps.inv (I := fun _ list => Distinct list ∧ Sorted list)
    ⟨List.nodup_nil, List.Pairwise.nil⟩
    fun _ _ u hinv hincoming => ⟨distinct_update u hinv.1 hincoming, sorted_update u⟩

/-- A message is shown from some point on exactly when no later update drops it. -/
theorem shown_updateAll {message : DirectMessage} (later : List Update)
    (h : Shown current message) :
    (∀ pre, pre <+: later → Shown (updateAll current pre) message) ↔
      Run.EveryStep update current (fun _ list u => ¬ Drops list message u) later := by
  constructor
  · rintro hshown pre u post rfl
    have hbefore := hshown pre (List.prefix_append _ _)
    have hafter := hshown (pre ++ [u]) ⟨post, by rw [List.append_assoc, List.singleton_append]⟩
    rw [updateAll, Run.run_concat] at hafter
    exact (shown_update u hbefore).mp hafter
  · rintro hkeeps pre ⟨post, rfl⟩
    exact hkeeps.of_append.inv (I := fun _ list => Shown list message) h
      fun _ _ u hshown hnot => (shown_update u hshown).mpr hnot

/-- After any updates no message is there twice, the list is sorted, and merging a list again
changes nothing; a message of the list is there after each later update exactly when none of them
drops it. -/
theorem updateAll_keeps (updates later : List Update)
    (hdistinct : ∀ u ∈ updates, Distinct u.incoming) :
    Distinct (updateAll [] updates) ∧ Sorted (updateAll [] updates) ∧
      (∀ incoming,
        mergeDirectMessages (mergeDirectMessages (updateAll [] updates) incoming) incoming =
          mergeDirectMessages (updateAll [] updates) incoming) ∧
      ∀ message ∈ updateAll [] updates,
        (∀ pre, pre <+: later → Shown (updateAll [] (updates ++ pre)) message) ↔
          Run.EveryStep update (updateAll [] updates)
            (fun _ list u => ¬ Drops list message u) later := by
  obtain ⟨happart, hsorted⟩ := updateAll_inv hdistinct
  refine ⟨happart, hsorted, fun _ => mergeDirectMessages_idem, fun message hmem => ?_⟩
  rw [← shown_updateAll later ⟨message, hmem, rfl⟩]
  simp only [updateAll, Run.run_append]

/-! ## Histories -/

/-- The number of a `MessageType`. -/
def typeNumber : Chat.MessageType → ℤ
  | .text => 0
  | .image => 1
  | .file => 2
  | .system => 3

/-- `message_data_to_json`, as the client reads it. -/
def ofData (data : Chat.MessageData) : DirectMessage :=
  ⟨data.msgId, data.senderUid, data.receiverUid, data.content, typeNumber data.msgType,
    data.status.toNat, data.createTime, data.deliveredTime, data.readTime⟩

/-- The answer to `directHistory`, which asks for at most 50 messages from before the greatest safe
integer. -/
def directHistory (q : Chat.QueryOrder) (t : Chat.Messages) (uid peerUid : String) :
    List DirectMessage :=
  (Chat.getConversation true q t uid peerUid 9007199254740991 50).map ofData

/-- `bob`'s history is replaced by a list that has the message, and then by one that has not. -/
theorem updateAll_keeps_two :
    let sent := ofData ⟨⟨"alice", "bob", "hi", .text, .sent, 1000, 0, 0⟩, 1⟩
    let updates : List Update := [.merge [sent], .replace [sent] " bob "]
    let later : List Update := [.merge [sent], .replace [] "bob"]
    Distinct (updateAll [] updates) ∧ Sorted (updateAll [] updates) ∧
      (∀ incoming,
        mergeDirectMessages (mergeDirectMessages (updateAll [] updates) incoming) incoming =
          mergeDirectMessages (updateAll [] updates) incoming) ∧
      ∀ message ∈ updateAll [] updates,
        (∀ pre, pre <+: later → Shown (updateAll [] (updates ++ pre)) message) ↔
          Run.EveryStep update (updateAll [] updates)
            (fun _ list u => ¬ Drops list message u) later := by
  refine updateAll_keeps _ _ ?_
  rw [List.forall_mem_cons, List.forall_mem_singleton]
  exact ⟨List.nodup_singleton _, List.nodup_singleton _⟩

/-- A message of `alice` to `bob`. -/
def stored : Chat.Messages :=
  Table.empty.persist 0 ⟨"alice", "bob", "hi", .text, .sent, 1000, 0, 0⟩

/-- `alice` asks for her history with `bob`, which is empty, and sends him a message. The answer to
the message comes first, and with the history the message is gone. -/
theorem not_shown_stale :
    let sent := ofData ⟨⟨"alice", "bob", "hi", .text, .sent, 1000, 0, 0⟩, 1⟩
    let history := directHistory Chat.byCreateTime Table.empty "alice" "bob"
    Distinct [sent] ∧ Distinct history ∧
      sent ∈ directHistory Chat.byCreateTime stored "alice" "bob" ∧
      sent ∈ updateAll [] [.merge [sent]] ∧
      ¬ Shown (updateAll [] [.merge [sent], .replace history "bob"]) sent := by
  intro sent history
  have hgone : updateAll [] [.merge [sent], .replace history "bob"] = [] := by decide +kernel
  refine ⟨List.nodup_singleton _, List.nodup_nil, by decide +kernel, by decide +kernel, ?_⟩
  rintro ⟨m, hmem, -⟩
  rw [hgone] at hmem
  exact absurd hmem List.not_mem_nil

end MyChat.Web
