import MyChat.Chat.Controllers
import MyChat.Chat.RemoteMessages
import MyChat.Lib.Paging

/-!
# Draining the offline messages

A receiver pulls one page after the other, without `before_time`, until a page is empty. Each pull
selects its page by the status that the pulls before it have changed. `offline_drained` says that
the pages make up the pending messages, each once and in order, and that nothing else is changed.

`handle_offline` asks for messages created before `INT64_MAX` when there is no `before_time`. A
message of that very moment is never returned, which `last_moment_stays` shows.
-/

namespace MyChat.Chat

open MyChat.Run

/-- A message waits for the receiver. -/
def Pending (receiverUid : String) (msg : Message) : Prop :=
  msg.receiverUid = receiverUid ∧ msg.status = .sent ∧ msg.createTime < int64Max

instance (receiverUid : String) (msg : Message) : Decidable (Pending receiverUid msg) :=
  inferInstanceAs (Decidable (_ ∧ _ ∧ _))

/-- The rows of the messages that wait for the receiver. -/
def pendingRows (receiverUid : String) (t : Messages) : List (ℕ × Message) :=
  t.rows.filter fun row => Pending receiverUid row.2

/-- What `mark_delivered` makes of a message. -/
def delivered (now : ℤ) (msg : Message) : Message :=
  { msg with status := .delivered, deliveredTime := now }

/-- What a pull returns of a row. -/
def deliveredData (now : ℤ) (row : ℕ × Message) : MessageData := toData (row.1, delivered now row.2)

/-- The messages, and what was returned so far. -/
structure Drain where
  /-- `im_messages`. -/
  messages : Messages
  /-- The messages of all pages. -/
  returned : List MessageData

/-- The messages of a response. -/
def answered : HttpResponse (List MessageData) → List MessageData
  | .failure _ _ => []
  | .success _ msgs => msgs

/-- A pull. -/
def pull (verify : Verify) (s : Drain) (req : OfflinePull) : Drain :=
  let handled := handleOffline verify req s.messages
  ⟨handled.messages, s.returned ++ answered handled.response⟩

/-- The request is a pull by the receiver without `before_time`, and each `mark_delivered`
succeeds. -/
structure PullBy (verify : Verify) (receiverUid : String) (req : OfflinePull) : Prop where
  /-- The token is the receiver's. -/
  user : ∃ user, authenticate (β := List MessageData) verify req.authorization = .ok user ∧
    user.userId = receiverUid
  /-- There is no `before_time`. -/
  beforeTime : req.beforeTime = .absent
  /-- Every mark commits. -/
  marks : ∀ msgId, req.markCommits msgId = true

/-- The rows that a pull without `before_time` finds. -/
def page (receiverUid : String) (t : Messages) (req : OfflinePull) : List (ℕ × Message) :=
  findOffline req.queryCommits req.order t receiverUid int64Max (offlineLimit req.limit)

variable {verify : Verify} {receiverUid : String} {req : OfflinePull} {t : Messages}
  {pulls : List OfflinePull}

/-- What a pull does. -/
theorem handleOffline_pull (h : PullBy verify receiverUid req) (t : Messages) :
    answered (handleOffline verify req t).response =
        (page receiverUid t req).map (deliveredData req.now) ∧
      (handleOffline verify req t).messages =
        markAll req.markCommits req.now t ((page receiverUid t req).map toData) := by
  obtain ⟨user, huser, rfl⟩ := h.user
  -- Without `before_time` the time is `INT64_MAX`, and the limit is positive: the query is made.
  have hpage : pullOffline req.queryCommits req.order t user.userId int64Max
      (offlineLimit req.limit) = (page user.userId t req).map toData := by
    unfold pullOffline page
    rw [if_pos (by decide), if_pos (offlineLimit_pos req.limit)]
  unfold handleOffline
  simp only [huser, h.beforeTime, hpage, answered, List.map_map, and_true]
  rfl

/-- The rows after a page was marked. -/
theorem load_markAll {markCommits : ℕ → Bool} (hmarks : ∀ msgId, markCommits msgId = true)
    (now : ℤ) (t : Messages) (rows : List (ℕ × Message)) (id : ℕ) :
    (markAll markCommits now t (rows.map toData)).load id =
      if id ∈ rows.map Prod.fst then (t.load id).map (delivered now) else t.load id := by
  induction rows generalizing t with
  | nil => simp [markAll]
  | cons row rows ih =>
    -- The first row is marked before the others.
    have hstep : markAll markCommits now t ((row :: rows).map toData) =
        markAll markCommits now (markDelivered true t row.1 now).2 (rows.map toData) := by
      rw [List.map_cons, markAll, List.foldl_cons, hmarks]
      rfl
    have hload : (markDelivered true t row.1 now).2.load id =
        if id = row.1 then (t.load id).map (delivered now) else t.load id := by
      unfold markDelivered
      rw [load_writeBack]
      simp only [true_and]
      rfl
    rw [hstep, ih, hload, List.map_cons]
    -- A row that is marked twice is marked.
    have htwice : ((t.load id).map (delivered now)).map (delivered now) =
        (t.load id).map (delivered now) := by
      rw [Option.map_map]
      rfl
    by_cases hid : id = row.1
    · have hhead : id ∈ row.1 :: rows.map Prod.fst := List.mem_cons.mpr (.inl hid)
      rw [if_pos hid, if_pos hhead]
      split_ifs
      · exact htwice
      · rfl
    · rw [if_neg hid]
      simp only [List.mem_cons, hid, false_or]

/-- The rows that wait after a page was marked are those that are not on it. -/
theorem mem_pendingRows_markAll {markCommits : ℕ → Bool}
    (hmarks : ∀ msgId, markCommits msgId = true) {now : ℤ} {rows : List (ℕ × Message)}
    (hrows : ∀ row ∈ rows, row ∈ t.rows) {row : ℕ × Message} :
    row ∈ pendingRows receiverUid (markAll markCommits now t (rows.map toData)) ↔
      row ∈ pendingRows receiverUid t ∧ row ∉ rows := by
  obtain ⟨id, msg⟩ := row
  have hmem : ∀ t : Messages, (id, msg) ∈ pendingRows receiverUid t ↔
      t.load id = some msg ∧ Pending receiverUid msg := by
    intro t
    rw [pendingRows, List.mem_filter, t.mem_rows, decide_eq_true_eq]
  rw [hmem, hmem, load_markAll hmarks]
  split_ifs with hid
  · -- The row of this id is on the page, with the message that was stored.
    obtain ⟨⟨id', msg'⟩, hrow, rfl⟩ := List.mem_map.mp hid
    have hload : t.load id' = some msg' := t.mem_rows.mp (hrows _ hrow)
    constructor
    · -- A row of the page is delivered.
      rintro ⟨hdelivered, -, hsent, -⟩
      rw [hload] at hdelivered
      obtain rfl := Option.some.inj hdelivered
      exact absurd hsent (by simp [delivered])
    · rintro ⟨⟨hsame, -⟩, hnot⟩
      rw [hload] at hsame
      obtain rfl := Option.some.inj hsame
      exact absurd hrow hnot
  · constructor
    · exact fun h => ⟨h, fun hrow => hid (List.mem_map_of_mem hrow)⟩
    · exact fun h => h.1

theorem nodup_rows (t : Messages) : t.rows.Nodup := t.nodup.of_map

/-- A page is the first rows, at least one when there is one, of those that wait in some order. -/
theorem page_eq (receiverUid : String) (t : Messages) (req : OfflinePull) :
    page receiverUid t req = if req.queryCommits then
      (req.order.order (pendingRows receiverUid t)).take (offlineLimit req.limit).toNat else [] := rfl

/-- After a pull, what waited is on the page or waits. -/
theorem drained_page {taken pool : List (ℕ × Message)} (h : PullBy verify receiverUid req)
    (hdrained : Paging.Drained (fun a b => a.2.createTime ≤ b.2.createTime) pool taken
      (pendingRows receiverUid t)) :
    Paging.Drained (fun a b => a.2.createTime ≤ b.2.createTime) pool
      (taken ++ page receiverUid t req)
      (pendingRows receiverUid (handleOffline verify req t).messages) := by
  rw [(handleOffline_pull h t).2]
  have hmem : ∀ {row : ℕ × Message}, row ∈ pendingRows receiverUid
      (markAll req.markCommits req.now t ((page receiverUid t req).map toData)) ↔
      row ∈ pendingRows receiverUid t ∧ row ∉ page receiverUid t req :=
    mem_pendingRows_markAll h.marks fun row hrow => (of_mem_findOffline hrow).1
  have hnodup : ∀ t : Messages, (pendingRows receiverUid t).Nodup :=
    fun t => (nodup_rows t).filter _
  by_cases hcommits : req.queryCommits = true
  · -- The page is the beginning of what waits, and what is left is the rest of it.
    have hperm := req.order.perm (pendingRows receiverUid t)
    have hnext := hdrained.take hperm (req.order.sorted _) (offlineLimit req.limit).toNat
    rw [page_eq, if_pos hcommits] at hmem ⊢
    refine hnext.of_perm ?_
    have horder := hperm.nodup_iff.mpr (hnodup t)
    rw [List.perm_ext_iff_of_nodup (hnodup _) (horder.sublist (List.drop_sublist _ _))]
    intro row
    rw [hmem, Paging.mem_drop_iff horder, hperm.mem_iff]
  · -- A query that fails gives an empty page, and nothing is marked.
    rw [page_eq, if_neg hcommits] at hmem ⊢
    rw [List.append_nil]
    refine hdrained.of_perm ?_
    rw [List.perm_ext_iff_of_nodup (hnodup _) (hnodup t)]
    intro row
    rw [hmem]
    simp

/-- What the pulls have done: they returned the rows of `stamped`, each at its time. -/
structure DrainedBy (receiverUid : String) (t : Messages) (pulls : List OfflinePull)
    (stamped : List (ℤ × ℕ × Message)) (s : Drain) : Prop where
  /-- The pages are the rows, marked delivered. -/
  returned : s.returned = stamped.map fun entry => deliveredData entry.1 entry.2
  /-- The rows were read in order, and the others wait. -/
  drained : Paging.Drained (fun a b => a.2.createTime ≤ b.2.createTime) (pendingRows receiverUid t)
    (stamped.map Prod.snd) (pendingRows receiverUid s.messages)
  /-- The rows are delivered. -/
  stored : ∀ entry ∈ stamped, s.messages.load entry.2.1 = some (delivered entry.1 entry.2.2)
  /-- No other row has changed. -/
  frame : ∀ id, id ∉ stamped.map (fun entry => entry.2.1) → s.messages.load id = t.load id
  /-- Each pull whose query commits returned a row, as long as there was one. -/
  progress : min (pulls.countP OfflinePull.queryCommits) (pendingRows receiverUid t).length ≤
    stamped.length

variable {stamped : List (ℤ × ℕ × Message)} {s : Drain}

theorem drainedBy_nil : DrainedBy receiverUid t [] [] ⟨t, []⟩ :=
  ⟨rfl, Paging.drained_nil, fun _ h => absurd h List.not_mem_nil, fun _ _ => rfl, by simp⟩

/-- The rows of a page wait. -/
theorem of_mem_page {row : ℕ × Message} (hrow : row ∈ page receiverUid t req) :
    t.load row.1 = some row.2 ∧ row.2.status = .sent := by
  obtain ⟨hmem, -, hsent, -⟩ := of_mem_findOffline hrow
  exact ⟨t.mem_rows.mp hmem, hsent⟩

/-- A row after a pull. -/
theorem load_pull (hreq : PullBy verify receiverUid req) (id : ℕ) :
    (pull verify s req).messages.load id =
      if id ∈ (page receiverUid s.messages req).map Prod.fst then
        (s.messages.load id).map (delivered req.now)
      else s.messages.load id := by
  change (handleOffline verify req s.messages).messages.load id = _
  rw [(handleOffline_pull hreq s.messages).2]
  exact load_markAll hreq.marks req.now s.messages _ id

/-- A pull whose query commits returns a row, as long as there is one. -/
theorem min_le_length_page (receiverUid : String) (t : Messages) (req : OfflinePull) :
    min (([req] : List OfflinePull).countP OfflinePull.queryCommits)
      (pendingRows receiverUid t).length ≤ (page receiverUid t req).length := by
  have hone := offlineLimit_pos req.limit
  have horder := (req.order.perm (pendingRows receiverUid t)).length_eq
  rw [page_eq, List.countP_singleton]
  by_cases hcommits : req.queryCommits = true
  · rw [if_pos hcommits, if_pos hcommits, List.length_take, horder]
    omega
  · rw [if_neg hcommits]
    exact Nat.le_trans (Nat.min_le_left _ _) (Nat.zero_le _)

/-- A row of an earlier page is delivered, and so on no later one. -/
theorem DrainedBy.not_mem_page (h : DrainedBy receiverUid t pulls stamped s)
    {entry : ℤ × ℕ × Message} (hentry : entry ∈ stamped) :
    entry.2.1 ∉ (page receiverUid s.messages req).map Prod.fst := by
  intro hmem
  obtain ⟨row, hrow, heq⟩ := List.mem_map.mp hmem
  obtain ⟨hload, hsent⟩ := of_mem_page hrow
  rw [heq, h.stored entry hentry] at hload
  rw [← Option.some.inj hload] at hsent
  exact absurd hsent (by simp [delivered])

/-- A pull goes on. -/
theorem DrainedBy.pull (h : DrainedBy receiverUid t pulls stamped s)
    (hreq : PullBy verify receiverUid req) :
    DrainedBy receiverUid t (pulls ++ [req])
      (stamped ++ (page receiverUid s.messages req).map fun row => (req.now, row))
      (pull verify s req) := by
  refine ⟨?_, ?_, fun entry hentry => ?_, fun id hid => ?_, ?_⟩
  · change s.returned ++ answered _ = _
    rw [h.returned, (handleOffline_pull hreq s.messages).1, List.map_append, List.map_map]
    rfl
  · rw [List.map_append, List.map_map]
    change Paging.Drained _ _ (_ ++ (page receiverUid s.messages req).map id) _
    rw [List.map_id]
    exact drained_page hreq h.drained
  · rw [load_pull hreq]
    -- Each row was marked by the pull that returned it, and by no other.
    rcases List.mem_append.mp hentry with hold | hnew
    · rw [if_neg (h.not_mem_page hold)]
      exact h.stored entry hold
    · obtain ⟨row, hrow, rfl⟩ := List.mem_map.mp hnew
      rw [if_pos (List.mem_map_of_mem hrow), (of_mem_page hrow).1]
      rfl
  · rw [List.map_append, List.mem_append, not_or, List.map_map] at hid
    have hnot : id ∉ (page receiverUid s.messages req).map Prod.fst := hid.2
    rw [load_pull hreq, if_neg hnot]
    exact h.frame id hid.1
  · -- What was read before and what still waits are the rows of the start.
    have hlength := h.drained.length
    have hprogress := h.progress
    have hpage := min_le_length_page receiverUid s.messages req
    rw [List.length_map] at hlength
    rw [List.countP_append, List.length_append, List.length_map]
    omega

theorem drainedBy_run (hpulls : ∀ req ∈ pulls, PullBy verify receiverUid req) :
    ∃ stamped, DrainedBy receiverUid t pulls stamped (run (pull verify) ⟨t, []⟩ pulls) := by
  induction pulls using List.reverseRecOn with
  | nil => exact ⟨[], drainedBy_nil⟩
  | append_singleton pulls req ih =>
    obtain ⟨stamped, h⟩ := ih fun req' hreq' => hpulls req' (List.mem_append_left _ hreq')
    rw [run_concat]
    exact ⟨_, h.pull (hpulls req (List.mem_append_right _ (List.mem_singleton.mpr rfl)))⟩

/-! ## The drain -/

/-- The messages that were returned are pending messages of the start, each once and in order, and
they are the rows that have changed. -/
structure ReturnedOnce (receiverUid : String) (t : Messages) (s : Drain) : Prop where
  /-- No message was returned twice. -/
  once : (s.returned.map MessageData.msgId).Nodup
  /-- Each was pending, and was returned as delivered, and otherwise as it was. -/
  pending : ∀ m ∈ s.returned, ∃ msg, t.load m.msgId = some msg ∧ Pending receiverUid msg ∧
    m.toMessage = delivered m.deliveredTime msg
  /-- The create times do not decrease, within a page and from page to page. -/
  sorted : s.returned.Pairwise fun a b => a.createTime ≤ b.createTime
  /-- The row of a returned message is delivered, as it was returned. -/
  stored : ∀ m ∈ s.returned, s.messages.load m.msgId = some m.toMessage
  /-- No other row has changed. -/
  frame : ∀ id, id ∉ s.returned.map MessageData.msgId → s.messages.load id = t.load id

/-- Every pending message of the start was returned. -/
def AllReturned (receiverUid : String) (t : Messages) (s : Drain) : Prop :=
  ∀ id msg, t.load id = some msg → Pending receiverUid msg → id ∈ s.returned.map MessageData.msgId

theorem DrainedBy.returnedOnce (h : DrainedBy receiverUid t pulls stamped s) :
    ReturnedOnce receiverUid t s := by
  have hids : s.returned.map MessageData.msgId = (stamped.map Prod.snd).map Prod.fst := by
    rw [h.returned, List.map_map, List.map_map]
    rfl
  -- What was returned was in the pool, and the pool are the pending messages of the start.
  have hmem : ∀ entry ∈ stamped, t.load entry.2.1 = some entry.2.2 ∧
      Pending receiverUid entry.2.2 := by
    intro entry hentry
    have hrow := h.drained.mem.mpr (.inl (List.mem_map_of_mem hentry))
    rw [pendingRows, List.mem_filter, decide_eq_true_eq] at hrow
    exact ⟨t.mem_rows.mp hrow.1, hrow.2⟩
  refine ⟨?_, fun m hm => ?_, ?_, fun m hm => ?_, fun id hid => h.frame id ?_⟩
  · have hpool : ((pendingRows receiverUid t).map Prod.fst).Nodup :=
      t.nodup.sublist (List.filter_sublist.map Prod.fst)
    rw [← (h.drained.perm.map Prod.fst).nodup_iff, List.map_append] at hpool
    rw [hids]
    exact (List.nodup_append.mp hpool).1
  · rw [h.returned] at hm
    obtain ⟨entry, hentry, rfl⟩ := List.mem_map.mp hm
    exact ⟨entry.2.2, (hmem entry hentry).1, (hmem entry hentry).2, rfl⟩
  · have hsorted := h.drained.sorted
    rw [List.pairwise_map] at hsorted
    rw [h.returned, List.pairwise_map]
    exact hsorted
  · rw [h.returned] at hm
    obtain ⟨entry, hentry, rfl⟩ := List.mem_map.mp hm
    exact h.stored entry hentry
  · rw [hids, List.map_map] at hid
    exact hid

/-- When no row waits any more, all were returned. -/
theorem DrainedBy.allReturned (h : DrainedBy receiverUid t pulls stamped s)
    (hrest : pendingRows receiverUid s.messages = []) : AllReturned receiverUid t s := by
  intro id msg hload hpending
  have hrow : (id, msg) ∈ pendingRows receiverUid t := by
    rw [pendingRows, List.mem_filter, decide_eq_true_eq]
    exact ⟨t.mem_rows.mpr hload, hpending⟩
  rw [h.drained.mem, hrest] at hrow
  obtain ⟨entry, hentry, heq⟩ := List.mem_map.mp (hrow.resolve_right List.not_mem_nil)
  rw [h.returned, List.map_map]
  exact List.mem_map.mpr ⟨entry, hentry, congrArg Prod.fst heq⟩

/-- The pulls of a receiver return pending messages, each once and in order of their create times
from the first page to the last, and change no other row. When as many queries have committed as
messages were pending, or a pull whose query commits returns nothing, all were returned; after that
many, further pulls return nothing. -/
theorem offline_drained (verify : Verify) (receiverUid : String) (t : Messages)
    (pulls : List OfflinePull) (hpulls : ∀ req ∈ pulls, PullBy verify receiverUid req) :
    ReturnedOnce receiverUid t (run (pull verify) ⟨t, []⟩ pulls) ∧
      ((pendingRows receiverUid t).length ≤ pulls.countP OfflinePull.queryCommits →
        AllReturned receiverUid t (run (pull verify) ⟨t, []⟩ pulls) ∧
          ∀ req, PullBy verify receiverUid req → answered (handleOffline verify req
            (run (pull verify) ⟨t, []⟩ pulls).messages).response = []) ∧
      ∀ req, PullBy verify receiverUid req → req.queryCommits = true →
        answered (handleOffline verify req
          (run (pull verify) ⟨t, []⟩ pulls).messages).response = [] →
        AllReturned receiverUid t (run (pull verify) ⟨t, []⟩ pulls) := by
  obtain ⟨stamped, h⟩ := drainedBy_run (t := t) hpulls
  refine ⟨h.returnedOnce, fun henough => ?_, fun req hreq hcommits hempty => h.allReturned ?_⟩
  · have hlength := h.drained.length
    have hprogress := h.progress
    rw [List.length_map] at hlength
    have hrest := List.eq_nil_of_length_eq_zero (l := pendingRows receiverUid
      (run (pull verify) ⟨t, []⟩ pulls).messages) (by omega)
    refine ⟨h.allReturned hrest, fun req hreq => ?_⟩
    have hnil := (req.order.perm []).eq_nil
    rw [(handleOffline_pull hreq _).1, page_eq, hrest, hnil, List.take_nil, ite_self, List.map_nil]
  · have hone := offlineLimit_pos req.limit
    have horder := (req.order.perm (pendingRows receiverUid
      (run (pull verify) ⟨t, []⟩ pulls).messages)).length_eq
    rw [(handleOffline_pull hreq _).1, List.map_eq_nil_iff, page_eq, if_pos hcommits] at hempty
    have hzero := congrArg List.length hempty
    rw [List.length_take, horder, List.length_nil] at hzero
    exact List.eq_nil_of_length_eq_zero (by omega)

/-- The token `t` is `bob`'s. -/
def verifyBob : Verify := fun token => if token = "t" then some ⟨"bob", "d"⟩ else none

/-- `bob` pulls one message. -/
def pullOne (now : ℤ) : OfflinePull where
  authorization := some "Bearer t"
  beforeTime := .absent
  limit := .value 1
  queryCommits := true
  order := byCreateTime
  markCommits _ := true
  now := now

theorem pullBy_pullOne (now : ℤ) : PullBy verifyBob "bob" (pullOne now) :=
  ⟨⟨⟨"bob", "d"⟩, rfl, rfl⟩, rfl, fun _ => rfl⟩

/-- Two messages wait for `bob`, the later one with the smaller id, and one for `carol`. -/
def twoPending : Messages :=
  ((Table.empty.persist 0 ⟨"alice", "bob", "second", .text, .sent, 20, 0, 0⟩).persist 0
    ⟨"alice", "carol", "other", .text, .sent, 15, 0, 0⟩).persist 0
    ⟨"alice", "bob", "first", .text, .sent, 10, 0, 0⟩

/-- Two pulls return both. -/
theorem offline_drained_two :
    ReturnedOnce "bob" twoPending
        (run (pull verifyBob) ⟨twoPending, []⟩ [pullOne 30, pullOne 31]) ∧
      AllReturned "bob" twoPending
        (run (pull verifyBob) ⟨twoPending, []⟩ [pullOne 30, pullOne 31]) := by
  have hpulls : ∀ req ∈ [pullOne 30, pullOne 31], PullBy verifyBob "bob" req := by
    simp [pullBy_pullOne]
  have h := offline_drained verifyBob "bob" twoPending [pullOne 30, pullOne 31] hpulls
  exact ⟨h.1, (h.2.1 (by decide)).1⟩

/-- A message of the last moment that `create_time` can hold. -/
def lastMoment : Messages :=
  Table.empty.persist 0 ⟨"alice", "bob", "hello", .text, .sent, int64Max, 0, 0⟩

/-- The message is `SENT` to `bob`, and no number of pulls returns it or marks it delivered. -/
theorem last_moment_stays :
    PullBy verifyBob "bob" (pullOne 30) ∧
      (lastMoment.load 1).map (fun msg => (msg.receiverUid, msg.status)) = some ("bob", .sent) ∧
      ¬ ∃ n, (run (pull verifyBob) ⟨lastMoment, []⟩ (List.replicate n (pullOne 30))).returned ≠ [] ∨
        ((run (pull verifyBob) ⟨lastMoment, []⟩
          (List.replicate n (pullOne 30))).messages.load 1).map Message.status ≠ some .sent := by
  have hsame : ∀ n, run (pull verifyBob) ⟨lastMoment, []⟩ (List.replicate n (pullOne 30)) =
      ⟨lastMoment, []⟩ := by
    intro n
    induction n with
    | zero => rfl
    | succ n ih =>
      rw [List.replicate_succ', run_concat, ih]
      rfl
  refine ⟨pullBy_pullOne 30, by decide, ?_⟩
  rintro ⟨n, hn⟩
  rw [hsame] at hn
  revert hn
  decide

end MyChat.Chat
