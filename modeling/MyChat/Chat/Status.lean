import MyChat.Chat.MessageService

/-!
# The status of a message over time

Pushes and offline pulls mark a message delivered, and read receipts mark it read. Each mark writes
its status whatever the row held, so that the status of a message decreases when a mark of delivery
reaches a message that was read (`status_decreases`). That is the only way: along every sequence of
marks the status never decreases, and a message that was read stays read, if and only if no mark of
delivery that commits finds it read (`status_monotone_iff`).
-/

namespace MyChat.Chat

open Run

/-- A call of `mark_delivered` or `mark_read`, and whether its transaction commits. -/
inductive Mark where
  /-- `mark_delivered`. -/
  | delivered (msgId : ℕ) (deliveredTime : ℤ) (commits : Bool)
  /-- `mark_read`. -/
  | read (msgId : ℕ) (readTime : ℤ) (commits : Bool)
  deriving DecidableEq, Repr

/-- The table after a mark. -/
def markStep (t : Messages) : Mark → Messages
  | .delivered msgId deliveredTime commits => (markDelivered commits t msgId deliveredTime).2
  | .read msgId readTime commits => (markRead commits t msgId readTime).2

/-- The status of a message. -/
def statusOf (t : Messages) (msgId : ℕ) : Option MessageStatus := (t.load msgId).map Message.status

/-- A mark of delivery that commits does not find the message read. -/
def FindsUnread (msgId : ℕ) (t : Messages) (mark : Mark) : Prop :=
  ∀ deliveredTime, mark = .delivered msgId deliveredTime true → statusOf t msgId ≠ some .read

/-- The status of the message never decreases along the marks. -/
def NeverDecreases (t : Messages) (msgId : ℕ) (marks : List Mark) : Prop :=
  ∀ pre mark post, marks = pre ++ mark :: post → ∀ before after,
    statusOf (run markStep t pre) msgId = some before →
    statusOf (run markStep t (pre ++ [mark])) msgId = some after → before.toNat ≤ after.toNat

/-- Once a `mark_read` of the message has succeeded, the message is read at every later moment. -/
def StaysRead (t : Messages) (msgId : ℕ) (marks : List Mark) : Prop :=
  ∀ pre readTime commits mid post, marks = pre ++ .read msgId readTime commits :: (mid ++ post) →
    (markRead commits (run markStep t pre) msgId readTime).1 = true →
    statusOf (run markStep t (pre ++ .read msgId readTime commits :: mid)) msgId = some .read

/-! ## One mark -/

theorem statusOf_markDelivered (commits : Bool) (t : Messages) (msgId id : ℕ) (time : ℤ) :
    statusOf (markDelivered commits t msgId time).2 id =
      if commits ∧ id = msgId then (t.load id).map fun _ => .delivered else statusOf t id := by
  unfold statusOf markDelivered
  rw [load_writeBack]
  split_ifs
  · rw [Option.map_map]
    rfl
  · rfl

theorem statusOf_markRead (commits : Bool) (t : Messages) (msgId id : ℕ) (time : ℤ) :
    statusOf (markRead commits t msgId time).2 id =
      if commits ∧ id = msgId then (t.load id).map fun _ => .read else statusOf t id := by
  unfold statusOf markRead
  rw [load_writeBack]
  split_ifs
  · rw [Option.map_map]
    rfl
  · rfl

/-- No status is above `READ`. -/
theorem toNat_le_read (status : MessageStatus) : status.toNat ≤ MessageStatus.read.toNat := by
  rcases status <;> decide

/-- No status but `READ` is above `DELIVERED`. -/
theorem toNat_le_delivered {status : MessageStatus} (h : status ≠ .read) :
    status.toNat ≤ MessageStatus.delivered.toNat := by
  rcases status with _ | _ | _
  · decide
  · decide
  · exact absurd rfl h

/-- A mark that finds the message unread, or is not one of delivery, does not decrease its
status. -/
theorem status_le_markStep {t : Messages} {msgId : ℕ} {mark : Mark} (h : FindsUnread msgId t mark)
    {before after : MessageStatus} (hbefore : statusOf t msgId = some before)
    (hafter : statusOf (markStep t mark) msgId = some after) : before.toNat ≤ after.toNat := by
  obtain ⟨msg, hload, -⟩ := Option.map_eq_some_iff.mp hbefore
  -- Only `mark_delivered` on a read message could decrease the status.
  rcases mark with ⟨id, time, commits⟩ | ⟨id, time, commits⟩
  · rw [markStep, statusOf_markDelivered] at hafter
    split_ifs at hafter with hc
    · obtain ⟨rfl, rfl⟩ := hc
      rw [hload] at hafter
      obtain rfl := Option.some.inj hafter
      refine toNat_le_delivered fun hread => h time rfl ?_
      rw [hbefore, hread]
    · rw [Option.some.inj (hbefore.symm.trans hafter)]
  · rw [markStep, statusOf_markRead] at hafter
    split_ifs at hafter with hc
    · rw [hload] at hafter
      obtain rfl := Option.some.inj hafter
      exact toNat_le_read before
    · rw [Option.some.inj (hbefore.symm.trans hafter)]

/-- A mark that finds a read message leaves it read, when it meets the condition. -/
theorem read_markStep {t : Messages} {msgId : ℕ} {mark : Mark} (h : FindsUnread msgId t mark)
    (hread : statusOf t msgId = some .read) : statusOf (markStep t mark) msgId = some .read := by
  obtain ⟨msg, hload, -⟩ := Option.map_eq_some_iff.mp hread
  rcases mark with ⟨id, time, commits⟩ | ⟨id, time, commits⟩
  · rw [markStep, statusOf_markDelivered]
    split_ifs with hc
    · obtain ⟨rfl, rfl⟩ := hc
      exact absurd hread (h time rfl)
    · exact hread
  · rw [markStep, statusOf_markRead]
    split_ifs
    · rw [hload]
      rfl
    · exact hread

/-- A mark of delivery that commits takes a read message down to `DELIVERED`. -/
theorem delivered_of_read {t : Messages} {msgId : ℕ} (time : ℤ)
    (hread : statusOf t msgId = some .read) :
    statusOf (markStep t (.delivered msgId time true)) msgId = some .delivered := by
  obtain ⟨msg, hload, -⟩ := Option.map_eq_some_iff.mp hread
  rw [markStep, statusOf_markDelivered, if_pos ⟨rfl, rfl⟩, hload]
  rfl

/-- A `mark_read` that succeeds leaves the message read. -/
theorem read_of_markRead {t : Messages} {msgId : ℕ} {time : ℤ} {commits : Bool}
    (h : (markRead commits t msgId time).1 = true) :
    statusOf (markStep t (.read msgId time commits)) msgId = some .read := by
  obtain ⟨hcommits, msg, hload⟩ := (writeBack_fst _ _ _ _).mp h
  rw [markStep, statusOf_markRead, if_pos ⟨hcommits, rfl⟩, hload]
  rfl

/-! ## Sequences of marks -/

/-- Along every sequence of marks, on the message and on others, committed or not: its status never
decreases, and it stays read once it was read, if and only if no mark of delivery that commits finds
it read. -/
theorem status_monotone_iff (t : Messages) (msgId : ℕ) (marks : List Mark) :
    (NeverDecreases t msgId marks ∧ StaysRead t msgId marks) ↔
      EveryStep markStep t (fun _ t mark => FindsUnread msgId t mark) marks := by
  constructor
  · -- A mark of delivery on a read message is a decrease.
    rintro ⟨hmono, -⟩ pre mark post hmarks time rfl hread
    have hdelivered := delivered_of_read time hread
    rw [← run_concat markStep] at hdelivered
    exact absurd (hmono pre _ post hmarks _ _ hread hdelivered) (by decide)
  · intro h
    refine ⟨?_, ?_⟩
    · intro pre mark post hmarks before after hbefore hafter
      rw [run_concat] at hafter
      exact status_le_markStep (h pre mark post hmarks) hbefore hafter
    · intro pre readTime commits mid post hmarks hok
      have hfrom : statusOf (run markStep t (pre ++ [.read msgId readTime commits])) msgId =
          some .read := by
        rw [run_concat]
        exact read_of_markRead hok
      -- From there on every mark leaves the message read.
      have hsteps : EveryStep markStep t (fun _ t mark => FindsUnread msgId t mark)
          (((pre ++ [.read msgId readTime commits]) ++ mid) ++ post) := by
        simpa [hmarks] using h
      have hend := hsteps.of_append.inv_append (I := fun _ t => statusOf t msgId = some .read) hfrom
        fun _ _ _ hread hmark => read_markStep hmark hread
      simpa using hend

/-- A message that was read and is then marked delivered, by a push or an offline pull that comes
late, is no longer read. -/
theorem status_decreases :
    let t := Table.empty.persist 0 ⟨"alice", "bob", "hi", .text, .sent, 1, 0, 0⟩
    ¬ NeverDecreases t 1 [.read 1 2 true, .delivered 1 3 true] ∧
    ¬ StaysRead t 1 [.read 1 2 true, .delivered 1 3 true] := by
  intro t
  refine ⟨fun h => ?_, fun h => ?_⟩
  · exact absurd (h [.read 1 2 true] (.delivered 1 3 true) [] rfl .read .delivered (by decide)
      (by decide)) (by decide)
  · exact absurd (h [] 2 true [.delivered 1 3 true] [] rfl (by decide)) (by decide)

end MyChat.Chat
