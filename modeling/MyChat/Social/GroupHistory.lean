import MyChat.Lib.CursorPaging
import MyChat.Social.Reading

/-!
# Paging through a group's history

A client reads the history of a group page by page: the first page before a time that is later than
every message, each further page before the time of the oldest message of the page before, until a
page is empty. `get_history` returns the messages created strictly before the time, so that messages
of the same millisecond as the last one of a page are on no later page.

`history_complete_iff` says that the pages have every message of the group once if and only if no
page ends between two messages of the same millisecond.
-/

namespace MyChat.Social

open CommandProgram CursorPaging GroupMessageService
open Chat (GroupMessage)

/-- The messages of a group. -/
def groupRows (s : Stores) (groupId : ℕ) : List (ℕ × GroupMessage) :=
  s.groupMessages.rows.filter fun row => row.2.groupId = groupId

/-- A page of the history, as a call of `get_history` returns it when its query commits. -/
def HistoryPage (s : Stores) (groupId : ℕ) (limit before : ℤ) (page : List GroupMessageInfo) :
    Prop :=
  ∃ tx : Command → Tx, (tx (.findByGroup groupId before limit)).commits = true ∧
    page = result tx s (getHistory groupId before limit)

/-- The pages that a client reads, from a time on. -/
abbrev History (s : Stores) (groupId : ℕ) (limit : ℤ) : ℤ → List (List GroupMessageInfo) → Prop :=
  Reading GroupMessageInfo.createdAt (HistoryPage s groupId limit)

/-- The pages have every message of the group once, from the newest to the oldest. -/
def HistoryComplete (s : Stores) (groupId : ℕ) (pages : List (List GroupMessageInfo)) : Prop :=
  (pages.flatten.map (infoRow groupId)).Perm (groupRows s groupId) ∧
    pages.flatten.Pairwise fun a b => b.createdAt ≤ a.createdAt

variable {s : Stores} {groupId : ℕ} {limit before : ℤ} {page : List GroupMessageInfo}

/-- A page of the history is a page of the group's rows. -/
theorem HistoryPage.isPage (h : HistoryPage s groupId limit before page) :
    IsPage (fun row : ℕ × GroupMessage => row.2.createdAt) limit.toNat (groupRows s groupId) before
      (page.map (infoRow groupId)) := by
  obtain ⟨tx, hcommits, rfl⟩ := h
  have htotal : Std.Total fun a b : ℕ × GroupMessage => b.2.createdAt ≤ a.2.createdAt :=
    ⟨fun a b => Int.le_total b.2.createdAt a.2.createdAt⟩
  have htrans : IsTrans (ℕ × GroupMessage) fun a b => b.2.createdAt ≤ a.2.createdAt :=
    ⟨fun _ _ _ h h' => h'.trans h⟩
  -- The condition of the query is that of a page of the group's rows below the cursor.
  have hrows : rowsBelow (fun row : ℕ × GroupMessage => row.2.createdAt) (groupRows s groupId)
      before = s.groupMessages.rows.filter fun row =>
        row.2.groupId = groupId ∧ row.2.createdAt < before := by
    unfold rowsBelow groupRows
    rw [List.filter_filter]
    refine List.filter_congr fun row _ => ?_
    rw [← Bool.decide_and]
    exact decide_eq_decide.mpr and_comm
  refine ⟨((tx (.findByGroup groupId before limit)).arrangement.arrange
    (s.groupMessages.rows.filter fun row =>
      row.2.groupId = groupId ∧ row.2.createdAt < before)).insertionSort
        fun a b => b.2.createdAt ≤ a.2.createdAt, ?_, List.pairwise_insertionSort _ _, ?_⟩
  · rw [hrows]
    exact (List.perm_insertionSort _ _).trans (Arrangement.arrange_perm _ _)
  · rw [map_infoRow_getHistory]
    change GroupMessageRepository.findByGroup (tx (.findByGroup groupId before limit))
      s.groupMessages groupId before limit = _
    rw [GroupMessageRepository.findByGroup, if_pos hcommits]

/-- Paging through the history of a group ends, and it returns every message of the group once, from
the newest to the oldest, if and only if no page ends between two messages of the same time. -/
theorem history_complete_iff (s : Stores) (groupId : ℕ) {limit before : ℤ} (hlimit : 1 ≤ limit)
    (hbefore : ∀ row ∈ groupRows s groupId, row.2.createdAt < before) :
    (∃ pages, History s groupId limit before pages) ∧
      ∀ pages, History s groupId limit before pages →
        (HistoryComplete s groupId pages ↔ NoTie limit.toNat
          (descending ((groupRows s groupId).map fun row => row.2.createdAt))) := by
  -- The pages of the client are pages of rows, read one by one.
  have hpages : ∀ {pages}, History s groupId limit before pages →
      Pages (fun row : ℕ × GroupMessage => row.2.createdAt) limit.toNat (groupRows s groupId) before
        (pages.map (List.map (infoRow groupId))) :=
    fun h => Reading.map (fun row : ℕ × GroupMessage => row.2.createdAt) (infoRow groupId) h
      fun _ _ hpage => hpage.isPage
  -- The first cursor is above every row.
  have hall : rowsBelow (fun row : ℕ × GroupMessage => row.2.createdAt) (groupRows s groupId)
      before = groupRows s groupId := by
    unfold rowsBelow
    rw [List.filter_eq_self]
    exact fun row hrow => decide_eq_true (hbefore row hrow)
  refine ⟨exists_reading (fun row : ℕ × GroupMessage => row.2.createdAt) (infoRow groupId)
    (fun before => ⟨_, fun _ => Tx.commit, rfl, rfl⟩) (fun _ _ hpage => hpage.isPage) before,
    fun pages h => ?_⟩
  have hiff := (hpages h).perm_iff (by omega)
  have hsorted := (hpages h).sorted
  rw [hall, ← List.map_flatten] at hiff
  rw [← List.map_flatten, List.pairwise_map] at hsorted
  exact ⟨fun hcomplete => hiff.mp hcomplete.1, fun hnotie => ⟨hiff.mpr hnotie, hsorted⟩⟩

/-- A group with three messages, of which the two older ones have the same time. -/
def tiedMessages : Stores where
  users := .empty
  friends := .empty
  groups := .empty
  members := .empty
  groupMessages := ((Table.empty.persist 0 ⟨1, "alice", "first", 10⟩).persist 0
    ⟨1, "bob", "second", 10⟩).persist 0 ⟨1, "alice", "third", 20⟩

/-- Pages of one message end between the two. -/
theorem history_complete_one :
    (∃ pages, History tiedMessages 1 1 21 pages) ∧
      ∀ pages, History tiedMessages 1 1 21 pages →
        (HistoryComplete tiedMessages 1 pages ↔ NoTie (1 : ℤ).toNat
          (descending ((groupRows tiedMessages 1).map fun row => row.2.createdAt))) := by
  have hlimit : (1 : ℤ) ≤ 1 := by decide
  have hbefore : ∀ row ∈ groupRows tiedMessages 1, row.2.createdAt < 21 := by decide
  exact history_complete_iff tiedMessages 1 hlimit hbefore

/-- The second message is on no page. -/
theorem history_passes_over :
    History tiedMessages 1 1 21
        [[⟨3, "alice", "alice", "third", 20⟩], [⟨1, "alice", "alice", "first", 10⟩]] ∧
      ¬ HistoryComplete tiedMessages 1
        [[⟨3, "alice", "alice", "third", 20⟩], [⟨1, "alice", "alice", "first", 10⟩]] := by
  refine ⟨?_, ?_⟩
  · refine .next ⟨fun _ => Tx.commit, rfl, ?_⟩ rfl (.next ⟨fun _ => Tx.commit, rfl, ?_⟩ rfl
      (.stop ⟨fun _ => Tx.commit, rfl, ?_⟩))
    · decide
    · decide
    · decide
  · intro h
    exact absurd h.1.length_eq (by decide)

end MyChat.Social
