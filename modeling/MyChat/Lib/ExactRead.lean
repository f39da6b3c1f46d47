import Mathlib.Data.List.Basic
import Mathlib.Tactic.Common

/-!
# Exact-length reads

A reader asks for an exact number of bytes, waits until they have all come, runs its completion
handler, and asks again. The bytes come in chunks of any size: a chunk that is too short fills a
part of the read, and one that is too long is kept for the reads after it. `ExactRead` is such a
reader, given by the number of bytes its pending read still waits for and by what a transfer into it
does, and `receive` is what it does with one chunk.

`receive_append` says that two chunks do what one chunk of all their bytes does, so that
`receiveAll_eq` reads any way of splitting a stream as the whole stream at once.
-/

namespace MyChat.ExactRead

variable {σ α : Type}

/-- A reader with states `σ` of a stream of `α`. -/
structure Reader (σ α : Type) where
  /-- The number of elements that the pending read still waits for; zero when none is pending. -/
  wanted : σ → ℕ
  /-- The pending read gets these elements, at most as many as it waits for. With the last of them
  it completes, and its handler starts the next read. -/
  transfer : σ → List α → σ

/-- What makes a reader one of exact lengths. -/
structure Reader.Lawful (R : Reader σ α) : Prop where
  /-- A transfer that is too short leaves the read waiting for the rest. -/
  wanted_transfer : ∀ s a, a.length < R.wanted s → R.wanted (R.transfer s a) = R.wanted s - a.length
  /-- Two transfers into one read do what one does. -/
  transfer_append : ∀ s a b, a.length < R.wanted s → a.length + b.length ≤ R.wanted s →
    R.transfer (R.transfer s a) b = R.transfer s (a ++ b)

variable (R : Reader σ α)

/-- One chunk arrives: it goes to the pending read, and what it leaves over to the reads after it.
Without a pending read the chunk is not read. -/
def receive (s : σ) (chunk : List α) : σ :=
  if _h : R.wanted s = 0 ∨ chunk = [] then s
  else receive (R.transfer s (chunk.take (R.wanted s))) (chunk.drop (R.wanted s))
termination_by chunk.length
decreasing_by
  have hchunk : 0 < chunk.length := List.length_pos_iff.mpr fun hnil => _h (.inr hnil)
  have hwanted : 0 < R.wanted s := Nat.pos_of_ne_zero fun hzero => _h (.inl hzero)
  rw [List.length_drop]
  omega

/-- The chunks arrive one after another. -/
def receiveAll (s : σ) (chunks : List (List α)) : σ := chunks.foldl (receive R) s

@[simp] theorem receive_nil (s : σ) : receive R s [] = s := by
  rw [receive, dif_pos (.inr rfl)]

/-- Without a pending read nothing is read. -/
theorem receive_of_wanted_eq_zero {s : σ} (h : R.wanted s = 0) (chunk : List α) :
    receive R s chunk = s := by
  rw [receive, dif_pos (.inl h)]

/-- A chunk that is not longer than the pending read goes into it whole. -/
theorem receive_of_length_le {s : σ} {chunk : List α} (hne : chunk ≠ [])
    (h : chunk.length ≤ R.wanted s) : receive R s chunk = R.transfer s chunk := by
  have hpos : 0 < chunk.length := List.length_pos_iff.mpr hne
  have hpending : ¬ (R.wanted s = 0 ∨ chunk = []) := by
    rw [not_or]
    exact ⟨by omega, hne⟩
  rw [receive, dif_neg hpending, List.take_of_length_le h, List.drop_eq_nil_of_le h, receive_nil]

variable {R}

/-- What every transfer keeps, a chunk keeps. -/
theorem receive_inv {I : σ → Prop} (htransfer : ∀ s a, I s → I (R.transfer s a)) {s : σ} (h : I s)
    (chunk : List α) : I (receive R s chunk) := by
  fun_induction receive R s chunk with
  | case1 => exact h
  | case2 s chunk _ ih => exact ih (htransfer s _ h)

/-- A chunk that starts with all the pending read waits for completes it. -/
theorem receive_append_of_length_eq {s : σ} {a : List α} (hne : a ≠ []) (h : a.length = R.wanted s)
    (b : List α) : receive R s (a ++ b) = receive R (R.transfer s a) b := by
  have hpos : 0 < a.length := List.length_pos_iff.mpr hne
  have hpending : ¬ (R.wanted s = 0 ∨ a ++ b = []) := by
    rw [not_or]
    exact ⟨by omega, List.append_ne_nil_of_left_ne_nil hne b⟩
  rw [receive, dif_neg hpending, ← h, List.take_left, List.drop_left]

/-- Two chunks do what one chunk of all their bytes does. -/
theorem receive_append (hR : R.Lawful) (s : σ) (a b : List α) :
    receive R s (a ++ b) = receive R (receive R s a) b := by
  rcases eq_or_ne a [] with rfl | ha
  · rw [receive_nil, List.nil_append]
  rcases eq_or_ne (R.wanted s) 0 with hzero | hpos
  · rw [receive_of_wanted_eq_zero R hzero, receive_of_wanted_eq_zero R hzero,
      receive_of_wanted_eq_zero R hzero]
  rcases Nat.lt_or_ge a.length (R.wanted s) with hlt | hge
  · -- The first chunk is too short for the read, and the second goes on with it.
    rw [receive_of_length_le R ha (Nat.le_of_lt hlt)]
    rcases eq_or_ne b [] with rfl | hb
    · rw [List.append_nil, receive_nil, receive_of_length_le R ha (Nat.le_of_lt hlt)]
    have hwanted := hR.wanted_transfer s a hlt
    have hab : ¬ (R.wanted s = 0 ∨ a ++ b = []) := by simp [hpos, ha]
    have hb' : ¬ (R.wanted (R.transfer s a) = 0 ∨ b = []) := by
      rw [hwanted, not_or]
      exact ⟨by omega, hb⟩
    have htake : (a ++ b).take (R.wanted s) = a ++ b.take (R.wanted s - a.length) := by
      rw [List.take_append, List.take_of_length_le (Nat.le_of_lt hlt)]
    have hdrop : (a ++ b).drop (R.wanted s) = b.drop (R.wanted s - a.length) := by
      rw [List.drop_append, List.drop_eq_nil_of_le (Nat.le_of_lt hlt), List.nil_append]
    have hlen : a.length + (b.take (R.wanted s - a.length)).length ≤ R.wanted s := by
      rw [List.length_take]
      omega
    rw [receive, dif_neg hab, htake, hdrop, ← hR.transfer_append s a _ hlt hlen,
      receive.eq_1 R (R.transfer s a) b, dif_neg hb', hwanted]
  · -- The first chunk completes the read, and what it leaves over is a shorter chunk.
    have hpending : ¬ (R.wanted s = 0 ∨ a = []) := by simp [hpos, ha]
    have htake : (a.take (R.wanted s)).length = R.wanted s := by
      rw [List.length_take]
      omega
    have hne : a.take (R.wanted s) ≠ [] := by
      rw [← List.length_pos_iff, htake]
      omega
    have hsplit : a ++ b = a.take (R.wanted s) ++ (a.drop (R.wanted s) ++ b) := by
      rw [← List.append_assoc, List.take_append_drop]
    have hrest : (a.drop (R.wanted s)).length < a.length := by
      rw [List.length_drop]
      omega
    rw [hsplit, receive_append_of_length_eq hne htake, receive_append hR _ (a.drop (R.wanted s)) b,
      receive.eq_1 R s a, dif_neg hpending]
termination_by a.length

/-- However a stream is split into chunks, the reader does what it does with the whole stream. -/
theorem receiveAll_eq (hR : R.Lawful) (s : σ) (chunks : List (List α)) :
    receiveAll R s chunks = receive R s chunks.flatten := by
  induction chunks generalizing s with
  | nil => rw [List.flatten_nil, receive_nil, receiveAll, List.foldl_nil]
  | cons chunk chunks ih =>
    calc receiveAll R s (chunk :: chunks)
        = receiveAll R (receive R s chunk) chunks := rfl
      _ = receive R (receive R s chunk) chunks.flatten := ih _
      _ = receive R s (chunk :: chunks).flatten := by
          rw [List.flatten_cons, receive_append hR]

end MyChat.ExactRead
