import Mathlib.Data.Int.Notation
import Mathlib.Logic.Function.Basic
import Mathlib.Order.Defs.LinearOrder

/-!
# A store whose keys expire

A map from keys to values in which a key may have a deadline, over any ordered type of times. A key
is there up to its deadline and gone after it. `set` gives a key a value and takes its deadline
away, `expire` gives a key that is there a deadline, `ttl` says how far away it is, and `del`
deletes a key.
-/

namespace MyChat

/-- The keys, each with its value and its deadline. -/
structure ExpiringStore (K V T : Type) where
  /-- The value and the deadline of each key. -/
  entries : K → Option (V × Option T)

namespace ExpiringStore

variable {K V T : Type}

/-- The store with no key. -/
def empty : ExpiringStore K V T := ⟨fun _ => none⟩

/-- The value of a key at the given time. -/
def get [LE T] [DecidableLE T] (s : ExpiringStore K V T) (time : T) (k : K) : Option V :=
  match s.entries k with
  | none => none
  | some (v, none) => some v
  | some (v, some deadline) => if time ≤ deadline then some v else none

/-- The time that a key has left, in the whole seconds that `seconds` makes of it: `-1` for a key
without a deadline and `-2` for a key that is not there. -/
def ttl [LE T] [DecidableLE T] [Sub T] (s : ExpiringStore K V T) (seconds : T → ℤ) (time : T)
    (k : K) : ℤ :=
  match s.entries k with
  | none => -2
  | some (_, none) => -1
  | some (_, some deadline) => if time ≤ deadline then seconds (deadline - time) else -2

variable [DecidableEq K]

/-- The key gets the value, and no deadline. -/
def set (s : ExpiringStore K V T) (k : K) (v : V) : ExpiringStore K V T :=
  ⟨Function.update s.entries k (some (v, none))⟩

/-- The key, if it is there, expires after the given time. -/
def expire [LE T] [DecidableLE T] [Add T] (s : ExpiringStore K V T) (now : T) (k : K) (ttl : T) :
    ExpiringStore K V T :=
  match s.get now k with
  | none => s
  | some v => ⟨Function.update s.entries k (some (v, some (now + ttl)))⟩

/-- The key is deleted. -/
def del (s : ExpiringStore K V T) (k : K) : ExpiringStore K V T :=
  ⟨Function.update s.entries k none⟩

section
variable [LE T] [DecidableLE T] (s : ExpiringStore K V T) (k : K) (v : V) (now ttl time : T)

/-- A key that was set has its value at all times. -/
@[simp] theorem get_set_self : (s.set k v).get time k = some v := by
  simp [get, set]

variable {k} {other : K} (h : other ≠ k)
include h

@[simp] theorem get_set_of_ne : (s.set k v).get time other = s.get time other := by
  simp [get, set, h]

@[simp] theorem get_del_of_ne : (s.del k).get time other = s.get time other := by
  simp [get, del, h]

@[simp] theorem get_expire_of_ne [Add T] :
    (s.expire now k ttl).get time other = s.get time other := by
  unfold expire
  split
  · rfl
  · simp [get, h]

omit h

/-- A key that was set and given a deadline has its value up to it. -/
theorem get_expire_set [Add T] :
    ((s.set k v).expire now k ttl).get time k = if time ≤ now + ttl then some v else none := by
  simp [expire, get, set]

end

section Entries
variable (s : ExpiringStore K V T) {k other : K} (v : V)

@[simp] theorem entries_set_self : (s.set k v).entries k = some (v, none) := by
  simp [set]

@[simp] theorem entries_del_self : (s.del k).entries k = none := by
  simp [del]

@[simp] theorem entries_set_of_ne (h : other ≠ k) :
    (s.set k v).entries other = s.entries other := by
  simp [set, h]

@[simp] theorem entries_del_of_ne (h : other ≠ k) : (s.del k).entries other = s.entries other := by
  simp [del, h]

variable [LE T] [DecidableLE T]

@[simp] theorem entries_expire_of_ne [Add T] {now ttl : T} (h : other ≠ k) :
    (s.expire now k ttl).entries other = s.entries other := by
  unfold expire
  split
  · rfl
  · simp [h]

variable {s v}

omit [DecidableEq K] in
/-- A key that is there at a time has a value, and no deadline before the time. -/
theorem get_eq_some {time : T} : s.get time k = some v ↔
    ∃ deadline, s.entries k = some (v, deadline) ∧ ∀ d ∈ deadline, time ≤ d := by
  unfold get
  rcases hentry : s.entries k with _ | ⟨value, _ | d⟩
  · simp
  · constructor
    · intro h
      exact ⟨none, by rw [Option.some.inj h], by simp⟩
    · rintro ⟨deadline, h, -⟩
      rw [(Prod.mk.inj (Option.some.inj h)).1]
  · constructor
    · intro h
      dsimp only at h
      split_ifs at h with hle
      exact ⟨some d, by rw [Option.some.inj h], by simpa using hle⟩
    · rintro ⟨deadline, h, hle⟩
      obtain ⟨rfl, rfl⟩ := Prod.mk.inj (Option.some.inj h)
      exact if_pos (hle d rfl)

/-- After `expire` a key that is there has a deadline: the new one, or the one it had when it was
past it. -/
theorem of_entries_expire [Add T] {now ttl : T} {deadline : Option T}
    (h : (s.expire now k ttl).entries k = some (v, deadline)) :
    ∃ d, deadline = some d ∧ (s.entries k = some (v, some d) ∨
      s.get now k = some v ∧ d = now + ttl) := by
  unfold expire at h
  rcases hget : s.get now k with _ | value
  · rw [hget] at h
    rcases deadline with _ | d
    · have hthere : s.get now k = some v := get_eq_some.mpr ⟨none, h, by simp⟩
      rw [hget] at hthere
      exact absurd hthere (by simp)
    · exact ⟨d, rfl, Or.inl h⟩
  · rw [hget] at h
    simp only [Function.update_self, Option.some.injEq, Prod.mk.injEq] at h
    obtain ⟨rfl, rfl⟩ := h
    exact ⟨now + ttl, rfl, Or.inr ⟨rfl, rfl⟩⟩

end Entries

end ExpiringStore

end MyChat
