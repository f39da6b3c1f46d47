import Mathlib.Data.List.Count
import Mathlib.Data.List.Induction
import Mathlib.Data.List.Infix

/-!
# Records under composite keys

A store keeps records under keys that are made of two texts, joined by a separator. `join a b` tells
`a` and `b` apart for every other pair exactly when neither of them has the separator
(`join_inj`, `exists_other_split`), and then a search for the separator and a text finds the texts
that `b` starts with (`infix_join_iff`).

`latest key log x` is the last record of a log whose key is `x`, which is what a map holds under `x`
after the log was written to it.
-/

namespace MyChat.CompositeKey

variable {α : Type} {sep : α} {a b a' b' : List α}

/-! ## Joined texts -/

/-- Two texts with the separator between them. -/
def join (sep : α) (a b : List α) : List α := a ++ sep :: b

/-- If the first texts have no separator, they are what stands before the first one. -/
theorem join_inj_of_notMem (ha : sep ∉ a) (ha' : sep ∉ a') (h : join sep a b = join sep a' b') :
    a = a' ∧ b = b' := by
  unfold join at h
  obtain ⟨rest, ⟨hcons, hb⟩ | ⟨hcons, hb⟩⟩ :
      ∃ rest, (a' = a ++ rest ∧ sep :: b = rest ++ sep :: b') ∨
        (a = a' ++ rest ∧ sep :: b' = rest ++ sep :: b) := by
    rcases List.append_eq_append_iff.mp h with ⟨rest, h1, h2⟩ | ⟨rest, h1, h2⟩
    · exact ⟨rest, Or.inl ⟨h1, h2⟩⟩
    · exact ⟨rest, Or.inr ⟨h1, h2⟩⟩
  · rcases rest with _ | ⟨x, rest⟩
    · simp_all
    · obtain ⟨rfl, -⟩ := List.cons.inj hb
      exact absurd (hcons ▸ List.mem_append_right a (List.mem_cons_self ..)) ha'
  · rcases rest with _ | ⟨x, rest⟩
    · simp_all
    · obtain ⟨rfl, -⟩ := List.cons.inj hb
      exact absurd (hcons ▸ List.mem_append_right a' (List.mem_cons_self ..)) ha

/-- Texts without the separator are told apart from all others by their joined text. -/
theorem join_inj [DecidableEq α] (ha : sep ∉ a) (hb : sep ∉ b)
    (h : join sep a b = join sep a' b') : a = a' ∧ b = b' := by
  -- The joined text has one separator, so that the other pair has none.
  have hcount : ∀ x y : List α, (join sep x y).count sep = x.count sep + (y.count sep + 1) := by
    intro x y
    rw [join, List.count_append, List.count_cons_self]
  have hone := hcount a b
  rw [h, hcount a' b', List.count_eq_zero_of_not_mem ha, List.count_eq_zero_of_not_mem hb] at hone
  have ha' : sep ∉ a' := List.count_eq_zero.mp (by omega)
  exact join_inj_of_notMem ha ha' h

/-- Texts with the separator are joined to the same text as others. -/
theorem exists_other_split (h : sep ∈ a ∨ sep ∈ b) :
    ∃ a' b', (a', b') ≠ (a, b) ∧ join sep a' b' = join sep a b := by
  rcases h with hmem | hmem
  · obtain ⟨x, y, rfl⟩ := List.append_of_mem hmem
    refine ⟨x, y ++ sep :: b, ?_, by simp [join]⟩
    intro heq
    have hlen := congrArg List.length (Prod.mk.inj heq).1
    simp at hlen
  · obtain ⟨x, y, rfl⟩ := List.append_of_mem hmem
    refine ⟨a ++ sep :: x, y, ?_, by simp [join]⟩
    intro heq
    have hlen := congrArg List.length (Prod.mk.inj heq).1
    simp at hlen

/-- Where the search for the separator and a text finds something. -/
theorem infix_join_iff [DecidableEq α] (ha : sep ∉ a) (hb : sep ∉ b) {q : List α} :
    sep :: q <:+: join sep a b ↔ q <+: b := by
  constructor
  · rintro ⟨x, y, hxy⟩
    have hsplit : join sep a b = join sep x (q ++ y) := by
      rw [← hxy]
      simp [join]
    obtain ⟨-, rfl⟩ := join_inj ha hb hsplit
    exact List.prefix_append q y
  · rintro ⟨y, rfl⟩
    exact ⟨a, y, by simp [join]⟩

/-! ## The last record under a key -/

variable {β κ κ' : Type} [DecidableEq κ] [DecidableEq κ'] {key : β → κ} {log : List β} {x : κ}
  {r r' : β}

/-- The last record of the log whose key is `x`. -/
def latest (key : β → κ) (log : List β) (x : κ) : Option β :=
  log.reverse.find? fun r => key r = x

@[simp] theorem latest_nil : latest key [] x = none := rfl

/-- A record takes the place of the one that had its key. -/
theorem latest_concat :
    latest key (log ++ [r]) x = if key r = x then some r else latest key log x := by
  unfold latest
  rw [List.reverse_append, List.reverse_singleton, List.singleton_append, List.find?_cons]
  split_ifs with h <;> simp [h]

theorem latest_eq_some (h : latest key log x = some r) : r ∈ log ∧ key r = x := by
  unfold latest at h
  exact ⟨List.mem_reverse.mp (List.mem_of_find?_eq_some h), by simpa using List.find?_some h⟩

theorem exists_latest (hr : r ∈ log) : ∃ r', latest key log (key r) = some r' := by
  have hsome : (latest key log (key r)).isSome := by
    unfold latest
    rw [List.find?_isSome]
    exact ⟨r, List.mem_reverse.mpr hr, by simp⟩
  exact Option.isSome_iff_exists.mp hsome

/-- Two keys that pick the same records pick the same last one. -/
theorem latest_congr {key' : β → κ'} {x' : κ'} (h : ∀ r ∈ log, key r = x ↔ key' r = x') :
    latest key log x = latest key' log x' := by
  induction log using List.reverseRecOn with
  | nil => rfl
  | append_singleton log r ih =>
    have hr := h r (List.mem_append_right log (List.mem_singleton_self r))
    have hlog := ih fun r' hr' => h r' (List.mem_append_left [r] hr')
    simp only [latest_concat, hr, hlog]

end MyChat.CompositeKey
