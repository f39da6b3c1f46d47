import Mathlib.Data.List.Basic

/-!
# Objects by their place

A system makes objects one after the other. They are kept in a list from which nothing is taken
away, so that an object's place is its name, and `List.set` changes the object at a place. The
lemmas say what such a change does to what is read, counted, or listed of the objects.
-/

namespace MyChat.Slots

variable {α β : Type} {l : List α} {i : ℕ} {a b : α}

/-- Reading after the object at place `i` was changed. -/
theorem getElem?_set (hi : l[i]? = some a) (j : ℕ) :
    (l.set i b)[j]? = if j = i then some b else l[j]? := by
  have hlt : i < l.length := (List.getElem?_eq_some_iff.mp hi).1
  rw [List.getElem?_set, if_pos hlt]
  simp only [eq_comm]

theorem getElem?_set_self (hi : l[i]? = some a) : (l.set i b)[i]? = some b := by
  rw [getElem?_set hi, if_pos rfl]

/-- An object keeps its place when another one is made. -/
theorem getElem?_concat_of_some (hi : l[i]? = some a) : (l ++ [b])[i]? = some a := by
  have hlt : i < l.length := (List.getElem?_eq_some_iff.mp hi).1
  rw [List.getElem?_append_left hlt, hi]

/-- An object was there before another one was made, or is the new one. -/
theorem of_getElem?_concat (hi : (l ++ [b])[i]? = some a) :
    l[i]? = some a ∨ i = l.length ∧ a = b := by
  rcases Nat.lt_or_ge i l.length with hlt | hge
  · rw [List.getElem?_append_left hlt] at hi
    exact Or.inl hi
  · rw [List.getElem?_append_right hge, List.getElem?_singleton] at hi
    split_ifs at hi with hzero
    exact Or.inr ⟨Nat.le_antisymm (Nat.sub_eq_zero_iff_le.mp hzero) hge, (Option.some.inj hi).symm⟩

/-- An object that has a property is counted. -/
theorem toNat_le_countP (p : α → Bool) (hi : l[i]? = some a) : (p a).toNat ≤ l.countP p := by
  rcases hp : p a with _ | _
  · exact Nat.zero_le _
  · exact List.countP_pos_iff.mpr ⟨a, List.mem_of_getElem? hi, hp⟩

/-- Counting after the object at place `i` was changed. -/
theorem countP_set (p : α → Bool) (hi : l[i]? = some a) :
    (l.set i b).countP p = l.countP p - (p a).toNat + (p b).toNat := by
  obtain ⟨hlt, rfl⟩ := List.getElem?_eq_some_iff.mp hi
  rw [List.countP_set hlt]
  rcases p l[i] with _ | _ <;> rcases p b with _ | _ <;> rfl

/-- A change that the property does not see. -/
theorem countP_set_of_eq (p : α → Bool) (hi : l[i]? = some a) (hp : p b = p a) :
    (l.set i b).countP p = l.countP p := by
  rw [countP_set p hi, hp]
  exact Nat.sub_add_cancel (toNat_le_countP p hi)

/-- A change that the function does not see. -/
theorem map_set_of_eq (f : α → β) (hi : l[i]? = some a) (hf : f b = f a) :
    (l.set i b).map f = l.map f := by
  apply List.ext_getElem?
  intro j
  rw [List.getElem?_map, List.getElem?_map, getElem?_set hi]
  split_ifs with hji
  · rw [hji, hi, Option.map_some, Option.map_some, hf]
  · rfl

end MyChat.Slots
