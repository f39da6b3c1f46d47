import Mathlib.Data.List.Basic

/-!
# Two lists of which some elements correspond

What is under way in a concrete and in an abstract system, in the order in which it was sent: an
element of the one corresponds to an element of the other, or is one that does nothing, and an
element of the other may have nothing that corresponds to it, when it got lost. `Matches.eraseIdx`
is the step of a simulation that takes any element of the concrete list, and `Matches.append` those
that add to either.
-/

namespace MyChat

variable {α β : Type} {R : α → β → Prop} {idle : α → Prop}

/-- The lists correspond: `R` says of an element of the first what it is of the second, and the
`idle` ones are nothing there. -/
inductive Matches (R : α → β → Prop) (idle : α → Prop) : List α → List β → Prop where
  /-- Nothing is under way. -/
  | nil : Matches R idle [] []
  /-- Two elements that correspond. -/
  | both {a b l l'} : R a b → Matches R idle l l' → Matches R idle (a :: l) (b :: l')
  /-- An element that does nothing. -/
  | left {a l l'} : idle a → Matches R idle l l' → Matches R idle (a :: l) l'
  /-- An element that got lost. -/
  | right {b l l'} : Matches R idle l l' → Matches R idle l (b :: l')

namespace Matches

variable {l m : List α} {l' m' : List β}

theorem append (h : Matches R idle l l') (hm : Matches R idle m m') :
    Matches R idle (l ++ m) (l' ++ m') := by
  induction h with
  | nil => exact hm
  | both hab _ ih => exact .both hab ih
  | left ha _ ih => exact .left ha ih
  | right _ ih => exact .right ih

/-- Elements that do nothing are added. -/
theorem append_left (h : Matches R idle l l') (hm : ∀ a ∈ m, idle a) :
    Matches R idle (l ++ m) l' := by
  have hidle : Matches R idle m [] := by
    induction m with
    | nil => exact .nil
    | cons a m ih =>
      obtain ⟨ha, hm⟩ := List.forall_mem_cons.mp hm
      exact .left ha (ih hm)
  have happend := h.append hidle
  rwa [List.append_nil] at happend

/-- The element that is taken does nothing, or corresponds to one that can be taken, or got lost. -/
theorem eraseIdx (h : Matches R idle l l') {i : ℕ} {a : α} (ha : l[i]? = some a) :
    (idle a ∧ Matches R idle (l.eraseIdx i) l') ∨
      ∃ j b, l'[j]? = some b ∧ R a b ∧ Matches R idle (l.eraseIdx i) (l'.eraseIdx j) ∧
        Matches R idle (l.eraseIdx i) l' := by
  induction h generalizing i with
  | nil => simp at ha
  | @both a' b l l' hab h ih =>
    rcases i with _ | i
    · obtain rfl := Option.some.inj ha
      exact Or.inr ⟨0, b, rfl, hab, h, .right h⟩
    · rcases ih ha with ⟨hidle, hrest⟩ | ⟨j, b', hb', hR, hrest, hlost⟩
      · exact Or.inl ⟨hidle, .both hab hrest⟩
      · exact Or.inr ⟨j + 1, b', hb', hR, .both hab hrest, .both hab hlost⟩
  | @left a' l l' hidle' h ih =>
    rcases i with _ | i
    · obtain rfl := Option.some.inj ha
      exact Or.inl ⟨hidle', h⟩
    · rcases ih ha with ⟨hidle, hrest⟩ | ⟨j, b', hb', hR, hrest, hlost⟩
      · exact Or.inl ⟨hidle, .left hidle' hrest⟩
      · exact Or.inr ⟨j, b', hb', hR, .left hidle' hrest, .left hidle' hlost⟩
  | @right b l l' h ih =>
    rcases ih ha with ⟨hidle, hrest⟩ | ⟨j, b', hb', hR, hrest, hlost⟩
    · exact Or.inl ⟨hidle, .right hrest⟩
    · exact Or.inr ⟨j + 1, b', hb', hR, .right hrest, .right hlost⟩

end Matches

end MyChat
