import Mathlib.Data.List.Induction

/-!
# Runs of a system

A system takes one step for each label of a list; a step that depends on something the system does
not fix, such as the order in which a container is walked, finds it in its label. `run step s as` is
the state after the labels `as`. `EveryStep` says that each step of a run meets a condition on the
labels before it, the state it starts in, and its label, and `EveryStep.inv` is the rule for an
invariant that such steps keep. The invariant may speak of the labels too, so that a ghost state
that is a function of the history needs no place in the state.
-/

namespace MyChat.Run

variable {σ α : Type} (step : σ → α → σ) (s : σ)

/-- The state after the steps `as`. -/
def run (as : List α) : σ := as.foldl step s

@[simp] theorem run_nil : run step s [] = s := rfl

/-- The last step of a run. -/
@[simp] theorem run_concat (as : List α) (a : α) :
    run step s (as ++ [a]) = step (run step s as) a := by
  simp [run]

/-- A run goes on from the state it reached. -/
theorem run_append (as bs : List α) :
    run step s (as ++ bs) = run step (run step s as) bs := List.foldl_append

/-- Every step of the run meets the condition `C` on what went before, the state, and the label. -/
def EveryStep (C : List α → σ → α → Prop) (as : List α) : Prop :=
  ∀ pre a post, as = pre ++ a :: post → C pre (run step s pre) a

variable {step s} {C D : List α → σ → α → Prop} {I : List α → σ → Prop} {as : List α}

/-- The steps of a run up to any point. -/
theorem EveryStep.of_append {bs : List α} (h : EveryStep step s C (as ++ bs)) :
    EveryStep step s C as := by
  intro pre a post has
  refine h pre a (post ++ bs) ?_
  rw [has, List.append_assoc, List.cons_append]

/-- An invariant that a run has at some point and each later step keeps holds at its end. -/
theorem EveryStep.inv_append {bs : List α} (h : EveryStep step s C (as ++ bs))
    (h0 : I as (run step s as))
    (hstep : ∀ pre t a, I pre t → C pre t a → I (pre ++ [a]) (step t a)) :
    I (as ++ bs) (run step s (as ++ bs)) := by
  induction bs using List.reverseRecOn with
  | nil =>
    rw [List.append_nil]
    exact h0
  | append_singleton bs b ih =>
    rw [← List.append_assoc] at h ⊢
    rw [run_concat]
    exact hstep _ _ _ (ih h.of_append) (h (as ++ bs) b [] rfl)

/-- An invariant that the start has and each step keeps holds after the run. -/
theorem EveryStep.inv (h : EveryStep step s C as) (h0 : I [] s)
    (hstep : ∀ pre t a, I pre t → C pre t a → I (pre ++ [a]) (step t a)) :
    I as (run step s as) := by
  have happ : EveryStep step s C ([] ++ as) := h
  exact happ.inv_append h0 hstep

theorem everyStep_nil : EveryStep step s C [] := by
  intro pre a post h
  exact absurd h (by simp)

/-- The steps of a run are its first step and those of the rest. -/
theorem everyStep_cons {a : α} : EveryStep step s C (a :: as) ↔
    C [] s a ∧ EveryStep step (step s a) (fun pre => C (a :: pre)) as := by
  constructor
  · intro h
    refine ⟨h [] a as rfl, fun pre b post has => ?_⟩
    exact h (a :: pre) b post (by rw [has, List.cons_append])
  · rintro ⟨hhead, htail⟩ pre b post has
    rcases pre with _ | ⟨c, pre⟩
    · obtain ⟨rfl, -⟩ := List.cons.inj has
      exact hhead
    · obtain ⟨rfl, hrest⟩ := List.cons.inj has
      exact htail pre b post hrest

/-- The steps of a run are its last step and those before it. -/
theorem everyStep_concat {a : α} : EveryStep step s C (as ++ [a]) ↔
    EveryStep step s C as ∧ C as (run step s as) a := by
  constructor
  · intro h
    exact ⟨h.of_append, h as a [] rfl⟩
  · rintro ⟨hbefore, hlast⟩ pre b post has
    rcases List.eq_nil_or_concat post with rfl | ⟨post, c, rfl⟩
    · obtain ⟨rfl, hab⟩ := List.append_inj' has rfl
      obtain rfl := List.singleton_inj.mp hab
      exact hlast
    · have hcons : as ++ [a] = (pre ++ b :: post) ++ [c] := by
        rw [has, List.concat_eq_append, List.append_assoc, List.cons_append]
      exact hbefore pre b post (List.append_inj' hcons rfl).1

end MyChat.Run
