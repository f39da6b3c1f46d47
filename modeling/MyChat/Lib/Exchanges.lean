import MyChat.Lib.Interleaving

/-!
# What a call was told

An exchange is a command of a call and the reply that it got. `Exchanged` says that a run has one,
and `Follows` that the result of a program meets a condition on the exchanges of its call, whatever
the others do to the server between its commands. `follows_run` is the rule: when every program
follows a condition from its start, every call that is done meets it.
-/

namespace MyChat.Interleaving

open Run

variable {σ κ ε C α β : Type} {Reply : C → Type}

/-- A command with a reply. -/
abbrev Exchange (C : Type) (Reply : C → Type) : Type := Σ c, Reply c

/-- In the run, the call sent the command and got the reply. -/
def Exchanged (program : κ → CommandProgram C Reply α) (handle : ε → σ → (c : C) → Reply c × σ)
    (server : σ) (turns : List (Turn κ ε)) (i : ℕ) (x : Exchange C Reply) : Prop :=
  ∃ pre env post request next, turns = pre ++ .turn i env :: post ∧
    (after program handle server pre).calls[i]? = some (request, .call x.1 next) ∧
    (handle env (after program handle server pre).server x.1).1 = x.2

/-- The result of the program meets `Post` with the exchanges of its call, of which it had those in
`E` already. The others may move the server before each command. -/
def Follows (rely : σ → σ → Prop) (handle : ε → σ → (c : C) → Reply c × σ)
    (Cond : ε → σ → C → Prop) (Post : (Exchange C Reply → Prop) → α → Prop) :
    (Exchange C Reply → Prop) → CommandProgram C Reply α → σ → Prop
  | E, .done a, _ => Post E a
  | E, .call c next, s => ∀ s' env, rely s s' → Cond env s' c →
      Follows rely handle Cond Post (fun x => E x ∨ x = ⟨c, (handle env s' c).1⟩)
        (next (handle env s' c).1) (handle env s' c).2

/-- More exchanges do not break the condition. -/
def Upward (Post : (Exchange C Reply → Prop) → α → Prop) : Prop :=
  ∀ E E' a, (∀ x, E x → E' x) → Post E a → Post E' a

variable {rely : σ → σ → Prop} {handle : ε → σ → (c : C) → Reply c × σ} {Cond : ε → σ → C → Prop}
  {Post : (Exchange C Reply → Prop) → α → Prop} {E E' : Exchange C Reply → Prop}
  {p : CommandProgram C Reply α} {s s' : σ}

/-- A program that has had more exchanges. -/
theorem Follows.of_imp (hmono : Upward Post) (h : Follows rely handle Cond Post E p s)
    (himp : ∀ x, E x → E' x) : Follows rely handle Cond Post E' p s := by
  induction p generalizing E E' s with
  | done a => exact hmono E E' a himp h
  | call c next ih =>
    intro s' env hrely hcond
    exact ih _ (h s' env hrely hcond) fun x => Or.imp_left (himp x)

/-- A weaker condition. -/
theorem Follows.of_post {Post' : (Exchange C Reply → Prop) → α → Prop}
    (h : Follows rely handle Cond Post E p s) (himp : ∀ E a, Post E a → Post' E a) :
    Follows rely handle Cond Post' E p s := by
  induction p generalizing E s with
  | done a => exact himp E a h
  | call c next ih => exact fun s' env hrely hcond => ih _ (h s' env hrely hcond)

/-- The result of a program that is changed at the end. -/
theorem Follows.map {f : β → α} {p : CommandProgram C Reply β}
    (h : Follows rely handle Cond (fun E b => Post E (f b)) E p s) :
    Follows rely handle Cond Post E (p >>= fun b => pure (f b)) s := by
  induction p generalizing E s with
  | done b => exact h
  | call c next ih => exact fun s' env hrely hcond => ih _ (h s' env hrely hcond)

/-- A command, before the rest of a program. -/
theorem follows_send {c : C} {rest : Reply c → CommandProgram C Reply α}
    (h : ∀ s' env, rely s s' → Cond env s' c →
      Follows rely handle Cond Post (fun x => E x ∨ x = ⟨c, (handle env s' c).1⟩)
        (rest (handle env s' c).1) (handle env s' c).2) :
    Follows rely handle Cond Post E (.send c >>= rest) s := h

section Rely

variable (hrefl : ∀ s, rely s s) (htrans : ∀ a b c, rely a b → rely b c → rely a c)
  (hhandle : ∀ env s c, rely s (handle env s c).2)
include hrefl htrans hhandle

/-- A program before the rest of a program that does not depend on its commands. -/
theorem follows_bind {p : CommandProgram C Reply β} {rest : β → CommandProgram C Reply α}
    (h : ∀ b s' E', rely s s' → (∀ x, E x → E' x) →
      Follows rely handle Cond Post E' (rest b) s') :
    Follows rely handle Cond Post E (p >>= rest) s := by
  induction p generalizing E s with
  | done b => exact h b s E (hrefl s) fun _ hx => hx
  | call c next ih =>
    intro s' env hrely _
    refine ih _ fun b s'' E' hrely' himp => h b s'' E' ?_ fun x hx => himp x (.inl hx)
    exact htrans _ _ _ hrely (htrans _ _ _ (hhandle env s' c) hrely')

omit hrefl hhandle in
/-- A program follows its condition while others move the server. -/
theorem Follows.of_rely (h : Follows rely handle Cond Post E p s) (hrely : rely s s') :
    Follows rely handle Cond Post E p s' := by
  cases p with
  | done a => exact h
  | call c next => exact fun s'' env hrely' => h s'' env (htrans _ _ _ hrely hrely')

variable {program : κ → CommandProgram C Reply α} {server : σ} {turns : List (Turn κ ε)}
  {Post : κ → (Exchange C Reply → Prop) → α → Prop}

omit hrefl htrans hhandle in
/-- The exchanges of a run stay. -/
theorem Exchanged.concat {i : ℕ} {x : Exchange C Reply}
    (h : Exchanged program handle server turns i x) (t : Turn κ ε) :
    Exchanged program handle server (turns ++ [t]) i x := by
  obtain ⟨pre, env, post, request, next, rfl, hcall, hreply⟩ := h
  exact ⟨pre, env, post ++ [t], request, next, by simp, hcall, hreply⟩

variable (program) in
omit htrans in
/-- The server moves at every moment as the calls rely on. -/
theorem rely_step (st : State σ κ C Reply α) (t : Turn κ ε) :
    rely st.server (step program handle st t).server := by
  cases t with
  | start request => exact hrefl _
  | turn i env =>
    rcases hi : st.calls[i]? with _ | ⟨request, _ | ⟨c, next⟩⟩
    · rw [step_turn_none env hi]
      exact hrefl _
    · rw [step_turn_some env hi]
      exact hrefl _
    · rw [step_turn_some env hi]
      exact hhandle env st.server c

/-- In every run of programs that follow their conditions from the start, every call goes on so. -/
theorem follows_run
    (hmono : ∀ request, Upward (Post request)) (hstart : ∀ request s,
      Follows rely handle Cond (Post request) (fun _ => False) (program request) s)
    (hrun : EveryStep (step program handle) ⟨server, []⟩ (Meets Cond) turns) :
    ∀ (i : ℕ) request p, (after program handle server turns).calls[i]? = some (request, p) →
      Follows rely handle Cond (Post request) (Exchanged program handle server turns i) p
        (after program handle server turns).server := by
  refine (hrun.inv (I := fun turns st => st = after program handle server turns ∧
    ∀ (i : ℕ) request p, st.calls[i]? = some (request, p) → Follows rely handle Cond (Post request)
      (Exchanged program handle server turns i) p st.server) ?_ ?_).2
  · exact ⟨rfl, fun i request p hcall => absurd hcall (by simp)⟩
  · rintro pre st t ⟨hst, hfollows⟩ hmeets
    refine ⟨by rw [hst]; exact (run_concat _ _ pre t).symm, fun i request p hcall => ?_⟩
    have hgrow : ∀ x, Exchanged program handle server pre i x →
        Exchanged program handle server (pre ++ [t]) i x := fun x hx => hx.concat t
    rcases call_cases hcall with ⟨hold, -⟩ | ⟨rfl, rfl, -⟩ | ⟨env, q, rfl, hold, rfl⟩
    · have hrely := rely_step hrefl hhandle program st t
      exact ((hfollows i request p hold).of_rely htrans hrely).of_imp (hmono _) hgrow
    · exact (hstart request st.server).of_imp (hmono _) fun x hx => hx.elim
    · have hown := hfollows i request q hold
      rw [step_turn_some env hold]
      cases q with
      | done a => exact hown.of_imp (hmono _) hgrow
      | call c next =>
        -- The reply to the command is one more exchange of the call.
        refine Follows.of_imp (hmono _) (hown st.server env (hrefl _) (hmeets.of_call hold)) ?_
        rintro x (hx | rfl)
        · exact hgrow x hx
        · subst hst
          exact ⟨pre, env, [], request, next, rfl, hold, rfl⟩

/-- Every call that is done meets its condition. -/
theorem post_run
    (hmono : ∀ request, Upward (Post request)) (hstart : ∀ request s,
      Follows rely handle Cond (Post request) (fun _ => False) (program request) s)
    (hrun : EveryStep (step program handle) ⟨server, []⟩ (Meets Cond) turns) {i : ℕ} {request : κ}
    {a : α} (hcall : (after program handle server turns).calls[i]? = some (request, .done a)) :
    Post request (Exchanged program handle server turns i) a :=
  follows_run hrefl htrans hhandle hmono hstart hrun i request _ hcall

end Rely

end MyChat.Interleaving
