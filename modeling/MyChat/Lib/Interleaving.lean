import MyChat.Lib.CommandProgram
import MyChat.Lib.Run
import MyChat.Lib.Slots

/-!
# Programs that take turns on one server

Calls are made at any time, each runs a program, and at each turn one of them sends its next
command. A turn depends on circumstances that the server does not fix, such as whether a transaction
commits: it finds them in its label.

The rule for such runs is that of rely and guarantee. A `Contract` names an invariant of the server,
what a call relies on the others for, what each request guarantees about its own commands, and which
results allow that the call changed the server. `Safe` says that a program keeps the contract from a
server on; `safe_run` says that when every program is safe at its start, the invariant holds at
every moment of every run, `Kept.guar` that every turn is within the guarantee of its call, and
`Kept.not_changed` that a call with another result has changed nothing.
-/

namespace MyChat.Interleaving

open Run

variable {σ κ ε C α : Type} {Reply : C → Type}

/-- A server and the calls that were made, each with its request and the rest of its program. -/
structure State (σ κ C : Type) (Reply : C → Type) (α : Type) where
  /-- The server. -/
  server : σ
  /-- The calls, in the order in which they were made. -/
  calls : List (κ × CommandProgram C Reply α)

/-- What happens at one moment. -/
inductive Turn (κ ε : Type) where
  /-- A call is made. -/
  | start (request : κ)
  /-- A call sends its next command. -/
  | turn (i : ℕ) (env : ε)

section Step

variable (program : κ → CommandProgram C Reply α) (handle : ε → σ → (c : C) → Reply c × σ)

/-- The state after one moment. A call that is done sends nothing. -/
def step (s : State σ κ C Reply α) : Turn κ ε → State σ κ C Reply α
  | .start request => { s with calls := s.calls ++ [(request, program request)] }
  | .turn i env =>
    match s.calls[i]? with
    | none => s
    | some (request, p) =>
      ⟨(p.advance (handle env) s.server).2,
        s.calls.set i (request, (p.advance (handle env) s.server).1)⟩

/-- The state after the turns, on a server on which no call was made yet. -/
abbrev after (server : σ) (turns : List (Turn κ ε)) : State σ κ C Reply α :=
  run (step program handle) ⟨server, []⟩ turns

/-- A command of the call changed the server. -/
def Changed (server : σ) (turns : List (Turn κ ε)) (i : ℕ) : Prop :=
  ∃ pre env post, turns = pre ++ .turn i env :: post ∧
    (after program handle server (pre ++ [.turn i env])).server ≠
      (after program handle server pre).server

/-- Each command that is sent meets the condition `Cond` on its circumstances and the server. -/
def Meets (Cond : ε → σ → C → Prop) (_ : List (Turn κ ε)) (s : State σ κ C Reply α) :
    Turn κ ε → Prop
  | .start _ => True
  | .turn i env =>
    match s.calls[i]? with
    | some (_, .call c _) => Cond env s.server c
    | _ => True

instance (Cond : ε → σ → C → Prop) [∀ env s c, Decidable (Cond env s c)]
    (turns : List (Turn κ ε)) (s : State σ κ C Reply α) :
    (t : Turn κ ε) → Decidable (Meets Cond turns s t)
  | .start _ => isTrue trivial
  | .turn i env =>
    match h : s.calls[i]? with
    | none => isTrue (by simp only [Meets, h])
    | some (_, .done _) => isTrue (by simp only [Meets, h])
    | some (_, .call c _) => decidable_of_iff (Cond env s.server c) (by simp only [Meets, h])

end Step

/-! ## Contracts -/

/-- What calls promise each other. -/
structure Contract (σ κ α : Type) where
  /-- The invariant of the server. -/
  Inv : σ → Prop
  /-- What a call relies on while it waits for its next turn. -/
  rely : σ → σ → Prop
  /-- What a command of a call with this request guarantees. -/
  guar : κ → σ → σ → Prop
  /-- The results of calls that may have changed the server. -/
  ok : α → Prop
  rely_refl : ∀ s, rely s s
  rely_trans : ∀ {a b c}, rely a b → rely b c → rely a c
  guar_rely : ∀ {request s s'}, guar request s s' → rely s s'

variable (K : Contract σ κ α) (handle : ε → σ → (c : C) → Reply c × σ) (Cond : ε → σ → C → Prop)

/-- The program keeps the contract from the server `s` on, for a call that has `changed` the server
already. The others may move the server before each command. -/
def Safe (request : κ) : Prop → CommandProgram C Reply α → σ → Prop
  | changed, .done a, _ => changed → K.ok a
  | changed, .call c next, s => ∀ s' env, K.rely s s' → K.Inv s' → Cond env s' c →
      K.Inv (handle env s' c).2 ∧ K.guar request s' (handle env s' c).2 ∧
        Safe request (changed ∨ (handle env s' c).2 ≠ s') (next (handle env s' c).1)
          (handle env s' c).2

variable {K handle Cond} {request : κ} {changed changed' : Prop} {p : CommandProgram C Reply α}
  {s s' : σ}

/-- A program stays safe while others move the server. -/
theorem Safe.of_rely (h : Safe K handle Cond request changed p s) (hrely : K.rely s s') :
    Safe K handle Cond request changed p s' := by
  cases p with
  | done a => exact h
  | call c next => exact fun s'' env hrely' => h s'' env (K.rely_trans hrely hrely')

/-- A program that is safe after a change is safe without it. -/
theorem Safe.of_imp (h : Safe K handle Cond request changed p s) (himp : changed' → changed) :
    Safe K handle Cond request changed' p s := by
  induction p generalizing changed changed' s with
  | done a => exact fun hchanged => h (himp hchanged)
  | call c next ih =>
    intro s' env hrely hinv hcond
    obtain ⟨hinv', hguar, hrest⟩ := h s' env hrely hinv hcond
    exact ⟨hinv', hguar, ih _ hrest (Or.imp_left himp)⟩

/-- A command that only reads, before the rest of a program. -/
theorem safe_read {c : C} {rest : Reply c → CommandProgram C Reply α}
    (hread : ∀ env s, (handle env s c).2 = s) (hguar : ∀ s, K.guar request s s)
    (h : ∀ s' env, K.rely s s' → K.Inv s' →
      Safe K handle Cond request changed (rest (handle env s' c).1) s') :
    Safe K handle Cond request changed (.send c >>= rest) s := by
  intro s' env hrely hinv _
  rw [hread]
  refine ⟨hinv, hguar s', ?_⟩
  exact (h s' env hrely hinv).of_imp fun hchanged => hchanged.resolve_right fun hne => hne rfl

/-- A command that may write, before the rest of a program. -/
theorem safe_send {c : C} {rest : Reply c → CommandProgram C Reply α}
    (h : ∀ s' env, K.rely s s' → K.Inv s' → Cond env s' c →
      K.Inv (handle env s' c).2 ∧ K.guar request s' (handle env s' c).2 ∧
        Safe K handle Cond request (changed ∨ (handle env s' c).2 ≠ s') (rest (handle env s' c).1)
          (handle env s' c).2) :
    Safe K handle Cond request changed (.send c >>= rest) s := h

/-- A call that has changed nothing may end with any result. -/
theorem safe_unchanged (a : α) (hnot : ¬ changed) :
    Safe K handle Cond request changed (.done a : CommandProgram C Reply α) s :=
  fun hchanged => absurd hchanged hnot

/-- The next command of a safe program keeps the contract, and the rest of the program is safe. -/
theorem Safe.advance {env : ε} (h : Safe K handle Cond request changed p s) (hinv : K.Inv s)
    (hcond : ∀ c next, p = .call c next → Cond env s c) :
    K.Inv (p.advance (handle env) s).2 ∧
      ((p.advance (handle env) s).2 = s ∨ K.guar request s (p.advance (handle env) s).2) ∧
      Safe K handle Cond request (changed ∨ (p.advance (handle env) s).2 ≠ s)
        (p.advance (handle env) s).1 (p.advance (handle env) s).2 := by
  cases p with
  | done a =>
    exact ⟨hinv, Or.inl rfl, fun hchanged => h (hchanged.resolve_right fun hne => hne rfl)⟩
  | call c next =>
    obtain ⟨hinv', hguar, hrest⟩ := h s env (K.rely_refl s) hinv (hcond c next rfl)
    exact ⟨hinv', Or.inr hguar, hrest⟩

/-! ## Runs -/

/-- The condition on the command that a call sends. -/
theorem Meets.of_call {st : State σ κ C Reply α} {turns : List (Turn κ ε)} {i : ℕ} {env : ε} {c : C}
    {next : Reply c → CommandProgram C Reply α} (h : Meets Cond turns st (.turn i env))
    (hcall : st.calls[i]? = some (request, .call c next)) : Cond env st.server c := by
  simpa only [Meets, hcall] using h

/-- A condition that always holds is met by every run. -/
theorem everyStep_meets {program : κ → CommandProgram C Reply α} (st : State σ κ C Reply α)
    (turns : List (Turn κ ε)) (h : ∀ env s c, Cond env s c) :
    EveryStep (step program handle) st (Meets Cond) turns := by
  intro pre t post _
  cases t with
  | start request => exact trivial
  | turn i env =>
    rcases hcall : (run (step program handle) st pre).calls[i]? with _ | ⟨request, _ | ⟨c, next⟩⟩
    · simp only [Meets, hcall]
    · simp only [Meets, hcall]
    · simp only [Meets, hcall]
      exact h env _ c

variable {program : κ → CommandProgram C Reply α} {server : σ} {turns : List (Turn κ ε)}

/-- The turn of a call that was not made. -/
theorem step_turn_none {st : State σ κ C Reply α} {i : ℕ} (env : ε) (h : st.calls[i]? = none) :
    step program handle st (.turn i env) = st := by
  simp only [step, h]

/-- The turn of a call that was made. -/
theorem step_turn_some {st : State σ κ C Reply α} {i : ℕ} (env : ε)
    (h : st.calls[i]? = some (request, p)) :
    step program handle st (.turn i env) =
      ⟨(p.advance (handle env) st.server).2,
        st.calls.set i (request, (p.advance (handle env) st.server).1)⟩ := by
  simp only [step, h]

/-- Where a call comes from: it is as it was and did not take the turn, it was just made, or it took
the turn and has advanced. -/
theorem call_cases {st : State σ κ C Reply α} {t : Turn κ ε} {i : ℕ}
    (h : (step program handle st t).calls[i]? = some (request, p)) :
    (st.calls[i]? = some (request, p) ∧ ∀ env, t ≠ .turn i env) ∨
      (t = .start request ∧ p = program request ∧ i = st.calls.length) ∨
      ∃ env q, t = .turn i env ∧ st.calls[i]? = some (request, q) ∧
        p = (q.advance (handle env) st.server).1 := by
  cases t with
  | start request' =>
    rcases Slots.of_getElem?_concat h with hold | ⟨hi, hnew⟩
    · exact Or.inl ⟨hold, fun env => by simp⟩
    · obtain ⟨rfl, rfl⟩ := Prod.mk.inj hnew
      exact Or.inr (Or.inl ⟨rfl, rfl, hi⟩)
  | turn j env =>
    rcases hj : st.calls[j]? with _ | ⟨request', q⟩
    · rw [step_turn_none env hj] at h
      refine Or.inl ⟨h, fun env' heq => ?_⟩
      obtain ⟨rfl, -⟩ := Turn.turn.inj heq
      exact absurd (hj.symm.trans h) (by simp)
    · rw [step_turn_some env hj] at h
      change (st.calls.set j _)[i]? = _ at h
      rw [Slots.getElem?_set hj] at h
      split_ifs at h with hij
      · subst hij
        obtain ⟨rfl, rfl⟩ := Prod.mk.inj (Option.some.inj h)
        exact Or.inr (Or.inr ⟨env, q, rfl, hj, rfl⟩)
      · exact Or.inl ⟨h, fun env' heq => hij (Turn.turn.inj heq).1.symm⟩

/-- A call with another request than the one that takes its turn is as it was. -/
theorem call_of_ne {st : State σ κ C Reply α} {i j : ℕ} {env : ε} {request' : κ}
    {q : CommandProgram C Reply α} (hi : st.calls[i]? = some (request', q))
    (h : (step program handle st (.turn i env)).calls[j]? = some (request, p))
    (hne : request ≠ request') : st.calls[j]? = some (request, p) := by
  rcases call_cases h with ⟨hold, -⟩ | ⟨heq, -⟩ | ⟨env', q', heq, hold, -⟩
  · exact hold
  · exact nomatch heq
  · obtain ⟨rfl, -⟩ := Turn.turn.inj heq
    exact absurd (Prod.mk.inj (Option.some.inj (hold.symm.trans hi))).1 hne

/-- A turn changes the server only for a call that was made. -/
theorem lt_length_of_step_ne {st : State σ κ C Reply α} {i : ℕ} {env : ε}
    (h : (step program handle st (.turn i env)).server ≠ st.server) : i < st.calls.length := by
  by_contra hge
  have hnone : st.calls[i]? = none := List.getElem?_eq_none (Nat.le_of_not_lt hge)
  exact h (by rw [step_turn_none env hnone])

/-- No call is forgotten. -/
theorem length_le_length_step (st : State σ κ C Reply α) (t : Turn κ ε) :
    st.calls.length ≤ (step program handle st t).calls.length := by
  cases t with
  | start request => simp [step]
  | turn i env =>
    rcases hcall : st.calls[i]? with _ | ⟨request, p⟩
    · exact Nat.le_of_eq (by rw [step_turn_none env hcall])
    · exact Nat.le_of_eq (by rw [step_turn_some env hcall, List.length_set])

/-- A change is made at the last turn or before it. -/
theorem changed_concat (t : Turn κ ε) (i : ℕ) :
    Changed program handle server (turns ++ [t]) i ↔
      Changed program handle server turns i ∨ ∃ env, t = .turn i env ∧
        (after program handle server (turns ++ [t])).server ≠
          (after program handle server turns).server := by
  constructor
  · rintro ⟨pre, env, post, heq, hne⟩
    rcases List.eq_nil_or_concat post with rfl | ⟨post, t', rfl⟩
    · obtain ⟨rfl, hlast⟩ := List.append_inj' heq rfl
      obtain rfl : t = .turn i env := by simpa using hlast
      exact Or.inr ⟨env, rfl, hne⟩
    · rw [List.concat_eq_append, ← List.cons_append, ← List.append_assoc] at heq
      obtain ⟨rfl, -⟩ := List.append_inj' heq rfl
      exact Or.inl ⟨pre, env, post, rfl, hne⟩
  · rintro (⟨pre, env, post, rfl, hne⟩ | ⟨env, rfl, hne⟩)
    · exact ⟨pre, env, post ++ [t], by simp, hne⟩
    · exact ⟨turns, env, [], rfl, hne⟩

/-- What holds after every run of safe programs. -/
structure Kept (K : Contract σ κ α) (handle : ε → σ → (c : C) → Reply c × σ)
    (Cond : ε → σ → C → Prop) (program : κ → CommandProgram C Reply α) (server : σ)
    (turns : List (Turn κ ε)) (st : State σ κ C Reply α) : Prop where
  /-- It is the state after the run. -/
  reached : st = after program handle server turns
  /-- The invariant holds. -/
  inv : K.Inv st.server
  /-- Only calls that were made have changed the server. -/
  made : ∀ i, Changed program handle server turns i → i < st.calls.length
  /-- Every call goes on safely. -/
  safe : ∀ i request p, st.calls[i]? = some (request, p) →
    Safe K handle Cond request (Changed program handle server turns i) p st.server

/-- The moment after the run is a moment of the longer run. -/
theorem Kept.reached_concat {st : State σ κ C Reply α}
    (h : Kept K handle Cond program server turns st) (t : Turn κ ε) :
    Interleaving.step program handle st t = after program handle server (turns ++ [t]) := by
  rw [h.reached]
  exact (run_concat _ _ turns t).symm

/-- One more moment can make a change only for the call that takes its turn. -/
theorem Kept.changed_of_concat {st : State σ κ C Reply α}
    (h : Kept K handle Cond program server turns st) {t : Turn κ ε} {i : ℕ}
    (hchanged : Changed program handle server (turns ++ [t]) i) :
    Changed program handle server turns i ∨ ∃ env, t = .turn i env ∧
      (Interleaving.step program handle st t).server ≠ st.server := by
  rw [h.reached_concat t, h.reached]
  exact (changed_concat t i).mp hchanged

/-- One more moment keeps the invariant, and leaves the server as it is or is within the guarantee
of the call that takes its turn. -/
theorem Kept.turn {st : State σ κ C Reply α} (h : Kept K handle Cond program server turns st)
    {t : Turn κ ε} (hmeets : Meets Cond turns st t) :
    K.Inv (Interleaving.step program handle st t).server ∧
      ((Interleaving.step program handle st t).server = st.server ∨
        ∃ i env request p, t = .turn i env ∧ st.calls[i]? = some (request, p) ∧
          K.guar request st.server (Interleaving.step program handle st t).server) := by
  cases t with
  | start request => exact ⟨h.inv, Or.inl rfl⟩
  | turn i env =>
    rcases hi : st.calls[i]? with _ | ⟨request, p⟩
    · rw [step_turn_none env hi]
      exact ⟨h.inv, Or.inl rfl⟩
    · rw [step_turn_some env hi]
      obtain ⟨hinv, hguar, -⟩ :=
        (h.safe i request p hi).advance h.inv fun c next hp => hmeets.of_call (hp ▸ hi)
      exact ⟨hinv, hguar.imp_right fun hguar => ⟨i, env, request, p, rfl, hi, hguar⟩⟩

/-- A turn leaves the server as it is or is within the guarantee of its call. -/
theorem Kept.guar {st : State σ κ C Reply α} (h : Kept K handle Cond program server turns st)
    {t : Turn κ ε} (hmeets : Meets Cond turns st t) :
    (Interleaving.step program handle st t).server = st.server ∨
      ∃ i env request p, t = .turn i env ∧ st.calls[i]? = some (request, p) ∧
        K.guar request st.server (Interleaving.step program handle st t).server :=
  (h.turn hmeets).2

/-- The server moves at every moment as the calls rely on. -/
theorem Kept.rely {st : State σ κ C Reply α} (h : Kept K handle Cond program server turns st)
    {t : Turn κ ε} (hmeets : Meets Cond turns st t) :
    K.rely st.server (Interleaving.step program handle st t).server := by
  rcases h.guar hmeets with hsame | ⟨i, env, request, p, -, -, hguar⟩
  · rw [hsame]
    exact K.rely_refl _
  · exact K.guar_rely hguar

/-- One more moment keeps it. -/
theorem Kept.step {st : State σ κ C Reply α} (h : Kept K handle Cond program server turns st)
    (hstart : ∀ request s, K.Inv s → Safe K handle Cond request False (program request) s)
    (t : Turn κ ε) (hmeets : Meets Cond turns st t) :
    Kept K handle Cond program server (turns ++ [t]) (step program handle st t) := by
  refine ⟨h.reached_concat t, (h.turn hmeets).1, fun i hchanged => ?_, fun i request p hcall => ?_⟩
  · refine Nat.lt_of_lt_of_le ?_ (length_le_length_step st t)
    rcases h.changed_of_concat hchanged with hbefore | ⟨env, rfl, hne⟩
    · exact h.made i hbefore
    · exact lt_length_of_step_ne hne
  · rcases call_cases hcall with ⟨hold, hother⟩ | ⟨rfl, rfl, rfl⟩ | ⟨env, q, rfl, hold, rfl⟩
    · -- The call waits while another one moves the server.
      refine ((h.safe i request p hold).of_rely (h.rely hmeets)).of_imp fun hchanged => ?_
      rcases h.changed_of_concat hchanged with hbefore | ⟨env, heq, -⟩
      · exact hbefore
      · exact absurd heq (hother env)
    · -- The new call has changed nothing.
      refine (hstart request st.server h.inv).of_imp fun hchanged => ?_
      rcases h.changed_of_concat hchanged with hbefore | ⟨env, heq, -⟩
      · exact absurd (h.made _ hbefore) (Nat.lt_irrefl _)
      · exact absurd heq (by simp)
    · -- What the turn did is known from the rest of the program that took it.
      obtain ⟨-, -, hnext⟩ :=
        (h.safe i request q hold).advance h.inv fun c next hq => hmeets.of_call (hq ▸ hold)
      rw [step_turn_some env hold]
      refine hnext.of_imp fun hchanged => ?_
      rcases h.changed_of_concat hchanged with hbefore | ⟨env', -, hne⟩
      · exact Or.inl hbefore
      · rw [step_turn_some env hold] at hne
        exact Or.inr hne

/-- A run of calls whose programs are safe at their start keeps the contract. -/
theorem safe_run (h0 : K.Inv server)
    (hstart : ∀ request s, K.Inv s → Safe K handle Cond request False (program request) s)
    (hrun : EveryStep (step program handle) ⟨server, []⟩ (Meets Cond) turns) :
    Kept K handle Cond program server turns (after program handle server turns) := by
  refine hrun.inv (I := Kept K handle Cond program server) ?_ ?_
  · refine ⟨rfl, h0, ?_, ?_⟩
    · rintro i ⟨pre, env, post, heq, -⟩
      exact absurd heq (by simp)
    · intro i request p hcall
      exact absurd hcall (by simp)
  · intro pre st t hkept hmeets
    exact hkept.step hstart t hmeets

/-- From any moment of a run to its end the server moves as the calls rely on. -/
theorem rely_of_append {pre post : List (Turn κ ε)} (h0 : K.Inv server)
    (hstart : ∀ request s, K.Inv s → Safe K handle Cond request False (program request) s)
    (hrun : EveryStep (step program handle) ⟨server, []⟩ (Meets Cond) (pre ++ post)) :
    K.rely (after program handle server pre).server
      (after program handle server (pre ++ post)).server := by
  induction post using List.reverseRecOn with
  | nil =>
    rw [List.append_nil]
    exact K.rely_refl _
  | append_singleton post t ih =>
    rw [← List.append_assoc] at hrun ⊢
    have hkept := safe_run h0 hstart hrun.of_append
    refine K.rely_trans (ih hrun.of_append) ?_
    rw [← hkept.reached_concat t]
    exact hkept.rely (hrun (pre ++ post) t [] rfl)

/-- A call that ended with a result that does not allow it has changed nothing. -/
theorem Kept.not_changed {st : State σ κ C Reply α} (h : Kept K handle Cond program server turns st)
    {i : ℕ} {a : α} (hcall : st.calls[i]? = some (request, .done a)) (hnot : ¬ K.ok a) :
    ¬ Changed program handle server turns i :=
  fun hchanged => hnot (h.safe i request _ hcall hchanged)

end MyChat.Interleaving
