import Mathlib.Data.Set.Image
import MyChat.Lib.Interleaving

/-!
# What a call has met

A call that takes turns with others often decides on what it read some turns ago. What entitles it
to a change, or to its result, is then not the server it changes but one that it met before. `Met`
is the set of servers on which a call has sent its commands, and a `Warrant` says what a call may do
to the server and how it may end, given that set and what the others leave alone.

`Warranted` says that a program keeps the warrant, whatever the others do between its commands;
`warranted_bind` composes programs, `Warranted.relay` takes a program to a larger server, and
`warranted_run` says that in every interleaving of such programs each turn is one that its call is
entitled to, by servers that this call has met.
-/

namespace MyChat.Interleaving

open Run CommandProgram

variable {σ κ ε C α β : Type} {Reply : C → Type}

/-- What a call may do, given the servers that it has met. -/
structure Warrant (σ κ α : Type) where
  /-- What the others do while a call waits for its next turn. -/
  rely : σ → σ → Prop
  /-- What a call with this request, which has met these servers, may do to the server. -/
  guar : κ → Set σ → σ → σ → Prop
  /-- The results with which it may end. -/
  ends : κ → Set σ → α → Prop
  rely_refl : ∀ s, rely s s
  rely_trans : ∀ {a b c}, rely a b → rely b c → rely a c
  guar_rely : ∀ {request met s s'}, guar request met s s' → rely s s'

/-! ## Programs -/

section Programs

variable {γ : Type} (W : Warrant σ κ γ) (handle : ε → σ → (c : C) → Reply c × σ) (request : κ)

/-- From the server `s` on, the program of a call that has met the servers `met` keeps the warrant,
and what it has met in the end, the server of its last command, and its result satisfy `Q`. -/
def Warranted (Q : Set σ → σ → α → Prop) : Set σ → CommandProgram C Reply α → σ → Prop
  | met, .done a, s => Q met s a
  | met, .call c next, s => ∀ s' env, W.rely s s' →
      W.guar request met s' (handle env s' c).2 ∧
        Warranted Q (insert s' met) (next (handle env s' c).1) (handle env s' c).2

variable {W handle request} {Q : Set σ → σ → α → Prop} {R : Set σ → σ → β → Prop} {met : Set σ}
  {p : CommandProgram C Reply α} {s s' : σ}

/-- A program that is not done stays warranted while others move the server, and one that is done
when its result does not speak of the server. -/
theorem Warranted.of_rely {E : Set σ → α → Prop}
    (h : Warranted W handle request (fun met _ => E met) met p s) (hrely : W.rely s s') :
    Warranted W handle request (fun met _ => E met) met p s' := by
  cases p with
  | done a => exact h
  | call c next => exact fun s'' env hrely' => h s'' env (W.rely_trans hrely hrely')

/-- What a program has met it has met for good, and the server has moved as the others may move
it. -/
theorem Warranted.mono {Q' : Set σ → σ → α → Prop} (h : Warranted W handle request Q met p s)
    (hQ : ∀ met' s' a, met ⊆ met' → W.rely s s' → Q met' s' a → Q' met' s' a) :
    Warranted W handle request Q' met p s := by
  induction p generalizing met s with
  | done a => exact hQ met s a subset_rfl (W.rely_refl s) h
  | call c next ih =>
    intro s' env hrely
    obtain ⟨hguar, hnext⟩ := h s' env hrely
    refine ⟨hguar, ih _ hnext fun met' s'' a hmet hrely' => ?_⟩
    have hsub : met ⊆ met' := (Set.subset_insert s' met).trans hmet
    have hrely'' : W.rely s s'' := W.rely_trans hrely (W.rely_trans (W.guar_rely hguar) hrely')
    exact hQ met' s'' a hsub hrely''

/-- One program after the other. -/
theorem warranted_bind {rest : α → CommandProgram C Reply β}
    (hp : Warranted W handle request Q met p s)
    (hrest : ∀ met' s' a, met ⊆ met' → W.rely s s' → Q met' s' a →
      Warranted W handle request R met' (rest a) s') :
    Warranted W handle request R met (p >>= rest) s := by
  induction p generalizing met s with
  | done a => exact hrest met s a subset_rfl (W.rely_refl s) hp
  | call c next ih =>
    intro s' env hrely
    obtain ⟨hguar, hnext⟩ := hp s' env hrely
    refine ⟨hguar, ih _ hnext fun met' s'' a hmet hrely' => ?_⟩
    have hsub : met ⊆ met' := (Set.subset_insert s' met).trans hmet
    have hrely'' : W.rely s s'' := W.rely_trans hrely (W.rely_trans (W.guar_rely hguar) hrely')
    exact hrest met' s'' a hsub hrely''

/-- A command that may write, before the rest of a program. -/
theorem warranted_send {c : C} {rest : Reply c → CommandProgram C Reply α}
    (h : ∀ s' env, W.rely s s' → W.guar request met s' (handle env s' c).2 ∧
      Warranted W handle request Q (insert s' met) (rest (handle env s' c).1) (handle env s' c).2) :
    Warranted W handle request Q met (.send c >>= rest) s := h

/-- A command that only reads, before the rest of a program. -/
theorem warranted_read {c : C} {rest : Reply c → CommandProgram C Reply α}
    (hread : ∀ env s, (handle env s c).2 = s) (hguar : ∀ met s, W.guar request met s s)
    (h : ∀ s' env, W.rely s s' →
      Warranted W handle request Q (insert s' met) (rest (handle env s' c).1) s') :
    Warranted W handle request Q met (.send c >>= rest) s := by
  intro s' env hrely
  rw [hread]
  exact ⟨hguar met s', h s' env hrely⟩

/-- A program for each element of a list, when what each result says is of some server that was
met. -/
theorem warranted_mapM {f : α → CommandProgram C Reply β} {P : α → β → Prop} {l : List α}
    (hf : ∀ a ∈ l, ∀ met s, Warranted W handle request (fun _ _ b => P a b) met (f a) s) :
    Warranted W handle request (fun _ _ bs => ∀ b ∈ bs, ∃ a ∈ l, P a b) met (l.mapM f) s := by
  induction l generalizing met s with
  | nil => exact fun b hb => absurd hb List.not_mem_nil
  | cons a l ih =>
    rw [List.mapM_cons]
    refine warranted_bind (hf a List.mem_cons_self met s) fun met₁ s₁ b _ _ hb => ?_
    have hl : Warranted W handle request (fun _ _ bs => ∀ b ∈ bs, ∃ a ∈ l, P a b) met₁
        (l.mapM f) s₁ := ih fun a' ha' => hf a' (List.mem_cons_of_mem a ha')
    refine warranted_bind hl fun met₂ s₂ bs _ _ hbs => ?_
    intro b' hb'
    rcases List.mem_cons.mp hb' with rfl | hmem
    · exact ⟨a, List.mem_cons_self, hb⟩
    · obtain ⟨a', ha', hP⟩ := hbs b' hmem
      exact ⟨a', List.mem_cons_of_mem a ha', hP⟩

section Relay

variable {σ' κ' ε' γ' C' : Type} {Reply' : C' → Type} {W' : Warrant σ' κ' γ'}
  {handle' : ε' → σ' → (c : C') → Reply' c × σ'} {request' : κ'} {inject : C → C'}
  {back : ∀ c, Reply' (inject c) → Reply c} {part : σ' → σ} {met' : Set σ'} {w : σ'}

/-- A program that is warranted on a part of a larger server is warranted there, when its commands
do there what they do on the part, and may do so. -/
theorem Warranted.relay (hrely : ∀ w w', W'.rely w w' → W.rely (part w) (part w'))
    (hhandle : ∀ env' w c, ∃ env, back c (handle' env' w (inject c)).1 = (handle env (part w) c).1 ∧
      part (handle' env' w (inject c)).2 = (handle env (part w) c).2)
    (hguar : ∀ env' w c met', W.guar request (part '' met') (part w)
        (part (handle' env' w (inject c)).2) →
      W'.guar request' met' w (handle' env' w (inject c)).2)
    (h : Warranted W handle request Q (part '' met') p (part w)) :
    Warranted W' handle' request' (fun met' w a => Q (part '' met') (part w) a) met'
      (p.relay inject back) w := by
  induction p generalizing met' w with
  | done a => exact h
  | call c next ih =>
    intro w' env' hrely'
    obtain ⟨env, hreply, hserver⟩ := hhandle env' w' c
    obtain ⟨hguar', hnext⟩ := h (part w') env (hrely _ _ hrely')
    refine ⟨hguar env' w' c met' (hserver ▸ hguar'), ?_⟩
    change Warranted W' handle' request' _ _
      ((next (back c (handle' env' w' (inject c)).1)).relay inject back) _
    rw [hreply]
    refine ih _ ?_
    rw [Set.image_insert_eq, hserver]
    exact hnext

end Relay

end Programs

/-! ## Runs -/

variable {program : κ → CommandProgram C Reply α} {handle : ε → σ → (c : C) → Reply c × σ}
  {server : σ} {turns : List (Turn κ ε)} {W : Warrant σ κ α}

/-- The state after one more moment. -/
theorem after_concat (t : Turn κ ε) : after program handle server (turns ++ [t]) =
    step program handle (after program handle server turns) t := run_concat _ _ turns t

/-- A request that was made stays made. -/
theorem mem_requests_concat {request : κ} (t : Turn κ ε)
    (h : request ∈ (after program handle server turns).calls.map Prod.fst) :
    request ∈ (after program handle server (turns ++ [t])).calls.map Prod.fst := by
  rw [after_concat]
  cases t with
  | start request' => exact List.map_append ▸ List.mem_append_left _ h
  | turn i env =>
    rcases hcall : (after program handle server turns).calls[i]? with _ | ⟨request', p⟩
    · rw [step_turn_none env hcall]
      exact h
    · have hmap : ∀ q, ((after program handle server turns).calls.set i (request', q)).map
          Prod.fst = (after program handle server turns).calls.map Prod.fst :=
        fun q => Slots.map_set_of_eq Prod.fst hcall rfl
      rw [step_turn_some env hcall, hmap]
      exact h

/-- The call is about to send a command. -/
def Sending (st : State σ κ C Reply α) (i : ℕ) : Prop :=
  ∃ request c next, st.calls[i]? = some (request, .call c next)

variable (program handle server turns) in
/-- The servers on which the call `i` has sent its commands. -/
def Met (i : ℕ) : Set σ :=
  {s | ∃ pre env post, turns = pre ++ .turn i env :: post ∧
    Sending (after program handle server pre) i ∧ s = (after program handle server pre).server}

/-- A call has met a server at the last turn or before it. -/
theorem mem_met_concat {t : Turn κ ε} {i : ℕ} {s : σ} :
    s ∈ Met program handle server (turns ++ [t]) i ↔
      s ∈ Met program handle server turns i ∨ ∃ env, t = .turn i env ∧
        Sending (after program handle server turns) i ∧
        s = (after program handle server turns).server := by
  constructor
  · rintro ⟨pre, env, post, heq, hsending, rfl⟩
    rcases List.eq_nil_or_concat post with rfl | ⟨post, t', rfl⟩
    · obtain ⟨rfl, hlast⟩ := List.append_inj' heq rfl
      exact Or.inr ⟨env, List.singleton_inj.mp hlast, hsending, rfl⟩
    · rw [List.concat_eq_append, ← List.cons_append, ← List.append_assoc] at heq
      obtain ⟨rfl, -⟩ := List.append_inj' heq rfl
      exact Or.inl ⟨pre, env, post, rfl, hsending, rfl⟩
  · rintro (⟨pre, env, post, rfl, hsending, rfl⟩ | ⟨env, rfl, hsending, rfl⟩)
    · exact ⟨pre, env, post ++ [t], by simp, hsending, rfl⟩
    · exact ⟨turns, env, [], rfl, hsending, rfl⟩

/-- A turn that is not the call's shows it nothing. -/
theorem met_concat_of_not_turn {t : Turn κ ε} {i : ℕ} (h : ∀ env, t ≠ .turn i env) :
    Met program handle server (turns ++ [t]) i = Met program handle server turns i := by
  ext s
  rw [mem_met_concat]
  exact or_iff_left fun ⟨env, heq, _⟩ => h env heq

/-- A command shows the call the server that it is sent to. -/
theorem met_concat_turn {i : ℕ} (env : ε) (h : Sending (after program handle server turns) i) :
    Met program handle server (turns ++ [.turn i env]) i =
      insert (after program handle server turns).server (Met program handle server turns i) := by
  ext s
  rw [mem_met_concat, Set.mem_insert_iff, or_comm]
  refine or_congr_left ⟨fun ⟨_, _, _, hs⟩ => hs, fun hs => ⟨env, rfl, h, hs⟩⟩

/-- A call that is done meets no further server. -/
theorem met_concat_done {i : ℕ} (env : ε) {request : κ} {a : α}
    (h : (after program handle server turns).calls[i]? = some (request, .done a)) :
    Met program handle server (turns ++ [.turn i env]) i = Met program handle server turns i := by
  ext s
  rw [mem_met_concat]
  refine or_iff_left ?_
  rintro ⟨_, _, ⟨request', c, next, hcall⟩, _⟩
  rw [h] at hcall
  exact nomatch hcall

/-- What holds after every run of warranted programs. -/
structure Held (W : Warrant σ κ α) (program : κ → CommandProgram C Reply α)
    (handle : ε → σ → (c : C) → Reply c × σ) (server : σ) (turns : List (Turn κ ε))
    (st : State σ κ C Reply α) : Prop where
  /-- It is the state after the run. -/
  reached : st = after program handle server turns
  /-- Only calls that were made have met a server. -/
  made : ∀ i s, s ∈ Met program handle server turns i → i < st.calls.length
  /-- Every call goes on as it may. -/
  warranted : ∀ i request p, st.calls[i]? = some (request, p) →
    Warranted W handle request (fun met _ => W.ends request met)
      (Met program handle server turns i) p st.server

/-- The server stays as it is, or the call whose turn it is does what it may. -/
def Entitled (W : Warrant σ κ α) (program : κ → CommandProgram C Reply α)
    (handle : ε → σ → (c : C) → Reply c × σ) (server : σ) (turns : List (Turn κ ε))
    (t : Turn κ ε) : Prop :=
  (after program handle server (turns ++ [t])).server = (after program handle server turns).server ∨
    ∃ i env request p, t = .turn i env ∧
      (after program handle server turns).calls[i]? = some (request, p) ∧
      W.guar request (Met program handle server turns i) (after program handle server turns).server
        (after program handle server (turns ++ [t])).server

/-- One more moment is one that some call is entitled to. -/
theorem Held.entitled {st : State σ κ C Reply α} (h : Held W program handle server turns st)
    (t : Turn κ ε) : Entitled W program handle server turns t := by
  unfold Entitled
  rw [after_concat, ← h.reached]
  cases t with
  | start request => exact Or.inl rfl
  | turn i env =>
    rcases hi : st.calls[i]? with _ | ⟨request, _ | ⟨c, next⟩⟩
    · rw [step_turn_none env hi]
      exact Or.inl rfl
    · rw [step_turn_some env hi]
      exact Or.inl rfl
    · rw [step_turn_some env hi]
      obtain ⟨hguar, -⟩ := h.warranted i request _ hi st.server env (W.rely_refl _)
      exact Or.inr ⟨i, env, request, _, rfl, hi, hguar⟩

/-- A move that some call is entitled to is one that the others rely on. -/
theorem Entitled.rely {t : Turn κ ε} (h : Entitled W program handle server turns t) :
    W.rely (after program handle server turns).server
      (after program handle server (turns ++ [t])).server := by
  rcases h with hsame | ⟨i, env, request, p, -, -, hguar⟩
  · rw [hsame]
    exact W.rely_refl _
  · exact W.guar_rely hguar

/-- One more moment keeps it. -/
theorem Held.step {st : State σ κ C Reply α} (h : Held W program handle server turns st)
    (hstart : ∀ request s, Warranted W handle request (fun met _ => W.ends request met) ∅
      (program request) s) (t : Turn κ ε) :
    Held W program handle server (turns ++ [t]) (step program handle st t) := by
  have hreached : Interleaving.step program handle st t =
      after program handle server (turns ++ [t]) := by
    rw [after_concat, h.reached]
  have hrely : W.rely st.server (Interleaving.step program handle st t).server := by
    rw [hreached, h.reached]
    exact (h.entitled t).rely
  refine ⟨hreached, fun i s hs => ?_, fun i request p hcall => ?_⟩
  · refine Nat.lt_of_lt_of_le ?_ (length_le_length_step st t)
    rcases mem_met_concat.mp hs with hold | ⟨env, -, ⟨request, c, next, hcall⟩, -⟩
    · exact h.made i s hold
    · rw [← h.reached] at hcall
      exact (List.getElem?_eq_some_iff.mp hcall).1
  · rcases call_cases hcall with ⟨hold, hother⟩ | ⟨rfl, rfl, rfl⟩ | ⟨env, q, rfl, hold, rfl⟩
    · -- The call waits while another one moves the server.
      rw [met_concat_of_not_turn hother]
      exact (h.warranted i request p hold).of_rely hrely
    · -- The new call has met nothing.
      have hempty : Met program handle server turns st.calls.length = ∅ := by
        rw [Set.eq_empty_iff_forall_notMem]
        exact fun s hs => absurd (h.made _ s hs) (Nat.lt_irrefl _)
      rw [met_concat_of_not_turn fun env => by simp, hempty]
      exact hstart request _
    · rw [step_turn_some env hold]
      cases q with
      | done a =>
        rw [met_concat_done env (h.reached ▸ hold)]
        exact h.warranted i request _ hold
      | call c next =>
        -- What the turn showed is the server that its command was sent to.
        rw [met_concat_turn env (h.reached ▸ ⟨request, c, next, hold⟩), ← h.reached]
        exact (h.warranted i request _ hold st.server env (W.rely_refl _)).2

/-- A run of calls whose programs are warranted at their start. -/
theorem warranted_run (hstart : ∀ request s, Warranted W handle request
      (fun met _ => W.ends request met) ∅ (program request) s) (turns : List (Turn κ ε)) :
    Held W program handle server turns (after program handle server turns) := by
  induction turns using List.reverseRecOn with
  | nil =>
    refine ⟨rfl, ?_, ?_⟩
    · rintro i s ⟨pre, env, post, heq, -⟩
      exact absurd heq (by simp)
    · exact fun i request p hcall => absurd hcall (by simp)
  | append_singleton turns t ih =>
    rw [after_concat]
    exact ih.step hstart t

/-- From any moment of a run to its end the server moves as the calls rely on. -/
theorem warranted_rely (hstart : ∀ request s, Warranted W handle request
      (fun met _ => W.ends request met) ∅ (program request) s) (pre post : List (Turn κ ε)) :
    W.rely (after program handle server pre).server
      (after program handle server (pre ++ post)).server := by
  induction post using List.reverseRecOn with
  | nil =>
    rw [List.append_nil]
    exact W.rely_refl _
  | append_singleton post t ih =>
    rw [← List.append_assoc]
    exact W.rely_trans ih ((warranted_run hstart (pre ++ post)).entitled t).rely

/-- What was met has become what the server is now. -/
theorem rely_of_mem_met (hstart : ∀ request s, Warranted W handle request
      (fun met _ => W.ends request met) ∅ (program request) s) {i : ℕ} {s : σ}
    (hs : s ∈ Met program handle server turns i) :
    W.rely s (after program handle server turns).server := by
  obtain ⟨pre, env, post, rfl, -, rfl⟩ := hs
  exact warranted_rely hstart pre (.turn i env :: post)

/-- A call that is done has a result that it may end with. -/
theorem Held.ends {st : State σ κ C Reply α} (h : Held W program handle server turns st) {i : ℕ}
    {request : κ} {a : α} (hcall : st.calls[i]? = some (request, .done a)) :
    W.ends request (Met program handle server turns i) a :=
  h.warranted i request _ hcall

end MyChat.Interleaving
