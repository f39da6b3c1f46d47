import Mathlib.Data.Nat.Notation
import Mathlib.Logic.Basic

/-!
# Programs that send commands

A `CommandProgram` sends commands to a server and goes on with their replies, until it is done with
a result. It is a tree, so that one text of a program has two readings: `exec` runs it to its end on
a server that answers nobody else meanwhile, and `advance` lets it send one command, so that several
programs can take turns. `exec_mono` is the rule for what no command takes away, `Sends.exec_inv`
the rule for an invariant that the commands of one program keep, `Returns.exec` the rule for its
results, `Reads` says that a program changes nothing, and `relay` sends its commands to a server of
which theirs is a part.
-/

namespace MyChat

/-- A program over the commands `C`, with a type of replies for each. -/
inductive CommandProgram (C : Type) (Reply : C → Type) (α : Type) where
  /-- The program is done. -/
  | done (a : α)
  /-- A command is sent, and its reply decides how the program goes on. -/
  | call (c : C) (next : Reply c → CommandProgram C Reply α)

namespace CommandProgram

variable {C : Type} {Reply : C → Type} {α β σ : Type}

/-- One program after the other. -/
def bind : CommandProgram C Reply α → (α → CommandProgram C Reply β) → CommandProgram C Reply β
  | done a, rest => rest a
  | call c next, rest => call c fun reply => (next reply).bind rest

instance : Monad (CommandProgram C Reply) where
  pure := done
  bind := bind

/-- The program that sends one command and has its reply as the result. -/
def send (c : C) : CommandProgram C Reply (Reply c) := call c done

@[simp] theorem pure_eq (a : α) : (pure a : CommandProgram C Reply α) = done a := rfl

@[simp] theorem done_bind (a : α) (rest : α → CommandProgram C Reply β) :
    done a >>= rest = rest a := rfl

@[simp] theorem call_bind (c : C) (next : Reply c → CommandProgram C Reply α)
    (rest : α → CommandProgram C Reply β) :
    call c next >>= rest = call c fun reply => next reply >>= rest := rfl

/-- What follows two programs follows the second. -/
theorem bind_assoc {γ : Type} (p : CommandProgram C Reply α) (next : α → CommandProgram C Reply β)
    (rest : β → CommandProgram C Reply γ) :
    p >>= next >>= rest = p >>= fun a => next a >>= rest := by
  induction p with
  | done a => rfl
  | call c follow ih =>
    rw [call_bind, call_bind, call_bind]
    exact congrArg (call c) (funext ih)

/-- A program whose result is only passed on. -/
theorem bind_done (p : CommandProgram C Reply α) : p >>= done = p := by
  induction p with
  | done a => rfl
  | call c next ih =>
    rw [call_bind]
    exact congrArg (call c) (funext ih)

instance : LawfulMonad (CommandProgram C Reply) :=
  LawfulMonad.mk' _ bind_done (fun _ _ => rfl) bind_assoc

section Server

variable (handle : σ → (c : C) → Reply c × σ)

/-- The result of a program that runs to its end, and the server after it. -/
def exec : CommandProgram C Reply α → σ → α × σ
  | done a, s => (a, s)
  | call c next, s => (next (handle s c).1).exec (handle s c).2

/-- One command of a program. -/
def advance : CommandProgram C Reply α → σ → CommandProgram C Reply α × σ
  | done a, s => (done a, s)
  | call c next, s => (next (handle s c).1, (handle s c).2)

variable {handle} {s : σ}

@[simp] theorem exec_done (a : α) :
    (done a : CommandProgram C Reply α).exec handle s = (a, s) := rfl

@[simp] theorem exec_call (c : C) (next : Reply c → CommandProgram C Reply α) :
    (call c next).exec handle s = (next (handle s c).1).exec handle (handle s c).2 := rfl

@[simp] theorem exec_send (c : C) :
    (send c : CommandProgram C Reply (Reply c)).exec handle s = handle s c := rfl

/-- One program after the other runs on the server that the first left. -/
@[simp] theorem exec_bind (p : CommandProgram C Reply α) (rest : α → CommandProgram C Reply β) :
    (p >>= rest).exec handle s = (rest (p.exec handle s).1).exec handle (p.exec handle s).2 := by
  induction p generalizing s with
  | done a => rfl
  | call c next ih => exact ih (handle s c).1

/-- What every command keeps of the server, or lets grow, a program keeps. -/
theorem exec_mono {R : σ → σ → Prop} (hrefl : ∀ s, R s s) (htrans : ∀ a b c, R a b → R b c → R a c)
    (hhandle : ∀ s c, R s (handle s c).2) (p : CommandProgram C Reply α) :
    R s (p.exec handle s).2 := by
  induction p generalizing s with
  | done a => exact hrefl s
  | call c next ih => exact htrans _ _ _ (hhandle s c) (ih (handle s c).1)

/-- Every command that the program can send satisfies `P`. -/
def Sends (P : C → Prop) : CommandProgram C Reply α → Prop
  | done _ => True
  | call c next => P c ∧ ∀ reply, Sends P (next reply)

@[simp] theorem sends_done {P : C → Prop} (a : α) :
    (done a : CommandProgram C Reply α).Sends P := trivial

@[simp] theorem sends_send {P : C → Prop} (c : C) :
    (send c : CommandProgram C Reply (Reply c)).Sends P ↔ P c :=
  and_iff_left fun _ => trivial

/-- One program after the other sends what the two send. -/
theorem Sends.bind {P : C → Prop} {p : CommandProgram C Reply α}
    {rest : α → CommandProgram C Reply β} (hp : p.Sends P) (hrest : ∀ a, (rest a).Sends P) :
    (p >>= rest).Sends P := by
  induction p with
  | done a => exact hrest a
  | call c next ih => exact ⟨hp.1, fun reply => ih reply (hp.2 reply)⟩

/-- An invariant that the commands of a program keep holds after it. -/
theorem Sends.exec_inv {P : C → Prop} {Inv : σ → Prop} {p : CommandProgram C Reply α}
    (hp : p.Sends P) (hkeeps : ∀ s c, P c → Inv s → Inv (handle s c).2) (hs : Inv s) :
    Inv (p.exec handle s).2 := by
  induction p generalizing s with
  | done a => exact hs
  | call c next ih => exact ih (handle s c).1 (hp.2 _) (hkeeps s c hp.1 hs)

/-- Whatever the replies, the result of the program satisfies `Q`. -/
def Returns (Q : α → Prop) : CommandProgram C Reply α → Prop
  | done a => Q a
  | call _ next => ∀ reply, Returns Q (next reply)

/-- What returns last decides. -/
theorem Returns.bind {Q : β → Prop} (p : CommandProgram C Reply α)
    {rest : α → CommandProgram C Reply β} (hrest : ∀ a, (rest a).Returns Q) :
    (p >>= rest).Returns Q := by
  induction p with
  | done a => exact hrest a
  | call c next ih => exact fun reply => ih reply

/-- What either branch returns. -/
theorem Returns.ite {Q : α → Prop} {cond : Prop} [Decidable cond] {p q : CommandProgram C Reply α}
    (hp : cond → p.Returns Q) (hq : ¬ cond → q.Returns Q) : (if cond then p else q).Returns Q := by
  by_cases h : cond
  · rw [if_pos h]
    exact hp h
  · rw [if_neg h]
    exact hq h

/-- The result of a run is one that the program returns. -/
theorem Returns.exec {Q : α → Prop} {p : CommandProgram C Reply α} (hp : p.Returns Q) :
    Q (p.exec handle s).1 := by
  induction p generalizing s with
  | done a => exact hp
  | call c next ih => exact ih (handle s c).1 (hp _)

variable (handle) in
/-- The program changes nothing of the server. -/
def Reads (p : CommandProgram C Reply α) : Prop := ∀ s, (p.exec handle s).2 = s

theorem reads_done (a : α) : Reads handle (done a : CommandProgram C Reply α) := fun _ => rfl

variable {p : CommandProgram C Reply α} {rest : α → CommandProgram C Reply β}

/-- What follows a program that reads starts where it started. -/
theorem Reads.exec_bind (h : Reads handle p) :
    (p >>= rest).exec handle s = (rest (p.exec handle s).1).exec handle s := by
  rw [CommandProgram.exec_bind, h s]

/-- One reading program after the other. -/
theorem Reads.bind (h : Reads handle p) (hrest : ∀ a, Reads handle (rest a)) :
    Reads handle (p >>= rest) := by
  intro s
  rw [h.exec_bind]
  exact hrest _ s

/-- A reading program for each element of a list: each starts where the first started. -/
theorem exec_mapM {f : α → CommandProgram C Reply β} (h : ∀ a, Reads handle (f a)) (l : List α) :
    (l.mapM f).exec handle s = (l.map fun a => ((f a).exec handle s).1, s) := by
  induction l with
  | nil => rfl
  | cons a l ih =>
    rw [List.mapM_cons, (h a).exec_bind, CommandProgram.exec_bind, ih]
    rfl

/-- A reading program for each element of a list reads. -/
theorem reads_mapM {f : α → CommandProgram C Reply β} (h : ∀ a, Reads handle (f a)) (l : List α) :
    Reads handle (l.mapM f) := fun _ => congrArg Prod.snd (exec_mapM h l)

end Server

/-! ## Programs that another server takes part in -/

section Relay

variable {C' : Type} {Reply' : C' → Type} (inject : C → C') (back : ∀ c, Reply' (inject c) → Reply c)

/-- The program over the commands of a larger server. -/
def relay : CommandProgram C Reply α → CommandProgram C' Reply' α
  | done a => done a
  | call c next => call (inject c) fun reply => (next (back c reply)).relay

variable {inject back}

/-- One program after the other is relayed one after the other. -/
theorem relay_bind (p : CommandProgram C Reply α) (rest : α → CommandProgram C Reply β) :
    (p >>= rest).relay inject back = p.relay inject back >>= fun a => (rest a).relay inject back := by
  induction p with
  | done a => rfl
  | call c next ih =>
    rw [call_bind]
    exact congrArg (call (inject c)) (funext fun reply => ih (back c reply))

end Relay

/-! ## Commands that the outside has a say in -/

section Outside

variable {ε : Type} (handle : ε → σ → (c : C) → Reply c × σ) (outside : ℕ → ε)

/-- The server with the number of commands that it has handled: what the outside does to a command
goes by its number. -/
def handleAt (w : σ × ℕ) (c : C) : Reply c × σ × ℕ :=
  ((handle (outside w.2) w.1 c).1, (handle (outside w.2) w.1 c).2, w.2 + 1)

/-- The server, when what the outside does to a command goes by the command. -/
def handleBy (outsideOf : C → ε) (s : σ) (c : C) : Reply c × σ := handle (outsideOf c) s c

/-- The result of a program that is the first to send commands, and the server after it. -/
def runAt (p : CommandProgram C Reply α) (s : σ) : α × σ :=
  ((p.exec (handleAt handle outside) (s, 0)).1, (p.exec (handleAt handle outside) (s, 0)).2.1)

end Outside

end CommandProgram

end MyChat
