import MyChat.Lib.CommandProgram

/-!
# Programs whose commands throw

A command to a server over a network may fail: the server has not done it, or it has done it and its
reply is lost. Either way the caller gets an exception. A `Throwing` program ends with the first
exception, and `swallow` is the program that catches it and goes on with a default. What becomes of
a command goes by its number, as in `handleAt`.

`exec_attempt_eq_some` is the rule for a result: a program has one only when each command on the way
to it was answered.
-/

namespace MyChat.CommandProgram

variable {C : Type} {Result : C → Type} {α β σ : Type}

/-- What becomes of a command. -/
inductive Fate where
  /-- The server does it, and the caller gets the result. -/
  | answered
  /-- The server does it, and the caller gets an exception. -/
  | lost
  /-- The server does not do it, and the caller gets an exception. -/
  | refused
  deriving DecidableEq, Repr

/-- What a server that does commands as `perform` says makes of a command with the fate; `none` for
an exception. -/
def handleFate (perform : σ → (c : C) → Result c × σ) (fate : Fate) (s : σ) (c : C) :
    Option (Result c) × σ :=
  match fate with
  | .answered => (some (perform s c).1, (perform s c).2)
  | .lost => (none, (perform s c).2)
  | .refused => (none, s)

/-- A program that ends with the first exception. -/
abbrev Throwing (C : Type) (Result : C → Type) (α : Type) :=
  OptionT (CommandProgram C fun c => Option (Result c)) α

/-- A command is sent, and its exception ends the program. -/
def attempt (c : C) : Throwing C Result (Result c) := OptionT.mk (send c)

/-- An exception is thrown unless the condition holds. -/
def require (condition : Bool) : Throwing C Result Unit :=
  if condition then pure () else failure

/-- An exception is caught, and the program goes on with the default. -/
def swallow (default : α) (p : Throwing C Result α) :
    CommandProgram C (fun c => Option (Result c)) α :=
  p.run >>= fun result => pure (result.getD default)

variable (perform : σ → (c : C) → Result c × σ) (fate : ℕ → Fate)

/-- The run of a program on a server whose commands have these fates. -/
abbrev execFate (p : CommandProgram C (fun c => Option (Result c)) α) (w : σ × ℕ) : α × σ × ℕ :=
  p.exec (handleAt (handleFate perform) fate) w

/-- So many commands from this one on are answered. -/
def AnsweredFrom (fate : ℕ → Fate) (n count : ℕ) : Prop :=
  ∀ i < count, fate (n + i) = .answered

instance (fate : ℕ → Fate) (n count : ℕ) : Decidable (AnsweredFrom fate n count) :=
  inferInstanceAs (Decidable (∀ i < count, fate (n + i) = .answered))

variable {fate} in
theorem answeredFrom_succ {n count : ℕ} : AnsweredFrom fate n (count + 1) ↔
    fate n = .answered ∧ AnsweredFrom fate (n + 1) count := by
  constructor
  · intro h
    exact ⟨h 0 (Nat.succ_pos count), fun i hi => by
      rw [Nat.add_assoc, Nat.add_comm 1]
      exact h (i + 1) (by omega)⟩
  · rintro ⟨hfirst, hrest⟩ i hi
    rcases i with _ | i
    · exact hfirst
    · rw [Nat.add_comm i 1, ← Nat.add_assoc]
      exact hrest i (by omega)

variable {fate} in
theorem answeredFrom_zero {n : ℕ} : AnsweredFrom fate n 0 := fun i hi => absurd hi (Nat.not_lt_zero i)

variable {perform fate} {s : σ} {n : ℕ} {a : α}

/-- A command and what follows it: after an exception nothing does. -/
theorem run_attempt_bind (c : C) (rest : Result c → Throwing C Result α) :
    (attempt c >>= rest).run = call c fun reply =>
      match reply with
      | some result => (rest result).run
      | none => done none := by
  -- The bind of `OptionT` asks whether there was an exception, which is what the program does here.
  show call c _ = call c _
  congr 1
  funext reply
  cases reply with
  | none => rfl
  | some result => rfl

/-- After a command that is answered the program goes on with its result. -/
theorem exec_attempt_of_answered (c : C) (rest : Result c → Throwing C Result α)
    (h : fate n = .answered) :
    execFate perform fate (attempt c >>= rest).run (s, n) =
      execFate perform fate (rest (perform s c).1).run ((perform s c).2, n + 1) := by
  rw [run_attempt_bind]
  simp only [execFate, exec_call, handleAt, handleFate, h]

/-- After one that is not answered it has no result. -/
theorem exec_attempt_of_not_answered (c : C) (rest : Result c → Throwing C Result α)
    (h : fate n ≠ .answered) :
    (execFate perform fate (attempt c >>= rest).run (s, n)).1 = none := by
  rw [run_attempt_bind]
  rcases hfate : fate n with _ | _ | _
  · exact absurd hfate h
  · simp only [execFate, exec_call, handleAt, handleFate, hfate, exec_done]
  · simp only [execFate, exec_call, handleAt, handleFate, hfate, exec_done]

/-- A program has a result exactly when its first command is answered, and what follows has it. -/
theorem exec_attempt_eq_some (c : C) (rest : Result c → Throwing C Result α) :
    (execFate perform fate (attempt c >>= rest).run (s, n)).1 = some a ↔
      fate n = .answered ∧
        (execFate perform fate (rest (perform s c).1).run ((perform s c).2, n + 1)).1 = some a := by
  by_cases h : fate n = .answered
  · rw [exec_attempt_of_answered c rest h, and_iff_right h]
  · rw [exec_attempt_of_not_answered c rest h]
    exact iff_of_false (by simp) fun hanswered => h hanswered.1

/-- A command that is the last of a program. -/
theorem exec_attempt (c : C) :
    (execFate perform fate (attempt c).run (s, n)).1 =
      if fate n = .answered then some (perform s c).1 else none := by
  show (handleAt (handleFate perform) fate (s, n) c).1 = _
  simp only [handleAt, handleFate]
  rcases fate n with _ | _ | _
  · rfl
  · rfl
  · rfl

/-- A program that throws nothing, and what follows it. -/
theorem run_lift_bind (p : CommandProgram C (fun c => Option (Result c)) β)
    (rest : β → Throwing C Result α) :
    (OptionT.lift p >>= rest).run = p >>= fun b => (rest b).run := by
  simp only [OptionT.run_bind, OptionT.run_lift, Option.elimM]
  rw [bind_assoc]
  rfl

/-- A condition that holds is passed. -/
theorem run_require_bind_true (rest : Unit → Throwing C Result α) :
    ((require true : Throwing C Result Unit) >>= rest).run = (rest ()).run := rfl

/-- At one that does not hold the program ends. -/
theorem run_require_bind_false (rest : Unit → Throwing C Result α) :
    ((require false : Throwing C Result Unit) >>= rest).run = done none := rfl

/-- What a program that catches its exception has as its result. -/
theorem exec_swallow (b : α) (p : Throwing C Result α) (w : σ × ℕ) :
    execFate perform fate (swallow b p) w =
      ((execFate perform fate p.run w).1.getD b, (execFate perform fate p.run w).2) := by
  unfold swallow
  rw [execFate, exec_bind]
  rfl

end MyChat.CommandProgram
