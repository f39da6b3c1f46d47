import MyChat.Lib.Interleaving
import MyChat.Social.Stores

/-!
# Updates of one user row

`UserRepository::update_last_login` and `update_profile` on the row of one uid, statement by
statement: a transaction loads the whole row and writes the whole row back. At PostgreSQL's default
isolation, `READ COMMITTED`, another transaction may commit between the two, and what it wrote is
then written over with what was loaded before (`lost_update`).

`noLostUpdate` says when that does not happen: as long as no transaction of the other kind commits
between the load and the write of one that commits, the row ends with the values of one of the
logins and of one of the profile changes, and neither reverts the other. Transactions of one kind
may commit in between, since they write back the other columns as they are.
-/

namespace MyChat.Social

open Run Interleaving UserRepository

/-- A statement of a transaction on the row. -/
inductive RowStatement where
  /-- `db_->load<User>(uid)`. -/
  | load
  /-- `db_->update(*user)` and the commit. -/
  | store (user : User)
  deriving DecidableEq, Repr

/-- What a statement returns. -/
abbrev RowStatement.Reply : RowStatement → Type
  | .load => Option User
  | .store _ => Bool

/-- The statement on the row; one that fails changes nothing. -/
def handleRow (ok : Bool) (row : Option User) : (c : RowStatement) → c.Reply × Option User
  | .load => (if ok then row else none, row)
  | .store user => if ok ∧ row.isSome then (true, some user) else (false, row)

/-- The statement as a program. -/
abbrev rowStatement (c : RowStatement) : CommandProgram RowStatement RowStatement.Reply c.Reply :=
  .send c

/-- A call of `update_last_login` or `update_profile`. -/
inductive UserUpdate where
  /-- `update_last_login`. -/
  | login (lastLogin : ℤ)
  /-- `update_profile`. -/
  | profile (nickname avatar : String) (gender : Gender) (signature : String)
  deriving DecidableEq, Repr

/-- The change that the call makes to the row that it loaded. -/
def UserUpdate.apply : UserUpdate → User → User
  | .login lastLogin => setLastLogin lastLogin
  | .profile nickname avatar gender signature => setProfile nickname avatar gender signature

/-- What is left of a call. -/
abbrev RowProgram := CommandProgram RowStatement RowStatement.Reply (Option User)

/-- What is left of a call once it has loaded the row. -/
def UserUpdate.writing (update : UserUpdate) (loaded : User) : RowProgram := do
  let stored ← rowStatement (.store (update.apply loaded))
  if stored then return some (update.apply loaded) else return none

/-- The transaction of a call: the row that it wrote, `none` when it fails. -/
def UserUpdate.program (update : UserUpdate) : RowProgram := do
  match ← rowStatement .load with
  | none => return none
  | some loaded => update.writing loaded

/-! ## The repository's transactions -/

/-- The row of a uid. -/
def Users.row (users : Users) (uid : String) : Option User :=
  users.rows.find? fun user => user.uid = uid

/-- The row after an update of the table. -/
theorem Users.row_update (users : Users) (uid : String) (f : User → User)
    (huid : ∀ user, (f user).uid = user.uid) (haccount : ∀ user, (f user).account = user.account) :
    (users.update uid f huid haccount).row uid = (users.row uid).map f := by
  have hfind : ∀ rows : List User,
      (rows.map fun user => if user.uid = uid then f user else user).find?
        (fun user => user.uid = uid) = (rows.find? fun user => user.uid = uid).map f := by
    intro rows
    induction rows with
    | nil => rfl
    | cons user rows ih =>
      by_cases h : user.uid = uid
      · simp [h, huid]
      · simpa [h] using ih
  exact hfind users.rows

theorem Users.isSome_row (users : Users) (uid : String) :
    (users.row uid).isSome ↔ uid ∈ users.rows.map User.uid := by
  unfold Users.row
  rw [List.find?_isSome]
  simp

/-- Without another transaction in between, the two statements of a call change the row once. -/
theorem exec_program (update : UserUpdate) (ok : Bool) (row : Option User) :
    update.program.exec (handleRow ok) row =
      if ok then (row.map update.apply, row.map update.apply) else (none, row) := by
  cases ok with
  | false => rfl
  | true =>
    cases row with
    | none => rfl
    | some user => rfl

/-- `update_last_login` of the repository is the call on the row of the uid. -/
theorem exec_login (tx : Tx) (users : Users) (uid : String) (lastLogin : ℤ) :
    (UserUpdate.login lastLogin).program.exec (handleRow tx.commits) (users.row uid) =
      (if (updateLastLogin tx users uid lastLogin).1 then
          (updateLastLogin tx users uid lastLogin).2.row uid else none,
        (updateLastLogin tx users uid lastLogin).2.row uid) := by
  rw [exec_program]
  unfold updateLastLogin
  rcases hcommits : tx.commits with _ | _
  · simp
  · have hmem := users.isSome_row uid
    rcases hrow : users.row uid with _ | user
    · have hnot : uid ∉ users.rows.map User.uid := by simpa [hrow] using hmem
      simp [hnot, hrow]
    · have hin : uid ∈ users.rows.map User.uid := by simpa [hrow] using hmem
      simp [hin, Users.row_update, hrow, UserUpdate.apply]

/-- `update_profile` of the repository is the call on the row of the uid. -/
theorem exec_profile (tx : Tx) (users : Users) (uid nickname avatar : String) (gender : Gender)
    (signature : String) :
    (UserUpdate.profile nickname avatar gender signature).program.exec (handleRow tx.commits)
        (users.row uid) =
      ((updateProfile tx users uid nickname avatar gender signature).1,
        (updateProfile tx users uid nickname avatar gender signature).2.row uid) := by
  rw [exec_program]
  unfold updateProfile
  rcases hcommits : tx.commits with _ | _
  · simp
  · rcases hrow : users.row uid with _ | user
    · have hfind : users.rows.find? (fun user => user.uid = uid) = none := hrow
      simp [hfind, hrow]
    · have hfind : users.rows.find? (fun user => user.uid = uid) = some user := hrow
      simp [hfind, Users.row_update, hrow, UserUpdate.apply]

/-! ## Runs -/

/-- The columns that `update_profile` sets. -/
def User.profileColumns (user : User) : String × String × Gender × String :=
  (user.nickname, user.avatar, user.gender, user.signature)

/-- The columns that the call does not set are those of the row. -/
def UserUpdate.Keeps : UserUpdate → User → User → Prop
  | .login _, row, written => written.profileColumns = row.profileColumns
  | .profile _ _ _ _, row, written => written.lastLogin = row.lastLogin

instance : (update : UserUpdate) → (row written : User) → Decidable (update.Keeps row written)
  | .login _, _, _ => inferInstanceAs (Decidable (_ = _))
  | .profile _ _ _ _, _, _ => inferInstanceAs (Decidable (_ = _))

/-- The calls on the row, and the row. -/
abbrev RowState :=
  State (Option User) UserUpdate RowStatement RowStatement.Reply (Option User)

/-- The row and the calls after the turns; a turn says whether its statement succeeds. -/
abbrev rowAfter (user : User) (turns : List (Turn UserUpdate Bool)) : RowState :=
  after UserUpdate.program handleRow (some user) turns

/-- The call is `update_last_login`. -/
def UserUpdate.isLogin : UserUpdate → Bool
  | .login _ => true
  | .profile _ _ _ _ => false

/-- At this moment the call loads the row. -/
def Loads (s : RowState) (i : ℕ) : Turn UserUpdate Bool → Prop
  | .start _ => False
  | .turn j _ => j = i ∧ ∃ update next, s.calls[i]? = some (update, .call .load next)

/-- At this moment a call of the other kind writes the row and commits. -/
def CommitsOther (update : UserUpdate) (s : RowState) : Turn UserUpdate Bool → Prop
  | .start _ => False
  | .turn j ok => ok = true ∧ ∃ other written next,
      s.calls[j]? = some (other, .call (.store written) next) ∧ other.isLogin ≠ update.isLogin

/-- When a call writes the row and commits, no call of the other kind has committed since it loaded
the row. -/
def Undisturbed (user : User) (turns : List (Turn UserUpdate Bool)) (s : RowState) :
    Turn UserUpdate Bool → Prop
  | .start _ => True
  | .turn i ok => ok = true → ∀ update written next,
      s.calls[i]? = some (update, .call (.store written) next) →
      ∀ before t since, turns = before ++ t :: since → Loads (rowAfter user before) i t →
        EveryStep (step UserUpdate.program handleRow) (rowAfter user (before ++ [t]))
          (fun _ s' t' => ¬ CommitsOther update s' t') since

/-- The calls that were made. -/
def requests (s : RowState) : List UserUpdate := s.calls.map Prod.fst

/-- No call's update is lost to a call of the other kind. -/
structure NoLostUpdate (user : User) (turns : List (Turn UserUpdate Bool)) : Prop where
  /-- When all calls report success, the row has the time of one of the logins and the profile of
  one of the profile changes. -/
  final : (∀ call ∈ (rowAfter user turns).calls, ∃ written, call.2 = .done (some written)) →
    ∃ row, (rowAfter user turns).server = some row ∧
      ((∃ time, .login time ∈ requests (rowAfter user turns)) →
        .login row.lastLogin ∈ requests (rowAfter user turns)) ∧
      ((∃ nickname avatar gender signature,
          .profile nickname avatar gender signature ∈ requests (rowAfter user turns)) →
        .profile row.nickname row.avatar row.gender row.signature ∈
          requests (rowAfter user turns))
  /-- The turn of a call leaves the columns that the call does not set. -/
  keeps : ∀ pre i ok post, turns = pre ++ .turn i ok :: post → ∀ update p,
    (rowAfter user pre).calls[i]? = some (update, p) →
    ∀ row row', (rowAfter user pre).server = some row →
      (rowAfter user (pre ++ [.turn i ok])).server = some row' → update.Keeps row row'

/-- What is left of a call: all of it, the write of the row that it loaded, or nothing. -/
def Shape (update : UserUpdate) (p : RowProgram) : Prop :=
  p = update.program ∨ (∃ loaded, p = update.writing loaded) ∨ ∃ result, p = .done result

theorem UserUpdate.Keeps.refl (update : UserUpdate) (row : User) : update.Keeps row row := by
  cases update <;> rfl

/-- The turn in which a call loads the row. -/
theorem advance_program (update : UserUpdate) (ok : Bool) (row : Option User) :
    update.program.advance (handleRow ok) row =
      (match if ok then row else none with
        | none => CommandProgram.done none
        | some loaded => update.writing loaded, row) := by
  cases ok with
  | false => rfl
  | true => cases row <;> rfl

/-- The turn in which a call writes the row. -/
theorem advance_writing (update : UserUpdate) (loaded : User) (ok : Bool) (row : Option User) :
    (update.writing loaded).advance (handleRow ok) row =
      if ok ∧ row.isSome then
        (CommandProgram.done (some (update.apply loaded)), some (update.apply loaded))
      else (CommandProgram.done none, row) := by
  cases ok with
  | false => rfl
  | true => cases row <;> rfl

/-- What one turn of a call does: it changes nothing and does not succeed, or it writes the row. -/
theorem turn_cases (ok : Bool) (row : Option User) {update : UserUpdate}
    {p : RowProgram} (h : Shape update p) :
    Shape update (p.advance (handleRow ok) row).1 ∧
      (((p.advance (handleRow ok) row).2 = row ∧
          ∀ written, (p.advance (handleRow ok) row).1 = .done (some written) →
            p = .done (some written)) ∨
        ∃ loaded next, p = .call (.store (update.apply loaded)) next ∧ ok = true ∧ row.isSome ∧
          (p.advance (handleRow ok) row).2 = some (update.apply loaded)) := by
  rcases h with rfl | ⟨loaded, rfl⟩ | ⟨result, rfl⟩
  · rw [advance_program]
    rcases (if ok then row else none) with _ | loaded
    · exact ⟨Or.inr (Or.inr ⟨none, rfl⟩), Or.inl ⟨rfl, fun written h => absurd h (by simp)⟩⟩
    · exact ⟨Or.inr (Or.inl ⟨loaded, rfl⟩), Or.inl ⟨rfl, fun written h => nomatch h⟩⟩
  · rw [advance_writing]
    by_cases hstored : ok = true ∧ row.isSome
    · rw [if_pos hstored]
      exact ⟨Or.inr (Or.inr ⟨_, rfl⟩), Or.inr ⟨loaded, _, rfl, hstored.1, hstored.2, rfl⟩⟩
    · rw [if_neg hstored]
      exact ⟨Or.inr (Or.inr ⟨none, rfl⟩), Or.inl ⟨rfl, fun written h => absurd h (by simp)⟩⟩
  · exact ⟨Or.inr (Or.inr ⟨result, rfl⟩), Or.inl ⟨rfl, fun written h => h⟩⟩

/-- What holds after every run in which the columns are still as they were loaded. -/
structure RowKept (s : RowState) : Prop where
  /-- The row is there. -/
  present : ∃ row, s.server = some row
  /-- The calls have one of the three shapes. -/
  shape : ∀ (i : ℕ) (update : UserUpdate) (p : RowProgram), s.calls[i]? = some (update, p) →
    Shape update p
  /-- Once a login has succeeded, the row has the time of one of the logins. -/
  login : ∀ (i : ℕ) time written, s.calls[i]? = some (.login time, .done (some written)) →
    ∀ row, s.server = some row → .login row.lastLogin ∈ requests s
  /-- Once a profile change has succeeded, the row has the profile of one of them. -/
  profile : ∀ (i : ℕ) nickname avatar gender signature written,
    s.calls[i]? = some (.profile nickname avatar gender signature, .done (some written)) →
    ∀ row, s.server = some row →
      .profile row.nickname row.avatar row.gender row.signature ∈ requests s

/-- A turn makes no call. -/
theorem requests_turn (s : RowState) (i : ℕ) (ok : Bool) :
    requests (step UserUpdate.program handleRow s (.turn i ok)) = requests s := by
  rcases hi : s.calls[i]? with _ | ⟨update, p⟩
  · rw [step_turn_none ok hi]
  · rw [step_turn_some ok hi]
    exact Slots.map_set_of_eq Prod.fst hi rfl

theorem mem_requests {s : RowState} {i : ℕ} {update : UserUpdate} {p : RowProgram}
    (h : s.calls[i]? = some (update, p)) : update ∈ requests s :=
  List.mem_map_of_mem (List.mem_of_getElem? h)

section Kept

variable {s : RowState} (h : RowKept s)
include h

/-- Every moment keeps the shapes of the calls. -/
theorem RowKept.shape_step (t : Turn UserUpdate Bool) {i : ℕ} {update : UserUpdate} {p : RowProgram}
    (hcall : (step UserUpdate.program handleRow s t).calls[i]? = some (update, p)) :
    Shape update p := by
  rcases call_cases hcall with ⟨hold, -⟩ | ⟨-, rfl, -⟩ | ⟨ok, q, -, hold, rfl⟩
  · exact h.shape i update p hold
  · exact Or.inl rfl
  · exact (turn_cases ok s.server (h.shape i update q hold)).1

/-- A turn leaves the row, and then every call that has succeeded had succeeded before, or it is the
turn in which a call writes the row. -/
theorem RowKept.server_cases (i : ℕ) (ok : Bool) :
    ((step UserUpdate.program handleRow s (.turn i ok)).server = s.server ∧
        ∀ (j : ℕ) update written,
          (step UserUpdate.program handleRow s (.turn i ok)).calls[j]? =
            some (update, .done (some written)) →
          s.calls[j]? = some (update, .done (some written))) ∨
      ∃ update loaded next, s.calls[i]? = some (update, .call (.store (update.apply loaded)) next) ∧
        ok = true ∧
        (step UserUpdate.program handleRow s (.turn i ok)).server =
          some (update.apply loaded) := by
  rcases hi : s.calls[i]? with _ | ⟨update, p⟩
  · rw [step_turn_none ok hi]
    exact Or.inl ⟨rfl, fun j update written hj => hj⟩
  · rcases (turn_cases ok s.server (h.shape i update p hi)).2 with
      ⟨hsame, hdone⟩ | ⟨loaded, next, rfl, hok, -, hwritten⟩
    · refine Or.inl ⟨by rw [step_turn_some ok hi]; exact hsame, fun j update' written hj => ?_⟩
      rcases call_cases hj with ⟨hold, -⟩ | ⟨heq, -⟩ | ⟨ok', q, heq, hold, hp⟩
      · exact hold
      · exact nomatch heq
      · -- The call that took the turn: its program had ended with this result already.
        obtain ⟨rfl, rfl⟩ := Turn.turn.inj heq
        obtain ⟨rfl, rfl⟩ := Prod.mk.inj (Option.some.inj (hold.symm.trans hi))
        rw [hold, hdone written hp.symm]
    · refine Or.inr ⟨update, loaded, next, rfl, hok, ?_⟩
      rw [step_turn_some ok hi]
      exact hwritten

/-- The turn of a call keeps it. -/
theorem RowKept.turn (i : ℕ) (ok : Bool)
    (hstill : ∀ update written next, s.calls[i]? = some (update, .call (.store written) next) →
      ok = true → ∀ row, s.server = some row → update.Keeps row written) :
    RowKept (step UserUpdate.program handleRow s (.turn i ok)) := by
  obtain ⟨row, hrow⟩ := h.present
  rcases h.server_cases i ok with ⟨hsame, hbefore⟩ | ⟨update, loaded, next, hi, rfl, hwritten⟩
  · refine ⟨⟨row, hsame.trans hrow⟩, fun _ _ _ => h.shape_step _, ?_, ?_⟩
    · intro j time written hj row' hrow'
      rw [requests_turn]
      exact h.login j time written (hbefore j _ written hj) row' (hsame.symm.trans hrow')
    · intro j nickname avatar gender signature written hj row' hrow'
      rw [requests_turn]
      exact h.profile j nickname avatar gender signature written (hbefore j _ written hj) row'
        (hsame.symm.trans hrow')
  · -- The row is written: the columns that the call sets are its own, the others those of the row.
    have hkeeps := hstill update (update.apply loaded) next hi rfl row hrow
    refine ⟨⟨_, hwritten⟩, fun _ _ _ => h.shape_step _, ?_, ?_⟩
    · intro j time written hj row' hrow'
      rw [requests_turn]
      obtain rfl := Option.some.inj (hwritten.symm.trans hrow')
      cases update with
      | login lastLogin => exact mem_requests hi
      | profile nickname avatar gender signature =>
        have hold := h.login j time written (call_of_ne hi hj (by simp)) row hrow
        rwa [show (UserUpdate.apply _ loaded).lastLogin = row.lastLogin from hkeeps]
    · intro j nickname avatar gender signature written hj row' hrow'
      rw [requests_turn]
      obtain rfl := Option.some.inj (hwritten.symm.trans hrow')
      cases update with
      | login lastLogin =>
        have hold := h.profile j nickname avatar gender signature written
          (call_of_ne hi hj (by simp)) row hrow
        have hcolumns : (UserUpdate.apply (.login lastLogin) loaded).profileColumns =
            row.profileColumns := hkeeps
        simp only [User.profileColumns, Prod.mk.injEq] at hcolumns
        obtain ⟨hnickname, havatar, hgender, hsignature⟩ := hcolumns
        rwa [hnickname, havatar, hgender, hsignature]
      | profile nickname' avatar' gender' signature' => exact mem_requests hi

/-- A new call keeps it. -/
theorem RowKept.start (update : UserUpdate) :
    RowKept (step UserUpdate.program handleRow s (.start update)) := by
  have hbefore : ∀ (j : ℕ) update' written,
      (step UserUpdate.program handleRow s (.start update)).calls[j]? =
        some (update', .done (some written)) →
      s.calls[j]? = some (update', .done (some written)) := by
    intro j update' written hj
    rcases call_cases hj with ⟨hold, -⟩ | ⟨-, hp, -⟩ | ⟨ok, q, heq, -, -⟩
    · exact hold
    · exact nomatch hp
    · exact nomatch heq
  have hmono : ∀ update', update' ∈ requests s →
      update' ∈ requests (step UserUpdate.program handleRow s (.start update)) := by
    intro update' hmem
    unfold requests step
    rw [List.map_append]
    exact List.mem_append_left _ hmem
  refine ⟨h.present, fun _ _ _ => h.shape_step _, ?_, ?_⟩
  · intro j time written hj row hrow
    exact hmono _ (h.login j time written (hbefore j _ written hj) row hrow)
  · intro j nickname avatar gender signature written hj row hrow
    exact hmono _ (h.profile j nickname avatar gender signature written (hbefore j _ written hj)
      row hrow)

end Kept

/-- A row that keeps what a call leaves, written by a call of the same kind. -/
theorem UserUpdate.Keeps.trans {update other : UserUpdate} {a b c : User}
    (hab : update.Keeps b a) (hsame : other.isLogin = update.isLogin) (hbc : other.Keeps b c) :
    update.Keeps c a := by
  cases update with
  | login lastLogin =>
    cases other with
    | login lastLogin' => exact Eq.trans hab (Eq.symm hbc)
    | profile nickname avatar gender signature => exact nomatch hsame
  | profile nickname avatar gender signature =>
    cases other with
    | login lastLogin => exact nomatch hsame
    | profile nickname' avatar' gender' signature' => exact Eq.trans hab (Eq.symm hbc)

/-- What a call writes keeps what it leaves of the row that it loaded. -/
theorem UserUpdate.keeps_apply (update : UserUpdate) (row : User) :
    update.Keeps row (update.apply row) := by
  cases update <;> rfl

/-- The write of a call has the columns that the call does not set as they are in the row, unless a
call of the other kind has committed since it loaded the row. -/
def LoadedSince (user : User) (turns : List (Turn UserUpdate Bool)) (s : RowState) (i : ℕ)
    (update : UserUpdate) (written : User) : Prop :=
  ∃ before t since, turns = before ++ t :: since ∧ Loads (rowAfter user before) i t ∧
    (EveryStep (step UserUpdate.program handleRow) (rowAfter user (before ++ [t]))
        (fun _ s' t' => ¬ CommitsOther update s' t') since →
      ∀ row, s.server = some row → update.Keeps row written)

/-- What holds after every run of undisturbed writes. -/
structure RowInv (user : User) (turns : List (Turn UserUpdate Bool)) (s : RowState) : Prop where
  /-- The state is the one that the run reached. -/
  state : s = rowAfter user turns
  /-- The row and the calls. -/
  kept : RowKept s
  /-- Every call that is about to write the row has loaded it. -/
  loaded : ∀ (i : ℕ) update written next, s.calls[i]? = some (update, .call (.store written) next) →
    LoadedSince user turns s i update written

section Undisturbed

variable {user : User} {turns : List (Turn UserUpdate Bool)} {s : RowState}

/-- A write that is undisturbed finds the columns that it does not set as they were loaded. -/
theorem RowInv.keeps (h : RowInv user turns s) {i : ℕ} {ok : Bool}
    (hcond : Undisturbed user turns s (.turn i ok)) :
    ∀ update written next, s.calls[i]? = some (update, .call (.store written) next) →
      ok = true → ∀ row, s.server = some row → update.Keeps row written := by
  intro update written next hcall hok
  obtain ⟨before, t, since, hturns, hloads, hkeeps⟩ := h.loaded i update written next hcall
  exact hkeeps (hcond hok update written next hcall before t since hturns hloads)

/-- A call that goes on waiting to write the row. -/
theorem LoadedSince.concat {i : ℕ} {update : UserUpdate} {written : User} {t : Turn UserUpdate Bool}
    (h : LoadedSince user turns s i update written) (hs : s = rowAfter user turns)
    (hkeeps : ¬ CommitsOther update s t → (∀ row, s.server = some row → update.Keeps row written) →
      ∀ row, (step UserUpdate.program handleRow s t).server = some row → update.Keeps row written) :
    LoadedSince user (turns ++ [t]) (step UserUpdate.program handleRow s t) i update written := by
  obtain ⟨before, t₀, since, rfl, hloads, hbefore⟩ := h
  refine ⟨before, t₀, since ++ [t], by simp, hloads, fun hquiet => ?_⟩
  obtain ⟨hquiet, hlast⟩ := everyStep_concat.mp hquiet
  have hstate :
      run (step UserUpdate.program handleRow) (rowAfter user (before ++ [t₀])) since = s := by
    rw [hs, ← run_append, List.append_assoc]
    rfl
  rw [hstate] at hlast
  exact hkeeps hlast (hbefore hquiet)

/-- The moment at which a call comes to its write is the one at which it loads the row. -/
theorem loads_of_call {i : ℕ} {t : Turn UserUpdate Bool} {update : UserUpdate} {written : User}
    {next : Bool → RowProgram} (h : RowKept s) (hnot : ∀ next',
      s.calls[i]? ≠ some (update, .call (.store written) next'))
    (hcall : (step UserUpdate.program handleRow s t).calls[i]? =
      some (update, .call (.store written) next)) :
    Loads s i t ∧ ∀ row, (step UserUpdate.program handleRow s t).server = some row →
      update.Keeps row written := by
  rcases call_cases hcall with ⟨hold, -⟩ | ⟨-, hp, -⟩ | ⟨ok, q, rfl, hold, hp⟩
  · exact absurd hold (hnot next)
  · exact nomatch hp
  rw [step_turn_some ok hold]
  rcases h.shape i update q hold with rfl | ⟨loaded, rfl⟩ | ⟨result, rfl⟩
  · refine ⟨⟨rfl, update, _, hold⟩, fun row hrow => ?_⟩
    rw [advance_program] at hp hrow
    -- The row that was loaded is the one that is there.
    cases ok with
    | false => exact nomatch hp
    | true =>
      have hserver : s.server = some row := hrow
      rw [hserver] at hp
      obtain ⟨hstore, -⟩ := CommandProgram.call.inj hp
      obtain rfl := RowStatement.store.inj hstore
      exact update.keeps_apply row
  · rw [advance_writing] at hp
    split_ifs at hp
  · exact nomatch hp

/-- A moment keeps the invariant. -/
theorem RowInv.step (h : RowInv user turns s) {t : Turn UserUpdate Bool}
    (hcond : Undisturbed user turns s t) :
    RowInv user (turns ++ [t]) (step UserUpdate.program handleRow s t) where
  state := by
    rw [h.state]
    exact (run_concat _ _ turns t).symm
  kept := by
    cases t with
    | start update => exact h.kept.start update
    | turn i ok => exact h.kept.turn i ok (h.keeps hcond)
  loaded := by
    intro i update written next hcall
    by_cases hold : ∃ next', s.calls[i]? = some (update, .call (.store written) next')
    · obtain ⟨next', hold⟩ := hold
      refine (h.loaded i update written next' hold).concat h.state fun hquiet hkeeps row hrow => ?_
      cases t with
      | start request => exact hkeeps row hrow
      | turn j ok =>
        rcases h.kept.server_cases j ok with ⟨hsame, -⟩ | ⟨other, loaded, next'', hj, rfl, hwritten⟩
        · exact hkeeps row (hsame.symm.trans hrow)
        · -- A call of the same kind has committed, and left the other columns as they were.
          obtain ⟨row₀, hrow₀⟩ := h.kept.present
          obtain rfl := Option.some.inj (hwritten.symm.trans hrow)
          have hsame : other.isLogin = update.isLogin := by
            by_contra hne
            exact hquiet ⟨rfl, other, _, next'', hj, hne⟩
          exact (hkeeps row₀ hrow₀).trans hsame (h.keeps hcond other _ next'' hj rfl row₀ hrow₀)
    · push Not at hold
      obtain ⟨hloads, hkeeps⟩ := loads_of_call h.kept hold hcall
      exact ⟨turns, t, [], rfl, h.state ▸ hloads, fun _ => hkeeps⟩

/-- What holds after a run of undisturbed writes. -/
theorem rowInv_run
    (hrun : EveryStep (Interleaving.step UserUpdate.program handleRow) ⟨some user, []⟩
      (Undisturbed user) turns) : RowInv user turns (rowAfter user turns) := by
  refine hrun.inv (I := RowInv user) ⟨rfl, ⟨⟨user, rfl⟩, ?_, ?_, ?_⟩, ?_⟩ fun pre s t hs hcond =>
    hs.step hcond
  · intro i update p hcall
    exact absurd hcall (by simp)
  · intro i time written hcall
    exact absurd hcall (by simp)
  · intro i nickname avatar gender signature written hcall
    exact absurd hcall (by simp)
  · intro i update written next hcall
    exact absurd hcall (by simp)

end Undisturbed

/-- In every run of undisturbed writes no update is lost. -/
theorem noLostUpdate (user : User) (turns : List (Turn UserUpdate Bool))
    (hrun : EveryStep (step UserUpdate.program handleRow) ⟨some user, []⟩ (Undisturbed user)
      turns) :
    NoLostUpdate user turns := by
  constructor
  · intro hall
    have hkept := (rowInv_run hrun).kept
    obtain ⟨row, hrow⟩ := hkept.present
    have hdone : ∀ update, update ∈ requests (rowAfter user turns) →
        ∃ i : ℕ, ∃ written, (rowAfter user turns).calls[i]? =
          some (update, .done (some written)) := by
      intro update hmem
      obtain ⟨⟨update', p⟩, hcall, rfl⟩ := List.mem_map.mp hmem
      obtain ⟨written, rfl⟩ := hall _ hcall
      obtain ⟨i, hi⟩ := List.getElem?_of_mem hcall
      exact ⟨i, written, hi⟩
    refine ⟨row, hrow, ?_, ?_⟩
    · rintro ⟨time, hmem⟩
      obtain ⟨i, written, hi⟩ := hdone _ hmem
      exact hkept.login i time written hi row hrow
    · rintro ⟨nickname, avatar, gender, signature, hmem⟩
      obtain ⟨i, written, hi⟩ := hdone _ hmem
      exact hkept.profile i nickname avatar gender signature written hi row hrow
  · intro pre i ok post hturns update p hcall row row' hrow hrow'
    subst hturns
    have hinv := rowInv_run hrun.of_append
    have hkeeps := hinv.keeps (hrun pre (.turn i ok) post rfl)
    have hstep : rowAfter user (pre ++ [.turn i ok]) =
        step UserUpdate.program handleRow (rowAfter user pre) (.turn i ok) := run_concat _ _ pre _
    rw [hstep, step_turn_some ok hcall] at hrow'
    rcases (turn_cases ok (rowAfter user pre).server (hinv.kept.shape i update p hcall)).2 with
      ⟨hsame, -⟩ | ⟨loaded, next, rfl, rfl, -, hwritten⟩
    · -- Nothing was written.
      obtain rfl := Option.some.inj (hrow.symm.trans (hsame.symm.trans hrow'))
      exact UserUpdate.Keeps.refl update row
    · obtain rfl := Option.some.inj (hwritten.symm.trans hrow')
      exact hkeeps update _ next hcall rfl row hrow

/-- The row of `alice`. -/
def aliceRow : User := ⟨"alice", "alice", "", "Alice", "", .unknown, "", 1, 1, false⟩

/-- Two logins whose transactions overlap, and then a profile change. -/
def twoLogins : List (Turn UserUpdate Bool) :=
  [.start (.login 9), .start (.login 10), .turn 0 true, .turn 1 true, .turn 1 true, .turn 0 true,
    .start (.profile "Al" "" .female ""), .turn 2 true, .turn 2 true]

/-- Only the turn of a call loads its row. -/
theorem Loads.turn {s : RowState} {i : ℕ} {t : Turn UserUpdate Bool} (h : Loads s i t) :
    ∃ ok, t = .turn i ok := by
  rcases t with request | ⟨j, ok⟩
  · exact h.elim
  · exact ⟨ok, by rw [h.1]⟩

/-- No update of the three is lost. -/
theorem noLostUpdate_twoLogins : NoLostUpdate aliceRow twoLogins := by
  refine noLostUpdate aliceRow twoLogins ?_
  unfold twoLogins
  iterate 9 rw [everyStep_cons]
  refine ⟨trivial, trivial, ?_, ?_, ?_, ?_, trivial, ?_, ?_, everyStep_nil⟩
  · rintro - update written next hcall
    cases hcall
  · rintro - update written next hcall
    cases hcall
  · -- The second login writes the row: nothing has happened since it loaded it.
    rintro - update written next hcall before t since hsplit hloads
    obtain ⟨ok, rfl⟩ := hloads.turn
    simp [List.cons_eq_append_iff] at hsplit
    obtain ⟨-, -, rfl⟩ := hsplit
    exact everyStep_nil
  · -- The first login writes the row: since it loaded it, the other one has loaded and written it.
    rintro - update written next hcall before t since hsplit hloads
    obtain ⟨ok, rfl⟩ := hloads.turn
    simp [List.cons_eq_append_iff] at hsplit
    obtain ⟨rfl, rfl, rfl⟩ := hsplit
    rw [everyStep_cons, everyStep_cons]
    refine ⟨?_, ?_, everyStep_nil⟩
    · rintro ⟨-, other, stored, next', hother, -⟩
      cases hother
    · rintro ⟨-, other, stored, next', hother, hkind⟩
      cases hother
      cases hcall
      exact hkind rfl
  · rintro - update written next hcall
    cases hcall
  · rintro - update written next hcall before t since hsplit hloads
    obtain ⟨ok, rfl⟩ := hloads.turn
    simp [List.cons_eq_append_iff] at hsplit
    obtain ⟨-, -, rfl⟩ := hsplit
    exact everyStep_nil

/-- A login that loads the row before a profile change and writes it back afterwards: both report
success, and the profile change is gone. -/
theorem lost_update : ¬ NoLostUpdate aliceRow
    [.start (.login 9), .start (.profile "Al" "" .female ""), .turn 0 true, .turn 1 true,
      .turn 1 true, .turn 0 true] := by
  intro h
  have hcalls : (rowAfter aliceRow [.start (.login 9), .start (.profile "Al" "" .female ""),
      .turn 0 true, .turn 1 true, .turn 1 true, .turn 0 true]).calls =
      [(.login 9, .done (some { aliceRow with lastLogin := 9 })),
        (.profile "Al" "" .female "",
          .done (some { aliceRow with nickname := "Al", gender := .female }))] := rfl
  have hfinal := h.final
  unfold requests at hfinal
  rw [hcalls] at hfinal
  obtain ⟨row, hrow, -, hprofile⟩ := hfinal (by simp)
  obtain rfl : { aliceRow with lastLogin := 9 } = row := Option.some.inj hrow
  have hmem := hprofile ⟨"Al", "", .female, "", by decide⟩
  exact absurd hmem (by decide)

end MyChat.Social
