import MyChat.Lib.Interleaving
import MyChat.Social.FriendService

/-!
# Friend requests in flight

Requests and responses of any users, whose transactions take turns. Each call checks in one
transaction and writes in a later one, and the unique index covers one direction of a pair only, so
that what a call checked may no longer hold when it writes: two users who send each other a request
get two rows (`mutual_requests`), and two responses change a row twice (`two_responses`).

`friends_sound` says that nothing else can go wrong: as long as each write still finds what its call
checked, there is at most one row for each two users, a row is answered at most once and by its
target, and a call that reports an error has changed nothing.
-/

namespace MyChat.Social

open Run Interleaving FriendRepository

/-- A call of `FriendService`. -/
inductive FriendCall where
  /-- `send_request`. -/
  | send (now : ℤ) (request : FriendRequest)
  /-- `respond_to_request`. -/
  | respond (friendId : ℕ) (uid : String) (accept : Bool)
  deriving DecidableEq, Repr

/-- The program of a call. -/
def FriendCall.program : FriendCall → Program FriendResult
  | .send now request => FriendService.sendRequest now request
  | .respond friendId uid accept => FriendService.respondToRequest friendId uid accept

/-- The tables and the calls after the turns. -/
abbrev friendsAfter (server : Stores) (turns : List (Turn FriendCall Tx)) :
    State Stores FriendCall Command Command.Reply FriendResult :=
  after FriendCall.program handle server turns

/-! ## What the table should keep -/

/-- At most one row for each two users, and none for a user and itself. -/
structure OneRowPerPair (t : Table Friend) : Prop where
  /-- Rows of the same two users are the same row. -/
  pair : ∀ id₁ f₁ id₂ f₂, t.load id₁ = some f₁ → t.load id₂ = some f₂ →
    Relates f₁.requesterUid f₁.targetUid f₂ → id₁ = id₂
  /-- The two users differ. -/
  notSelf : ∀ id f, t.load id = some f → f.requesterUid ≠ f.targetUid

/-- The call answers the row, which was pending. -/
def Answered (call : FriendCall) (id : ℕ) (f f' : Friend) : Prop :=
  f.status = .pending ∧ ∃ accept, call = .respond id f.targetUid accept ∧
    f' = { f with status := if accept then .accepted else .rejected }

/-- The rows stay as they are, or the call answers them. -/
def AnsweredBy (call : FriendCall) (t t' : Table Friend) : Prop :=
  ∀ id f, t.load id = some f → ∃ f', t'.load id = some f' ∧ (f' = f ∨ Answered call id f f')

/-- The rows stay as they are, or some call answers them. -/
def Moves (t t' : Table Friend) : Prop :=
  ∀ id f, t.load id = some f → ∃ f', t'.load id = some f' ∧
    (f' = f ∨ f.status = .pending ∧ f'.status ≠ .pending ∧ f'.targetUid = f.targetUid)

theorem Moves.refl (t : Table Friend) : Moves t t := fun _ f h => ⟨f, h, Or.inl rfl⟩

theorem Moves.trans {a b c : Table Friend} (hab : Moves a b) (hbc : Moves b c) : Moves a c := by
  intro id f hf
  obtain ⟨f', hf', hfirst⟩ := hab id f hf
  obtain ⟨f'', hf'', hsecond⟩ := hbc id f' hf'
  refine ⟨f'', hf'', ?_⟩
  rcases hfirst with rfl | ⟨hpending, hnot, htarget⟩
  · exact hsecond
  · -- A row that was answered is not pending, so that it is not answered again.
    rcases hsecond with rfl | ⟨hpending', -⟩
    · exact Or.inr ⟨hpending, hnot, htarget⟩
    · exact absurd hpending' hnot

theorem AnsweredBy.moves {call : FriendCall} {t t' : Table Friend} (h : AnsweredBy call t t') :
    Moves t t' := by
  intro id f hf
  obtain ⟨f', hf', rfl | ⟨hpending, accept, -, rfl⟩⟩ := h id f hf
  · exact ⟨f', hf', Or.inl rfl⟩
  · refine ⟨_, hf', Or.inr ⟨hpending, ?_, rfl⟩⟩
    cases accept <;> simp

/-- The write still finds what its call checked: no request in the other direction, or a request
that is pending. -/
def StillChecked (tx : Tx) (s : Stores) : Command → Prop
  | .createFriend f => tx.commits = true → ∀ row ∈ s.friends.rows,
      ¬ (row.2.requesterUid = f.targetUid ∧ row.2.targetUid = f.requesterUid)
  | .updateStatus friendId _ => tx.commits = true → ∀ f ∈ s.friends.load friendId,
      f.status = .pending
  | _ => True

instance (tx : Tx) (s : Stores) : (c : Command) → Decidable (StillChecked tx s c)
  | .createFriend _ => inferInstanceAs (Decidable (_ → ∀ row ∈ s.friends.rows, _))
  | .updateStatus friendId _ => inferInstanceAs (Decidable (_ → ∀ f ∈ s.friends.load friendId, _))
  | .createUser _ | .findByUid _ | .findByAccount _ | .searchUsers _ _ | .updateLastLogin _ _
  | .updateProfile _ _ _ _ _ | .findFriendById _ | .findRelationship _ _ | .findFriends _
  | .findPending _ | .createGroupWithOwner _ _ | .findGroupById _ | .findGroupIds _
  | .searchByName _ _ | .addMember _ | .removeMember _ _ | .findMembers _ | .findMember _ _
  | .createGroupMessage _ | .findByGroup _ _ _ => isTrue trivial

/-- What the calls promise each other. -/
def friendContract : Contract Stores FriendCall FriendResult where
  Inv s := OneRowPerPair s.friends
  rely s s' := Moves s.friends s'.friends
  guar call s s' := AnsweredBy call s.friends s'.friends
  ok result := ∃ message, result = .ok message
  rely_refl s := Moves.refl s.friends
  rely_trans := Moves.trans
  guar_rely := AnsweredBy.moves

/-- What the calls should do, in every interleaving. -/
structure FriendsSound (server : Stores) (turns : List (Turn FriendCall Tx)) : Prop where
  /-- At every moment there is at most one row for each two users, and none for a user and
  itself. -/
  onePerPair : ∀ pre post, turns = pre ++ post →
    OneRowPerPair (friendsAfter server pre).server.friends
  /-- A turn leaves a row as it is, or is that of a response of its target, which accepts or rejects
  a pending request. -/
  change : ∀ pre t post, turns = pre ++ t :: post → ∀ id f,
    (friendsAfter server pre).server.friends.load id = some f →
    ∃ f', (friendsAfter server (pre ++ [t])).server.friends.load id = some f' ∧
      (f' = f ∨ ∃ i tx call p, t = .turn i tx ∧
        (friendsAfter server pre).calls[i]? = some (call, p) ∧ Answered call id f f')
  /-- A row that is not pending stays as it is. -/
  once : ∀ pre post, turns = pre ++ post → ∀ id f,
    (friendsAfter server pre).server.friends.load id = some f → f.status ≠ .pending →
    (friendsAfter server turns).server.friends.load id = some f
  /-- A call that ended with an error has changed nothing. -/
  error : ∀ i call e, (friendsAfter server turns).calls[i]? = some (call, .done (.error e)) →
    ¬ Changed FriendCall.program handle server turns i

/-! ## The two writes -/

/-- How an insert ends. -/
theorem handle_createFriend (tx : Tx) (s : Stores) (f : Friend) :
    (tx.commits = true ∧ Accepts s.friends f ∧ handle tx s (.createFriend f) =
        (true, { s with friends := s.friends.persist tx.skip f })) ∨
      handle tx s (.createFriend f) = (false, s) := by
  change (_ ∧ _ ∧ ((FriendRepository.create tx s.friends f).1,
    { s with friends := (FriendRepository.create tx s.friends f).2 }) = _) ∨
      ((FriendRepository.create tx s.friends f).1,
        { s with friends := (FriendRepository.create tx s.friends f).2 }) = _
  unfold FriendRepository.create
  split_ifs with h
  · exact Or.inl ⟨h.1, h.2, rfl⟩
  · exact Or.inr rfl

/-- How an update ends. -/
theorem handle_updateStatus (tx : Tx) (s : Stores) (friendId : ℕ) (status : FriendStatus) :
    (tx.commits = true ∧ handle tx s (.updateStatus friendId status) =
        (true, { s with
          friends := s.friends.update friendId fun f => { f with status := status } }))
      ∨ handle tx s (.updateStatus friendId status) = (false, s) := by
  change (_ ∧ ((FriendRepository.updateStatus tx s.friends friendId status).1,
    { s with friends := (FriendRepository.updateStatus tx s.friends friendId status).2 }) = _) ∨
      ((FriendRepository.updateStatus tx s.friends friendId status).1,
        { s with friends := (FriendRepository.updateStatus tx s.friends friendId status).2 }) = _
  unfold FriendRepository.updateStatus
  split_ifs with h
  · exact Or.inl ⟨h.1, rfl⟩
  · exact Or.inr rfl

/-- Inserting a pending request for two users that no row relates. -/
theorem OneRowPerPair.persist {t : Table Friend} (h : OneRowPerPair t) {f : Friend} (skip : ℕ)
    (hself : f.requesterUid ≠ f.targetUid) (haccepts : Accepts t f)
    (hreverse : ∀ row ∈ t.rows,
      ¬ (row.2.requesterUid = f.targetUid ∧ row.2.targetUid = f.requesterUid)) :
    OneRowPerPair (t.persist skip f) := by
  -- No row relates the two users: not this way round, by the index, nor the other, by the check.
  have hnone : ∀ id g, t.load id = some g → ¬ Relates f.requesterUid f.targetUid g := by
    rintro id g hg (hsame | hback)
    · exact haccepts (id, g) (t.mem_rows.mpr hg) hsame
    · exact hreverse (id, g) (t.mem_rows.mpr hg) hback
  constructor
  · intro id₁ f₁ id₂ f₂ h₁ h₂ hrelates
    rw [Table.load_persist] at h₁ h₂
    split_ifs at h₁ h₂ with hid₁ hid₂ hid₂
    · rw [hid₁, hid₂]
    · obtain rfl := Option.some.inj h₁
      exact absurd hrelates (hnone id₂ f₂ h₂)
    · obtain rfl := Option.some.inj h₂
      refine absurd ?_ (hnone id₁ f₁ h₁)
      rcases hrelates with ⟨hr, ht⟩ | ⟨hr, ht⟩
      · exact Or.inl ⟨hr.symm, ht.symm⟩
      · exact Or.inr ⟨ht.symm, hr.symm⟩
    · exact h.pair id₁ f₁ id₂ f₂ h₁ h₂ hrelates
  · intro id g hg
    rw [Table.load_persist] at hg
    split_ifs at hg
    · obtain rfl := Option.some.inj hg
      exact hself
    · exact h.notSelf id g hg

/-- Changing a status keeps the users of every row. -/
theorem OneRowPerPair.setStatus {t : Table Friend} (h : OneRowPerPair t) (friendId : ℕ)
    (status : FriendStatus) :
    OneRowPerPair (t.update friendId fun f => { f with status := status }) := by
  have hold : ∀ id g, (t.update friendId fun f => { f with status := status }).load id = some g →
      ∃ f, t.load id = some f ∧ f.requesterUid = g.requesterUid ∧ f.targetUid = g.targetUid := by
    intro id g hg
    rw [Table.load_update] at hg
    split_ifs at hg
    · obtain ⟨f, hf, rfl⟩ := Option.map_eq_some_iff.mp hg
      exact ⟨f, hf, rfl, rfl⟩
    · exact ⟨g, hg, rfl, rfl⟩
  constructor
  · intro id₁ g₁ id₂ g₂ h₁ h₂ hrelates
    obtain ⟨f₁, hf₁, hr₁, ht₁⟩ := hold id₁ g₁ h₁
    obtain ⟨f₂, hf₂, hr₂, ht₂⟩ := hold id₂ g₂ h₂
    refine h.pair id₁ f₁ id₂ f₂ hf₁ hf₂ ?_
    unfold Relates at hrelates ⊢
    rwa [hr₁, ht₁, hr₂, ht₂]
  · intro id g hg
    obtain ⟨f, hf, hr, ht⟩ := hold id g hg
    rw [← hr, ← ht]
    exact h.notSelf id f hf

/-- An insert leaves every row as it is. -/
theorem answeredBy_persist (call : FriendCall) (t : Table Friend) (skip : ℕ) (f : Friend) :
    AnsweredBy call t (t.persist skip f) := by
  intro id g hg
  have hne : id ≠ t.freshId skip := by
    rintro rfl
    exact t.freshId_not_mem skip (List.mem_map_of_mem (t.mem_rows.mpr hg))
  refine ⟨g, ?_, Or.inl rfl⟩
  rw [Table.load_persist]
  simp only [hne, if_false]
  exact hg

theorem AnsweredBy.refl (call : FriendCall) (t : Table Friend) : AnsweredBy call t t :=
  fun _ f h => ⟨f, h, Or.inl rfl⟩

/-! ## The two programs -/

/-- A request keeps the contract. -/
theorem safe_sendRequest (now : ℤ) (request : FriendRequest) (s : Stores) :
    Safe friendContract handle StillChecked (.send now request) False
      (FriendService.sendRequest now request) s := by
  unfold FriendService.sendRequest
  by_cases hempty : request.requesterUid = "" ∨ request.targetUid = ""
  · rw [if_pos hempty]
    exact safe_unchanged _ not_false
  rw [if_neg hempty]
  by_cases hself : request.requesterUid = request.targetUid
  · rw [if_pos hself]
    exact safe_unchanged _ not_false
  rw [if_neg hself]
  refine safe_read (fun _ _ => rfl) (fun s => AnsweredBy.refl _ s.friends) fun s₁ tx₁ _ _ => ?_
  rcases (handle tx₁ s₁ (.findByUid request.targetUid)).1 with _ | target
  · exact safe_unchanged _ not_false
  · refine safe_read (fun _ _ => rfl) (fun s => AnsweredBy.refl _ s.friends) fun s₂ tx₂ _ _ => ?_
    rcases (handle tx₂ s₂ (.findRelationship request.requesterUid request.targetUid)).1 with
      _ | existing
    · -- The insert: the index refuses the same direction, the condition the other one.
      refine safe_send fun s₃ tx₃ _ hinv hcond => ?_
      rcases handle_createFriend tx₃ s₃ ⟨request.requesterUid, request.targetUid, .pending,
        if request.nowMs > 0 then request.nowMs else now⟩ with ⟨hcommits, haccepts, heq⟩ | heq
      · rw [heq]
        exact ⟨OneRowPerPair.persist hinv tx₃.skip hself haccepts (hcond hcommits),
          answeredBy_persist _ s₃.friends tx₃.skip _, fun _ => ⟨_, rfl⟩⟩
      · rw [heq]
        refine ⟨hinv, AnsweredBy.refl _ s₃.friends, safe_unchanged _ ?_⟩
        simp
    · exact safe_unchanged _ not_false

/-- A response keeps the contract. -/
theorem safe_respondToRequest (friendId : ℕ) (uid : String) (accept : Bool) (s : Stores) :
    Safe friendContract handle StillChecked (.respond friendId uid accept) False
      (FriendService.respondToRequest friendId uid accept) s := by
  unfold FriendService.respondToRequest
  refine safe_read (fun _ _ => rfl) (fun s => AnsweredBy.refl _ s.friends) fun s₁ tx₁ _ _ => ?_
  rcases hfind : (handle tx₁ s₁ (.findFriendById friendId)).1 with _ | f
  · exact safe_unchanged _ not_false
  · have hload : s₁.friends.load friendId = some f := by
      change FriendRepository.findById tx₁ s₁.friends friendId = some f at hfind
      unfold FriendRepository.findById at hfind
      split_ifs at hfind
      exact hfind
    by_cases htarget : f.targetUid ≠ uid
    · simp only [htarget, if_true, ne_eq, not_false_eq_true]
      exact safe_unchanged _ not_false
    by_cases hstatus : f.status ≠ .pending
    · simp only [htarget, hstatus, if_true, if_false, ne_eq, not_false_eq_true]
      exact safe_unchanged _ not_false
    simp only [htarget, hstatus, if_false]
    -- The row may have moved since it was read, but its target is the same.
    refine safe_send fun s₂ tx₂ hrely hinv hcond => ?_
    obtain ⟨f₂, hload₂, hmoved⟩ := hrely friendId f hload
    have htarget₂ : f₂.targetUid = uid := by
      rw [← not_not.mp htarget]
      rcases hmoved with rfl | ⟨-, -, hsame⟩
      · rfl
      · exact hsame
    rcases handle_updateStatus tx₂ s₂ friendId (if accept then .accepted else .rejected) with
      ⟨hcommits, heq⟩ | heq
    · rw [heq]
      refine ⟨OneRowPerPair.setStatus hinv friendId _, ?_, fun _ => ⟨_, rfl⟩⟩
      intro id g hg
      by_cases hid : id = friendId
      · subst hid
        obtain rfl : f₂ = g := Option.some.inj (hload₂.symm.trans hg)
        refine ⟨{ f₂ with status := if accept then .accepted else .rejected }, ?_, Or.inr ?_⟩
        · simp [Table.load_update, hload₂]
        · exact ⟨hcond hcommits f₂ hload₂, accept, by rw [htarget₂], rfl⟩
      · refine ⟨g, ?_, Or.inl rfl⟩
        simp only [Table.load_update, hid, if_false]
        exact hg
    · rw [heq]
      refine ⟨hinv, AnsweredBy.refl _ s₂.friends, safe_unchanged _ ?_⟩
      simp

/-! ## Runs -/

/-- Every call keeps the contract. -/
theorem safe_friendCall (call : FriendCall) (s : Stores) :
    Safe friendContract handle StillChecked call False call.program s := by
  cases call with
  | send now request => exact safe_sendRequest now request s
  | respond friendId uid accept => exact safe_respondToRequest friendId uid accept s

/-- In every run whose writes still find what their calls checked, the friends are sound. -/
theorem friends_sound (server : Stores) (turns : List (Turn FriendCall Tx))
    (h0 : OneRowPerPair server.friends)
    (hrun : EveryStep (step FriendCall.program handle) ⟨server, []⟩ (Meets StillChecked) turns) :
    FriendsSound server turns := by
  -- The contract is kept at every moment of the run.
  have hkept : ∀ pre post, turns = pre ++ post → Kept friendContract handle StillChecked
      FriendCall.program server pre (friendsAfter server pre) := by
    rintro pre post rfl
    exact safe_run h0 (fun call s _ => safe_friendCall call s) hrun.of_append
  refine ⟨fun pre post hturns => (hkept pre post hturns).inv, ?_, ?_, ?_⟩
  · intro pre t post hturns id f hf
    have hstep : friendsAfter server (pre ++ [t]) =
        step FriendCall.program handle (friendsAfter server pre) t := run_concat _ _ pre t
    rw [hstep]
    rcases (hkept pre (t :: post) hturns).guar (hrun pre t post hturns) with
      hsame | ⟨i, tx, call, p, rfl, hcall, hguar⟩
    · rw [hsame]
      exact ⟨f, hf, Or.inl rfl⟩
    · obtain ⟨f', hf', hchange⟩ := hguar id f hf
      exact ⟨f', hf', hchange.imp_right fun h => ⟨i, tx, call, p, rfl, hcall, h⟩⟩
  · rintro pre post rfl id f hf hstatus
    have hmoves : Moves (friendsAfter server pre).server.friends
        (friendsAfter server (pre ++ post)).server.friends :=
      rely_of_append (K := friendContract) h0 (fun call s _ => safe_friendCall call s) hrun
    obtain ⟨f', hf', rfl | ⟨hpending, -⟩⟩ := hmoves id f hf
    · exact hf'
    · exact absurd hpending hstatus
  · intro i call e hcall
    refine (hkept turns [] (List.append_nil _).symm).not_changed hcall ?_
    rintro ⟨message, heq⟩
    exact absurd heq (by simp)

/-- Users `alice` and `bob`. -/
def aliceAndBob : Stores :=
  { Stores.empty with
    users :=
      { rows :=
          [⟨"alice", "alice", "", "Alice", "", .unknown, "", 1, 1, false⟩,
           ⟨"bob", "bob", "", "Bob", "", .unknown, "", 1, 1, false⟩]
        uid_nodup := by decide
        account_nodup := by decide } }

/-- A request and its answer, one after the other. -/
def requestAndResponse : List (Turn FriendCall Tx) :=
  [.start (.send 5 ⟨"alice", "bob", 1⟩), .turn 0 .commit, .turn 0 .commit, .turn 0 .commit,
   .start (.respond 1 "bob" true), .turn 1 .commit, .turn 1 .commit]

/-- A request and its answer, one after the other, are sound. -/
theorem friends_sound_requestAndResponse : FriendsSound aliceAndBob requestAndResponse := by
  refine friends_sound aliceAndBob requestAndResponse ⟨?_, ?_⟩ ?_
  · intro id₁ f₁ id₂ f₂ h₁
    exact absurd h₁ (by simp [aliceAndBob, Stores.empty, Table.empty, Table.load])
  · intro id f h
    exact absurd h (by simp [aliceAndBob, Stores.empty, Table.empty, Table.load])
  · unfold requestAndResponse
    simp only [everyStep_cons]
    exact ⟨by decide, by decide, by decide, by decide +kernel, by decide, by decide,
      by decide +kernel, everyStep_nil⟩

/-- Both users send a request before either is stored. -/
def mutualRequests : List (Turn FriendCall Tx) :=
  [.start (.send 5 ⟨"alice", "bob", 1⟩), .start (.send 5 ⟨"bob", "alice", 2⟩),
   .turn 0 .commit, .turn 0 .commit, .turn 1 .commit, .turn 1 .commit,
   .turn 0 .commit, .turn 1 .commit]

/-- The target accepts and rejects a request before either answer is stored. -/
def twoResponses : List (Turn FriendCall Tx) :=
  [.start (.send 5 ⟨"alice", "bob", 1⟩), .turn 0 .commit, .turn 0 .commit, .turn 0 .commit,
   .start (.respond 1 "bob" true), .start (.respond 1 "bob" false),
   .turn 1 .commit, .turn 2 .commit, .turn 1 .commit, .turn 2 .commit]

/-- Two users who send each other a request at the same time get two rows, and two responses at the
same time change an accepted row to a rejected one. -/
theorem friends_unsound : ¬ FriendsSound aliceAndBob mutualRequests ∧
    ¬ FriendsSound aliceAndBob twoResponses := by
  constructor
  · intro h
    have hfirst : (friendsAfter aliceAndBob mutualRequests).server.friends.load 1 =
        some ⟨"alice", "bob", .pending, 1⟩ := by decide +kernel
    have hsecond : (friendsAfter aliceAndBob mutualRequests).server.friends.load 2 =
        some ⟨"bob", "alice", .pending, 2⟩ := by decide +kernel
    have heq := (h.onePerPair mutualRequests [] (List.append_nil _).symm).pair 1 _ 2 _ hfirst
      hsecond (by decide)
    exact absurd heq (by decide)
  · intro h
    have haccepted : (friendsAfter aliceAndBob (twoResponses.take 9)).server.friends.load 1 =
        some ⟨"alice", "bob", .accepted, 1⟩ := by decide +kernel
    have hrejected : (friendsAfter aliceAndBob twoResponses).server.friends.load 1 =
        some ⟨"alice", "bob", .rejected, 1⟩ := by decide +kernel
    have heq := h.once (twoResponses.take 9) (twoResponses.drop 9) (List.take_append_drop 9 _).symm
      1 _ haccepted (by decide)
    rw [hrejected] at heq
    exact absurd heq (by decide)

end MyChat.Social
