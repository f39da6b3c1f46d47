import MyChat.Lib.Interleaving
import MyChat.Social.GroupService

/-!
# Groups and their members

Groups that are created, joined, and left by any users, whose transactions take turns and may fail.
A group and its owner's membership are inserted in one transaction, memberships are unique for a
group and a user, and only a membership that was seen without the owner's role is removed.

`groups_sound` says that in every interleaving each group has one owner, its creator, who never
leaves, that memberships are unique and refer to groups that exist, and that a call that reports an
error has changed nothing.
-/

namespace MyChat.Social

open Run Interleaving GroupRepository

/-- A call of `GroupService`. -/
inductive GroupCall where
  /-- `create_group`. -/
  | create (now : ℤ) (request : CreateGroupRequest)
  /-- `join_group`. -/
  | join (now : ℤ) (groupId : ℕ) (userUid : String) (t : ℤ)
  /-- `leave_group`. -/
  | leave (groupId : ℕ) (userUid : String)
  deriving DecidableEq, Repr

/-- The program of a call. -/
def GroupCall.program : GroupCall → Program GroupResult
  | .create now request => GroupService.createGroup now request
  | .join now groupId userUid t => GroupService.joinGroup now groupId userUid t
  | .leave groupId userUid => GroupService.leaveGroup groupId userUid

/-- The tables and the calls after the turns. -/
abbrev groupsAfter (server : Stores) (turns : List (Turn GroupCall Tx)) :
    State Stores GroupCall Command Command.Reply GroupResult :=
  after GroupCall.program handle server turns

/-! ## What the tables keep -/

/-- The row is the membership of the user in the group. -/
def GroupMember.IsOf (m : GroupMember) (groupId : ℕ) (userUid : String) : Prop :=
  m.groupId = groupId ∧ m.userUid = userUid

/-- Each group has its creator as the owner, and memberships are unique and of groups that exist. -/
structure OneOwner (groups : Table Group) (members : Table GroupMember) : Prop where
  /-- A membership refers to a group. -/
  group : ∀ id m, members.load id = some m → ∃ g, groups.load m.groupId = some g
  /-- Memberships of the same user in the same group are the same row. -/
  unique : ∀ id₁ m₁ id₂ m₂, members.load id₁ = some m₁ → members.load id₂ = some m₂ →
    m₁.IsOf m₂.groupId m₂.userUid → id₁ = id₂
  /-- The creator of a group has the owner's role in it. -/
  creator : ∀ groupId g, groups.load groupId = some g →
    ∃ id m, members.load id = some m ∧ m.IsOf groupId g.creatorUid ∧ m.role = .owner
  /-- Nobody else has. -/
  only : ∀ id m, members.load id = some m → m.role = .owner →
    ∀ g, groups.load m.groupId = some g → m.userUid = g.creatorUid

/-- Groups stay as they are, and so do the memberships of owners. -/
def OwnersStay (s s' : Stores) : Prop :=
  (∀ groupId g, s.groups.load groupId = some g → s'.groups.load groupId = some g) ∧
    ∀ id m, s.members.load id = some m → m.role = .owner → s'.members.load id = some m

theorem OwnersStay.refl (s : Stores) : OwnersStay s s := ⟨fun _ _ h => h, fun _ _ h _ => h⟩

theorem OwnersStay.trans {a b c : Stores} (hab : OwnersStay a b) (hbc : OwnersStay b c) :
    OwnersStay a c :=
  ⟨fun groupId g h => hbc.1 groupId g (hab.1 groupId g h),
    fun id m h hrole => hbc.2 id m (hab.2 id m h hrole) hrole⟩

/-- What the calls promise each other. -/
def groupContract : Contract Stores GroupCall GroupResult where
  Inv s := OneOwner s.groups s.members
  rely := OwnersStay
  guar _ := OwnersStay
  ok result := ∃ done, result = .ok done
  rely_refl := OwnersStay.refl
  rely_trans := OwnersStay.trans
  guar_rely h := h

/-- What holds of groups and memberships in every interleaving. -/
structure GroupsSound (server : Stores) (turns : List (Turn GroupCall Tx)) : Prop where
  /-- At every moment each group has one owner, who is its creator. -/
  owner : ∀ pre post, turns = pre ++ post → ∀ groupId g,
    (groupsAfter server pre).server.groups.load groupId = some g →
    ∃ id m, ((groupsAfter server pre).server.members.load id = some m ∧
        m.IsOf groupId g.creatorUid ∧ m.role = .owner) ∧
      ∀ id' m', (groupsAfter server pre).server.members.load id' = some m' →
        m'.groupId = groupId → m'.role = .owner → id' = id
  /-- An owner never leaves. -/
  stays : ∀ pre post, turns = pre ++ post → ∀ id m,
    (groupsAfter server pre).server.members.load id = some m → m.role = .owner →
    (groupsAfter server turns).server.members.load id = some m
  /-- At every moment no user has two memberships in one group. -/
  unique : ∀ pre post, turns = pre ++ post → ∀ id₁ m₁ id₂ m₂,
    (groupsAfter server pre).server.members.load id₁ = some m₁ →
    (groupsAfter server pre).server.members.load id₂ = some m₂ →
    m₁.IsOf m₂.groupId m₂.userUid → id₁ = id₂
  /-- At every moment a membership refers to a group that exists. -/
  group : ∀ pre post, turns = pre ++ post → ∀ id m,
    (groupsAfter server pre).server.members.load id = some m →
    ∃ g, (groupsAfter server pre).server.groups.load m.groupId = some g
  /-- A call that ended with an error has changed nothing. -/
  error : ∀ i call e, (groupsAfter server turns).calls[i]? = some (call, .done (.error e)) →
    ¬ Changed GroupCall.program handle server turns i

/-- A user whose membership has another role is not the creator. -/
theorem OneOwner.ne_creator {groups : Table Group} {members : Table GroupMember}
    (h : OneOwner groups members) {id : ℕ} {m : GroupMember} (hm : members.load id = some m)
    (hrole : m.role ≠ .owner) {g : Group} (hg : groups.load m.groupId = some g) :
    m.userUid ≠ g.creatorUid := by
  intro hcreator
  obtain ⟨id', m', hm', ⟨hgroup, huser⟩, hrole'⟩ := h.creator m.groupId g hg
  -- The creator's membership is the owner's, and it is the only one.
  have hid : id' = id := h.unique id' m' id m hm' hm ⟨hgroup, huser.trans hcreator.symm⟩
  subst hid
  obtain rfl : m' = m := Option.some.inj (hm'.symm.trans hm)
  exact hrole hrole'

/-! ## The three writes -/

/-- Inserting a membership that the index accepts keeps memberships unique. -/
theorem unique_persist {members : Table GroupMember}
    (h : ∀ id₁ m₁ id₂ m₂, members.load id₁ = some m₁ → members.load id₂ = some m₂ →
      m₁.IsOf m₂.groupId m₂.userUid → id₁ = id₂)
    (skip : ℕ) {m : GroupMember} (haccepts : Accepts members m) :
    ∀ id₁ m₁ id₂ m₂, (members.persist skip m).load id₁ = some m₁ →
      (members.persist skip m).load id₂ = some m₂ →
      m₁.IsOf m₂.groupId m₂.userUid → id₁ = id₂ := by
  have hnone : ∀ id n, members.load id = some n → ¬ n.IsOf m.groupId m.userUid :=
    fun id n hn => haccepts (id, n) (members.mem_rows.mpr hn)
  intro id₁ m₁ id₂ m₂ h₁ h₂ hof
  rw [Table.load_persist] at h₁ h₂
  split_ifs at h₁ h₂ with hid₁ hid₂ hid₂
  · rw [hid₁, hid₂]
  · obtain rfl := Option.some.inj h₁
    exact absurd ⟨hof.1.symm, hof.2.symm⟩ (hnone id₂ m₂ h₂)
  · obtain rfl := Option.some.inj h₂
    exact absurd hof (hnone id₁ m₁ h₁)
  · exact h id₁ m₁ id₂ m₂ h₁ h₂ hof

/-- How the creation of a group ends. -/
theorem handle_createGroupWithOwner (tx : Tx) (s : Stores) (g : Group) (owner : GroupMember) :
    (Accepts s.members { owner with groupId := s.groups.freshId tx.skip } ∧
      handle tx s (.createGroupWithOwner g owner) =
        (some (s.groups.freshId tx.skip),
          { s with
            groups := s.groups.persist tx.skip g
            members := s.members.persist tx.skip'
              { owner with groupId := s.groups.freshId tx.skip } })) ∨
      handle tx s (.createGroupWithOwner g owner) = (none, s) := by
  have heq : handle tx s (.createGroupWithOwner g owner) =
      ((createGroupWithOwner tx s.groups s.members g owner).1,
        { s with
          groups := (createGroupWithOwner tx s.groups s.members g owner).2.1
          members := (createGroupWithOwner tx s.groups s.members g owner).2.2 }) := rfl
  rw [heq]
  unfold createGroupWithOwner
  by_cases h : tx.commits ∧ Accepts s.members { owner with groupId := s.groups.freshId tx.skip }
  · refine Or.inl ⟨h.2, ?_⟩
    simp only [h, and_self, if_true]
  · refine Or.inr ?_
    simp only [h, if_false]

/-- How the insert of a membership ends. -/
theorem handle_addMember (tx : Tx) (s : Stores) (m : GroupMember) :
    (Accepts s.members m ∧ handle tx s (.addMember m) =
        (true, { s with members := s.members.persist tx.skip m })) ∨
      handle tx s (.addMember m) = (false, s) := by
  have heq : handle tx s (.addMember m) = ((addMember tx s.members m).1,
      { s with members := (addMember tx s.members m).2 }) := rfl
  rw [heq]
  unfold addMember
  split_ifs with h
  · exact Or.inl ⟨h.2, rfl⟩
  · exact Or.inr rfl

/-- How the deletion of a membership ends. -/
theorem handle_removeMember (tx : Tx) (s : Stores) (groupId : ℕ) (userUid : String) :
    handle tx s (.removeMember groupId userUid) =
        (true, { s with members := s.members.erase fun m =>
          m.groupId = groupId ∧ m.userUid = userUid }) ∨
      handle tx s (.removeMember groupId userUid) = (false, s) := by
  have heq : handle tx s (.removeMember groupId userUid) =
      ((removeMember tx s.members groupId userUid).1,
        { s with members := (removeMember tx s.members groupId userUid).2 }) := rfl
  rw [heq]
  unfold removeMember
  split_ifs
  · exact Or.inl rfl
  · exact Or.inr rfl

/-! ## What the writes keep -/

/-- Creating a group with its owner. -/
theorem OneOwner.create {groups : Table Group} {members : Table GroupMember}
    (h : OneOwner groups members) (skip skip' : ℕ) (g : Group) {owner : GroupMember}
    (hgroup : owner.groupId = groups.freshId skip) (huser : owner.userUid = g.creatorUid)
    (hrole : owner.role = .owner) (haccepts : Accepts members owner) :
    OneOwner (groups.persist skip g) (members.persist skip' owner) := by
  -- No membership refers to the new group's id yet.
  have hold : ∀ id m, members.load id = some m → m.groupId ≠ groups.freshId skip := by
    intro id m hm heq
    obtain ⟨g', hg'⟩ := h.group id m hm
    rw [heq] at hg'
    exact groups.freshId_not_mem skip (List.mem_map_of_mem (groups.mem_rows.mpr hg'))
  refine ⟨?_, unique_persist h.unique skip' haccepts, ?_, ?_⟩
  · intro id m hm
    rw [Table.load_persist] at hm
    split_ifs at hm
    · obtain rfl := Option.some.inj hm
      exact ⟨g, by rw [Table.load_persist, hgroup, if_pos rfl]⟩
    · obtain ⟨g', hg'⟩ := h.group id m hm
      exact ⟨g', groups.load_persist_of_some skip g hg'⟩
  · intro groupId g' hg'
    rw [Table.load_persist] at hg'
    split_ifs at hg' with hid
    · obtain rfl := Option.some.inj hg'
      refine ⟨members.freshId skip', owner, ?_, ⟨hgroup.trans hid.symm, huser⟩, hrole⟩
      rw [Table.load_persist, if_pos rfl]
    · obtain ⟨id, m, hm, hof, hm_role⟩ := h.creator groupId g' hg'
      exact ⟨id, m, members.load_persist_of_some skip' owner hm, hof, hm_role⟩
  · intro id m hm hm_role g' hg'
    rw [Table.load_persist] at hm
    split_ifs at hm
    · obtain rfl := Option.some.inj hm
      rw [Table.load_persist, hgroup, if_pos rfl] at hg'
      obtain rfl := Option.some.inj hg'
      exact huser
    · rw [Table.load_persist, if_neg (hold id m hm)] at hg'
      exact h.only id m hm hm_role g' hg'

/-- Adding a member to a group that exists. -/
theorem OneOwner.add {groups : Table Group} {members : Table GroupMember}
    (h : OneOwner groups members) (skip : ℕ) {m : GroupMember} {g : Group}
    (hgroup : groups.load m.groupId = some g) (hrole : m.role ≠ .owner)
    (haccepts : Accepts members m) : OneOwner groups (members.persist skip m) := by
  refine ⟨?_, unique_persist h.unique skip haccepts, ?_, ?_⟩
  · intro id n hn
    rw [Table.load_persist] at hn
    split_ifs at hn
    · obtain rfl := Option.some.inj hn
      exact ⟨g, hgroup⟩
    · exact h.group id n hn
  · intro groupId g' hg'
    obtain ⟨id, n, hn, hof, hn_role⟩ := h.creator groupId g' hg'
    exact ⟨id, n, members.load_persist_of_some skip m hn, hof, hn_role⟩
  · intro id n hn hn_role
    rw [Table.load_persist] at hn
    split_ifs at hn
    · obtain rfl := Option.some.inj hn
      exact absurd hn_role hrole
    · exact h.only id n hn hn_role

/-- Removing the membership of a user who is not the group's creator. -/
theorem OneOwner.remove {groups : Table Group} {members : Table GroupMember}
    (h : OneOwner groups members) {groupId : ℕ} {userUid : String} {g : Group}
    (hgroup : groups.load groupId = some g) (huser : userUid ≠ g.creatorUid) :
    OneOwner groups
        (members.erase fun m => m.groupId = groupId ∧ m.userUid = userUid) ∧
      ∀ id m, members.load id = some m → m.role = .owner →
        (members.erase fun m => m.groupId = groupId ∧ m.userUid = userUid).load id = some m := by
  have hstay : ∀ id m, members.load id = some m → m.role = .owner →
      (members.erase fun m => m.groupId = groupId ∧ m.userUid = userUid).load id = some m := by
    intro id m hm hrole
    refine members.load_erase.mpr ⟨hm, ?_⟩
    -- The membership of an owner in the group is its creator's.
    refine decide_eq_false fun hof => ?_
    have hcreator := h.only id m hm hrole g (by rw [hof.1]; exact hgroup)
    exact huser (hof.2.symm.trans hcreator)
  refine ⟨⟨?_, ?_, ?_, ?_⟩, hstay⟩
  · intro id m hm
    exact h.group id m (members.load_erase.mp hm).1
  · intro id₁ m₁ id₂ m₂ h₁ h₂
    exact h.unique id₁ m₁ id₂ m₂ (members.load_erase.mp h₁).1 (members.load_erase.mp h₂).1
  · intro groupId' g' hg'
    obtain ⟨id, m, hm, hof, hrole⟩ := h.creator groupId' g' hg'
    exact ⟨id, m, hstay id m hm hrole, hof, hrole⟩
  · intro id m hm
    exact h.only id m (members.load_erase.mp hm).1

/-! ## The three programs -/

/-- A group that was found is there. -/
theorem load_of_findGroupById {tx : Tx} {s : Stores} {groupId : ℕ} {g : Group}
    (h : (handle tx s (.findGroupById groupId)).1 = some g) :
    s.groups.load groupId = some g := by
  change findGroupById tx s.groups groupId = some g at h
  unfold findGroupById at h
  split_ifs at h
  exact h

/-- A membership that was found is there. -/
theorem load_of_findMember {tx : Tx} {s : Stores} {groupId : ℕ} {userUid : String}
    {row : ℕ × GroupMember} (h : (handle tx s (.findMember groupId userUid)).1 = some row) :
    s.members.load row.1 = some row.2 ∧ row.2.IsOf groupId userUid := by
  change findMember tx s.members groupId userUid = some row at h
  unfold findMember at h
  split_ifs at h
  have hmem := (tx.arrangement.mem_arrange _).mp (List.mem_of_head? h)
  obtain ⟨hrows, hof⟩ := List.mem_filter.mp hmem
  have hof' : row.2.groupId = groupId ∧ row.2.userUid = userUid := of_decide_eq_true hof
  exact ⟨s.members.mem_rows.mp hrows, hof'⟩

/-- `create_group` keeps the contract. -/
theorem safe_createGroup (now : ℤ) (request : CreateGroupRequest) (s : Stores) :
    Safe groupContract handle (fun _ _ _ => True) (.create now request) False
      (GroupService.createGroup now request) s := by
  unfold GroupService.createGroup
  by_cases hname : request.name = ""
  · rw [if_pos hname]
    exact safe_unchanged _ not_false
  rw [if_neg hname]
  by_cases hcreator : request.creatorUid = ""
  · rw [if_pos hcreator]
    exact safe_unchanged _ not_false
  rw [if_neg hcreator]
  refine safe_read (fun _ _ => rfl) OwnersStay.refl fun s₁ tx₁ _ _ => ?_
  rcases (handle tx₁ s₁ (.findByUid request.creatorUid)).1 with _ | creator
  · exact safe_unchanged _ not_false
  · -- Both rows are inserted, or none.
    refine safe_send fun s₂ tx₂ _ hinv _ => ?_
    rcases handle_createGroupWithOwner tx₂ s₂ ⟨request.name, request.creatorUid,
        if request.nowMs > 0 then request.nowMs else now⟩ ⟨0, request.creatorUid, .owner,
        if request.nowMs > 0 then request.nowMs else now⟩ with ⟨haccepts, heq⟩ | heq
    · rw [heq]
      refine ⟨OneOwner.create hinv tx₂.skip tx₂.skip' _ rfl rfl rfl haccepts, ⟨?_, ?_⟩,
        fun _ => ⟨_, rfl⟩⟩
      · intro groupId g hg
        exact s₂.groups.load_persist_of_some tx₂.skip _ hg
      · intro id m hm _
        exact s₂.members.load_persist_of_some tx₂.skip' _ hm
    · rw [heq]
      refine ⟨hinv, OwnersStay.refl s₂, safe_unchanged _ ?_⟩
      simp

/-- `join_group` keeps the contract. -/
theorem safe_joinGroup (now : ℤ) (groupId : ℕ) (userUid : String) (t : ℤ) (s : Stores) :
    Safe groupContract handle (fun _ _ _ => True) (.join now groupId userUid t) False
      (GroupService.joinGroup now groupId userUid t) s := by
  unfold GroupService.joinGroup
  refine safe_read (fun _ _ => rfl) OwnersStay.refl fun s₁ tx₁ _ _ => ?_
  rcases hfound : (handle tx₁ s₁ (.findGroupById groupId)).1 with _ | g
  · exact safe_unchanged _ not_false
  by_cases huid : userUid = ""
  · simp only [huid, if_true, Option.isNone_some, Bool.false_eq_true, if_false]
    exact safe_unchanged _ not_false
  simp only [huid, Option.isNone_some, Bool.false_eq_true, if_false]
  refine safe_read (fun _ _ => rfl) OwnersStay.refl fun s₂ tx₂ hrely₂ _ => ?_
  rcases (handle tx₂ s₂ (.findByUid userUid)).1 with _ | user
  · exact safe_unchanged _ not_false
  refine safe_read (fun _ _ => rfl) OwnersStay.refl fun s₃ tx₃ hrely₃ _ => ?_
  rcases (handle tx₃ s₃ (.findMember groupId userUid)).1 with _ | existing
  · -- The group is still there when the member is added.
    refine safe_send fun s₄ tx₄ hrely₄ hinv _ => ?_
    have hgroup : s₄.groups.load groupId = some g :=
      hrely₄.1 groupId g (hrely₃.1 groupId g (hrely₂.1 groupId g (load_of_findGroupById hfound)))
    rcases handle_addMember tx₄ s₄ ⟨groupId, userUid, .member, if t > 0 then t else now⟩ with
      ⟨haccepts, heq⟩ | heq
    · rw [heq]
      refine ⟨OneOwner.add hinv tx₄.skip hgroup (by simp) haccepts, ⟨fun _ _ h => h, ?_⟩,
        fun _ => ⟨_, rfl⟩⟩
      intro id m hm _
      exact s₄.members.load_persist_of_some tx₄.skip _ hm
    · rw [heq]
      refine ⟨hinv, OwnersStay.refl s₄, safe_unchanged _ ?_⟩
      simp
  · exact safe_unchanged _ not_false

/-- `leave_group` keeps the contract. -/
theorem safe_leaveGroup (groupId : ℕ) (userUid : String) (s : Stores) :
    Safe groupContract handle (fun _ _ _ => True) (.leave groupId userUid) False
      (GroupService.leaveGroup groupId userUid) s := by
  unfold GroupService.leaveGroup
  refine safe_read (fun _ _ => rfl) OwnersStay.refl fun s₁ tx₁ _ _ => ?_
  rcases hfound : (handle tx₁ s₁ (.findGroupById groupId)).1 with _ | g
  · exact safe_unchanged _ not_false
  refine safe_read (fun _ _ => rfl) OwnersStay.refl fun s₂ tx₂ hrely₂ hinv₂ => ?_
  rcases hmember : (handle tx₂ s₂ (.findMember groupId userUid)).1 with _ | row
  · exact safe_unchanged _ not_false
  by_cases hrole : row.2.role = .owner
  · simp only [hrole, if_true]
    exact safe_unchanged _ not_false
  simp only [hrole, if_false]
  -- The user was seen with another role, is therefore not the creator, and never becomes it.
  have hgroup₂ : s₂.groups.load groupId = some g :=
    hrely₂.1 groupId g (load_of_findGroupById hfound)
  obtain ⟨hrow, hgroupId, huserUid⟩ := load_of_findMember hmember
  have hne : userUid ≠ g.creatorUid := by
    rw [← huserUid]
    refine OneOwner.ne_creator hinv₂ hrow hrole ?_
    rw [hgroupId]
    exact hgroup₂
  refine safe_send fun s₃ tx₃ hrely₃ hinv _ => ?_
  rcases handle_removeMember tx₃ s₃ groupId userUid with heq | heq
  · rw [heq]
    obtain ⟨hinv', hstay⟩ := OneOwner.remove hinv (hrely₃.1 groupId g hgroup₂) hne
    exact ⟨hinv', ⟨fun _ _ h => h, hstay⟩, fun _ => ⟨_, rfl⟩⟩
  · rw [heq]
    refine ⟨hinv, OwnersStay.refl s₃, safe_unchanged _ ?_⟩
    simp

/-! ## Runs -/

/-- Every call keeps the contract. -/
theorem safe_groupCall (call : GroupCall) (s : Stores) :
    Safe groupContract handle (fun _ _ _ => True) call False call.program s := by
  cases call with
  | create now request => exact safe_createGroup now request s
  | join now groupId userUid t => exact safe_joinGroup now groupId userUid t s
  | leave groupId userUid => exact safe_leaveGroup groupId userUid s

/-- Tables with users but no group. -/
def withUsers (users : Users) : Stores := { Stores.empty with users := users }

/-- Every run that starts without groups is sound. -/
theorem groups_sound (users : Users) (turns : List (Turn GroupCall Tx)) :
    GroupsSound (withUsers users) turns := by
  have h0 : OneOwner (withUsers users).groups (withUsers users).members := by
    refine ⟨?_, ?_, ?_, ?_⟩
    · exact fun _ _ h => absurd h (by simp [withUsers, Stores.empty, Table.empty, Table.load])
    · exact fun _ _ _ _ h => absurd h (by simp [withUsers, Stores.empty, Table.empty, Table.load])
    · exact fun _ _ h => absurd h (by simp [withUsers, Stores.empty, Table.empty, Table.load])
    · exact fun _ _ h => absurd h (by simp [withUsers, Stores.empty, Table.empty, Table.load])
  have hrun : ∀ turns : List (Turn GroupCall Tx), EveryStep (step GroupCall.program handle)
      ⟨withUsers users, []⟩ (Meets fun _ _ _ => True) turns :=
    fun turns => everyStep_meets _ turns fun _ _ _ => trivial
  have hkept : ∀ turns, Kept groupContract handle (fun _ _ _ => True) GroupCall.program
      (withUsers users) turns (groupsAfter (withUsers users) turns) :=
    fun turns => safe_run h0 (fun call s _ => safe_groupCall call s) (hrun turns)
  refine ⟨?_, ?_, fun pre post _ => (hkept pre).inv.unique,
    fun pre post _ => (hkept pre).inv.group, ?_⟩
  · intro pre post _ groupId g hg
    obtain ⟨id, m, hm, hof, hrole⟩ := (hkept pre).inv.creator groupId g hg
    refine ⟨id, m, ⟨hm, hof, hrole⟩, fun id' m' hm' hgroup' hrole' => ?_⟩
    -- Another owner would be the creator too, and memberships are unique.
    have huser' := (hkept pre).inv.only id' m' hm' hrole' g (by rw [hgroup']; exact hg)
    exact (hkept pre).inv.unique id' m' id m hm' hm
      ⟨hgroup'.trans hof.1.symm, huser'.trans hof.2.symm⟩
  · rintro pre post rfl
    have hstay : OwnersStay (groupsAfter (withUsers users) pre).server
        (groupsAfter (withUsers users) (pre ++ post)).server :=
      rely_of_append (K := groupContract) h0 (fun call s _ => safe_groupCall call s)
        (hrun (pre ++ post))
    exact hstay.2
  · intro i call e hcall
    refine (hkept turns).not_changed hcall ?_
    rintro ⟨done, heq⟩
    exact absurd heq (by simp)

end MyChat.Social
