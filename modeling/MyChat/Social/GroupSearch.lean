import MyChat.Social.Reading

/-!
# Searching for groups

What `search_groups` returns, against what it is asked for: the groups whose number is the keyword
or whose name has it in it. The keyword goes two ways. `std::stoull` reads a number from its
beginning and leaves out what comes after, and a group with that number is returned alone; else the
keyword goes into a `LIKE` pattern as it is, where `%`, `_`, and a backslash have a meaning of their
own.

`findsMatches_iff` says for which keywords the answer is right, whatever groups there are, in
whatever order the database returns rows: those without these characters that begin with no number.
For a keyword that does begin with one, the answer depends on the groups.
-/

namespace MyChat.Social

open Rpc GroupRepository

/-! ## What a search should find -/

/-- The group's number is the keyword, or its name has the keyword in it. -/
def Matches (keyword : String) (row : ℕ × Group) : Prop :=
  toString row.1 = keyword ∨ keyword.toList <:+: row.2.name.toList

instance (keyword : String) (row : ℕ × Group) : Decidable (Matches keyword row) :=
  inferInstanceAs (Decidable (_ ∨ _))

/-- The groups that a search is about. -/
def matchingGroups (groups : Table Group) (keyword : String) : List (ℕ × Group) :=
  groups.rows.filter fun row => Matches keyword row

/-- In whatever order the database returns rows, each group that the search returns matches the
keyword, and when at most `limit` groups match, each of them is returned once. -/
def FindsMatches (s : Stores) (keyword : String) (limit : ℕ) : Prop :=
  ∀ tx : Command → Tx, (∀ c, (tx c).commits = true) →
    (∀ row ∈ result tx s (searchGroups keyword limit),
      row ∈ s.groups.rows ∧ Matches keyword row) ∧
    ((matchingGroups s.groups keyword).length ≤ limit → ∀ row ∈ s.groups.rows,
      Matches keyword row → (result tx s (searchGroups keyword limit)).count row = 1)

/-! ## Where the keyword goes -/

/-- The group whose number `std::stoull` reads from the keyword. -/
def foundById (groups : Table Group) (keyword : String) : Option (ℕ × Group) :=
  (stoull keyword).bind fun id => (groups.load id).map fun g => (id, g)

/-- The pattern of the search by name matches the group. -/
def matchesPattern (keyword : String) (row : ℕ × Group) : Bool :=
  like ("%" ++ keyword ++ "%").toList row.2.name.toList

/-- The groups have numbers as the database gives them: from one on, in 64 bits. -/
def NumberedFromOne (groups : Table Group) : Prop := ∀ row ∈ groups.rows, 0 < row.1 ∧ row.1 < 2 ^ 64

instance (groups : Table Group) : Decidable (NumberedFromOne groups) :=
  inferInstanceAs (Decidable (∀ row ∈ groups.rows, _))

/-- The keyword has no character of a pattern, and `std::stoull` reads from its beginning no number
that a group can have. -/
def IsWord (keyword : String) : Prop :=
  (∀ c ∈ keyword.toList, IsPlain c) ∧ ∀ id ∈ stoull keyword, id = 0

/-- The keyword is the number of a group, and is in the name of no other group. -/
def IsNumberOfOne (groups : Table Group) (keyword : String) : Prop :=
  ∃ row ∈ groups.rows, toString row.1 = keyword ∧
    ∀ row' ∈ groups.rows, keyword.toList <:+: row'.2.name.toList → row' = row

variable {s : Stores} {keyword : String} {limit : ℕ}

theorem foundById_mem {groups : Table Group} {row : ℕ × Group}
    (h : foundById groups keyword = some row) : row ∈ groups.rows := by
  obtain ⟨id, -, hload⟩ := Option.bind_eq_some_iff.mp h
  obtain ⟨g, hg, rfl⟩ := Option.map_eq_some_iff.mp hload
  exact groups.mem_rows.mpr hg

/-- The result of a search, when its transactions commit. -/
theorem result_searchGroups {tx : Command → Tx} (htx : ∀ c, (tx c).commits = true)
    (hkeyword : keyword ≠ "") (hlimit : 0 < limit) :
    result tx s (searchGroups keyword limit) =
      match foundById s.groups keyword with
      | some row => [row]
      | none => ((tx (.searchByName keyword limit)).arrangement.arrange
          (s.groups.rows.filter (matchesPattern keyword))).take limit := by
  have hname : result tx s (query (.searchByName keyword limit)) =
      ((tx (.searchByName keyword limit)).arrangement.arrange
        (s.groups.rows.filter (matchesPattern keyword))).take limit := by
    show searchByName (tx _) s.groups keyword limit = _
    rw [searchByName, if_pos (htx _)]
    rfl
  have hparams : ¬ (keyword = "" ∨ limit = 0) := by
    rintro (hempty | hzero)
    · exact hkeyword hempty
    · omega
  unfold searchGroups
  rw [if_neg hparams]
  cases hid : stoull keyword with
  | none =>
    have hnone : foundById s.groups keyword = none := by rw [foundById, hid]; rfl
    rw [hnone]
    exact hname
  | some id =>
    have hfind : result tx s (query (.findGroupById id)) = s.groups.load id := by
      show findGroupById (tx _) s.groups id = _
      rw [findGroupById, if_pos (htx _)]
    dsimp only
    rw [result_bind_of_reads (reads_query fun _ _ => rfl), hfind]
    cases hload : s.groups.load id with
    | none =>
      -- It is the number of no group, and the search goes on by name.
      have hnone : foundById s.groups keyword = none := by
        rw [foundById, hid, Option.bind_some, hload]; rfl
      rw [hnone]
      exact hname
    | some g =>
      have hsome : foundById s.groups keyword = some (id, g) := by
        rw [foundById, hid, Option.bind_some, hload]; rfl
      rw [hsome]
      rfl

/-! ## When the search is right -/

theorem nodup_rows {ρ : Type} (t : Table ρ) : t.rows.Nodup := t.nodup.of_map

theorem mem_matchingGroups {groups : Table Group} {row : ℕ × Group} :
    row ∈ matchingGroups groups keyword ↔ row ∈ groups.rows ∧ Matches keyword row := by
  rw [matchingGroups, List.mem_filter, decide_eq_true_iff]

/-- A search by number finds the group that it should. -/
theorem findsMatches_of_foundById {row : ℕ × Group} (hkeyword : keyword ≠ "") (hlimit : 0 < limit)
    (hfound : foundById s.groups keyword = some row) :
    FindsMatches s keyword limit ↔ Matches keyword row ∧
      ((matchingGroups s.groups keyword).length ≤ limit →
        ∀ row' ∈ s.groups.rows, Matches keyword row' → row' = row) := by
  have hresult : ∀ tx : Command → Tx, (∀ c, (tx c).commits = true) →
      result tx s (searchGroups keyword limit) = [row] := by
    intro tx htx
    rw [result_searchGroups htx hkeyword hlimit, hfound]
  constructor
  · intro h
    obtain ⟨hsound, hcomplete⟩ := h (fun _ => .commit) fun _ => rfl
    rw [hresult _ fun _ => rfl] at hsound hcomplete
    refine ⟨(hsound row List.mem_cons_self).2, fun hfew row' hrow' hmatches => ?_⟩
    have hcount := hcomplete hfew row' hrow' hmatches
    exact List.mem_singleton.mp (List.count_pos_iff.mp (by omega))
  · rintro ⟨hmatches, honly⟩ tx htx
    rw [hresult tx htx]
    constructor
    · intro row' hrow'
      obtain rfl := List.mem_singleton.mp hrow'
      exact ⟨foundById_mem hfound, hmatches⟩
    · intro hfew row' hrow' hmatches'
      rw [honly hfew row' hrow' hmatches', List.count_singleton_self]

/-- A search by name finds the groups that it should. -/
theorem findsMatches_of_not_foundById (hkeyword : keyword ≠ "") (hlimit : 0 < limit)
    (hfound : foundById s.groups keyword = none) :
    FindsMatches s keyword limit ↔ ∀ row ∈ s.groups.rows,
      (matchesPattern keyword row → Matches keyword row) ∧
      ((matchingGroups s.groups keyword).length ≤ limit →
        Matches keyword row → matchesPattern keyword row) := by
  have hresult : ∀ tx : Command → Tx, (∀ c, (tx c).commits = true) →
      result tx s (searchGroups keyword limit) =
        ((tx (.searchByName keyword limit)).arrangement.arrange
          (s.groups.rows.filter (matchesPattern keyword))).take limit := by
    intro tx htx
    rw [result_searchGroups htx hkeyword hlimit, hfound]
  constructor
  · intro h row hrow
    constructor
    · -- The database may return this row first, and the limit leaves room for one.
      intro hpattern
      obtain ⟨π, rest, hfirst⟩ :=
        Arrangement.exists_arrange_eq_cons _ (List.mem_filter.mpr ⟨hrow, hpattern⟩)
      have hmem : row ∈ result (fun _ => ⟨true, 0, 0, π⟩) s (searchGroups keyword limit) := by
        obtain ⟨n, rfl⟩ : ∃ n, limit = n + 1 := ⟨limit - 1, by omega⟩
        rw [hresult _ fun _ => rfl, hfirst, List.take_succ_cons]
        exact List.mem_cons_self
      exact ((h _ fun _ => rfl).1 row hmem).2
    · intro hfew hmatches
      have hcount := (h (fun _ => .commit) fun _ => rfl).2 hfew row hrow hmatches
      rw [hresult _ fun _ => rfl] at hcount
      have hmem := List.count_pos_iff.mp (lt_of_lt_of_eq Nat.one_pos hcount.symm)
      exact (List.mem_filter.mp ((Arrangement.mem_arrange _ _).mp (List.mem_of_mem_take hmem))).2
  · intro h tx htx
    rw [hresult tx htx]
    constructor
    · intro row hrow
      have hmem := (Arrangement.mem_arrange _ _).mp (List.mem_of_mem_take hrow)
      obtain ⟨hrow, hpattern⟩ := List.mem_filter.mp hmem
      exact ⟨hrow, (h row hrow).1 hpattern⟩
    · intro hfew row hrow hmatches
      -- The pattern matches what the keyword does, so that the limit cuts nothing.
      have hsame : s.groups.rows.filter (matchesPattern keyword) =
          matchingGroups s.groups keyword := by
        refine List.filter_congr fun row' hrow' => ?_
        rw [Bool.eq_iff_iff, decide_eq_true_iff]
        exact ⟨(h row' hrow').1, (h row' hrow').2 hfew⟩
      have hperm := (tx (.searchByName keyword limit)).arrangement.arrange_perm
        (matchingGroups s.groups keyword)
      rw [hsame, List.take_of_length_le (by rw [hperm.length_eq]; exact hfew), hperm.count_eq]
      exact List.count_eq_one_of_mem ((nodup_rows _).filter _)
        (mem_matchingGroups.mpr ⟨hrow, hmatches⟩)

/-- The search is right for a keyword without the characters of a pattern that is not read as the
number of a group. -/
theorem findsMatches_of_plain (hids : ∀ row ∈ s.groups.rows, row.1 < 2 ^ 64)
    (hkeyword : keyword ≠ "") (hlimit : 0 < limit) (hplain : ∀ c ∈ keyword.toList, IsPlain c)
    (hfound : foundById s.groups keyword = none) : FindsMatches s keyword limit := by
  rw [findsMatches_of_not_foundById hkeyword hlimit hfound]
  intro row hrow
  have hpattern : matchesPattern keyword row ↔ keyword.toList <:+: row.2.name.toList := by
    rw [← like_infix_of_plain hplain]
    simp [matchesPattern, String.toList_append]
  refine ⟨fun h => .inr (hpattern.mp h), fun _ hmatches => hpattern.mpr ?_⟩
  rcases hmatches with rfl | hname
  · -- A number is read back, and would have led to its group.
    rw [foundById, stoull_toString (hids row hrow), Option.bind_some,
      s.groups.mem_rows.mp hrow] at hfound
    exact absurd hfound (by simp)
  · exact hname

/-- The search is right for the number of a group that is in no other group's name. -/
theorem findsMatches_of_number (hids : NumberedFromOne s.groups) (hkeyword : keyword ≠ "")
    (hlimit : 0 < limit) (h : IsNumberOfOne s.groups keyword) : FindsMatches s keyword limit := by
  obtain ⟨row, hrow, rfl, hothers⟩ := h
  have hload : s.groups.load row.1 = some row.2 := s.groups.mem_rows.mp hrow
  have hfound : foundById s.groups (toString row.1) = some row := by
    rw [foundById, stoull_toString (hids row hrow).2, Option.bind_some, hload, Option.map_some]
  rw [findsMatches_of_foundById hkeyword hlimit hfound]
  refine ⟨.inl rfl, fun _ row' hrow' hmatches => ?_⟩
  rcases hmatches with hnumber | hname
  · -- No two groups have one number.
    have hread := congrArg stoull hnumber
    rw [stoull_toString (hids row' hrow').2, stoull_toString (hids row hrow).2] at hread
    have hid : row'.1 = row.1 := Option.some.inj hread
    have hload' := s.groups.mem_rows.mp hrow'
    rw [hid, hload] at hload'
    exact Prod.ext hid (Option.some.inj hload').symm
  · exact hothers row' hrow' hname

/-! ## When it is not -/

/-- A store with these groups and nothing else. -/
def storeWith (groups : Table Group) : Stores where
  users := .empty
  friends := .empty
  groups := groups
  members := .empty
  groupMessages := .empty

/-- A group with the number, and one with another number whose name is the keyword. -/
def numberAndName (id : ℕ) (keyword : String) : Table Group where
  rows := [(id, ⟨"", "", 0⟩), (if id = 1 then 2 else 1, ⟨keyword, "", 0⟩)]
  nextId := id + 2
  lt_nextId := by
    simp only [List.forall_mem_cons]
    exact ⟨by omega, by split_ifs <;> omega, fun row hrow => absurd hrow List.not_mem_nil⟩
  nodup := by
    simp only [List.map_cons, List.map_nil, List.nodup_cons, List.mem_singleton]
    exact ⟨by split_ifs <;> omega, List.not_mem_nil, List.nodup_nil⟩

/-- One group with the name. -/
def oneNamed (name : String) : Table Group := Table.empty.persist 0 ⟨name, "", 0⟩

/-- A keyword that begins with a number leads to the group with this number alone. -/
theorem not_findsMatches_of_number {id : ℕ} (hkeyword : keyword ≠ "") (hid : id ∈ stoull keyword) :
    ¬ FindsMatches (storeWith (numberAndName id keyword)) keyword 2 := by
  have hload : (numberAndName id keyword).load id = some ⟨"", "", 0⟩ := by
    simp [Table.load, numberAndName]
  have hfound : foundById (storeWith (numberAndName id keyword)).groups keyword =
      some (id, ⟨"", "", 0⟩) := by
    show (stoull keyword).bind (fun id' => _) = _
    rw [Option.mem_def.mp hid, Option.bind_some]
    show ((numberAndName id keyword).load id).map _ = _
    rw [hload, Option.map_some]
  rw [findsMatches_of_foundById hkeyword (by decide) hfound]
  rintro ⟨-, honly⟩
  have hnamed := honly (List.length_filter_le _ _) (if id = 1 then 2 else 1, ⟨keyword, "", 0⟩)
    (List.mem_cons_of_mem _ List.mem_cons_self) (.inr List.infix_rfl)
  exact hkeyword (congrArg (fun row => row.2.name) hnamed)

/-- A keyword with a character of a pattern finds a group that does not have it in its name. -/
theorem not_findsMatches_of_pattern (hkeyword : keyword ≠ "")
    (hword : ∀ id ∈ stoull keyword, id = 0) (hpattern : ¬ ∀ c ∈ keyword.toList, IsPlain c) :
    ∃ name, ¬ FindsMatches (storeWith (oneNamed name)) keyword 1 := by
  obtain ⟨text, hlike, hnot⟩ := exists_like_not_infix hpattern
  refine ⟨String.ofList text, fun h => ?_⟩
  have hfound : foundById (oneNamed (String.ofList text)) keyword = none := by
    rw [foundById, Option.bind_eq_none_iff]
    intro id hid
    rw [hword id hid]
    rfl
  have hmatched : matchesPattern keyword (1, ⟨String.ofList text, "", 0⟩) = true := by
    simpa [matchesPattern, String.toList_append] using hlike
  rw [findsMatches_of_not_foundById hkeyword (by decide) hfound] at h
  rcases (h _ List.mem_cons_self).1 hmatched with hone | hname
  · -- A number has no such character.
    have hnumeral : toString 1 = keyword := hone
    exact hpattern (hnumeral ▸ isPlain_of_all (by decide))
  · exact hnot (by simpa using hname)

/-- Whatever groups there are, with numbers from one on, and whatever the limit is, a search finds
the groups that it should, exactly when the keyword has no character of a pattern and does not begin
with a number. For any other keyword of plain characters, it does so among groups of which none has
the number that the keyword begins with, and among groups of which one has the keyword as its number
and no other has it in its name. -/
theorem findsMatches_iff (hkeyword : keyword ≠ "") :
    ((∀ s limit, NumberedFromOne s.groups → 0 < limit → FindsMatches s keyword limit) ↔
      IsWord keyword) ∧
    ∀ s limit, NumberedFromOne s.groups → 0 < limit →
      ((∀ c ∈ keyword.toList, IsPlain c) ∧ foundById s.groups keyword = none) ∨
        IsNumberOfOne s.groups keyword → FindsMatches s keyword limit := by
  refine ⟨⟨fun h => ?_, fun hword s limit hids hlimit => ?_⟩, ?_⟩
  · have hword : ∀ id ∈ stoull keyword, id = 0 := by
      intro id hid
      by_contra hne
      have hrange : NumberedFromOne (numberAndName id keyword) := by
        have hlt := stoull_lt hid
        simp only [NumberedFromOne, numberAndName, List.forall_mem_cons]
        exact ⟨⟨by omega, hlt⟩, ⟨by split_ifs <;> omega, by split_ifs <;> omega⟩,
          fun row hrow => absurd hrow List.not_mem_nil⟩
      exact not_findsMatches_of_number hkeyword hid (h _ 2 hrange (by decide))
    refine ⟨?_, hword⟩
    by_contra hpattern
    obtain ⟨name, hnot⟩ := not_findsMatches_of_pattern hkeyword hword hpattern
    refine hnot (h _ 1 ?_ (by decide))
    exact List.forall_mem_singleton.mpr ⟨Nat.one_pos, Nat.one_lt_two_pow (by decide)⟩
  · have hfound : foundById s.groups keyword = none := by
      rw [foundById, Option.bind_eq_none_iff]
      intro id hid
      rw [hword.2 id hid, Option.map_eq_none_iff, Option.eq_none_iff_forall_ne_some]
      intro g hg
      exact absurd (hids _ (s.groups.mem_rows.mpr hg)).1 (lt_irrefl 0)
    exact findsMatches_of_plain (fun row hrow => (hids row hrow).2) hkeyword hlimit hword.1 hfound
  · rintro s limit hids hlimit (⟨hplain, hfound⟩ | hnumber)
    · exact findsMatches_of_plain (fun row hrow => (hids row hrow).2) hkeyword hlimit hplain hfound
    · exact findsMatches_of_number hids hkeyword hlimit hnumber

/-! ### Two groups -/

/-- A group with a number, and one whose name begins with that number. -/
def chessAndSoda : Stores where
  users := .empty
  friends := .empty
  groups := ((Table.empty.persist 6 ⟨"Chess", "u1", 0⟩).persist 0 ⟨"7up fans", "u2", 0⟩)
  members := .empty
  groupMessages := .empty

/-- A search by a word finds the group that has it in its name, and a search by a number the group
that has it. -/
theorem findsMatches_chess :
    FindsMatches chessAndSoda "Ches" 20 ∧ FindsMatches chessAndSoda "8" 20 :=
  ⟨(findsMatches_iff (by decide)).1.mpr ⟨isPlain_of_all (by decide), by decide⟩ _ _
      (by decide +kernel) (by decide),
    (findsMatches_iff (by decide)).2 _ _ (by decide +kernel) (by decide)
      (.inr ⟨(8, ⟨"7up fans", "u2", 0⟩), by decide, by decide, by decide⟩)⟩

/-- A search for `7up` finds group 7 alone, and a search for `%` every group. -/
theorem not_findsMatches :
    ¬ FindsMatches chessAndSoda "7up" 20 ∧ ¬ FindsMatches chessAndSoda "%" 20 := by
  constructor
  · have hfound : foundById chessAndSoda.groups "7up" = some (7, ⟨"Chess", "u1", 0⟩) := by decide
    rw [findsMatches_of_foundById (by decide) (by decide) hfound]
    rintro ⟨hmatches, -⟩
    exact absurd hmatches (by decide)
  · rw [findsMatches_of_not_foundById (by decide) (by decide) (by decide)]
    intro h
    have hchess := (h (7, ⟨"Chess", "u1", 0⟩) (by decide)).1 (by decide)
    exact absurd hchess (by decide)

end MyChat.Social
