import MyChat.Lib.ByteText
import MyChat.Lib.CompositeKey
import Mathlib.Algebra.Order.BigOperators.Group.List

/-!
# Keyword and value strings

The connection strings of `libpq`: entries `keyword=value` with white space between them. A value
ends at white space unless it stands in single quotes, a backslash takes the next byte as it is, in
quotes too, and the string ends at its first zero byte, as strings in C do. `parse` reads the bytes
one at a time, with a `Scan` for what it is in the middle of.

A value that is `Plain` stands for itself (`parse_render`). The price of any other is counted: an
entry is paid for with at least the bytes of its keyword and its value and two more, and with one
byte more when the value is not plain (`cost_le_of_parse`). So a string that is no longer than its
plain entries need cannot hold an entry that is not plain.
-/

namespace MyChat.Conninfo

open ByteText CompositeKey

/-- A byte string. -/
abbrev Text := List UInt8

/-- What the parser is in the middle of. -/
inductive Scan where
  /-- Before a keyword. -/
  | blank
  /-- In a keyword. -/
  | name (k : Text)
  /-- After a keyword, before the equals sign. -/
  | named (k : Text)
  /-- After the equals sign, before the value. -/
  | assigned (k : Text)
  /-- In a value without quotes. -/
  | bare (k v : Text)
  /-- There, after a backslash. -/
  | bareEscape (k v : Text)
  /-- In a value in quotes. -/
  | quoted (k v : Text)
  /-- There, after a backslash. -/
  | quotedEscape (k v : Text)
  deriving DecidableEq, Repr

/-- One byte: the entries that are complete, and where the parser is; `none` is an error. -/
def step (state : List (Text × Text) × Scan) (c : UInt8) : Option (List (Text × Text) × Scan) :=
  let (done, scan) := state
  match scan with
  | .blank =>
    if isSpace c then some (done, .blank)
    else if c = 0x3d then none
    else some (done, .name [c])
  | .name k =>
    if c = 0x3d then some (done, .assigned k)
    else if isSpace c then some (done, .named k)
    else some (done, .name (k ++ [c]))
  | .named k =>
    if c = 0x3d then some (done, .assigned k)
    else if isSpace c then some (done, .named k)
    else none
  | .assigned k =>
    if isSpace c then some (done, .assigned k)
    else if c = 0x27 then some (done, .quoted k [])
    else if c = 0x5c then some (done, .bareEscape k [])
    else some (done, .bare k [c])
  | .bare k v =>
    if isSpace c then some (done ++ [(k, v)], .blank)
    else if c = 0x5c then some (done, .bareEscape k v)
    else some (done, .bare k (v ++ [c]))
  | .bareEscape k v => some (done, .bare k (v ++ [c]))
  | .quoted k v =>
    if c = 0x5c then some (done, .quotedEscape k v)
    else if c = 0x27 then some (done ++ [(k, v)], .blank)
    else some (done, .quoted k (v ++ [c]))
  | .quotedEscape k v => some (done, .quoted k (v ++ [c]))

/-- The end of the string. -/
def finish (state : List (Text × Text) × Scan) : Option (List (Text × Text)) :=
  let (done, scan) := state
  match scan with
  | .blank => some done
  | .name _ | .named _ | .quoted _ _ | .quotedEscape _ _ => none
  | .assigned k => some (done ++ [(k, [])])
  | .bare k v | .bareEscape k v => some (done ++ [(k, v)])

/-- The steps of a string. -/
def scan (state : List (Text × Text) × Scan) (text : Text) :
    Option (List (Text × Text) × Scan) := text.foldlM step state

/-- The entries of a string, in order; a zero byte ends it. -/
def parse (text : Text) : Option (List (Text × Text)) :=
  scan ([], .blank) (text.takeWhile (· ≠ 0)) >>= finish

/-- The value that a keyword has at the end: a later entry takes the place of an earlier one. -/
def setting (entries : List (Text × Text)) (k : Text) : Option Text :=
  (latest Prod.fst entries k).map Prod.snd

/-- A setting is a value that some entry has. -/
theorem mem_of_setting {entries : List (Text × Text)} {k v : Text}
    (h : setting entries k = some v) : (k, v) ∈ entries := by
  obtain ⟨entry, hentry, rfl⟩ := Option.map_eq_some_iff.mp h
  obtain ⟨hmem, rfl⟩ := latest_eq_some hentry
  exact hmem

/-- When every keyword stands once, each entry is a setting. -/
theorem setting_of_mem {entries : List (Text × Text)} (hnodup : (entries.map Prod.fst).Nodup)
    {entry : Text × Text} (h : entry ∈ entries) : setting entries entry.1 = some entry.2 := by
  obtain ⟨last, hlast⟩ : ∃ last, latest Prod.fst entries entry.1 = some last := exists_latest h
  obtain ⟨hmem, hkey⟩ := latest_eq_some hlast
  have hsame : last = entry := List.inj_on_of_nodup_map hnodup hmem h hkey
  rw [setting, hlast, hsame]
  rfl

/-! ## Plain values -/

/-- A value that stands for itself: no white space, no backslash, no zero byte, and no quote at its
start. -/
def Plain (v : Text) : Prop :=
  (∀ c ∈ v, isSpace c = false ∧ c ≠ 0x5c ∧ c ≠ 0) ∧ v.head? ≠ some 0x27

instance (v : Text) : Decidable (Plain v) := inferInstanceAs (Decidable (_ ∧ _))

/-- A keyword that stands for itself. -/
def PlainName (k : Text) : Prop := k ≠ [] ∧ ∀ c ∈ k, isSpace c = false ∧ c ≠ 0x3d ∧ c ≠ 0

instance (k : Text) : Decidable (PlainName k) := inferInstanceAs (Decidable (_ ∧ _))

/-- The text of an entry without quotes. -/
def renderEntry (entry : Text × Text) : Text := entry.1 ++ 0x3d :: entry.2

/-- Entries with blanks between them. -/
def render (entries : List (Text × Text)) : Text := [0x20].intercalate (entries.map renderEntry)

theorem render_cons_cons (entry entry' : Text × Text) (entries : List (Text × Text)) :
    render (entry :: entry' :: entries) =
      renderEntry entry ++ 0x20 :: render (entry' :: entries) := by
  simp [render, List.intercalate_cons_cons]

theorem render_cons (entry : Text × Text) (entries : List (Text × Text)) :
    render (entry :: entries) =
      renderEntry entry ++ entries.flatMap fun entry => 0x20 :: renderEntry entry := by
  induction entries generalizing entry with
  | nil => simp [render]
  | cons entry' entries ih =>
    rw [render_cons_cons, ih, List.flatMap_cons]
    rfl

theorem scan_cons {state state' : List (Text × Text) × Scan} {c : UInt8}
    (h : step state c = some state') (text : Text) : scan state (c :: text) = scan state' text := by
  rw [scan, List.foldlM_cons, h]
  rfl

theorem scan_append {state state' : List (Text × Text) × Scan} {as : Text}
    (h : scan state as = some state') (bs : Text) : scan state (as ++ bs) = scan state' bs := by
  rw [scan] at h
  rw [scan, List.foldlM_append, h]
  rfl

/-- The rest of a keyword. -/
theorem scan_name {done : List (Text × Text)} :
    ∀ {rest k : Text}, (∀ c ∈ rest, isSpace c = false ∧ c ≠ 0x3d ∧ c ≠ 0) →
      scan (done, .name k) rest = some (done, .name (k ++ rest))
  | [], k, _ => by rw [List.append_nil]; rfl
  | c :: rest, k, h => by
    obtain ⟨hspace, heq, -⟩ := h c List.mem_cons_self
    have hstep : step (done, .name k) c = some (done, .name (k ++ [c])) := by
      simp [step, hspace, heq]
    have ih : scan (done, .name (k ++ [c])) rest = some (done, .name (k ++ [c] ++ rest)) :=
      scan_name fun c hc => h c (List.mem_cons_of_mem _ hc)
    rw [scan_cons hstep, ih, List.append_assoc, List.singleton_append]

/-- The rest of a value without quotes. -/
theorem scan_bare {done : List (Text × Text)} {k : Text} :
    ∀ {rest v : Text}, (∀ c ∈ rest, isSpace c = false ∧ c ≠ 0x5c ∧ c ≠ 0) →
      scan (done, .bare k v) rest = some (done, .bare k (v ++ rest))
  | [], v, _ => by rw [List.append_nil]; rfl
  | c :: rest, v, h => by
    obtain ⟨hspace, hslash, -⟩ := h c List.mem_cons_self
    have hstep : step (done, .bare k v) c = some (done, .bare k (v ++ [c])) := by
      simp [step, hspace, hslash]
    have ih : scan (done, .bare k (v ++ [c])) rest = some (done, .bare k (v ++ [c] ++ rest)) :=
      scan_bare fun c hc => h c (List.mem_cons_of_mem _ hc)
    rw [scan_cons hstep, ih, List.append_assoc, List.singleton_append]

/-- A plain entry, up to the end of its value. -/
theorem scan_renderEntry {done : List (Text × Text)} {entry : Text × Text}
    (hname : PlainName entry.1) (hvalue : Plain entry.2) (hne : entry.2 ≠ []) :
    scan (done, .blank) (renderEntry entry) = some (done, .bare entry.1 entry.2) := by
  obtain ⟨k, v⟩ := entry
  obtain ⟨hk, hname⟩ := hname
  obtain ⟨hvalue, hquote⟩ := hvalue
  obtain ⟨c, k, rfl⟩ := List.exists_cons_of_ne_nil hk
  obtain ⟨d, v, rfl⟩ := List.exists_cons_of_ne_nil hne
  obtain ⟨hcspace, hceq, -⟩ := hname c List.mem_cons_self
  obtain ⟨hdspace, hdslash, -⟩ := hvalue d List.mem_cons_self
  have hdquote : d ≠ 0x27 := fun h => hquote (congrArg some h)
  have hfirst : step (done, .blank) c = some (done, .name [c]) := by simp [step, hcspace, hceq]
  have hrest : scan (done, .name [c]) k = some (done, .name (c :: k)) :=
    scan_name fun c hc => hname c (List.mem_cons_of_mem _ hc)
  have hassign : step (done, .name (c :: k)) 0x3d = some (done, .assigned (c :: k)) := by
    simp [step]
  have hstart : step (done, .assigned (c :: k)) d = some (done, .bare (c :: k) [d]) := by
    simp [step, hdspace, hdquote, hdslash]
  show scan (done, .blank) (c :: (k ++ 0x3d :: d :: v)) = _
  rw [scan_cons hfirst, scan_append hrest, scan_cons hassign, scan_cons hstart]
  exact scan_bare fun c hc => hvalue c (List.mem_cons_of_mem _ hc)

/-- Plain entries after complete ones. -/
theorem scan_render {done : List (Text × Text)} :
    ∀ {entries : List (Text × Text)}, entries ≠ [] →
      (∀ entry ∈ entries, PlainName entry.1 ∧ Plain entry.2 ∧ entry.2 ≠ []) →
      scan (done, .blank) (render entries) >>= finish = some (done ++ entries)
  | [entry], _, h => by
    obtain ⟨hname, hvalue, hne⟩ := h entry List.mem_cons_self
    have htext : render [entry] = renderEntry entry := List.intercalate_singleton
    rw [htext, scan_renderEntry hname hvalue hne]
    rfl
  | entry :: entry' :: entries, _, h => by
    obtain ⟨hname, hvalue, hne⟩ := h entry List.mem_cons_self
    have hblank : step (done, .bare entry.1 entry.2) 0x20 = some (done ++ [entry], .blank) := rfl
    have htext := render_cons_cons entry entry' entries
    have ih : scan (done ++ [entry], .blank) (render (entry' :: entries)) >>= finish =
        some (done ++ [entry] ++ entry' :: entries) :=
      scan_render (by simp) fun e he => h e (List.mem_cons_of_mem _ he)
    rw [htext, scan_append (scan_renderEntry hname hvalue hne), scan_cons hblank, ih,
      List.append_assoc, List.singleton_append]

theorem ne_zero_of_mem_render {entries : List (Text × Text)}
    (h : ∀ entry ∈ entries, PlainName entry.1 ∧ Plain entry.2) : ∀ c ∈ render entries, c ≠ 0 := by
  intro c hc
  have hparts : ∀ part ∈ entries.map renderEntry, ∀ c ∈ part, c ≠ 0 := by
    intro part hpart c hc
    obtain ⟨entry, hentry, rfl⟩ := List.mem_map.mp hpart
    obtain ⟨⟨-, hname⟩, hvalue, -⟩ := h entry hentry
    rcases List.mem_append.mp hc with hk | hv
    · exact (hname c hk).2.2
    · rcases List.mem_cons.mp hv with rfl | hv
      · decide
      · exact (hvalue c hv).2.2
  have hmem : ∀ parts : List Text, (∀ part ∈ parts, ∀ c ∈ part, c ≠ 0) →
      ∀ c ∈ [(0x20 : UInt8)].intercalate parts, c ≠ 0 := by
    intro parts
    induction parts with
    | nil => simp
    | cons part parts ih =>
      intro hp c hc
      cases parts with
      | nil => exact hp part List.mem_cons_self c (by simpa using hc)
      | cons part' parts =>
        rw [List.intercalate_cons_cons, List.mem_append, List.mem_append] at hc
        rcases hc with (hc | hc) | hc
        · exact hp part List.mem_cons_self c hc
        · rw [List.mem_singleton.mp hc]
          decide
        · exact ih (fun q hq => hp q (List.mem_cons_of_mem _ hq)) c hc
  exact hmem _ hparts c hc

/-- Plain entries are read back. -/
theorem parse_render {entries : List (Text × Text)} (hne : entries ≠ [])
    (h : ∀ entry ∈ entries, PlainName entry.1 ∧ Plain entry.2 ∧ entry.2 ≠ []) :
    parse (render entries) = some entries := by
  have hzero : (render entries).takeWhile (· ≠ 0) = render entries := by
    rw [List.takeWhile_eq_self_iff]
    intro c hc
    simpa using ne_zero_of_mem_render (fun e he => ⟨(h e he).1, (h e he).2.1⟩) c hc
  rw [parse, hzero, scan_render hne h]
  rfl

/-! ## What an entry costs -/

/-- What a value costs beyond its length: nothing when it is plain. -/
def excess (v : Text) : ℕ := if Plain v then 0 else 1

theorem excess_le_one (v : Text) : excess v ≤ 1 := by
  unfold excess
  split_ifs <;> omega

/-- A value that has begun stays plain with a byte that needs no backslash. -/
theorem excess_concat {v : Text} {c : UInt8} (hv : v ≠ []) (hspace : isSpace c = false)
    (hslash : c ≠ 0x5c) (hzero : c ≠ 0) : excess (v ++ [c]) ≤ excess v := by
  by_cases h : Plain v
  · have hplain : Plain (v ++ [c]) := by
      refine ⟨fun d hd => ?_, ?_⟩
      · rcases List.mem_append.mp hd with hd | hd
        · exact h.1 d hd
        · rw [List.mem_singleton.mp hd]
          exact ⟨hspace, hslash, hzero⟩
      · rw [List.head?_append_of_ne_nil _ hv]
        exact h.2
    rw [excess, if_pos hplain]
    exact Nat.zero_le _
  · have hone : excess v = 1 := if_neg h
    rw [hone]
    exact excess_le_one _

/-- The bytes that an entry takes at least, with one for the white space or the quotes after it. -/
def cost (entry : Text × Text) : ℕ := entry.1.length + entry.2.length + 2 + excess entry.2

/-- The bytes that the parser has taken at least for an entry that is not complete. -/
def Scan.paid : Scan → ℕ
  | .blank => 0
  | .name k | .named k => k.length
  | .assigned k => k.length + 1
  | .bare k v => k.length + 1 + v.length + excess v
  | .bareEscape k v | .quoted k v | .quotedEscape k v => k.length + 2 + v.length

/-- The parser has taken at least `n` bytes for what it has read, and a value without quotes has
begun. -/
def Paid (state : List (Text × Text) × Scan) (n : ℕ) : Prop :=
  (state.1.map cost).sum + state.2.paid ≤ n ∧ ∀ k v, state.2 = .bare k v → v ≠ []

theorem sum_cost_concat (done : List (Text × Text)) (entry : Text × Text) :
    ((done ++ [entry]).map cost).sum = (done.map cost).sum + cost entry := by
  simp

/-- A byte pays for what it adds. -/
theorem paid_step {state state' : List (Text × Text) × Scan} {c : UInt8} {n : ℕ}
    (h : step state c = some state') (hzero : c ≠ 0) (hpaid : Paid state n) :
    Paid state' (n + 1) := by
  obtain ⟨done, scan⟩ := state
  obtain ⟨hsum, hbegun⟩ := hpaid
  have hlen : ∀ v : Text, (v ++ [c]).length = v.length + 1 := fun v => by simp
  cases scan with
  | blank =>
    simp only [step, Scan.paid] at h hsum
    split_ifs at h <;> obtain rfl := Option.some.inj h
    · exact ⟨by simp only [Scan.paid]; omega, by simp⟩
    · exact ⟨by simp only [Scan.paid, List.length_singleton]; omega, by simp⟩
  | name k =>
    simp only [step, Scan.paid] at h hsum
    split_ifs at h <;> obtain rfl := Option.some.inj h
    · exact ⟨by simp only [Scan.paid]; omega, by simp⟩
    · exact ⟨by simp only [Scan.paid]; omega, by simp⟩
    · exact ⟨by simp only [Scan.paid, hlen]; omega, by simp⟩
  | named k =>
    simp only [step, Scan.paid] at h hsum
    split_ifs at h <;> obtain rfl := Option.some.inj h
    · exact ⟨by simp only [Scan.paid]; omega, by simp⟩
    · exact ⟨by simp only [Scan.paid]; omega, by simp⟩
  | assigned k =>
    simp only [step, Scan.paid] at h hsum
    split_ifs at h with hspace hquote hslash <;> obtain rfl := Option.some.inj h
    · exact ⟨by simp only [Scan.paid]; omega, by simp⟩
    · exact ⟨by simp only [Scan.paid, List.length_nil]; omega, by simp⟩
    · exact ⟨by simp only [Scan.paid, List.length_nil]; omega, by simp⟩
    · -- A value that begins with this byte needs no quotes so far.
      have hplain : excess [c] = 0 := by
        refine if_pos ⟨fun d hd => ?_, fun hd => hquote (Option.some.inj hd)⟩
        rw [List.mem_singleton.mp hd]
        exact ⟨Bool.eq_false_iff.mpr hspace, hslash, hzero⟩
      exact ⟨by simp only [Scan.paid, hplain, List.length_singleton]; omega, by simp⟩
  | bare k v =>
    simp only [step, Scan.paid] at h hsum
    have hv : v ≠ [] := hbegun k v rfl
    have hle := excess_le_one v
    split_ifs at h with hspace hslash <;> obtain rfl := Option.some.inj h
    · -- White space ends the entry, and pays for the last byte of its cost.
      refine ⟨?_, by simp⟩
      simp only [Scan.paid, sum_cost_concat, cost]
      omega
    · exact ⟨by simp only [Scan.paid]; omega, by simp⟩
    · have hplain := excess_concat hv (Bool.eq_false_iff.mpr hspace) hslash hzero
      exact ⟨by simp only [Scan.paid, hlen]; omega, by simp⟩
  | bareEscape k v =>
    simp only [step, Scan.paid] at h hsum
    obtain rfl := Option.some.inj h
    have hle := excess_le_one (v ++ [c])
    refine ⟨by simp only [Scan.paid, hlen]; omega, ?_⟩
    rintro k' v' hkv
    obtain ⟨-, rfl⟩ := Scan.bare.inj hkv
    simp
  | quoted k v =>
    simp only [step, Scan.paid] at h hsum
    have hle := excess_le_one v
    split_ifs at h <;> obtain rfl := Option.some.inj h
    · exact ⟨by simp only [Scan.paid]; omega, by simp⟩
    · -- The two quotes pay for a value that is not plain.
      refine ⟨?_, by simp⟩
      simp only [Scan.paid, sum_cost_concat, cost]
      omega
    · exact ⟨by simp only [Scan.paid, hlen]; omega, by simp⟩
  | quotedEscape k v =>
    simp only [step, Scan.paid] at h hsum
    obtain rfl := Option.some.inj h
    exact ⟨by simp only [Scan.paid, hlen]; omega, by simp⟩

/-- The bytes of a string pay for what they add. -/
theorem paid_scan : ∀ {text : Text} {state state' : List (Text × Text) × Scan} {n : ℕ},
    scan state text = some state' → (∀ c ∈ text, c ≠ 0) → Paid state n →
      Paid state' (n + text.length)
  | [], state, state', n, h, _, hpaid => by
    obtain rfl := Option.some.inj h
    exact hpaid
  | c :: text, state, state', n, h, hzero, hpaid => by
    cases hstep : step state c with
    | none =>
      rw [scan, List.foldlM_cons, hstep] at h
      exact absurd h (by simp)
    | some next =>
      rw [scan_cons hstep] at h
      have hnext := paid_step hstep (hzero c List.mem_cons_self) hpaid
      have ih := paid_scan h (fun d hd => hzero d (List.mem_cons_of_mem _ hd)) hnext
      rw [List.length_cons, Nat.add_comm text.length, ← Nat.add_assoc]
      exact ih

/-- What the end of the string completes costs at most one byte more. -/
theorem cost_finish {state : List (Text × Text) × Scan} {entries : List (Text × Text)} {n : ℕ}
    (h : finish state = some entries) (hpaid : Paid state n) :
    (entries.map cost).sum ≤ n + 1 := by
  obtain ⟨done, scan⟩ := state
  obtain ⟨hsum, -⟩ := hpaid
  cases scan with
  | blank =>
    obtain rfl := Option.some.inj h
    simp only [Scan.paid] at hsum
    omega
  | assigned k =>
    obtain rfl := Option.some.inj h
    have hplain : excess [] = 0 := by decide +kernel
    simp only [Scan.paid] at hsum
    simp only [sum_cost_concat, cost, hplain, List.length_nil]
    omega
  | bare k v =>
    obtain rfl := Option.some.inj h
    simp only [Scan.paid] at hsum
    simp only [sum_cost_concat, cost]
    omega
  | bareEscape k v =>
    obtain rfl := Option.some.inj h
    have hle := excess_le_one v
    simp only [Scan.paid] at hsum
    simp only [sum_cost_concat, cost]
    omega
  | name k => exact absurd h (by simp [finish])
  | named k => exact absurd h (by simp [finish])
  | quoted k v => exact absurd h (by simp [finish])
  | quotedEscape k v => exact absurd h (by simp [finish])

/-- The entries of a string cost at most one byte more than it has before its first zero byte. -/
theorem cost_le_of_parse {text : Text} {entries : List (Text × Text)}
    (h : parse text = some entries) :
    (entries.map cost).sum ≤ (text.takeWhile (· ≠ 0)).length + 1 := by
  obtain ⟨state, hscan, hfinish⟩ := Option.bind_eq_some_iff.mp h
  have hzero : ∀ c ∈ text.takeWhile (· ≠ 0), c ≠ 0 := fun c hc => by
    simpa using List.mem_takeWhile_imp hc
  have hstart : Paid ([], .blank) 0 := ⟨Nat.le_refl 0, by simp⟩
  have hend := paid_scan hscan hzero hstart
  rw [Nat.zero_add] at hend
  exact cost_finish hfinish hend

/-! ## Reading back what was written -/

/-- The length of a text of entries. -/
theorem length_render {entries : List (Text × Text)} (hne : entries ≠ []) :
    (render entries).length + 1 =
      (entries.map fun entry => entry.1.length + entry.2.length + 2).sum := by
  induction entries with
  | nil => exact absurd rfl hne
  | cons entry entries ih =>
    have hentry : (renderEntry entry).length = entry.1.length + entry.2.length + 1 := by
      rw [renderEntry, List.length_append, List.length_cons, Nat.add_assoc]
    cases entries with
    | nil =>
      have htext : render [entry] = renderEntry entry := List.intercalate_singleton
      rw [htext, hentry]
      simp
    | cons entry' entries =>
      have htext := render_cons_cons entry entry' entries
      have hrest := ih (by simp)
      rw [htext, List.map_cons, List.sum_cons, ← hrest, List.length_append, List.length_cons,
        hentry]
      omega

/-- When the written entries are among those that are read, each of them is plain. -/
theorem plain_of_subset {entries read : List (Text × Text)} (hne : entries ≠ [])
    (hnodup : entries.Nodup) (hparse : parse (render entries) = some read)
    (hsub : ∀ entry ∈ entries, entry ∈ read) : ∀ entry ∈ entries, Plain entry.2 := by
  -- The entries cost what the text has, so nothing is left for an entry that is not plain.
  have hcost := cost_le_of_parse hparse
  have hcut : ((render entries).takeWhile (· ≠ 0)).length ≤ (render entries).length :=
    (List.takeWhile_prefix _).length_le
  have hlen := length_render hne
  have hread : (entries.map cost).sum ≤ (read.map cost).sum := by
    obtain ⟨some, hperm, hsublist⟩ := hnodup.subperm hsub
    rw [← (hperm.map cost).sum_eq]
    exact (hsublist.map cost).sum_le_sum fun _ _ => Nat.zero_le _
  have hsplit : (entries.map cost).sum =
      (entries.map fun entry => entry.1.length + entry.2.length + 2).sum +
        (entries.map fun entry => excess entry.2).sum := by
    rw [← List.sum_map_add]
    rfl
  have hzero : (entries.map fun entry => excess entry.2).sum = 0 := by omega
  intro entry hentry
  have hnone : excess entry.2 = 0 :=
    List.sum_eq_zero_iff_forall_eq_nat.mp hzero _ (List.mem_map_of_mem hentry)
  by_contra hplain
  rw [excess, if_neg hplain] at hnone
  exact absurd hnone (by decide)

end MyChat.Conninfo
