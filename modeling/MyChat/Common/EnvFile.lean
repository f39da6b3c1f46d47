import MyChat.Common.ConfigManager
import MyChat.Lib.Run

/-!
# Values of a file, read as strings

`loadEnvFile` takes lines `KEY=VALUE` and gives each value a JSON type by its spelling. A typed read
of a string finds a value only when it is a string in the tree, and otherwise gives the default: of
`10.0.0.5` the tree has the number that the text begins with.

`readable_iff` says of a whole file when all of its values are read back: when none is spelled as a
number or a truth value, and the root of the tree takes the keys. A line that is not ready
when its turn comes (`Ready`) is not read back, whatever comes after it (`readable_iff_ready`).
-/

namespace MyChat.Common

open Codec ByteText JsonPointer Run

variable {F : Type} {format : Format F} {s : ConfigManager F} {overrideExisting : Bool}

/-! ## Lines -/

/-- A line `KEY=VALUE`. -/
structure EnvLine where
  /-- `KEY`. -/
  key : Text
  /-- `VALUE`, which may have spaces and quotes around it. -/
  value : Text
  /-- There are no spaces around the key. -/
  trim_key : trim key = key
  /-- The key ends at the first `=`. -/
  key_named : 0x3d ∉ key
  /-- The line is no comment. -/
  key_head : key.head? ≠ some 0x23
  /-- The line is one line. -/
  one_line : 0x0a ∉ key ∧ 0x0a ∉ value

namespace EnvLine

/-- The text of a line. -/
def text (line : EnvLine) : Text := line.key ++ 0x3d :: line.value

/-- The value without the spaces around it, and without one pair of quotes. -/
def entry (line : EnvLine) : Text × Text := (line.key, ConfigManager.unquote (trim line.value))

/-- A file of lines, whose last line may end with a newline. -/
def file (lines : List EnvLine) (terminated : Bool) : Text :=
  [0x0a].intercalate (lines.map text ++ if terminated then [[]] else [])

end EnvLine

/-! ### Spaces -/

theorem rdropWhile_append_cons {a b : Text} {c : UInt8} (hc : isSpace c = false) :
    (a ++ c :: b).rdropWhile isSpace = a ++ c :: b.rdropWhile isSpace := by
  have hdrop : ∀ x y : Text, (x ++ c :: y).dropWhile isSpace = x.dropWhile isSpace ++ c :: y := by
    intro x y
    induction x with
    | nil => rw [List.nil_append, List.dropWhile_cons, hc]; rfl
    | cons d x ih =>
      rw [List.cons_append, List.dropWhile_cons, List.dropWhile_cons, ih]
      cases isSpace d <;> rfl
  rw [List.rdropWhile, List.rdropWhile, List.reverse_append, List.reverse_cons, List.append_assoc,
    List.singleton_append, hdrop]
  simp

theorem rdropWhile_cons (c : UInt8) (text : Text) : (c :: text).rdropWhile isSpace =
    if text.rdropWhile isSpace = [] ∧ isSpace c = true then []
    else c :: text.rdropWhile isSpace := by
  rw [List.rdropWhile, List.rdropWhile, List.reverse_cons, List.dropWhile_append]
  cases hdrop : text.reverse.dropWhile isSpace with
  | nil => cases hc : isSpace c <;> simp [hc]
  | cons d rest => simp

/-- The two ends are trimmed in either order. -/
theorem trim_rdropWhile (text : Text) : trim (text.rdropWhile isSpace) = trim text := by
  have hcomm : ∀ text : Text, (text.rdropWhile isSpace).dropWhile isSpace =
      (text.dropWhile isSpace).rdropWhile isSpace := by
    intro text
    induction text with
    | nil => rfl
    | cons c text ih =>
      rw [rdropWhile_cons, List.dropWhile_cons]
      cases hc : isSpace c with
      | false =>
        rw [if_neg (by simp), if_neg Bool.false_ne_true, List.dropWhile_cons, hc,
          if_neg Bool.false_ne_true, rdropWhile_cons, hc, if_neg (by simp)]
      | true =>
        rw [if_pos rfl, ← ih]
        split_ifs with hnil
        · rw [hnil.1]
        · rw [List.dropWhile_cons, hc, if_pos rfl]
  rw [trim, hcomm, List.rdropWhile_idempotent, trim]

/-- A text that is trimmed does not begin with a space. -/
theorem dropWhile_of_trim {text : Text} (h : trim text = text) :
    text.dropWhile isSpace = text := by
  have hprefix : trim text <+: text.dropWhile isSpace := List.rdropWhile_prefix isSpace _
  rw [h] at hprefix
  have hsuffix := List.dropWhile_suffix (l := text) isSpace
  exact hsuffix.eq_of_length (le_antisymm hsuffix.length_le hprefix.length_le)

namespace EnvLine

/-- A line is taken for its key and its value. -/
theorem parseLine_text (line : EnvLine) : ConfigManager.parseLine line.text = some line.entry := by
  have hequals : isSpace 0x3d = false := by decide
  have htrim : trim line.text = line.key ++ 0x3d :: line.value.rdropWhile isSpace := by
    have hdrop : line.text.dropWhile isSpace = line.text := by
      have hkey := dropWhile_of_trim line.trim_key
      rw [text]
      cases hk : line.key with
      | nil => rw [List.nil_append, List.dropWhile_cons, hequals]; rfl
      | cons c rest =>
        rw [hk, List.dropWhile_cons] at hkey
        cases hc : isSpace c with
        | true =>
          rw [hc, if_pos rfl] at hkey
          have hlength := congrArg List.length hkey
          have hle := (List.dropWhile_suffix (l := rest) isSpace).length_le
          rw [List.length_cons] at hlength
          omega
        | false => rw [List.cons_append, List.dropWhile_cons, hc]; rfl
    rw [trim, hdrop, text, rdropWhile_append_cons hequals]
  obtain ⟨htake, hdrop⟩ := takeWhile_field line.key_named (line.value.rdropWhile isSpace)
  have hhead : (line.key ++ 0x3d :: line.value.rdropWhile isSpace).head? ≠ some 0x23 := by
    have hkey := line.key_head
    cases hk : line.key with
    | nil => simp
    | cons c rest => rwa [hk] at hkey
  have hguard : ¬ (line.key ++ 0x3d :: line.value.rdropWhile isSpace = [] ∨
      (line.key ++ 0x3d :: line.value.rdropWhile isSpace).head? = some 0x23 ∨
      0x3d ∉ line.key ++ 0x3d :: line.value.rdropWhile isSpace) := by
    rintro (hnil | hcomment | hequals)
    · exact absurd hnil (by simp)
    · exact hhead hcomment
    · exact hequals (List.mem_append_right _ List.mem_cons_self)
  rw [ConfigManager.parseLine, htrim, if_neg hguard, htake, hdrop, List.tail_cons, line.trim_key,
    trim_rdropWhile]
  rfl

/-- A file of lines is taken for their keys and values. -/
theorem envEntries_file (lines : List EnvLine) (terminated : Bool) :
    ConfigManager.envEntries (file lines terminated) = lines.map entry := by
  have hlines : (lines.map text).filterMap ConfigManager.parseLine = lines.map entry := by
    have hparse : ConfigManager.parseLine ∘ text = some ∘ entry := funext parseLine_text
    rw [List.filterMap_map, hparse, List.filterMap_eq_map]
  have hnewline : ∀ part ∈ lines.map text ++ (if terminated then [[]] else []),
      (0x0a : UInt8) ∉ part := by
    intro part hpart
    rcases List.mem_append.mp hpart with hpart | hpart
    · obtain ⟨line, -, rfl⟩ := List.mem_map.mp hpart
      rw [text, List.mem_append, List.mem_cons]
      simp [line.one_line]
    · split_ifs at hpart
      · rw [List.mem_singleton.mp hpart]
        exact List.not_mem_nil
      · exact absurd hpart List.not_mem_nil
  rw [ConfigManager.envEntries, file]
  by_cases hparts : lines.map text ++ (if terminated then [[]] else []) = []
  · have hnil : lines = [] := by simpa using (List.append_eq_nil_iff.mp hparts).1
    rw [hparts, hnil]
    decide
  · rw [List.splitOn_intercalate 0x0a hnewline hparts, List.filterMap_append, hlines]
    cases terminated
    · rw [if_neg Bool.false_ne_true, List.filterMap_nil, List.append_nil]
    · rw [if_pos rfl]
      exact List.append_nil _

end EnvLine

/-! ## One entry -/

/-- A key that is one name. -/
def IsName (key : Text) : Prop := 0x2e ∉ key ∧ 0x2f ∉ key

/-- A value that is not spelled as a number or a truth value. -/
def PlainText (format : Format F) (value : Text) : Prop :=
  isInteger value = false ∧ isFloat format value = false ∧ isBool value = false

theorem convert_eq_string {value text : Text} :
    convert format value = some (.string text) ↔ PlainText format value ∧ text = value := by
  unfold convert PlainText
  cases isInteger value
  · cases isFloat format value
    · cases isBool value <;> simp [eq_comm]
    · cases format.stod value <;> simp
  · cases stoll value <;> simp

/-- The pointer of a name has one token. -/
theorem pointerTokens_of_name {key : Text} (h : IsName key) :
    pointerTokens key = (Json.unescape key).map fun token => [token] := by
  have hmap : (key.map fun c => if c = 0x2e then (0x2f : UInt8) else c) = key := by
    refine (List.map_congr_left fun c hc => ?_).trans (List.map_id key)
    exact if_neg fun hdot : c = 0x2e => h.1 (by rw [← hdot]; exact hc)
  rw [pointerTokens, Json.parsePointer, if_pos rfl, hmap, List.splitOn_eq_singleton h.2,
    List.mapM_cons]
  cases Json.unescape key <;> rfl

/-- Different names have different tokens. -/
theorem name_inj {key key' token : Text} (h : IsName key) (h' : IsName key')
    (hkey : Json.unescape key = some token) (hkey' : Json.unescape key' = some token) :
    key = key' :=
  (Json.escape_of_unescape h.2 hkey).symm.trans (Json.escape_of_unescape h'.2 hkey')

namespace ConfigManager

theorem valueOfKey_of_name {key : Text} (h : IsName key) (s : ConfigManager F) :
    s.valueOfKey key = (Json.unescape key).bind fun token => s.json.valueAt [token] := by
  rw [valueOfKey, pointerTokens_of_name h]
  cases Json.unescape key <;> rfl

/-- What a text from an environment does to the tree. -/
theorem json_setEnvironmentValue {key : Text} (h : IsName key) (s : ConfigManager F)
    (value : Text) : (s.setEnvironmentValue format key value).json =
      match convert format value, Json.unescape key with
      | some v, some token => (Json.assign v [token] s.json).1
      | _, _ => s.json := by
  rw [setEnvironmentValue, pointerTokens_of_name h]
  cases convert format value <;> cases Json.unescape key <;> rfl

/-- An entry that is read back when it is loaded: it is not skipped, its value is not spelled as
anything but a text, and the root takes its key. -/
def Ready (format : Format F) (overrideExisting : Bool) (s : ConfigManager F)
    (entry : Text × Text) : Prop :=
  (overrideExisting = true ∨ s.hasKey entry.1 = false) ∧ PlainText format entry.2 ∧
    ∃ token, Json.unescape entry.1 = some token ∧ s.json.Accepts token

variable (format overrideExisting) in
/-- An entry that is not there is read back, after it is loaded, exactly when it is ready. -/
theorem valueOfKey_loadEntry_self {entry : Text × Text} (hname : IsName entry.1)
    (hnew : ∀ text, s.valueOfKey entry.1 ≠ some (.string text)) :
    (s.loadEntry format overrideExisting entry).valueOfKey entry.1 = some (.string entry.2) ↔
      s.Ready format overrideExisting entry := by
  obtain ⟨key, value⟩ := entry
  dsimp only at hname hnew ⊢
  rw [loadEntry, Ready]
  -- An entry that is skipped leaves what was there, which is no text.
  by_cases hload : overrideExisting = true ∨ s.hasKey key = false
  · have hload' : overrideExisting = true ∨ ¬ s.hasKey key = true := by simpa using hload
    rw [if_pos hload', valueOfKey_of_name hname, json_setEnvironmentValue hname]
    cases htoken : Json.unescape key with
    | none => simp
    | some token =>
      rw [Option.bind_some]
      cases hv : convert format value with
      | none =>
        -- A number that is out of range is not stored.
        dsimp only
        have hplain : ¬ PlainText format value := fun hplain => by
          rw [convert_eq_string.mpr ⟨hplain, rfl⟩] at hv
          exact absurd hv (by simp)
        rw [valueOfKey_of_name hname, htoken, Option.bind_some] at hnew
        exact ⟨fun h => absurd h (hnew value), fun h => absurd h.2.1 hplain⟩
      | some v =>
        dsimp only
        by_cases haccepts : s.json.Accepts token
        · rw [Json.valueAt_assign_of_accepts v haccepts]
          constructor
          · intro h
            rw [Option.some.inj h] at hv
            exact ⟨hload, (convert_eq_string.mp hv).1, token, rfl, haccepts⟩
          · rintro ⟨-, hplain, -⟩
            rw [← hv]
            exact convert_eq_string.mpr ⟨hplain, rfl⟩
        · rw [Json.valueAt_assign_of_not_accepts v haccepts]
          constructor
          · exact fun h => absurd h (by simp)
          · rintro ⟨-, -, token', htoken', haccepts'⟩
            obtain rfl := Option.some.inj htoken'
            exact absurd haccepts' haccepts
  · have hload' : ¬ (overrideExisting = true ∨ ¬ s.hasKey key = true) := by simpa using hload
    rw [if_neg hload']
    exact ⟨fun h => absurd h (hnew value), fun h => absurd h.1 hload⟩

variable (format overrideExisting) in
/-- The tree after an entry: as before, or after a write of its value. -/
theorem json_loadEntry {entry : Text × Text} (hname : IsName entry.1) (s : ConfigManager F) :
    (s.loadEntry format overrideExisting entry).json = s.json ∨
      ∃ v token, convert format entry.2 = some v ∧ Json.unescape entry.1 = some token ∧
        (s.loadEntry format overrideExisting entry).json =
          (Json.assign v [token] s.json).1 := by
  rw [loadEntry]
  split_ifs
  · rw [json_setEnvironmentValue hname]
    cases hv : convert format entry.2 with
    | none => exact .inl rfl
    | some v =>
      cases htoken : Json.unescape entry.1 with
      | none => exact .inl rfl
      | some token => exact .inr ⟨v, token, rfl, rfl, rfl⟩
  · exact .inl rfl

/-- What stands under another key stays. -/
theorem valueOfKey_loadEntry_of_ne {entry : Text × Text} (hname : IsName entry.1) {other : Text}
    (hother : IsName other) (hne : other ≠ entry.1) {w : Json F}
    (h : s.valueOfKey other = some w) :
    (s.loadEntry format overrideExisting entry).valueOfKey other = some w := by
  rw [valueOfKey_of_name hother] at h ⊢
  obtain ⟨t, ht, h⟩ := Option.bind_eq_some_iff.mp h
  rw [ht, Option.bind_some]
  rcases json_loadEntry format overrideExisting hname s with hjson | ⟨v, token, -, htoken, hjson⟩
  · rw [hjson, h]
  · rw [hjson]
    refine Json.valueAt_assign_of_ne (fun heq => hne ?_) h
    exact name_inj hother hname ht (heq ▸ htoken)

/-- What an entry makes under another key is `null`, when it does not go to the end of an array. -/
theorem valueOfKey_of_loadEntry {entry : Text × Text} (hname : IsName entry.1) {other : Text}
    (hother : IsName other) (hne : other ≠ entry.1)
    (hdash : Json.unescape entry.1 ≠ some [0x2d] ∨ s.json.isObject = true) {w : Json F}
    (hw : w ≠ .null)
    (h : (s.loadEntry format overrideExisting entry).valueOfKey other = some w) :
    s.valueOfKey other = some w := by
  rw [valueOfKey_of_name hother] at h ⊢
  obtain ⟨t, ht, h⟩ := Option.bind_eq_some_iff.mp h
  rw [ht, Option.bind_some]
  rcases json_loadEntry format overrideExisting hname s with hjson | ⟨v, token, -, htoken, hjson⟩
  · rwa [hjson] at h
  · rw [hjson] at h
    refine Json.valueAt_of_assign (fun heq => hne ?_) ?_ hw h
    · exact name_inj hother hname ht (heq ▸ htoken)
    · exact hdash.imp_left fun hdash heq => hdash (heq ▸ htoken)

/-! ## All entries -/

/-- The configuration after the entries of a file. -/
def loadAll (format : Format F) (overrideExisting : Bool) (s : ConfigManager F)
    (entries : List (Text × Text)) : ConfigManager F :=
  run (fun s entry => s.loadEntry format overrideExisting entry) s entries

@[simp] theorem loadAll_cons (entry : Text × Text) (entries : List (Text × Text)) :
    loadAll format overrideExisting s (entry :: entries) =
      loadAll format overrideExisting (s.loadEntry format overrideExisting entry) entries := rfl

/-- Each entry is ready when its turn comes. -/
def AllReady (format : Format F) (overrideExisting : Bool) (s : ConfigManager F)
    (entries : List (Text × Text)) : Prop :=
  EveryStep (fun s entry => s.loadEntry format overrideExisting entry) s
    (fun _ s entry => s.Ready format overrideExisting entry) entries

theorem allReady_nil : AllReady format overrideExisting s [] := everyStep_nil

theorem allReady_cons {entry : Text × Text} {entries : List (Text × Text)} :
    AllReady format overrideExisting s (entry :: entries) ↔
      s.Ready format overrideExisting entry ∧ AllReady format overrideExisting
        (s.loadEntry format overrideExisting entry) entries := everyStep_cons

/-- A root that is an array stays one. -/
theorem array_loadEntry {entry : Text × Text} (hname : IsName entry.1)
    (h : ∃ elements, s.json = .array elements) :
    ∃ elements, (s.loadEntry format overrideExisting entry).json = .array elements := by
  obtain ⟨elements, h⟩ := h
  rcases json_loadEntry format overrideExisting hname s with
    hjson | ⟨v, token, -, -, hjson⟩
  · exact ⟨elements, hjson.trans h⟩
  · rw [hjson, h, Json.assign_array]
    exact ⟨_, rfl⟩

theorem array_loadAll {entries : List (Text × Text)} (hnames : ∀ entry ∈ entries, IsName entry.1)
    (h : ∃ elements, s.json = .array elements) :
    ∃ elements, (loadAll format overrideExisting s entries).json = .array elements := by
  induction entries generalizing s with
  | nil => exact h
  | cons entry entries ih =>
    exact ih (fun e he => hnames e (List.mem_cons_of_mem _ he))
      (array_loadEntry (hnames entry List.mem_cons_self) h)

/-- What stands under another key stays, in a whole file. -/
theorem valueOfKey_loadAll_of_ne {entries : List (Text × Text)}
    (hnames : ∀ entry ∈ entries, IsName entry.1) {other : Text} (hother : IsName other)
    (hne : ∀ entry ∈ entries, other ≠ entry.1) {w : Json F} (h : s.valueOfKey other = some w) :
    (loadAll format overrideExisting s entries).valueOfKey other = some w := by
  induction entries generalizing s with
  | nil => exact h
  | cons entry entries ih =>
    refine ih (fun e he => hnames e (List.mem_cons_of_mem _ he))
      (fun e he => hne e (List.mem_cons_of_mem _ he)) ?_
    exact valueOfKey_loadEntry_of_ne (hnames entry List.mem_cons_self) hother
      (hne entry List.mem_cons_self) h

/-- Nothing but `null` comes under another key with an entry, except by a write to the end of an
array, and then the root is an array afterwards. -/
theorem valueOfKey_loadEntry_ne {entry : Text × Text} (hname : IsName entry.1) {other : Text}
    (hother : IsName other) (hne : other ≠ entry.1) {w : Json F} (hw : w ≠ .null)
    (hnew : s.valueOfKey other ≠ some w) :
    (s.loadEntry format overrideExisting entry).valueOfKey other ≠ some w ∨
      (∃ elements, (s.loadEntry format overrideExisting entry).json = .array elements) ∧
        Json.unescape entry.1 = some [0x2d] := by
  by_cases hdash : Json.unescape entry.1 ≠ some [0x2d] ∨ s.json.isObject = true
  · exact .inl fun h => hnew (valueOfKey_of_loadEntry hname hother hne hdash hw h)
  rw [not_or, not_not] at hdash
  obtain ⟨htoken, hobject⟩ := hdash
  have hsame : (s.loadEntry format overrideExisting entry).json = s.json →
      (s.loadEntry format overrideExisting entry).valueOfKey other ≠ some w := by
    intro hjson
    rw [valueOfKey, hjson]
    exact hnew
  rcases json_loadEntry format overrideExisting hname s with hjson | ⟨v, token, -, htoken', hjson⟩
  · exact .inl (hsame hjson)
  -- The end of an array, or of a `null`, is written to; of the others there is none.
  cases hroot : s.json with
  | array elements => exact .inr ⟨array_loadEntry hname ⟨elements, hroot⟩, htoken⟩
  | null =>
    obtain rfl := Option.some.inj (htoken.symm.trans htoken')
    rw [hjson, hroot]
    exact .inr ⟨⟨_, rfl⟩, htoken⟩
  | object members => exact absurd (by rw [hroot]; rfl) hobject
  | boolean b => exact .inl (hsame (by rw [hjson, hroot]; rfl))
  | integer n => exact .inl (hsame (by rw [hjson, hroot]; rfl))
  | real x => exact .inl (hsame (by rw [hjson, hroot]; rfl))
  | string t => exact .inl (hsame (by rw [hjson, hroot]; rfl))

/-- The same for all entries of a file. -/
theorem valueOfKey_loadAll_ne {entries : List (Text × Text)}
    (hnames : ∀ entry ∈ entries, IsName entry.1) {other : Text} (hother : IsName other)
    (hne : ∀ entry ∈ entries, other ≠ entry.1) {w : Json F} (hw : w ≠ .null)
    (hnew : s.valueOfKey other ≠ some w) :
    (loadAll format overrideExisting s entries).valueOfKey other ≠ some w ∨
    (∃ elements, (loadAll format overrideExisting s entries).json = .array elements) ∧
      ∃ entry ∈ entries, Json.unescape entry.1 = some [0x2d] := by
  induction entries generalizing s with
  | nil => exact .inl hnew
  | cons entry entries ih =>
    have hrest : ∀ e ∈ entries, IsName e.1 := fun e he => hnames e (List.mem_cons_of_mem _ he)
    rw [loadAll_cons]
    rcases valueOfKey_loadEntry_ne (hnames entry List.mem_cons_self) hother
      (hne entry List.mem_cons_self) hw hnew with hnew' | ⟨harray, htoken⟩
    · exact (ih hrest (fun e he => hne e (List.mem_cons_of_mem _ he)) hnew').imp_right
        fun ⟨harray, e, he, htoken⟩ => ⟨harray, e, List.mem_cons_of_mem _ he, htoken⟩
    · exact .inr ⟨array_loadAll hrest harray, entry, List.mem_cons_self, htoken⟩

/-- In an array there is nothing to read under `-`. -/
theorem valueOfKey_dash {key : Text} (hname : IsName key) (hdash : Json.unescape key = some [0x2d])
    (h : ∃ elements, s.json = .array elements) : s.valueOfKey key = none := by
  obtain ⟨elements, h⟩ := h
  have hindex : Json.arrayIndex [0x2d] = none := by decide
  rw [valueOfKey_of_name hname, hdash, Option.bind_some, h, Json.valueAt_array, hindex,
    Option.bind_none]

variable (format overrideExisting) in
/-- All entries are read back, after all are loaded, exactly when each is ready when its turn
comes. -/
theorem readable_iff_ready {entries : List (Text × Text)}
    (hnames : ∀ entry ∈ entries, IsName entry.1) (hdistinct : (entries.map Prod.fst).Nodup)
    (hnew : ∀ entry ∈ entries, ∀ text, s.valueOfKey entry.1 ≠ some (.string text)) :
    (∀ entry ∈ entries, (loadAll format overrideExisting s entries).valueOfKey entry.1 =
      some (.string entry.2)) ↔
    AllReady format overrideExisting s entries := by
  induction entries generalizing s with
  | nil => exact ⟨fun _ => allReady_nil, fun _ entry hentry => absurd hentry List.not_mem_nil⟩
  | cons entry entries ih =>
    have hname := hnames entry List.mem_cons_self
    have hrest : ∀ e ∈ entries, IsName e.1 := fun e he => hnames e (List.mem_cons_of_mem _ he)
    rw [List.map_cons, List.nodup_cons] at hdistinct
    have hne : ∀ e ∈ entries, entry.1 ≠ e.1 := fun e he heq =>
      hdistinct.1 (heq ▸ List.mem_map_of_mem he)
    have hself := valueOfKey_loadEntry_self format overrideExisting hname
      (hnew entry List.mem_cons_self)
    -- After an entry that is ready, nothing is there yet for the others.
    have hnext : s.Ready format overrideExisting entry → ∀ e ∈ entries, ∀ text,
        (s.loadEntry format overrideExisting entry).valueOfKey e.1 ≠ some (.string text) := by
      rintro ⟨-, -, token, htoken, haccepts⟩ e he text htext
      refine hnew e (List.mem_cons_of_mem _ he) text ?_
      refine valueOfKey_of_loadEntry hname (hrest e he) (Ne.symm (hne e he)) ?_ (by simp) htext
      cases hobject : s.json.isObject with
      | true => exact .inr rfl
      | false =>
        refine .inl fun hdash => Json.not_accepts_dash hobject ?_
        rwa [Option.some.inj (hdash.symm.trans htoken)]
    rw [allReady_cons, loadAll_cons]
    constructor
    · intro hall
      have hready : s.Ready format overrideExisting entry := by
        rw [← hself]
        by_contra hnot
        -- Else the entry would come by a write to the end of an array, which is not read back.
        rcases valueOfKey_loadAll_ne hrest hname hne (by simp) hnot with h | ⟨harray, e, he, hdash⟩
        · exact h (hall entry List.mem_cons_self)
        · have hread := hall e (List.mem_cons_of_mem _ he)
          rw [valueOfKey_dash (hrest e he) hdash harray] at hread
          exact absurd hread (by simp)
      refine ⟨hready, ?_⟩
      exact (ih hrest hdistinct.2 (hnext hready)).mp fun e he => hall e (List.mem_cons_of_mem _ he)
    · rintro ⟨hready, hsteps⟩ e he
      rcases List.mem_cons.mp he with rfl | he
      · exact valueOfKey_loadAll_of_ne hrest hname hne (hself.mpr hready)
      · exact (ih hrest hdistinct.2 (hnext hready)).mpr hsteps e he

/-! ## What the root takes -/

/-- The token of a key. -/
def tokenOf (key : Text) : Text := (Json.unescape key).getD key

/-- Tokens that an array takes one after another: all are indices, and unless values are
overwritten, each is greater than those before it, since the elements below it are made with it. -/
def Indices (overrideExisting : Bool) (tokens : List Text) : Prop :=
  (∀ token ∈ tokens, (Json.arrayIndex token).isSome) ∧
    (overrideExisting = true ∨ tokens.Pairwise fun a b =>
      ∀ i k, Json.arrayIndex a = some i → Json.arrayIndex b = some k → i < k)

/-- Tokens that a root takes. An object takes all, and a `null` is made into an object or an array
by the first. -/
def RootTakes (overrideExisting : Bool) : Json F → List Text → Prop
  | .object _, _ => True
  | .array _, tokens => Indices overrideExisting tokens
  | .null, [] => True
  | .null, token :: tokens =>
    Json.isArrayToken token = false ∨ Indices overrideExisting (token :: tokens)
  | _, tokens => tokens = []

variable (format overrideExisting) in
/-- An entry that is loaded into an object is a member of it, and the other members stay. -/
theorem object_loadEntry {members : List (Text × Json F)} (hroot : s.json = .object members)
    {entry : Text × Text} (hname : IsName entry.1) :
    (∃ members', (s.loadEntry format overrideExisting entry).json = .object members') ∧
      ∀ other, IsName other → other ≠ entry.1 →
        (s.loadEntry format overrideExisting entry).valueOfKey other = s.valueOfKey other := by
  rcases json_loadEntry format overrideExisting hname s with
    hjson | ⟨v, token, -, htoken, hjson⟩
  · refine ⟨⟨members, hjson.trans hroot⟩, fun other _ _ => ?_⟩
    rw [valueOfKey, valueOfKey, hjson]
  · rw [hroot, Json.assign_object] at hjson
    refine ⟨⟨_, hjson⟩, fun other hother hne => ?_⟩
    rw [valueOfKey_of_name hother, valueOfKey_of_name hother, hjson, hroot]
    cases ht : Json.unescape other with
    | none => rfl
    | some t =>
      have hne' : t ≠ token := fun heq => hne (name_inj hother hname ht (heq ▸ htoken))
      rw [Option.bind_some, Option.bind_some, Json.valueAt_object, Json.valueAt_object,
        Json.lookup_insertMember, if_neg hne']

/-- Entries whose keys an object does not have are ready when they are plain and have tokens. -/
theorem ready_object {members : List (Text × Json F)} (hroot : s.json = .object members)
    {entries : List (Text × Text)} (hnames : ∀ entry ∈ entries, IsName entry.1)
    (hdistinct : (entries.map Prod.fst).Nodup)
    (hnew : ∀ entry ∈ entries, s.hasKey entry.1 = false) :
    AllReady format overrideExisting s entries ↔
    ∀ entry ∈ entries, PlainText format entry.2 ∧ (Json.unescape entry.1).isSome := by
  induction entries generalizing s members with
  | nil => exact ⟨fun _ entry hentry => absurd hentry List.not_mem_nil, fun _ => allReady_nil⟩
  | cons entry entries ih =>
    have hname := hnames entry List.mem_cons_self
    have hrest : ∀ e ∈ entries, IsName e.1 := fun e he => hnames e (List.mem_cons_of_mem _ he)
    rw [List.map_cons, List.nodup_cons] at hdistinct
    obtain ⟨⟨members', hroot'⟩, hother⟩ := object_loadEntry format overrideExisting hroot hname
    have hnew' : ∀ e ∈ entries,
        (s.loadEntry format overrideExisting entry).hasKey e.1 = false := by
      intro e he
      have hne : e.1 ≠ entry.1 := fun heq => hdistinct.1 (heq ▸ List.mem_map_of_mem he)
      rw [hasKey, hother e.1 (hrest e he) hne]
      exact hnew e (List.mem_cons_of_mem _ he)
    have hready : s.Ready format overrideExisting entry ↔
        PlainText format entry.2 ∧ (Json.unescape entry.1).isSome := by
      constructor
      · rintro ⟨-, hplain, token, htoken, -⟩
        exact ⟨hplain, by rw [htoken]; rfl⟩
      · rintro ⟨hplain, htoken⟩
        obtain ⟨token, htoken⟩ := Option.isSome_iff_exists.mp htoken
        refine ⟨.inr (hnew entry List.mem_cons_self), hplain, token, htoken, ?_⟩
        rw [hroot]
        exact trivial
    rw [allReady_cons, List.forall_mem_cons, hready]
    exact and_congr_right fun _ => ih hroot' hrest hdistinct.2 hnew'

/-- Tokens that an array of `n` elements takes one after another: unless values are overwritten,
they are beyond its end, too. -/
def IndicesFrom (overrideExisting : Bool) (n : ℕ) (tokens : List Text) : Prop :=
  Indices overrideExisting tokens ∧ (overrideExisting = true ∨
    ∀ token ∈ tokens, ∀ i, Json.arrayIndex token = some i → n ≤ i)

theorem indicesFrom_nil (n : ℕ) : IndicesFrom overrideExisting n [] :=
  ⟨⟨fun _ hmem => absurd hmem List.not_mem_nil, .inr List.Pairwise.nil⟩,
    .inr fun _ hmem => absurd hmem List.not_mem_nil⟩

/-- The first token is an index beyond the end, and the others are beyond the element that it
makes. -/
theorem indicesFrom_cons {n m i : ℕ} {token : Text} {tokens : List Text}
    (hi : Json.arrayIndex token = some i) (hm : overrideExisting = true ∨ m = i + 1) :
    IndicesFrom overrideExisting n (token :: tokens) ↔
      (overrideExisting = true ∨ n ≤ i) ∧ IndicesFrom overrideExisting m tokens := by
  have hsome : (Json.arrayIndex token).isSome := by rw [hi]; rfl
  rw [IndicesFrom, IndicesFrom, Indices, Indices, List.forall_mem_cons, List.forall_mem_cons,
    List.pairwise_cons]
  cases overrideExisting with
  | true => simp [hsome]
  | false =>
    obtain rfl := hm.resolve_left Bool.false_ne_true
    simp only [Bool.false_eq_true, false_or]
    constructor
    · rintro ⟨⟨⟨-, hall⟩, hless, hpair⟩, hfirst, -⟩
      refine ⟨hfirst i hi, ⟨hall, hpair⟩, fun t ht k hk => ?_⟩
      exact hless t ht i k hi hk
    · rintro ⟨hn, ⟨hall, hpair⟩, hbeyond⟩
      refine ⟨⟨⟨hsome, hall⟩, fun t ht i' k hi' hk => ?_, hpair⟩, fun i' hi' => ?_,
        fun t ht k hk => ?_⟩
      · obtain rfl := Option.some.inj (hi.symm.trans hi')
        exact hbeyond t ht k hk
      · obtain rfl := Option.some.inj (hi.symm.trans hi')
        exact hn
      · have hk' := hbeyond t ht k hk
        omega

variable (format overrideExisting) in
/-- An entry is ready for an array when it is plain and its key is an index, beyond the end unless
values are overwritten. -/
theorem ready_iff_of_array {elements : List (Json F)} (hroot : s.json = .array elements)
    {entry : Text × Text} (hname : IsName entry.1) :
    s.Ready format overrideExisting entry ↔
      (PlainText format entry.2 ∧ (Json.unescape entry.1).isSome) ∧
        ∃ i, Json.arrayIndex (tokenOf entry.1) = some i ∧
          (overrideExisting = true ∨ elements.length ≤ i) := by
  rw [Ready, hasKey, valueOfKey_of_name hname, tokenOf]
  cases htoken : Json.unescape entry.1 with
  | none => simp
  | some token =>
    rw [Option.bind_some, hroot, Json.valueAt_array, Option.getD_some]
    cases hi : Json.arrayIndex token with
    | none =>
      refine ⟨?_, fun ⟨_, i, hnone, _⟩ => absurd hnone (by simp)⟩
      rintro ⟨-, -, t, ht, haccept⟩
      obtain rfl := Option.some.inj ht
      exact absurd haccept (by simp [Json.Accepts, Json.vivify, hi])
    | some i =>
      rw [Option.bind_some, Option.isSome_eq_false_iff, Option.isNone_iff_eq_none,
        List.getElem?_eq_none_iff]
      constructor
      · rintro ⟨hload, hplain, -⟩
        exact ⟨⟨hplain, rfl⟩, i, rfl, hload⟩
      · rintro ⟨⟨hplain, -⟩, i', hi', hload⟩
        obtain rfl := Option.some.inj hi'
        refine ⟨hload, hplain, token, rfl, ?_⟩
        simp [Json.Accepts, Json.vivify, hi]

/-- An entry that is ready for an array is its last element then, unless it overwrites one. -/
theorem array_of_ready {elements : List (Json F)} (hroot : s.json = .array elements)
    {entry : Text × Text} (hname : IsName entry.1) {i : ℕ}
    (hi : Json.arrayIndex (tokenOf entry.1) = some i)
    (hentry : s.Ready format overrideExisting entry) :
    ∃ elements', (s.loadEntry format overrideExisting entry).json = .array elements' ∧
      (overrideExisting = true ∨ elements'.length = i + 1) := by
  obtain ⟨-, i', hi', hload⟩ := (ready_iff_of_array format overrideExisting hroot hname).mp hentry
  obtain rfl := Option.some.inj (hi.symm.trans hi')
  obtain ⟨hskip, hplain, token, htoken, -⟩ := hentry
  rw [tokenOf, htoken, Option.getD_some] at hi
  have hdash : token ≠ [0x2d] := by
    rintro rfl
    have hnone : Json.arrayIndex [0x2d] = none := by decide
    exact absurd (hnone.symm.trans hi) (by simp)
  have hindex : Json.writeIndex token elements = some i := by
    rw [Json.writeIndex, if_neg hdash, hi]
  rw [loadEntry, if_pos (by simpa using hskip), json_setEnvironmentValue hname,
    convert_eq_string.mpr ⟨hplain, rfl⟩, htoken]
  dsimp only
  rw [hroot, Json.assign_array, hindex]
  refine ⟨_, rfl, hload.imp_right fun hle => ?_⟩
  rw [List.length_set, List.length_append, List.length_replicate]
  omega

/-- Entries are ready for an array when they are plain and it takes their keys. -/
theorem ready_array {elements : List (Json F)} (hroot : s.json = .array elements)
    {entries : List (Text × Text)} (hnames : ∀ entry ∈ entries, IsName entry.1) :
    AllReady format overrideExisting s entries ↔
    (∀ entry ∈ entries, PlainText format entry.2 ∧ (Json.unescape entry.1).isSome) ∧
      IndicesFrom overrideExisting elements.length (entries.map fun entry => tokenOf entry.1) := by
  induction entries generalizing s elements with
  | nil =>
    exact ⟨fun _ => ⟨fun _ hentry => absurd hentry List.not_mem_nil, indicesFrom_nil _⟩,
      fun _ => allReady_nil⟩
  | cons entry entries ih =>
    have hname := hnames entry List.mem_cons_self
    have hrest : ∀ e ∈ entries, IsName e.1 := fun e he => hnames e (List.mem_cons_of_mem _ he)
    have hready := ready_iff_of_array format overrideExisting hroot hname
    rw [allReady_cons, List.map_cons, List.forall_mem_cons]
    constructor
    · rintro ⟨hentry, hsteps⟩
      obtain ⟨hplain, i, hi, hload⟩ := hready.mp hentry
      obtain ⟨elements', hroot', hlength⟩ := array_of_ready hroot hname hi hentry
      obtain ⟨hall, hindices⟩ := (ih hroot' hrest).mp hsteps
      exact ⟨⟨hplain, hall⟩, (indicesFrom_cons hi hlength).mpr ⟨hload, hindices⟩⟩
    · rintro ⟨⟨hplain, hall⟩, hindices⟩
      obtain ⟨i, hi⟩ := Option.isSome_iff_exists.mp (hindices.1.1 _ List.mem_cons_self)
      have hload : overrideExisting = true ∨ elements.length ≤ i :=
        hindices.2.imp_right fun h => h _ List.mem_cons_self i hi
      have hentry : s.Ready format overrideExisting entry := hready.mpr ⟨hplain, i, hi, hload⟩
      obtain ⟨elements', hroot', hlength⟩ := array_of_ready hroot hname hi hentry
      exact ⟨hentry, (ih hroot' hrest).mpr ⟨hall, ((indicesFrom_cons hi hlength).mp hindices).2⟩⟩

variable (format overrideExisting) in
/-- A token makes of a `null` what it makes of an empty array or object. -/
theorem loadEntry_vivify (hroot : s.json = .null) {entry : Text × Text} (hname : IsName entry.1)
    {token : Text} (htoken : Json.unescape entry.1 = some token) :
    (s.Ready format overrideExisting entry ↔
      Ready format overrideExisting ⟨s.json.vivify token, s.config⟩ entry) ∧
    (s.Ready format overrideExisting entry → s.loadEntry format overrideExisting entry =
      loadEntry format ⟨s.json.vivify token, s.config⟩ overrideExisting entry) := by
  -- Nothing is there yet, in either.
  have hkey : ∀ j : Json F, j = .array [] ∨ j = .object [] ∨ j = .null →
      hasKey ⟨j, s.config⟩ entry.1 = false := by
    intro j hj
    rw [hasKey, valueOfKey_of_name hname, htoken, Option.bind_some]
    rcases hj with rfl | rfl | rfl
    · rw [Json.valueAt_array]
      cases Json.arrayIndex token <;> rfl
    · rw [Json.valueAt_object, List.lookup_nil]
      rfl
    · rfl
  have hvivify : s.json.vivify token = .array [] ∨ s.json.vivify token = .object [] := by
    rw [hroot, Json.vivify]
    split_ifs
    · exact .inl rfl
    · exact .inr rfl
  have hnew : s.hasKey entry.1 = false := hkey s.json (.inr (.inr hroot))
  have hnew' : hasKey ⟨s.json.vivify token, s.config⟩ entry.1 = false :=
    hkey _ (hvivify.imp_right .inl)
  have haccepts : s.json.Accepts token ↔ (s.json.vivify token).Accepts token := by
    rw [Json.Accepts, Json.Accepts]
    rcases hvivify with h | h <;> rw [h] <;> exact Iff.rfl
  refine ⟨?_, ?_⟩
  · rw [Ready, Ready, hnew, hnew']
    refine and_congr_right fun _ => and_congr_right fun _ => ?_
    constructor
    · rintro ⟨t, ht, h⟩
      obtain rfl := Option.some.inj (htoken.symm.trans ht)
      exact ⟨token, htoken, haccepts.mp h⟩
    · rintro ⟨t, ht, h⟩
      obtain rfl := Option.some.inj (htoken.symm.trans ht)
      exact ⟨token, htoken, haccepts.mpr h⟩
  · rintro ⟨-, hplain, -⟩
    rw [loadEntry, loadEntry, hnew, hnew', if_pos (.inr Bool.false_ne_true),
      if_pos (.inr Bool.false_ne_true), setEnvironmentValue, setEnvironmentValue,
      convert_eq_string.mpr ⟨hplain, rfl⟩, pointerTokens_of_name hname, htoken, Option.map_some]
    dsimp only
    rw [Json.assign_vivify]

/-- What a `null` root makes of itself for the first token, it makes for all entries. -/
theorem allReady_vivify (hroot : s.json = .null) {entry : Text × Text}
    {entries : List (Text × Text)} (hname : IsName entry.1) {token : Text}
    (htoken : Json.unescape entry.1 = some token) :
    AllReady format overrideExisting s (entry :: entries) ↔
      AllReady format overrideExisting ⟨s.json.vivify token, s.config⟩ (entry :: entries) := by
  obtain ⟨hready, hload⟩ := loadEntry_vivify format overrideExisting hroot hname htoken
  rw [allReady_cons, allReady_cons]
  constructor
  · rintro ⟨hentry, hrest⟩
    rw [hload hentry] at hrest
    exact ⟨hready.mp hentry, hrest⟩
  · rintro ⟨hentry, hrest⟩
    rw [← hload (hready.mpr hentry)] at hrest
    exact ⟨hready.mpr hentry, hrest⟩

/-- Entries for a `null` root, which the first of them makes an object or an array. -/
theorem ready_null (hroot : s.json = .null) {entry : Text × Text} {entries : List (Text × Text)}
    (hnames : ∀ e ∈ entry :: entries, IsName e.1)
    (hdistinct : ((entry :: entries).map Prod.fst).Nodup) :
    AllReady format overrideExisting s (entry :: entries) ↔
    (∀ e ∈ entry :: entries, PlainText format e.2 ∧ (Json.unescape e.1).isSome) ∧
      RootTakes overrideExisting (.null : Json F)
        ((entry :: entries).map fun e => tokenOf e.1) := by
  have hname := hnames entry List.mem_cons_self
  cases htoken : Json.unescape entry.1 with
  | none =>
    refine iff_of_false (fun h => ?_) fun h => ?_
    · obtain ⟨-, -, token, ht, -⟩ := (allReady_cons.mp h).1
      exact absurd (htoken.symm.trans ht) (by simp)
    · have hsome := (h.1 entry List.mem_cons_self).2
      rw [htoken] at hsome
      exact absurd hsome Bool.false_ne_true
  | some token =>
    have htokenOf : tokenOf entry.1 = token := by rw [tokenOf, htoken, Option.getD_some]
    rw [allReady_vivify hroot hname htoken, List.map_cons, RootTakes, htokenOf, hroot]
    cases harray : Json.isArrayToken token with
    | false =>
      have hvivify : Json.vivify token (.null : Json F) = .object [] := by
        rw [Json.vivify, harray, if_neg Bool.false_ne_true]
      rw [ready_object hvivify hnames hdistinct fun e he => ?_]
      · exact ⟨fun h => ⟨h, .inl rfl⟩, fun h => h.1⟩
      · rw [hasKey, valueOfKey_of_name (hnames e he), hvivify]
        cases Json.unescape e.1 with
        | none => rfl
        | some t => rw [Option.bind_some, Json.valueAt_object, List.lookup_nil]; rfl
    | true =>
      have hvivify : Json.vivify token (.null : Json F) = .array [] := by
        rw [Json.vivify, harray, if_pos rfl]
      rw [ready_array hvivify hnames, List.map_cons, htokenOf]
      refine ⟨fun h => ⟨h.1, .inr h.2.1⟩, fun h => ⟨h.1, ?_, .inr fun _ _ i _ => Nat.zero_le i⟩⟩
      exact h.2.resolve_left (by simp)

/-- Keys that an array does not have are beyond its end, where they are indices. -/
theorem length_le_of_hasKey {elements : List (Json F)} (hroot : s.json = .array elements)
    {key : Text} (hname : IsName key) (htoken : (Json.unescape key).isSome)
    (hnew : s.hasKey key = false) {i : ℕ} (hi : Json.arrayIndex (tokenOf key) = some i) :
    elements.length ≤ i := by
  obtain ⟨token, htoken⟩ := Option.isSome_iff_exists.mp htoken
  rw [tokenOf, htoken, Option.getD_some] at hi
  rw [hasKey, valueOfKey_of_name hname, htoken, Option.bind_some, hroot, Json.valueAt_array, hi,
    Option.bind_some] at hnew
  simpa using hnew

/-- A root without parts takes no entry. -/
theorem not_allReady_cons (hroot : ∀ token, ¬ s.json.Accepts token) {entry : Text × Text}
    {entries : List (Text × Text)} : ¬ AllReady format overrideExisting s (entry :: entries) := by
  intro h
  obtain ⟨-, -, token, -, haccepts⟩ := (allReady_cons.mp h).1
  exact hroot token haccepts

/-- Entries whose keys are not there are ready when they are plain, have tokens, and the root takes
the tokens. -/
theorem ready_iff {entries : List (Text × Text)} (hnames : ∀ entry ∈ entries, IsName entry.1)
    (hdistinct : (entries.map Prod.fst).Nodup)
    (hnew : ∀ entry ∈ entries, s.hasKey entry.1 = false) :
    AllReady format overrideExisting s entries ↔
    (∀ entry ∈ entries, PlainText format entry.2 ∧ (Json.unescape entry.1).isSome) ∧
      RootTakes overrideExisting s.json (entries.map fun entry => tokenOf entry.1) := by
  cases entries with
  | nil =>
    refine iff_of_true allReady_nil ⟨fun entry hentry => absurd hentry List.not_mem_nil, ?_⟩
    rw [List.map_nil]
    cases s.json with
    | array elements => exact (indicesFrom_nil 0).1
    | null => exact trivial
    | object members => exact trivial
    | _ => rfl
  | cons entry entries =>
    cases hroot : s.json with
    | object members =>
      rw [ready_object hroot hnames hdistinct hnew]
      exact ⟨fun h => ⟨h, trivial⟩, fun h => h.1⟩
    | array elements =>
      rw [ready_array hroot hnames]
      refine and_congr_right fun hall =>
        ⟨fun h => h.1, fun h => ⟨h, .inr fun token hmem i hi => ?_⟩⟩
      obtain ⟨e, he, rfl⟩ := List.mem_map.mp hmem
      exact length_le_of_hasKey hroot (hnames e he) (hall e he).2 (hnew e he) hi
    | null => exact ready_null hroot hnames hdistinct
    | boolean b =>
      exact iff_of_false (not_allReady_cons (by rw [hroot]; exact fun _ => id))
        fun h => List.cons_ne_nil _ _ h.2
    | integer n =>
      exact iff_of_false (not_allReady_cons (by rw [hroot]; exact fun _ => id))
        fun h => List.cons_ne_nil _ _ h.2
    | real x =>
      exact iff_of_false (not_allReady_cons (by rw [hroot]; exact fun _ => id))
        fun h => List.cons_ne_nil _ _ h.2
    | string t =>
      exact iff_of_false (not_allReady_cons (by rw [hroot]; exact fun _ => id))
        fun h => List.cons_ne_nil _ _ h.2

/-! ## Values that are read back -/

/-- The typed reads of a string find a value under a key, with any default; `getWithEnv` does so
when the environment does not have the key. -/
def Readable (s : ConfigManager F) (key value : Text) : Prop :=
  (∀ d, s.getAs stringOf key d = value) ∧
    ∀ getenv : Text → Option Text, getenv key = none → ∀ d,
      s.getWithEnv stringOf some getenv key [] d = value ∧
        (key ≠ [] → ∀ other, s.getWithEnv stringOf some getenv other key d = value)

theorem readable_iff_valueOfKey {key value : Text} :
    s.Readable key value ↔ s.valueOfKey key = some (.string value) := by
  constructor
  · rintro ⟨hget, -⟩
    have hvalue := hget (0 :: value)
    rw [getAs] at hvalue
    cases hv : (s.valueOfKey key).bind stringOf with
    | none =>
      rw [hv] at hvalue
      exact absurd (congrArg List.length hvalue) (by simp)
    | some text =>
      rw [hv, Option.getD_some] at hvalue
      obtain ⟨v, hkey, htext⟩ := Option.bind_eq_some_iff.mp hv
      cases v with
      | string t =>
        obtain rfl : t = text := Option.some.inj htext
        rw [hkey, hvalue]
      | _ => exact absurd htext (by simp [stringOf])
  · intro hv
    have hget : ∀ d, s.getAs stringOf key d = value := by
      intro d
      rw [getAs, hv]
      rfl
    have hkey : s.hasKey key = true := by rw [hasKey, hv]; rfl
    refine ⟨hget, fun getenv henv d => ⟨?_, fun hne other => ?_⟩⟩
    · rw [getWithEnv, if_pos rfl, henv]
      dsimp only
      rw [if_neg fun h => h.1 rfl, hget]
    · rw [getWithEnv, if_neg hne, henv]
      dsimp only
      rw [if_pos ⟨hne, hkey⟩, hget]

/-- The values of a file whose keys are new names are all read back, after the file is loaded,
exactly when none is spelled as a number or a truth value, each key has a token, and the root takes
the tokens. -/
theorem readable_iff {lines : List EnvLine} (terminated : Bool)
    (hdistinct : (lines.map EnvLine.key).Nodup) (hnames : ∀ line ∈ lines, IsName line.key)
    (hnew : ∀ line ∈ lines, s.hasKey line.key = false) :
    (∀ line ∈ lines, Readable
      (s.loadEnvFile format (some (EnvLine.file lines terminated)) overrideExisting).1
        line.key line.entry.2) ↔
    (∀ line ∈ lines, PlainText format line.entry.2 ∧ (Json.unescape line.key).isSome) ∧
      RootTakes overrideExisting s.json (lines.map fun line => tokenOf line.key) := by
  have hload : (s.loadEnvFile format (some (EnvLine.file lines terminated)) overrideExisting).1 =
      loadAll format overrideExisting s (lines.map EnvLine.entry) := by
    rw [loadEnvFile, EnvLine.envEntries_file]
    rfl
  have hkeys : (lines.map EnvLine.entry).map Prod.fst = lines.map EnvLine.key := by
    rw [List.map_map]
    rfl
  have htokens : (lines.map EnvLine.entry).map (fun entry => tokenOf entry.1) =
      lines.map fun line => tokenOf line.key := by
    rw [List.map_map]
    rfl
  have hnames' : ∀ entry ∈ lines.map EnvLine.entry, IsName entry.1 :=
    List.forall_mem_map.mpr hnames
  have hdistinct' : ((lines.map EnvLine.entry).map Prod.fst).Nodup := by rwa [hkeys]
  have hnew' : ∀ entry ∈ lines.map EnvLine.entry, s.hasKey entry.1 = false :=
    List.forall_mem_map.mpr hnew
  have hread := (readable_iff_ready format overrideExisting
    hnames' hdistinct' fun entry hentry text htext => by
      have hkey := hnew' entry hentry
      rw [hasKey, htext] at hkey
      exact absurd hkey (by simp)).trans (ready_iff hnames' hdistinct' hnew')
  rw [htokens, List.forall_mem_map, List.forall_mem_map] at hread
  rw [hload]
  exact (forall₂_congr fun line _ => readable_iff_valueOfKey).trans hread

/-- Numbers that are known by their integer part, which is read as `strtol` reads it. -/
def integerPart : Format ℤ where
  stod text := if (strtol 10 text).2 = text then none else some (strtol 10 text).1
  dumpReal n := intText n ++ [0x2e, 0x30]
  realText n := intText n ++ [0x2e, 0x30, 0x30, 0x30, 0x30, 0x30, 0x30]
  dumpString s := some (0x22 :: (s ++ [0x22]))

/-- An address is read as the number that it begins with, and a text of digits as a number: neither
is read back. -/
theorem not_readable_address :
    ¬ Readable (loadEnvFile integerPart ⟨.object [], ∅⟩
      (some (utf8 "REDIS_HOST=10.0.0.5\n")) false).1 (utf8 "REDIS_HOST") (utf8 "10.0.0.5") ∧
    ¬ Readable (loadEnvFile integerPart ⟨.object [], ∅⟩
      (some (utf8 "REDIS_PASSWORD=\"007\"\n")) false).1 (utf8 "REDIS_PASSWORD") (utf8 "007") := by
  constructor <;> intro h <;> exact absurd (h.1 []) (by decide +kernel)

/-- Two lines with a name in quotes each. -/
def hostLines : List EnvLine :=
  [⟨utf8 "REDIS_HOST", utf8 " 'localhost' ", by decide +kernel, by decide +kernel,
      by decide +kernel, by decide +kernel⟩,
    ⟨utf8 "DB_NAME", utf8 "\"my chat\"", by decide +kernel, by decide +kernel,
      by decide +kernel, by decide +kernel⟩]

/-- Names are read back. -/
theorem readable_iff_hostLines :
    let s := (loadEnvFile integerPart ⟨.object [], ∅⟩
      (some (utf8 "REDIS_HOST= 'localhost' \nDB_NAME=\"my chat\"\n")) false).1
    Readable s (utf8 "REDIS_HOST") (utf8 "localhost") ∧
      Readable s (utf8 "DB_NAME") (utf8 "my chat") := by
  have hread := (@readable_iff ℤ integerPart ⟨.object [], ∅⟩ false hostLines true
    (by decide +kernel) ?_ (by decide +kernel)).mpr ⟨?_, trivial⟩
  · exact ⟨hread _ List.mem_cons_self, hread _ (List.mem_cons_of_mem _ List.mem_cons_self)⟩
  · simp only [hostLines, List.forall_mem_cons]
    exact ⟨⟨by decide +kernel, by decide +kernel⟩, ⟨by decide +kernel, by decide +kernel⟩,
      fun line hline => absurd hline List.not_mem_nil⟩
  · simp only [hostLines, List.forall_mem_cons]
    refine ⟨⟨?_, by decide +kernel⟩, ⟨?_, by decide +kernel⟩,
      fun line hline => absurd hline List.not_mem_nil⟩
    · exact ⟨by decide +kernel, by decide +kernel, by decide +kernel⟩
    · exact ⟨by decide +kernel, by decide +kernel, by decide +kernel⟩

end ConfigManager

end MyChat.Common
