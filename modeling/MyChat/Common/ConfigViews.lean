import MyChat.Common.ConfigManager
import MyChat.Lib.Run

/-!
# The two views of a configuration

A configuration has a string for each key, and a tree. `Trace` is what they should be: `leaf` what
the last write that the tree took has put at each key, and `written` who gave each key its string. A
text that comes from an environment is kept as it is, and the tree gets what its spelling says, when
it can take it. `Agree` says that the tree has these leaves, and that each key has the string of its
writer, or else what `flatten_json` gives to its leaf.

`construct` makes such a configuration of a document whose names have no dots (`agree_construct`),
and calls keep it (`agree_step`) when each write goes through objects or is refused by the tree.

A `set` of an integer or of a `std::string` stores what `flatten_json` would. What a `set` of a
`bool`, of a floating number, or of an array of characters stores, which is another text, is left
open here, and the source does not look for what stood above or below the place of a write.
-/

namespace MyChat.Common

open Codec ByteText JsonPointer Run

variable {F : Type} {format : Format F} {s : ConfigManager F} {key : Text}

/-! ## Calls -/

/-- A call that may change a configuration. -/
inductive ConfigCall (F : Type) where
  /-- `set`. -/
  | set (key : Text) (v : SetValue F)
  /-- `setEnvironmentValue`. -/
  | setEnvironmentValue (key value : Text)
  /-- `loadEnvFile`; there is no content when the file is not open. -/
  | loadEnvFile (file : Option Text) (overrideExisting : Bool)
  /-- `loadEnvironmentVariables` of the common variables, in an environment. -/
  | loadCommonVariables (getenv : Text → Option Text) (envPrefix : Text)
  /-- `loadEnvironmentVariables` of a list, in an environment. -/
  | loadEnvironmentVariables (getenv : Text → Option Text) (vars : List Text) (envPrefix : Text)

namespace ConfigManager

/-- The configuration after a call. -/
def step (format : Format F) (s : ConfigManager F) : ConfigCall F → ConfigManager F
  | .set key v => (s.set format key v).1
  | .setEnvironmentValue key value => s.setEnvironmentValue format key value
  | .loadEnvFile file overrideExisting => (s.loadEnvFile format file overrideExisting).1
  | .loadCommonVariables getenv envPrefix =>
    s.loadEnvironmentVariables format getenv commonEnvVars envPrefix
  | .loadEnvironmentVariables getenv vars envPrefix =>
    s.loadEnvironmentVariables format getenv vars envPrefix

/-! ## What the views say -/

/-- The value under a key, when it is no object. -/
def stored (s : ConfigManager F) (key : Text) : Option (Json F) :=
  (s.valueOfKey key).filter fun v => !v.isObject

/-- `get` gives the rendering of the value under a key, and nothing exactly when there is none. -/
def ViewsAgree (format : Format F) (s : ConfigManager F) (key : Text) : Prop :=
  (∀ v, s.stored key = some v → rendering format v = some (s.get key)) ∧
    (s.get key = [] ↔ s.stored key = none)

/-- A key whose names are the tokens of its pointer. -/
def Dotted (key : Text) : Prop := 0x2f ∉ key ∧ 0x7e ∉ key

instance (key : Text) : Decidable (Dotted key) := inferInstanceAs (Decidable (_ ∧ _))

/-- A write through the names goes through objects: those that are there, and those that it makes,
the root among them when there is none yet. No leaf stands below the place. -/
def Takes (names : List Text) (j : Json F) : Prop :=
  j.Opens names ∨ j = .null ∧ Json.Fresh names

/-- The tree refuses every write at the key, and does not change. -/
def Refuses (s : ConfigManager F) (key : Text) : Prop :=
  ∀ tokens, pointerTokens key = some tokens → s.json.Rejects tokens

/-- The tree takes every value at the key that is no object. -/
def TakesKey (s : ConfigManager F) (key : Text) : Prop :=
  Dotted key ∧ Takes (Json.splitDots key) s.json

/-- The tree refuses the write of `set`, or it takes it, and the value is no object and has a
string. -/
def SetKeeps (format : Format F) (s : ConfigManager F) (key : Text) (v : SetValue F) : Prop :=
  s.Refuses key ∨ s.TakesKey key ∧ v.json.isObject = false ∧ ∃ text, v.text format = some text

/-- The text of an entry has no value, or the tree refuses it, or takes it. -/
def EntryKeeps (format : Format F) (s : ConfigManager F) (entry : Text × Text) : Prop :=
  convert format entry.2 = none ∨ s.Refuses entry.1 ∨ s.TakesKey entry.1

/-- Entries, of which each is loaded unless there is a value already, or all are. -/
def EntriesKeep (format : Format F) (overrideExisting : Bool) (s : ConfigManager F)
    (entries : List (Text × Text)) : Prop :=
  EveryStep (fun s entry => s.loadEntry format overrideExisting entry) s
    (fun _ s entry => (overrideExisting = true ∨ s.hasKey entry.1 = false) →
      s.EntryKeeps format entry) entries

/-- The writes of a call go through objects, or are refused. -/
def CallKeeps (format : Format F) (s : ConfigManager F) : ConfigCall F → Prop
  | .set key v => s.SetKeeps format key v
  | .setEnvironmentValue key value => s.EntryKeeps format (key, value)
  | .loadEnvFile file overrideExisting =>
    ∀ content, file = some content → s.EntriesKeep format overrideExisting (envEntries content)
  | .loadCommonVariables getenv envPrefix =>
    s.EntriesKeep format true (environmentEntries getenv commonEnvVars envPrefix)
  | .loadEnvironmentVariables getenv vars envPrefix =>
    s.EntriesKeep format true (environmentEntries getenv vars envPrefix)

/-! ## What the views should be -/

/-- A call that gave a key its string. -/
inductive Written (F : Type) where
  /-- A text from an environment. -/
  | text (value : Text)
  /-- A `set` that returned. -/
  | set (v : SetValue F)

/-- What calls have made of a configuration. -/
structure Trace (F : Type) where
  /-- Who gave each key its string last, if it was a call. -/
  written : Text → Option (Written F)
  /-- The value that was written to each key last, or that the document has there. -/
  leaf : Text → Option (Json F)

/-- A write of the value comes to its place in the tree. -/
def comesToPlace (s : ConfigManager F) (key : Text) (v : Json F) : Bool :=
  match pointerTokens key with
  | none => false
  | some tokens => (Json.assign v tokens s.json).2

/-- Before any call. -/
def Trace.start (s : ConfigManager F) : Trace F where
  written _ := none
  leaf key := s.json.leafAt (Json.splitDots key)

/-- A key has another writer of its string. -/
def Trace.write (t : Trace F) (key : Text) (w : Written F) : Trace F :=
  { t with written := fun other => if other = key then some w else t.written other }

/-- A key has another value. -/
def Trace.put (t : Trace F) (key : Text) (v : Json F) : Trace F :=
  { t with leaf := fun other => if other = key then some v else t.leaf other }

/-- The text has its value in the tree when it has a conversion and the write comes to its place. -/
def Trace.environment (format : Format F) (t : Trace F) (s : ConfigManager F) (key value : Text) :
    Trace F :=
  let t := t.write key (.text value)
  match convert format value with
  | none => t
  | some v => if s.comesToPlace key v then t.put key v else t

/-- `loadEntry`, with its trace. -/
def tracedEntry (format : Format F) (overrideExisting : Bool) (st : ConfigManager F × Trace F)
    (entry : Text × Text) : ConfigManager F × Trace F :=
  (st.1.loadEntry format overrideExisting entry,
    if overrideExisting ∨ ¬ st.1.hasKey entry.1 then
      st.2.environment format st.1 entry.1 entry.2
    else st.2)

/-- `step`, with its trace. -/
def tracedStep (format : Format F) (st : ConfigManager F × Trace F) :
    ConfigCall F → ConfigManager F × Trace F
  | .set key v =>
    ((st.1.set format key v).1,
      if (st.1.set format key v).2 then (st.2.write key (.set v)).put key v.json else st.2)
  | .setEnvironmentValue key value => tracedEntry format true st (key, value)
  | .loadEnvFile none _ => st
  | .loadEnvFile (some content) overrideExisting =>
    run (tracedEntry format overrideExisting) st (envEntries content)
  | .loadCommonVariables getenv envPrefix =>
    run (tracedEntry format true) st (environmentEntries getenv commonEnvVars envPrefix)
  | .loadEnvironmentVariables getenv vars envPrefix =>
    run (tracedEntry format true) st (environmentEntries getenv vars envPrefix)

/-- The trace of calls. -/
def traceAfter (format : Format F) (s : ConfigManager F) (calls : List (ConfigCall F)) : Trace F :=
  (run (tracedStep format) (s, .start s) calls).2

/-- The string that a key should have. -/
def Trace.string (format : Format F) (t : Trace F) (key : Text) : Option Text :=
  match t.written key with
  | some (.text value) => some value
  | some (.set v) => v.text format
  | none => (t.leaf key).bind (rendering format)

/-- The string of a key is what `flatten_json` would give: no call wrote it, or a `set` with such a
string. -/
def Trace.Renders (t : Trace F) (key : Text) : Prop :=
  match t.written key with
  | none => True
  | some (.text _) => False
  | some (.set v) => v.isRendering = true

/-- The tree has the leaves of the trace, and each key has the string of its writer, or else the
rendering of its leaf. What a `set` wrote is still there. -/
structure Agree (format : Format F) (s : ConfigManager F) (t : Trace F) : Prop where
  /-- The tree. -/
  leaf : ∀ key, s.json.leafAt (Json.splitDots key) = t.leaf key
  /-- The strings. -/
  string : ∀ key, s.config.lookup key = t.string format key
  /-- The value of a `set`. -/
  set : ∀ key v, t.written key = some (.set v) → t.leaf key = some v.json

end ConfigManager

/-- A path whose key has its names: none of them has a dot, and the first is not empty when there
are more. -/
def PlainPath (path : List Text) : Prop :=
  (∀ name ∈ path, 0x2e ∉ name) ∧ ∀ rest, path = [] :: rest → rest = []

/-- A document whose leaves are at plain paths. -/
def PlainDocument (d : Document F) : Prop :=
  d.value.isObject = true ∧ ∀ path leaf, d.value.leafAt path = some leaf → PlainPath path

/-! ## The strings of a document -/

/-- The key of a path below a parent. -/
def joinPath (parent : Text) (path : List Text) : Text := path.foldl joinKey parent

theorem joinPath_of_ne_nil {parent : Text} (h : parent ≠ []) (path : List Text) :
    joinPath parent path = [0x2e].intercalate (parent :: path) := by
  induction path generalizing parent with
  | nil => simp [joinPath]
  | cons name path ih =>
    have hjoin : joinKey parent name = parent ++ 0x2e :: name := if_neg h
    have hne : parent ++ 0x2e :: name ≠ [] := by simp
    have hkey : joinPath parent (name :: path) = joinPath (joinKey parent name) path := rfl
    rw [hkey, hjoin, ih hne]
    cases path <;> simp

/-- The key of a plain path has its names. -/
theorem joinPath_nil {path : List Text} (h : PlainPath path) (hne : path ≠ []) :
    joinPath [] path = [0x2e].intercalate path := by
  cases path with
  | nil => exact absurd rfl hne
  | cons name path =>
    have hkey : joinPath [] (name :: path) = joinPath name path := rfl
    rw [hkey]
    by_cases hname : name = []
    · subst hname
      rw [h.2 path rfl]
      rfl
    · exact joinPath_of_ne_nil hname path

theorem splitDots_joinPath {path : List Text} (h : PlainPath path) (hne : path ≠ []) :
    Json.splitDots (joinPath [] path) = path := by
  rw [joinPath_nil h hne]
  exact List.splitOn_intercalate 0x2e h.1 hne

/-- A key is known from its names. -/
theorem splitDots_inj {key key' : Text} (h : Json.splitDots key = Json.splitDots key') :
    key = key' := by
  have hkey := @List.intercalate_splitOn _ key _ _ 0x2e
  have hkey' := @List.intercalate_splitOn _ key' _ _ 0x2e
  unfold Json.splitDots at h
  rw [← hkey, h, hkey']

/-- The entries of an object are those of its members. -/
theorem mem_flattenMembers {parent : Text} {members : List (Text × Json F)}
    {entries : List (Text × Text)} (h : flattenMembers format parent members = some entries)
    {entry : Text × Text} : entry ∈ entries ↔ ∃ name j below, (name, j) ∈ members ∧
      flattenJson format (joinKey parent name) j = some below ∧ entry ∈ below := by
  induction members generalizing entries with
  | nil =>
    obtain rfl : [] = entries := Option.some.inj h
    simp
  | cons member rest ih =>
    obtain ⟨n, u⟩ := member
    obtain ⟨first, hfirst, h⟩ := Option.bind_eq_some_iff.mp h
    obtain ⟨others, hothers, h⟩ := Option.bind_eq_some_iff.mp h
    obtain rfl : first ++ others = entries := Option.some.inj h
    rw [List.mem_append, ih hothers]
    constructor
    · rintro (hmem | ⟨name, j, below, hj, hbelow, hmem⟩)
      · exact ⟨n, u, first, List.mem_cons_self, hfirst, hmem⟩
      · exact ⟨name, j, below, List.mem_cons_of_mem _ hj, hbelow, hmem⟩
    · rintro ⟨name, j, below, hj, hbelow, hmem⟩
      rcases List.mem_cons.mp hj with heq | hj
      · obtain ⟨rfl, rfl⟩ := Prod.mk.inj heq
        obtain rfl : first = below := Option.some.inj (hfirst.symm.trans hbelow)
        exact .inl hmem
      · exact .inr ⟨name, j, below, hj, hbelow, hmem⟩

/-- A member of an object that is flattened is flattened. -/
theorem flattenJson_of_mem {parent : Text} {members : List (Text × Json F)}
    {entries : List (Text × Text)} (h : flattenMembers format parent members = some entries)
    {name : Text} {j : Json F} (hj : (name, j) ∈ members) :
    ∃ below, flattenJson format (joinKey parent name) j = some below := by
  induction members generalizing entries with
  | nil => exact absurd hj List.not_mem_nil
  | cons member rest ih =>
    obtain ⟨n, u⟩ := member
    obtain ⟨first, hfirst, h⟩ := Option.bind_eq_some_iff.mp h
    obtain ⟨others, hothers, -⟩ := Option.bind_eq_some_iff.mp h
    rcases List.mem_cons.mp hj with heq | hj
    · obtain ⟨rfl, rfl⟩ := Prod.mk.inj heq
      exact ⟨first, hfirst⟩
    · exact ih hothers hj

/-- A value that is no object has one entry. -/
theorem flattenJson_of_not_object {j : Json F} (hj : j.isObject = false) (parent : Text) :
    flattenJson format parent j = (rendering format j).map fun text => [(parent, text)] := by
  cases j with
  | object members => exact absurd hj (by simp [Json.isObject])
  | _ => rfl

/-- The entries of a value are the renderings of its leaves, under the keys of their paths. -/
theorem mem_flattenJson {j : Json F} (hdistinct : j.distinct = true) {parent : Text}
    {entries : List (Text × Text)} (h : flattenJson format parent j = some entries)
    {key text : Text} : (key, text) ∈ entries ↔ ∃ path leaf, j.leafAt path = some leaf ∧
      rendering format leaf = some text ∧ key = joinPath parent path := by
  induction j using Json.object_induction generalizing parent entries with
  | leaf j hj =>
    rw [flattenJson_of_not_object hj] at h
    obtain ⟨text', htext', rfl⟩ := Option.map_eq_some_iff.mp h
    simp only [List.mem_singleton, Json.leafAt_eq_some_iff hj]
    constructor
    · intro heq
      obtain ⟨rfl, rfl⟩ := Prod.mk.inj heq
      exact ⟨[], j, ⟨rfl, rfl⟩, htext', rfl⟩
    · rintro ⟨_, _, ⟨rfl, rfl⟩, htext, rfl⟩
      rw [Option.some.inj (htext.symm.trans htext')]
  | object members ih =>
    rw [flattenJson] at h
    rw [Json.distinct] at hdistinct
    rw [mem_flattenMembers h]
    -- No name is there twice, so that a member and what a look for its name finds are the same.
    constructor
    · rintro ⟨name, j, below, hj, hbelow, hmem⟩
      have hdistinct' := Json.distinct_of_mem hdistinct hj
      obtain ⟨path, leaf, hleaf, htext, rfl⟩ := (ih name j hj hdistinct' hbelow).mp hmem
      refine ⟨name :: path, leaf, ?_, htext, rfl⟩
      rw [Json.leafAt_cons_object, (Json.mem_iff_lookup hdistinct).mp hj, Option.bind_some, hleaf]
    · rintro ⟨path, leaf, hleaf, htext, rfl⟩
      cases path with
      | nil =>
        rw [Json.leafAt_nil, Json.isObject, if_pos rfl] at hleaf
        exact absurd hleaf (by simp)
      | cons name path =>
        rw [Json.leafAt_cons_object] at hleaf
        obtain ⟨j, hlookup, hleaf⟩ := Option.bind_eq_some_iff.mp hleaf
        have hj := (Json.mem_iff_lookup hdistinct).mpr hlookup
        obtain ⟨below, hbelow⟩ := flattenJson_of_mem h hj
        have hdistinct' := Json.distinct_of_mem hdistinct hj
        exact ⟨name, j, below, hj, hbelow,
          (ih name j hj hdistinct' hbelow).mpr ⟨path, leaf, hleaf, htext, rfl⟩⟩

namespace ConfigManager

/-- What entries leave under a key, when all of them that are for it have one text. -/
theorem lookup_insertAll {entries : List (Text × Text)} {config : AList fun _ : Text => Text}
    {o : Option Text} (hall : ∀ text, (key, text) ∈ entries → o = some text)
    (hsome : config.lookup key = o ∨ ∃ text, (key, text) ∈ entries) :
    (insertAll entries config).lookup key = o := by
  induction entries generalizing config with
  | nil => exact hsome.resolve_right (by simp)
  | cons entry rest ih =>
    obtain ⟨k, text⟩ := entry
    have hrest : ∀ text, (key, text) ∈ rest → o = some text := fun text hmem =>
      hall text (List.mem_cons_of_mem _ hmem)
    have hcons : insertAll ((k, text) :: rest) config = insertAll rest (config.insert k text) := rfl
    rw [hcons]
    by_cases hk : key = k
    · subst hk
      refine ih hrest (.inl ?_)
      rw [AList.lookup_insert, hall text List.mem_cons_self]
    · refine ih hrest ?_
      rw [AList.lookup_insert_ne hk]
      rcases hsome with hsome | ⟨text', hmem⟩
      · exact .inl hsome
      · rcases List.mem_cons.mp hmem with heq | hmem
        · exact absurd (Prod.mk.inj heq).1 hk
        · exact .inr ⟨text', hmem⟩

/-- A configuration that is made of a plain document, or without a file, has its views together. -/
theorem agree_construct {file : Option (Document F)} (h : construct format file = some s)
    (hplain : ∀ d, file = some d → PlainDocument d) : s.Agree format (.start s) := by
  refine ⟨fun _ => rfl, fun key => ?_, fun key v hv => absurd hv (by simp [Trace.start])⟩
  have hnames : Json.splitDots key ≠ [] := List.splitOn_ne_nil 0x2e key
  cases file with
  | none =>
    obtain rfl : ⟨.null, ∅⟩ = s := Option.some.inj h
    cases hsplit : Json.splitDots key with
    | nil => exact absurd hsplit hnames
    | cons name path =>
      show none = (Json.leafAt (Json.splitDots key) .null).bind (rendering format)
      rw [hsplit]
      rfl
  | some d =>
    obtain ⟨entries, hentries, rfl⟩ := Option.map_eq_some_iff.mp h
    obtain ⟨hroot, hpaths⟩ := hplain d rfl
    have hmem : ∀ text, (key, text) ∈ entries ↔ _ := fun text =>
      mem_flattenJson d.distinct hentries
    -- The entries for the key are the renderings of the leaf at its names.
    have hkey : ∀ text, (key, text) ∈ entries ↔
        (d.value.leafAt (Json.splitDots key)).bind (rendering format) = some text := by
      intro text
      rw [hmem text, Option.bind_eq_some_iff]
      constructor
      · rintro ⟨path, leaf, hleaf, htext, rfl⟩
        have hpath : path ≠ [] := by
          rintro rfl
          rw [Json.leafAt_nil, if_pos hroot] at hleaf
          exact absurd hleaf (by simp)
        rw [splitDots_joinPath (hpaths path leaf hleaf) hpath]
        exact ⟨leaf, hleaf, htext⟩
      · rintro ⟨leaf, hleaf, htext⟩
        refine ⟨_, leaf, hleaf, htext, ?_⟩
        rw [joinPath_nil (hpaths _ leaf hleaf) hnames]
        exact (List.intercalate_splitOn 0x2e).symm
    show (insertAll entries ∅).lookup key =
      (d.value.leafAt (Json.splitDots key)).bind (rendering format)
    refine lookup_insertAll (fun text h => (hkey text).mp h) ?_
    cases hleaf : (d.value.leafAt (Json.splitDots key)).bind (rendering format) with
    | none => exact .inl rfl
    | some text => exact .inr ⟨text, (hkey text).mpr hleaf⟩

/-! ## What a call does to the views -/

theorem pointerTokens_of_dotted (h : Dotted key) : pointerTokens key = some (Json.splitDots key) :=
  Json.parsePointer_of_dots h.1 h.2

/-- A write that the tree takes changes the leaf at its path and no other. -/
theorem leafAt_of_takes {names : List Text} {j v : Json F} (hv : v.isObject = false)
    (h : Takes names j) : ∃ j', Json.assign v names j = (j', true) ∧
      ∀ path ≠ [], j'.leafAt path = if path = names then some v else j.leafAt path := by
  rcases h with h | ⟨rfl, h⟩
  · obtain ⟨j', hassign, hleaf⟩ := Json.leafAt_assign hv h
    exact ⟨j', hassign, fun path _ => hleaf path⟩
  · obtain ⟨j', hassign, hleaf⟩ := Json.assign_null hv h
    refine ⟨j', hassign, fun path hpath => ?_⟩
    cases path with
    | nil => exact absurd rfl hpath
    | cons name path => exact hleaf (name :: path)

/-- A write that is refused does not change the tree. -/
theorem assign_of_refuses (h : s.Refuses key) (v : Json F) {tokens : List Text}
    (htokens : pointerTokens key = some tokens) : Json.assign v tokens s.json = (s.json, false) :=
  Json.assign_of_rejects v (h tokens htokens)

/-- What a text becomes is no object. -/
theorem isObject_of_convert {value : Text} {v : Json F} (h : convert format value = some v) :
    v.isObject = false := by
  unfold convert at h
  split_ifs at h
  · obtain ⟨n, -, rfl⟩ := Option.map_eq_some_iff.mp h
    rfl
  · obtain ⟨x, -, rfl⟩ := Option.map_eq_some_iff.mp h
    rfl
  · obtain rfl := Option.some.inj h
    rfl
  · obtain rfl := Option.some.inj h
    rfl

/-! ### What a call does to the trace -/

variable {t : Trace F}

theorem leaf_environment (value : Text) {other : Text} (ho : other ≠ key) :
    (t.environment format s key value).leaf other = t.leaf other := by
  unfold Trace.environment
  dsimp only
  cases convert format value with
  | none => rfl
  | some v =>
    cases hplace : s.comesToPlace key v with
    | false => simp [Trace.write, hplace]
    | true => simp [Trace.put, Trace.write, hplace, ho]

theorem written_environment (value other : Text) :
    (t.environment format s key value).written other =
      if other = key then some (.text value) else t.written other := by
  unfold Trace.environment
  dsimp only
  cases convert format value with
  | none => rfl
  | some v =>
    cases hplace : s.comesToPlace key v with
    | false => simp [Trace.write, hplace]
    | true => simp [Trace.put, Trace.write, hplace]

/-- A key with another writer has the string of before, and no other value. -/
theorem Trace.string_congr {t t' : Trace F} {other : Text}
    (hwritten : t'.written other = t.written other) (hleaf : t'.leaf other = t.leaf other) :
    t'.string format other = t.string format other := by
  unfold Trace.string
  rw [hwritten, hleaf]

/-- A write at a key that is refused does not come to its place. -/
theorem comesToPlace_of_refuses (h : s.Refuses key) (v : Json F) :
    s.comesToPlace key v = false := by
  rw [comesToPlace]
  cases htokens : pointerTokens key with
  | none => rfl
  | some tokens =>
    dsimp only
    rw [assign_of_refuses h v htokens]

/-- A write that the tree takes does. -/
theorem comesToPlace_of_takes (h : s.TakesKey key) {v : Json F} (hv : v.isObject = false) :
    s.comesToPlace key v = true := by
  obtain ⟨j, hassign, -⟩ := leafAt_of_takes hv h.2
  rw [comesToPlace, pointerTokens_of_dotted h.1]
  dsimp only
  rw [hassign]

/-- A write that the tree takes puts the value at its key, and leaves what stands at the others. -/
theorem leafAt_of_takesKey (h : s.Agree format t) (htakes : s.TakesKey key) {v : Json F}
    (hv : v.isObject = false) : ∃ j, Json.assign v (Json.splitDots key) s.json = (j, true) ∧
      ∀ other, j.leafAt (Json.splitDots other) = (t.put key v).leaf other := by
  obtain ⟨j, hassign, hleaf⟩ := leafAt_of_takes hv htakes.2
  refine ⟨j, hassign, fun other => ?_⟩
  rw [hleaf (Json.splitDots other) (List.splitOn_ne_nil 0x2e other)]
  by_cases ho : other = key
  · rw [ho, if_pos rfl]
    exact (if_pos rfl).symm
  · rw [if_neg fun hsplit => ho (splitDots_inj hsplit), h.leaf other]
    exact (if_neg ho).symm

/-- A `set` that the tree refuses throws. -/
theorem set_of_refuses (h : s.Refuses key) (v : SetValue F) : s.set format key v = (s, false) := by
  rw [set]
  cases htokens : pointerTokens key with
  | none => rfl
  | some tokens =>
    dsimp only
    rw [assign_of_refuses h v.json htokens, if_neg Bool.false_ne_true]

/-- A `set` whose value and string are written. -/
theorem agree_put (h : s.Agree format t) {v : SetValue F} {j : Json F} {text : Text}
    (hleaf : ∀ other, j.leafAt (Json.splitDots other) = (t.put key v.json).leaf other)
    (htext : v.text format = some text) :
    Agree format ⟨j, s.config.insert key text⟩ ((t.write key (.set v)).put key v.json) where
  leaf := hleaf
  string other := by
    by_cases ho : other = key
    · subst ho
      simp [Trace.string, Trace.write, Trace.put, htext]
    · rw [AList.lookup_insert_ne ho, h.string other]
      exact (Trace.string_congr (if_neg ho) (if_neg ho)).symm
  set other v' hv' := by
    by_cases ho : other = key
    · subst ho
      simp only [Trace.put, Trace.write, if_pos] at hv' ⊢
      rw [Written.set.inj (Option.some.inj hv')]
    · simp only [Trace.put, Trace.write, if_neg ho] at hv' ⊢
      exact h.set other v' hv'

theorem agree_set (h : s.Agree format t) {v : SetValue F} (hkeeps : s.SetKeeps format key v) :
    (s.set format key v).1.Agree format
      (if (s.set format key v).2 then (t.write key (.set v)).put key v.json else t) := by
  rcases hkeeps with hrefuses | ⟨htakes, hobject, text, htext⟩
  · rw [set_of_refuses hrefuses, if_neg Bool.false_ne_true]
    exact h
  · obtain ⟨j, hassign, hleaf⟩ := leafAt_of_takesKey h htakes hobject
    have hset : s.set format key v = (⟨j, s.config.insert key text⟩, true) := by
      rw [set, pointerTokens_of_dotted htakes.1]
      dsimp only
      rw [hassign, if_pos rfl, htext]
    rw [hset, if_pos rfl]
    exact agree_put h hleaf htext

/-- A `set` that throws leaves the strings. -/
theorem config_of_throws {v : SetValue F} (h : (s.set format key v).2 = false) :
    (s.set format key v).1.config = s.config := by
  unfold set at h ⊢
  cases htokens : pointerTokens key with
  | none => rfl
  | some tokens =>
    rw [htokens] at h
    dsimp only at h ⊢
    cases hwrite : if (Json.assign v.json tokens s.json).2 = true then v.text format else none with
    | none => rfl
    | some text =>
      rw [hwrite] at h
      exact absurd h (by simp)

/-- What a text from an environment leaves in the tree. -/
theorem leafAt_setEnvironmentValue (h : s.Agree format t) {value : Text}
    (hkeeps : s.EntryKeeps format (key, value)) (other : Text) :
    (s.setEnvironmentValue format key value).json.leafAt (Json.splitDots other) =
      (t.environment format s key value).leaf other := by
  rw [setEnvironmentValue, Trace.environment]
  dsimp only
  cases hv : convert format value with
  | none => exact h.leaf other
  | some v =>
    rcases hkeeps with hnone | hrefuses | htakes
    · exact absurd (hv.symm.trans hnone) (by simp)
    · -- The tree is as before.
      dsimp only
      rw [comesToPlace_of_refuses hrefuses v, if_neg Bool.false_ne_true]
      cases htokens : pointerTokens key with
      | none => exact h.leaf other
      | some tokens =>
        dsimp only
        rw [assign_of_refuses hrefuses v htokens]
        exact h.leaf other
    · have hobject := isObject_of_convert hv
      obtain ⟨j, hassign, hleaf⟩ := leafAt_of_takesKey h htakes hobject
      dsimp only
      rw [if_pos (comesToPlace_of_takes htakes hobject), pointerTokens_of_dotted htakes.1]
      dsimp only
      rw [hassign]
      exact hleaf other

theorem agree_setEnvironmentValue (h : s.Agree format t) {value : Text}
    (hkeeps : s.EntryKeeps format (key, value)) :
    (s.setEnvironmentValue format key value).Agree format (t.environment format s key value) := by
  have hconfig : (s.setEnvironmentValue format key value).config = s.config.insert key value := rfl
  refine ⟨leafAt_setEnvironmentValue h hkeeps, fun other => ?_, fun other v hv => ?_⟩
  · rw [hconfig]
    by_cases ho : other = key
    · subst ho
      rw [AList.lookup_insert, Trace.string, written_environment, if_pos rfl]
    · rw [AList.lookup_insert_ne ho, h.string other]
      exact (Trace.string_congr (by rw [written_environment, if_neg ho])
        (leaf_environment value ho)).symm
  · rw [written_environment] at hv
    by_cases ho : other = key
    · rw [if_pos ho] at hv
      exact absurd (Option.some.inj hv) (by simp)
    · rw [if_neg ho] at hv
      rw [leaf_environment value ho]
      exact h.set other v hv

/-! ## Runs -/

/-- The entries that are traced are loaded. -/
theorem run_tracedEntry (overrideExisting : Bool) (st : ConfigManager F × Trace F)
    (entries : List (Text × Text)) :
    (run (tracedEntry format overrideExisting) st entries).1 =
      run (fun s entry => s.loadEntry format overrideExisting entry) st.1 entries := by
  induction entries using List.reverseRecOn with
  | nil => rfl
  | append_singleton entries entry ih => rw [run_concat, run_concat, ← ih]; rfl

/-- The calls that are traced are made. -/
theorem tracedStep_fst (st : ConfigManager F × Trace F) (call : ConfigCall F) :
    (tracedStep format st call).1 = st.1.step format call := by
  cases call with
  | set key v => rfl
  | setEnvironmentValue key value =>
    rw [tracedStep, tracedEntry, loadEntry, if_pos (.inl rfl)]
    rfl
  | loadEnvFile file overrideExisting =>
    cases file with
    | none => rfl
    | some content => exact run_tracedEntry overrideExisting st (envEntries content)
  | loadCommonVariables getenv envPrefix =>
    rw [tracedStep, run_tracedEntry]
    simp [step, loadEnvironmentVariables, run, loadEntry]
  | loadEnvironmentVariables getenv vars envPrefix =>
    rw [tracedStep, run_tracedEntry]
    simp [step, loadEnvironmentVariables, run, loadEntry]

theorem run_traced (s : ConfigManager F) (calls : List (ConfigCall F)) :
    (run (tracedStep format) (s, .start s) calls).1 = run (step format) s calls := by
  induction calls using List.reverseRecOn with
  | nil => rfl
  | append_singleton calls call ih => rw [run_concat, run_concat, tracedStep_fst, ih]

/-- Entries that meet their conditions keep the views together. -/
theorem agree_entries {overrideExisting : Bool} {st : ConfigManager F × Trace F}
    (h : st.1.Agree format st.2) {entries : List (Text × Text)}
    (hkeep : st.1.EntriesKeep format overrideExisting entries) :
    (run (tracedEntry format overrideExisting) st entries).1.Agree format
      (run (tracedEntry format overrideExisting) st entries).2 := by
  have htraced : EveryStep (tracedEntry format overrideExisting) st
      (fun _ st entry => (overrideExisting = true ∨ st.1.hasKey entry.1 = false) →
        st.1.EntryKeeps format entry) entries := by
    intro pre entry post hentries
    rw [run_tracedEntry]
    exact hkeep pre entry post hentries
  refine htraced.inv (I := fun _ st => st.1.Agree format st.2) h ?_
  intro _ st entry hagree hentry
  rw [tracedEntry, loadEntry]
  split_ifs with hload
  · exact agree_setEnvironmentValue hagree
      (hentry (hload.imp_right fun hkey => by simpa using hkey))
  · exact hagree

/-- A call that meets its condition keeps the views together. -/
theorem agree_step {st : ConfigManager F × Trace F} (h : st.1.Agree format st.2)
    {call : ConfigCall F} (hkeeps : st.1.CallKeeps format call) :
    (tracedStep format st call).1.Agree format (tracedStep format st call).2 := by
  cases call with
  | set key v => exact agree_set h hkeeps
  | setEnvironmentValue key value =>
    rw [tracedStep, tracedEntry, loadEntry, if_pos (.inl rfl), if_pos (.inl rfl)]
    exact agree_setEnvironmentValue h hkeeps
  | loadEnvFile file overrideExisting =>
    cases file with
    | none => exact h
    | some content => exact agree_entries h (hkeeps content rfl)
  | loadCommonVariables getenv envPrefix => exact agree_entries h hkeeps
  | loadEnvironmentVariables getenv vars envPrefix => exact agree_entries h hkeeps

/-- Calls that meet their conditions keep the views together. -/
theorem agree_run (h : s.Agree format (.start s)) {calls : List (ConfigCall F)}
    (hcalls : EveryStep (step format) s (fun _ s call => s.CallKeeps format call) calls) :
    (run (step format) s calls).Agree format (traceAfter format s calls) := by
  have htraced : EveryStep (tracedStep format) (s, .start s)
      (fun _ st call => st.1.CallKeeps format call) calls := by
    intro pre call post hcalls'
    rw [run_traced]
    exact hcalls pre call post hcalls'
  rw [← run_traced, traceAfter]
  exact htraced.inv (I := fun _ st => st.1.Agree format st.2) h
    fun _ _ _ hagree hcall => agree_step hagree hcall

/-- A value that is no object is stored under a dotted key when its tree has it there. -/
theorem stored_eq_some (hkey : Dotted key) {v : Json F} :
    s.stored key = some v ↔
      s.json.valueAt (Json.splitDots key) = some v ∧ v.isObject = false := by
  rw [stored, valueOfKey, pointerTokens_of_dotted hkey, Option.bind_some,
    Option.filter_eq_some_iff, Bool.not_eq_true']

/-- A leaf is stored under its key. -/
theorem stored_of_leafAt (hkey : Dotted key) {v : Json F}
    (h : s.json.leafAt (Json.splitDots key) = some v) : s.stored key = some v := by
  rw [Json.leafAt, Option.filter_eq_some_iff, Bool.not_eq_true'] at h
  exact (stored_eq_some hkey).mpr ⟨Json.valueAt_of_memberAt h.1, h.2⟩

/-- A string that is a rendering is that of the leaf. -/
theorem lookup_of_renders (h : s.Agree format t) (hrenders : t.Renders key) :
    s.config.lookup key = (s.json.leafAt (Json.splitDots key)).bind (rendering format) := by
  rw [h.string key, h.leaf key, Trace.string]
  rw [Trace.Renders] at hrenders
  cases hwritten : t.written key with
  | none => rfl
  | some w =>
    rw [hwritten] at hrenders
    cases w with
    | text value => exact absurd hrenders id
    | set v =>
      rw [h.set key v hwritten, Option.bind_some]
      exact SetValue.text_of_isRendering format hrenders

theorem get_of_renders (h : s.Agree format t) (hrenders : t.Renders key) :
    s.get key = ((s.json.leafAt (Json.splitDots key)).bind (rendering format)).getD [] := by
  rw [get, lookup_of_renders h hrenders]

/-- A value that is stored under a dotted key is a leaf when objects lead to it. -/
theorem leafAt_of_stored (hkey : Dotted key) {v : Json F} (hv : s.stored key = some v)
    (hmember : s.json.memberAt (Json.splitDots key) = some v) :
    s.json.leafAt (Json.splitDots key) = some v := by
  rw [Json.leafAt, Option.filter_eq_some_iff, Bool.not_eq_true']
  exact ⟨hmember, ((stored_eq_some hkey).mp hv).2⟩

/-- A dotted key whose string is a rendering has the string that belongs to the tree, unless it is
that of an element of an array, or of a value whose rendering is empty. -/
theorem viewsAgree_of_agree (h : s.Agree format t) (hkey : Dotted key) (hrenders : t.Renders key) :
    s.ViewsAgree format key ↔ ∀ v, s.stored key = some v →
      s.json.memberAt (Json.splitDots key) = some v ∧
        ∃ text, rendering format v = some text ∧ text ≠ [] := by
  have hget := get_of_renders h hrenders
  constructor
  · -- A value with a text is an entry of the map, which came from a leaf.
    rintro ⟨hrendering, hempty⟩ v hv
    have hne : s.get key ≠ [] := fun hnil => by
      rw [hempty.mp hnil] at hv
      exact absurd hv (by simp)
    refine ⟨?_, s.get key, hrendering v hv, hne⟩
    cases hleaf : s.json.leafAt (Json.splitDots key) with
    | none =>
      rw [hleaf] at hget
      exact absurd hget hne
    | some v' =>
      obtain rfl : v = v' := Option.some.inj (hv.symm.trans (stored_of_leafAt hkey hleaf))
      rw [Json.leafAt, Option.filter_eq_some_iff] at hleaf
      exact hleaf.1
  · intro hall
    cases hv : s.stored key with
    | none =>
      have hnone : s.json.leafAt (Json.splitDots key) = none := by
        refine Option.eq_none_iff_forall_ne_some.mpr fun v hleaf => ?_
        rw [stored_of_leafAt hkey hleaf] at hv
        exact absurd hv (by simp)
      rw [hnone] at hget
      refine ⟨fun v hv' => ?_, fun _ => hv, fun _ => hget⟩
      rw [hv] at hv'
      exact absurd hv' (by simp)
    | some v =>
      obtain ⟨hmember, text, htext, hne⟩ := hall v hv
      rw [leafAt_of_stored hkey hv hmember, Option.bind_some, htext, Option.getD_some] at hget
      refine ⟨fun v' hv' => ?_, fun hnil => ?_, fun hnone => ?_⟩
      · rw [hv] at hv'
        rw [← Option.some.inj hv', htext, hget]
      · exact absurd (hget.symm.trans hnil) hne
      · rw [hv] at hnone
        exact absurd hnone (by simp)

/-- The texts of strings that need no escapes, and no numbers but integers. -/
def plainFormat : Format Empty where
  stod _ := none
  dumpReal := Empty.elim
  realText := Empty.elim
  dumpString s := some (0x22 :: (s ++ [0x22]))

/-- A value from an environment for `a.b`, where `a` is a number, changes the strings and not the
tree; and after the text `007` the strings have the text, and the tree has the number. -/
theorem not_viewsAgree_text :
    ∃ s : ConfigManager Empty,
      construct plainFormat (some ⟨.object [(utf8 "a", .integer 1)], rfl⟩) = some s ∧
      ((run (step plainFormat) s [.setEnvironmentValue (utf8 "a.b") (utf8 "x")]).json = s.json ∧
        (run (step plainFormat) s [.setEnvironmentValue (utf8 "a.b") (utf8 "x")]).get
          (utf8 "a.b") ≠ s.get (utf8 "a.b")) ∧
      ¬ (run (step plainFormat) s [.setEnvironmentValue (utf8 "p") (utf8 "007")]).ViewsAgree
        plainFormat (utf8 "p") := by
  refine ⟨_, rfl, ⟨rfl, by decide +kernel⟩, fun h => ?_⟩
  have htext := h.1 (.integer 7) rfl
  exact absurd htext (by decide +kernel)

/-- After calls that meet their conditions, the tree has at each key the value that was written
there last, or that of the document; a dotted key whose string is a rendering has the string that
belongs to the tree, unless it is that of an element of an array, or of a value whose rendering is
empty; a key with a text from an environment has it for its string, and the typed reads find the
value in the tree; and a `set` that throws leaves the strings as they are. -/
theorem viewsAgree_after {file : Option (Document F)} {calls : List (ConfigCall F)}
    (hconstruct : construct format file = some s)
    (hplain : ∀ d, file = some d → PlainDocument d)
    (hcalls : EveryStep (step format) s (fun _ s call => s.CallKeeps format call) calls) :
    (∀ key, (run (step format) s calls).json.leafAt (Json.splitDots key) =
      (traceAfter format s calls).leaf key) ∧
    (∀ key, Dotted key → (traceAfter format s calls).Renders key →
      ((run (step format) s calls).ViewsAgree format key ↔
        ∀ v, (run (step format) s calls).stored key = some v →
          (run (step format) s calls).json.memberAt (Json.splitDots key) = some v ∧
            ∃ text, rendering format v = some text ∧ text ≠ [])) ∧
    (∀ key text, (traceAfter format s calls).written key = some (.text text) →
      (run (step format) s calls).get key = text ∧
        ∀ v, Dotted key → (traceAfter format s calls).leaf key = some v →
          (run (step format) s calls).stored key = some v) ∧
    ∀ key v, ((run (step format) s calls).set format key v).2 = false →
      ∀ other, ((run (step format) s calls).set format key v).1.get other =
        (run (step format) s calls).get other := by
  have hagree := agree_run (agree_construct hconstruct hplain) hcalls
  refine ⟨hagree.leaf, fun key hkey hrenders => viewsAgree_of_agree hagree hkey hrenders,
    fun key text htext => ⟨?_, fun v hkey hleaf => ?_⟩, fun key v hthrows other => ?_⟩
  · rw [get, hagree.string key, Trace.string, htext, Option.getD_some]
  · rw [← hagree.leaf key] at hleaf
    exact stored_of_leafAt hkey hleaf
  · rw [get, get, config_of_throws hthrows]

/-- Calls on a document: a new member, a text from an environment, and a write that is refused. -/
theorem viewsAgree_after_example :
    let s := run (step plainFormat)
      ⟨.object [(utf8 "n", .integer 7)], insertAll [(utf8 "n", utf8 "7")] ∅⟩
      [.set (utf8 "a.c") (.string (utf8 "y")), .setEnvironmentValue (utf8 "p") (utf8 "007"),
        .set (utf8 "n.m") (.boolean true)]
    s.ViewsAgree plainFormat (utf8 "a.c") ∧ s.get (utf8 "p") = utf8 "007" ∧
      s.stored (utf8 "p") = some (.integer 7) := by
  intro s
  have hplain : PlainDocument (F := Empty) ⟨.object [(utf8 "n", .integer 7)], rfl⟩ := by
    -- The number at `n` is the only leaf.
    refine ⟨rfl, fun path leaf hleaf => ?_⟩
    cases path with
    | nil => exact absurd hleaf (by simp [Json.leafAt_nil, Json.isObject])
    | cons name path =>
      rw [Json.leafAt_cons_object, List.lookup_cons] at hleaf
      by_cases hname : name = utf8 "n"
      · subst hname
        cases path with
        | nil => exact ⟨by decide +kernel, fun rest h => (List.cons.inj h).2.symm⟩
        | cons name path => exact absurd hleaf (by simp [Json.leafAt, Json.memberAt])
      · rw [beq_false_of_ne hname] at hleaf
        exact absurd hleaf (by simp)
  have hfresh : ∀ name, Json.isArrayToken name = false → Json.Fresh [name] := by
    intro name hname n hn
    rwa [List.mem_singleton.mp hn]
  have hcalls : EveryStep (step plainFormat)
      ⟨.object [(utf8 "n", .integer 7)], insertAll [(utf8 "n", utf8 "7")] ∅⟩
      (fun _ s call => s.CallKeeps plainFormat call)
      [.set (utf8 "a.c") (.string (utf8 "y")), .setEnvironmentValue (utf8 "p") (utf8 "007"),
        .set (utf8 "n.m") (.boolean true)] := by
    refine everyStep_cons.mpr ⟨.inr ⟨⟨by decide +kernel, .inl ?_⟩, rfl, utf8 "y", rfl⟩,
      everyStep_cons.mpr ⟨.inr (.inr ⟨by decide +kernel, .inl ?_⟩),
        everyStep_cons.mpr ⟨.inl ?_, everyStep_nil⟩⟩⟩
    · exact hfresh (utf8 "c") (by decide +kernel)
    · exact fun name hname => absurd hname List.not_mem_nil
    · -- The number is in the way.
      intro tokens htokens
      obtain rfl : [utf8 "n", utf8 "m"] = tokens := Option.some.inj htokens
      exact trivial
  have hconstruct : construct plainFormat (some ⟨.object [(utf8 "n", .integer 7)], rfl⟩) =
      some ⟨.object [(utf8 "n", .integer 7)], insertAll [(utf8 "n", utf8 "7")] ∅⟩ := rfl
  obtain ⟨-, hviews, htexts, -⟩ :=
    viewsAgree_after hconstruct (fun d hd => Option.some.inj hd ▸ hplain) hcalls
  obtain ⟨hget, hstored⟩ := htexts (utf8 "p") (utf8 "007") rfl
  refine ⟨(hviews (utf8 "a.c") (by decide +kernel) rfl).mpr fun v hv => ?_, hget,
    hstored (.integer 7) (by decide +kernel) rfl⟩
  obtain rfl : .string (utf8 "y") = v := Option.some.inj hv
  exact ⟨rfl, utf8 "y", rfl, by decide +kernel⟩

end ConfigManager

end MyChat.Common
