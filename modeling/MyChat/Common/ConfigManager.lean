import Mathlib.Data.List.AList
import Mathlib.Data.List.DropRight
import MyChat.Codec.Crc32
import MyChat.Lib.JsonPointer

/-!
# The configuration

`ConfigManager` of `common/utils/config_mgr.hpp` keeps a configuration twice: as a JSON tree, which
the typed reads look into, and as a map from dotted keys to strings, which `get` looks into. The map
is made once, by `flatten_json`, and each call that writes a value afterwards writes both.

A key is a path: `pointerTokens` is the JSON pointer that each access makes of it. A text from a
file or an environment gets a JSON type by its spelling (`convert`).
-/

namespace MyChat.Common

open Codec ByteText JsonPointer

variable {F : Type}

/-! ## Texts -/

/-- `boost::trim`. -/
def trim (text : Text) : Text := (text.dropWhile isSpace).rdropWhile isSpace

/-- `::tolower`. -/
def lowerByte (c : UInt8) : UInt8 := if 0x41 ≤ c ∧ c ≤ 0x5a then c + 0x20 else c

/-- `toLowerCase`. -/
def toLowerCase (text : Text) : Text := text.map lowerByte

/-- `isInteger`. -/
def isInteger (text : Text) : Bool :=
  let digits := if text.head? = some 0x2d ∨ text.head? = some 0x2b then text.tail else text
  !digits.isEmpty && digits.all (isDigitOf 10)

/-- `std::stoll`, of a text that `isInteger` accepts; `none` when it throws. -/
def stoll (text : Text) : Option ℤ :=
  let n : ℤ :=
    match text with
    | [] => 0
    | c :: digits =>
      if c = 0x2d then -valueOf 10 digits
      else if c = 0x2b then valueOf 10 digits
      else valueOf 10 (c :: digits)
  if -2 ^ 63 ≤ n ∧ n < 2 ^ 63 then some n else none

/-- `isFloat`. -/
def isFloat (format : Format F) (text : Text) : Bool :=
  (format.stod text).isSome && (text.contains 0x2e || text.contains 0x65 || text.contains 0x45)

/-- `isBool`. -/
def isBool (text : Text) : Bool :=
  [utf8 "true", utf8 "false", utf8 "1", utf8 "0", utf8 "yes", utf8 "no", utf8 "on",
    utf8 "off"].contains (toLowerCase text)

/-- `toBool`. -/
def toBool (text : Text) : Bool :=
  [utf8 "true", utf8 "1", utf8 "yes", utf8 "on"].contains (toLowerCase text)

/-- The value that `setEnvironmentValue` makes of a text; `none` when the conversion throws. -/
def convert (format : Format F) (text : Text) : Option (Json F) :=
  if isInteger text then (stoll text).map .integer
  else if isFloat format text then (format.stod text).map .real
  else if isBool text then some (.boolean (toBool text))
  else some (.string text)

/-- The string that `flatten_json` gives to a value that is no object. -/
def rendering (format : Format F) : Json F → Option Text
  | .string s => some s
  | j => j.dump format

/-- `get<std::string>` of the JSON library. -/
def stringOf : Json F → Option Text
  | .string s => some s
  | _ => none

/-! ## The configuration -/

/-- What `operator>>` reads: a value whose objects have no name twice. -/
structure Document (F : Type) where
  /-- The value. -/
  value : Json F
  /-- The names of its objects. -/
  distinct : value.distinct = true

/-- `ConfigManager`. -/
structure ConfigManager (F : Type) where
  /-- `json_`. -/
  json : Json F
  /-- `config_`. -/
  config : AList fun _ : Text => Text

/-- The value that `set` takes. -/
inductive SetValue (F : Type) where
  /-- An integer type other than `bool`. -/
  | integer (n : ℤ)
  /-- `bool`. -/
  | boolean (b : Bool)
  /-- A floating type. -/
  | floating (x : F)
  /-- `std::string`. -/
  | string (s : Text)
  /-- An array of characters, as a literal is. -/
  | characters (s : Text)
  /-- Any other type, as the JSON value that is made of it. -/
  | other (j : Json F)

namespace SetValue

/-- The JSON value that `set` stores. -/
def json : SetValue F → Json F
  | integer n => .integer n
  | boolean b => .boolean b
  | floating x => .real x
  | string s => .string s
  | characters s => .string s
  | other j => j

/-- The string that `set` stores: `std::to_string` of a number or a `bool`, a string as it is, and
the `dump` of anything else, which throws for `none`. -/
def text (format : Format F) : SetValue F → Option Text
  | integer n => some (intText n)
  | boolean b => some (intText b.toNat)
  | floating x => some (format.realText x)
  | string s => some s
  | characters s => format.dumpString s
  | other j => j.dump format

/-- The string that `set` stores is what `flatten_json` would give to the value. It is for an
integer type and for `std::string`, and for any other type but `bool`, a floating type, and a type
that becomes a JSON string. -/
def isRendering : SetValue F → Bool
  | integer _ => true
  | boolean _ => false
  | floating _ => false
  | string _ => true
  | characters _ => false
  | other (.string _) => false
  | other _ => true

theorem text_of_isRendering (format : Format F) {v : SetValue F} (h : v.isRendering = true) :
    v.text format = rendering format v.json := by
  cases v with
  | integer n => rfl
  | boolean b => exact absurd h Bool.false_ne_true
  | floating x => exact absurd h Bool.false_ne_true
  | string s => rfl
  | characters s => exact absurd h Bool.false_ne_true
  | other j =>
    cases j with
    | string s => exact absurd h Bool.false_ne_true
    | _ => rfl

end SetValue

/-- The key of a member of the object at `parent`. -/
def joinKey (parent name : Text) : Text := if parent = [] then name else parent ++ 0x2e :: name

mutual

/-- `flatten_json`: the entries in the order in which they are written; `none` when a `dump`
throws. -/
def flattenJson (format : Format F) (parent : Text) : Json F → Option (List (Text × Text))
  | .object members => flattenMembers format parent members
  | .string s => some [(parent, s)]
  | j => (j.dump format).map fun text => [(parent, text)]

/-- The loop of `flatten_json` over the members of an object. -/
def flattenMembers (format : Format F) (parent : Text) :
    List (Text × Json F) → Option (List (Text × Text))
  | [] => some []
  | (name, j) :: rest => do
    let entries ← flattenJson format (joinKey parent name) j
    let others ← flattenMembers format parent rest
    some (entries ++ others)

end

/-- The pointer of a key, as each access makes it; `none` when it is not well formed. -/
def pointerTokens (key : Text) : Option (List Text) :=
  Json.parsePointer (0x2f :: key.map fun c => if c = 0x2e then 0x2f else c)

namespace ConfigManager

variable (format : Format F)

/-- Writes entries into `config_`, one after another. -/
def insertAll (entries : List (Text × Text)) (config : AList fun _ : Text => Text) :
    AList fun _ : Text => Text :=
  entries.foldl (fun config entry => config.insert entry.1 entry.2) config

/-- The constructor; `file` is what stands in the file, and `none` when it is not open. `none` when
it throws. -/
def construct : Option (Document F) → Option (ConfigManager F)
  | none => some ⟨.null, ∅⟩
  | some d => (flattenJson format [] d.value).map fun entries => ⟨d.value, insertAll entries ∅⟩

variable (s : ConfigManager F)

/-- `get` with a string for its result. -/
def get (key : Text) : Text := (s.config.lookup key).getD []

/-- The value that the typed reads find under a key. -/
def valueOfKey (key : Text) : Option (Json F) :=
  (pointerTokens key).bind fun tokens => s.json.valueAt tokens

/-- `has_key`. -/
def hasKey (key : Text) : Bool := (s.valueOfKey key).isSome

/-- `get<T>`, with what `get` of the JSON library makes of a value for `T`; that is `none` when it
throws. -/
def getAs {T : Type} (fromJson : Json F → Option T) (key : Text) (defaultValue : T) : T :=
  ((s.valueOfKey key).bind fromJson).getD defaultValue

/-- `getWithEnv<T>`, with what `convertStringToType<T>` makes of a text. -/
def getWithEnv {T : Type} (fromJson : Json F → Option T) (fromText : Text → Option T)
    (getenv : Text → Option Text) (key envKey : Text) (defaultValue : T) : T :=
  match getenv (if envKey = [] then key else envKey) with
  | some text => (fromText text).getD defaultValue
  | none =>
    if envKey ≠ [] ∧ s.hasKey envKey then s.getAs fromJson envKey defaultValue
    else s.getAs fromJson key defaultValue

/-- `set`, and whether it returns. The tree is written first, and what a failed write has made
stays. -/
def set (key : Text) (v : SetValue F) : ConfigManager F × Bool :=
  match pointerTokens key with
  | none => (s, false)
  | some tokens =>
    let write := Json.assign v.json tokens s.json
    match if write.2 then v.text format else none with
    | none => (⟨write.1, s.config⟩, false)
    | some text => (⟨write.1, s.config.insert key text⟩, true)

/-- `setEnvironmentValue`. The strings are written first, and what the tree does is not looked at:
the text may have no conversion, the key no pointer, and the write may fail on its way. -/
def setEnvironmentValue (key value : Text) : ConfigManager F where
  json :=
    match convert format value, pointerTokens key with
    | some v, some tokens => (Json.assign v tokens s.json).1
    | _, _ => s.json
  config := s.config.insert key value

/-! ## Files and environments -/

/-- A value without one pair of quotes around it. -/
def unquote (value : Text) : Text :=
  if 2 ≤ value.length ∧ (value.head? = some 0x22 ∧ value.getLast? = some 0x22 ∨
      value.head? = some 0x27 ∧ value.getLast? = some 0x27) then
    value.tail.dropLast
  else value

/-- The key and the value of a line; `none` when the line has no `=`, is empty or is a comment. -/
def parseLine (line : Text) : Option (Text × Text) :=
  let line := trim line
  if line = [] ∨ line.head? = some 0x23 ∨ 0x3d ∉ line then none
  else
    some (trim (line.takeWhile (· ≠ 0x3d)),
      unquote (trim (line.dropWhile (· ≠ 0x3d)).tail))

/-- The keys and the values of a file, line by line. -/
def envEntries (content : Text) : List (Text × Text) := (content.splitOn 0x0a).filterMap parseLine

/-- What `loadEnvFile` does with one key and value. -/
def loadEntry (overrideExisting : Bool) (entry : Text × Text) : ConfigManager F :=
  if overrideExisting ∨ ¬ s.hasKey entry.1 then s.setEnvironmentValue format entry.1 entry.2 else s

/-- `loadEnvFile`, and what it returns; `file` is `none` when it is not open. -/
def loadEnvFile (file : Option Text) (overrideExisting : Bool) : ConfigManager F × Bool :=
  match file with
  | none => (s, false)
  | some content =>
    ((envEntries content).foldl (fun s entry => s.loadEntry format overrideExisting entry) s, true)

/-- `common_env_vars`. -/
def commonEnvVars : List Text :=
  [utf8 "PORT", utf8 "HOST", utf8 "DEBUG", utf8 "LOG_LEVEL", utf8 "DATABASE_URL", utf8 "REDIS_URL",
    utf8 "WS_PORT", utf8 "HTTP_PORT", utf8 "REDIS_HOST", utf8 "REDIS_PORT", utf8 "REDIS_PASSWORD",
    utf8 "SSL_CERT", utf8 "SSL_KEY", utf8 "JWT_SECRET", utf8 "ENVIRONMENT", utf8 "SERVICE_NAME"]

/-- The keys and the values that an environment gives to a list of variables. -/
def environmentEntries (getenv : Text → Option Text) (vars : List Text) (envPrefix : Text) :
    List (Text × Text) :=
  vars.filterMap fun var =>
    let fullVar := if envPrefix = [] then var else envPrefix ++ 0x5f :: var
    let key := if envPrefix = [] then toLowerCase var
      else toLowerCase envPrefix ++ 0x2e :: toLowerCase var
    (getenv fullVar).map fun value => (key, value)

/-- `loadEnvironmentVariables` of a list; the one without a list has `commonEnvVars`. -/
def loadEnvironmentVariables (getenv : Text → Option Text) (vars : List Text) (envPrefix : Text) :
    ConfigManager F :=
  (environmentEntries getenv vars envPrefix).foldl
    (fun s entry => s.setEnvironmentValue format entry.1 entry.2) s

end ConfigManager

end MyChat.Common
