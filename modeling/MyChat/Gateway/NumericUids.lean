import MyChat.Gateway.MessageProcessor
import MyChat.Gateway.Router
import MyChat.Lib.CompositeKey
import MyChat.Lib.JsonText

/-!
# Uids that are numbers

`parse_http_request_enhanced` of `gateway/message_processor/message_parser.cpp` takes the uids of
the header from the JSON of a request: from its body, or from its parameters. A uid that is not a
string is read with `get<int>`, and its numeral is the header's. The JSON library holds integers of
up to 64 bits, and `get<int>` keeps 32 of them (`JsonLibrary.CutsIntegers`).

`uids_iff` says when the header has the numerals of the integers in the JSON, and with it that
different integers are different uids.
-/

namespace MyChat.Gateway

open JsonText CompositeKey

/-! ## Numbers -/

/-- Different integers have different numerals. -/
theorem toString_int_injective {m n : ℤ} (h : toString m = toString n) : m = n := by
  have hlist := congrArg String.toList h
  have hnat : ∀ k : ℕ, (toString (Int.ofNat k)).toList = Nat.toDigits 10 k :=
    fun k => Nat.toList_repr
  have hneg : ∀ k : ℕ, (toString (Int.negSucc k)).toList = '-' :: Nat.toDigits 10 (k + 1) := by
    intro k
    show ("-" ++ Nat.repr (k + 1)).toList = _
    rw [String.toList_append, Nat.toList_repr]
    rfl
  have hdigits : ∀ {j k : ℕ}, Nat.toDigits 10 j = Nat.toDigits 10 k → j = k := by
    intro j k hjk
    have hvalue := congrArg (Nat.ofDigitChars 10 · 0) hjk
    simpa only [Nat.ofDigitChars_ten_toDigits] using hvalue
  have hsign : ∀ (j : ℕ) (l : List Char), Nat.toDigits 10 j ≠ '-' :: l := by
    intro j l heq
    have hmem : '-' ∈ Nat.toDigits 10 j := by rw [heq]; exact List.mem_cons_self
    exact absurd (Nat.isDigit_of_mem_toDigits (by decide) (by decide) hmem) (by decide)
  rcases m with j | j <;> rcases n with k | k
  · rw [hnat, hnat] at hlist
    rw [hdigits hlist]
  · rw [hnat, hneg] at hlist
    exact absurd hlist (hsign j _)
  · rw [hnat, hneg] at hlist
    exact absurd hlist.symm (hsign k _)
  · rw [hneg, hneg] at hlist
    rw [Nat.succ.inj (hdigits (List.cons.inj hlist).2)]

/-- The natural number that digits without a leading zero are. -/
def naturalLiteral (digits : List Char) : Option ℕ :=
  if digits = ['0'] ∨ digits ≠ [] ∧ digits.head? ≠ some '0' ∧ digits.all Char.isDigit then
    some (Nat.ofDigitChars 10 digits 0)
  else none

/-- The integer that a JSON number is, when it has no fraction and no exponent. -/
def integerLiteral (literal : String) : Option ℤ :=
  match literal.toList with
  | '-' :: digits => (naturalLiteral digits).map fun n => -(n : ℤ)
  | digits => (naturalLiteral digits).map fun n => (n : ℤ)

/-- The integers that an `int` holds. -/
def FitsInt (n : ℤ) : Prop := -2 ^ 31 ≤ n ∧ n < 2 ^ 31

instance (n : ℤ) : Decidable (FitsInt n) := inferInstanceAs (Decidable (_ ∧ _))

/-- What the parser needs of the JSON library. -/
structure JsonLibrary where
  /-- `json::parse`, with the text of its exception. -/
  parse : String → Except String Value
  /-- `dump`, with the text of its exception. -/
  dump : Value → Except String String
  /-- `get<int>`, with the text of its exception. -/
  getInt : Value → Except String Int32

/-- What the library documents of `get<int>`: it casts the number that is held. -/
structure JsonLibrary.CutsIntegers (lib : JsonLibrary) : Prop where
  /-- An integer is held in 64 bits, signed when it is negative and else unsigned, and cut to 32. -/
  getInt_integer : ∀ literal n, integerLiteral literal = some n → -2 ^ 63 ≤ n → n < 2 ^ 64 →
    lib.getInt (.number literal) = .ok (.ofInt n)
  /-- Any other number is held as a `double`, whose cast gives some `int`. -/
  getInt_number : ∀ literal, ∃ k, lib.getInt (.number literal) = .ok k

/-! ## The parser -/

/-- `httplib::Request`. -/
structure HttplibRequest where
  /-- `method`. -/
  method : String
  /-- `path`. -/
  path : String
  /-- `headers`. -/
  headers : List (String × String)
  /-- `params`, in the order of their names. -/
  params : List (String × String)
  /-- `body`. -/
  body : String
  deriving DecidableEq, Repr

namespace HttplibRequest

/-- `headers.find`, which does not look at the case of the letters. -/
def findHeader (req : HttplibRequest) (name : String) : Option String :=
  (req.headers.find? fun header =>
    header.1.toList.map Char.toLower = name.toList.map Char.toLower).map Prod.snd

/-- `params.find`. -/
def findParam (req : HttplibRequest) (name : String) : Option String := req.params.lookup name

/-- `extract_token`. -/
def extractToken (req : HttplibRequest) : String :=
  match req.findHeader "Authorization" with
  | none => ""
  | some value =>
    if "Bearer ".toList.isPrefixOf value.toList then String.ofList (value.toList.drop 7) else value

/-- `extract_device_id`. -/
def extractDeviceId (req : HttplibRequest) : String :=
  ((req.findHeader "X-Device-ID").or (req.findParam "device_id")).getD ""

/-- `extract_platform`. -/
def extractPlatform (req : HttplibRequest) : String :=
  ((req.findHeader "X-Platform").or (req.findParam "platform")).getD "unknown"

/-- `extract_client_ip`. -/
def extractClientIp (req : HttplibRequest) : String :=
  ((req.findHeader "X-Forwarded-For").or (req.findHeader "X-Real-IP")).getD "unknown"

end HttplibRequest

/-- `params_json[name] = value`. -/
def setMember (members : List (String × Value)) (param : String × String) :
    List (String × Value) :=
  if param.1 ∈ members.map Prod.fst then
    members.map fun member => if member.1 = param.1 then (param.1, .text param.2) else member
  else members ++ [(param.1, .text param.2)]

/-- The text that `set_json_body` is called with, empty when it is not called. -/
def selectBody (lib : JsonLibrary) (req : HttplibRequest) : Except String String :=
  if req.method = "POST" ∨ req.method = "PUT" ∨ req.method = "PATCH" then
    match req.findHeader "Content-Type" with
    | none => .ok ""
    | some contentType =>
      if "application/json".toList <:+: contentType.toList then
        .ok (if req.body = "" then "\x7b\x7d" else req.body)
      else .ok ""
  else if req.method = "GET" ∧ req.params ≠ [] then
    lib.dump (.object (req.params.foldl setMember []))
  else .ok ""

/-- The text that `c_str()` points to. -/
def cString (s : String) : String := String.ofList (s.toList.takeWhile (· ≠ '\x00'))

/-- The member of an object; the last one of its name counts. -/
def member (v : Value) (name : String) : Option Value :=
  match v with
  | .object members => (latest Prod.fst members name).map Prod.snd
  | _ => none

/-- The header's uid that a member gives: a string is taken as it is, and of anything else the
numeral of its `int`. -/
def uidText (lib : JsonLibrary) : Value → Except String String
  | .text s => .ok s
  | v => (lib.getInt v).map fun n => toString n.toInt

/-- A field of the header that is set from a member, if there is one. -/
def setUid (lib : JsonLibrary) (v : Value) (name old : String) : Except String String :=
  match member v name with
  | none => .ok old
  | some uid => uidText lib uid

/-- The uids are set when there is a JSON text. -/
def setUids (lib : JsonLibrary) (jsonBody : String) (header : IMHeader) :
    Except String IMHeader :=
  if jsonBody = "" then .ok header
  else do
    let getUid ← lib.parse (cString jsonBody)
    let fromUid ← setUid lib getUid "from_uid" header.fromUid
    let toUid ← setUid lib getUid "to_uid" header.toUid
    .ok { header with fromUid := fromUid, toUid := toUid }

/-- `UnifiedMessage` of an HTTP request. -/
structure HttpMessage where
  /-- The header. -/
  header : IMHeader
  /-- `json_body_`. -/
  jsonBody : String
  /-- The session id of the session context. -/
  sessionId : String
  /-- The address of the client. -/
  clientIp : String
  /-- The method. -/
  httpMethod : String
  /-- The path. -/
  originalPath : String
  /-- The body. -/
  rawBody : String
  deriving DecidableEq, Repr

/-- The header before the uids are set. -/
def httpHeader (req : HttplibRequest) (cmdId : UInt32) : IMHeader where
  version := "1.0"
  seq := 0
  cmdId := cmdId
  fromUid := ""
  toUid := ""
  timestamp := 0
  token := req.extractToken
  deviceId := req.extractDeviceId
  platform := req.extractPlatform

/-- The message of a request that was parsed; `generated` is the id that
`generate_http_session_id` gives. -/
def httpMessage (req : HttplibRequest) (header : IMHeader) (jsonBody sessionId generated : String) :
    HttpMessage where
  header := header
  jsonBody := jsonBody
  sessionId := if sessionId = "" then generated else sessionId
  clientIp := req.extractClientIp
  httpMethod := req.method
  originalPath := req.path
  rawBody := req.body

/-- `parse_http_request_enhanced`. -/
def parseHttpRequestEnhanced (lib : JsonLibrary) (router : Router.RouterManager)
    (req : HttplibRequest) (sessionId generated : String) : Except ParseFault HttpMessage :=
  if req.path = "" then .error (.failed 1003 "HTTP request path cannot be empty")
  else if req.method = "" then .error (.failed 1003 "HTTP request method cannot be empty")
  else
    let route := router.parseHttpRoute req.method req.path
    if ¬ route.isValid then
      .error (.failed 1001 ("HTTP routing failed for " ++ req.method ++ " " ++ req.path ++ ": " ++
        route.errMsg))
    else
      match selectBody lib req with
      | .error what => .error (.failed 1999 ("Exception in HTTP request processing: " ++ what))
      | .ok jsonBody =>
        match setUids lib jsonBody (httpHeader req route.cmdId) with
        | .error what => .error (.failed 1999 ("JSON parsing error: " ++ what))
        | .ok header => .ok (httpMessage req header jsonBody sessionId generated)

/-! ## The uids of the header -/

/-- The two uids of a header. -/
inductive UidField where
  /-- `from_uid`. -/
  | fromUid
  /-- `to_uid`. -/
  | toUid
  deriving DecidableEq, Repr

/-- The name of the member that the uid is taken from. -/
def UidField.name : UidField → String
  | .fromUid => "from_uid"
  | .toUid => "to_uid"

/-- The uid of a header. -/
def IMHeader.uid (header : IMHeader) : UidField → String
  | .fromUid => header.fromUid
  | .toUid => header.toUid

/-- The integer that the JSON of a message has for a uid, when it has one. -/
def HttpMessage.integerUid (lib : JsonLibrary) (message : HttpMessage) (field : UidField) :
    Option ℤ :=
  if message.jsonBody = "" then none
  else
    match lib.parse (cString message.jsonBody) with
    | .error _ => none
    | .ok v =>
      match member v field.name with
      | some (.number literal) => integerLiteral literal
      | _ => none

/-- Every integer in the place of a uid is the uid of the header as its numeral. -/
def UidsKept (lib : JsonLibrary) (message : HttpMessage) : Prop :=
  ∀ field n, message.integerUid lib field = some n → message.header.uid field = toString n

/-- Every integer in the place of a uid fits an `int`. -/
def UidsFit (lib : JsonLibrary) (message : HttpMessage) : Prop :=
  ∀ field n, message.integerUid lib field = some n → FitsInt n

variable {lib : JsonLibrary} {router : Router.RouterManager} {req : HttplibRequest}
  {sessionId generated : String} {message : HttpMessage}

/-- An accepted request: its JSON text, if it has one, was parsed, and the uids were set from it. -/
theorem setUids_of_parse
    (h : parseHttpRequestEnhanced lib router req sessionId generated = .ok message) :
    ∃ header, setUids lib message.jsonBody header = .ok message.header := by
  unfold parseHttpRequestEnhanced at h
  dsimp only at h
  split_ifs at h
  rcases hbody : selectBody lib req with what | jsonBody
  · rw [hbody] at h
    exact absurd h (by simp)
  rw [hbody] at h
  dsimp only at h
  rcases huids : setUids lib jsonBody (httpHeader req (router.parseHttpRoute req.method
      req.path).cmdId) with what | header
  · rw [huids] at h
    exact absurd h (by simp)
  rw [huids] at h
  obtain rfl := Except.ok.inj h
  exact ⟨_, huids⟩

/-- A cut integer is the integer exactly when it fits. -/
theorem toInt_ofInt_eq_iff (n : ℤ) : (Int32.ofInt n).toInt = n ↔ FitsInt n := by
  constructor
  · intro h
    have hlow := Int32.le_toInt (Int32.ofInt n)
    have hhigh := Int32.toInt_lt (Int32.ofInt n)
    rw [h] at hlow hhigh
    exact ⟨hlow, hhigh⟩
  · rintro ⟨hlow, hhigh⟩
    exact Int32.toInt_ofInt_of_le hlow hhigh

/-- What `get<int>` makes of an integer: the integer exactly when it fits. -/
theorem JsonLibrary.CutsIntegers.toInt_eq_iff (hlib : lib.CutsIntegers) {literal : String} {n : ℤ}
    (h : integerLiteral literal = some n) :
    ∃ k, lib.getInt (.number literal) = .ok k ∧ (k.toInt = n ↔ FitsInt n) := by
  by_cases hlong : -2 ^ 63 ≤ n ∧ n < 2 ^ 64
  · exact ⟨_, hlib.getInt_integer literal n h hlong.1 hlong.2, toInt_ofInt_eq_iff n⟩
  · obtain ⟨k, hk⟩ := hlib.getInt_number literal
    refine ⟨k, hk, ?_⟩
    -- The integer is held as a `double`, and no `int` is as large.
    have hlow := Int32.le_toInt k
    have hhigh := Int32.toInt_lt k
    unfold FitsInt
    omega

/-- A uid that is an integer in the JSON of an accepted request. -/
theorem uid_of_integer (hlib : lib.CutsIntegers)
    (h : parseHttpRequestEnhanced lib router req sessionId generated = .ok message)
    {field : UidField} {n : ℤ} (hn : message.integerUid lib field = some n) :
    ∃ k : Int32, message.header.uid field = toString k.toInt ∧ (k.toInt = n ↔ FitsInt n) := by
  obtain ⟨header, hset⟩ := setUids_of_parse h
  unfold HttpMessage.integerUid at hn
  split_ifs at hn with hempty
  rw [setUids, if_neg hempty] at hset
  rcases hparse : lib.parse (cString message.jsonBody) with what | v
  · rw [hparse] at hn
    exact absurd hn (by simp)
  rw [hparse] at hn hset
  dsimp only at hn
  -- The two uids of the header are what `setUid` gives.
  obtain ⟨fromUid, hfrom, toUid, hto, hheader⟩ : ∃ fromUid, setUid lib v "from_uid" header.fromUid =
      .ok fromUid ∧ ∃ toUid, setUid lib v "to_uid" header.toUid = .ok toUid ∧
        { header with fromUid := fromUid, toUid := toUid } = message.header := by
    rcases hfrom : setUid lib v "from_uid" header.fromUid with what | fromUid
    · simp only [bind, Except.bind, hfrom] at hset
      exact absurd hset (by simp)
    rcases hto : setUid lib v "to_uid" header.toUid with what | toUid
    · simp only [bind, Except.bind, hfrom, hto] at hset
      exact absurd hset (by simp)
    simp only [bind, Except.bind, hfrom, hto] at hset
    exact ⟨fromUid, rfl, toUid, rfl, Except.ok.inj hset⟩
  have huid : ∃ old, setUid lib v field.name old = .ok (message.header.uid field) := by
    rw [← hheader]
    cases field with
    | fromUid => exact ⟨_, hfrom⟩
    | toUid => exact ⟨_, hto⟩
  obtain ⟨old, huid⟩ := huid
  rcases hmember : member v field.name with _ | value
  · rw [hmember] at hn
    exact absurd hn (by simp)
  rw [hmember] at hn
  cases value with
  | number literal =>
    obtain ⟨k, hk, hfits⟩ : ∃ k, lib.getInt (.number literal) = .ok k ∧ (k.toInt = n ↔ FitsInt n) :=
      hlib.toInt_eq_iff hn
    rw [setUid, hmember] at huid
    simp only [uidText, hk, Except.map] at huid
    exact ⟨k, (Except.ok.inj huid).symm, hfits⟩
  | null => exact absurd hn (by simp)
  | boolean b => exact absurd hn (by simp)
  | text s => exact absurd hn (by simp)
  | array elements => exact absurd hn (by simp)
  | object members => exact absurd hn (by simp)

/-- The header of an accepted request has the numerals of the integers in its JSON exactly when the
integers fit an `int`; and then no other integer of such a request has the same uid. -/
theorem uids_iff (hlib : lib.CutsIntegers)
    (h : parseHttpRequestEnhanced lib router req sessionId generated = .ok message) :
    (UidsKept lib message ↔ UidsFit lib message) ∧
      (UidsFit lib message → ∀ req' sessionId' generated' message',
        parseHttpRequestEnhanced lib router req' sessionId' generated' = .ok message' →
          UidsFit lib message' → ∀ field field' n n', message.integerUid lib field = some n →
            message'.integerUid lib field' = some n' → n ≠ n' →
              message.header.uid field ≠ message'.header.uid field') := by
  constructor
  · constructor
    · intro hkept field n hn
      obtain ⟨k, huid, hfits⟩ := uid_of_integer hlib h hn
      rw [← hfits]
      exact toString_int_injective (huid.symm.trans (hkept field n hn))
    · intro hfit field n hn
      obtain ⟨k, huid, hfits⟩ := uid_of_integer hlib h hn
      rw [huid, hfits.mpr (hfit field n hn)]
  · intro hfit req' sessionId' generated' message' h' hfit' field field' n n' hn hn' hne heq
    obtain ⟨k, huid, hfits⟩ := uid_of_integer hlib h hn
    obtain ⟨k', huid', hfits'⟩ := uid_of_integer hlib h' hn'
    rw [huid, huid', hfits.mpr (hfit field n hn), hfits'.mpr (hfit' field' n' hn')] at heq
    exact hne (toString_int_injective heq)

/-! ## Two uids -/

/-- A library that parses as the standard says, cuts integers, and gives the smallest `int` for any
other number. -/
def standardLibrary : JsonLibrary where
  parse s :=
    match JsonText.parse s with
    | none => .error "parse error"
    | some v => .ok v
  dump _ := .error "invalid UTF-8 byte"
  getInt v :=
    match v with
    | .number literal =>
      match integerLiteral literal with
      | some n => if -2 ^ 63 ≤ n ∧ n < 2 ^ 64 then .ok (.ofInt n) else .ok Int32.minValue
      | none => .ok Int32.minValue
    | .boolean b => .ok (if b then 1 else 0)
    | _ => .error "type must be number"

theorem standardLibrary_cutsIntegers : standardLibrary.CutsIntegers where
  getInt_integer literal n h hlow hhigh := by
    simp only [standardLibrary, h, hlow, hhigh, and_self, if_true]
  getInt_number literal := by
    rcases h : integerLiteral literal with _ | n
    · exact ⟨Int32.minValue, by simp only [standardLibrary, h]⟩
    · by_cases hlong : -2 ^ 63 ≤ n ∧ n < 2 ^ 64
      · exact ⟨.ofInt n, by simp only [standardLibrary, h, if_pos hlong]⟩
      · exact ⟨Int32.minValue, by simp only [standardLibrary, h, if_neg hlong]⟩

/-- A router with one route. -/
def messageRouter : Router.RouterManager where
  httpRouter := ⟨"/api/v1", AList.singleton "/messages" ⟨2001, "message"⟩⟩
  serviceRouter := .empty

/-- A request whose body has a sender's uid. -/
def uidRequest (uid : String) : HttplibRequest where
  method := "POST"
  path := "/api/v1/messages"
  headers := [("content-type", "application/json")]
  params := []
  body := "\x7b\"from_uid\": " ++ uid ++ "\x7d"

/-- What the parser makes of the request. -/
def uidParse (uid : String) : Except ParseFault HttpMessage :=
  parseHttpRequestEnhanced standardLibrary messageRouter (uidRequest uid) "" "http_1"

/-- The uid 7 is accepted, and kept. -/
theorem uids_iff_seven : ∃ message, uidParse "7" = .ok message ∧
    message.header.uid .fromUid = "7" ∧
    (UidsKept standardLibrary message ↔ UidsFit standardLibrary message) := by
  have huid : (uidParse "7").toOption.map (fun message => message.header.uid .fromUid) =
      some "7" := by decide +kernel
  rcases h : uidParse "7" with _ | message
  · rw [h] at huid
    exact absurd huid (by simp [Except.toOption])
  rw [h] at huid
  exact ⟨message, rfl, Option.some.inj huid, (uids_iff standardLibrary_cutsIntegers h).1⟩

/-- The uids 1 and 2³² + 1 are both accepted, as 1. -/
theorem uids_conflated :
    ∃ message message', uidParse "1" = .ok message ∧ uidParse "4294967297" = .ok message' ∧
      message.integerUid standardLibrary .fromUid = some 1 ∧
      message'.integerUid standardLibrary .fromUid = some 4294967297 ∧
      message.header.uid .fromUid = "1" ∧ message'.header.uid .fromUid = "1" := by
  have hone : (uidParse "1").toOption.map (fun message =>
      (message.integerUid standardLibrary .fromUid, message.header.uid .fromUid)) =
        some (some 1, "1") := by decide +kernel
  have hlarge : (uidParse "4294967297").toOption.map (fun message =>
      (message.integerUid standardLibrary .fromUid, message.header.uid .fromUid)) =
        some (some 4294967297, "1") := by decide +kernel
  rcases ha : uidParse "1" with _ | message
  · rw [ha] at hone
    exact absurd hone (by simp [Except.toOption])
  rcases hb : uidParse "4294967297" with _ | message'
  · rw [hb] at hlarge
    exact absurd hlarge (by simp [Except.toOption])
  rw [ha] at hone
  rw [hb] at hlarge
  obtain ⟨hn, huid⟩ := Prod.mk.inj (Option.some.inj hone)
  obtain ⟨hn', huid'⟩ := Prod.mk.inj (Option.some.inj hlarge)
  exact ⟨message, message', rfl, rfl, hn, hn', huid, huid'⟩

end MyChat.Gateway
