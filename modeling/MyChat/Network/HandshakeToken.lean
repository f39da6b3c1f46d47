import MyChat.Codec.Crc32
import MyChat.Lib.ByteText
import MyChat.Lib.TextSearch

/-!
# The token of a handshake

`WebSocketSession::on_ssl_handshake` of `common/network/websocket_session.cpp` takes the token of
the connection from the upgrade request: from the header `Authorization`, or else from the request's
target, where it searches for the text `token=` anywhere and takes what follows up to the next `&`.

A target is read by the rules of a query as a `RequestTarget`: a path and parameters.
`tokenExtracted_iff` says when the search finds the parameter named `token` and nothing else.
-/

namespace MyChat.Network

open Codec TextSearch

/-! ## The code -/

/-- `s.substr(pos, count)`. -/
def substr (s : Bytes) (pos count : ℕ) : Bytes := (s.drop pos).take count

/-- Where the text starts that is taken from the target. -/
def tokenStart (target : Bytes) : Option ℕ := (find (utf8 "token=") target).map (· + 6)

/-- The token that the target gives. -/
def targetToken (target : Bytes) : Bytes :=
  match tokenStart target with
  | none => []
  | some start =>
    let stop := match find [0x26] (target.drop start) with
      | none => target.length
      | some n => start + n
    substr target start (stop - start)

/-- The token that the header gives. -/
def bearerToken (authorization : Option Bytes) : Option Bytes :=
  match authorization with
  | none => none
  | some value => if (utf8 "Bearer ").isPrefixOf value then some (value.drop 7) else none

/-- `token_` after the upgrade request. -/
def upgradeToken (target : Bytes) (authorization : Option Bytes) : Bytes :=
  (bearerToken authorization).getD (targetToken target)

/-! ## Targets -/

/-- A parameter as it stands in a query. -/
def renderParam (param : Bytes × Bytes) : Bytes := param.1 ++ 0x3d :: param.2

/-- A request target with a query: a path without `?`, and parameters whose names have no `=` and
which have no `&`. -/
structure RequestTarget where
  /-- The path. -/
  path : Bytes
  /-- The parameters of the query, each with its name and its value. -/
  params : List (Bytes × Bytes)
  /-- The path ends at the first `?`. -/
  path_plain : 0x3f ∉ path
  /-- A name ends at the first `=`. -/
  name_plain : ∀ param ∈ params, 0x3d ∉ param.1 ∧ 0x26 ∉ param.1
  /-- A value ends at the next `&`. -/
  value_plain : ∀ param ∈ params, 0x26 ∉ param.2

namespace RequestTarget

/-- The text of the target. -/
def text (t : RequestTarget) : Bytes := t.path ++ 0x3f :: [0x26].intercalate (t.params.map renderParam)

/-- Where the parameter `k` begins in the text. -/
def start (t : RequestTarget) (k : ℕ) : ℕ :=
  t.path.length + 1 + offset (t.params.map renderParam) k

/-- The parameter is named exactly `token`. -/
def isToken (param : Bytes × Bytes) : Bool := param.1 = utf8 "token"

/-- The value of the first parameter named `token`, empty if there is none. -/
def tokenValue (t : RequestTarget) : Bytes := ((t.params.find? isToken).map Prod.snd).getD []

/-- A parameter of the query begins at position `i`. -/
def AtParameter (t : RequestTarget) (i : ℕ) : Prop := ∃ k < t.params.length, i = t.start k

/-- At position `i` stands the value of the first parameter named `token`. -/
def AtTokenValue (t : RequestTarget) (i : ℕ) : Prop :=
  ∃ k, t.params.findIdx? isToken = some k ∧ i = t.start k + 6

variable {t : RequestTarget} {authorization : Option Bytes}

/-- The token of the request is what the header gives, and otherwise the value of the first
parameter named `token`; nothing else of the target is used. -/
structure TokenExtracted (t : RequestTarget) (authorization : Option Bytes) : Prop where
  /-- The token is the right text. -/
  token : upgradeToken t.text authorization = (bearerToken authorization).getD t.tokenValue
  /-- A token that is taken from the target is taken from its place. -/
  place : bearerToken authorization = none → upgradeToken t.text authorization ≠ [] →
    ∀ i, tokenStart t.text = some i → t.AtTokenValue i

/-! ## What the search takes -/

/-- The text up to the first delimiter, found by its position. -/
theorem take_find (c : UInt8) (l : Bytes) :
    (match find [c] l with
      | none => l
      | some n => l.take n) = l.takeWhile (· ≠ c) := by
  induction l with
  | nil => rfl
  | cons d l ih =>
    by_cases hd : c = d
    · subst hd
      simp [find]
    · have hhead : ¬ [c].isPrefixOf (d :: l) = true := by simp [hd]
      rw [find, if_neg hhead, List.takeWhile_cons_of_pos (by simpa using Ne.symm hd), ← ih]
      cases find [c] l <;> rfl

/-- The token of the target is the text from its start up to the next `&`. -/
theorem targetToken_eq {target : Bytes} {i : ℕ} (h : tokenStart target = some i) :
    targetToken target = (target.drop i).takeWhile (· ≠ 0x26) := by
  have htake := take_find 0x26 (target.drop i)
  rw [targetToken, h]
  dsimp only
  cases hfind : find [0x26] (target.drop i) with
  | none =>
    rw [hfind] at htake
    rw [← htake]
    exact List.take_of_length_le (by rw [List.length_drop])
  | some n =>
    rw [hfind] at htake
    rw [← htake, substr, Nat.add_sub_cancel_left]

/-! ## Where the mark stands -/

/-- At its place stands the parameter, and after it an `&` or nothing. -/
theorem drop_start {k : ℕ} (hk : k < t.params.length) :
    ∃ tail, t.text.drop (t.start k) = renderParam t.params[k] ++ tail ∧
      (tail = [] ∨ ∃ rest, tail = 0x26 :: rest) := by
  have hlt : k < (t.params.map renderParam).length := by rwa [List.length_map]
  obtain ⟨tail, hdrop, htail⟩ := drop_offset (0x26 : UInt8) hlt
  refine ⟨tail, ?_, htail⟩
  have hpath : t.text = (t.path ++ [0x3f]) ++ [0x26].intercalate (t.params.map renderParam) := by
    simp [text]
  have hlen : (t.path ++ [0x3f]).length = t.path.length + 1 := by simp
  rw [hpath, start, ← hlen, List.drop_append, List.drop_of_length_le (by omega),
    Nat.add_sub_cancel_left, List.nil_append, hdrop, List.getElem_map]

theorem start_le {k : ℕ} (hk : k < t.params.length) : t.start k ≤ t.text.length := by
  have hlt : k < (t.params.map renderParam).length := by rwa [List.length_map]
  have hle := offset_le (0x26 : UInt8) hlt
  rw [start, text, List.length_append, List.length_cons]
  omega

theorem start_lt {j k : ℕ} (h : j < k) (hk : k < t.params.length) : t.start j < t.start k :=
  Nat.add_lt_add_left (offset_lt h (by rw [List.length_map]; exact Nat.le_of_lt hk)) _

/-- The mark stands where a parameter begins exactly when that parameter is named `token`. -/
theorem mark_prefix_iff {k : ℕ} (hk : k < t.params.length) :
    utf8 "token=" <+: t.text.drop (t.start k) ↔ isToken t.params[k] = true := by
  obtain ⟨tail, hdrop, -⟩ := drop_start hk
  have hname := (t.name_plain t.params[k] (List.getElem_mem hk)).1
  have hmark : utf8 "token=" = utf8 "token" ++ [0x3d] := by decide
  have hplain : (0x3d : UInt8) ∉ utf8 "token" := by decide
  rw [hdrop, hmark, isToken, decide_eq_true_eq]
  constructor
  · rintro ⟨rest, hrest⟩
    have hfield : utf8 "token" ++ 0x3d :: rest =
        t.params[k].1 ++ 0x3d :: (t.params[k].2 ++ tail) := by
      simpa [renderParam] using hrest
    exact (ByteText.field_inj hplain hname hfield).1.symm
  · intro h
    exact ⟨t.params[k].2 ++ tail, by simp [renderParam, h]⟩

/-- Where the value stands of a parameter that is named `token`. -/
theorem takeWhile_value {k : ℕ} (hk : k < t.params.length) (htoken : isToken t.params[k] = true) :
    (t.text.drop (t.start k + 6)).takeWhile (· ≠ 0x26) = t.params[k].2 := by
  obtain ⟨tail, hdrop, htail⟩ := drop_start hk
  have hvalue := t.value_plain t.params[k] (List.getElem_mem hk)
  have hname : t.params[k].1 = utf8 "token" := by simpa [isToken] using htoken
  have hsix : (t.text.drop (t.start k)).drop 6 = t.params[k].2 ++ tail := by
    have hlen : (utf8 "token" ++ [0x3d]).length = 6 := by decide
    have happ : renderParam t.params[k] ++ tail =
        (utf8 "token" ++ [0x3d]) ++ (t.params[k].2 ++ tail) := by
      simp [renderParam, hname]
    rw [hdrop, happ, ← hlen, List.drop_left]
  rw [← List.drop_drop, hsix]
  rcases htail with rfl | ⟨rest, rfl⟩
  · rw [List.append_nil, List.takeWhile_eq_self_iff]
    intro c hc
    simpa using fun h : c = 0x26 => hvalue (h ▸ hc)
  · exact (ByteText.takeWhile_field hvalue rest).1

/-- When the first mark stands where a parameter begins, that parameter is the first one named
`token`. -/
theorem first_token {k : ℕ} (hk : k < t.params.length)
    (h : find (utf8 "token=") t.text = some (t.start k)) :
    isToken t.params[k] = true ∧ t.params.findIdx? isToken = some k ∧
      t.tokenValue = t.params[k].2 := by
  obtain ⟨-, hat, hfirst⟩ := find_eq_some_iff.mp h
  have htoken := (mark_prefix_iff hk).mp hat
  have hbefore : ∀ j (hj : j < k), ¬ isToken t.params[j] = true := fun j hj hname =>
    hfirst _ (start_lt hj hk) ((mark_prefix_iff (by omega)).mpr hname)
  refine ⟨htoken, List.findIdx?_eq_some_iff_getElem.mpr ⟨hk, htoken, hbefore⟩, ?_⟩
  have hfind : t.params.find? isToken = some t.params[k] :=
    List.find?_eq_some_iff_getElem.mpr
      ⟨htoken, k, hk, rfl, fun j hj => by simpa using hbefore j hj⟩
  rw [tokenValue, hfind]
  rfl

/-- Without a mark no parameter is named `token`. -/
theorem tokenValue_of_find_none (h : find (utf8 "token=") t.text = none) : t.tokenValue = [] := by
  have hnone : t.params.find? isToken = none := by
    rw [List.find?_eq_none]
    intro param hparam htoken
    obtain ⟨k, hk, rfl⟩ := List.getElem_of_mem hparam
    obtain ⟨j, -, hj⟩ := exists_find (start_le hk) ((mark_prefix_iff hk).mpr htoken)
    rw [h] at hj
    exact absurd hj (by simp)
  rw [tokenValue, hnone]
  rfl

/-! ## The handshake -/

/-- Nothing of the target's text is taken at position `i`: it ends there, or an `&` stands there. -/
def EndsAt (t : RequestTarget) (i : ℕ) : Prop :=
  t.text.drop i = [] ∨ ∃ rest, t.text.drop i = 0x26 :: rest

theorem takeWhile_eq_nil_iff {i : ℕ} :
    (t.text.drop i).takeWhile (· ≠ 0x26) = [] ↔ t.EndsAt i := by
  unfold EndsAt
  cases t.text.drop i with
  | nil => simp
  | cons c rest => by_cases hc : c = 0x26 <;> simp [hc]

theorem bearerToken_eq_none_iff :
    bearerToken authorization = none ↔ ¬ ∃ value, authorization = some (utf8 "Bearer " ++ value) := by
  cases authorization with
  | none => simp [bearerToken]
  | some value =>
    rw [bearerToken]
    by_cases h : (utf8 "Bearer ").isPrefixOf value = true
    · obtain ⟨rest, rfl⟩ := List.isPrefixOf_iff_prefix.mp h
      rw [if_pos h]
      simp
    · rw [if_neg h]
      refine iff_of_true rfl ?_
      rintro ⟨rest, hrest⟩
      obtain rfl := Option.some.inj hrest
      exact h (List.isPrefixOf_iff_prefix.mpr ⟨rest, rfl⟩)

/-- The search takes the right text from the right place exactly when it is not used, finds nothing,
finds the beginning of a parameter, or finds a stray mark with no text behind it while no text is
asked for. -/
theorem tokenExtracted_iff (t : RequestTarget) (authorization : Option Bytes) :
    t.TokenExtracted authorization ↔
      (∃ value, authorization = some (utf8 "Bearer " ++ value)) ∨
        ∀ i, find (utf8 "token=") t.text = some i →
          t.AtParameter i ∨ t.EndsAt (i + 6) ∧ t.tokenValue = [] := by
  by_cases hbearer : ∃ value, authorization = some (utf8 "Bearer " ++ value)
  · refine iff_of_true ⟨?_, fun hnone => absurd hbearer (bearerToken_eq_none_iff.mp hnone)⟩
      (.inl hbearer)
    rcases hb : bearerToken authorization with _ | token
    · exact absurd hbearer (bearerToken_eq_none_iff.mp hb)
    · rw [upgradeToken, hb]
      rfl
  have hnone := bearerToken_eq_none_iff.mpr hbearer
  have htoken : upgradeToken t.text authorization = targetToken t.text := by
    rw [upgradeToken, hnone]
    rfl
  rw [or_iff_right hbearer]
  rcases hfind : find (utf8 "token=") t.text with _ | i
  · -- There is no mark, and no token.
    have hempty : targetToken t.text = [] := by rw [targetToken, tokenStart, hfind]; rfl
    refine iff_of_true ⟨?_, fun _ hne => absurd (htoken.trans hempty) hne⟩ (by simp)
    rw [htoken, hempty, hnone, tokenValue_of_find_none hfind]
    rfl
  have hstart : tokenStart t.text = some (i + 6) := by rw [tokenStart, hfind]; rfl
  have htaken := targetToken_eq hstart
  constructor
  · rintro ⟨hright, hplace⟩ j hj
    obtain rfl := Option.some.inj hj
    rw [htoken, hnone, Option.getD_none] at hright
    by_cases hne : targetToken t.text = []
    · rw [hne] at htaken hright
      exact .inr ⟨takeWhile_eq_nil_iff.mp htaken.symm, hright.symm⟩
    · obtain ⟨k, hk, hik⟩ := hplace hnone (by rwa [htoken]) _ hstart
      obtain ⟨hlt, -⟩ := List.findIdx?_eq_some_iff_getElem.mp hk
      exact .inl ⟨k, hlt, Nat.add_right_cancel hik⟩
  · intro h
    rcases h i rfl with ⟨k, hk, rfl⟩ | ⟨hends, hvalue⟩
    · -- The mark belongs to the first parameter named `token`.
      obtain ⟨hname, hidx, hvalue⟩ := first_token hk hfind
      refine ⟨?_, fun _ _ j hj => ⟨k, hidx, ?_⟩⟩
      · rw [htoken, hnone, Option.getD_none, htaken, takeWhile_value hk hname, hvalue]
      · rw [hstart] at hj
        exact (Option.some.inj hj).symm
    · have hempty : targetToken t.text = [] := htaken.trans (takeWhile_eq_nil_iff.mpr hends)
      refine ⟨?_, fun _ hne => absurd (htoken.trans hempty) hne⟩
      rw [htoken, hempty, hnone, hvalue]
      rfl

/-- The target `/ws?access_token=abc`. -/
def accessTokenTarget : RequestTarget where
  path := utf8 "/ws"
  params := [(utf8 "access_token", utf8 "abc")]
  path_plain := by decide
  name_plain := by decide
  value_plain := by decide

/-- A parameter named `access_token` is taken for the token. -/
theorem not_tokenExtracted_accessToken :
    upgradeToken accessTokenTarget.text none = utf8 "abc" ∧
      ¬ accessTokenTarget.TokenExtracted none := by
  have htoken : upgradeToken accessTokenTarget.text none = utf8 "abc" := by decide +kernel
  refine ⟨htoken, fun h => ?_⟩
  have hright := h.token
  rw [htoken] at hright
  exact absurd hright (by decide +kernel)

end RequestTarget

end MyChat.Network
