import MyChat.Codec.Crc32
import MyChat.Lib.Conninfo

/-!
# The connection string of the database

`PgSqlConfig` of `common/database/pgsql/pgsql_conn.cpp`: `validate` checks a configuration, and
`to_connection_string` writes its fields one after another, without quotes, as a string of keywords
and values that `libpq` parses. `validate` does not look into the texts.

`roundTrips_iff` says for which configurations the parsed settings are the fields again: those whose
texts are all plain. That no other text can do it, whatever it makes the parser read, is a matter of
length (`Conninfo.plain_of_subset`).
-/

namespace MyChat.Common

open Codec Conninfo ByteText

/-- `std::to_string` of an `int`. -/
def intText (n : ℤ) : Bytes :=
  if n < 0 then 0x2d :: numeral 10 n.natAbs else numeral 10 n.natAbs

/-- `PgSqlConfig`. -/
structure PgSqlConfig where
  /-- `host`. -/
  host : Bytes := utf8 "127.0.0.1"
  /-- `port`. -/
  port : ℤ := 5432
  /-- `database`. -/
  database : Bytes := utf8 "mychat"
  /-- `user`. -/
  user : Bytes := utf8 "postgres"
  /-- `password`. -/
  password : Bytes := []
  /-- `options`. -/
  options : Bytes := []
  /-- `pool_size`. -/
  poolSize : ℤ := 10
  /-- `connect_timeout`. -/
  connectTimeout : ℤ := 30
  /-- `query_timeout`. -/
  queryTimeout : ℤ := 30
  /-- `sslmode`. -/
  sslmode : Bytes := utf8 "prefer"
  /-- `sslcert`. -/
  sslcert : Bytes := []
  /-- `sslkey`. -/
  sslkey : Bytes := []
  /-- `sslrootcert`. -/
  sslrootcert : Bytes := []
  deriving DecidableEq, Repr

namespace PgSqlConfig

/-- `to_connection_string`. -/
def toConnectionString (c : PgSqlConfig) : Bytes :=
  utf8 "host=" ++ c.host ++
  (utf8 " port=" ++ intText c.port) ++
  (utf8 " dbname=" ++ c.database) ++
  (utf8 " user=" ++ c.user) ++
  (if c.password ≠ [] then utf8 " password=" ++ c.password else []) ++
  (if c.sslmode ≠ [] ∧ c.sslmode ≠ utf8 "prefer" then utf8 " sslmode=" ++ c.sslmode else []) ++
  (if c.sslcert ≠ [] then utf8 " sslcert=" ++ c.sslcert else []) ++
  (if c.sslkey ≠ [] then utf8 " sslkey=" ++ c.sslkey else []) ++
  (if c.sslrootcert ≠ [] then utf8 " sslrootcert=" ++ c.sslrootcert else []) ++
  (if c.connectTimeout ≠ 30 then utf8 " connect_timeout=" ++ intText c.connectTimeout else []) ++
  (if c.options ≠ [] then utf8 " " ++ c.options else [])

/-- One check of `validate`, which throws the message when it fails. -/
def require (ok : Prop) [Decidable ok] (message : Bytes) : Except Bytes Unit :=
  if ok then .ok () else .error message

/-- The values of `sslmode` that `validate` accepts. -/
def sslmodes : List Bytes :=
  [utf8 "disable", utf8 "prefer", utf8 "require", utf8 "verify-ca", utf8 "verify-full"]

/-- `validate`; `isOpen` says of a path whether an `std::ifstream` of it is open. -/
def validate (isOpen : Bytes → Bool) (c : PgSqlConfig) : Except Bytes Unit := do
  require (c.host ≠ []) (utf8 "host不能为空")
  require (c.database ≠ []) (utf8 "database不能为空")
  require (c.user ≠ []) (utf8 "user不能为空")
  require (¬ (c.port ≤ 0 ∨ c.port > 65535))
    (utf8 "port必须在1-65535范围内，当前值: " ++ intText c.port)
  require (¬ (c.poolSize ≤ 0 ∨ c.poolSize > 1000))
    (utf8 "pool_size必须在1-1000范围内，当前值: " ++ intText c.poolSize)
  require (¬ (c.connectTimeout ≤ 0 ∨ c.connectTimeout > 3600))
    (utf8 "connect_timeout必须在1-3600秒范围内，当前值: " ++ intText c.connectTimeout)
  require (¬ (c.queryTimeout ≤ 0 ∨ c.queryTimeout > 3600))
    (utf8 "query_timeout必须在1-3600秒范围内，当前值: " ++ intText c.queryTimeout)
  require (c.sslmode ∈ sslmodes)
    (utf8 "无效的sslmode: " ++ c.sslmode ++
      utf8 "，有效值: disable, prefer, require, verify-ca, verify-full")
  require (c.sslcert = [] ∨ isOpen c.sslcert = true) (utf8 "SSL证书文件不存在: " ++ c.sslcert)
  require (c.sslkey = [] ∨ isOpen c.sslkey = true) (utf8 "SSL私钥文件不存在: " ++ c.sslkey)
  require (c.sslrootcert = [] ∨ isOpen c.sslrootcert = true)
    (utf8 "SSL根证书文件不存在: " ++ c.sslrootcert)

/-! ## Settings -/

/-- The settings that a configuration stands for, under the keywords of `libpq`. -/
def fields (c : PgSqlConfig) : List (Bytes × Bytes) :=
  [(utf8 "host", c.host), (utf8 "port", intText c.port), (utf8 "dbname", c.database),
    (utf8 "user", c.user), (utf8 "password", c.password), (utf8 "sslmode", c.sslmode),
    (utf8 "sslcert", c.sslcert), (utf8 "sslkey", c.sslkey), (utf8 "sslrootcert", c.sslrootcert),
    (utf8 "connect_timeout", intText c.connectTimeout)]

/-- The setting of a keyword that a string does not give, as `to_connection_string` takes it. -/
def defaultSetting (k : Bytes) : Bytes :=
  if k = utf8 "sslmode" then utf8 "prefer"
  else if k = utf8 "connect_timeout" then utf8 "30"
  else []

/-- The setting of a keyword in a list of entries. -/
def effective (entries : List (Bytes × Bytes)) (k : Bytes) : Bytes :=
  (setting entries k).getD (defaultSetting k)

/-- The connection string is parsed to the settings of the configuration: each keyword has the text
that its field has, and no other keyword is set. -/
def RoundTrips (c : PgSqlConfig) : Prop :=
  ∃ entries, parse c.toConnectionString = some entries ∧
    ∀ k, effective entries k = effective c.fields k

/-- The texts of a configuration that `validate` does not look into. -/
def texts (c : PgSqlConfig) : List Bytes :=
  [c.host, c.database, c.user, c.password, c.sslcert, c.sslkey, c.sslrootcert]

/-- The fields that the string has: those that differ from their defaults. -/
def written (c : PgSqlConfig) : List (Bytes × Bytes) :=
  c.fields.filter fun entry => entry.2 ≠ defaultSetting entry.1

/-! ## What `validate` accepts -/

theorem require_bind_ok {ok : Prop} [Decidable ok] {message : Bytes}
    {f : Unit → Except Bytes Unit} :
    (require ok message >>= f) = .ok () ↔ ok ∧ f () = .ok () := by
  unfold require
  by_cases h : ok
  · rw [if_pos h]
    exact ⟨fun hf => ⟨h, hf⟩, fun hf => hf.2⟩
  · rw [if_neg h]
    exact ⟨fun hf => absurd hf (by rintro ⟨⟩), fun hf => absurd hf.1 h⟩

/-- What the text of an accepted configuration needs of it. -/
theorem validate_ok {isOpen : Bytes → Bool} {c : PgSqlConfig} (h : c.validate isOpen = .ok ()) :
    c.host ≠ [] ∧ c.database ≠ [] ∧ c.user ≠ [] ∧ 0 < c.port ∧ 0 < c.connectTimeout ∧
      c.sslmode ∈ sslmodes := by
  simp only [validate, require_bind_ok] at h
  obtain ⟨hhost, hdb, huser, hport, -, htime, -, hssl, -⟩ := h
  exact ⟨hhost, hdb, huser, by omega, by omega, hssl⟩

/-! ## Numerals -/

theorem intText_of_pos {n : ℤ} (h : 0 < n) : intText n = numeral 10 n.natAbs :=
  if_neg (by omega)

theorem intText_ne_nil (n : ℤ) : intText n ≠ [] := by
  unfold intText
  split_ifs
  · simp
  · exact numeral_ne_nil 10 _

/-- Only thirty has the numeral of the default time limit. -/
theorem intText_eq_iff {n : ℤ} (h : 0 < n) : intText n = utf8 "30" ↔ n = 30 := by
  have hthirty : utf8 "30" = numeral 10 30 := by decide
  rw [intText_of_pos h, hthirty]
  constructor
  · intro heq
    have hvalue := congrArg (valueOf 10) heq
    rw [valueOf_numeral (by omega) (by omega), valueOf_numeral (by omega) (by omega)] at hvalue
    omega
  · rintro rfl
    rfl

theorem plain_intText {n : ℤ} (h : 0 < n) : Plain (intText n) := by
  rw [intText_of_pos h]
  have hplain : ∀ c ∈ numeral 10 n.natAbs, isSpace c = false ∧ c ≠ 0x5c ∧ c ≠ 0 ∧ c ≠ 0x27 := by
    intro c hc
    have hdigit := isDigitOf_numeral (by omega) (by omega) n.natAbs c hc
    have hcases : ∀ m < 256, isDigitOf 10 (UInt8.ofNat m) = true → UInt8.ofNat m ≠ 0x5c ∧
        UInt8.ofNat m ≠ 0 ∧ UInt8.ofNat m ≠ 0x27 := by decide +kernel
    have hne := hcases c.toNat c.toNat_lt
    rw [UInt8.ofNat_toNat] at hne
    exact ⟨(digit_ne (by omega) hdigit).1, hne hdigit⟩
  refine ⟨fun c hc => ⟨(hplain c hc).1, (hplain c hc).2.1, (hplain c hc).2.2.1⟩, fun hhead => ?_⟩
  exact (hplain _ (List.mem_of_mem_head? hhead)).2.2.2 rfl

/-! ## The text -/

/-- What a field adds to the text after the first. -/
def clause (entry : Bytes × Bytes) : Bytes :=
  if entry.2 ≠ defaultSetting entry.1 then 0x20 :: renderEntry entry else []

/-- A field that is written when it is not empty. -/
theorem clause_of_default_nil {k v text : Bytes} (hk : defaultSetting k = [])
    (htext : text = 0x20 :: (k ++ [0x3d])) :
    clause (k, v) = if v ≠ [] then text ++ v else [] := by
  rw [clause, htext, hk]
  split_ifs <;> simp [renderEntry]

/-- The fields that are written are those with a clause. -/
theorem flatMap_clause (entries : List (Bytes × Bytes)) :
    (entries.filter fun entry => entry.2 ≠ defaultSetting entry.1).flatMap
      (fun entry => 0x20 :: renderEntry entry) = entries.flatMap clause := by
  induction entries with
  | nil => rfl
  | cons entry entries ih =>
    by_cases hentry : entry.2 ≠ defaultSetting entry.1
    · rw [List.filter_cons_of_pos (by simpa using hentry), List.flatMap_cons, List.flatMap_cons,
        ih, clause, if_pos hentry]
    · rw [List.filter_cons_of_neg (by simpa using hentry), List.flatMap_cons, ih, clause,
        if_neg hentry, List.nil_append]

/-- The mode is written when it is not the default one. -/
theorem clause_sslmode {v : Bytes} (hne : v ≠ []) : clause (utf8 "sslmode", v) =
    if v ≠ [] ∧ v ≠ utf8 "prefer" then utf8 " sslmode=" ++ v else [] := by
  have hdefault : defaultSetting (utf8 "sslmode") = utf8 "prefer" := by decide
  have htext : utf8 " sslmode=" = 0x20 :: (utf8 "sslmode" ++ [0x3d]) := by decide
  rw [clause, hdefault, htext]
  by_cases hprefer : v = utf8 "prefer"
  · rw [if_neg (by simp [hprefer]), if_neg (by simp [hprefer])]
  · rw [if_pos hprefer, if_pos ⟨hne, hprefer⟩]
    simp [renderEntry]

/-- The time limit is written when it is not thirty seconds. -/
theorem clause_connectTimeout {n : ℤ} (hpos : 0 < n) :
    clause (utf8 "connect_timeout", intText n) =
      if n ≠ 30 then utf8 " connect_timeout=" ++ intText n else [] := by
  have hdefault : defaultSetting (utf8 "connect_timeout") = utf8 "30" := by decide
  have htext : utf8 " connect_timeout=" = 0x20 :: (utf8 "connect_timeout" ++ [0x3d]) := by
    decide
  rw [clause, hdefault, htext]
  by_cases hthirty : n = 30
  · rw [if_neg (not_not_intro ((intText_eq_iff hpos).mpr hthirty)), if_neg (by simp [hthirty])]
  · rw [if_pos fun heq => hthirty ((intText_eq_iff hpos).mp heq), if_pos hthirty]
    simp [renderEntry]

/-- The string of an accepted configuration without options is the text of its written fields. -/
theorem toConnectionString_eq {isOpen : Bytes → Bool} {c : PgSqlConfig}
    (h : c.validate isOpen = .ok ()) (hopt : c.options = []) :
    c.toConnectionString = render c.written := by
  obtain ⟨hhost, hdb, huser, hport, htime, hssl⟩ := validate_ok h
  have hsslne : c.sslmode ≠ [] := by
    intro hnil
    rw [hnil] at hssl
    exact absurd hssl (by decide)
  -- The first field is always written, and what the others add is their clauses.
  have hfirst : c.written = (utf8 "host", c.host) ::
      c.fields.tail.filter fun entry => entry.2 ≠ defaultSetting entry.1 := by
    have hdefault : defaultSetting (utf8 "host") = [] := by decide
    refine List.filter_cons_of_pos ?_
    simpa [hdefault] using hhost
  have hdb' : clause (utf8 "dbname", c.database) = utf8 " dbname=" ++ c.database :=
    (clause_of_default_nil (by decide) (by decide)).trans (if_pos hdb)
  have huser' : clause (utf8 "user", c.user) = utf8 " user=" ++ c.user :=
    (clause_of_default_nil (by decide) (by decide)).trans (if_pos huser)
  have hport' : clause (utf8 "port", intText c.port) = utf8 " port=" ++ intText c.port :=
    (clause_of_default_nil (by decide) (by decide)).trans
      (if_pos (intText_ne_nil _))
  have hpassword : clause (utf8 "password", c.password) =
      if c.password ≠ [] then utf8 " password=" ++ c.password else [] :=
    clause_of_default_nil (by decide) (by decide)
  have hcert : clause (utf8 "sslcert", c.sslcert) =
      if c.sslcert ≠ [] then utf8 " sslcert=" ++ c.sslcert else [] :=
    clause_of_default_nil (by decide) (by decide)
  have hkey : clause (utf8 "sslkey", c.sslkey) =
      if c.sslkey ≠ [] then utf8 " sslkey=" ++ c.sslkey else [] :=
    clause_of_default_nil (by decide) (by decide)
  have hroot : clause (utf8 "sslrootcert", c.sslrootcert) =
      if c.sslrootcert ≠ [] then utf8 " sslrootcert=" ++ c.sslrootcert else [] :=
    clause_of_default_nil (by decide) (by decide)
  have hhost' : renderEntry (utf8 "host", c.host) = utf8 "host=" ++ c.host := by
    have htext : utf8 "host=" = utf8 "host" ++ [0x3d] := by decide
    rw [htext]
    simp [renderEntry]
  rw [hfirst, render_cons, flatMap_clause, hhost', toConnectionString, hopt]
  simp only [fields, List.tail_cons, List.flatMap_cons, List.flatMap_nil, hport', hdb', huser',
    hpassword, clause_sslmode hsslne, hcert, hkey, hroot, clause_connectTimeout htime,
    List.append_assoc, ne_eq, not_true_eq_false, if_false, List.append_nil]

/-! ## The round trip -/

/-- The keywords of the fields. -/
def keywords : List Bytes :=
  [utf8 "host", utf8 "port", utf8 "dbname", utf8 "user", utf8 "password", utf8 "sslmode",
    utf8 "sslcert", utf8 "sslkey", utf8 "sslrootcert", utf8 "connect_timeout"]

theorem fields_keywords (c : PgSqlConfig) : c.fields.map Prod.fst = keywords := rfl

theorem keywords_nodup : keywords.Nodup := by decide

theorem fields_nodup (c : PgSqlConfig) : (c.fields.map Prod.fst).Nodup := by
  rw [fields_keywords]
  exact keywords_nodup

theorem written_nodup (c : PgSqlConfig) : (c.written.map Prod.fst).Nodup :=
  (fields_nodup c).sublist (List.filter_sublist.map _)

theorem mem_written {c : PgSqlConfig} {entry : Bytes × Bytes} :
    entry ∈ c.written ↔ entry ∈ c.fields ∧ entry.2 ≠ defaultSetting entry.1 := by
  simp [written, List.mem_filter]

/-- The written fields give every field its text: the others have their defaults. -/
theorem effective_written (c : PgSqlConfig) (k : Bytes) :
    effective c.written k = effective c.fields k := by
  unfold effective
  rcases hw : setting c.written k with _ | v
  · rcases hf : setting c.fields k with _ | v
    · rfl
    · have hmem := mem_of_setting hf
      by_cases hdefault : v = defaultSetting k
      · rw [hdefault]
        rfl
      · have hset := setting_of_mem (written_nodup c) (mem_written.mpr ⟨hmem, hdefault⟩)
        rw [hw] at hset
        exact absurd hset (by simp)
  · have hmem := mem_of_setting hw
    rw [setting_of_mem (fields_nodup c) (mem_written.mp hmem).1]

/-- What is parsed has each written field, when it gives every keyword its setting. -/
theorem mem_of_effective {c : PgSqlConfig} {entries : List (Bytes × Bytes)}
    (h : ∀ k, effective entries k = effective c.fields k) {entry : Bytes × Bytes}
    (hentry : entry ∈ c.written) : entry ∈ entries := by
  obtain ⟨hfield, hdefault⟩ := mem_written.mp hentry
  have hk := h entry.1
  rw [effective, effective, setting_of_mem (fields_nodup c) hfield, Option.getD_some] at hk
  cases hset : setting entries entry.1 with
  | none =>
    rw [hset, Option.getD_none] at hk
    exact absurd hk.symm hdefault
  | some v =>
    rw [hset, Option.getD_some] at hk
    have hmem := mem_of_setting hset
    rwa [hk] at hmem

/-- The keywords stand for themselves. -/
theorem plainName_of_mem {c : PgSqlConfig} {entry : Bytes × Bytes} (h : entry ∈ c.fields) :
    PlainName entry.1 := by
  have hall : ∀ k ∈ keywords, PlainName k := by decide +kernel
  exact hall _ (fields_keywords c ▸ List.mem_map_of_mem h)

/-- The keywords of the texts. -/
def textKeywords : List Bytes :=
  [utf8 "host", utf8 "dbname", utf8 "user", utf8 "password", utf8 "sslcert", utf8 "sslkey",
    utf8 "sslrootcert"]

theorem defaultSetting_text : ∀ k ∈ textKeywords, defaultSetting k = [] := by decide

/-- The fields are the texts, the two numbers and `sslmode`. -/
theorem fields_cases {c : PgSqlConfig} {entry : Bytes × Bytes} (h : entry ∈ c.fields) :
    entry.2 ∈ c.texts ∧ defaultSetting entry.1 = [] ∨ entry.2 = intText c.port ∨
      entry.2 = intText c.connectTimeout ∨ entry.2 = c.sslmode := by
  simp only [fields, List.mem_cons, List.not_mem_nil, or_false] at h
  rcases h with rfl | rfl | rfl | rfl | rfl | rfl | rfl | rfl | rfl | rfl
  · exact .inl ⟨by simp [texts], defaultSetting_text _ (by simp [textKeywords])⟩
  · exact .inr (.inl rfl)
  · exact .inl ⟨by simp [texts], defaultSetting_text _ (by simp [textKeywords])⟩
  · exact .inl ⟨by simp [texts], defaultSetting_text _ (by simp [textKeywords])⟩
  · exact .inl ⟨by simp [texts], defaultSetting_text _ (by simp [textKeywords])⟩
  · exact .inr (.inr (.inr rfl))
  · exact .inl ⟨by simp [texts], defaultSetting_text _ (by simp [textKeywords])⟩
  · exact .inl ⟨by simp [texts], defaultSetting_text _ (by simp [textKeywords])⟩
  · exact .inl ⟨by simp [texts], defaultSetting_text _ (by simp [textKeywords])⟩
  · exact .inr (.inr (.inl rfl))

/-- A text that is not empty is written. -/
theorem exists_written {c : PgSqlConfig} {v : Bytes} (h : v ∈ c.texts) (hne : v ≠ []) :
    ∃ entry ∈ c.written, entry.2 = v := by
  have hpick : ∀ k ∈ textKeywords, (k, v) ∈ c.fields → ∃ entry ∈ c.written, entry.2 = v :=
    fun k hk hmem => ⟨(k, v), mem_written.mpr ⟨hmem, by rwa [defaultSetting_text k hk]⟩, rfl⟩
  simp only [texts, List.mem_cons, List.not_mem_nil, or_false] at h
  rcases h with rfl | rfl | rfl | rfl | rfl | rfl | rfl
  · exact hpick (utf8 "host") (by simp [textKeywords]) (by simp [fields])
  · exact hpick (utf8 "dbname") (by simp [textKeywords]) (by simp [fields])
  · exact hpick (utf8 "user") (by simp [textKeywords]) (by simp [fields])
  · exact hpick (utf8 "password") (by simp [textKeywords]) (by simp [fields])
  · exact hpick (utf8 "sslcert") (by simp [textKeywords]) (by simp [fields])
  · exact hpick (utf8 "sslkey") (by simp [textKeywords]) (by simp [fields])
  · exact hpick (utf8 "sslrootcert") (by simp [textKeywords]) (by simp [fields])

/-- An accepted configuration without options is parsed back exactly when each of its texts is
plain: it has no white space, no backslash and no zero byte, and does not start with a quote. -/
theorem roundTrips_iff {isOpen : Bytes → Bool} {c : PgSqlConfig}
    (h : c.validate isOpen = .ok ()) (hopt : c.options = []) :
    c.RoundTrips ↔ ∀ v ∈ c.texts, Plain v := by
  obtain ⟨hhost, hdb, huser, hport, htime, hssl⟩ := validate_ok h
  have hne : c.written ≠ [] := by
    obtain ⟨entry, hentry, -⟩ := exists_written (c := c) (v := c.host) (by simp [texts]) hhost
    exact List.ne_nil_of_mem hentry
  rw [RoundTrips, toConnectionString_eq h hopt]
  constructor
  · rintro ⟨entries, hparse, hsame⟩ v hv
    have hplain := plain_of_subset hne (List.Nodup.of_map _ (written_nodup c)) hparse
      fun entry hentry => mem_of_effective hsame hentry
    by_cases hnil : v = []
    · rw [hnil]
      decide +kernel
    · obtain ⟨entry, hentry, rfl⟩ := exists_written hv hnil
      exact hplain entry hentry
  · intro hplain
    have hmodes : ∀ mode ∈ sslmodes, Plain mode ∧ mode ≠ [] := by decide +kernel
    refine ⟨c.written, parse_render hne fun entry hentry => ?_, effective_written c⟩
    obtain ⟨hfield, hdefault⟩ := mem_written.mp hentry
    refine ⟨plainName_of_mem hfield, ?_⟩
    rcases fields_cases hfield with ⟨htext, hnil⟩ | hnum | hnum | hmode
    · exact ⟨hplain _ htext, by rwa [hnil] at hdefault⟩
    · rw [hnum]
      exact ⟨plain_intText hport, intText_ne_nil _⟩
    · rw [hnum]
      exact ⟨plain_intText htime, intText_ne_nil _⟩
    · rw [hmode]
      exact hmodes _ hssl

/-- A configuration with a password, a root certificate, a mode, and a time limit. -/
def securedConfig : PgSqlConfig where
  host := utf8 "db.local"
  password := utf8 "s3cret"
  sslmode := utf8 "verify-full"
  sslrootcert := utf8 "/etc/ca.pem"
  connectTimeout := 5

/-- It is accepted when its file is there, and its string is parsed back. -/
theorem roundTrips_securedConfig :
    securedConfig.validate (fun path => decide (path = utf8 "/etc/ca.pem")) = .ok () ∧
      securedConfig.RoundTrips := by
  have hvalid :
      securedConfig.validate (fun path => decide (path = utf8 "/etc/ca.pem")) = .ok () := by
    decide +kernel
  exact ⟨hvalid, (roundTrips_iff hvalid rfl).mpr (by decide +kernel)⟩

/-- The password `a host=evil` sets the host. -/
theorem not_roundTrips_password :
    (({ password := utf8 "a host=evil" } : PgSqlConfig).validate fun _ => false) = .ok () ∧
      ¬ ({ password := utf8 "a host=evil" } : PgSqlConfig).RoundTrips := by
  refine ⟨by decide +kernel, ?_⟩
  rintro ⟨entries, hparse, hsame⟩
  have hread : (parse ({ password := utf8 "a host=evil" } : PgSqlConfig).toConnectionString).map
      (fun entries => effective entries (utf8 "host")) = some (utf8 "evil") := by decide +kernel
  rw [hparse, Option.map_some, hsame] at hread
  exact absurd hread (by decide +kernel)

end PgSqlConfig

end MyChat.Common
