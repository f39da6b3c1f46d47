import MyChat.Auth.PasswordHasher

/-!
# Stored password hashes

The lines that `PasswordHasher` writes and the lines that it accepts. `hash_roundTrip` says that
what `hash` writes is accepted for its password, by any hasher, and for no password with another
hash.

`verify` accepts more than such lines. A delimiter after the last field passes for its end, and the
number of iterations is whatever `strtol` reads from its field, cut to an `int`: an empty field,
white space, a sign, or a number of any size. `acceptsOnlyFormat_iff` says that these stored lines,
and no others, let a password through that the format does not.
-/

namespace MyChat.Auth

open ByteText

namespace PasswordHasher

/-! ## Lines -/

theorem castInt_of_lt {n : ℤ} (hlow : 0 ≤ n) (hhigh : n < 2 ^ 31) : castInt n = n := by
  rw [castInt, Int.bmod_def]
  omega

theorem toLong_of_lt {n : ℤ} (hlow : 0 ≤ n) (hhigh : n < 2 ^ 31) : toLong n = n := by
  rw [toLong]
  omega

/-- The fields of a line, which have no delimiter in them, are found again. -/
theorem line_inj {n n' s s' h h' tail tail' : Bytes} (heq : line n s h tail = line n' s' h' tail')
    (hn : kDelimiter ∉ n) (hn' : kDelimiter ∉ n') (hs : kDelimiter ∉ s) (hs' : kDelimiter ∉ s')
    (hh : kDelimiter ∉ h) (hh' : kDelimiter ∉ h') (htail : tail = [] ∨ tail = [kDelimiter])
    (htail' : tail' = [] ∨ tail' = [kDelimiter]) : n = n' ∧ s = s' ∧ h = h' ∧ tail = tail' := by
  have hfields := List.append_cancel_left heq
  obtain ⟨rfl, hrest⟩ := field_inj hn hn' (List.cons.inj hfields).2
  obtain ⟨rfl, hlast⟩ := field_inj hs hs' hrest
  refine ⟨rfl, rfl, ?_⟩
  rcases htail with rfl | rfl <;> rcases htail' with rfl | rfl
  · rw [List.append_nil, List.append_nil] at hlast
    exact ⟨hlast, rfl⟩
  · rw [List.append_nil] at hlast
    exact absurd (hlast ▸ List.mem_append_right h' (List.mem_singleton_self _)) hh
  · rw [List.append_nil] at hlast
    exact absurd (hlast ▸ List.mem_append_right h (List.mem_singleton_self _)) hh'
  · exact ⟨(field_inj hh hh' hlast).1, rfl⟩

/-- Digits alone are read as the number that they denote. -/
theorem strtol_digits {digits : Bytes} (hne : digits ≠ []) (hdigits : ∀ c ∈ digits, isDigitOf 10 c)
    (hvalue : valueOf 10 digits < 2 ^ 31) : strtol 10 digits = ((valueOf 10 digits : ℤ), []) := by
  have hsigned : SignedDigits 10 digits (valueOf 10 digits) :=
    ⟨[], [], digits, rfl, by simp, hdigits, hne, .inr ⟨.inr rfl, rfl⟩⟩
  rw [hsigned.strtol_eq (by decide) (by decide), toLong_of_lt (by omega) (by omega)]

variable {pbkdf2 : Pbkdf2} {hasher : PasswordHasher} {password stored : Bytes} {salt : Salt}

/-! ## The round trip -/

/-- What `hash` writes. -/
theorem hash_eq_ok (h : hasher.hash pbkdf2 (some salt) password = .ok stored) :
    ∃ digest, derive pbkdf2 password salt hasher.iterations = some digest ∧
      stored = line (numeral 10 hasher.iterations.toNat) (toHex salt.toList) (toHex digest.toList)
        [] := by
  unfold hash at h
  dsimp only at h
  cases hderive : derive pbkdf2 password salt hasher.iterations with
  | none =>
    rw [hderive] at h
    exact absurd h (by simp)
  | some digest =>
    rw [hderive] at h
    refine ⟨digest, rfl, (Except.ok.inj h).symm.trans ?_⟩
    rw [line, List.append_nil]

/-- `verify` reads the number of iterations that `hash` wrote. -/
theorem strtol_iterations (hasher : PasswordHasher) :
    strtol 10 (numeral 10 hasher.iterations.toNat) = (hasher.iterations, []) := by
  have hpos := hasher.pos
  have hlt := hasher.lt
  have hvalue : valueOf 10 (numeral 10 hasher.iterations.toNat) = hasher.iterations.toNat :=
    valueOf_numeral (by decide) (by decide) _
  rw [strtol_digits (numeral_ne_nil _ _) (isDigitOf_numeral (by decide) (by decide) _)
    (by rw [hvalue]; omega), hvalue]
  congr 1
  omega

/-- A password is accepted for a line that was written for another one just when they have the same
hash. -/
theorem verify_hash {hasher' : PasswordHasher} {other : Bytes} {digest : Digest} :
    hasher'.verify pbkdf2 other (line (numeral 10 hasher.iterations.toNat) (toHex salt.toList)
      (toHex digest.toList) []) = true ↔
      derive pbkdf2 other salt hasher.iterations = some digest := by
  have hcast : castInt hasher.iterations = hasher.iterations := by
    have hpos := hasher.pos
    exact castInt_of_lt (by omega) hasher.lt
  have hstrtol := strtol_iterations hasher
  have hsalt := fromHex_toHex salt
  have hdigest := fromHex_toHex digest
  rw [verify_iff]
  constructor
  · rintro ⟨iterations, saltHex, hashHex, tail, n, salt', digest', heq, htail, hstrtol', hsalt',
      hdigest', hderive⟩
    obtain ⟨rfl, rfl, rfl, rfl⟩ := line_inj heq (kDelimiter_not_mem_iterations hstrtol)
      (kDelimiter_not_mem_iterations hstrtol') (kDelimiter_not_mem_hex (toHex_spec _).2.1)
      (kDelimiter_not_mem_hex (fromHex_eq_some.mp hsalt').2.1)
      (kDelimiter_not_mem_hex (toHex_spec _).2.1)
      (kDelimiter_not_mem_hex (fromHex_eq_some.mp hdigest').2.1) (.inl rfl) htail
    obtain rfl : hasher.iterations = n := (Prod.mk.inj (hstrtol.symm.trans hstrtol')).1
    obtain rfl : salt = salt' := Option.some.inj (hsalt.symm.trans hsalt')
    obtain rfl : digest = digest' := Option.some.inj (hdigest.symm.trans hdigest')
    rw [hcast] at hderive
    exact hderive
  · intro hderive
    exact ⟨_, _, _, [], hasher.iterations, salt, digest, rfl, .inl rfl, hstrtol, hsalt, hdigest,
      by rw [hcast]; exact hderive⟩

/-- The line that `hash` writes for a password, with any salt and any number of iterations, is
accepted by every hasher for this password and rejected for every password with another hash; and
bytes that are written in base 16 are read back. -/
theorem hash_roundTrip (pbkdf2 : Pbkdf2) (hasher : PasswordHasher) (salt : Salt)
    (password : Bytes) :
    (∀ stored, hasher.hash pbkdf2 (some salt) password = .ok stored →
      ∀ hasher' : PasswordHasher, hasher'.verify pbkdf2 password stored = true ∧
        ∀ other, derive pbkdf2 other salt hasher.iterations ≠
            derive pbkdf2 password salt hasher.iterations →
          hasher'.verify pbkdf2 other stored = false) ∧
      ∀ (count : ℕ) (data : List.Vector UInt8 count),
        fromHex (toHex data.toList) count = some data := by
  refine ⟨fun stored hhash hasher' => ?_, fun _ data => fromHex_toHex data⟩
  obtain ⟨digest, hderive, rfl⟩ := hash_eq_ok hhash
  refine ⟨verify_hash.mpr hderive, fun other hother => ?_⟩
  rw [Bool.eq_false_iff]
  intro haccepted
  exact hother ((verify_hash.mp haccepted).trans hderive.symm)

/-! ## The format -/

/-- The fields are as they should be: a numeral from 1 to `INT_MAX`, 32 digits, and 64 digits. -/
structure HasFormat (iterations saltHex hashHex : Bytes) : Prop where
  /-- The numeral is not empty. -/
  ne_nil : iterations ≠ []
  /-- It has digits only. -/
  digits : ∀ c ∈ iterations, isDigitOf 10 c
  /-- It is not zero. -/
  pos : 1 ≤ valueOf 10 iterations
  /-- It is an `int`. -/
  le : valueOf 10 iterations ≤ 2 ^ 31 - 1
  /-- The salt. -/
  salt : saltHex.length = 32 ∧ ∀ c ∈ saltHex, isDigitOf 16 c
  /-- The hash. -/
  hash : hashHex.length = 64 ∧ ∀ c ∈ hashHex, isDigitOf 16 c

/-- The line is accepted only if it has the format and its hash is that of the password, under its
salt, with exactly as many iterations as it says. -/
def AcceptsOnlyFormat (hasher : PasswordHasher) (pbkdf2 : Pbkdf2) (password stored : Bytes) :
    Prop :=
  hasher.verify pbkdf2 password stored = true →
    ∃ iterations saltHex hashHex, stored = line iterations saltHex hashHex [] ∧
      HasFormat iterations saltHex hashHex ∧
      ∃ (salt : Salt) (digest : Digest), salt.toList = hexBytes saltHex ∧
        digest.toList = hexBytes hashHex ∧
        derive pbkdf2 password salt (valueOf 10 iterations) = some digest

/-- What is out of the format and let through: a delimiter after the last field, or a number of
iterations that is left out, has white space or a sign, or is zero or no `int`. -/
def Tolerated (iterations tail : Bytes) : Prop :=
  tail = [kDelimiter] ∨ iterations = [] ∨ (∃ c ∈ iterations, ¬ isDigitOf 10 c) ∨
    valueOf 10 iterations = 0 ∨ 2 ^ 31 ≤ valueOf 10 iterations

/-- The stored line is out of the format in one of these ways, and has this hash under this salt.
The number of iterations is what is made of its field: zero when the field is empty, and else the
nearest `long`, cut to an `int`. -/
def OutOfFormat (stored : Bytes) (salt : Salt) (count : ℤ) (digest : Digest) : Prop :=
  ∃ iterations saltHex hashHex tail n,
    stored = line iterations saltHex hashHex tail ∧ (tail = [] ∨ tail = [kDelimiter]) ∧
    (iterations = [] ∧ n = 0 ∨ SignedDigits 10 iterations n) ∧ Tolerated iterations tail ∧
    (saltHex.length = 32 ∧ (∀ c ∈ saltHex, isDigitOf 16 c) ∧ salt.toList = hexBytes saltHex) ∧
    (hashHex.length = 64 ∧ (∀ c ∈ hashHex, isDigitOf 16 c) ∧ digest.toList = hexBytes hashHex) ∧
    count = castInt (toLong n)

/-- The field of the iterations, as it is read. -/
theorem strtol_field {iterations : Bytes} {m : ℤ} :
    strtol 10 iterations = (m, []) ↔
      ∃ n, (iterations = [] ∧ n = 0 ∨ SignedDigits 10 iterations n) ∧ m = toLong n := by
  rw [strtol_eq_nil_iff (by decide) (by decide)]
  constructor
  · rintro (⟨rfl, rfl⟩ | ⟨n, hn, rfl⟩)
    · exact ⟨0, .inl ⟨rfl, rfl⟩, rfl⟩
    · exact ⟨n, .inr hn, rfl⟩
  · rintro ⟨n, ⟨rfl, rfl⟩ | hn, rfl⟩
    · exact .inl ⟨rfl, rfl⟩
    · exact .inr ⟨n, hn, rfl⟩

/-- A line out of the format is accepted for every password with its hash. -/
theorem not_acceptsOnlyFormat {count : ℤ} {digest : Digest}
    (h : OutOfFormat stored salt count digest) (hderive : derive pbkdf2 password salt count = some digest) :
    ¬ AcceptsOnlyFormat hasher pbkdf2 password stored := by
  obtain ⟨iterations, saltHex, hashHex, tail, n, rfl, htail, hfield, htolerated, hsalt, hdigest,
    rfl⟩ := h
  have hstrtol : strtol 10 iterations = (toLong n, []) := strtol_field.mpr ⟨n, hfield, rfl⟩
  have haccepted : hasher.verify pbkdf2 password (line iterations saltHex hashHex tail) = true :=
    verify_iff.mpr ⟨iterations, saltHex, hashHex, tail, toLong n, salt, digest, rfl, htail, hstrtol,
      fromHex_eq_some.mpr hsalt, fromHex_eq_some.mpr hdigest, hderive⟩
  intro honly
  obtain ⟨iterations', saltHex', hashHex', heq, hformat, -⟩ := honly haccepted
  have hplain := strtol_digits hformat.ne_nil hformat.digits (by have := hformat.le; omega)
  obtain ⟨rfl, -, -, rfl⟩ := line_inj heq (kDelimiter_not_mem_iterations hstrtol)
    (kDelimiter_not_mem_iterations hplain) (kDelimiter_not_mem_hex hsalt.2.1)
    (kDelimiter_not_mem_hex hformat.salt.2) (kDelimiter_not_mem_hex hdigest.2.1)
    (kDelimiter_not_mem_hex hformat.hash.2) htail (.inl rfl)
  have hpos := hformat.pos
  have hle := hformat.le
  rcases htolerated with htail | hnil | ⟨c, hc, hnot⟩ | hzero | hlarge
  · exact absurd htail (by simp)
  · exact hformat.ne_nil hnil
  · exact hnot (hformat.digits c hc)
  · omega
  · omega

/-- A line that is not out of the format in one of these ways is accepted only for a password that
the format admits. -/
theorem acceptsOnlyFormat_of_not_outOfFormat
    (hnot : ∀ salt count digest, ¬ OutOfFormat stored salt count digest) :
    AcceptsOnlyFormat hasher pbkdf2 password stored := by
  intro haccepted
  obtain ⟨iterations, saltHex, hashHex, tail, m, salt, digest, rfl, htail, hstrtol, hsalt, hdigest,
    hderive⟩ := verify_iff.mp haccepted
  obtain ⟨n, hfield, rfl⟩ := strtol_field.mp hstrtol
  have hsaltHex := fromHex_eq_some.mp hsalt
  have hhashHex := fromHex_eq_some.mp hdigest
  by_cases htolerated : Tolerated iterations tail
  · exact absurd ⟨iterations, saltHex, hashHex, tail, n, rfl, htail, hfield, htolerated, hsaltHex,
      hhashHex, rfl⟩ (hnot salt _ digest)
  · -- What is left is a numeral of digits, which is read as the number that it denotes.
    simp only [Tolerated, not_or, not_exists, not_and, not_not] at htolerated
    obtain ⟨hdelim, hne, hdigits, hzero, hlarge⟩ := htolerated
    obtain rfl : tail = [] := htail.resolve_right hdelim
    have hplain := strtol_digits hne hdigits (by omega)
    have hn : toLong n = valueOf 10 iterations := (Prod.mk.inj (hstrtol.symm.trans hplain)).1
    rw [hn, castInt_of_lt (by omega) (by omega)] at hderive
    exact ⟨iterations, saltHex, hashHex, rfl,
      ⟨hne, hdigits, by omega, by omega, ⟨hsaltHex.1, hsaltHex.2.1⟩, hhashHex.1, hhashHex.2.1⟩,
      salt, digest, hsaltHex.2.2, hhashHex.2.2, hderive⟩

/-- `verify` accepts only its format, for every password, exactly when the stored line is not out of
the format in one of these ways. When it is, then every password with its hash is one for which the
line should not have been accepted. -/
theorem acceptsOnlyFormat_iff (hasher : PasswordHasher) (stored : Bytes) :
    ((∀ pbkdf2 password, AcceptsOnlyFormat hasher pbkdf2 password stored) ↔
      ∀ salt count digest, ¬ OutOfFormat stored salt count digest) ∧
    ∀ pbkdf2 password salt count digest, OutOfFormat stored salt count digest →
      derive pbkdf2 password salt count = some digest →
      ¬ AcceptsOnlyFormat hasher pbkdf2 password stored := by
  refine ⟨⟨fun honly salt count digest h => ?_, fun hnot pbkdf2 password =>
    acceptsOnlyFormat_of_not_outOfFormat hnot⟩, fun _ _ _ _ _ => not_acceptsOnlyFormat⟩
  exact not_acceptsOnlyFormat h
    (show derive (fun _ _ _ _ => some digest) [] salt count = _ from rfl) (honly _ _)

/-! ### A password -/

/-- A salt of zeros. -/
def zeroSalt : Salt := List.Vector.replicate kSaltLength 0

/-- The hash of `secret` under this salt, for one iteration. -/
def secretDigest : Digest :=
  ⟨[160, 240, 230, 23, 65, 195, 74, 163, 98, 121, 221, 138, 65, 28, 108, 162, 106, 132, 206, 40, 74,
    152, 59, 67, 186, 121, 202, 186, 138, 95, 38, 208], rfl⟩

/-- `PKCS5_PBKDF2_HMAC` on this input. -/
def secretPbkdf2 : Pbkdf2 := fun password passlen salt iterations =>
  if password = ascii "secret" ∧ passlen = 6 ∧ salt = zeroSalt ∧ iterations = 1 then
    some secretDigest
  else none

/-- `secret` is accepted for the line that is written for it, and the empty password is not. -/
theorem hash_roundTrip_secret : ∃ stored,
    (construct 1).hash secretPbkdf2 (some zeroSalt) (ascii "secret") = .ok stored ∧
      (construct 0).verify secretPbkdf2 (ascii "secret") stored = true ∧
      (construct 0).verify secretPbkdf2 [] stored = false := by
  have hderive : derive secretPbkdf2 (ascii "secret") zeroSalt (construct 1).iterations =
    some secretDigest := by decide
  have hother : derive secretPbkdf2 [] zeroSalt (construct 1).iterations = none := by decide
  have hround := (hash_roundTrip secretPbkdf2 (construct 1) zeroSalt (ascii "secret")).1
  unfold hash at hround ⊢
  simp only [hderive] at hround ⊢
  obtain ⟨haccepted, hrejected⟩ := hround _ rfl (construct 0)
  exact ⟨_, rfl, haccepted, hrejected [] (by rw [hother]; simp)⟩

/-- The line for `secret` with these iterations and this tail. -/
def secretLine (iterations tail : Bytes) : Bytes :=
  line iterations (toHex zeroSalt.toList) (toHex secretDigest.toList) tail

theorem outOfFormat_secretLine {iterations tail : Bytes} {n : ℤ}
    (htail : tail = [] ∨ tail = [kDelimiter])
    (hfield : iterations = [] ∧ n = 0 ∨ SignedDigits 10 iterations n)
    (htolerated : Tolerated iterations tail) (hone : castInt (toLong n) = 1) :
    OutOfFormat (secretLine iterations tail) zeroSalt 1 secretDigest := by
  obtain ⟨hsalt, hsaltHex, hsaltBytes⟩ := toHex_spec zeroSalt.toList
  obtain ⟨hhash, hhashHex, hhashBytes⟩ := toHex_spec secretDigest.toList
  rw [List.Vector.toList_length] at hsalt hhash
  exact ⟨iterations, _, _, tail, n, rfl, htail, hfield, htolerated,
    ⟨hsalt, hsaltHex, hsaltBytes.symm⟩, ⟨hhash, hhashHex, hhashBytes.symm⟩, hone.symm⟩

/-- Three lines that are accepted out of the format: one with a delimiter at its end, one with a
space and a sign before the number, and one with `2 ^ 32 + 1` iterations, which are counted as
one. -/
theorem verify_tolerates :
    ¬ AcceptsOnlyFormat (construct 1) secretPbkdf2 (ascii "secret")
        (secretLine (ascii "1") [kDelimiter]) ∧
      ¬ AcceptsOnlyFormat (construct 1) secretPbkdf2 (ascii "secret")
        (secretLine (ascii " +1") []) ∧
      ¬ AcceptsOnlyFormat (construct 1) secretPbkdf2 (ascii "secret")
        (secretLine (ascii "4294967297") []) := by
  have hderive : derive secretPbkdf2 (ascii "secret") zeroSalt 1 = some secretDigest := by decide
  refine ⟨not_acceptsOnlyFormat ?_ hderive, not_acceptsOnlyFormat ?_ hderive,
    not_acceptsOnlyFormat ?_ hderive⟩
  · have hdigits : ∀ c ∈ ascii "1", isDigitOf 10 c := by decide +kernel
    refine outOfFormat_secretLine (.inr rfl) (.inr ⟨[], [], ascii "1", rfl, by simp, hdigits,
      by decide, .inr ⟨.inr rfl, rfl⟩⟩) (.inl rfl) (by decide +kernel)
  · have hspaces : ∀ c ∈ ascii " ", isSpace c := by decide +kernel
    have hdigits : ∀ c ∈ ascii "1", isDigitOf 10 c := by decide +kernel
    refine outOfFormat_secretLine (.inl rfl) (.inr ⟨ascii " ", ascii "+", ascii "1",
      by decide, hspaces, hdigits, by decide, .inr ⟨.inl (by decide), rfl⟩⟩) ?_
      (by decide +kernel)
    exact .inr (.inr (.inl ⟨32, by decide, by decide⟩))
  · have hdigits : ∀ c ∈ ascii "4294967297", isDigitOf 10 c := by decide +kernel
    refine outOfFormat_secretLine (.inl rfl) (.inr ⟨[], [], ascii "4294967297", rfl,
      by simp, hdigits, by decide, .inr ⟨.inr rfl, rfl⟩⟩) ?_ (by decide +kernel)
    exact .inr (.inr (.inr (.inr (by decide +kernel))))

end PasswordHasher

end MyChat.Auth
