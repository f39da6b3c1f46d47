import Mathlib.Data.Option.Basic
import MyChat.Lib.ByteText

/-!
# Password hashes

`PasswordHasher` of `services/user`: `hash` writes a salted PBKDF2 hash as a line of text with four
fields, and `verify` takes such a line apart and compares. `RAND_bytes` and `PKCS5_PBKDF2_HMAC` of
OpenSSL are parameters.

`verify_iff` says which lines a password is accepted for.
-/

namespace MyChat.Auth

open ByteText

/-- The bytes of a `std::string`. -/
abbrev Bytes := List UInt8

/-- The bytes of a literal of ASCII characters. -/
def ascii (literal : String) : Bytes := literal.toList.map fun c => UInt8.ofNat c.toNat

/-- `kSaltLength`. -/
abbrev kSaltLength : ℕ := 16

/-- `kHashLength`. -/
abbrev kHashLength : ℕ := 32

/-- `kDelimiter`, which is `$`. -/
abbrev kDelimiter : UInt8 := 36

/-- The first field. -/
def scheme : Bytes := ascii "pbkdf2_sha256"

/-- A salt. -/
abbrev Salt := List.Vector UInt8 kSaltLength

/-- A hash. -/
abbrev Digest := List.Vector UInt8 kHashLength

/-- `PKCS5_PBKDF2_HMAC` with SHA-256: the password and its length, the salt, and the number of
iterations; `none` when it does not return one. -/
abbrev Pbkdf2 := Bytes → ℤ → Salt → ℤ → Option Digest

/-- `static_cast<int>`. -/
def castInt (n : ℤ) : ℤ := n.bmod (2 ^ 32)

/-- The hash of a password, as `hash` and `verify` ask for it. -/
def derive (pbkdf2 : Pbkdf2) (password : Bytes) (salt : Salt) (iterations : ℤ) : Option Digest :=
  pbkdf2 password (castInt password.length) salt iterations

/-! ## Bytes in base 16 -/

/-- `ToHex`. -/
def toHex (data : Bytes) : Bytes := data.flatMap fun byte => padded 16 2 byte.toNat

/-- The loop of `FromHex`, over the pairs that are left. -/
def readPairs : (count : ℕ) → Bytes → Option (List.Vector UInt8 count)
  | 0, _ => some .nil
  | count + 1, hi :: lo :: rest =>
    if ¬ isDigitOf 16 hi ∨ ¬ isDigitOf 16 lo then none
    else
      let (val, endptr) := strtol 16 [hi, lo]
      if endptr ≠ [] then none
      else (readPairs count rest).map (.cons (UInt8.ofInt val))
  | _ + 1, _ => none

/-- `FromHex`. -/
def fromHex (hex : Bytes) (outLen : ℕ) : Option (List.Vector UInt8 outLen) :=
  if hex.length ≠ outLen * 2 then none else readPairs outLen hex

/-- The bytes that digits of base 16 denote, two digits a byte. -/
def hexBytes : Bytes → Bytes
  | hi :: lo :: rest => UInt8.ofNat (16 * digitValue hi + digitValue lo) :: hexBytes rest
  | _ => []

/-- Two digits, and those of the bytes that are left. -/
theorem exists_pair {count : ℕ} {hex : Bytes} (hlength : hex.length = (count + 1) * 2) :
    ∃ hi lo rest, hex = hi :: lo :: rest ∧ rest.length = count * 2 := by
  rcases hex with _ | ⟨hi, _ | ⟨lo, rest⟩⟩
  · simp at hlength
  · rw [List.length_singleton] at hlength
    omega
  · rw [List.length_cons, List.length_cons] at hlength
    exact ⟨hi, lo, rest, rfl, by omega⟩

/-- The loop ends with the bytes when all characters are digits, and fails when one is not. -/
theorem readPairs_eq_some {count : ℕ} {hex : Bytes} (hlength : hex.length = count * 2)
    {out : List.Vector UInt8 count} :
    readPairs count hex = some out ↔ (∀ c ∈ hex, isDigitOf 16 c) ∧ out.toList = hexBytes hex := by
  induction count generalizing hex with
  | zero =>
    obtain rfl : hex = [] := List.eq_nil_of_length_eq_zero (by omega)
    exact iff_of_true (congrArg some (Subsingleton.elim _ _))
      ⟨by simp, List.eq_nil_of_length_eq_zero out.toList_length⟩
  | succ count ih =>
    obtain ⟨hi, lo, rest, rfl, hrest⟩ := exists_pair hlength
    unfold readPairs
    by_cases hpair : isDigitOf 16 hi = true ∧ isDigitOf 16 lo = true
    · obtain ⟨hhi, hlo⟩ := hpair
      have hbyte : UInt8.ofInt (16 * (digitValue hi : ℤ) + digitValue lo) =
          UInt8.ofNat (16 * digitValue hi + digitValue lo) := by
        have hhi16 := isDigitOf_iff.mp hhi
        have hlo16 := isDigitOf_iff.mp hlo
        rw [UInt8.ofInt]
        congr 1
        omega
      have hall : (∀ c ∈ hi :: lo :: rest, isDigitOf 16 c = true) ↔
          ∀ c ∈ rest, isDigitOf 16 c = true := by
        simp [hhi, hlo]
      rw [if_neg (by simp [hhi, hlo]), strtol_two hhi hlo]
      dsimp only
      rw [if_neg (by simp), Option.map_eq_some_iff, hall, hexBytes, hbyte]
      constructor
      · rintro ⟨out, hout, rfl⟩
        obtain ⟨hdigits, hbytes⟩ := (ih hrest).mp hout
        exact ⟨hdigits, by rw [List.Vector.toList_cons, hbytes]⟩
      · rintro ⟨hdigits, hbytes⟩
        refine ⟨out.tail, (ih hrest).mpr ⟨hdigits, ?_⟩, ?_⟩
        · rw [List.Vector.toList_tail, hbytes, List.tail_cons]
        · apply List.Vector.eq
          rw [List.Vector.toList_cons, List.Vector.toList_tail, hbytes, List.tail_cons]
    · -- A character that is no digit ends the loop.
      rw [if_pos (not_and_or.mp hpair)]
      refine iff_of_false (by simp) fun h => hpair ⟨?_, ?_⟩
      · exact h.1 hi List.mem_cons_self
      · exact h.1 lo (List.mem_cons_of_mem _ List.mem_cons_self)

/-- `FromHex` takes as many digits as it should, and nothing else. -/
theorem fromHex_eq_some {hex : Bytes} {outLen : ℕ} {out : List.Vector UInt8 outLen} :
    fromHex hex outLen = some out ↔
      hex.length = outLen * 2 ∧ (∀ c ∈ hex, isDigitOf 16 c) ∧ out.toList = hexBytes hex := by
  unfold fromHex
  by_cases hlength : hex.length = outLen * 2
  · rw [if_neg (not_not.mpr hlength), readPairs_eq_some hlength, and_iff_right hlength]
  · rw [if_pos hlength]
    exact iff_of_false (by simp) fun h => hlength h.1

/-- Two digits for each byte. -/
theorem toHex_cons (byte : UInt8) (data : Bytes) :
    toHex (byte :: data) =
      digitByte (byte.toNat / 16) :: digitByte (byte.toNat % 16) :: toHex data := by
  rw [toHex, List.flatMap_cons, padded_two (by norm_num) byte.toNat_lt]
  rfl

/-- `ToHex` writes digits that denote its bytes. -/
theorem toHex_spec (data : Bytes) : (toHex data).length = data.length * 2 ∧
    (∀ c ∈ toHex data, isDigitOf 16 c) ∧ hexBytes (toHex data) = data := by
  induction data with
  | nil => exact ⟨rfl, by simp [toHex], rfl⟩
  | cons byte data ih =>
    obtain ⟨hlength, hdigits, hbytes⟩ := ih
    have hbyte := byte.toNat_lt
    have hhi : digitValue (digitByte (byte.toNat / 16)) = byte.toNat / 16 :=
      digitValue_digitByte (by omega)
    have hlo : digitValue (digitByte (byte.toNat % 16)) = byte.toNat % 16 :=
      digitValue_digitByte (by omega)
    rw [toHex_cons]
    refine ⟨?_, ?_, ?_⟩
    · rw [List.length_cons, List.length_cons, hlength, List.length_cons]
      omega
    · simp only [List.mem_cons, forall_eq_or_imp]
      refine ⟨?_, ?_, hdigits⟩
      · rw [isDigitOf_iff, hhi]
        omega
      · rw [isDigitOf_iff, hlo]
        omega
    · have hjoin : 16 * (byte.toNat / 16) + byte.toNat % 16 = byte.toNat := by omega
      rw [hexBytes, hhi, hlo, hjoin, UInt8.ofNat_toNat, hbytes]

/-- `FromHex` gives back what `ToHex` was given. -/
theorem fromHex_toHex {count : ℕ} (data : List.Vector UInt8 count) :
    fromHex (toHex data.toList) count = some data := by
  obtain ⟨hlength, hdigits, hbytes⟩ := toHex_spec data.toList
  rw [List.Vector.toList_length] at hlength
  exact fromHex_eq_some.mpr ⟨hlength, hdigits, hbytes.symm⟩

/-! ## `PasswordHasher` -/

/-- `PasswordHasher`. -/
structure PasswordHasher where
  /-- `iterations_`. -/
  iterations : ℤ
  /-- The constructor takes no number below one. -/
  pos : 1 ≤ iterations
  /-- It is an `int`. -/
  lt : iterations < 2 ^ 31

namespace PasswordHasher

/-- `kDefaultIterations`. -/
abbrev kDefaultIterations : ℤ := 100000

/-- The constructor. -/
def construct (iterations : Int32) : PasswordHasher :=
  if h : iterations.toInt > 0 then ⟨iterations.toInt, h, iterations.toInt_lt⟩
  else ⟨kDefaultIterations, by norm_num, by norm_num⟩

/-- `hash`, with what `RAND_bytes` answers. -/
def hash (hasher : PasswordHasher) (pbkdf2 : Pbkdf2) (randBytes : Option Salt) (password : Bytes) :
    Except String Bytes :=
  match randBytes with
  | none => .error "failed to generate random salt"
  | some salt =>
    match derive pbkdf2 password salt hasher.iterations with
    | none => .error "PBKDF2 hashing failed"
    | some digest =>
      .ok (scheme ++ kDelimiter :: (numeral 10 hasher.iterations.toNat ++ kDelimiter ::
        (toHex salt.toList ++ kDelimiter :: toHex digest.toList)))

/-- `verify`; where the code returns `false`, the block ends. It does not look at the hasher. -/
def verify (_hasher : PasswordHasher) (pbkdf2 : Pbkdf2) (password storedHash : Bytes) : Bool :=
  Option.isSome do
    let (part, iss) ← getline kDelimiter ⟨storedHash, false⟩
    guard (part = scheme)
    let (part, iss) ← getline kDelimiter iss
    let (storedIter, endptr) := strtol 10 part
    guard (endptr = [])
    let (part, iss) ← getline kDelimiter iss
    let salt ← fromHex part kSaltLength
    let (part, iss) ← getline kDelimiter iss
    let expectedHash ← fromHex part kHashLength
    guard (iss.peek = none)
    let computedHash ← derive pbkdf2 password salt (castInt storedIter)
    guard (computedHash = expectedHash)

/-! ### What `verify` accepts -/

/-- The line with these fields, and what comes after the last of them. -/
def line (iterations salt hash tail : Bytes) : Bytes :=
  scheme ++ kDelimiter :: (iterations ++ kDelimiter :: (salt ++ kDelimiter :: (hash ++ tail)))

/-- `verify` reads the field of the iterations as a number to its end. -/
theorem kDelimiter_not_mem_iterations {field : Bytes} {n : ℤ} (h : strtol 10 field = (n, [])) :
    kDelimiter ∉ field := by
  rcases (strtol_eq_nil_iff (by decide) (by decide)).mp h with
    ⟨rfl, -⟩ | ⟨value, ⟨spaces, sign, digits, rfl, hspaces, hdigits, -, hsign⟩, -⟩
  · exact List.not_mem_nil
  · simp only [List.mem_append, not_or]
    refine ⟨⟨fun hmem => ?_, ?_⟩, fun hmem => ?_⟩
    · exact absurd (hspaces _ hmem) (by decide)
    · rcases hsign with ⟨rfl, -⟩ | ⟨rfl | rfl, -⟩ <;> decide
    · exact (digit_ne (by decide) (hdigits _ hmem)).2.2.2 rfl

theorem kDelimiter_not_mem_hex {hex : Bytes} (h : ∀ c ∈ hex, isDigitOf 16 c) :
    kDelimiter ∉ hex :=
  fun hmem => (digit_ne (by decide) (h _ hmem)).2.2.2 rfl

/-- The lines that a password is accepted for. A delimiter after the last field is taken for its
end, and the number of iterations is what `strtol` and a cast make of its field. -/
theorem verify_iff {hasher : PasswordHasher} {pbkdf2 : Pbkdf2} {password storedHash : Bytes} :
    hasher.verify pbkdf2 password storedHash = true ↔
      ∃ iterations saltHex hashHex tail n salt digest,
        storedHash = line iterations saltHex hashHex tail ∧ (tail = [] ∨ tail = [kDelimiter]) ∧
        strtol 10 iterations = (n, []) ∧ fromHex saltHex kSaltLength = some salt ∧
        fromHex hashHex kHashLength = some digest ∧
        derive pbkdf2 password salt (castInt n) = some digest := by
  constructor
  · intro h
    obtain ⟨⟨⟩, h⟩ := Option.isSome_iff_exists.mp h
    simp only [Option.bind_eq_bind, Option.bind_eq_some_iff, Option.guard_eq_some',
      Prod.exists] at h
    obtain ⟨_, s₁, h₁, -, rfl, iterations, s₂, h₂, -, hend, saltHex, s₃, h₃, salt, hsalt, hashHex,
      s₄, h₄, digest, hdigest, -, hpeek, _, hderive, rfl⟩ := h
    have hrest₁ : storedHash = scheme ++ kDelimiter :: s₁.rest := getline_of_getline h₁ h₂
    have hrest₂ := getline_of_getline h₂ h₃
    have hrest₃ := getline_of_getline h₃ h₄
    have hstrtol : strtol 10 iterations = ((strtol 10 iterations).1, []) := Prod.ext rfl hend
    -- The stream is at its end when the hash stood there, or a delimiter after it.
    rcases getline_of_peek h₄ hpeek with hrest₄ | hrest₄
    · refine ⟨iterations, saltHex, hashHex, [], _, salt, _, ?_, .inl rfl, hstrtol, hsalt, hdigest,
        hderive⟩
      rw [hrest₁, hrest₂, hrest₃, hrest₄, line]
    · refine ⟨iterations, saltHex, hashHex, [kDelimiter], _, salt, _, ?_, .inr rfl, hstrtol, hsalt,
        hdigest, hderive⟩
      rw [hrest₁, hrest₂, hrest₃, hrest₄, line]
  · rintro ⟨iterations, saltHex, hashHex, tail, n, salt, digest, rfl, htail, hstrtol, hsalt,
      hdigest, hderive⟩
    obtain ⟨hlength, hhash, -⟩ := fromHex_eq_some.mp hdigest
    obtain ⟨-, hsaltHex, -⟩ := fromHex_eq_some.mp hsalt
    have hne : hashHex ≠ [] := List.ne_nil_of_length_pos (by rw [hlength]; decide)
    -- The fields have no delimiter, so that each `getline` takes one of them.
    obtain ⟨s₄, h₄, hpeek⟩ := getline_last (kDelimiter_not_mem_hex hhash) hne htail
    have h₁ := getline_field (by decide : kDelimiter ∉ scheme) (iterations ++ kDelimiter ::
      (saltHex ++ kDelimiter :: (hashHex ++ tail)))
    have h₂ := getline_field (kDelimiter_not_mem_iterations hstrtol)
      (saltHex ++ kDelimiter :: (hashHex ++ tail))
    have h₃ := getline_field (kDelimiter_not_mem_hex hsaltHex) (hashHex ++ tail)
    simp [verify, line, h₁, h₂, h₃, h₄, hstrtol, hsalt, hdigest, hpeek, hderive]

end PasswordHasher

end MyChat.Auth
