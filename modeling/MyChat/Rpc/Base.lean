import Mathlib.Algebra.Ring.Nat
import Mathlib.Data.Int.Basic
import Mathlib.Data.List.TakeWhile

/-!
# What every RPC answers with

`ErrorCode` and `BaseResponse` of `common/proto/base.proto`. An RPC that goes through carries its
request to the service and the response back unchanged, so that calling it is applying the service's
function to the request.

Some messages carry a number as text, written by `std::to_string` and read by `std::stoull`;
`stoull_toString` says that it comes back.
-/

namespace MyChat.Rpc

/-- `im.base.ErrorCode`. -/
inductive ErrorCode where
  /-- `SUCCESS`. -/
  | success
  /-- `INVALID_REQUEST`. -/
  | invalidRequest
  /-- `AUTH_FAILED`. -/
  | authFailed
  /-- `NOT_FOUND`. -/
  | notFound
  /-- `PERMISSION_DENIED`. -/
  | permissionDenied
  /-- `ALREADY_EXISTS`. -/
  | alreadyExists
  /-- `PARAM_ERROR`. -/
  | paramError
  /-- `TIMEOUT`. -/
  | timeout
  /-- `SERVER_ERROR`. -/
  | serverError
  /-- `UNKNOWN_ERROR`. -/
  | unknownError
  deriving DecidableEq, Repr

/-- `im.base.BaseResponse`, without its `payload`, which no service sets. -/
structure BaseResponse where
  /-- `error_code`. -/
  errorCode : ErrorCode
  /-- `error_message`. -/
  errorMessage : String
  deriving DecidableEq, Repr

/-- `set_base` with `SUCCESS` and no message. -/
def BaseResponse.ok : BaseResponse := ⟨.success, ""⟩

/-! ## Numbers as text -/

/-- `std::isspace`. -/
def isSpace (c : Char) : Bool := c = ' ' ∨ 9 ≤ c.toNat ∧ c.toNat ≤ 13

/-- The sign that `strtoull` reads: whether the number is negated, and the rest. -/
def readSign : List Char → Bool × List Char
  | '-' :: rest => (true, rest)
  | '+' :: rest => (false, rest)
  | rest => (false, rest)

/-- `std::stoull` in base ten; `none` when it throws. A negated number wraps around. -/
def stoull (text : String) : Option ℕ :=
  let (negated, rest) := readSign (text.toList.dropWhile isSpace)
  let digits := rest.takeWhile Char.isDigit
  if digits = [] then none
  else
    let value := Nat.ofDigitChars 10 digits 0
    if value < 2 ^ 64 then some (if negated then (2 ^ 64 - value) % 2 ^ 64 else value) else none

/-- What it reads is a number of 64 bits. -/
theorem stoull_lt {text : String} {n : ℕ} (h : n ∈ stoull text) : n < 2 ^ 64 := by
  unfold stoull at h
  simp only [Option.mem_def] at h
  split_ifs at h
  · obtain rfl := Option.some.inj h
    omega
  · obtain rfl := Option.some.inj h
    assumption

/-- A digit is neither a space nor a sign. -/
theorem readSign_dropWhile {c : Char} {cs : List Char} (hc : c.isDigit = true) :
    readSign ((c :: cs).dropWhile isSpace) = (false, c :: cs) := by
  have hrange : 48 ≤ c.toNat ∧ c.toNat ≤ 57 := by
    simpa [Char.isDigit, Char.le_def, UInt32.le_iff_toNat_le] using hc
  have hspace : isSpace c = false := by
    have hne : c ≠ ' ' := by
      rintro rfl
      exact absurd hc (by decide)
    have hnot : ¬ (9 ≤ c.toNat ∧ c.toNat ≤ 13) := by omega
    simp [isSpace, hne, hnot]
  rw [List.dropWhile_cons_of_neg (by simp [hspace])]
  unfold readSign
  split
  · next heq => simp_all
  · next heq => simp_all
  · rfl

/-- A number that `to_string` wrote is read back when it fits 64 bits, and refused otherwise. -/
theorem stoull_toString_eq (n : ℕ) :
    stoull (toString n) = if n < 2 ^ 64 then some n else none := by
  have hdigit : ∀ c ∈ Nat.toDigits 10 n, c.isDigit = true := fun c hc =>
    Nat.isDigit_of_mem_toDigits (by decide) (by decide) hc
  have htake : (Nat.toDigits 10 n).takeWhile Char.isDigit = Nat.toDigits 10 n :=
    List.takeWhile_eq_self_iff.mpr hdigit
  have hsign : readSign ((Nat.toDigits 10 n).dropWhile isSpace) = (false, Nat.toDigits 10 n) := by
    rcases hdigits : Nat.toDigits 10 n with _ | ⟨c, cs⟩
    · exact absurd hdigits Nat.toDigits_ne_nil
    · exact readSign_dropWhile (hdigit c (by rw [hdigits]; exact List.mem_cons_self))
  unfold stoull
  rw [Nat.toString_eq_repr, Nat.toList_repr, hsign]
  simp only [htake, Nat.toDigits_ne_nil, if_false, Nat.ofDigitChars_ten_toDigits,
    Bool.false_eq_true]

theorem stoull_toString {n : ℕ} (hn : n < 2 ^ 64) : stoull (toString n) = some n := by
  rw [stoull_toString_eq, if_pos hn]

end MyChat.Rpc
