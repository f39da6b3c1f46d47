import Mathlib.Data.List.TakeWhile
import Mathlib.Data.Nat.Digits.Lemmas
import Mathlib.Data.Vector.Basic

/-!
# Text of bytes

What a program in C does with text that it keeps as bytes: it takes fields from a stream up to a
delimiter (`getline`), reads numbers from fields (`strtol`), and writes numbers into them
(`numeral`, `padded`).

Each reader has a lemma that says exactly what it reads: `getline_eq_some`, `strtol_decimal`. A
stream that ends with a delimiter is read as one that does not, and a field need not be a numeral to
be read as a number.
-/

namespace MyChat.ByteText

/-! ## Fields -/

section Fields

variable {α : Type}

/-- An input stream: what has not been read, and whether a read has found the end (`eofbit`). -/
structure Stream (α : Type) where
  /-- What has not been read. -/
  rest : List α
  /-- A read has found the end. -/
  eof : Bool

/-- The next character, which is not taken; `none` at the end. -/
def Stream.peek (s : Stream α) : Option α := if s.eof then none else s.rest.head?

variable [DecidableEq α] {delim : α}

/-- The text before the next delimiter, which is taken from the stream and dropped; `none` when the
end was found before or nothing is left. The last field need not have a delimiter after it. -/
def getline (delim : α) (s : Stream α) : Option (List α × Stream α) :=
  if s.eof ∨ s.rest = [] then none
  else
    match s.rest.dropWhile (· ≠ delim) with
    | [] => some (s.rest, ⟨[], true⟩)
    | _ :: rest => some (s.rest.takeWhile (· ≠ delim), ⟨rest, false⟩)

theorem takeWhile_field {part : List α} (hpart : delim ∉ part) (rest : List α) :
    (part ++ delim :: rest).takeWhile (· ≠ delim) = part ∧
      (part ++ delim :: rest).dropWhile (· ≠ delim) = delim :: rest := by
  induction part with
  | nil => simp
  | cons c part ih =>
    have hc : c ≠ delim := fun h => hpart (h ▸ List.mem_cons_self)
    have hrest := ih fun h => hpart (List.mem_cons_of_mem _ h)
    rw [List.cons_append, List.takeWhile_cons_of_pos (by simpa using hc),
      List.dropWhile_cons_of_pos (by simpa using hc), hrest.1, hrest.2]
    exact ⟨rfl, rfl⟩

/-- A field is known from what it stands in. -/
theorem field_inj {part part' rest rest' : List α} (hpart : delim ∉ part) (hpart' : delim ∉ part')
    (h : part ++ delim :: rest = part' ++ delim :: rest') : part = part' ∧ rest = rest' := by
  obtain ⟨htake, hdrop⟩ := takeWhile_field hpart rest
  obtain ⟨htake', hdrop'⟩ := takeWhile_field hpart' rest'
  rw [h] at htake hdrop
  exact ⟨htake.symm.trans htake', (List.cons.inj (hdrop.symm.trans hdrop')).2⟩

theorem dropWhile_of_not_mem {part : List α} (hpart : delim ∉ part) :
    part.dropWhile (· ≠ delim) = [] := by
  rw [List.dropWhile_eq_nil_iff]
  intro c hc
  simpa using fun h : c = delim => hpart (h ▸ hc)

theorem not_mem_takeWhile (text : List α) : delim ∉ text.takeWhile (· ≠ delim) :=
  fun hmem => by simpa using List.mem_takeWhile_imp hmem

/-- The first delimiter of a text is where its first field ends. -/
theorem eq_field_of_dropWhile {text rest : List α} {c : α}
    (h : text.dropWhile (· ≠ delim) = c :: rest) :
    text = text.takeWhile (· ≠ delim) ++ delim :: rest := by
  have hhead := List.head?_dropWhile_not (· ≠ delim) text
  rw [h] at hhead
  have hc : c = delim := by simpa using hhead
  have hsplit := List.takeWhile_append_dropWhile (p := (· ≠ delim)) (l := text)
  rw [h, hc] at hsplit
  exact hsplit.symm

/-- A field is what stands before a delimiter, or the rest when there is no delimiter in it. -/
theorem getline_eq_some {s s' : Stream α} {part : List α} :
    getline delim s = some (part, s') ↔ s.eof = false ∧ delim ∉ part ∧
      (s.rest = part ++ delim :: s'.rest ∧ s'.eof = false ∨
        part ≠ [] ∧ s.rest = part ∧ s' = ⟨[], true⟩) := by
  obtain ⟨rest, eof⟩ := s
  dsimp only
  constructor
  · intro h
    unfold getline at h
    dsimp only at h
    split_ifs at h with hend
    obtain ⟨heof, hne⟩ := not_or.mp hend
    refine ⟨by simpa using heof, ?_⟩
    cases hdrop : rest.dropWhile (· ≠ delim) with
    | nil =>
      -- There is no delimiter, and the field ends with the text.
      rw [hdrop] at h
      obtain ⟨rfl, rfl⟩ := Prod.mk.inj (Option.some.inj h)
      refine ⟨fun hmem => ?_, .inr ⟨hne, rfl, rfl⟩⟩
      simpa using List.dropWhile_eq_nil_iff.mp hdrop delim hmem
    | cons c rest' =>
      rw [hdrop] at h
      obtain ⟨rfl, rfl⟩ := Prod.mk.inj (Option.some.inj h)
      exact ⟨not_mem_takeWhile rest, .inl ⟨eq_field_of_dropWhile hdrop, rfl⟩⟩
  · rintro ⟨rfl, hpart, ⟨rfl, heof⟩ | ⟨hne, rfl, rfl⟩⟩
    · obtain ⟨htake, hdrop⟩ := takeWhile_field hpart s'.rest
      unfold getline
      dsimp only
      rw [if_neg (by simp), hdrop]
      dsimp only
      rw [htake, ← heof]
    · unfold getline
      dsimp only
      rw [if_neg (by simpa using hne), dropWhile_of_not_mem hpart]

section

variable {s s' s'' : Stream α} {part part' : List α}

/-- A field that another one follows. -/
theorem getline_of_getline (h : getline delim s = some (part, s'))
    (h' : getline delim s' = some (part', s'')) : s.rest = part ++ delim :: s'.rest := by
  obtain ⟨heof, -, -⟩ := getline_eq_some.mp h'
  obtain ⟨-, -, ⟨hrest, -⟩ | ⟨-, -, rfl⟩⟩ := getline_eq_some.mp h
  · exact hrest
  · simp at heof

/-- The last field may have a delimiter after it. -/
theorem getline_of_peek (h : getline delim s = some (part, s')) (hpeek : s'.peek = none) :
    s.rest = part ++ [] ∨ s.rest = part ++ [delim] := by
  obtain ⟨-, -, ⟨hrest, heof⟩ | ⟨-, hrest, -⟩⟩ := getline_eq_some.mp h
  · rw [Stream.peek, heof, if_neg Bool.false_ne_true, List.head?_eq_none_iff] at hpeek
    rw [hpeek] at hrest
    exact .inr hrest
  · exact .inl (by rw [hrest, List.append_nil])

theorem getline_field (hpart : delim ∉ part) (rest : List α) :
    getline delim ⟨part ++ delim :: rest, false⟩ = some (part, ⟨rest, false⟩) :=
  getline_eq_some.mpr ⟨rfl, hpart, .inl ⟨rfl, rfl⟩⟩

/-- The last field is read to the end, with or without a delimiter after it. -/
theorem getline_last (hpart : delim ∉ part) (hne : part ≠ []) {tail : List α}
    (htail : tail = [] ∨ tail = [delim]) :
    ∃ s', getline delim ⟨part ++ tail, false⟩ = some (part, s') ∧ s'.peek = none := by
  rcases htail with rfl | rfl
  · rw [List.append_nil]
    exact ⟨⟨[], true⟩, getline_eq_some.mpr ⟨rfl, hpart, .inr ⟨hne, rfl, rfl⟩⟩, rfl⟩
  · exact ⟨⟨[], false⟩, getline_field hpart [], rfl⟩

end

end Fields

/-! ## Digits -/

/-- `isspace`. -/
def isSpace (c : UInt8) : Bool := c = 32 ∨ 9 ≤ c ∧ c ≤ 13

/-- The value of a digit in bases up to 36; 36 for any other character. -/
def digitValue (c : UInt8) : ℕ :=
  if 48 ≤ c ∧ c ≤ 57 then c.toNat - 48
  else if 97 ≤ c ∧ c ≤ 122 then c.toNat - 87
  else if 65 ≤ c ∧ c ≤ 90 then c.toNat - 55
  else 36

/-- The character is a digit in the base. -/
def isDigitOf (base : ℕ) (c : UInt8) : Bool := digitValue c < base

theorem isDigitOf_iff {base : ℕ} {c : UInt8} : isDigitOf base c ↔ digitValue c < base :=
  decide_eq_true_iff

/-- The digit with a value, below 36. -/
def digitByte (d : ℕ) : UInt8 := if d < 10 then UInt8.ofNat (48 + d) else UInt8.ofNat (87 + d)

/-- The number that digits denote. -/
def valueOf (base : ℕ) (digits : List UInt8) : ℕ :=
  Nat.ofDigits base (digits.reverse.map digitValue)

/-- The number in the base, without leading zeros. -/
def numeral (base n : ℕ) : List UInt8 :=
  if n = 0 then [digitByte 0] else (Nat.digits base n).reverse.map digitByte

/-- The number in the base, with leading zeros up to a width. -/
def padded (base width n : ℕ) : List UInt8 := List.leftpad width (digitByte 0) (numeral base n)

@[simp] theorem digitValue_digitByte {d : ℕ} (hd : d < 36) : digitValue (digitByte d) = d := by
  have hcases : ∀ d < 36, digitValue (digitByte d) = d := by decide
  exact hcases d hd

/-- Digits up to 36 are no spaces and no signs. -/
theorem digit_ne {base : ℕ} (hbase : base ≤ 36) {c : UInt8} (hc : isDigitOf base c) :
    isSpace c = false ∧ c ≠ 43 ∧ c ≠ 45 ∧ c ≠ 36 := by
  have hcases : ∀ n < 256, digitValue (UInt8.ofNat n) < 36 → isSpace (UInt8.ofNat n) = false ∧
      UInt8.ofNat n ≠ 43 ∧ UInt8.ofNat n ≠ 45 ∧ UInt8.ofNat n ≠ 36 := by decide +kernel
  have hvalue : digitValue c < 36 := lt_of_lt_of_le (isDigitOf_iff.mp hc) hbase
  have h := hcases c.toNat c.toNat_lt
  rw [UInt8.ofNat_toNat] at h
  exact h hvalue

theorem numeral_ne_nil (base n : ℕ) : numeral base n ≠ [] := by
  unfold numeral
  split_ifs with hn
  · simp
  · simpa using Nat.digits_ne_nil_iff_ne_zero.mpr hn

/-- A numeral consists of digits. -/
theorem isDigitOf_numeral {base : ℕ} (hlow : 1 < base) (hhigh : base ≤ 36) (n : ℕ) :
    ∀ c ∈ numeral base n, isDigitOf base c := by
  intro c hc
  obtain ⟨d, hd, rfl⟩ : ∃ d, d < base ∧ digitByte d = c := by
    unfold numeral at hc
    split_ifs at hc
    · exact ⟨0, by omega, (List.mem_singleton.mp hc).symm⟩
    · obtain ⟨d, hd, rfl⟩ := List.mem_map.mp hc
      exact ⟨d, Nat.digits_lt_base hlow (List.mem_reverse.mp hd), rfl⟩
  rw [isDigitOf_iff, digitValue_digitByte (by omega)]
  exact hd

/-- A numeral denotes its number. -/
theorem valueOf_numeral {base : ℕ} (hlow : 1 < base) (hhigh : base ≤ 36) (n : ℕ) :
    valueOf base (numeral base n) = n := by
  unfold valueOf numeral
  split_ifs with hn
  · simp [hn]
  · have hvalues : ((Nat.digits base n).map digitByte).map digitValue = Nat.digits base n := by
      rw [List.map_map]
      refine (List.map_congr_left fun d hd => ?_).trans (List.map_id _)
      have hlt := Nat.digits_lt_base hlow hd
      exact digitValue_digitByte (by omega)
    rw [← List.map_reverse, List.reverse_reverse, hvalues, Nat.ofDigits_digits]

theorem digitByte_digitValue {c : UInt8} (hc : isDigitOf 10 c) : digitByte (digitValue c) = c := by
  have hcases : ∀ n < 256, digitValue (UInt8.ofNat n) < 10 →
      digitByte (digitValue (UInt8.ofNat n)) = UInt8.ofNat n := by decide +kernel
  have h := hcases c.toNat c.toNat_lt
  rw [UInt8.ofNat_toNat] at h
  exact h (isDigitOf_iff.mp hc)

/-- Digits without leading zeros are the numeral of their number. -/
theorem numeral_valueOf {digits : List UInt8} (hdigits : ∀ c ∈ digits, isDigitOf 10 c)
    (hne : digits ≠ []) (hlead : digits.head? = some 0x30 → digits.length = 1) :
    numeral 10 (valueOf 10 digits) = digits := by
  have hvalues : (digits.reverse.map digitValue).map digitByte = digits.reverse := by
    rw [List.map_map]
    refine (List.map_congr_left fun c hc => ?_).trans (List.map_id _)
    exact digitByte_digitValue (hdigits c (List.mem_reverse.mp hc))
  obtain ⟨c, rest, rfl⟩ := List.exists_cons_of_ne_nil hne
  by_cases hc : digitValue c = 0
  · -- The only numeral that begins with a zero is that of zero.
    have hc' : c = 0x30 := by
      rw [← digitByte_digitValue (hdigits c List.mem_cons_self), hc]
      rfl
    subst hc'
    have hrest : rest = [] := by simpa using hlead rfl
    subst hrest
    rfl
  · have hlast : ∀ h : (rest.reverse.map digitValue ++ [digitValue c]) ≠ [],
        (rest.reverse.map digitValue ++ [digitValue c]).getLast h ≠ 0 := by
      intro h
      rwa [List.getLast_append_singleton]
    have hlt : ∀ d ∈ rest.reverse.map digitValue ++ [digitValue c], d < 10 := by
      intro d hd
      have hmem : d ∈ ((c :: rest).reverse.map digitValue) := by simpa using hd
      obtain ⟨b, hb, rfl⟩ := List.mem_map.mp hmem
      exact isDigitOf_iff.mp (hdigits b (List.mem_reverse.mp hb))
    have hsplit : (c :: rest).reverse.map digitValue = rest.reverse.map digitValue ++
        [digitValue c] := by simp
    have hdigits10 : Nat.digits 10 (valueOf 10 (c :: rest)) = (c :: rest).reverse.map digitValue := by
      rw [valueOf, hsplit]
      exact Nat.digits_ofDigits 10 (by norm_num) _ hlt hlast
    have hzero : valueOf 10 (c :: rest) ≠ 0 := by
      intro h
      rw [h, hsplit] at hdigits10
      exact absurd hdigits10 (by simp)
    rw [numeral, if_neg hzero, hdigits10, List.map_reverse, hvalues, List.reverse_reverse]

/-- Two digits are enough for a number below the square of the base. -/
theorem padded_two {base n : ℕ} (hbase : 1 < base) (hn : n < base * base) :
    padded base 2 n = [digitByte (n / base), digitByte (n % base)] := by
  unfold padded numeral
  by_cases hzero : n = 0
  · subst hzero
    simp [List.leftpad]
  by_cases hsmall : n < base
  · rw [if_neg hzero, Nat.digits_of_lt base n hzero hsmall, Nat.div_eq_of_lt hsmall,
      Nat.mod_eq_of_lt hsmall]
    rfl
  · have hdiv : n / base ≠ 0 := Nat.div_ne_zero_iff.mpr ⟨by omega, by omega⟩
    have hlt : n / base < base := Nat.div_lt_of_lt_mul hn
    rw [if_neg hzero, Nat.digits_def' hbase (Nat.pos_of_ne_zero hzero),
      Nat.digits_of_lt base _ hdiv hlt]
    rfl

/-! ## `strtol` -/

/-- The sign at the beginning: whether the number is negated, and the rest. -/
def readSign : List UInt8 → Bool × List UInt8
  | 45 :: rest => (true, rest)
  | 43 :: rest => (false, rest)
  | rest => (false, rest)

/-- In base 16, the text after `0x`, when a digit is there. -/
def skipPrefix (base : ℕ) : List UInt8 → List UInt8
  | 48 :: x :: c :: rest =>
    if base = 16 ∧ (x = 120 ∨ x = 88) ∧ isDigitOf 16 c then c :: rest else 48 :: x :: c :: rest
  | text => text

/-- The nearest `long`. -/
def toLong (n : ℤ) : ℤ := max (-2 ^ 63) (min n (2 ^ 63 - 1))

/-- `strtol`: the number that a text begins with, after white space and a sign, and what stands
after it. When there is no number, it is zero and all of the text. -/
def strtol (base : ℕ) (text : List UInt8) : ℤ × List UInt8 :=
  let (negated, rest) := readSign (text.dropWhile isSpace)
  let rest := skipPrefix base rest
  let digits := rest.takeWhile (isDigitOf base)
  if digits = [] then (0, text)
  else
    let value : ℤ := valueOf base digits
    (toLong (if negated then -value else value), rest.dropWhile (isDigitOf base))

/-- The text is white space, a sign or none, and digits that denote the number. -/
def SignedDigits (base : ℕ) (text : List UInt8) (n : ℤ) : Prop :=
  ∃ spaces sign digits, text = spaces ++ sign ++ digits ∧ (∀ c ∈ spaces, isSpace c) ∧
    (∀ c ∈ digits, isDigitOf base c) ∧ digits ≠ [] ∧
    (sign = [45] ∧ n = -valueOf base digits ∨ (sign = [43] ∨ sign = []) ∧ n = valueOf base digits)

theorem skipPrefix_of_ne {base : ℕ} (hbase : base ≠ 16) (text : List UInt8) :
    skipPrefix base text = text := by
  unfold skipPrefix
  split
  · rw [if_neg fun h => hbase h.1]
  · rfl

/-- What `readSign` reads. -/
theorem readSign_eq {text rest : List UInt8} {negated : Bool} :
    readSign text = (negated, rest) →
      ∃ sign, text = sign ++ rest ∧ (sign = [45] ∧ negated = true ∨
        (sign = [43] ∨ sign = []) ∧ negated = false) := by
  intro h
  unfold readSign at h
  split at h
  · obtain ⟨rfl, rfl⟩ := Prod.mk.inj h
    exact ⟨[45], rfl, .inl ⟨rfl, rfl⟩⟩
  · obtain ⟨rfl, rfl⟩ := Prod.mk.inj h
    exact ⟨[43], rfl, .inr ⟨.inl rfl, rfl⟩⟩
  · obtain ⟨rfl, rfl⟩ := Prod.mk.inj h
    exact ⟨[], rfl, .inr ⟨.inr rfl, rfl⟩⟩

section Strtol

variable {base : ℕ} {text : List UInt8} {n : ℤ}

/-- A number is read to the end when nothing but digits follows its sign. -/
theorem SignedDigits.strtol_eq (hsixteen : base ≠ 16) (hbase : base ≤ 36)
    (h : SignedDigits base text n) : strtol base text = (toLong n, []) := by
  obtain ⟨spaces, sign, digits, rfl, hspaces, hdigits, hne, hsign⟩ := h
  obtain ⟨d, rest, rfl⟩ := List.exists_cons_of_ne_nil hne
  obtain ⟨hd, hplus, hminus, -⟩ := digit_ne hbase (hdigits d List.mem_cons_self)
  -- The first character after the white space is the sign or the first digit.
  have hdrop : (spaces ++ sign ++ d :: rest).dropWhile isSpace = sign ++ d :: rest := by
    rw [List.append_assoc, List.dropWhile_append_of_pos hspaces]
    rcases hsign with ⟨rfl, -⟩ | ⟨rfl | rfl, -⟩
    · exact List.dropWhile_cons_of_neg (by decide)
    · exact List.dropWhile_cons_of_neg (by decide)
    · exact List.dropWhile_cons_of_neg (by simp [hd])
  have htake : (d :: rest).takeWhile (isDigitOf base) = d :: rest :=
    List.takeWhile_eq_self_iff.mpr hdigits
  have hend : (d :: rest).dropWhile (isDigitOf base) = [] := List.dropWhile_eq_nil_iff.mpr hdigits
  have hread : ∃ negated, readSign (sign ++ d :: rest) = (negated, d :: rest) ∧
      n = if negated then -(valueOf base (d :: rest) : ℤ) else valueOf base (d :: rest) := by
    rcases hsign with ⟨rfl, rfl⟩ | ⟨rfl | rfl, rfl⟩
    · exact ⟨true, rfl, rfl⟩
    · exact ⟨false, rfl, rfl⟩
    · refine ⟨false, ?_, rfl⟩
      rw [List.nil_append, readSign]
      · exact fun _ h => hminus (List.cons.inj h).1
      · exact fun _ h => hplus (List.cons.inj h).1
  obtain ⟨negated, hread, rfl⟩ := hread
  unfold strtol
  rw [hdrop, hread]
  dsimp only
  rw [skipPrefix_of_ne hsixteen, htake, if_neg hne, hend]

/-- A text is read as a number to its end when it is empty, which is read as zero, or white space, a
sign or none, and digits. -/
theorem strtol_eq_nil_iff (hsixteen : base ≠ 16) (hbase : base ≤ 36) :
    strtol base text = (n, []) ↔
      text = [] ∧ n = 0 ∨ ∃ value, SignedDigits base text value ∧ n = toLong value := by
  constructor
  · intro h
    unfold strtol at h
    obtain ⟨negated, rest, hsign⟩ : ∃ negated rest,
        readSign (text.dropWhile isSpace) = (negated, rest) := ⟨_, _, rfl⟩
    rw [hsign] at h
    dsimp only at h
    rw [skipPrefix_of_ne hsixteen] at h
    -- Without a digit the whole text is left, so that it was empty.
    by_cases hdigits : rest.takeWhile (isDigitOf base) = []
    · rw [if_pos hdigits] at h
      obtain ⟨hn, htext⟩ := Prod.mk.inj h
      exact .inl ⟨htext, hn.symm⟩
    rw [if_neg hdigits] at h
    obtain ⟨hn, hend⟩ := Prod.mk.inj h
    obtain ⟨sign, hdrop, hnegated⟩ := readSign_eq hsign
    -- Nothing is left after the digits, so that there are only digits after the sign.
    have hall : ∀ c ∈ rest, isDigitOf base c := List.dropWhile_eq_nil_iff.mp hend
    rw [List.takeWhile_eq_self_iff.mpr hall] at hn hdigits
    refine .inr ⟨_, ⟨text.takeWhile isSpace, sign, rest, ?_, fun c hc => List.mem_takeWhile_imp hc,
      hall, hdigits, ?_⟩, hn.symm⟩
    · rw [List.append_assoc, ← hdrop, List.takeWhile_append_dropWhile]
    · rcases hnegated with ⟨hminus, rfl⟩ | ⟨hother, rfl⟩
      · exact .inl ⟨hminus, rfl⟩
      · exact .inr ⟨hother, rfl⟩
  · rintro (⟨rfl, rfl⟩ | ⟨value, hvalue, rfl⟩)
    · rfl
    · exact hvalue.strtol_eq hsixteen hbase

/-- Two digits of base 16 are a byte. -/
theorem strtol_two {hi lo : UInt8} (hhi : isDigitOf 16 hi) (hlo : isDigitOf 16 lo) :
    strtol 16 [hi, lo] = (16 * (digitValue hi : ℤ) + digitValue lo, []) := by
  obtain ⟨hspace, hplus, hminus, -⟩ := digit_ne (by norm_num) hhi
  have hdrop : [hi, lo].dropWhile isSpace = [hi, lo] :=
    List.dropWhile_cons_of_neg (by simp [hspace])
  have hsign : readSign [hi, lo] = (false, [hi, lo]) := by
    rw [readSign]
    · exact fun _ h => hminus (List.cons.inj h).1
    · exact fun _ h => hplus (List.cons.inj h).1
  have hskip : skipPrefix 16 [hi, lo] = [hi, lo] := by
    rw [skipPrefix]
    exact fun _ _ _ h => by simp at h
  have hall : ∀ c ∈ [hi, lo], isDigitOf 16 c := by simp [hhi, hlo]
  have hvalue : (valueOf 16 [hi, lo] : ℤ) = 16 * digitValue hi + digitValue lo := by
    simp [valueOf, Nat.ofDigits_cons, add_comm]
  have hhi16 := isDigitOf_iff.mp hhi
  have hlo16 := isDigitOf_iff.mp hlo
  unfold strtol
  rw [hdrop, hsign]
  dsimp only
  rw [hskip, List.takeWhile_eq_self_iff.mpr hall, if_neg (by simp),
    List.dropWhile_eq_nil_iff.mpr hall, hvalue, toLong, if_neg Bool.false_ne_true]
  congr 1
  omega

end Strtol

end MyChat.ByteText
