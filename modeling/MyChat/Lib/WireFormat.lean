import Mathlib.Data.List.Forall2
import MyChat.Lib.Varint

/-!
# The protobuf wire format

A message is a list of records, each of them a tag and a value. A tag is a varint that holds the
number of a field and the type of the value on the wire; a value is a varint, a string of bytes
after its length, or a word of eight or four bytes. `getRecords_put` is the round trip of a list of
records.

A schema gives each field of a message its name, its number, and its kind. `FieldDecl.read` is what
a field is in the records of a message: the last of the numbers or texts, the default when there is
none, and for a field that is a message all of its parts, one after another. Records with another
number or another type on the wire are not read.
-/

namespace MyChat.Wire

/-! ## Records -/

/-- The value of a record. -/
inductive Value where
  /-- A varint of 64 bits. -/
  | number (n : ℕ)
  /-- Bytes after their length. -/
  | bytes (bs : List UInt8)
  /-- A word of eight or four bytes. -/
  | fixed (bs : List UInt8)
  deriving DecidableEq, Repr

/-- A record: the number of a field and a value. -/
structure Record where
  /-- The number of the field. -/
  number : ℕ
  /-- The value. -/
  value : Value
  deriving DecidableEq, Repr

/-- The type of a value on the wire. -/
def Value.wireType : Value → ℕ
  | .number _ => 0
  | .bytes _ => 2
  | .fixed bs => if bs.length = 8 then 1 else 5

/-- The length of a string of bytes, which takes as many bytes as it needs. -/
def putLength (n : ℕ) : List UInt8 := Varint.put n n

/-- The length at the head of the list and the number of bytes it takes. -/
def getLength (bs : List UInt8) : Option (ℕ × ℕ) := Varint.get bs.length bs

/-- The bytes of a value. -/
def Value.put : Value → List UInt8
  | .number n => Varint.put 9 n
  | .bytes bs => putLength bs.length ++ bs
  | .fixed bs => bs

/-- The tag of a record. -/
def Record.tag (r : Record) : ℕ := 8 * r.number + r.value.wireType

/-- The bytes of a record. -/
def Record.put (r : Record) : List UInt8 := Varint.put32 r.tag ++ r.value.put

/-- The first `n` bytes of the list, and the rest. -/
def takeExactly (n : ℕ) (bs : List UInt8) : Option (List UInt8 × List UInt8) :=
  if n ≤ bs.length then some (bs.take n, bs.drop n) else none

/-- The value of this type at the head of the list, and the rest. -/
def getValue (wireType : ℕ) (bs : List UInt8) : Option (Value × List UInt8) :=
  match wireType with
  | 0 => (Varint.get 9 bs).map fun (n, k) => (.number (n % 2 ^ 64), bs.drop k)
  | 1 => (takeExactly 8 bs).map fun (word, rest) => (.fixed word, rest)
  | 2 => (getLength bs).bind fun (n, k) =>
    (takeExactly n (bs.drop k)).map fun (part, rest) => (.bytes part, rest)
  | 5 => (takeExactly 4 bs).map fun (word, rest) => (.fixed word, rest)
  | _ => none

/-- The record at the head of the list, and the rest. -/
def getRecord (bs : List UInt8) : Option (Record × List UInt8) :=
  (Varint.get 9 bs).bind fun (tag, k) =>
    if tag / 8 = 0 then none
    else (getValue (tag % 8) (bs.drop k)).map fun (value, rest) => (⟨tag / 8, value⟩, rest)

theorem takeExactly_eq_some {n : ℕ} {bs part rest : List UInt8}
    (h : takeExactly n bs = some (part, rest)) : rest.length + n = bs.length := by
  unfold takeExactly at h
  split_ifs at h with hle
  obtain ⟨-, rfl⟩ := Prod.mk.inj (Option.some.inj h)
  rw [List.length_drop]
  omega

/-- A value takes a byte or more. -/
theorem getValue_length {wireType : ℕ} {bs rest : List UInt8} {value : Value}
    (h : getValue wireType bs = some (value, rest)) : rest.length < bs.length := by
  unfold getValue at h
  split at h
  · obtain ⟨⟨n, k⟩, hget, heq⟩ := Option.map_eq_some_iff.mp h
    obtain ⟨-, rfl⟩ := Prod.mk.inj heq
    have := Varint.get_length hget
    rw [List.length_drop]
    omega
  · obtain ⟨⟨word, rest'⟩, htake, heq⟩ := Option.map_eq_some_iff.mp h
    obtain ⟨-, rfl⟩ := Prod.mk.inj heq
    have := takeExactly_eq_some htake
    omega
  · obtain ⟨⟨n, k⟩, hget, h⟩ := Option.bind_eq_some_iff.mp h
    obtain ⟨⟨part, rest'⟩, htake, heq⟩ := Option.map_eq_some_iff.mp h
    obtain ⟨-, rfl⟩ := Prod.mk.inj heq
    have hlen := Varint.get_length hget
    have htaken := takeExactly_eq_some htake
    rw [List.length_drop] at htaken
    omega
  · obtain ⟨⟨word, rest'⟩, htake, heq⟩ := Option.map_eq_some_iff.mp h
    obtain ⟨-, rfl⟩ := Prod.mk.inj heq
    have := takeExactly_eq_some htake
    omega
  · simp at h

/-- A record takes a byte or more. -/
theorem getRecord_length {bs rest : List UInt8} {r : Record} (h : getRecord bs = some (r, rest)) :
    rest.length < bs.length := by
  obtain ⟨⟨tag, k⟩, hget, h⟩ := Option.bind_eq_some_iff.mp h
  dsimp only at h
  split_ifs at h
  obtain ⟨⟨value, rest'⟩, hvalue, heq⟩ := Option.map_eq_some_iff.mp h
  obtain ⟨-, rfl⟩ := Prod.mk.inj heq
  have hlen := getValue_length hvalue
  rw [List.length_drop] at hlen
  dsimp only at hlen ⊢
  omega

/-- The records of a message; `none` when it is malformed. -/
def getRecords (bs : List UInt8) : Option (List Record) :=
  if bs = [] then some []
  else
    match _h : getRecord bs with
    | none => none
    | some (r, rest) => (getRecords rest).map (r :: ·)
termination_by bs.length
decreasing_by exact getRecord_length _h

/-! ## The round trip -/

/-- The record can be on the wire. -/
structure Record.Valid (r : Record) : Prop where
  /-- Numbers of fields start with one. -/
  pos : 0 < r.number
  /-- A tag has 32 bits. -/
  lt : r.number < 2 ^ 29
  /-- A number has 64 bits, and a word eight or four bytes. -/
  value : match r.value with
    | .number n => n < 2 ^ 64
    | .bytes _ => True
    | .fixed bs => bs.length = 8 ∨ bs.length = 4

/-- A length that was written is read when there are as many bytes after it. -/
theorem getLength_putLength {n : ℕ} {rest : List UInt8} (h : n ≤ rest.length) :
    getLength (putLength n ++ rest) = some (n, (putLength n).length) := by
  have hdigits : n < 128 ^ (n + 1) :=
    lt_trans (Nat.lt_succ_self n) (Nat.lt_pow_self (by norm_num))
  exact Varint.get_put n _ n rest (by rw [List.length_append]; omega) hdigits

theorem takeExactly_append (part rest : List UInt8) :
    takeExactly part.length (part ++ rest) = some (part, rest) := by
  rw [takeExactly, if_pos (by rw [List.length_append]; omega), List.take_left, List.drop_left]

/-- A value that was written is read. -/
theorem getValue_put {r : Record} (hr : r.Valid) (rest : List UInt8) :
    getValue r.value.wireType (r.value.put ++ rest) = some (r.value, rest) := by
  have hvalue := hr.value
  rcases hv : r.value with n | bs | bs
  · rw [hv] at hvalue
    have hlt : n < 2 ^ 64 := hvalue
    have hget := Varint.get_put 9 9 n rest le_rfl (lt_trans hlt (by norm_num))
    simp only [Value.wireType, Value.put, getValue, hget, Option.map_some, List.drop_left,
      Nat.mod_eq_of_lt hlt]
  · have hget := getLength_putLength (show bs.length ≤ (bs ++ rest).length by
      rw [List.length_append]; omega)
    simp only [Value.wireType, Value.put, getValue, List.append_assoc, hget, Option.bind_some,
      List.drop_left, takeExactly_append, Option.map_some]
  · rw [hv] at hvalue
    rcases hvalue with h8 | h4
    · have htake := takeExactly_append bs rest
      rw [h8] at htake
      simp only [Value.wireType, h8, if_true, Value.put, getValue, htake, Option.map_some]
    · have htake := takeExactly_append bs rest
      rw [h4] at htake
      simp [Value.wireType, h4, Value.put, getValue, htake]

/-- A record that was written is read. -/
theorem getRecord_put {r : Record} (hr : r.Valid) (rest : List UInt8) :
    getRecord (r.put ++ rest) = some (r, rest) := by
  have htype : r.value.wireType < 8 := by
    unfold Value.wireType
    split
    · omega
    · omega
    · split_ifs <;> omega
  have hpos := hr.pos
  have hlt := hr.lt
  have htag := Varint.get_put32 r.tag (r.value.put ++ rest) (by unfold Record.tag; omega)
  have hdiv : r.tag / 8 = r.number := by unfold Record.tag; omega
  have hmod : r.tag % 8 = r.value.wireType := by unfold Record.tag; omega
  rw [getRecord, Record.put, List.append_assoc, htag, Option.bind_some]
  dsimp only
  rw [List.drop_left, hdiv, hmod, if_neg (by omega), getValue_put hr, Option.map_some]

/-- Records that were written one after another are read. -/
theorem getRecords_put {rs : List Record} (h : ∀ r ∈ rs, r.Valid) :
    getRecords (rs.flatMap Record.put) = some rs := by
  induction rs with
  | nil => rw [List.flatMap_nil, getRecords, if_pos rfl]
  | cons r rs ih =>
    obtain ⟨hr, hrs⟩ := List.forall_mem_cons.mp h
    have hne : r.put ++ rs.flatMap Record.put ≠ [] := by
      intro hnil
      have hlen := (Varint.put_length 4 r.tag).1
      have hzero := congrArg List.length hnil
      simp only [Record.put, Varint.put32, List.length_append, List.length_nil] at hzero
      omega
    rw [List.flatMap_cons, getRecords, if_neg hne]
    split
    · next hget => simp [getRecord_put hr] at hget
    · next r' rest hget =>
      rw [getRecord_put hr, Option.some.injEq, Prod.mk.injEq] at hget
      obtain ⟨rfl, rfl⟩ := hget
      rw [ih hrs, Option.map_some]

/-! ## Schemas -/

/-- The kind of a field. -/
inductive Kind where
  /-- `string`. -/
  | string
  /-- `uint32`. -/
  | uint32
  /-- `uint64`. -/
  | uint64
  /-- `int64`. -/
  | int64
  /-- `bool`. -/
  | bool
  /-- An enumeration, whose values are those of an `int32`. -/
  | enum
  /-- A message. -/
  | message
  deriving DecidableEq, Repr

/-- A field of a schema. -/
structure FieldDecl where
  /-- The name of the field. -/
  name : String
  /-- Its number. -/
  number : ℕ
  /-- Its kind. -/
  kind : Kind
  deriving DecidableEq, Repr

/-- What a field of a message is. -/
inductive Datum where
  /-- A text. -/
  | text (s : String)
  /-- A number. -/
  | int (n : ℤ)
  /-- A truth value. -/
  | flag (b : Bool)
  /-- The bytes of a message, if there is one. -/
  | message (bs : Option (List UInt8))
  deriving DecidableEq, Repr

/-- The values of the records with this number. -/
def valuesOf (number : ℕ) (rs : List Record) : List Value :=
  rs.filterMap fun r => if r.number = number then some r.value else none

/-- The number that a value is. -/
def Value.number? : Value → Option ℕ
  | .number n => some n
  | _ => none

/-- The bytes that a value is. -/
def Value.bytes? : Value → Option (List UInt8)
  | .bytes bs => some bs
  | _ => none

/-- The text with these bytes in UTF-8. -/
def decodeUtf8 (bs : List UInt8) : Option String := String.fromUTF8? ⟨bs.toArray⟩

/-- What a number on the wire is in a field that is one. -/
def Kind.ofNumber : Kind → ℕ → Datum
  | .uint32, n => .int (n % 2 ^ 32 : ℕ)
  | .enum, n => .int (BitVec.ofNat 32 n).toInt
  | .int64, n => .int (BitVec.ofNat 64 n).toInt
  | .bool, n => .flag (n ≠ 0)
  | _, n => .int n

/-- What a field is in the records of a message; `none` when it is a text that is no UTF-8. -/
def FieldDecl.read (f : FieldDecl) (rs : List Record) : Option Datum :=
  match f.kind with
  | .string =>
    match ((valuesOf f.number rs).filterMap Value.bytes?).getLast? with
    | none => some (.text "")
    | some bs => (decodeUtf8 bs).map .text
  | .message =>
    match (valuesOf f.number rs).filterMap Value.bytes? with
    | [] => some (.message none)
    | parts => some (.message parts.flatten)
  | kind => some (kind.ofNumber (((valuesOf f.number rs).filterMap Value.number?).getLast?.getD 0))

/-- The fields of a message, in the order of the schema. -/
def readMessage (schema : List FieldDecl) (bs : List UInt8) : Option (List (String × Datum)) := do
  let rs ← getRecords bs
  schema.mapM fun f => (f.read rs).map fun datum => (f.name, datum)

/-- The record of a field that is there, if it is. -/
def recordOf (number : ℕ) (value : Option Value) : List Record :=
  (value.map (Record.mk number)).toList

@[simp] theorem valuesOf_append (number : ℕ) (rs rs' : List Record) :
    valuesOf number (rs ++ rs') = valuesOf number rs ++ valuesOf number rs' := List.filterMap_append

@[simp] theorem valuesOf_recordOf (number number' : ℕ) (value : Option Value) :
    valuesOf number (recordOf number' value) = if number' = number then value.toList else [] := by
  cases value with
  | none => simp [valuesOf, recordOf]
  | some v =>
    by_cases h : number' = number
    · simp [valuesOf, recordOf, h]
    · simp [valuesOf, recordOf, h]

theorem flatMap_put_recordOf (number : ℕ) (value : Option Value) :
    (recordOf number value).flatMap Record.put =
      match value with
      | none => []
      | some v => (Record.mk number v).put := by
  cases value <;> simp [recordOf]

/-- A record that may be there is valid when it is. -/
theorem forall_mem_recordOf {P : Record → Prop} {number : ℕ} {value : Option Value} :
    (∀ r ∈ recordOf number value, P r) ↔ ∀ v ∈ value, P ⟨number, v⟩ := by
  cases value <;> simp [recordOf]

/-- The bytes of a string in UTF-8. -/
def textValue (s : String) : Value := .bytes s.toUTF8.data.toList

theorem decodeUtf8_toUTF8 (s : String) : decodeUtf8 s.toUTF8.data.toList = some s := by
  simp [decodeUtf8, String.fromUTF8?, s.isValidUTF8, String.fromUTF8]

section Read

variable {f : FieldDecl} {rs : List Record}

/-- A text field with one record or none. -/
theorem FieldDecl.read_text {o : Option String} (hkind : f.kind = .string)
    (h : valuesOf f.number rs = (o.map textValue).toList) :
    f.read rs = some (.text (o.getD "")) := by
  rw [FieldDecl.read, hkind, h]
  cases o with
  | none => rfl
  | some s =>
    show (decodeUtf8 s.toUTF8.data.toList).map Datum.text = _
    rw [decodeUtf8_toUTF8]
    rfl

/-- A number field with one record or none. -/
theorem FieldDecl.read_number {o : Option ℕ} (hstring : f.kind ≠ .string)
    (hmessage : f.kind ≠ .message) (h : valuesOf f.number rs = (o.map Value.number).toList) :
    f.read rs = some (f.kind.ofNumber (o.getD 0)) := by
  have hlast : (((valuesOf f.number rs).filterMap Value.number?).getLast?.getD 0) = o.getD 0 := by
    rw [h]
    cases o with
    | none => rfl
    | some n => rfl
  rw [FieldDecl.read, hlast]
  rcases hk : f.kind <;> simp_all

/-- A message field with one record. -/
theorem FieldDecl.read_message {bs : List UInt8} (hkind : f.kind = .message)
    (h : valuesOf f.number rs = [.bytes bs]) : f.read rs = some (.message (some bs)) := by
  rw [FieldDecl.read, hkind, h]
  simp [Value.bytes?]

end Read

/-- The field is this in the records, under its name. -/
def FieldDecl.ReadsAs (f : FieldDecl) (rs : List Record) (datum : String × Datum) : Prop :=
  f.name = datum.1 ∧ f.read rs = some datum.2

/-- The fields of a message whose records were written, from what each of them is in the records. -/
theorem readMessage_put {schema : List FieldDecl} {rs : List Record} {data : List (String × Datum)}
    (hrs : ∀ r ∈ rs, r.Valid) (h : List.Forall₂ (fun f d => f.ReadsAs rs d) schema data) :
    readMessage schema (rs.flatMap Record.put) = some data := by
  have hfields : (schema.mapM fun f => (f.read rs).map fun datum => (f.name, datum)) =
      some data := by
    induction h with
    | nil => rfl
    | @cons f d schema data hf _ ih =>
      rw [List.mapM_cons, hf.2, hf.1, ih]
      rfl
  rw [readMessage, getRecords_put hrs]
  exact hfields

/-- The varint of a signed number, which is its two's complement in 64 bits. -/
def ofSigned (n : ℤ) : ℕ := (n % 2 ^ 64).toNat

theorem ofSigned_lt (n : ℤ) : ofSigned n < 2 ^ 64 := by
  unfold ofSigned
  omega

/-- The 32-bit words of a number and of its two's complement in 64 bits are the same. -/
theorem toInt_ofSigned_32 {n : ℤ} (hlow : -2 ^ 31 ≤ n) (hhigh : n < 2 ^ 31) :
    (BitVec.ofNat 32 (ofSigned n)).toInt = n := by
  have hword : BitVec.ofNat 32 (ofSigned n) = BitVec.ofInt 32 n := by
    apply BitVec.eq_of_toNat_eq
    rw [BitVec.toNat_ofNat, BitVec.toNat_ofInt, ofSigned]
    omega
  rw [hword, BitVec.toInt_ofInt]
  exact Int.bmod_eq_of_le (by omega) (by omega)

theorem toInt_ofSigned_64 {n : ℤ} (hlow : -2 ^ 63 ≤ n) (hhigh : n < 2 ^ 63) :
    (BitVec.ofNat 64 (ofSigned n)).toInt = n := by
  have hword : BitVec.ofNat 64 (ofSigned n) = BitVec.ofInt 64 n := by
    apply BitVec.eq_of_toNat_eq
    rw [BitVec.toNat_ofNat, BitVec.toNat_ofInt, ofSigned]
    omega
  rw [hword, BitVec.toInt_ofInt]
  exact Int.bmod_eq_of_le (by omega) (by omega)

end MyChat.Wire
