import Mathlib.Data.List.Forall2
import MyChat.Gateway.MessageProcessor

/-!
# The bytes of a header

What the protobuf library writes for an `IMHeader`, and for the messages that the examples need. A
field is a tag, which has its number, and a value; a field at its default is left out.

`protoFields_inj` says that fields are found again in their bytes, by the order of their tags, and
`headerBytes_injective` and `headerBytes_length` say so of a header.
-/

namespace MyChat.Gateway

open MyChat.Codec

/-! ## Fields -/

/-- A text field of a proto3 message; an empty one is left out. -/
def protoText (field : ℕ) (s : String) : Bytes :=
  if s = "" then []
  else UInt8.ofNat (8 * field + 2) :: (Varint.put32 (utf8 s).length ++ utf8 s)

/-- A number field of a proto3 message; zero is left out. -/
def protoNumber (field n : ℕ) : Bytes :=
  if n = 0 then [] else UInt8.ofNat (8 * field) :: Varint.put 9 n

/-- A field of a proto3 message that is a message. -/
def protoMessage (field : ℕ) (bytes : Bytes) : Bytes :=
  UInt8.ofNat (8 * field + 2) :: (Varint.put32 bytes.length ++ bytes)

/-- The value of a field of a proto3 message: a number or a text. -/
inductive ProtoValue where
  /-- A number. -/
  | number (n : ℕ)
  /-- A text. -/
  | text (s : String)

/-- The field, left out when it is at its default. -/
def protoField (field : ℕ) : ProtoValue → Bytes
  | .number n => protoNumber field n
  | .text s => protoText field s

/-- The value can be in a message: a number has 64 bits, and a text is not too long. -/
def ProtoValue.Fits : ProtoValue → Prop
  | .number n => n < 2 ^ 64
  | .text s => (utf8 s).length < 2 ^ 32

/-- The two values are of one kind. -/
def ProtoValue.SameKind : ProtoValue → ProtoValue → Prop
  | .number _, .number _ | .text _, .text _ => True
  | _, _ => False

/-- The fields of a message, numbered from `field` on. -/
def protoFields (field : ℕ) : List ProtoValue → Bytes
  | [] => []
  | value :: values => protoField field value ++ protoFields (field + 1) values

/-- The bytes are fields from this one on: the first tag is not that of an earlier field. -/
def TagFrom (field : ℕ) (bytes : Bytes) : Prop := ∀ tag ∈ bytes.head?, 8 * field ≤ tag.toNat

theorem TagFrom.ne_cons {field : ℕ} {bytes rest : Bytes} {tag : UInt8} (h : TagFrom field bytes)
    (htag : tag.toNat < 8 * field) : bytes ≠ tag :: rest := by
  rintro rfl
  have := h tag rfl
  omega

/-- A field has no bytes, or begins with its tag. -/
theorem protoField_cases {field : ℕ} (hfield : field < 16) (value : ProtoValue) :
    protoField field value = [] ∨ ∃ tag rest, protoField field value = tag :: rest ∧
      8 * field ≤ tag.toNat ∧ tag.toNat < 8 * (field + 1) := by
  rcases value with n | s
  · simp only [protoField, protoNumber]
    split_ifs
    · exact Or.inl rfl
    · exact Or.inr ⟨_, _, rfl, by rw [UInt8.toNat_ofNat']; omega, by rw [UInt8.toNat_ofNat']; omega⟩
  · simp only [protoField, protoText]
    split_ifs
    · exact Or.inl rfl
    · exact Or.inr ⟨_, _, rfl, by rw [UInt8.toNat_ofNat']; omega, by rw [UInt8.toNat_ofNat']; omega⟩

theorem tagFrom_protoFields (values : List ProtoValue) {field : ℕ}
    (hfields : field + values.length ≤ 16) : TagFrom field (protoFields field values) := by
  induction values generalizing field with
  | nil => exact fun tag htag => absurd htag (by simp [protoFields])
  | cons value values ih =>
    rw [List.length_cons] at hfields
    intro tag htag
    rw [protoFields] at htag
    -- The first tag is that of the first field, or, when this is left out, of a later one.
    rcases protoField_cases (show field < 16 by omega) value with
      hnone | ⟨first, rest, hsome, hfirst, -⟩
    · rw [hnone, List.nil_append] at htag
      have := ih (show field + 1 + values.length ≤ 16 by omega) tag htag
      omega
    · rw [hsome] at htag
      obtain rfl : first = tag := by simpa using htag
      exact hfirst

/-- What a field says is found again when the next field is a later one. -/
theorem protoField_append_inj {field : ℕ} (hfield : field < 16) {value value' : ProtoValue}
    {rest rest' : Bytes} (hkind : value.SameKind value') (hfits : value.Fits) (hfits' : value'.Fits)
    (hrest : TagFrom (field + 1) rest) (hrest' : TagFrom (field + 1) rest')
    (h : protoField field value ++ rest = protoField field value' ++ rest') :
    value = value' ∧ rest = rest' := by
  -- The tag of this field, of either kind, is below those of the next fields.
  have htag : ∀ low < 8, (UInt8.ofNat (8 * field + low)).toNat < 8 * (field + 1) := by
    intro low hlow
    rw [UInt8.toNat_ofNat']
    omega
  rcases value with n | s <;> rcases value' with n' | s'
  · -- Two numbers: either is left out when it is zero, and the rest then begins with a later tag.
    simp only [ProtoValue.Fits] at hfits hfits'
    simp only [protoField, protoNumber] at h
    split_ifs at h with hzero hzero'
    · exact ⟨by rw [hzero, hzero'], h⟩
    · exact absurd h (hrest.ne_cons (htag 0 (by omega)))
    · exact absurd h.symm (hrest'.ne_cons (htag 0 (by omega)))
    · obtain ⟨hn, htail⟩ := Varint.put_append_inj (by omega) (by omega) (List.cons.inj h).2
      exact ⟨by rw [hn], htail⟩
  · exact absurd hkind id
  · exact absurd hkind id
  · -- Two texts: after the tags, the lengths are the same, and so are the texts.
    simp only [ProtoValue.Fits] at hfits hfits'
    simp only [protoField, protoText] at h
    split_ifs at h with hempty hempty'
    · exact ⟨by rw [hempty, hempty'], h⟩
    · exact absurd h (hrest.ne_cons (htag 2 (by omega)))
    · exact absurd h.symm (hrest'.ne_cons (htag 2 (by omega)))
    · rw [List.cons_append, List.cons_append] at h
      have htail := (List.cons.inj h).2
      rw [List.append_assoc, List.append_assoc] at htail
      obtain ⟨hlength, htail⟩ := Varint.put_append_inj (by omega) (by omega) htail
      obtain ⟨htext, htail⟩ := List.append_inj htail hlength
      exact ⟨by rw [utf8_injective htext], htail⟩

/-- Two messages with fields of the same kinds and the same bytes are the same. -/
theorem protoFields_inj {values values' : List ProtoValue}
    (hkinds : List.Forall₂ ProtoValue.SameKind values values') {field : ℕ}
    (hfields : field + values.length ≤ 16) (hfits : ∀ value ∈ values, value.Fits)
    (hfits' : ∀ value ∈ values', value.Fits)
    (h : protoFields field values = protoFields field values') : values = values' := by
  induction hkinds generalizing field with
  | nil => rfl
  | @cons value value' values values' hkind hkinds ih =>
    rw [List.length_cons] at hfields
    have hlength : values.length = values'.length := hkinds.length_eq
    obtain ⟨hvalue, hrest⟩ := protoField_append_inj (show field < 16 by omega) hkind
      (hfits value List.mem_cons_self) (hfits' value' List.mem_cons_self)
      (tagFrom_protoFields values (by omega)) (tagFrom_protoFields values' (by omega)) h
    rw [hvalue, ih (by omega) (fun v hv => hfits v (List.mem_cons_of_mem _ hv))
      (fun v hv => hfits' v (List.mem_cons_of_mem _ hv)) hrest]

/-! ## Headers and bodies -/

/-- The bytes of a header. -/
def headerBytes (header : IMHeader) : Bytes :=
  protoText 1 header.version ++ protoNumber 2 header.seq.toNat ++
    protoNumber 3 header.cmdId.toNat ++ protoText 4 header.fromUid ++ protoText 5 header.toUid ++
    protoNumber 6 header.timestamp.toNat ++ protoText 7 header.token ++
    protoText 8 header.deviceId ++ protoText 9 header.platform

/-- The bytes of a body with these fields and no other. -/
def bodyBytes (body : MessageBody) : Bytes :=
  protoText 1 body.messageId ++ protoText 3 body.content ++ protoText 8 body.senderUid ++
    protoText 9 body.receiverUid ++ protoNumber 10 body.createTime.toNat

/-- The bytes of the texts of a header. -/
def IMHeader.textSize (header : IMHeader) : ℕ :=
  header.version.utf8ByteSize + header.fromUid.utf8ByteSize + header.toUid.utf8ByteSize +
    header.token.utf8ByteSize + header.deviceId.utf8ByteSize + header.platform.utf8ByteSize

/-- The fields of a header. -/
def IMHeader.fields (header : IMHeader) : List ProtoValue :=
  [.text header.version, .number header.seq.toNat, .number header.cmdId.toNat,
    .text header.fromUid, .text header.toUid, .number header.timestamp.toNat, .text header.token,
    .text header.deviceId, .text header.platform]

theorem headerBytes_eq (header : IMHeader) : headerBytes header = protoFields 1 header.fields := by
  simp only [headerBytes, IMHeader.fields, protoFields, protoField, List.append_assoc,
    List.append_nil]

/-- The texts of a header that has less than 2 GiB fit into it. -/
theorem fits_fields {header : IMHeader} (h : header.textSize < 2 ^ 31) :
    ∀ value ∈ header.fields, value.Fits := by
  have hseq := header.seq.toNat_lt
  have hcmdId := header.cmdId.toNat_lt
  have htimestamp := header.timestamp.toNat_lt
  unfold IMHeader.textSize at h
  simp only [IMHeader.fields, List.forall_mem_cons, ProtoValue.Fits, utf8_length]
  refine ⟨?_, ?_, ?_, ?_, ?_, ?_, ?_, ?_, ?_, fun v hv => absurd hv List.not_mem_nil⟩ <;> omega

/-- Two headers do not have the same bytes. -/
theorem headerBytes_injective {first second : IMHeader} (hfirst : first.textSize < 2 ^ 31)
    (hsecond : second.textSize < 2 ^ 31) (h : headerBytes first = headerBytes second) :
    first = second := by
  rw [headerBytes_eq, headerBytes_eq] at h
  have hkinds : List.Forall₂ ProtoValue.SameKind first.fields second.fields := by
    simp only [IMHeader.fields, List.forall₂_cons, ProtoValue.SameKind, List.Forall₂.nil, and_self]
  have hfields := protoFields_inj hkinds (by simp [IMHeader.fields]) (fits_fields hfirst)
    (fits_fields hsecond) h
  simp only [IMHeader.fields, List.cons.injEq, ProtoValue.text.injEq, ProtoValue.number.injEq,
    UInt32.toNat_inj, UInt64.toNat_inj, and_true] at hfields
  rcases first with ⟨⟩
  rcases second with ⟨⟩
  simp only [IMHeader.mk.injEq]
  exact hfields

/-- The bytes of a header are its texts and little more. -/
theorem headerBytes_length (header : IMHeader) :
    header.textSize ≤ (headerBytes header).length ∧
      (headerBytes header).length ≤ header.textSize + 100 := by
  -- A text takes a tag and at most five bytes for its length, a number a tag and at most ten bytes.
  have htext : ∀ field s, s.utf8ByteSize ≤ (protoText field s).length ∧
      (protoText field s).length ≤ s.utf8ByteSize + 6 := by
    intro field s
    have := Varint.put_length 4 (utf8 s).length
    unfold protoText Varint.put32
    split_ifs with hempty
    · rw [hempty]
      decide
    · simp only [List.length_cons, List.length_append, utf8_length] at this ⊢
      omega
  have hnumber : ∀ field n, (protoNumber field n).length ≤ 11 := by
    intro field n
    have := Varint.put_length 9 n
    unfold protoNumber
    split_ifs
    · simp
    · rw [List.length_cons]
      omega
  have hversion := htext 1 header.version
  have hfromUid := htext 4 header.fromUid
  have htoUid := htext 5 header.toUid
  have htoken := htext 7 header.token
  have hdeviceId := htext 8 header.deviceId
  have hplatform := htext 9 header.platform
  have hseq := hnumber 2 header.seq.toNat
  have hcmdId := hnumber 3 header.cmdId.toNat
  have htimestamp := hnumber 6 header.timestamp.toNat
  simp only [headerBytes, List.length_append, IMHeader.textSize]
  omega

end MyChat.Gateway
