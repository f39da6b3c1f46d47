import Mathlib.Data.List.Basic
import Mathlib.Tactic.ByContra

/-!
# JSON texts

A recursive descent parser of JSON texts as the standard's grammar has them: white space between
tokens, the three literals, numbers (kept as their text), strings with their escapes, arrays and
objects. A string may hold every character but the quotation mark, the backslash and the control
characters below U+0020, which must be escaped (`readChar`).

A writer puts some text for each character and each member. What a reader makes of one such text,
wherever it stands, is an `Option`: its value, or a refusal. `Reads e o` says so of a character, and
then the whole is what the parts make of it, refusals included (`readString_flatMap`,
`items_intercalate`, `parse_object`).
-/

namespace MyChat.JsonText

/-- A JSON value. The members of an object are in the order of the text. -/
inductive Value where
  /-- `null`. -/
  | null
  /-- `true` or `false`. -/
  | boolean (b : Bool)
  /-- A number, as its text. -/
  | number (literal : String)
  /-- A string. -/
  | text (s : String)
  /-- An array. -/
  | array (elements : List Value)
  /-- An object. -/
  | object (members : List (String × Value))

/-- The text without the white space at its start. -/
def skipWs (l : List Char) : List Char :=
  l.dropWhile fun c => c = ' ' ∨ c = '\t' ∨ c = '\n' ∨ c = '\r'

/-! ## Strings -/

/-- The value of a hexadecimal digit. -/
def hexDigit (c : Char) : Option ℕ :=
  if '0' ≤ c ∧ c ≤ '9' then some (c.toNat - 48)
  else if 'a' ≤ c ∧ c ≤ 'f' then some (c.toNat - 87)
  else if 'A' ≤ c ∧ c ≤ 'F' then some (c.toNat - 55)
  else none

/-- Four hexadecimal digits. -/
def hex4 : List Char → Option (ℕ × List Char)
  | a :: b :: c :: d :: rest => do
    let a ← hexDigit a
    let b ← hexDigit b
    let c ← hexDigit c
    let d ← hexDigit d
    some (4096 * a + 256 * b + 16 * c + d, rest)
  | _ => none

/-- What follows `\u`: a character of the basic plane, or a pair of surrogates; a surrogate without
its partner is refused. -/
def readUnicode (l : List Char) : Option (Char × List Char) := do
  let (high, rest) ← hex4 l
  if 0xD800 ≤ high ∧ high < 0xDC00 then
    match rest with
    | '\\' :: 'u' :: rest => do
      let (low, rest) ← hex4 rest
      if 0xDC00 ≤ low ∧ low < 0xE000 then
        some (Char.ofNat (0x10000 + 1024 * (high - 0xD800) + (low - 0xDC00)), rest)
      else none
    | _ => none
  else if 0xDC00 ≤ high ∧ high < 0xE000 then none
  else some (Char.ofNat high, rest)

/-- What follows a backslash. -/
def readEscape : List Char → Option (Char × List Char)
  | '"' :: rest => some ('"', rest)
  | '\\' :: rest => some ('\\', rest)
  | '/' :: rest => some ('/', rest)
  | 'b' :: rest => some ('\x08', rest)
  | 'f' :: rest => some ('\x0c', rest)
  | 'n' :: rest => some ('\n', rest)
  | 'r' :: rest => some ('\r', rest)
  | 't' :: rest => some ('\t', rest)
  | 'u' :: rest => readUnicode rest
  | _ => none

/-- One character of a string, plain or escaped. -/
def readChar : List Char → Option (Char × List Char)
  | [] => none
  | c :: rest =>
    if c = '\\' then readEscape rest
    else if c.toNat < 0x20 then none
    else some (c, rest)

/-- A string after its opening quotation mark, of fewer than `fuel` characters. -/
def stringBody : ℕ → List Char → Option (List Char × List Char)
  | 0, _ => none
  | fuel + 1, l =>
    if l.head? = some '"' then some ([], l.tail)
    else do
      let (c, rest) ← readChar l
      let (s, rest) ← stringBody fuel rest
      some (c :: s, rest)

/-- A string with its quotation marks. -/
def readString (l : List Char) : Option (String × List Char) :=
  match l with
  | '"' :: rest => do
    let (s, rest) ← stringBody (rest.length + 1) rest
    some (String.ofList s, rest)
  | _ => none

/-! ## Numbers -/

/-- At least one digit. -/
def readDigits (l : List Char) : Option (List Char × List Char) :=
  match l.takeWhile Char.isDigit with
  | [] => none
  | digits => some (digits, l.dropWhile Char.isDigit)

/-- The integer part: zero, or digits that do not start with one. -/
def readInteger : List Char → Option (List Char × List Char)
  | '0' :: rest => some (['0'], rest)
  | l => readDigits l

/-- The fraction, if there is one. -/
def readFraction : List Char → Option (List Char × List Char)
  | '.' :: rest => do
    let (digits, rest) ← readDigits rest
    some ('.' :: digits, rest)
  | l => some ([], l)

/-- The exponent, if there is one. -/
def readExponent (l : List Char) : Option (List Char × List Char) :=
  match l with
  | [] => some ([], [])
  | e :: rest =>
    if e = 'e' ∨ e = 'E' then
      match rest with
      | '+' :: rest => do
        let (digits, rest) ← readDigits rest
        some (e :: '+' :: digits, rest)
      | '-' :: rest => do
        let (digits, rest) ← readDigits rest
        some (e :: '-' :: digits, rest)
      | rest => do
        let (digits, rest) ← readDigits rest
        some (e :: digits, rest)
    else some ([], l)

/-- A number. -/
def readNumber (l : List Char) : Option (String × List Char) := do
  let (sign, rest) := match l with
    | '-' :: rest => (['-'], rest)
    | l => ([], l)
  let (integer, rest) ← readInteger rest
  let (fraction, rest) ← readFraction rest
  let (exponent, rest) ← readExponent rest
  some (String.ofList (sign ++ integer ++ fraction ++ exponent), rest)

/-! ## Values -/

section Sequences
variable {α : Type} (close : Char) (item : List Char → Option (α × List Char))

/-- At least one item, with commas between them and `close` after the last. -/
def items : ℕ → List Char → Option (List α × List Char)
  | 0, _ => none
  | fuel + 1, l => do
    let (a, rest) ← item l
    match skipWs rest with
    | [] => none
    | c :: rest =>
      if c = ',' then do
        let (as, rest) ← items fuel rest
        some (a :: as, rest)
      else if c = close then some ([a], rest)
      else none

/-- A sequence after its opening bracket. -/
def readSequence (l : List Char) : Option (List α × List Char) :=
  match skipWs l with
  | [] => none
  | c :: rest => if c = close then some ([], rest) else items close item l.length (c :: rest)

end Sequences

/-- A member of an object: its name, a colon and its value. -/
def readMember (value : List Char → Option (Value × List Char)) (l : List Char) :
    Option ((String × Value) × List Char) := do
  let (name, rest) ← readString (skipWs l)
  match skipWs rest with
  | ':' :: rest => do
    let (v, rest) ← value rest
    some ((name, v), rest)
  | _ => none

/-- A value whose brackets are nested less than `fuel` deep, after white space. -/
def readValue : ℕ → List Char → Option (Value × List Char)
  | 0, _ => none
  | fuel + 1, l =>
    match skipWs l with
    | '\x7b' :: rest => do
      let (members, rest) ← readSequence '\x7d' (readMember (readValue fuel)) rest
      some (.object members, rest)
    | '[' :: rest => do
      let (elements, rest) ← readSequence ']' (readValue fuel) rest
      some (.array elements, rest)
    | '"' :: rest => do
      let (s, rest) ← readString ('"' :: rest)
      some (.text s, rest)
    | 't' :: 'r' :: 'u' :: 'e' :: rest => some (.boolean true, rest)
    | 'f' :: 'a' :: 'l' :: 's' :: 'e' :: rest => some (.boolean false, rest)
    | 'n' :: 'u' :: 'l' :: 'l' :: rest => some (.null, rest)
    | l => do
      let (literal, rest) ← readNumber l
      some (.number literal, rest)

/-- A JSON text: one value with white space around it. -/
def parse (s : String) : Option Value := do
  let (v, rest) ← readValue (s.toList.length + 1) s.toList
  if skipWs rest = [] then some v else none

/-! ## What a writer's text is read as -/

/-- The text `e` stands for one character of a string: whatever follows it, it does not end the
string, and what is read is the outcome `o`. -/
def Reads (e : List Char) (o : Option Char) : Prop :=
  ∀ rest, (e ++ rest).head? ≠ some '"' ∧ readChar (e ++ rest) = o.map (·, rest)

/-- Such a text is not empty. -/
theorem Reads.ne_nil {e : List Char} {o : Option Char} (h : Reads e o) : e ≠ [] := by
  rintro rfl
  exact (h ['"']).1 rfl

/-- A character that needs no escape stands for itself. -/
theorem reads_self {c : Char} (hquote : c ≠ '"') (hslash : c ≠ '\\') (hcontrol : 0x20 ≤ c.toNat) :
    Reads [c] (some c) := by
  intro rest
  refine ⟨fun h => hquote (Option.some.inj h), ?_⟩
  rw [List.singleton_append, readChar, if_neg hslash, if_neg (by omega)]
  rfl

/-- A string written character by character is what its characters are read as, one after
another. -/
theorem stringBody_flatMap {esc : Char → List Char} {out : Char → Option Char} (rest : List Char) :
    ∀ (s : List Char) (n : ℕ), (∀ c ∈ s, Reads (esc c) (out c)) → s.length < n →
      stringBody n (s.flatMap esc ++ '"' :: rest) = (s.mapM out).map (·, rest)
  | [], n + 1, _, _ => rfl
  | c :: s, n + 1, h, hn => by
    obtain ⟨hopen, hread⟩ := h c List.mem_cons_self (s.flatMap esc ++ '"' :: rest)
    have ih := stringBody_flatMap rest s n (fun c hc => h c (List.mem_cons_of_mem _ hc))
      (by simpa using hn)
    rw [List.flatMap_cons, List.append_assoc, stringBody, if_neg hopen, hread, List.mapM_cons]
    cases out c with
    | none => rfl
    | some c' =>
      simp only [Option.map_some, Option.bind_eq_bind, Option.bind_some]
      rw [ih]
      cases s.mapM out <;> rfl

/-- A written string is at least as long as what it stands for. -/
theorem length_le_flatMap {esc : Char → List Char} {out : Char → Option Char} {s : List Char}
    (h : ∀ c ∈ s, Reads (esc c) (out c)) : s.length ≤ (s.flatMap esc).length := by
  induction s with
  | nil => exact Nat.le_refl 0
  | cons c s ih =>
    have hc := List.length_pos_iff.mpr (h c List.mem_cons_self).ne_nil
    have hs := ih fun c hc => h c (List.mem_cons_of_mem _ hc)
    rw [List.flatMap_cons, List.length_append, List.length_cons]
    omega

/-- A written string with its quotation marks. -/
theorem readString_flatMap {esc : Char → List Char} {out : Char → Option Char} {s : List Char}
    (rest : List Char) (h : ∀ c ∈ s, Reads (esc c) (out c)) :
    readString ('"' :: (s.flatMap esc ++ '"' :: rest)) =
      (s.mapM out).map fun s => (String.ofList s, rest) := by
  have hfuel : s.length < (s.flatMap esc ++ '"' :: rest).length + 1 := by
    have hlen := length_le_flatMap h
    rw [List.length_append]
    omega
  simp only [readString, stringBody_flatMap rest s _ h hfuel]
  cases s.mapM out <;> rfl

/-- Items with commas between them are what each is read as. -/
theorem items_intercalate {α β : Type} {close : Char} {item : List Char → Option (α × List Char)}
    {text : β → List Char} {out : β → Option α} (rest : List Char)
    (hclose : close ≠ ',' ∧ skipWs (close :: rest) = close :: rest) :
    ∀ (bs : List β) (n : ℕ), (∀ b ∈ bs, ∀ rest, item (text b ++ rest) = (out b).map (·, rest)) →
      bs ≠ [] → bs.length ≤ n →
      items close item n ([','].intercalate (bs.map text) ++ close :: rest) =
        (bs.mapM out).map (·, rest)
  | [], _, _, hne, _ => absurd rfl hne
  | [b], n + 1, h, _, _ => by
    rw [List.map_singleton, List.intercalate_singleton, items, h b List.mem_cons_self,
      List.mapM_cons, List.mapM_nil]
    cases out b with
    | none => rfl
    | some a => simp [hclose]
  | b :: b' :: bs, n + 1, h, _, hn => by
    have hcomma : ∀ l, skipWs (',' :: l) = ',' :: l := fun l => rfl
    have ih := items_intercalate rest hclose (b' :: bs) n
      (fun c hc => h c (List.mem_cons_of_mem _ hc)) (by simp) (by simpa using hn)
    rw [List.map_cons, List.map_cons, List.intercalate_cons_cons, List.append_assoc,
      List.append_assoc, ← List.map_cons, items, h b List.mem_cons_self, List.mapM_cons]
    cases out b with
    | none => rfl
    | some a =>
      simp only [Option.map_some, Option.bind_eq_bind, Option.bind_some, List.cons_append,
        List.nil_append, hcomma, if_true]
      rw [ih]
      cases (b' :: bs).mapM out <;> rfl

/-- There is at most one item more than there are commas. -/
theorem length_le_intercalate : ∀ ts : List (List Char),
    ts.length ≤ ([','].intercalate ts).length + 1
  | [] => Nat.zero_le _
  | [_] => Nat.succ_le_succ (Nat.zero_le _)
  | t :: t' :: ts => by
    have ih := length_le_intercalate (t' :: ts)
    rw [List.intercalate_cons_cons, List.length_append, List.length_append]
    simp only [List.length_cons, List.length_nil] at ih ⊢
    omega

/-- The text of a member whose value is a string. -/
def memberText (name value : List Char) : List Char :=
  '"' :: (name ++ '"' :: ':' :: '"' :: (value ++ ['"']))

/-- What a member is read as: its name, when that reads as `name`, and what its value is. -/
theorem readMember_memberText {esc : Char → List Char} {out : Char → Option Char}
    {name value : List Char} (n : ℕ) (hname : ∀ c ∈ name, Reads [c] (some c))
    (hvalue : ∀ c ∈ value, Reads (esc c) (out c)) (rest : List Char) :
    readMember (readValue (n + 1)) (memberText name (value.flatMap esc) ++ rest) =
      ((value.mapM out).map fun v => (String.ofList name, Value.text (String.ofList v))).map
        (·, rest) := by
  have hquote : ∀ l, skipWs ('"' :: l) = '"' :: l := fun l => rfl
  have hcolon : ∀ l, skipWs (':' :: l) = ':' :: l := fun l => rfl
  have hplain : name.flatMap (fun c => [c]) = name := by simp
  have hsame : name.mapM some = some name := by
    have hpure := List.mapM_pure (m := Option) (l := name) (f := id)
    simpa using hpure
  -- The name and its colon, and the value that follows.
  have hread : readString ('"' :: (name.flatMap (fun c => [c]) ++
      '"' :: ':' :: '"' :: (value.flatMap esc ++ '"' :: rest))) =
      (name.mapM some).map fun s =>
        (String.ofList s, ':' :: '"' :: (value.flatMap esc ++ '"' :: rest)) :=
    readString_flatMap _ hname
  rw [hplain, hsame, Option.map_some] at hread
  have htext : memberText name (value.flatMap esc) ++ rest =
      '"' :: (name ++ '"' :: ':' :: '"' :: (value.flatMap esc ++ '"' :: rest)) := by
    simp [memberText]
  rw [htext, readMember, hquote, hread]
  simp only [Option.bind_eq_bind, Option.bind_some, hcolon, readValue, hquote]
  rw [readString_flatMap rest hvalue]
  cases value.mapM out <;> rfl

/-- A written object is the members that its texts are read as. -/
theorem parse_object {β : Type} {text : β → List Char} {out : β → Option (String × Value)}
    {bs : List β} (hne : bs ≠ [])
    (h : ∀ b ∈ bs, ∀ n rest, readMember (readValue (n + 1)) (text b ++ rest) =
      (out b).map (·, rest))
    (hstart : ∀ b ∈ bs, (text b).head? = some '"') :
    parse (String.ofList ('\x7b' :: ([','].intercalate (bs.map text) ++ ['\x7d']))) =
      (bs.mapM out).map .object := by
  obtain ⟨b, bs', rfl⟩ := List.exists_cons_of_ne_nil hne
  -- The text is not empty after the bracket, and it starts with the first member's name.
  obtain ⟨l, hl⟩ : ∃ l, [','].intercalate ((b :: bs').map text) ++ ['\x7d'] = '"' :: l := by
    obtain ⟨t, ht⟩ := List.head?_eq_some_iff.mp (hstart b List.mem_cons_self)
    cases bs' with
    | nil => exact ⟨t ++ ['\x7d'], by simp [ht]⟩
    | cons b' bs' => exact ⟨_, by simp only [List.map_cons, List.intercalate_cons_cons, ht]; rfl⟩
  have hquote : ∀ l, skipWs ('"' :: l) = '"' :: l := fun l => rfl
  have hopen : ∀ l, skipWs ('\x7b' :: l) = '\x7b' :: l := fun l => rfl
  have hlen : (b :: bs').length ≤ ('"' :: l).length := by
    have hcommas := length_le_intercalate ((b :: bs').map text)
    rw [← hl, List.length_append]
    rw [List.length_map] at hcommas
    simpa using hcommas
  have hitems : items '\x7d' (readMember (readValue (l.length + 2))) ('"' :: l).length
      ([','].intercalate ((b :: bs').map text) ++ ['\x7d']) = ((b :: bs').mapM out).map (·, []) :=
    items_intercalate [] ⟨by decide, rfl⟩ (b :: bs') _
      (fun b hb rest => h b hb (l.length + 1) rest) hne hlen
  rw [hl] at hitems
  rw [hl, parse, String.toList_ofList, readValue, hopen]
  simp only [List.length_cons, readSequence, hquote, show ('"' = '\x7d') = False by decide,
    if_false] at hitems ⊢
  rw [hitems]
  cases (b :: bs').mapM out <;> rfl

example : (parse " \x7b\"a\\u0041\": [1, -2.5e3, true] \x7d ").isSome = true := by decide +kernel

example : (parse "[01]").isSome = false := by decide +kernel

end MyChat.JsonText
