import MyChat.Lib.ByteText

/-!
# JSON trees and pointers

A JSON value as a library holds it, its text, and the places in it that a JSON pointer names: to
read one (`valueAt`), and to write one (`assign`). A write makes what is missing on its way: a
missing member or a `null` becomes an array when the token is a number, and otherwise an object. It
fails at a value that has no parts, or at a token that is no index of an array, and what it made
before stays there.

`memberAt` reads a place through objects only, and `leafAt` what stands there when it is no object.
`leafAt_assign` says what a write through objects changes: the leaf at its path and no other.
`assign_of_rejects` is a write that changes nothing.
-/

namespace MyChat.JsonPointer

open ByteText

/-- A byte string. -/
abbrev Text := List UInt8

/-- A JSON value; its numbers with a fraction or an exponent are in `F`. -/
inductive Json (F : Type) where
  /-- `null`. -/
  | null
  /-- `true` or `false`. -/
  | boolean (b : Bool)
  /-- An integer. -/
  | integer (n : ℤ)
  /-- Another number. -/
  | real (x : F)
  /-- A string. -/
  | string (s : Text)
  /-- An array. -/
  | array (elements : List (Json F))
  /-- An object. -/
  | object (members : List (Text × Json F))

variable {F : Type}

/-- The numeral of an integer. -/
def intText (n : ℤ) : Text := if n < 0 then 0x2d :: numeral 10 n.natAbs else numeral 10 n.natAbs

/-- How the library writes numbers and strings, and how numbers are read. -/
structure Format (F : Type) where
  /-- `std::stod`: the number that a text starts with; `none` when it throws. -/
  stod : Text → Option F
  /-- The text of a number in JSON. -/
  dumpReal : F → Text
  /-- `std::to_string` of a number. -/
  realText : F → Text
  /-- The text of a string in JSON; `none` when it throws, because it is not in UTF-8. -/
  dumpString : Text → Option Text

namespace Json

/-! ## Texts -/

mutual

/-- `dump`. -/
def dump (format : Format F) : Json F → Option Text
  | null => some [0x6e, 0x75, 0x6c, 0x6c]
  | boolean true => some [0x74, 0x72, 0x75, 0x65]
  | boolean false => some [0x66, 0x61, 0x6c, 0x73, 0x65]
  | integer n => some (intText n)
  | real x => some (format.dumpReal x)
  | string s => format.dumpString s
  | array elements => do
    let texts ← dumpElements format elements
    some (0x5b :: ([0x2c].intercalate texts ++ [0x5d]))
  | object members => do
    let texts ← dumpMembers format members
    some (0x7b :: ([0x2c].intercalate texts ++ [0x7d]))

/-- The texts of the elements of an array. -/
def dumpElements (format : Format F) : List (Json F) → Option (List Text)
  | [] => some []
  | j :: rest => do
    let text ← dump format j
    let texts ← dumpElements format rest
    some (text :: texts)

/-- The texts of the members of an object. -/
def dumpMembers (format : Format F) : List (Text × Json F) → Option (List Text)
  | [] => some []
  | (name, j) :: rest => do
    let name ← format.dumpString name
    let text ← dump format j
    let texts ← dumpMembers format rest
    some ((name ++ 0x3a :: text) :: texts)

end

/-- The value is an object. -/
def isObject : Json F → Bool
  | object _ => true
  | _ => false

/-! ## Pointers -/

/-- A token without its escapes; `none` when a `~` is not followed by `0` or `1`. -/
def unescape : Text → Option Text
  | [] => some []
  | [c] => if c = 0x7e then none else some [c]
  | c :: d :: rest =>
    if c = 0x7e then
      if d = 0x30 then (unescape rest).map (0x7e :: ·)
      else if d = 0x31 then (unescape rest).map (0x2f :: ·)
      else none
    else (unescape (d :: rest)).map (c :: ·)

/-- The tokens of a pointer; `none` when it is not well formed. -/
def parsePointer : Text → Option (List Text)
  | [] => some []
  | c :: rest => if c = 0x2f then (rest.splitOn 0x2f).mapM unescape else none

/-- The index that a token is; `none` when it throws. -/
def arrayIndex (token : Text) : Option ℕ :=
  if token = [] ∨ 1 < token.length ∧ token.head? = some 0x30 then none
  else if token.all (isDigitOf 10) ∧ valueOf 10 token < 2 ^ 64 - 1 then some (valueOf 10 token)
  else none

/-- A `null` becomes an array for the token: it has only digits, or is `-`. -/
def isArrayToken (token : Text) : Bool := token.all (isDigitOf 10) || token == [0x2d]

/-- The value that the tokens of a pointer lead to; a read does not take `-` for an index. -/
def valueAt : List Text → Json F → Option (Json F)
  | [], j => some j
  | token :: tokens, object members => (members.lookup token).bind (valueAt tokens)
  | token :: tokens, array elements =>
    (arrayIndex token).bind fun i => (elements[i]?).bind (valueAt tokens)
  | _ :: _, _ => none

/-- The members of an object with one in its place, or else in front of the first greater name. -/
def insertMember (name : Text) (v : Json F) (members : List (Text × Json F)) :
    List (Text × Json F) :=
  if (members.lookup name).isSome then
    members.takeWhile (fun member => decide (member.1 ≠ name)) ++
      (name, v) :: (members.dropWhile fun member => decide (member.1 ≠ name)).tail
  else
    members.takeWhile (fun member => decide (member.1 < name)) ++
      (name, v) :: members.dropWhile fun member => decide (member.1 < name)

/-- A `null` becomes what the token needs. -/
def vivify (token : Text) : Json F → Json F
  | null => if isArrayToken token then array [] else object []
  | j => j

/-- The value after a write through the tokens of a pointer, and whether the write came to its
place. Elements up to an index beyond the end of an array are made, as `null`. -/
def assign (v : Json F) : List Text → Json F → Json F × Bool
  | [], _ => (v, true)
  | token :: tokens, j =>
    match vivify token j with
    | object members =>
      let child := assign v tokens ((members.lookup token).getD null)
      (object (insertMember token child.1 members), child.2)
    | array elements =>
      match if token = [0x2d] then some elements.length else arrayIndex token with
      | none => (array elements, false)
      | some i =>
        let elements := elements ++ List.replicate (i + 1 - elements.length) null
        let child := assign v tokens (elements.getD i null)
        (array (elements.set i child.1), child.2)
    | j => (j, false)

/-! ## Members -/

/-- The value that names lead to through objects. -/
def memberAt : List Text → Json F → Option (Json F)
  | [], j => some j
  | name :: names, object members => (members.lookup name).bind (memberAt names)
  | _ :: _, _ => none

/-- What stands at a path through objects, when it is no object. -/
def leafAt (path : List Text) (j : Json F) : Option (Json F) :=
  (memberAt path j).filter fun v => !v.isObject

/-- What stands before and behind the first member of a name. -/
theorem exists_split {name : Text} {members : List (Text × Json F)}
    (h : (members.lookup name).isSome) :
    ∃ front u back, members = front ++ (name, u) :: back ∧ front.lookup name = none ∧
      members.lookup name = some u ∧
      ∀ v, insertMember name v members = front ++ (name, v) :: back := by
  have hsplit := List.takeWhile_append_dropWhile (p := fun member => decide (member.1 ≠ name))
    (l := members)
  have hfront : (members.takeWhile fun member => decide (member.1 ≠ name)).lookup name = none := by
    rw [List.lookup_eq_none_iff]
    intro member hmember
    have hne : member.1 ≠ name := by simpa using List.mem_takeWhile_imp hmember
    simpa using Ne.symm hne
  cases hback : members.dropWhile fun member => decide (member.1 ≠ name) with
  | nil =>
    rw [hback, List.append_nil] at hsplit
    rw [hsplit] at hfront
    rw [hfront] at h
    exact absurd h (by simp)
  | cons member back =>
    obtain ⟨n, u⟩ := member
    have hn : n = name := by
      have := List.head?_dropWhile_not (fun member => decide (member.1 ≠ name)) members
      rw [hback] at this
      simpa using this
    subst hn
    rw [hback] at hsplit
    refine ⟨_, u, back, hsplit.symm, hfront, ?_, fun v => ?_⟩
    · rw [← hsplit, List.lookup_append, hfront, List.lookup_cons_self]
      rfl
    · rw [insertMember, if_pos h, hback, List.tail_cons]

theorem lookup_insertMember (name : Text) (v : Json F) (members : List (Text × Json F))
    (other : Text) : (insertMember name v members).lookup other =
      if other = name then some v else members.lookup other := by
  by_cases h : (members.lookup name).isSome = true
  · obtain ⟨front, u, back, hmembers, hfront, -, hinsert⟩ := exists_split h
    rw [hinsert, hmembers, List.lookup_append, List.lookup_append, List.lookup_cons,
      List.lookup_cons]
    by_cases ho : other = name
    · subst ho
      simp [hfront]
    · rw [beq_false_of_ne ho, if_neg ho]
  · have hsplit := List.takeWhile_append_dropWhile (p := fun member => decide (member.1 < name))
      (l := members)
    have hnone : members.lookup name = none := Option.not_isSome_iff_eq_none.mp h
    rw [insertMember, if_neg h, List.lookup_append, List.lookup_cons]
    rw [← hsplit, List.lookup_append, Option.or_eq_none_iff] at hnone
    by_cases ho : other = name
    · subst ho
      simp [hnone.1]
    · rw [beq_false_of_ne ho, if_neg ho]
      dsimp only
      rw [← List.lookup_append, hsplit]

/-- Putting a member where it is changes nothing. -/
theorem insertMember_self {name : Text} {v : Json F} {members : List (Text × Json F)}
    (h : members.lookup name = some v) : insertMember name v members = members := by
  obtain ⟨front, u, back, hmembers, -, hlookup, hinsert⟩ := exists_split (by rw [h]; rfl)
  rw [h] at hlookup
  rw [hinsert, Option.some.inj hlookup]
  exact hmembers.symm

/-- A token without escapes stands for itself. -/
theorem unescape_of_not_mem {token : Text} (h : 0x7e ∉ token) : unescape token = some token := by
  fun_induction unescape token with
  | case1 => rfl
  | case2 => exact absurd List.mem_cons_self h
  | case3 => rfl
  | case4 => exact absurd List.mem_cons_self h
  | case5 => exact absurd List.mem_cons_self h
  | case6 => exact absurd List.mem_cons_self h
  | case7 c d rest hc ih => rw [ih fun hmem => h (List.mem_cons_of_mem _ hmem)]; rfl

/-- What is in a part of a text is in the text. -/
theorem mem_of_mem_splitOn {sep c : UInt8} {text part : Text} (hpart : part ∈ text.splitOn sep)
    (hc : c ∈ part) : c ∈ text := by
  induction text generalizing part with
  | nil =>
    rw [List.splitOn_nil, List.mem_singleton] at hpart
    rwa [hpart] at hc
  | cons d text ih =>
    rw [List.splitOn_cons_eq_if_modifyHead] at hpart
    split_ifs at hpart with hd
    · rcases List.mem_cons.mp hpart with rfl | hpart
      · exact absurd hc List.not_mem_nil
      · exact List.mem_cons_of_mem _ (ih hpart hc)
    · cases hparts : text.splitOn sep with
      | nil => exact absurd hparts (List.splitOn_ne_nil sep text)
      | cons head tail =>
        rw [hparts, List.modifyHead_cons] at hpart
        rw [hparts] at ih
        rcases List.mem_cons.mp hpart with rfl | hpart
        · rcases List.mem_cons.mp hc with rfl | hc
          · exact List.mem_cons_self
          · exact List.mem_cons_of_mem _ (ih List.mem_cons_self hc)
        · exact List.mem_cons_of_mem _ (ih (List.mem_cons_of_mem _ hpart) hc)

/-! ## What a read finds -/

theorem leafAt_nil (j : Json F) : leafAt [] j = if j.isObject then none else some j := by
  cases h : j.isObject <;> simp [leafAt, memberAt, Option.filter, h]

theorem leafAt_cons_object (name : Text) (path : List Text) (members : List (Text × Json F)) :
    leafAt (name :: path) (object members) = (members.lookup name).bind (leafAt path) := by
  unfold leafAt
  rw [memberAt]
  cases members.lookup name <;> rfl

/-- There is nothing below a value that is no object. -/
theorem leafAt_cons_of_not_object {j : Json F} (h : j.isObject = false) (name : Text)
    (path : List Text) : leafAt (name :: path) j = none := by
  cases j <;> first | rfl | exact absurd h (by simp [isObject])

/-- The only leaf of a value that is no object is the value itself. -/
theorem leafAt_eq_some_iff {j leaf : Json F} (h : j.isObject = false) {path : List Text} :
    leafAt path j = some leaf ↔ path = [] ∧ leaf = j := by
  cases path with
  | nil =>
    rw [leafAt_nil, h, if_neg Bool.false_ne_true, Option.some_inj, eq_comm]
    exact (and_iff_right rfl).symm
  | cons name path =>
    rw [leafAt_cons_of_not_object h]
    exact iff_of_false (by simp) fun hpath => List.cons_ne_nil _ _ hpath.1

/-! ## What a write changes -/

/-- None of the names makes an array of a `null`. -/
def Fresh (names : List Text) : Prop := ∀ name ∈ names, isArrayToken name = false

/-- No leaf stands below the value. -/
def NoneBelow (j : Json F) : Prop := ∀ name path, leafAt (name :: path) j = none

/-- A write to the path goes through objects: through those that are there, and where a member is
missing, through those that it makes. At its end no leaf stands below what it replaces. -/
def Opens : List Text → Json F → Prop
  | [], j => NoneBelow j
  | name :: names, object members =>
    match members.lookup name with
    | some j => Opens names j
    | none => Fresh names
  | _ :: _, _ => False

/-- A write at a `null` makes objects down to its place. -/
theorem assign_null {v : Json F} (hv : v.isObject = false) {names : List Text}
    (h : Fresh names) : ∃ j, assign v names null = (j, true) ∧
      ∀ path, leafAt path j = if path = names then some v else (none : Option (Json F)) := by
  induction names with
  | nil =>
    refine ⟨v, rfl, fun path => ?_⟩
    cases path with
    | nil => rw [leafAt_nil, hv, if_pos rfl, if_neg Bool.false_ne_true]
    | cons name path => rw [leafAt_cons_of_not_object hv, if_neg (by simp)]
  | cons name names ih =>
    obtain ⟨j, hj, hleaf⟩ := ih fun n hn => h n (List.mem_cons_of_mem _ hn)
    have hname : isArrayToken name = false := h name List.mem_cons_self
    have hnull : vivify name (null : Json F) = object [] := by rw [vivify, hname]; rfl
    refine ⟨object (insertMember name j []), ?_, fun path => ?_⟩
    · rw [assign, hnull]
      dsimp only
      rw [List.lookup_nil, Option.getD_none, hj]
    · cases path with
      | nil => rw [leafAt_nil, isObject, if_pos rfl, if_neg (by simp)]
      | cons other path =>
        rw [leafAt_cons_object, lookup_insertMember, List.lookup_nil]
        by_cases ho : other = name
        · subst ho
          rw [if_pos rfl, Option.bind_some, hleaf]
          simp
        · rw [if_neg ho, if_neg (by simp [ho])]
          rfl

/-- A write through objects changes the leaf at its path and no other. -/
theorem leafAt_assign {v : Json F} (hv : v.isObject = false) {names : List Text} {j : Json F}
    (h : Opens names j) : ∃ j', assign v names j = (j', true) ∧
      ∀ path, leafAt path j' = if path = names then some v else leafAt path j := by
  induction names generalizing j with
  | nil =>
    refine ⟨v, rfl, fun path => ?_⟩
    cases path with
    | nil => rw [leafAt_nil, hv, if_pos rfl, if_neg Bool.false_ne_true]
    | cons name path =>
      rw [leafAt_cons_of_not_object hv, if_neg (by simp)]
      exact (h name path).symm
  | cons name names ih =>
    cases j with
    | object members =>
      -- The member that the write goes into, and what it leaves there.
      obtain ⟨child, hchild, hleaf⟩ : ∃ child,
          assign v names ((members.lookup name).getD null) = (child, true) ∧
          ∀ path, leafAt path child =
            if path = names then some v else (members.lookup name).bind (leafAt path) := by
        rw [Opens] at h
        cases hlookup : members.lookup name with
        | none =>
          rw [hlookup] at h
          exact assign_null hv h
        | some j =>
          rw [hlookup] at h
          exact ih h
      refine ⟨object (insertMember name child members), ?_, fun path => ?_⟩
      · rw [assign]
        dsimp only [vivify]
        rw [hchild]
      · cases path with
        | nil =>
          rw [leafAt_nil, leafAt_nil, isObject, isObject, if_pos rfl, if_pos rfl, if_neg (by simp)]
        | cons other path =>
          rw [leafAt_cons_object, lookup_insertMember, leafAt_cons_object]
          by_cases ho : other = name
          · subst ho
            rw [if_pos rfl, Option.bind_some, hleaf]
            simp
          · rw [if_neg ho, if_neg (by simp [ho])]
    | null => exact absurd h id
    | boolean b => exact absurd h id
    | integer n => exact absurd h id
    | real x => exact absurd h id
    | string s => exact absurd h id
    | array elements => exact absurd h id

/-! ## A write that changes nothing -/

/-- A write through the tokens ends at a value that has no parts, or at a token that is no index,
before anything is missing. -/
def Rejects : List Text → Json F → Prop
  | [], _ => False
  | _ :: _, null => False
  | token :: tokens, object members =>
    match members.lookup token with
    | some j => Rejects tokens j
    | none => False
  | token :: tokens, array elements =>
    token ≠ [0x2d] ∧
      match arrayIndex token with
      | none => True
      | some i =>
        match elements[i]? with
        | some j => Rejects tokens j
        | none => False
  | _ :: _, _ => True

/-- A write that is rejected changes nothing. -/
theorem assign_of_rejects (v : Json F) {tokens : List Text} {j : Json F}
    (h : Rejects tokens j) : assign v tokens j = (j, false) := by
  induction tokens generalizing j with
  | nil => exact absurd h id
  | cons token tokens ih =>
    cases j with
    | null => exact absurd h id
    | boolean b => rfl
    | integer n => rfl
    | real x => rfl
    | string s => rfl
    | object members =>
      rw [Rejects] at h
      rw [assign]
      dsimp only [vivify]
      cases hlookup : members.lookup token with
      | none => rw [hlookup] at h; exact absurd h id
      | some j =>
        rw [hlookup] at h
        rw [Option.getD_some, ih h, insertMember_self hlookup]
    | array elements =>
      obtain ⟨htoken, h⟩ := h
      rw [assign]
      dsimp only [vivify]
      rw [if_neg htoken]
      cases hindex : arrayIndex token with
      | none => rfl
      | some i =>
        rw [hindex] at h
        dsimp only at h ⊢
        cases helement : elements[i]? with
        | none => rw [helement] at h; exact absurd h id
        | some j =>
          rw [helement] at h
          -- The element is there, so that the array is not extended.
          obtain ⟨hi, hj⟩ := List.getElem?_eq_some_iff.mp helement
          have hroom : i + 1 - elements.length = 0 := by omega
          rw [hroom, List.replicate_zero, List.append_nil, List.getD_eq_getElem?_getD, helement,
            Option.getD_some, ih h, ← hj, List.set_getElem_self]

/-! ## Dotted keys -/

/-- The names of a dotted key. -/
def splitDots (key : Text) : List Text := key.splitOn 0x2e

/-- The names of a key are the tokens of the pointer that has a slash for each dot and one in front
of all, when the key has no character that a pointer gives a meaning to. -/
theorem parsePointer_of_dots {key : Text} (hslash : 0x2f ∉ key) (htilde : 0x7e ∉ key) :
    parsePointer (0x2f :: key.map fun c => if c = 0x2e then 0x2f else c) =
      some (splitDots key) := by
  have hsplit : (key.map fun c => if c = 0x2e then (0x2f : UInt8) else c).splitOn 0x2f =
      key.splitOn 0x2e := by
    clear htilde
    induction key with
    | nil => rfl
    | cons c key ih =>
      rw [List.mem_cons, not_or] at hslash
      rw [List.map_cons, List.splitOn_cons_eq_if_modifyHead, List.splitOn_cons_eq_if_modifyHead,
        ih hslash.2]
      by_cases hc : c = 0x2e
      · subst hc
        rfl
      · rw [if_neg hc, if_neg (by simpa using Ne.symm hslash.1), if_neg (by simpa using hc)]
  have hparts : ∀ parts : List Text, (∀ part ∈ parts, (0x7e : UInt8) ∉ part) →
      parts.mapM unescape = some parts := by
    intro parts h
    induction parts with
    | nil => rfl
    | cons part parts ih =>
      rw [List.mapM_cons, unescape_of_not_mem (h part List.mem_cons_self),
        ih fun q hq => h q (List.mem_cons_of_mem _ hq)]
      rfl
  rw [parsePointer, if_pos rfl, hsplit]
  exact hparts _ fun part hpart hmem => htilde (mem_of_mem_splitOn hpart hmem)

/-! ## Reads through arrays -/

/-- What names lead to through objects, tokens lead to. -/
theorem valueAt_of_memberAt {path : List Text} {j v : Json F} (h : memberAt path j = some v) :
    valueAt path j = some v := by
  induction path generalizing j with
  | nil => exact h
  | cons name path ih =>
    cases j with
    | object members =>
      obtain ⟨u, hu, hv⟩ := Option.bind_eq_some_iff.mp h
      rw [valueAt, hu, Option.bind_some]
      exact ih hv
    | null => exact absurd h (by simp [memberAt])
    | boolean b => exact absurd h (by simp [memberAt])
    | integer n => exact absurd h (by simp [memberAt])
    | real x => exact absurd h (by simp [memberAt])
    | string s => exact absurd h (by simp [memberAt])
    | array elements => exact absurd h (by simp [memberAt])

/-! ## Tokens -/

/-- A token with escapes for the characters that a pointer gives a meaning to. -/
def escape : Text → Text
  | [] => []
  | c :: rest =>
    if c = 0x7e then 0x7e :: 0x30 :: escape rest
    else if c = 0x2f then 0x7e :: 0x31 :: escape rest
    else c :: escape rest

/-- What stands between two slashes is known from its token. -/
theorem escape_of_unescape {text token : Text} (hslash : 0x2f ∉ text)
    (h : unescape text = some token) : escape token = text := by
  fun_induction unescape text generalizing token with
  | case1 =>
    obtain rfl := Option.some.inj h
    rfl
  | case2 => exact absurd h (by simp)
  | case3 c hc =>
    obtain rfl := Option.some.inj h
    have hc' : c ≠ 0x2f := fun heq => hslash (by rw [heq]; exact List.mem_cons_self)
    rw [escape, if_neg hc, if_neg hc']
    rfl
  | case4 rest ih =>
    obtain ⟨t, ht, rfl⟩ := Option.map_eq_some_iff.mp h
    rw [escape, if_pos rfl, ih (fun hmem => hslash (by simp [hmem])) ht]
  | case5 rest hne ih =>
    obtain ⟨t, ht, rfl⟩ := Option.map_eq_some_iff.mp h
    rw [escape, if_neg (by decide), if_pos rfl, ih (fun hmem => hslash (by simp [hmem])) ht]
  | case6 => exact absurd h (by simp)
  | case7 c d rest hc ih =>
    obtain ⟨t, ht, rfl⟩ := Option.map_eq_some_iff.mp h
    rw [List.mem_cons, not_or] at hslash
    rw [escape, if_neg hc, if_neg (Ne.symm hslash.1), ih hslash.2 ht]

/-- An index is the numeral of its number. -/
theorem eq_numeral_of_arrayIndex {token : Text} {i : ℕ} (h : arrayIndex token = some i) :
    token = numeral 10 i := by
  unfold arrayIndex at h
  split_ifs at h with hbad hdigits
  obtain rfl := Option.some.inj h
  rw [not_or, not_and] at hbad
  obtain ⟨hne, hlead⟩ := hbad
  refine (numeral_valueOf (List.all_eq_true.mp hdigits.1) hne fun hhead => ?_).symm
  have hlength : 0 < token.length := List.length_pos_of_ne_nil hne
  have hshort : ¬ 1 < token.length := fun hlong => hlead hlong hhead
  omega

theorem arrayIndex_inj {a b : Text} {i : ℕ} (ha : arrayIndex a = some i)
    (hb : arrayIndex b = some i) : a = b :=
  (eq_numeral_of_arrayIndex ha).trans (eq_numeral_of_arrayIndex hb).symm

@[simp] theorem valueAt_object (token : Text) (members : List (Text × Json F)) :
    valueAt [token] (object members) = members.lookup token := by
  rw [valueAt]
  cases members.lookup token <;> rfl

@[simp] theorem valueAt_array (token : Text) (elements : List (Json F)) :
    valueAt [token] (array elements) = (arrayIndex token).bind fun i => elements[i]? := by
  rw [valueAt]
  cases arrayIndex token with
  | none => rfl
  | some i => rw [Option.bind_some, Option.bind_some]; cases elements[i]? <;> rfl

/-- The place in an array that a write goes to. -/
def writeIndex (token : Text) (elements : List (Json F)) : Option ℕ :=
  if token = [0x2d] then some elements.length else arrayIndex token

/-- A write of one token is one to what the root becomes for it. -/
theorem assign_vivify (v : Json F) (token : Text) (j : Json F) :
    assign v [token] j = assign v [token] (vivify token j) := by
  have hvivify : vivify token (vivify token j) = vivify token j := by
    cases j with
    | null => rw [vivify]; split_ifs <;> rfl
    | _ => rfl
  rw [assign, assign, hvivify]

theorem assign_object (v : Json F) (token : Text) (members : List (Text × Json F)) :
    assign v [token] (object members) = (object (insertMember token v members), true) := rfl

theorem assign_array (v : Json F) (token : Text) (elements : List (Json F)) :
    (assign v [token] (array elements)).1 = array
      (match writeIndex token elements with
        | none => elements
        | some i => (elements ++ List.replicate (i + 1 - elements.length) null).set i v) := by
  rw [assign, writeIndex]
  dsimp only [vivify]
  cases if token = [0x2d] then some elements.length else arrayIndex token <;> rfl

/-- The elements of an array after a write, at any other place. -/
theorem getElem?_write {elements : List (Json F)} {v : Json F} {i k : ℕ} (h : k ≠ i) :
    ((elements ++ List.replicate (i + 1 - elements.length) null).set i v)[k]? =
      if k < elements.length then elements[k]? else if k < i then some null else none := by
  rw [List.getElem?_set_ne (Ne.symm h)]
  split_ifs with hk hki
  · rw [List.getElem?_append_left hk]
  · rw [List.getElem?_append_right (by omega), List.getElem?_replicate, if_pos (by omega)]
  · rw [List.getElem?_append_right (by omega), List.getElem?_replicate, if_neg (by omega)]

/-- What stands at another token stays. -/
theorem valueAt_assign_of_ne {token other : Text} (hne : other ≠ token) {v w j : Json F}
    (h : valueAt [other] j = some w) : valueAt [other] (assign v [token] j).1 = some w := by
  cases j with
  | object members =>
    rw [assign_object, valueAt_object, lookup_insertMember, if_neg hne, ← valueAt_object, h]
  | array elements =>
    rw [valueAt_array] at h
    obtain ⟨k, hk, hw⟩ := Option.bind_eq_some_iff.mp h
    have hlt : k < elements.length := (List.getElem?_eq_some_iff.mp hw).1
    rw [assign_array, valueAt_array, hk, Option.bind_some]
    cases hi : writeIndex token elements with
    | none => exact hw
    | some i =>
      have hki : k ≠ i := by
        rintro rfl
        rw [writeIndex] at hi
        split_ifs at hi
        · have := Option.some.inj hi
          omega
        · exact hne (arrayIndex_inj hk hi)
      dsimp only
      rw [getElem?_write hki, if_pos hlt, hw]
  | null => exact absurd h (by simp [valueAt])
  | boolean b => exact absurd h (by simp [valueAt])
  | integer n => exact absurd h (by simp [valueAt])
  | real x => exact absurd h (by simp [valueAt])
  | string s => exact absurd h (by simp [valueAt])

/-- What a write makes in an array at another index is `null`. -/
theorem valueAt_of_assign_array {token other : Text} (hne : other ≠ token) (htoken : token ≠ [0x2d])
    {v w : Json F} {elements : List (Json F)} (hw : w ≠ null)
    (h : valueAt [other] (assign v [token] (array elements)).1 = some w) :
    valueAt [other] (array elements) = some w := by
  rw [assign_array, writeIndex, if_neg htoken, valueAt_array] at h
  obtain ⟨k, hk, h⟩ := Option.bind_eq_some_iff.mp h
  rw [valueAt_array, hk, Option.bind_some]
  cases hi : arrayIndex token with
  | none =>
    rw [hi] at h
    exact h
  | some i =>
    rw [hi] at h
    have hki : k ≠ i := fun heq => hne (arrayIndex_inj hk (heq ▸ hi))
    dsimp only at h
    rw [getElem?_write hki] at h
    split_ifs at h
    · exact h
    · exact absurd (Option.some.inj h).symm hw

/-- A write to an object makes nothing at another name. -/
theorem valueAt_of_assign_object {token other : Text} (hne : other ≠ token) {v w : Json F}
    {members : List (Text × Json F)}
    (h : valueAt [other] (assign v [token] (object members)).1 = some w) :
    valueAt [other] (object members) = some w := by
  rwa [assign_object, valueAt_object, lookup_insertMember, if_neg hne, ← valueAt_object] at h

/-- What a write makes at another token is `null`, when the write does not go to the end of an
array. -/
theorem valueAt_of_assign {token other : Text} (hne : other ≠ token) {v w j : Json F}
    (hdash : token ≠ [0x2d] ∨ j.isObject = true) (hw : w ≠ null)
    (h : valueAt [other] (assign v [token] j).1 = some w) : valueAt [other] j = some w := by
  cases j with
  | object members => exact valueAt_of_assign_object hne h
  | array elements =>
    exact valueAt_of_assign_array hne (hdash.resolve_right Bool.false_ne_true) hw h
  | null =>
    -- The write is one to an empty array or object, and there is nothing in these.
    have htoken := hdash.resolve_right Bool.false_ne_true
    rw [assign_vivify, vivify] at h
    split_ifs at h
    · exact absurd (valueAt_of_assign_array hne htoken hw h) (by simp)
    · exact absurd (valueAt_of_assign_object hne h) (by simp)
  | boolean b => exact h
  | integer n => exact h
  | real x => exact h
  | string s => exact h

/-- A write of one token comes to its place, and a read finds it there. -/
def Accepts (token : Text) (j : Json F) : Prop :=
  match vivify token j with
  | object _ => True
  | array _ => (arrayIndex token).isSome
  | _ => False

/-- What a write leaves at its own token. -/
theorem valueAt_assign_of_accepts (v : Json F) {token : Text} {j : Json F} (h : Accepts token j) :
    valueAt [token] (assign v [token] j).1 = some v := by
  rw [assign_vivify]
  rw [Accepts] at h
  cases hj : vivify token j with
  | object members => rw [assign_object, valueAt_object, lookup_insertMember, if_pos rfl]
  | array elements =>
    rw [hj] at h
    obtain ⟨i, hi⟩ := Option.isSome_iff_exists.mp h
    have hdash : token ≠ [0x2d] := by
      rintro rfl
      have hnone : arrayIndex [0x2d] = none := by decide
      exact absurd (hi.symm.trans hnone) (by simp)
    rw [assign_array, valueAt_array, writeIndex, if_neg hdash, hi, Option.bind_some]
    have hlength : i < (elements ++ List.replicate (i + 1 - elements.length) null).length := by
      rw [List.length_append, List.length_replicate]
      omega
    exact List.getElem?_set_self hlength
  | null => rw [hj] at h; exact absurd h id
  | boolean b => rw [hj] at h; exact absurd h id
  | integer n => rw [hj] at h; exact absurd h id
  | real x => rw [hj] at h; exact absurd h id
  | string s => rw [hj] at h; exact absurd h id

theorem valueAt_assign_of_not_accepts (v : Json F) {token : Text} {j : Json F}
    (h : ¬ Accepts token j) : valueAt [token] (assign v [token] j).1 = none := by
  rw [assign_vivify]
  rw [Accepts] at h
  cases hj : vivify token j with
  | object members => rw [hj] at h; exact absurd trivial h
  | array elements =>
    rw [hj] at h
    have hnone : arrayIndex token = none := by simpa using h
    rw [assign_array, valueAt_array, hnone, Option.bind_none]
  | null =>
    cases j with
    | null => rw [vivify] at hj; split_ifs at hj
    | _ => exact absurd hj (by simp [vivify])
  | boolean b => rfl
  | integer n => rfl
  | real x => rfl
  | string s => rfl

/-- A read does not find what a write puts at the end of an array. -/
theorem not_accepts_dash {j : Json F} (h : j.isObject = false) : ¬ Accepts [0x2d] j := by
  have hindex : arrayIndex [0x2d] = none := by decide
  rw [Accepts]
  cases j with
  | object members => exact absurd h (by simp [isObject])
  | array elements => simp [vivify, hindex]
  | null => simp [vivify, isArrayToken, hindex]
  | boolean b => exact id
  | integer n => exact id
  | real x => exact id
  | string s => exact id

/-! ## Objects without their own names twice -/

mutual

/-- No object has two members of one name. -/
def distinct : Json F → Bool
  | array elements => distinctElements elements
  | object members => distinctMembers members
  | _ => true

/-- The elements of an array are `distinct`. -/
def distinctElements : List (Json F) → Bool
  | [] => true
  | j :: rest => distinct j && distinctElements rest

/-- The members of an object have different names and are `distinct`. -/
def distinctMembers : List (Text × Json F) → Bool
  | [] => true
  | (name, j) :: rest =>
    rest.all (fun member => decide (member.1 ≠ name)) && distinct j && distinctMembers rest

end

/-- The members of an object are what a look for their names finds. -/
theorem mem_iff_lookup {members : List (Text × Json F)} (h : distinctMembers members = true)
    {name : Text} {j : Json F} : (name, j) ∈ members ↔ members.lookup name = some j := by
  refine ⟨fun hmem => ?_, fun hlookup => ?_⟩
  rotate_left
  · obtain ⟨front, u, back, hmembers, -, hu, -⟩ := exists_split (by rw [hlookup]; rfl)
    rw [hlookup] at hu
    rw [hmembers, Option.some.inj hu]
    exact List.mem_append_right _ List.mem_cons_self
  induction members with
  | nil => exact absurd hmem List.not_mem_nil
  | cons member rest ih =>
    obtain ⟨n, u⟩ := member
    rw [distinctMembers, Bool.and_eq_true, Bool.and_eq_true, List.all_eq_true] at h
    obtain ⟨⟨hname, -⟩, hrest⟩ := h
    rw [List.lookup_cons]
    rcases List.mem_cons.mp hmem with heq | hmem
    · obtain ⟨rfl, rfl⟩ := Prod.mk.inj heq
      rw [beq_self_eq_true]
    · have hne : name ≠ n := by simpa using hname _ hmem
      rw [beq_false_of_ne hne]
      exact ih hrest hmem

/-- The members of a `distinct` object are `distinct`. -/
theorem distinct_of_mem {members : List (Text × Json F)} (h : distinctMembers members = true)
    {name : Text} {j : Json F} (hmem : (name, j) ∈ members) : j.distinct = true := by
  induction members with
  | nil => exact absurd hmem List.not_mem_nil
  | cons member rest ih =>
    obtain ⟨n, u⟩ := member
    rw [distinctMembers, Bool.and_eq_true, Bool.and_eq_true] at h
    rcases List.mem_cons.mp hmem with heq | hmem
    · obtain ⟨-, rfl⟩ := Prod.mk.inj heq
      exact h.1.2
    · exact ih h.2 hmem

/-- A property of the values that are no objects, and of each object whose members all have it, is a
property of every value. -/
@[elab_as_elim]
theorem object_induction {motive : Json F → Prop}
    (leaf : ∀ j, j.isObject = false → motive j)
    (object : ∀ members, (∀ name j, (name, j) ∈ members → motive j) → motive (object members)) :
    ∀ j, motive j
  | null => leaf _ rfl
  | boolean _ => leaf _ rfl
  | integer _ => leaf _ rfl
  | real _ => leaf _ rfl
  | string _ => leaf _ rfl
  | array _ => leaf _ rfl
  | .object members => object members fun name j hmem => by
      have hsize : sizeOf j < 1 + sizeOf members := by
        have hmember := List.sizeOf_lt_of_mem hmem
        rw [Prod.mk.sizeOf_spec] at hmember
        omega
      exact object_induction leaf object j
termination_by j => sizeOf j

end Json

end MyChat.JsonPointer
