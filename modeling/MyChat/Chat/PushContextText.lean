import MyChat.Chat.PushRuntime
import MyChat.Lib.JsonText

/-!
# The context of a push as JSON

`build_context_ext` of `services/push/push_runtime.cpp` writes the non-empty fields of a
`PushContext` as a JSON object, with `json_escape` for their values. `json_escape` knows the
backslash, the quotation mark and three control characters; every other control character is copied
as it is, and a JSON string may not hold one.

`buildContextExt_eq_ofList` writes the text in the shape that the parser's lemmas are about, and
`parse_buildContextExt` is what a parser makes of it: the object, or a refusal when a field has a
control character that is not escaped.
-/

namespace MyChat.Chat

open JsonText

/-! ## The escapes -/

/-- A character that reaches a JSON reader as itself: no control character but those that
`json_escape` has an escape for. -/
def Escapable (ch : Char) : Prop := 0x20 ≤ ch.toNat ∨ ch = '\n' ∨ ch = '\r' ∨ ch = '\t'

instance (ch : Char) : Decidable (Escapable ch) := inferInstanceAs (Decidable (_ ∨ _))

/-- What `json_escape` writes for one character. -/
def escapeChar (ch : Char) : List Char :=
  (match ch with
  | '\\' => "\\\\"
  | '"' => "\\\""
  | '\n' => "\\n"
  | '\r' => "\\r"
  | '\t' => "\\t"
  | ch => ch.toString).toList

theorem toList_jsonEscape (value : String) :
    (jsonEscape value).toList = value.toList.flatMap escapeChar := by
  rw [jsonEscape, String.toList_join, List.flatMap_map]
  rfl

/-- A reader of what `json_escape` writes for a character gets the character, unless it is a
control character without an escape. -/
theorem reads_escapeChar (ch : Char) :
    Reads (escapeChar ch) (if Escapable ch then some ch else none) := by
  intro rest
  unfold escapeChar
  split
  case h_6 hslash hquote hn hr ht =>
    have hself : ch.toString.toList = [ch] := String.toList_singleton ch
    rw [hself]
    have hesc : Escapable ch ↔ ¬ ch.toNat < 0x20 := by
      simp only [Escapable, not_lt]
      constructor
      · rintro (h | h | h | h)
        · exact h
        · exact absurd h hn
        · exact absurd h hr
        · exact absurd h ht
      · exact Or.inl
    by_cases h : ch.toNat < 0x20
    · rw [if_neg (by rw [hesc]; exact not_not_intro h)]
      refine ⟨fun h => hquote (Option.some.inj h), ?_⟩
      rw [List.singleton_append, readChar, if_neg hslash, if_pos h]
      rfl
    · rw [if_pos (hesc.mpr h)]
      exact reads_self hquote hslash (not_lt.mp h) rest
  all_goals exact ⟨by simp, rfl⟩

/-- Collecting what passes a test of each element: all of it, or nothing. -/
theorem mapM_ite {α β : Type} (p : α → Prop) [DecidablePred p] (f : α → β) (l : List α) :
    l.mapM (fun a => if p a then some (f a) else none) =
      if ∀ a ∈ l, p a then some (l.map f) else none := by
  induction l with
  | nil => rfl
  | cons a l ih =>
    rw [List.mapM_cons, ih]
    by_cases ha : p a <;> by_cases hl : ∀ a ∈ l, p a
    · rw [if_pos ha, if_pos hl, if_pos (List.forall_mem_cons.mpr ⟨ha, hl⟩)]
      rfl
    · rw [if_pos ha, if_neg hl, if_neg fun h => hl (List.forall_mem_cons.mp h).2]
      rfl
    · rw [if_neg ha, if_neg fun h => ha (List.forall_mem_cons.mp h).1]
      rfl
    · rw [if_neg ha, if_neg fun h => ha (List.forall_mem_cons.mp h).1]
      rfl

/-! ## The object -/

/-- The fields of a context that `build_context_ext` writes, with their names. -/
def contextFields (context : PushContext) : List (String × String) :=
  [("sender_uid", context.senderUid), ("conversation_type", context.conversationType),
    ("conversation_id", context.conversationId)].filter fun field => field.2 ≠ ""

/-- The object that a context denotes. -/
def contextObject (context : PushContext) : Value :=
  .object ((contextFields context).map fun field => (field.1, .text field.2))

/-- Every field has only characters that reach a reader as themselves. -/
def ContextEscapable (context : PushContext) : Prop :=
  ∀ value ∈ [context.senderUid, context.conversationType, context.conversationId],
    ∀ ch ∈ value.toList, Escapable ch

instance (context : PushContext) : Decidable (ContextEscapable context) :=
  inferInstanceAs (Decidable (∀ value ∈ _, ∀ ch ∈ _, _))

theorem contextFields_eq_nil_iff (context : PushContext) :
    contextFields context = [] ↔
      context.senderUid = "" ∧ context.conversationType = "" ∧ context.conversationId = "" := by
  simp [contextFields, List.filter_eq_nil_iff]

/-- The text is empty exactly when no field is written. -/
theorem buildContextExt_eq_empty_iff (context : PushContext) :
    buildContextExt context = "" ↔ contextFields context = [] := by
  show (if contextFields context = [] then _ else _) = "" ↔ _
  by_cases h : contextFields context = []
  · simp [h]
  · rw [if_neg h, ← String.toList_inj]
    simp [h]

/-- The text in the shape of the parser's lemmas. -/
theorem buildContextExt_eq_ofList {context : PushContext} (h : contextFields context ≠ []) :
    buildContextExt context =
      String.ofList ('\x7b' :: ([','].intercalate ((contextFields context).map fun field =>
        memberText field.1.toList (field.2.toList.flatMap escapeChar)) ++ ['\x7d'])) := by
  show (if contextFields context = [] then _ else _) = _
  rw [if_neg h, ← String.toList_inj, String.toList_ofList, String.toList_append,
    String.toList_append, String.toList_intercalate, List.map_map]
  have hmember : (String.toList ∘ fun field : String × String =>
      "\"" ++ field.1 ++ "\":\"" ++ jsonEscape field.2 ++ "\"") =
      fun field => memberText field.1.toList (field.2.toList.flatMap escapeChar) := by
    funext field
    simp [memberText, toList_jsonEscape, String.toList_append]
  rw [hmember]
  rfl

/-- The names of the fields need no escapes. -/
theorem reads_name {context : PushContext} {field : String × String}
    (h : field ∈ contextFields context) : ∀ ch ∈ field.1.toList, Reads [ch] (some ch) := by
  have hplain : ∀ name ∈ ["sender_uid", "conversation_type", "conversation_id"],
      name.toList.all fun ch => ch != '"' && ch != '\\' && decide (0x20 ≤ ch.toNat) := by
    decide
  have hname : field.1 ∈ ["sender_uid", "conversation_type", "conversation_id"] := by
    have := (List.mem_filter.mp h).1
    simp only [List.mem_cons, List.not_mem_nil, or_false] at this ⊢
    rcases this with rfl | rfl | rfl <;> simp
  intro ch hch
  have hok := List.all_eq_true.mp (hplain field.1 hname) ch hch
  simp only [Bool.and_eq_true, bne_iff_ne, decide_eq_true_eq] at hok
  exact reads_self hok.1.1 hok.1.2 hok.2

/-- What a parser makes of the text: the object of the fields, or a refusal. -/
theorem parse_buildContextExt {context : PushContext} (h : contextFields context ≠ []) :
    ((∀ field ∈ contextFields context, ∀ ch ∈ field.2.toList, Escapable ch) →
      parse (buildContextExt context) = some (contextObject context)) ∧
    ((¬ ∀ field ∈ contextFields context, ∀ ch ∈ field.2.toList, Escapable ch) →
      parse (buildContextExt context) = none) := by
  have hmember : ∀ field ∈ contextFields context, ∀ n rest,
      readMember (readValue (n + 1))
          (memberText field.1.toList (field.2.toList.flatMap escapeChar) ++ rest) =
        (if ∀ ch ∈ field.2.toList, Escapable ch then some (field.1, Value.text field.2)
          else none).map (·, rest) := by
    intro field hfield n rest
    rw [readMember_memberText n (reads_name hfield) (fun ch _ => reads_escapeChar ch) rest,
      mapM_ite Escapable (fun ch => ch)]
    by_cases hok : ∀ ch ∈ field.2.toList, Escapable ch
    · rw [if_pos hok, if_pos hok, List.map_id']
      simp only [Option.map_some, String.ofList_toList]
    · rw [if_neg hok, if_neg hok]
      rfl
  rw [buildContextExt_eq_ofList h, parse_object h hmember (fun field _ => rfl),
    mapM_ite (fun field : String × String => ∀ ch ∈ field.2.toList, Escapable ch)
      (fun field => (field.1, Value.text field.2))]
  constructor
  · intro hok
    rw [if_pos hok]
    rfl
  · intro hbad
    rw [if_neg hbad]
    rfl

/-- A context is escapable when the fields that are written are: the others are empty. -/
theorem contextEscapable_iff (context : PushContext) :
    ContextEscapable context ↔
      ∀ field ∈ contextFields context, ∀ ch ∈ field.2.toList, Escapable ch := by
  constructor
  · intro h field hfield
    refine h field.2 ?_
    have := (List.mem_filter.mp hfield).1
    simp only [List.mem_cons, List.not_mem_nil, or_false] at this ⊢
    rcases this with rfl | rfl | rfl <;> simp
  · intro h value hvalue ch hch
    have hne : value ≠ "" := by
      rintro rfl
      simp at hch
    simp only [List.mem_cons, List.not_mem_nil, or_false] at hvalue
    rcases hvalue with rfl | rfl | rfl
    · exact h ("sender_uid", _) (by simp [contextFields, hne]) ch hch
    · exact h ("conversation_type", _) (by simp [contextFields, hne]) ch hch
    · exact h ("conversation_id", _) (by simp [contextFields, hne]) ch hch

/-- The text denotes the context: it is empty for the empty context, and otherwise a parser reads
the object of its fields. -/
def ContextDenoted (context : PushContext) : Prop :=
  (buildContextExt context = "" ↔ context.senderUid = "" ∧ context.conversationType = "" ∧
    context.conversationId = "") ∧
  (buildContextExt context ≠ "" → parse (buildContextExt context) = some (contextObject context))

/-- The text denotes the context exactly when no field has a control character without an
escape. -/
theorem contextDenoted_iff (context : PushContext) :
    ContextDenoted context ↔ ContextEscapable context := by
  rw [contextEscapable_iff, ContextDenoted, buildContextExt_eq_empty_iff,
    contextFields_eq_nil_iff, ne_eq, buildContextExt_eq_empty_iff]
  refine ⟨fun ⟨_, h⟩ => ?_, fun h => ⟨Iff.rfl, fun hne => ?_⟩⟩
  · by_cases hne : contextFields context = []
    · simp [hne]
    · by_contra hbad
      have hnone := (parse_buildContextExt hne).2 hbad
      rw [h hne] at hnone
      exact absurd hnone (by simp)
  · exact (parse_buildContextExt hne).1 h

/-- A sender uid with the character U+0001 in it: the text is not JSON. -/
theorem contextDenoted_control :
    ¬ ContextDenoted ⟨"a\x01b", "", ""⟩ := by
  intro h
  have hparse := h.2 (by decide)
  have hnone : (parse (buildContextExt ⟨"a\x01b", "", ""⟩)).isSome = false := by decide +kernel
  rw [hparse] at hnone
  exact absurd hnone (by simp)

end MyChat.Chat
