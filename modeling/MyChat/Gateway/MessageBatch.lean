import MyChat.Gateway.MessageProcessor
import MyChat.Lib.Chunks

/-!
# Batches of messages

`CoroMessageProcessor` of `gateway/message_processor/coro_message_processor.cpp`, as far as a batch
goes. Its two modes take the messages one after another; the concurrent one does so in chunks of
`max_concurrent_tasks`, with a delay between them. `update_processing_options` takes any number, and
with zero the chunks are empty and the loop stays where it is.

`processesBatch_iff` says that this is the only way in which a batch goes wrong.
-/

namespace MyChat.Gateway

open Codec

/-- `CoroProcessorResult`. -/
structure CoroProcessorResult where
  /-- `status_code`. -/
  statusCode : ℤ
  /-- `error_message`. -/
  errorMessage : String
  /-- `protobuf_message`. -/
  protobufMessage : Bytes
  /-- `json_body`. -/
  jsonBody : String
  deriving DecidableEq, Repr

/-- The constructor for an error. -/
def CoroProcessorResult.error (code : BaseErrorCode) (errMsg : String) : CoroProcessorResult :=
  ⟨code.toNat, errMsg, [], ""⟩

/-- `CoroProcessingOptions`, without the switches for logging and the timeout, which a batch does
not look at. -/
structure CoroProcessingOptions where
  /-- `enable_concurrent_processing`. -/
  enableConcurrentProcessing : Bool := true
  /-- `max_concurrent_tasks`. -/
  maxConcurrentTasks : ℕ := 100
  deriving DecidableEq, Repr

/-- What a processor works with. It changes as the processors and the checks of tokens do their
work; each of these ends, with an exception that has a text where it does not return. -/
structure CoroEnv (σ : Type) where
  /-- `verify_access_token` of the `MultiPlatformAuthManager`. -/
  verifyAccessToken : String → String → σ → Except String Bool × σ
  /-- `coro_processor_map_`. -/
  coroProcessorMap : UInt32 → Option (UnifiedMessage → σ → Except String CoroProcessorResult × σ)

/-- `CoroMessageProcessor`, and the messages that `coro_process_message` was called with. -/
structure CoroMessageProcessor (σ : Type) where
  /-- `options_`. -/
  options : CoroProcessingOptions
  /-- `active_task_count_`. -/
  activeTaskCount : ℕ
  /-- What the processors and the checks of tokens find. -/
  world : σ
  /-- The calls of `coro_process_message`. -/
  processed : List (Option UnifiedMessage)

namespace CoroMessageProcessor

variable {σ : Type}

/-- `update_processing_options`. -/
def updateProcessingOptions (p : CoroMessageProcessor σ) (options : CoroProcessingOptions) :
    CoroMessageProcessor σ :=
  { p with options := options }

/-- `coro_verify_authentication`. -/
def coroVerifyAuthentication (env : CoroEnv σ) (message : UnifiedMessage) (world : σ) :
    Except String Bool × σ :=
  if message.header.token = "" then (.ok false, world)
  else env.verifyAccessToken message.header.token message.header.deviceId world

/-- The body of `coro_process_message` inside its `try`. -/
def attemptMessage (env : CoroEnv σ) (message : Option UnifiedMessage) (world : σ) :
    Except String CoroProcessorResult × σ :=
  match message with
  | none => (.ok (.error .invalidRequest "Invalid message"), world)
  | some message =>
    match coroVerifyAuthentication env message world with
    | (.error e, world) => (.error e, world)
    | (.ok false, world) => (.ok (.error .authFailed "Authentication failed"), world)
    | (.ok true, world) =>
      match env.coroProcessorMap message.header.cmdId with
      | none => (.ok (.error .notFound
          ("Unknown command: " ++ toString message.header.cmdId.toNat)), world)
      | some processor => processor message world

/-- `coro_process_message`. Each way out of it takes back what it has added to the active tasks. -/
def coroProcessMessage (env : CoroEnv σ) (message : Option UnifiedMessage)
    (p : CoroMessageProcessor σ) : CoroProcessorResult × CoroMessageProcessor σ :=
  let p := { p with
    activeTaskCount := p.activeTaskCount + 1
    processed := p.processed ++ [message] }
  let (outcome, world) := attemptMessage env message p.world
  let p := { p with activeTaskCount := p.activeTaskCount - 1, world := world }
  match outcome with
  | .ok result => (result, p)
  | .error e => (.error .serverError ("Exception: " ++ e), p)

end CoroMessageProcessor

/-- A batch that is under way. -/
structure MessageBatch (σ : Type) where
  /-- `messages`; one that was moved out is a null pointer. -/
  messages : List (Option UnifiedMessage)
  /-- `results`. -/
  results : List CoroProcessorResult
  /-- The processor. -/
  processor : CoroMessageProcessor σ

namespace CoroMessageProcessor

variable {σ : Type}

/-- The message at a place is moved out and processed. -/
def processAt (env : CoroEnv σ) (j : ℕ) (batch : MessageBatch σ) : MessageBatch σ :=
  let (result, processor) := coroProcessMessage env batch.messages[j]?.join batch.processor
  ⟨batch.messages.set j none, batch.results ++ [result], processor⟩

/-- `coro_process_messages_batch`; `none` when it has not ended after `fuel` chunks. The delay
between two chunks leaves everything as it is. -/
def coroProcessMessagesBatch (env : CoroEnv σ) (fuel : ℕ) (messages : List (Option UnifiedMessage))
    (p : CoroMessageProcessor σ) : Option (List CoroProcessorResult × CoroMessageProcessor σ) :=
  let batch : MessageBatch σ := ⟨messages, [], p⟩
  let done := if p.options.enableConcurrentProcessing = false then
      some (Chunks.range (processAt env) 0 messages.length batch)
    else
      let batchSize := min messages.length p.options.maxConcurrentTasks
      Chunks.loop (processAt env) batchSize messages.length fuel 0 batch
  done.map fun batch => (batch.results, batch.processor)

/-! ## What a batch is to do -/

/-- The results of the messages, one after another. -/
def processEach (env : CoroEnv σ) :
    List (Option UnifiedMessage) → CoroMessageProcessor σ →
      List CoroProcessorResult × CoroMessageProcessor σ
  | [], p => ([], p)
  | message :: messages, p =>
    let (result, p) := coroProcessMessage env message p
    let (results, p) := processEach env messages p
    (result :: results, p)

/-- The batch ends, with these results. -/
def Returns (env : CoroEnv σ) (messages : List (Option UnifiedMessage)) (p : CoroMessageProcessor σ)
    (results : List CoroProcessorResult) (p' : CoroMessageProcessor σ) : Prop :=
  ∃ fuel, coroProcessMessagesBatch env fuel messages p = some (results, p')

/-- The batch ends, with one result for each message: that of the message, after those before it.
Each message was processed once, in the order of the input, and the sequential mode has the same
results. -/
def ProcessesBatch (env : CoroEnv σ) (messages : List (Option UnifiedMessage))
    (p : CoroMessageProcessor σ) : Prop :=
  ∃ results p', Returns env messages p results p' ∧ results.length = messages.length ∧
    (∀ k message, messages[k]? = some message → results[k]? =
      some (coroProcessMessage env message (processEach env (messages.take k) p).2).1) ∧
    p'.processed = p.processed ++ messages ∧
    ∀ options, options.enableConcurrentProcessing = false →
      ∃ p'', Returns env messages (p.updateProcessingOptions options) results p''

/-! ## One after another -/

variable {env : CoroEnv σ} {messages : List (Option UnifiedMessage)} {p : CoroMessageProcessor σ}

/-- A call leaves the count of active tasks as it was, whichever way out it takes. -/
theorem coroProcessMessage_activeTaskCount (env : CoroEnv σ) (message : Option UnifiedMessage)
    (p : CoroMessageProcessor σ) :
    (coroProcessMessage env message p).2.activeTaskCount = p.activeTaskCount := by
  unfold coroProcessMessage
  dsimp only
  split
  · exact Nat.add_sub_cancel _ 1
  · exact Nat.add_sub_cancel _ 1

theorem coroProcessMessage_processed (env : CoroEnv σ) (message : Option UnifiedMessage)
    (p : CoroMessageProcessor σ) :
    (coroProcessMessage env message p).2.processed = p.processed ++ [message] := by
  unfold coroProcessMessage
  dsimp only
  split
  · rfl
  · rfl

/-- The options make no difference to a message. -/
theorem coroProcessMessage_updateProcessingOptions (env : CoroEnv σ)
    (message : Option UnifiedMessage) (p : CoroMessageProcessor σ)
    (options : CoroProcessingOptions) :
    coroProcessMessage env message (p.updateProcessingOptions options) =
      ((coroProcessMessage env message p).1,
        (coroProcessMessage env message p).2.updateProcessingOptions options) := by
  unfold coroProcessMessage updateProcessingOptions
  dsimp only
  split
  · rfl
  · rfl

theorem processEach_updateProcessingOptions (messages : List (Option UnifiedMessage))
    (p : CoroMessageProcessor σ) (options : CoroProcessingOptions) :
    processEach env messages (p.updateProcessingOptions options) =
      ((processEach env messages p).1,
        (processEach env messages p).2.updateProcessingOptions options) := by
  induction messages generalizing p with
  | nil => rfl
  | cons message messages ih =>
    rw [processEach, coroProcessMessage_updateProcessingOptions]
    dsimp only
    rw [ih]
    rfl

theorem processEach_length (messages : List (Option UnifiedMessage)) (p : CoroMessageProcessor σ) :
    (processEach env messages p).1.length = messages.length := by
  induction messages generalizing p with
  | nil => rfl
  | cons message messages ih => exact congrArg (· + 1) (ih _)

theorem processEach_processed (messages : List (Option UnifiedMessage))
    (p : CoroMessageProcessor σ) :
    (processEach env messages p).2.processed = p.processed ++ messages := by
  induction messages generalizing p with
  | nil => exact (List.append_nil _).symm
  | cons message messages ih =>
    have hrest := ih (coroProcessMessage env message p).2
    rw [coroProcessMessage_processed, List.append_assoc] at hrest
    exact hrest

/-- The last message. -/
theorem processEach_concat (messages : List (Option UnifiedMessage))
    (message : Option UnifiedMessage) (p : CoroMessageProcessor σ) :
    processEach env (messages ++ [message]) p =
      ((processEach env messages p).1 ++
          [(coroProcessMessage env message (processEach env messages p).2).1],
        (coroProcessMessage env message (processEach env messages p).2).2) := by
  induction messages generalizing p with
  | nil => rfl
  | cons first messages ih =>
    rw [List.cons_append, processEach]
    dsimp only
    rw [ih]
    rfl

/-- The result of a message is that after the messages before it. -/
theorem processEach_getElem? (messages : List (Option UnifiedMessage)) (p : CoroMessageProcessor σ)
    {k : ℕ} {message : Option UnifiedMessage} (h : messages[k]? = some message) :
    (processEach env messages p).1[k]? =
      some (coroProcessMessage env message (processEach env (messages.take k) p).2).1 := by
  induction messages generalizing p k with
  | nil => exact absurd h (by simp)
  | cons first messages ih =>
    cases k with
    | zero =>
      obtain rfl := Option.some.inj h
      rfl
    | succ k => exact ih (coroProcessMessage env first p).2 h

/-! ## The loops -/

/-- The loop over the messages processes one after another. -/
theorem range_processAt (env : CoroEnv σ) (messages : List (Option UnifiedMessage))
    (p : CoroMessageProcessor σ) :
    (Chunks.range (processAt env) 0 messages.length ⟨messages, [], p⟩).results =
        (processEach env messages p).1 ∧
      (Chunks.range (processAt env) 0 messages.length ⟨messages, [], p⟩).processor =
        (processEach env messages p).2 := by
  -- The messages from the next place on are still there.
  have hinv := Chunks.range_inv (processAt env) messages.length
    (I := fun j batch => batch.messages.drop j = messages.drop j ∧
      batch.results = (processEach env (messages.take j) p).1 ∧
      batch.processor = (processEach env (messages.take j) p).2)
    (fun j batch hj ⟨hrest, hresults, hprocessor⟩ => ?_)
    (b := ⟨messages, [], p⟩) ⟨rfl, rfl, rfl⟩
  · rw [List.take_length] at hinv
    exact hinv.2
  · obtain ⟨message, hmessage⟩ : ∃ message, messages[j]? = some message :=
      ⟨messages[j], List.getElem?_eq_getElem hj⟩
    have hat : batch.messages[j]? = some message := by
      have hzero := congrArg (·[0]?) hrest
      simp only [List.getElem?_drop, Nat.add_zero] at hzero
      rw [hzero, hmessage]
    have htake : messages.take (j + 1) = messages.take j ++ [message] := by
      rw [List.take_add_one, hmessage]
      rfl
    refine ⟨?_, ?_, ?_⟩
    · change (batch.messages.set j none).drop (j + 1) = messages.drop (j + 1)
      have hnext := congrArg (List.drop 1) hrest
      rw [List.drop_drop, List.drop_drop] at hnext
      rw [List.drop_set_of_lt (Nat.lt_succ_self j), hnext]
    · change batch.results ++
        [(coroProcessMessage env batch.messages[j]?.join batch.processor).1] = _
      rw [htake, processEach_concat, hat, hresults, hprocessor]
      rfl
    · change (coroProcessMessage env batch.messages[j]?.join batch.processor).2 = _
      rw [htake, processEach_concat, hat, hprocessor]
      rfl

/-- A batch ends when its chunks are not empty, or there is none, and its results are those of the
messages, one after another. -/
theorem returns_processEach (hoptions : p.options.enableConcurrentProcessing = false ∨
      0 < p.options.maxConcurrentTasks ∨ messages = []) :
    Returns env messages p (processEach env messages p).1 (processEach env messages p).2 := by
  obtain ⟨hresults, hprocessor⟩ := range_processAt env messages p
  refine ⟨messages.length + 1, ?_⟩
  unfold coroProcessMessagesBatch
  dsimp only
  by_cases hmode : p.options.enableConcurrentProcessing = false
  · rw [if_pos hmode, Option.map_some, hresults, hprocessor]
  · have hloop : Chunks.loop (processAt env) (min messages.length p.options.maxConcurrentTasks)
        messages.length (messages.length + 1) 0 ⟨messages, [], p⟩ =
        some (Chunks.range (processAt env) 0 messages.length ⟨messages, [], p⟩) := by
      rcases Nat.eq_zero_or_pos messages.length with hzero | hpos
      · rw [hzero, Chunks.loop_of_le (Nat.le_refl 0), Chunks.range_of_le _ (Nat.le_refl 0)]
      · have hne : messages ≠ [] := List.ne_nil_of_length_pos hpos
        have htasks := (hoptions.resolve_left hmode).resolve_right hne
        exact Chunks.loop_eq (by omega) (by omega) _
    rw [if_neg hmode, hloop, Option.map_some, hresults, hprocessor]

/-- With empty chunks a batch that is not empty does not end. -/
theorem not_returns (hmode : p.options.enableConcurrentProcessing ≠ false)
    (htasks : p.options.maxConcurrentTasks = 0) (hne : messages ≠ [])
    (results : List CoroProcessorResult) (p' : CoroMessageProcessor σ) :
    ¬ Returns env messages p results p' := by
  rintro ⟨fuel, hbatch⟩
  have hpos : 0 < messages.length := List.length_pos_iff.mpr hne
  unfold coroProcessMessagesBatch at hbatch
  dsimp only at hbatch
  rw [if_neg hmode, htasks, Nat.min_zero, Chunks.loop_zero hpos, Option.map_none] at hbatch
  exact absurd hbatch.symm (Option.some_ne_none _)

/-- A batch is processed as it should be just when it is not made of empty chunks: in the sequential
mode, with a positive `max_concurrent_tasks`, or when there is no message. -/
theorem processesBatch_iff (env : CoroEnv σ) (messages : List (Option UnifiedMessage))
    (p : CoroMessageProcessor σ) :
    ProcessesBatch env messages p ↔ p.options.enableConcurrentProcessing = false ∨
      0 < p.options.maxConcurrentTasks ∨ messages = [] := by
  constructor
  · rintro ⟨results, p', hreturns, -⟩
    by_contra hnot
    simp only [not_or, Nat.not_lt, Nat.le_zero] at hnot
    obtain ⟨hmode, htasks, hne⟩ := hnot
    exact not_returns hmode htasks hne results p' hreturns
  · intro hoptions
    refine ⟨_, _, returns_processEach hoptions, processEach_length messages p,
      fun k message h => processEach_getElem? messages p h, processEach_processed messages p,
      fun options hmode => ?_⟩
    -- The sequential mode does the same, whatever the options were.
    have hreturns : Returns env messages (p.updateProcessingOptions options) _ _ :=
      returns_processEach (.inl hmode)
    rw [processEach_updateProcessingOptions] at hreturns
    exact ⟨_, hreturns⟩

/-! ### No tasks at all -/

/-- A processor that has just been set up with `max_concurrent_tasks` zero. -/
def noTasks : CoroMessageProcessor Unit :=
  { options := { maxConcurrentTasks := 0 }, activeTaskCount := 0, world := (), processed := [] }

/-- No token is valid, and no command has a processor. -/
def refusing : CoroEnv Unit := ⟨fun _ _ world => (.ok false, world), fun _ => none⟩

/-- A batch of one null message does not end. -/
theorem not_processesBatch : ¬ ProcessesBatch refusing [none] noTasks := by
  rintro ⟨results, p', hreturns, -⟩
  exact not_returns Bool.noConfusion rfl (List.cons_ne_nil none []) results p' hreturns

end CoroMessageProcessor

end MyChat.Gateway
