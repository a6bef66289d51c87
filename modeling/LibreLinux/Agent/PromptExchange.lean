import LibreLinux.Agent.PromptCalls
import LibreLinux.Prompter.EncodedReplies
import LibreLinux.Prompter.Provenance

/-!
# A prompt from the agent to the holder and back

The two processes and the bus between them. What the client sends is in flight until it
arrives, in any order and arbitrarily late. A prompt that arrives is given a reply handle of
the prompter, and the reply that uses this handle goes back to the call that sent it: its
word, and its sealed descriptors among those of the agent. Other callers, the holder and the
GUI thread take steps of the prompter as they like.

A secret that a call returns is then what the holder had entered, in the window that was
raised for this very call, when they accepted it.
-/

namespace LibreLinux.Agent

open Wire Prompter

/-- The agent's client, the prompter, what is in flight to it, and the reply handle that each
arrived prompt was given. -/
structure Exchange where
  client : PrompterClient := {}
  service : Service := {}
  flight : List BusCall := []
  handles : List (Nat × RequestId) := []

/-- What can happen to the two processes. The agent's process id is what the bus says of it;
it is zero when the prompter does not trust the caller. -/
inductive ExchangeEvent where
  | client (event : ClientEvent)
  | arrive (index : Nat) (callerPid : Pid) (delivery : Delivery) (now : Nat) (memfds : Memfds)
  | service (event : Service.Event)
  | reply (call : Nat) (answer : Prompter.Answer) (table : FileTable) (primary secondary : Reading)

/-- The call a prompt was sent for. -/
def promptedBy : BusCall → Option Nat
  | .requestSecret call _ _ => some call
  | .requestSecrets call _ _ => some call
  | _ => none

/-- What an arrived message makes the prompter do. Reading its version does nothing to it. -/
def handled (callerPid : Pid) (delivery : Delivery) (now : Nat) (memfds : Memfds) :
    BusCall → Option Service.Event
  | .requestSecret _ kind options =>
    some (.requestSecret callerPid kind options delivery now memfds)
  | .requestSecrets _ kind options =>
    some (.requestSecrets callerPid kind options delivery now memfds)
  | .cancel _ promptId => some (.cancel promptId callerPid delivery now memfds)
  | .reset => some (.reset callerPid delivery now memfds)
  | .probe _ => none

/-- A sealed memfd as a file. -/
def sealedFile (fd : SealedMemfd) : File := ⟨utf8Bytes fd.content, some kCreatorSeals⟩

/-- The descriptors of a reply among those of the agent. A reply without a descriptor of its
own is not sent. -/
def received (table : FileTable) : List (Option SealedMemfd) →
    Option (FileTable × Option Nat × Option Nat)
  | [some primary] => some (table.create (sealedFile primary), some table.next, none)
  | [some primary, some secondary] =>
    some ((table.create (sealedFile primary)).create (sealedFile secondary), some table.next,
      some (table.next + 1))
  | _ => none

/-- Whether the client is given a reply. -/
def ClientEvent.replied : ClientEvent → Bool
  | .finish _ ended => ended.replies
  | _ => false

namespace Exchange

variable (vocabulary : Vocabulary) (maxSecretBytes : Nat) (strerror : Errno → String)

/-- The client moves on; what it sent takes off. -/
def clientStep (exchange : Exchange) (event : ClientEvent) : Option Exchange :=
  (exchange.client.step vocabulary maxSecretBytes strerror event).map (fun client =>
    { exchange with client
                    flight := exchange.flight ++ client.log.drop exchange.client.log.length })

/-- The step of the prompter that an event brings about. -/
def serviceEvent (exchange : Exchange) : ExchangeEvent → Option Service.Event
  | .arrive index callerPid delivery now memfds =>
    (exchange.flight[index]?).bind (handled callerPid delivery now memfds)
  | .service event => some event
  | _ => none

/-- What arrives leaves the flight; a prompt gets the next reply handle. -/
def landed (exchange : Exchange) : ExchangeEvent → Exchange
  | .arrive index _ _ _ _ =>
    { exchange with
      flight := exchange.flight.eraseIdx index
      handles := exchange.handles ++
        ((exchange.flight[index]?).bind promptedBy).toList.map
          (fun call => (call, exchange.service.nextRequest)) }
  | _ => exchange

/-- One step. A reply is one that the prompter sent, for the handle of the call. -/
def step (exchange : Exchange) (event : ExchangeEvent) : Option Exchange :=
  match event with
  | .client event =>
    if event.replied then none else exchange.clientStep vocabulary maxSecretBytes strerror event
  | .reply call answer table primary secondary =>
    if (call, answer.request) ∈ exchange.handles ∧ answer ∈ exchange.service.answers then
      (received table answer.fds).bind (fun (table, primaryFd, secondaryFd) =>
        exchange.clientStep vocabulary maxSecretBytes strerror (.finish call
          (.replied (vocabulary.replyStatusToken answer.status) primaryFd secondaryFd "" table
            primary secondary)))
    else none
  | _ =>
    (exchange.serviceEvent event).bind (fun serviceEvent =>
      (Service.step exchange.service serviceEvent).map (fun service =>
        { exchange.landed event with service }))

/-- The past of the prompter in a past of the two. -/
def servicePast (past : List (Exchange × ExchangeEvent)) : Service.Past :=
  past.filterMap (fun (exchange, event) =>
    (exchange.serviceEvent event).map (fun serviceEvent => (exchange.service, serviceEvent)))

end Exchange

/-! ## The client -/

namespace PrompterClient

variable {vocabulary : Vocabulary} (maxSecretBytes : Nat) (strerror : Errno → String)

/-- A step only adds to what was sent. -/
theorem log_grows (client : PrompterClient) (event : ClientEvent) (next : PrompterClient)
    (stepped : step vocabulary maxSecretBytes strerror client event = some next) :
    ∃ sent, next.log = client.log ++ sent := by
  rcases step_cases maxSecretBytes strerror client event next stepped with
    ⟨method, rfl, rfl⟩ | ⟨call, probe, method, rfl, present, rfl⟩ |
    ⟨call, method, rfl, present, rfl⟩ | ⟨call, ended, method, stage, rfl, present, running, finished⟩ |
    ⟨call, method, userMessage, rfl, present, rfl⟩ | ⟨promptId, rfl, rfl⟩ | ⟨rfl, rfl⟩
  · exact ⟨[], (List.append_nil _).symm⟩
  · simp only [checkUsable]
    split <;> exact ⟨_, rfl⟩
  · exact ⟨_, rfl⟩
  · cases ended with
    | busError userMessage =>
      cases Option.some.inj finished
      exact ⟨[], (List.append_nil _).symm⟩
    | exception userMessage =>
      cases Option.some.inj finished
      exact ⟨[], (List.append_nil _).symm⟩
    | replied =>
      obtain ⟨outcome, -, rfl⟩ := Option.map_eq_some_iff.mp finished
      exact ⟨[], (List.append_nil _).symm⟩
  · exact ⟨_, rfl⟩
  · exact ⟨_, rfl⟩
  · exact ⟨_, rfl⟩

/-- A call keeps its method. -/
theorem method_kept (client : PrompterClient) (event : ClientEvent) (next : PrompterClient)
    (stepped : step vocabulary maxSecretBytes strerror client event = some next) (call : Nat)
    (method : PromptMethod) (present : ∃ stage, client.calls[call]? = some (method, stage)) :
    ∃ stage, next.calls[call]? = some (method, stage) := by
  obtain ⟨stage, present⟩ := present
  have bounded : call < client.calls.length := (List.getElem?_eq_some_iff.mp present).1
  rcases step_moves maxSecretBytes strerror client event next stepped with
    ⟨added, appended⟩ | ⟨moved, mover, old, new, before, updated, -⟩
  · rw [appended, List.getElem?_append_left bounded]
    exact ⟨stage, present⟩
  · rw [updated, List.getElem?_set]
    by_cases same : moved = call
    · subst same
      cases Option.some.inj (present.symm.trans before)
      exact ⟨new, by simp [bounded]⟩
    · exact ⟨stage, by rw [if_neg same]; exact present⟩

/-- A call that has returned did so before, or without a secret, or with a reply. -/
theorem returned_cases (client : PrompterClient) (event : ClientEvent) (next : PrompterClient)
    (stepped : step vocabulary maxSecretBytes strerror client event = some next) (call : Nat)
    (method : PromptMethod) (ending : Ending) (outcome : PromptOutcome)
    (present : next.calls[call]? = some (method, .returned ending outcome)) :
    client.calls[call]? = some (method, .returned ending outcome) ∨
      (∃ status userMessage, outcome = method.without status userMessage) ∨
      ∃ rawStatus primaryFd secondaryFd userMessage table primary secondary,
        event = .finish call (.replied rawStatus primaryFd secondaryFd userMessage table primary
          secondary) ∧
        replyOutcome vocabulary maxSecretBytes strerror method rawStatus primaryFd secondaryFd
          userMessage table primary secondary = some outcome := by
  -- A call that moved is the one looked at, or leaves it as it was.
  have moved : ∀ (id : Nat) (mover : PromptMethod) (stage : PromptStage),
      (client.calls.set id (mover, stage))[call]? = some (method, .returned ending outcome) →
      client.calls[call]? = some (method, .returned ending outcome) ∨
        id = call ∧ mover = method ∧ stage = .returned ending outcome := by
    intro id mover stage updated
    rw [List.getElem?_set] at updated
    split_ifs at updated with same inside
    · obtain ⟨rfl, rfl⟩ := Prod.mk.inj (Option.some.inj updated)
      exact Or.inr ⟨same, rfl, rfl⟩
    · exact Or.inl updated
  rcases step_cases maxSecretBytes strerror client event next stepped with
    ⟨entered, rfl, rfl⟩ | ⟨id, probe, mover, rfl, before, rfl⟩ |
    ⟨id, mover, rfl, before, rfl⟩ | ⟨id, ended, mover, stage, rfl, before, running, finished⟩ |
    ⟨id, mover, userMessage, rfl, before, rfl⟩ | ⟨promptId, rfl, rfl⟩ | ⟨rfl, rfl⟩
  · rw [List.getElem?_append] at present
    split_ifs at present with inside
    · exact Or.inl present
    · rcases List.getElem?_eq_some_iff.mp present with ⟨bound, last⟩
      simp at last
  · simp only [checkUsable] at present
    split at present
    · rcases moved _ _ _ present with same | ⟨-, -, other⟩
      · exact Or.inl same
      · cases other
    · rename_i status userMessage refused
      rcases moved _ _ _ present with same | ⟨-, rfl, other⟩
      · exact Or.inl same
      · cases other
        exact Or.inr (Or.inl ⟨status, userMessage, rfl⟩)
  · rcases moved _ _ _ present with same | ⟨-, -, other⟩
    · exact Or.inl same
    · cases other
  · cases ended with
    | busError userMessage =>
      cases Option.some.inj finished
      rcases moved _ _ _ present with same | ⟨-, -, other⟩
      · exact Or.inl same
      · cases other
    | exception userMessage =>
      cases Option.some.inj finished
      rcases moved _ _ _ present with same | ⟨-, rfl, other⟩
      · exact Or.inl same
      · cases other
        exact Or.inr (Or.inl ⟨.error, userMessage, rfl⟩)
    | replied rawStatus primaryFd secondaryFd userMessage table primary secondary =>
      obtain ⟨produced, replied, rfl⟩ := Option.map_eq_some_iff.mp finished
      rcases moved _ _ _ present with same | ⟨rfl, rfl, other⟩
      · exact Or.inl same
      · cases other
        exact Or.inr (Or.inr ⟨rawStatus, primaryFd, secondaryFd, userMessage, table, primary,
          secondary, rfl, replied⟩)
  · rcases moved _ _ _ present with same | ⟨-, rfl, other⟩
    · exact Or.inl same
    · cases other
      exact Or.inr (Or.inl ⟨.error, userMessage, rfl⟩)
  · exact Or.inl present
  · exact Or.inl present

/-- At every stage a call has sent its message at most once, and perhaps cancelled it. -/
theorem staged_attempted (call : Nat) (method : PromptMethod) (sent : List BusCall)
    (stage : PromptStage) (staged : Staged vocabulary call method sent stage) :
    ∃ attempted, Attempted vocabulary call method attempted ∧
      (sent = attempted ∨ sent = attempted ++ [.cancel (some call) method.options.promptId]) := by
  cases stage with
  | checking => exact ⟨[], Or.inl rfl, Or.inl staged⟩
  | calling => exact ⟨[], Or.inl rfl, Or.inl staged⟩
  | waiting => exact ⟨sent, Or.inr staged, Or.inl rfl⟩
  | cancelling userMessage => exact ⟨sent, staged, Or.inl rfl⟩
  | returned ending outcome =>
    cases ending with
    | refused => exact ⟨[], Or.inl rfl, Or.inl staged.2⟩
    | exception => exact ⟨sent, staged.2, Or.inl rfl⟩
    | replied => exact ⟨sent, Or.inr staged.2, Or.inl rfl⟩
    | busError =>
      obtain ⟨-, attempted, tried, same⟩ := staged
      exact ⟨attempted, tried, Or.inr same⟩

/-- The message of a call is a prompt for it. -/
theorem message_prompts (call : Nat) (method : PromptMethod) :
    promptedBy (message vocabulary call method) = some call := by
  cases method <;> rfl

/-- What a call has sent holds no prompt but its message, and that at most once. -/
theorem staged_prompts (call : Nat) (method : PromptMethod) (sent : List BusCall)
    (stage : PromptStage) (staged : Staged vocabulary call method sent stage) :
    (∀ entry ∈ sent, ∀ id, promptedBy entry = some id → entry = message vocabulary call method) ∧
      (sent.filterMap promptedBy = [] ∨ sent.filterMap promptedBy = [call]) := by
  obtain ⟨attempted, tried, shape⟩ := staged_attempted call method sent stage staged
  have cancelled : promptedBy (.cancel (some call) method.options.promptId) = none := rfl
  rcases tried with rfl | rfl <;> rcases shape with rfl | rfl <;>
    simp [message_prompts, cancelled]

/-- A prompt that was sent is the message of its call. -/
theorem prompt_is_message {client : PrompterClient} (disciplined : client.Disciplined vocabulary)
    (entry : BusCall) (member : entry ∈ client.log) (call : Nat)
    (prompted : promptedBy entry = some call) :
    ∃ method stage, client.calls[call]? = some (method, stage) ∧
      entry = message vocabulary call method := by
  have sent : sentBy entry = some call := by cases entry <;> first | exact prompted | cases prompted
  have bounded := disciplined.numbered entry member call sent
  have present : client.calls[call]? = some client.calls[call] := List.getElem?_eq_getElem bounded
  have listed : entry ∈ sentFor call client.log := List.mem_filter.mpr ⟨member, by simp [sent]⟩
  have staged := disciplined.staged call _ _ present
  exact ⟨_, _, present, (staged_prompts call _ _ _ staged).1 entry listed call prompted⟩

/-- The prompts for one call are among what was sent for it. -/
theorem count_prompts (call : Nat) (log : List BusCall) :
    (log.filterMap promptedBy).count call = ((sentFor call log).filterMap promptedBy).count call := by
  induction log with
  | nil => rfl
  | cons entry rest inductionHypothesis =>
    rw [sentFor] at inductionHypothesis ⊢
    cases prompted : promptedBy entry with
    | none =>
      rw [List.filterMap_cons_none prompted, inductionHypothesis, List.filter_cons]
      split
      · rw [List.filterMap_cons_none prompted]
      · rfl
    | some id =>
      have sent : sentBy entry = some id := by
        cases entry <;> first | exact prompted | cases prompted
      rw [List.filterMap_cons_some prompted, List.count_cons, inductionHypothesis]
      by_cases same : id = call
      · rw [List.filter_cons_of_pos (by simp [sent, same]), List.filterMap_cons_some prompted,
          List.count_cons]
      · rw [List.filter_cons_of_neg (by simp [sent, same])]
        simp [same]

/-- No call sends two prompts. -/
theorem prompts_once {client : PrompterClient} (disciplined : client.Disciplined vocabulary) :
    (client.log.filterMap promptedBy).Nodup := by
  rw [List.nodup_iff_count_le_one]
  intro call
  rw [count_prompts]
  cases present : client.calls[call]? with
  | none =>
    have unsent : sentFor call client.log = [] := by
      rw [sentFor, List.filter_eq_nil_iff]
      intro entry member sent
      have bounded := disciplined.numbered entry member call (of_decide_eq_true sent)
      exact absurd bounded (Nat.not_lt.mpr (List.getElem?_eq_none_iff.mp present))
    simp [unsent]
  | some pair =>
    obtain ⟨method, stage⟩ := pair
    have staged := disciplined.staged call method stage present
    rcases (staged_prompts call method _ stage staged).2 with none | once
    · simp [none]
    · simp [once]

end PrompterClient

/-! ## Replies -/

section Replies

variable {vocabulary : Vocabulary} (maxSecretBytes : Nat) (strerror : Errno → String)

/-- A status word of the prompter is read back. -/
theorem reply_status_read (lawful : vocabulary.Lawful) (status : PromptReplyStatus) :
    replyStatusOf vocabulary (vocabulary.replyStatusToken status) = status := by
  rw [replyStatusOf, lawful.statusRoundTrip, Option.getD_some]

/-- The status of a single-secret reply, and the kind it names when it is a success. -/
theorem parsed_status (lawful : vocabulary.Lawful) (status : PromptReplyStatus) (offered : Bool) :
    let parsed := parseRequestSecretStatus vocabulary (vocabulary.replyStatusToken status) offered
    parsed.status = vocabulary.promptStatusFor status offered ∧
      (parsed.status = .ok → (parsed.chosenKind = some .mrz ↔ status = .okMrz)) := by
  simp only [parseRequestSecretStatus, reply_status_read lawful]
  split
  · rename_i switched
    exact ⟨rfl, fun _ => by simp [switched.2]⟩
  · rename_i plain
    refine ⟨rfl, fun success => ?_⟩
    simpa using fun mrz => plain ⟨success, mrz⟩

/-- A secret that a single-secret reply delivers is what the memfd of the reply holds. -/
theorem delivered_secret (lawful : vocabulary.Lawful) (kind : String) (options : PromptOptions)
    (status : PromptReplyStatus) (table : FileTable) (number : Nat) (fd : SealedMemfd)
    (opened : table.files number = some (sealedFile fd)) (reading : Reading)
    (result : SecretResult) (secret : List UInt8)
    (replied : secretReply vocabulary maxSecretBytes strerror kind options
      (vocabulary.replyStatusToken status) "" table (some number) reading = some result)
    (delivered : result.secret = some secret) :
    vocabulary.promptStatusFor status (offeredMrzAlternative kind options) = .ok ∧
      secret = utf8Bytes fd.content ∧ (result.chosenKind = some .mrz ↔ status = .okMrz) := by
  obtain ⟨told, names⟩ := parsed_status lawful status (offeredMrzAlternative kind options)
  simp only [secretReply] at replied
  split at replied
  · cases replied
    cases delivered
  · rename_i success
    obtain ⟨outcome, read, shaped⟩ := Option.map_eq_some_iff.mp replied
    obtain ⟨-, whole⟩ := read_secret_whole maxSecretBytes strerror reading.fuel reading.calls
      table number outcome read
    split at shaped
    · cases shaped
      cases delivered
    · rename_i content filled
      cases shaped
      cases delivered
      obtain ⟨file, found, same⟩ := whole secret filled
      cases opened.symm.trans found
      exact ⟨told ▸ not_not.mp success, same, names (not_not.mp success)⟩

/-- The PINs that a PIN-change reply delivers are what its two memfds hold. -/
theorem delivered_pins (lawful : vocabulary.Lawful) (status : PromptReplyStatus)
    (table : FileTable) (number other : Nat) (apart : other ≠ number)
    (primary secondary : SealedMemfd) (opened : table.files number = some (sealedFile primary))
    (openedToo : table.files other = some (sealedFile secondary)) (first second : Reading)
    (result : PinChangePromptResult) (pin : List UInt8)
    (replied : pinChangeReply vocabulary maxSecretBytes strerror
      (vocabulary.replyStatusToken status) "" table (some number) (some other) first second =
        some result)
    (delivered : result.current = some pin ∨ result.newPin = some pin) :
    vocabulary.promptStatusFor status false = .ok ∧
      result.current = some (utf8Bytes primary.content) ∧
      result.newPin = some (utf8Bytes secondary.content) := by
  simp only [pinChangeReply, parseStatus, reply_status_read lawful] at replied
  split at replied
  · cases replied
    rcases delivered with current | entered
    · cases current
    · cases entered
  · rename_i success
    simp only [Option.bind_eq_bind, Option.bind_eq_some_iff] at replied
    obtain ⟨current, readCurrent, newPin, readNew, shaped⟩ := replied
    obtain ⟨closed, wholeCurrent⟩ := read_secret_whole maxSecretBytes strerror first.fuel first.calls
      table number current readCurrent
    obtain ⟨-, wholeNew⟩ := read_secret_whole maxSecretBytes strerror second.fuel second.calls
      current.table other newPin readNew
    split at shaped
    · rename_i currentPin enteredPin filled entered
      cases shaped
      obtain ⟨file, found, same⟩ := wholeCurrent currentPin filled
      obtain ⟨file', found', same'⟩ := wholeNew enteredPin entered
      simp only [closed, FileTable.close, Function.update_of_ne apart] at found'
      cases opened.symm.trans found
      cases openedToo.symm.trans found'
      exact ⟨not_not.mp success, congrArg some same, congrArg some same'⟩
    · cases shaped
      rcases delivered with current | entered
      · cases current
      · cases entered

/-- Without a second descriptor a PIN-change reply delivers nothing. -/
theorem one_descriptor_delivers_nothing (rawStatus : String) (table : FileTable)
    (primaryFd : Option Nat) (first second : Reading) (result : PinChangePromptResult)
    (replied : pinChangeReply vocabulary maxSecretBytes strerror rawStatus "" table primaryFd none
      first second = some result) : result.current = none ∧ result.newPin = none := by
  simp only [pinChangeReply] at replied
  split at replied
  · cases replied
    exact ⟨rfl, rfl⟩
  · simp only [Option.bind_eq_bind, Option.bind_eq_some_iff, readReply, readSecret] at replied
    obtain ⟨current, -, newPin, readNew, shaped⟩ := replied
    cases readNew
    split at shaped
    · rename_i impossible
      cases impossible
    · cases shaped
      exact ⟨rfl, rfl⟩

end Replies

/-! ## The exchange -/

/-- The request of a window that a call asked for, from what this call sent. -/
def RaisedFor (vocabulary : Vocabulary) : PromptMethod → RaiseRequest → Prop
  | .request kind options, request => ∃ parsed, parseKind kind = some parsed ∧
      request = raiseRequest request.request request.ownerPid parsed
        (buildOptionsDict vocabulary options)
  | .requestPinChange options, request =>
      request = raiseChangePinRequest request.request request.ownerPid
        (buildChangePinOptionsDict vocabulary options)

/-- What a call returned is what a reply carried. -/
def Delivers (vocabulary : Vocabulary) (answer : Prompter.Answer) :
    PromptMethod → PromptOutcome → Prop
  | .request kind options, .secret result => ∀ secret, result.secret = some secret →
      vocabulary.promptStatusFor answer.status (offeredMrzAlternative kind options) = .ok ∧
      (∃ fd rest, answer.fds = some fd :: rest ∧ secret = utf8Bytes fd.content) ∧
      (result.chosenKind = some .mrz ↔ answer.status = .okMrz)
  | .requestPinChange _, .pinChange result =>
      ∀ pin, result.current = some pin ∨ result.newPin = some pin →
      vocabulary.promptStatusFor answer.status false = .ok ∧
      ∃ primary secondary, answer.fds = [some primary, some secondary] ∧
        result.current = some (utf8Bytes primary.content) ∧
        result.newPin = some (utf8Bytes secondary.content)
  | _, _ => False

/-- A reply that the client parsed is delivered. -/
theorem reply_delivers {vocabulary : Vocabulary} (maxSecretBytes : Nat) (strerror : Errno → String)
    (lawful : vocabulary.Lawful) (answer : Prompter.Answer) (before table : FileTable)
    (primaryFd secondaryFd : Option Nat)
    (arrived : received before answer.fds = some (table, primaryFd, secondaryFd))
    (first second : Reading) (method : PromptMethod) (outcome : PromptOutcome)
    (replied : PrompterClient.replyOutcome vocabulary maxSecretBytes strerror method
      (vocabulary.replyStatusToken answer.status) primaryFd secondaryFd "" table first second =
        some outcome) :
    Delivers vocabulary answer method outcome := by
  unfold received at arrived
  split at arrived
  · rename_i primary carried
    cases arrived
    cases method with
    | request kind options =>
      obtain ⟨result, parsed, rfl⟩ := Option.map_eq_some_iff.mp replied
      intro secret delivered
      obtain ⟨success, content, chosen⟩ := delivered_secret maxSecretBytes strerror lawful kind
        options answer.status _ before.next primary (by simp [FileTable.create]) first result secret
        parsed delivered
      exact ⟨success, ⟨primary, [], carried, content⟩, chosen⟩
    | requestPinChange options =>
      obtain ⟨result, parsed, rfl⟩ := Option.map_eq_some_iff.mp replied
      obtain ⟨none, noneToo⟩ :=
        one_descriptor_delivers_nothing maxSecretBytes strerror _ _ _ first second result parsed
      intro pin delivered
      simp [none, noneToo] at delivered
  · rename_i primary secondary carried
    cases arrived
    have opened : ((before.create (sealedFile primary)).create (sealedFile secondary)).files
        before.next = some (sealedFile primary) := by
      simp [FileTable.create]
    cases method with
    | request kind options =>
      obtain ⟨result, parsed, rfl⟩ := Option.map_eq_some_iff.mp replied
      intro secret delivered
      obtain ⟨success, content, chosen⟩ := delivered_secret maxSecretBytes strerror lawful kind
        options answer.status _ before.next primary opened first result secret parsed delivered
      exact ⟨success, ⟨primary, [some secondary], carried, content⟩, chosen⟩
    | requestPinChange options =>
      obtain ⟨result, parsed, rfl⟩ := Option.map_eq_some_iff.mp replied
      intro pin delivered
      obtain ⟨success, current, entered⟩ := delivered_pins maxSecretBytes strerror lawful
        answer.status _ before.next (before.next + 1) (by omega) primary secondary opened
        (by simp [FileTable.create]) first second result pin parsed delivered
      exact ⟨success, primary, secondary, carried, current, entered⟩
  · cases arrived

namespace Exchange

variable (vocabulary : Vocabulary)

/-- The invariant. Each prompt is in flight or was given a handle of its own; the window of
this handle was raised from the message of the call; and a call that returned with a secret
was given it by the reply of its handle. -/
structure Matched (past : Service.Past) (exchange : Exchange) : Prop where
  disciplined : exchange.client.Disciplined vocabulary
  traced : Service.Traced past exchange.service
  numbered : Service.Numbered past exchange.service
  sent : ∀ entry ∈ exchange.flight, entry ∈ exchange.client.log
  conserved : (exchange.handles.map Prod.fst ++ exchange.flight.filterMap promptedBy).Perm
    (exchange.client.log.filterMap promptedBy)
  issued : ∀ call handle, (call, handle) ∈ exchange.handles →
    handle < exchange.service.nextRequest
  apart : (exchange.handles.map Prod.snd).Nodup
  raised : ∀ call handle, (call, handle) ∈ exchange.handles →
    ∃ method, (∃ stage, exchange.client.calls[call]? = some (method, stage)) ∧
      ∀ request, Service.Requested past request → request.request = handle →
        RaisedFor vocabulary method request
  returned : ∀ (call : Nat) method ending outcome,
    exchange.client.calls[call]? = some (method, .returned ending outcome) →
    (∃ status userMessage, outcome = method.without status userMessage) ∨
      ∃ answer ∈ exchange.service.answers, (call, answer.request) ∈ exchange.handles ∧
        Delivers vocabulary answer method outcome

variable {vocabulary} (maxSecretBytes : Nat) (strerror : Errno → String) {past : Service.Past}

/-- Nothing was sent yet. -/
theorem matched_initial : Matched vocabulary [] {} where
  disciplined := PrompterClient.disciplined_initial vocabulary
  traced := Service.traced_initial
  numbered := by
    intro request requested
    cases requested <;> simp at *
  sent := by simp
  conserved := by simp
  issued := by simp
  apart := by simp
  raised := by simp
  returned := by simp

/-- A step of the client keeps the match; a reply has to be one to its call. -/
theorem matched_client (lawful : vocabulary.Lawful) (exchange next : Exchange)
    (event : ClientEvent) (matched : Matched vocabulary past exchange)
    (replies : ∀ call method rawStatus primaryFd secondaryFd userMessage table primary secondary
      outcome, event = .finish call (.replied rawStatus primaryFd secondaryFd userMessage table
        primary secondary) →
      PrompterClient.replyOutcome vocabulary maxSecretBytes strerror method rawStatus primaryFd
        secondaryFd userMessage table primary secondary = some outcome →
      ∃ answer ∈ exchange.service.answers, (call, answer.request) ∈ exchange.handles ∧
        Delivers vocabulary answer method outcome)
    (stepped : exchange.clientStep vocabulary maxSecretBytes strerror event = some next) :
    Matched vocabulary past next := by
  obtain ⟨client, moved, rfl⟩ := Option.map_eq_some_iff.mp stepped
  obtain ⟨sent, grown⟩ := PrompterClient.log_grows maxSecretBytes strerror exchange.client event
    client moved
  have taken : client.log.drop exchange.client.log.length = sent := by simp [grown]
  refine ⟨PrompterClient.disciplined_step maxSecretBytes strerror lawful exchange.client event client
    matched.disciplined moved, matched.traced, matched.numbered, ?_, ?_,
    matched.issued, matched.apart, ?_, ?_⟩
  · intro entry member
    simp only [taken] at member
    simp only [grown]
    rcases List.mem_append.mp member with earlier | latest
    · exact List.mem_append_left _ (matched.sent entry earlier)
    · exact List.mem_append_right _ latest
  · simp only [taken]
    rw [grown, List.filterMap_append, List.filterMap_append, ← List.append_assoc]
    exact matched.conserved.append_right _
  · intro call handle member
    obtain ⟨method, present, raised⟩ := matched.raised call handle member
    exact ⟨method, PrompterClient.method_kept maxSecretBytes strerror exchange.client event client
      moved call method present, raised⟩
  · intro call method ending outcome present
    rcases PrompterClient.returned_cases maxSecretBytes strerror exchange.client event client moved
      call method ending outcome present with before | without | ⟨rawStatus, primaryFd, secondaryFd,
        userMessage, table, primary, secondary, same, replied⟩
    · exact matched.returned call method ending outcome before
    · exact Or.inl without
    · exact Or.inr (replies call method _ _ _ _ _ _ _ outcome same replied)

/-- What a message in flight makes the prompter raise is raised for its call. -/
theorem handled_raises (call : Nat) (method : PromptMethod) (callerPid : Pid) (delivery : Delivery)
    (now : Nat) (memfds : Memfds) (event : Service.Event) (service : Service)
    (request : RaiseRequest)
    (arriving : handled callerPid delivery now memfds
      (PrompterClient.message vocabulary call method) = some event)
    (requested : Service.Requested [(service, event)] request) :
    RaisedFor vocabulary method request := by
  cases method with
  | request kind options =>
    cases arriving
    cases requested with
    | single state callerPid kind options delivery now memfds parsed member authorized known =>
      cases List.mem_singleton.mp member
      exact ⟨parsed, known, rfl⟩
    | pinChange state callerPid options delivery now memfds member authorized =>
      cases List.mem_singleton.mp member
  | requestPinChange options =>
    cases arriving
    cases requested with
    | single state callerPid kind options delivery now memfds parsed member authorized known =>
      cases List.mem_singleton.mp member
    | pinChange state callerPid options delivery now memfds member authorized =>
      cases List.mem_singleton.mp member
      rfl

/-- A step of the prompter alone keeps the match. -/
theorem matched_service (exchange : Exchange) (event : Service.Event) (service : Service)
    (matched : Matched vocabulary past exchange)
    (stepped : Service.step exchange.service event = some service) :
    Matched vocabulary (past ++ [(exchange.service, event)]) { exchange with service } := by
  obtain ⟨added, answers, -⟩ := Service.step_adds exchange.service event service stepped
  refine ⟨matched.disciplined, Service.traced_step past _ event _ matched.traced stepped,
    Service.numbered_step past _ event _ matched.numbered stepped, matched.sent, matched.conserved,
    ?_, matched.apart, ?_, ?_⟩
  · intro call handle member
    exact lt_of_lt_of_le (matched.issued call handle member)
      (Service.next_request_mono event service stepped)
  · intro call handle member
    obtain ⟨method, present, raised⟩ := matched.raised call handle member
    refine ⟨method, present, fun request requested own => ?_⟩
    rcases requested.split with earlier | latest
    · exact raised request earlier own
    · have issued := matched.issued call handle member
      rw [← own, latest.own.2] at issued
      exact absurd issued (lt_irrefl _)
  · intro call method ending outcome present
    rcases matched.returned call method ending outcome present with
      without | ⟨answer, given, own, delivers⟩
    · exact Or.inl without
    · exact Or.inr ⟨answer, by rw [answers]; exact List.mem_append_left _ given, own, delivers⟩

/-- A message that asks for a window brings a reply handle. -/
theorem handled_asks (callerPid : Pid) (delivery : Delivery) (now : Nat) (memfds : Memfds)
    (entry : BusCall) (call : Nat) (event : Service.Event)
    (prompted : promptedBy entry = some call)
    (arriving : handled callerPid delivery now memfds entry = some event) : event.asks = true := by
  cases entry <;> cases prompted <;> cases arriving <;> rfl

/-- An arrival keeps the match: a prompt is given the handle that the prompter's step takes. -/
theorem matched_arrive (exchange : Exchange) (index : Nat) (callerPid : Pid) (delivery : Delivery)
    (now : Nat) (memfds : Memfds) (entry : BusCall) (event : Service.Event) (service : Service)
    (matched : Matched vocabulary past exchange) (flying : exchange.flight[index]? = some entry)
    (arriving : handled callerPid delivery now memfds entry = some event)
    (stepped : Service.step exchange.service event = some service) :
    Matched vocabulary (past ++ [(exchange.service, event)])
      { exchange.landed (.arrive index callerPid delivery now memfds) with service } := by
  have moved := matched_service exchange event service matched stepped
  have rest : (entry :: exchange.flight.eraseIdx index).Perm exchange.flight := by
    obtain ⟨bounded, rfl⟩ := List.getElem?_eq_some_iff.mp flying
    exact List.getElem_cons_eraseIdx_perm bounded
  have known : entry ∈ exchange.client.log := matched.sent entry (List.mem_of_getElem? flying)
  have landing : ({ exchange.landed (.arrive index callerPid delivery now memfds) with service } :
      Exchange) =
      { exchange with
        service
        flight := exchange.flight.eraseIdx index
        handles := exchange.handles ++ (promptedBy entry).toList.map
          (fun call => (call, exchange.service.nextRequest)) } := by
    simp [landed, flying]
  rw [landing]
  -- The one new pair, if the message is a prompt.
  have added : ∀ call handle, (call, handle) ∈ exchange.handles ++ (promptedBy entry).toList.map
      (fun call => (call, exchange.service.nextRequest)) →
      (call, handle) ∈ exchange.handles ∨
        promptedBy entry = some call ∧ handle = exchange.service.nextRequest := by
    intro call handle member
    rcases List.mem_append.mp member with earlier | latest
    · exact Or.inl earlier
    · obtain ⟨id, prompting, same⟩ := List.mem_map.mp latest
      obtain ⟨rfl, rfl⟩ := Prod.mk.inj same
      exact Or.inr ⟨Option.mem_toList.mp prompting, rfl⟩
  refine ⟨moved.disciplined, moved.traced, moved.numbered, ?_, ?_, ?_, ?_, ?_, ?_⟩
  · intro other member
    exact matched.sent other (List.mem_of_mem_eraseIdx member)
  · have prompts : ((promptedBy entry).toList ++
        (exchange.flight.eraseIdx index).filterMap promptedBy).Perm
        (exchange.flight.filterMap promptedBy) := by
      have mapped := rest.filterMap promptedBy
      cases prompted : promptedBy entry with
      | none =>
        rw [List.filterMap_cons_none prompted] at mapped
        exact mapped
      | some call =>
        rw [List.filterMap_cons_some prompted] at mapped
        exact mapped
    have names : ((promptedBy entry).toList.map
        (fun call => (call, exchange.service.nextRequest))).map Prod.fst =
        (promptedBy entry).toList := by cases promptedBy entry <;> rfl
    rw [List.map_append, names, List.append_assoc]
    exact (prompts.append_left _).trans matched.conserved
  · intro call handle member
    rcases added call handle member with earlier | ⟨prompted, rfl⟩
    · exact moved.issued call handle earlier
    · have asks := handled_asks callerPid delivery now memfds entry call event prompted arriving
      rw [Service.next_request_step event service asks stepped]
      exact Nat.lt_succ_self _
  · rw [List.map_append]
    refine List.Nodup.append matched.apart ?_ ?_
    · cases promptedBy entry <;> simp
    · intro handle earlier latest
      obtain ⟨⟨call, same⟩, member, rfl⟩ := List.mem_map.mp earlier
      have fresh : same = exchange.service.nextRequest := by
        cases prompted : promptedBy entry <;> simp [prompted] at latest
        exact latest
      exact absurd (matched.issued call same member) (by simp [fresh])
  · intro call handle member
    rcases added call handle member with earlier | ⟨prompted, rfl⟩
    · exact moved.raised call handle earlier
    · obtain ⟨method, stage, present, rfl⟩ :=
        PrompterClient.prompt_is_message matched.disciplined entry known call prompted
      refine ⟨method, ⟨stage, present⟩, fun request requested own => ?_⟩
      rcases requested.split with earlier | latest
      · exact absurd own (Nat.ne_of_lt (matched.numbered request earlier))
      · exact handled_raises call method callerPid delivery now memfds event exchange.service request
          arriving latest
  · intro call method ending outcome present
    rcases moved.returned call method ending outcome present with
      without | ⟨answer, given, own, delivers⟩
    · exact Or.inl without
    · exact Or.inr ⟨answer, given, List.mem_append_left _ own, delivers⟩

/-- Every step keeps the match.

Proof: a step of one process leaves the other as it is, so the match is kept by what that process
keeps alone, except where a message or a reply passes between the two. -/
theorem matched_step (lawful : vocabulary.Lawful) (past : List (Exchange × ExchangeEvent))
    (exchange : Exchange) (event : ExchangeEvent) (next : Exchange)
    (matched : Matched vocabulary (servicePast past) exchange)
    (stepped : exchange.step vocabulary maxSecretBytes strerror event = some next) :
    Matched vocabulary (servicePast (past ++ [(exchange, event)])) next := by
  have grown : servicePast (past ++ [(exchange, event)]) = servicePast past ++
      ((exchange.serviceEvent event).map (fun made => (exchange.service, made))).toList := by
    rw [servicePast, List.filterMap_append]
    cases made : exchange.serviceEvent event <;> simp [servicePast, made]
  rw [grown]
  cases event with
  | client event =>
    simp only [step] at stepped
    split_ifs at stepped with replied
    simp only [serviceEvent, Option.map_none, Option.toList_none, List.append_nil]
    refine matched_client maxSecretBytes strerror lawful exchange next event matched ?_ stepped
    intro call method rawStatus primaryFd secondaryFd userMessage table primary secondary outcome
      same
    rw [same] at replied
    exact absurd rfl replied
  | reply call answer table primary secondary =>
    simp only [step] at stepped
    split_ifs at stepped with given
    simp only [serviceEvent, Option.map_none, Option.toList_none, List.append_nil]
    obtain ⟨⟨files, primaryFd, secondaryFd⟩, arrived, finished⟩ := Option.bind_eq_some_iff.mp stepped
    refine matched_client maxSecretBytes strerror lawful exchange next _ matched ?_ finished
    intro other method rawStatus first second userMessage opened reading rereading outcome same
      produced
    cases same
    exact ⟨answer, given.2, given.1, reply_delivers maxSecretBytes strerror lawful answer table files
      primaryFd secondaryFd arrived primary secondary method outcome produced⟩
  | service event =>
    obtain ⟨service, moved, rfl⟩ := Option.map_eq_some_iff.mp stepped
    exact matched_service exchange event service matched moved
  | arrive index callerPid delivery now memfds =>
    simp only [step, serviceEvent, Option.bind_eq_some_iff, Option.map_eq_some_iff] at stepped
    obtain ⟨event, ⟨entry, flying, arriving⟩, service, moved, rfl⟩ := stepped
    simp only [serviceEvent, flying, Option.bind_some, arriving, Option.map_some,
      Option.toList_some]
    exact matched_arrive exchange index callerPid delivery now memfds entry event service matched
      flying arriving moved

/-- The window that a call asked for, as it stood when the holder's accept made the reply. -/
structure HoldersAnswer (vocabulary : Vocabulary) (past : Service.Past) (exchange : Exchange)
    (call : Nat) (method : PromptMethod) (answer : Prompter.Answer) (window : Window) : Prop where
  own : (call, answer.request) ∈ exchange.handles
  raised : ∃ request, Service.Requested past request ∧ request.request = answer.request ∧
    RaisedFor vocabulary method request ∧ Service.Shows request window
  accepted : Service.AcceptedAt past answer window

/-- A reply that announces a secret is the holder's answer to its call. -/
theorem holders_answer (exchange : Exchange) (matched : Matched vocabulary past exchange)
    (call : Nat) (method : PromptMethod) (stage : PromptStage) (answer : Prompter.Answer)
    (present : exchange.client.calls[call]? = some (method, stage))
    (given : answer ∈ exchange.service.answers) (own : (call, answer.request) ∈ exchange.handles)
    (granted : answer.granted = true) :
    ∃ window, HoldersAnswer vocabulary past exchange call method answer window := by
  obtain ⟨request, window, requested, same, shows, accepted⟩ :=
    matched.traced.granted answer given granted
  obtain ⟨other, ⟨_, asked⟩, raised⟩ := matched.raised call answer.request own
  cases Option.some.inj (present.symm.trans asked)
  exact ⟨window, own, ⟨request, requested, same, raised request requested same, shows⟩, accepted⟩

/-- The MRZ word is the one of a CAN prompt whose window shows the MRZ form. -/
theorem mrz_word_iff (kind : String) (options : PromptOptions) (request : RaiseRequest)
    (window : Window) (raised : RaisedFor vocabulary (.request kind options) request)
    (shows : Service.Shows request window) :
    (window.offerMrzSwitch && window.dialog.mrzChosen) = true ↔
      kind = kKindCan ∧ window.dialog.kind = .mrz := by
  obtain ⟨parsed, known, built⟩ := raised
  have named := (parse_kind_cases kind parsed known).1
  have asked : request.kind = parsed := by rw [built]; rfl
  have offer : request.opts.offerMrzSwitch = request.offerMrzSwitch := by rw [built]; rfl
  have offers : request.offerMrzSwitch = true → parsed = .can := by
    intro offered
    rw [built] at offered
    have both : decide (parsed = .can) = true ∧ _ = true := (Bool.and_eq_true _ _).mp offered
    exact of_decide_eq_true both.1
  rw [Bool.and_eq_true, shows.offer, PromptDialog.mrzChosen, decide_eq_true_eq]
  constructor
  · rintro ⟨offered, mrz⟩
    exact ⟨named.mp (offers offered), mrz⟩
  · rintro ⟨can, mrz⟩
    refine ⟨?_, mrz⟩
    -- A window that is not offered the switch shows the kind that was asked for.
    by_contra refused
    have kept := shows.kept (offer.trans (by simpa using refused))
    rw [mrz, asked, named.mpr can] at kept
    cases kept

/-- A status word that the client takes for a success announces a secret. -/
theorem granted_of_success (successes : ∀ status offered,
      vocabulary.promptStatusFor status offered = .ok → status = .ok ∨ status = .okMrz)
    (answer : Prompter.Answer) (offered : Bool)
    (success : vocabulary.promptStatusFor answer.status offered = .ok) : answer.granted = true := by
  rw [Prompter.Answer.granted, decide_eq_true_eq]
  exact successes _ _ success

/-- A returned secret is what the holder entered in the window of its call. -/
theorem returned_secret (successes : ∀ status offered,
      vocabulary.promptStatusFor status offered = .ok → status = .ok ∨ status = .okMrz)
    (exchange : Exchange) (matched : Matched vocabulary past exchange) (call : Nat) (kind : String)
    (options : PromptOptions) (ending : Ending) (result : SecretResult) (secret : List UInt8)
    (present : exchange.client.calls[call]? =
      some (.request kind options, .returned ending (.secret result)))
    (delivered : result.secret = some secret) :
    ∃ answer window,
      HoldersAnswer vocabulary past exchange call (.request kind options) answer window ∧
      secret = utf8Bytes window.dialog.widget.secret ∧
      (result.chosenKind = some .mrz ↔ kind = kKindCan ∧ window.dialog.kind = .mrz) := by
  rcases matched.returned call _ ending _ present with
    ⟨status, userMessage, same⟩ | ⟨answer, given, own, delivers⟩
  · cases same
    cases delivered
  · obtain ⟨success, ⟨fd, rest, carried, content⟩, chosen⟩ := delivers secret delivered
    obtain ⟨window, holders⟩ := holders_answer exchange matched call _ _ answer present given own
      (granted_of_success successes answer _ success)
    refine ⟨answer, window, holders, ?_⟩
    obtain ⟨request, -, -, raised, shows⟩ := holders.raised
    cases holders.accepted with
    | single before event memfds accepting member stood one sealed status =>
      rw [sealed] at carried
      cases carried
      refine ⟨content, ?_⟩
      rw [chosen, status, ← mrz_word_iff kind options request window raised shows]
      split <;> simp [*]
    | pinChange before memfds current entered member stood two confirmed sealed status =>
      have multi : request.multi = true := shows.multi ▸ two
      obtain ⟨parsed, -, built⟩ := raised
      rw [built] at multi
      cases multi

/-- Returned PINs are those of one accepted window of their call. -/
theorem returned_pins (successes : ∀ status offered,
      vocabulary.promptStatusFor status offered = .ok → status = .ok ∨ status = .okMrz)
    (exchange : Exchange) (matched : Matched vocabulary past exchange) (call : Nat)
    (options : PromptOptions) (ending : Ending) (result : PinChangePromptResult)
    (pin : List UInt8)
    (present : exchange.client.calls[call]? =
      some (.requestPinChange options, .returned ending (.pinChange result)))
    (delivered : result.current = some pin ∨ result.newPin = some pin) :
    ∃ answer window current entered,
      HoldersAnswer vocabulary past exchange call (.requestPinChange options) answer window ∧
      window.dialog.widget = .changePin current entered entered ∧
      result.current = some (utf8Bytes current) ∧ result.newPin = some (utf8Bytes entered) := by
  rcases matched.returned call _ ending _ present with
    ⟨status, userMessage, same⟩ | ⟨answer, given, own, delivers⟩
  · cases same
    rcases delivered with current | entered
    · cases current
    · cases entered
  · obtain ⟨success, primary, secondary, carried, current, entered⟩ := delivers pin delivered
    obtain ⟨window, holders⟩ := holders_answer exchange matched call _ _ answer present given own
      (granted_of_success successes answer _ success)
    cases holders.accepted with
    | single before event memfds accepting member stood one sealed status =>
      rw [sealed] at carried
      cases carried
    | pinChange before memfds first second member stood two confirmed sealed status =>
      rw [sealed] at carried
      cases carried
      exact ⟨answer, window, first, second, holders, confirmed, current, entered⟩

/-- A secret that a call returns is the bytes of what the holder had entered, in the window
raised for this very call with its kind and its options, when they accepted it, and it is
called an MRZ exactly when the call asked for a CAN and that window showed the MRZ form. The
two PINs of a change are those of one accept, with the new PIN entered twice. No window answers
two calls. This holds in every run of the two processes: whatever other callers ask for and
dismiss, however late messages and posted work come, and whichever calls of the kernel fail.

Proof: the invariant `Matched` gives a returned secret an answer under the handle of its call, the
origins of the answer give the window and its accept, and the reads of its descriptors give the
bytes. -/
theorem secrets_are_the_holders (lawful : vocabulary.Lawful)
    (successes : ∀ status offered, vocabulary.promptStatusFor status offered = .ok →
      status = .ok ∨ status = .okMrz)
    (events : List ExchangeEvent) (exchange : Exchange)
    (reached : Runs.run (step vocabulary maxSecretBytes strerror) {} events = some exchange) :
    let past := servicePast (Runs.trace (step vocabulary maxSecretBytes strerror) {} events)
    (∀ (call : Nat) kind options ending result secret,
      exchange.client.calls[call]? =
          some (.request kind options, .returned ending (.secret result)) →
      result.secret = some secret →
      ∃ answer window,
        HoldersAnswer vocabulary past exchange call (.request kind options) answer window ∧
        secret = utf8Bytes window.dialog.widget.secret ∧
        (result.chosenKind = some .mrz ↔ kind = kKindCan ∧ window.dialog.kind = .mrz)) ∧
    (∀ (call : Nat) options ending result pin,
      exchange.client.calls[call]? =
          some (.requestPinChange options, .returned ending (.pinChange result)) →
      result.current = some pin ∨ result.newPin = some pin →
      ∃ answer window current entered,
        HoldersAnswer vocabulary past exchange call (.requestPinChange options) answer window ∧
        window.dialog.widget = .changePin current entered entered ∧
        result.current = some (utf8Bytes current) ∧ result.newPin = some (utf8Bytes entered)) ∧
    (exchange.handles.map Prod.fst).Nodup ∧ (exchange.handles.map Prod.snd).Nodup := by
  intro past
  have matched := Runs.trace_invariant (step vocabulary maxSecretBytes strerror)
    (fun past exchange => Matched vocabulary (servicePast past) exchange)
    (matched_step maxSecretBytes strerror lawful) events {} exchange matched_initial reached
  refine ⟨?_, ?_, ?_, matched.apart⟩
  · exact fun call kind options ending result secret =>
      returned_secret successes exchange matched call kind options ending result secret
  · exact fun call options ending result pin =>
      returned_pins successes exchange matched call options ending result pin
  · have once := matched.conserved.nodup_iff.mpr (PrompterClient.prompts_once matched.disciplined)
    exact (List.nodup_append.mp once).1

/-- Another caller's PIN window is up when the agent asks for a CAN. The holder switches the
agent's window to the MRZ form, fills it and accepts; then they accept the other window. -/
def switchedExchange : List ExchangeEvent :=
  [.service (.requestSecret 9 kKindPin ∅ .direct 0 {}),
    .client (.enter (.request kKindCan canOfferingMrz)), .client (.check 0 (.reported 2)),
    .client (.send 0), .arrive 1 7 .queued 0 {}, .service (.perform 0 0 {}),
    .service (.interact 0 (.edit (.pin "2468"))), .service (.interact 1 (.swap 5)),
    .service (.interact 1 (.edit (.mrz "AB1234567"))), .service (.accept 1 {}),
    .service (.accept 0 {}),
    .reply 0 ⟨1, .okMrz, [some ⟨"AB1234567", some .mrz⟩]⟩ noFiles
      ⟨16, { pread := haltingKernel }⟩ ⟨16, { pread := haltingKernel }⟩]

/-- The agent gets what was entered for it, and knows it for an MRZ. -/
theorem switched_exchange_delivers :
    ∃ exchange result,
      Runs.run (step agentVocabulary 8192 (fun _ => "")) {} switchedExchange = some exchange ∧
      exchange.client.calls[0]? =
        some (.request kKindCan canOfferingMrz, .returned .replied (.secret result)) ∧
      result.secret = some (utf8Bytes "AB1234567") ∧
      ∃ answer window,
        HoldersAnswer agentVocabulary
          (servicePast (Runs.trace (step agentVocabulary 8192 (fun _ => "")) {} switchedExchange))
          exchange 0 (.request kKindCan canOfferingMrz) answer window ∧
        utf8Bytes "AB1234567" = utf8Bytes window.dialog.widget.secret ∧
        (result.chosenKind = some .mrz ↔ kKindCan = kKindCan ∧ window.dialog.kind = .mrz) := by
  refine ⟨_, _, rfl, rfl, rfl, ?_⟩
  exact (secrets_are_the_holders 8192 (fun _ => "") agentVocabulary_lawful
    (by rintro (_ | _) <;> decide) switchedExchange _ rfl).1 0 _ _ _ _ _ rfl rfl

end Exchange

end LibreLinux.Agent
