import LibreLinux.Agent.SecretTransfer

/-!
# The agent's prompt calls

A client asks the prompter for its protocol version before the first prompt, and remembers
the answer if there was one. A call to a prompter that is not usable is refused without a
window. A call that the bus fails is followed by a cancellation of its prompt: the window
may still stand. A reply is parsed, and its descriptors are read, all of them or none being
handed on.

Workers call at the same time, each on a connection of its own; the version is asked for
under a lock. The client keeps the record of what it sent. What the prompter answers, which
exception a call ends with, and what the kernel says about the descriptors is all given.
-/

namespace LibreLinux.Agent

open Wire Prompter

/-- The contract version this tree's prompter publishes. -/
def kProtocolVersion : UInt32 := 2

/-- The lowest version the agent can work with. -/
def kRequiredVersion : UInt32 := kProtocolVersion

/-- Whether a prompter of the reported version can be driven. None means none reported. -/
def usable : Option UInt32 → Bool
  | some reported => decide (kRequiredVersion ≤ reported)
  | none => false

/-- How reading the version ended. -/
inductive ProbeOutcome where
  | reported (version : UInt32)
  | busError (name : String) (message : String)
  | exception (message : String)
deriving DecidableEq, Repr

/-- What is known of the prompter. -/
inductive Usability where
  | usable
  | tooOld
  | unreachable
deriving DecidableEq, Repr

/-- The remembered capability as an answer. -/
def usabilityOf (capability : Bool) : Usability := if capability then .usable else .tooOld

/-- Ask the prompter unless it has answered before. That the property does not exist is an
answer; that the prompter cannot be reached is none, and nothing is remembered. -/
def prompterUsability (capability : Option Bool) (probe : ProbeOutcome) : Usability × Option Bool :=
  match capability with
  | some known => (usabilityOf known, some known)
  | none =>
    match probe with
    | .reported version => (usabilityOf (usable (some version)), some (usable (some version)))
    | .busError name _ =>
      if name ≠ "org.freedesktop.DBus.Error.UnknownProperty" ∧
          name ≠ "org.freedesktop.DBus.Error.InvalidArgs" then (.unreachable, none)
      else (usabilityOf (usable none), some (usable none))
    | .exception _ => (.unreachable, none)

/-- What a single-secret prompt delivers, the secret as bytes. -/
structure SecretResult where
  status : PromptStatus := .error
  chosenKind : Option PaceSecretKind := none
  userMessage : String := ""
  secret : Option (List UInt8) := none

/-- What a PIN-change prompt delivers. -/
structure PinChangePromptResult where
  status : PromptStatus := .error
  userMessage : String := ""
  current : Option (List UInt8) := none
  newPin : Option (List UInt8) := none

/-- The status and the message of a refusal. -/
def refusal : Usability → Option (PromptStatus × String)
  | .usable => none
  | .tooOld => some (.helperTooOld, "the credential window helper is out of date")
  | .unreachable => some (.error, "the credential window helper could not be reached")

/-- A read of one descriptor: the kernel's answers, and how long is waited for them. -/
structure Reading where
  fuel : Nat
  calls : ReaderCalls

/-- The message of a failed read; a successful one leaves it empty. -/
def readError : Except String (List UInt8) → String
  | .error message => message
  | .ok _ => ""

section Replies

variable (vocabulary : Vocabulary) (maxSecretBytes : Nat) (strerror : Errno → String)

/-- Read one descriptor of a reply. -/
def readReply (reading : Reading) (table : FileTable) (fd : Option Nat) : Option ReadOutcome :=
  readSecret maxSecretBytes strerror reading.fuel reading.calls table fd

/-- Parse the status word of a reply to a request that offered no alternative. -/
def parseStatus (raw : String) : PromptStatus :=
  vocabulary.promptStatusFor (replyStatusOf vocabulary raw) false

/-- The reply of a single-secret call. -/
def secretReply (kind : String) (options : PromptOptions) (rawStatus userMessage : String)
    (table : FileTable) (secretFd : Option Nat) (reading : Reading) : Option SecretResult :=
  let parsed := parseRequestSecretStatus vocabulary rawStatus (offeredMrzAlternative kind options)
  if parsed.status ≠ .ok then
    some { status := parsed.status, chosenKind := parsed.chosenKind, userMessage }
  else
    (readReply maxSecretBytes strerror reading table secretFd).map (fun outcome =>
      match outcome.result with
      | .error message =>
        { status := .error, userMessage := if userMessage = "" then message else userMessage }
      | .ok secret =>
        { status := parsed.status, chosenKind := parsed.chosenKind, userMessage,
          secret := some secret })

/-- The reply of a PIN-change call. Both descriptors are read before either secret is
handed on. -/
def pinChangeReply (rawStatus userMessage : String) (table : FileTable)
    (primaryFd secondaryFd : Option Nat) (primary secondary : Reading) :
    Option PinChangePromptResult :=
  let status := parseStatus vocabulary rawStatus
  if status ≠ .ok then some { status, userMessage }
  else do
    let current ← readReply maxSecretBytes strerror primary table primaryFd
    let newPin ← readReply maxSecretBytes strerror secondary current.table secondaryFd
    match current.result, newPin.result with
    | .ok currentPin, .ok enteredPin =>
      some { status, userMessage, current := some currentPin, newPin := some enteredPin }
    | failed, other =>
      some { status := .error
             userMessage :=
               if userMessage = "" then
                 if readError failed ≠ "" then readError failed else readError other
               else userMessage }

end Replies

/-- A call of the client. -/
inductive PromptMethod where
  | request (kind : String) (options : PromptOptions)
  | requestPinChange (options : PromptOptions)

/-- The options of a call. -/
def PromptMethod.options : PromptMethod → PromptOptions
  | .request _ options => options
  | .requestPinChange options => options

/-- The result of a call. -/
inductive PromptOutcome where
  | secret (result : SecretResult)
  | pinChange (result : PinChangePromptResult)

/-- A result without a secret. -/
def PromptMethod.without (method : PromptMethod) (status : PromptStatus) (userMessage : String) :
    PromptOutcome :=
  match method with
  | .request _ _ => .secret { status, userMessage }
  | .requestPinChange _ => .pinChange { status, userMessage }

/-- How the bus call ended. -/
inductive CallEnd where
  | busError (message : String)
  | exception (message : String)
  | replied (rawStatus : String) (primaryFd secondaryFd : Option Nat) (userMessage : String)
      (table : FileTable) (primary secondary : Reading)

/-- Whether there was a reply. -/
def CallEnd.replies : CallEnd → Bool
  | .replied _ _ _ _ _ _ _ => true
  | _ => false

/-- Why a call returned. -/
inductive Ending where
  | refused
  | busError
  | exception
  | replied
deriving DecidableEq, Repr

/-- How far a call is. It may fail before its message is sent, when there is no connection. -/
inductive PromptStage where
  | checking
  | calling
  | waiting
  | cancelling (message : String)
  | returned (ending : Ending) (outcome : PromptOutcome)

/-- What the client sent, with the number of the call it was sent for. A cancellation may
also be asked for from outside, and it has no number then. -/
inductive BusCall where
  | probe (outcome : ProbeOutcome)
  | requestSecret (call : Nat) (kind : String) (options : Dict)
  | requestSecrets (call : Nat) (kind : String) (options : Dict)
  | cancel (call : Option Nat) (promptId : String)
  | reset

/-- The client: the remembered capability, what it sent, and its calls by number. -/
structure PrompterClient where
  capability : Option Bool := none
  log : List BusCall := []
  calls : List (PromptMethod × PromptStage) := []

/-- What can happen to the client. -/
inductive ClientEvent where
  | enter (method : PromptMethod)
  | check (call : Nat) (probe : ProbeOutcome)
  | send (call : Nat)
  | finish (call : Nat) (ended : CallEnd)
  | dismiss (call : Nat)
  | cancel (promptId : String)
  | reset

namespace PrompterClient

variable (vocabulary : Vocabulary) (maxSecretBytes : Nat) (strerror : Errno → String)

/-- Record what was sent. -/
def send (client : PrompterClient) (sent : List BusCall) : PrompterClient :=
  { client with log := client.log ++ sent }

/-- Move a call on. -/
def advance (client : PrompterClient) (call : Nat) (method : PromptMethod) (stage : PromptStage) :
    PrompterClient :=
  { client with calls := client.calls.set call (method, stage) }

/-- The message a call sends. -/
def message (call : Nat) : PromptMethod → BusCall
  | .request kind options => .requestSecret call kind (buildOptionsDict vocabulary options)
  | .requestPinChange options =>
    .requestSecrets call kKindChangePin (buildChangePinOptionsDict vocabulary options)

/-- What a reply makes of a call; none while its descriptors are still being read. -/
def replyOutcome (method : PromptMethod) (rawStatus : String) (primaryFd secondaryFd : Option Nat)
    (userMessage : String) (table : FileTable) (primary secondary : Reading) :
    Option PromptOutcome :=
  match method with
  | .request kind options =>
    (secretReply vocabulary maxSecretBytes strerror kind options rawStatus userMessage table
      primaryFd primary).map .secret
  | .requestPinChange _ =>
    (pinChangeReply vocabulary maxSecretBytes strerror rawStatus userMessage table primaryFd
      secondaryFd primary secondary).map .pinChange

/-- The prompter is asked only while nothing is remembered. -/
def asking (client : PrompterClient) (probe : ProbeOutcome) : List BusCall :=
  match client.capability with
  | none => [.probe probe]
  | some _ => []

/-- Refuse a call unless the prompter is usable. -/
def checkUsable (client : PrompterClient) (call : Nat) (method : PromptMethod)
    (probe : ProbeOutcome) : PrompterClient :=
  let answer := prompterUsability client.capability probe
  let remembered := { client with capability := answer.2 }.send (client.asking probe)
  match refusal answer.1 with
  | none => remembered.advance call method .calling
  | some (status, userMessage) =>
    remembered.advance call method (.returned .refused (method.without status userMessage))

/-- The bus call ends. -/
def finishCall (client : PrompterClient) (call : Nat) (method : PromptMethod) :
    CallEnd → Option PrompterClient
  | .busError userMessage => some (client.advance call method (.cancelling userMessage))
  | .exception userMessage =>
    some (client.advance call method (.returned .exception (method.without .error userMessage)))
  | .replied rawStatus primaryFd secondaryFd userMessage table primary secondary =>
    (replyOutcome vocabulary maxSecretBytes strerror method rawStatus primaryFd secondaryFd
      userMessage table primary secondary).map (fun outcome =>
        client.advance call method (.returned .replied outcome))

/-- One step of one worker, or a cancellation or a reset asked for from outside. A call
whose message was not sent gets no reply. -/
def step (client : PrompterClient) : ClientEvent → Option PrompterClient
  | .enter method => some { client with calls := client.calls ++ [(method, .checking)] }
  | .check call probe =>
    match client.calls[call]? with
    | some (method, .checking) => some (client.checkUsable call method probe)
    | _ => none
  | .send call =>
    match client.calls[call]? with
    | some (method, .calling) =>
      some ((client.send [message vocabulary call method]).advance call method .waiting)
    | _ => none
  | .finish call ended =>
    match client.calls[call]? with
    | some (method, .calling) =>
      if ended.replies then none
      else client.finishCall vocabulary maxSecretBytes strerror call method ended
    | some (method, .waiting) =>
      client.finishCall vocabulary maxSecretBytes strerror call method ended
    | _ => none
  | .dismiss call =>
    match client.calls[call]? with
    | some (method, .cancelling userMessage) =>
      some ((client.send [.cancel (some call) method.options.promptId]).advance call method
        (.returned .busError (method.without .error userMessage)))
    | _ => none
  | .cancel promptId => some (client.send [.cancel none promptId])
  | .reset => some (client.send [.reset])

/-- A result that fails closed: a secret exactly on success, a chosen kind only for a
successful CAN request that offered the MRZ form, and both PINs or neither. -/
def FailsClosed : PromptMethod → PromptOutcome → Prop
  | .request kind options, .secret result =>
    (result.secret.isSome = true ↔ result.status = .ok) ∧
      ∀ chosen, result.chosenKind = some chosen →
        result.status = .ok ∧ kind = kKindCan ∧ kKindMrz ∈ options.altKinds
  | .requestPinChange _, .pinChange result =>
    (result.current.isSome = true ∧ result.newPin.isSome = true ↔ result.status = .ok) ∧
      (result.status ≠ .ok → result.current = none ∧ result.newPin = none)
  | _, _ => False

/-- A result without a secret fails closed. -/
theorem without_closed (method : PromptMethod) (status : PromptStatus) (userMessage : String)
    (failed : status ≠ .ok) : FailsClosed method (method.without status userMessage) := by
  cases method <;> simp [FailsClosed, PromptMethod.without, failed]

variable {vocabulary}

/-- The chosen kind of a status word: a success, and one that was offered. -/
theorem chosen_offered (lawful : vocabulary.Lawful) (raw kind : String) (options : PromptOptions)
    (chosen : PaceSecretKind)
    (named : (parseRequestSecretStatus vocabulary raw
      (offeredMrzAlternative kind options)).chosenKind = some chosen) :
    (parseRequestSecretStatus vocabulary raw (offeredMrzAlternative kind options)).status = .ok ∧
      kind = kKindCan ∧ kKindMrz ∈ options.altKinds := by
  simp only [parseRequestSecretStatus] at named ⊢
  split at named
  · rename_i switched
    obtain ⟨success, reply⟩ := switched
    have offered : offeredMrzAlternative kind options = true := by
      rw [reply] at success
      exact lawful.okMrzOffered _ success
    rw [if_pos ⟨success, reply⟩]
    unfold offeredMrzAlternative at offered
    split_ifs at offered with other
    exact ⟨success, not_not.mp other, by simpa using offered⟩
  · cases named

/-- A single-secret reply fails closed, whatever it carries. -/
theorem secret_reply_closed (lawful : vocabulary.Lawful) (kind : String) (options : PromptOptions)
    (rawStatus userMessage : String) (table : FileTable) (secretFd : Option Nat)
    (reading : Reading) (result : SecretResult)
    (replied : secretReply vocabulary maxSecretBytes strerror kind options rawStatus userMessage
      table secretFd reading = some result) :
    FailsClosed (.request kind options) (.secret result) := by
  have chosen := chosen_offered lawful rawStatus kind options
  simp only [secretReply] at replied
  split at replied
  · rename_i failed
    cases replied
    refine ⟨by simp [failed], ?_⟩
    intro named
    exact chosen named
  · rename_i success
    obtain ⟨outcome, -, shaped⟩ := Option.map_eq_some_iff.mp replied
    split at shaped
    · cases shaped
      simp [FailsClosed]
    · cases shaped
      refine ⟨by simp [not_not.mp success], ?_⟩
      intro named
      exact chosen named

/-- A PIN-change reply fails closed. -/
theorem pin_change_reply_closed (options : PromptOptions) (rawStatus userMessage : String)
    (table : FileTable) (primaryFd secondaryFd : Option Nat) (primary secondary : Reading)
    (result : PinChangePromptResult)
    (replied : pinChangeReply vocabulary maxSecretBytes strerror rawStatus userMessage table
      primaryFd secondaryFd primary secondary = some result) :
    FailsClosed (.requestPinChange options) (.pinChange result) := by
  simp only [pinChangeReply] at replied
  split at replied
  · rename_i failed
    cases replied
    simp [FailsClosed, failed]
  · rename_i success
    simp only [Option.bind_eq_bind, Option.bind_eq_some_iff] at replied
    obtain ⟨current, -, newPin, -, shaped⟩ := replied
    split at shaped
    · cases shaped
      simp [FailsClosed, not_not.mp success]
    · cases shaped
      simp [FailsClosed]

/-- What a reply makes of a call fails closed. -/
theorem reply_outcome_closed (lawful : vocabulary.Lawful) (method : PromptMethod)
    (rawStatus : String) (primaryFd secondaryFd : Option Nat) (userMessage : String)
    (table : FileTable) (primary secondary : Reading) (outcome : PromptOutcome)
    (replied : replyOutcome vocabulary maxSecretBytes strerror method rawStatus primaryFd
      secondaryFd userMessage table primary secondary = some outcome) :
    FailsClosed method outcome := by
  cases method with
  | request kind options =>
    obtain ⟨result, shaped, rfl⟩ := Option.map_eq_some_iff.mp replied
    exact secret_reply_closed maxSecretBytes strerror lawful kind options rawStatus userMessage
      table primaryFd primary result shaped
  | requestPinChange options =>
    obtain ⟨result, shaped, rfl⟩ := Option.map_eq_some_iff.mp replied
    exact pin_change_reply_closed maxSecretBytes strerror options rawStatus userMessage table
      primaryFd secondaryFd primary secondary result shaped

/-- A reply is parsed and read to its end when finitely many reads are interrupted. -/
theorem reply_outcome_returns (method : PromptMethod) (rawStatus : String)
    (primaryFd secondaryFd : Option Nat) (userMessage : String) (table : FileTable)
    (primary secondary : ReaderCalls) (last fuel : Nat)
    (first : Transfers.FinitelyInterrupted kEintr primary.pread last)
    (second : Transfers.FinitelyInterrupted kEintr secondary.pread last)
    (enough : last + maxSecretBytes < fuel) :
    (replyOutcome vocabulary maxSecretBytes strerror method rawStatus primaryFd secondaryFd
      userMessage table ⟨fuel, primary⟩ ⟨fuel, secondary⟩).isSome = true := by
  have read : ∀ table fd, ∃ outcome,
      readReply maxSecretBytes strerror ⟨fuel, primary⟩ table fd = some outcome := by
    intro table fd
    exact Option.isSome_iff_exists.mp
      (read_secret_returns maxSecretBytes strerror primary last first table fd fuel enough)
  have reread : ∀ table fd, ∃ outcome,
      readReply maxSecretBytes strerror ⟨fuel, secondary⟩ table fd = some outcome := by
    intro table fd
    exact Option.isSome_iff_exists.mp
      (read_secret_returns maxSecretBytes strerror secondary last second table fd fuel enough)
  cases method with
  | request kind options =>
    obtain ⟨outcome, returned⟩ := read table primaryFd
    simp only [replyOutcome, secretReply, returned]
    split_ifs <;> simp
  | requestPinChange options =>
    obtain ⟨current, returned⟩ := read table primaryFd
    obtain ⟨newPin, returnedToo⟩ := reread current.table secondaryFd
    simp only [replyOutcome, pinChangeReply, returned, Option.bind_eq_bind, Option.bind_some,
      returnedToo]
    split
    · rfl
    · cases current.result <;> cases newPin.result <;> rfl

variable (vocabulary)

/-- A message that raises a window. -/
def prompts : BusCall → Bool
  | .requestSecret _ _ _ => true
  | .requestSecrets _ _ _ => true
  | _ => false

/-- The call a message was sent for. -/
def sentBy : BusCall → Option Nat
  | .requestSecret call _ _ => some call
  | .requestSecrets call _ _ => some call
  | .cancel call _ => call
  | _ => none

/-- What was sent for one call. -/
def sentFor (call : Nat) (log : List BusCall) : List BusCall :=
  log.filter (fun entry => decide (sentBy entry = some call))

/-- The prompter was found usable. -/
def FoundUsable (log : List BusCall) : Prop :=
  ∃ version, BusCall.probe (.reported version) ∈ log ∧ usable (some version) = true

/-- A call has sent its message, unless it had no connection. -/
def Attempted (call : Nat) (method : PromptMethod) (sent : List BusCall) : Prop :=
  sent = [] ∨ sent = [message vocabulary call method]

/-- What a call has sent at a stage. A call that the bus failed has cancelled its prompt
before it returns. -/
def Staged (call : Nat) (method : PromptMethod) (sent : List BusCall) : PromptStage → Prop
  | .checking => sent = []
  | .calling => sent = []
  | .waiting => sent = [message vocabulary call method]
  | .cancelling _ => Attempted vocabulary call method sent
  | .returned .refused outcome => FailsClosed method outcome ∧ sent = []
  | .returned .exception outcome =>
    FailsClosed method outcome ∧ Attempted vocabulary call method sent
  | .returned .replied outcome =>
    FailsClosed method outcome ∧ sent = [message vocabulary call method]
  | .returned .busError outcome =>
    FailsClosed method outcome ∧ ∃ attempted, Attempted vocabulary call method attempted ∧
      sent = attempted ++ [.cancel (some call) method.options.promptId]

/-- The invariant of the client. -/
structure Disciplined (client : PrompterClient) : Prop where
  numbered : ∀ entry ∈ client.log, ∀ call, sentBy entry = some call → call < client.calls.length
  remembered : client.capability = some true → FoundUsable client.log
  cleared : ∀ (call : Nat) method, client.calls[call]? = some (method, .calling) →
    FoundUsable client.log
  staged : ∀ (call : Nat) method stage, client.calls[call]? = some (method, stage) →
    Staged vocabulary call method (sentFor call client.log) stage
  requested : ∀ before entry after, client.log = before ++ entry :: after →
    prompts entry = true → FoundUsable before

/-- A client that sent nothing. -/
theorem disciplined_initial : Disciplined vocabulary {} := by
  constructor <;> simp

/-- A usable prompter stays found. -/
theorem found_later (log sent : List BusCall) (found : FoundUsable log) :
    FoundUsable (log ++ sent) := by
  obtain ⟨version, member, sufficient⟩ := found
  exact ⟨version, List.mem_append_left _ member, sufficient⟩

/-- What is sent for one call is not sent for another. -/
theorem sent_for_other (call other : Nat) (log sent : List BusCall) (apart : other ≠ call)
    (own : ∀ entry ∈ sent, ∀ id, sentBy entry = some id → id = call) :
    sentFor other (log ++ sent) = sentFor other log := by
  have none : sent.filter (fun entry => decide (sentBy entry = some other)) = [] := by
    rw [List.filter_eq_nil_iff]
    intro entry member
    simp only [decide_eq_true_eq]
    intro same
    exact apart (own entry member other same)
  rw [sentFor, List.filter_append, none, List.append_nil]
  rfl

/-- Prompts sent behind a log in which the prompter was found usable. -/
theorem requested_later (log sent : List BusCall)
    (earlier : ∀ before entry after, log = before ++ entry :: after → prompts entry = true →
      FoundUsable before)
    (found : ∀ entry ∈ sent, prompts entry = true → FoundUsable log)
    (before : List BusCall) (entry : BusCall) (after : List BusCall)
    (split : log ++ sent = before ++ entry :: after) (prompting : prompts entry = true) :
    FoundUsable before := by
  rcases List.append_eq_append_iff.mp split with ⟨rest, rfl, behind⟩ | ⟨rest, inside, behind⟩
  · exact found_later log rest (found entry (by simp [behind]) prompting)
  · cases rest with
    | nil =>
      have whole : log = before := by simpa using inside
      rw [← whole]
      exact found entry (by rw [← List.nil_append sent, ← behind]; simp) prompting
    | cons first rest =>
      obtain ⟨rfl, rfl⟩ := List.cons.inj behind
      exact earlier before entry rest inside prompting

variable {vocabulary} {client : PrompterClient}

/-- A call moves on, having sent its own messages. -/
theorem disciplined_advance (capability : Option Bool) (sent : List BusCall) (call : Nat)
    (method : PromptMethod) (old stage : PromptStage) (disciplined : client.Disciplined vocabulary)
    (present : client.calls[call]? = some (method, old))
    (own : ∀ entry ∈ sent, ∀ id, sentBy entry = some id → id = call)
    (remembered : capability = some true → FoundUsable (client.log ++ sent))
    (cleared : stage = .calling → FoundUsable (client.log ++ sent))
    (staged : Staged vocabulary call method (sentFor call client.log ++ sentFor call sent) stage)
    (found : ∀ entry ∈ sent, prompts entry = true → FoundUsable client.log) :
    Disciplined vocabulary (({ client with capability }.send sent).advance call method stage) := by
  have bounded : call < client.calls.length := (List.getElem?_eq_some_iff.mp present).1
  have looked : ∀ id entry, (client.calls.set call (method, stage))[id]? = some entry →
      id = call ∧ entry = (method, stage) ∨ id ≠ call ∧ client.calls[id]? = some entry := by
    intro id entry at_id
    rw [List.getElem?_set] at at_id
    split_ifs at at_id with same
    · exact Or.inl ⟨same.symm, (Option.some.inj at_id).symm⟩
    · exact Or.inr ⟨fun equal => same equal.symm, at_id⟩
  constructor
  · intro entry member id by_id
    simp only [advance, send, List.length_set] at member ⊢
    rcases List.mem_append.mp member with earlier | latest
    · exact disciplined.numbered entry earlier id by_id
    · rw [own entry latest id by_id]
      exact bounded
  · exact remembered
  · intro id other at_id
    rcases looked id _ at_id with ⟨-, same⟩ | ⟨-, before⟩
    · exact cleared (congrArg Prod.snd same).symm
    · exact found_later _ _ (disciplined.cleared id other before)
  · intro id other now at_id
    rcases looked id _ at_id with ⟨rfl, same⟩ | ⟨apart, before⟩
    · cases same
      simpa only [advance, send, sentFor, List.filter_append] using staged
    · have unsent := sent_for_other call id client.log sent apart own
      simp only [advance, send]
      rw [unsent]
      exact disciplined.staged id other now before
  · exact requested_later client.log sent disciplined.requested found

/-- The prompter is usable exactly when that is remembered, and it is remembered because it
was before or because the prompter has just reported so. -/
theorem usability_spec (capability : Option Bool) (probe : ProbeOutcome) :
    ((prompterUsability capability probe).1 = .usable ↔
        (prompterUsability capability probe).2 = some true) ∧
      ((prompterUsability capability probe).2 = some true →
        capability = some true ∨
          capability = none ∧ ∃ version, probe = .reported version ∧ usable (some version) = true) := by
  cases capability with
  | some known => cases known <;> simp [prompterUsability, usabilityOf]
  | none =>
    cases probe with
    | reported version =>
      cases sufficient : usable (some version) <;>
        simp [prompterUsability, usabilityOf, sufficient]
    | busError name message =>
      simp only [prompterUsability]
      split_ifs <;> simp [usabilityOf, usable]
    | exception message => simp [prompterUsability]

/-- A refusal is not a success. -/
theorem refusal_failed (usability : Usability) (status : PromptStatus) (userMessage : String)
    (refused : refusal usability = some (status, userMessage)) : status ≠ .ok := by
  cases usability <;> cases refused <;> simp

/-- Asking for the version is no call's message and raises no window. -/
theorem asking_silent (probe : ProbeOutcome) (entry : BusCall)
    (member : entry ∈ client.asking probe) : sentBy entry = none ∧ prompts entry = false := by
  unfold asking at member
  split at member
  · rw [List.mem_singleton.mp member]
    exact ⟨rfl, rfl⟩
  · cases member

/-- The check of the version. -/
theorem disciplined_check (call : Nat) (method : PromptMethod) (probe : ProbeOutcome)
    (disciplined : client.Disciplined vocabulary)
    (present : client.calls[call]? = some (method, .checking)) :
    Disciplined vocabulary (client.checkUsable call method probe) := by
  obtain ⟨usableIff, known⟩ := usability_spec client.capability probe
  have own : ∀ entry ∈ client.asking probe, ∀ id, sentBy entry = some id → id = call := by
    intro entry member id by_id
    rw [(asking_silent probe entry member).1] at by_id
    cases by_id
  have quiet : ∀ entry ∈ client.asking probe, prompts entry = true → FoundUsable client.log := by
    intro entry member prompting
    rw [(asking_silent probe entry member).2] at prompting
    cases prompting
  have unsent : sentFor call client.log ++ sentFor call (client.asking probe) = [] := by
    have before : sentFor call client.log = [] := disciplined.staged call method .checking present
    rw [before, List.nil_append, sentFor, List.filter_eq_nil_iff]
    intro entry member
    simp [(asking_silent probe entry member).1]
  have found : (prompterUsability client.capability probe).2 = some true →
      FoundUsable (client.log ++ client.asking probe) := by
    intro remembered
    rcases known remembered with before | ⟨unknown, version, rfl, sufficient⟩
    · exact found_later _ _ (disciplined.remembered before)
    · exact ⟨version, by simp [asking, unknown], sufficient⟩
  simp only [checkUsable]
  split
  · rename_i passed
    have answered : (prompterUsability client.capability probe).1 = .usable := by
      cases answer : (prompterUsability client.capability probe).1 <;>
        simp [answer, refusal] at passed ⊢
    refine disciplined_advance _ _ call method .checking .calling disciplined present own found
      (fun _ => found (usableIff.mp answered)) ?_ quiet
    exact unsent
  · rename_i status userMessage refused
    refine disciplined_advance _ _ call method .checking _ disciplined present own found
      (by simp) ?_ quiet
    exact ⟨without_closed method status userMessage (refusal_failed _ status userMessage refused),
      unsent⟩

/-- A call moves on without sending anything. -/
theorem disciplined_silent (call : Nat) (method : PromptMethod) (old stage : PromptStage)
    (disciplined : client.Disciplined vocabulary)
    (present : client.calls[call]? = some (method, old)) (later : stage ≠ .calling)
    (staged : Staged vocabulary call method (sentFor call client.log) stage) :
    Disciplined vocabulary (client.advance call method stage) := by
  have moved := disciplined_advance client.capability [] call method old stage disciplined present
    (by simp) (fun known => found_later _ _ (disciplined.remembered known))
    (fun same => absurd same later) (by simpa [sentFor] using staged) (by simp)
  simpa [send] using moved

/-- The end of a bus call. Without its message sent there is no reply. -/
theorem disciplined_finish (lawful : vocabulary.Lawful) (call : Nat) (method : PromptMethod)
    (old : PromptStage) (ended : CallEnd) (next : PrompterClient)
    (disciplined : client.Disciplined vocabulary)
    (present : client.calls[call]? = some (method, old))
    (attempted : Attempted vocabulary call method (sentFor call client.log))
    (answerable : ended.replies = true →
      sentFor call client.log = [message vocabulary call method])
    (finished : client.finishCall vocabulary maxSecretBytes strerror call method ended =
      some next) : Disciplined vocabulary next := by
  cases ended with
  | busError userMessage =>
    cases Option.some.inj finished
    exact disciplined_silent call method old _ disciplined present (by simp) attempted
  | exception userMessage =>
    cases Option.some.inj finished
    exact disciplined_silent call method old _ disciplined present (by simp)
      ⟨without_closed method .error userMessage (by simp), attempted⟩
  | replied rawStatus primaryFd secondaryFd userMessage table primary secondary =>
    obtain ⟨outcome, replied, rfl⟩ := Option.map_eq_some_iff.mp finished
    exact disciplined_silent call method old _ disciplined present (by simp)
      ⟨reply_outcome_closed maxSecretBytes strerror lawful method rawStatus primaryFd secondaryFd
        userMessage table primary secondary outcome replied, answerable rfl⟩

/-- What is sent for no call, and raises no window, disturbs no call. -/
theorem disciplined_send (entry : BusCall) (disciplined : client.Disciplined vocabulary)
    (outside : sentBy entry = none) (quiet : prompts entry = false) :
    Disciplined vocabulary (client.send [entry]) := by
  constructor
  · intro other member call by_call
    rcases List.mem_append.mp member with earlier | latest
    · exact disciplined.numbered other earlier call by_call
    · rw [List.mem_singleton.mp latest, outside] at by_call
      cases by_call
  · intro known
    exact found_later _ _ (disciplined.remembered known)
  · intro call method present
    exact found_later _ _ (disciplined.cleared call method present)
  · intro call method stage present
    have unsent : sentFor call (client.log ++ [entry]) = sentFor call client.log := by
      simp [sentFor, outside]
    simp only [send]
    rw [unsent]
    exact disciplined.staged call method stage present
  · refine requested_later client.log [entry] disciplined.requested ?_
    intro other member prompting
    rw [List.mem_singleton.mp member, quiet] at prompting
    cases prompting

/-- A new call has sent nothing. -/
theorem disciplined_enter (method : PromptMethod) (disciplined : client.Disciplined vocabulary) :
    Disciplined vocabulary { client with calls := client.calls ++ [(method, .checking)] } := by
  have looked : ∀ (id : Nat) entry, (client.calls ++ [(method, .checking)])[id]? = some entry →
      client.calls[id]? = some entry ∨ id = client.calls.length ∧ entry = (method, .checking) := by
    intro id entry present
    rw [List.getElem?_append] at present
    split_ifs at present with inside
    · exact Or.inl present
    · obtain ⟨last, same⟩ := List.getElem?_eq_some_iff.mp present
      simp only [List.length_singleton] at last
      refine Or.inr ⟨by omega, ?_⟩
      rw [← same]
      simp
  constructor
  · intro entry member call by_call
    have bounded := disciplined.numbered entry member call by_call
    simp only [List.length_append, List.length_singleton]
    omega
  · exact disciplined.remembered
  · intro call other present
    rcases looked call _ present with before | ⟨-, same⟩
    · exact disciplined.cleared call other before
    · cases same
  · intro call other stage present
    rcases looked call _ present with before | ⟨rfl, same⟩
    · exact disciplined.staged call other stage before
    · cases same
      show sentFor client.calls.length client.log = []
      rw [sentFor, List.filter_eq_nil_iff]
      intro entry member
      simp only [decide_eq_true_eq]
      intro by_call
      exact absurd (disciplined.numbered entry member _ by_call) (Nat.lt_irrefl _)
  · exact disciplined.requested

/-- What a step can do, and when. -/
theorem step_cases (client : PrompterClient) (event : ClientEvent) (next : PrompterClient)
    (stepped : step vocabulary maxSecretBytes strerror client event = some next) :
    (∃ method, event = .enter method ∧
      next = { client with calls := client.calls ++ [(method, .checking)] }) ∨
    (∃ call probe method, event = .check call probe ∧
      client.calls[call]? = some (method, .checking) ∧ next = client.checkUsable call method probe) ∨
    (∃ call method, event = .send call ∧ client.calls[call]? = some (method, .calling) ∧
      next = (client.send [message vocabulary call method]).advance call method .waiting) ∨
    (∃ call ended method stage, event = .finish call ended ∧
      client.calls[call]? = some (method, stage) ∧
      (stage = .calling ∧ ¬ ended.replies ∨ stage = .waiting) ∧
      client.finishCall vocabulary maxSecretBytes strerror call method ended = some next) ∨
    (∃ call method userMessage, event = .dismiss call ∧
      client.calls[call]? = some (method, .cancelling userMessage) ∧
      next = (client.send [.cancel (some call) method.options.promptId]).advance call method
        (.returned .busError (method.without .error userMessage))) ∨
    (∃ promptId, event = .cancel promptId ∧ next = client.send [.cancel none promptId]) ∨
    event = .reset ∧ next = client.send [.reset] := by
  cases event with
  | enter method => exact .inl ⟨method, rfl, (Option.some.inj stepped).symm⟩
  | check call probe =>
    simp only [step] at stepped
    split at stepped
    · rename_i method present
      exact .inr (.inl ⟨call, probe, method, rfl, present, (Option.some.inj stepped).symm⟩)
    · cases stepped
  | send call =>
    simp only [step] at stepped
    split at stepped
    · rename_i method present
      exact .inr (.inr (.inl ⟨call, method, rfl, present, (Option.some.inj stepped).symm⟩))
    · cases stepped
  | finish call ended =>
    refine .inr (.inr (.inr (.inl ?_)))
    simp only [step] at stepped
    split at stepped
    · rename_i method present
      split_ifs at stepped with replied
      exact ⟨call, ended, method, .calling, rfl, present, .inl ⟨rfl, replied⟩, stepped⟩
    · rename_i method present
      exact ⟨call, ended, method, .waiting, rfl, present, .inr rfl, stepped⟩
    · cases stepped
  | dismiss call =>
    refine .inr (.inr (.inr (.inr (.inl ?_))))
    simp only [step] at stepped
    split at stepped
    · rename_i method userMessage present
      exact ⟨call, method, userMessage, rfl, present, (Option.some.inj stepped).symm⟩
    · cases stepped
  | cancel promptId =>
    exact .inr (.inr (.inr (.inr (.inr (.inl ⟨promptId, rfl, (Option.some.inj stepped).symm⟩)))))
  | reset => exact .inr (.inr (.inr (.inr (.inr (.inr ⟨rfl, (Option.some.inj stepped).symm⟩)))))

/-- Every step keeps the invariant.

Proof: each case of a step extends the log by what its own call sends, and moves that call only. -/
theorem disciplined_step (lawful : vocabulary.Lawful) (client : PrompterClient)
    (event : ClientEvent) (next : PrompterClient) (disciplined : client.Disciplined vocabulary)
    (stepped : step vocabulary maxSecretBytes strerror client event = some next) :
    next.Disciplined vocabulary := by
  rcases step_cases maxSecretBytes strerror client event next stepped with
    ⟨method, rfl, rfl⟩ | ⟨call, probe, method, rfl, present, rfl⟩ |
    ⟨call, method, rfl, present, rfl⟩ | ⟨call, ended, method, stage, rfl, present, running, finished⟩ |
    ⟨call, method, userMessage, rfl, present, rfl⟩ | ⟨promptId, rfl, rfl⟩ | ⟨rfl, rfl⟩
  · exact disciplined_enter method disciplined
  · exact disciplined_check call method probe disciplined present
  · have unsent : sentFor call client.log = [] := disciplined.staged call method .calling present
    have own : sentBy (message vocabulary call method) = some call := by cases method <;> rfl
    have found := disciplined.cleared call method present
    refine disciplined_advance client.capability _ call method .calling .waiting disciplined
      present ?_ (fun _ => found_later _ _ found) (by simp) ?_ (fun _ _ _ => found)
    · intro entry member id by_id
      rw [List.mem_singleton.mp member, own] at by_id
      exact (Option.some.inj by_id).symm
    · rw [Staged, unsent]
      simp [sentFor, own]
  · rcases running with ⟨rfl, unreplied⟩ | rfl
    · have unsent : sentFor call client.log = [] := disciplined.staged call method .calling present
      exact disciplined_finish maxSecretBytes strerror lawful call method .calling ended next
        disciplined present (Or.inl unsent) (fun answered => absurd answered unreplied) finished
    · have sent : sentFor call client.log = [message vocabulary call method] :=
        disciplined.staged call method .waiting present
      exact disciplined_finish maxSecretBytes strerror lawful call method .waiting ended next
        disciplined present (Or.inr sent) (fun _ => sent) finished
  · have attempted : Attempted vocabulary call method (sentFor call client.log) :=
      disciplined.staged call method (.cancelling userMessage) present
    refine disciplined_advance client.capability _ call method (.cancelling userMessage) _
      disciplined present ?_ (fun known => found_later _ _ (disciplined.remembered known))
      (by simp) ⟨without_closed method .error userMessage (by simp), _, attempted, ?_⟩ ?_
    · intro entry member id by_id
      rw [List.mem_singleton.mp member] at by_id
      exact (Option.some.inj by_id).symm
    · simp [sentFor, sentBy]
    · intro entry member prompting
      rw [List.mem_singleton.mp member] at prompting
      cases prompting
  · exact disciplined_send _ disciplined rfl rfl
  · exact disciplined_send _ disciplined rfl rfl

/-- The bus has failed the call. -/
def BusFailed : PromptStage → Prop
  | .cancelling _ => True
  | .returned .busError _ => True
  | _ => False

/-- What a step does to the calls: new ones, or one that moves on. A call that the bus
failed can only cancel and return. -/
theorem step_moves (client : PrompterClient) (event : ClientEvent) (next : PrompterClient)
    (stepped : step vocabulary maxSecretBytes strerror client event = some next) :
    (∃ added, next.calls = client.calls ++ added) ∨
      ∃ (call : Nat) (method : PromptMethod) (old stage : PromptStage),
        client.calls[call]? = some (method, old) ∧
        next.calls = client.calls.set call (method, stage) ∧ (BusFailed old → BusFailed stage) := by
  rcases step_cases maxSecretBytes strerror client event next stepped with
    ⟨method, rfl, rfl⟩ | ⟨call, probe, method, rfl, present, rfl⟩ |
    ⟨call, method, rfl, present, rfl⟩ | ⟨call, ended, method, stage, rfl, present, running, finished⟩ |
    ⟨call, method, userMessage, rfl, present, rfl⟩ | ⟨promptId, rfl, rfl⟩ | ⟨rfl, rfl⟩
  · exact Or.inl ⟨_, rfl⟩
  · right
    simp only [checkUsable]
    split <;> exact ⟨call, method, .checking, _, present, rfl, False.elim⟩
  · exact Or.inr ⟨call, method, .calling, _, present, rfl, False.elim⟩
  · have unfailed : ¬ BusFailed stage := by
      rcases running with ⟨rfl, -⟩ | rfl <;> exact id
    right
    cases ended with
    | busError userMessage =>
      cases Option.some.inj finished
      exact ⟨call, method, stage, _, present, rfl, fun failed => absurd failed unfailed⟩
    | exception userMessage =>
      cases Option.some.inj finished
      exact ⟨call, method, stage, _, present, rfl, fun failed => absurd failed unfailed⟩
    | replied =>
      obtain ⟨outcome, -, rfl⟩ := Option.map_eq_some_iff.mp finished
      exact ⟨call, method, stage, _, present, rfl, fun failed => absurd failed unfailed⟩
  · exact Or.inr ⟨call, method, .cancelling userMessage, _, present, rfl, fun _ => trivial⟩
  · exact Or.inl ⟨[], (List.append_nil _).symm⟩
  · exact Or.inl ⟨[], (List.append_nil _).symm⟩

/-- A call that the bus failed stays one. -/
theorem bus_failed_step (client : PrompterClient) (event : ClientEvent) (next : PrompterClient)
    (stepped : step vocabulary maxSecretBytes strerror client event = some next) (call : Nat)
    (failed : ∃ method stage, client.calls[call]? = some (method, stage) ∧ BusFailed stage) :
    ∃ method stage, next.calls[call]? = some (method, stage) ∧ BusFailed stage := by
  obtain ⟨method, stage, present, failing⟩ := failed
  have bounded : call < client.calls.length := (List.getElem?_eq_some_iff.mp present).1
  rcases step_moves maxSecretBytes strerror client event next stepped with
    ⟨added, appended⟩ | ⟨moved, mover, old, new, before, updated, kept⟩
  · refine ⟨method, stage, ?_, failing⟩
    rw [appended, List.getElem?_append_left bounded]
    exact present
  · rw [updated, List.getElem?_set]
    by_cases same : moved = call
    · subst same
      cases Option.some.inj (present.symm.trans before)
      exact ⟨method, new, by simp [bounded], kept failing⟩
    · exact ⟨method, stage, by rw [if_neg same]; exact present, failing⟩

/-- A bus error fails its call. -/
theorem bus_error_failed (client : PrompterClient) (call : Nat) (userMessage : String)
    (next : PrompterClient)
    (stepped : step vocabulary maxSecretBytes strerror client
      (.finish call (.busError userMessage)) = some next) :
    ∃ method stage, next.calls[call]? = some (method, stage) ∧ BusFailed stage := by
  rcases step_cases maxSecretBytes strerror client _ next stepped with
    ⟨_, impossible, -⟩ | ⟨_, _, _, impossible, -⟩ | ⟨_, _, impossible, -⟩ |
    ⟨_, _, method, stage, same, present, -, finished⟩ | ⟨_, _, _, impossible, -⟩ |
    ⟨_, impossible, -⟩ | ⟨impossible, -⟩
  case inr.inr.inr.inl =>
    cases same
    cases Option.some.inj finished
    have bounded : call < client.calls.length := (List.getElem?_eq_some_iff.mp present).1
    exact ⟨method, .cancelling userMessage, by simp [advance, bounded], trivial⟩
  all_goals cases impossible

variable (vocabulary)

/-- The prompt of a call has been cancelled after everything else the call sent, or it is
cancelled by the call's next step. -/
def Cancelled (client : PrompterClient) (call : Nat) : Prop :=
  ∃ method stage, client.calls[call]? = some (method, stage) ∧
    ((∃ outcome attempted, stage = .returned .busError outcome ∧
        Attempted vocabulary call method attempted ∧
        sentFor call client.log =
          attempted ++ [.cancel (some call) method.options.promptId]) ∨
      ∃ userMessage next, stage = .cancelling userMessage ∧
        step vocabulary maxSecretBytes strerror client (.dismiss call) = some next ∧
        next.log = client.log ++ [.cancel (some call) method.options.promptId])

/-- The client fails closed, whatever the prompter, the bus and the kernel do and however the
workers' calls interleave. Every result that a call returned fails closed. A window was only
asked for after the prompter had reported a usable version. A call that ended in a bus error
cancels its prompt before it returns. A reply whose reads are finitely often interrupted
is read to its end.

Proof: the invariant `Disciplined` ties the stage of every call to what the log holds of it. A bus
error of the past has failed its call for good, and the reads of a reply end because each of them
is interrupted finitely often. -/
theorem prompts_fail_closed (lawful : vocabulary.Lawful) (events : List ClientEvent)
    (client : PrompterClient)
    (reached : Runs.run (step vocabulary maxSecretBytes strerror) {} events = some client) :
    (∀ (call : Nat) method ending outcome,
      client.calls[call]? = some (method, .returned ending outcome) →
        FailsClosed method outcome) ∧
    (∀ before entry after, client.log = before ++ entry :: after → prompts entry = true →
      FoundUsable before) ∧
    (∀ state call userMessage, (state, ClientEvent.finish call (.busError userMessage)) ∈
        Runs.trace (step vocabulary maxSecretBytes strerror) {} events →
      client.Cancelled vocabulary maxSecretBytes strerror call) ∧
    ∀ method rawStatus primaryFd secondaryFd userMessage table (primary secondary : ReaderCalls)
      last fuel, Transfers.FinitelyInterrupted kEintr primary.pread last →
      Transfers.FinitelyInterrupted kEintr secondary.pread last → last + maxSecretBytes < fuel →
      (replyOutcome vocabulary maxSecretBytes strerror method rawStatus primaryFd secondaryFd
        userMessage table ⟨fuel, primary⟩ ⟨fuel, secondary⟩).isSome = true := by
  have disciplined := Runs.run_invariant (step vocabulary maxSecretBytes strerror)
    (Disciplined vocabulary) (disciplined_step maxSecretBytes strerror lawful) events {} client
    (disciplined_initial vocabulary) reached
  refine ⟨?_, disciplined.requested, ?_, ?_⟩
  · intro call method ending outcome present
    have staged := disciplined.staged call method (.returned ending outcome) present
    cases ending <;> exact staged.1
  · -- Every bus error of the past has failed its call for good.
    have failed := Runs.trace_invariant (step vocabulary maxSecretBytes strerror)
      (fun past client => ∀ state call userMessage,
        (state, ClientEvent.finish call (.busError userMessage)) ∈ past →
        ∃ method stage, client.calls[call]? = some (method, stage) ∧ BusFailed stage)
      (by
        intro past client event next before stepped state call userMessage member
        rcases List.mem_append.mp member with earlier | latest
        · exact bus_failed_step maxSecretBytes strerror client event next stepped call
            (before state call userMessage earlier)
        · obtain ⟨rfl, rfl⟩ := Prod.mk.inj (List.mem_singleton.mp latest)
          exact bus_error_failed maxSecretBytes strerror state call userMessage next stepped)
      events {} client (by simp) reached
    intro state call userMessage member
    obtain ⟨method, stage, present, failing⟩ := failed state call userMessage member
    have staged := disciplined.staged call method stage present
    refine ⟨method, stage, present, ?_⟩
    cases stage with
    | cancelling userMessage =>
      refine Or.inr ⟨userMessage,
        (client.send [.cancel (some call) method.options.promptId]).advance call method
          (.returned .busError (method.without .error userMessage)), rfl, ?_, rfl⟩
      simp only [step, present]
    | returned ending outcome =>
      cases ending with
      | busError =>
        obtain ⟨-, attempted, sent, logged⟩ := staged
        exact Or.inl ⟨outcome, attempted, rfl, sent, logged⟩
      | refused => exact failing.elim
      | exception => exact failing.elim
      | replied => exact failing.elim
    | checking => exact failing.elim
    | calling => exact failing.elim
    | waiting => exact failing.elim
  · intro method rawStatus primaryFd secondaryFd userMessage table primary secondary last fuel
      first second enough
    exact reply_outcome_returns maxSecretBytes strerror method rawStatus primaryFd secondaryFd
      userMessage table primary secondary last fuel first second enough

/-- The bus fails a CAN prompt, which is cancelled; then a PIN change is answered with a
success and one descriptor only. -/
def failedPrompts : List ClientEvent :=
  [.enter (.request kKindCan { promptId := "prompt-1" }), .check 0 (.reported 2), .send 0,
    .finish 0 (.busError "Connection timed out"), .dismiss 0,
    .enter (.requestPinChange {}), .check 1 (.exception ""), .send 1,
    .finish 1 (.replied "ok" (some 0) none ""
      (noFiles.create ⟨[49, 50, 51, 52], some kCreatorSeals⟩)
      ⟨8, { pread := haltingKernel }⟩ ⟨8, { pread := haltingKernel }⟩)]

/-- The first prompt is cancelled, and the half PIN change is none. -/
theorem failed_prompts_closed :
    ∃ client result,
      Runs.run (step agentVocabulary 8192 (fun _ => "")) {} failedPrompts = some client ∧
      client.calls[1]? =
        some (.requestPinChange {}, .returned .replied (.pinChange result)) ∧
      result.status = .error ∧ FailsClosed (.requestPinChange {}) (.pinChange result) ∧
      client.Cancelled agentVocabulary 8192 (fun _ => "") 0 := by
  refine ⟨_, _, rfl, rfl, rfl, ?_, ?_⟩
  · exact (prompts_fail_closed agentVocabulary 8192 (fun _ => "") agentVocabulary_lawful
      failedPrompts _ rfl).1 1 _ _ _ rfl
  · exact (prompts_fail_closed agentVocabulary 8192 (fun _ => "") agentVocabulary_lawful
      failedPrompts _ rfl).2.2.1 _ 0 "Connection timed out"
      (List.mem_cons_of_mem _ (List.mem_cons_of_mem _ (List.mem_cons_of_mem _ List.mem_cons_self)))

/-- A reply whose descriptor holds a sealed text is the one the earlier model of the request
parses, for some failing calls. -/
theorem secret_reply_refines (kind : String) (options : PromptOptions)
    (rawStatus userMessage : String) (table : FileTable) (fd : Nat) (reading : Reading)
    (reply : SealedMemfd)
    (opened : table.files fd = some ⟨utf8Bytes reply.content, some kCreatorSeals⟩)
    (result : SecretResult)
    (replied : secretReply vocabulary maxSecretBytes strerror kind options rawStatus userMessage
      table (some fd) reading = some result) :
    ∃ faults,
      let requested := Agent.request vocabulary maxSecretBytes kind options faults
        (.replied rawStatus (.memfd reply) userMessage)
      result.status = requested.status ∧ result.chosenKind = requested.chosenKind ∧
        result.userMessage = requested.userMessage ∧
        result.secret = requested.secret.map utf8Bytes := by
  simp only [secretReply] at replied
  split at replied
  · rename_i failed
    cases replied
    exact ⟨{}, by simp [Agent.request, failed]⟩
  · rename_i success
    obtain ⟨outcome, read, shaped⟩ := Option.map_eq_some_iff.mp replied
    obtain ⟨faults, same⟩ := read_secret_refines maxSecretBytes strerror reading.fuel reading.calls
      table fd reply opened outcome read
    refine ⟨faults, ?_⟩
    simp only [Agent.request, success, if_false]
    cases text : readSecretMemfd maxSecretBytes faults (.memfd reply) with
    | error message =>
      rw [same, text] at shaped
      cases shaped
      exact ⟨rfl, rfl, rfl, rfl⟩
    | ok secret =>
      rw [same, text] at shaped
      cases shaped
      exact ⟨rfl, rfl, rfl, rfl⟩

end PrompterClient

end LibreLinux.Agent
