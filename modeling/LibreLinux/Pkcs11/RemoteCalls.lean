import LibreLinux.Pkcs11.KeyTransparency

/-!
# Calls that reach the card

The module signs, decrypts and derives through the agent: a call of the client becomes a
message to the manager object, which hands a request to the broker and binds the reply. The
broker fulfils it from a worker, later and in any order, or drops it, and the bound reply then
answers for it. Meanwhile the client may give up waiting, or lose the agent, while the broker
goes on.

The mechanism of a call travels as a token, and one token names a signing and a decrypting
mechanism at once. What the broker is handed is nevertheless what the module was asked for,
once for each call, and a call that succeeds returns what the broker answered to that very
request.

The mechanisms and the broker belong to the agent library. A reply carries the serial of its
call, which the bus keeps.
-/

namespace LibreLinux.Pkcs11

open Results (Bytes)
open Runs

/-- The spelling of the mechanisms. -/
structure Mechanisms (μ : Type) where
  mechanismToken : μ → String
  signMechanismFromToken : String → Option μ
  decryptMechanismFromToken : String → Option μ
  rsaPkcs1Decrypt : μ
  kEcdhKdfNull : UInt64

/-- What a key agreement is given. -/
structure MechParamsEcdh where
  peerPublicPoint : Bytes
  kdf : UInt64
  sharedData : Bytes
deriving DecidableEq, Repr

/-- A call of the client. -/
inductive ClientCall (μ : Type) where
  | certDer (reader certId : String)
  | login (reader : String)
  | loginActive (reader : String)
  | logout (reader : String)
  | signRaw (reader certId : String) (mechanism : μ) (input : Bytes)
  | decrypt (reader certId : String) (ciphertext : Bytes)
  | derive (reader certId : String) (peerPoint : Bytes)
deriving DecidableEq, Repr

/-- A message to the manager object. -/
inductive WireCall where
  | certDer (reader certId : String)
  | login (reader : String)
  | loginState (reader : String)
  | logout (reader : String)
  | signRaw (reader certId mech : String) (input : Bytes)
  | decrypt (reader certId mech : String) (ciphertext : Bytes)
  | derive (reader certId : String) (point : Bytes)
deriving DecidableEq, Repr

/-- A request to the broker. -/
inductive BrokerRequest (μ : Type) where
  | certDer (reader certId : String)
  | login (reader : String)
  | loginActive (reader : String)
  | logout (reader : String)
  | signRaw (reader certId : String) (mechanism : μ) (input : Bytes)
  | decrypt (reader certId : String) (mechanism : μ) (ciphertext : Bytes)
  | derive (reader certId : String) (params : MechParamsEcdh)
deriving DecidableEq, Repr

/-- The results of the methods. -/
inductive ReplyValue where
  | bytes (value : Bytes)
  | seconds (value : UInt32)
  | active (value : Bool)
  | nothing
deriving DecidableEq, Repr

/-- How a call of the client ends: with its result, with a status, or without an answer to
whether a login is active. -/
inductive CallOutcome where
  | ok (value : ReplyValue)
  | failed (status : Status)
  | unknown
deriving DecidableEq, Repr

section Methods

variable {μ : Type} [DecidableEq μ] (mechanisms : Mechanisms μ)

/-- The message of a call. Only a mechanism that its own token names as a signing one is sent
as a signature. -/
def wireCall : ClientCall μ → Except Status WireCall
  | .certDer reader certId => .ok (.certDer reader certId)
  | .login reader => .ok (.login reader)
  | .loginActive reader => .ok (.loginState reader)
  | .logout reader => .ok (.logout reader)
  | .signRaw reader certId mechanism input =>
    let token := mechanisms.mechanismToken mechanism
    if token = "" ∨ mechanisms.signMechanismFromToken token ≠ some mechanism then
      .error .notSupported
    else .ok (.signRaw reader certId token input)
  | .decrypt reader certId ciphertext =>
    .ok (.decrypt reader certId (mechanisms.mechanismToken mechanisms.rsaPkcs1Decrypt) ciphertext)
  | .derive reader certId peerPoint => .ok (.derive reader certId peerPoint)

/-- A call that failed. -/
def failedWith : ClientCall μ → Status → CallOutcome
  | .loginActive _, _ => .unknown
  | _, status => .failed status

/-- What a call returns for the answer it got. -/
def returnedFor (call : ClientCall μ) : Except CallFailure ReplyValue → CallOutcome
  | .ok value => .ok value
  | .error failure => failedWith call (statusFromException failure)

def kErrInternalPkcs11 : String := "org.librescrs.Agent.Error.Internal"
def kErrInvalidRequest : String := "org.librescrs.Agent.Error.InvalidRequest"

/-- What the manager object hands to the broker, or the name of its refusal. An unknown
mechanism is refused before anything else. -/
def forward (wired : Bool) : WireCall → Except String (BrokerRequest μ)
  | .certDer reader certId =>
    if wired then .ok (.certDer reader certId) else .error kErrInternalPkcs11
  | .login reader => if wired then .ok (.login reader) else .error kErrInternalPkcs11
  | .loginState reader => if wired then .ok (.loginActive reader) else .error kErrInternalPkcs11
  | .logout reader => if wired then .ok (.logout reader) else .error kErrInternalPkcs11
  | .signRaw reader certId mech input =>
    match mechanisms.signMechanismFromToken mech with
    | none => .error kErrInvalidRequest
    | some mechanism =>
      if wired then .ok (.signRaw reader certId mechanism input) else .error kErrInternalPkcs11
  | .decrypt reader certId mech ciphertext =>
    match mechanisms.decryptMechanismFromToken mech with
    | none => .error kErrInvalidRequest
    | some mechanism =>
      if wired then .ok (.decrypt reader certId mechanism ciphertext)
      else .error kErrInternalPkcs11
  | .derive reader certId point =>
    if wired then .ok (.derive reader certId ⟨point, mechanisms.kEcdhKdfNull, []⟩)
    else .error kErrInternalPkcs11

/-- What a call is to the broker. -/
def intended : ClientCall μ → BrokerRequest μ
  | .certDer reader certId => .certDer reader certId
  | .login reader => .login reader
  | .loginActive reader => .loginActive reader
  | .logout reader => .logout reader
  | .signRaw reader certId mechanism input => .signRaw reader certId mechanism input
  | .decrypt reader certId ciphertext =>
    .decrypt reader certId mechanisms.rsaPkcs1Decrypt ciphertext
  | .derive reader certId peerPoint =>
    .derive reader certId ⟨peerPoint, mechanisms.kEcdhKdfNull, []⟩

/-- The token of the decrypting mechanism is read back as that mechanism. -/
def Mechanisms.Lawful (mechanisms : Mechanisms μ) : Prop :=
  mechanisms.decryptMechanismFromToken (mechanisms.mechanismToken mechanisms.rsaPkcs1Decrypt) =
    some mechanisms.rsaPkcs1Decrypt

variable {mechanisms}

/-- The manager object hands on what the client meant, and refuses for want of a broker only. -/
theorem forward_wire_call (lawful : mechanisms.Lawful) (call : ClientCall μ) (wire : WireCall)
    (sent : wireCall mechanisms call = .ok wire) (wired : Bool) :
    forward mechanisms wired wire =
      if wired then .ok (intended mechanisms call) else .error kErrInternalPkcs11 := by
  cases call with
  | signRaw reader certId mechanism input =>
    simp only [wireCall] at sent
    split at sent
    · cases sent
    · rename_i known
      cases Except.ok.inj sent
      obtain ⟨-, read⟩ := not_or.mp known
      simp only [forward, not_not.mp read, intended]
  | decrypt reader certId ciphertext =>
    cases Except.ok.inj sent
    unfold Mechanisms.Lawful at lawful
    simp only [forward, lawful, intended]
  | certDer reader certId => cases Except.ok.inj sent; rfl
  | login reader => cases Except.ok.inj sent; rfl
  | loginActive reader => cases Except.ok.inj sent; rfl
  | logout reader => cases Except.ok.inj sent; rfl
  | derive reader certId peerPoint => cases Except.ok.inj sent; rfl

end Methods

/-! ## Client, agent and what is on its way between them -/

/-- The client of a request, as the manager object resolved it. -/
structure BrokerCaller where
  busName : String
  label : String
deriving DecidableEq, Repr

/-- A call with the bus name of its process, and how it returned. -/
structure PendingCall (μ : Type) where
  sender : String
  call : ClientCall μ
  returned : Option CallOutcome := none
deriving DecidableEq, Repr

/-- The manager object: the mechanisms, whether it has a broker, and the spelling of the
outcomes. A reply that is dropped answers with `cardError`. -/
structure RemoteAgent (μ ω : Type) where
  mechanisms : Mechanisms μ
  wired : Bool
  syncErrorName : ω → String
  cardError : ω

/-- The calls of all clients, the messages and replies on their way, and the broker: what it
was handed, which replies are still bound, and what it answered. -/
structure Remote (μ ω : Type) where
  calls : Nat → Option (PendingCall μ) := fun _ => none
  inbound : List (Nat × String × WireCall) := []
  handed : List (Nat × BrokerCaller × BrokerRequest μ) := []
  bound : List (Nat × BrokerRequest μ) := []
  answered : List (Nat × Except ω ReplyValue) := []
  outbound : List (Nat × Except CallFailure ReplyValue) := []

/-- A step of a client, of the bus, of the manager object or of the broker. -/
inductive RemoteEvent (μ ω : Type) where
  | call (id : Nat) (sender : String) (call : ClientCall μ) (connected : Bool)
  | dispatch (index : Nat) (label : String) (active : Bool)
  | fulfil (index : Nat) (answer : Except ω ReplyValue)
  | drop (index : Nat)
  | deliver (index : Nat)
  | loseMessage (index : Nat)
  | loseReply (index : Nat)
  | fail (id : Nat) (failure : CallFailure)

/-- A failure that is not one of the agent's own errors: no answer in time, no agent, no
connection. -/
def CallFailure.ofBus : CallFailure → Bool
  | .busError name => !"org.librescrs.Agent.Error.".toList.isPrefixOf name.toList
  | .other => true

/-- The results that a bound reply takes. -/
def BrokerRequest.takes {μ : Type} : BrokerRequest μ → ReplyValue → Bool
  | .login _, .seconds _ => true
  | .certDer _ _, .bytes _ => true
  | .signRaw _ _ _ _, .bytes _ => true
  | .decrypt _ _ _ _, .bytes _ => true
  | .derive _ _ _, .bytes _ => true
  | _, _ => false

/-- The answers that a bound reply takes: every outcome, and the results of its method. -/
def BrokerRequest.accepts {μ ω : Type} (request : BrokerRequest μ) : Except ω ReplyValue → Bool
  | .ok value => request.takes value
  | .error _ => true

/-- The broker answers these two at once. -/
def BrokerRequest.atOnce {μ : Type} (active : Bool) : BrokerRequest μ → Option ReplyValue
  | .loginActive _ => some (.active active)
  | .logout _ => some .nothing
  | _ => none

namespace Remote

variable {μ ω : Type} (agent : RemoteAgent μ ω)

/-- The state with another record of one call. -/
def setCall (state : Remote μ ω) (id : Nat) (pending : PendingCall μ) : Remote μ ω :=
  { state with calls := Function.update state.calls id (some pending) }

/-- The reply to what the broker answered. -/
def replyOf : Except ω ReplyValue → Except CallFailure ReplyValue
  | .ok value => .ok value
  | .error outcome =>
      .error (.busError ("org.librescrs.Agent.Error." ++ agent.syncErrorName outcome))

/-- A call returns, unless it returned before: a late answer reaches nobody. -/
def returns (state : Remote μ ω) (id : Nat) (answer : Except CallFailure ReplyValue) :
    Remote μ ω :=
  match state.calls id with
  | some ⟨sender, call, none⟩ => state.setCall id ⟨sender, call, some (returnedFor call answer)⟩
  | _ => state

/-- A bound reply is fulfilled, once. -/
def settle (state : Remote μ ω) (index : Nat) (answer : Except ω ReplyValue) :
    Option (Remote μ ω) :=
  (state.bound[index]?).bind (fun entry =>
    if entry.2.accepts answer then
      some { state with
        bound := state.bound.eraseIdx index
        answered := state.answered ++ [(entry.1, answer)]
        outbound := state.outbound ++ [(entry.1, replyOf agent answer)] }
    else none)

/-- The manager object takes a message. -/
def dispatched (state : Remote μ ω) (id : Nat) (sender : String) (wire : WireCall)
    (label : String) (active : Bool) : Remote μ ω :=
  match forward agent.mechanisms agent.wired wire with
  | .error name => { state with outbound := state.outbound ++ [(id, .error (.busError name))] }
  | .ok request =>
    match request.atOnce active with
    | some value => { state with
        handed := state.handed ++ [(id, ⟨sender, label⟩, request)]
        answered := state.answered ++ [(id, .ok value)]
        outbound := state.outbound ++ [(id, .ok value)] }
    | none => { state with
        handed := state.handed ++ [(id, ⟨sender, label⟩, request)]
        bound := state.bound ++ [(id, request)] }

/-- The call under a serial, with its client. -/
def Made (state : Remote μ ω) (id : Nat) (sender : String) (call : ClientCall μ) : Prop :=
  ∃ returned, state.calls id = some ⟨sender, call, returned⟩

/-- A reply of the agent is what the broker answered, or says that there is no broker. -/
def Explained (answered : List (Nat × Except ω ReplyValue)) (id : Nat)
    (reply : Except CallFailure ReplyValue) : Prop :=
  (∃ answer, (id, answer) ∈ answered ∧ reply = replyOf agent answer) ∨
    agent.wired = false ∧ reply = .error (.busError kErrInternalPkcs11)

/-- More answers explain as much. -/
theorem Explained.more {agent : RemoteAgent μ ω} {answered : List (Nat × Except ω ReplyValue)}
    {id : Nat} {reply : Except CallFailure ReplyValue} (explained : Explained agent answered id reply)
    (more : List (Nat × Except ω ReplyValue)) : Explained agent (answered ++ more) id reply := by
  refine explained.imp_left ?_
  rintro ⟨answer, member, same⟩
  exact ⟨answer, List.mem_append_left _ member, same⟩

/-- A call under a new serial leaves the others. -/
theorem Made.beside {state : Remote μ ω} {id other : Nat} {sender : String} {call : ClientCall μ}
    {pending : PendingCall μ} (made : state.Made other sender call)
    (unused : state.calls id = none) : (state.setCall id pending).Made other sender call := by
  obtain ⟨returned, found⟩ := made
  have different : other ≠ id := by
    rintro rfl
    simp [unused] at found
  exact ⟨returned, by simpa [setCall, different] using found⟩

/-- One of the serials on its way moves to the broker's. -/
theorem serials_moved {state : Remote μ ω} (index : Nat) (message : Nat × String × WireCall)
    (found : state.inbound[index]? = some message) (caller : BrokerCaller)
    (request : BrokerRequest μ) :
    ((state.inbound.eraseIdx index).map Prod.fst ++
        (state.handed ++ [(message.1, caller, request)]).map Prod.fst).Perm
      (state.inbound.map Prod.fst ++ state.handed.map Prod.fst) := by
  obtain ⟨bounded, rfl⟩ := List.getElem?_eq_some_iff.mp found
  have taken := (List.getElem_cons_eraseIdx_perm bounded).map Prod.fst
  simp only [List.map_append, List.map_cons, List.map_nil]
  refine List.Perm.trans ?_ (taken.append_right _)
  rw [← List.append_assoc]
  exact List.perm_append_comm

/-- A call and its client, still without an answer. -/
def Waits (state : Remote μ ω) (id : Nat) (sender : String) (call : ClientCall μ) : Prop :=
  state.calls id = some ⟨sender, call, none⟩

/-- Only the call that waits under the serial is touched by an answer to it. -/
theorem returns_cases {state : Remote μ ω} (id other : Nat) (answer : Except CallFailure ReplyValue) :
    (∃ sender call, state.Waits id sender call ∧ other = id ∧
      (state.returns id answer).calls other =
        some ⟨sender, call, some (returnedFor call answer)⟩) ∨
    (state.returns id answer).calls other = state.calls other ∧
      ∀ sender call, state.Waits other sender call → other ≠ id := by
  unfold returns
  split
  · rename_i sender call waits
    by_cases same : other = id
    · exact .inl ⟨sender, call, waits, same, by simp [setCall, same]⟩
    · exact .inr ⟨by simp [setCall, same], fun _ _ _ => same⟩
  · rename_i closed
    refine .inr ⟨rfl, ?_⟩
    rintro sender call waits rfl
    exact closed sender call waits

/-- The manager object knows nothing of the calls behind its messages. -/
theorem dispatched_calls {state : Remote μ ω} (id : Nat) (sender : String) (wire : WireCall)
    (label : String) (active : Bool) :
    (dispatched agent state id sender wire label active).calls = state.calls := by
  unfold dispatched
  split
  · rfl
  · split <;> rfl

/-- Nor does the broker. -/
theorem settle_calls {state : Remote μ ω} (index : Nat) (answer : Except ω ReplyValue)
    (next : Remote μ ω) (settled : state.settle agent index answer = some next) :
    next.calls = state.calls := by
  obtain ⟨entry, -, performed⟩ := Option.bind_eq_some_iff.mp settled
  split at performed
  · cases performed
    rfl
  · cases performed

variable [DecidableEq μ]

/-- A client makes a call. -/
def called (state : Remote μ ω) (id : Nat) (sender : String) (call : ClientCall μ)
    (connected : Bool) : Remote μ ω :=
  match wireCall agent.mechanisms call with
  | .error status => state.setCall id ⟨sender, call, some (failedWith call status)⟩
  | .ok wire =>
    if connected then
      { state.setCall id ⟨sender, call, none⟩ with
        inbound := state.inbound ++ [(id, sender, wire)] }
    else state.setCall id ⟨sender, call, some (failedWith call .deviceRemoved)⟩

/-- One step. -/
def step (state : Remote μ ω) : RemoteEvent μ ω → Option (Remote μ ω)
  | .call id sender call connected =>
    match state.calls id with
    | none => some (state.called agent id sender call connected)
    | some _ => none
  | .dispatch index label active =>
    (state.inbound[index]?).map (fun message =>
      dispatched agent { state with inbound := state.inbound.eraseIdx index } message.1 message.2.1
        message.2.2 label active)
  | .fulfil index answer => state.settle agent index answer
  | .drop index => state.settle agent index (.error agent.cardError)
  | .deliver index =>
    (state.outbound[index]?).map (fun reply =>
      returns { state with outbound := state.outbound.eraseIdx index } reply.1 reply.2)
  | .loseMessage index => some { state with inbound := state.inbound.eraseIdx index }
  | .loseReply index => some { state with outbound := state.outbound.eraseIdx index }
  | .fail id failure => if failure.ofBus then some (state.returns id (.error failure)) else none

/-! ## What each stage owes to the one before -/

/-- The invariant. -/
structure Faithful (state : Remote μ ω) : Prop where
  sent : ∀ id sender wire, (id, sender, wire) ∈ state.inbound →
    ∃ call, state.Made id sender call ∧ wireCall agent.mechanisms call = .ok wire
  meant : ∀ id caller request, (id, caller, request) ∈ state.handed →
    ∃ call, state.Made id caller.busName call ∧ request = intended agent.mechanisms call
  apart : (state.inbound.map Prod.fst ++ state.handed.map Prod.fst).Nodup
  known : ∀ id, state.calls id = none →
    id ∉ state.inbound.map Prod.fst ++ state.handed.map Prod.fst
  served : (state.bound.map Prod.fst ++ state.answered.map Prod.fst).Nodup
  owed : ∀ id ∈ state.bound.map Prod.fst ++ state.answered.map Prod.fst,
    id ∈ state.handed.map Prod.fst
  replies : ∀ id reply, (id, reply) ∈ state.outbound → Explained agent state.answered id reply

section Steps

variable {agent} {state : Remote μ ω}

/-- A new call that returns at once. -/
theorem faithful_returned_call (id : Nat) (sender : String) (call : ClientCall μ)
    (outcome : CallOutcome) (faithful : state.Faithful agent) (unused : state.calls id = none) :
    (state.setCall id ⟨sender, call, some outcome⟩).Faithful agent where
  sent := fun other source wire member =>
    let ⟨made, known, sent⟩ := faithful.sent other source wire member
    ⟨made, known.beside unused, sent⟩
  meant := fun other caller request member =>
    let ⟨made, known, meant⟩ := faithful.meant other caller request member
    ⟨made, known.beside unused, meant⟩
  apart := faithful.apart
  known := by
    intro other missing
    by_cases same : other = id
    · simp [setCall, same] at missing
    · exact faithful.known other (by simpa [setCall, same] using missing)
  served := faithful.served
  owed := faithful.owed
  replies := faithful.replies

/-- A new call whose message is sent. -/
theorem faithful_sent_call (id : Nat) (sender : String) (call : ClientCall μ) (wire : WireCall)
    (faithful : state.Faithful agent) (unused : state.calls id = none)
    (sent : wireCall agent.mechanisms call = .ok wire) :
    ({ state.setCall id ⟨sender, call, none⟩ with
        inbound := state.inbound ++ [(id, sender, wire)] } : Remote μ ω).Faithful agent where
  sent := by
    intro other source message member
    rcases List.mem_append.mp member with earlier | last
    · obtain ⟨made, known, spelled⟩ := faithful.sent other source message earlier
      exact ⟨made, known.beside unused, spelled⟩
    · cases List.mem_singleton.mp last
      exact ⟨call, ⟨none, by simp [setCall]⟩, sent⟩
  meant := fun other caller request member =>
    let ⟨made, known, meant⟩ := faithful.meant other caller request member
    ⟨made, known.beside unused, meant⟩
  apart := by
    have absent := faithful.known id unused
    simp only [List.map_append, List.map_cons, List.map_nil]
    refine (List.perm_append_comm.append_right _).nodup_iff.mpr ?_
    exact List.nodup_cons.mpr ⟨absent, faithful.apart⟩
  known := by
    intro other missing
    by_cases same : other = id
    · simp [setCall, same] at missing
    · have absent := faithful.known other (by simpa [setCall, same] using missing)
      simpa [setCall, same] using absent
  served := faithful.served
  owed := faithful.owed
  replies := faithful.replies

/-- A call keeps what it is when it returns. -/
theorem faithful_returns (id : Nat) (answer : Except CallFailure ReplyValue)
    (faithful : state.Faithful agent) :
    (state.returns id answer).Faithful agent := by
  unfold returns
  split
  · rename_i sender call found
    have made : ∀ other source (known : ClientCall μ), state.Made other source known →
        (state.setCall id ⟨sender, call, some (returnedFor call answer)⟩).Made other source known := by
      rintro other source known ⟨returned, present⟩
      by_cases same : other = id
      · subst other
        rw [found] at present
        cases present
        exact ⟨some (returnedFor call answer), by simp [setCall]⟩
      · exact ⟨returned, by simpa [setCall, same] using present⟩
    refine ⟨?_, ?_, faithful.apart, ?_, faithful.served, faithful.owed, faithful.replies⟩
    · intro other source wire member
      obtain ⟨known, present, sent⟩ := faithful.sent other source wire member
      exact ⟨known, made other source known present, sent⟩
    · intro other caller request member
      obtain ⟨known, present, meant⟩ := faithful.meant other caller request member
      exact ⟨known, made other _ known present, meant⟩
    · intro other missing
      by_cases same : other = id
      · simp [setCall, same] at missing
      · exact faithful.known other (by simpa [setCall, same] using missing)
  · exact faithful

/-- A message or a reply that is lost, or taken, leaves the rest as it is. -/
theorem faithful_less (inbound : List (Nat × String × WireCall))
    (outbound : List (Nat × Except CallFailure ReplyValue)) (faithful : state.Faithful agent)
    (messages : inbound.Sublist state.inbound) (replies : outbound.Sublist state.outbound) :
    ({ state with inbound, outbound } : Remote μ ω).Faithful agent where
  sent := fun id sender wire member => faithful.sent id sender wire (messages.subset member)
  meant := faithful.meant
  apart := ((messages.map Prod.fst).append (List.Sublist.refl _)).nodup faithful.apart
  known := fun id missing member => faithful.known id missing
    (((messages.map Prod.fst).append (List.Sublist.refl _)).subset member)
  served := faithful.served
  owed := faithful.owed
  replies := fun id reply member => faithful.replies id reply (replies.subset member)

/-- A message that was taken is handed to the broker as its client meant it. -/
theorem faithful_handed (index id : Nat) (sender label : String) (wire : WireCall)
    (call : ClientCall μ) (answered : List (Nat × Except ω ReplyValue))
    (bound : List (Nat × BrokerRequest μ)) (outbound : List (Nat × Except CallFailure ReplyValue))
    (faithful : state.Faithful agent) (found : state.inbound[index]? = some (id, sender, wire))
    (made : state.Made id sender call)
    (served : ((bound.map Prod.fst) ++ answered.map Prod.fst).Perm
      (id :: (state.bound.map Prod.fst ++ state.answered.map Prod.fst)))
    (kept : ∃ more, answered = state.answered ++ more)
    (replies : ∀ other reply, (other, reply) ∈ outbound → (other, reply) ∈ state.outbound ∨
      Explained agent answered other reply) :
    ({ state with
        inbound := state.inbound.eraseIdx index
        handed := state.handed ++ [(id, ⟨sender, label⟩, intended agent.mechanisms call)]
        bound, answered, outbound } : Remote μ ω).Faithful agent := by
  have moved := serials_moved index (id, sender, wire) found ⟨sender, label⟩
    (intended agent.mechanisms call)
  have unserved : id ∉ state.bound.map Prod.fst ++ state.answered.map Prod.fst := by
    intro member
    have waiting : id ∈ state.inbound.map Prod.fst :=
      List.mem_map_of_mem (List.mem_of_getElem? found)
    exact List.disjoint_of_nodup_append faithful.apart waiting (faithful.owed id member)
  obtain ⟨more, rfl⟩ := kept
  refine ⟨?_, ?_, moved.nodup_iff.mpr faithful.apart, ?_, ?_, ?_, ?_⟩
  · exact fun other source message member =>
      faithful.sent other source message ((List.eraseIdx_sublist _ _).subset member)
  · intro other caller request member
    rcases List.mem_append.mp member with earlier | last
    · exact faithful.meant other caller request earlier
    · cases List.mem_singleton.mp last
      exact ⟨call, made, rfl⟩
  · exact fun other missing member => faithful.known other missing (moved.mem_iff.mp member)
  · exact served.nodup_iff.mpr (List.nodup_cons.mpr ⟨unserved, faithful.served⟩)
  · intro other member
    simp only [List.map_append, List.map_cons, List.map_nil, List.mem_append, List.mem_singleton]
    rcases List.mem_cons.mp (served.mem_iff.mp member) with rfl | earlier
    · exact .inr rfl
    · exact .inl (faithful.owed other earlier)
  · intro other reply member
    rcases replies other reply member with earlier | explained
    · exact (faithful.replies other reply earlier).more more
    · exact explained

/-- The manager object takes a message. -/
theorem faithful_dispatched (lawful : agent.mechanisms.Lawful) (index : Nat)
    (message : Nat × String × WireCall) (label : String) (active : Bool)
    (faithful : state.Faithful agent) (found : state.inbound[index]? = some message) :
    (dispatched agent { state with inbound := state.inbound.eraseIdx index } message.1 message.2.1
      message.2.2 label active).Faithful agent := by
  obtain ⟨id, sender, wire⟩ := message
  obtain ⟨call, made, sent⟩ := faithful.sent id sender wire (List.mem_of_getElem? found)
  have forwarded := forward_wire_call lawful call wire sent agent.wired
  unfold dispatched
  cases wired : agent.wired with
  | false =>
    simp only [wired, Bool.false_eq_true, if_false] at forwarded
    simp only [forwarded]
    have less := faithful_less (state.inbound.eraseIdx index) state.outbound faithful
      (List.eraseIdx_sublist _ _) (List.Sublist.refl _)
    refine ⟨less.sent, less.meant, less.apart, less.known, less.served, less.owed, ?_⟩
    intro other reply member
    rcases List.mem_append.mp member with earlier | last
    · exact less.replies other reply earlier
    · cases List.mem_singleton.mp last
      exact .inr ⟨wired, rfl⟩
  | true =>
    simp only [wired, if_true] at forwarded
    simp only [forwarded]
    split
    · rename_i value _
      refine faithful_handed index id sender label wire call _ _ _ faithful found made ?_
        ⟨[(id, .ok value)], rfl⟩ ?_
      · rw [List.map_append, List.map_cons, List.map_nil, ← List.append_assoc]
        exact List.perm_append_singleton _ _
      · intro other reply member
        rcases List.mem_append.mp member with earlier | last
        · exact .inl earlier
        · cases List.mem_singleton.mp last
          exact .inr (.inl ⟨.ok value, by simp, rfl⟩)
    · refine faithful_handed index id sender label wire call _ _ _ faithful found made ?_
        ⟨[], by simp⟩ (fun other reply member => .inl member)
      simp only [List.map_append, List.map_cons, List.map_nil, List.append_assoc,
        List.singleton_append]
      exact List.perm_middle

/-- A bound reply is fulfilled. -/
theorem faithful_settled (index : Nat) (answer : Except ω ReplyValue) (next : Remote μ ω)
    (faithful : state.Faithful agent) (settled : state.settle agent index answer = some next) :
    next.Faithful agent := by
  obtain ⟨⟨id, request⟩, found, performed⟩ := Option.bind_eq_some_iff.mp settled
  split at performed
  · cases Option.some.inj performed
    obtain ⟨bounded, taken⟩ := List.getElem?_eq_some_iff.mp found
    have moved : ((state.bound.eraseIdx index).map Prod.fst ++
        (state.answered ++ [(id, answer)]).map Prod.fst).Perm
          (state.bound.map Prod.fst ++ state.answered.map Prod.fst) := by
      have erased := (List.getElem_cons_eraseIdx_perm bounded).map Prod.fst
      rw [taken] at erased
      simp only [List.map_append, List.map_cons, List.map_nil]
      refine List.Perm.trans ?_ (erased.append_right _)
      rw [← List.append_assoc]
      exact List.perm_append_comm
    refine ⟨faithful.sent, faithful.meant, faithful.apart, faithful.known,
      moved.nodup_iff.mpr faithful.served, ?_, ?_⟩
    · exact fun other member => faithful.owed other (moved.mem_iff.mp member)
    · intro other reply member
      rcases List.mem_append.mp member with earlier | last
      · exact (faithful.replies other reply earlier).more _
      · cases List.mem_singleton.mp last
        exact .inl ⟨answer, by simp, rfl⟩
  · cases performed

/-- Every step keeps the invariant.

Proof: a serial moves from the call to the broker and from the broker to a reply, and no step copies
one. -/
theorem faithful_step (lawful : agent.mechanisms.Lawful) (event : RemoteEvent μ ω)
    (next : Remote μ ω) (faithful : state.Faithful agent)
    (stepped : state.step agent event = some next) : next.Faithful agent := by
  cases event with
  | call id sender call connected =>
    simp only [step] at stepped
    split at stepped
    · rename_i unused
      cases Option.some.inj stepped
      unfold called
      split
      · exact faithful_returned_call id sender call _ faithful unused
      · rename_i wire sent
        split
        · exact faithful_sent_call id sender call wire faithful unused sent
        · exact faithful_returned_call id sender call _ faithful unused
    · cases stepped
  | dispatch index label active =>
    obtain ⟨message, found, rfl⟩ := Option.map_eq_some_iff.mp stepped
    exact faithful_dispatched lawful index message label active faithful found
  | fulfil index answer => exact faithful_settled index answer next faithful stepped
  | drop index => exact faithful_settled index _ next faithful stepped
  | deliver index =>
    obtain ⟨⟨id, reply⟩, found, rfl⟩ := Option.map_eq_some_iff.mp stepped
    exact faithful_returns id reply (faithful_less state.inbound _ faithful (List.Sublist.refl _)
      (List.eraseIdx_sublist _ _))
  | loseMessage index =>
    cases Option.some.inj stepped
    exact faithful_less _ state.outbound faithful (List.eraseIdx_sublist _ _) (List.Sublist.refl _)
  | loseReply index =>
    cases Option.some.inj stepped
    exact faithful_less state.inbound _ faithful (List.Sublist.refl _) (List.eraseIdx_sublist _ _)
  | fail id failure =>
    simp only [step] at stepped
    split at stepped
    · cases Option.some.inj stepped
      exact faithful_returns id (.error failure) faithful
    · cases stepped

/-- The status of one of the agent's errors is the one of its name. -/
theorem agent_error_status (name : String) :
    statusFromException (.busError ("org.librescrs.Agent.Error." ++ name)) =
      mapErrorName ("org.librescrs.Agent.Error." ++ name) := by
  have named : "org.librescrs.Agent.Error.".toList.isPrefixOf
      ("org.librescrs.Agent.Error." ++ name).toList = true := by
    rw [List.isPrefixOf_iff_prefix, String.toList_append]
    exact List.prefix_append _ _
  simp only [statusFromException, named, if_true]

end Steps

/-! ## The step in which a call returns -/

/-- The steps in which a call fails, and the status of each: the client refuses it or has no
connection, the bus fails it while it waits, or a reply reaches it that is the broker's outcome
or says that there is no broker. -/
inductive FailsBy (answered : List (Nat × Except ω ReplyValue)) (before : Remote μ ω) (id : Nat)
    (sender : String) (call : ClientCall μ) : RemoteEvent μ ω → Status → Prop
  | refused (connected : Bool) (status : Status) (unused : before.calls id = none)
      (unsent : wireCall agent.mechanisms call = .error status) :
      FailsBy answered before id sender call (.call id sender call connected) status
  | unconnected (wire : WireCall) (unused : before.calls id = none)
      (spelled : wireCall agent.mechanisms call = .ok wire) :
      FailsBy answered before id sender call (.call id sender call false) .deviceRemoved
  | onBus (failure : CallFailure) (waits : before.Waits id sender call)
      (ofBus : failure.ofBus = true) :
      FailsBy answered before id sender call (.fail id failure) (statusFromException failure)
  | answered (index : Nat) (outcome : ω) (waits : before.Waits id sender call)
      (arrives : before.outbound[index]? = some (id, replyOf agent (.error outcome)))
      (given : (id, .error outcome) ∈ answered) :
      FailsBy answered before id sender call (.deliver index)
        (mapErrorName ("org.librescrs.Agent.Error." ++ agent.syncErrorName outcome))
  | unwired (index : Nat) (waits : before.Waits id sender call)
      (arrives : before.outbound[index]? = some (id, .error (.busError kErrInternalPkcs11)))
      (without : agent.wired = false) :
      FailsBy answered before id sender call (.deliver index) .generalError

/-- The step in which a call returns, and what it returns: the result that the broker answered,
the status it failed with, or, of a question whether a login is active, nothing known. -/
inductive ReturnsBy (answered : List (Nat × Except ω ReplyValue)) (before : Remote μ ω) (id : Nat)
    (sender : String) (call : ClientCall μ) : RemoteEvent μ ω → CallOutcome → Prop
  | served (index : Nat) (value : ReplyValue) (waits : before.Waits id sender call)
      (arrives : before.outbound[index]? = some (id, .ok value))
      (given : (id, .ok value) ∈ answered) :
      ReturnsBy answered before id sender call (.deliver index) (.ok value)
  | failed (event : RemoteEvent μ ω) (status : Status)
      (other : ∀ reader, call ≠ .loginActive reader)
      (fails : FailsBy agent answered before id sender call event status) :
      ReturnsBy answered before id sender call event (.failed status)
  | unknown (event : RemoteEvent μ ω) (status : Status) (reader : String)
      (asked : call = .loginActive reader)
      (fails : FailsBy agent answered before id sender call event status) :
      ReturnsBy answered before id sender call event .unknown

/-- A reply to a call, or its failure on the bus, comes in. -/
def Reaches (before : Remote μ ω) (id : Nat) : RemoteEvent μ ω → Prop
  | .deliver index => ∃ reply, before.outbound[index]? = some (id, reply)
  | .fail other _ => other = id
  | _ => False

section Returns

variable {agent} {state : Remote μ ω}

/-- A call that fails returns so. -/
theorem FailsBy.returns {answered : List (Nat × Except ω ReplyValue)} {id : Nat} {sender : String}
    {call : ClientCall μ} {event : RemoteEvent μ ω} {status : Status}
    (fails : FailsBy agent answered state id sender call event status) :
    ReturnsBy agent answered state id sender call event (failedWith call status) := by
  cases call with
  | loginActive reader => exact .unknown event status reader rfl fails
  | certDer reader certId => exact .failed event status (fun _ => nofun) fails
  | login reader => exact .failed event status (fun _ => nofun) fails
  | logout reader => exact .failed event status (fun _ => nofun) fails
  | signRaw reader certId mechanism input => exact .failed event status (fun _ => nofun) fails
  | decrypt reader certId ciphertext => exact .failed event status (fun _ => nofun) fails
  | derive reader certId peerPoint => exact .failed event status (fun _ => nofun) fails

/-- A reply that the agent accounts for returns what the broker answered. -/
theorem returns_by_reply (index id : Nat) (sender : String) (call : ClientCall μ)
    (reply : Except CallFailure ReplyValue) (answered : List (Nat × Except ω ReplyValue))
    (waits : state.Waits id sender call) (arrives : state.outbound[index]? = some (id, reply))
    (explained : Explained agent answered id reply) :
    ReturnsBy agent answered state id sender call (.deliver index) (returnedFor call reply) := by
  rcases explained with ⟨answer | value, given, rfl⟩ | ⟨without, rfl⟩
  · have status := agent_error_status (agent.syncErrorName answer)
    rw [replyOf, returnedFor, status]
    exact (FailsBy.answered index answer waits arrives given).returns
  · exact .served index value waits arrives given
  · have status : statusFromException (.busError kErrInternalPkcs11) = .generalError := by
      decide +kernel
    rw [returnedFor, status]
    exact (FailsBy.unwired index waits arrives without).returns

/-- What a step does to one call: it makes it, returns it, or leaves it.

Cases follow the event. A call is made under a number of its own; deliveries and failures
return the call that waits under their number; the other steps do not touch the calls. -/
theorem step_call (answered : List (Nat × Except ω ReplyValue)) (event : RemoteEvent μ ω)
    (next : Remote μ ω) (replies : ∀ id reply, (id, reply) ∈ state.outbound →
      Explained agent answered id reply)
    (stepped : state.step agent event = some next) (id : Nat) :
    next.calls id = state.calls id ∧ (∀ sender call, state.Waits id sender call →
      ¬ state.Reaches id event) ∨
    (state.calls id = none ∧ ∃ sender call, next.Waits id sender call) ∨
    ∃ sender call outcome, next.calls id = some ⟨sender, call, some outcome⟩ ∧
      ReturnsBy agent answered state id sender call event outcome := by
  cases event with
  | call other sender call connected =>
    simp only [step] at stepped
    split at stepped
    · rename_i unused
      cases Option.some.inj stepped
      by_cases same : id = other
      · subst same
        right
        unfold called
        split
        · rename_i status unsent
          exact .inr ⟨sender, call, _, by simp [setCall],
            (FailsBy.refused connected status unused unsent).returns⟩
        · rename_i wire spelled
          cases connected with
          | true => exact .inl ⟨unused, sender, call, by simp [Waits, setCall]⟩
          | false =>
            exact .inr ⟨sender, call, _, by simp [setCall],
              (FailsBy.unconnected wire unused spelled).returns⟩
      · refine .inl ⟨?_, fun _ _ _ reached => reached⟩
        unfold called
        split
        · simp [setCall, same]
        · split <;> simp [setCall, same]
    · cases stepped
  | dispatch index label active =>
    obtain ⟨message, found, rfl⟩ := Option.map_eq_some_iff.mp stepped
    exact .inl ⟨by rw [dispatched_calls], fun _ _ _ reached => reached⟩
  | fulfil index answer =>
    exact .inl ⟨by rw [settle_calls agent index answer next stepped], fun _ _ _ reached => reached⟩
  | drop index =>
    exact .inl ⟨by rw [settle_calls agent index _ next stepped], fun _ _ _ reached => reached⟩
  | deliver index =>
    obtain ⟨⟨other, reply⟩, found, rfl⟩ := Option.map_eq_some_iff.mp stepped
    rcases returns_cases other id reply with ⟨sender, call, waits, rfl, returned⟩ | kept
    · exact .inr (.inr ⟨sender, call, _, returned, returns_by_reply index id sender call reply
        answered waits found (replies id reply (List.mem_of_getElem? found))⟩)
    · refine .inl ⟨kept.1, ?_⟩
      rintro sender call waits ⟨same, arrives⟩
      rw [found] at arrives
      exact kept.2 sender call waits (congrArg Prod.fst (Option.some.inj arrives)).symm
  | loseMessage index =>
    cases Option.some.inj stepped
    exact .inl ⟨rfl, fun _ _ _ reached => reached⟩
  | loseReply index =>
    cases Option.some.inj stepped
    exact .inl ⟨rfl, fun _ _ _ reached => reached⟩
  | fail other failure =>
    simp only [step] at stepped
    split at stepped
    · rename_i ofBus
      cases Option.some.inj stepped
      rcases returns_cases other id (.error failure) with ⟨sender, call, waits, rfl, returned⟩ | kept
      · exact .inr (.inr ⟨sender, call, _, returned, (FailsBy.onBus failure waits ofBus).returns⟩)
      · exact .inl ⟨kept.1, fun sender call waits same => kept.2 sender call waits same.symm⟩
    · cases stepped

/-- A call that returns was not returned before. -/
theorem ReturnsBy.first {answered : List (Nat × Except ω ReplyValue)} {id : Nat} {sender : String}
    {call : ClientCall μ} {event : RemoteEvent μ ω} {outcome : CallOutcome}
    (returns : ReturnsBy agent answered state id sender call event outcome) :
    state.calls id = none ∨ state.Waits id sender call := by
  have failed : ∀ status, FailsBy agent answered state id sender call event status →
      state.calls id = none ∨ state.Waits id sender call := by
    intro status fails
    cases fails with
    | refused connected status unused unsent => exact .inl unused
    | unconnected wire unused spelled => exact .inl unused
    | onBus failure waits ofBus => exact .inr waits
    | answered index outcome waits arrives given => exact .inr waits
    | unwired index waits arrives without => exact .inr waits
  cases returns with
  | served index value waits arrives given => exact .inr waits
  | failed event status other fails => exact failed status fails
  | unknown event status reader asked fails => exact failed status fails

/-- The broker's answers stay. -/
theorem answered_grows (event : RemoteEvent μ ω) (next : Remote μ ω)
    (stepped : state.step agent event = some next) :
    ∃ more, next.answered = state.answered ++ more := by
  have settled : ∀ index answer, state.settle agent index answer = some next →
      ∃ more, next.answered = state.answered ++ more := by
    intro index answer performed
    obtain ⟨entry, -, taken⟩ := Option.bind_eq_some_iff.mp performed
    split at taken
    · cases taken
      exact ⟨_, rfl⟩
    · cases taken
  have returned : ∀ (kept : Remote μ ω) id answer,
      (kept.returns id answer).answered = kept.answered := by
    intro kept id answer
    unfold returns
    split <;> rfl
  cases event with
  | call id sender call connected =>
    simp only [step] at stepped
    split at stepped
    · cases Option.some.inj stepped
      refine ⟨[], ?_⟩
      rw [List.append_nil]
      unfold called
      split
      · rfl
      · split <;> rfl
    · cases stepped
  | dispatch index label active =>
    obtain ⟨message, found, rfl⟩ := Option.map_eq_some_iff.mp stepped
    unfold dispatched
    split
    · exact ⟨[], (List.append_nil _).symm⟩
    · split
      · exact ⟨_, rfl⟩
      · exact ⟨[], (List.append_nil _).symm⟩
  | fulfil index answer => exact settled index answer stepped
  | drop index => exact settled index _ stepped
  | deliver index =>
    obtain ⟨reply, found, rfl⟩ := Option.map_eq_some_iff.mp stepped
    exact ⟨[], by rw [returned, List.append_nil]⟩
  | loseMessage index =>
    cases Option.some.inj stepped
    exact ⟨[], (List.append_nil _).symm⟩
  | loseReply index =>
    cases Option.some.inj stepped
    exact ⟨[], (List.append_nil _).symm⟩
  | fail id failure =>
    simp only [step] at stepped
    split at stepped
    · cases Option.some.inj stepped
      exact ⟨[], by rw [returned, List.append_nil]⟩
    · cases stepped

/-- Every reachable state is faithful. -/
theorem reached_faithful (lawful : agent.mechanisms.Lawful) (events : List (RemoteEvent μ ω))
    (reached : run (step agent) {} events = some state) : state.Faithful agent := by
  refine run_invariant (step agent) (Faithful agent)
    (fun before event next kept stepped => faithful_step lawful event next kept stepped)
    events {} state ?_ reached
  exact ⟨by simp, by simp, by simp, by simp, by simp, by simp, by simp⟩

/-- The replies on their way in a state that a run went through are accounted for by what the
broker answered in the whole run. -/
theorem passed_replies (lawful : agent.mechanisms.Lawful) (before after : List (RemoteEvent μ ω))
    (earlier : Remote μ ω) (passed : run (step agent) {} before = some earlier)
    (reached : run (step agent) earlier after = some state) (id : Nat)
    (reply : Except CallFailure ReplyValue) (member : (id, reply) ∈ earlier.outbound) :
    Explained agent state.answered id reply := by
  refine run_invariant (step agent) (fun state => Explained agent state.answered id reply) ?_
    after earlier state ?_ reached
  · intro state event next explained stepped
    obtain ⟨more, grown⟩ := answered_grows event next stepped
    rw [grown]
    exact explained.more more
  · exact (reached_faithful lawful before passed).replies id reply member

/-- A call that returned stays so. -/
theorem returned_kept (lawful : agent.mechanisms.Lawful) (events : List (RemoteEvent μ ω))
    (start : Remote μ ω) (faithful : start.Faithful agent)
    (reached : run (step agent) start events = some state) (id : Nat) (sender : String)
    (call : ClientCall μ) (outcome : CallOutcome)
    (returned : start.calls id = some ⟨sender, call, some outcome⟩) :
    state.calls id = some ⟨sender, call, some outcome⟩ := by
  refine (run_invariant (step agent)
    (fun state => state.Faithful agent ∧ state.calls id = some ⟨sender, call, some outcome⟩) ?_
    events start state ⟨faithful, returned⟩ reached).2
  rintro before event next ⟨kept, present⟩ stepped
  refine ⟨faithful_step lawful event next kept stepped, ?_⟩
  rcases step_call before.answered event next kept.replies stepped id with
    ⟨same, -⟩ | ⟨unused, -⟩ | ⟨_, _, _, -, again⟩
  · rw [same, present]
  · rw [unused] at present
    cases present
  · rcases again.first with unused | waits
    · rw [unused] at present
      cases present
    · rw [Waits, present] at waits
      cases waits

end Returns

/-- In every run, whatever the order in which clients call and give up, messages and replies
arrive or get lost, and the broker answers:

* the broker is handed at most one request for each call, and it is the one the call means, for
  the reader, the certificate, the mechanism and the bytes of the call and for the process
  that made it;
* a call that succeeds returns the one answer of the broker to that request;
* a call that returned did so in one step of the run: in the one that brought it the broker's
  result, or in one that failed it, with the status of that step. A failed question whether a
  login is active returns without an answer, every other failed call with the status;
* a call that waits returns as soon as a reply or a failure on the bus reaches it.

Proof: the invariant `Faithful` follows a serial from the call to the broker's answer. The step
in which a call returned is the one that established its record; the reply it may have taken was
on its way in a state of the run, so the broker answered it. -/
theorem calls_served_as_meant (agent : RemoteAgent μ ω) (lawful : agent.mechanisms.Lawful)
    (events : List (RemoteEvent μ ω)) (state : Remote μ ω)
    (reached : run (step agent) {} events = some state) :
    ((state.handed.map Prod.fst).Nodup ∧ ∀ id caller request,
      (id, caller, request) ∈ state.handed → ∃ call, state.Made id caller.busName call ∧
        request = intended agent.mechanisms call) ∧
    (∀ id sender call value, state.calls id = some ⟨sender, call, some (.ok value)⟩ →
      (∃ label, (id, ⟨sender, label⟩, intended agent.mechanisms call) ∈ state.handed) ∧
        (id, .ok value) ∈ state.answered) ∧
    (∀ id answer other, (id, answer) ∈ state.answered → (id, other) ∈ state.answered →
      answer = other) ∧
    (∀ id sender call outcome, state.calls id = some ⟨sender, call, some outcome⟩ →
      ∃ before event after earlier, events = before ++ event :: after ∧
        run (step agent) {} before = some earlier ∧
          ReturnsBy agent state.answered earlier id sender call event outcome) ∧
    ∀ before event after earlier id sender call, events = before ++ event :: after →
      run (step agent) {} before = some earlier → earlier.Waits id sender call →
        earlier.Reaches id event →
          ∃ outcome, state.calls id = some ⟨sender, call, some outcome⟩ := by
  have faithful := reached_faithful lawful events reached
  have returned : ∀ id sender call outcome, state.calls id = some ⟨sender, call, some outcome⟩ →
      ∃ before event after earlier, events = before ++ event :: after ∧
        run (step agent) {} before = some earlier ∧
          ReturnsBy agent state.answered earlier id sender call event outcome := by
    intro id sender call outcome found
    obtain ⟨before, event, after, earlier, next, rfl, passed, stepped, lacking, holding⟩ :=
      run_established (step agent)
        (fun state => state.calls id = some ⟨sender, call, some outcome⟩) events {} state reached
        (by simp) found
    refine ⟨before, event, after, earlier, rfl, passed, ?_⟩
    obtain ⟨_, again, rest⟩ := run_append_inv _ _ _ before (event :: after) reached
    cases passed.symm.trans again
    rcases step_call state.answered event next (passed_replies lawful before _ earlier passed rest)
      stepped id with ⟨same, -⟩ | ⟨-, _, _, waits⟩ | ⟨_, _, _, ended, returns⟩
    · exact absurd (same.symm.trans holding) lacking
    · cases waits.symm.trans holding
    · cases ended.symm.trans holding
      exact returns
  refine ⟨⟨faithful.apart.of_append_right, faithful.meant⟩, ?_, ?_, returned, ?_⟩
  · intro id sender call value found
    obtain ⟨_, _, _, _, -, -, returns⟩ := returned id sender call _ found
    cases returns with
    | served index value waits arrives member =>
      refine ⟨?_, member⟩
      obtain ⟨⟨_, caller, request⟩, handed, rfl⟩ := List.mem_map.mp
        (faithful.owed id (List.mem_append_right _ (List.mem_map_of_mem member)))
      obtain ⟨known, ⟨returned, present⟩, rfl⟩ := faithful.meant _ caller request handed
      obtain ⟨busName, label⟩ := caller
      cases Option.some.inj (found.symm.trans present)
      exact ⟨label, handed⟩
  · intro id answer other first second
    have same := List.inj_on_of_nodup_map faithful.served.of_append_right first second rfl
    exact (Prod.mk.inj same).2
  · rintro before event after earlier id sender call rfl passed waits reaches
    obtain ⟨_, again, rest⟩ := run_append_inv _ _ _ before (event :: after) reached
    cases passed.symm.trans again
    obtain ⟨next, stepped, tail⟩ := run_cons_inv _ _ _ event after rest
    have before_faithful := reached_faithful lawful before passed
    rcases step_call earlier.answered event next before_faithful.replies stepped id with
      ⟨-, untouched⟩ | ⟨unused, -⟩ | ⟨source, made, outcome, ended, returns⟩
    · exact absurd reaches (untouched sender call waits)
    · cases unused.symm.trans waits
    · have kept := returned_kept lawful after next
        (faithful_step lawful event next before_faithful stepped) tail id source made outcome ended
      rcases returns.first with unused | same
      · cases unused.symm.trans waits
      · cases same.symm.trans waits
        exact ⟨outcome, kept⟩

/-- One token for a signing and for a decrypting mechanism. -/
inductive RsaMechanism where
  | sign
  | decrypt
deriving DecidableEq, Repr

/-- Both are spelled alike. -/
def rsaMechanisms : Mechanisms RsaMechanism where
  mechanismToken _ := "rsa-pkcs"
  signMechanismFromToken token := if token = "rsa-pkcs" then some .sign else none
  decryptMechanismFromToken token := if token = "rsa-pkcs" then some .decrypt else none
  rsaPkcs1Decrypt := .decrypt
  kEcdhKdfNull := 1

/-- An agent with a broker. -/
def rsaAgent : RemoteAgent RsaMechanism Unit :=
  ⟨rsaMechanisms, true, fun _ => "CommunicationError", ()⟩

/-- A signature and a decryption overtake one another; the client of the decryption gives up
before the broker drops it. A login is dropped too, and a client without a connection asks
whether one is active. -/
def overtakingCalls : List (RemoteEvent RsaMechanism Unit) :=
  [.call 0 ":1.7" (.signRaw "/reader/1" "cert" .sign [1]) true,
    .call 1 ":1.8" (.decrypt "/reader/1" "cert" [2]) true, .dispatch 1 "ssh" false,
    .dispatch 0 "mail" false, .fulfil 1 (.ok (.bytes [7])),
    .fail 1 (.busError "org.freedesktop.DBus.Error.NoReply"), .drop 0,
    .call 2 ":1.7" (.login "/reader/1") true, .dispatch 0 "mail" false, .drop 0,
    .call 3 ":1.8" (.loginActive "/reader/1") false, .deliver 1, .deliver 0, .deliver 0]

/-- The signature is the broker's answer to the signing request, and the dropped login fails with
the broker's outcome. -/
theorem overtaken_signature_served :
    ((run (step rsaAgent) {} overtakingCalls).map (fun state => state.calls 0) =
        some (some ⟨":1.7", .signRaw "/reader/1" "cert" .sign [1], some (.ok (.bytes [7]))⟩) ∧
      (run (step rsaAgent) {} overtakingCalls).map (fun state => state.calls 1) =
        some (some ⟨":1.8", .decrypt "/reader/1" "cert" [2], some (.failed .deviceRemoved)⟩) ∧
      (run (step rsaAgent) {} overtakingCalls).map (fun state => state.calls 2) =
        some (some ⟨":1.7", .login "/reader/1", some (.failed .communication)⟩) ∧
      (run (step rsaAgent) {} overtakingCalls).map (fun state => state.calls 3) =
        some (some ⟨":1.8", .loginActive "/reader/1", some .unknown⟩)) ∧
      ∃ state, run (step rsaAgent) {} overtakingCalls = some state ∧
        (∃ label, (0, ⟨":1.7", label⟩, .signRaw "/reader/1" "cert" .sign [1]) ∈ state.handed) ∧
        (0, .ok (.bytes [7])) ∈ state.answered ∧
        ∃ before event after earlier, overtakingCalls = before ++ event :: after ∧
          run (step rsaAgent) {} before = some earlier ∧
            ReturnsBy rsaAgent state.answered earlier 2 ":1.7" (.login "/reader/1") event
              (.failed .communication) := by
  have signed : (run (step rsaAgent) {} overtakingCalls).map (fun state => state.calls 0) =
      some (some ⟨":1.7", .signRaw "/reader/1" "cert" .sign [1], some (.ok (.bytes [7]))⟩) := by
    decide +kernel
  have dropped : (run (step rsaAgent) {} overtakingCalls).map (fun state => state.calls 2) =
      some (some ⟨":1.7", .login "/reader/1", some (.failed .communication)⟩) := by
    decide +kernel
  refine ⟨⟨signed, by decide +kernel, dropped, by decide +kernel⟩, ?_⟩
  obtain ⟨state, reached, found⟩ := Option.map_eq_some_iff.mp signed
  rw [reached] at dropped
  obtain ⟨_, served, _, returned, _⟩ :=
    calls_served_as_meant rsaAgent rfl overtakingCalls state reached
  obtain ⟨handed, answered⟩ := served 0 _ _ _ found
  exact ⟨state, reached, handed, answered, returned 2 _ _ _ (Option.some.inj dropped)⟩

end Remote

end LibreLinux.Pkcs11
