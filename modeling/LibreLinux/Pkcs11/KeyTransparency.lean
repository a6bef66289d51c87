import LibreLinux.Pkcs11.PublicKeys

/-!
# Public keys with and without the cache

A client that asks the agent for every key, and one that keeps the keys it was served, are to
be told apart by nothing but the traffic. The cache is kept by certificate alone, while a
request also names a family, so a request for another family than the cached key's is answered
without the agent: it must then be what the agent would have answered.

That is a matter of the agent. Its two methods share one source of keys and each refuses a key
of the other kind, so a certificate whose key one method serves is refused by the other. Given
that, and answers that do not change, the cache is transparent: along every sequence of calls,
and along every interleaving of calls in which nothing is removed.
-/

namespace LibreLinux.Pkcs11

open Results (Bytes)
open Runs

/-! ## The agent's methods -/

/-- The name of the refusal that both sides share. -/
def kErrNotSupported : String := "org.librescrs.Agent.Error.NotSupported"

/-- The methods that serve public keys, by reader and certificate. -/
structure KeyAgent where
  publicKey : String → String → Except CallFailure (Bytes × Bytes)
  ecPublicKey : String → String → Except CallFailure (String × Bytes × Bytes)

/-- What the methods use of the broker: the key of a certificate or an outcome, and the
spelling of the outcomes. -/
structure Pkcs11Broker (ω : Type) where
  publicKey : String → String → Except ω CertPublicKey
  notSupported : ω
  syncErrorName : ω → String

namespace Pkcs11Broker

variable {ω : Type}

/-- The bus name of an outcome. -/
def syncErrorBusName (broker : Pkcs11Broker ω) (outcome : ω) : String :=
  "org.librescrs.Agent.Error." ++ broker.syncErrorName outcome

/-- A reply whose value is converted to the results of one method, or is of another kind. -/
def deferConvertedReply {α : Type} (broker : Pkcs11Broker ω) (convert : CertPublicKey → Option α) :
    Except ω CertPublicKey → Except CallFailure α
  | .error outcome => .error (.busError (broker.syncErrorBusName outcome))
  | .ok key =>
    match convert key with
    | none => .error (.busError (broker.syncErrorBusName broker.notSupported))
    | some results => .ok results

/-- The results of `PublicKey`. -/
def rsaResults : CertPublicKey → Option (Bytes × Bytes)
  | .rsa modulus exponent => some (modulus, exponent)
  | .ec _ _ _ => none

/-- The results of `EcPublicKey`. -/
def ecResults : CertPublicKey → Option (String × Bytes × Bytes)
  | .rsa _ _ => none
  | .ec crv x y => some (crv, x, y)

end Pkcs11Broker

/-- The manager object over a broker. Without one every method fails. -/
def managerObject {ω : Type} : Option (Pkcs11Broker ω) → KeyAgent
  | none =>
    { publicKey := fun _ _ => .error (.busError "org.librescrs.Agent.Error.Internal")
      ecPublicKey := fun _ _ => .error (.busError "org.librescrs.Agent.Error.Internal") }
  | some broker =>
    { publicKey := fun reader certId =>
        broker.deferConvertedReply Pkcs11Broker.rsaResults (broker.publicKey reader certId)
      ecPublicKey := fun reader certId =>
        broker.deferConvertedReply Pkcs11Broker.ecResults (broker.publicKey reader certId) }

/-- Answers that depend on the certificate and the family only: a certificate for which one
method serves a key is refused by the other as not supported. -/
structure KeyAgent.Constant (agent : KeyAgent) : Prop where
  publicKeyReader : ∀ reader other certId,
    agent.publicKey reader certId = agent.publicKey other certId
  ecPublicKeyReader : ∀ reader other certId,
    agent.ecPublicKey reader certId = agent.ecPublicKey other certId
  rsaOnly : ∀ reader certId key, agent.publicKey reader certId = .ok key →
    agent.ecPublicKey reader certId = .error (.busError kErrNotSupported)
  ecOnly : ∀ reader certId key, agent.ecPublicKey reader certId = .ok key →
    agent.publicKey reader certId = .error (.busError kErrNotSupported)

namespace Pkcs11Broker

variable {ω α : Type} {broker : Pkcs11Broker ω}

/-- Results are those of a key that the method converts. -/
theorem converted_reply_served (convert : CertPublicKey → Option α)
    (answer : Except ω CertPublicKey) (results : α)
    (served : broker.deferConvertedReply convert answer = .ok results) :
    ∃ key, answer = .ok key ∧ convert key = some results := by
  cases answer with
  | error outcome => cases served
  | ok key =>
    refine ⟨key, rfl, ?_⟩
    simp only [deferConvertedReply] at served
    split at served
    · cases served
    · rename_i converted conversion
      rw [conversion, Except.ok.inj served]

/-- A key of another kind is refused under the shared name. -/
theorem converted_reply_refused (named : broker.syncErrorName broker.notSupported = "NotSupported")
    (convert : CertPublicKey → Option α) (key : CertPublicKey) (unconverted : convert key = none) :
    broker.deferConvertedReply convert (.ok key) = .error (.busError kErrNotSupported) := by
  have refusal : broker.syncErrorBusName broker.notSupported = kErrNotSupported := by
    calc broker.syncErrorBusName broker.notSupported
        = "org.librescrs.Agent.Error." ++ "NotSupported" :=
          congrArg ("org.librescrs.Agent.Error." ++ ·) named
      _ = kErrNotSupported := by decide +kernel
  simp only [deferConvertedReply, unconverted, refusal]

end Pkcs11Broker

/-- The manager object answers so, whatever the broker says of each certificate. -/
theorem manager_object_constant {ω : Type} (broker : Pkcs11Broker ω)
    (named : broker.syncErrorName broker.notSupported = "NotSupported")
    (same : ∀ reader other certId, broker.publicKey reader certId = broker.publicKey other certId) :
    (managerObject (some broker)).Constant := by
  refine ⟨?_, ?_, ?_, ?_⟩
  · intro reader other certId
    simp only [managerObject, same reader other certId]
  · intro reader other certId
    simp only [managerObject, same reader other certId]
  · intro reader certId results served
    obtain ⟨key, answer, converted⟩ := Pkcs11Broker.converted_reply_served _ _ results served
    simp only [managerObject, answer]
    apply Pkcs11Broker.converted_reply_refused named
    cases key with
    | rsa modulus exponent => rfl
    | ec crv x y => cases converted
  · intro reader certId results served
    obtain ⟨key, answer, converted⟩ := Pkcs11Broker.converted_reply_served _ _ results served
    simp only [managerObject, answer]
    apply Pkcs11Broker.converted_reply_refused named
    cases key with
    | rsa modulus exponent => cases converted
    | ec crv x y => rfl

/-! ## The client's calls -/

/-- The arguments of a call. -/
structure KeyRequest where
  reader : String
  certId : String
  keyType : KeyType
deriving DecidableEq, Repr

/-- Ask the agent by the method of the family. No method serves any other. -/
def fetch (agent : KeyAgent) (request : KeyRequest) : Except Status CertPublicKey :=
  match request.keyType with
  | .rsa =>
    match agent.publicKey request.reader request.certId with
    | .ok (modulus, exponent) => .ok (.rsa modulus exponent)
    | .error failure => .error (statusFromException failure)
  | .ec =>
    match agent.ecPublicKey request.reader request.certId with
    | .ok (crv, x, y) => .ok (.ec crv x y)
    | .error failure => .error (statusFromException failure)
  | .other => .error .notSupported

/-- The client: whether its connection was made, and its keys. -/
structure KeyClient where
  connected : Bool
  pubKeyCache : String → Option CertPublicKey := fun _ => none

/-- `DBusAgentClient::publicKey`. Only a key that was served is kept. -/
def KeyClient.publicKey (agent : KeyAgent) (client : KeyClient) (request : KeyRequest) :
    Except Status CertPublicKey × KeyClient :=
  if !client.connected then (.error .deviceRemoved, client)
  else
    match client.pubKeyCache request.certId with
    | some key =>
      if key.keyType ≠ request.keyType then (.error .notSupported, client) else (.ok key, client)
    | none =>
      match fetch agent request with
      | .error status => (.error status, client)
      | .ok key =>
        (.ok key, { client with
          pubKeyCache := Function.update client.pubKeyCache request.certId (some key) })

/-- The same call without a cache. -/
def uncachedPublicKey (agent : KeyAgent) (connected : Bool) (request : KeyRequest) :
    Except Status CertPublicKey :=
  if !connected then .error .deviceRemoved else fetch agent request

/-! ## What the agent answers -/

section Fetch

variable {agent : KeyAgent}

/-- The shared refusal is the status of an unsupported request. -/
theorem status_not_supported : statusFromException (.busError kErrNotSupported) = .notSupported := by
  decide +kernel

/-- What a fetch can come to: a key of the requested family, as its method serves it, the
failure of a method, or no method at all. -/
theorem fetch_cases (agent : KeyAgent) (request : KeyRequest) :
    (∃ modulus exponent, request.keyType = .rsa ∧
      agent.publicKey request.reader request.certId = .ok (modulus, exponent) ∧
      fetch agent request = .ok (.rsa modulus exponent)) ∨
    (∃ crv x y, request.keyType = .ec ∧
      agent.ecPublicKey request.reader request.certId = .ok (crv, x, y) ∧
      fetch agent request = .ok (.ec crv x y)) ∨
    (∃ failure, fetch agent request = .error (statusFromException failure)) ∨
    request.keyType = .other ∧ fetch agent request = .error .notSupported := by
  obtain ⟨reader, certId, keyType⟩ := request
  cases keyType with
  | rsa =>
    cases answer : agent.publicKey reader certId with
    | error failure => exact .inr (.inr (.inl ⟨failure, by simp only [fetch, answer]⟩))
    | ok results => exact .inl ⟨results.1, results.2, rfl, rfl, by simp only [fetch, answer]⟩
  | ec =>
    cases answer : agent.ecPublicKey reader certId with
    | error failure => exact .inr (.inr (.inl ⟨failure, by simp only [fetch, answer]⟩))
    | ok results =>
      exact .inr (.inl ⟨results.1, results.2.1, results.2.2, rfl, rfl, by simp only [fetch, answer]⟩)
  | other => exact .inr (.inr (.inr ⟨rfl, rfl⟩))

/-- A key that is served is of the requested family. -/
theorem fetch_key_type (request : KeyRequest) (key : CertPublicKey)
    (served : fetch agent request = .ok key) : key.keyType = request.keyType := by
  rcases fetch_cases agent request with ⟨modulus, exponent, family, -, fetched⟩ |
    ⟨crv, x, y, family, -, fetched⟩ | ⟨failure, fetched⟩ | ⟨-, fetched⟩
  all_goals
    rw [fetched] at served
    cases served
  · exact family.symm
  · exact family.symm

/-- A request that is not served fails with the agent's failure, unless no method serves its
family. -/
theorem fetch_failure (request : KeyRequest) (status : Status)
    (failed : fetch agent request = .error status) (method : request.keyType ≠ .other) :
    ∃ failure, status = statusFromException failure := by
  rcases fetch_cases agent request with ⟨modulus, exponent, -, -, fetched⟩ |
    ⟨crv, x, y, -, -, fetched⟩ | ⟨failure, fetched⟩ | ⟨family, -⟩
  · cases fetched.symm.trans failed
  · cases fetched.symm.trans failed
  · exact ⟨failure, Except.error.inj (failed.symm.trans fetched)⟩
  · exact absurd family method

/-- The reader does not matter. -/
theorem fetch_reader (constant : agent.Constant) (reader other certId : String) (keyType : KeyType) :
    fetch agent ⟨reader, certId, keyType⟩ = fetch agent ⟨other, certId, keyType⟩ := by
  cases keyType with
  | rsa => simp only [fetch, constant.publicKeyReader reader other certId]
  | ec => simp only [fetch, constant.ecPublicKeyReader reader other certId]
  | other => rfl

/-- A certificate whose key is served is refused for every other family. -/
theorem fetch_exclusive (constant : agent.Constant) (reader certId : String)
    (keyType wanted : KeyType) (key : CertPublicKey)
    (served : fetch agent ⟨reader, certId, keyType⟩ = .ok key) (different : wanted ≠ keyType) :
    fetch agent ⟨reader, certId, wanted⟩ = .error .notSupported := by
  rcases fetch_cases agent ⟨reader, certId, keyType⟩ with ⟨modulus, exponent, rfl, answer, -⟩ |
    ⟨crv, x, y, rfl, answer, -⟩ | ⟨failure, fetched⟩ | ⟨-, fetched⟩
  · cases wanted with
    | rsa => exact absurd rfl different
    | ec => simp only [fetch, constant.rsaOnly reader certId _ answer, status_not_supported]
    | other => rfl
  · cases wanted with
    | rsa => simp only [fetch, constant.ecOnly reader certId _ answer, status_not_supported]
    | ec => exact absurd rfl different
    | other => rfl
  · cases fetched.symm.trans served
  · cases fetched.symm.trans served

/-- Every cached key is the one that the agent serves. -/
def Served (agent : KeyAgent) (cache : String → Option CertPublicKey) : Prop :=
  ∀ certId key, cache certId = some key →
    ∀ reader, fetch agent ⟨reader, certId, key.keyType⟩ = .ok key

/-- A cached key answers every request for its certificate as the agent would. -/
theorem served_hit (constant : agent.Constant) (cache : String → Option CertPublicKey)
    (served : Served agent cache) (request : KeyRequest) (key : CertPublicKey)
    (found : cache request.certId = some key) :
    fetch agent request =
      if key.keyType ≠ request.keyType then .error .notSupported else .ok key := by
  have own := served request.certId key found request.reader
  by_cases same : key.keyType = request.keyType
  · rw [if_neg (not_not.mpr same)]
    rwa [same] at own
  · rw [if_pos same]
    exact fetch_exclusive constant request.reader request.certId key.keyType request.keyType key own
      (Ne.symm same)

/-- A key that was served may be cached. -/
theorem served_insert (constant : agent.Constant) (cache : String → Option CertPublicKey)
    (served : Served agent cache) (request : KeyRequest) (key : CertPublicKey)
    (fetched : fetch agent request = .ok key) :
    Served agent (Function.update cache request.certId (some key)) := by
  intro certId stored found reader
  by_cases same : certId = request.certId
  · subst same
    have own : key = stored := by simpa using found
    subst own
    rw [fetch_reader constant reader request.reader, fetch_key_type request key fetched]
    exact fetched
  · exact served certId stored (by simpa [same] using found) reader

end Fetch

/-! ## Calls one after the other -/

namespace KeyClient

/-- A call that fails leaves the client as it was, whatever the agent. -/
theorem failed_call_unchanged (agent : KeyAgent) (client : KeyClient) (request : KeyRequest)
    (status : Status) (failed : (client.publicKey agent request).1 = .error status) :
    (client.publicKey agent request).2 = client := by
  rw [publicKey] at failed ⊢
  split
  · rfl
  · split
    · split_ifs <;> rfl
    · split
      · rfl
      · rename_i offline _ missing _ key fetched
        simp [offline, missing, fetched] at failed

/-- A call of a client that was served its keys by the agent is answered as without a cache, and
the client stays so. -/
theorem public_key_uncached (agent : KeyAgent) (constant : agent.Constant) (client : KeyClient)
    (request : KeyRequest) (served : Served agent client.pubKeyCache) :
    (client.publicKey agent request).1 = uncachedPublicKey agent client.connected request ∧
      Served agent (client.publicKey agent request).2.pubKeyCache ∧
      (client.publicKey agent request).2.connected = client.connected := by
  rw [publicKey, uncachedPublicKey]
  by_cases offline : (!client.connected) = true
  · rw [if_pos offline, if_pos offline]
    exact ⟨rfl, served, rfl⟩
  · rw [if_neg offline, if_neg offline]
    cases found : client.pubKeyCache request.certId with
    | some key =>
      rw [served_hit constant client.pubKeyCache served request key found]
      by_cases different : key.keyType ≠ request.keyType
      · simp only [if_pos different]
        exact ⟨trivial, served, trivial⟩
      · simp only [if_neg different]
        exact ⟨trivial, served, trivial⟩
    | none =>
      cases fetched : fetch agent request with
      | error status => exact ⟨rfl, served, rfl⟩
      | ok key =>
        exact ⟨rfl, served_insert constant client.pubKeyCache served request key fetched, rfl⟩

/-- Along every sequence of calls a client is answered as it would be without its cache, and a
call that failed, for whatever reason, has no effect on the answers to later ones. -/
theorem cache_transparent (agent : KeyAgent) (constant : agent.Constant) :
    (∀ connected requests,
      answers (publicKey agent) { connected } requests =
        requests.map (uncachedPublicKey agent connected)) ∧
      ∀ faulty client request status, (publicKey faulty client request).1 = .error status →
        ∀ later, answers (publicKey agent) (publicKey faulty client request).2 later =
          answers (publicKey agent) client later := by
  refine ⟨?_, ?_⟩
  · intro connected requests
    refine answers_eq_map (publicKey agent) (uncachedPublicKey agent connected)
      (fun client => Served agent client.pubKeyCache ∧ client.connected = connected)
      ?_ requests { connected } ?_
    · rintro client request ⟨served, rfl⟩
      exact public_key_uncached agent constant client request served
    · exact ⟨by simp [Served], rfl⟩
  · intro faulty client request status failed later
    rw [failed_call_unchanged faulty client request status failed]

/-- A broker with a key of each kind, whose outcomes are spelled by their names. -/
def twoKeyBroker : Pkcs11Broker String where
  publicKey _ certId :=
    if certId = "auth" then .ok (.rsa [5] [3])
    else if certId = "sign" then .ok (.ec "P-256" [1] [2])
    else .error "KeyNotFound"
  notSupported := "NotSupported"
  syncErrorName outcome := outcome

/-- Requests of every family before and after a key is cached, at two readers, and one for a
certificate without a key. -/
def mixedRequests : List KeyRequest :=
  [⟨"/org/librescrs/Agent/reader/1", "auth", .ec⟩, ⟨"/org/librescrs/Agent/reader/1", "auth", .rsa⟩,
    ⟨"/org/librescrs/Agent/reader/1", "auth", .ec⟩, ⟨"/org/librescrs/Agent/reader/2", "auth", .rsa⟩,
    ⟨"/org/librescrs/Agent/reader/1", "auth", .other⟩, ⟨"/org/librescrs/Agent/reader/1", "sign", .ec⟩,
    ⟨"/org/librescrs/Agent/reader/1", "none", .rsa⟩]

/-- The manager object serves both kinds of keys, and the cache does not show. -/
theorem mixed_requests_transparent :
    answers (publicKey (managerObject (some twoKeyBroker))) { connected := true } mixedRequests =
      [.error .notSupported, .ok (.rsa [5] [3]), .error .notSupported, .ok (.rsa [5] [3]),
        .error .notSupported, .ok (.ec "P-256" [1] [2]), .error .keyNotFound] := by
  have constant : (managerObject (some twoKeyBroker)).Constant :=
    manager_object_constant twoKeyBroker rfl (fun _ _ _ => rfl)
  rw [(cache_transparent (managerObject (some twoKeyBroker)) constant).1]
  decide +kernel

end KeyClient

/-! ## Calls at the same time -/

/-- The arguments of a call in progress. -/
def KeyCall.request (current : KeyCall) : KeyRequest :=
  ⟨current.reader, current.certId, current.keyType⟩

/-- A call is where the agent's answers took it. -/
def KeyPhase.Right (agent : KeyAgent) (request : KeyRequest) : KeyPhase → Prop
  | .fetched key => fetch agent request = .ok key
  | .returned result => result = fetch agent request
  | _ => True

namespace KeyCache

/-- The agent answers every fetch, and nothing is removed. -/
def AnsweredBy (agent : KeyAgent) (state : KeyCache) : KeyEvent → Prop
  | .answer call key => ∀ current, state.calls call = some current →
      fetch agent current.request = .ok key
  | .fail call failure => ∀ current, state.calls call = some current →
      fetch agent current.request = .error (statusFromException failure)
  | .clear => False
  | _ => True

/-- What steps answered by the agent keep. -/
structure Transparent (agent : KeyAgent) (state : KeyCache) : Prop where
  cached : Served agent state.pubKeyCache
  calls : ∀ call current, state.calls call = some current →
    KeyPhase.Right agent current.request current.phase

variable {agent : KeyAgent} {state : KeyCache}

/-- A call that comes to a right phase. -/
theorem right_update (transparent : state.Transparent agent) (call : Nat) (current : KeyCall)
    (right : KeyPhase.Right agent current.request current.phase) :
    ∀ other found, Function.update state.calls call (some current) other = some found →
      KeyPhase.Right agent found.request found.phase := by
  intro other found updated
  by_cases same : other = call
  · subst same
    have own : current = found := by simpa using updated
    exact own ▸ right
  · exact transparent.calls other found (by simpa [same] using updated)

/-- A lookup serves what the agent would. -/
theorem transparent_lookup (constant : agent.Constant) (transparent : state.Transparent agent)
    (call : Nat) (current : KeyCall) : (state.lookup call current).Transparent agent := by
  rw [lookup]
  split
  · rename_i key found
    have hit := served_hit constant state.pubKeyCache transparent.cached current.request key found
    split_ifs with different
    · have refused := hit.trans (if_pos different)
      exact ⟨transparent.cached, right_update transparent call _ refused.symm⟩
    · have returned := hit.trans (if_neg different)
      exact ⟨transparent.cached, right_update transparent call _ returned.symm⟩
  · split_ifs with unserved
    · refine ⟨transparent.cached, right_update transparent call _ ?_⟩
      simp only [KeyPhase.Right, KeyCall.request, fetch, unserved]
    · exact ⟨transparent.cached, right_update transparent call _ trivial⟩

/-- Every step that the agent answers keeps the cache transparent. -/
theorem transparent_step (constant : agent.Constant) (state : KeyCache) (event : KeyEvent)
    (next : KeyCache) (transparent : state.Transparent agent)
    (answered : AnsweredBy agent state event) (stepped : step state event = some next) :
    next.Transparent agent := by
  rcases step_cases state event next stepped with
    ⟨call, reader, certId, keyType, rfl, -, rfl⟩ | ⟨call, current, rfl, -, -, rfl⟩ |
    ⟨call, current, key, rfl, present, -, -, rfl⟩ | ⟨call, current, failure, rfl, present, -, rfl⟩ |
    ⟨call, current, key, rfl, present, phase, rfl⟩ | ⟨rfl, -⟩
  · exact ⟨transparent.cached, right_update transparent call _ trivial⟩
  · exact transparent_lookup constant transparent call current
  · exact ⟨transparent.cached, right_update transparent call _ (answered current present)⟩
  · exact ⟨transparent.cached, right_update transparent call _ (answered current present).symm⟩
  · have right := transparent.calls call current present
    rw [phase] at right
    exact ⟨served_insert constant state.pubKeyCache transparent.cached current.request key right,
      right_update transparent call _ right.symm⟩
  · exact absurd answered id

/-- The call of a connected client is a run of its steps that the agent answers. -/
theorem public_key_runs (client : KeyClient) (connected : client.connected = true)
    (request : KeyRequest) (same : state.pubKeyCache = client.pubKeyCache) (call : Nat)
    (absent : state.calls call = none) :
    ∃ events next, run step state events = some next ∧
      Admitted step (AnsweredBy agent) state events ∧
      next.pubKeyCache = (client.publicKey agent request).2.pubKeyCache ∧
      next.calls call = some ⟨request.reader, request.certId, request.keyType,
        .returned (client.publicKey agent request).1⟩ := by
  obtain ⟨_, cache⟩ := client
  subst connected same
  simp only [KeyClient.publicKey, Bool.not_true, Bool.false_eq_true, if_false]
  cases found : state.pubKeyCache request.certId with
  | some key =>
    refine ⟨[.enter call request.reader request.certId request.keyType, .lookup call], ?_⟩
    by_cases matching : key.keyType = request.keyType
    · simp [run, step, absent, advance, lookup, found, matching, moveTo, Admitted, AnsweredBy]
    · simp [run, step, absent, advance, lookup, found, matching, moveTo, Admitted, AnsweredBy]
  | none =>
    by_cases unserved : request.keyType = .other
    · refine ⟨[.enter call request.reader request.certId request.keyType, .lookup call], ?_⟩
      simp [run, step, absent, advance, lookup, found, unserved, moveTo, Admitted, AnsweredBy,
        fetch]
    · cases fetched : fetch agent request with
      | error status =>
        obtain ⟨failure, rfl⟩ := fetch_failure request status fetched unserved
        refine ⟨[.enter call request.reader request.certId request.keyType, .lookup call,
          .fail call failure], ?_⟩
        simp [run, step, absent, advance, lookup, found, unserved, moveTo, Admitted, AnsweredBy,
          KeyCall.request, fetched]
      | ok key =>
        have own := fetch_key_type request key fetched
        refine ⟨[.enter call request.reader request.certId request.keyType, .lookup call,
          .answer call key, .insert call], ?_⟩
        simp [run, step, absent, advance, lookup, insert, found, unserved, moveTo, Admitted, AnsweredBy,
          KeyCall.request, fetched, own]

/-- Along every interleaving of calls, each call returns what the agent answers to it.

Proof: every cached key was served by the agent, and the agent's answers do not change. -/
theorem interleaved_calls_transparent (constant : agent.Constant) (events : List KeyEvent)
    (state : KeyCache) (answered : Admitted step (AnsweredBy agent) {} events)
    (reached : run step {} events = some state) (call : Nat) (current : KeyCall)
    (result : Except Status CertPublicKey) (present : state.calls call = some current)
    (returned : current.phase = .returned result) : result = fetch agent current.request := by
  have initial : Transparent agent {} := ⟨by simp [Served], by simp⟩
  have transparent : state.Transparent agent :=
    admitted_invariant step (AnsweredBy agent) (Transparent agent) (transparent_step constant) events
      {} state initial answered reached
  have right := transparent.calls call current present
  rwa [returned] at right

end KeyCache

end LibreLinux.Pkcs11
