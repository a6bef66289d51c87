import LibreLinux.Lib.Runs
import LibreLinux.Results.Payload
import Mathlib.Logic.Function.Basic

/-!
# The cache of public keys

`DBusAgentClient::publicKey` serves a certificate's key from a cache, or fetches
it from the agent and puts it there. The removal of an object clears the cache, so
that the key of a removed card is not served once the card is gone. Lookup, fetch
and insertion are separate steps, and the insertion does not ask whether the cache
was cleared since the agent answered: a key fetched before the removal then comes
back into the cleared cache and is served from it.

Where every insertion follows the answer without a clearing in between, no call
that starts after a clearing is served a key that the agent answered before it.
The clearings are counted; a call remembers the count at its entry and at the
agent's answer, and a cached key the count at its answer.
-/

namespace LibreLinux.Pkcs11

open Results (Bytes)
open Runs

/-- A key family. -/
inductive KeyType where
  | rsa
  | ec
  | other
deriving DecidableEq, Repr

/-- A certificate's public key, as the agent serves it. -/
inductive CertPublicKey where
  | rsa (modulus exponent : Bytes)
  | ec (crv : String) (x y : Bytes)
deriving DecidableEq, Repr

/-- The family of a key. -/
def CertPublicKey.keyType : CertPublicKey → KeyType
  | .rsa _ _ => .rsa
  | .ec _ _ _ => .ec

/-- The ways a call to the agent fails. -/
inductive Status where
  | userNotLoggedIn
  | notAuthorized
  | authFailed
  | cancelled
  | keyNotFound
  | unknownCard
  | notSupported
  | rateLimited
  | communication
  | invalidInput
  | generalError
  | deviceRemoved
deriving DecidableEq, Repr

/-- The status of one of the agent's own errors. -/
def mapErrorName (errorName : String) : Status :=
  if errorName = "org.librescrs.Agent.Error.UserNotLoggedIn" then .userNotLoggedIn
  else if errorName = "org.librescrs.Agent.Error.NotAuthorized" then .notAuthorized
  else if errorName = "org.librescrs.Agent.Error.AuthFailed" then .authFailed
  else if errorName = "org.librescrs.Agent.Error.Cancelled" then .cancelled
  else if errorName = "org.librescrs.Agent.Error.KeyNotFound" then .keyNotFound
  else if errorName = "org.librescrs.Agent.Error.UnknownCard" then .unknownCard
  else if errorName = "org.librescrs.Agent.Error.NotSupported" then .notSupported
  else if errorName = "org.librescrs.Agent.Error.RateLimited" then .rateLimited
  else if errorName = "org.librescrs.Agent.Error.CommunicationError" then .communication
  else if errorName = "org.librescrs.Agent.Error.InvalidRequest" then .invalidInput
  else .generalError

/-- What a failed call throws: a bus error with its name, or something else. -/
inductive CallFailure where
  | busError (name : String)
  | other
deriving DecidableEq, Repr

/-- The status of a failed call. An agent that is gone is a removed device. -/
def statusFromException : CallFailure → Status
  | .busError name =>
    if "org.librescrs.Agent.Error.".toList.isPrefixOf name.toList then mapErrorName name
    else if name = "org.freedesktop.DBus.Error.ServiceUnknown" ∨
        name = "org.freedesktop.DBus.Error.NoReply" ∨
        name = "org.freedesktop.DBus.Error.Disconnected" ∨
        name = "org.freedesktop.DBus.Error.NameHasNoOwner" then .deviceRemoved
    else .generalError
  | .other => .deviceRemoved

/-- Where a call of `publicKey` stands. -/
inductive KeyPhase where
  | entered
  | fetching
  | fetched (key : CertPublicKey)
  | returned (result : Except Status CertPublicKey)

/-- A call with its arguments. -/
structure KeyCall where
  reader : String
  certId : String
  keyType : KeyType
  phase : KeyPhase

/-- The client's key cache with its calls in progress. The last fields record the
count of clearings: so far, at a call's entry, at the agent's answer to it, at the
answer behind a cached key, and behind a key that a call was served from the
cache. -/
structure KeyCache where
  pubKeyCache : String → Option CertPublicKey := fun _ => none
  calls : Nat → Option KeyCall := fun _ => none
  cleared : Nat := 0
  entryCount : Nat → Nat := fun _ => 0
  answerCount : Nat → Nat := fun _ => 0
  storedCount : String → Nat := fun _ => 0
  servedCount : Nat → Option Nat := fun _ => none

/-- A step of a call, or of the handler of a removal. The agent answers a fetch
with a key, or the call fails. -/
inductive KeyEvent where
  | enter (call : Nat) (reader certId : String) (keyType : KeyType)
  | lookup (call : Nat)
  | answer (call : Nat) (key : CertPublicKey)
  | fail (call : Nat) (failure : CallFailure)
  | insert (call : Nat)
  | clear

namespace KeyCache

/-- Move a call to another phase. -/
def moveTo (state : KeyCache) (call : Nat) (current : KeyCall) (phase : KeyPhase) : KeyCache :=
  { state with calls := Function.update state.calls call (some { current with phase }) }

/-- The lookup under the lock: a hit is served, or refused when it is of another
family; a miss is fetched, unless no method serves the family. -/
def lookup (state : KeyCache) (call : Nat) (current : KeyCall) : KeyCache :=
  match state.pubKeyCache current.certId with
  | some key =>
    if key.keyType ≠ current.keyType then
      state.moveTo call current (.returned (.error .notSupported))
    else
      { state.moveTo call current (.returned (.ok key)) with
        servedCount := Function.update state.servedCount call
          (some (state.storedCount current.certId)) }
  | none =>
    if current.keyType = .other then state.moveTo call current (.returned (.error .notSupported))
    else state.moveTo call current .fetching

/-- The insertion under the lock, and the return. -/
def insert (state : KeyCache) (call : Nat) (current : KeyCall) (key : CertPublicKey) : KeyCache :=
  { state.moveTo call current (.returned (.ok key)) with
    pubKeyCache := Function.update state.pubKeyCache current.certId (some key)
    storedCount := Function.update state.storedCount current.certId (state.answerCount call) }

/-- A step of a call in its phase. -/
def advance (state : KeyCache) (call : Nat) (current : KeyCall) : KeyEvent → Option KeyCache
  | .lookup _ =>
    match current.phase with
    | .entered => some (state.lookup call current)
    | _ => none
  | .answer _ key =>
    match current.phase with
    | .fetching =>
      if key.keyType = current.keyType then
        some { state.moveTo call current (.fetched key) with
          answerCount := Function.update state.answerCount call state.cleared }
      else none
    | _ => none
  | .fail _ failure =>
    match current.phase with
    | .fetching => some (state.moveTo call current (.returned (.error (statusFromException failure))))
    | _ => none
  | .insert _ =>
    match current.phase with
    | .fetched key => some (state.insert call current key)
    | _ => none
  | _ => none

/-- One step of one thread. -/
def step (state : KeyCache) (event : KeyEvent) : Option KeyCache :=
  match event with
  | .enter call reader certId keyType =>
    if (state.calls call).isNone then
      some { state with
        calls := Function.update state.calls call (some ⟨reader, certId, keyType, .entered⟩)
        entryCount := Function.update state.entryCount call state.cleared }
    else none
  | .lookup call | .answer call _ | .fail call _ | .insert call =>
    (state.calls call).bind (fun current => state.advance call current event)
  | .clear => some { state with pubKeyCache := fun _ => none, cleared := state.cleared + 1 }

/-- What a step can do, and when. -/
theorem step_cases (state : KeyCache) (event : KeyEvent) (next : KeyCache)
    (stepped : step state event = some next) :
    (∃ call reader certId keyType, event = .enter call reader certId keyType ∧
      state.calls call = none ∧
      next = { state with
        calls := Function.update state.calls call (some ⟨reader, certId, keyType, .entered⟩)
        entryCount := Function.update state.entryCount call state.cleared }) ∨
    (∃ call current, event = .lookup call ∧ state.calls call = some current ∧
      current.phase = .entered ∧ next = state.lookup call current) ∨
    (∃ call current key, event = .answer call key ∧ state.calls call = some current ∧
      current.phase = .fetching ∧ key.keyType = current.keyType ∧
      next = { state.moveTo call current (.fetched key) with
        answerCount := Function.update state.answerCount call state.cleared }) ∨
    (∃ call current failure, event = .fail call failure ∧ state.calls call = some current ∧
      current.phase = .fetching ∧
      next = state.moveTo call current (.returned (.error (statusFromException failure)))) ∨
    (∃ call current key, event = .insert call ∧ state.calls call = some current ∧
      current.phase = .fetched key ∧ next = state.insert call current key) ∨
    event = .clear ∧ next = { state with pubKeyCache := fun _ => none, cleared := state.cleared + 1 } := by
  cases event with
  | enter call reader certId keyType =>
    simp only [step] at stepped
    split_ifs at stepped with absent
    cases stepped
    exact .inl ⟨call, reader, certId, keyType, rfl, Option.isNone_iff_eq_none.mp absent, rfl⟩
  | lookup call =>
    simp only [step, Option.bind_eq_some_iff, advance] at stepped
    obtain ⟨current, present, stepped⟩ := stepped
    split at stepped <;> cases stepped
    rename_i phase
    exact .inr (.inl ⟨call, current, rfl, present, phase, rfl⟩)
  | answer call key =>
    simp only [step, Option.bind_eq_some_iff, advance] at stepped
    obtain ⟨current, present, stepped⟩ := stepped
    split at stepped
    · rename_i phase
      split_ifs at stepped with family
      cases stepped
      exact .inr (.inr (.inl ⟨call, current, key, rfl, present, phase, family, rfl⟩))
    · cases stepped
  | fail call failure =>
    simp only [step, Option.bind_eq_some_iff, advance] at stepped
    obtain ⟨current, present, stepped⟩ := stepped
    split at stepped <;> cases stepped
    rename_i phase
    exact .inr (.inr (.inr (.inl ⟨call, current, failure, rfl, present, phase, rfl⟩)))
  | insert call =>
    simp only [step, Option.bind_eq_some_iff, advance] at stepped
    obtain ⟨current, present, stepped⟩ := stepped
    split at stepped
    · rename_i key phase
      cases stepped
      exact .inr (.inr (.inr (.inr (.inl ⟨call, current, key, rfl, present, phase, rfl⟩))))
    · cases stepped
  | clear =>
    cases stepped
    exact .inr (.inr (.inr (.inr (.inr ⟨rfl, rfl⟩))))

/-- No call was served from the cache a key whose answer a clearing had overtaken
before the call started. -/
def Fresh (state : KeyCache) : Prop :=
  ∀ call count, state.servedCount call = some count → state.entryCount call ≤ count

/-- An insertion follows its answer without a clearing in between. -/
def Prompt (state : KeyCache) : KeyEvent → Prop
  | .insert call => state.answerCount call = state.cleared
  | _ => True

/-- What prompt insertions keep: every cached key was answered since the last
clearing. -/
structure Sound (state : KeyCache) : Prop where
  entries : ∀ call, state.entryCount call ≤ state.cleared
  unserved : ∀ call, state.calls call = none → state.servedCount call = none
  stored : ∀ certId key, state.pubKeyCache certId = some key →
    state.storedCount certId = state.cleared
  served : state.Fresh

/-- The client starts with nothing cached. -/
theorem sound_initial : Sound {} :=
  ⟨by simp, by simp, by simp, by simp [Fresh]⟩

variable {state : KeyCache}

/-- A new call has been served nothing. -/
theorem sound_enter (call : Nat) (current : KeyCall) (absent : state.calls call = none)
    (sound : state.Sound) :
    Sound { state with
      calls := Function.update state.calls call (some current)
      entryCount := Function.update state.entryCount call state.cleared } where
  entries other := by
    by_cases same : other = call
    · simp [same]
    · simpa [same] using sound.entries other
  unserved other missing := by
    by_cases same : other = call
    · simp [same] at missing
    · exact sound.unserved other (by simpa [same] using missing)
  stored := sound.stored
  served other count found := by
    by_cases same : other = call
    · subst same
      have none := sound.unserved other absent
      rw [none] at found
      cases found
    · simpa [same] using sound.served other count found

/-- A call that only changes its phase. -/
theorem sound_move (call : Nat) (current : KeyCall) (phase : KeyPhase) (sound : state.Sound) :
    (state.moveTo call current phase).Sound where
  entries := sound.entries
  unserved other missing := by
    by_cases same : other = call
    · simp [moveTo, same] at missing
    · exact sound.unserved other (by simpa [moveTo, same] using missing)
  stored := sound.stored
  served := sound.served

/-- A lookup serves a key answered since the last clearing. -/
theorem sound_lookup (call : Nat) (current : KeyCall) (sound : state.Sound) :
    (state.lookup call current).Sound := by
  rw [lookup]
  split
  · rename_i key found
    split_ifs
    · exact sound_move call current _ sound
    · have moved := sound_move call current (.returned (.ok key)) sound
      refine ⟨moved.entries, ?_, moved.stored, ?_⟩
      · intro other missing
        by_cases same : other = call
        · simp [moveTo, same] at missing
        · have none : state.servedCount other = none := moved.unserved other missing
          simpa [same] using none
      · intro other count served
        by_cases same : other = call
        · subst same
          have stamp : state.storedCount current.certId = count := by simpa using served
          rw [← stamp, sound.stored current.certId key found]
          exact sound.entries other
        · exact sound.served other count (by simpa [same] using served)
  · split_ifs
    · exact sound_move call current _ sound
    · exact sound_move call current _ sound

/-- A prompt insertion caches a key answered since the last clearing. -/
theorem sound_insert (call : Nat) (current : KeyCall) (key : CertPublicKey)
    (prompt : state.answerCount call = state.cleared) (sound : state.Sound) :
    (state.insert call current key).Sound := by
  have moved := sound_move call current (.returned (.ok key)) sound
  refine ⟨moved.entries, moved.unserved, ?_, moved.served⟩
  intro certId stored found
  by_cases same : certId = current.certId
  · subst same
    simpa [insert, moveTo] using prompt
  · have kept : state.pubKeyCache certId = some stored := by simpa [insert, same] using found
    simpa [insert, moveTo, same] using sound.stored certId stored kept

/-- Every prompt step keeps the invariant. -/
theorem sound_step (state : KeyCache) (event : KeyEvent) (next : KeyCache) (sound : state.Sound)
    (prompt : Prompt state event) (stepped : step state event = some next) : next.Sound := by
  rcases step_cases state event next stepped with
    ⟨call, reader, certId, keyType, rfl, absent, rfl⟩ | ⟨call, current, rfl, -, -, rfl⟩ |
    ⟨call, current, key, rfl, -, -, -, rfl⟩ | ⟨call, current, failure, rfl, -, -, rfl⟩ |
    ⟨call, current, key, rfl, -, -, rfl⟩ | ⟨rfl, rfl⟩
  · exact sound_enter call _ absent sound
  · exact sound_lookup call current sound
  · have moved := sound_move call current (.fetched key) sound
    exact ⟨moved.entries, moved.unserved, moved.stored, moved.served⟩
  · exact sound_move call current _ sound
  · exact sound_insert call current key prompt sound
  · exact ⟨fun call => Nat.le_succ_of_le (sound.entries call), sound.unserved, by simp, sound.served⟩

/-- In every run whose insertions are prompt, no call is served from the cache a
key that was answered before a clearing the call started after.

Proof: a prompt insertion puts a key behind no clearing later than its answer, so a cached key is as
new as the last clearing. -/
theorem prompt_insertions_fresh (events : List KeyEvent) (state : KeyCache)
    (prompt : Admitted step Prompt {} events) (reached : run step {} events = some state) :
    state.Fresh :=
  (admitted_invariant step Prompt Sound sound_step events {} state sound_initial prompt reached).served

/-- A key is fetched, cached and served; the card is removed, and the next call has
to fetch. -/
def refetchedKey : List KeyEvent :=
  [.enter 0 "/org/librescrs/Agent/reader/1" "sign" .rsa, .lookup 0, .answer 0 (.rsa [5] [3]),
    .insert 0, .enter 1 "/org/librescrs/Agent/reader/1" "sign" .rsa, .lookup 1, .clear,
    .enter 2 "/org/librescrs/Agent/reader/1" "sign" .rsa, .lookup 2]

/-- The cached key is served before the removal only. -/
theorem refetched_key_fresh :
    ∃ state, run step {} refetchedKey = some state ∧ state.servedCount 1 = some 0 ∧
      state.servedCount 2 = none ∧ state.Fresh := by
  have completes : (run step {} refetchedKey).isSome = true := by decide +kernel
  refine ⟨_, (Option.some_get completes).symm, rfl, rfl, ?_⟩
  refine prompt_insertions_fresh refetchedKey _ ?_ (Option.some_get completes).symm
  iterate 3 refine admitted_cons _ _ _ _ _ _ trivial rfl ?_
  refine admitted_cons _ _ _ _ _ _ rfl rfl ?_
  iterate 5 refine admitted_cons _ _ _ _ _ _ trivial rfl ?_
  trivial

/-- The agent answers a fetch, the card is removed, the key is inserted, and a
later call finds it. -/
def overtakenFetch : List KeyEvent :=
  [.enter 0 "/org/librescrs/Agent/reader/1" "sign" .rsa, .lookup 0, .answer 0 (.rsa [5] [3]), .clear,
    .insert 0, .enter 1 "/org/librescrs/Agent/reader/1" "sign" .rsa, .lookup 1]

/-- The call that started after the clearing is served the removed card's key. -/
theorem overtaken_fetch_served :
    ∃ state, run step {} overtakenFetch = some state ∧ state.entryCount 1 = 1 ∧
      state.servedCount 1 = some 0 ∧ ¬ state.Fresh := by
  have completes : (run step {} overtakenFetch).isSome = true := by decide +kernel
  refine ⟨_, (Option.some_get completes).symm, rfl, rfl, ?_⟩
  intro fresh
  have late : 1 ≤ 0 := fresh 1 0 rfl
  cases late

end KeyCache

end LibreLinux.Pkcs11
