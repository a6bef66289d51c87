import LibreLinux.Lib.Runs
import LibreLinux.Pkcs11.Enumerate

/-!
# Waiting for the end of a certificate read

`readCertificates` asks the agent for an operation and waits for its end. The
operation may end at any moment, also before its path has reached the client. The
agent writes the terminal status and error code, then marks the operation
completed, then emits `Finished` with the same values. The client arms its handler
first and reads the completed mark afterwards: if the mark was not yet set, the
signal is still to come and finds the handler armed; if it was set, the properties
are the terminal ones.

Every property read and method call may also fail, which ends the read by an
exception. The result is fetched by a separate call, only for an operation that
ended well.
-/

namespace LibreLinux.Pkcs11

open Results (Certificates1CertTuple)
open Runs

/-- How the operation ends: the values the agent writes and the signal carries. -/
structure Terminal where
  status : UInt32
  errorCode : UInt32
  fallback : String

/-- Where the client stands. -/
inductive ReadPhase where
  | calling
  | replied (operation : String)
  | armed (operation : String)
  | completed (operation : String)
  | completedWith (operation : String) (status : UInt32)
  | waiting (operation : String)
  | judging (read : CertificateRead)
  | fetching (read : CertificateRead)
  | returned (read : CertificateRead)
  | thrown (cause : ReadEnd)

/-- Whether the read is over and its proxy destroyed. -/
def ReadPhase.over : ReadPhase → Bool
  | .returned _ => true
  | .thrown _ => true
  | _ => false

/-- One read: the operation's properties and what the agent has done with them,
the handler and the signal on its way to it, what the handler has heard, and the
client. -/
structure OperationRead where
  status : UInt32
  errorCode : UInt32
  statusWritten : Bool := false
  errorCodeWritten : Bool := false
  completed : Bool := false
  emitted : Bool := false
  armed : Bool := false
  arriving : Bool := false
  finished : Bool := false
  heardStatus : UInt32 := 2
  heardErrorCode : UInt32 := 0
  heardMessage : String := ""
  phase : ReadPhase := .calling

/-- A step of the agent, of the bus, or of the client. -/
inductive ReadEvent where
  | writeStatus
  | writeErrorCode
  | complete
  | emitFinished
  | deliver
  | reply (operation : String)
  | arm
  | getCompleted
  | getStatus
  | getErrorCode
  | wake
  | timeout
  | judge
  | result (certificates : List Certificates1CertTuple)
  | fail (cause : ReadEnd)

namespace OperationRead

/-- The client's step in its phase. A failed call throws in every phase in which
the client calls the agent or the bus. A read that times out also asks the agent
to cancel the operation, without an answer and whether or not that works. -/
def advance (state : OperationRead) : ReadPhase → ReadEvent → Option OperationRead
  | .calling, .reply operation => some { state with phase := .replied operation }
  | .replied operation, .arm => some { state with armed := true, phase := .armed operation }
  | .armed operation, .getCompleted =>
    some { state with
      phase := if state.completed then .completed operation else .waiting operation }
  | .completed operation, .getStatus =>
    some { state with phase := .completedWith operation state.status }
  | .completedWith operation status, .getErrorCode =>
    some { state with phase := .judging { operation, status, errorCode := state.errorCode } }
  | .waiting operation, .wake =>
    if state.finished then
      some { state with
        phase := .judging
          { operation, status := state.heardStatus, errorCode := state.heardErrorCode,
            message := state.heardMessage } }
    else none
  | .waiting operation, .timeout =>
    if state.finished then none
    else some { state with phase := .returned { operation, timedOut := true } }
  | .judging read, .judge =>
    some { state with phase := if read.status ≠ 0 then .returned read else .fetching read }
  | .fetching read, .result certificates =>
    some { state with phase := .returned { read with certificates } }
  | .calling, .fail cause => some { state with phase := .thrown cause }
  | .replied _, .fail cause => some { state with phase := .thrown cause }
  | .armed _, .fail cause => some { state with phase := .thrown cause }
  | .completed _, .fail cause => some { state with phase := .thrown cause }
  | .completedWith _ _, .fail cause => some { state with phase := .thrown cause }
  | .fetching _, .fail cause => some { state with phase := .thrown cause }
  | _, _ => none

/-- One step. The agent's steps come in its order, each once; a signal emitted
before the handler is armed goes to nobody. -/
def step (terminal : Terminal) (state : OperationRead) (event : ReadEvent) : Option OperationRead :=
  match event with
  | .writeStatus =>
    if state.statusWritten then none
    else some { state with status := terminal.status, statusWritten := true }
  | .writeErrorCode =>
    if state.errorCodeWritten then none
    else some { state with errorCode := terminal.errorCode, errorCodeWritten := true }
  | .complete =>
    if state.statusWritten && state.errorCodeWritten && !state.completed then
      some { state with completed := true }
    else none
  | .emitFinished =>
    if state.completed && !state.emitted then
      some { state with emitted := true, arriving := state.armed }
    else none
  | .deliver =>
    if !state.arriving then none
    else if state.phase.over then some { state with arriving := false }
    else some { state with
      arriving := false
      finished := true
      heardStatus := terminal.status
      heardErrorCode := terminal.errorCode
      heardMessage := terminal.fallback }
  | .reply _ | .arm | .getCompleted | .getStatus | .getErrorCode | .wake | .timeout | .judge
  | .result _ | .fail _ => state.advance state.phase event

/-- What the phase of the client rests on. -/
def PhaseSound (terminal : Terminal) (state : OperationRead) : Prop :=
  match state.phase with
  | .armed _ => state.armed = true
  | .completed _ => state.completed = true
  | .completedWith _ status => state.completed = true ∧ status = terminal.status
  | .waiting _ => state.armed = true ∧
      (state.emitted = true → state.finished = true ∨ state.arriving = true)
  | .judging read => read.timedOut = false ∧ read.status = terminal.status ∧
      read.errorCode = terminal.errorCode ∧ read.certificates = []
  | .fetching read => read.timedOut = false ∧ read.status = terminal.status ∧
      read.errorCode = terminal.errorCode ∧ read.status = 0
  | .returned read =>
      (read.timedOut = false →
        read.status = terminal.status ∧ read.errorCode = terminal.errorCode) ∧
      (read.certificates ≠ [] → read.timedOut = false ∧ read.status = 0)
  | _ => True

/-- What every reachable state keeps: written properties are terminal, completion
follows the writes, the signal follows completion, and what the handler heard is
terminal. -/
structure Sound (terminal : Terminal) (state : OperationRead) : Prop where
  status : state.statusWritten = true → state.status = terminal.status
  errorCode : state.errorCodeWritten = true → state.errorCode = terminal.errorCode
  written : state.completed = true → state.statusWritten = true ∧ state.errorCodeWritten = true
  ordered : state.emitted = true → state.completed = true
  heard : state.finished = true →
    state.heardStatus = terminal.status ∧ state.heardErrorCode = terminal.errorCode
  phase : PhaseSound terminal state

variable {terminal : Terminal} {state : OperationRead}

/-- A step of the agent keeps what the client's phase rests on, unless it is the
signal that the client waits for. -/
theorem phase_sound_mono (state next : OperationRead) (same : next.phase = state.phase)
    (armed : next.armed = state.armed) (completed : state.completed = true → next.completed = true)
    (awaited : state.armed = true →
      (state.emitted = true → state.finished = true ∨ state.arriving = true) →
      next.emitted = true → next.finished = true ∨ next.arriving = true)
    (sound : PhaseSound terminal state) : PhaseSound terminal next := by
  unfold PhaseSound at sound ⊢
  rw [same]
  cases phase : state.phase with
  | armed operation => simpa [phase, armed] using sound
  | completed operation =>
    rw [phase] at sound
    exact completed sound
  | completedWith operation status =>
    rw [phase] at sound
    exact ⟨completed sound.1, sound.2⟩
  | waiting operation =>
    rw [phase] at sound
    exact ⟨armed.trans sound.1, awaited sound.1 sound.2⟩
  | judging read => simpa only [phase] using sound
  | fetching read => simpa only [phase] using sound
  | returned read => simpa only [phase] using sound
  | _ => trivial

/-- A step of the client changes only its phase and, once, the handler. -/
theorem sound_advance (event : ReadEvent) (next : OperationRead) (sound : state.Sound terminal)
    (stepped : state.advance state.phase event = some next) : next.Sound terminal := by
  have client : ∀ phase armed,
      PhaseSound terminal { state with phase, armed } → Sound terminal { state with phase, armed } :=
    fun phase armed held =>
      ⟨sound.status, sound.errorCode, sound.written, sound.ordered, sound.heard, held⟩
  have held := sound.phase
  unfold PhaseSound at held
  unfold advance at stepped
  split at stepped
  case h_1 operation phase =>
    cases stepped
    exact client _ state.armed trivial
  case h_2 operation phase =>
    cases stepped
    exact client _ true rfl
  case h_3 operation phase =>
    cases stepped
    rw [phase] at held
    apply client _ state.armed
    unfold PhaseSound
    split_ifs with done
    · exact done
    · exact ⟨held, fun emitted => absurd (sound.ordered emitted) done⟩
  case h_4 operation phase =>
    cases stepped
    rw [phase] at held
    exact client _ state.armed ⟨held, sound.status (sound.written held).1⟩
  case h_5 operation status phase =>
    cases stepped
    rw [phase] at held
    exact client _ state.armed
      ⟨rfl, held.2, sound.errorCode (sound.written held.1).2, rfl⟩
  case h_6 operation phase =>
    split_ifs at stepped with finished
    cases stepped
    obtain ⟨status, errorCode⟩ := sound.heard finished
    exact client _ state.armed ⟨rfl, status, errorCode, rfl⟩
  case h_7 operation phase =>
    split_ifs at stepped
    cases stepped
    refine client _ state.armed ⟨?_, ?_⟩
    · rintro ⟨⟩
    · simp
  case h_8 read phase =>
    cases stepped
    rw [phase] at held
    obtain ⟨intime, status, errorCode, unfilled⟩ := held
    by_cases good : read.status = 0
    · exact client _ state.armed (by simpa [PhaseSound, good] using ⟨intime, good ▸ status, errorCode⟩)
    · exact client _ state.armed (by simpa [PhaseSound, good, unfilled] using fun _ => ⟨status, errorCode⟩)
  case h_9 read certificates phase =>
    cases stepped
    rw [phase] at held
    obtain ⟨intime, status, errorCode, good⟩ := held
    exact client _ state.armed ⟨fun _ => ⟨status, errorCode⟩, fun _ => ⟨intime, good⟩⟩
  case h_16 => cases stepped
  all_goals
    cases stepped
    exact client _ state.armed trivial

/-- Every step keeps the invariant.

Cases follow the event. The agent's steps write the properties before they emit the signal; the
client's steps only learn what was written. -/
theorem sound_step (terminal : Terminal) (state : OperationRead) (event : ReadEvent)
    (next : OperationRead) (sound : state.Sound terminal)
    (stepped : step terminal state event = some next) : next.Sound terminal := by
  cases event with
  | writeStatus =>
    simp only [step] at stepped
    split_ifs at stepped
    cases stepped
    refine ⟨fun _ => rfl, sound.errorCode, ?_, sound.ordered, sound.heard,
      phase_sound_mono state _ rfl rfl id (fun _ awaited => awaited) sound.phase⟩
    exact fun done => ⟨rfl, (sound.written done).2⟩
  | writeErrorCode =>
    simp only [step] at stepped
    split_ifs at stepped
    cases stepped
    refine ⟨sound.status, fun _ => rfl, ?_, sound.ordered, sound.heard,
      phase_sound_mono state _ rfl rfl id (fun _ awaited => awaited) sound.phase⟩
    exact fun done => ⟨(sound.written done).1, rfl⟩
  | complete =>
    simp only [step] at stepped
    split_ifs at stepped with due
    cases stepped
    simp only [Bool.and_eq_true] at due
    exact ⟨sound.status, sound.errorCode, fun _ => due.1, fun _ => rfl, sound.heard,
      phase_sound_mono state _ rfl rfl (fun _ => rfl) (fun _ awaited => awaited) sound.phase⟩
  | emitFinished =>
    simp only [step] at stepped
    split_ifs at stepped with due
    cases stepped
    simp only [Bool.and_eq_true] at due
    refine ⟨sound.status, sound.errorCode, sound.written, fun _ => due.1, sound.heard,
      phase_sound_mono state _ rfl rfl id ?_ sound.phase⟩
    exact fun armed _ _ => Or.inr armed
  | deliver =>
    simp only [step] at stepped
    split_ifs at stepped with idle gone
    · cases stepped
      refine ⟨sound.status, sound.errorCode, sound.written, sound.ordered, sound.heard, ?_⟩
      have held := sound.phase
      unfold PhaseSound at held ⊢
      cases phase : state.phase with
      | returned read => simpa only [phase] using held
      | thrown cause => trivial
      | _ => simp [phase, ReadPhase.over] at gone
    · cases stepped
      refine ⟨sound.status, sound.errorCode, sound.written, sound.ordered, fun _ => ⟨rfl, rfl⟩,
        phase_sound_mono state _ rfl rfl id ?_ sound.phase⟩
      exact fun _ _ _ => Or.inl rfl
  | _ => exact sound_advance _ next sound stepped

/-- The end of an operation is never missed, in every order of the agent's and the
client's steps. A client that waits and has not heard of the end, though the
signal was emitted, has the signal on its way. A read that returns in time carries
the operation's terminal status and error code. The result is fetched, and the
certificates filled, only for an operation that ended well.

Proof: the invariant has the match rule installed before `Completed` is read, and the status and
the error code written before `Completed` is set and the signal emitted. -/
theorem end_never_missed (terminal : Terminal) (status errorCode : UInt32) (events : List ReadEvent)
    (state : OperationRead) (reached : run (step terminal) { status, errorCode } events = some state) :
    (∀ operation, state.phase = .waiting operation → state.finished = false →
      state.emitted = true → state.armed = true ∧ state.arriving = true) ∧
    (∀ read, state.phase = .returned read → read.timedOut = false →
      read.status = terminal.status ∧ read.errorCode = terminal.errorCode) ∧
    (∀ read, state.phase = .fetching read → read.status = 0 ∧ terminal.status = 0) ∧
    (∀ read, state.phase = .returned read → read.certificates ≠ [] →
      read.timedOut = false ∧ read.status = 0 ∧ terminal.status = 0) := by
  have sound : state.Sound terminal := by
    refine run_invariant (step terminal) (Sound terminal) (sound_step terminal) events _ state ?_
      reached
    exact ⟨by simp, by simp, by simp, by simp, by simp, trivial⟩
  have held := sound.phase
  unfold PhaseSound at held
  refine ⟨?_, ?_, ?_, ?_⟩
  · intro operation waiting unheard emitted
    rw [waiting] at held
    refine ⟨held.1, (held.2 emitted).resolve_left ?_⟩
    simp [unheard]
  · intro read returned intime
    rw [returned] at held
    exact held.1 intime
  · intro read fetching
    rw [fetching] at held
    obtain ⟨-, status, -, good⟩ := held
    exact ⟨good, status.symm.trans good⟩
  · intro read returned filled
    rw [returned] at held
    obtain ⟨intime, good⟩ := held.2 filled
    exact ⟨intime, good, (held.1 intime).1.symm.trans good⟩

/-- An operation that ends well. -/
def endedWell : Terminal := { status := 0, errorCode := 0, fallback := "" }

/-- The operation ends after the client has begun to wait. -/
def endedWhileWaiting : List ReadEvent :=
  [.reply "/op/1", .arm, .getCompleted, .writeStatus, .writeErrorCode, .complete, .emitFinished]

/-- The client that waits has the signal on its way to its handler. -/
theorem ended_while_waiting_arrives :
    ∃ state, run (step endedWell) { status := 2, errorCode := 0 } endedWhileWaiting = some state ∧
      state.phase = .waiting "/op/1" ∧ state.armed = true ∧ state.arriving = true := by
  refine ⟨_, rfl, rfl, ?_⟩
  exact (end_never_missed endedWell 2 0 endedWhileWaiting _ rfl).1 "/op/1" rfl rfl rfl

end OperationRead

end LibreLinux.Pkcs11
