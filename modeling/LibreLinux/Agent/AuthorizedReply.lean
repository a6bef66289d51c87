import LibreLinux.Lib.Runs
import Mathlib.Logic.Function.Basic

/-!
# Replies deferred behind an authorization

`authorizeThenReply` hands the authorizer a completion and returns. The
completion answers with a refusal, or runs the granted body under the gate of
the object it acts on and answers with what the body produced. A completion that
is destroyed without having run answers from the destructor of its pending
reply; one that was invoked can always return. Any number of questions share one
gate; the object's destructor closes it.

The completion's mutex makes its lock, its check of the flag and its body one
critical section, so a close waits for a running body. Every other point at
which threads can interleave is a step: the completion being invoked, the
refusal, the entry into the gate, the body, the reply, the destruction. The
authorizer invokes a completion at most once; it may also drop it.
-/

namespace LibreLinux.Agent

/-- What an authority decided. -/
inductive AuthorizationOutcome where
  | granted
  | denied
  | undecided
deriving DecidableEq, Repr

/-- How a granted body ends: with its results, a bus error or another standard
exception. -/
inductive BodyResult (ρ : Type) where
  | results (values : ρ)
  | busError (name message : String)
  | exception (what : String)
deriving DecidableEq, Repr

/-- A reply to the caller. -/
inductive Reply (ρ : Type) where
  | results (values : ρ)
  | error (name message : String)
deriving DecidableEq, Repr

def kErrNotAuthorized : String := "org.librescrs.Agent.Error.NotAuthorized"
def kErrCommunication : String := "org.librescrs.Agent.Error.CommunicationError"

variable {ρ : Type}

/-- Reply with what the body returned or threw. -/
def replyWith : BodyResult ρ → Reply ρ
  | .results values => .results values
  | .busError name message => .error name message
  | .exception what => .error "org.freedesktop.DBus.Error.Failed" what

/-- The reply of a pending reply destroyed unanswered. -/
def stoppedReply : Reply ρ :=
  .error kErrCommunication
    "The agent stopped before the authorization service answered; nothing was changed"

/-- The reply of a completion that found the gate closed. -/
def goneReply : Reply ρ :=
  .error kErrCommunication
    "The object went away while authorization was pending; nothing was changed"

/-- The reply to a refusal. -/
def refusalReply (denied : String) : AuthorizationOutcome → Reply ρ
  | .undecided =>
      .error kErrCommunication "The authorization service did not answer; nothing was changed"
  | _ => .error kErrNotAuthorized denied

/-- How far a completion has come. -/
inductive Phase (ρ : Type) where
  | pending
  | invoked (outcome : AuthorizationOutcome)
  | shutOut
  | inBody
  | ran (result : BodyResult ρ)
  | returned
  | destroyed
deriving DecidableEq, Repr

/-- Whether the completion holds the gate's mutex. -/
def Phase.holding : Phase ρ → Bool
  | .inBody => true
  | .ran _ => true
  | _ => false

/-- One deferred reply with its completion. `outcome` and `gateOpen` record what
the completion was told and what it found at the gate; `bodyRuns` counts the
executions of the granted body. -/
structure Question (ρ : Type) where
  denied : String
  phase : Phase ρ := .pending
  answered : Bool := false
  sent : List (Reply ρ) := []
  bodyRuns : Nat := 0
  outcome : Option AuthorizationOutcome := none
  gateOpen : Option Bool := none
deriving DecidableEq, Repr

/-- The gate: its flag, and the question whose body runs under its mutex. -/
structure GrantGate where
  closed : Bool := false
  holder : Option Nat := none
deriving DecidableEq, Repr

/-- An object with its gate and the questions asked on it. -/
structure GatedObject (ρ : Type) where
  gate : GrantGate := {}
  questions : Nat → Option (Question ρ) := fun _ => none

namespace Question

/-- Send a reply and return from the completion. -/
def answer (question : Question ρ) (reply : Reply ρ) : Question ρ :=
  { question with sent := question.sent ++ [reply], phase := .returned }

/-- The completion is invoked; it claims the reply before anything else. -/
def invoke (question : Question ρ) (outcome : AuthorizationOutcome) : Option (Question ρ) :=
  match question.phase with
  | .pending => some { question with
      answered := true, outcome := some outcome, phase := .invoked outcome }
  | _ => none

/-- A completion that was not granted answers with the refusal. -/
def refuse (question : Question ρ) : Option (Question ρ) :=
  match question.phase with
  | .invoked .granted => none
  | .invoked outcome => some (question.answer (refusalReply question.denied outcome))
  | _ => none

/-- A granted completion enters the gate and sees its flag. -/
def enter (question : Question ρ) (closed : Bool) : Option (Question ρ) :=
  match question.phase with
  | .invoked .granted => some { question with
      gateOpen := some !closed, phase := if closed then .shutOut else .inBody }
  | _ => none

/-- The granted body runs. -/
def runBody (question : Question ρ) (result : BodyResult ρ) : Option (Question ρ) :=
  match question.phase with
  | .inBody => some { question with bodyRuns := question.bodyRuns + 1, phase := .ran result }
  | _ => none

/-- The completion replies with what the body produced, or that nothing ran. -/
def reply (question : Question ρ) : Option (Question ρ) :=
  match question.phase with
  | .ran result => some (question.answer (replyWith result))
  | .shutOut => some (question.answer goneReply)
  | _ => none

/-- The last copy of the completion is destroyed, and its pending reply with it.
A running completion is kept alive by its own call. -/
def destroy (question : Question ρ) : Option (Question ρ) :=
  match question.phase with
  | .pending | .returned =>
    some { question with
      sent := if question.answered then question.sent else question.sent ++ [stoppedReply]
      phase := .destroyed }
  | _ => none

end Question

/-- One step of a thread that touches the object or a completion. -/
inductive ReplyEvent (ρ : Type) where
  | ask (id : Nat) (denied : String)
  | invoke (id : Nat) (outcome : AuthorizationOutcome)
  | refuse (id : Nat)
  | enter (id : Nat)
  | runBody (id : Nat) (result : BodyResult ρ)
  | reply (id : Nat)
  | destroy (id : Nat)
  | close
deriving DecidableEq, Repr

namespace GatedObject

/-- Advance one question and move the gate. -/
def advance (state : GatedObject ρ) (id : Nat) (gate : GrantGate)
    (move : Question ρ → Option (Question ρ)) : Option (GatedObject ρ) := do
  let question ← state.questions id
  let moved ← move question
  pure { gate, questions := Function.update state.questions id (some moved) }

/-- The gate after a completion replied: a body's reply ends its critical
section. -/
def released (gate : GrantGate) (id : Nat) : GrantGate :=
  if gate.holder = some id then { gate with holder := none } else gate

/-- The transition function. Entering and closing wait for the mutex. -/
def step (state : GatedObject ρ) : ReplyEvent ρ → Option (GatedObject ρ)
  | .ask id denied =>
    match state.questions id with
    | none => some { state with questions := Function.update state.questions id (some { denied }) }
    | some _ => none
  | .invoke id outcome => state.advance id state.gate (Question.invoke · outcome)
  | .refuse id => state.advance id state.gate Question.refuse
  | .enter id =>
    if state.gate.holder ≠ none then none
    else state.advance id
      (if state.gate.closed then state.gate else { state.gate with holder := some id })
      (Question.enter · state.gate.closed)
  | .runBody id result => state.advance id state.gate (Question.runBody · result)
  | .reply id => state.advance id (released state.gate id) Question.reply
  | .destroy id => state.advance id state.gate Question.destroy
  | .close =>
    if state.gate.holder ≠ none then none
    else some { state with gate := { state.gate with closed := true } }

end GatedObject

namespace Question

/-- The body is to run exactly for a granted outcome at an open gate. -/
def Permitted (question : Question ρ) : Prop :=
  question.outcome = some .granted ∧ question.gateOpen = some true

/-- The one reply of a completion that has run or was dropped. -/
def Settled (question : Question ρ) : Prop :=
  match question.outcome, question.gateOpen with
  | some .granted, some true =>
      question.bodyRuns = 1 ∧ ∃ result, question.sent = [replyWith result]
  | some .granted, _ => question.bodyRuns = 0 ∧ question.sent = [goneReply]
  | some outcome, _ =>
      question.bodyRuns = 0 ∧ question.sent = [refusalReply question.denied outcome]
  | none, _ => question.bodyRuns = 0 ∧ question.sent = [stoppedReply]

/-- What each phase knows. Until it returns, a completion has sent nothing. -/
def Ledger (question : Question ρ) : Prop :=
  match question.phase with
  | .pending => question = { denied := question.denied }
  | .invoked outcome =>
      question.answered = true ∧ question.sent = [] ∧ question.bodyRuns = 0 ∧
        question.outcome = some outcome ∧ question.gateOpen = none
  | .shutOut =>
      question.answered = true ∧ question.sent = [] ∧ question.bodyRuns = 0 ∧
        question.outcome = some .granted ∧ question.gateOpen = some false
  | .inBody =>
      question.answered = true ∧ question.sent = [] ∧ question.bodyRuns = 0 ∧ question.Permitted
  | .ran _ =>
      question.answered = true ∧ question.sent = [] ∧ question.bodyRuns = 1 ∧ question.Permitted
  | .returned => question.answered = true ∧ question.Settled
  | .destroyed => question.Settled

variable {question next : Question ρ}

/-- Being invoked claims the reply and sends nothing. -/
theorem ledger_invoke (outcome : AuthorizationOutcome) (ledger : question.Ledger)
    (moved : question.invoke outcome = some next) : next.Ledger := by
  unfold invoke at moved
  split at moved
  · rename_i pending
    cases Option.some.inj moved
    simp only [Ledger, pending] at ledger
    rw [ledger]
    simp [Ledger]
  · cases moved

/-- A refusal is the one reply. -/
theorem ledger_refuse (ledger : question.Ledger) (moved : question.refuse = some next) :
    next.Ledger := by
  unfold refuse at moved
  split at moved
  · cases moved
  · rename_i outcome refused invoked
    cases Option.some.inj moved
    simp only [Ledger, invoked] at ledger
    obtain ⟨answered, unsent, idle, told, _⟩ := ledger
    cases outcome with
    | granted => exact absurd rfl refused
    | denied => simp [Ledger, answer, Settled, answered, unsent, idle, told]
    | undecided => simp [Ledger, answer, Settled, answered, unsent, idle, told]
  · cases moved

/-- The entry records what the gate said. -/
theorem ledger_enter (closed : Bool) (ledger : question.Ledger)
    (moved : question.enter closed = some next) : next.Ledger := by
  unfold enter at moved
  split at moved
  · rename_i invoked
    cases Option.some.inj moved
    simp only [Ledger, invoked] at ledger
    cases closed <;> simp [Ledger, Permitted, ledger]
  · cases moved

/-- The body runs once. -/
theorem ledger_run_body (result : BodyResult ρ) (ledger : question.Ledger)
    (moved : question.runBody result = some next) : next.Ledger := by
  unfold runBody at moved
  split at moved
  · rename_i inBody
    cases Option.some.inj moved
    simp only [Ledger, inBody] at ledger
    obtain ⟨answered, unsent, idle, permitted⟩ := ledger
    exact ⟨answered, unsent, by simp [idle], permitted⟩
  · cases moved

/-- The reply after the body, or after a closed gate, is the one reply. -/
theorem ledger_reply (ledger : question.Ledger) (moved : question.reply = some next) :
    next.Ledger := by
  unfold reply at moved
  split at moved
  · rename_i result ran
    cases Option.some.inj moved
    simp only [Ledger, ran, Permitted] at ledger
    obtain ⟨answered, unsent, once, granted, openGate⟩ := ledger
    simp [Ledger, answer, Settled, answered, unsent, once, granted, openGate]
  · rename_i shutOut
    cases Option.some.inj moved
    simp only [Ledger, shutOut] at ledger
    obtain ⟨answered, unsent, idle, granted, shut⟩ := ledger
    simp [Ledger, answer, Settled, answered, unsent, idle, granted, shut]
  · cases moved

/-- Destruction replies for a completion that never ran, and only for it. -/
theorem ledger_destroy (ledger : question.Ledger) (moved : question.destroy = some next) :
    next.Ledger := by
  unfold destroy at moved
  split at moved
  · rename_i pending
    cases Option.some.inj moved
    simp only [Ledger, pending] at ledger
    rw [ledger]
    simp [Ledger, Settled]
  · rename_i returned
    cases Option.some.inj moved
    simp only [Ledger, returned] at ledger
    simp only [Ledger, ledger.1, if_true]
    exact ledger.2
  · cases moved

/-- In every phase at most one reply was sent, and the body ran at most once and
only where it was permitted. -/
theorem ledger_bounds (ledger : question.Ledger) :
    question.sent.length ≤ 1 ∧ question.bodyRuns ≤ 1 ∧
      (question.bodyRuns = 1 → question.Permitted) := by
  have settledBounds : question.Settled → question.sent.length ≤ 1 ∧ question.bodyRuns ≤ 1 ∧
      (question.bodyRuns = 1 → question.Permitted) := by
    intro settled
    unfold Settled at settled
    split at settled
    · rename_i granted openGate
      obtain ⟨once, result, sent⟩ := settled
      exact ⟨by simp [sent], by simp [once], fun _ => ⟨granted, openGate⟩⟩
    all_goals
      obtain ⟨idle, sent⟩ := settled
      exact ⟨by simp [sent], by simp [idle], by simp [idle]⟩
  unfold Ledger at ledger
  split at ledger
  · rw [ledger]
    simp
  · obtain ⟨_, unsent, idle, _⟩ := ledger
    simp [unsent, idle]
  · obtain ⟨_, unsent, idle, _⟩ := ledger
    simp [unsent, idle]
  · obtain ⟨_, unsent, idle, _⟩ := ledger
    simp [unsent, idle]
  · obtain ⟨_, unsent, once, permitted⟩ := ledger
    exact ⟨by simp [unsent], by simp [once], fun _ => permitted⟩
  · exact settledBounds ledger.2
  · exact settledBounds ledger

/-- A completion that has run or was dropped has settled. -/
theorem ledger_settled (ledger : question.Ledger)
    (ended : question.phase = .returned ∨ question.phase = .destroyed) : question.Settled := by
  rcases ended with returned | destroyed
  · simp only [Ledger, returned] at ledger
    exact ledger.2
  · simpa only [Ledger, destroyed] using ledger

/-- A settled question has one reply; without permission no part of the body ran
and the reply is an error. -/
theorem settled_exactly (settled : question.Settled) :
    question.sent.length = 1 ∧ (question.bodyRuns = 1 ↔ question.Permitted) ∧
      (¬ question.Permitted → question.bodyRuns = 0 ∧
        ∃ name message, question.sent = [.error name message]) := by
  unfold Settled at settled
  split at settled
  · rename_i granted openGate
    obtain ⟨once, result, sent⟩ := settled
    have permitted : question.Permitted := ⟨granted, openGate⟩
    exact ⟨by simp [sent], by simp [once, permitted], fun refused => absurd permitted refused⟩
  · rename_i granted notOpen
    obtain ⟨idle, sent⟩ := settled
    have refused : ¬ question.Permitted := fun permitted => notOpen permitted.2
    exact ⟨by simp [sent], by simp [idle, refused], fun _ => ⟨idle, _, _, sent⟩⟩
  · rename_i outcome notGranted told _
    obtain ⟨idle, sent⟩ := settled
    have refused : ¬ question.Permitted := by
      rintro ⟨granted, _⟩
      exact notGranted (Option.some.inj (told.symm.trans granted))
    refine ⟨by simp [sent], by simp [idle, refused], fun _ => ⟨idle, ?_⟩⟩
    cases outcome <;> exact ⟨_, _, sent⟩
  · rename_i dropped
    obtain ⟨idle, sent⟩ := settled
    have refused : ¬ question.Permitted := by
      rintro ⟨granted, _⟩
      simp [dropped] at granted
    exact ⟨by simp [sent], by simp [idle, refused], fun _ => ⟨idle, _, _, sent⟩⟩

/-- Being invoked takes no lock. -/
theorem holding_invoke (outcome : AuthorizationOutcome)
    (moved : question.invoke outcome = some next) :
    next.phase.holding = question.phase.holding := by
  unfold invoke at moved
  split at moved
  · rename_i pending
    cases Option.some.inj moved
    rw [pending]
    rfl
  · cases moved

/-- A refusal takes no lock. -/
theorem holding_refuse (moved : question.refuse = some next) :
    next.phase.holding = question.phase.holding := by
  unfold refuse at moved
  split at moved
  · cases moved
  · rename_i invoked
    cases Option.some.inj moved
    rw [invoked]
    rfl
  · cases moved

/-- The body runs under the lock from beginning to end. -/
theorem holding_run_body (result : BodyResult ρ) (moved : question.runBody result = some next) :
    next.phase.holding = question.phase.holding ∧ question.phase = .inBody := by
  unfold runBody at moved
  split at moved
  · rename_i inBody
    cases Option.some.inj moved
    rw [inBody]
    exact ⟨rfl, rfl⟩
  · cases moved

/-- Destruction takes no lock. -/
theorem holding_destroy (moved : question.destroy = some next) :
    next.phase.holding = question.phase.holding := by
  unfold destroy at moved
  split at moved
  · rename_i pending
    cases Option.some.inj moved
    rw [pending]
    rfl
  · rename_i returned
    cases Option.some.inj moved
    rw [returned]
    rfl
  · cases moved

/-- A completion holds the lock after its entry exactly when the gate was open. -/
theorem holding_enter (closed : Bool) (moved : question.enter closed = some next) :
    next.phase.holding = !closed := by
  unfold enter at moved
  split at moved
  · cases Option.some.inj moved
    cases closed <;> rfl
  · cases moved

/-- The reply ends the critical section. -/
theorem holding_reply (moved : question.reply = some next) : next.phase.holding = false := by
  unfold reply at moved
  split at moved
  · cases Option.some.inj moved
    rfl
  · cases Option.some.inj moved
    rfl
  · cases moved

end Question

namespace GatedObject

/-- The invariant: each question's ledger is right, the mutex is held by the one
completion between entry and reply, and a closed gate has no holder. -/
structure Coherent (state : GatedObject ρ) : Prop where
  ledgers : ∀ id question, state.questions id = some question → question.Ledger
  locked : ∀ id question, state.questions id = some question →
    (question.phase.holding = true ↔ state.gate.holder = some id)
  held : ∀ id, state.gate.holder = some id → ∃ question, state.questions id = some question
  shut : state.gate.closed = true → state.gate.holder = none

/-- No question is asked at first. -/
theorem coherent_initial : Coherent ({} : GatedObject ρ) where
  ledgers := by simp
  locked := by simp
  held := by simp
  shut := by simp

variable {state next : GatedObject ρ}

/-- An advance moves one question and replaces the gate. -/
theorem advance_inv (id : Nat) (gate : GrantGate) (move : Question ρ → Option (Question ρ))
    (advanced : state.advance id gate move = some next) :
    ∃ question moved, state.questions id = some question ∧ move question = some moved ∧
      next = { gate, questions := Function.update state.questions id (some moved) } := by
  simp only [advance, Option.bind_eq_bind, Option.bind_eq_some_iff, Option.pure_def,
    Option.some.injEq] at advanced
  obtain ⟨question, asked, moved, performed, rfl⟩ := advanced
  exact ⟨question, moved, asked, performed, rfl⟩

/-- One advance keeps the invariant when it keeps the ledger and the gate tells
whether the moved completion holds it. -/
theorem coherent_advance (coherent : state.Coherent) (id : Nat) (gate : GrantGate)
    (move : Question ρ → Option (Question ρ)) (advanced : state.advance id gate move = some next)
    (ledger : ∀ question moved, question.Ledger → move question = some moved → moved.Ledger)
    (locked : ∀ question moved, state.questions id = some question → move question = some moved →
      (moved.phase.holding = true ↔ gate.holder = some id))
    (others : ∀ other, other ≠ id → (gate.holder = some other ↔ state.gate.holder = some other))
    (shut : gate.closed = true → gate.holder = none) : next.Coherent := by
  obtain ⟨question, moved, asked, performed, rfl⟩ := advance_inv id gate move advanced
  refine ⟨?_, ?_, ?_, shut⟩
  · intro other found present
    by_cases same : other = id
    · simp only [same, Function.update_self, Option.some.injEq] at present
      exact present ▸ ledger question moved (coherent.ledgers id question asked) performed
    · simp only [Function.update_of_ne same] at present
      exact coherent.ledgers other found present
  · intro other found present
    by_cases same : other = id
    · simp only [same, Function.update_self, Option.some.injEq] at present
      exact present ▸ same ▸ locked question moved asked performed
    · simp only [Function.update_of_ne same] at present
      exact (coherent.locked other found present).trans (others other same).symm
  · intro other holding
    by_cases same : other = id
    · exact ⟨moved, by simp [same]⟩
    · simp only [Function.update_of_ne same]
      exact coherent.held other ((others other same).mp holding)

/-- A new question has used nothing yet and holds nothing. -/
theorem coherent_ask (id : Nat) (denied : String) (fresh : state.questions id = none)
    (coherent : state.Coherent) :
    Coherent { state with
      questions := Function.update state.questions id (some { denied }) } := by
  refine ⟨?_, ?_, ?_, coherent.shut⟩
  · intro other found present
    by_cases same : other = id
    · simp only [same, Function.update_self, Option.some.injEq] at present
      subst found
      rfl
    · simp only [Function.update_of_ne same] at present
      exact coherent.ledgers other found present
  · intro other found present
    by_cases same : other = id
    · simp only [same, Function.update_self, Option.some.injEq] at present
      subst found
      have unheld : state.gate.holder ≠ some id := by
        intro holding
        obtain ⟨question, asked⟩ := coherent.held id holding
        simp [fresh] at asked
      simpa [Phase.holding, same] using unheld
    · simp only [Function.update_of_ne same] at present
      exact coherent.locked other found present
  · intro other holding
    obtain ⟨question, asked⟩ := coherent.held other holding
    have same : other ≠ id := by
      rintro rfl
      simp [fresh] at asked
    exact ⟨question, by simp [Function.update_of_ne same, asked]⟩

/-- Every step keeps the invariant.

Cases follow the event. A question that advances keeps its ledger, by what its phase knows; the
gate's holder changes only with the entry into an open gate and with the reply behind a body. -/
theorem coherent_step (state : GatedObject ρ) (event : ReplyEvent ρ) (next : GatedObject ρ)
    (coherent : state.Coherent) (stepped : step state event = some next) : next.Coherent := by
  have steady : ∀ id question (moved : Question ρ), state.questions id = some question →
      moved.phase.holding = question.phase.holding →
      (moved.phase.holding = true ↔ state.gate.holder = some id) :=
    fun id question moved asked same => same ▸ coherent.locked id question asked
  cases event with
  | ask id denied =>
    simp only [step] at stepped
    split at stepped
    · rename_i fresh
      cases Option.some.inj stepped
      exact coherent_ask id denied fresh coherent
    · cases stepped
  | invoke id outcome =>
    exact coherent_advance coherent id _ _ stepped
      (fun _ _ ledger moved => Question.ledger_invoke outcome ledger moved)
      (fun question moved asked performed =>
        steady id question moved asked (Question.holding_invoke outcome performed))
      (fun _ _ => Iff.rfl) coherent.shut
  | refuse id =>
    exact coherent_advance coherent id _ _ stepped
      (fun _ _ ledger moved => Question.ledger_refuse ledger moved)
      (fun question moved asked performed =>
        steady id question moved asked (Question.holding_refuse performed))
      (fun _ _ => Iff.rfl) coherent.shut
  | enter id =>
    simp only [step] at stepped
    split at stepped
    · cases stepped
    · rename_i unlocked
      have idle : state.gate.holder = none := not_not.mp unlocked
      refine coherent_advance coherent id _ _ stepped
        (fun _ _ ledger moved => Question.ledger_enter _ ledger moved) ?_ ?_ ?_
      · intro question moved asked performed
        rw [Question.holding_enter _ performed]
        cases closed : state.gate.closed <;> simp [idle]
      · intro other different
        cases closed : state.gate.closed <;> simp [idle, different.symm]
      · cases closed : state.gate.closed <;> simp [closed, idle]
  | runBody id result =>
    exact coherent_advance coherent id _ _ stepped
      (fun _ _ ledger moved => Question.ledger_run_body result ledger moved)
      (fun question moved asked performed =>
        steady id question moved asked (Question.holding_run_body result performed).1)
      (fun _ _ => Iff.rfl) coherent.shut
  | reply id =>
    refine coherent_advance coherent id _ _ stepped
      (fun _ _ ledger moved => Question.ledger_reply ledger moved) ?_ ?_ ?_
    · intro question moved asked performed
      rw [Question.holding_reply performed]
      by_cases own : state.gate.holder = some id <;> simp [released, own]
    · intro other different
      by_cases own : state.gate.holder = some id
      · simp [released, own, different.symm]
      · simp [released, own]
    · intro closed
      by_cases own : state.gate.holder = some id
      · simp [released, own]
      · simp only [released, own, if_false] at closed ⊢
        exact coherent.shut closed
  | destroy id =>
    exact coherent_advance coherent id _ _ stepped
      (fun _ _ ledger moved => Question.ledger_destroy ledger moved)
      (fun question moved asked performed =>
        steady id question moved asked (Question.holding_destroy performed))
      (fun _ _ => Iff.rfl) coherent.shut
  | close =>
    simp only [step] at stepped
    split at stepped
    · cases stepped
    · rename_i unlocked
      cases Option.some.inj stepped
      exact ⟨coherent.ledgers, coherent.locked, coherent.held, fun _ => not_not.mp unlocked⟩

/-- A step runs a body only for the completion inside the gate. -/
theorem step_body_runs (event : ReplyEvent ρ) (stepped : step state event = some next) (id : Nat)
    (question after : Question ρ) (asked : state.questions id = some question)
    (found : next.questions id = some after) (outside : question.phase ≠ .inBody) :
    after.bodyRuns = question.bodyRuns := by
  have frame : ∀ target gate (move : Question ρ → Option (Question ρ)),
      state.advance target gate move = some next →
      (∀ moved, move question = some moved → moved.bodyRuns = question.bodyRuns) →
      after.bodyRuns = question.bodyRuns := by
    intro target gate move advanced kept
    obtain ⟨before, moved, present, performed, rfl⟩ := advance_inv target gate move advanced
    by_cases same : id = target
    · subst target
      cases Option.some.inj (present.symm.trans asked)
      simp only [Function.update_self, Option.some.injEq] at found
      exact found ▸ kept moved performed
    · simp only [Function.update_of_ne same, asked, Option.some.injEq] at found
      rw [found]
  cases event with
  | ask target denied =>
    simp only [step] at stepped
    split at stepped
    · rename_i fresh
      cases Option.some.inj stepped
      have different : id ≠ target := by
        rintro rfl
        simp [fresh] at asked
      simp only [Function.update_of_ne different, asked, Option.some.injEq] at found
      rw [found]
    · cases stepped
  | invoke target outcome =>
    apply frame _ _ _ stepped
    intro moved performed
    unfold Question.invoke at performed
    split at performed <;> cases performed
    rfl
  | refuse target =>
    apply frame _ _ _ stepped
    intro moved performed
    unfold Question.refuse at performed
    split at performed <;> cases performed
    rfl
  | enter target =>
    simp only [step] at stepped
    split at stepped
    · cases stepped
    · apply frame _ _ _ stepped
      intro moved performed
      unfold Question.enter at performed
      split at performed <;> cases performed
      rfl
  | runBody target result =>
    apply frame _ _ _ stepped
    intro moved performed
    exact absurd (Question.holding_run_body result performed).2 outside
  | reply target =>
    apply frame _ _ _ stepped
    intro moved performed
    unfold Question.reply at performed
    split at performed <;> cases performed <;> rfl
  | destroy target =>
    apply frame _ _ _ stepped
    intro moved performed
    unfold Question.destroy at performed
    split at performed <;> cases performed <;> rfl
  | close =>
    simp only [step] at stepped
    split at stepped
    · cases stepped
    · cases Option.some.inj stepped
      cases Option.some.inj (asked.symm.trans found)
      rfl

/-- Authorize, then reply. In every state any interleaving reaches, a question
has sent at most one reply and its body ran at most once, and only for a granted
outcome that found the gate open. Once its completion has run or was destroyed it
has sent exactly one reply, the body ran exactly when it was permitted, and
otherwise no part of it ran and the reply is an error: the refusal's, the closed
gate's or the dropped completion's. After the close returned, no body is running
and no step runs one.

Proof: `Coherent` is an invariant. Its ledgers say what a question in each phase has sent and run,
and a closed gate has no holder, so nobody is in a body then. -/
theorem authorize_then_reply (events : List (ReplyEvent ρ)) (state : GatedObject ρ)
    (reached : Runs.run step {} events = some state) (id : Nat) (question : Question ρ)
    (asked : state.questions id = some question) :
    (question.sent.length ≤ 1 ∧ question.bodyRuns ≤ 1 ∧
      (question.bodyRuns = 1 → question.outcome = some .granted ∧ question.gateOpen = some true)) ∧
    (question.phase = .returned ∨ question.phase = .destroyed →
      question.Settled ∧ question.sent.length = 1 ∧
      (question.bodyRuns = 1 ↔
        question.outcome = some .granted ∧ question.gateOpen = some true) ∧
      (¬ (question.outcome = some .granted ∧ question.gateOpen = some true) →
        question.bodyRuns = 0 ∧ ∃ name message, question.sent = [.error name message])) ∧
    (state.gate.closed = true → question.phase ≠ .inBody ∧
      ∀ event next after, step state event = some next → next.questions id = some after →
        after.bodyRuns = question.bodyRuns) := by
  have coherent := Runs.run_invariant step Coherent coherent_step events {} state coherent_initial
    reached
  have ledger := coherent.ledgers id question asked
  refine ⟨Question.ledger_bounds ledger, ?_, ?_⟩
  · intro ended
    have settled := Question.ledger_settled ledger ended
    exact ⟨settled, Question.settled_exactly settled⟩
  · intro closed
    have outside : question.phase ≠ .inBody := by
      intro inside
      have holding := (coherent.locked id question asked).mp (by rw [inside]; rfl)
      simp [coherent.shut closed] at holding
    refine ⟨outside, ?_⟩
    intro event next after stepped found
    exact step_body_runs event stepped id question after asked found outside

/-- Two questions on one object: the first is granted and runs its body, the
object closes its gate, and the second is granted too late. -/
def lateGrant : List (ReplyEvent Nat) :=
  [.ask 0 "Not authorized to sign", .ask 1 "Not authorized to sign", .invoke 0 .granted, .enter 0,
    .invoke 1 .granted, .runBody 0 (.results 5), .reply 0, .close, .enter 1, .reply 1, .destroy 0,
    .destroy 1]

/-- The late grant is answered once, with an error, and runs nothing. -/
theorem late_grant_refused :
    ∃ state question, Runs.run step {} lateGrant = some state ∧
      state.questions 1 = some question ∧ question.sent = [goneReply] ∧ question.bodyRuns = 0 ∧
      question.sent.length = 1 := by
  refine ⟨(Runs.run step {} lateGrant).get (by decide +kernel),
    (((Runs.run step {} lateGrant).get (by decide +kernel)).questions 1).get (by decide +kernel),
    by simp, by simp, by decide +kernel, by decide +kernel, ?_⟩
  exact ((authorize_then_reply lateGrant _ (Option.some_get _).symm 1 _
    (Option.some_get _).symm).2.1 (by decide +kernel)).2.1

/-! ## A completion that was invoked returns -/

/-- A step of a completion that was invoked, in its own call. -/
def completes : ReplyEvent ρ → Prop
  | .refuse _ | .enter _ | .runBody _ _ | .reply _ => True
  | _ => False

/-- Completions that were invoked lead on from one state to another. -/
def LeadsOn (state later : GatedObject ρ) : Prop :=
  Runs.Leads step (fun _ event => completes event) state later

/-- The state with one question further on. -/
def put (state : GatedObject ρ) (id : Nat) (gate : GrantGate) (question : Question ρ) :
    GatedObject ρ :=
  { gate, questions := Function.update state.questions id (some question) }

section Progress

variable {id : Nat} {question : Question ρ}

/-- The question is there. -/
theorem put_found (state : GatedObject ρ) (id : Nat) (gate : GrantGate) (question : Question ρ) :
    (state.put id gate question).questions id = some question :=
  Function.update_self _ _ _

/-- A second move replaces the first. -/
theorem put_again (state : GatedObject ρ) (id : Nat) (gate other : GrantGate)
    (question moved : Question ρ) :
    (state.put id gate question).put id other moved = state.put id other moved := by
  simp [put]

/-- An enabled advance of a question moves it. -/
theorem advance_moved (asked : state.questions id = some question) (gate : GrantGate)
    (move : Question ρ → Option (Question ρ)) (moved : Question ρ)
    (performed : move question = some moved) :
    state.advance id gate move = some (state.put id gate moved) := by
  simp [advance, put, asked, performed]

/-- A completion that is through with the gate or with its body replies. -/
theorem leads_replied (state : GatedObject ρ) (asked : state.questions id = some question)
    (through : question.phase = .shutOut ∨ ∃ result, question.phase = .ran result) :
    ∃ answered, state.LeadsOn (state.put id (released state.gate id) answered) ∧
      answered.phase = .returned := by
  obtain ⟨answered, replied, returned⟩ :
      ∃ answered, question.reply = some answered ∧ answered.phase = .returned := by
    rcases through with shutOut | ⟨result, ran⟩
    · exact ⟨_, by rw [Question.reply, shutOut], rfl⟩
    · exact ⟨_, by rw [Question.reply, ran], rfl⟩
  refine ⟨answered, ?_, returned⟩
  exact Runs.leads_step _ _ _ _ _ (.reply id) trivial
    (advance_moved asked _ _ answered replied) (Runs.leads_refl _ _ _)

/-- A completion inside the gate leaves it, whatever its body comes to. -/
theorem leads_left (state : GatedObject ρ) (result : BodyResult ρ)
    (asked : state.questions id = some question) (holding : question.phase.holding = true) :
    ∃ answered, state.LeadsOn (state.put id (released state.gate id) answered) ∧
      answered.phase = .returned := by
  cases phase : question.phase with
  | inBody =>
    obtain ⟨moved, ran, through⟩ :
        ∃ moved, question.runBody result = some moved ∧ moved.phase = .ran result :=
      ⟨_, by rw [Question.runBody, phase], rfl⟩
    obtain ⟨answered, leads, returned⟩ := leads_replied (state.put id state.gate moved)
      (put_found state id state.gate moved) (.inr ⟨result, through⟩)
    rw [put_again] at leads
    exact ⟨answered, Runs.leads_step _ _ _ _ _ (.runBody id result) trivial
      (advance_moved asked _ _ moved ran) leads, returned⟩
  | ran result => exact leads_replied state asked (.inr ⟨result, phase⟩)
  | pending => simp [phase, Phase.holding] at holding
  | invoked outcome => simp [phase, Phase.holding] at holding
  | shutOut => simp [phase, Phase.holding] at holding
  | returned => simp [phase, Phase.holding] at holding
  | destroyed => simp [phase, Phase.holding] at holding

/-- The mutex becomes free, and a question that waits for it is as before. -/
theorem leads_unlocked (coherent : state.Coherent) (result : BodyResult ρ)
    (asked : state.questions id = some question) (waiting : question.phase.holding = false) :
    ∃ later, state.LeadsOn later ∧ later.gate.holder = none ∧
      later.questions id = some question := by
  cases holder : state.gate.holder with
  | none => exact ⟨state, Runs.leads_refl _ _ _, holder, asked⟩
  | some other =>
    obtain ⟨inside, present⟩ := coherent.held other holder
    have holding := (coherent.locked other inside present).mpr holder
    have different : id ≠ other := by
      rintro rfl
      cases asked.symm.trans present
      rw [waiting] at holding
      cases holding
    obtain ⟨answered, leads, -⟩ := leads_left state result present holding
    exact ⟨_, leads, by simp [put, released, holder], by simp [put, different, asked]⟩

/-- A completion that was granted and not yet let in returns: it enters, and finds the gate
closed, or runs its body. -/
theorem leads_entered (state : GatedObject ρ) (result : BodyResult ρ)
    (asked : state.questions id = some question) (granted : question.phase = .invoked .granted)
    (free : state.gate.holder = none) :
    ∃ later answered, state.LeadsOn later ∧ later.questions id = some answered ∧
      answered.phase = .returned := by
  have enters : ∀ gate moved, question.enter state.gate.closed = some moved →
      gate = (if state.gate.closed then state.gate else { state.gate with holder := some id }) →
      state.step (.enter id) = some (state.put id gate moved) := by
    rintro gate moved entered rfl
    rw [step, if_neg (not_not.mpr free)]
    exact advance_moved asked _ _ moved entered
  cases closed : state.gate.closed with
  | true =>
    obtain ⟨moved, entered, through⟩ :
        ∃ moved, question.enter state.gate.closed = some moved ∧ moved.phase = .shutOut :=
      ⟨_, by rw [Question.enter, granted], by simp [closed]⟩
    obtain ⟨answered, leads, returned⟩ := leads_replied (state.put id state.gate moved)
      (put_found state id state.gate moved) (.inl through)
    exact ⟨_, answered, Runs.leads_step _ _ _ _ _ (.enter id) trivial
      (enters state.gate moved entered (by simp [closed])) leads, put_found _ _ _ _, returned⟩
  | false =>
    obtain ⟨moved, entered, inside⟩ :
        ∃ moved, question.enter state.gate.closed = some moved ∧ moved.phase = .inBody :=
      ⟨_, by rw [Question.enter, granted], by simp [closed]⟩
    obtain ⟨answered, leads, returned⟩ :=
      leads_left (state.put id { state.gate with holder := some id } moved) result
        (put_found state id _ moved) (by rw [inside]; rfl)
    exact ⟨_, answered, Runs.leads_step _ _ _ _ _ (.enter id) trivial
      (enters _ moved entered (by simp [closed])) leads, put_found _ _ _ _, returned⟩

/-- From every phase that an invoked completion can be in, its own steps, and those of the
completion inside the gate, lead to a state in which it has returned.

Cases follow the phase. Only the entry waits, for the mutex, whose holder leaves. -/
theorem leads_returned (coherent : state.Coherent) (result : BodyResult ρ)
    (asked : state.questions id = some question) (invoked : question.phase ≠ .pending)
    (alive : question.phase ≠ .destroyed) :
    ∃ later answered, state.LeadsOn later ∧ later.questions id = some answered ∧
      answered.phase = .returned := by
  cases phase : question.phase with
  | pending => exact absurd phase invoked
  | destroyed => exact absurd phase alive
  | returned => exact ⟨state, question, Runs.leads_refl _ _ _, asked, phase⟩
  | shutOut =>
    obtain ⟨answered, leads, returned⟩ := leads_replied state asked (.inl phase)
    exact ⟨_, answered, leads, put_found _ _ _ _, returned⟩
  | inBody =>
    obtain ⟨answered, leads, returned⟩ := leads_left state result asked (by rw [phase]; rfl)
    exact ⟨_, answered, leads, put_found _ _ _ _, returned⟩
  | ran outcome =>
    obtain ⟨answered, leads, returned⟩ := leads_replied state asked (.inr ⟨outcome, phase⟩)
    exact ⟨_, answered, leads, put_found _ _ _ _, returned⟩
  | invoked outcome =>
    have refused : outcome ≠ .granted → ∃ later answered, state.LeadsOn later ∧
        later.questions id = some answered ∧ answered.phase = .returned := by
      intro other
      have answers : question.refuse =
          some (question.answer (refusalReply question.denied outcome)) := by
        cases outcome with
        | granted => exact absurd rfl other
        | denied => rw [Question.refuse, phase]
        | undecided => rw [Question.refuse, phase]
      exact ⟨_, _, Runs.leads_step _ _ _ _ _ (.refuse id) trivial
        (advance_moved asked _ _ _ answers) (Runs.leads_refl _ _ _), put_found _ _ _ _, rfl⟩
    cases outcome with
    | denied => exact refused nofun
    | undecided => exact refused nofun
    | granted =>
      obtain ⟨unlocked, frees, free, kept⟩ :=
        leads_unlocked coherent result asked (by rw [phase]; rfl)
      obtain ⟨later, answered, leads, found, returned⟩ :=
        leads_entered unlocked result kept phase free
      exact ⟨later, answered, Runs.leads_trans _ _ _ _ _ frees leads, found, returned⟩

/-- In every state any interleaving reaches, a completion that was invoked and not destroyed can
return, whatever its body comes to, and has then sent its one reply. -/
theorem invoked_returns (events : List (ReplyEvent ρ))
    (reached : Runs.run step {} events = some state) (result : BodyResult ρ)
    (asked : state.questions id = some question) (invoked : question.phase ≠ .pending)
    (alive : question.phase ≠ .destroyed) :
    ∃ later answered, state.LeadsOn later ∧ later.questions id = some answered ∧
      answered.phase = .returned ∧ answered.Settled ∧ answered.sent.length = 1 := by
  have coherent := Runs.run_invariant step Coherent coherent_step events {} state coherent_initial
    reached
  obtain ⟨later, answered, leads, found, returned⟩ :=
    leads_returned coherent result asked invoked alive
  obtain ⟨further, own, completed⟩ := leads
  have kept := Runs.run_invariant step Coherent coherent_step further state later coherent completed
  have settled := Question.ledger_settled (kept.ledgers _ answered found) (.inl returned)
  exact ⟨later, answered, ⟨further, own, completed⟩, found, returned, settled,
    (Question.settled_exactly settled).1⟩

end Progress

end GatedObject

end LibreLinux.Agent
