import LibreLinux.Agent.AuthorizedReply
import LibreLinux.Lib.Serial

/-!
# Requests served from a store once they are granted

The granted bodies of an object read and change a store that outlives it. A body runs from
its first statement to its last under the gate's mutex, so two bodies never overlap, and its
reply is sent before the mutex is released. The rest of the program may replace the store
between two bodies, whenever it likes.

A run of the object is therefore as good as a serial one: its history lists the bodies that
ran and the changes made elsewhere. The store is the one that this history leaves, each body
that ran is in it once, and the reply of a question that settled is what its body produced
at its place in the history. A question that is not in the history was answered with an
error and left the store alone.
-/

namespace LibreLinux.Agent

open Runs Serial

/-- What an object does for its requests: the text of a refusal, and the granted body with
what it leaves in the store. -/
structure GrantedBodies (κ ρ σ : Type) where
  denied : κ → String
  granted : κ → σ → BodyResult ρ × σ

/-- The object with its questions, what each of them asked for, and the store. -/
structure GatedService (κ ρ σ : Type) where
  object : GatedObject ρ := {}
  asked : Nat → Option κ := fun _ => none
  store : σ

/-- A step of a handler, of a completion, of the object's destructor or of another part of
the program. -/
inductive ServiceEvent (κ σ : Type) where
  | ask (id : Nat) (request : κ)
  | invoke (id : Nat) (outcome : AuthorizationOutcome)
  | refuse (id : Nat)
  | enter (id : Nat)
  | runBody (id : Nat)
  | reply (id : Nat)
  | destroy (id : Nat)
  | close
  | elsewhere (store : σ)

variable {κ ρ σ : Type}

namespace GatedService

/-- A step of the object that leaves the requests and the store alone. -/
def forward (state : GatedService κ ρ σ) (event : ReplyEvent ρ) : Option (GatedService κ ρ σ) :=
  (state.object.step event).map (fun object => { state with object })

/-- One step. The body of a question is run with the request it captured. -/
def step (bodies : GrantedBodies κ ρ σ) (state : GatedService κ ρ σ) :
    ServiceEvent κ σ → Option (GatedService κ ρ σ)
  | .ask id request =>
    (state.object.step (.ask id (bodies.denied request))).map (fun object => { state with
      object
      asked := Function.update state.asked id (some request) })
  | .invoke id outcome => state.forward (.invoke id outcome)
  | .refuse id => state.forward (.refuse id)
  | .enter id => state.forward (.enter id)
  | .runBody id =>
    (state.asked id).bind (fun request =>
      (state.object.step (.runBody id (bodies.granted request state.store).1)).map
        (fun object => { state with object, store := (bodies.granted request state.store).2 }))
  | .reply id => state.forward (.reply id)
  | .destroy id => state.forward (.destroy id)
  | .close => state.forward .close
  | .elsewhere store => some { state with store }

/-- A step of the object that neither asks a question nor runs a body. -/
def Quiet : ReplyEvent ρ → Prop
  | .ask _ _ => False
  | .runBody _ _ => False
  | _ => True

/-- What one step can do. -/
theorem step_cases (bodies : GrantedBodies κ ρ σ) (state next : GatedService κ ρ σ)
    (event : ServiceEvent κ σ) (stepped : step bodies state event = some next) :
    (∃ id request object, event = .ask id request ∧
      state.object.step (.ask id (bodies.denied request)) = some object ∧
      next = { state with object, asked := Function.update state.asked id (some request) }) ∨
    (∃ id request object, event = .runBody id ∧ state.asked id = some request ∧
      state.object.step (.runBody id (bodies.granted request state.store).1) = some object ∧
      next = { state with object, store := (bodies.granted request state.store).2 }) ∨
    (∃ store, event = .elsewhere store ∧ next = { state with store }) ∨
    (∃ quiet object, Quiet quiet ∧ (∀ id, event ≠ .runBody id) ∧
      (∀ store, event ≠ .elsewhere store) ∧
      state.object.step quiet = some object ∧ next = { state with object }) := by
  have forwarded : ∀ quiet : ReplyEvent ρ, state.forward quiet = some next → Quiet quiet →
      (∀ id, event ≠ .runBody id) → (∀ store, event ≠ .elsewhere store) →
      ∃ quiet object, Quiet quiet ∧ (∀ id, event ≠ .runBody id) ∧
        (∀ store, event ≠ .elsewhere store) ∧
        state.object.step quiet = some object ∧ next = { state with object } := by
    intro quiet performed isQuiet noBody noChange
    obtain ⟨object, moved, result⟩ := Option.map_eq_some_iff.mp performed
    exact ⟨quiet, object, isQuiet, noBody, noChange, moved, result.symm⟩
  cases event with
  | ask id request =>
    obtain ⟨object, moved, result⟩ := Option.map_eq_some_iff.mp stepped
    exact .inl ⟨id, request, object, rfl, moved, result.symm⟩
  | runBody id =>
    obtain ⟨request, asked, performed⟩ := Option.bind_eq_some_iff.mp stepped
    obtain ⟨object, moved, result⟩ := Option.map_eq_some_iff.mp performed
    exact .inr (.inl ⟨id, request, object, rfl, asked, moved, result.symm⟩)
  | elsewhere store => exact .inr (.inr (.inl ⟨store, rfl, (Option.some.inj stepped).symm⟩))
  | invoke id outcome =>
    exact .inr (.inr (.inr (forwarded _ stepped trivial (by simp) (by simp))))
  | refuse id => exact .inr (.inr (.inr (forwarded _ stepped trivial (by simp) (by simp))))
  | enter id => exact .inr (.inr (.inr (forwarded _ stepped trivial (by simp) (by simp))))
  | reply id => exact .inr (.inr (.inr (forwarded _ stepped trivial (by simp) (by simp))))
  | destroy id => exact .inr (.inr (.inr (forwarded _ stepped trivial (by simp) (by simp))))
  | close => exact .inr (.inr (.inr (forwarded _ stepped trivial (by simp) (by simp))))

/-- A question is asked under a new id; its completion waits, with the request captured. -/
theorem ask_inv (bodies : GrantedBodies κ ρ σ) (state next : GatedService κ ρ σ) (id : Nat)
    (request : κ) (stepped : step bodies state (.ask id request) = some next) :
    state.object.questions id = none ∧
      next.object.questions id = some { denied := bodies.denied request } ∧
      next.asked id = some request := by
  obtain ⟨object, moved, rfl⟩ := Option.map_eq_some_iff.mp stepped
  simp only [GatedObject.step] at moved
  split at moved
  · rename_i absent
    cases Option.some.inj moved
    exact ⟨absent, by simp, by simp⟩
  · cases moved

end GatedService

/-! ## What a quiet step leaves -/

namespace Question

/-- The body ran, and its result is still to be sent or was the reply. -/
def Produced (question : Question ρ) (result : BodyResult ρ) : Prop :=
  question.bodyRuns = 1 ∧ (question.phase = .ran result ∨ question.sent = [replyWith result])

/-- A question after a step that did not run its body. -/
structure Continues (question next : Question ρ) : Prop where
  denied : next.denied = question.denied
  bodyRuns : next.bodyRuns = question.bodyRuns
  produced : ∀ result, question.Produced result → next.Produced result

variable {question next : Question ρ}

/-- A question that was not touched. -/
theorem Continues.refl (question : Question ρ) : question.Continues question :=
  ⟨rfl, rfl, fun _ produced => produced⟩

/-- A question whose body has not run yet has nothing to keep. -/
theorem continues_before (denied : next.denied = question.denied)
    (bodyRuns : next.bodyRuns = question.bodyRuns) (idle : question.bodyRuns = 0) :
    question.Continues next := by
  refine ⟨denied, bodyRuns, ?_⟩
  rintro result ⟨once, _⟩
  simp [idle] at once

theorem continues_invoke (outcome : AuthorizationOutcome) (ledger : question.Ledger)
    (moved : question.invoke outcome = some next) : question.Continues next := by
  unfold invoke at moved
  split at moved
  · rename_i pending
    cases Option.some.inj moved
    simp only [Ledger, pending] at ledger
    exact continues_before rfl rfl (by rw [ledger])
  · cases moved

theorem continues_refuse (ledger : question.Ledger) (moved : question.refuse = some next) :
    question.Continues next := by
  unfold refuse at moved
  split at moved
  · cases moved
  · rename_i invoked
    cases Option.some.inj moved
    simp only [Ledger, invoked] at ledger
    exact continues_before rfl rfl ledger.2.2.1
  · cases moved

theorem continues_enter (closed : Bool) (ledger : question.Ledger)
    (moved : question.enter closed = some next) : question.Continues next := by
  unfold enter at moved
  split at moved
  · rename_i invoked
    cases Option.some.inj moved
    simp only [Ledger, invoked] at ledger
    exact continues_before rfl rfl ledger.2.2.1
  · cases moved

/-- The reply sends what the body produced. -/
theorem continues_reply (ledger : question.Ledger) (moved : question.reply = some next) :
    question.Continues next := by
  unfold reply at moved
  split at moved
  · rename_i result ran
    cases Option.some.inj moved
    simp only [Ledger, ran] at ledger
    obtain ⟨_, unsent, once, _⟩ := ledger
    refine ⟨rfl, rfl, ?_⟩
    rintro other ⟨_, waiting | sent⟩
    · cases Phase.ran.inj (ran.symm.trans waiting)
      exact ⟨once, .inr (by simp [answer, unsent])⟩
    · simp [unsent] at sent
  · rename_i shutOut
    cases Option.some.inj moved
    simp only [Ledger, shutOut] at ledger
    exact continues_before rfl rfl ledger.2.2.1
  · cases moved

/-- The destructor of an answered reply sends nothing. -/
theorem continues_destroy (ledger : question.Ledger) (moved : question.destroy = some next) :
    question.Continues next := by
  unfold destroy at moved
  split at moved
  · rename_i pending
    cases Option.some.inj moved
    simp only [Ledger, pending] at ledger
    exact continues_before rfl rfl (by rw [ledger])
  · rename_i returned
    cases Option.some.inj moved
    simp only [Ledger, returned] at ledger
    refine ⟨rfl, rfl, ?_⟩
    rintro result ⟨once, waiting | sent⟩
    · cases returned.symm.trans waiting
    · exact ⟨once, .inr (by simp [ledger.1, sent])⟩
  · cases moved

/-- Whoever has sent a reply has returned. -/
theorem sent_ended (ledger : question.Ledger) (sent : question.sent ≠ []) :
    question.phase = .returned ∨ question.phase = .destroyed := by
  cases phase : question.phase with
  | pending =>
    simp only [Ledger, phase] at ledger
    rw [ledger] at sent
    exact absurd rfl sent
  | invoked outcome => simp only [Ledger, phase] at ledger; exact absurd ledger.2.1 sent
  | shutOut => simp only [Ledger, phase] at ledger; exact absurd ledger.2.1 sent
  | inBody => simp only [Ledger, phase] at ledger; exact absurd ledger.2.1 sent
  | ran result => simp only [Ledger, phase] at ledger; exact absurd ledger.2.1 sent
  | returned => exact .inl rfl
  | destroyed => exact .inr rfl

end Question

namespace GatedObject

/-- Every question goes on, and none appears. -/
def Continues (state next : GatedObject ρ) : Prop :=
  ∀ id, (∀ question, state.questions id = some question →
      ∃ moved, next.questions id = some moved ∧ question.Continues moved) ∧
    (state.questions id = none → next.questions id = none)

variable {state next : GatedObject ρ}

/-- An advance that continues its question continues the object. -/
theorem continues_advance (coherent : state.Coherent) (id : Nat) (gate : GrantGate)
    (move : Question ρ → Option (Question ρ)) (advanced : state.advance id gate move = some next)
    (kept : ∀ question moved, question.Ledger → move question = some moved →
      question.Continues moved) : state.Continues next := by
  obtain ⟨question, moved, asked, performed, rfl⟩ := advance_inv id gate move advanced
  intro other
  by_cases same : other = id
  · subst other
    refine ⟨?_, fun absent => by simp [asked] at absent⟩
    intro found present
    cases Option.some.inj (asked.symm.trans present)
    exact ⟨moved, by simp, kept question moved (coherent.ledgers id question asked) performed⟩
  · simp only [Function.update_of_ne same]
    exact ⟨fun found present => ⟨found, present, .refl found⟩, fun absent => absent⟩

/-- A quiet step continues every question. -/
theorem continues_quiet (event : ReplyEvent ρ) (quiet : GatedService.Quiet event)
    (coherent : state.Coherent) (stepped : step state event = some next) :
    state.Continues next := by
  cases event with
  | ask id denied => exact quiet.elim
  | runBody id result => exact quiet.elim
  | invoke id outcome =>
    exact continues_advance coherent id _ _ stepped
      (fun _ _ ledger moved => Question.continues_invoke outcome ledger moved)
  | refuse id =>
    exact continues_advance coherent id _ _ stepped
      (fun _ _ ledger moved => Question.continues_refuse ledger moved)
  | enter id =>
    simp only [step] at stepped
    split at stepped
    · cases stepped
    · exact continues_advance coherent id _ _ stepped
        (fun _ _ ledger moved => Question.continues_enter _ ledger moved)
  | reply id =>
    exact continues_advance coherent id _ _ stepped
      (fun _ _ ledger moved => Question.continues_reply ledger moved)
  | destroy id =>
    exact continues_advance coherent id _ _ stepped
      (fun _ _ ledger moved => Question.continues_destroy ledger moved)
  | close =>
    simp only [step] at stepped
    split at stepped
    · cases stepped
    · cases Option.some.inj stepped
      intro id
      exact ⟨fun found present => ⟨found, present, .refl found⟩, fun absent => absent⟩

/-- A body is run by the one question inside the gate. -/
theorem run_body_inv (id : Nat) (result : BodyResult ρ) (coherent : state.Coherent)
    (stepped : step state (.runBody id result) = some next) :
    ∃ question moved, state.questions id = some question ∧ question.bodyRuns = 0 ∧
      question.sent = [] ∧ next.questions = Function.update state.questions id (some moved) ∧
      moved.denied = question.denied ∧ moved.Produced result := by
  obtain ⟨question, moved, asked, performed, rfl⟩ := advance_inv id _ _ stepped
  have ledger := coherent.ledgers id question asked
  unfold Question.runBody at performed
  split at performed
  · rename_i inBody
    cases Option.some.inj performed
    simp only [Question.Ledger, inBody] at ledger
    obtain ⟨_, unsent, idle, _⟩ := ledger
    exact ⟨question, _, asked, idle, unsent, rfl, rfl, by simp [idle], .inl rfl⟩
  · cases performed

/-- What a step leaves of the questions it is not about: an authorizer's completion stays as
it is until it is invoked or destroyed, and a grant comes from an invocation only. -/
structure Framed (event : ReplyEvent ρ) (state next : GatedObject ρ) : Prop where
  pending : ∀ id question, state.questions id = some question → question.phase = .pending →
    (∀ outcome, event ≠ .invoke id outcome) → event ≠ .destroy id →
    next.questions id = some question
  granted : ∀ id moved, next.questions id = some moved → moved.outcome = some .granted →
    event ≠ .invoke id .granted →
    ∃ question, state.questions id = some question ∧ question.outcome = some .granted

/-- A question is there after a step when it was there before, or was asked in the step. -/
theorem step_present (event : ReplyEvent ρ) (stepped : step state event = some next) (id : Nat) :
    (next.questions id).isSome ↔
      (state.questions id).isSome ∨ ∃ denied, event = .ask id denied := by
  have moves : ∀ other gate (move : Question ρ → Option (Question ρ)),
      state.advance other gate move = some next → (∀ denied, event ≠ .ask id denied) →
      ((next.questions id).isSome ↔
        (state.questions id).isSome ∨ ∃ denied, event = .ask id denied) := by
    intro other gate move advanced silent
    obtain ⟨question, moved, asked, -, rfl⟩ := advance_inv other gate move advanced
    by_cases same : id = other
    · subst same
      simp [asked]
    · simp [Function.update_of_ne same, silent]
  cases event with
  | ask other denied =>
    simp only [step] at stepped
    split at stepped
    · cases Option.some.inj stepped
      by_cases same : id = other
      · subst same
        simp
      · simp [Function.update_of_ne same, Ne.symm same]
    · cases stepped
  | enter other =>
    simp only [step] at stepped
    split at stepped
    · cases stepped
    · exact moves other _ _ stepped (by simp)
  | close =>
    simp only [step] at stepped
    split at stepped
    · cases stepped
    · cases Option.some.inj stepped
      simp
  | invoke other outcome => exact moves other _ _ stepped (by simp)
  | refuse other => exact moves other _ _ stepped (by simp)
  | runBody other result => exact moves other _ _ stepped (by simp)
  | reply other => exact moves other _ _ stepped (by simp)
  | destroy other => exact moves other _ _ stepped (by simp)

/-- An advance is framed when its move is. -/
theorem framed_advance (event : ReplyEvent ρ) (id : Nat) (gate : GrantGate)
    (move : Question ρ → Option (Question ρ)) (advanced : state.advance id gate move = some next)
    (pending : ∀ question moved, move question = some moved → question.phase = .pending →
      (∃ outcome, event = .invoke id outcome) ∨ event = .destroy id)
    (granted : ∀ question moved, move question = some moved → moved.outcome = some .granted →
      question.outcome = some .granted ∨ event = .invoke id .granted) :
    Framed event state next := by
  obtain ⟨question, moved, asked, performed, rfl⟩ := advance_inv id gate move advanced
  refine ⟨?_, ?_⟩
  · intro other found present waiting notInvoked notDestroyed
    have different : other ≠ id := by
      rintro rfl
      cases Option.some.inj (asked.symm.trans present)
      rcases pending question moved performed waiting with ⟨outcome, invoked⟩ | destroyed
      · exact notInvoked outcome invoked
      · exact notDestroyed destroyed
    simpa only [Function.update_of_ne different] using present
  · intro other found present told notInvoked
    by_cases same : other = id
    · subst other
      simp only [Function.update_self, Option.some.injEq] at present
      rcases granted question moved performed (present ▸ told) with earlier | invoked
      · exact ⟨question, asked, earlier⟩
      · exact absurd invoked notInvoked
    · simp only [Function.update_of_ne same] at present
      exact ⟨found, present, told⟩

/-- Every step is framed. -/
theorem step_framed (event : ReplyEvent ρ) (stepped : step state event = some next) :
    Framed event state next := by
  cases event with
  | ask id denied =>
    simp only [step] at stepped
    split at stepped
    · rename_i absent
      cases Option.some.inj stepped
      refine ⟨?_, ?_⟩
      · intro other found present _ _ _
        have different : other ≠ id := by
          rintro rfl
          simp [absent] at present
        simpa only [Function.update_of_ne different] using present
      · intro other found present told _
        by_cases same : other = id
        · subst other
          simp only [Function.update_self, Option.some.injEq] at present
          simp [← present] at told
        · simp only [Function.update_of_ne same] at present
          exact ⟨found, present, told⟩
    · cases stepped
  | invoke id outcome =>
    refine framed_advance _ id _ _ stepped (fun _ _ _ _ => .inl ⟨outcome, rfl⟩) ?_
    intro question moved performed told
    unfold Question.invoke at performed
    split at performed <;> cases performed
    right
    rw [Option.some.inj told]
  | refuse id =>
    refine framed_advance _ id _ _ stepped ?_ ?_ <;> intro question moved performed
    · intro waiting
      simp [Question.refuse, waiting] at performed
    · intro told
      unfold Question.refuse at performed
      split at performed <;> cases performed
      exact .inl told
  | enter id =>
    simp only [step] at stepped
    split at stepped
    · cases stepped
    refine framed_advance _ id _ _ stepped ?_ ?_ <;> intro question moved performed
    · intro waiting
      simp [Question.enter, waiting] at performed
    · intro told
      unfold Question.enter at performed
      split at performed <;> cases performed
      exact .inl told
  | runBody id result =>
    refine framed_advance _ id _ _ stepped ?_ ?_ <;> intro question moved performed
    · intro waiting
      simp [Question.runBody, waiting] at performed
    · intro told
      unfold Question.runBody at performed
      split at performed <;> cases performed
      exact .inl told
  | reply id =>
    refine framed_advance _ id _ _ stepped ?_ ?_ <;> intro question moved performed
    · intro waiting
      simp [Question.reply, waiting] at performed
    · intro told
      unfold Question.reply at performed
      split at performed <;> cases performed <;> exact .inl told
  | destroy id =>
    refine framed_advance _ id _ _ stepped (fun _ _ _ _ => .inr rfl) ?_
    intro question moved performed told
    unfold Question.destroy at performed
    split at performed <;> cases performed <;> exact .inl told
  | close =>
    simp only [step] at stepped
    split at stepped
    · cases stepped
    · cases Option.some.inj stepped
      exact ⟨fun _ _ present _ _ _ => present, fun _ moved present told _ => ⟨moved, present, told⟩⟩

end GatedObject

/-! ## The serial history -/

/-- An entry of the history: a body that ran, or a change made elsewhere. -/
inductive Command (κ σ : Type) where
  | granted (id : Nat) (request : κ)
  | elsewhere (store : σ)
deriving DecidableEq, Repr

namespace GatedService

/-- What a step contributes to the history. -/
def command (state : GatedService κ ρ σ) : ServiceEvent κ σ → Option (Command κ σ)
  | .runBody id => (state.asked id).map (.granted id)
  | .elsewhere store => some (.elsewhere store)
  | _ => none

/-- The serial server: it runs a body at once and knows no questions. -/
def serve (bodies : GrantedBodies κ ρ σ) (store : σ) :
    Command κ σ → Option (Nat × BodyResult ρ) × σ
  | .granted id request =>
      (some (id, (bodies.granted request store).1), (bodies.granted request store).2)
  | .elsewhere changed => (none, changed)

/-- What the bodies of a history produce when they are run one after the other. -/
def results (bodies : GrantedBodies κ ρ σ) (start : σ) (commands : List (Command κ σ)) :
    List (Nat × BodyResult ρ) :=
  (answers (serve bodies) start commands).filterMap id

/-- The questions whose bodies ran. -/
def served (commands : List (Command κ σ)) : List Nat :=
  commands.filterMap (fun entry =>
    match entry with
    | .granted id _ => some id
    | .elsewhere _ => none)

/-- A body in the history is one that ran. -/
theorem mem_served (commands : List (Command κ σ)) (id : Nat) (request : κ)
    (member : .granted id request ∈ commands) : id ∈ served commands :=
  List.mem_filterMap.mpr ⟨_, member, rfl⟩

/-- One more body runs from the store that the history leaves. -/
theorem results_granted (bodies : GrantedBodies κ ρ σ) (start : σ) (commands : List (Command κ σ))
    (id : Nat) (request : κ) :
    results bodies start (commands ++ [.granted id request]) = results bodies start commands ++
      [(id, (bodies.granted request (after (serve bodies) start commands)).1)] := by
  simp [results, answers_concat, serve]

/-- A change made elsewhere produces nothing. -/
theorem results_elsewhere (bodies : GrantedBodies κ ρ σ) (start store : σ)
    (commands : List (Command κ σ)) :
    results bodies start (commands ++ [.elsewhere store]) = results bodies start commands := by
  simp [results, answers_concat, serve]

/-- What a history says about one question. -/
structure Accounts (bodies : GrantedBodies κ ρ σ) (start : σ) (commands : List (Command κ σ))
    (id : Nat) (question : Question ρ) : Prop where
  ran : id ∈ served commands → ∃ result, (id, result) ∈ results bodies start commands ∧
    question.Produced result
  idle : id ∉ served commands → question.bodyRuns = 0

/-- What the past of a run says about its state. -/
structure Serialized (bodies : GrantedBodies κ ρ σ) (start : σ)
    (past : List (GatedService κ ρ σ × ServiceEvent κ σ)) (state : GatedService κ ρ σ) : Prop where
  coherent : state.object.Coherent
  store : state.store = after (serve bodies) start (history command past)
  distinct : (served (history command past)).Nodup
  requests : ∀ id request, .granted id request ∈ history command past →
    state.asked id = some request
  fresh : ∀ id, state.object.questions id = none → id ∉ served (history command past)
  asked : ∀ id question, state.object.questions id = some question →
    ∃ request, state.asked id = some request ∧ question.denied = bodies.denied request
  accounts : ∀ id question, state.object.questions id = some question →
    Accounts bodies start (history command past) id question

section Steps

variable {bodies : GrantedBodies κ ρ σ} {start : σ}
variable {past : List (GatedService κ ρ σ × ServiceEvent κ σ)} {state : GatedService κ ρ σ}

/-- A new question is in no history. -/
theorem serialized_ask (id : Nat) (request : κ) (object : GatedObject ρ)
    (serialized : Serialized bodies start past state)
    (stepped : state.object.step (.ask id (bodies.denied request)) = some object) :
    Serialized bodies start (past ++ [(state, .ask id request)])
      { state with object, asked := Function.update state.asked id (some request) } := by
  have coherent := GatedObject.coherent_step _ _ _ serialized.coherent stepped
  simp only [GatedObject.step] at stepped
  split at stepped
  · rename_i absent
    cases Option.some.inj stepped
    have unserved := serialized.fresh id absent
    have same := history_concat_none command past state (.ask id request) rfl
    refine ⟨coherent, ?_, ?_, ?_, ?_, ?_, ?_⟩
    · rw [same]
      exact serialized.store
    · rw [same]
      exact serialized.distinct
    · rw [same]
      intro other asked member
      have different : other ≠ id := by
        rintro rfl
        exact unserved (mem_served _ other asked member)
      simp only [Function.update_of_ne different]
      exact serialized.requests other asked member
    · rw [same]
      intro other missing
      by_cases equal : other = id
      · exact equal ▸ unserved
      · simp only [Function.update_of_ne equal] at missing
        exact serialized.fresh other missing
    · intro other question present
      by_cases equal : other = id
      · subst other
        simp only [Function.update_self, Option.some.injEq] at present
        exact ⟨request, by simp, by rw [← present]⟩
      · simp only [Function.update_of_ne equal] at present ⊢
        exact serialized.asked other question present
    · rw [same]
      intro other question present
      by_cases equal : other = id
      · subst other
        simp only [Function.update_self, Option.some.injEq] at present
        exact ⟨fun member => absurd member unserved, fun _ => by rw [← present]⟩
      · simp only [Function.update_of_ne equal] at present
        exact serialized.accounts other question present
  · cases stepped

/-- The body that runs is the next one of the history, and it was in none before. -/
theorem serialized_run_body (id : Nat) (request : κ) (object : GatedObject ρ)
    (serialized : Serialized bodies start past state) (asked : state.asked id = some request)
    (stepped : state.object.step (.runBody id (bodies.granted request state.store).1) =
      some object) :
    Serialized bodies start (past ++ [(state, .runBody id)])
      { state with object, store := (bodies.granted request state.store).2 } := by
  have coherent := GatedObject.coherent_step _ _ _ serialized.coherent stepped
  obtain ⟨question, moved, present, idle, unsent, questions, denied, produced⟩ :=
    GatedObject.run_body_inv id _ serialized.coherent stepped
  have unserved : id ∉ served (history command past) := by
    intro member
    obtain ⟨_, _, once, _⟩ := (serialized.accounts id question present).ran member
    simp [idle] at once
  have longer := history_concat_some command past state (.runBody id) (.granted id request)
    (by simp [command, asked])
  have servedLonger : served (history command past ++ [.granted id request]) =
      served (history command past) ++ [id] := by
    simp [served]
  refine ⟨coherent, ?_, ?_, ?_, ?_, ?_, ?_⟩
  · rw [longer, after_concat, ← serialized.store]
    rfl
  · rw [longer, servedLonger]
    exact List.nodup_append.mpr ⟨serialized.distinct, by simp, by
      rintro left member right single rfl
      rw [List.mem_singleton] at single
      exact unserved (single ▸ member)⟩
  · rw [longer]
    intro other wanted member
    rcases List.mem_append.mp member with earlier | last
    · exact serialized.requests other wanted earlier
    · cases List.mem_singleton.mp last
      exact asked
  · rw [longer, servedLonger, questions]
    intro other missing
    have different : other ≠ id := by
      rintro rfl
      simp at missing
    rw [Function.update_of_ne different] at missing
    simpa [different] using serialized.fresh other missing
  · rw [questions]
    intro other found holds
    by_cases equal : other = id
    · subst other
      simp only [Function.update_self, Option.some.injEq] at holds
      obtain ⟨same, recorded, text⟩ := serialized.asked id question present
      exact ⟨same, recorded, by rw [← holds, denied, text]⟩
    · rw [Function.update_of_ne equal] at holds
      exact serialized.asked other found holds
  · rw [longer, questions]
    intro other found holds
    by_cases equal : other = id
    · subst other
      simp only [Function.update_self, Option.some.injEq] at holds
      subst found
      refine ⟨fun _ => ⟨_, ?_, produced⟩, fun absent => ?_⟩
      · rw [results_granted, ← serialized.store]
        simp
      · simp [servedLonger] at absent
    · rw [Function.update_of_ne equal] at holds
      have accounts := serialized.accounts other found holds
      rw [← List.mem_singleton.not] at equal
      refine ⟨fun member => ?_, fun absent => ?_⟩
      · rw [servedLonger, List.mem_append, or_iff_left equal] at member
        obtain ⟨result, earlier, kept⟩ := accounts.ran member
        exact ⟨result, by simp [results_granted, earlier], kept⟩
      · rw [servedLonger, List.mem_append, or_iff_left equal] at absent
        exact accounts.idle absent

/-- A change made elsewhere is in the history and touches no question. -/
theorem serialized_elsewhere (store : σ) (serialized : Serialized bodies start past state) :
    Serialized bodies start (past ++ [(state, .elsewhere store)]) { state with store } := by
  have longer := history_concat_some command past state (.elsewhere store) (.elsewhere store) rfl
  have servedSame : served (history command past ++ [.elsewhere store]) =
      served (history command past) := by
    simp [served]
  refine ⟨serialized.coherent, ?_, ?_, ?_, ?_, serialized.asked, ?_⟩
  · rw [longer, after_concat]
    rfl
  · rw [longer, servedSame]
    exact serialized.distinct
  · rw [longer]
    intro id request member
    exact serialized.requests id request (by simpa using member)
  · rw [longer, servedSame]
    exact serialized.fresh
  · rw [longer]
    intro id question present
    have accounts := serialized.accounts id question present
    exact ⟨by rw [servedSame, results_elsewhere]; exact accounts.ran,
      by rw [servedSame]; exact accounts.idle⟩

/-- A quiet step leaves the history and what the bodies produced. -/
theorem serialized_quiet (event : ServiceEvent κ σ) (quiet : ReplyEvent ρ)
    (object : GatedObject ρ) (isQuiet : Quiet quiet) (idle : command state event = none)
    (serialized : Serialized bodies start past state)
    (stepped : state.object.step quiet = some object) :
    Serialized bodies start (past ++ [(state, event)]) { state with object } := by
  have coherent := GatedObject.coherent_step _ _ _ serialized.coherent stepped
  have continues := GatedObject.continues_quiet quiet isQuiet serialized.coherent stepped
  have same := history_concat_none command past state event idle
  have before : ∀ id moved, object.questions id = some moved →
      ∃ question, state.object.questions id = some question ∧ question.Continues moved := by
    intro id moved present
    cases earlier : state.object.questions id with
    | none => simp [(continues id).2 earlier] at present
    | some question =>
      obtain ⟨after, found, kept⟩ := (continues id).1 question earlier
      cases Option.some.inj (found.symm.trans present)
      exact ⟨question, rfl, kept⟩
  refine ⟨coherent, ?_, ?_, ?_, ?_, ?_, ?_⟩
  · rw [same]
    exact serialized.store
  · rw [same]
    exact serialized.distinct
  · rw [same]
    exact serialized.requests
  · rw [same]
    intro id missing
    cases earlier : state.object.questions id with
    | none => exact serialized.fresh id earlier
    | some question =>
      obtain ⟨after, found, _⟩ := (continues id).1 question earlier
      simp [found] at missing
  · intro id moved present
    obtain ⟨question, earlier, kept⟩ := before id moved present
    obtain ⟨request, recorded, text⟩ := serialized.asked id question earlier
    exact ⟨request, recorded, kept.denied.trans text⟩
  · rw [same]
    intro id moved present
    obtain ⟨question, earlier, kept⟩ := before id moved present
    have accounts := serialized.accounts id question earlier
    refine ⟨fun member => ?_, fun absent => kept.bodyRuns.trans (accounts.idle absent)⟩
    obtain ⟨result, found, produced⟩ := accounts.ran member
    exact ⟨result, found, kept.produced result produced⟩

end Steps

/-- Every step keeps the history right.

Cases follow the four kinds of step: a question is asked, a body runs, the store is changed by
others, or neither questions nor store are touched. -/
theorem serialized_step (bodies : GrantedBodies κ ρ σ) (start : σ)
    (past : List (GatedService κ ρ σ × ServiceEvent κ σ)) (state : GatedService κ ρ σ)
    (event : ServiceEvent κ σ) (next : GatedService κ ρ σ)
    (serialized : Serialized bodies start past state)
    (stepped : step bodies state event = some next) :
    Serialized bodies start (past ++ [(state, event)]) next := by
  obtain ⟨id, request, object, rfl, moved, rfl⟩ | ⟨id, request, object, rfl, asked, moved, rfl⟩ |
    ⟨store, rfl, rfl⟩ | ⟨quiet, object, isQuiet, noBody, noChange, moved, rfl⟩ :=
      step_cases bodies state next event stepped
  · exact serialized_ask id request object serialized moved
  · exact serialized_run_body id request object serialized asked moved
  · exact serialized_elsewhere store serialized
  · refine serialized_quiet event quiet object isQuiet ?_ serialized moved
    cases event with
    | runBody id => exact absurd rfl (noBody id)
    | elsewhere store => exact absurd rfl (noChange store)
    | _ => rfl

/-- What a step of the service leaves: pending questions, what the questions asked for, and
the grants. -/
structure Framed (event : ServiceEvent κ σ) (state next : GatedService κ ρ σ) : Prop where
  pending : ∀ id question, state.object.questions id = some question →
    question.phase = .pending → (∀ outcome, event ≠ .invoke id outcome) → event ≠ .destroy id →
    next.object.questions id = some question
  granted : ∀ id moved, next.object.questions id = some moved → moved.outcome = some .granted →
    event ≠ .invoke id .granted →
    ∃ question, state.object.questions id = some question ∧ question.outcome = some .granted
  asked : ∀ id question, state.object.questions id = some question →
    next.asked id = state.asked id

/-- A framed step of the object is one of the service. -/
theorem framed_forward (event : ServiceEvent κ σ) (quiet : ReplyEvent ρ)
    (state next : GatedService κ ρ σ) (stepped : state.forward quiet = some next)
    (invoked : ∀ id outcome, event ≠ .invoke id outcome → quiet ≠ .invoke id outcome)
    (destroyed : ∀ id, event ≠ .destroy id → quiet ≠ .destroy id) :
    Framed event state next := by
  obtain ⟨object, moved, rfl⟩ := Option.map_eq_some_iff.mp stepped
  have framed := GatedObject.step_framed quiet moved
  exact {
    pending := fun id question present waiting notInvoked notDestroyed =>
      framed.pending id question present waiting
        (fun outcome => invoked id outcome (notInvoked outcome)) (destroyed id notDestroyed)
    granted := fun id moved present told notInvoked =>
      framed.granted id moved present told (invoked id .granted notInvoked)
    asked := fun _ _ _ => rfl }

/-- Every step of the service is framed. -/
theorem step_framed (bodies : GrantedBodies κ ρ σ) (event : ServiceEvent κ σ)
    (state next : GatedService κ ρ σ) (stepped : step bodies state event = some next) :
    Framed event state next := by
  cases event with
  | ask id request =>
    obtain ⟨object, moved, rfl⟩ := Option.map_eq_some_iff.mp stepped
    have framed := GatedObject.step_framed _ moved
    refine ⟨fun other question present waiting _ _ =>
      framed.pending other question present waiting (by simp) (by simp),
      fun other after present told _ => framed.granted other after present told (by simp), ?_⟩
    intro other question present
    have different : other ≠ id := by
      rintro rfl
      simp [GatedObject.step, present] at moved
    exact Function.update_of_ne different _ _
  | runBody id =>
    obtain ⟨request, asked, performed⟩ := Option.bind_eq_some_iff.mp stepped
    obtain ⟨object, moved, rfl⟩ := Option.map_eq_some_iff.mp performed
    have framed := GatedObject.step_framed _ moved
    exact ⟨fun other question present waiting _ _ =>
      framed.pending other question present waiting (by simp) (by simp),
      fun other after present told _ => framed.granted other after present told (by simp),
      fun _ _ _ => rfl⟩
  | elsewhere store =>
    cases Option.some.inj stepped
    exact ⟨fun _ _ present _ _ _ => present, fun _ moved present told _ => ⟨moved, present, told⟩,
      fun _ _ _ => rfl⟩
  | invoke id outcome =>
    exact framed_forward _ _ state next stepped
      (fun other told different same => different (by cases same; rfl)) (by simp)
  | destroy id =>
    exact framed_forward _ _ state next stepped (by simp)
      (fun other different same => different (by cases same; rfl))
  | refuse id => exact framed_forward _ _ state next stepped (by simp) (by simp)
  | enter id => exact framed_forward _ _ state next stepped (by simp) (by simp)
  | reply id => exact framed_forward _ _ state next stepped (by simp) (by simp)
  | close => exact framed_forward _ _ state next stepped (by simp) (by simp)

/-- A question is there after a step of the service when it was there before, or was asked in
the step. -/
theorem step_present (bodies : GrantedBodies κ ρ σ) (event : ServiceEvent κ σ)
    (state next : GatedService κ ρ σ) (stepped : step bodies state event = some next) (id : Nat) :
    (next.object.questions id).isSome ↔
      (state.object.questions id).isSome ∨ ∃ request, event = .ask id request := by
  cases event with
  | ask other request =>
    obtain ⟨object, moved, rfl⟩ := Option.map_eq_some_iff.mp stepped
    simpa using GatedObject.step_present _ moved id
  | runBody other =>
    obtain ⟨request, asked, performed⟩ := Option.bind_eq_some_iff.mp stepped
    obtain ⟨object, moved, rfl⟩ := Option.map_eq_some_iff.mp performed
    simpa using GatedObject.step_present _ moved id
  | elsewhere store =>
    cases Option.some.inj stepped
    simp
  | _ =>
    obtain ⟨object, moved, rfl⟩ := Option.map_eq_some_iff.mp stepped
    simpa using GatedObject.step_present _ moved id

/-- Every run is serialized. -/
theorem run_serialized (bodies : GrantedBodies κ ρ σ) (start : σ)
    (events : List (ServiceEvent κ σ)) (state : GatedService κ ρ σ)
    (reached : run (step bodies) { store := start } events = some state) :
    Serialized bodies start (trace (step bodies) { store := start } events) state := by
  refine trace_invariant (step bodies) (Serialized bodies start) (serialized_step bodies start)
    events { store := start } state ?_ reached
  exact {
    coherent := GatedObject.coherent_initial
    store := rfl
    distinct := List.nodup_nil
    requests := by simp [history]
    fresh := by simp [history, served]
    asked := by simp
    accounts := by simp }

/-- The one reply of a settled question: what its body produced at its place in the history,
or an error where the history does not have it. -/
theorem settled_reply (bodies : GrantedBodies κ ρ σ) (start : σ)
    (past : List (GatedService κ ρ σ × ServiceEvent κ σ)) (state : GatedService κ ρ σ)
    (serialized : Serialized bodies start past state) (id : Nat) (question : Question ρ)
    (present : state.object.questions id = some question)
    (ended : question.phase = .returned ∨ question.phase = .destroyed) :
    (question.Permitted ∧ ∃ result,
      (id, result) ∈ results bodies start (history command past) ∧
        question.sent = [replyWith result]) ∨
    (¬ question.Permitted ∧ id ∉ served (history command past) ∧
      ∃ name message, question.sent = [.error name message]) := by
  have ledger := serialized.coherent.ledgers id question present
  have settled := Question.ledger_settled ledger ended
  obtain ⟨_, exactly, refused⟩ := Question.settled_exactly settled
  have accounts := serialized.accounts id question present
  by_cases permitted : question.Permitted
  · left
    have once := exactly.mpr permitted
    have member : id ∈ served (history command past) := by
      by_contra absent
      simp [accounts.idle absent] at once
    obtain ⟨result, found, _, waiting | sent⟩ := accounts.ran member
    · rcases ended with returned | destroyed
      · cases returned.symm.trans waiting
      · cases destroyed.symm.trans waiting
    · exact ⟨permitted, result, found, sent⟩
  · right
    obtain ⟨idle, error⟩ := refused permitted
    refine ⟨permitted, fun member => ?_, error⟩
    obtain ⟨_, _, once, _⟩ := accounts.ran member
    simp [idle] at once

end GatedService

end LibreLinux.Agent
