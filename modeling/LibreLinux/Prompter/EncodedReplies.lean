import LibreLinux.Agent.SecretTransfer
import LibreLinux.Prompter.Answering

/-!
# Replies that can be sent

A reply carries one or two descriptors, and the wire encoder cannot send the `-1` of a
memfd that was not created: the reply is then dropped, and the caller waits. A reply with
a secret has its descriptors already. A reply without one creates its empty memfds on the
spot, and nothing is done when that fails.

`refusal` says, for a state and an event, whether the step replies without a secret, and
with which memfd creations. Whether every reply of a run was sent is then a matter of
these creations alone.
-/

namespace LibreLinux.Prompter

open Wire Agent

/-- An empty memfd has nothing to write: it is created unless `memfd_create` or the
sealing fails. -/
theorem empty_memfd_created_iff (fuel : Nat) (calls : CreatorCalls) (table : FileTable) :
    (∃ fd after, makeSealedMemfd (fuel + 1) calls table [] = some (.ok fd, after)) ↔
      calls.create = none ∧ calls.addSeals = none := by
  obtain ⟨create, write, addSeals⟩ := calls
  cases create <;> cases addSeals <;> simp [makeSealedMemfd, Transfers.transfer]

/-- Whether the empty descriptors of a reply can be created. -/
def Memfds.empties (memfds : Memfds) (multi : Bool) : Bool :=
  memfds.emptyPrimary && (!multi || memfds.emptySecondary)

/-- Whether an emission of `finished` finds the secrets: an accept, with the pair of a PIN
change captured in both halves or the single secret being captured now. -/
def Window.secretReady (window : Window) (accepted : Bool) (memfds : Memfds) : Bool :=
  accepted && if window.multi then
    window.dialog.captured.primaryFd.isSome && window.dialog.captured.secondaryFd.isSome
  else memfds.primary

namespace Service

/-- The reply without a secret that a completion makes, if it makes one. -/
def completionRefusal (state : Service) (accepted : Bool) (memfds : Memfds) (window : Window) :
    Option (Bool × Memfds) :=
  if (state.registry.take window.handle).1.isSome ∧ window.secretReady accepted memfds = false then
    some (window.multi, memfds)
  else none

/-- The reply without a secret that a performed task makes: a prompt id that is on screen
refuses the next window under it, and a dismissed window is closed. -/
def taskRefusal (state : Service) (memfds : Memfds) : GuiTask → Option (Bool × Memfds)
  | .raise request =>
    if request.promptId ≠ "" ∧ (state.registry.indexOfPromptId request.promptId).isSome then
      some (request.multi, memfds)
    else none
  | .reject id _ => (state.windows id).bind (state.completionRefusal false memfds)
  | _ => none

/-- The reply without a secret that the delivery of a request makes. -/
def deliveryRefusal (state : Service) (delivery : Delivery) (request : RaiseRequest)
    (memfds : Memfds) : Option (Bool × Memfds) :=
  match delivery with
  | .direct => state.taskRefusal memfds (.raise request)
  | .queued => none
  | .failed => some (request.multi, memfds)

/-- Whether a step replies without a secret: to how many descriptors, and with which memfd
creations. -/
def refusal (state : Service) : Event → Option (Bool × Memfds)
  | .requestSecret callerPid kind options delivery _ memfds =>
    if callerPid = 0 then some (false, memfds)
    else
      match parseKind kind with
      | none => some (false, memfds)
      | some kind =>
        state.deliveryRefusal delivery (raiseRequest state.nextRequest callerPid kind options) memfds
  | .requestSecrets callerPid kind options delivery _ memfds =>
    if callerPid = 0 ∨ kind ≠ kKindChangePin then some (true, memfds)
    else
      state.deliveryRefusal delivery (raiseChangePinRequest state.nextRequest callerPid options) memfds
  | .perform index _ memfds => (state.posted[index]?).bind (state.taskRefusal memfds)
  | .accept id memfds =>
    (state.windows id).bind (fun window =>
      let outcome := window.dialog.accept memfds.primary memfds.secondary
      if outcome.2 then state.completionRefusal true memfds { window with dialog := outcome.1 }
      else none)
  | .done id accepted memfds => (state.windows id).bind (state.completionRefusal accepted memfds)
  | .expire id _ memfds => (state.windows id).bind (state.completionRefusal false memfds)
  | _ => none

/-- A step that replies without a secret can create the empty memfds of the reply. -/
def Encodable (state : Service) (event : Event) : Prop :=
  ∀ multi memfds, state.refusal event = some (multi, memfds) → memfds.empties multi = true

/-- What a part of a step adds to the replies: they are all sent exactly when the refusal it
makes, if any, can be encoded. -/
def Adds (state next : Service) (refused : Option (Bool × Memfds)) : Prop :=
  ∃ added, next.answers = state.answers ++ added ∧
    ((∀ answer ∈ added, answer.sent = true) ↔
      ∀ multi memfds, refused = some (multi, memfds) → memfds.empties multi = true)

variable {state : Service}

/-- A part of a step that does not reply. -/
theorem adds_nothing (next : Service) (same : next.answers = state.answers) :
    state.Adds next none :=
  ⟨[], by simpa using same, by simp⟩

/-- Empty descriptors are sent when they exist. -/
theorem empties_sent (request : RequestId) (status : PromptReplyStatus) (multi : Bool)
    (memfds : Memfds) :
    (Answer.mk request status (emptyFds multi memfds)).sent = memfds.empties multi := by
  obtain ⟨_, _, primary, secondary⟩ := memfds
  cases multi <;> cases primary <;> cases secondary <;> rfl

/-- A refusal adds one reply, sent if its empty descriptors exist. -/
theorem adds_refusal (next : Service) (request : RequestId) (status : PromptReplyStatus)
    (multi : Bool) (memfds : Memfds)
    (answers : next.answers = state.answers ++ [⟨request, status, emptyFds multi memfds⟩]) :
    state.Adds next (some (multi, memfds)) := by
  refine ⟨_, answers, ?_⟩
  simp [empties_sent]

/-- The reply of a completion: with the secrets it is sent, without them it is a refusal. -/
theorem completion_sent (request : RequestId) (window : Window) (accepted : Bool)
    (memfds : Memfds) :
    (Answer.mk request (window.complete accepted memfds).status
        (window.complete accepted memfds).fds).sent =
      (window.secretReady accepted memfds || memfds.empties window.multi) := by
  obtain ⟨handle, dialog, offered, multi⟩ := window
  cases accepted with
  | false =>
    cases multi with
    | false => exact empties_sent request (if dialog.expired then .timeout else .cancelled) false memfds
    | true => exact empties_sent request (if dialog.expired then .timeout else .cancelled) true memfds
  | true =>
    cases multi with
    | true =>
      simp only [Window.complete, Window.completeSecrets, Window.secretReady,
        PromptDialog.takeSecretFdPair, if_true, Bool.true_and]
      rcases dialog.captured with ⟨_ | primary, _ | secondary⟩
      · exact empties_sent request .error true memfds
      · exact empties_sent request .error true memfds
      · exact empties_sent request .error true memfds
      · rfl
    | false =>
      simp only [Window.complete, Window.completeSecret, Window.secretReady, if_true,
        Bool.false_eq_true, if_false, Bool.true_and, PromptDialog.captureSecretFd]
      cases created : memfds.primary with
      | false =>
        have failed : (dialog.widget.captureSecretFd false).1 = none := by
          cases dialog.widget <;> rfl
        rw [failed]
        exact empties_sent request .error false memfds
      | true =>
        have captured : ∃ fd, (dialog.widget.captureSecretFd true).1 = some fd := by
          cases dialog.widget <;> exact ⟨_, rfl⟩
        obtain ⟨fd, captured⟩ := captured
        rw [captured]
        rfl

/-- A `finished` emission replies once if the window is registered. -/
theorem finished_adds (state : Service) (id : WindowId) (window : Window) (accepted : Bool) (memfds : Memfds) :
    state.Adds (state.finished id window accepted memfds)
      (state.completionRefusal accepted memfds window) := by
  simp only [finished, completionRefusal]
  rcases state.registry.take window.handle with ⟨_ | entry, registry⟩
  · exact adds_nothing _ rfl
  · refine ⟨[⟨id, (window.complete accepted memfds).status, (window.complete accepted memfds).fds⟩],
      rfl, ?_⟩
    cases ready : window.secretReady accepted memfds <;> simp [completion_sent, ready]

/-- A performed task replies when it refuses a window or closes one. -/
theorem perform_adds (state : Service) (task : GuiTask) (now : Nat) (memfds : Memfds) :
    state.Adds (state.perform task now memfds) (state.taskRefusal memfds task) := by
  cases task with
  | raise request =>
    simp only [perform, raiseWindow, PromptRegistry.add, taskRefusal]
    split_ifs
    · exact adds_refusal _ request.request .error request.multi memfds rfl
    · exact adds_nothing _ rfl
  | dismiss promptId callerPid =>
    refine adds_nothing _ ?_
    simp only [perform, dismissOnGuiThread]
    split
    · rfl
    · split
      · rfl
      · split <;> rfl
  | dismissEvery =>
    obtain ⟨rejects, posted⟩ :=
      dismiss_every_posts (state.registry.handles.filterMap state.registry.find) state
    refine adds_nothing _ ?_
    rw [perform, dismissEveryWindowOnGuiThread, posted]
  | reject id cause =>
    simp only [perform, taskRefusal]
    cases state.windows id with
    | none => exact adds_nothing _ rfl
    | some window => exact finished_adds state id window false memfds
  | deleteLater id => exact adds_nothing _ rfl

/-- A delivered request replies when it is refused at once or cannot be delivered. -/
theorem deliver_adds (delivery : Delivery) (request : RaiseRequest) (now : Nat) (memfds : Memfds) :
    state.Adds
      (state.nextReply.deliver delivery (.raise request)
        (state.nextReply.refuse request.request request.multi .error memfds) now memfds)
      (state.deliveryRefusal delivery request memfds) := by
  cases delivery with
  | direct => exact perform_adds state.nextReply (.raise request) now memfds
  | queued => exact adds_nothing _ rfl
  | failed => exact adds_refusal _ request.request .error request.multi memfds rfl

/-- What a step adds to the replies.

Cases follow the event: a raise that is refused adds its refusal, a window that ends adds its reply,
and nothing else adds any. -/
theorem step_adds (state : Service) (event : Event) (next : Service)
    (stepped : step state event = some next) : state.Adds next (state.refusal event) := by
  cases event with
  | requestSecret callerPid kind options delivery now memfds =>
    cases Option.some.inj stepped
    simp only [requestSecret, refusal]
    split
    · exact adds_refusal _ state.nextRequest .unauthorized false memfds rfl
    · cases parseKind kind with
      | none => exact adds_refusal _ state.nextRequest .error false memfds rfl
      | some kind =>
        exact deliver_adds delivery (raiseRequest state.nextRequest callerPid kind options) now memfds
  | requestSecrets callerPid kind options delivery now memfds =>
    cases Option.some.inj stepped
    simp only [requestSecrets, refusal]
    split
    · rename_i unresolved
      rw [if_pos (Or.inl unresolved)]
      exact adds_refusal _ state.nextRequest .unauthorized true memfds rfl
    · rename_i resolved
      split
      · rename_i unknown
        rw [if_pos (Or.inr unknown)]
        exact adds_refusal _ state.nextRequest .error true memfds rfl
      · rename_i known
        rw [if_neg (not_or.mpr ⟨resolved, known⟩)]
        exact deliver_adds delivery (raiseChangePinRequest state.nextRequest callerPid options) now
          memfds
  | cancel promptId callerPid delivery now memfds =>
    cases Option.some.inj stepped
    rw [cancel]
    split
    · exact adds_nothing _ rfl
    · cases delivery with
      | direct => exact perform_adds state (.dismiss promptId callerPid) now memfds
      | queued => exact adds_nothing _ rfl
      | failed => exact adds_nothing _ rfl
  | reset callerPid delivery now memfds =>
    cases Option.some.inj stepped
    rw [reset]
    split
    · exact adds_nothing _ rfl
    · cases delivery with
      | direct => exact perform_adds state .dismissEvery now memfds
      | queued => exact adds_nothing _ rfl
      | failed => exact adds_nothing _ rfl
  | perform index now memfds =>
    obtain ⟨task, queued, rfl⟩ := Option.map_eq_some_iff.mp stepped
    simp only [refusal, queued, Option.bind_some]
    exact perform_adds { state with posted := state.posted.eraseIdx index } task now memfds
  | interact id action =>
    simp only [step, Option.bind_eq_bind, Option.bind_eq_some_iff, Option.pure_def,
      Option.some.injEq] at stepped
    obtain ⟨window, shown, dialog, _, rfl⟩ := stepped
    exact adds_nothing _ rfl
  | accept id memfds =>
    simp only [step, Option.bind_eq_bind, Option.bind_eq_some_iff, Option.pure_def,
      Option.some.injEq] at stepped
    obtain ⟨window, shown, rfl⟩ := stepped
    simp only [refusal, shown, Option.bind_some]
    split
    · exact finished_adds (state.setWindow id _) id _ true memfds
    · exact adds_nothing _ rfl
  | done id accepted memfds =>
    simp only [step, Option.bind_eq_bind, Option.bind_eq_some_iff, Option.pure_def,
      Option.some.injEq] at stepped
    obtain ⟨window, shown, rfl⟩ := stepped
    simp only [refusal, shown, Option.bind_some]
    exact finished_adds state id window accepted memfds
  | expire id now memfds =>
    simp only [step, Option.bind_eq_bind, Option.bind_eq_some_iff] at stepped
    obtain ⟨window, shown, fired⟩ := stepped
    split at fired
    · cases Option.some.inj fired
      simp only [refusal, shown, Option.bind_some]
      exact finished_adds (state.setWindow id _) id { window with dialog := window.dialog.expire }
        false memfds
    · cases fired

/-- Below the limit every issued request that neither waits in a posted raise nor is
registered has been replied to, and only such a request has. -/
theorem replied_iff (sound : state.Sound []) (request : RequestId) :
    request ∈ state.answers.map Answer.request ↔
      request < state.nextRequest ∧ request ∉ raising state.posted ∧
        ∀ handle entry, (handle, entry) ∈ state.registry.live → entry.window ≠ request := by
  have issued : request ∈ state.places [] ↔ request < state.nextRequest :=
    sound.conserved.mem_iff.trans List.mem_range
  rw [← issued]
  constructor
  · intro replied
    refine ⟨List.mem_append_left _ replied, fun waiting => ?_,
      answered_unregistered sound request replied⟩
    refine (List.nodup_append.mp (places_nodup sound)).2.2 request replied request ?_ rfl
    simp [waiting]
  · rintro ⟨placed, unqueued, unregistered⟩
    simp only [places, List.nil_append, List.mem_append] at placed
    rcases placed with replied | waiting | registered
    · exact replied
    · exact absurd waiting unqueued
    · obtain ⟨⟨handle, entry⟩, live, same⟩ := List.mem_map.mp registered
      exact absurd same (unregistered handle entry live)

/-- Every issued request that neither waits in a posted raise nor is registered, that is,
every request that was refused or whose window finished, has been sent a reply. -/
def EveryoneAnswered (state : Service) : Prop :=
  ∀ request, request < state.nextRequest → request ∉ raising state.posted →
    (∀ handle entry, (handle, entry) ∈ state.registry.live → entry.window ≠ request) →
    ∃ answer ∈ state.answers, answer.request = request ∧ answer.sent = true

/-- Below the limit everyone is answered exactly when every reply was sent. -/
theorem everyone_answered_iff_sent (sound : state.Sound []) :
    state.EveryoneAnswered ↔ ∀ answer ∈ state.answers, answer.sent = true := by
  constructor
  · intro everyone answer used
    have replied : answer.request ∈ state.answers.map Answer.request := List.mem_map_of_mem used
    obtain ⟨issued, unqueued, unregistered⟩ := (replied_iff sound answer.request).mp replied
    obtain ⟨other, member, same, sent⟩ := everyone answer.request issued unqueued unregistered
    -- A handle is used once, so the reply that was sent is this one.
    have once : (state.answers.map Answer.request).Nodup :=
      (List.nodup_append.mp (places_nodup sound)).1
    rwa [List.inj_on_of_nodup_map once member used same] at sent
  · intro sent request issued unqueued unregistered
    have replied := (replied_iff sound request).mpr ⟨issued, unqueued, unregistered⟩
    obtain ⟨answer, used, same⟩ := List.mem_map.mp replied
    exact ⟨answer, used, same, sent answer used⟩

/-- After every run, no reply reached the encoder with a descriptor it cannot send if and
only if each step that replied without a secret could create the empty memfds of its reply.
As long as fewer than `2 ^ 64` windows were registered, this is also exactly when everyone
is answered.

Proof: a step logs its replies, all of them sent exactly when its own refusal can be
encoded. Below the limit each request that is neither queued nor registered has a reply of
its own, so that everyone is answered when every reply was sent. -/
theorem everyone_answered_iff (events : List Event) (state : Service)
    (reached : Runs.run step {} events = some state) :
    ((∀ answer ∈ state.answers, answer.sent = true) ↔ Runs.Admitted step Encodable {} events) ∧
      (state.registrations.length < 2 ^ 64 →
        (state.EveryoneAnswered ↔ Runs.Admitted step Encodable {} events)) := by
  have logged := Runs.admitted_iff_logged step Encodable answers (fun answer => answer.sent = true)
    step_adds events {} state reached
  have sent : (∀ answer ∈ state.answers, answer.sent = true) ↔
      Runs.Admitted step Encodable {} events := by simpa using logged
  refine ⟨sent, fun below => ?_⟩
  exact (everyone_answered_iff_sent (reached_sound events state reached below)).trans sent

/-- The memfd creations an event tells. -/
def Event.memfds : Event → Memfds
  | .requestSecret _ _ _ _ _ memfds => memfds
  | .requestSecrets _ _ _ _ _ memfds => memfds
  | .cancel _ _ _ _ memfds => memfds
  | .reset _ _ _ memfds => memfds
  | .perform _ _ memfds => memfds
  | .interact _ _ => {}
  | .accept _ memfds => memfds
  | .done _ _ memfds => memfds
  | .expire _ _ memfds => memfds

/-- A completion's refusal is made with the creations of its own step. -/
theorem completion_refusal_memfds (window : Window) (accepted : Bool) (created : Memfds)
    (multi : Bool) (memfds : Memfds)
    (refused : state.completionRefusal accepted created window = some (multi, memfds)) :
    memfds = created := by
  rw [completionRefusal] at refused
  split_ifs at refused
  cases refused
  rfl

/-- So is a performed task's. -/
theorem task_refusal_memfds (task : GuiTask) (created : Memfds) (multi : Bool) (memfds : Memfds)
    (refused : state.taskRefusal created task = some (multi, memfds)) : memfds = created := by
  cases task with
  | raise request =>
    rw [taskRefusal] at refused
    split_ifs at refused
    cases refused
    rfl
  | reject id cause =>
    obtain ⟨window, -, closed⟩ := Option.bind_eq_some_iff.mp refused
    exact completion_refusal_memfds window false created multi memfds closed
  | dismiss => cases refused
  | dismissEvery => cases refused
  | deleteLater => cases refused

/-- So is a delivery's. -/
theorem delivery_refusal_memfds (delivery : Delivery) (request : RaiseRequest) (created : Memfds)
    (multi : Bool) (memfds : Memfds)
    (refused : state.deliveryRefusal delivery request created = some (multi, memfds)) :
    memfds = created := by
  cases delivery with
  | direct => exact task_refusal_memfds (.raise request) created multi memfds refused
  | queued => cases refused
  | failed =>
    cases refused
    rfl

/-- A refusal is made with the creations of its own step. -/
theorem refusal_memfds (event : Event) (multi : Bool) (memfds : Memfds)
    (refused : state.refusal event = some (multi, memfds)) : memfds = event.memfds := by
  cases event with
  | requestSecret callerPid kind options delivered now created =>
    simp only [refusal] at refused
    split_ifs at refused
    · cases refused
      rfl
    · cases known : parseKind kind with
      | none =>
        rw [known] at refused
        cases refused
        rfl
      | some kind =>
        rw [known] at refused
        exact delivery_refusal_memfds delivered _ created multi memfds refused
  | requestSecrets callerPid kind options delivered now created =>
    simp only [refusal] at refused
    split_ifs at refused
    · cases refused
      rfl
    · exact delivery_refusal_memfds delivered _ created multi memfds refused
  | perform index now created =>
    obtain ⟨posted, -, answered⟩ := Option.bind_eq_some_iff.mp refused
    exact task_refusal_memfds posted created multi memfds answered
  | accept id created =>
    obtain ⟨window, -, answered⟩ := Option.bind_eq_some_iff.mp refused
    simp only at answered
    split_ifs at answered
    exact completion_refusal_memfds _ true created multi memfds answered
  | done id accepted created =>
    obtain ⟨window, -, answered⟩ := Option.bind_eq_some_iff.mp refused
    exact completion_refusal_memfds window accepted created multi memfds answered
  | expire id now created =>
    obtain ⟨window, -, answered⟩ := Option.bind_eq_some_iff.mp refused
    exact completion_refusal_memfds window false created multi memfds answered
  | cancel => cases refused
  | reset => cases refused
  | interact => cases refused

/-- A step for which every empty memfd can be created is encodable. -/
theorem encodable_created (event : Event) (primary : event.memfds.emptyPrimary = true)
    (secondary : event.memfds.emptySecondary = true) (state : Service) :
    state.Encodable event := by
  intro multi memfds refused
  rw [refusal_memfds event multi memfds refused]
  simp [Memfds.empties, primary, secondary]

/-- An entered PIN cannot be captured, and the next prompt is closed. -/
def failedCapture : List Event :=
  [.requestSecret 7 kKindPin ∅ .direct 0 {}, .accept 0 { primary := false },
    .requestSecrets 7 kKindChangePin ∅ .direct 0 {}, .done 1 false {}]

/-- Both are answered, with the empty memfds that could be created. -/
theorem failed_capture_answered :
    ∃ state, Runs.run step {} failedCapture = some state ∧
      state.answers.map Answer.status = [.error, .cancelled] ∧ state.EveryoneAnswered := by
  refine ⟨(Runs.run step {} failedCapture).get (by decide +kernel), by simp, by decide +kernel, ?_⟩
  refine ((everyone_answered_iff failedCapture _ (by simp)).2 (by decide +kernel)).mpr ?_
  apply Runs.admitted_of_all
  intro event member state
  have created : event.memfds.emptyPrimary = true ∧ event.memfds.emptySecondary = true := by
    simp only [failedCapture, List.mem_cons, List.not_mem_nil, or_false] at member
    rcases member with rfl | rfl | rfl | rfl <;> exact ⟨rfl, rfl⟩
  exact encodable_created event created.1 created.2 state

/-- The memfd of an unauthorised caller's refusal cannot be created: the call stays
unanswered. -/
theorem unauthorized_caller_unanswered :
    ¬ ∀ events state, Runs.run step {} events = some state → state.EveryoneAnswered := by
  intro always
  have everyone := always [.requestSecret 0 kKindPin ∅ .queued 0 { emptyPrimary := false }] _ rfl
  obtain ⟨answer, used, -, sent⟩ := everyone 0 (by decide) (by decide)
    (fun _ _ live => absurd live List.not_mem_nil)
  cases List.mem_singleton.mp used
  cases sent

end Service

end LibreLinux.Prompter
