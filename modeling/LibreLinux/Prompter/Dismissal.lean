import LibreLinux.Prompter.Answering

/-!
# Which window a dismissal reaches

A dismissal changes no window. It posts a reject to the one live window that its
prompt id names and its caller owns, and that reject, however late it is
delivered, reaches that window alone. A request that names a window already on
screen is refused and leaves that window as it is.

The lookup goes through a handle. As long as fewer than `2 ^ 64` windows were
registered it is the window's own; behind that the counter issues handles of
windows that still stand, and the last run of this module shows what follows.
-/

namespace LibreLinux.Prompter.Service

open Wire

variable {state : Service}

/-- A posted reject that a cancellation caused is addressed: the id is not
empty, and the registry holds its window under that id for that caller. -/
def Addressed (registry : PromptRegistry) : GuiTask → Prop
  | .reject id (.cancel promptId callerPid) =>
      promptId ≠ "" ∧ ∃ handle, (handle, ⟨id, callerPid, promptId⟩) ∈ registry.live
  | _ => True

/-- A `finished` emission posts nothing but a deletion. -/
theorem finished_posts (state : Service) (id : WindowId) (window : Window) (accepted : Bool)
    (memfds : Memfds) (task : GuiTask)
    (member : task ∈ (state.finished id window accepted memfds).posted) :
    task ∈ state.posted ∨ task = .deleteLater id := by
  unfold finished at member
  split at member
  · exact Or.inl member
  · simpa [post, Service.answer, setWindow] using member

/-- Raising a window posts nothing. -/
theorem raise_posts (state : Service) (request : RaiseRequest) (now : Nat) (memfds : Memfds) :
    (state.raiseWindow request now memfds).posted = state.posted := by
  unfold raiseWindow
  split <;> rfl

/-- What a performed task posts is addressed. -/
theorem perform_posts (state : Service) (task posted : GuiTask) (now : Nat) (memfds : Memfds)
    (aligned : state.registry.Aligned) (distinct : state.registry.handles.Nodup)
    (member : posted ∈ (state.perform task now memfds).posted) :
    posted ∈ state.posted ∨ Addressed state.registry posted := by
  cases task with
  | raise request =>
    rw [perform, raise_posts] at member
    exact Or.inl member
  | dismiss promptId callerPid =>
    rcases dismiss_cases promptId callerPid aligned distinct with idle |
      ⟨handle, id, filled, live, dismissed⟩
    · rw [perform, idle] at member
      exact Or.inl member
    · rw [perform, dismissed] at member
      rcases List.mem_append.mp member with earlier | latest
      · exact Or.inl earlier
      · cases List.mem_singleton.mp latest
        exact Or.inr ⟨filled, handle, live⟩
  | dismissEvery =>
    obtain ⟨rejects, dismissed⟩ :=
      dismiss_every_posts (state.registry.handles.filterMap state.registry.find) state
    rw [perform, dismissEveryWindowOnGuiThread, dismissed] at member
    rcases List.mem_append.mp member with earlier | latest
    · exact Or.inl earlier
    · obtain ⟨id, _, rfl⟩ := List.mem_map.mp latest
      exact Or.inr trivial
  | reject id cause =>
    rw [perform] at member
    split at member
    · exact Or.inl member
    · rcases finished_posts _ _ _ _ _ _ member with earlier | rfl
      · exact Or.inl earlier
      · exact Or.inr trivial
  | deleteLater id => exact Or.inl member

/-- What a step posts is addressed in the state before it. -/
theorem step_posts (event : Event) (next : Service) (aligned : state.registry.Aligned)
    (distinct : state.registry.handles.Nodup) (stepped : step state event = some next)
    (posted : GuiTask) (member : posted ∈ next.posted) :
    posted ∈ state.posted ∨ Addressed state.registry posted := by
  cases step_change state event next stepped with
  | idle => exact Or.inl member
  | refused multi status memfds => exact Or.inl member
  | raised request own now memfds =>
    exact perform_posts state.nextReply _ posted now memfds aligned distinct member
  | raisePosted request own =>
    rcases List.mem_append.mp member with earlier | latest
    · exact Or.inl earlier
    · cases List.mem_singleton.mp latest
      exact Or.inr trivial
  | dismissed task dismissal now memfds =>
    exact perform_posts state task posted now memfds aligned distinct member
  | dismissPosted task dismissal =>
    rcases List.mem_append.mp member with earlier | latest
    · exact Or.inl earlier
    · rw [List.mem_singleton.mp latest]
      cases task <;> cases dismissal <;> exact Or.inr trivial
  | performed index task queued now memfds =>
    rcases perform_posts { state with posted := state.posted.eraseIdx index }
      task posted now memfds aligned distinct member with earlier | addressed
    · exact Or.inl (List.mem_of_mem_eraseIdx earlier)
    · exact Or.inr addressed
  | dialog id window shown dialog => exact Or.inl member
  | finished id window shown dialog accepted memfds =>
    rcases finished_posts _ _ _ _ _ _ member with earlier | rfl
    · exact Or.inl earlier
    · exact Or.inr trivial

/-- One window, its entry, its reply and the rejects queued for it are as they were. -/
structure Untouched (id : WindowId) (before after : Service) : Prop where
  window : after.windows id = before.windows id
  entry : ∀ handle entry, entry.window = id →
    ((handle, entry) ∈ after.registry.live ↔ (handle, entry) ∈ before.registry.live)
  reply : ∀ answer : Answer, answer.request = id →
    (answer ∈ after.answers ↔ answer ∈ before.answers)
  queue : ∀ cause, GuiTask.reject id cause ∈ after.posted ↔ GuiTask.reject id cause ∈ before.posted

/-- Posting what is no reject of the window does not touch it. -/
theorem untouched_post (id : WindowId) (state : Service) (task : GuiTask)
    (elsewhere : ∀ cause, task ≠ .reject id cause) : Untouched id state (state.post task) where
  window := rfl
  entry := fun _ _ _ => Iff.rfl
  reply := fun _ _ => Iff.rfl
  queue := by
    intro cause
    simp [post, (elsewhere cause).symm]

/-- Nor does taking such a task off the queue. -/
theorem untouched_dequeued (id : WindowId) (index : Nat) (task : GuiTask)
    (queued : state.posted[index]? = some task) (elsewhere : ∀ cause, task ≠ .reject id cause) :
    Untouched id state { state with posted := state.posted.eraseIdx index } where
  window := rfl
  entry := fun _ _ _ => Iff.rfl
  reply := fun _ _ => Iff.rfl
  queue := by
    intro cause
    refine ⟨List.mem_of_mem_eraseIdx, fun waiting => ?_⟩
    obtain ⟨position, found⟩ := List.mem_iff_getElem?.mp waiting
    refine List.mem_eraseIdx_iff_getElem?.mpr ⟨position, ?_, found⟩
    rintro rfl
    exact elsewhere cause (Option.some.inj (queued.symm.trans found))

/-- What two steps leave as it was. -/
theorem untouched_trans {id : WindowId} {before middle after : Service}
    (first : Untouched id before middle) (second : Untouched id middle after) :
    Untouched id before after where
  window := second.window.trans first.window
  entry := fun handle entry own => (second.entry handle entry own).trans (first.entry handle entry own)
  reply := fun answer own => (second.reply answer own).trans (first.reply answer own)
  queue := fun cause => (second.queue cause).trans (first.queue cause)

/-- What no step changed. -/
theorem untouched_rfl (id : WindowId) (state : Service) : Untouched id state state where
  window := rfl
  entry := fun _ _ _ => Iff.rfl
  reply := fun _ _ => Iff.rfl
  queue := fun _ => Iff.rfl

/-- A `finished` emission touches its own window only. -/
theorem finished_untouched (id other : WindowId) (window : Window) (accepted : Bool)
    (memfds : Memfds) (shown : state.windows id = some window) (kept : state.Kept)
    (sound : state.Sound []) (below : state.registrations.length < 2 ^ 64) (apart : other ≠ id) :
    Untouched other state (state.finished id window accepted memfds) := by
  rcases finished_cases id window accepted memfds kept.recorded.aligned with idle |
    ⟨registry, before, after, entry, -, -, split, removed, answered⟩
  · rw [idle]
    exact untouched_rfl other state
  · have own := own_entry kept sound below id window shown entry (by simp [split])
    rw [answered]
    constructor
    · simp [post, Service.answer, setWindow, apart]
    · intro handle stored named
      have different : (handle, stored) ≠ (window.handle, entry) := by
        rintro equal
        cases equal
        exact apart (named.symm.trans own)
      simp only [post, Service.answer, setWindow, split, removed, List.mem_append, List.mem_cons,
        different, false_or]
    · intro answer named
      have different : answer.request ≠ id := fun equal => apart (named.symm.trans equal)
      simp only [post, Service.answer, setWindow, List.mem_append, List.mem_singleton]
      refine ⟨fun present => present.resolve_right ?_, Or.inl⟩
      rintro rfl
      exact different rfl
    · intro cause
      simp [post, Service.answer, setWindow]

/-- The event is a step of one caller's `Cancel`: the bus call, the lookup it
posted, or the reject the lookup posted. -/
def CancelStep (state : Service) (promptId : String) (callerPid : Pid) : Event → Prop
  | .cancel named caller _ _ _ => named = promptId ∧ caller = callerPid
  | .perform index _ _ =>
      state.posted[index]? = some (.dismiss promptId callerPid) ∨
        ∃ id, state.posted[index]? = some (.reject id (.cancel promptId callerPid))
  | _ => False

/-- A lookup touches no window but the one registered under the id for its caller. -/
theorem dismiss_untouched (id : WindowId) (state : Service) (promptId : String) (callerPid : Pid)
    (aligned : state.registry.Aligned) (distinct : state.registry.handles.Nodup)
    (unnamed : promptId ≠ "" → ∀ handle, (handle, ⟨id, callerPid, promptId⟩) ∉ state.registry.live) :
    Untouched id state (state.dismissOnGuiThread promptId callerPid) := by
  rcases dismiss_cases promptId callerPid aligned distinct with idle |
    ⟨handle, found, filled, live, posted⟩
  · rw [idle]
    exact untouched_rfl id state
  · rw [posted]
    refine untouched_post id state _ ?_
    rintro cause equal
    cases equal
    exact unnamed filled handle live

/-- A step of a cancellation touches no window but one that is registered under the
id for its caller, or that it has a reject queued for. -/
theorem cancel_untouched (promptId : String) (callerPid : Pid) (event : Event) (next : Service)
    (id : WindowId) (kept : state.Kept) (sound : state.Sound [])
    (below : state.registrations.length < 2 ^ 64)
    (cancelling : CancelStep state promptId callerPid event)
    (stepped : step state event = some next)
    (unnamed : promptId ≠ "" → ∀ handle, (handle, ⟨id, callerPid, promptId⟩) ∉ state.registry.live)
    (unaddressed : GuiTask.reject id (.cancel promptId callerPid) ∉ state.posted) :
    Untouched id state next := by
  have aligned := kept.recorded.aligned
  have distinct := PromptRegistry.handles_distinct kept.recorded below
  cases event with
  | cancel named caller delivery now memfds =>
    obtain ⟨rfl, rfl⟩ := cancelling
    cases Option.some.inj stepped
    rw [cancel]
    split
    · exact untouched_rfl id state
    · cases delivery with
      | direct => exact dismiss_untouched id state named caller aligned distinct unnamed
      | queued => exact untouched_post id state _ (by simp)
      | failed => exact untouched_rfl id state
  | perform index now memfds =>
    obtain ⟨task, queued, rfl⟩ := Option.map_eq_some_iff.mp stepped
    rcases cancelling with lookup | ⟨target, rejecting⟩
    · cases Option.some.inj (queued.symm.trans lookup)
      exact untouched_trans (untouched_dequeued id index _ queued (by simp))
        (dismiss_untouched id { state with posted := state.posted.eraseIdx index }
          promptId callerPid aligned distinct unnamed)
    · cases Option.some.inj (queued.symm.trans rejecting)
      have apart : id ≠ target := by
        rintro rfl
        exact unaddressed (List.mem_of_getElem? queued)
      have remaining := sound_dequeued index _ queued sound
      have dequeued := untouched_dequeued id index _ queued
        (fun cause => by simp [Ne.symm apart])
      rw [perform]
      split
      · exact dequeued
      · rename_i window shown
        exact untouched_trans dequeued
          (finished_untouched target id window false memfds shown ⟨kept.recorded, kept.harmless⟩
            remaining below apart)
  | requestSecret => exact cancelling.elim
  | requestSecrets => exact cancelling.elim
  | reset => exact cancelling.elim
  | interact => exact cancelling.elim
  | accept => exact cancelling.elim
  | done => exact cancelling.elim
  | expire => exact cancelling.elim

/-- At some moment of the run the window was registered under the id for the
owner. -/
def WasRegistered (events : List Event) (id : WindowId) (ownerPid : Pid) (promptId : String) : Prop :=
  ∃ before after middle handle, events = before ++ after ∧
    Runs.run step {} before = some middle ∧
    (handle, ⟨id, ownerPid, promptId⟩) ∈ middle.registry.live

/-- A queued reject of a cancellation goes to a window that was registered under
the cancelled id for the cancelling caller. The step that queued it found the window
so, in a state with no more registrations than now. -/
theorem reject_addressed (events : List Event) (reached : Runs.run step {} events = some state)
    (below : state.registrations.length < 2 ^ 64) (id : WindowId) (promptId : String)
    (callerPid : Pid) (queued : GuiTask.reject id (.cancel promptId callerPid) ∈ state.posted) :
    promptId ≠ "" ∧ WasRegistered events id callerPid promptId := by
  obtain ⟨before, event, after, middle, next, split, earlier, stepped, absent, present⟩ :=
    Runs.run_established step
      (fun state => GuiTask.reject id (.cancel promptId callerPid) ∈ state.posted)
      events {} state reached (by simp) queued
  have recorded := (reached_kept before middle earlier).recorded
  have fewer : middle.registrations.length ≤ state.registrations.length := by
    obtain ⟨between, sooner, later⟩ :=
      Runs.run_append_inv step {} state before (event :: after) (split ▸ reached)
    cases Option.some.inj (sooner.symm.trans earlier)
    exact Runs.run_grows step (fun state => state.registrations.length) registrations_grow
      (event :: after) middle state later
  have distinct := PromptRegistry.handles_distinct recorded (Nat.lt_of_le_of_lt fewer below)
  obtain ⟨filled, handle, live⟩ :=
    (step_posts event next recorded.aligned distinct stepped _ present).resolve_left absent
  exact ⟨filled, before, event :: after, middle, handle, split, earlier, live⟩

/-- The request an event brings to the GUI thread. -/
def raisedBy (state : Service) : Event → Option RaiseRequest
  | .requestSecret callerPid kind options .direct _ _ =>
      if callerPid = 0 then none
      else (parseKind kind).map (fun kind => raiseRequest state.nextRequest callerPid kind options)
  | .requestSecrets callerPid kind options .direct _ _ =>
      if callerPid = 0 ∨ kind ≠ kKindChangePin then none
      else some (raiseChangePinRequest state.nextRequest callerPid options)
  | .perform index _ _ =>
      match state.posted[index]? with
      | some (.raise request) => some request
      | _ => none
  | _ => none

/-- A raise that names a live window only uses its own reply handle. -/
structure RefusedRaise (request : RaiseRequest) (before after : Service) : Prop where
  answered : ∃ fds, after.answers = before.answers ++ [⟨request.request, .error, fds⟩]
  registry : after.registry = before.registry
  windows : after.windows = before.windows

/-- Raising under a live id is refused. The handler may have taken the request
off the queue, or issued its handle, since `state`. -/
theorem raise_claimed (running : Service) (request : RaiseRequest) (now : Nat) (memfds : Memfds)
    (handle : Handle) (registry : running.registry = state.registry)
    (windows : running.windows = state.windows) (answers : running.answers = state.answers)
    (aligned : state.registry.Aligned)
    (claimed : state.registry.findByPromptId request.promptId = some handle) :
    RefusedRaise request state (running.raiseWindow request now memfds) := by
  rw [raiseWindow, registry, PromptRegistry.add_claimed aligned _ _ _ handle claimed]
  refine ⟨⟨emptyFds request.multi memfds, ?_⟩, registry, windows⟩
  rw [← answers]
  rfl

/-- The event that brings a request to the GUI thread while its id is live
refuses it. -/
theorem raised_claimed (event : Event) (next : Service) (request : RaiseRequest) (handle : Handle)
    (aligned : state.registry.Aligned) (raised : raisedBy state event = some request)
    (stepped : step state event = some next)
    (claimed : state.registry.findByPromptId request.promptId = some handle) :
    RefusedRaise request state next := by
  unfold raisedBy at raised
  split at raised
  · rename_i callerPid kind options now memfds
    cases Option.some.inj stepped
    split at raised
    · cases raised
    · rename_i authorized
      obtain ⟨parsed, known, rfl⟩ := Option.map_eq_some_iff.mp raised
      simp only [requestSecret, authorized, if_false, known, deliver, perform]
      exact raise_claimed state.nextReply _ now memfds handle rfl rfl rfl aligned claimed
  · rename_i callerPid kind options now memfds
    cases Option.some.inj stepped
    split at raised
    · cases raised
    · rename_i authorized
      cases Option.some.inj raised
      obtain ⟨resolved, known⟩ := not_or.mp authorized
      simp only [requestSecrets, resolved, known, if_false, deliver, perform]
      exact raise_claimed state.nextReply _ now memfds handle rfl rfl rfl aligned claimed
  · rename_i index now memfds
    split at raised
    · rename_i posted queued
      cases Option.some.inj raised
      simp only [step, queued, Option.map_some, Option.some.injEq] at stepped
      subst next
      exact raise_claimed { state with posted := state.posted.eraseIdx index }
        _ now memfds handle rfl rfl rfl aligned claimed
    · cases raised
  · cases raised

/-- The prompter's answering discipline, in every state that any interleaving of
bus calls, posted work and window events reaches. A reply sent without a secret
carries only empty descriptors. A request that reaches the GUI thread while its
non-empty id is live is answered with an error, and the window that carries the id
stays registered. As long as fewer than `2 ^ 64` windows were registered, a reply
handle is used at most once, and its window is then no longer registered; the window
that refuses a request is unanswered; and a queued reject that a cancellation caused
is for a window once registered under the cancelled, non-empty id for the cancelling
caller, while no step of the cancellation touches any other window, its entry, its
reply or the rejects queued for it.

Proof: refusals and the registry's alignment are kept by every step. Below the limit
the reply handles are conserved, and a used one is apart from the registered ones. A
queued reject is traced to the step that queued it. -/
theorem answering_discipline (events : List Event) (state : Service)
    (reached : Runs.run step {} events = some state) :
    (∀ answer ∈ state.answers, answer.sent = true → answer.status ≠ .ok →
      answer.status ≠ .okMrz → ∀ fd ∈ answer.fds, fd = some ⟨"", none⟩) ∧
    (∀ event next request, raisedBy state event = some request →
      step state event = some next → request.promptId ≠ "" →
      ∀ entry ∈ state.registry.entries, entry.promptId = request.promptId →
        RefusedRaise request state next ∧ entry ∈ next.registry.entries) ∧
    (state.registrations.length < 2 ^ 64 →
      ((state.answers.map Answer.request).Nodup ∧
        ∀ answer ∈ state.answers, ∀ entry ∈ state.registry.entries,
          entry.window ≠ answer.request) ∧
      (∀ promptId callerPid,
        (∀ id, GuiTask.reject id (.cancel promptId callerPid) ∈ state.posted →
          promptId ≠ "" ∧ WasRegistered events id callerPid promptId) ∧
        ∀ event next id, CancelStep state promptId callerPid event →
          step state event = some next →
          ¬ (promptId ≠ "" ∧ WasRegistered events id callerPid promptId) →
          Untouched id state next) ∧
      ∀ event next request, raisedBy state event = some request →
        step state event = some next → request.promptId ≠ "" →
        ∀ entry ∈ state.registry.entries, entry.promptId = request.promptId →
          entry.window ∉ next.answers.map Answer.request) := by
  have kept := reached_kept events state reached
  have aligned := kept.recorded.aligned
  have claimed : ∀ promptId, promptId ≠ "" → ∀ entry ∈ state.registry.entries,
      entry.promptId = promptId →
      ∃ handle, (handle, entry) ∈ state.registry.live ∧
        state.registry.findByPromptId promptId = some handle := by
    intro promptId filled entry stored carried
    rw [← PromptRegistry.live_entries aligned] at stored
    obtain ⟨⟨handle, live⟩, member, rfl⟩ := List.mem_map.mp stored
    exact ⟨handle, member, (PromptRegistry.find_by_prompt_id_iff aligned promptId handle).mpr
      ⟨filled, live, member, carried⟩⟩
  refine ⟨?_, ?_, fun below => ⟨⟨?_, ?_⟩, ?_, ?_⟩⟩
  · intro answer used sent notOk notMrz fd member
    have refused : answer.granted = false := by simp [Answer.granted, notOk, notMrz]
    rcases kept.harmless answer used refused fd member with missing | empty
    · have present : fd.isSome = true := List.all_eq_true.mp sent fd member
      simp [missing] at present
    · exact empty
  · intro event next request raised stepped filled entry stored carried
    obtain ⟨handle, -, found⟩ := claimed request.promptId filled entry stored carried
    have refused := raised_claimed event next request handle aligned raised stepped found
    exact ⟨refused, refused.registry ▸ stored⟩
  · exact (List.nodup_append.mp (places_nodup (reached_sound events state reached below))).1
  · intro answer used entry stored
    rw [← PromptRegistry.live_entries aligned] at stored
    obtain ⟨⟨handle, live⟩, member, rfl⟩ := List.mem_map.mp stored
    exact answered_unregistered (reached_sound events state reached below) answer.request
      (List.mem_map_of_mem used) handle live member
  · intro promptId callerPid
    have addressed := fun id => reject_addressed events reached below id promptId callerPid
    refine ⟨addressed, ?_⟩
    intro event next id cancelling stepped unaddressed
    refine cancel_untouched promptId callerPid event next id kept
      (reached_sound events state reached below) below cancelling stepped ?_
      (fun queued => unaddressed (addressed id queued))
    intro filled handle live
    exact unaddressed ⟨filled, events, [], state, handle, (List.append_nil events).symm, reached, live⟩
  · intro event next request raised stepped filled entry stored carried answered
    obtain ⟨handle, live, found⟩ := claimed request.promptId filled entry stored carried
    have refused := raised_claimed event next request handle aligned raised stepped found
    have after := sound_step state event next below kept
      (reached_sound events state reached below) stepped
    exact answered_unregistered after entry.window answered handle entry
      (refused.registry ▸ live) rfl

/-- The options of a prompt that names itself. -/
def namedOptions : Dict := Maps.emplace ∅ kOptPromptId (.string "reader-1")

/-- A prompt is raised; a second one under the same id is refused; the owner
cancels the first, and its window emits `finished` twice. -/
def rivalPrompts : List Event :=
  [.requestSecret 7 kKindPin namedOptions .queued 0 {}, .perform 0 0 {},
    .requestSecrets 7 kKindChangePin namedOptions .queued 0 {}, .perform 0 0 {},
    .cancel "reader-1" 7 .queued 0 {}, .perform 0 0 {}, .perform 0 0 {}, .done 0 true {}]

/-- The discipline on that run: the second request is answered first, the
cancelled one once, and neither twice. -/
theorem rival_prompts_disciplined :
    ∃ state, Runs.run step {} rivalPrompts = some state ∧
      state.answers = [⟨1, .error, [some ⟨"", none⟩, some ⟨"", none⟩]⟩,
        ⟨0, .cancelled, [some ⟨"", none⟩]⟩] ∧
      (state.answers.map Answer.request).Nodup := by
  refine ⟨(Runs.run step {} rivalPrompts).get (by decide +kernel), by simp, by decide +kernel, ?_⟩
  exact ((answering_discipline rivalPrompts _ (by simp)).2.2 (by decide +kernel)).1.1

/-! ## Past the counter's limit -/

/-- The first window stands, alone on screen, and the counter is at `handle`. -/
structure Standing (state : Service) (handle : Handle) : Prop where
  registry : state.registry = ⟨[⟨0, 7, ""⟩], [1], handle⟩
  shown : ∃ window, state.windows 0 = some window ∧ window.handle = 1
  posted : state.posted = []
  later : 0 < state.nextRequest

/-- A prompt without an id. -/
def unnamedPrompt : Event := .requestSecret 7 kKindPin ∅ .direct 0 {}

/-- It is raised under the counter's handle, whatever that handle is. -/
theorem unnamed_prompt_raised (handle : Handle) (standing : state.Standing handle) :
    ∃ next window, step state unnamedPrompt = some next ∧
      next.registry = ⟨[⟨0, 7, ""⟩, ⟨state.nextRequest, 7, ""⟩], [1, handle], handle + 1⟩ ∧
      next.windows = Function.update state.windows state.nextRequest (some window) ∧
      window.handle = handle ∧ next.posted = [] ∧ next.nextRequest = state.nextRequest + 1 := by
  have unnamed : optionString ∅ kOptPromptId = "" := by decide
  have kind : parseKind kKindPin = some .pin := by decide
  let request := raiseRequest state.nextRequest 7 .pin ∅
  refine ⟨state.requestSecret 7 kKindPin ∅ .direct 0 {},
    ⟨handle, newDialog request 0, request.offerMrzSwitch, false⟩, rfl, ?_, ?_, rfl, ?_, ?_⟩ <;>
  simp [request, requestSecret, kind, nextReply, deliver, perform, raiseWindow, raiseRequest, unnamed,
    standing.registry, standing.posted, PromptRegistry.add, PromptRegistry.indexOfPromptId, setWindow]

/-- Closing a window answers its request with the entry its handle leads to. -/
theorem closed_taken (state : Service) (id : WindowId) (window : Window) (entry : Entry)
    (registry : PromptRegistry) (shown : state.windows id = some window)
    (taken : state.registry.take window.handle = (some entry, registry)) :
    ∃ next dialog, step state (.done id false {}) = some next ∧ next.registry = registry ∧
      next.windows = Function.update state.windows id (some { window with dialog }) ∧
      next.answers.map Answer.request = state.answers.map Answer.request ++ [id] ∧
      next.posted = state.posted ++ [.deleteLater id] ∧ next.nextRequest = state.nextRequest := by
  refine ⟨state.finished id window false {}, (window.complete false {}).dialog, ?_, ?_, ?_, ?_, ?_, ?_⟩
  · simp [step, shown]
  all_goals simp [finished, taken, post, Service.answer, setWindow]

/-- The prompt, its window closed at once, and the window's deletion. -/
def round (request : RequestId) : List Event :=
  [unnamedPrompt, .done request false {}, .perform 0 0 {}]

/-- A round moves the counter on by one, and the first window stands. -/
theorem round_done (handle : Handle) (apart : handle ≠ 1) (standing : state.Standing handle) :
    ∃ next, Runs.run step state (round state.nextRequest) = some next ∧
      next.Standing (handle + 1) ∧ next.nextRequest = state.nextRequest + 1 := by
  obtain ⟨raised, window, prompted, registered, windows, issued, idle, counted⟩ :=
    unnamed_prompt_raised handle standing
  obtain ⟨first, shown, one⟩ := standing.shown
  have separate : (0 : WindowId) ≠ state.nextRequest := Nat.ne_of_lt standing.later
  obtain ⟨closed, dialog, answered, left, kept, -, posted, still⟩ :=
    closed_taken raised state.nextRequest window ⟨state.nextRequest, 7, ""⟩
      ⟨[⟨0, 7, ""⟩], [1], handle + 1⟩
      (by simp [windows])
      (by simp [registered, issued, PromptRegistry.take, List.findIdx?_cons, apart.symm])
  refine ⟨{ closed with posted := [] }.setWindow state.nextRequest none, ?_, ?_, still.trans counted⟩
  · have deleted : step closed (.perform 0 0 {}) =
        some ({ closed with posted := [] }.setWindow state.nextRequest none) := by
      simp [step, posted, idle, perform]
    simp [round, Runs.run, prompted, answered, deleted]
  · refine ⟨left, ⟨first, ?_, one⟩, rfl, ?_⟩
    · simp [setWindow, kept, windows, separate, shown]
    · simp [setWindow, still, counted]

/-- One round after the other. -/
def rounds : Nat → RequestId → List Event
  | 0, _ => []
  | count + 1, request => round request ++ rounds count (request + 1)

/-- The counter moves on by the rounds. -/
theorem rounds_done (count : Nat) (handle : Handle)
    (apart : ∀ index < count, handle + UInt64.ofNat index ≠ 1) (standing : state.Standing handle) :
    ∃ next, Runs.run step state (rounds count state.nextRequest) = some next ∧
      next.Standing (handle + UInt64.ofNat count) ∧
      next.nextRequest = state.nextRequest + count := by
  induction count generalizing state handle with
  | zero => exact ⟨state, rfl, by simpa using standing, rfl⟩
  | succ count inductionHypothesis =>
    obtain ⟨middle, once, still, counted⟩ :=
      round_done handle (by simpa using apart 0 (Nat.succ_pos count)) standing
    have later : ∀ index < count, handle + 1 + UInt64.ofNat index ≠ 1 := by
      intro index member
      rw [Counters.count_from]
      exact apart (index + 1) (Nat.succ_lt_succ member)
    obtain ⟨next, rest, stands, issued⟩ := inductionHypothesis (handle + 1) later still
    refine ⟨next, ?_, Counters.count_from handle count ▸ stands, ?_⟩
    · rw [rounds, Runs.run_append, once, Option.bind_some, ← counted]
      exact rest
    · rw [issued, counted, Nat.add_assoc, Nat.add_comm 1]

/-- A window stands while the counter goes through all its values, a second one is
raised, and the first emits `finished` twice. -/
def overrun : List Event :=
  unnamedPrompt :: (rounds (2 ^ 64 - 1) 1 ++
    [unnamedPrompt, .done 0 false {}, .done 0 false {}])

/-- The second window got the handle of the first, so the first also takes its entry,
and the first request is answered twice. -/
theorem reissued_handle_answers_twice :
    ∃ state, Runs.run step {} overrun = some state ∧
      ¬ (state.answers.map Answer.request).Nodup := by
  obtain ⟨opened, prompted, issued, standing⟩ : ∃ opened, step {} unnamedPrompt = some opened ∧
      opened.nextRequest = 1 ∧ opened.Standing 2 := by
    exact ⟨requestSecret {} 7 kKindPin ∅ .direct 0 {}, rfl, by decide, by decide, ⟨_, rfl, rfl⟩,
      by decide, by decide⟩
  have apart : ∀ index < 2 ^ 64 - 1, (2 : Handle) + UInt64.ofNat index ≠ 1 := by
    intro index member
    rw [show (2 : Handle) = 1 + 1 from rfl, Counters.count_from]
    exact Counters.count_apart 1 (index + 1) (Nat.succ_pos index) (Nat.succ_lt_of_lt_pred member)
  have around : (2 : Handle) + UInt64.ofNat (2 ^ 64 - 1) = 1 := by decide
  obtain ⟨middle, counted, stands, -⟩ := rounds_done (2 ^ 64 - 1) 2 apart standing
  rw [around] at stands
  rw [issued] at counted
  obtain ⟨raised, window, again, registered, windows, -, -, -⟩ := unnamed_prompt_raised 1 stands
  obtain ⟨first, shown, one⟩ := stands.shown
  have separate : (0 : WindowId) ≠ middle.nextRequest := Nat.ne_of_lt stands.later
  obtain ⟨once, dialog, closed, left, kept, answered, -, -⟩ :=
    closed_taken raised 0 first ⟨0, 7, ""⟩ ⟨[⟨middle.nextRequest, 7, ""⟩], [1], 2⟩
      (by simp [windows, separate, shown])
      (by simp [registered, one, PromptRegistry.take, List.findIdx?_cons])
  obtain ⟨twice, _, closedAgain, -, -, answeredAgain, -, -⟩ :=
    closed_taken once 0 { first with dialog } ⟨middle.nextRequest, 7, ""⟩ ⟨[], [], 2⟩
      (by simp [kept])
      (by simp [left, one, PromptRegistry.take, List.findIdx?_cons])
  refine ⟨twice, ?_, ?_⟩
  · rw [overrun, Runs.run, prompted, Option.bind_some, Runs.run_append, counted]
    simp [Runs.run, again, closed, closedAgain]
  · rw [answeredAgain, answered, List.append_assoc]
    intro distinct
    have last := (List.nodup_append.mp distinct).2.1
    simp at last

end LibreLinux.Prompter.Service
