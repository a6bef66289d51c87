import LibreLinux.Prompter.Answering

/-!
# Where a secret comes from

A reply that announces a secret was made by the window of its own request, at the moment the
holder accepted it, from the form that stood there. The window was raised for the bus call that
brought the reply handle, with the options of that call; nothing that happened in between, to
this window or to another, changes whose answer it is.

The past of a state lists its steps with the states they were taken in, so the bus call, the
window and the accepting step can be named.
-/

namespace LibreLinux.Prompter

open Wire Runs

/-- What the single-secret capture of a form would seal. -/
def InputWidget.secret : InputWidget → String
  | .pin entered => entered
  | .can entered => entered
  | .mrz entered => entered
  | .changePin current _ _ => current

/-- A capture that succeeds seals what the form holds, in its own name. -/
theorem InputWidget.capture_secret (widget : InputWidget) (created : Bool) (fd : SealedMemfd)
    (captured : (widget.captureSecretFd created).1 = some fd) :
    fd = ⟨widget.secret, some widget.form⟩ := by
  cases created with
  | false => cases widget <;> simp [captureSecretFd, makeSealedSecretFd] at captured
  | true =>
    cases widget <;> simp only [captureSecretFd, makeSealedSecretFd, if_true,
      Option.some.injEq] at captured <;> exact captured.symm

namespace Service

/-- The past of a state of the service. -/
abbrev Past := List (Service × Event)

/-- The bus call that brought the reply handle of a window. -/
inductive Requested (past : Past) : RaiseRequest → Prop
  | single (state : Service) (callerPid : Pid) (kind : String) (options : Dict)
      (delivery : Delivery) (now : Nat) (memfds : Memfds) (parsed : Kind)
      (member : (state, .requestSecret callerPid kind options delivery now memfds) ∈ past)
      (authorized : callerPid ≠ 0) (known : parseKind kind = some parsed) :
      Requested past (raiseRequest state.nextRequest callerPid parsed options)
  | pinChange (state : Service) (callerPid : Pid) (options : Dict) (delivery : Delivery)
      (now : Nat) (memfds : Memfds)
      (member :
        (state, .requestSecrets callerPid kKindChangePin options delivery now memfds) ∈ past)
      (authorized : callerPid ≠ 0) :
      Requested past (raiseChangePinRequest state.nextRequest callerPid options)

/-- The window of a request: its options, and a form of the requested kind unless the switch
was offered. -/
structure Shows (request : RaiseRequest) (window : Window) : Prop where
  offer : window.offerMrzSwitch = request.offerMrzSwitch
  multi : window.multi = request.multi
  opts : window.dialog.opts = request.opts
  form : window.dialog.FormShown
  kept : request.opts.offerMrzSwitch = false → window.dialog.kind = request.kind
  single : request.multi = false → window.dialog.kind ≠ .changePin

/-- The holder's accept that made a reply: the window as it stood then, and what its form
held. A PIN change is accepted with both entries of the new PIN equal. -/
inductive AcceptedAt (past : Past) (answer : Answer) (window : Window) : Prop
  | single (before : Service) (event : Event) (memfds : Memfds)
      (accepting : event = .accept answer.request memfds ∨ event = .done answer.request true memfds)
      (member : (before, event) ∈ past) (stood : before.windows answer.request = some window)
      (one : window.multi = false)
      (sealed :
        answer.fds = [some ⟨window.dialog.widget.secret, some window.dialog.widget.form⟩])
      (status : answer.status =
        if window.offerMrzSwitch && window.dialog.mrzChosen then .okMrz else .ok)
  | pinChange (before : Service) (memfds : Memfds) (current entered : String)
      (member : (before, .accept answer.request memfds) ∈ past)
      (stood : before.windows answer.request = some window) (two : window.multi = true)
      (confirmed : window.dialog.widget = .changePin current entered entered)
      (sealed :
        answer.fds = [some ⟨current, some .changePin⟩, some ⟨entered, some .changePin⟩])
      (status : answer.status = .ok)

/-- A reply that announces a secret is the holder's answer to its own request. -/
def Accepted (past : Past) (answer : Answer) : Prop :=
  ∃ request window, Requested past request ∧ request.request = answer.request ∧
    Shows request window ∧ AcceptedAt past answer window

/-- The invariant. What is posted or on screen was asked for, the two secrets that a window
keeps were captured by an accept, and every reply with a secret was accepted. No handle of the
registry enters it: a completion answers for its own window, whatever entry it takes. -/
structure Traced (past : Past) (state : Service) : Prop where
  posted : ∀ request, GuiTask.raise request ∈ state.posted → Requested past request
  windows : ∀ id window, state.windows id = some window →
    ∃ request, Requested past request ∧ request.request = id ∧ Shows request window
  taken : ∀ id window, state.windows id = some window →
    ∀ primary secondary, window.dialog.captured = ⟨some primary, some secondary⟩ →
      Accepted past ⟨id, .ok, [some primary, some secondary]⟩
  granted : ∀ answer ∈ state.answers, answer.granted = true → Accepted past answer

variable {past : Past} {state : Service}

theorem Requested.later {request : RaiseRequest} (requested : Requested past request)
    (more : Past) : Requested (past ++ more) request := by
  cases requested with
  | single state callerPid kind options delivery now memfds parsed member authorized known =>
    exact .single state callerPid kind options delivery now memfds parsed
      (List.mem_append_left _ member) authorized known
  | pinChange state callerPid options delivery now memfds member authorized =>
    exact .pinChange state callerPid options delivery now memfds (List.mem_append_left _ member)
      authorized

theorem AcceptedAt.later {answer : Answer} {window : Window}
    (accepted : AcceptedAt past answer window) (more : Past) :
    AcceptedAt (past ++ more) answer window := by
  cases accepted with
  | single before event memfds accepting member stood one sealed status =>
    exact .single before event memfds accepting (List.mem_append_left _ member) stood one sealed
      status
  | pinChange before memfds current entered member stood two confirmed sealed status =>
    exact .pinChange before memfds current entered (List.mem_append_left _ member) stood two
      confirmed sealed status

theorem Accepted.later {answer : Answer} (accepted : Accepted past answer) (more : Past) :
    Accepted (past ++ more) answer := by
  obtain ⟨request, window, requested, own, shows, made⟩ := accepted
  exact ⟨request, window, requested.later more, own, shows, made.later more⟩

/-- What is traced stays traced as the past grows. -/
theorem Traced.later (traced : Traced past state) (more : Past) : Traced (past ++ more) state where
  posted := fun request member => (traced.posted request member).later more
  windows := fun id window shown =>
    let ⟨request, requested, own, shows⟩ := traced.windows id window shown
    ⟨request, requested.later more, own, shows⟩
  taken := fun id window shown primary secondary captured =>
    (traced.taken id window shown primary secondary captured).later more
  granted := fun answer member granted => (traced.granted answer member granted).later more

/-- A PIN change is asked for with the kind of its own and offers no switch; every other
request has one of the other kinds. -/
theorem Requested.shape {request : RaiseRequest} (requested : Requested past request) :
    (request.multi = true → request.kind = .changePin ∧ request.opts.offerMrzSwitch = false) ∧
      (request.multi = false → request.kind ≠ .changePin) := by
  cases requested with
  | single state callerPid kind options delivery now memfds parsed member authorized known =>
    refine ⟨fun multi => (by cases multi), fun _ => ?_⟩
    unfold parseKind at known
    split at known
    · cases known
      simp [raiseRequest]
    · split at known
      · cases known
        simp [raiseRequest]
      · split at known
        · cases known
          simp [raiseRequest]
        · cases known
  | pinChange state callerPid options delivery now memfds member authorized =>
    exact ⟨fun _ => ⟨rfl, rfl⟩, fun single => (by cases single)⟩

/-! ## Windows -/

/-- A new window shows its request. -/
theorem shows_new {request : RaiseRequest} (requested : Requested past request) (handle : Handle)
    (now : Nat) :
    Shows request { handle, dialog := newDialog request now,
                    offerMrzSwitch := request.offerMrzSwitch, multi := request.multi } where
  offer := rfl
  multi := rfl
  opts := rfl
  form := PromptDialog.form_created request.kind request.opts
  kept := fun _ => rfl
  single := requested.shape.2

/-- An interaction keeps what a window shows, and what it captured. -/
theorem shows_interact {request : RaiseRequest} (window : Window)
    (action : PromptDialog.Interaction) (dialog : PromptDialog) (shows : Shows request window)
    (acted : window.dialog.interact action = some dialog) :
    Shows request { window with dialog } ∧ dialog.captured = window.dialog.captured := by
  cases action with
  | edit widget =>
    obtain ⟨form, kind⟩ := PromptDialog.form_edited window.dialog dialog widget shows.form acted
    simp only [PromptDialog.interact, PromptDialog.edit] at acted
    split at acted
    · cases Option.some.inj acted
      exact ⟨⟨shows.offer, shows.multi, shows.opts, form, kind ▸ shows.kept, kind ▸ shows.single⟩,
        rfl⟩
    · cases acted
  | swap now =>
    simp only [PromptDialog.interact] at acted
    split at acted
    · rename_i offered
      cases Option.some.inj acted
      rw [shows.opts] at offered
      refine ⟨⟨shows.offer, shows.multi, shows.opts, PromptDialog.form_swapped window.dialog now,
        fun refused => ?_, fun _ => ?_⟩, rfl⟩
      · rw [refused] at offered
        cases offered
      · by_cases mrz : window.dialog.kind = .mrz <;> simp [PromptDialog.swapInputKind, mrz]
    · cases acted
  | shown now =>
    cases Option.some.inj acted
    exact ⟨⟨shows.offer, shows.multi, shows.opts, shows.form, shows.kept, shows.single⟩, rfl⟩

/-- The capture of a form leaves its family. -/
theorem form_after_capture (widget : InputWidget) (created : Bool) :
    (widget.captureSecretFd created).2.form = widget.form := by
  cases widget <;> rfl

/-- A completion keeps what its window shows. -/
theorem shows_complete {request : RaiseRequest} (window : Window) (accepted : Bool)
    (memfds : Memfds) (shows : Shows request window) :
    Shows request { window with dialog := (window.complete accepted memfds).dialog } := by
  have same : ∀ dialog : PromptDialog, dialog.opts = window.dialog.opts →
      dialog.kind = window.dialog.kind → dialog.widget.form = window.dialog.widget.form →
      Shows request { window with dialog } := by
    intro dialog opts kind form
    exact ⟨shows.offer, shows.multi, opts.trans shows.opts,
      form.trans (shows.form.trans kind.symm), fun refused => kind.trans (shows.kept refused),
      fun one => kind ▸ shows.single one⟩
  unfold Window.complete
  split
  · unfold Window.completeSecrets
    split
    · split
      · rename_i taken
        rw [PromptDialog.takeSecretFdPair, Prod.mk.injEq] at taken
        exact same _ (by rw [← taken.2]) (by rw [← taken.2]) (by rw [← taken.2])
      · rename_i taken
        rw [PromptDialog.takeSecretFdPair, Prod.mk.injEq] at taken
        exact same _ (by rw [← taken.2]) (by rw [← taken.2]) (by rw [← taken.2])
    · exact same _ rfl rfl rfl
  · have captured : ∀ fd dialog, window.dialog.captureSecretFd memfds.primary = (fd, dialog) →
        Shows request { window with dialog } := by
      intro fd dialog captured
      rw [PromptDialog.captureSecretFd, Prod.mk.injEq] at captured
      exact same dialog (by rw [← captured.2]) (by rw [← captured.2])
        (by rw [← captured.2]; exact form_after_capture _ _)
    unfold Window.completeSecret
    split
    · split
      · rename_i dialog failed
        exact captured none dialog failed
      · rename_i fd dialog sealed
        exact captured (some fd) dialog sealed
    · exact same _ rfl rfl rfl

/-! ## Operations -/

/-- A reply without a secret needs no origin. -/
theorem traced_answer (answer : Answer) (refused : answer.granted = false)
    (traced : Traced past state) : Traced past (state.answer answer) where
  posted := traced.posted
  windows := traced.windows
  taken := traced.taken
  granted := by
    intro other member granted
    rcases List.mem_append.mp member with earlier | last
    · exact traced.granted other earlier granted
    · rw [List.mem_singleton.mp last, refused] at granted
      cases granted

/-- A posted raise was asked for; other tasks need no origin. -/
theorem traced_post (task : GuiTask)
    (asked : ∀ request, task = .raise request → Requested past request)
    (traced : Traced past state) : Traced past (state.post task) where
  posted := by
    intro request member
    rcases List.mem_append.mp member with earlier | last
    · exact traced.posted request earlier
    · exact asked request (List.mem_singleton.mp last).symm
  windows := traced.windows
  taken := traced.taken
  granted := traced.granted

/-- A refusal announces no secret. -/
theorem traced_refuse (request : RequestId) (multi : Bool) (status : PromptReplyStatus)
    (memfds : Memfds) (refused : status ≠ .ok ∧ status ≠ .okMrz) (traced : Traced past state) :
    Traced past (state.refuse request multi status memfds) :=
  traced_answer _ (by simp [Answer.granted, refused]) traced

/-- A window that shows its request and captured nothing on its own. -/
theorem traced_window (state : Service) (id : WindowId) (window : Window)
    (shows : ∃ request, Requested past request ∧ request.request = id ∧ Shows request window)
    (taken : ∀ primary secondary, window.dialog.captured = ⟨some primary, some secondary⟩ →
      Accepted past ⟨id, .ok, [some primary, some secondary]⟩)
    (traced : Traced past state) : Traced past (state.setWindow id (some window)) where
  posted := traced.posted
  windows := by
    intro other found present
    by_cases same : other = id
    · subst other
      simp only [setWindow, Function.update_self, Option.some.injEq] at present
      exact present ▸ shows
    · simp only [setWindow, Function.update_of_ne same] at present
      exact traced.windows other found present
  taken := by
    intro other found present
    by_cases same : other = id
    · subst other
      simp only [setWindow, Function.update_self, Option.some.injEq] at present
      exact present ▸ taken
    · simp only [setWindow, Function.update_of_ne same] at present
      exact traced.taken other found present
  granted := traced.granted

/-- A window is raised for the request it was asked for. -/
theorem traced_raise (request : RaiseRequest) (now : Nat) (memfds : Memfds)
    (requested : Requested past request) (traced : Traced past state) :
    Traced past (state.raiseWindow request now memfds) := by
  rw [raiseWindow]
  split
  · exact traced_refuse _ _ _ memfds (by simp) traced
  · rename_i handle registry added
    refine traced_window _ request.request _
      ⟨request, requested, rfl, shows_new requested handle now⟩ ?_
      ⟨traced.posted, traced.windows, traced.taken, traced.granted⟩
    intro primary secondary captured
    cases captured

/-- What a completion leaves captured was captured before it. -/
theorem completion_captured (window : Window) (accepted : Bool) (memfds : Memfds)
    (primary secondary : SealedMemfd)
    (captured : (window.complete accepted memfds).dialog.captured =
      ⟨some primary, some secondary⟩) :
    window.dialog.captured = ⟨some primary, some secondary⟩ := by
  unfold Window.complete Window.completeSecrets Window.completeSecret at captured
  simp only [PromptDialog.takeSecretFdPair, PromptDialog.captureSecretFd] at captured
  split at captured
  · split at captured
    · split at captured <;>
        rename_i taken <;>
        rw [← (Prod.mk.inj taken).2] at captured <;>
        cases captured
    · exact captured
  · split at captured
    · split at captured <;>
        rename_i taken <;>
        rw [← (Prod.mk.inj taken).2] at captured <;>
        exact captured
    · exact captured

/-- A window's `finished` emission: if it finds an entry it answers, and an answer with a
secret has to be an accepted one. -/
theorem traced_finished (id : WindowId) (window : Window) (accepted : Bool) (memfds : Memfds)
    (shown : state.windows id = some window)
    (granted : Answer.granted ⟨id, (window.complete accepted memfds).status,
        (window.complete accepted memfds).fds⟩ = true →
      Accepted past ⟨id, (window.complete accepted memfds).status,
        (window.complete accepted memfds).fds⟩)
    (traced : Traced past state) : Traced past (state.finished id window accepted memfds) := by
  rw [finished]
  split
  · exact traced
  · rename_i entry registry found
    obtain ⟨request, requested, own, shows⟩ := traced.windows id window shown
    have completed := traced_window { state with registry } id
      { window with dialog := (window.complete accepted memfds).dialog }
      ⟨request, requested, own, shows_complete window accepted memfds shows⟩
      (fun primary secondary captured => traced.taken id window shown primary secondary
        (completion_captured window accepted memfds primary secondary captured))
      ⟨traced.posted, traced.windows, traced.taken, traced.granted⟩
    refine traced_post _ (by simp) ⟨completed.posted, completed.windows, completed.taken, ?_⟩
    intro given member announced
    rcases List.mem_append.mp member with earlier | last
    · exact completed.granted given earlier announced
    · rw [List.mem_singleton.mp last] at announced ⊢
      exact granted announced

/-- Rejects are posted without an origin. -/
theorem traced_dismiss_every (entries : List Entry) (start : Service)
    (traced : Traced past start) :
    Traced past (entries.foldl (fun state entry => state.post (.reject entry.window .reset)) start) := by
  induction entries generalizing start with
  | nil => exact traced
  | cons entry rest inductionHypothesis =>
    exact inductionHypothesis _ (traced_post _ (by simp) traced)

/-- A window that is closed without an accept announces no secret. -/
theorem closed_not_granted (id : WindowId) (window : Window) (memfds : Memfds) :
    Answer.granted ⟨id, (window.complete false memfds).status, (window.complete false memfds).fds⟩ =
      false := by
  have status : window.closedStatus ≠ .ok ∧ window.closedStatus ≠ .okMrz := by
    unfold Window.closedStatus
    split <;> simp
  unfold Window.complete
  split <;> simp [Window.completeSecrets, Window.completeSecret, Answer.granted, status]

/-- A dismissed or expired window answers without a secret. -/
theorem traced_closed (id : WindowId) (window : Window) (memfds : Memfds)
    (shown : state.windows id = some window) (traced : Traced past state) :
    Traced past (state.finished id window false memfds) := by
  refine traced_finished id window false memfds shown ?_ traced
  intro announced
  rw [closed_not_granted] at announced
  cases announced

/-- A performed task keeps the origins. -/
theorem traced_perform (task : GuiTask) (now : Nat) (memfds : Memfds)
    (asked : ∀ request, task = .raise request → Requested past request)
    (traced : Traced past state) : Traced past (state.perform task now memfds) := by
  cases task with
  | raise request => exact traced_raise request now memfds (asked request rfl) traced
  | dismiss promptId callerPid =>
    rcases dismiss_posts state promptId callerPid with idle | ⟨_, _, _, _, _, posted⟩
    · rw [perform, idle]
      exact traced
    · rw [perform, posted]
      exact traced_post _ (by simp) traced
  | dismissEvery => exact traced_dismiss_every _ state traced
  | reject id cause =>
    rw [perform]
    split
    · exact traced
    · rename_i window shown
      exact traced_closed id window memfds shown traced
  | deleteLater id =>
    have remaining : ∀ other window, (state.setWindow id none).windows other = some window →
        state.windows other = some window := by
      intro other window shown
      by_cases same : other = id
      · simp [setWindow, same] at shown
      · simpa only [setWindow, Function.update_of_ne same] using shown
    rw [perform]
    refine ⟨traced.posted, ?_, ?_, traced.granted⟩
    · intro other window shown
      exact traced.windows other window (remaining other window shown)
    · intro other window shown
      exact traced.taken other window (remaining other window shown)

/-! ## Accepting -/

/-- The completion of an accepted single-secret window announces what its form held. -/
theorem single_completion (window : Window) (memfds : Memfds) (one : window.multi = false)
    (announced : Answer.granted ⟨0, (window.complete true memfds).status,
      (window.complete true memfds).fds⟩ = true) :
    (window.complete true memfds).fds =
        [some ⟨window.dialog.widget.secret, some window.dialog.widget.form⟩] ∧
      (window.complete true memfds).status =
        if window.offerMrzSwitch && window.dialog.mrzChosen then .okMrz else .ok := by
  simp only [Window.complete, one, Bool.false_eq_true, if_false, Window.completeSecret,
    if_true] at announced ⊢
  cases captured : window.dialog.captureSecretFd memfds.primary with
  | mk fd dialog =>
    rw [captured] at announced
    cases fd with
    | none => simp [Answer.granted] at announced
    | some fd =>
      rw [PromptDialog.captureSecretFd, Prod.mk.injEq] at captured
      have sealed := InputWidget.capture_secret window.dialog.widget memfds.primary fd captured.1
      refine ⟨by rw [sealed], ?_⟩
      rw [← captured.2]
      rfl

/-- The completion of an accepted PIN change announces what its accept captured. -/
theorem pair_completion (window : Window) (memfds : Memfds) (two : window.multi = true)
    (announced : Answer.granted ⟨0, (window.complete true memfds).status,
      (window.complete true memfds).fds⟩ = true) :
    ∃ primary secondary, window.dialog.captured = ⟨some primary, some secondary⟩ ∧
      (window.complete true memfds).fds = [some primary, some secondary] ∧
      (window.complete true memfds).status = .ok := by
  simp only [Window.complete, two, if_true, Window.completeSecrets,
    PromptDialog.takeSecretFdPair] at announced ⊢
  cases captured : window.dialog.captured with
  | mk primary secondary =>
    rw [captured] at announced
    cases primary with
    | none => simp [Answer.granted] at announced
    | some primary =>
      cases secondary with
      | none => simp [Answer.granted] at announced
      | some secondary => exact ⟨primary, secondary, rfl, rfl, rfl⟩

/-- An accept after which both secrets are captured found them captured, or has sealed what
the form holds; that it does only when the two entries of the new PIN agree. -/
theorem accept_pair (dialog : PromptDialog) (created confirmedCreated : Bool)
    (primary secondary : SealedMemfd)
    (captured : (dialog.accept created confirmedCreated).1.captured =
      ⟨some primary, some secondary⟩) :
    dialog.captured = ⟨some primary, some secondary⟩ ∨
      ∃ current entered, dialog.widget = .changePin current entered entered ∧
        primary = ⟨current, some .changePin⟩ ∧ secondary = ⟨entered, some .changePin⟩ := by
  simp only [PromptDialog.accept] at captured
  split at captured
  · rename_i current entered confirm widget fresh
    split at captured
    · exact Or.inl captured
    · rename_i same
      right
      simp only [not_not] at same
      simp only [widget, InputWidget.captureSecretFd, InputWidget.captureNewSecretFd,
        makeSealedSecretFd, SecretFdPair.mk.injEq, Option.ite_none_right_eq_some,
        Option.some.injEq] at captured
      exact ⟨current, entered, by rw [widget, same], captured.1.2.symm, captured.2.2.symm⟩
  · exact Or.inl captured

/-- An interaction keeps the origins. -/
theorem traced_interact (id : WindowId) (window : Window) (action : PromptDialog.Interaction)
    (dialog : PromptDialog) (shown : state.windows id = some window)
    (acted : window.dialog.interact action = some dialog) (traced : Traced past state) :
    Traced past (state.setWindow id (some { window with dialog })) := by
  obtain ⟨request, requested, own, shows⟩ := traced.windows id window shown
  obtain ⟨keeps, captured⟩ := shows_interact window action dialog shows acted
  refine traced_window _ id _ ⟨request, requested, own, keeps⟩ ?_ traced
  intro primary secondary both
  exact traced.taken id window shown primary secondary (captured.symm.trans both)

/-- A blocked accept changes nothing. -/
theorem accept_blocked (dialog : PromptDialog) (primary secondary : Bool)
    (blocked : (dialog.accept primary secondary).2 = false) :
    (dialog.accept primary secondary).1 = dialog := by
  simp only [PromptDialog.accept] at blocked ⊢
  split
  · rename_i widget uncaptured
    simp only [widget, uncaptured] at blocked
    split_ifs at blocked with differ
    rw [if_pos differ]
  · rfl

/-- A form that is not the PIN change passes its accept through. -/
theorem accept_passes (dialog : PromptDialog) (primary secondary : Bool)
    (single : dialog.widget.form ≠ .changePin) :
    dialog.accept primary secondary = (dialog, true) := by
  unfold PromptDialog.accept
  cases widget : dialog.widget with
  | changePin current entered confirm => exact absurd (by rw [widget]; rfl) single
  | _ => rfl

/-- An accept keeps what its window shows. -/
theorem shows_accept {request : RaiseRequest} (window : Window) (primary secondary : Bool)
    (shows : Shows request window) :
    Shows request { window with dialog := (window.dialog.accept primary secondary).1 } := by
  simp only [PromptDialog.accept]
  split
  · rename_i current entered confirm uncaptured widget captured
    split
    · exact shows
    · refine ⟨shows.offer, shows.multi, shows.opts, ?_, shows.kept, shows.single⟩
      have form := shows.form
      rw [PromptDialog.FormShown, widget] at form
      rw [PromptDialog.FormShown, widget]
      exact form
  · exact shows

/-- The accept of a single-secret window in the last step made its reply. -/
theorem accepted_single (id : WindowId) (window : Window) (request : RaiseRequest) (event : Event)
    (memfds : Memfds) (accepting : event = .accept id memfds ∨ event = .done id true memfds)
    (shown : state.windows id = some window) (member : (state, event) ∈ past)
    (requested : Requested past request) (own : request.request = id)
    (shows : Shows request window) (one : window.multi = false)
    (announced : Answer.granted ⟨id, (window.complete true memfds).status,
      (window.complete true memfds).fds⟩ = true) :
    Accepted past ⟨id, (window.complete true memfds).status, (window.complete true memfds).fds⟩ := by
  obtain ⟨sealed, status⟩ := single_completion window memfds one announced
  exact ⟨request, window, requested, own, shows,
    .single state event memfds accepting member shown one sealed status⟩

/-- What a PIN change has captured after an accept, this accept or an earlier one sealed. -/
theorem accepted_pair (id : WindowId) (window : Window) (memfds : Memfds)
    (shown : state.windows id = some window) (member : (state, .accept id memfds) ∈ past)
    (traced : Traced past state) (primary secondary : SealedMemfd)
    (captured : (window.dialog.accept memfds.primary memfds.secondary).1.captured =
      ⟨some primary, some secondary⟩) :
    Accepted past ⟨id, .ok, [some primary, some secondary]⟩ := by
  rcases accept_pair window.dialog memfds.primary memfds.secondary primary secondary captured with
    before | ⟨current, entered, widget, rfl, rfl⟩
  · exact traced.taken id window shown primary secondary before
  · obtain ⟨request, requested, own, shows⟩ := traced.windows id window shown
    have two : window.multi = true := by
      by_contra one
      have single := shows.single (shows.multi ▸ Bool.not_eq_true _ ▸ one)
      have form := shows.form
      rw [PromptDialog.FormShown, widget] at form
      exact single form.symm
    exact ⟨request, window, requested, own, shows,
      .pinChange state memfds current entered member shown two widget rfl rfl⟩

/-- A completion that announces a secret was accepted. A PIN change hands over what was captured,
a single secret is captured by the completion of this step. -/
theorem completion_accepted (id : WindowId) (window shownBefore : Window) (event : Event)
    (memfds : Memfds) (accepting : event = .accept id memfds ∨ event = .done id true memfds)
    (member : (state, event) ∈ past) (shown : state.windows id = some shownBefore)
    (unchanged : window.multi = false → window = shownBefore)
    (shows : ∃ request, Requested past request ∧ request.request = id ∧ Shows request window)
    (taken : ∀ primary secondary, window.dialog.captured = ⟨some primary, some secondary⟩ →
      Accepted past ⟨id, .ok, [some primary, some secondary]⟩)
    (announced : Answer.granted ⟨id, (window.complete true memfds).status,
      (window.complete true memfds).fds⟩ = true) :
    Accepted past ⟨id, (window.complete true memfds).status, (window.complete true memfds).fds⟩ := by
  cases family : window.multi with
  | true =>
    obtain ⟨primary, secondary, captured, sealed, status⟩ :=
      pair_completion window memfds family announced
    rw [sealed, status]
    exact taken primary secondary captured
  | false =>
    cases unchanged family
    obtain ⟨request, requested, own, shows⟩ := shows
    exact accepted_single id window request event memfds accepting shown member requested own shows
      family announced

/-- The accept of the holder. -/
theorem traced_accept (id : WindowId) (window : Window) (memfds : Memfds)
    (shown : state.windows id = some window) (member : (state, .accept id memfds) ∈ past)
    (traced : Traced past state) :
    let dialog := (window.dialog.accept memfds.primary memfds.secondary).1
    Traced past ((state.setWindow id (some { window with dialog })).finished id
      { window with dialog } true memfds) := by
  intro dialog
  obtain ⟨request, requested, own, shows⟩ := traced.windows id window shown
  have keeps := shows_accept window memfds.primary memfds.secondary shows
  have taken := accepted_pair id window memfds shown member traced
  refine traced_finished id _ true memfds (by simp [setWindow]) ?_
    (traced_window _ id _ ⟨request, requested, own, keeps⟩ taken traced)
  refine completion_accepted id _ window (.accept id memfds) memfds (Or.inl rfl) member shown ?_
    ⟨request, requested, own, keeps⟩ taken
  intro one
  have single : window.dialog.kind ≠ .changePin := shows.single (shows.multi ▸ one)
  have passed := accept_passes window.dialog memfds.primary memfds.secondary
    (fun form => single (shows.form.symm.trans form))
  simp only [dialog, passed]

/-- A close of a window by the toolkit. Only an accepted one may announce a secret. -/
theorem traced_done (id : WindowId) (window : Window) (accepted : Bool) (memfds : Memfds)
    (shown : state.windows id = some window) (member : (state, .done id accepted memfds) ∈ past)
    (traced : Traced past state) : Traced past (state.finished id window accepted memfds) := by
  cases accepted with
  | false => exact traced_closed id window memfds shown traced
  | true =>
    refine traced_finished id window true memfds shown ?_ traced
    exact completion_accepted id window window (.done id true memfds) memfds (Or.inr rfl) member
      shown (fun _ => rfl) (traced.windows id window shown) (traced.taken id window shown)

/-- The expiry of a window: the clock ran out, nothing was captured. -/
theorem traced_expired (id : WindowId) (window : Window) (memfds : Memfds)
    (shown : state.windows id = some window) (traced : Traced past state) :
    Traced past ((state.setWindow id (some { window with dialog := window.dialog.expire })).finished
      id { window with dialog := window.dialog.expire } false memfds) := by
  obtain ⟨request, requested, own, shows⟩ := traced.windows id window shown
  refine traced_closed id _ memfds (by simp [setWindow])
    (traced_window _ id _ ⟨request, requested, own, ?_⟩ (traced.taken id window shown) traced)
  exact ⟨shows.offer, shows.multi, shows.opts, shows.form, shows.kept, shows.single⟩

/-! ## Runs -/

/-- A delivered raise of a request that was asked for. -/
theorem traced_deliver (request : RaiseRequest) (delivery : Delivery) (multi : Bool) (now : Nat)
    (memfds : Memfds) (requested : Requested past request) (traced : Traced past state) :
    Traced past (state.nextReply.deliver delivery (.raise request)
      (state.nextReply.refuse state.nextRequest multi .error memfds) now memfds) := by
  have issued : Traced past state.nextReply :=
    ⟨traced.posted, traced.windows, traced.taken, traced.granted⟩
  have asked : ∀ other, GuiTask.raise request = .raise other → Requested past other := by
    intro other same
    cases same
    exact requested
  cases delivery with
  | direct =>
    exact traced_perform (.raise request) now memfds asked issued
  | queued => exact traced_post _ asked issued
  | failed => exact traced_refuse _ _ _ memfds (by simp) issued

/-- A delivered dismissal raises nothing. -/
theorem traced_dismissal (task : GuiTask) (dismissal : GuiDismissal task) (delivery : Delivery)
    (now : Nat) (memfds : Memfds) (traced : Traced past state) :
    Traced past (state.deliver delivery task state now memfds) := by
  have raises : ∀ request, task = .raise request → Requested past request := by
    intro request same
    subst task
    cases dismissal
  cases delivery with
  | direct => exact traced_perform task now memfds raises traced
  | queued => exact traced_post task raises traced
  | failed => exact traced

/-- Every step keeps the origins.

Cases follow the event. A window comes from a posted request or from the call itself, a posted task
from a call, and an answer from the accept or the dismissal of its window. -/
theorem traced_step (past : Past) (state : Service) (event : Event) (next : Service)
    (traced : Traced past state) (stepped : step state event = some next) :
    Traced (past ++ [(state, event)]) next := by
  have now : (state, event) ∈ past ++ [(state, event)] := by simp
  replace traced := traced.later [(state, event)]
  have issued : Traced (past ++ [(state, event)]) state.nextReply :=
    ⟨traced.posted, traced.windows, traced.taken, traced.granted⟩
  cases event with
  | requestSecret callerPid kind options delivery time memfds =>
    cases Option.some.inj stepped
    simp only [requestSecret]
    split
    · exact traced_refuse _ _ _ memfds (by simp) issued
    · rename_i authorized
      split
      · exact traced_refuse _ _ _ memfds (by simp) issued
      · rename_i parsed known
        exact traced_deliver _ delivery false time memfds
          (.single state callerPid kind options delivery time memfds parsed now authorized known)
          traced
  | requestSecrets callerPid kind options delivery time memfds =>
    cases Option.some.inj stepped
    simp only [requestSecrets]
    split
    · exact traced_refuse _ _ _ memfds (by simp) issued
    · rename_i authorized
      split
      · exact traced_refuse _ _ _ memfds (by simp) issued
      · rename_i named
        cases not_not.mp named
        exact traced_deliver _ delivery true time memfds
          (.pinChange state callerPid options delivery time memfds now authorized) traced
  | cancel promptId callerPid delivery time memfds =>
    cases Option.some.inj stepped
    rw [cancel]
    split
    · exact traced
    · exact traced_dismissal (.dismiss promptId callerPid) trivial delivery time memfds traced
  | reset callerPid delivery time memfds =>
    cases Option.some.inj stepped
    rw [reset]
    split
    · exact traced
    · exact traced_dismissal .dismissEvery trivial delivery time memfds traced
  | perform index time memfds =>
    obtain ⟨task, queued, rfl⟩ := Option.map_eq_some_iff.mp stepped
    refine traced_perform task time memfds ?_
      ⟨fun request member => traced.posted request (List.mem_of_mem_eraseIdx member),
        traced.windows, traced.taken, traced.granted⟩
    intro request same
    exact traced.posted request (same ▸ List.mem_of_getElem? queued)
  | interact id action =>
    simp only [step, Option.bind_eq_bind, Option.bind_eq_some_iff, Option.pure_def,
      Option.some.injEq] at stepped
    obtain ⟨window, shown, dialog, acted, rfl⟩ := stepped
    exact traced_interact id window action dialog shown acted traced
  | accept id memfds =>
    simp only [step, Option.bind_eq_bind, Option.bind_eq_some_iff, Option.pure_def,
      Option.some.injEq] at stepped
    obtain ⟨window, shown, rfl⟩ := stepped
    split
    · exact traced_accept id window memfds shown now traced
    · rename_i blocked
      rw [accept_blocked window.dialog _ _ (by simpa using blocked)]
      have unchanged : state.setWindow id (some { window with dialog := window.dialog }) = state := by
        rw [setWindow, ← shown, Function.update_eq_self]
      rw [unchanged]
      exact traced
  | done id accepted memfds =>
    simp only [step, Option.bind_eq_bind, Option.bind_eq_some_iff, Option.pure_def,
      Option.some.injEq] at stepped
    obtain ⟨window, shown, rfl⟩ := stepped
    exact traced_done id window accepted memfds shown now traced
  | expire id time memfds =>
    simp only [step, Option.bind_eq_bind, Option.bind_eq_some_iff] at stepped
    obtain ⟨window, shown, fired⟩ := stepped
    split at fired
    · cases Option.some.inj fired
      exact traced_expired id window memfds shown traced
    · cases fired

/-- A completion brings no reply handle. -/
theorem finished_next_request (id : WindowId) (window : Window) (accepted : Bool)
    (memfds : Memfds) :
    (state.finished id window accepted memfds).nextRequest = state.nextRequest := by
  rw [finished]
  split <;> rfl

/-- Nor does a task. -/
theorem perform_next_request (task : GuiTask) (now : Nat) (memfds : Memfds) :
    (state.perform task now memfds).nextRequest = state.nextRequest := by
  cases task with
  | raise request =>
    rw [perform, raiseWindow]
    split <;> rfl
  | dismiss promptId callerPid =>
    rw [perform, dismissOnGuiThread]
    split
    · rfl
    · split
      · rfl
      · split <;> rfl
  | dismissEvery =>
    obtain ⟨rejects, posted⟩ := dismiss_every_posts
      (state.registry.handles.filterMap state.registry.find) state
    rw [perform, dismissEveryWindowOnGuiThread, posted]
  | reject id cause =>
    rw [perform]
    split
    · rfl
    · exact finished_next_request id _ false memfds
  | deleteLater id => rfl

/-- A bus call that brings a reply handle. -/
def Event.asks : Event → Bool
  | .requestSecret _ _ _ _ _ _ => true
  | .requestSecrets _ _ _ _ _ _ => true
  | _ => false

/-- A bus call for a secret takes the next reply handle, whatever becomes of it. -/
theorem next_request_step (event : Event) (next : Service) (asks : event.asks = true)
    (stepped : step state event = some next) : next.nextRequest = state.nextRequest + 1 := by
  have delivered : ∀ delivery task undelivered now memfds,
      undelivered.nextRequest = state.nextRequest + 1 →
      (state.nextReply.deliver delivery task undelivered now memfds).nextRequest =
        state.nextRequest + 1 := by
    intro delivery task undelivered now memfds failed
    cases delivery with
    | direct => exact perform_next_request task now memfds
    | queued => rfl
    | failed => exact failed
  cases event with
  | requestSecret callerPid kind options delivery now memfds =>
    cases Option.some.inj stepped
    rw [requestSecret]
    split
    · rfl
    · split
      · rfl
      · exact delivered _ _ _ _ _ rfl
  | requestSecrets callerPid kind options delivery now memfds =>
    cases Option.some.inj stepped
    rw [requestSecrets]
    split
    · rfl
    · split
      · rfl
      · exact delivered _ _ _ _ _ rfl
  | _ => cases asks

/-- Reply handles are never taken back. -/
theorem next_request_mono (event : Event) (next : Service)
    (stepped : step state event = some next) : state.nextRequest ≤ next.nextRequest := by
  cases step_change state event next stepped with
  | idle => exact le_rfl
  | refused multi status memfds => exact Nat.le_succ _
  | raised request own now memfds =>
    rw [perform_next_request]
    exact Nat.le_succ _
  | raisePosted request own => exact Nat.le_succ _
  | dismissed task dismissal now memfds => exact (perform_next_request task now memfds).ge
  | dismissPosted task dismissal => exact le_rfl
  | performed index task queued now memfds => rw [perform_next_request]
  | dialog id window shown dialog => exact le_rfl
  | finished id window shown dialog accepted memfds =>
    rw [finished_next_request]
    exact le_rfl

/-- A request was asked for in one part of the past or in the other. -/
theorem Requested.split {request : RaiseRequest} (more : Past)
    (requested : Requested (past ++ more) request) :
    Requested past request ∨ Requested more request := by
  cases requested with
  | single state callerPid kind options delivery now memfds parsed member authorized known =>
    rcases List.mem_append.mp member with earlier | later
    · exact Or.inl (.single state callerPid kind options delivery now memfds parsed earlier
        authorized known)
    · exact Or.inr (.single state callerPid kind options delivery now memfds parsed later
        authorized known)
  | pinChange state callerPid options delivery now memfds member authorized =>
    rcases List.mem_append.mp member with earlier | later
    · exact Or.inl (.pinChange state callerPid options delivery now memfds earlier authorized)
    · exact Or.inr (.pinChange state callerPid options delivery now memfds later authorized)

/-- A request carries the handle that its bus call was given. -/
theorem Requested.own {request : RaiseRequest} {event : Event}
    (requested : Requested [(state, event)] request) :
    event.asks = true ∧ request.request = state.nextRequest := by
  cases requested with
  | single state callerPid kind options delivery now memfds parsed member authorized known =>
    obtain ⟨rfl, rfl⟩ := Prod.mk.inj (List.mem_singleton.mp member)
    exact ⟨rfl, rfl⟩
  | pinChange state callerPid options delivery now memfds member authorized =>
    obtain ⟨rfl, rfl⟩ := Prod.mk.inj (List.mem_singleton.mp member)
    exact ⟨rfl, rfl⟩

/-- The handles of all requests have been given out. -/
def Numbered (past : Past) (state : Service) : Prop :=
  ∀ request, Requested past request → request.request < state.nextRequest

/-- Every step keeps the numbers. -/
theorem numbered_step (past : Past) (state : Service) (event : Event) (next : Service)
    (numbered : Numbered past state) (stepped : step state event = some next) :
    Numbered (past ++ [(state, event)]) next := by
  intro request requested
  rcases requested.split with earlier | latest
  · exact lt_of_lt_of_le (numbered request earlier) (next_request_mono event next stepped)
  · rw [latest.own.2, next_request_step event next latest.own.1 stepped]
    exact Nat.lt_succ_self _

/-- Nothing was asked for yet. -/
theorem traced_initial : Traced [] {} where
  posted := by simp
  windows := by simp
  taken := by simp
  granted := by simp

end Service

end LibreLinux.Prompter
