import LibreLinux.Prompter.MrzForm
import LibreLinux.Prompter.Provenance

/-!
# What a window lets through

A form checks what the holder types into it, and the window's accept button is enabled by
the last check: when the window is built, when its form is swapped, and whenever a field of
the form changes, also by being cleared. A window is accepted by that button alone.

So every secret that leaves the prompter has passed the check of the form it was typed into:
a PIN has digits only and as many as the request allows, a card access number has six
digits, the lines of an MRZ are those of a form that was filled in, and both PINs of a
change keep their own bounds.

The pattern of a PIN field is assembled from the bounds of the request. Bounds that are no
counts make no quantifier: the braces then stand for themselves.
-/

namespace LibreLinux.Prompter

open Wire Runs

/-- The greatest count that a quantifier of a pattern may have. -/
def kMaxQuantifier : Int := 65535

/-- Whether a text is acceptable to the pattern of digits between two bounds. A quantifier out
of order or too large makes a pattern that accepts nothing. -/
def acceptableDigits (minLen maxLen : Int) (text : String) : Bool :=
  if 0 ≤ minLen ∧ 0 ≤ maxLen then
    decide (minLen ≤ maxLen ∧ maxLen ≤ kMaxQuantifier) && text.toList.all Char.isDigit &&
      decide (minLen ≤ text.toList.length ∧ (text.toList.length : Int) ≤ maxLen)
  else
    match text.toList with
    | [] => false
    | first :: rest =>
      first.isDigit &&
        decide (rest = ("\x7b" ++ toString minLen ++ "," ++ toString maxLen ++ "\x7d").toList)

/-- The card access number has this many digits. -/
def kCanLen : Int := 6

/-- The fields of the form on screen. -/
inductive EntryForm where
  | pin (text : String)
  | can (text : String)
  | mrz (fields : MrzInputWidget)
  | changePin (current entered confirm : String)
deriving DecidableEq

namespace EntryForm

/-- Whether the form may be accepted today. -/
def isValid (opts : DialogOptions) (today : QDate) : EntryForm → Bool
  | .pin text => acceptableDigits opts.minLength opts.maxLength text
  | .can text => acceptableDigits kCanLen kCanLen text
  | .mrz fields => fields.isValid today
  | .changePin current entered confirm =>
    acceptableDigits opts.primaryMinLength opts.primaryMaxLength current &&
      acceptableDigits opts.newMinLength opts.newMaxLength entered &&
      acceptableDigits opts.newMinLength opts.newMaxLength confirm

/-- Whether the fields take the text. The number field refuses what its validator cannot
accept any more. -/
def takes : EntryForm → Bool
  | .mrz fields => fields.documentNumber.isEmpty || hasAcceptableInput fields.documentNumber
  | _ => true

variable (tables : CharTables)

/-- What the fields keep of what was typed: the number field puts it in upper case. -/
def typed : EntryForm → EntryForm
  | .mrz fields => .mrz { fields with documentNumber := upperCased tables fields.documentNumber }
  | form => form

/-- The form as the dialog sees it. -/
def asInput : EntryForm → Option InputWidget
  | .pin text => some (.pin text)
  | .can text => some (.can text)
  | .mrz fields => fields.asInput tables
  | .changePin current entered confirm => some (.changePin current entered confirm)

/-- The form of a window into which nobody typed since it was installed or cleared. -/
def ofInput : InputWidget → EntryForm
  | .pin text => .pin text
  | .can text => .can text
  | .mrz _ => .mrz {}
  | .changePin current entered confirm => .changePin current entered confirm

end EntryForm

/-- A form and the button under it. -/
structure FormEntry where
  form : EntryForm
  okEnabled : Bool
deriving DecidableEq

/-- The prompter with the forms and buttons of its windows. -/
structure Screen where
  service : Service := {}
  entries : WindowId → Option FormEntry := fun _ => none

/-- What can happen: the holder types into a form, or the prompter takes a step. Each knows
the date of that day. -/
inductive ScreenEvent where
  | enter (window : WindowId) (form : EntryForm) (today : QDate)
  | service (event : Service.Event) (today : QDate)

namespace Screen

/-- The button is set by the form that stands in a window. -/
def wireValidity (window : Window) (form : EntryForm) (today : QDate) : FormEntry :=
  ⟨form, form.isValid window.dialog.opts today⟩

/-- The forms after a step of the prompter: a window whose form stayed as it was keeps its
button, and a form that is new or was cleared sets it. -/
def follow (before after : Service) (entries : WindowId → Option FormEntry) (today : QDate)
    (id : WindowId) : Option FormEntry :=
  (after.windows id).map (fun window =>
    match before.windows id, entries id with
    | some old, some entry =>
      if old.dialog.opts = window.dialog.opts ∧ old.dialog.widget = window.dialog.widget then entry
      else wireValidity window (.ofInput window.dialog.widget) today
    | _, _ => wireValidity window (.ofInput window.dialog.widget) today)

/-- Text is typed into forms, and a window is accepted by its button only. -/
def permitted (screen : Screen) : Service.Event → Bool
  | .interact _ (.edit _) => false
  | .accept id _ => (screen.entries id).any FormEntry.okEnabled
  | .done _ accepted _ => !accepted
  | _ => true

variable (tables : CharTables)

/-- The step of the prompter that an event brings about. -/
def serviceEvent : ScreenEvent → Option Service.Event
  | .enter id form _ =>
    ((form.typed tables).asInput tables).map (fun input => .interact id (.edit input))
  | .service event _ => some event

/-- One step. -/
def step (screen : Screen) (event : ScreenEvent) : Option Screen :=
  match event with
  | .enter id form today =>
    if form.takes then do
      let window ← screen.service.windows id
      let made ← serviceEvent tables event
      let service ← Service.step screen.service made
      let entry := wireValidity window (form.typed tables) today
      pure { service, entries := Function.update screen.entries id (some entry) }
    else none
  | .service made today =>
    if screen.permitted made then
      (Service.step screen.service made).map (fun service =>
        { service, entries := follow screen.service service screen.entries today })
    else none

/-- The past of the prompter in a past of its screen. -/
def servicePast (past : List (Screen × ScreenEvent)) : Service.Past :=
  past.filterMap (fun (screen, event) =>
    (serviceEvent tables event).map (fun made => (screen.service, made)))

/-- The day of an event. -/
def day : ScreenEvent → QDate
  | .enter _ _ today => today
  | .service _ today => today

/-- A step changes the form of a window: the holder types into it, or it is installed, swapped or
cleared. -/
def Changes (id : WindowId) (screen : Screen) (event : ScreenEvent) : Prop :=
  match event with
  | .enter other _ _ => other = id
  | .service _ _ => ∃ next window, step tables screen event = some next ∧
      next.service.windows id = some window ∧
      ∀ old, screen.service.windows id = some old →
        ¬ (old.dialog.opts = window.dialog.opts ∧ old.dialog.widget = window.dialog.widget)

/-- The day on which the form of a window was last changed. -/
def ChangedOn (past : List (Screen × ScreenEvent)) (id : WindowId) (today : QDate) : Prop :=
  ∃ before screen event after, past = before ++ (screen, event) :: after ∧
    Changes tables id screen event ∧ day event = today ∧
    ∀ seen ∈ after, ¬ Changes tables id seen.1 seen.2

variable {tables} in
/-- A change today is the last one. -/
theorem changed_now (past : List (Screen × ScreenEvent)) (screen : Screen) (event : ScreenEvent)
    (id : WindowId) (changes : Changes tables id screen event) :
    ChangedOn tables (past ++ [(screen, event)]) id (day event) :=
  ⟨past, screen, event, [], rfl, changes, rfl, by simp⟩

variable {tables} in
/-- A step that leaves the form leaves the day of its last change. -/
theorem changed_earlier (past : List (Screen × ScreenEvent)) (screen : Screen)
    (event : ScreenEvent) (id : WindowId) (today : QDate)
    (same : ¬ Changes tables id screen event) (changed : ChangedOn tables past id today) :
    ChangedOn tables (past ++ [(screen, event)]) id today := by
  obtain ⟨before, changing, change, after, split, changes, on, still⟩ := changed
  refine ⟨before, changing, change, after ++ [(screen, event)], by simp [split], changes, on, ?_⟩
  intro seen member
  rcases List.mem_append.mp member with earlier | latest
  · exact still seen earlier
  · exact List.mem_singleton.mp latest ▸ same

end Screen

/-! ## Windows -/

/-- The form of a cleared window: what an untouched form would seal. -/
def Cleared (dialog : PromptDialog) : Prop :=
  ∀ lines, dialog.widget = .mrz lines → lines = blankMrz

/-- A fresh form is cleared. -/
theorem cleared_fresh (dialog : PromptDialog) (kind : Kind) (fresh : dialog.widget = widgetFor kind) :
    Cleared dialog := by
  intro lines shown
  rw [fresh] at shown
  cases kind <;> cases shown
  rfl

/-- What a step made of a window: it stood there with the same options and the same kind of
form, which is untouched or was cleared; its form was swapped; or it was raised for a
request. -/
inductive Renewed (asked : RaiseRequest → Prop) (before : WindowId → Option Window) (id : WindowId)
    (dialog : PromptDialog) : Prop
  | stood (window : Window) (shown : before id = some window)
      (opts : window.dialog.opts = dialog.opts) (kind : window.dialog.kind = dialog.kind)
      (form : window.dialog.widget = dialog.widget ∨ Cleared dialog)
  | swapped (window : Window) (shown : before id = some window)
      (opts : window.dialog.opts = dialog.opts) (kind : dialog.kind = .can ∨ dialog.kind = .mrz)
      (form : Cleared dialog)
  | raised (request : RaiseRequest) (origin : asked request) (opts : dialog.opts = request.opts)
      (kind : dialog.kind = request.kind) (form : Cleared dialog)

/-- A window whose form changed without typing shows a cleared one. -/
theorem Renewed.cleared {asked : RaiseRequest → Prop} {before : WindowId → Option Window}
    {id : WindowId} {dialog : PromptDialog} (renewed : Renewed asked before id dialog)
    (changed : ∀ window, before id = some window →
      ¬ (window.dialog.opts = dialog.opts ∧ window.dialog.widget = dialog.widget)) :
    Cleared dialog := by
  cases renewed with
  | stood window shown opts kind form =>
    exact form.resolve_left (fun same => changed window shown ⟨opts, same⟩)
  | swapped window shown opts kind form => exact form
  | raised request origin opts kind form => exact form

namespace Service

variable {asked : RaiseRequest → Prop}

/-- A step that leaves the windows leaves the forms. -/
theorem renewed_same (before after : Service) (same : after.windows = before.windows)
    (id : WindowId) (window : Window) (shown : after.windows id = some window) :
    Renewed asked before.windows id window.dialog :=
  .stood window (same ▸ shown) rfl rfl (Or.inl rfl)

/-- Replacing a window leaves the others. -/
theorem renewed_set (state : Service) (id : WindowId) (replaced : Window)
    (renewed : Renewed asked state.windows id replaced.dialog) (other : WindowId) (window : Window)
    (shown : (state.setWindow id (some replaced)).windows other = some window) :
    Renewed asked state.windows other window.dialog := by
  by_cases same : other = id
  · subst same
    simp only [setWindow, Function.update_self, Option.some.injEq] at shown
    exact shown ▸ renewed
  · simp only [setWindow, Function.update_of_ne same] at shown
    exact .stood window shown rfl rfl (Or.inl rfl)

/-- A raised window shows a fresh form of its request. -/
theorem renewed_raise (state : Service) (request : RaiseRequest) (origin : asked request)
    (now : Nat) (memfds : Memfds) (id : WindowId) (window : Window)
    (shown : (state.raiseWindow request now memfds).windows id = some window) :
    Renewed asked state.windows id window.dialog := by
  unfold raiseWindow at shown
  split at shown
  · exact renewed_same state _ rfl id window shown
  · exact renewed_set state request.request _
      (.raised request origin rfl rfl (cleared_fresh _ request.kind rfl)) id window shown

/-- A completion leaves the options and the kind of a window, and its form untouched or
cleared. -/
theorem completed_form (window : Window) (accepted : Bool) (memfds : Memfds) :
    (window.complete accepted memfds).dialog.opts = window.dialog.opts ∧
      (window.complete accepted memfds).dialog.kind = window.dialog.kind ∧
      ((window.complete accepted memfds).dialog.widget = window.dialog.widget ∨
        Cleared (window.complete accepted memfds).dialog) := by
  have captured : ∀ created, Cleared (window.dialog.captureSecretFd created).2 := by
    intro created lines shown
    rw [PromptDialog.captureSecretFd] at shown
    cases form : window.dialog.widget <;> rw [form] at shown <;> cases shown
    rfl
  unfold Window.complete
  split
  · unfold Window.completeSecrets
    split
    · split
      · rename_i taken
        rw [PromptDialog.takeSecretFdPair, Prod.mk.injEq] at taken
        rw [← taken.2]
        exact ⟨rfl, rfl, Or.inl rfl⟩
      · rename_i taken
        rw [PromptDialog.takeSecretFdPair, Prod.mk.injEq] at taken
        rw [← taken.2]
        exact ⟨rfl, rfl, Or.inl rfl⟩
    · exact ⟨rfl, rfl, Or.inl rfl⟩
  · unfold Window.completeSecret
    split
    · have cleared := captured memfds.primary
      split
      · rename_i dialog read
        rw [read] at cleared
        rw [PromptDialog.captureSecretFd, Prod.mk.injEq] at read
        exact ⟨by rw [← read.2], by rw [← read.2], Or.inr cleared⟩
      · rename_i fd dialog read
        rw [read] at cleared
        rw [PromptDialog.captureSecretFd, Prod.mk.injEq] at read
        exact ⟨by rw [← read.2], by rw [← read.2], Or.inr cleared⟩
    · exact ⟨rfl, rfl, Or.inl rfl⟩

/-- A window that emits `finished` stood there before. -/
theorem renewed_finished (state : Service) (id : WindowId) (old window : Window)
    (shown : state.windows id = some old) (opts : old.dialog.opts = window.dialog.opts)
    (kind : old.dialog.kind = window.dialog.kind)
    (form : old.dialog.widget = window.dialog.widget ∨ Cleared window.dialog)
    (accepted : Bool) (memfds : Memfds) (other : WindowId) (found : Window)
    (after : ((state.setWindow id (some window)).finished id window accepted memfds).windows other =
      some found) : Renewed asked state.windows other found.dialog := by
  unfold finished at after
  split at after
  · exact renewed_set state id window (.stood old shown opts kind form) other found after
  · obtain ⟨keptOpts, keptKind, keptForm⟩ := completed_form window accepted memfds
    have cleared : old.dialog.widget = (window.complete accepted memfds).dialog.widget ∨
        Cleared (window.complete accepted memfds).dialog := by
      rcases keptForm with same | cleared
      · rw [same]
        refine form.imp_right (fun blank lines present => ?_)
        exact blank lines (same ▸ present)
      · exact Or.inr cleared
    refine renewed_set state id { window with dialog := (window.complete accepted memfds).dialog }
      (.stood old shown (opts.trans keptOpts.symm) (kind.trans keptKind.symm) cleared) other found ?_
    simpa [setWindow, answer, post] using after

/-- A window that is closed from outside stood there before. -/
theorem renewed_closed (state : Service) (id : WindowId) (window : Window)
    (shown : state.windows id = some window) (accepted : Bool) (memfds : Memfds) (other : WindowId)
    (found : Window) (after : (state.finished id window accepted memfds).windows other = some found) :
    Renewed asked state.windows other found.dialog := by
  have unchanged : state.setWindow id (some window) = state := by
    rw [setWindow, ← shown, Function.update_eq_self]
  refine renewed_finished state id window window shown rfl rfl (Or.inl rfl) accepted memfds other
    found ?_
  rw [unchanged]
  exact after

/-- What a posted task makes of the windows. -/
theorem renewed_perform (state : Service) (task : GuiTask) (now : Nat) (memfds : Memfds)
    (origin : ∀ request, task = .raise request → asked request) (id : WindowId) (window : Window)
    (after : (state.perform task now memfds).windows id = some window) :
    Renewed asked state.windows id window.dialog := by
  cases task with
  | raise request => exact renewed_raise state request (origin request rfl) now memfds id window after
  | dismiss promptId callerPid =>
    refine renewed_same state _ ?_ id window after
    simp only [perform, dismissOnGuiThread]
    split
    · rfl
    · split
      · rfl
      · split <;> rfl
  | dismissEvery =>
    obtain ⟨rejects, posted⟩ :=
      dismiss_every_posts (state.registry.handles.filterMap state.registry.find) state
    refine renewed_same state _ ?_ id window after
    rw [perform, dismissEveryWindowOnGuiThread, posted]
  | reject target cause =>
    simp only [perform] at after
    split at after
    · exact renewed_same state state rfl id window after
    · rename_i old shown
      exact renewed_closed state target old shown false memfds id window after
  | deleteLater target =>
    simp only [perform, setWindow] at after
    by_cases same : id = target
    · subst same
      simp at after
    · rw [Function.update_of_ne same] at after
      exact .stood window after rfl rfl (Or.inl rfl)

/-- What a delivered task makes of the windows. -/
theorem renewed_deliver (state undelivered : Service) (delivery : Delivery) (task : GuiTask)
    (now : Nat) (memfds : Memfds) (untouched : undelivered.windows = state.windows)
    (origin : ∀ request, task = .raise request → asked request) (id : WindowId) (window : Window)
    (after : (state.deliver delivery task undelivered now memfds).windows id = some window) :
    Renewed asked state.windows id window.dialog := by
  cases delivery with
  | direct => exact renewed_perform state task now memfds origin id window after
  | queued => exact renewed_same state _ rfl id window after
  | failed => exact renewed_same state undelivered untouched id window after

/-- An accept leaves the options and the kind of a window, and its form untouched or cleared. -/
theorem accepted_form (dialog : PromptDialog) (primary secondary : Bool) :
    dialog.opts = (dialog.accept primary secondary).1.opts ∧
      dialog.kind = (dialog.accept primary secondary).1.kind ∧
      (dialog.widget = (dialog.accept primary secondary).1.widget ∨
        Cleared (dialog.accept primary secondary).1) := by
  unfold PromptDialog.accept
  dsimp only
  split
  · rename_i current entered confirm form fresh
    split
    · exact ⟨rfl, rfl, Or.inl rfl⟩
    · refine ⟨rfl, rfl, Or.inr (fun lines shown => ?_)⟩
      rw [form] at shown
      cases shown
  · exact ⟨rfl, rfl, Or.inl rfl⟩

/-- What a step makes of the windows, if it is no typing. -/
theorem renewed_step (past : Past) (state : Service) (event : Event) (next : Service)
    (untyped : ∀ id input, event ≠ .interact id (.edit input)) (traced : Traced past state)
    (stepped : step state event = some next) (id : WindowId) (window : Window)
    (after : next.windows id = some window) :
    Renewed (Requested (past ++ [(state, event)])) state.windows id window.dialog := by
  have member : (state, event) ∈ past ++ [(state, event)] := by simp
  cases event with
  | requestSecret callerPid kind options delivery now memfds =>
    cases Option.some.inj stepped
    simp only [requestSecret] at after
    split at after
    · exact renewed_same state _ rfl id window after
    · rename_i authorized
      split at after
      · exact renewed_same state _ rfl id window after
      · rename_i parsed known
        refine renewed_deliver state.nextReply (state.nextReply.refuse state.nextRequest false .error
          memfds) delivery _ now memfds rfl ?_ id window after
        rintro request ⟨⟩
        exact .single state callerPid kind options delivery now memfds parsed member authorized known
  | requestSecrets callerPid kind options delivery now memfds =>
    cases Option.some.inj stepped
    simp only [requestSecrets] at after
    split at after
    · exact renewed_same state _ rfl id window after
    · rename_i authorized
      split at after
      · exact renewed_same state _ rfl id window after
      · rename_i named
        cases not_not.mp named
        refine renewed_deliver state.nextReply (state.nextReply.refuse state.nextRequest true .error
          memfds) delivery _ now memfds rfl ?_ id window after
        rintro request ⟨⟩
        exact .pinChange state callerPid options delivery now memfds member authorized
  | cancel promptId callerPid delivery now memfds =>
    cases Option.some.inj stepped
    rw [cancel] at after
    split at after
    · exact renewed_same state state rfl id window after
    · exact renewed_deliver state state delivery _ now memfds rfl (by rintro request ⟨⟩) id window
        after
  | reset callerPid delivery now memfds =>
    cases Option.some.inj stepped
    rw [reset] at after
    split at after
    · exact renewed_same state state rfl id window after
    · exact renewed_deliver state state delivery _ now memfds rfl (by rintro request ⟨⟩) id window
        after
  | perform index now memfds =>
    obtain ⟨task, queued, rfl⟩ := Option.map_eq_some_iff.mp stepped
    refine renewed_perform { state with posted := state.posted.eraseIdx index } task now memfds ?_ id
      window after
    rintro request rfl
    exact (traced.posted request (List.mem_of_getElem? queued)).later _
  | interact target action =>
    simp only [step, Option.bind_eq_bind, Option.bind_eq_some_iff, Option.pure_def,
      Option.some.injEq] at stepped
    obtain ⟨old, shown, dialog, acted, rfl⟩ := stepped
    refine renewed_set state target { old with dialog } ?_ id window after
    cases action with
    | edit input => exact absurd rfl (untyped target input)
    | swap now =>
      simp only [PromptDialog.interact] at acted
      split_ifs at acted
      cases Option.some.inj acted
      refine .swapped old shown rfl ?_ (cleared_fresh _ _ rfl)
      by_cases mrz : old.dialog.kind = .mrz <;> simp [PromptDialog.swapInputKind, mrz]
    | shown now =>
      cases Option.some.inj acted
      exact .stood old shown rfl rfl (Or.inl rfl)
  | accept target memfds =>
    simp only [step, Option.bind_eq_bind, Option.bind_eq_some_iff, Option.pure_def,
      Option.some.injEq] at stepped
    obtain ⟨old, shown, rfl⟩ := stepped
    obtain ⟨opts, kind, form⟩ := accepted_form old.dialog memfds.primary memfds.secondary
    split at after
    · exact renewed_finished state target old
        { old with dialog := (old.dialog.accept memfds.primary memfds.secondary).1 } shown opts kind
        form true memfds id window after
    · exact renewed_set state target _ (.stood old shown opts kind form) id window after
  | done target accepted memfds =>
    simp only [step, Option.bind_eq_bind, Option.bind_eq_some_iff, Option.pure_def,
      Option.some.injEq] at stepped
    obtain ⟨old, shown, rfl⟩ := stepped
    exact renewed_closed state target old shown accepted memfds id window after
  | expire target now memfds =>
    simp only [step, Option.bind_eq_bind, Option.bind_eq_some_iff] at stepped
    obtain ⟨old, shown, fired⟩ := stepped
    split at fired
    · cases Option.some.inj fired
      exact renewed_finished state target old { old with dialog := old.dialog.expire } shown rfl rfl
        (Or.inl rfl) false memfds id window after
    · cases fired

end Service

/-! ## Forms and buttons -/

section Digits

/-- A text of digits, as many as two bounds allow. -/
structure Digits (minLen maxLen : Int) (text : String) : Prop where
  digits : ∀ char ∈ text.toList, char.isDigit = true
  atLeast : minLen ≤ text.toList.length
  atMost : (text.toList.length : Int) ≤ maxLen

/-- Between bounds that are counts, only digits are acceptable. -/
theorem acceptable_digits (minLen maxLen : Int) (text : String) (counts : 0 ≤ minLen)
    (ordered : minLen ≤ maxLen) (accepted : acceptableDigits minLen maxLen text = true) :
    Digits minLen maxLen text := by
  rw [acceptableDigits, if_pos ⟨counts, counts.trans ordered⟩] at accepted
  simp only [Bool.and_eq_true, List.all_eq_true, decide_eq_true_eq] at accepted
  exact ⟨accepted.1.2, accepted.2.1, accepted.2.2⟩

/-- A maximum is never below its minimum. -/
theorem clamp_ordered (minLen maxLen : Int) : minLen ≤ clampMax minLen maxLen := by
  unfold clampMax
  split <;> omega

/-- The bounds of a request are in order. -/
theorem Service.Requested.ordered {past : Service.Past} {request : RaiseRequest}
    (requested : Service.Requested past request) :
    request.opts.minLength ≤ request.opts.maxLength ∧
      (request.multi = true → request.opts.primaryMinLength ≤ request.opts.primaryMaxLength ∧
        request.opts.newMinLength ≤ request.opts.newMaxLength) := by
  cases requested with
  | single => exact ⟨clamp_ordered _ _, fun multi => by cases multi⟩
  | pinChange =>
    exact ⟨clamp_ordered _ _, fun _ => ⟨clamp_ordered _ _, clamp_ordered _ _⟩⟩

/-- Only a card access number is asked for with the switch. -/
theorem Service.Requested.offers {past : Service.Past} {request : RaiseRequest}
    (requested : Service.Requested past request) :
    request.opts.offerMrzSwitch = request.offerMrzSwitch ∧
      (request.offerMrzSwitch = true → request.kind = .can) := by
  cases requested with
  | single state callerPid kind options delivery now memfds parsed member authorized known =>
    refine ⟨rfl, fun offered => ?_⟩
    have both : decide (parsed = .can) = true ∧ _ = true := (Bool.and_eq_true _ _).mp offered
    exact of_decide_eq_true both.1
  | pinChange => exact ⟨rfl, fun offered => by cases offered⟩

end Digits

namespace Screen

variable {tables : CharTables}

/-- A window's form is the one the dialog captures, its button was set by the form that
stands there now, on the day of the form's last change, and a window with the switch shows one
of its two forms. -/
structure Faithful (tables : CharTables) (past : List (Screen × ScreenEvent)) (screen : Screen) :
    Prop where
  entry : ∀ id window, screen.service.windows id = some window →
    ∃ entry today, screen.entries id = some entry ∧ ChangedOn tables past id today ∧
      entry.form.asInput tables = some window.dialog.widget ∧
      entry.okEnabled = entry.form.isValid window.dialog.opts today
  offered : ∀ id window, screen.service.windows id = some window →
    window.dialog.opts.offerMrzSwitch = true →
    window.dialog.kind = .can ∨ window.dialog.kind = .mrz

/-- A form that nobody typed into is what the dialog captures. -/
theorem input_untyped (lawful : tables.Lawful) (dialog : PromptDialog) (cleared : Cleared dialog) :
    (EntryForm.ofInput dialog.widget).asInput tables = some dialog.widget := by
  cases form : dialog.widget with
  | mrz lines =>
    rw [cleared lines form]
    exact cleared_form_input lawful
  | _ => rfl

/-- The forms follow every step but typing. -/
theorem faithful_follow (lawful : tables.Lawful) (past : List (Screen × ScreenEvent))
    (screen : Screen) (event : Service.Event) (service : Service) (today : QDate)
    (asked : Service.Past) (faithful : Faithful tables past screen)
    (stepped : step tables screen (.service event today) =
      some { service, entries := follow screen.service service screen.entries today })
    (renewed : ∀ id window, service.windows id = some window →
      Renewed (Service.Requested asked) screen.service.windows id window.dialog) :
    Faithful tables (past ++ [(screen, .service event today)])
      { service, entries := follow screen.service service screen.entries today } where
  entry := by
    intro id window shown
    replace shown : service.windows id = some window := shown
    -- A form that is not the one before the step was installed or cleared by it, today.
    have fresh : (∀ old, screen.service.windows id = some old →
        ¬ (old.dialog.opts = window.dialog.opts ∧ old.dialog.widget = window.dialog.widget)) →
        ChangedOn tables (past ++ [(screen, .service event today)]) id today ∧
          (EntryForm.ofInput window.dialog.widget).asInput tables = some window.dialog.widget := by
      intro changed
      exact ⟨changed_now past screen _ id ⟨_, window, stepped, shown, changed⟩,
        input_untyped lawful window.dialog ((renewed id window shown).cleared changed)⟩
    simp only [follow, shown, Option.map_some]
    cases present : screen.service.windows id with
    | none =>
      obtain ⟨changed, input⟩ := fresh (by simp [present])
      exact ⟨_, today, rfl, changed, input, rfl⟩
    | some old =>
      obtain ⟨entry, since, found, changed, input, enabled⟩ := faithful.entry id old present
      rw [found]
      dsimp only
      split_ifs with same
      · refine ⟨entry, since, rfl, changed_earlier past screen _ id since ?_ changed,
          same.2 ▸ input, same.1 ▸ enabled⟩
        rintro ⟨next, other, performed, stands, differs⟩
        cases Option.some.inj (stepped.symm.trans performed)
        cases Option.some.inj (shown.symm.trans stands)
        exact differs old present same
      · obtain ⟨changed, input⟩ := fresh
          (fun other stands => by cases Option.some.inj (present.symm.trans stands); exact same)
        exact ⟨_, today, rfl, changed, input, rfl⟩
  offered := by
    intro id window shown offered
    cases renewed id window shown with
    | stood old present opts kind form =>
      rw [← kind]
      exact faithful.offered id old present (opts ▸ offered)
    | swapped old present opts kind form => exact kind
    | raised request origin opts kind form =>
      rw [opts, origin.offers.1] at offered
      exact Or.inl (kind.trans (origin.offers.2 offered))

/-- Typing sets the form and the button of its window. -/
theorem faithful_enter (past : List (Screen × ScreenEvent)) (screen : Screen) (id : WindowId)
    (window : Window) (entered form : EntryForm) (input : InputWidget) (today : QDate)
    (service : Service) (faithful : Faithful tables past screen)
    (shown : screen.service.windows id = some window) (seen : form.asInput tables = some input)
    (stepped : Service.step screen.service (.interact id (.edit input)) = some service) :
    Faithful tables (past ++ [(screen, .enter id entered today)])
      { service
        entries := Function.update screen.entries id (some (wireValidity window form today)) } := by
  simp only [Service.step, Option.bind_eq_bind, Option.bind_eq_some_iff, Option.pure_def,
    Option.some.injEq] at stepped
  obtain ⟨old, present, dialog, acted, rfl⟩ := stepped
  cases Option.some.inj (shown.symm.trans present)
  obtain rfl : { window.dialog with widget := input } = dialog := by
    simp only [PromptDialog.interact, PromptDialog.edit] at acted
    split_ifs at acted
    exact Option.some.inj acted
  constructor
  · intro other found here
    by_cases same : other = id
    · subst same
      simp only [Service.setWindow, Function.update_self, Option.some.injEq] at here ⊢
      rw [← here]
      exact ⟨_, today, rfl, changed_now past screen (.enter other entered today) other rfl, seen,
        rfl⟩
    · simp only [Service.setWindow, Function.update_of_ne same] at here ⊢
      obtain ⟨entry, since, kept, changed, held⟩ := faithful.entry other found here
      exact ⟨entry, since, kept, changed_earlier past screen _ other since (Ne.symm same) changed,
        held⟩
  · intro other found here
    by_cases same : other = id
    · subst same
      simp only [Service.setWindow, Function.update_self, Option.some.injEq] at here
      rw [← here]
      exact faithful.offered other window shown
    · simp only [Service.setWindow, Function.update_of_ne same] at here
      exact faithful.offered other found here

/-- A form stood in the window that was valid on the day of its last change, one of the two where
the switch was offered. -/
def HeldValid (tables : CharTables) (past : List (Screen × ScreenEvent)) (id : WindowId)
    (window : Window) (today : QDate) : Prop :=
  ChangedOn tables past id today ∧
    (∃ form, EntryForm.asInput tables form = some window.dialog.widget ∧
      form.isValid window.dialog.opts today = true) ∧
    (window.dialog.opts.offerMrzSwitch = true →
      window.dialog.kind = .can ∨ window.dialog.kind = .mrz)

/-- A step that accepts a window accepts a valid form. -/
def AcceptsValid (tables : CharTables) (earlier : List (Screen × ScreenEvent)) (screen : Screen)
    (event : ScreenEvent) : Prop :=
  ∀ id memfds, serviceEvent tables event = some (.accept id memfds) →
    ∀ window, screen.service.windows id = some window →
      ∃ today, HeldValid tables earlier id window today

/-- The invariant: the prompter's own, the forms and buttons, and every accept of the past was
one of a valid form. -/
structure Gated (tables : CharTables) (past : List (Screen × ScreenEvent)) (screen : Screen) :
    Prop where
  traced : Service.Traced (servicePast tables past) screen.service
  faithful : Faithful tables past screen
  accepted : EachStep (AcceptsValid tables) past
  undone : ∀ before id memfds, (before, Service.Event.done id true memfds) ∉ servicePast tables past

/-- An enabled button stands under a valid form. -/
theorem held_valid (past : List (Screen × ScreenEvent)) (screen : Screen)
    (faithful : Faithful tables past screen) (id : WindowId) (window : Window)
    (shown : screen.service.windows id = some window)
    (enabled : (screen.entries id).any FormEntry.okEnabled = true) :
    ∃ today, HeldValid tables past id window today := by
  obtain ⟨entry, today, found, changed, input, checked⟩ := faithful.entry id window shown
  rw [found] at enabled
  exact ⟨today, changed, ⟨entry.form, input, checked ▸ enabled⟩, faithful.offered id window shown⟩

/-- Every step keeps the invariant.

Cases follow the event. An edit sets the button by the entry and the day; the other events leave
the buttons of the windows that stay, or take a window with its entry away. -/
theorem gated_step (lawful : tables.Lawful) (past : List (Screen × ScreenEvent)) (screen : Screen)
    (event : ScreenEvent) (next : Screen) (gated : Gated tables past screen)
    (stepped : step tables screen event = some next) :
    Gated tables (past ++ [(screen, event)]) next := by
  have performed := stepped
  cases event with
  | enter id form today =>
    simp only [step] at stepped
    split_ifs at stepped
    simp only [Option.bind_eq_bind, Option.bind_eq_some_iff, Option.pure_def, Option.some.injEq,
      serviceEvent, Option.map_eq_some_iff] at stepped
    obtain ⟨window, shown, made, ⟨input, seen, rfl⟩, service, moved, rfl⟩ := stepped
    have grown : servicePast tables (past ++ [(screen, .enter id form today)]) =
        servicePast tables past ++ [(screen.service, .interact id (.edit input))] := by
      simp [servicePast, serviceEvent, seen]
    constructor
    · rw [grown]
      exact Service.traced_step _ _ _ _ gated.traced moved
    · exact faithful_enter past screen id window form _ input today service gated.faithful shown
        seen moved
    · refine each_step_snoc _ past screen _ gated.accepted ?_
      intro target memfds accepts
      simp [serviceEvent, seen] at accepts
    · intro before target memfds member
      rw [grown] at member
      exact gated.undone before target memfds (by simpa using member)
  | service made today =>
    simp only [step] at stepped
    split_ifs at stepped with permitted
    obtain ⟨service, moved, rfl⟩ := Option.map_eq_some_iff.mp stepped
    have grown : servicePast tables (past ++ [(screen, .service made today)]) =
        servicePast tables past ++ [(screen.service, made)] := by
      simp [servicePast, serviceEvent]
    have untyped : ∀ id input, made ≠ .interact id (.edit input) := by
      rintro id input rfl
      cases permitted
    constructor
    · rw [grown]
      exact Service.traced_step _ _ _ _ gated.traced moved
    · exact faithful_follow lawful past screen made service today _ gated.faithful performed
        (fun id window shown =>
          Service.renewed_step _ _ made service untyped gated.traced moved id window shown)
    · refine each_step_snoc _ past screen _ gated.accepted ?_
      intro target memfds accepts window shown
      cases Option.some.inj accepts
      exact held_valid past screen gated.faithful target window shown permitted
    · intro before target memfds member
      rw [grown] at member
      rcases List.mem_append.mp member with earlier | latest
      · exact gated.undone before target memfds earlier
      · obtain ⟨rfl, rfl⟩ := Prod.mk.inj (List.mem_singleton.mp latest)
        cases permitted

/-- What a reply with a secret hands over: what was asked for, as the request bounds it. The lines
of an MRZ are those of a form that was valid on that day. Where the minimum of a PIN is no count
nothing is said of its digits. -/
inductive HandedOver (tables : CharTables) (today : QDate) (request : RaiseRequest)
    (answer : Answer) : Prop
  | pin (text : String) (asked : request.kind = .pin)
      (digits : 0 ≤ request.opts.minLength →
        Digits request.opts.minLength request.opts.maxLength text)
      (sealed : answer.fds = [some ⟨text, some .pin⟩]) (status : answer.status = .ok)
  | can (text : String) (asked : request.kind = .can) (digits : Digits kCanLen kCanLen text)
      (sealed : answer.fds = [some ⟨text, some .can⟩]) (status : answer.status = .ok)
  | mrz (fields : MrzInputWidget) (lines : List QChar)
      (asked : request.kind = .mrz ∨ request.kind = .can ∧ request.offerMrzSwitch = true)
      (valid : fields.isValid today = true) (joined : fields.joined tables = some lines)
      (sealed : answer.fds = [some ⟨textOf lines, some .mrz⟩])
      (status : answer.status = if request.kind = .can then .okMrz else .ok)
  | changePin (current entered : String) (asked : request.kind = .changePin)
      (old : 0 ≤ request.opts.primaryMinLength →
        Digits request.opts.primaryMinLength request.opts.primaryMaxLength current)
      (new : 0 ≤ request.opts.newMinLength →
        Digits request.opts.newMinLength request.opts.newMaxLength entered)
      (sealed : answer.fds = [some ⟨current, some .changePin⟩, some ⟨entered, some .changePin⟩])
      (status : answer.status = .ok)

/-- The window of an accepted reply shows what was asked for, or the MRZ form where the switch
was offered for a card access number. -/
theorem asked_kind {past : Service.Past} (request : RaiseRequest) (window : Window)
    (requested : Service.Requested past request) (shows : Service.Shows request window)
    (offered : window.dialog.opts.offerMrzSwitch = true →
      window.dialog.kind = .can ∨ window.dialog.kind = .mrz) :
    window.dialog.kind = request.kind ∨
      window.dialog.kind = .mrz ∧ request.kind = .can ∧ request.offerMrzSwitch = true := by
  obtain ⟨same, switching⟩ := requested.offers
  cases offers : request.offerMrzSwitch with
  | false => exact Or.inl (shows.kept (same.trans offers))
  | true =>
    have asked := switching offers
    rw [shows.opts] at offered
    rcases offered (same.trans offers) with can | mrz
    · exact Or.inl (can.trans asked.symm)
    · exact Or.inr ⟨mrz, asked, rfl⟩

/-- A single secret of a valid form. -/
theorem handed_over_single {asked : Service.Past} {past : List (Screen × ScreenEvent)}
    {today : QDate} (request : RaiseRequest) (answer : Answer) (window : Window)
    (requested : Service.Requested asked request)
    (shows : Service.Shows request window) (one : window.multi = false)
    (sealed : answer.fds = [some ⟨window.dialog.widget.secret, some window.dialog.widget.form⟩])
    (status : answer.status =
      if window.offerMrzSwitch && window.dialog.mrzChosen then .okMrz else .ok)
    (held : HeldValid tables past answer.request window today) :
    HandedOver tables today request answer := by
  obtain ⟨-, ⟨form, input, valid⟩, offered⟩ := held
  have kinds := asked_kind request window requested shows offered
  have shown : window.dialog.widget.form = window.dialog.kind := shows.form
  have plain : window.dialog.kind ≠ .mrz → answer.status = .ok := by
    intro other
    simp [status, PromptDialog.mrzChosen, other]
  rw [shows.opts] at valid
  cases form with
  | pin text =>
    have widget : window.dialog.widget = .pin text := (Option.some.inj input).symm
    rw [widget] at sealed shown
    have kind : window.dialog.kind = .pin := shown.symm
    refine .pin text ?_ ?_ sealed (plain (by simp [kind]))
    · rcases kinds with same | ⟨mrz, -⟩
      · exact same.symm.trans kind
      · cases kind.symm.trans mrz
    · intro counts
      exact acceptable_digits _ _ text counts requested.ordered.1 valid
  | can text =>
    have widget : window.dialog.widget = .can text := (Option.some.inj input).symm
    rw [widget] at sealed shown
    have kind : window.dialog.kind = .can := shown.symm
    refine .can text ?_ (acceptable_digits _ _ text (by decide) le_rfl valid) sealed
      (plain (by simp [kind]))
    rcases kinds with same | ⟨mrz, -⟩
    · exact same.symm.trans kind
    · cases kind.symm.trans mrz
  | mrz fields =>
    obtain ⟨lines, joined, widget⟩ := Option.map_eq_some_iff.mp input
    rw [← widget] at sealed shown
    have kind : window.dialog.kind = .mrz := shown.symm
    refine .mrz fields lines ?_ valid joined sealed ?_
    · rcases kinds with same | ⟨-, asked⟩
      · exact Or.inl (same.symm.trans kind)
      · exact Or.inr asked
    · rw [status, shows.offer]
      rcases kinds with same | ⟨-, asked, offers⟩
      · have other : request.kind ≠ .can := by
          rw [← same, kind]
          decide
        have unoffered : request.offerMrzSwitch = false := by
          by_contra offers
          exact other (requested.offers.2 (by simpa using offers))
        simp [unoffered, other]
      · simp [offers, asked, PromptDialog.mrzChosen, kind]
  | changePin current entered confirm =>
    have widget : window.dialog.widget = .changePin current entered confirm :=
      (Option.some.inj input).symm
    rw [widget] at shown
    exact absurd shown.symm (shows.single (shows.multi ▸ one))

/-- The two PINs of a valid form. -/
theorem handed_over_pair {asked : Service.Past} {past : List (Screen × ScreenEvent)}
    {today : QDate} (request : RaiseRequest) (answer : Answer) (window : Window)
    (current entered : String) (requested : Service.Requested asked request)
    (shows : Service.Shows request window) (two : window.multi = true)
    (confirmed : window.dialog.widget = .changePin current entered entered)
    (sealed : answer.fds = [some ⟨current, some .changePin⟩, some ⟨entered, some .changePin⟩])
    (status : answer.status = .ok)
    (held : HeldValid tables past answer.request window today) :
    HandedOver tables today request answer := by
  obtain ⟨-, ⟨form, input, valid⟩, -⟩ := held
  have multi : request.multi = true := shows.multi ▸ two
  obtain ⟨-, bounds⟩ := requested.ordered
  obtain ⟨primary, new⟩ := bounds multi
  rw [confirmed] at input
  rw [shows.opts] at valid
  have form : form = .changePin current entered entered := by
    cases form with
    | changePin => simpa [EntryForm.asInput] using input
    | mrz fields =>
      obtain ⟨lines, -, widget⟩ := Option.map_eq_some_iff.mp input
      cases widget
    | pin => cases input
    | can => cases input
  subst form
  simp only [EntryForm.isValid, Bool.and_eq_true] at valid
  exact .changePin current entered (requested.shape.1 multi).1
    (fun counts => acceptable_digits _ _ current counts primary valid.1.1)
    (fun counts => acceptable_digits _ _ entered counts new valid.1.2) sealed status

/-- An accept that the prompter saw was one of the screen, under a valid form. -/
theorem accept_held (past : List (Screen × ScreenEvent)) (screen : Screen)
    (gated : Gated tables past screen) (before : Service) (id : WindowId) (memfds : Memfds)
    (listed : (before, Service.Event.accept id memfds) ∈ servicePast tables past) (window : Window)
    (stood : before.windows id = some window) :
    ∃ earlier seen made later today,
      past = earlier ++ (seen, .service (.accept id memfds) made) :: later ∧
        HeldValid tables earlier id window today := by
  obtain ⟨⟨seen, event⟩, member, told⟩ := List.mem_filterMap.mp listed
  obtain ⟨made, tells, same⟩ := Option.map_eq_some_iff.mp told
  obtain ⟨rfl, rfl⟩ := Prod.mk.inj same
  obtain ⟨earlier, later, split⟩ := List.append_of_mem member
  obtain ⟨today, held⟩ := gated.accepted earlier seen event later split id memfds tells window stood
  cases event with
  | enter other form typed =>
    obtain ⟨input, -, edits⟩ := Option.map_eq_some_iff.mp tells
    cases edits
  | service other on =>
    cases Option.some.inj tells
    exact ⟨earlier, seen, on, later, today, split, held⟩

/-- In every run of the prompter and its holder, whatever is typed, swapped, accepted, closed,
dismissed and posted in any order: the accept button of a window is enabled exactly when the
form that stands in it was valid on the day it was last changed; and every reply with a secret
hands over what its request asked for, as it stood when its window was accepted: a PIN of digits
within the bounds of the request, six digits of a card access number, the lines of an MRZ form
that was valid on the day it was last changed, or the two PINs of a change each within its own
bounds. The bounds of a PIN are kept where the minimum is a count.

Proof: a step either changes the form of a window and sets the button that day, or leaves both.
So an accept finds a valid form, and a reply with a secret was made by an accept. -/
theorem secrets_well_formed (lawful : tables.Lawful) (events : List ScreenEvent) (screen : Screen)
    (reached : run (step tables) {} events = some screen) :
    let past := trace (step tables) {} events
    (∀ id window, screen.service.windows id = some window →
      ∃ entry today, screen.entries id = some entry ∧ ChangedOn tables past id today ∧
        entry.form.asInput tables = some window.dialog.widget ∧
        entry.okEnabled = entry.form.isValid window.dialog.opts today) ∧
    ∀ answer ∈ screen.service.answers, answer.granted = true →
      ∃ request earlier seen memfds made later today,
        Service.Requested (servicePast tables past) request ∧ request.request = answer.request ∧
        past = earlier ++ (seen, .service (.accept answer.request memfds) made) :: later ∧
        ChangedOn tables earlier answer.request today ∧ HandedOver tables today request answer := by
  intro past
  have gated := trace_invariant (step tables) (Gated tables) (gated_step lawful) events {}
    screen ⟨Service.traced_initial, ⟨by simp, by simp⟩, by simp [EachStep], by simp [servicePast]⟩
    reached
  refine ⟨gated.faithful.entry, fun answer member granted => ?_⟩
  obtain ⟨request, window, requested, own, shows, accepted⟩ :=
    gated.traced.granted answer member granted
  cases accepted with
  | single before event memfds accepting listed stood one sealed status =>
    rcases accepting with rfl | rfl
    · obtain ⟨earlier, seen, made, later, today, split, held⟩ :=
        accept_held past screen gated before answer.request memfds listed window stood
      exact ⟨request, earlier, seen, memfds, made, later, today, requested, own, split, held.1,
        handed_over_single request answer window requested shows one sealed status held⟩
    · exact absurd listed (gated.undone before answer.request memfds)
  | pinChange before memfds current entered listed stood two confirmed sealed status =>
    obtain ⟨earlier, seen, made, later, today, split, held⟩ :=
      accept_held past screen gated before answer.request memfds listed window stood
    exact ⟨request, earlier, seen, memfds, made, later, today, requested, own, split, held.1,
      handed_over_pair request answer window current entered requested shows two confirmed sealed
        status held⟩

/-- The day on which the holder fills in a form. -/
def entryDay : QDate := ⟨2024, 2, 29, by decide, by decide⟩

/-- A caller asks for a card access number and offers the MRZ form. The holder types two digits,
then switches, and fills in the other form. -/
def switchedForm : List ScreenEvent :=
  [.service (.requestSecret 7 kKindCan (Finmap.singleton kOptAltKinds (.strings [kKindMrz])) .direct
      0 {}) entryDay,
    .enter 0 (.can "12") entryDay, .service (.interact 0 (.swap 5)) entryDay,
    .enter 0 (.mrz publishedForm) entryDay]

/-- The accepted form is handed over as the MRZ it is. -/
theorem switched_form_handed_over :
    ∃ screen answer,
      run (step sampleTables) {} (switchedForm ++ [.service (.accept 0 {}) entryDay]) =
        some screen ∧
      answer ∈ screen.service.answers ∧ answer.status = .okMrz ∧
      ∃ request today, request.request = answer.request ∧
        HandedOver sampleTables today request answer := by
  have answered : (run (step sampleTables) {}
      (switchedForm ++ [.service (.accept 0 {}) entryDay])).map (fun screen => screen.service.answers) =
        some [⟨0, .okMrz, [some ⟨"L898902C36\n7408122\n1204159", some .mrz⟩]⟩] := by
    decide +kernel
  obtain ⟨screen, reached, answers⟩ := Option.map_eq_some_iff.mp answered
  have handed := (secrets_well_formed sampleTables_lawful _ screen reached).2
  rw [answers] at handed
  obtain ⟨request, _, _, _, _, _, today, -, own, -, -, delivered⟩ := handed _ List.mem_cons_self rfl
  exact ⟨screen, _, reached, answers ▸ List.mem_cons_self, rfl, request, today, own, delivered⟩

/-- Two digits are no card access number: the button does not take the accept. -/
example : (run (step sampleTables) {}
    (switchedForm.take 2 ++ [.service (.accept 0 {}) entryDay])).isNone = true := by
  decide +kernel

end Screen

end LibreLinux.Prompter
