import LibreLinux.Wire.PromptOptions

/-!
# One credential window

A `PromptDialog` hosts one input form. Its single-secret forms are captured when
the window's completion asks for the secret; the PIN-change form is captured by
the accept itself, before the window hides. A CAN window that offers the switch
may replace its form by the MRZ form and back; each swap installs a fresh form
and drops what was typed into the old one.

A form is represented by what its capture would seal at this moment: the text of
the edit for PIN and CAN, the three assembled lines for the MRZ form. A memfd
system call may fail at any creation; each creation is told by a flag whether it
succeeds. Labels, layout and focus carry no data that any modelled function
reads and are left out.
-/

namespace LibreLinux.Prompter

open Wire (DialogOptions)

/-- The widget family of a dialog. -/
inductive Kind where
  | pin
  | can
  | mrz
  | changePin
deriving DecidableEq, Repr

/-- A sealed memfd: its immutable content, and the form whose capture wrote it.
A descriptor made only to accompany a refusal has no form. -/
structure SealedMemfd where
  content : String
  form : Option Kind
deriving DecidableEq, Repr

/-- Create a sealed memfd; the failed creation is the source's `-1`. -/
def makeSealedSecretFd (created : Bool) (form : Option Kind) (bytes : String) : Option SealedMemfd :=
  if created then some ⟨bytes, form⟩ else none

/-- The zero-byte sealed memfd of every reply without a secret. -/
def makeEmptySealedFd (created : Bool) : Option SealedMemfd :=
  makeSealedSecretFd created none ""

/-- The active input form, holding what its capture would seal now. -/
inductive InputWidget where
  | pin (entered : String)
  | can (entered : String)
  | mrz (entered : String)
  | changePin (current entered confirm : String)
deriving DecidableEq, Repr

/-- What the MRZ form would seal with no document number and both dates at the
untouched sentinel. -/
def blankMrz : String := "<<<<<<<<<0\n0001018\n0001018"

/-- A fresh form of the requested family. -/
def widgetFor : Kind → InputWidget
  | .pin => .pin ""
  | .can => .can ""
  | .mrz => .mrz blankMrz
  | .changePin => .changePin "" "" ""

namespace InputWidget

/-- The family of a form. -/
def form : InputWidget → Kind
  | .pin _ => .pin
  | .can _ => .can
  | .mrz _ => .mrz
  | .changePin _ _ _ => .changePin

/-- Seal the form's secret and scrub the field it was read from. For a PIN
change this is the current PIN. -/
def captureSecretFd (created : Bool) : InputWidget → Option SealedMemfd × InputWidget
  | .pin entered => (makeSealedSecretFd created (some .pin) entered, .pin "")
  | .can entered => (makeSealedSecretFd created (some .can) entered, .can "")
  | .mrz entered => (makeSealedSecretFd created (some .mrz) entered, .mrz blankMrz)
  | .changePin current entered confirm =>
      (makeSealedSecretFd created (some .changePin) current, .changePin "" entered confirm)

/-- Seal the new PIN; the confirmation has served its purpose and is scrubbed
with it. Forms other than the PIN change have no new PIN. -/
def captureNewSecretFd (created : Bool) : InputWidget → Option SealedMemfd × InputWidget
  | .changePin current entered _ =>
      (makeSealedSecretFd created (some .changePin) entered, .changePin current "" "")
  | other => (none, other)

/-- A captured secret was written by the form that held it. -/
theorem captured_by (widget : InputWidget) (created : Bool) (fd : SealedMemfd)
    (captured : (widget.captureSecretFd created).1 = some fd) : fd.form = some widget.form := by
  cases created with
  | false => cases widget <;> simp [captureSecretFd, makeSealedSecretFd] at captured
  | true =>
    cases widget <;> simp only [captureSecretFd, makeSealedSecretFd, if_true,
      Option.some.injEq] at captured <;> exact captured ▸ rfl

end InputWidget

/-- The window's own entry clock, in milliseconds. The timer is absent without a
positive budget, idle until the window is shown, and then holds its due time. -/
structure EntryClock where
  entryBudget : Nat := 0
  altEntryBudget : Nat := 0
  timer : Option (Option Nat) := none
  shownAt : Nat := 0
deriving DecidableEq, Repr

namespace EntryClock

/-- Arm the entry deadline. Zero means no deadline and creates no timer. -/
def setEntryDeadline (clock : EntryClock) (budget : Nat) : EntryClock :=
  if budget = 0 then { clock with entryBudget := 0 }
  else { clock with entryBudget := budget, timer := some none }

/-- Record what the alternative form is worth. -/
def setAlternateEntryDeadline (clock : EntryClock) (budget : Nat) : EntryClock :=
  { clock with altEntryBudget := budget }

/-- The time left when the offered switch is taken; zero leaves the clock alone. -/
def rebasedRemaining (current alternative elapsed : Nat) : Nat :=
  if alternative ≤ current then 0 else alternative - elapsed

/-- Re-base a running clock on the alternative form's budget. -/
def rebaseEntryDeadlineOnAlternative (clock : EntryClock) (now : Nat) : EntryClock :=
  match clock.timer with
  | some (some _) =>
    let remaining := rebasedRemaining clock.entryBudget clock.altEntryBudget (now - clock.shownAt)
    if remaining = 0 then clock
    else { clock with entryBudget := clock.altEntryBudget, timer := some (some (now + remaining)) }
  | _ => clock

/-- The holder's time starts at the first show of an armed window. -/
def showEvent (clock : EntryClock) (now : Nat) : EntryClock :=
  match clock.timer with
  | some none => { clock with shownAt := now, timer := some (some (now + clock.entryBudget)) }
  | _ => clock

/-- A single-shot timer that fired is idle again. -/
def fired (clock : EntryClock) : EntryClock :=
  { clock with timer := clock.timer.map (fun _ => none) }

end EntryClock

/-- The two secrets a PIN change captured, each absent as `-1` is. -/
structure SecretFdPair where
  primaryFd : Option SealedMemfd := none
  secondaryFd : Option SealedMemfd := none
deriving DecidableEq, Repr

/-- A dialog: the kind it shows, its options, its form, what its accept
captured, its clock and whether that clock ran out. -/
structure PromptDialog where
  kind : Kind
  opts : DialogOptions
  widget : InputWidget
  captured : SecretFdPair := {}
  clock : EntryClock := {}
  expired : Bool := false
deriving DecidableEq, Repr

namespace PromptDialog

/-- A new dialog shows a fresh form of its kind. -/
def create (kind : Kind) (opts : DialogOptions) : PromptDialog :=
  { kind, opts, widget := widgetFor kind }

/-- Whether the MRZ form is the active one. -/
def mrzChosen (dialog : PromptDialog) : Bool := decide (dialog.kind = .mrz)

/-- Replace the active form by the other of CAN and MRZ and re-base the clock. -/
def swapInputKind (dialog : PromptDialog) (now : Nat) : PromptDialog :=
  let next := if dialog.kind = .mrz then Kind.can else Kind.mrz
  { dialog with
    kind := next
    widget := widgetFor next
    clock := dialog.clock.rebaseEntryDeadlineOnAlternative now }

/-- The holder changes the contents of the active form. -/
def edit (dialog : PromptDialog) (widget : InputWidget) : Option PromptDialog :=
  if widget.form = dialog.widget.form then some { dialog with widget } else none

/-- Capture the active form's secret. -/
def captureSecretFd (dialog : PromptDialog) (created : Bool) : Option SealedMemfd × PromptDialog :=
  let captured := dialog.widget.captureSecretFd created
  (captured.1, { dialog with widget := captured.2 })

/-- Try to accept. A PIN change not yet captured is blocked while the
confirmation differs, else captures both secrets; every other accept passes
through. The flag tells whether `finished` is emitted. -/
def accept (dialog : PromptDialog) (primaryCreated secondaryCreated : Bool) : PromptDialog × Bool :=
  let alreadyCaptured := dialog.captured.primaryFd.isSome || dialog.captured.secondaryFd.isSome
  match dialog.widget, alreadyCaptured with
  | .changePin _ entered confirm, false =>
    if entered ≠ confirm then (dialog, false)
    else
      let primary := dialog.widget.captureSecretFd primaryCreated
      let secondary := primary.2.captureNewSecretFd secondaryCreated
      ({ dialog with captured := ⟨primary.1, secondary.1⟩, widget := secondary.2 }, true)
  | _, _ => (dialog, true)

/-- Hand over what the accept captured; a second take finds nothing. -/
def takeSecretFdPair (dialog : PromptDialog) : SecretFdPair × PromptDialog :=
  (dialog.captured, { dialog with captured := {} })

/-- The deadline fires: the expiry is recorded before the window closes. -/
def expire (dialog : PromptDialog) : PromptDialog :=
  { dialog with expired := true, clock := dialog.clock.fired }

/-- The window is shown. -/
def showEvent (dialog : PromptDialog) (now : Nat) : PromptDialog :=
  { dialog with clock := dialog.clock.showEvent now }

/-- What the holder and the toolkit do to a window that stays open. -/
inductive Interaction where
  | edit (widget : InputWidget)
  | swap (now : Nat)
  | shown (now : Nat)
deriving DecidableEq, Repr

/-- One interaction. The switch button exists only on a dialog that offers it. -/
def interact (dialog : PromptDialog) : Interaction → Option PromptDialog
  | .edit widget => dialog.edit widget
  | .swap now => if dialog.opts.offerMrzSwitch then some (dialog.swapInputKind now) else none
  | .shown now => some (dialog.showEvent now)

/-- The dialog's kind names the form on screen. -/
def FormShown (dialog : PromptDialog) : Prop := dialog.widget.form = dialog.kind

/-- A new dialog shows the form of its kind. -/
theorem form_created (kind : Kind) (opts : DialogOptions) : (create kind opts).FormShown := by
  cases kind <;> rfl

/-- A swap installs the form of the kind it switches to. -/
theorem form_swapped (dialog : PromptDialog) (now : Nat) : (dialog.swapInputKind now).FormShown := by
  by_cases shown : dialog.kind = .mrz <;> simp [swapInputKind, FormShown, shown, widgetFor,
    InputWidget.form]

/-- Editing changes the contents of the form, never its family. -/
theorem form_edited (dialog edited : PromptDialog) (widget : InputWidget)
    (shown : dialog.FormShown) (accepted : dialog.edit widget = some edited) :
    edited.FormShown ∧ edited.kind = dialog.kind := by
  unfold edit at accepted
  split at accepted
  · rename_i same
    have updated : { dialog with widget } = edited := Option.some.inj accepted
    subst edited
    exact ⟨same.trans shown, rfl⟩
  · cases accepted

/-- What a dialog captures was written by the form its kind names. -/
theorem captured_form (dialog : PromptDialog) (shown : dialog.FormShown) (created : Bool)
    (fd : SealedMemfd) (captured : (dialog.captureSecretFd created).1 = some fd) :
    fd.form = some dialog.kind :=
  (dialog.widget.captured_by created fd captured).trans (congrArg some shown)

end PromptDialog

end LibreLinux.Prompter
