import LibreLinux.Lib.Runs
import LibreLinux.Prompter.Dialog
import LibreLinux.Prompter.Registry
import Mathlib.Logic.Function.Basic

/-!
# The prompter service

Bus calls arrive on a worker thread and post their work to the GUI thread, where
every window and every registry access lives. A request is a reply handle; its
window, if one is raised, is identified by the same number. Dismissals look the
window up, post a reject to it and leave its entry in place: the window's own
completion takes the entry and answers.

The environment chooses the next step. It names the posted task to perform, in
any order and arbitrarily late; it says which memfd creations succeed; and it
may accept, reject, close or expire any window that still exists, also one that
has already answered. A completed window is deleted by a posted task, and what
is posted to a deleted window is dropped.
-/

namespace LibreLinux.Prompter

open Wire

/-- A reply handle, numbered in the order the requests arrive. -/
abbrev RequestId := Nat

/-- Which memfd creations of one step succeed: the captured secrets and the
empty descriptors of a refusal. -/
structure Memfds where
  primary : Bool := true
  secondary : Bool := true
  emptyPrimary : Bool := true
  emptySecondary : Bool := true
deriving DecidableEq, Repr

/-- One use of a reply handle. A descriptor that could not be created is the
source's `-1`, which the wire encoder cannot send. -/
structure Answer where
  request : RequestId
  status : PromptReplyStatus
  fds : List (Option SealedMemfd)
deriving DecidableEq, Repr

/-- Whether the reply reached the wire. -/
def Answer.sent (answer : Answer) : Bool := answer.fds.all Option.isSome

/-- Whether the status announces a secret. -/
def Answer.granted (answer : Answer) : Bool :=
  decide (answer.status = .ok ∨ answer.status = .okMrz)

/-- The functor a request posts: everything its window needs. `multi` tells a
PIN change, whose reply carries two descriptors. -/
structure RaiseRequest where
  request : RequestId
  kind : Kind
  opts : DialogOptions
  ownerPid : Pid
  promptId : String
  offerMrzSwitch : Bool
  entryBudget : Nat
  altEntryBudget : Nat
  multi : Bool
deriving DecidableEq, Repr

/-- The entry its window is registered with. -/
def RaiseRequest.entry (request : RaiseRequest) : Entry where
  window := request.request
  ownerPid := request.ownerPid
  promptId := request.promptId

/-- Which bus call asked for a dismissal. -/
inductive DismissCause where
  | cancel (promptId : String) (callerPid : Pid)
  | reset
deriving DecidableEq, Repr

/-- Work posted to the GUI thread. -/
inductive GuiTask where
  | raise (request : RaiseRequest)
  | dismiss (promptId : String) (callerPid : Pid)
  | dismissEvery
  | reject (window : WindowId) (cause : DismissCause)
  | deleteLater (window : WindowId)
deriving DecidableEq, Repr

/-- A window with what its completion captured. -/
structure Window where
  handle : Handle
  dialog : PromptDialog
  offerMrzSwitch : Bool
  multi : Bool
deriving DecidableEq, Repr

/-- The prompter process: its registry, its windows and the posted work. The last
fields are its history: every registration of a window, every use of a reply
handle, and how many requests have arrived. -/
structure Service where
  registry : PromptRegistry := {}
  windows : WindowId → Option Window := fun _ => none
  posted : List GuiTask := []
  registrations : List (Handle × Entry) := []
  answers : List Answer := []
  nextRequest : RequestId := 0

/-- How a bus handler reaches the GUI thread: it may be on it already, it may
post, or the post may fail in a shutdown. -/
inductive Delivery where
  | direct
  | queued
  | failed
deriving DecidableEq, Repr

/-- The window families a single-secret request may name. -/
def parseKind (kind : String) : Option Kind :=
  if kind = kKindPin then some .pin
  else if kind = kKindCan then some .can
  else if kind = kKindMrz then some .mrz
  else none

/-- The offer of the MRZ form: a CAN request that opted into it. -/
def offersMrzSwitch (kind : Kind) (opts : DialogOptions) : Bool :=
  decide (kind = .can) && opts.altKinds.contains kKindMrz

/-- What `RequestSecret` posts for a kind it recognises. -/
def raiseRequest (request : RequestId) (ownerPid : Pid) (kind : Kind) (options : Dict) : RaiseRequest :=
  let opts := buildOptions options
  let offered := offersMrzSwitch kind opts
  { request, kind, ownerPid
    opts := { opts with offerMrzSwitch := offered }
    promptId := optionString options kOptPromptId
    offerMrzSwitch := offered
    entryBudget := (optionUInt options kOptDeadlineMs 0).toNat
    altEntryBudget := (optionUInt options kOptAltDeadlineMs 0).toNat
    multi := false }

/-- What `RequestSecrets` posts. -/
def raiseChangePinRequest (request : RequestId) (ownerPid : Pid) (options : Dict) : RaiseRequest :=
  { request, ownerPid
    kind := .changePin
    opts := buildMultiOptions options
    promptId := optionString options kOptPromptId
    offerMrzSwitch := false
    entryBudget := (optionUInt options kOptDeadlineMs 0).toNat
    altEntryBudget := 0
    multi := true }

/-- The empty descriptors of a reply without a secret. -/
def emptyFds (multi : Bool) (memfds : Memfds) : List (Option SealedMemfd) :=
  if multi then [makeEmptySealedFd memfds.emptyPrimary, makeEmptySealedFd memfds.emptySecondary]
  else [makeEmptySealedFd memfds.emptyPrimary]

/-- The window a request shows: armed before it is shown, the alternative budget
only where the switch is offered. -/
def newDialog (request : RaiseRequest) (now : Nat) : PromptDialog :=
  let dialog := PromptDialog.create request.kind request.opts
  let armed := dialog.clock.setEntryDeadline request.entryBudget
  let clock := if request.offerMrzSwitch then armed.setAlternateEntryDeadline request.altEntryBudget
    else armed
  { dialog with clock }.showEvent now

/-- What one completion decides: the status, the descriptors, and the dialog
after its secret was read. -/
structure Completion where
  status : PromptReplyStatus
  fds : List (Option SealedMemfd)
  dialog : PromptDialog
deriving DecidableEq, Repr

namespace Window

/-- The status of a window that was closed without an accept. -/
def closedStatus (window : Window) : PromptReplyStatus :=
  if window.dialog.expired then .timeout else .cancelled

/-- The completion of a single-secret window. -/
def completeSecret (window : Window) (accepted : Bool) (memfds : Memfds) : Completion :=
  if accepted then
    match window.dialog.captureSecretFd memfds.primary with
    | (none, dialog) => ⟨.error, emptyFds false memfds, dialog⟩
    | (some fd, dialog) =>
      ⟨if window.offerMrzSwitch && dialog.mrzChosen then .okMrz else .ok, [some fd], dialog⟩
  else ⟨window.closedStatus, emptyFds false memfds, window.dialog⟩

/-- The completion of a PIN-change window; half a capture is closed, not sent. -/
def completeSecrets (window : Window) (accepted : Bool) (memfds : Memfds) : Completion :=
  if accepted then
    match window.dialog.takeSecretFdPair with
    | (⟨some primary, some secondary⟩, dialog) => ⟨.ok, [some primary, some secondary], dialog⟩
    | (_, dialog) => ⟨.error, emptyFds true memfds, dialog⟩
  else ⟨window.closedStatus, emptyFds true memfds, window.dialog⟩

/-- What the window's completion decides. -/
def complete (window : Window) (accepted : Bool) (memfds : Memfds) : Completion :=
  if window.multi then window.completeSecrets accepted memfds
  else window.completeSecret accepted memfds

end Window

namespace Service

/-- Use a reply handle. -/
def answer (state : Service) (answer : Answer) : Service :=
  { state with answers := state.answers ++ [answer] }

/-- Refuse a request with empty descriptors. -/
def refuse (state : Service) (request : RequestId) (multi : Bool) (status : PromptReplyStatus)
    (memfds : Memfds) : Service :=
  state.answer ⟨request, status, emptyFds multi memfds⟩

/-- Replace what is known of one window. -/
def setWindow (state : Service) (id : WindowId) (window : Option Window) : Service :=
  { state with windows := Function.update state.windows id window }

/-- Append to the GUI thread's queue. -/
def post (state : Service) (task : GuiTask) : Service :=
  { state with posted := state.posted ++ [task] }

/-- Build the window, register it, show it. A window whose prompt id is already
on screen is refused and never shown. -/
def raiseWindow (state : Service) (request : RaiseRequest) (now : Nat) (memfds : Memfds) : Service :=
  match state.registry.add (some request.request) request.ownerPid request.promptId with
  | (none, _) => state.refuse request.request request.multi .error memfds
  | (some handle, registry) =>
    { state with
      registry, registrations := state.registrations ++ [(handle, request.entry)] }.setWindow
      request.request
      (some { handle, dialog := newDialog request now, offerMrzSwitch := request.offerMrzSwitch,
              multi := request.multi })

/-- The window's `finished` handler: take the entry first, then answer and let
the window be deleted. Without an entry it does nothing. -/
def finished (state : Service) (id : WindowId) (window : Window) (accepted : Bool)
    (memfds : Memfds) : Service :=
  match state.registry.take window.handle with
  | (none, _) => state
  | (some _, registry) =>
    let completion := window.complete accepted memfds
    ({ state with registry }.setWindow id (some { window with dialog := completion.dialog })
      |>.answer ⟨id, completion.status, completion.fds⟩).post (.deleteLater id)

/-- Only the caller that raised a window may dismiss it. -/
def isActivePromptOwner (ownerPid callerPid : Pid) : Bool :=
  decide (ownerPid ≠ 0 ∧ ownerPid = callerPid)

/-- Post a reject to the one window a prompt id names, if the caller owns it. -/
def dismissOnGuiThread (state : Service) (promptId : String) (callerPid : Pid) : Service :=
  match state.registry.findByPromptId promptId with
  | none => state
  | some handle =>
    match state.registry.find handle with
    | none => state
    | some entry =>
      if isActivePromptOwner entry.ownerPid callerPid then
        state.post (.reject entry.window (.cancel promptId callerPid))
      else state

/-- Post a reject to every registered window. -/
def dismissEveryWindowOnGuiThread (state : Service) : Service :=
  (state.registry.handles.filterMap state.registry.find).foldl
    (fun state entry => state.post (.reject entry.window .reset)) state

/-- Perform one posted task. -/
def perform (state : Service) (task : GuiTask) (now : Nat) (memfds : Memfds) : Service :=
  match task with
  | .raise request => state.raiseWindow request now memfds
  | .dismiss promptId callerPid => state.dismissOnGuiThread promptId callerPid
  | .dismissEvery => state.dismissEveryWindowOnGuiThread
  | .reject id _ =>
    match state.windows id with
    | none => state
    | some window => state.finished id window false memfds
  | .deleteLater id => state.setWindow id none

/-- Bring a task to the GUI thread; `undelivered` is what a failed post does. -/
def deliver (state : Service) (delivery : Delivery) (task : GuiTask) (undelivered : Service)
    (now : Nat) (memfds : Memfds) : Service :=
  match delivery with
  | .direct => state.perform task now memfds
  | .queued => state.post task
  | .failed => undelivered

/-- Take the next reply handle. -/
def nextReply (state : Service) : Service := { state with nextRequest := state.nextRequest + 1 }

/-- The single-secret call. Caller pid zero is an unauthorised caller. -/
def requestSecret (state : Service) (callerPid : Pid) (kind : String) (options : Dict)
    (delivery : Delivery) (now : Nat) (memfds : Memfds) : Service :=
  let request := state.nextRequest
  let issued := state.nextReply
  if callerPid = 0 then issued.refuse request false .unauthorized memfds
  else
    match parseKind kind with
    | none => issued.refuse request false .error memfds
    | some kind =>
      issued.deliver delivery (.raise (raiseRequest request callerPid kind options))
        (issued.refuse request false .error memfds) now memfds

/-- The PIN-change call. -/
def requestSecrets (state : Service) (callerPid : Pid) (kind : String) (options : Dict)
    (delivery : Delivery) (now : Nat) (memfds : Memfds) : Service :=
  let request := state.nextRequest
  let issued := state.nextReply
  if callerPid = 0 then issued.refuse request true .unauthorized memfds
  else if kind ≠ kKindChangePin then issued.refuse request true .error memfds
  else
    issued.deliver delivery (.raise (raiseChangePinRequest request callerPid options))
      (issued.refuse request true .error memfds) now memfds

/-- The dismissal of one window. -/
def cancel (state : Service) (promptId : String) (callerPid : Pid) (delivery : Delivery)
    (now : Nat) (memfds : Memfds) : Service :=
  if callerPid = 0 then state
  else state.deliver delivery (.dismiss promptId callerPid) state now memfds

/-- The dismissal of every window, whoever owns it. -/
def reset (state : Service) (callerPid : Pid) (delivery : Delivery) (now : Nat)
    (memfds : Memfds) : Service :=
  if callerPid = 0 then state
  else state.deliver delivery .dismissEvery state now memfds

/-- One step of the prompter process. -/
inductive Event where
  | requestSecret (callerPid : Pid) (kind : String) (options : Dict) (delivery : Delivery)
      (now : Nat) (memfds : Memfds)
  | requestSecrets (callerPid : Pid) (kind : String) (options : Dict) (delivery : Delivery)
      (now : Nat) (memfds : Memfds)
  | cancel (promptId : String) (callerPid : Pid) (delivery : Delivery) (now : Nat) (memfds : Memfds)
  | reset (callerPid : Pid) (delivery : Delivery) (now : Nat) (memfds : Memfds)
  | perform (index : Nat) (now : Nat) (memfds : Memfds)
  | interact (window : WindowId) (action : PromptDialog.Interaction)
  | accept (window : WindowId) (memfds : Memfds)
  | done (window : WindowId) (accepted : Bool) (memfds : Memfds)
  | expire (window : WindowId) (now : Nat) (memfds : Memfds)

/-- The single-shot timer may fire once its due time has come. -/
def due (dialog : PromptDialog) (now : Nat) : Bool :=
  match dialog.clock.timer with
  | some (some at_) => decide (at_ ≤ now)
  | _ => false

/-- The transition function. It refuses a task index out of range, a window that
does not exist, an interaction the window does not offer and a timer not due.
A `done` is any close of the window, with `finished` emitted once more however
often it was emitted before. -/
def step (state : Service) : Event → Option Service
  | .requestSecret callerPid kind options delivery now memfds =>
      some (state.requestSecret callerPid kind options delivery now memfds)
  | .requestSecrets callerPid kind options delivery now memfds =>
      some (state.requestSecrets callerPid kind options delivery now memfds)
  | .cancel promptId callerPid delivery now memfds =>
      some (state.cancel promptId callerPid delivery now memfds)
  | .reset callerPid delivery now memfds => some (state.reset callerPid delivery now memfds)
  | .perform index now memfds =>
      (state.posted[index]?).map (fun task =>
        { state with posted := state.posted.eraseIdx index }.perform task now memfds)
  | .interact id action => do
      let window ← state.windows id
      let dialog ← window.dialog.interact action
      pure (state.setWindow id (some { window with dialog }))
  | .accept id memfds => do
      let window ← state.windows id
      let outcome := window.dialog.accept memfds.primary memfds.secondary
      let window := { window with dialog := outcome.1 }
      let state := state.setWindow id (some window)
      pure (if outcome.2 then state.finished id window true memfds else state)
  | .done id accepted memfds => do
      let window ← state.windows id
      pure (state.finished id window accepted memfds)
  | .expire id now memfds => do
      let window ← state.windows id
      if due window.dialog now then
        let window := { window with dialog := window.dialog.expire }
        pure ((state.setWindow id (some window)).finished id window false memfds)
      else none

end Service

end LibreLinux.Prompter
