import LibreLinux.Lib.Descriptors
import LibreLinux.Prompter.Service

/-!
# The captured PIN change

The PIN-change window captures both secrets when it is accepted, before it hides: the
current PIN, then the new one, each sealed and its field scrubbed. `QDialog::accept`
emits `finished` before it returns, so the completion that takes the pair runs inside
the accept that captured it. A second accept, queued behind the first, finds the fields
scrubbed and the request answered.

Here the descriptors have identities. The window's memfds are one table: what was
captured, and the empty ones of a refusal. The window is followed until it is destroyed;
until then it may be edited, accepted, closed or asked for its pair at any time, also
long after its request was answered.
-/

namespace LibreLinux.Prompter

open Runs Wire

/-- The three fields of the form. -/
structure PinFields where
  current : String := ""
  entered : String := ""
  confirm : String := ""
deriving DecidableEq, Repr

/-- The captured pair, each half absent as `-1` is. -/
structure FdPair where
  primaryFd : Option Nat := none
  secondaryFd : Option Nat := none
deriving DecidableEq, Repr

/-- The descriptors of a pair. -/
def FdPair.held (pair : FdPair) : List Nat := pair.primaryFd.toList ++ pair.secondaryFd.toList

@[simp]
theorem FdPair.held_nothing : FdPair.held {} = [] := rfl

/-- What was given to the reply handle. -/
structure SecretsReply where
  status : PromptReplyStatus
  fds : List (Option Nat)
deriving DecidableEq, Repr

/-- A PIN-change window: its form, its pair, its memfds, whether its entry is in the
registry, and the uses of its reply handle. -/
structure ChangePinWindow where
  fields : PinFields := {}
  captured : FdPair := {}
  table : Descriptors.Table String := {}
  registered : Bool := true
  expired : Bool := false
  alive : Bool := true
  replies : List SecretsReply := []

/-- What can happen to the window. -/
inductive CaptureEvent where
  | edit (fields : PinFields)
  | accept (memfds : Memfds)
  | done (accepted : Bool) (memfds : Memfds)
  | expire (memfds : Memfds)
  | takeSecretFdPair
  | destroy
deriving DecidableEq, Repr

namespace ChangePinWindow

/-- Seal the current PIN and scrub its field. -/
def captureSecretFd (window : ChangePinWindow) (created : Bool) : Option Nat × ChangePinWindow :=
  let sealed := window.table.create window.fields.current (!created)
  (sealed.1, { window with table := sealed.2, fields := { window.fields with current := "" } })

/-- Seal the new PIN and scrub its field and the confirmation. -/
def captureNewSecretFd (window : ChangePinWindow) (created : Bool) : Option Nat × ChangePinWindow :=
  let sealed := window.table.create window.fields.entered (!created)
  (sealed.1, { window with
    table := sealed.2
    fields := { window.fields with entered := "", confirm := "" } })

/-- Both captures of one accept. -/
def capture (window : ChangePinWindow) (memfds : Memfds) : ChangePinWindow :=
  let primary := window.captureSecretFd memfds.primary
  let secondary := primary.2.captureNewSecretFd memfds.secondary
  { secondary.2 with captured := ⟨primary.1, secondary.1⟩ }

/-- Whether an accept already captured something. -/
def alreadyCaptured (window : ChangePinWindow) : Bool :=
  window.captured.primaryFd.isSome || window.captured.secondaryFd.isSome

/-- Hand over the pair; a second take finds nothing. -/
def takeSecretFdPair (window : ChangePinWindow) : FdPair × ChangePinWindow :=
  (window.captured, { window with captured := {} })

/-- Use the reply handle. It adopts every descriptor it is given, sent or not. -/
def answerSecrets (window : ChangePinWindow) (status : PromptReplyStatus)
    (fds : List (Option Nat)) : ChangePinWindow :=
  { window with
    table := window.table.give (fds.filterMap id)
    replies := window.replies ++ [⟨status, fds⟩] }

/-- Answer with two empty descriptors, as far as they can be created. -/
def refuse (window : ChangePinWindow) (status : PromptReplyStatus) (memfds : Memfds) :
    ChangePinWindow :=
  let primary := window.table.create "" (!memfds.emptyPrimary)
  let secondary := primary.2.create "" (!memfds.emptySecondary)
  { window with table := secondary.2 }.answerSecrets status [primary.1, secondary.1]

/-- The completion, run by every `finished` emission: the entry first, then the answer.
Half a pair is closed. -/
def finished (window : ChangePinWindow) (accepted : Bool) (memfds : Memfds) : ChangePinWindow :=
  if window.registered then
    let unlisted := { window with registered := false }
    if accepted then
      let taken := unlisted.takeSecretFdPair
      match taken.1.primaryFd, taken.1.secondaryFd with
      | some primary, some secondary => taken.2.answerSecrets .ok [some primary, some secondary]
      | _, _ =>
        { taken.2 with table := taken.2.table.close taken.1.held }.refuse .error memfds
    else unlisted.refuse (if window.expired then .timeout else .cancelled) memfds
  else window

/-- Try to accept. A window with nothing captured is blocked by a confirmation that
differs, else captures both secrets; then `finished` is emitted. -/
def accept (window : ChangePinWindow) (memfds : Memfds) : ChangePinWindow :=
  if window.alreadyCaptured then window.finished true memfds
  else if window.fields.entered = window.fields.confirm then
    (window.capture memfds).finished true memfds
  else window

/-- Destroy the window and close what it still holds. -/
def destroy (window : ChangePinWindow) : ChangePinWindow :=
  { window with
    table := window.table.close window.captured.held
    captured := {}
    alive := false }

/-- One step of a window that exists. A pair taken by someone else is theirs. -/
def step (window : ChangePinWindow) (event : CaptureEvent) : Option ChangePinWindow :=
  if window.alive then
    match event with
    | .edit fields => some { window with fields }
    | .accept memfds => some (window.accept memfds)
    | .done accepted memfds => some (window.finished accepted memfds)
    | .expire memfds => some ({ window with expired := true }.finished false memfds)
    | .takeSecretFdPair =>
      let taken := window.takeSecretFdPair
      some { taken.2 with table := taken.2.table.give taken.1.held }
    | .destroy => some window.destroy
  else none

/-- What the holder typed last. -/
def typed (events : List CaptureEvent) : PinFields :=
  events.foldl (fun fields event =>
    match event with
    | .edit fields => fields
    | _ => fields) {}

/-- The reply carries two descriptors that hold the current and the new PIN as they stood
in the fields at one accept of the past. The fields agreed, and they were what the holder
had typed, not what an earlier accept had left. -/
def Delivered (past : List (ChangePinWindow × CaptureEvent)) (table : Descriptors.Table String)
    (reply : SecretsReply) : Prop :=
  ∃ earlier later before memfds primary secondary,
    past = earlier ++ (before, .accept memfds) :: later ∧
      before.fields = typed (earlier.map Prod.snd) ∧
      before.fields.entered = before.fields.confirm ∧
      reply.fds = [some primary, some secondary] ∧ primary ≠ secondary ∧
      table.content? primary = some before.fields.current ∧
      table.content? secondary = some before.fields.entered

/-- The invariant: every memfd is accounted for. A window not yet answered has captured
nothing and shows what was typed; one that has answered did so once, and a granting
answer delivered an accepted pair. -/
structure Capturing (past : List (ChangePinWindow × CaptureEvent)) (window : ChangePinWindow) :
    Prop where
  conserved : window.table.Conserved window.captured.held
  waiting : window.registered = true →
    window.captured = {} ∧ window.fields = typed (past.map Prod.snd) ∧ window.replies = []
  answered : window.registered = false → ∃ reply, window.replies = [reply] ∧
    (reply.status = .ok → Delivered past window.table reply)
  destroyed : window.alive = false → window.captured = {}

/-- A new window has captured nothing. -/
theorem capturing_initial : Capturing [] {} where
  conserved := Descriptors.Table.conserved_empty
  waiting := fun _ => ⟨rfl, rfl, rfl⟩
  answered := by simp
  destroyed := by simp

/-- Every descriptor of the one table holds in the other what it held. -/
def Keeps (table next : Descriptors.Table String) : Prop :=
  ∀ fd content, table.content? fd = some content → next.content? fd = some content

/-- What was delivered stays delivered. -/
theorem delivered_later (past : List (ChangePinWindow × CaptureEvent))
    (entry : ChangePinWindow × CaptureEvent) (table next : Descriptors.Table String)
    (reply : SecretsReply) (kept : Keeps table next) (delivered : Delivered past table reply) :
    Delivered (past ++ [entry]) next reply := by
  obtain ⟨earlier, later, before, memfds, primary, secondary, split, shown, agreed, fds, apart,
    current, entered⟩ := delivered
  refine ⟨earlier, later ++ [entry], before, memfds, primary, secondary, ?_, shown, agreed, fds,
    apart, kept _ _ current, kept _ _ entered⟩
  rw [split, List.append_assoc, List.cons_append]

variable {window : ChangePinWindow}

/-- A window that has captured nothing. -/
theorem captured_nothing (uncaptured : window.alreadyCaptured = false) : window.captured = {} := by
  obtain ⟨primary, secondary⟩ : window.captured.primaryFd = none ∧
      window.captured.secondaryFd = none := by
    simpa [alreadyCaptured] using uncaptured
  calc window.captured = ⟨window.captured.primaryFd, window.captured.secondaryFd⟩ := rfl
    _ = {} := by rw [primary, secondary]

/-- A capture touches neither the entry, the window's life nor the replies. -/
theorem capture_frame (memfds : Memfds) :
    (window.capture memfds).registered = window.registered ∧
      (window.capture memfds).alive = window.alive ∧
      (window.capture memfds).replies = window.replies :=
  ⟨rfl, rfl, rfl⟩

/-- An accept's captures: the pair holds what the fields held, and is accounted for. -/
theorem capture_spec (memfds : Memfds) (conserved : window.table.Conserved []) :
    (window.capture memfds).table.Conserved (window.capture memfds).captured.held ∧
      Keeps window.table (window.capture memfds).table ∧
      (∀ primary, (window.capture memfds).captured.primaryFd = some primary →
        (window.capture memfds).table.content? primary = some window.fields.current) ∧
      ∀ secondary, (window.capture memfds).captured.secondaryFd = some secondary →
        (window.capture memfds).table.content? secondary = some window.fields.entered := by
  refine ⟨?_, ?_, ?_, ?_⟩
  · have first := Descriptors.Table.conserved_attempt window.fields.current (!memfds.primary)
      conserved
    exact Descriptors.Table.conserved_attempt window.fields.entered (!memfds.secondary) first
  · intro fd content held
    exact Descriptors.Table.content_kept _ _ _ _ (Descriptors.Table.content_kept _ _ _ _ held)
  · intro primary created
    exact Descriptors.Table.content_kept _ _ _ _ (Descriptors.Table.content_created _ _ _ created)
  · intro secondary created
    exact Descriptors.Table.content_created _ _ _ created

/-- A refusal adopts what it could create, and nothing else. -/
theorem refuse_spec (window : ChangePinWindow) (status : PromptReplyStatus) (memfds : Memfds)
    (conserved : window.table.Conserved []) :
    (window.refuse status memfds).table.Conserved [] ∧
      Keeps window.table (window.refuse status memfds).table ∧
      ∃ fds, (window.refuse status memfds).replies = window.replies ++ [⟨status, fds⟩] := by
  refine ⟨?_, ?_, ⟨_, rfl⟩⟩
  · have first := Descriptors.Table.conserved_attempt "" (!memfds.emptyPrimary) conserved
    have second := Descriptors.Table.conserved_attempt "" (!memfds.emptySecondary) first
    apply Descriptors.Table.conserved_give
    refine Descriptors.Table.conserved_perm _ ?_ second
    cases memfds.emptyPrimary <;> cases memfds.emptySecondary <;>
      simp [Descriptors.Table.create]
  · intro fd content held
    exact Descriptors.Table.content_kept _ _ _ _ (Descriptors.Table.content_kept _ _ _ _ held)

/-- What a completion answers. -/
theorem finished_spec (accepted : Bool) (memfds : Memfds) (registered : window.registered = true)
    (conserved : window.table.Conserved window.captured.held)
    (closing : accepted = false → window.captured = {}) :
    (window.finished accepted memfds).registered = false ∧
      (window.finished accepted memfds).captured = {} ∧
      (window.finished accepted memfds).table.Conserved [] ∧
      Keeps window.table (window.finished accepted memfds).table ∧
      ∃ reply, (window.finished accepted memfds).replies = window.replies ++ [reply] ∧
        (reply.status = .ok → ∃ primary secondary,
          window.captured = ⟨some primary, some secondary⟩ ∧
            reply.fds = [some primary, some secondary] ∧ primary ≠ secondary) := by
  cases accepted with
  | false =>
    have nothing := closing rfl
    rw [nothing] at conserved
    obtain ⟨settled, kept, fds, answered⟩ := refuse_spec { window with registered := false }
      (if window.expired then .timeout else .cancelled) memfds conserved
    simp only [finished, registered, if_true, Bool.false_eq_true, if_false]
    refine ⟨rfl, nothing, settled, kept, _, answered, ?_⟩
    cases window.expired <;> simp
  | true =>
    simp only [finished, registered, if_true, takeSecretFdPair]
    split
    · rename_i primary secondary first second
      have pair : window.captured = ⟨some primary, some secondary⟩ := by
        rw [← first, ← second]
      rw [pair] at conserved
      refine ⟨rfl, rfl, Descriptors.Table.conserved_give _ (by simpa [FdPair.held] using conserved),
        fun _ _ held => held, _, rfl, fun _ => ⟨primary, secondary, pair, rfl, ?_⟩⟩
      have apart : (window.table.closed ++ (window.table.adopted ++ [primary, secondary])).Nodup :=
        conserved.nodup_iff.mpr List.nodup_range
      simpa using (List.nodup_append.mp (List.nodup_append.mp apart).2.1).2.1
    · have settled : (window.table.close window.captured.held).Conserved [] :=
        Descriptors.Table.conserved_close _ (by simpa using conserved)
      obtain ⟨settled, kept, fds, answered⟩ := refuse_spec
        { window with
          registered := false, captured := {}, table := window.table.close window.captured.held }
        .error memfds settled
      exact ⟨rfl, rfl, settled, kept, _, answered, by simp⟩

/-- Without an entry a completion does nothing. -/
theorem finished_unregistered (accepted : Bool) (memfds : Memfds)
    (answered : window.registered = false) : window.finished accepted memfds = window := by
  simp [finished, answered]

variable {past : List (ChangePinWindow × CaptureEvent)}

/-- What was answered stays answered, whatever else is done to the window. -/
theorem answered_later (entry : ChangePinWindow × CaptureEvent) (next : ChangePinWindow)
    (capturing : window.Capturing past) (answered : window.registered = false)
    (replies : next.replies = window.replies) (kept : Keeps window.table next.table) :
    ∃ reply, next.replies = [reply] ∧
      (reply.status = .ok → Delivered (past ++ [entry]) next.table reply) := by
  obtain ⟨reply, only, granted⟩ := capturing.answered answered
  exact ⟨reply, replies.trans only, fun ok =>
    delivered_later past entry window.table next.table reply kept (granted ok)⟩

/-- Closing a window, or completing one that captured nothing, grants nothing. -/
theorem capturing_finished (entry : ChangePinWindow × CaptureEvent) (accepted : Bool)
    (memfds : Memfds) (capturing : window.Capturing past) (alive : window.alive = true) :
    Capturing (past ++ [entry]) (window.finished accepted memfds) := by
  cases registered : window.registered with
  | false =>
    rw [finished_unregistered accepted memfds registered]
    refine ⟨capturing.conserved, by simp [registered], fun _ => ?_, by simp [alive]⟩
    exact answered_later entry window capturing registered rfl (fun _ _ held => held)
  | true =>
    obtain ⟨nothing, -, unanswered⟩ := capturing.waiting registered
    obtain ⟨answered, emptied, settled, -, reply, replies, granted⟩ :=
      finished_spec accepted memfds registered capturing.conserved (fun _ => nothing)
    refine ⟨by rw [emptied]; exact settled, by simp [answered], fun _ => ⟨reply, ?_, ?_⟩,
      fun _ => emptied⟩
    · rw [replies, unanswered, List.nil_append]
    · intro ok
      obtain ⟨primary, secondary, pair, -⟩ := granted ok
      rw [nothing] at pair
      cases pair

/-- An accept grants what was typed, or nothing. -/
theorem capturing_accept (memfds : Memfds) (capturing : window.Capturing past)
    (alive : window.alive = true) :
    Capturing (past ++ [(window, .accept memfds)]) (window.accept memfds) := by
  rw [accept]
  split
  · exact capturing_finished _ true memfds capturing alive
  · rename_i uncaptured
    have nothing := captured_nothing (Bool.eq_false_iff.mpr uncaptured)
    split
    · rename_i agreed
      have conserved := capturing.conserved
      rw [nothing] at conserved
      obtain ⟨settled, kept, current, entered⟩ := capture_spec memfds conserved
      obtain ⟨entry, life, untold⟩ := window.capture_frame memfds
      cases registered : window.registered with
      | false =>
        rw [finished_unregistered true memfds (entry.trans registered)]
        refine ⟨settled, by simp [entry, registered], fun _ => ?_, by simp [life, alive]⟩
        exact answered_later _ _ capturing registered untold kept
      | true =>
        obtain ⟨-, shown, unanswered⟩ := capturing.waiting registered
        obtain ⟨answered, emptied, balanced, preserved, reply, replies, granted⟩ :=
          finished_spec true memfds (entry.trans registered) settled (by simp)
        refine ⟨by rw [emptied]; exact balanced, by simp [answered], fun _ => ⟨reply, ?_, ?_⟩,
          fun _ => emptied⟩
        · rw [replies, untold, unanswered, List.nil_append]
        · -- The accept that is being answered is the last step of the past.
          intro ok
          obtain ⟨primary, secondary, pair, fds, apart⟩ := granted ok
          exact ⟨past, [], window, memfds, primary, secondary, rfl, shown, agreed, fds, apart,
            preserved _ _ (current primary (by rw [pair])),
            preserved _ _ (entered secondary (by rw [pair]))⟩
    · refine ⟨capturing.conserved, fun registered => ?_, fun answered => ?_, by simp [alive]⟩
      · obtain ⟨-, shown, unanswered⟩ := capturing.waiting registered
        exact ⟨nothing, by simpa [typed] using shown, unanswered⟩
      · exact answered_later _ window capturing answered rfl (fun _ _ held => held)

/-- Every step keeps the invariant. -/
theorem capturing_step (past : List (ChangePinWindow × CaptureEvent)) (window : ChangePinWindow)
    (event : CaptureEvent) (next : ChangePinWindow) (capturing : window.Capturing past)
    (stepped : step window event = some next) : Capturing (past ++ [(window, event)]) next := by
  unfold step at stepped
  split at stepped
  · rename_i alive
    cases event with
    | edit fields =>
      cases Option.some.inj stepped
      refine ⟨capturing.conserved, fun registered => ?_, fun answered => ?_, by simp [alive]⟩
      · obtain ⟨nothing, -, unanswered⟩ := capturing.waiting registered
        exact ⟨nothing, by simp [typed], unanswered⟩
      · exact answered_later _ _ capturing answered rfl (fun _ _ held => held)
    | accept memfds =>
      cases Option.some.inj stepped
      exact capturing_accept memfds capturing alive
    | done accepted memfds =>
      cases Option.some.inj stepped
      exact capturing_finished _ accepted memfds capturing alive
    | expire memfds =>
      cases Option.some.inj stepped
      have marked : Capturing past { window with expired := true } :=
        ⟨capturing.conserved, capturing.waiting, capturing.answered, capturing.destroyed⟩
      exact capturing_finished _ false memfds marked alive
    | takeSecretFdPair =>
      cases Option.some.inj stepped
      refine ⟨?_, fun registered => ?_, fun answered => ?_, fun _ => rfl⟩
      · exact Descriptors.Table.conserved_give _
          (by simpa [takeSecretFdPair] using capturing.conserved)
      · obtain ⟨-, shown, unanswered⟩ := capturing.waiting registered
        exact ⟨rfl, by simpa [typed, takeSecretFdPair] using shown, unanswered⟩
      · exact answered_later _ _ capturing answered rfl (fun _ _ held => held)
    | destroy =>
      cases Option.some.inj stepped
      refine ⟨?_, fun registered => ?_, fun answered => ?_, fun _ => rfl⟩
      · exact Descriptors.Table.conserved_close _
          (by simpa [destroy] using capturing.conserved)
      · obtain ⟨-, shown, unanswered⟩ := capturing.waiting registered
        exact ⟨rfl, by simpa [typed, destroy] using shown, unanswered⟩
      · exact answered_later _ _ capturing answered rfl (fun _ _ held => held)
  · cases stepped

/-- In every run of a PIN-change window at most one reply is given. A granting reply
carries two descriptors that hold the PINs typed for one accept whose new PIN and
confirmation agreed; every created descriptor is closed once, given away once or still
held, and a destroyed window holds none.

Proof: the invariant `Capturing` holds the one captured pair and its descriptors; the reply takes
the pair over or closes it, and with the entry gone there is no second reply. -/
theorem captured_pair_delivered (events : List CaptureEvent) (window : ChangePinWindow)
    (reached : Runs.run step {} events = some window) :
    window.replies.length ≤ 1 ∧
      (∀ reply ∈ window.replies, reply.status = .ok →
        Delivered (Runs.trace step {} events) window.table reply) ∧
      window.table.Conserved window.captured.held ∧
      (window.alive = false → window.table.Conserved []) := by
  have capturing := Runs.trace_invariant step Capturing capturing_step events {} window
    capturing_initial reached
  refine ⟨?_, ?_, capturing.conserved, fun gone => ?_⟩
  · cases registered : window.registered with
    | true => simp [(capturing.waiting registered).2.2]
    | false =>
      obtain ⟨reply, only, -⟩ := capturing.answered registered
      simp [only]
  · intro reply member ok
    cases registered : window.registered with
    | true => simp [(capturing.waiting registered).2.2] at member
    | false =>
      obtain ⟨only, replies, granted⟩ := capturing.answered registered
      rw [replies, List.mem_singleton] at member
      rw [member] at ok ⊢
      exact granted ok
  · have conserved := capturing.conserved
    rw [capturing.destroyed gone] at conserved
    exact conserved

/-- The holder mistypes the confirmation, corrects it and accepts; a second accept, queued
behind the first, captures the scrubbed fields, and the window closes that pair. -/
theorem corrected_pin_delivered :
    ∃ window reply, Runs.run step {}
        [.edit ⟨"4321", "654321", "654322"⟩, .accept {}, .edit ⟨"4321", "654321", "654321"⟩,
          .accept {}, .accept {}, .destroy] = some window ∧
      window.replies = [reply] ∧ reply.status = .ok ∧ window.table.adopted = [0, 1] ∧
      window.table.closed = [2, 3] ∧
      Delivered (Runs.trace step {}
        [.edit ⟨"4321", "654321", "654322"⟩, .accept {}, .edit ⟨"4321", "654321", "654321"⟩,
          .accept {}, .accept {}, .destroy]) window.table reply :=
  ⟨_, _, rfl, rfl, rfl, rfl, rfl, (captured_pair_delivered _ _ rfl).2.1 _ (by decide) rfl⟩

section Refinement

variable (opts : DialogOptions) (clock : EntryClock)

/-- A captured descriptor as the dialog's model knows it: by its content. -/
def sealed (table : Descriptors.Table String) (fd : Option Nat) : Option SealedMemfd :=
  (fd.bind table.content?).map (fun content => ⟨content, some .changePin⟩)

/-- The dialog this window stands for. -/
def dialog (window : ChangePinWindow) : PromptDialog where
  kind := .changePin
  opts := opts
  widget := .changePin window.fields.current window.fields.entered window.fields.confirm
  captured := ⟨sealed window.table window.captured.primaryFd,
    sealed window.table window.captured.secondaryFd⟩
  clock := clock
  expired := window.expired

/-- An accept of a window that captured nothing is the dialog's accept. -/
theorem accept_refines (memfds : Memfds) (nothing : window.captured = {}) :
    (window.dialog opts clock).accept memfds.primary memfds.secondary =
      if window.fields.entered = window.fields.confirm then
        ((window.capture memfds).dialog opts clock, true)
      else (window.dialog opts clock, false) := by
  by_cases agreed : window.fields.entered = window.fields.confirm
  · cases first : memfds.primary <;> cases second : memfds.secondary <;>
      simp [PromptDialog.accept, dialog, nothing, sealed, agreed, first, second, capture,
        captureSecretFd, captureNewSecretFd, InputWidget.captureSecretFd, InputWidget.captureNewSecretFd,
        makeSealedSecretFd, Descriptors.Table.create, Descriptors.Table.content?]
  · simp [PromptDialog.accept, dialog, nothing, sealed, agreed]

/-- The contents of the descriptors a refusal sends. -/
theorem refuse_contents (window : ChangePinWindow) (status : PromptReplyStatus) (memfds : Memfds) :
    ∃ reply, (window.refuse status memfds).replies = window.replies ++ [reply] ∧
      reply.status = status ∧
      reply.fds.map (fun fd => fd.bind (window.refuse status memfds).table.content?) =
        (emptyFds true memfds).map (Option.map SealedMemfd.content) := by
  refine ⟨_, rfl, rfl, ?_⟩
  cases first : memfds.emptyPrimary <;> cases second : memfds.emptySecondary <;>
    simp [refuse, answerSecrets, first, second, emptyFds, makeEmptySealedFd, makeSealedSecretFd,
      Descriptors.Table.create, Descriptors.Table.content?, Descriptors.Table.give]

/-- A completion answers with the status and the contents the service's completion decides. -/
theorem finished_refines (handle : Handle) (accepted : Bool) (memfds : Memfds)
    (registered : window.registered = true)
    (conserved : window.table.Conserved window.captured.held) :
    let completion := Window.completeSecrets ⟨handle, window.dialog opts clock, false, true⟩
      accepted memfds
    ∃ reply, (window.finished accepted memfds).replies = window.replies ++ [reply] ∧
      reply.status = completion.status ∧
      reply.fds.map (fun fd => fd.bind (window.finished accepted memfds).table.content?) =
        completion.fds.map (Option.map SealedMemfd.content) := by
  intro completion
  cases accepted with
  | false =>
    simp only [finished, registered, if_true, Bool.false_eq_true, if_false]
    exact refuse_contents _ _ memfds
  | true =>
    have stored := Descriptors.Table.content_held conserved
    simp only [finished, registered, if_true, takeSecretFdPair]
    obtain ⟨primary, secondary, pair⟩ :
        ∃ primary secondary, window.captured = ⟨primary, secondary⟩ := ⟨_, _, rfl⟩
    have half : primary = none ∨ secondary = none →
        completion.status = .error ∧ completion.fds = emptyFds true memfds := by
      rintro (absent | absent) <;>
        simp [completion, Window.completeSecrets, PromptDialog.takeSecretFdPair, dialog, pair,
          sealed, absent]
    rw [pair]
    cases primary with
    | none =>
      rw [(half (Or.inl rfl)).1, (half (Or.inl rfl)).2]
      exact refuse_contents _ .error memfds
    | some primary =>
      cases secondary with
      | none =>
        rw [(half (Or.inr rfl)).1, (half (Or.inr rfl)).2]
        exact refuse_contents _ .error memfds
      | some secondary =>
        obtain ⟨current, first⟩ := stored primary (by simp [pair, FdPair.held])
        obtain ⟨entered, second⟩ := stored secondary (by simp [pair, FdPair.held])
        refine ⟨_, rfl, ?_, ?_⟩ <;>
          simp [completion, Window.completeSecrets, PromptDialog.takeSecretFdPair, dialog, pair,
            sealed, first, second, answerSecrets]

end Refinement

end ChangePinWindow

end LibreLinux.Prompter
