import LibreLinux.Prompter.Service
import LibreLinux.Wire.OptionsRoundTrip

/-!
# The agent's side of a prompt

`PrompterClient.request` calls the prompter, parses the status word in the light
of what this very request offered, and reads the sealed descriptor of a success.
The prompter decides the same offer from the options dictionary. The two agree,
and so the kind the client reports is the kind of the form that wrote the secret,
whatever the holder typed and however often the form was swapped.

The size limit of a secret belongs to the agent library and is a parameter. A
failing system call or allocation is given by its message.
-/

namespace LibreLinux.Agent

open Wire Prompter

/-- The credential a prompt delivered when it was not the one requested. -/
inductive PaceSecretKind where
  | can
  | mrz
deriving DecidableEq, Repr

/-- Whether this request offered the switch to the MRZ form. -/
def offeredMrzAlternative (kind : String) (options : PromptOptions) : Bool :=
  if kind ≠ kKindCan then false else options.altKinds.contains kKindMrz

/-- A reply word this build does not know is an error, never a success. -/
def replyStatusOf (vocabulary : Vocabulary) (raw : String) : PromptReplyStatus :=
  (vocabulary.replyStatusFromToken raw).getD .error

/-- The parsed status and the kind it names. -/
structure ParsedStatus where
  status : PromptStatus := .error
  chosenKind : Option PaceSecretKind := none
deriving DecidableEq, Repr

/-- Parse the status word of a single-secret reply. -/
def parseRequestSecretStatus (vocabulary : Vocabulary) (raw : String)
    (mrzAlternativeOffered : Bool) : ParsedStatus :=
  let reply := replyStatusOf vocabulary raw
  let status := vocabulary.promptStatusFor reply mrzAlternativeOffered
  if status = .ok ∧ reply = .okMrz then ⟨status, some .mrz⟩ else ⟨status, none⟩

/-- A descriptor as the client receives it. -/
inductive ReplyFd where
  | invalid
  | unsealed
  | memfd (secret : SealedMemfd)
deriving DecidableEq, Repr

/-- Which of the reader's system calls fail, and with what message. -/
structure ReadFaults where
  stat : Option String := none
  read : Option String := none
deriving DecidableEq, Repr

/-- Read a sealed secret of at most `maxSecretBytes`. An empty one is a secret. -/
def readSecretMemfd (maxSecretBytes : Nat) (faults : ReadFaults) : ReplyFd → Except String String
  | .invalid => .error "invalid file descriptor"
  | .unsealed => .error "secret fd is not a sealed memfd"
  | .memfd secret =>
    match faults.stat with
    | some message => .error message
    | none =>
      if maxSecretBytes < secret.content.utf8ByteSize then
        .error "memfd payload exceeds maximum allowed size"
      else if secret.content = "" then .ok ""
      else
        match faults.read with
        | some message => .error message
        | none => .ok secret.content

/-- How the bus call ended. -/
inductive CallOutcome where
  | tooOld
  | unreachable
  | failed (message : String)
  | replied (rawStatus : String) (secretFd : ReplyFd) (userMessage : String)
deriving DecidableEq, Repr

/-- What a prompt delivered. A secret is present exactly on success. -/
structure PromptResult where
  status : PromptStatus := .error
  chosenKind : Option PaceSecretKind := none
  userMessage : String := ""
  secret : Option String := none
deriving DecidableEq, Repr

/-- The single-secret request, from the outcome of its call. A read that fails
drops the chosen kind with the secret. -/
def request (vocabulary : Vocabulary) (maxSecretBytes : Nat) (kind : String)
    (options : PromptOptions) (faults : ReadFaults) : CallOutcome → PromptResult
  | .tooOld =>
    { status := .helperTooOld, userMessage := "the credential window helper is out of date" }
  | .unreachable =>
    { status := .error, userMessage := "the credential window helper could not be reached" }
  | .failed message => { status := .error, userMessage := message }
  | .replied rawStatus secretFd userMessage =>
    let parsed := parseRequestSecretStatus vocabulary rawStatus (offeredMrzAlternative kind options)
    if parsed.status ≠ .ok then
      { status := parsed.status, chosenKind := parsed.chosenKind, userMessage }
    else
      match readSecretMemfd maxSecretBytes faults secretFd with
      | .error readError =>
        { status := .error, userMessage := if userMessage = "" then readError else userMessage }
      | .ok secret =>
        { status := parsed.status, chosenKind := parsed.chosenKind, userMessage,
          secret := some secret }

/-- The kinds a single-secret request can name. -/
theorem parse_kind_cases (kind : String) (parsed : Kind) (known : parseKind kind = some parsed) :
    (parsed = .can ↔ kind = kKindCan) ∧ parsed ≠ .changePin := by
  unfold parseKind at known
  split at known
  · rename_i pin
    cases Option.some.inj known
    simp [pin, kKindPin, kKindCan]
  · split at known
    · rename_i can
      cases Option.some.inj known
      simp [can]
    · rename_i notCan
      split at known
      · cases Option.some.inj known
        simp [notCan]
      · cases known

/-- The prompter's offer, read from the dictionary the agent sent, is the offer
the agent remembers. -/
theorem offer_agrees (vocabulary : Vocabulary) (kind : String) (options : PromptOptions)
    (parsed : Kind) (known : parseKind kind = some parsed) :
    offersMrzSwitch parsed (buildOptions (buildOptionsDict vocabulary options)) =
      offeredMrzAlternative kind options := by
  rw [single_read, offersMrzSwitch, offeredMrzAlternative]
  have named := (parse_kind_cases kind parsed known).1
  by_cases can : parsed = .can
  · simp [can, named.mp can]
  · have other : kind ≠ kKindCan := fun equal => can (named.mpr equal)
    simp [can, other]

/-- What the interactions of one window keep: the form on screen is the one its
kind names, the options are the request's, and the kind is the requested one
unless the switch was offered. -/
structure Faithful (requested : RaiseRequest) (dialog : PromptDialog) : Prop where
  shown : dialog.FormShown
  opts : dialog.opts = requested.opts
  single : dialog.kind ≠ .changePin
  kept : requested.opts.offerMrzSwitch = false → dialog.kind = requested.kind

/-- A new window is faithful. -/
theorem faithful_new (requested : RaiseRequest) (now : Nat) (single : requested.kind ≠ .changePin) :
    Faithful requested (newDialog requested now) where
  shown := PromptDialog.form_created requested.kind requested.opts
  opts := rfl
  single := single
  kept := fun _ => rfl

/-- An interaction keeps a window faithful. Only the switch changes the kind,
and only where it was offered. -/
theorem faithful_interact (requested : RaiseRequest) (dialog : PromptDialog)
    (action : PromptDialog.Interaction) (next : PromptDialog) (faithful : Faithful requested dialog)
    (acted : dialog.interact action = some next) : Faithful requested next := by
  cases action with
  | edit widget =>
    obtain ⟨shown, kind⟩ := PromptDialog.form_edited dialog next widget faithful.shown acted
    have opts : next.opts = dialog.opts := by
      simp only [PromptDialog.interact, PromptDialog.edit] at acted
      split at acted
      · exact Option.some.inj acted ▸ rfl
      · cases acted
    exact ⟨shown, opts.trans faithful.opts, kind ▸ faithful.single, kind ▸ faithful.kept⟩
  | swap now =>
    simp only [PromptDialog.interact] at acted
    split at acted
    · rename_i offered
      cases Option.some.inj acted
      refine ⟨PromptDialog.form_swapped dialog now, faithful.opts, ?_, ?_⟩
      · by_cases mrz : dialog.kind = .mrz <;> simp [PromptDialog.swapInputKind, mrz]
      · intro refused
        rw [faithful.opts, refused] at offered
        cases offered
    · cases acted
  | shown now =>
    cases Option.some.inj acted
    exact ⟨faithful.shown, faithful.opts, faithful.single, faithful.kept⟩

/-- Every sequence of interactions leaves a faithful window. -/
theorem faithful_interactions (requested : RaiseRequest) (now : Nat)
    (actions : List PromptDialog.Interaction) (dialog : PromptDialog)
    (single : requested.kind ≠ .changePin)
    (used : Runs.run PromptDialog.interact (newDialog requested now) actions = some dialog) :
    Faithful requested dialog :=
  Runs.run_invariant PromptDialog.interact (Faithful requested) (faithful_interact requested)
    actions _ dialog (faithful_new requested now single) used

/-- A single-secret window passes its accept through. -/
theorem accept_single (dialog : PromptDialog) (shown : dialog.FormShown)
    (single : dialog.kind ≠ .changePin) (primary secondary : Bool) :
    dialog.accept primary secondary = (dialog, true) := by
  unfold PromptDialog.accept
  cases widget : dialog.widget with
  | changePin current entered confirm =>
    have form : Kind.changePin = dialog.kind := by
      simpa [PromptDialog.FormShown, widget, InputWidget.form] using shown
    exact absurd form.symm single
  | _ => rfl

/-- The completion of a window accepted after some interactions, as the posted
request and the window's own accept produce it. -/
def acceptedCompletion (requested : RaiseRequest) (handle : Handle) (dialog : PromptDialog)
    (memfds : Memfds) : Completion :=
  Window.completeSecret
    { handle, dialog := (dialog.accept memfds.primary memfds.secondary).1
      offerMrzSwitch := requested.offerMrzSwitch, multi := requested.multi } true memfds

/-- The payload a completion carries. -/
def Carries (completion : Completion) (form : Kind) (payload : String) : Prop :=
  completion.fds = [some ⟨payload, some form⟩]

/-- The MRZ status is minted exactly for an offered switch whose payload the MRZ
form wrote. -/
theorem ok_mrz_iff (requested : RaiseRequest) (handle : Handle) (dialog : PromptDialog)
    (memfds : Memfds) (faithful : Faithful requested dialog) :
    (acceptedCompletion requested handle dialog memfds).status = .okMrz ↔
      requested.offerMrzSwitch = true ∧
        ∃ payload, Carries (acceptedCompletion requested handle dialog memfds) .mrz payload := by
  simp only [acceptedCompletion, accept_single dialog faithful.shown faithful.single,
    Window.completeSecret, if_true, Carries]
  split
  · rename_i after failed
    simp [emptyFds, makeEmptySealedFd, makeSealedSecretFd]
  · rename_i fd after captured
    have form : fd.form = some dialog.kind := PromptDialog.captured_form dialog faithful.shown
      memfds.primary fd (by rw [captured])
    have kind : after.kind = dialog.kind := by
      have second : (dialog.captureSecretFd memfds.primary).2 = after := congrArg Prod.snd captured
      rw [← second]
      rfl
    obtain ⟨content, source⟩ := fd
    subst form
    by_cases offered : requested.offerMrzSwitch = true <;>
      by_cases mrz : dialog.kind = .mrz <;> simp [PromptDialog.mrzChosen, kind, offered, mrz]

/-- What a window captures was written by the form on screen. -/
theorem carried_form (requested : RaiseRequest) (handle : Handle) (dialog : PromptDialog)
    (memfds : Memfds) (faithful : Faithful requested dialog) (form : Kind) (payload : String)
    (carried : Carries (acceptedCompletion requested handle dialog memfds) form payload) :
    form = dialog.kind := by
  simp only [acceptedCompletion, accept_single dialog faithful.shown faithful.single,
    Window.completeSecret, if_true, Carries] at carried
  split at carried
  · simp [emptyFds, makeEmptySealedFd, makeSealedSecretFd] at carried
  · rename_i fd after captured
    have written : fd.form = some dialog.kind := PromptDialog.captured_form dialog faithful.shown
      memfds.primary fd (by rw [captured])
    simp only [List.cons.injEq, Option.some.injEq, and_true] at carried
    rw [carried] at written
    exact Option.some.inj written

/-- The call's outcome at the client: a reply whose descriptor could not be
created is never sent, and the call fails. -/
def callOutcome (vocabulary : Vocabulary) (lost : String) (completion : Completion) : CallOutcome :=
  match completion.fds with
  | [some fd] => .replied (vocabulary.replyStatusToken completion.status) (.memfd fd) ""
  | _ => .failed lost

/-- A sealed descriptor reads as its own content or not at all. -/
theorem read_content (maxSecretBytes : Nat) (faults : ReadFaults) (fd : SealedMemfd)
    (secret : String) (delivered : readSecretMemfd maxSecretBytes faults (.memfd fd) = .ok secret) :
    secret = fd.content := by
  simp only [readSecretMemfd] at delivered
  split at delivered
  · cases delivered
  · split at delivered
    · cases delivered
    · split at delivered
      · rename_i empty
        exact (Except.ok.inj delivered).symm.trans empty.symm
      · split at delivered
        · cases delivered
        · exact (Except.ok.inj delivered).symm

/-- A reply yields a secret exactly when its status parses as a success and the
descriptor reads. -/
theorem secret_iff (vocabulary : Vocabulary) (maxSecretBytes : Nat) (kind : String)
    (options : PromptOptions) (faults : ReadFaults) (raw message : String) (fd : ReplyFd)
    (secret : String) :
    (request vocabulary maxSecretBytes kind options faults (.replied raw fd message)).secret =
        some secret ↔
      vocabulary.promptStatusFor (replyStatusOf vocabulary raw)
          (offeredMrzAlternative kind options) = .ok ∧
        readSecretMemfd maxSecretBytes faults fd = .ok secret := by
  have status : (parseRequestSecretStatus vocabulary raw (offeredMrzAlternative kind options)).status =
      vocabulary.promptStatusFor (replyStatusOf vocabulary raw)
        (offeredMrzAlternative kind options) := by
    simp only [parseRequestSecretStatus]
    split <;> rfl
  simp only [request, status]
  by_cases success : vocabulary.promptStatusFor (replyStatusOf vocabulary raw)
      (offeredMrzAlternative kind options) = .ok
  · cases readSecretMemfd maxSecretBytes faults fd <;> simp [success]
  · simp [success]

/-- The MRZ kind is reported exactly for a delivered secret under the MRZ
status. -/
theorem chosen_mrz_iff (vocabulary : Vocabulary) (maxSecretBytes : Nat) (kind : String)
    (options : PromptOptions) (faults : ReadFaults) (raw message : String) (fd : ReplyFd) :
    (request vocabulary maxSecretBytes kind options faults (.replied raw fd message)).chosenKind =
        some .mrz ↔
      replyStatusOf vocabulary raw = .okMrz ∧
        ∃ secret, (request vocabulary maxSecretBytes kind options faults
          (.replied raw fd message)).secret = some secret := by
  simp only [secret_iff]
  simp only [request, parseRequestSecretStatus]
  by_cases success : vocabulary.promptStatusFor (replyStatusOf vocabulary raw)
      (offeredMrzAlternative kind options) = .ok
  · by_cases mrz : replyStatusOf vocabulary raw = .okMrz <;>
      cases readSecretMemfd maxSecretBytes faults fd <;> simp_all
  · simp [success]

/-- The client reports the MRZ kind for what a window answered exactly when it
delivers the MRZ payload of a CAN request. A CAN window can only hold an MRZ
payload after a swap, and a swap needs the offer. -/
theorem reported_mrz_iff (vocabulary : Vocabulary) (lawful : vocabulary.Lawful) (kind : String)
    (options : PromptOptions) (maxSecretBytes : Nat) (faults : ReadFaults) (lost : String)
    (requested : RaiseRequest) (handle : Handle) (dialog : PromptDialog) (memfds : Memfds)
    (faithful : Faithful requested dialog)
    (offered : requested.opts.offerMrzSwitch = requested.offerMrzSwitch)
    (onCan : requested.offerMrzSwitch = true → kind = kKindCan)
    (named : kind = kKindCan → requested.kind = .can) :
    (request vocabulary maxSecretBytes kind options faults (callOutcome vocabulary lost
        (acceptedCompletion requested handle dialog memfds))).chosenKind = some .mrz ↔
      kind = kKindCan ∧ ∃ payload,
        Carries (acceptedCompletion requested handle dialog memfds) .mrz payload ∧
        (request vocabulary maxSecretBytes kind options faults (callOutcome vocabulary lost
          (acceptedCompletion requested handle dialog memfds))).secret = some payload := by
  have minted := ok_mrz_iff requested handle dialog memfds faithful
  have written := carried_form requested handle dialog memfds faithful .mrz
  generalize acceptedCompletion requested handle dialog memfds = completion at minted written ⊢
  have reread : replyStatusOf vocabulary (vocabulary.replyStatusToken completion.status) =
      completion.status := by
    rw [replyStatusOf, lawful.statusRoundTrip, Option.getD_some]
  constructor
  · intro chosen
    unfold callOutcome at chosen ⊢
    split at chosen
    · rename_i fd sent
      obtain ⟨status, secret, delivered⟩ := (chosen_mrz_iff _ _ _ _ _ _ _ _).mp chosen
      obtain ⟨switched, payload, carried⟩ := minted.mp (reread.symm.trans status)
      have content : fd = ⟨payload, some .mrz⟩ := by simpa [Carries, sent] using carried
      have same := read_content _ _ _ _ ((secret_iff _ _ _ _ _ _ _ _ _).mp delivered).2
      refine ⟨onCan switched, payload, carried, ?_⟩
      rw [delivered, same, content]
    · simp [request] at chosen
  · rintro ⟨can, payload, carried, delivered⟩
    have swapped : dialog.kind ≠ requested.kind := by
      rw [named can, ← written payload carried]
      simp
    have switched : requested.offerMrzSwitch = true := by
      by_contra refused
      exact swapped (faithful.kept (offered.trans (by simpa using refused)))
    have status := minted.mpr ⟨switched, payload, carried⟩
    have sent : completion.fds = [some ⟨payload, some .mrz⟩] := carried
    simp only [callOutcome, sent] at delivered ⊢
    exact (chosen_mrz_iff _ _ _ _ _ _ _ _).mpr ⟨reread.trans status, payload, delivered⟩

/-- The two processes agree on CAN and MRZ. The agent's memory of its offer is
the prompter's reading of the dictionary. After any edits and swaps, an accepted
window answers with the MRZ status exactly when the switch was offered and the
MRZ form wrote the payload; the client then reports the MRZ kind exactly when it
delivers the MRZ payload of a CAN request. An MRZ status that was not offered
yields neither a secret nor a kind, whatever descriptor comes with it. -/
theorem can_mrz_agreement (vocabulary : Vocabulary) (lawful : vocabulary.Lawful) (kind : String)
    (options : PromptOptions) (maxSecretBytes : Nat) (faults : ReadFaults) :
    (∀ request ownerPid parsed, parseKind kind = some parsed →
      (raiseRequest request ownerPid parsed
        (buildOptionsDict vocabulary options)).offerMrzSwitch = offeredMrzAlternative kind options) ∧
    (parseKind kind = none → offeredMrzAlternative kind options = false) ∧
    (∀ id ownerPid parsed now actions dialog handle memfds lost,
      parseKind kind = some parsed →
      Runs.run PromptDialog.interact
        (newDialog (raiseRequest id ownerPid parsed (buildOptionsDict vocabulary options)) now)
        actions = some dialog →
      let requested := raiseRequest id ownerPid parsed (buildOptionsDict vocabulary options)
      let completion := acceptedCompletion requested handle dialog memfds
      let result := request vocabulary maxSecretBytes kind options faults
        (callOutcome vocabulary lost completion)
      (completion.status = .okMrz ↔
        requested.offerMrzSwitch = true ∧ ∃ payload, Carries completion .mrz payload) ∧
      (result.chosenKind = some .mrz ↔
        kind = kKindCan ∧ ∃ payload, Carries completion .mrz payload ∧
          result.secret = some payload)) ∧
    (∀ raw fd message, vocabulary.replyStatusFromToken raw = some .okMrz →
      offeredMrzAlternative kind options = false →
      (request vocabulary maxSecretBytes kind options faults (.replied raw fd message)).secret =
          none ∧
        (request vocabulary maxSecretBytes kind options faults
          (.replied raw fd message)).chosenKind = none) := by
  refine ⟨?_, ?_, ?_, ?_⟩
  · intro id ownerPid parsed known
    exact offer_agrees vocabulary kind options parsed known
  · intro unknown
    have other : kind ≠ kKindCan := by
      rintro rfl
      exact absurd unknown (by decide)
    simp [offeredMrzAlternative, other]
  · intro id ownerPid parsed now actions dialog handle memfds lost known used
    obtain ⟨named, single⟩ := parse_kind_cases kind parsed known
    have faithful := faithful_interactions _ now actions dialog single used
    refine ⟨ok_mrz_iff _ handle dialog memfds faithful, ?_⟩
    refine reported_mrz_iff vocabulary lawful kind options maxSecretBytes faults lost _ handle
      dialog memfds faithful rfl ?_ named.mpr
    intro offered
    have both : decide (parsed = .can) = true ∧ _ = true := (Bool.and_eq_true _ _).mp offered
    exact named.mp (of_decide_eq_true both.1)
  · intro raw fd message mrz refused
    have reply : replyStatusOf vocabulary raw = .okMrz := by simp [replyStatusOf, mrz]
    have failure : vocabulary.promptStatusFor .okMrz false ≠ .ok := by
      intro success
      cases lawful.okMrzOffered false success
    simp [request, parseRequestSecretStatus, reply, refused, failure]

/-- A CAN prompt that offers the MRZ form. -/
def canOfferingMrz : PromptOptions := { altKinds := [kKindMrz] }

/-- Its window, after the holder typed a number, switched to the MRZ form and
filled it. -/
def switchedDialog : Option PromptDialog :=
  Runs.run PromptDialog.interact
    (newDialog (raiseRequest 0 7 .can (buildOptionsDict agentVocabulary canOfferingMrz)) 0)
    [.edit (.can "123456"), .swap 5, .edit (.mrz "AB1234567")]

/-- The agreement at that window: the client reports the MRZ kind. -/
theorem switched_prompt_agrees :
    ∃ dialog, switchedDialog = some dialog ∧
      (request agentVocabulary 4096 kKindCan canOfferingMrz {} (callOutcome agentVocabulary ""
        (acceptedCompletion
          (raiseRequest 0 7 .can (buildOptionsDict agentVocabulary canOfferingMrz)) 1 dialog
          {}))).chosenKind = some .mrz := by
  refine ⟨switchedDialog.get (by decide +kernel), by simp, ?_⟩
  refine ((can_mrz_agreement agentVocabulary agentVocabulary_lawful kKindCan canOfferingMrz 4096
    {}).2.2.1 0 7 .can 0 [.edit (.can "123456"), .swap 5, .edit (.mrz "AB1234567")] _ 1 {} ""
    (by decide) (Option.some_get _).symm).2.mpr ⟨rfl, "AB1234567", ?_, ?_⟩
  · show _ = _
    decide +kernel
  · decide +kernel

end LibreLinux.Agent
