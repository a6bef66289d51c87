import LibreLinux.Agent.SignOptions

/-!
# Signing one document and a batch

`Sign` and `SignBatch` pass the same entry: the card's capability, a certificate id, the
authorization of the client, one charge of the rate limiter. Then each reads its documents,
resolves the shared options (a batch from its first document) and launches one operation.
Nothing is launched before every document is read and every option is resolved.

The rate limiter and the launcher belong to the agent library. The limiter is any state
machine; the launcher refuses an operation by the backlog of the reader, whatever the
operation. A document is how reading its descriptor ends, within the limit of 256 MiB.
-/

namespace LibreLinux.Agent

/-- How reading an input document ended. -/
inductive DocumentRead where
  | ok (bytes : List UInt8)
  | notRegular
  | tooLarge
  | error

/-- The wording of a document's refusals. -/
structure DocumentTexts where
  notRegular : String
  tooLarge : String
  error : String
  empty : String

/-- The wording of a single signature. -/
def signTexts : DocumentTexts where
  notRegular := "Input must be a regular file or memfd (no pipes/sockets)"
  tooLarge := "Input document exceeds the 256 MiB limit"
  error := "Failed to read the input document"
  empty := "Input document is empty"

/-- The wording of a batch. -/
def batchTexts : DocumentTexts where
  notRegular := "Every batch document must be a regular file or memfd (no pipes/sockets)"
  tooLarge := "A batch document exceeds the 256 MiB limit"
  error := "Failed to read a batch input document"
  empty := "A batch document is empty"

/-- The bytes of a document that can be signed. -/
def documentBytes (texts : DocumentTexts) : DocumentRead → Except BusError (List UInt8)
  | .notRegular => .error ⟨kBadParamErrName, texts.notRegular⟩
  | .tooLarge => .error ⟨kInputTooLargeErrName, texts.tooLarge⟩
  | .error => .error ⟨kInternalErrName, texts.error⟩
  | .ok bytes => if bytes = [] then badParam texts.empty else .ok bytes

/-- What is signed, and how. -/
structure SignParams where
  certId : String
  inputDocument : List UInt8
  format : String
  level : String
  packaging : String
  allowExpired : Bool
  displayName : String
  reason : String
  location : String
  tsaUrl : String
  visual : Option VisualParams

/-- The options a signature is made with. -/
def SignParams.options (params : SignParams) : ResolvedSignOptions where
  format := params.format
  level := params.level
  packaging := params.packaging
  allowExpired := params.allowExpired
  reason := params.reason
  location := params.location
  tsaUrl := params.tsaUrl
  visual := params.visual

/-- One document of a batch. -/
structure BatchDocumentInput where
  displayName : String
  bytes : List UInt8

/-- A launched operation. -/
inductive SignLaunch where
  | sign (params : SignParams)
  | signBatch (params : SignParams) (documents : List BatchDocumentInput)

/-- What the signing methods use of the agent and of the card. -/
structure SignAgent (σ : Type) where
  hasPkiCapability : Bool
  params : SignatureParams
  casts : Casts
  config : SignConfig
  sanitizeLabel : String → String
  isValidBatchDocumentCount : Nat → Bool
  kMinBatchDocuments : Nat
  kMaxBatchDocuments : Nat
  allow : σ → String → Bool × σ
  launcher : List SignLaunch → Except String Nat

/-- A batch has at least one document, and one is enough. -/
structure SignAgent.LawfulCounts {σ : Type} (agent : SignAgent σ) : Prop where
  one : agent.isValidBatchDocumentCount 1 = true
  none : agent.isValidBatchDocumentCount 0 = false

/-- The limiter, whom it was charged for, and what was launched. -/
structure SignState (σ : Type) where
  limiter : σ
  charges : List String
  launches : List SignLaunch

/-- How the authorization of the client ended. -/
inductive Authorization where
  | granted
  | refused (outcome : AuthorizationOutcome)
  | gone
  | stopped

/-- The object path of an operation. -/
def opObjectPath (id : Nat) : String := "/org/librescrs/Agent/op/" ++ toString id

namespace SignAgent

variable {σ : Type} (agent : SignAgent σ)

/-- Charge the rate limiter for a client. -/
def charge (state : SignState σ) (sender : String) : Bool × SignState σ :=
  let answer := agent.allow state.limiter sender
  (answer.1, { state with limiter := answer.2, charges := state.charges ++ [sender] })

/-- Launch an operation, unless the reader's backlog is full. -/
def launch (state : SignState σ) (request : SignLaunch) : Except BusError String × SignState σ :=
  match agent.launcher state.launches with
  | .error name => (.error ⟨name, "reader operation backlog full; retry shortly"⟩, state)
  | .ok id => (.ok (opObjectPath id), { state with launches := state.launches ++ [request] })

/-- The options of a signature, resolved for a document. -/
def resolve (options : OptionMap) (sniffSource : List UInt8) :
    Except BusError ResolvedSignOptions :=
  resolveSignOptions agent.params agent.casts agent.config options sniffSource

/-- The parameters of one signature over the resolved options. -/
def signParams (resolved : ResolvedSignOptions) (certId : String) (inputDocument : List UInt8)
    (displayName : String) : SignParams where
  certId := certId
  inputDocument := inputDocument
  format := resolved.format
  level := resolved.level
  packaging := resolved.packaging
  allowExpired := resolved.allowExpired
  displayName := displayName
  reason := resolved.reason
  location := resolved.location
  tsaUrl := resolved.tsaUrl
  visual := resolved.visual

/-- The granted body of `Sign`. -/
def signGranted (state : SignState σ) (certId : String) (document : DocumentRead)
    (options : OptionMap) (sender : String) : Except BusError String × SignState σ :=
  let charged := agent.charge state sender
  if !charged.1 then
    (.error ⟨kErrRateLimited, "Too many signing requests; try again shortly"⟩, charged.2)
  else
    match documentBytes signTexts document with
    | .error error => (.error error, charged.2)
    | .ok bytes =>
      match agent.resolve options bytes with
      | .error error => (.error error, charged.2)
      | .ok resolved =>
        agent.launch charged.2 (.sign (signParams resolved certId bytes
          (agent.sanitizeLabel (optString options "displayName" ""))))

/-- Read the documents of a batch, in the order of the request. The first that cannot be
signed refuses the batch. -/
def batchInputs : List (String × DocumentRead) → Except BusError (List BatchDocumentInput)
  | [] => .ok []
  | (displayName, document) :: rest => do
    let bytes ← documentBytes batchTexts document
    let inputs ← batchInputs rest
    pure (⟨agent.sanitizeLabel displayName, bytes⟩ :: inputs)

/-- The bytes of the first document. There is one in every batch of an accepted count. -/
def frontBytes : List BatchDocumentInput → List UInt8
  | [] => []
  | first :: _ => first.bytes

/-- The granted body of `SignBatch`. The parameters carry no document and no name. -/
def signBatchGranted (state : SignState σ) (documents : List (String × DocumentRead))
    (certId : String) (options : OptionMap) (sender : String) :
    Except BusError String × SignState σ :=
  let charged := agent.charge state sender
  if !charged.1 then
    (.error ⟨kErrRateLimited, "Too many signing requests; try again shortly"⟩, charged.2)
  else if !agent.isValidBatchDocumentCount documents.length then
    (.error ⟨kErrInvalidRequest,
      "Batch document count must be between " ++ toString agent.kMinBatchDocuments ++ " and " ++
        toString agent.kMaxBatchDocuments⟩, charged.2)
  else
    match agent.batchInputs documents with
    | .error error => (.error error, charged.2)
    | .ok inputs =>
      match agent.resolve options (frontBytes inputs) with
      | .error error => (.error error, charged.2)
      | .ok resolved =>
        agent.launch charged.2 (.signBatch (signParams resolved certId [] "") inputs)

/-- The reply to what a granted body returned or threw. -/
def replyTo : Except BusError String → Reply String
  | .ok path => replyWith (.results path)
  | .error error => replyWith (.busError error.name error.message)

/-- `Sign`. -/
def sign (state : SignState σ) (authorization : Authorization) (sender certId : String)
    (document : DocumentRead) (options : OptionMap) : Reply String × SignState σ :=
  if !agent.hasPkiCapability then
    (.error kErrUnsupportedOnThisCard "Card does not advertise PKI capability", state)
  else if certId = "" then (.error kBadParamErrName "certId is required (no auto-select)", state)
  else
    match authorization with
    | .refused outcome => (refusalReply "Not authorized to sign" outcome, state)
    | .gone => (goneReply, state)
    | .stopped => (stoppedReply, state)
    | .granted =>
      let body := agent.signGranted state certId document options sender
      (replyTo body.1, body.2)

/-- `SignBatch`. -/
def signBatch (state : SignState σ) (authorization : Authorization) (sender : String)
    (documents : List (String × DocumentRead)) (certId : String) (options : OptionMap) :
    Reply String × SignState σ :=
  if !agent.hasPkiCapability then
    (.error kErrUnsupportedOnThisCard "Card does not advertise PKI capability", state)
  else if certId = "" then (.error kBadParamErrName "certId is required (no auto-select)", state)
  else
    match authorization with
    | .refused outcome => (refusalReply "Not authorized to sign" outcome, state)
    | .gone => (goneReply, state)
    | .stopped => (stoppedReply, state)
    | .granted =>
      let body := agent.signBatchGranted state documents certId options sender
      (replyTo body.1, body.2)

/-! ## The shape both methods share -/

/-- What a single signature would launch. -/
def prepareSign (certId : String) (document : DocumentRead) (options : OptionMap) :
    Except BusError SignLaunch := do
  let bytes ← documentBytes signTexts document
  let resolved ← agent.resolve options bytes
  pure (.sign (signParams resolved certId bytes
    (agent.sanitizeLabel (optString options "displayName" ""))))

/-- What a batch would launch. -/
def prepareBatch (documents : List (String × DocumentRead)) (certId : String)
    (options : OptionMap) : Except BusError SignLaunch :=
  if !agent.isValidBatchDocumentCount documents.length then
    .error ⟨kErrInvalidRequest,
      "Batch document count must be between " ++ toString agent.kMinBatchDocuments ++ " and " ++
        toString agent.kMaxBatchDocuments⟩
  else do
    let inputs ← agent.batchInputs documents
    let resolved ← agent.resolve options (frontBytes inputs)
    pure (.signBatch (signParams resolved certId [] "") inputs)

/-- One charge, then what was prepared is launched. -/
def granted (state : SignState σ) (sender : String) (prepared : Except BusError SignLaunch) :
    Except BusError String × SignState σ :=
  let charged := agent.charge state sender
  if !charged.1 then
    (.error ⟨kErrRateLimited, "Too many signing requests; try again shortly"⟩, charged.2)
  else
    match prepared with
    | .error error => (.error error, charged.2)
    | .ok request => agent.launch charged.2 request

/-- The entry checks, then what a granted body did. -/
def entered (state : SignState σ) (certId : String) (authorization : Authorization)
    (body : Except BusError String × SignState σ) : Reply String × SignState σ :=
  if !agent.hasPkiCapability then
    (.error kErrUnsupportedOnThisCard "Card does not advertise PKI capability", state)
  else if certId = "" then (.error kBadParamErrName "certId is required (no auto-select)", state)
  else
    match authorization with
    | .refused outcome => (refusalReply "Not authorized to sign" outcome, state)
    | .gone => (goneReply, state)
    | .stopped => (stoppedReply, state)
    | .granted => (replyTo body.1, body.2)

section Shape

variable (state : SignState σ) (authorization : Authorization) (sender certId : String)
  (options : OptionMap)

/-- `Sign` is the shared shape over its own preparation. -/
theorem sign_shape (document : DocumentRead) :
    agent.sign state authorization sender certId document options =
      agent.entered state certId authorization
        (agent.granted state sender (agent.prepareSign certId document options)) := by
  have body : agent.signGranted state certId document options sender =
      agent.granted state sender (agent.prepareSign certId document options) := by
    simp only [signGranted, granted, prepareSign, bind, Except.bind]
    cases documentBytes signTexts document with
    | error error => rfl
    | ok bytes =>
      dsimp only
      cases agent.resolve options bytes <;> rfl
  simp only [sign, entered, body]

/-- `SignBatch` is the shared shape over its own preparation. -/
theorem sign_batch_shape (documents : List (String × DocumentRead)) :
    agent.signBatch state authorization sender documents certId options =
      agent.entered state certId authorization
        (agent.granted state sender (agent.prepareBatch documents certId options)) := by
  have body : agent.signBatchGranted state documents certId options sender =
      agent.granted state sender (agent.prepareBatch documents certId options) := by
    simp only [signBatchGranted, granted, prepareBatch, bind, Except.bind]
    cases agent.isValidBatchDocumentCount documents.length with
    | false => rfl
    | true =>
      cases agent.batchInputs documents with
      | error error => rfl
      | ok inputs =>
        dsimp only
        cases agent.resolve options (frontBytes inputs) <;> rfl
  simp only [signBatch, entered, body]

end Shape

/-! ## Documents -/

/-- The name of the error something was refused with. -/
def refusedName {α : Type} : Except BusError α → Option String
  | .error error => some error.name
  | .ok _ => none

/-- A refused step refuses what follows it, under its own name. -/
theorem refused_name_bind {α β : Type} (first : Except BusError α) (rest : α → Except BusError β) :
    refusedName (first >>= rest) =
      match first with
      | .error error => some error.name
      | .ok value => refusedName (rest value) := by
  cases first <;> rfl

/-- A document that can be signed. -/
def Readable (document : DocumentRead) : Prop := ∃ bytes, document = .ok bytes ∧ bytes ≠ []

/-- The bytes of a document do not depend on the wording of its refusals. -/
theorem document_bytes_iff (texts : DocumentTexts) (document : DocumentRead) (bytes : List UInt8) :
    documentBytes texts document = .ok bytes ↔ document = .ok bytes ∧ bytes ≠ [] := by
  cases document with
  | ok read =>
    simp only [documentBytes, DocumentRead.ok.injEq]
    by_cases empty : read = []
    · rw [if_pos empty]
      refine ⟨fun same => absurd same (bad_param_ne_ok _ _), ?_⟩
      rintro ⟨rfl, filled⟩
      exact absurd empty filled
    · rw [if_neg empty]
      simp only [Except.ok.injEq]
      refine ⟨?_, And.left⟩
      rintro rfl
      exact ⟨rfl, empty⟩
  | notRegular => simp [documentBytes]
  | tooLarge => simp [documentBytes]
  | error => simp [documentBytes]

/-- Nor do the names of its refusals. -/
theorem document_refused_name (texts other : DocumentTexts) (document : DocumentRead) :
    refusedName (documentBytes texts document) = refusedName (documentBytes other document) := by
  cases document with
  | ok bytes =>
    simp only [documentBytes]
    split_ifs <;> rfl
  | notRegular => rfl
  | tooLarge => rfl
  | error => rfl

/-- The inputs of a batch are its documents, in the order of the request. -/
structure Faithful (documents : List (String × DocumentRead)) (inputs : List BatchDocumentInput) :
    Prop where
  bytes : documents.map Prod.snd = inputs.map (fun input => .ok input.bytes)
  names : inputs.map BatchDocumentInput.displayName =
    documents.map (fun document => agent.sanitizeLabel document.1)

/-- A batch that is read has all its documents.

Induct over the request: the loop appends one input for each document. -/
theorem batch_inputs_faithful (documents : List (String × DocumentRead))
    (inputs : List BatchDocumentInput) (read : agent.batchInputs documents = .ok inputs) :
    agent.Faithful documents inputs := by
  induction documents generalizing inputs with
  | nil =>
    cases read
    exact ⟨rfl, rfl⟩
  | cons document rest inductionHypothesis =>
    obtain ⟨displayName, content⟩ := document
    simp only [batchInputs, bind_ok_iff, pure, Except.pure, Except.ok.injEq] at read
    obtain ⟨bytes, first, others, tail, rfl⟩ := read
    obtain ⟨kept, named⟩ := inductionHypothesis others tail
    have own := ((document_bytes_iff batchTexts content bytes).mp first).1
    constructor
    · simp [own, kept]
    · simp [named]

/-- A batch of readable documents is read. -/
theorem batch_inputs_readable (documents : List (String × DocumentRead))
    (readable : ∀ document ∈ documents, Readable document.2) :
    ∃ inputs, agent.batchInputs documents = .ok inputs := by
  induction documents with
  | nil => exact ⟨[], rfl⟩
  | cons document rest inductionHypothesis =>
    obtain ⟨displayName, content⟩ := document
    obtain ⟨bytes, own, filled⟩ := readable (displayName, content) List.mem_cons_self
    obtain ⟨inputs, tail⟩ := inductionHypothesis
      (fun other member => readable other (List.mem_cons_of_mem _ member))
    have first := (document_bytes_iff batchTexts content bytes).mpr ⟨own, filled⟩
    refine ⟨⟨agent.sanitizeLabel displayName, bytes⟩ :: inputs, ?_⟩
    simp only [batchInputs, bind_ok_iff, pure, Except.pure, Except.ok.injEq]
    exact ⟨bytes, first, inputs, tail, rfl⟩

/-- A batch that is read has only readable documents. -/
theorem batch_inputs_read (documents : List (String × DocumentRead))
    (inputs : List BatchDocumentInput) (read : agent.batchInputs documents = .ok inputs) :
    ∀ document ∈ documents, Readable document.2 := by
  induction documents generalizing inputs with
  | nil => simp
  | cons document rest inductionHypothesis =>
    obtain ⟨displayName, content⟩ := document
    simp only [batchInputs, bind_ok_iff, pure, Except.pure, Except.ok.injEq] at read
    obtain ⟨bytes, first, others, tail, -⟩ := read
    intro entry member
    rcases List.mem_cons.mp member with rfl | later
    · exact ⟨bytes, (document_bytes_iff batchTexts content bytes).mp first⟩
    · exact inductionHypothesis others tail entry later

/-- The first input of a batch is its first document. -/
theorem front_bytes (displayName : String) (document : DocumentRead)
    (rest : List (String × DocumentRead)) (inputs : List BatchDocumentInput)
    (read : agent.batchInputs ((displayName, document) :: rest) = .ok inputs) (texts : DocumentTexts) :
    documentBytes texts document = .ok (frontBytes inputs) := by
  simp only [batchInputs, bind_ok_iff, pure, Except.pure, Except.ok.injEq] at read
  obtain ⟨bytes, first, others, -, rfl⟩ := read
  exact (document_bytes_iff texts document bytes).mpr
    ((document_bytes_iff batchTexts document bytes).mp first)

/-! ## Preparations -/

section Preparation

variable (certId : String) (options : OptionMap)

/-- A batch of readable documents is refused exactly as its first document would be. -/
theorem batch_refused_as_first (displayName : String) (document : DocumentRead)
    (rest : List (String × DocumentRead))
    (counted : agent.isValidBatchDocumentCount ((displayName, document) :: rest).length = true)
    (inputs : List BatchDocumentInput)
    (read : agent.batchInputs ((displayName, document) :: rest) = .ok inputs) :
    refusedName (agent.prepareBatch ((displayName, document) :: rest) certId options) =
      refusedName (agent.prepareSign certId document options) := by
  have first := agent.front_bytes displayName document rest inputs read signTexts
  simp only [prepareBatch, prepareSign, counted, Bool.not_true, Bool.false_eq_true, if_false, read,
    first, refused_name_bind]
  cases agent.resolve options (frontBytes inputs) <;> rfl

/-- A batch of one document is refused exactly as the document would be. -/
theorem single_batch_refused (counts : agent.LawfulCounts) (displayName : String)
    (document : DocumentRead) :
    refusedName (agent.prepareBatch [(displayName, document)] certId options) =
      refusedName (agent.prepareSign certId document options) := by
  cases read : agent.batchInputs [(displayName, document)] with
  | ok inputs =>
    exact agent.batch_refused_as_first certId options displayName document [] counts.one inputs read
  | error error =>
    have own : documentBytes batchTexts document = .error error := by
      simpa [batchInputs, bind_error_iff, pure, Except.pure] using read
    have names := document_refused_name signTexts batchTexts document
    rw [own] at names
    have counted : agent.isValidBatchDocumentCount [(displayName, document)].length = true :=
      counts.one
    simp only [prepareBatch, prepareSign, counted, Bool.not_true, Bool.false_eq_true, if_false,
      read, refused_name_bind]
    cases single : documentBytes signTexts document with
    | ok bytes =>
      rw [single] at names
      cases names
    | error other =>
      rw [single] at names
      exact names.symm

/-- What a signature launches: its options are those resolved for its document. -/
theorem prepare_sign_ok (document : DocumentRead) (request : SignLaunch)
    (prepared : agent.prepareSign certId document options = .ok request) :
    ∃ bytes resolved displayName, documentBytes signTexts document = .ok bytes ∧
      agent.resolve options bytes = .ok resolved ∧
      request = .sign (signParams resolved certId bytes displayName) := by
  simp only [prepareSign, bind_ok_iff, pure, Except.pure, Except.ok.injEq] at prepared
  obtain ⟨bytes, read, resolved, accepted, rfl⟩ := prepared
  exact ⟨bytes, resolved, _, read, accepted, rfl⟩

/-- What a batch launches: all its documents, with the options resolved for the first. -/
theorem prepare_batch_ok (documents : List (String × DocumentRead)) (request : SignLaunch)
    (prepared : agent.prepareBatch documents certId options = .ok request) :
    ∃ inputs resolved, agent.isValidBatchDocumentCount documents.length = true ∧
      agent.batchInputs documents = .ok inputs ∧
      agent.resolve options (frontBytes inputs) = .ok resolved ∧
      request = .signBatch (signParams resolved certId [] "") inputs := by
  unfold prepareBatch at prepared
  cases counted : agent.isValidBatchDocumentCount documents.length with
  | false =>
    rw [counted] at prepared
    cases prepared
  | true =>
    simp only [counted, Bool.not_true, Bool.false_eq_true, if_false, bind_ok_iff, pure, Except.pure,
      Except.ok.injEq] at prepared
    obtain ⟨inputs, read, resolved, accepted, rfl⟩ := prepared
    exact ⟨inputs, resolved, rfl, read, accepted, rfl⟩

end Preparation

/-! ## Granted calls -/

section Granted

variable (state : SignState σ) (sender : String) (prepared : Except BusError SignLaunch)

/-- A granted call charges the limiter once, whatever becomes of it. -/
theorem granted_charges :
    (agent.granted state sender prepared).2.charges = state.charges ++ [sender] := by
  simp only [granted]
  split
  · rfl
  · cases prepared with
    | error error => rfl
    | ok request =>
      simp only [launch]
      split <;> rfl

/-- A granted call is refused, or it launches what was prepared. -/
theorem granted_launches :
    (∃ error, (agent.granted state sender prepared).1 = .error error ∧
        (agent.granted state sender prepared).2.launches = state.launches) ∨
      ∃ request path, prepared = .ok request ∧
        (agent.granted state sender prepared).1 = .ok path ∧
        (agent.granted state sender prepared).2.launches = state.launches ++ [request] := by
  simp only [granted]
  split
  · exact Or.inl ⟨_, rfl, rfl⟩
  · cases prepared with
    | error error => exact Or.inl ⟨error, rfl, rfl⟩
    | ok request =>
      simp only [launch]
      split
      · exact Or.inl ⟨_, rfl, rfl⟩
      · exact Or.inr ⟨request, _, rfl, rfl, rfl⟩

/-- Two calls whose preparations are refused under one name, or both accepted, end under one
name: the limiter and the launcher see the same caller and the same backlog. -/
theorem granted_refused_name (other : Except BusError SignLaunch)
    (same : refusedName prepared = refusedName other) :
    refusedName (agent.granted state sender prepared).1 =
      refusedName (agent.granted state sender other).1 := by
  simp only [granted]
  split
  · rfl
  · cases prepared with
    | error error =>
      cases other with
      | error another => exact same
      | ok request => cases same
    | ok request =>
      cases other with
      | error another => cases same
      | ok another =>
        simp only [launch]
        split <;> rfl

end Granted

/-- The name of the error a reply carries. -/
def errorName : Reply String → Option String
  | .error name _ => some name
  | .results _ => none

/-- A body's refusal is the reply's. -/
theorem error_name_reply (result : Except BusError String) :
    errorName (replyTo result) = refusedName result := by
  cases result <;> rfl

/-- The call passed the entry: a card with keys, a certificate id, a client allowed to sign. -/
def Entered (certId : String) (authorization : Authorization) : Prop :=
  agent.hasPkiCapability = true ∧ certId ≠ "" ∧ authorization = .granted

instance (certId : String) : DecidablePred (agent.Entered certId) := fun authorization =>
  match authorization with
  | .granted => decidable_of_iff (agent.hasPkiCapability = true ∧ certId ≠ "") (by simp [Entered])
  | .refused _ => isFalse (by simp [Entered])
  | .gone => isFalse (by simp [Entered])
  | .stopped => isFalse (by simp [Entered])

section Entry

variable (state : SignState σ) (certId : String) (authorization : Authorization)

/-- A call that passed the entry runs its body. -/
theorem entered_granted (passed : agent.Entered certId authorization)
    (body : Except BusError String × SignState σ) :
    agent.entered state certId authorization body = (replyTo body.1, body.2) := by
  obtain ⟨capable, named, rfl⟩ := passed
  simp [entered, capable, named]

/-- A call that did not is refused, and nothing is changed. -/
theorem entered_refused (stopped : ¬ agent.Entered certId authorization) :
    ∃ reply, errorName reply ≠ none ∧
      ∀ body, agent.entered state certId authorization body = (reply, state) := by
  cases capable : agent.hasPkiCapability with
  | false =>
    refine ⟨.error kErrUnsupportedOnThisCard "Card does not advertise PKI capability",
      by simp [errorName], ?_⟩
    simp [entered, capable]
  | true =>
    by_cases named : certId = ""
    · refine ⟨.error kBadParamErrName "certId is required (no auto-select)",
        by simp [errorName], ?_⟩
      simp [entered, capable, named]
    · cases authorization with
      | granted => exact absurd ⟨capable, named, rfl⟩ stopped
      | refused outcome =>
        refine ⟨refusalReply "Not authorized to sign" outcome, ?_, ?_⟩
        · cases outcome <;> simp [errorName, refusalReply]
        · simp [entered, capable, named]
      | gone => exact ⟨goneReply, by simp [errorName, goneReply], by simp [entered, capable, named]⟩
      | stopped =>
        exact ⟨stoppedReply, by simp [errorName, stoppedReply], by simp [entered, capable, named]⟩

end Entry

/-! ## The two methods -/

/-- A single signature and a batch end alike: refused under one name with nothing launched, or
launched with the same options. -/
structure Agrees (before : SignState σ) (single batch : Reply String × SignState σ) : Prop where
  name : errorName single.1 = errorName batch.1
  refused : errorName single.1 ≠ none →
    single.2.launches = before.launches ∧ batch.2.launches = before.launches
  launched : errorName single.1 = none → ∃ params batchParams inputs,
    single.2.launches = before.launches ++ [.sign params] ∧
      batch.2.launches = before.launches ++ [.signBatch batchParams inputs] ∧
      batchParams.options = params.options

/-- The parameters of a launched operation. -/
def launchParams : SignLaunch → SignParams
  | .sign params => params
  | .signBatch params _ => params

/-- The options of an operation agree with each other. -/
def Consistent (request : SignLaunch) : Prop :=
  ((launchParams request).tsaUrl ≠ "" → (launchParams request).level ≠ "b-b") ∧
    ((launchParams request).visual.isSome = true → (launchParams request).format = "pades")

section Methods

variable (state : SignState σ) (authorization : Authorization) (sender certId : String)
  (options : OptionMap)

/-- Two calls whose preparations agree end alike. -/
theorem agrees_of_prepared (single batch : Except BusError SignLaunch)
    (names : refusedName batch = refusedName single)
    (same : ∀ first second, single = .ok first → batch = .ok second →
      ∃ params batchParams inputs, first = .sign params ∧ second = .signBatch batchParams inputs ∧
        batchParams.options = params.options) :
    Agrees state
      (agent.entered state certId authorization (agent.granted state sender single))
      (agent.entered state certId authorization (agent.granted state sender batch)) := by
  by_cases passed : agent.Entered certId authorization
  · rw [agent.entered_granted state certId authorization passed,
      agent.entered_granted state certId authorization passed]
    have name := agent.granted_refused_name state sender single batch names.symm
    rcases agent.granted_launches state sender single with
      ⟨error, failed, kept⟩ | ⟨first, path, accepted, returned, added⟩
    · rcases agent.granted_launches state sender batch with
        ⟨other, failedToo, keptToo⟩ | ⟨second, path, _, returned, _⟩
      · refine ⟨by rw [error_name_reply, error_name_reply, name], fun _ => ⟨kept, keptToo⟩, ?_⟩
        simp [error_name_reply, failed, refusedName]
      · rw [failed, returned] at name
        cases name
    · rcases agent.granted_launches state sender batch with
        ⟨other, failed, _⟩ | ⟨second, other, acceptedToo, returnedToo, addedToo⟩
      · rw [failed, returned] at name
        cases name
      · refine ⟨by rw [error_name_reply, error_name_reply, name], ?_, fun _ => ?_⟩
        · simp [error_name_reply, returned, refusedName]
        · obtain ⟨params, batchParams, inputs, rfl, rfl, equal⟩ := same first second accepted acceptedToo
          exact ⟨params, batchParams, inputs, added, addedToo, equal⟩
  · obtain ⟨reply, failed, refused⟩ := agent.entered_refused state certId authorization passed
    rw [refused, refused]
    exact ⟨rfl, fun _ => ⟨rfl, rfl⟩, fun succeeded => absurd succeeded failed⟩

/-- A batch of readable documents ends as a signature of its first document would. -/
theorem batch_agrees_with_first (displayName : String) (document : DocumentRead)
    (rest : List (String × DocumentRead))
    (counted : agent.isValidBatchDocumentCount ((displayName, document) :: rest).length = true)
    (inputs : List BatchDocumentInput)
    (read : agent.batchInputs ((displayName, document) :: rest) = .ok inputs) :
    Agrees state (agent.sign state authorization sender certId document options)
      (agent.signBatch state authorization sender ((displayName, document) :: rest) certId
        options) := by
  rw [sign_shape, sign_batch_shape]
  refine agent.agrees_of_prepared state authorization sender certId _ _
    (agent.batch_refused_as_first certId options displayName document rest counted inputs read) ?_
  intro first second prepared preparedToo
  obtain ⟨bytes, resolved, name, own, accepted, rfl⟩ :=
    agent.prepare_sign_ok certId options document first prepared
  obtain ⟨others, resolvedToo, -, readToo, acceptedToo, rfl⟩ :=
    agent.prepare_batch_ok certId options _ second preparedToo
  have front := agent.front_bytes displayName document rest others readToo signTexts
  cases Except.ok.inj (own.symm.trans front)
  cases Except.ok.inj (accepted.symm.trans acceptedToo)
  exact ⟨_, _, _, rfl, rfl, rfl⟩

/-- A batch of one document ends as a signature of it would. -/
theorem single_batch_agrees (counts : agent.LawfulCounts) (displayName : String)
    (document : DocumentRead) :
    Agrees state (agent.sign state authorization sender certId document options)
      (agent.signBatch state authorization sender [(displayName, document)] certId options) := by
  cases read : agent.batchInputs [(displayName, document)] with
  | ok inputs =>
    exact agent.batch_agrees_with_first state authorization sender certId options displayName
      document [] counts.one inputs read
  | error error =>
    rw [sign_shape, sign_batch_shape]
    refine agent.agrees_of_prepared state authorization sender certId _ _
      (agent.single_batch_refused certId options counts displayName document) ?_
    intro first second _ prepared
    obtain ⟨inputs, _, _, readToo, _⟩ := agent.prepare_batch_ok certId options _ second prepared
    cases read.symm.trans readToo

/-- What a call launches is what was prepared, or nothing. -/
theorem entered_launches (prepared : Except BusError SignLaunch) :
    let reply := agent.entered state certId authorization (agent.granted state sender prepared)
    errorName reply.1 ≠ none ∧ reply.2.launches = state.launches ∨
      ∃ request, prepared = .ok request ∧ errorName reply.1 = none ∧
        reply.2.launches = state.launches ++ [request] := by
  by_cases passed : agent.Entered certId authorization
  · rw [agent.entered_granted state certId authorization passed]
    simp only [error_name_reply]
    rcases agent.granted_launches state sender prepared with
      ⟨error, failed, kept⟩ | ⟨request, path, accepted, returned, added⟩
    · exact Or.inl ⟨by simp [failed, refusedName], kept⟩
    · exact Or.inr ⟨request, accepted, by simp [returned, refusedName], added⟩
  · obtain ⟨reply, failed, refused⟩ := agent.entered_refused state certId authorization passed
    rw [refused]
    exact Or.inl ⟨failed, rfl⟩

/-- An operation found after a call was there before, or was prepared by the call. -/
theorem entered_member (prepared : Except BusError SignLaunch) (request : SignLaunch)
    (member : request ∈
      (agent.entered state certId authorization (agent.granted state sender prepared)).2.launches) :
    request ∈ state.launches ∨ prepared = .ok request := by
  rcases agent.entered_launches state authorization sender certId prepared with
    ⟨-, kept⟩ | ⟨launched, accepted, -, added⟩
  · exact Or.inl (kept ▸ member)
  · rw [added, List.mem_append, List.mem_singleton] at member
    rcases member with earlier | rfl
    · exact Or.inl earlier
    · exact Or.inr accepted

/-- What `Sign` launches has the options resolved for its document. -/
theorem sign_launches_resolved (document : DocumentRead) (request : SignLaunch)
    (member : request ∈ (agent.sign state authorization sender certId document options).2.launches) :
    request ∈ state.launches ∨ ∃ bytes, document = .ok bytes ∧
      agent.resolve options bytes = .ok (launchParams request).options := by
  rw [sign_shape] at member
  rcases agent.entered_member state authorization sender certId _ request member with
    earlier | prepared
  · exact Or.inl earlier
  · obtain ⟨bytes, resolved, name, read, accepted, rfl⟩ :=
      agent.prepare_sign_ok certId options document request prepared
    exact Or.inr ⟨bytes, ((document_bytes_iff signTexts document bytes).mp read).1, accepted⟩

/-- What `SignBatch` launches has the options resolved for its first document. -/
theorem sign_batch_launches_resolved (documents : List (String × DocumentRead))
    (request : SignLaunch)
    (member : request ∈
      (agent.signBatch state authorization sender documents certId options).2.launches) :
    request ∈ state.launches ∨ ∃ inputs, agent.batchInputs documents = .ok inputs ∧
      agent.resolve options (frontBytes inputs) = .ok (launchParams request).options := by
  rw [sign_batch_shape] at member
  rcases agent.entered_member state authorization sender certId _ request member with
    earlier | prepared
  · exact Or.inl earlier
  · obtain ⟨inputs, resolved, -, read, accepted, rfl⟩ :=
      agent.prepare_batch_ok certId options documents request prepared
    exact Or.inr ⟨inputs, read, accepted⟩

/-- Parameters over resolved options are consistent. -/
theorem consistent_resolved (bytes : List UInt8) (request : SignLaunch)
    (accepted : agent.resolve options bytes = .ok (launchParams request).options) :
    Consistent request :=
  resolved_consistent agent.params agent.casts agent.config options bytes _ accepted

/-- A call charges the limiter once when it passed the entry, and not at all otherwise. -/
theorem entered_charges (prepared : Except BusError SignLaunch) :
    (agent.entered state certId authorization
        (agent.granted state sender prepared)).2.charges =
      state.charges ++ (if agent.Entered certId authorization then [sender] else []) := by
  by_cases passed : agent.Entered certId authorization
  · rw [agent.entered_granted state certId authorization passed, if_pos passed]
    exact agent.granted_charges state sender prepared
  · obtain ⟨reply, -, refused⟩ := agent.entered_refused state certId authorization passed
    rw [refused, if_neg passed, List.append_nil]

/-- A batch launches all its documents in the order of the request, or nothing. -/
theorem sign_batch_launches (documents : List (String × DocumentRead)) :
    let batch := agent.signBatch state authorization sender documents certId options
    errorName batch.1 ≠ none ∧ batch.2.launches = state.launches ∨
      errorName batch.1 = none ∧ ∃ params inputs,
        batch.2.launches = state.launches ++ [.signBatch params inputs] ∧
        agent.Faithful documents inputs := by
  simp only [sign_batch_shape]
  rcases agent.entered_launches state authorization sender certId
      (agent.prepareBatch documents certId options) with refused | ⟨request, prepared, ended, added⟩
  · exact Or.inl refused
  · obtain ⟨inputs, resolved, -, read, -, rfl⟩ :=
      agent.prepare_batch_ok certId options documents request prepared
    exact Or.inr ⟨ended, _, inputs, added, agent.batch_inputs_faithful documents inputs read⟩

/-- A batch that is launched has an accepted count of readable documents, and so a first one. -/
theorem sign_batch_accepted (counts : agent.LawfulCounts) (documents : List (String × DocumentRead))
    (ended : errorName
      (agent.signBatch state authorization sender documents certId options).1 = none) :
    ∃ displayName document rest, documents = (displayName, document) :: rest ∧
      agent.isValidBatchDocumentCount documents.length = true ∧
      ∀ entry ∈ documents, Readable entry.2 := by
  rw [sign_batch_shape] at ended
  rcases agent.entered_launches state authorization sender certId
      (agent.prepareBatch documents certId options) with ⟨refused, -⟩ | ⟨request, prepared, -, -⟩
  · exact absurd ended refused
  · obtain ⟨inputs, resolved, counted, read, -, -⟩ :=
      agent.prepare_batch_ok certId options documents request prepared
    cases documents with
    | nil =>
      have counted : agent.isValidBatchDocumentCount 0 = true := counted
      rw [counts.none] at counted
      cases counted
    | cons entry rest =>
      exact ⟨entry.1, entry.2, rest, rfl, counted, agent.batch_inputs_read _ inputs read⟩

/-- `Sign` and `SignBatch` agree. A batch of one document ends as a signature of it would:
refused under the same error name, or launched with the same options. A batch charges the
limiter once when it passed the entry and not at all otherwise; it launches all its documents
in the order of the request or none, with the options of a signature of its first document,
and when its count is accepted and its documents can be read it is refused as that signature
would be. Every launched operation has a time-stamp authority only with a level that has time
stamps, and an appearance only in the `pades` format. -/
theorem sign_batch_agreement (counts : agent.LawfulCounts) :
    (∀ displayName document,
      Agrees state (agent.sign state authorization sender certId document options)
        (agent.signBatch state authorization sender [(displayName, document)] certId options)) ∧
    (∀ documents,
      let batch := agent.signBatch state authorization sender documents certId options
      batch.2.charges = state.charges ++
        (if agent.Entered certId authorization then [sender] else []) ∧
      (errorName batch.1 ≠ none ∧ batch.2.launches = state.launches ∨
        errorName batch.1 = none ∧ ∃ params inputs,
          batch.2.launches = state.launches ++ [.signBatch params inputs] ∧
          agent.Faithful documents inputs)) ∧
    (∀ displayName document rest,
      agent.isValidBatchDocumentCount ((displayName, document) :: rest).length = true →
      (∀ entry ∈ (displayName, document) :: rest, Readable entry.2) →
      Agrees state (agent.sign state authorization sender certId document options)
        (agent.signBatch state authorization sender ((displayName, document) :: rest) certId
          options)) ∧
    (∀ documents, errorName
        (agent.signBatch state authorization sender documents certId options).1 = none →
      ∃ displayName document rest, documents = (displayName, document) :: rest ∧
        agent.isValidBatchDocumentCount documents.length = true ∧
        ∀ entry ∈ documents, Readable entry.2) ∧
    (∀ document request,
      request ∈ (agent.sign state authorization sender certId document options).2.launches →
      request ∈ state.launches ∨ Consistent request) ∧
    ∀ documents request,
      request ∈ (agent.signBatch state authorization sender documents certId options).2.launches →
      request ∈ state.launches ∨ Consistent request := by
  refine ⟨?_, ?_, ?_, ?_, ?_, ?_⟩
  · intro displayName document
    exact agent.single_batch_agrees state authorization sender certId options counts displayName
      document
  · intro documents
    refine ⟨?_, agent.sign_batch_launches state authorization sender certId options documents⟩
    rw [sign_batch_shape]
    exact agent.entered_charges state authorization sender certId _
  · intro displayName document rest counted readable
    obtain ⟨inputs, read⟩ := agent.batch_inputs_readable _ readable
    exact agent.batch_agrees_with_first state authorization sender certId options displayName
      document rest counted inputs read
  · intro documents ended
    exact agent.sign_batch_accepted state authorization sender certId options counts documents ended
  · intro document request member
    rcases agent.sign_launches_resolved state authorization sender certId options document request
        member with earlier | ⟨bytes, -, resolved⟩
    · exact Or.inl earlier
    · exact Or.inr (agent.consistent_resolved options bytes request resolved)
  · intro documents request member
    rcases agent.sign_batch_launches_resolved state authorization sender certId options documents
        request member with earlier | ⟨inputs, -, resolved⟩
    · exact Or.inl earlier
    · exact Or.inr (agent.consistent_resolved options (frontBytes inputs) request resolved)

end Methods

/-- An agent that allows every request and launches under consecutive numbers. -/
def openAgent : SignAgent Unit where
  hasPkiCapability := true
  params := documentedParams
  casts := documentedCasts
  config := baselineConfig
  sanitizeLabel label := label
  isValidBatchDocumentCount count := decide (1 ≤ count ∧ count ≤ 12)
  kMinBatchDocuments := 1
  kMaxBatchDocuments := 12
  allow _ _ := (true, ())
  launcher launches := .ok launches.length

/-- A batch of two documents is launched, with one charge and the options of a signature of
its first document. -/
theorem two_documents_agree :
    (openAgent.signBatch ⟨(), [], []⟩ .granted ":1.7" [("a.pdf", .ok pdfBytes), ("b", .ok [48])]
        "sign" []).1 = .results "/org/librescrs/Agent/op/0" ∧
      (openAgent.signBatch ⟨(), [], []⟩ .granted ":1.7"
        [("a.pdf", .ok pdfBytes), ("b", .ok [48])] "sign" []).2.charges = [":1.7"] ∧
      Agrees ⟨(), [], []⟩ (openAgent.sign ⟨(), [], []⟩ .granted ":1.7" "sign" (.ok pdfBytes) [])
        (openAgent.signBatch ⟨(), [], []⟩ .granted ":1.7"
          [("a.pdf", .ok pdfBytes), ("b", .ok [48])] "sign" []) := by
  have agreement := openAgent.sign_batch_agreement ⟨(), [], []⟩ .granted ":1.7" "sign" []
    ⟨by decide, by decide⟩
  refine ⟨by rfl, (agreement.2.1 _).1, agreement.2.2.1 _ _ _ (by decide) ?_⟩
  intro entry member
  simp only [List.mem_cons, List.not_mem_nil, or_false] at member
  rcases member with rfl | rfl
  · exact ⟨_, rfl, by decide⟩
  · exact ⟨_, rfl, by decide⟩

/-- A batch without a certificate id is refused before the limiter is charged. -/
theorem unnamed_certificate_uncharged :
    ¬ ∀ documents certId, (openAgent.signBatch ⟨(), [], []⟩ .granted ":1.7" documents certId
      []).2.charges = [":1.7"] := by
  intro always
  have charged := always [("a.pdf", .ok pdfBytes)] ""
  cases charged

end SignAgent

end LibreLinux.Agent
