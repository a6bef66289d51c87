import LibreLinux.Agent.AuthorizedService
import LibreLinux.Agent.ObjectPath
import LibreLinux.Agent.SignRequests

/-!
# The operations of a card

A method of the card object launches an operation and answers with its path. Reading methods
check a capability of the card and launch at once. `Sign`, `SignBatch`, `ManagePin` and
`ActivateSigningKey` are authorized first, and their granted bodies charge the rate limiter,
check their arguments and launch. An operation carries the bus name of the client that
launched it: only that client is heard when it cancels the operation, although anybody can
name its path.

The rate limiter, the listing of the credentials and the launcher belong to the agent library.
They are functions on one store here. The launcher refuses an operation by the backlog of the
reader, whatever the operation, and counts the operations it takes.
-/

namespace LibreLinux.Agent.Card1

open Runs Serial

def kActionSign : String := "org.librescrs.agent.sign"
def kActionCredentialsManage : String := "org.librescrs.agent.credentials.manage"

/-- The bus name of a refusal of the agent library. -/
def syncErrorBusName (name : String) : String := "org.librescrs.Agent.Error." ++ name

/-- What is known of the client of a call: its unique bus name, or nothing, and the label of
its process, or nothing. -/
structure Caller where
  sender : String
  requester : String
deriving DecidableEq, Repr

/-- The card and its reader, and the client an operation is launched for. -/
structure OperationTarget where
  readerId : UInt64
  readerName : String
  cardKey : String
  caller : String
  requester : String
deriving DecidableEq, Repr

/-- A change of a credential. -/
structure PinManageRequest where
  cardKey : String
  pinId : String
  verb : String
  activateKey : Bool
deriving DecidableEq, Repr

/-- Why a change of a credential is refused at the entry. -/
inductive EntryError where
  | unknownCredential
  | ambiguousCredential
  | unknownVerb
  | unknownOption
  | invalidCombination
deriving DecidableEq, Repr

/-- What the launcher is asked to run. A change of a credential goes with the listing it was
checked against. -/
inductive CardOperation (ς : Type) where
  | readIdentity
  | getPhoto
  | readCertificates
  | readTokenInfo
  | listCredentials
  | signing (launch : SignLaunch)
  | managePin (request : PinManageRequest) (snapshot : Option ς)
  | activateSigningKey

/-- The channel that exports an operation with its result. -/
inductive ChannelMaker where
  | identity
  | photo
  | certificates
  | sign
  | signBatch
  | credentials
deriving DecidableEq, Repr

/-- What the card object uses of the agent library. -/
structure CardLibrary (ς σ : Type) where
  identityBit : UInt32
  pkiBit : UInt32
  pinManagementBit : UInt32
  identity : Identity
  params : SignatureParams
  casts : Casts
  sanitizeLabel : String → String
  isValidBatchDocumentCount : Nat → Bool
  kMinBatchDocuments : Nat
  kMaxBatchDocuments : Nat
  config : σ → SignConfig
  allow : String → σ → Bool × σ
  credentialSnapshot : String → σ → Option ς × σ
  validatePinManageRequest : PinManageRequest → Option ς → Except EntryError Unit
  entryErrorName : EntryError → String
  admits : OperationTarget → σ → Except String Nat
  enqueue : OperationTarget → Nat → CardOperation ς → σ → σ
  cancel : Nat → σ → σ
  issued : σ → Nat

/-- The card object. -/
structure CardObject where
  capabilities : UInt32
  reader : String
  readerName : String
  cardKey : String

/-- An operation as it was launched. -/
structure CardLaunch (ς : Type) where
  id : Nat
  target : OperationTarget
  channel : ChannelMaker
  owner : String
  operation : CardOperation ς

/-- The store of the agent library, the channels that are exported, and what the card object
did: whom it charged, what it launched and what it cancelled for whom. -/
structure CardStore (ς σ : Type) where
  agent : σ
  channels : List (CardLaunch ς) := []
  charges : List String := []
  launched : List (CardLaunch ς) := []
  cancelled : List (Nat × String) := []

variable {ς σ : Type}

namespace CardObject

variable (library : CardLibrary ς σ) (card : CardObject)

def hasIdentityCapability : Bool := card.capabilities &&& library.identityBit ≠ 0

def hasPkiCapability : Bool := card.capabilities &&& library.pkiBit ≠ 0

def hasPinManagementCapability : Bool := card.capabilities &&& library.pinManagementBit ≠ 0

/-- The target of an operation for a client. -/
def target (caller : Caller) : OperationTarget where
  readerId := objectIdFromPath library.identity card.reader
  readerName := card.readerName
  cardKey := card.cardKey
  caller := caller.sender
  requester := caller.requester

/-- Launch an operation, unless the reader's backlog is full. -/
def launch (channel : ChannelMaker) (operation : CardOperation ς) (caller : Caller)
    (store : CardStore ς σ) : Except BusError String × CardStore ς σ :=
  match library.admits (card.target library caller) store.agent with
  | .error name =>
      (.error ⟨syncErrorBusName name, "reader operation backlog full; retry shortly"⟩, store)
  | .ok id =>
    let launched : CardLaunch ς :=
      ⟨id, card.target library caller, channel, caller.sender, operation⟩
    (.ok (opObjectPath id), { store with
      agent := library.enqueue (card.target library caller) id operation store.agent
      channels := store.channels ++ [launched]
      launched := store.launched ++ [launched] })

/-! ## Reading -/

/-- The methods that read. -/
inductive Reading where
  | readIdentity
  | getPhoto
  | readCertificates
  | readTokenInfo
  | listCredentials
deriving DecidableEq, Repr

/-- The capability that a reading method asks for. -/
def readingRefusal : Reading → Option BusError
  | .readIdentity | .getPhoto =>
    if card.hasIdentityCapability library then none
    else some ⟨kErrUnsupportedOnThisCard, "Card does not advertise IdentityData capability"⟩
  | .readCertificates | .readTokenInfo =>
    if card.hasPkiCapability library then none
    else some ⟨kErrUnsupportedOnThisCard, "Card does not advertise PKI capability"⟩
  | .listCredentials =>
    if card.hasPinManagementCapability library then none
    else some ⟨kErrUnsupportedOnThisCard, "Card does not advertise PinManagement capability"⟩

/-- The channel of a reading method. Token info is served like an identity. -/
def readingChannel : Reading → ChannelMaker
  | .readIdentity => .identity
  | .getPhoto => .photo
  | .readCertificates => .certificates
  | .readTokenInfo => .identity
  | .listCredentials => .credentials

/-- What a reading method launches. -/
def readingOperation : Reading → CardOperation ς
  | .readIdentity => .readIdentity
  | .getPhoto => .getPhoto
  | .readCertificates => .readCertificates
  | .readTokenInfo => .readTokenInfo
  | .listCredentials => .listCredentials

/-- A reading method. -/
def read (reading : Reading) (caller : Caller) (store : CardStore ς σ) :
    Except BusError String × CardStore ς σ :=
  match card.readingRefusal library reading with
  | some error => (.error error, store)
  | none =>
    card.launch library (readingChannel reading) (readingOperation reading) caller store

/-! ## Granted bodies -/

/-- Charge the rate limiter for a client. -/
def charge (sender : String) (store : CardStore ς σ) : Bool × CardStore ς σ :=
  let answer := library.allow sender store.agent
  (answer.1, { store with agent := answer.2, charges := store.charges ++ [sender] })

/-- The end of a body that returned a path or threw. -/
def bodyResult : Except BusError String → BodyResult String
  | .ok path => .results path
  | .error error => .busError error.name error.message

/-- A granted body: charge the client, check its arguments, launch. -/
def granted (limited : String) (channel : ChannelMaker)
    (prepare : σ → Except BusError (CardOperation ς) × σ) (caller : Caller)
    (store : CardStore ς σ) : BodyResult String × CardStore ς σ :=
  let charged := charge library caller.sender store
  if !charged.1 then (.busError kErrRateLimited limited, charged.2)
  else
    let prepared := prepare charged.2.agent
    let checked := { charged.2 with agent := prepared.2 }
    match prepared.1 with
    | .error error => (.busError error.name error.message, checked)
    | .ok operation =>
      let launched := card.launch library channel operation caller checked
      (bodyResult launched.1, launched.2)

/-- What the signing methods see of the agent. -/
def signAgent (caller : Caller) (agent : σ) : SignAgent σ where
  hasPkiCapability := card.hasPkiCapability library
  params := library.params
  casts := library.casts
  config := library.config agent
  sanitizeLabel := library.sanitizeLabel
  isValidBatchDocumentCount := library.isValidBatchDocumentCount
  kMinBatchDocuments := library.kMinBatchDocuments
  kMaxBatchDocuments := library.kMaxBatchDocuments
  allow limiter sender := library.allow sender limiter
  launcher _ := (library.admits (card.target library caller) agent).mapError syncErrorBusName

/-- What a signature launches, as the agent stands. -/
def prepareSign (certId : String) (document : DocumentRead) (options : OptionMap)
    (caller : Caller) (agent : σ) : Except BusError (CardOperation ς) × σ :=
  (((card.signAgent library caller agent).prepareSign certId document options).map .signing, agent)

/-- What a batch launches, as the agent stands. -/
def prepareBatch (documents : List (String × DocumentRead)) (certId : String)
    (options : OptionMap) (caller : Caller) (agent : σ) :
    Except BusError (CardOperation ς) × σ :=
  (((card.signAgent library caller agent).prepareBatch documents certId options).map .signing,
    agent)

/-- The granted half of `Sign`. -/
def signGranted (certId : String) (document : DocumentRead) (options : OptionMap)
    (caller : Caller) : CardStore ς σ → BodyResult String × CardStore ς σ :=
  card.granted library "Too many signing requests; try again shortly" .sign
    (card.prepareSign library certId document options caller) caller

/-- The granted half of `SignBatch`. -/
def signBatchGranted (documents : List (String × DocumentRead)) (certId : String)
    (options : OptionMap) (caller : Caller) : CardStore ς σ → BodyResult String × CardStore ς σ :=
  card.granted library "Too many signing requests; try again shortly" .signBatch
    (card.prepareBatch library documents certId options caller) caller

def kOptionActivateKey : String := "activateKey"

/-- The options of `ManagePin`: one key is defined, and it is a boolean. -/
def activateKeyFrom (options : OptionMap) : Except BusError Bool :=
  if options.any (fun entry => entry.1 ≠ kOptionActivateKey) then
    .error ⟨kErrInvalidRequest, "undefined ManagePin options key"⟩
  else
    match options.lookup kOptionActivateKey with
    | none => .ok false
    | some (.boolean activateKey) => .ok activateKey
    | some _ => .error ⟨kErrInvalidRequest, "activateKey must be a boolean"⟩

/-- Which of the entry errors it was. -/
def entryErrorMessage : EntryError → String
  | .unknownCredential => "pinId does not match any credential from the latest ListCredentials"
  | .ambiguousCredential => "pinId addresses a credential label that is not unique on this card"
  | _ => "malformed credential-management request"

/-- The error of a refused change of a credential. -/
def throwEntryError (error : EntryError) : BusError :=
  ⟨syncErrorBusName (library.entryErrorName error), entryErrorMessage error⟩

/-- What a change of a credential launches. It is checked against the latest listing, and no
listing is made for it. -/
def prepareManagePin (pinId verb : String) (options : OptionMap) (agent : σ) :
    Except BusError (CardOperation ς) × σ :=
  match activateKeyFrom options with
  | .error error => (.error error, agent)
  | .ok activateKey =>
    let request : PinManageRequest := ⟨card.cardKey, pinId, verb, activateKey⟩
    let snapshot := library.credentialSnapshot card.cardKey agent
    match library.validatePinManageRequest request snapshot.1 with
    | .error error => (.error (throwEntryError library error), snapshot.2)
    | .ok () => (.ok (.managePin request snapshot.1), snapshot.2)

/-- The granted half of `ManagePin`. -/
def managePinGranted (pinId verb : String) (options : OptionMap) (caller : Caller) :
    CardStore ς σ → BodyResult String × CardStore ς σ :=
  card.granted library "Too many credential requests; try again shortly" .credentials
    (card.prepareManagePin library pinId verb options) caller

/-- The activation of the signing key has no arguments to check. -/
def prepareActivation (agent : σ) : Except BusError (CardOperation ς) × σ :=
  (.ok .activateSigningKey, agent)

/-- The granted half of `ActivateSigningKey`. -/
def activateSigningKeyGranted (caller : Caller) :
    CardStore ς σ → BodyResult String × CardStore ς σ :=
  card.granted library "Too many credential requests; try again shortly" .credentials
    prepareActivation caller

/-! ## The authorized methods -/

/-- A call of one of the methods that are authorized first. A document is how reading its
descriptor ends when the granted body gets there. -/
inductive Request where
  | sign (caller : Caller) (certId : String) (document : DocumentRead) (options : OptionMap)
  | signBatch (caller : Caller) (documents : List (String × DocumentRead)) (certId : String)
      (options : OptionMap)
  | managePin (caller : Caller) (pinId verb : String) (options : OptionMap)
  | activateSigningKey (caller : Caller)

/-- The client of a call. -/
def Request.caller : Request → Caller
  | .sign caller _ _ _ => caller
  | .signBatch caller _ _ _ => caller
  | .managePin caller _ _ _ => caller
  | .activateSigningKey caller => caller

/-- What a granted call launches, as the agent stands. -/
def Request.prepare : Request → σ → Except BusError (CardOperation ς) × σ
  | .sign caller certId document options => card.prepareSign library certId document options caller
  | .signBatch caller documents certId options =>
      card.prepareBatch library documents certId options caller
  | .managePin _ pinId verb options => card.prepareManagePin library pinId verb options
  | .activateSigningKey _ => prepareActivation

/-- The entry of the signing methods. -/
def signRefusal (certId : String) : Option BusError :=
  if !card.hasPkiCapability library then
    some ⟨kErrUnsupportedOnThisCard, "Card does not advertise PKI capability"⟩
  else if certId = "" then some ⟨kBadParamErrName, "certId is required (no auto-select)"⟩
  else none

/-- The entry of the methods that change credentials. -/
def credentialRefusal : Option BusError :=
  if !card.hasPinManagementCapability library then
    some ⟨kErrUnsupportedOnThisCard, "Card does not advertise PinManagement capability"⟩
  else none

/-- The methods of the card object that are authorized first. -/
def bodies : AuthorizedBodies Request String (CardStore ς σ) where
  entry
    | .sign _ certId _ _ => card.signRefusal library certId
    | .signBatch _ _ certId _ => card.signRefusal library certId
    | .managePin _ _ _ _ => card.credentialRefusal library
    | .activateSigningKey _ => card.credentialRefusal library
  action
    | .sign _ _ _ _ => kActionSign
    | .signBatch _ _ _ _ => kActionSign
    | .managePin _ _ _ _ => kActionCredentialsManage
    | .activateSigningKey _ => kActionCredentialsManage
  sender request := request.caller.sender
  denied
    | .sign _ _ _ _ => "Not authorized to sign"
    | .signBatch _ _ _ _ => "Not authorized to sign"
    | .managePin _ _ _ _ => "Not authorized to manage credentials"
    | .activateSigningKey _ => "Not authorized to manage credentials"
  granted
    | .sign caller certId document options => card.signGranted library certId document options caller
    | .signBatch caller documents certId options =>
        card.signBatchGranted library documents certId options caller
    | .managePin caller pinId verb options => card.managePinGranted library pinId verb options caller
    | .activateSigningKey caller => card.activateSigningKeyGranted library caller

/-! ## Cancelling -/

/-- `Operation1.Cancel` of the channel at a path, by the sender of the call. Only the client
that launched the operation is heard; an operation without an owner hears nobody. -/
def cancel (path : String) (sender : Option String) (store : CardStore ς σ) : CardStore ς σ :=
  match store.channels.find? (fun channel => opObjectPath channel.id = path) with
  | none => store
  | some channel =>
    if channel.owner = "" then store
    else if sender = some channel.owner then { store with
      agent := library.cancel channel.id store.agent
      cancelled := store.cancelled ++ [(channel.id, channel.owner)] }
    else store

/-! ## The object and its clients -/

/-- A step of an authorized method, a reading method, a cancellation, the end of a channel, or
a change of the agent library's own store. -/
inductive Event (σ τ : Type) where
  | method (event : AuthorizedEvent Request τ)
  | read (reading : Reading) (caller : Caller)
  | cancel (path : String) (sender : Option String)
  | retire (id : Nat)
  | library (agent : σ)

/-- The card object with its authorized methods. -/
abbrev Service (ς σ : Type) := AuthorizedService Request String (CardStore ς σ)

/-- What a step is to the authorized methods: one of their own, or a change of the store. -/
def translate (state : Service ς σ) : Event σ (CardStore ς σ) →
    AuthorizedEvent Request (CardStore ς σ)
  | .method event => event
  | .read reading caller => .elsewhere (card.read library reading caller state.service.store).2
  | .cancel path sender => .elsewhere (cancel library path sender state.service.store)
  | .retire id => .elsewhere { state.service.store with
      channels := state.service.store.channels.filter (fun channel => channel.id ≠ id) }
  | .library agent => .elsewhere { state.service.store with agent }

/-- Whether a step can happen: the launcher never counts back. -/
def possible (state : Service ς σ) : Event σ (CardStore ς σ) → Bool
  | .method (.elsewhere _) => false
  | .library agent => library.issued state.service.store.agent ≤ library.issued agent
  | _ => true

/-- One step. -/
def step (state : Service ς σ) (event : Event σ (CardStore ς σ)) : Option (Service ς σ) :=
  if possible library state event then
    AuthorizedService.step (card.bodies library) state (card.translate library state event)
  else none

end CardObject

/-! ## What a body and a reading do to the store -/

/-- What the agent library promises: an operation is admitted under a number that was not
issued before, nothing counts back, and no change of a credential is valid without a
listing. -/
structure CardLibrary.Lawful (library : CardLibrary ς σ) : Prop where
  fresh : ∀ target agent id, library.admits target agent = .ok id → library.issued agent ≤ id
  issues : ∀ target agent id operation, library.admits target agent = .ok id →
    id < library.issued (library.enqueue target id operation agent)
  allow : ∀ sender agent, library.issued agent ≤ library.issued (library.allow sender agent).2
  snapshot : ∀ cardKey agent,
    library.issued agent ≤ library.issued (library.credentialSnapshot cardKey agent).2
  cancel : ∀ id agent, library.issued agent ≤ library.issued (library.cancel id agent)
  listed : ∀ request, library.validatePinManageRequest request none ≠ .ok ()

namespace CardObject

/-- A store after at most one launch. -/
structure Launched (library : CardLibrary ς σ) (store next : CardStore ς σ)
    (launch : Option (CardLaunch ς)) : Prop where
  channels : next.channels = store.channels ++ launch.toList
  launched : next.launched = store.launched ++ launch.toList
  cancelled : next.cancelled = store.cancelled
  counted : library.issued store.agent ≤ library.issued next.agent
  fresh : ∀ row, launch = some row →
    library.issued store.agent ≤ row.id ∧ row.id < library.issued next.agent

/-- The launch of an operation for a client. -/
structure LaunchedFor (library : CardLibrary ς σ) (card : CardObject) (caller : Caller)
    (row : CardLaunch ς) : Prop where
  owner : row.owner = caller.sender
  target : row.target = card.target library caller

/-- What a granted body does: it charges its client once, and is refused without a launch or
answers with the path of what it prepared and launched. -/
structure BodyEffect (library : CardLibrary ς σ) (card : CardObject) (caller : Caller)
    (prepare : σ → Except BusError (CardOperation ς) × σ) (store : CardStore ς σ)
    (outcome : BodyResult String × CardStore ς σ) : Prop where
  charges : outcome.2.charges = store.charges ++ [caller.sender]
  ends : (∃ name message, outcome.1 = .busError name message ∧
      Launched library store outcome.2 none) ∨
    ∃ row, outcome.1 = .results (opObjectPath row.id) ∧
      Launched library store outcome.2 (some row) ∧ LaunchedFor library card caller row ∧
      ∃ agent, (prepare agent).1 = .ok row.operation

section Effects

variable {library : CardLibrary ς σ} (lawful : library.Lawful) (card : CardObject)

include lawful

/-- A launch is refused and leaves the store, or is answered with the path of the operation. -/
theorem launch_effect (channel : ChannelMaker) (operation : CardOperation ς) (caller : Caller)
    (store : CardStore ς σ) :
    (∃ error, card.launch library channel operation caller store = (.error error, store)) ∨
    ∃ row, (card.launch library channel operation caller store).1 = .ok (opObjectPath row.id) ∧
      Launched library store (card.launch library channel operation caller store).2 (some row) ∧
      (card.launch library channel operation caller store).2.charges = store.charges ∧
      LaunchedFor library card caller row ∧ row.channel = channel ∧ row.operation = operation := by
  unfold launch
  cases admitted : library.admits (card.target library caller) store.agent with
  | error name => exact .inl ⟨_, rfl⟩
  | ok id =>
    right
    have fresh := lawful.fresh _ _ _ admitted
    have issues := lawful.issues _ _ _ operation admitted
    refine ⟨⟨id, card.target library caller, channel, caller.sender, operation⟩, rfl,
      ⟨rfl, rfl, rfl, by dsimp only; omega, ?_⟩, rfl, ⟨rfl, rfl⟩, rfl, rfl⟩
    rintro row same
    cases Option.some.inj same
    exact ⟨fresh, issues⟩

/-- Every body of the one shape has that effect. -/
theorem granted_effect (limited : String) (channel : ChannelMaker)
    (prepare : σ → Except BusError (CardOperation ς) × σ)
    (counted : ∀ agent, library.issued agent ≤ library.issued (prepare agent).2) (caller : Caller)
    (store : CardStore ς σ) :
    BodyEffect library card caller prepare store
      (card.granted library limited channel prepare caller store) := by
  have charged := lawful.allow caller.sender store.agent
  unfold granted charge
  generalize library.allow caller.sender store.agent = answer at charged ⊢
  obtain ⟨allowed, agent⟩ := answer
  cases allowed with
  | false => exact ⟨rfl, .inl ⟨_, _, rfl, ⟨by simp, by simp, rfl, charged, by simp⟩⟩⟩
  | true =>
    have checked := charged.trans (counted agent)
    cases prepared : (prepare agent).1 with
    | error error =>
      simp only [Bool.not_true, Bool.false_eq_true, if_false, prepared]
      exact ⟨rfl, .inl ⟨_, _, rfl, ⟨by simp, by simp, rfl, checked, by simp⟩⟩⟩
    | ok operation =>
      simp only [Bool.not_true, Bool.false_eq_true, if_false, prepared]
      obtain ⟨error, refused⟩ | ⟨row, path, effect, charges, own, _, same⟩ :=
        launch_effect lawful card channel operation caller { store with
          agent := (prepare agent).2, charges := store.charges ++ [caller.sender] }
      · rw [refused]
        exact ⟨rfl, .inl ⟨_, _, rfl, ⟨by simp, by simp, rfl, checked, by simp⟩⟩⟩
      · refine ⟨charges, .inr ⟨row, by simp only [path]; rfl, ⟨effect.channels, effect.launched,
          effect.cancelled, checked.trans effect.counted, ?_⟩, own, agent,
          prepared.trans (by rw [same])⟩⟩
        intro other launched
        obtain ⟨above, below⟩ := effect.fresh other launched
        exact ⟨checked.trans above, below⟩

/-- Every granted body of the card has that effect. -/
theorem body_effect (request : Request) (store : CardStore ς σ) :
    BodyEffect library card request.caller (request.prepare library card) store
      ((card.bodies library).granted request store) := by
  cases request with
  | sign caller certId document options =>
    exact granted_effect lawful card _ _ _ (fun _ => le_refl _) caller store
  | signBatch caller documents certId options =>
    exact granted_effect lawful card _ _ _ (fun _ => le_refl _) caller store
  | managePin caller pinId verb options =>
    refine granted_effect lawful card _ _ _ (fun agent => ?_) caller store
    have looked := lawful.snapshot card.cardKey agent
    simp only [Request.prepare, prepareManagePin]
    split
    · exact le_refl _
    · split <;> exact looked
  | activateSigningKey caller =>
    exact granted_effect lawful card _ _ _ (fun _ => le_refl _) caller store

/-- A reading method charges nobody. -/
theorem read_effect (reading : Reading) (caller : Caller) (store : CardStore ς σ) :
    (card.read library reading caller store).2.charges = store.charges ∧
      ((∃ error, (card.read library reading caller store).1 = .error error ∧
          Launched library store (card.read library reading caller store).2 none) ∨
        ∃ row, (card.read library reading caller store).1 = .ok (opObjectPath row.id) ∧
          Launched library store (card.read library reading caller store).2 (some row) ∧
          card.readingRefusal library reading = none ∧ LaunchedFor library card caller row ∧
          row.operation = readingOperation reading) := by
  have kept : Launched library store store none := ⟨by simp, by simp, rfl, le_refl _, by simp⟩
  unfold read
  cases refusal : card.readingRefusal library reading with
  | some error => exact ⟨rfl, .inl ⟨error, rfl, kept⟩⟩
  | none =>
    obtain ⟨error, refused⟩ | ⟨row, path, effect, charges, own, _, same⟩ :=
      launch_effect lawful card (readingChannel reading) (readingOperation reading) caller store
    · dsimp only
      rw [refused]
      exact ⟨rfl, .inl ⟨error, rfl, kept⟩⟩
    · exact ⟨charges, .inr ⟨row, path, effect, rfl, own, same⟩⟩

/-- A change of a credential is launched with the listing that it was checked against. -/
theorem managed_listed (request : Request) (agent : σ) (managed : PinManageRequest)
    (snapshot : Option ς)
    (prepared : (request.prepare library card agent).1 = .ok (.managePin managed snapshot)) :
    ∃ listing, snapshot = some listing ∧
      library.validatePinManageRequest managed (some listing) = .ok () := by
  have signed : ∀ launched : Except BusError SignLaunch,
      launched.map CardOperation.signing ≠ .ok (.managePin managed snapshot) := by
    rintro (error | launched) <;> simp [Except.map]
  cases request with
  | sign caller certId document options => exact absurd prepared (signed _)
  | signBatch caller documents certId options => exact absurd prepared (signed _)
  | activateSigningKey caller => cases prepared
  | managePin caller pinId verb options =>
    simp only [Request.prepare, prepareManagePin] at prepared
    split at prepared
    · cases prepared
    split at prepared
    · cases prepared
    rename_i valid
    cases Except.ok.inj prepared
    cases known : (library.credentialSnapshot card.cardKey agent).1 with
    | none =>
      rw [known] at valid
      exact absurd valid (lawful.listed _)
    | some listing =>
      rw [known] at valid
      exact ⟨listing, rfl, valid⟩

end Effects

/-- A signing body of the card answers as the signing methods do on the agent that the client
was charged on. -/
theorem signing_answers (library : CardLibrary ς σ) (card : CardObject) (channel : ChannelMaker)
    (prepare : SignAgent σ → Except BusError SignLaunch) (caller : Caller) (store : CardStore ς σ)
    (launches : List SignLaunch) :
    (card.granted library "Too many signing requests; try again shortly" channel
        (fun agent => ((prepare (card.signAgent library caller agent)).map .signing, agent)) caller
        store).1 =
      bodyResult ((card.signAgent library caller (library.allow caller.sender store.agent).2).granted
        ⟨store.agent, store.charges, launches⟩ caller.sender
        (prepare (card.signAgent library caller (library.allow caller.sender store.agent).2))).1 := by
  rcases answered : library.allow caller.sender store.agent with ⟨allowed, agent⟩
  have limits : (card.signAgent library caller agent).allow store.agent caller.sender =
      (allowed, agent) := answered
  cases allowed with
  | false => simp [granted, charge, SignAgent.granted, SignAgent.charge, answered, limits, bodyResult]
  | true =>
    cases prepared : prepare (card.signAgent library caller agent) with
    | error error =>
      simp [granted, charge, SignAgent.granted, SignAgent.charge, answered, limits, prepared,
        Except.map, bodyResult]
    | ok launch =>
      have launcher : (card.signAgent library caller agent).launcher launches =
          (library.admits (card.target library caller) agent).mapError syncErrorBusName := rfl
      cases admitted : library.admits (card.target library caller) agent <;>
        simp [granted, charge, SignAgent.granted, SignAgent.charge, answered, limits, prepared,
          Except.map, bodyResult, CardObject.launch, SignAgent.launch, admitted, launcher,
          Except.mapError]

end CardObject

end LibreLinux.Agent.Card1
