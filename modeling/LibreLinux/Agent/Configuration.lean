import LibreLinux.Agent.AuthorizedService
import LibreLinux.Agent.SignRequests

/-!
# Changing the configuration over the bus

`SetValue`, `Reset` and `ImportCscaMasterList` of the manager object check the key, ask polkit
under the action of the key's tier, and change the store in the granted body. An import is
charged to the rate limiter before its descriptor is read, and what it installed is recorded
in the store; the reply and the `CscaAnchorState` property serve that one record.

The configuration store, the rate limiter and the import itself belong to the agent library.
They are functions on one store here, of which the manager's methods use nothing else.
-/

namespace LibreLinux.Agent

open Maps Runs Serial

def kActionConfigure : String := "org.librescrs.agent.configure"
def kActionConfigureTrust : String := "org.librescrs.agent.configure.trust"

def kErrUnknownKey : String := "org.librescrs.Agent.Error.UnknownConfigKey"
def kErrReadOnly : String := "org.librescrs.Agent.Error.ReadOnlyConfig"
def kErrInvalidValue : String := "org.librescrs.Agent.Error.InvalidConfigValue"
def kErrNotAMasterList : String := "org.librescrs.Agent.Error.NotAMasterList"
def kErrEmptyMasterList : String := "org.librescrs.Agent.Error.EmptyMasterList"
def kErrMalformedMasterList : String := "org.librescrs.Agent.Error.MalformedMasterList"
def kErrBadMasterListSignature : String := "org.librescrs.Agent.Error.BadMasterListSignature"
def kErrMasterListSignerChanged : String := "org.librescrs.Agent.Error.MasterListSignerChanged"
def kErrMasterListReplayed : String := "org.librescrs.Agent.Error.MasterListReplayed"
def kErrAnchorCacheNotWritable : String := "org.librescrs.Agent.Error.AnchorCacheNotWritable"

/-- Who may change a key. -/
inductive Mutability where
  | readOnly
  | fileOnly
  | dbusMutable
  | dbusMutableTrust
deriving DecidableEq, Repr

/-- The polkit action of a tier. -/
def actionFor : Mutability → String
  | .dbusMutableTrust => kActionConfigureTrust
  | _ => kActionConfigure

/-- The variant types a configuration value is read as. -/
inductive ConfigValue where
  | string (text : String)
  | strings (texts : List String)
  | sources (lists : List (String × Bool × Bool))
  | other (signature : String)
deriving DecidableEq, Repr

namespace ConfigValue

def getString : ConfigValue → Option String
  | .string text => some text
  | _ => none

def getStrings : ConfigValue → Option (List String)
  | .strings texts => some texts
  | _ => none

def getSources : ConfigValue → Option (List (String × Bool × Bool))
  | .sources lists => some lists
  | _ => none

end ConfigValue

/-- A trusted list. -/
structure TslSource where
  url : String
  isLotl : Bool
  eager : Bool
deriving DecidableEq, Repr

/-- What a setter of the store says. -/
structure SetResult where
  ok : Bool
  errorName : String
  message : String
deriving DecidableEq, Repr

/-- A publisher whose list was taken in. -/
structure AcceptedSigner (φ : Type) where
  fingerprint : φ
  signedAt : Option Int
  identityEstablished : Bool

/-- What an accepted import installed. -/
structure AnchorState (φ : Type) where
  anchorCount : UInt32
  issuerCount : UInt32
  signers : List (AcceptedSigner φ)
  acceptedAt : Option Int

/-- Why an import was refused. -/
inductive ImportRefusal where
  | notAMasterList
  | empty
  | malformed
  | badSignature
  | cacheNotWritable
  | replayed
  | signerChanged
deriving DecidableEq, Repr

/-- A refusal with the dates and publishers it compared. -/
structure Refusal (φ : Type) where
  reason : ImportRefusal
  trustedSignedAt : Option Int := none
  seenSignedAt : Option Int := none
  trustedSigner : Option φ := none
  seenSigner : Option φ := none

/-- The record of the last accepted import. -/
structure CscaAnchorState where
  anchors : UInt32
  issuers : UInt32
  replayRefusalActive : Bool
  signer : String
  signerPinned : Bool
  acceptedAt : Option Int
  signedAt : Option Int
deriving DecidableEq, Repr

/-- The variant types of the anchor report. -/
inductive AnchorValue where
  | uint32 (value : UInt32)
  | int64 (value : Int)
  | boolean (value : Bool)
  | string (text : String)
deriving DecidableEq, Repr

/-- The anchor report on the wire. -/
abbrev AnchorDict := Finmap (fun _ : String => AnchorValue)

/-- What the manager object uses of the agent library. -/
structure ConfigLibrary (φ σ : Type) where
  mutability : String → Option Mutability
  setDefaultLevel : String → σ → SetResult × σ
  setTsaUrls : List String → σ → SetResult × σ
  setTslSources : List TslSource → σ → SetResult × σ
  setDefaultReason : String → σ → SetResult × σ
  setDefaultLocation : String → σ → SetResult × σ
  resetKey : String → Bool → σ → SetResult × σ
  cscaAnchorState : σ → Option CscaAnchorState
  recordCscaAnchorState : CscaAnchorState → σ → σ
  allow : String → σ → Bool × σ
  importMasterList : List UInt8 → Int → σ → Except (Refusal φ) (AnchorState φ) × σ
  replayRefusalActive : AnchorState φ → Bool
  everyPublisherEstablished : AnchorState φ → Bool
  toHex : φ → String

variable {φ σ : Type}

/-! ## The anchor report -/

/-- The publisher, where there is exactly one. -/
def onlySigner : List (AcceptedSigner φ) → Option (AcceptedSigner φ)
  | [only] => some only
  | _ => none

/-- What an accepted import leaves in the configuration. -/
def toRecordedState (library : ConfigLibrary φ σ) (state : AnchorState φ) : CscaAnchorState where
  anchors := state.anchorCount
  issuers := state.issuerCount
  replayRefusalActive := library.replayRefusalActive state
  signer := ((onlySigner state.signers).map (library.toHex ∘ AcceptedSigner.fingerprint)).getD ""
  signerPinned := library.everyPublisherEstablished state
  acceptedAt := state.acceptedAt
  signedAt := (onlySigner state.signers).bind AcceptedSigner.signedAt

/-- A member that is there only when there is something to say. -/
def insertSome (key : String) (value : Option AnchorValue) (dict : AnchorDict) : AnchorDict :=
  match value with
  | some present => dict.insert key present
  | none => dict

/-- The dictionary that the import's reply and the property serve. -/
def anchorStateDict : Option CscaAnchorState → AnchorDict
  | none => ∅
  | some state =>
    let counted := ((∅ : AnchorDict).insert "anchors" (.uint32 state.anchors)).insert "issuers"
      (.uint32 state.issuers)
    let named := insertSome "signer"
      (if state.signer = "" then none else some (.string state.signer)) counted
    let pinned := named.insert "signerPinned" (.boolean state.signerPinned)
    let accepted := insertSome "acceptedAt" (state.acceptedAt.map .int64) pinned
    let guarded := accepted.insert "replayRefusalActive" (.boolean state.replayRefusalActive)
    insertSome "signedAt" (state.signedAt.map .int64) guarded

/-- The text of a replay: both dates, and the missing one is said to be missing. -/
def replayMessage (refusal : Refusal φ) : String :=
  "The master list is not newer than the one already installed" ++
    (match refusal.trustedSignedAt with
      | some signedAt => "; installed list signed at " ++ toString signedAt
      | none => "") ++
    (match refusal.seenSignedAt with
      | some signedAt => "; offered list signed at " ++ toString signedAt
      | none => "; the offered list carries no signing time at all")

/-- The text of a changed publisher: both fingerprints. -/
def signerMessage (toHex : φ → String) (refusal : Refusal φ) : String :=
  "The master list is signed by a publisher this agent does not follow" ++
    (match refusal.trustedSigner with
      | some signer => "; trusted signer " ++ toHex signer
      | none => "") ++
    (match refusal.seenSigner with
      | some signer => "; offered signer " ++ toHex signer
      | none => "")

/-- The error of a refused import. -/
def throwRefusal (toHex : φ → String) (refusal : Refusal φ) : BusError :=
  match refusal.reason with
  | .notAMasterList => ⟨kErrNotAMasterList, "The file is not an ICAO master list"⟩
  | .empty => ⟨kErrEmptyMasterList, "The master list carries no country signing certificate"⟩
  | .malformed => ⟨kErrMalformedMasterList, "The master list's content cannot be read"⟩
  | .badSignature =>
      ⟨kErrBadMasterListSignature, "The signature over the master list does not verify"⟩
  | .cacheNotWritable =>
      ⟨kErrAnchorCacheNotWritable, "The master list verified but the anchors could not be stored"⟩
  | .replayed => ⟨kErrMasterListReplayed, replayMessage refusal⟩
  | .signerChanged => ⟨kErrMasterListSignerChanged, signerMessage toHex refusal⟩

/-! ## The methods -/

deriving instance DecidableEq, Repr for DocumentRead

/-- A call of one of the methods that change something. `masterList` is how reading the
descriptor ends, and `now` the time, when the granted body gets there. -/
inductive ConfigRequest where
  | setValue (sender key : String) (value : ConfigValue)
  | reset (sender key : String)
  | importCscaMasterList (sender : String) (masterList : DocumentRead) (now : Int)
deriving DecidableEq, Repr

/-- The results of a method: none, or the report of an import. -/
abbrev ConfigResult := BodyResult (Option AnchorDict)

/-- The end of a body that called a setter. -/
def setResult (result : SetResult × σ) : ConfigResult × σ :=
  (if result.1.ok then .results none else .busError result.1.errorName result.1.message, result.2)

/-- A setter is called with the value read as its type. -/
def setTyped {α : Type} (key : String) (value : Option α) (setter : α → σ → SetResult × σ)
    (store : σ) : ConfigResult × σ :=
  match value with
  | some typed => setResult (setter typed store)
  | none => (.busError kErrInvalidValue ("Wrong value type for config key: " ++ key), store)

/-- The granted half of `SetValue`. -/
def setValueGranted (library : ConfigLibrary φ σ) (key : String) (value : ConfigValue) (store : σ) :
    ConfigResult × σ :=
  if key = "DefaultLevel" then setTyped key value.getString library.setDefaultLevel store
  else if key = "TsaUrls" then setTyped key value.getStrings library.setTsaUrls store
  else if key = "TslSources" then
    setTyped key (value.getSources.map (List.map fun source =>
      ⟨source.1, source.2.1, source.2.2⟩)) library.setTslSources store
  else if key = "DefaultReason" then setTyped key value.getString library.setDefaultReason store
  else if key = "DefaultLocation" then
    setTyped key value.getString library.setDefaultLocation store
  else (.busError kErrUnknownKey ("No setter for config key: " ++ key), store)

/-- The granted half of `Reset`. -/
def resetGranted (library : ConfigLibrary φ σ) (key : String) (store : σ) : ConfigResult × σ :=
  setResult (library.resetKey key true store)

/-- The granted half of `ImportCscaMasterList`: charge the caller, then read the descriptor,
then import, then remember. -/
def importCscaMasterListGranted (library : ConfigLibrary φ σ) (sender : String)
    (masterList : DocumentRead) (now : Int) (store : σ) : ConfigResult × σ :=
  let charged := library.allow sender store
  if !charged.1 then
    (.busError kErrRateLimited "Too many anchor imports; try again shortly", charged.2)
  else
    match masterList with
    | .notRegular => (.busError kErrInvalidRequest
        "The master list must be a regular file or memfd (no pipes/sockets)", charged.2)
    | .tooLarge =>
        (.busError kInputTooLargeErrName "The master list exceeds the size limit", charged.2)
    | .error => (.busError kErrInvalidRequest "The master list could not be read", charged.2)
    | .ok bytes =>
      let imported := library.importMasterList bytes now charged.2
      match imported.1 with
      | .error refusal =>
        let error := throwRefusal library.toHex refusal
        (.busError error.name error.message, imported.2)
      | .ok state =>
        let recorded := toRecordedState library state
        (.results (some (anchorStateDict (some recorded))),
          library.recordCscaAnchorState recorded imported.2)

/-- The check of a key before anything is asked. -/
def keyRefusal (library : ConfigLibrary φ σ) (key : String) : Option BusError :=
  match library.mutability key with
  | none => some ⟨kErrUnknownKey, "Unknown config key: " ++ key⟩
  | some .fileOnly => some ⟨kErrReadOnly, "Config key not settable over D-Bus: " ++ key⟩
  | some .readOnly => some ⟨kErrReadOnly, "Config key not settable over D-Bus: " ++ key⟩
  | some _ => none

/-- The action of a key; a key without a tier is never asked about. -/
def keyAction (library : ConfigLibrary φ σ) (key : String) : String :=
  ((library.mutability key).map actionFor).getD kActionConfigure

/-- The manager object's methods that change something. -/
def managerBodies (library : ConfigLibrary φ σ) :
    AuthorizedBodies ConfigRequest (Option AnchorDict) σ where
  entry
    | .setValue _ key _ => keyRefusal library key
    | .reset _ key => keyRefusal library key
    | .importCscaMasterList _ _ _ => none
  action
    | .setValue _ key _ => keyAction library key
    | .reset _ key => keyAction library key
    | .importCscaMasterList _ _ _ => kActionConfigureTrust
  sender
    | .setValue sender _ _ => sender
    | .reset sender _ => sender
    | .importCscaMasterList sender _ _ => sender
  denied
    | .setValue _ key _ => "Not authorized to set " ++ key
    | .reset _ key => "Not authorized to reset " ++ key
    | .importCscaMasterList _ _ _ => "Not authorized to import country signing anchors"
  granted
    | .setValue _ key value => setValueGranted library key value
    | .reset _ key => resetGranted library key
    | .importCscaMasterList sender masterList now =>
        importCscaMasterListGranted library sender masterList now

/-- The `CscaAnchorState` property. -/
def cscaAnchorStateProperty (library : ConfigLibrary φ σ) (store : σ) : AnchorDict :=
  anchorStateDict (library.cscaAnchorState store)

/-! ## Every change is one granted request -/

namespace Configuration

open AuthorizedService

/-- The manager object as it is created, with the store it serves. -/
def initially (start : σ) (posts : Bool) : AuthorizedService ConfigRequest (Option AnchorDict) σ :=
  { service := { store := start }, authorizer := { posts } }

/-- The past of a run. -/
def past (library : ConfigLibrary φ σ) (start : σ) (posts : Bool)
    (events : List (AuthorizedEvent ConfigRequest σ)) : Past ConfigRequest (Option AnchorDict) σ :=
  trace (step (managerBodies library)) (initially start posts) events

/-- The serial history of a run. -/
def commands (library : ConfigLibrary φ σ) (start : σ) (posts : Bool)
    (events : List (AuthorizedEvent ConfigRequest σ)) : List (Command ConfigRequest σ) :=
  history command (past library start posts events)

/-- In every run, whatever the order in which clients call, polkit answers, completions run and
the agent itself changes its store, the store is the one that the serial history leaves. Each
granted body is in the history once; its request passed the check of its key, and polkit said
yes to a question about the action of that request and about a process that the bus daemon
described as its sender. A request that was answered got what its body produced at its place in
the history, or an error if it has none there; one refused at the entry got that error alone and
has no place there. -/
theorem changes_serial_and_authorized (library : ConfigLibrary φ σ) (start : σ) (posts : Bool)
    (events : List (AuthorizedEvent ConfigRequest σ))
    (state : AuthorizedService ConfigRequest (Option AnchorDict) σ)
    (reached : run (step (managerBodies library)) (initially start posts) events = some state) :
    state.service.store = after (GatedService.serve (managerBodies library).toGrantedBodies) start
      (commands library start posts events) ∧
    (GatedService.served (commands library start posts events)).Nodup ∧
    (∀ id request, .granted id request ∈ commands library start posts events →
      (managerBodies library).entry request = none ∧
        (managerBodies library).sender request ≠ "" ∧
        PolkitSaidYes (managerBodies library) (past library start posts events) id request) ∧
    (∀ id question, state.service.object.questions id = some question →
      question.phase = .returned ∨ question.phase = .destroyed →
      (question.Permitted ∧ ∃ result,
        (id, result) ∈ GatedService.results (managerBodies library).toGrantedBodies start
          (commands library start posts events) ∧ question.sent = [replyWith result]) ∨
      (¬ question.Permitted ∧ id ∉ GatedService.served (commands library start posts events) ∧
        ∃ name message, question.sent = [.error name message])) ∧
    ∀ origin id request facts sent error,
      (origin, .call id request facts sent) ∈ past library start posts events →
      (managerBodies library).entry request = some error →
      state.refused.filter (fun entry => entry.1 = id) = [(id, error)] ∧
        id ∉ GatedService.served (commands library start posts events) := by
  obtain ⟨serial, held⟩ :=
    run_authorized (managerBodies library) start posts events state reached
  have recorded := run_recorded (managerBodies library) start posts events state reached
  have approvals := granted_approved (managerBodies library) start _ _ state serial held
  obtain ⟨servicePast, serialized, same⟩ := serial
  change _ = commands library start posts events at same
  rw [← same]
  refine ⟨serialized.store, serialized.distinct, ?_, ?_, ?_⟩
  · intro id request member
    rw [same] at member
    exact (approvals id request member).saidYes
  · intro id question present ended
    exact GatedService.settled_reply _ start servicePast state.service serialized id question
      present ended
  · intro origin id request facts sent error member refuses
    obtain ⟨once, absent⟩ := recorded.refused origin id request facts sent error member refuses
    exact ⟨once, serialized.fresh id absent⟩

/-- A store that holds the report and nothing else. -/
def reportLibrary : ConfigLibrary Nat (Option CscaAnchorState) where
  mutability key :=
    if key = "TsaUrls" then some .dbusMutableTrust
    else if key = "CscaAnchorState" then some .readOnly
    else none
  setDefaultLevel _ store := (⟨true, "", ""⟩, store)
  setTsaUrls _ store := (⟨true, "", ""⟩, store)
  setTslSources _ store := (⟨true, "", ""⟩, store)
  setDefaultReason _ store := (⟨true, "", ""⟩, store)
  setDefaultLocation _ store := (⟨true, "", ""⟩, store)
  resetKey _ _ store := (⟨true, "", ""⟩, store)
  cscaAnchorState store := store
  recordCscaAnchorState state _ := some state
  allow _ store := (true, store)
  importMasterList bytes now store :=
    (.ok ⟨UInt32.ofNat bytes.length, 1, [⟨7, none, false⟩], some now⟩, store)
  replayRefusalActive _ := false
  everyPublisherEstablished state := state.signers.all AcceptedSigner.identityEstablished
  toHex fingerprint := toString fingerprint

/-- An import of a list of three anchors. -/
def threeAnchors : ConfigRequest := .importCscaMasterList ":1.7" (.ok [1, 2, 3]) 1700000000

/-- The bus hands out a descriptor of the caller's process and its user. -/
def describedCaller : CallerFacts where
  credentials := some (((∅ : Credentials).insert "UnixUserID" (.uint32 1000)).insert "ProcessFD"
    (.unixFd 9))
  procStat _ := none

/-- The import is granted while a change of the timestamping authorities still waits; that one
is refused later. -/
def importBeforeRefusal : List (AuthorizedEvent ConfigRequest (Option CscaAnchorState)) :=
  [.call 0 (.setValue ":1.8" "TsaUrls" (.strings ["https://tsa"])) describedCaller true,
    .call 1 threeAnchors describedCaller true, .polkitReplies 1 (.checked true false), .dispatch 0,
    .enter 1, .runBody 1, .polkitReplies 0 (.checked false true), .reply 1, .dispatch 0,
    .refuse 0, .destroy 1, .destroy 0]

/-- polkit said yes to the import. -/
theorem import_was_authorized :
    (run (step (managerBodies reportLibrary)) (initially none true) importBeforeRefusal).isSome ∧
      PolkitSaidYes (managerBodies reportLibrary) (past reportLibrary none true importBeforeRefusal)
        1 threeAnchors := by
  refine ⟨by decide +kernel, ?_⟩
  have authorized := changes_serial_and_authorized reportLibrary none true importBeforeRefusal
    ((run (step (managerBodies reportLibrary)) (initially none true) importBeforeRefusal).get
      (by decide +kernel)) (Option.some_get _).symm
  exact (authorized.2.2.1 1 threeAnchors (by decide +kernel)).2.2

/-- Whenever polkit, the loop and the completions have nothing left to do, every call of a
method that changes something was answered, once: with its error where it was refused at the
entry, and by its completion otherwise.

Proof: the calls are on record, and in a quiescent state no completion is held, the gate is free
and so every completion was destroyed with its one reply. -/
theorem every_call_answered (library : ConfigLibrary φ σ) (start : σ) (posts : Bool)
    (events : List (AuthorizedEvent ConfigRequest σ))
    (state : AuthorizedService ConfigRequest (Option AnchorDict) σ)
    (reached : run (step (managerBodies library)) (initially start posts) events = some state)
    (quiescent : Quiescent (managerBodies library) state) :
    ∀ origin id request facts sent,
      (origin, .call id request facts sent) ∈ past library start posts events →
      (∃ error, (managerBodies library).entry request = some error ∧
        state.refused.filter (fun entry => entry.1 = id) = [(id, error)] ∧
        state.service.object.questions id = none) ∨
      ((managerBodies library).entry request = none ∧
        state.refused.filter (fun entry => entry.1 = id) = [] ∧
        ∃ question, state.service.object.questions id = some question ∧
          question.phase = .destroyed ∧ question.sent.length = 1) := by
  intro origin id request facts sent called
  have recorded := run_recorded (managerBodies library) start posts events state reached
  obtain ⟨⟨servicePast, serialized, _⟩, held⟩ :=
    run_authorized (managerBodies library) start posts events state reached
  cases entry : (managerBodies library).entry request with
  | some error =>
    obtain ⟨once, absent⟩ := recorded.refused origin id request facts sent error called entry
    exact .inl ⟨error, rfl, once, absent⟩
  | none =>
    obtain ⟨unrefused, asked⟩ := recorded.asked origin id request facts sent called entry
    obtain ⟨question, present⟩ := Option.isSome_iff_exists.mp asked
    have destroyed := quiescent_destroyed quiescent serialized held id question present
    have settled := Question.ledger_settled (serialized.coherent.ledgers id question present)
      (.inr destroyed)
    exact .inr ⟨rfl, unrefused, question, present, destroyed, (Question.settled_exactly settled).1⟩

/-- A caller that the bus daemon knows nothing about any more. -/
def goneCaller : CallerFacts where
  credentials := none
  procStat _ := none

/-- A key nobody knows, and a call whose caller nothing can be asked about: both are answered at
once. -/
def unaskedImport : List (AuthorizedEvent ConfigRequest (Option CscaAnchorState)) :=
  [.call 1 (.reset ":1.9" "Colour") describedCaller true, .call 0 threeAnchors goneCaller true,
    .refuse 0, .destroy 0]

/-- The question as the call leaves it. -/
def unaskedQuestion : Question (Option AnchorDict) where
  denied := "Not authorized to import country signing anchors"
  phase := .destroyed
  answered := true
  sent := [refusalReply "Not authorized to import country signing anchors" .undecided]
  outcome := some .undecided

/-- The state as the call leaves it. -/
def unaskedState : AuthorizedService ConfigRequest (Option AnchorDict) (Option CscaAnchorState) where
  service := {
    object := { questions := Function.update (fun _ => none) 0 (some unaskedQuestion) }
    asked := Function.update (fun _ => none) 0 (some threeAnchors)
    store := none }
  authorizer := { posts := true }
  refused := [(1, ⟨kErrUnknownKey, "Unknown config key: Colour"⟩)]

/-- The call that polkit was not asked about was answered, and so was the one about the unknown
key. -/
theorem unasked_import_answered :
    run (step (managerBodies reportLibrary)) (initially none true) unaskedImport =
      some unaskedState ∧ Quiescent (managerBodies reportLibrary) unaskedState ∧
      (∃ question, unaskedState.service.object.questions 0 = some question ∧
        question.phase = .destroyed ∧ question.sent.length = 1) ∧
      ∃ error, unaskedState.refused.filter (fun entry => entry.1 = 1) = [(1, error)] := by
  have reached : run (step (managerBodies reportLibrary)) (initially none true) unaskedImport =
      some unaskedState := by
    simp [unaskedImport, run, step, managerBodies, threeAnchors, initially, taken, keyRefusal,
      reportLibrary, AuthorizedService.within, authorizeAsync, subjectFor, goneCaller,
      GatedService.step, GatedService.forward, GatedObject.step, GatedObject.advance,
      Question.refuse, Question.invoke, Question.destroy, Question.answer,
      PolkitAuthorizer.holds, unaskedState, unaskedQuestion]
  have quiescent : Quiescent (managerBodies reportLibrary) unaskedState := by
    refine quiescent_of_destroyed rfl rfl ?_
    intro id question present
    by_cases first : id = 0
    · subst id
      cases Option.some.inj present
      rfl
    · simp [unaskedState, first] at present
  have called : ∀ event ∈ unaskedImport, ∃ origin,
      (origin, event) ∈ past reportLibrary none true unaskedImport := by
    intro event member
    rw [← trace_events _ _ _ _ reached] at member
    obtain ⟨⟨origin, other⟩, taken, rfl⟩ := List.mem_map.mp member
    exact ⟨origin, taken⟩
  have answered := every_call_answered reportLibrary none true unaskedImport unaskedState reached
    quiescent
  refine ⟨reached, quiescent, ?_, ?_⟩
  · obtain ⟨origin, call⟩ := called (.call 0 threeAnchors goneCaller true) (by simp [unaskedImport])
    rcases answered origin 0 threeAnchors goneCaller true call with ⟨error, refuses, -⟩ |
      ⟨-, -, question⟩
    · cases refuses
    · exact question
  · obtain ⟨origin, call⟩ := called (.call 1 (.reset ":1.9" "Colour") describedCaller true)
      (by simp [unaskedImport])
    rcases answered origin 1 _ describedCaller true call with ⟨error, -, once, -⟩ | ⟨passes, -⟩
    · exact ⟨error, once⟩
    · simp [managerBodies, keyRefusal, reportLibrary] at passes

/-! ## The anchor report -/

/-- What the configuration promises about the anchor report: it is what was recorded last, no
other operation touches it, and its key cannot be written over the bus. -/
structure LawfulReport (library : ConfigLibrary φ σ) : Prop where
  recorded : ∀ state store,
    library.cscaAnchorState (library.recordCscaAnchorState state store) = some state
  setDefaultLevel : ∀ value store,
    library.cscaAnchorState (library.setDefaultLevel value store).2 = library.cscaAnchorState store
  setTsaUrls : ∀ value store,
    library.cscaAnchorState (library.setTsaUrls value store).2 = library.cscaAnchorState store
  setTslSources : ∀ value store,
    library.cscaAnchorState (library.setTslSources value store).2 = library.cscaAnchorState store
  setDefaultReason : ∀ value store,
    library.cscaAnchorState (library.setDefaultReason value store).2 = library.cscaAnchorState store
  setDefaultLocation : ∀ value store, library.cscaAnchorState
    (library.setDefaultLocation value store).2 = library.cscaAnchorState store
  resetKey : ∀ key fromDbus store, key ≠ "CscaAnchorState" → library.cscaAnchorState
    (library.resetKey key fromDbus store).2 = library.cscaAnchorState store
  allow : ∀ sender store,
    library.cscaAnchorState (library.allow sender store).2 = library.cscaAnchorState store
  importMasterList : ∀ bytes now store, library.cscaAnchorState
    (library.importMasterList bytes now store).2 = library.cscaAnchorState store
  readOnly : library.mutability "CscaAnchorState" = some .readOnly

/-- The report that a body answered with. -/
def reported : ConfigResult → Option AnchorDict
  | .results report => report
  | _ => none

/-- The reports that the bodies of a history answered with, in order. -/
def reports (library : ConfigLibrary φ σ) (start : σ) (commands : List (Command ConfigRequest σ)) :
    List AnchorDict :=
  (GatedService.results (managerBodies library).toGrantedBodies start commands).filterMap
    (fun result => reported result.2)

/-- No change made elsewhere touches the report. -/
def Undisturbed (library : ConfigLibrary φ σ) : σ → List (Command ConfigRequest σ) → Prop
  | _, [] => True
  | store, entry :: rest =>
      (∀ changed, entry = .elsewhere changed →
        library.cscaAnchorState changed = library.cscaAnchorState store) ∧
      Undisturbed library (GatedService.serve (managerBodies library).toGrantedBodies store entry).2
        rest

/-- The report is what this import recorded, which was accepted at its place in the history. -/
def OfAccepted (library : ConfigLibrary φ σ) (start : σ) (commands : List (Command ConfigRequest σ))
    (imported : AnchorState φ) (report : AnchorDict) : Prop :=
  ∃ earlier id sender bytes now later,
    commands = earlier ++ .granted id (.importCscaMasterList sender (.ok bytes) now) :: later ∧
    (library.importMasterList bytes now (library.allow sender (after (GatedService.serve
      (managerBodies library).toGrantedBodies) start earlier)).2).1 = .ok imported ∧
    report = anchorStateDict (some (toRecordedState library imported))

section Report

variable {library : ConfigLibrary φ σ}

/-- A setter reports nothing and leaves the report alone. -/
theorem set_typed_report {α : Type} (key : String) (value : Option α)
    (setter : α → σ → SetResult × σ) (store : σ)
    (kept : ∀ typed, library.cscaAnchorState (setter typed store).2 =
      library.cscaAnchorState store) :
    reported (setTyped key value setter store).1 = none ∧
      library.cscaAnchorState (setTyped key value setter store).2 =
        library.cscaAnchorState store := by
  cases value with
  | none => exact ⟨rfl, rfl⟩
  | some typed =>
    refine ⟨?_, kept typed⟩
    simp only [setTyped, setResult]
    split <;> rfl

/-- A value that was set reports nothing and leaves the report alone. -/
theorem set_value_report (lawful : LawfulReport library) (key : String) (value : ConfigValue)
    (store : σ) :
    reported (setValueGranted library key value store).1 = none ∧
      library.cscaAnchorState (setValueGranted library key value store).2 =
        library.cscaAnchorState store := by
  unfold setValueGranted
  split
  · exact set_typed_report key _ _ store (lawful.setDefaultLevel · store)
  split
  · exact set_typed_report key _ _ store (lawful.setTsaUrls · store)
  split
  · exact set_typed_report key _ _ store (lawful.setTslSources · store)
  split
  · exact set_typed_report key _ _ store (lawful.setDefaultReason · store)
  split
  · exact set_typed_report key _ _ store (lawful.setDefaultLocation · store)
  · exact ⟨rfl, rfl⟩

/-- An import reports what it recorded, or reports nothing and records nothing. -/
theorem import_report (lawful : LawfulReport library) (sender : String) (masterList : DocumentRead)
    (now : Int) (store : σ) :
    (∃ bytes imported, masterList = .ok bytes ∧
      (library.importMasterList bytes now (library.allow sender store).2).1 = .ok imported ∧
      reported (importCscaMasterListGranted library sender masterList now store).1 =
        some (anchorStateDict (some (toRecordedState library imported))) ∧
      library.cscaAnchorState
        (importCscaMasterListGranted library sender masterList now store).2 =
        some (toRecordedState library imported)) ∨
    (reported (importCscaMasterListGranted library sender masterList now store).1 = none ∧
      library.cscaAnchorState
        (importCscaMasterListGranted library sender masterList now store).2 =
        library.cscaAnchorState store) := by
  unfold importCscaMasterListGranted
  simp only
  split
  · exact .inr ⟨rfl, lawful.allow sender store⟩
  split
  · exact .inr ⟨rfl, lawful.allow sender store⟩
  · exact .inr ⟨rfl, lawful.allow sender store⟩
  · exact .inr ⟨rfl, lawful.allow sender store⟩
  · rename_i bytes
    split
    · exact .inr ⟨rfl, (lawful.importMasterList _ _ _).trans (lawful.allow sender store)⟩
    · rename_i imported accepted
      exact .inl ⟨bytes, imported, rfl, accepted, rfl, lawful.recorded _ _⟩

/-- A granted body leaves the report it answered with, or the one it found. -/
theorem granted_report (lawful : LawfulReport library) (request : ConfigRequest) (store : σ)
    (passed : (managerBodies library).entry request = none) :
    cscaAnchorStateProperty library ((managerBodies library).granted request store).2 =
      (reported ((managerBodies library).granted request store).1).getD
        (cscaAnchorStateProperty library store) := by
  unfold cscaAnchorStateProperty
  cases request with
  | setValue sender key value =>
    obtain ⟨silent, kept⟩ := set_value_report lawful key value store
    simp only [managerBodies, silent, kept, Option.getD_none]
  | reset sender key =>
    have other : key ≠ "CscaAnchorState" := by
      rintro rfl
      simp [managerBodies, keyRefusal, lawful.readOnly] at passed
    have kept := lawful.resetKey key true store other
    simp only [managerBodies, resetGranted, setResult, kept]
    split <;> rfl
  | importCscaMasterList sender masterList now =>
    rcases import_report lawful sender masterList now store with
      ⟨_, imported, _, _, answered, remembered⟩ | ⟨silent, kept⟩
    · simp only [managerBodies, answered, remembered, Option.getD_some]
    · simp only [managerBodies, silent, kept, Option.getD_none]

/-- After a history the property serves the last report a body answered with.

Induct over the history: a body that answers with a report replaces the one served before, and
every other entry leaves it. -/
theorem last_report (lawful : LawfulReport library) (commands : List (Command ConfigRequest σ))
    (start : σ) (undisturbed : Undisturbed library start commands)
    (passed : ∀ id request, .granted id request ∈ commands →
      (managerBodies library).entry request = none) :
    cscaAnchorStateProperty library
        (after (GatedService.serve (managerBodies library).toGrantedBodies) start commands) =
      (reports library start commands).getLast?.getD (cscaAnchorStateProperty library start) := by
  induction commands generalizing start with
  | nil => rfl
  | cons entry rest inductionHypothesis =>
    obtain ⟨here, later⟩ := undisturbed
    have onwards := inductionHypothesis _ later
      (fun id request member => passed id request (List.mem_cons_of_mem _ member))
    cases entry with
    | elsewhere changed =>
      have same : cscaAnchorStateProperty library changed = cscaAnchorStateProperty library start :=
        congrArg anchorStateDict (here changed rfl)
      exact onwards.trans (congrArg _ same)
    | granted id request =>
      have body := granted_report lawful request start (passed id request List.mem_cons_self)
      refine onwards.trans ?_
      change _ = (List.filterMap _ ((id, _) :: _)).getLast?.getD _
      rw [List.filterMap_cons]
      simp only [GatedService.serve, body]
      cases reported ((managerBodies library).granted request start).1 with
      | none => rfl
      | some report =>
        simp only [List.getLast?_cons, Option.getD_some]
        rfl

/-- Each report is that of an import that was accepted.

Induct over the history, from the store each entry finds. -/
theorem report_accepted (lawful : LawfulReport library)
    (commands : List (Command ConfigRequest σ)) (start : σ) (report : AnchorDict)
    (member : report ∈ reports library start commands) :
    ∃ imported, OfAccepted library start commands imported report := by
  induction commands generalizing start with
  | nil => cases member
  | cons entry rest inductionHypothesis =>
    have onwards : report ∈ reports library
        (GatedService.serve (managerBodies library).toGrantedBodies start entry).2 rest →
        ∃ imported, OfAccepted library start (entry :: rest) imported report := by
      intro found
      obtain ⟨imported, earlier, id, sender, bytes, now, later, split, accepted, same⟩ :=
        inductionHypothesis _ found
      exact ⟨imported, entry :: earlier, id, sender, bytes, now, later, by rw [split]; rfl, accepted,
        same⟩
    cases entry with
    | elsewhere changed => exact onwards member
    | granted id request =>
      obtain ⟨result, listed, answered⟩ := List.mem_filterMap.mp member
      rcases List.mem_cons.mp listed with rfl | later
      · cases request with
        | setValue sender key value =>
          have silent := (set_value_report lawful key value start).1
          cases silent.symm.trans answered
        | reset sender key =>
          simp only [managerBodies, resetGranted, setResult] at answered
          split at answered <;> cases answered
        | importCscaMasterList sender masterList now =>
          rcases import_report lawful sender masterList now start with
            ⟨bytes, imported, rfl, accepted, told, _⟩ | ⟨silent, _⟩
          · exact ⟨imported, [], id, sender, bytes, now, rest, rfl, accepted,
              Option.some.inj (answered.symm.trans told)⟩
          · cases silent.symm.trans answered
      · exact onwards (List.mem_filterMap.mpr ⟨result, later, answered⟩)

/-- A member inserted under a condition is found under its own key only. -/
theorem lookup_insertSome (key other : String) (value : Option AnchorValue) (dict : AnchorDict) :
    (insertSome key value dict).lookup other =
      if other = key then value.or (dict.lookup key) else dict.lookup other := by
  cases value with
  | none =>
    by_cases same : other = key
    · subst other
      simp [insertSome]
    · simp [insertSome, same]
  | some present =>
    by_cases same : other = key
    · subst other
      simp [insertSome]
    · simp [insertSome, same, Finmap.lookup_insert_of_ne]

/-- A report names a publisher exactly where one publisher was taken in. -/
theorem report_signer (imported : AnchorState φ) (text : String)
    (named : (anchorStateDict (some (toRecordedState library imported))).lookup "signer" =
      some (.string text)) :
    ∃ only, imported.signers = [only] ∧ text = library.toHex only.fingerprint := by
  simp only [anchorStateDict, lookup_insertSome, Finmap.lookup_insert_of_ne, ne_eq,
    String.reduceEq, not_false_eq_true, if_false, if_true, Finmap.lookup_empty,
    Option.or_none] at named
  split at named
  · cases named
  · simp only [Option.some.injEq, AnchorValue.string.injEq] at named
    cases single : onlySigner imported.signers with
    | none =>
      rename_i nonempty
      simp [toRecordedState, single] at nonempty
    | some only =>
      refine ⟨only, ?_, ?_⟩
      · unfold onlySigner at single
        split at single
        · rename_i signers
          rw [signers, Option.some.inj single]
        · cases single
      · rw [← named]
        simp [toRecordedState, single]

/-- A report always says whether every publisher was established. -/
theorem report_pinned (imported : AnchorState φ) :
    (anchorStateDict (some (toRecordedState library imported))).lookup "signerPinned" =
      some (.boolean (library.everyPublisherEstablished imported)) := by
  simp only [anchorStateDict, lookup_insertSome, Finmap.lookup_insert_of_ne, ne_eq,
    String.reduceEq, not_false_eq_true, if_false, Finmap.lookup_insert, toRecordedState]

end Report

/-- What is true of a report a client can be shown. It is the record of this import, which was
accepted; it names a publisher only if exactly one was taken in by it, and it says that the
publisher is established only if the library says so of all of them. -/
structure Truthful (library : ConfigLibrary φ σ) (start : σ)
    (commands : List (Command ConfigRequest σ)) (imported : AnchorState φ) (report : AnchorDict) :
    Prop where
  accepted : OfAccepted library start commands imported report
  signer : ∀ text, report.lookup "signer" = some (.string text) →
    ∃ only, imported.signers = [only] ∧ text = library.toHex only.fingerprint
  pinned : report.lookup "signerPinned" = some (.boolean true) →
    library.everyPublisherEstablished imported = true

/-- In every run the `CscaAnchorState` property serves the reply of the last import that was
accepted, or what the store held at first, as long as no other part of the agent writes the record
of the store; no other method, refused import or change of another key touches it. Every reply
with a report is one of these, and each of them is truthful. -/
theorem report_is_last_accepted (library : ConfigLibrary φ σ) (lawful : LawfulReport library)
    (start : σ) (posts : Bool) (events : List (AuthorizedEvent ConfigRequest σ))
    (state : AuthorizedService ConfigRequest (Option AnchorDict) σ)
    (reached : run (step (managerBodies library)) (initially start posts) events = some state)
    (undisturbed : Undisturbed library start (commands library start posts events)) :
    cscaAnchorStateProperty library state.service.store =
      (reports library start (commands library start posts events)).getLast?.getD
        (cscaAnchorStateProperty library start) ∧
    (∀ report ∈ reports library start (commands library start posts events), ∃ imported,
      Truthful library start (commands library start posts events) imported report) ∧
    (∀ id question report, state.service.object.questions id = some question →
      question.sent = [.results (some report)] →
      report ∈ reports library start (commands library start posts events)) := by
  obtain ⟨serial, held⟩ :=
    run_authorized (managerBodies library) start posts events state reached
  have approvals := granted_approved (managerBodies library) start _ _ state serial held
  obtain ⟨servicePast, serialized, same⟩ := serial
  change _ = commands library start posts events at same
  refine ⟨?_, ?_, ?_⟩
  · rw [serialized.store, same]
    exact last_report lawful _ start undisturbed
      (fun id request member => (approvals id request member).saidYes.1)
  · intro report member
    obtain ⟨imported, accepted⟩ := report_accepted lawful _ start report member
    have ⟨_, _, _, _, _, _, _, _, told⟩ := accepted
    refine ⟨imported, accepted, fun text named => ?_, fun pinned => ?_⟩
    · exact report_signer imported text (told ▸ named)
    · rw [told, report_pinned] at pinned
      simpa using pinned
  · intro id question report present sent
    have ended := Question.sent_ended (serialized.coherent.ledgers id question present)
      (by simp [sent])
    rcases GatedService.settled_reply _ start servicePast state.service serialized id question
      present ended with ⟨_, result, member, answered⟩ | ⟨_, _, name, message, refused⟩
    · rw [same] at member
      refine List.mem_filterMap.mpr ⟨(id, result), member, ?_⟩
      cases result with
      | results values =>
        simp only [sent, replyWith, List.cons.injEq, Reply.results.injEq, and_true] at answered
        exact answered.symm
      | busError name message => simp [sent, replyWith] at answered
      | exception what => simp [sent, replyWith] at answered
    · simp [sent] at refused

/-- The store that holds the report and nothing else is lawful. -/
theorem report_library_lawful : LawfulReport reportLibrary where
  recorded _ _ := rfl
  setDefaultLevel _ _ := rfl
  setTsaUrls _ _ := rfl
  setTslSources _ _ := rfl
  setDefaultReason _ _ := rfl
  setDefaultLocation _ _ := rfl
  resetKey _ _ _ _ := rfl
  allow _ _ := rfl
  importMasterList _ _ _ := rfl
  readOnly := rfl

/-- After the import the property names its one publisher. -/
theorem imported_publisher_shown :
    ∃ state, run (step (managerBodies reportLibrary)) (initially none true) importBeforeRefusal =
        some state ∧
      (cscaAnchorStateProperty reportLibrary state.service.store).lookup "signer" =
        some (.string "7") := by
  refine ⟨(run (step (managerBodies reportLibrary)) (initially none true) importBeforeRefusal).get
    (by decide +kernel), (Option.some_get _).symm, ?_⟩
  have sequential : commands reportLibrary none true importBeforeRefusal =
      [.granted 1 threeAnchors] := by decide +kernel
  rw [(report_is_last_accepted reportLibrary report_library_lawful none true importBeforeRefusal _
    (Option.some_get _).symm (by rw [sequential]; exact ⟨by simp, trivial⟩)).1, sequential]
  decide +kernel

end Configuration

end LibreLinux.Agent
