import LibreLinux.Wire.Variant

/-!
# Prompt options on the wire

The agent writes a request's options into a dictionary, omitting every entry
that holds its default; the prompter reads them back with its own fallbacks,
narrowing each length to a signed integer and raising a maximum that fell below
its minimum. The two sides live in different binaries and share only the keys.
The words of the status and interface vocabularies belong to the agent library
and enter as parameters.
-/

namespace LibreLinux.Wire

/-- How a reader reaches its card; the agent library's closed vocabulary. -/
inductive ReaderInterface where
  | unknown
  | contact
  | contactless
deriving DecidableEq, Repr

/-- The reply statuses of the agent library's prompter vocabulary. -/
inductive PromptReplyStatus where
  | ok
  | okMrz
  | cancelled
  | timeout
  | error
  | unauthorized
deriving DecidableEq, Repr

/-- What a prompt ended with, as the agent's own callers see it. -/
inductive PromptStatus where
  | ok
  | cancelled
  | timeout
  | error
  | helperTooOld
deriving DecidableEq, Repr

/-- The agent library's functions this boundary calls. Their code is not part
of this tree. -/
structure Vocabulary where
  replyStatusToken : PromptReplyStatus → String
  replyStatusFromToken : String → Option PromptReplyStatus
  promptStatusFor : PromptReplyStatus → Bool → PromptStatus
  readerInterfaceToken : ReaderInterface → String
  readerInterfaceFromToken : String → Option ReaderInterface

/-- What both binaries rely on: tokens round-trip, an absent interface token is
unknown, and the MRZ success word is a success only where it was offered. -/
structure Vocabulary.Lawful (vocabulary : Vocabulary) : Prop where
  statusRoundTrip : ∀ status,
    vocabulary.replyStatusFromToken (vocabulary.replyStatusToken status) = some status
  interfaceRoundTrip : ∀ iface,
    vocabulary.readerInterfaceFromToken (vocabulary.readerInterfaceToken iface) = some iface
  interfaceAbsent : (vocabulary.readerInterfaceFromToken "").getD .unknown = .unknown
  okMrzOffered : ∀ offered, vocabulary.promptStatusFor .okMrz offered = .ok → offered = true

/-- The vocabulary as the agent library's documentation and this tree's tests
spell it. -/
def agentVocabulary : Vocabulary where
  replyStatusToken
    | .ok => "ok"
    | .okMrz => "ok_mrz"
    | .cancelled => "cancelled"
    | .timeout => "timeout"
    | .error => "error"
    | .unauthorized => "unauthorized"
  replyStatusFromToken token :=
    if token = "ok" then some .ok
    else if token = "ok_mrz" then some .okMrz
    else if token = "cancelled" then some .cancelled
    else if token = "timeout" then some .timeout
    else if token = "error" then some .error
    else if token = "unauthorized" then some .unauthorized
    else none
  promptStatusFor
    | .ok, _ => .ok
    | .okMrz, offered => if offered then .ok else .error
    | .cancelled, _ => .cancelled
    | .timeout, _ => .timeout
    | .error, _ => .error
    | .unauthorized, _ => .error
  readerInterfaceToken
    | .unknown => "unknown"
    | .contact => "contact"
    | .contactless => "contactless"
  readerInterfaceFromToken token :=
    if token = "unknown" then some .unknown
    else if token = "contact" then some .contact
    else if token = "contactless" then some .contactless
    else none

theorem agentVocabulary_lawful : agentVocabulary.Lawful where
  statusRoundTrip := by rintro (_ | _) <;> decide
  interfaceRoundTrip := by rintro (_ | _) <;> decide
  interfaceAbsent := by decide
  okMrzOffered := by decide

/-! The secret-kind words. -/

def kKindPin : String := "pin"
def kKindCan : String := "can"
def kKindMrz : String := "mrz"
def kKindChangePin : String := "change_pin"

/-! The option keys shared by the two binaries. -/

def kOptPromptId : String := "prompt_id"
def kOptDeadlineMs : String := "deadline_ms"
def kOptReaderModel : String := "reader_model"
def kOptReaderInterface : String := "reader_interface"
def kOptReaderFull : String := "reader_full"
def kOptTitle : String := "title"
def kOptDescription : String := "description"
def kOptRequester : String := "requester"
def kOptArtifact : String := "artifact"
def kOptArtifacts : String := "artifacts"
def kOptMinLength : String := "min_length"
def kOptMaxLength : String := "max_length"
def kOptAttempt : String := "attempt"
def kOptLastError : String := "last_error"
def kOptAltKinds : String := "alt_kinds"
def kOptAltDeadlineMs : String := "alt_deadline_ms"
def kOptPrimaryMinLength : String := "primary_min_length"
def kOptPrimaryMaxLength : String := "primary_max_length"
def kOptNewMinLength : String := "new_min_length"
def kOptNewMaxLength : String := "new_max_length"
def kOptCardLabel : String := "card_label"
def kOptPinLabel : String := "pin_label"

/-- The reader a prompt belongs to, as the agent's roster names it. -/
structure ReaderIdentity where
  model : String := ""
  iface : ReaderInterface := .unknown
  full : String := ""
deriving DecidableEq, Repr

/-- The options an agent caller sets on a prompt. -/
structure PromptOptions where
  promptId : String := ""
  deadlineMs : UInt32 := 0
  reader : ReaderIdentity := {}
  title : String := ""
  description : String := ""
  requester : String := ""
  artifact : String := ""
  artifacts : List String := []
  minLength : UInt32 := 0
  maxLength : UInt32 := 0
  attempt : UInt32 := 0
  lastError : String := ""
  altKinds : List String := []
  altDeadlineMs : UInt32 := 0
  cardLabel : String := ""
  pinLabel : String := ""
deriving DecidableEq, Repr

open Maps (emplaceIf)

/-- The agent's optional string entry: omitted when empty. -/
def emplaceText (key text : String) (dict : Dict) : Dict :=
  emplaceIf (decide (text ≠ "")) key (.string text) dict

/-- The agent's optional list entry: omitted when empty. -/
def emplaceTexts (key : String) (texts : List String) (dict : Dict) : Dict :=
  emplaceIf (decide (texts ≠ [])) key (.strings texts) dict

/-- The agent's optional number: omitted at zero. -/
def emplaceNumber (key : String) (value : UInt32) (dict : Dict) : Dict :=
  emplaceIf (decide (0 < value)) key (.uint32 value) dict

/-- The reader's identity, each key omitted when it says nothing. -/
def emplaceReaderIdentity (vocabulary : Vocabulary) (options : PromptOptions) (dict : Dict) : Dict :=
  dict
    |> emplaceText kOptReaderModel options.reader.model
    |> emplaceIf (decide (options.reader.iface ≠ .unknown)) kOptReaderInterface
      (.string (vocabulary.readerInterfaceToken options.reader.iface))
    |> emplaceText kOptReaderFull options.reader.full

/-- The dictionary of a single-secret request. -/
def buildOptionsDict (vocabulary : Vocabulary) (options : PromptOptions) : Dict :=
  (∅ : Dict)
    |> emplaceText kOptPromptId options.promptId
    |> emplaceNumber kOptDeadlineMs options.deadlineMs
    |> emplaceReaderIdentity vocabulary options
    |> emplaceText kOptTitle options.title
    |> emplaceText kOptDescription options.description
    |> emplaceText kOptRequester options.requester
    |> emplaceText kOptArtifact options.artifact
    |> emplaceTexts kOptArtifacts options.artifacts
    |> emplaceNumber kOptMinLength options.minLength
    |> emplaceNumber kOptMaxLength options.maxLength
    |> emplaceNumber kOptAttempt options.attempt
    |> emplaceText kOptLastError options.lastError
    |> emplaceTexts kOptAltKinds options.altKinds
    |> emplaceNumber kOptAltDeadlineMs options.altDeadlineMs

/-- The dictionary of a PIN change. The one pair of bounds is written for both
roles; the single-secret bounds are not sent. -/
def buildChangePinOptionsDict (vocabulary : Vocabulary) (options : PromptOptions) : Dict :=
  (∅ : Dict)
    |> emplaceText kOptPromptId options.promptId
    |> emplaceNumber kOptDeadlineMs options.deadlineMs
    |> emplaceReaderIdentity vocabulary options
    |> emplaceText kOptTitle options.title
    |> emplaceText kOptDescription options.description
    |> emplaceText kOptRequester options.requester
    |> emplaceText kOptArtifact options.artifact
    |> emplaceText kOptCardLabel options.cardLabel
    |> emplaceText kOptPinLabel options.pinLabel
    |> emplaceNumber kOptPrimaryMinLength options.minLength
    |> emplaceNumber kOptNewMinLength options.minLength
    |> emplaceNumber kOptPrimaryMaxLength options.maxLength
    |> emplaceNumber kOptNewMaxLength options.maxLength

/-- Lift a string; a missing or mistyped entry is empty. -/
def optionString (opts : Dict) (key : String) : String :=
  ((opts.lookup key).bind Variant.getString).getD ""

/-- Lift a list of strings; a missing or mistyped entry is empty. -/
def optionStringList (opts : Dict) (key : String) : List String :=
  ((opts.lookup key).bind Variant.getStrings).getD []

/-- Lift a number; a missing or mistyped entry is the fallback. -/
def optionUInt (opts : Dict) (key : String) (fallback : UInt32) : UInt32 :=
  ((opts.lookup key).bind Variant.getUInt32).getD fallback

/-- The display options and bounds of one dialog. -/
structure DialogOptions where
  title : String := ""
  description : String := ""
  requester : String := ""
  artifact : String := ""
  artifacts : List String := []
  minLength : Int := 4
  maxLength : Int := 8
  attempt : Int := 0
  lastError : String := ""
  altKinds : List String := []
  offerMrzSwitch : Bool := false
  readerModel : String := ""
  readerInterface : String := ""
  readerFull : String := ""
  primaryMinLength : Int := 4
  primaryMaxLength : Int := 8
  newMinLength : Int := 4
  newMaxLength : Int := 8
  cardLabel : String := ""
  pinLabel : String := ""
deriving DecidableEq, Repr

/-- One lifted bound, narrowed to the signed type. -/
def optionLength (opts : Dict) (key : String) (fallback : UInt32) : Int :=
  staticCastInt (optionUInt opts key fallback)

/-- A maximum that fell below its minimum is raised to it. -/
def clampMax (minLength maxLength : Int) : Int :=
  if maxLength < minLength then minLength else maxLength

/-- The prompter's reading of a single-secret dictionary. -/
def buildOptions (opts : Dict) : DialogOptions where
  title := optionString opts kOptTitle
  description := optionString opts kOptDescription
  requester := optionString opts kOptRequester
  artifact := optionString opts kOptArtifact
  artifacts := optionStringList opts kOptArtifacts
  minLength := optionLength opts kOptMinLength 4
  maxLength := clampMax (optionLength opts kOptMinLength 4) (optionLength opts kOptMaxLength 8)
  attempt := staticCastInt (optionUInt opts kOptAttempt 0)
  lastError := optionString opts kOptLastError
  altKinds := optionStringList opts kOptAltKinds
  readerModel := optionString opts kOptReaderModel
  readerInterface := optionString opts kOptReaderInterface
  readerFull := optionString opts kOptReaderFull

/-- The prompter's reading of a PIN-change dictionary: the shared display
options, then a range for each role and the two labels. -/
def buildMultiOptions (opts : Dict) : DialogOptions :=
  { buildOptions opts with
    primaryMinLength := optionLength opts kOptPrimaryMinLength 4
    primaryMaxLength := clampMax (optionLength opts kOptPrimaryMinLength 4)
      (optionLength opts kOptPrimaryMaxLength 8)
    newMinLength := optionLength opts kOptNewMinLength 4
    newMaxLength := clampMax (optionLength opts kOptNewMinLength 4)
      (optionLength opts kOptNewMaxLength 8)
    cardLabel := optionString opts kOptCardLabel
    pinLabel := optionString opts kOptPinLabel }

/-- The interface a dialog reads from the token it was sent. -/
def readerInterfaceOf (vocabulary : Vocabulary) (token : String) : ReaderInterface :=
  (vocabulary.readerInterfaceFromToken token).getD .unknown

end LibreLinux.Wire
