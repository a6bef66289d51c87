import LibreLinux.Wire.Variant

/-!
# Operation results and their wire shapes

A typed operation ends with a payload: identity groups, certificates, photos, a
signed artifact, the rows of a signing batch, or a credential outcome with its
records. The inline payloads are turned into wire values by one builder each,
which the result signal and the recovery call share. The names of key types
belong to the agent library and enter as a function.
-/

namespace LibreLinux.Results

open Wire (Variant Dict)
open Maps (emplace)

/-- Raw bytes. -/
abbrev Bytes := List UInt8

/-- The type of an identity field. -/
inductive FieldType where
  | text
  | date
  | binary
  | photo
deriving DecidableEq, Repr

/-- One identity or certificate field. -/
structure FieldSnapshot where
  fieldKey : String
  labelKey : String := ""
  labelFallback : String := ""
  type : FieldType := .text
  textValue : String := ""
  binaryValue : Bytes := []
deriving DecidableEq, Repr

/-- A group of fields. -/
structure GroupSnapshot where
  groupKey : String
  fields : List FieldSnapshot
deriving DecidableEq, Repr

/-- What one read of a card found. -/
structure CardReadSnapshot where
  groups : List GroupSnapshot := []
deriving DecidableEq, Repr

/-- The field types' words. -/
def fieldTypeWire : FieldType → String
  | .text => "text"
  | .date => "date"
  | .binary => "binary"
  | .photo => "photo"

/-- An identity cell: label key, label, type word, value. -/
abbrev IdentityCell := String × String × String × Variant

/-- One group on the wire. -/
abbrev Identity1GroupFieldsWire := Finmap (fun _ : String => IdentityCell)

/-- All groups on the wire. -/
abbrev Identity1Wire := Finmap (fun _ : String => Identity1GroupFieldsWire)

/-- One field's cell. -/
def identityCell (field : FieldSnapshot) : IdentityCell :=
  (field.labelKey, field.labelFallback, fieldTypeWire field.type,
    if field.type = .text ∨ field.type = .date then .string field.textValue
    else .bytes field.binaryValue)

/-- A group's field map. Photos travel on their own; a repeated key is
overwritten. -/
def buildIdentity1GroupWire (group : GroupSnapshot) : Identity1GroupFieldsWire :=
  group.fields.foldl (fun wire field =>
    if field.type = .photo then wire else wire.insert field.fieldKey (identityCell field)) ∅

/-- The group map. A group without any field on the wire is left out; a repeated
group key is overwritten. -/
def buildIdentity1Wire (snapshot : CardReadSnapshot) : Identity1Wire :=
  snapshot.groups.foldl (fun wire group =>
    let fields := buildIdentity1GroupWire group
    if fields = ∅ then wire else wire.insert group.groupKey fields) ∅

/-- A parsed certificate. -/
structure CertSnapshot (κ : Type) where
  certId : String
  signingCapable : Bool
  fields : List GroupSnapshot
  keyUsageBits : UInt32
  ekuOids : List String
  chainSubjectCns : List String
  trustStatus : UInt32
  alwaysAuthenticate : Bool
  keyId : Bytes
  keyType : κ
  keyBits : UInt32
  canDerive : Bool

/-- A certificate field: label key, label, value. -/
abbrev CertificateCell := String × String × Variant

/-- A certificate's fields by group and key. -/
abbrev Certificates1FieldMap := Finmap (fun _ : String => Finmap (fun _ : String => CertificateCell))

/-- A certificate on the wire. -/
structure Certificates1CertTuple where
  certId : String
  signingCapable : Bool
  fields : Certificates1FieldMap
  keyUsageBits : UInt32
  ekuOids : List String
  chainSubjectCns : List String
  trustStatus : UInt32
  alwaysAuthenticate : Bool
  keyId : Bytes
  keyType : String
  keyBits : UInt32
  canDerive : Bool
deriving DecidableEq

/-- The certificate list on the wire. -/
abbrev Certificates1Wire := List Certificates1CertTuple

/-- Store a group's fields into the group's map, which an earlier group of the
same key may have begun. -/
def certificateGroup (fields : Certificates1FieldMap) (group : GroupSnapshot) :
    Certificates1FieldMap :=
  fields.insert group.groupKey
    (group.fields.foldl (fun map field =>
      map.insert field.fieldKey (field.labelKey, field.labelFallback, .string field.textValue))
      ((fields.lookup group.groupKey).getD ∅))

/-- The certificates' wire value. -/
def buildCertificates1Wire {κ : Type} (keyTypeToken : κ → String) (certs : List (CertSnapshot κ)) :
    Certificates1Wire :=
  certs.map (fun cert =>
    { certId := cert.certId
      signingCapable := cert.signingCapable
      fields := cert.fields.foldl certificateGroup ∅
      keyUsageBits := cert.keyUsageBits
      ekuOids := cert.ekuOids
      chainSubjectCns := cert.chainSubjectCns
      trustStatus := cert.trustStatus
      alwaysAuthenticate := cert.alwaysAuthenticate
      keyId := cert.keyId
      keyType := keyTypeToken cert.keyType
      keyBits := cert.keyBits
      canDerive := cert.canDerive })

/-- One photo, keyed by its group and field. -/
structure Photo where
  key : String
  bytes : Bytes
deriving DecidableEq, Repr

/-- The photos of one read. -/
abbrev PhotoResult := List Photo

/-- What a signature was made with. -/
structure SignMeta where
  format : String := ""
  level : String := ""
  tsaUsed : Bool := false
  chainComplete : Bool := false
deriving DecidableEq, Repr

/-- A signed document. -/
structure SignedArtifact where
  bytes : Bytes := []
  info : SignMeta := {}
deriving DecidableEq, Repr

/-- One row of a signing batch. A failed row has no bytes. -/
structure BatchSignRow where
  displayName : String
  bytes : Bytes
  info : SignMeta
  code : UInt32
deriving DecidableEq, Repr

/-- The rows of a batch, in request order. -/
abbrev BatchSignResult := List BatchSignRow

/-- An entry that is always written. -/
def emplaceEntry (key : String) (value : Variant) (dict : Dict) : Dict := emplace dict key value

/-- A signature's metadata on the wire. -/
def toMetaVariants (info : SignMeta) : Dict :=
  (∅ : Dict)
    |> emplaceEntry "format" (.string info.format)
    |> emplaceEntry "level" (.string info.level)
    |> emplaceEntry "tsaUsed" (.boolean info.tsaUsed)
    |> emplaceEntry "chainComplete" (.boolean info.chainComplete)

/-- How a credential operation ended. -/
inductive CredentialOutcome where
  | unspecified
  | ok
  | userCancelled
  | missingFields
  | invalidPin
  | blocked
  | pluginError
  | unsupported
  | keyActivationFailed
  | cardRemoved
  | entryExpired
deriving DecidableEq, Repr

/-- The outcomes' words. -/
def credentialOutcomeToken : CredentialOutcome → String
  | .unspecified => "unspecified"
  | .ok => "ok"
  | .userCancelled => "userCancelled"
  | .missingFields => "missingFields"
  | .invalidPin => "invalidPin"
  | .blocked => "blocked"
  | .pluginError => "pluginError"
  | .unsupported => "unsupported"
  | .keyActivationFailed => "keyActivationFailed"
  | .cardRemoved => "cardRemoved"
  | .entryExpired => "entryExpired"

/-- The uniform part of a credential result. -/
structure CredentialOpResult where
  outcome : CredentialOutcome := .unspecified
  blocked : Bool := false
  retriesLeft : Option Int := none
deriving DecidableEq, Repr

/-- One credential of a card. -/
structure CredentialRecord where
  id : String
  label : String
  kind : String
  state : String
  retriesLeft : Option Int := none
  retriesMax : Option Int := none
  usesLeft : Option Int := none
  usesMax : Option Int := none
  unblocksLeft : Option Int := none
  canChange : Bool := false
  unblockable : Bool := false
  activatable : Bool := false
  keyActivationPending : Bool := false
  keyActivatable : Bool := false
  recovery : String := ""
  blockedGuidanceKey : Option String := none
  blockedGuidanceFallback : Option String := none
  keyActivationGuidanceKey : Option String := none
  keyActivationGuidanceFallback : Option String := none
deriving DecidableEq, Repr

/-- A credential result: the outcome and the records after it. -/
structure CredentialResult where
  op : CredentialOpResult := {}
  records : List CredentialRecord := []
deriving DecidableEq, Repr

/-- An optional integer entry, omitted when absent. -/
def emplaceInt (key : String) (value : Option Int) (dict : Dict) : Dict :=
  value.elim dict (fun value => emplace dict key (.int32 value))

/-- An optional string entry, omitted when absent. -/
def emplaceStr (key : String) (value : Option String) (dict : Dict) : Dict :=
  value.elim dict (fun value => emplace dict key (.string value))

/-- The outcome on the wire; the retries are omitted when unknown. -/
def toCredentialResultDict (op : CredentialOpResult) : Dict :=
  (∅ : Dict)
    |> emplaceEntry "outcome" (.string (credentialOutcomeToken op.outcome))
    |> emplaceEntry "blocked" (.boolean op.blocked)
    |> emplaceInt "retries_left" op.retriesLeft

/-- One record on the wire. -/
def toCredentialRecordDict (record : CredentialRecord) : Dict :=
  (∅ : Dict)
    |> emplaceEntry "id" (.string record.id)
    |> emplaceEntry "label" (.string record.label)
    |> emplaceEntry "kind" (.string record.kind)
    |> emplaceEntry "state" (.string record.state)
    |> emplaceInt "retries_left" record.retriesLeft
    |> emplaceInt "retries_max" record.retriesMax
    |> emplaceInt "uses_left" record.usesLeft
    |> emplaceInt "uses_max" record.usesMax
    |> emplaceInt "unblocks_left" record.unblocksLeft
    |> emplaceEntry "can_change" (.boolean record.canChange)
    |> emplaceEntry "unblockable" (.boolean record.unblockable)
    |> emplaceEntry "activatable" (.boolean record.activatable)
    |> emplaceEntry "key_activation_pending" (.boolean record.keyActivationPending)
    |> emplaceEntry "key_activatable" (.boolean record.keyActivatable)
    |> emplaceEntry "recovery" (.string record.recovery)
    |> emplaceStr "blocked_guidance_key" record.blockedGuidanceKey
    |> emplaceStr "blocked_guidance_fallback" record.blockedGuidanceFallback
    |> emplaceStr "key_activation_guidance_key" record.keyActivationGuidanceKey
    |> emplaceStr "key_activation_guidance_fallback" record.keyActivationGuidanceFallback

/-- The records on the wire. -/
def toCredentialRecordsWire (records : List CredentialRecord) : List Dict :=
  records.map toCredentialRecordDict

/-- The credential result's wire value. -/
abbrev Credentials1Wire := Dict × List Dict

/-- The outcome with the records. -/
def buildCredentials1Wire (result : CredentialResult) : Credentials1Wire :=
  (toCredentialResultDict result.op, toCredentialRecordsWire result.records)

end LibreLinux.Results
