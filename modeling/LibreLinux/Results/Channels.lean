import LibreLinux.Results.Store

/-!
# Result channels

A channel delivers an operation's payload: it publishes its recovery store and
emits the result signal. The inline channels publish first and always report
success. The sealed channels seal before they publish and fail closed until the
store is ready; after that a signal that cannot be emitted is only logged. The
recovery call of a channel builds its reply from the store.

A signal or a reply that carries descriptors is recorded by what a receiver
reads from them.
-/

namespace LibreLinux.Results

open Descriptors
open Maps (emplace)

/-- A channel: its store and the signals it has sent. -/
structure Channel (P W : Type) where
  store : TypedResultState P
  signals : List W := []

/-- A channel on which nothing was delivered yet. -/
def Channel.fresh {P W : Type} (empty : P) : Channel P W := { store := { payload := empty } }

/-- What delivering a payload did: the reported status, the channel, and the
descriptors of the call. -/
structure Delivery (P W : Type) where
  status : Bool
  channel : Channel P W
  table : Sealed

/-- Emit a signal on a channel whose store was updated, unless that fails. -/
def Channel.emit {P W : Type} (channel : Channel P W) (store : TypedResultState P) (fails : Bool)
    (signal : W) : Channel P W :=
  { store, signals := if fails then channel.signals else channel.signals ++ [signal] }

section Inline

variable {P W : Type}

/-- The inline delivery of identity, certificates and credentials. Publishing may
fail without stopping the signal. -/
def inlineEmitResult (build : P → W) (faults : Faults P) (channel : Channel P W) (payload : P) :
    Delivery P W :=
  ⟨true, channel.emit (publishResult faults channel.store payload).2 faults.emit (build payload), {}⟩

/-- The inline recovery call. -/
def inlineGetResult (build : P → W) (faults : Faults P) (store : TypedResultState P) : Option W :=
  (readStoredResult faults store).map build

end Inline

/-- The identity channel. -/
def identityEmitResult : Faults CardReadSnapshot → Channel CardReadSnapshot Identity1Wire →
    CardReadSnapshot → Delivery CardReadSnapshot Identity1Wire :=
  inlineEmitResult buildIdentity1Wire

/-- The identity recovery call. -/
def identityGetResult : Faults CardReadSnapshot → TypedResultState CardReadSnapshot →
    Option Identity1Wire :=
  inlineGetResult buildIdentity1Wire

section Certificates

variable {κ : Type}

/-- The certificates channel. -/
def certificatesEmitResult (keyTypeToken : κ → String) : Faults (List (CertSnapshot κ)) →
    Channel (List (CertSnapshot κ)) Certificates1Wire → List (CertSnapshot κ) →
    Delivery (List (CertSnapshot κ)) Certificates1Wire :=
  inlineEmitResult (buildCertificates1Wire keyTypeToken)

/-- The certificates recovery call. -/
def certificatesGetResult (keyTypeToken : κ → String) : Faults (List (CertSnapshot κ)) →
    TypedResultState (List (CertSnapshot κ)) → Option Certificates1Wire :=
  inlineGetResult (buildCertificates1Wire keyTypeToken)

end Certificates

/-- The credentials channel. -/
def credentialsEmitResult : Faults CredentialResult → Channel CredentialResult Credentials1Wire →
    CredentialResult → Delivery CredentialResult Credentials1Wire :=
  inlineEmitResult buildCredentials1Wire

/-- The credentials recovery call. -/
def credentialsGetResult : Faults CredentialResult → TypedResultState CredentialResult →
    Option Credentials1Wire :=
  inlineGetResult buildCredentials1Wire

/-- What a receiver reads of a signed artifact. -/
abbrev SignView := Option Bytes × Wire.Dict

/-- The signing channel. -/
def signEmitResult (faults : Faults SignedArtifact) (channel : Channel SignedArtifact SignView)
    (artifact : SignedArtifact) (table : Sealed) : Delivery SignedArtifact SignView :=
  match publishSealedResult faults channel.store artifact table with
  | (none, store, table) => ⟨false, { channel with store }, table⟩
  | (some fd, store, table) =>
    ⟨true, channel.emit store faults.emit (table.content? fd, toMetaVariants artifact.info),
      table.adopt fd⟩

/-- The signing recovery call. -/
def signGetResult (faults : Faults SignedArtifact) (store : TypedResultState SignedArtifact)
    (table : Sealed) : Option SignView × Sealed :=
  match sealStoredResult faults store table with
  | (none, table) => (none, table)
  | (some (fd, info), table) => (some (table.content? fd, toMetaVariants info), table.adopt fd)

/-- What a receiver reads of a batch row. -/
structure BatchRowView where
  displayName : String
  bytes : Option Bytes
  info : Wire.Dict
  code : UInt32
deriving DecidableEq

/-- Read a wire row's descriptor. -/
def SignBatch1Row.view (table : Sealed) (row : SignBatch1Row) : BatchRowView :=
  ⟨row.displayName, table.content? row.fd, row.info, row.code⟩

/-- The batch channel. Once the rows are published, a wire that cannot be built
or emitted leaves the status a success. -/
def signBatchEmitResult (faults : Faults BatchSignResult)
    (channel : Channel BatchSignResult (List BatchRowView)) (rows : BatchSignResult)
    (table : Sealed) : Delivery BatchSignResult (List BatchRowView) :=
  match publishSealedSignBatchResult faults channel.store rows table with
  | (none, store, table) => ⟨false, { channel with store }, table⟩
  | (some sealed, store, table) =>
    match batchWire faults sealed table with
    | (none, table) => ⟨true, { channel with store }, table⟩
    | (some wire, table) =>
      ⟨true, channel.emit store faults.emit (wire.map (SignBatch1Row.view table)), table⟩

/-- The batch recovery call. -/
def signBatchGetResult (faults : Faults BatchSignResult) (store : TypedResultState BatchSignResult)
    (table : Sealed) : Option (List BatchRowView) × Sealed :=
  match sealStoredSignBatchResult faults store table with
  | (none, table) => (none, table)
  | (some sealed, table) =>
    match batchWire faults sealed table with
    | (none, table) => (none, table)
    | (some wire, table) => (some (wire.map (SignBatch1Row.view table)), table)

/-- Photo descriptors by key; the first of a key stays. -/
abbrev PhotoFds := Finmap (fun _ : String => Nat)

/-- What a receiver reads of a photo map. -/
abbrev PhotoView := String → Option Bytes

/-- Read every descriptor of a photo map. -/
def photoView (table : Sealed) (fds : PhotoFds) : PhotoView :=
  fun key => (fds.lookup key).bind table.content?

/-- Seal the photos that have bytes into a map of adopted descriptors. A
descriptor that finds its key taken closes itself, as does everything in the map
when a step fails. -/
def photoFds (faults : Faults PhotoResult) : Nat → PhotoResult → PhotoFds → Sealed →
    Option PhotoFds × Sealed
  | _, [], fds, table => (some fds, table)
  | index, photo :: rest, fds, table =>
    if photo.bytes = [] then photoFds faults (index + 1) rest fds table
    else
      match table.create photo.bytes (faults.sealing index) with
      | (none, table) => (none, table)
      | (some fd, table) =>
        if faults.rowCopy index then (none, table.adopt fd)
        else photoFds faults (index + 1) rest (emplace fds photo.key fd) (table.adopt fd)

/-- The photo channel. Without a photo that has bytes it delivers nothing and
reports success. -/
def photoEmitResult (faults : Faults PhotoResult) (channel : Channel PhotoResult PhotoView)
    (photos : PhotoResult) (table : Sealed) : Delivery PhotoResult PhotoView :=
  match photoFds faults 0 photos ∅ table with
  | (none, table) => ⟨false, channel, table⟩
  | (some fds, table) =>
    if fds = ∅ then ⟨true, channel, table⟩
    else
      match publishResult faults channel.store photos with
      | (false, store) => ⟨false, { channel with store }, table⟩
      | (true, store) => ⟨true, channel.emit store faults.emit (photoView table fds), table⟩

/-- Adopt the sealed photos into a map; when an insertion fails the ones not yet
adopted are closed. -/
def adoptPhotos (faults : Faults PhotoResult) : Nat → List SealedPhoto → PhotoFds → Sealed →
    Option PhotoFds × Sealed
  | _, [], fds, table => (some fds, table)
  | index, photo :: rest, fds, table =>
    if faults.wireRow index then
      (none, (table.adopt photo.fd).close (rest.map SealedPhoto.fd))
    else adoptPhotos faults (index + 1) rest (emplace fds photo.key photo.fd)
      (table.adopt photo.fd)

/-- The photo recovery call. -/
def photoGetResult (faults : Faults PhotoResult) (store : TypedResultState PhotoResult)
    (table : Sealed) : Option PhotoView × Sealed :=
  match sealStoredPhotos faults store table with
  | (none, table) => (none, table)
  | (some sealed, table) =>
    match adoptPhotos faults 0 sealed ∅ table with
    | (none, table) => (none, table)
    | (some fds, table) => (some (photoView table fds), table)

end LibreLinux.Results
