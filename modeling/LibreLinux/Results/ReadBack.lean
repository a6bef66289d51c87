import LibreLinux.Results.Recovery

/-!
# Results read back

A client knows a result only by the wire values that it is given. The readers
here say what such a client can make of them: required entries read as their
types, an optional entry whose absence is an absent value, the outcome by its
word. Reading is the inverse of the builders, so a wire value determines the
payload it was built from.

Failures do not change that. A loop that seals or adopts either gives up or ends
exactly as it does when nothing fails, so whatever a channel sends and whatever a
recovery call answers, under any failures of both, reads back as the one payload
that was delivered. A torn store is never served. Photos none of which has bytes
are the one payload that a channel takes without sending or keeping anything.
-/

namespace LibreLinux.Results

open Descriptors
open Wire (Variant Dict)
open Maps (emplace emplaceEach firstOf lookup_emplaceEach)

section Readers

/-- Read a variant as a signed 32-bit number. -/
def getInt : Variant → Option Int
  | .int32 value => some value
  | _ => none

/-- Read an entry that has to be there. -/
def required {α : Type} (get : Variant → Option α) (dict : Dict) (key : String) : Option α :=
  (dict.lookup key).bind get

/-- Read an entry that may be left out; one of another type is an error. -/
def optional {α : Type} (get : Variant → Option α) (dict : Dict) (key : String) :
    Option (Option α) :=
  match dict.lookup key with
  | none => some none
  | some value => (get value).map some

/-- Read an outcome by its word. -/
def readOutcome (word : String) : Option CredentialOutcome :=
  [.unspecified, .ok, .userCancelled, .missingFields, .invalidPin, .blocked, .pluginError,
    .unsupported, .keyActivationFailed, .cardRemoved, .entryExpired].find?
    (fun outcome => credentialOutcomeToken outcome = word)

/-- Read the uniform part of a credential result. -/
def readCredentialOp (dict : Dict) : Option CredentialOpResult := do
  let word ← required Variant.getString dict "outcome"
  let outcome ← readOutcome word
  let blocked ← required Variant.getBool dict "blocked"
  let retriesLeft ← optional getInt dict "retries_left"
  return { outcome, blocked, retriesLeft }

/-- Read one credential record. -/
def readCredentialRecord (dict : Dict) : Option CredentialRecord := do
  let id ← required Variant.getString dict "id"
  let label ← required Variant.getString dict "label"
  let kind ← required Variant.getString dict "kind"
  let state ← required Variant.getString dict "state"
  let retriesLeft ← optional getInt dict "retries_left"
  let retriesMax ← optional getInt dict "retries_max"
  let usesLeft ← optional getInt dict "uses_left"
  let usesMax ← optional getInt dict "uses_max"
  let unblocksLeft ← optional getInt dict "unblocks_left"
  let canChange ← required Variant.getBool dict "can_change"
  let unblockable ← required Variant.getBool dict "unblockable"
  let activatable ← required Variant.getBool dict "activatable"
  let keyActivationPending ← required Variant.getBool dict "key_activation_pending"
  let keyActivatable ← required Variant.getBool dict "key_activatable"
  let recovery ← required Variant.getString dict "recovery"
  let blockedGuidanceKey ← optional Variant.getString dict "blocked_guidance_key"
  let blockedGuidanceFallback ← optional Variant.getString dict "blocked_guidance_fallback"
  let keyActivationGuidanceKey ← optional Variant.getString dict "key_activation_guidance_key"
  let keyActivationGuidanceFallback ←
    optional Variant.getString dict "key_activation_guidance_fallback"
  return { id, label, kind, state, retriesLeft, retriesMax, usesLeft, usesMax, unblocksLeft,
           canChange, unblockable, activatable, keyActivationPending, keyActivatable, recovery,
           blockedGuidanceKey, blockedGuidanceFallback, keyActivationGuidanceKey,
           keyActivationGuidanceFallback }

/-- Read a credential result. -/
def readCredentials (wire : Credentials1Wire) : Option CredentialResult := do
  let op ← readCredentialOp wire.1
  let records ← wire.2.mapM readCredentialRecord
  return { op, records }

/-- Read a signature's metadata. -/
def readMeta (dict : Dict) : Option SignMeta := do
  let format ← required Variant.getString dict "format"
  let level ← required Variant.getString dict "level"
  let tsaUsed ← required Variant.getBool dict "tsaUsed"
  let chainComplete ← required Variant.getBool dict "chainComplete"
  return { format, level, tsaUsed, chainComplete }

/-- Read a signed artifact. -/
def readSigned (view : SignView) : Option SignedArtifact := do
  let bytes ← view.1
  let info ← readMeta view.2
  return { bytes, info }

/-- Read one row of a batch. -/
def readBatchRow (view : BatchRowView) : Option BatchSignRow := do
  let bytes ← view.bytes
  let info ← readMeta view.info
  return { displayName := view.displayName, bytes, info, code := view.code }

end Readers

section Dictionaries

/-- An entry of a dictionary, none when it is left out. -/
abbrev Entry := String × Option Variant

/-- The entries of an outcome. -/
def opEntries (op : CredentialOpResult) : List Entry :=
  [("outcome", some (.string (credentialOutcomeToken op.outcome))),
    ("blocked", some (.boolean op.blocked)),
    ("retries_left", op.retriesLeft.map .int32)]

/-- The entries of a record. -/
def recordEntries (record : CredentialRecord) : List Entry :=
  [("id", some (.string record.id)),
    ("label", some (.string record.label)),
    ("kind", some (.string record.kind)),
    ("state", some (.string record.state)),
    ("retries_left", record.retriesLeft.map .int32),
    ("retries_max", record.retriesMax.map .int32),
    ("uses_left", record.usesLeft.map .int32),
    ("uses_max", record.usesMax.map .int32),
    ("unblocks_left", record.unblocksLeft.map .int32),
    ("can_change", some (.boolean record.canChange)),
    ("unblockable", some (.boolean record.unblockable)),
    ("activatable", some (.boolean record.activatable)),
    ("key_activation_pending", some (.boolean record.keyActivationPending)),
    ("key_activatable", some (.boolean record.keyActivatable)),
    ("recovery", some (.string record.recovery)),
    ("blocked_guidance_key", record.blockedGuidanceKey.map .string),
    ("blocked_guidance_fallback", record.blockedGuidanceFallback.map .string),
    ("key_activation_guidance_key", record.keyActivationGuidanceKey.map .string),
    ("key_activation_guidance_fallback", record.keyActivationGuidanceFallback.map .string)]

/-- The entries of a signature's metadata. -/
def metaEntries (info : SignMeta) : List Entry :=
  [("format", some (.string info.format)), ("level", some (.string info.level)),
    ("tsaUsed", some (.boolean info.tsaUsed)),
    ("chainComplete", some (.boolean info.chainComplete))]

/-- The outcome's dictionary has its entries. -/
theorem op_dict_eq (op : CredentialOpResult) :
    toCredentialResultDict op = emplaceEach ∅ (opEntries op) := by
  simp [toCredentialResultDict, opEntries, emplaceEach, emplaceEntry, emplaceInt, Option.elim_map]
  rfl

/-- A record's dictionary has its entries. -/
theorem record_dict_eq (record : CredentialRecord) :
    toCredentialRecordDict record = emplaceEach ∅ (recordEntries record) := by
  simp [toCredentialRecordDict, recordEntries, emplaceEach, emplaceEntry, emplaceInt, emplaceStr,
    Option.elim_map]
  rfl

/-- The metadata's dictionary has its entries. -/
theorem meta_dict_eq (info : SignMeta) : toMetaVariants info = emplaceEach ∅ (metaEntries info) :=
  rfl

/-- A required entry reads as the first value of its key. -/
theorem required_emplaceEach {α : Type} (get : Variant → Option α) (entries : List Entry)
    (key : String) :
    required get (emplaceEach ∅ entries) key = (firstOf key entries).bind get := by
  rw [required, lookup_emplaceEach, Finmap.lookup_empty, Option.none_or]

/-- An entry made of an optional value reads as that value. -/
theorem optional_emplaceEach {α : Type} (get : Variant → Option α) (wrap : α → Variant)
    (entries : List Entry) (key : String) (value : Option α)
    (inverse : ∀ value, get (wrap value) = some value)
    (entry : firstOf key entries = value.map wrap) :
    optional get (emplaceEach ∅ entries) key = some value := by
  rw [optional, lookup_emplaceEach, Finmap.lookup_empty, Option.none_or, entry]
  cases value with
  | none => rfl
  | some value => simp [inverse]

/-- An outcome's word is its own. -/
theorem read_outcome_token (outcome : CredentialOutcome) :
    readOutcome (credentialOutcomeToken outcome) = some outcome := by
  cases outcome <;> decide

/-- The outcome reads back. -/
theorem read_credential_op (op : CredentialOpResult) :
    readCredentialOp (toCredentialResultDict op) = some op := by
  have retries : optional getInt (emplaceEach ∅ (opEntries op)) "retries_left" =
      some op.retriesLeft :=
    optional_emplaceEach getInt .int32 _ _ _ (fun _ => rfl) (by simp [opEntries, firstOf])
  rw [op_dict_eq, readCredentialOp, retries]
  simp [required_emplaceEach, opEntries, firstOf, Variant.getString, Variant.getBool,
    read_outcome_token]

/-- A record reads back. -/
theorem read_credential_record (record : CredentialRecord) :
    readCredentialRecord (toCredentialRecordDict record) = some record := by
  have counted (key : String) (value : Option Int)
      (entry : firstOf key (recordEntries record) = value.map .int32) :
      optional getInt (emplaceEach ∅ (recordEntries record)) key = some value :=
    optional_emplaceEach getInt .int32 _ _ _ (fun _ => rfl) entry
  have worded (key : String) (value : Option String)
      (entry : firstOf key (recordEntries record) = value.map .string) :
      optional Variant.getString (emplaceEach ∅ (recordEntries record)) key = some value :=
    optional_emplaceEach Variant.getString .string _ _ _ (fun _ => rfl) entry
  rw [record_dict_eq, readCredentialRecord,
    counted "retries_left" record.retriesLeft (by simp [recordEntries, firstOf]),
    counted "retries_max" record.retriesMax (by simp [recordEntries, firstOf]),
    counted "uses_left" record.usesLeft (by simp [recordEntries, firstOf]),
    counted "uses_max" record.usesMax (by simp [recordEntries, firstOf]),
    counted "unblocks_left" record.unblocksLeft (by simp [recordEntries, firstOf]),
    worded "blocked_guidance_key" record.blockedGuidanceKey (by simp [recordEntries, firstOf]),
    worded "blocked_guidance_fallback" record.blockedGuidanceFallback
      (by simp [recordEntries, firstOf]),
    worded "key_activation_guidance_key" record.keyActivationGuidanceKey
      (by simp [recordEntries, firstOf]),
    worded "key_activation_guidance_fallback" record.keyActivationGuidanceFallback
      (by simp [recordEntries, firstOf])]
  simp [required_emplaceEach, recordEntries, firstOf, Variant.getString, Variant.getBool]

/-- A list whose members read back reads back, in order. -/
theorem read_each {α β : Type} (write : α → β) (read : β → Option α)
    (inverse : ∀ value, read (write value) = some value) (values : List α) :
    (values.map write).mapM read = some values := by
  induction values with
  | nil => rfl
  | cons value rest inductionHypothesis =>
    rw [List.map_cons, List.mapM_cons, inverse, inductionHypothesis]
    rfl

/-- A credential result reads back: the outcome, and every record in order. -/
theorem read_credentials (result : CredentialResult) :
    readCredentials (buildCredentials1Wire result) = some result := by
  have records := read_each toCredentialRecordDict readCredentialRecord read_credential_record
    result.records
  simp only [readCredentials, buildCredentials1Wire, toCredentialRecordsWire, read_credential_op,
    records]
  rfl

/-- The metadata reads back. -/
theorem read_meta (info : SignMeta) : readMeta (toMetaVariants info) = some info := by
  rw [meta_dict_eq, readMeta]
  simp [required_emplaceEach, metaEntries, firstOf, Variant.getString, Variant.getBool]

/-- A signed artifact reads back. -/
theorem read_signed (artifact : SignedArtifact) :
    readSigned (some artifact.bytes, toMetaVariants artifact.info) = some artifact := by
  simp [readSigned, read_meta]

/-- A row of a batch reads back. -/
theorem read_batch_row (row : BatchSignRow) : readBatchRow row.view = some row := by
  simp [readBatchRow, BatchSignRow.view, read_meta]

end Dictionaries

section Faults

/-- A loop over photos that ends in a map ends in the one it builds when nothing
fails.

Induct over the photos: a failure at any of them ends the loop without a map. -/
theorem photo_fds_unfailed (faults : Faults PhotoResult) (photos : PhotoResult) (index : Nat)
    (fds built : PhotoFds) (table after : Sealed)
    (result : photoFds faults index photos fds table = (some built, after)) :
    photoFds {} index photos fds table = (some built, after) := by
  induction photos generalizing index fds table with
  | nil => exact result
  | cons photo rest inductionHypothesis =>
    by_cases skipped : photo.bytes = []
    · simp only [photoFds, skipped, if_true] at result ⊢
      exact inductionHypothesis _ _ _ result
    · simp only [photoFds, Table.create, skipped, if_false] at result ⊢
      cases sealing : faults.sealing index with
      | true => simp [sealing] at result
      | false =>
        cases copying : faults.rowCopy index with
        | true => simp [sealing, copying] at result
        | false =>
          simp only [sealing, copying, Bool.false_eq_true, if_false] at result ⊢
          exact inductionHypothesis _ _ _ result

/-- The recovery's loop over photos likewise. -/
theorem seal_photos_unfailed (faults : Faults PhotoResult) (photos : PhotoResult) (index : Nat)
    (sealed built : List SealedPhoto) (table after : Sealed)
    (result : sealPhotos faults index photos sealed table = (some built, after)) :
    sealPhotos {} index photos sealed table = (some built, after) := by
  induction photos generalizing index sealed table with
  | nil => exact result
  | cons photo rest inductionHypothesis =>
    by_cases skipped : photo.bytes = []
    · simp only [sealPhotos, skipped, if_true] at result ⊢
      exact inductionHypothesis _ _ _ result
    · simp only [sealPhotos, Table.create, skipped, if_false] at result ⊢
      cases sealing : faults.sealing index with
      | true => simp [sealing] at result
      | false =>
        cases copying : faults.rowCopy index with
        | true => simp [sealing, copying] at result
        | false =>
          simp only [sealing, copying, Bool.false_eq_true, if_false] at result ⊢
          exact inductionHypothesis _ _ _ result

/-- Adopting photos likewise. -/
theorem adopt_photos_unfailed (faults : Faults PhotoResult) (sealed : List SealedPhoto)
    (index : Nat) (fds built : PhotoFds) (table after : Sealed)
    (result : adoptPhotos faults index sealed fds table = (some built, after)) :
    adoptPhotos {} index sealed fds table = (some built, after) := by
  induction sealed generalizing index fds table with
  | nil => exact result
  | cons photo rest inductionHypothesis =>
    cases wiring : faults.wireRow index with
    | true => simp [adoptPhotos, wiring] at result
    | false =>
      simp only [adoptPhotos, wiring, Bool.false_eq_true, if_false] at result ⊢
      exact inductionHypothesis _ _ _ result

/-- The loop over the rows of a batch likewise. -/
theorem seal_rows_unfailed (faults : Faults BatchSignResult) (rows : BatchSignResult) (index : Nat)
    (sealed built : List SealedBatchRow) (table after : Sealed)
    (result : sealRows faults index rows sealed table = (some built, after)) :
    sealRows {} index rows sealed table = (some built, after) := by
  induction rows generalizing index sealed table with
  | nil => exact result
  | cons row rest inductionHypothesis =>
    simp only [sealRows, Table.create] at result ⊢
    cases sealing : faults.sealing index with
    | true => simp [sealing] at result
    | false =>
      cases copying : faults.rowCopy index with
      | true => simp [sealing, copying] at result
      | false =>
        simp only [sealing, copying, Bool.false_eq_true, if_false] at result ⊢
        exact inductionHypothesis _ _ _ result

/-- Adopting rows likewise. -/
theorem adopt_rows_unfailed (faults : Faults BatchSignResult) (sealed : List SealedBatchRow)
    (index : Nat) (wire built : List SignBatch1Row) (table after : Sealed)
    (result : adoptRows faults index sealed wire table = (some built, after)) :
    adoptRows {} index sealed wire table = (some built, after) := by
  induction sealed generalizing index wire table with
  | nil => exact result
  | cons row rest inductionHypothesis =>
    cases wiring : faults.wireRow index with
    | true => simp [adoptRows, wiring] at result
    | false =>
      simp only [adoptRows, wiring, Bool.false_eq_true, if_false] at result ⊢
      exact inductionHypothesis _ _ _ result

/-- Rows that were sealed and put on the wire, whatever else failed, are read as
the rows. -/
theorem batch_wire_read (faults : Faults BatchSignResult) (rows : BatchSignResult)
    (table held after : Sealed) (sealed : List SealedBatchRow) (wire : List SignBatch1Row)
    (sealing : sealBatch faults rows table = (some sealed, held))
    (wiring : batchWire faults sealed held = (some wire, after)) :
    wire.map (SignBatch1Row.view after) = rows.map BatchSignRow.view := by
  obtain ⟨cleanSealed, cleanHeld, cleanWire, cleanAfter, cleanSealing, cleanWiring, view⟩ :=
    batch_wire_clean {} rows table rfl rfl (fun _ => ⟨rfl, rfl⟩) (fun _ => rfl)
  have sealedRows : sealBatch {} rows table = (some sealed, held) := by
    unfold sealBatch at sealing ⊢
    split at sealing
    · cases sealing
    · simpa using seal_rows_unfailed faults rows 0 [] sealed table held sealing
  rw [sealedRows] at cleanSealing
  cases cleanSealing
  have wiredRows : batchWire {} sealed held = (some wire, after) := by
    unfold batchWire at wiring ⊢
    split at wiring
    · cases wiring
    · simpa using adopt_rows_unfailed faults sealed 0 [] wire held after wiring
  rw [wiredRows] at cleanWiring
  cases cleanWiring
  exact view

/-- Photos that were sealed into a map for a signal are read as the first of each
key. -/
theorem photo_fds_read (faults : Faults PhotoResult) (photos : PhotoResult) (fds : PhotoFds)
    (table after : Sealed) (result : photoFds faults 0 photos ∅ table = (some fds, after)) :
    photoView after fds = firstPhoto photos := by
  obtain ⟨cleanFds, cleanAfter, clean, view⟩ := photo_fds_clean {} photos 0 ∅ table
    (fun key fd found => by simp at found) (fun _ => ⟨rfl, rfl⟩)
  rw [photo_fds_unfailed faults photos 0 ∅ fds table after result] at clean
  cases clean
  funext key
  rw [view key]
  simp [photoView]

/-- A recovery call answers only from a ready store, with what its payload is
expected to give. -/
def AnswersOnly {P W : Type} (expected : P → W)
    (getResult : Faults P → TypedResultState P → Sealed → Option W × Sealed) : Prop :=
  ∀ faults store table wire, (getResult faults store table).1 = some wire →
    store.ready = true ∧ wire = expected store.payload

/-- The credentials recovery answers only the stored result. -/
theorem credentials_answers_only :
    AnswersOnly buildCredentials1Wire
      (fun faults store table => (credentialsGetResult faults store, table)) := by
  intro faults store table wire answer
  simp only [credentialsGetResult, inlineGetResult, readStoredResult] at answer
  cases ready : store.ready with
  | false => simp [ready] at answer
  | true =>
    cases copying : faults.readCopy with
    | true => simp [ready, copying] at answer
    | false => exact ⟨rfl, by simpa [ready, copying] using answer.symm⟩

/-- The signing recovery answers only the stored artifact. -/
theorem sign_answers_only :
    AnswersOnly (fun artifact => (some artifact.bytes, toMetaVariants artifact.info))
      signGetResult := by
  intro faults store table wire answer
  simp only [signGetResult, sealStoredResult] at answer
  cases ready : store.ready with
  | false => simp [ready] at answer
  | true =>
    cases sealing : faults.sealing 0 with
    | true => simp [ready, Table.create, sealing] at answer
    | false =>
      refine ⟨rfl, ?_⟩
      simpa [ready, Table.create, Table.content?, sealing] using answer.symm

/-- The batch recovery answers only the stored rows. -/
theorem sign_batch_answers_only :
    AnswersOnly (fun rows : BatchSignResult => rows.map BatchSignRow.view) signBatchGetResult := by
  intro faults store table wire answer
  simp only [signBatchGetResult, sealStoredSignBatchResult] at answer
  cases ready : store.ready with
  | false => simp [ready] at answer
  | true =>
    simp only [ready, if_true] at answer
    rcases sealing : sealBatch faults store.payload table with ⟨_ | sealed, held⟩
    · simp [sealing] at answer
    · rcases wiring : batchWire faults sealed held with ⟨_ | rows, after⟩
      · simp [sealing, wiring] at answer
      · simp only [sealing, wiring, Option.some.injEq] at answer
        exact ⟨rfl, answer ▸ batch_wire_read faults _ table held after sealed rows sealing wiring⟩

/-- The photo recovery answers only the first stored photo of each key. -/
theorem photo_answers_only : AnswersOnly firstPhoto photoGetResult := by
  intro faults store table view answer
  simp only [photoGetResult, sealStoredPhotos] at answer
  cases ready : store.ready with
  | false => simp [ready] at answer
  | true =>
    simp only [ready, if_true] at answer
    split at answer
    · cases answer
    · rename_i sealed held sealing
      split at answer
      · cases answer
      · rename_i fds after adopting
        have sealedPhotos : sealPhotos {} 0 store.payload [] table = (some sealed, held) := by
          split at sealing
          · cases sealing
          · exact seal_photos_unfailed faults _ _ _ _ _ _ sealing
        have clean := photo_recovered store.payload table
        simp only [photoGetResult, sealStoredPhotos, Bool.false_eq_true, false_and, if_false,
          if_true, sealedPhotos, adopt_photos_unfailed faults _ _ _ _ _ _ adopting,
          Option.some.injEq] at clean answer
        exact ⟨rfl, answer ▸ clean⟩

end Faults

section ReadBack

/-- A channel tells nothing but the delivered payload: `read` of whatever it sends
and of whatever a recovery call answers afterwards, under any failures of both and
with any descriptors around, is the same. -/
structure TellsOnly {P W R : Type} (read : W → Option R) (meaning : R)
    (emitResult : Faults P → Delivery P W)
    (getResult : Faults P → TypedResultState P → Sealed → Option W × Sealed) : Prop where
  sent : ∀ faults, ∀ wire ∈ (emitResult faults).channel.signals, read wire = some meaning
  recovered : ∀ faults later table wire,
    (getResult later (emitResult faults).channel.store table).1 = some wire →
      read wire = some meaning

/-- It does tell it: when nothing fails there is one signal, and every recovery
call answers. -/
structure ReadsBack {P W R : Type} (read : W → Option R) (meaning : R)
    (emitResult : Faults P → Delivery P W)
    (getResult : Faults P → TypedResultState P → Sealed → Option W × Sealed) : Prop
    extends TellsOnly read meaning emitResult getResult where
  served : (emitResult {}).channel.signals.map read = [some meaning] ∧
    ∀ table, (getResult {} (emitResult {}).channel.store table).1.bind read = some meaning

/-- A delivery that succeeds without a signal, after which no recovery call
answers, whatever fails. -/
def Untold {P W : Type} (emitResult : Faults P → Delivery P W)
    (getResult : Faults P → TypedResultState P → Sealed → Option W × Sealed) : Prop :=
  ∀ faults, (emitResult faults).status = true ∧ (emitResult faults).channel.signals = [] ∧
    ∀ later table, (getResult later (emitResult faults).channel.store table).1 = none

/-- A delivery leaves a store that is unready or holds the payload, and sends only
what the payload is expected to give. -/
structure DeliversOnly {P W : Type} (expected : P → W) (payload : P) (delivery : Delivery P W) :
    Prop where
  stored : delivery.channel.store.ready = true → delivery.channel.store.payload = payload
  sent : ∀ wire ∈ delivery.channel.signals, wire = expected payload

/-- A channel whose deliveries and answers give only what is expected tells only
that. -/
theorem tells_only_of {P W R : Type} (expected : P → W) (read : W → Option R) (meaning : R)
    (payload : P) (emitResult : Faults P → Delivery P W)
    (getResult : Faults P → TypedResultState P → Sealed → Option W × Sealed)
    (reading : read (expected payload) = some meaning)
    (delivers : ∀ faults, DeliversOnly expected payload (emitResult faults))
    (answersOnly : AnswersOnly expected getResult) :
    TellsOnly read meaning emitResult getResult where
  sent faults wire member := by
    rw [(delivers faults).sent wire member, reading]
  recovered faults later table wire answer := by
    obtain ⟨ready, rfl⟩ := answersOnly later _ table wire answer
    rw [(delivers faults).stored ready, reading]

/-- A channel that moreover sends and answers when nothing fails reads back. -/
theorem reads_back_of {P W R : Type} (expected : P → W) (read : W → Option R) (meaning : R)
    (payload : P) (emitResult : Faults P → Delivery P W)
    (getResult : Faults P → TypedResultState P → Sealed → Option W × Sealed)
    (reading : read (expected payload) = some meaning)
    (delivers : ∀ faults, DeliversOnly expected payload (emitResult faults))
    (answersOnly : AnswersOnly expected getResult)
    (clean : (emitResult {}).channel = ⟨⟨true, payload⟩, [expected payload]⟩)
    (answers : ∀ table, (getResult {} ⟨true, payload⟩ table).1 = some (expected payload)) :
    ReadsBack read meaning emitResult getResult where
  toTellsOnly :=
    tells_only_of expected read meaning payload emitResult getResult reading delivers answersOnly
  served := by
    rw [clean]
    exact ⟨by simp [reading], fun table => by rw [answers table, Option.bind_some, reading]⟩

/-- A refused delivery tells nothing. -/
theorem delivers_only_refused {P W : Type} (expected : P → W) (payload : P) (status : Bool)
    (store : TypedResultState P) (table : Sealed) (unready : store.ready = false) :
    DeliversOnly expected payload ⟨status, { store }, table⟩ where
  stored ready := by simp [unready] at ready
  sent wire member := by simp at member

/-- A delivery that stored the payload and may have sent its signal tells the
payload. -/
theorem delivers_only_emitted {P W : Type} (expected : P → W) (payload empty : P)
    (status fails : Bool) (store : TypedResultState P) (signal : W) (table : Sealed)
    (stored : store.ready = true → store.payload = payload) (same : signal = expected payload) :
    DeliversOnly expected payload
      ⟨status, (Channel.fresh empty).emit store fails signal, table⟩ where
  stored := stored
  sent wire member := by
    cases fails with
    | true => simp [Channel.emit, Channel.fresh] at member
    | false =>
      simp only [Channel.emit, Channel.fresh, Bool.false_eq_true, if_false, List.nil_append,
        List.mem_singleton] at member
      rw [member, same]

/-- The credentials channel tells the result. -/
theorem credentials_delivers_only (result : CredentialResult) (faults : Faults CredentialResult) :
    DeliversOnly buildCredentials1Wire result
      (credentialsEmitResult faults (Channel.fresh {}) result) := by
  refine delivers_only_emitted _ _ _ true faults.emit _ _ {} (fun ready => ?_) rfl
  obtain published | ⟨store, unready, published⟩ := publish_result_cases faults
    ((Channel.fresh {} : Channel CredentialResult Credentials1Wire).store) result rfl
  · rw [published]
  · simp [published, unready] at ready

/-- The signing channel tells the artifact. -/
theorem sign_delivers_only (artifact : SignedArtifact) (table : Sealed)
    (faults : Faults SignedArtifact) :
    DeliversOnly (fun artifact => (some artifact.bytes, toMetaVariants artifact.info)) artifact
      (signEmitResult faults (Channel.fresh {}) artifact table) := by
  simp only [signEmitResult, publishSealedResult]
  cases sealing : faults.sealing 0 with
  | true => exact delivers_only_refused _ _ _ _ _ rfl
  | false =>
    simp only [Table.create, Bool.false_eq_true, if_false]
    obtain published | ⟨store, unready, published⟩ := publish_result_cases faults
      ((Channel.fresh {} : Channel SignedArtifact SignView).store) artifact rfl
    · rw [published]
      exact delivers_only_emitted _ _ _ _ _ _ _ _ (fun _ => rfl) (by simp [Table.content?])
    · rw [published]
      exact delivers_only_refused _ _ _ _ _ unready

/-- The batch channel tells the rows. -/
theorem sign_batch_delivers_only (rows : BatchSignResult) (table : Sealed)
    (faults : Faults BatchSignResult) :
    DeliversOnly (fun rows : BatchSignResult => rows.map BatchSignRow.view) rows
      (signBatchEmitResult faults (Channel.fresh []) rows table) := by
  simp only [signBatchEmitResult, publishSealedSignBatchResult]
  rcases sealing : sealBatch faults rows table with ⟨_ | sealed, held⟩
  · exact delivers_only_refused _ _ _ _ _ rfl
  · simp only
    obtain published | ⟨store, unready, published⟩ := publish_result_cases faults
      ((Channel.fresh [] : Channel BatchSignResult (List BatchRowView)).store) rows rfl
    · rw [published]
      simp only
      rcases wiring : batchWire faults sealed held with ⟨_ | wire, after⟩
      · exact ⟨fun _ => rfl, fun wire member => by simp [Channel.fresh] at member⟩
      · exact delivers_only_emitted _ _ _ _ _ _ _ _ (fun _ => rfl)
          (batch_wire_read faults rows table held after sealed wire sealing wiring)
    · rw [published]
      exact delivers_only_refused _ _ _ _ _ unready

/-- The photo channel tells the first photo of each key. -/
theorem photo_delivers_only (photos : PhotoResult) (table : Sealed) (faults : Faults PhotoResult) :
    DeliversOnly firstPhoto photos (photoEmitResult faults (Channel.fresh []) photos table) := by
  rcases sealing : photoFds faults 0 photos ∅ table with ⟨_ | fds, after⟩
  · simp only [photoEmitResult, sealing]
    exact delivers_only_refused _ _ _ _ _ rfl
  · simp only [photoEmitResult, sealing]
    by_cases nothing : fds = ∅
    · simp only [nothing, if_true]
      exact delivers_only_refused _ _ _ _ _ rfl
    · simp only [nothing, if_false]
      obtain published | ⟨store, unready, published⟩ := publish_result_cases faults
        ((Channel.fresh [] : Channel PhotoResult PhotoView).store) photos rfl
      · rw [published]
        exact delivers_only_emitted _ _ _ _ _ _ _ _ (fun _ => rfl)
          (photo_fds_read faults photos fds table after sealing)
      · rw [published]
        exact delivers_only_refused _ _ _ _ _ unready

/-- The photo channel reads back when there is a photo to seal. -/
theorem photo_reads_back (photos : PhotoResult) (table : Sealed)
    (present : ∃ photo ∈ photos, photo.bytes ≠ []) :
    ReadsBack some (firstPhoto photos)
      (fun faults => photoEmitResult faults (Channel.fresh []) photos table) photoGetResult := by
  rcases sealing : photoFds {} 0 photos ∅ table with ⟨_ | fds, after⟩
  · obtain ⟨fds, after, clean, -⟩ := photo_fds_clean {} photos 0 ∅ table
      (fun key fd found => by simp at found) (fun _ => ⟨rfl, rfl⟩)
    rw [sealing] at clean
    cases clean
  · have filled : fds ≠ ∅ := by
      rw [Ne, photo_fds_empty_iff {} photos 0 ∅ fds table after sealing]
      obtain ⟨photo, member, bytes⟩ := present
      exact fun nothing => bytes (nothing.2 photo member)
    exact reads_back_of firstPhoto _ _ photos _ _ rfl (photo_delivers_only photos table)
      photo_answers_only
      (by simp [photoEmitResult, publishResult, sealing, filled,
        photo_fds_read {} photos fds table after sealing, Channel.emit, Channel.fresh])
      (photo_recovered photos)

/-- Without a photo to seal the photo channel tells nothing: its store stays unready. -/
theorem photo_untold (photos : PhotoResult) (table : Sealed)
    (nothing : ∀ photo ∈ photos, photo.bytes = []) :
    Untold (fun faults => photoEmitResult faults (Channel.fresh []) photos table)
      photoGetResult := by
  intro faults
  beta_reduce
  rw [photo_emit_nothing faults photos table nothing]
  exact ⟨rfl, rfl, fun later other => rfl⟩

/-- Whatever fails while a result is delivered and while it is asked for again, a
credential result, a signed artifact and the rows of a batch read back from every
signal and every answer; of photos, the first with bytes of each key does. When
nothing fails there is a signal, and every call answers, save for photos none of
which has bytes: these are taken without a signal, and no call answers. -/
theorem results_read_back :
    (∀ result : CredentialResult,
      ReadsBack readCredentials result
        (fun faults => credentialsEmitResult faults (Channel.fresh {}) result)
        (fun faults store table => (credentialsGetResult faults store, table))) ∧
    (∀ (artifact : SignedArtifact) (table : Sealed),
      ReadsBack readSigned artifact
        (fun faults => signEmitResult faults (Channel.fresh {}) artifact table) signGetResult) ∧
    (∀ (rows : BatchSignResult) (table : Sealed),
      ReadsBack (List.mapM readBatchRow) rows
        (fun faults => signBatchEmitResult faults (Channel.fresh []) rows table)
        signBatchGetResult) ∧
    ∀ (photos : PhotoResult) (table : Sealed),
      TellsOnly some (firstPhoto photos)
        (fun faults => photoEmitResult faults (Channel.fresh []) photos table) photoGetResult ∧
      ((∃ photo ∈ photos, photo.bytes ≠ []) →
        ReadsBack some (firstPhoto photos)
          (fun faults => photoEmitResult faults (Channel.fresh []) photos table)
          photoGetResult) ∧
      ((∀ photo ∈ photos, photo.bytes = []) →
        Untold (fun faults => photoEmitResult faults (Channel.fresh []) photos table)
          photoGetResult) := by
  refine ⟨fun result => ?_, fun artifact table => ?_, fun rows table => ?_,
    fun photos table => ⟨?_, photo_reads_back photos table, photo_untold photos table⟩⟩
  · exact reads_back_of buildCredentials1Wire _ _ result _ _ (read_credentials result)
      (credentials_delivers_only result) credentials_answers_only rfl (fun _ => rfl)
  · exact reads_back_of _ _ _ artifact _ _ (read_signed artifact)
      (sign_delivers_only artifact table) sign_answers_only
      (by simp [signEmitResult, publishSealedResult, publishResult, Table.create, Table.content?,
        Channel.emit, Channel.fresh])
      (sign_recovered artifact)
  · obtain ⟨sealed, held, wire, after, sealing, wiring, view⟩ :=
      batch_wire_clean {} rows table rfl rfl (fun _ => ⟨rfl, rfl⟩) (fun _ => rfl)
    exact reads_back_of _ _ _ rows _ _ (read_each _ _ read_batch_row rows)
      (sign_batch_delivers_only rows table) sign_batch_answers_only
      (by simp [signBatchEmitResult, publishSealedSignBatchResult, publishResult, sealing, wiring,
        view, Channel.emit, Channel.fresh])
      (sign_batch_recovered rows)
  · exact tells_only_of firstPhoto _ _ photos _ _ rfl (photo_delivers_only photos table)
      photo_answers_only

/-- The photo channel tells the first portrait that has bytes, and nothing of a card
without one. -/
theorem portraits_read_back :
    (ReadsBack some (firstPhoto portraits)
        (fun faults => photoEmitResult faults (Channel.fresh []) portraits {}) photoGetResult ∧
      firstPhoto portraits "personal:photo" = some [0xff, 0xd8]) ∧
      Untold (fun faults => photoEmitResult faults (Channel.fresh []) [⟨"personal:photo", []⟩] {})
        photoGetResult :=
  ⟨⟨(results_read_back.2.2.2 portraits {}).2.1
      ⟨⟨"personal:photo", [0x00]⟩, by simp [portraits], by simp⟩, by decide⟩,
    (results_read_back.2.2.2 [⟨"personal:photo", []⟩] {}).2.2 (by simp)⟩

end ReadBack

end LibreLinux.Results
