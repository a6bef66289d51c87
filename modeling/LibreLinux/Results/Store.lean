import LibreLinux.Lib.Descriptors
import LibreLinux.Results.Payload

/-!
# The recovery stores and their sealed descriptors

Each typed operation keeps its last result in a store, so that a client that
missed the signal can ask for it. Photos and signed artifacts travel as sealed
memfds: the store keeps their bytes, and every delivery seals fresh descriptors,
held as raw numbers while a vector of them is being built. A store is marked
ready last.

Any seal and any allocation may fail. `Faults` says which ones do in one call:
a seal and a row's copy by the row's position, a copy into a store with the
payload it leaves behind. `reserve` of an empty vector allocates nothing. An
exception is the `none` of the function that lets it out.
-/

namespace LibreLinux.Results

open Descriptors

/-- The descriptors of one call, by the bytes they hold. -/
abbrev Sealed := Table Bytes

/-- The failures of one call. -/
structure Faults (P : Type) where
  sealing : Nat → Bool := fun _ => false
  reserve : Bool := false
  rowCopy : Nat → Bool := fun _ => false
  storeCopy : Option P := none
  readCopy : Bool := false
  wireReserve : Bool := false
  wireRow : Nat → Bool := fun _ => false
  emit : Bool := false

/-- A recovery store. -/
structure TypedResultState (P : Type) where
  ready : Bool := false
  payload : P

/-- Copy a payload into a store and mark it ready; a copy that fails leaves the
mark as it was. -/
def publishResult {P : Type} (faults : Faults P) (state : TypedResultState P) (payload : P) :
    Bool × TypedResultState P :=
  match faults.storeCopy with
  | some torn => (false, { state with payload := torn })
  | none => (true, { ready := true, payload })

/-- Copy the payload out of a ready store. -/
def readStoredResult {P : Type} (faults : Faults P) (state : TypedResultState P) : Option P :=
  if state.ready then if faults.readCopy then none else some state.payload else none

/-- Seal the stored artifact for one recovery. -/
def sealStoredResult (faults : Faults SignedArtifact) (state : TypedResultState SignedArtifact)
    (table : Sealed) : Option (Nat × SignMeta) × Sealed :=
  if state.ready then
    match table.create state.payload.bytes (faults.sealing 0) with
    | (some fd, table) => (some (fd, state.payload.info), table)
    | (none, table) => (none, table)
  else (none, table)

/-- Seal an artifact, then publish it; the descriptor is closed when the copy
into the store fails. -/
def publishSealedResult (faults : Faults SignedArtifact) (state : TypedResultState SignedArtifact)
    (artifact : SignedArtifact) (table : Sealed) :
    Option Nat × TypedResultState SignedArtifact × Sealed :=
  match table.create artifact.bytes (faults.sealing 0) with
  | (none, table) => (none, state, table)
  | (some fd, table) =>
    match publishResult faults state artifact with
    | (false, state) => (none, state, table.close [fd])
    | (true, state) => (some fd, state, table)

/-- A photo sealed for one recovery. -/
structure SealedPhoto where
  key : String
  fd : Nat
deriving DecidableEq, Repr

/-- Seal the photos that have bytes, in order. Whatever fails, everything sealed
so far is closed, the descriptor just made included. -/
def sealPhotos (faults : Faults PhotoResult) : Nat → PhotoResult → List SealedPhoto → Sealed →
    Option (List SealedPhoto) × Sealed
  | _, [], sealed, table => (some sealed, table)
  | index, photo :: rest, sealed, table =>
    if photo.bytes = [] then sealPhotos faults (index + 1) rest sealed table
    else
      match table.create photo.bytes (faults.sealing index) with
      | (none, table) => (none, table.close (sealed.map SealedPhoto.fd))
      | (some fd, table) =>
        if faults.rowCopy index then
          (none, (table.close [fd]).close (sealed.map SealedPhoto.fd))
        else sealPhotos faults (index + 1) rest (sealed ++ [⟨photo.key, fd⟩]) table

/-- Seal the stored photos for one recovery. -/
def sealStoredPhotos (faults : Faults PhotoResult) (state : TypedResultState PhotoResult)
    (table : Sealed) : Option (List SealedPhoto) × Sealed :=
  if state.ready then
    if faults.reserve ∧ state.payload ≠ [] then (none, table)
    else sealPhotos faults 0 state.payload [] table
  else (none, table)

/-- A batch row with its sealed artifact. -/
structure SealedBatchRow where
  displayName : String
  fd : Nat
  info : SignMeta
  code : UInt32
deriving DecidableEq, Repr

/-- The descriptors parked in a vector of sealed rows. -/
def rowFds (rows : List SealedBatchRow) : List Nat := rows.map SealedBatchRow.fd

/-- Seal every row, in order, failed rows with no bytes included. The handler of
an exception closes what is already in the vector: a row whose copy fails after
its seal is not. -/
def sealRows (faults : Faults BatchSignResult) : Nat → BatchSignResult → List SealedBatchRow →
    Sealed → Option (List SealedBatchRow) × Sealed
  | _, [], sealed, table => (some sealed, table)
  | index, row :: rest, sealed, table =>
    match table.create row.bytes (faults.sealing index) with
    | (none, table) => (none, table.close (rowFds sealed))
    | (some fd, table) =>
      if faults.rowCopy index then (none, table.close (rowFds sealed))
      else sealRows faults (index + 1) rest
        (sealed ++ [⟨row.displayName, fd, row.info, row.code⟩]) table

/-- Reserve the vector and seal every row into it. -/
def sealBatch (faults : Faults BatchSignResult) (rows : BatchSignResult) (table : Sealed) :
    Option (List SealedBatchRow) × Sealed :=
  if faults.reserve ∧ rows ≠ [] then (none, table) else sealRows faults 0 rows [] table

/-- Seal every row, then publish the rows. -/
def publishSealedSignBatchResult (faults : Faults BatchSignResult)
    (state : TypedResultState BatchSignResult) (rows : BatchSignResult) (table : Sealed) :
    Option (List SealedBatchRow) × TypedResultState BatchSignResult × Sealed :=
  match sealBatch faults rows table with
  | (none, table) => (none, state, table)
  | (some sealed, table) =>
    match publishResult faults state rows with
    | (false, state) => (none, state, table.close (rowFds sealed))
    | (true, state) => (some sealed, state, table)

/-- Seal every stored row for one recovery. -/
def sealStoredSignBatchResult (faults : Faults BatchSignResult)
    (state : TypedResultState BatchSignResult) (table : Sealed) :
    Option (List SealedBatchRow) × Sealed :=
  if state.ready then sealBatch faults state.payload table else (none, table)

/-- A batch row on the wire: name, adopted descriptor, metadata, error code. -/
structure SignBatch1Row where
  displayName : String
  fd : Nat
  info : Wire.Dict
  code : UInt32
deriving DecidableEq

/-- Adopt each row's descriptor, then build its wire row. When that fails the
rows not yet adopted are closed; the adopted ones close themselves. -/
def adoptRows (faults : Faults BatchSignResult) : Nat → List SealedBatchRow → List SignBatch1Row →
    Sealed → Option (List SignBatch1Row) × Sealed
  | _, [], wire, table => (some wire, table)
  | index, row :: rest, wire, table =>
    if faults.wireRow index then (none, (table.adopt row.fd).close (rowFds rest))
    else adoptRows faults (index + 1) rest
      (wire ++ [⟨row.displayName, row.fd, toMetaVariants row.info, row.code⟩]) (table.adopt row.fd)

/-- The wire rows of sealed rows. The vector is reserved first; an exception
there meets no handler that knows the descriptors. -/
def batchWire (faults : Faults BatchSignResult) (sealed : List SealedBatchRow) (table : Sealed) :
    Option (List SignBatch1Row) × Sealed :=
  if faults.wireReserve ∧ sealed ≠ [] then (none, table) else adoptRows faults 0 sealed [] table

end LibreLinux.Results
