import LibreLinux.Results.Channels

/-!
# Status, store and recovery

Two results about a channel's delivery. For the sealed channels the reported
status is a success exactly when the store is ready with that payload, for every
schedule of failures; a photo payload without any bytes is the one exception, as
the channel then has nothing to deliver and reports success. And for every
channel, when nothing fails, each recovery call returns what the signal carried,
although the sealed channels build the two values by different loops: photos
take a map of adopted descriptors on one path and a vector that is adopted later
on the other.

The descriptor table is threaded through the calls, so a recovery call meets the
descriptors of every earlier call.
-/

namespace LibreLinux.Results

open Descriptors
open Maps (emplace lookup_emplace emplace_ne_empty)

section Status

variable {P W : Type}

/-- A success is reported exactly when the store serves this payload; a failure
leaves the store unready and sends nothing. -/
def StatusAgrees (delivery : Delivery P W) (payload : P) : Prop :=
  (delivery.status = true ↔
    delivery.channel.store.ready = true ∧ delivery.channel.store.payload = payload) ∧
  (delivery.status = false →
    delivery.channel.store.ready = false ∧ delivery.channel.signals = [])

/-- A success with the payload stored agrees. -/
theorem status_served (signals : List W) (payload : P) (table : Sealed) :
    StatusAgrees ⟨true, { store := { ready := true, payload }, signals }, table⟩ payload := by
  simp [StatusAgrees]

/-- A failure with nothing stored and nothing sent agrees. -/
theorem status_refused (store : TypedResultState P) (payload : P) (table : Sealed)
    (unready : store.ready = false) :
    StatusAgrees (⟨false, { store }, table⟩ : Delivery P W) payload := by
  simp [StatusAgrees, unready]

/-- Publishing into an unready store either makes it serve the payload or leaves
it unready. -/
theorem publish_result_cases (faults : Faults P) (state : TypedResultState P) (payload : P)
    (unready : state.ready = false) :
    publishResult faults state payload = (true, { ready := true, payload }) ∨
      ∃ store : TypedResultState P, store.ready = false ∧
        publishResult faults state payload = (false, store) := by
  cases copying : faults.storeCopy with
  | none => exact Or.inl (by simp only [publishResult, copying])
  | some torn => exact Or.inr ⟨{ state with payload := torn }, unready, by
      simp only [publishResult, copying]⟩

end Status

/-- A photo map is empty only when there was nothing to seal.

Induct over the photos: an insertion leaves an entry, and no later step removes
it. -/
theorem photo_fds_empty_iff (faults : Faults PhotoResult) (photos : PhotoResult) (index : Nat)
    (fds built : PhotoFds) (table after : Sealed)
    (result : photoFds faults index photos fds table = (some built, after)) :
    built = ∅ ↔ fds = ∅ ∧ ∀ photo ∈ photos, photo.bytes = [] := by
  induction photos generalizing index fds table with
  | nil =>
    cases result
    simp
  | cons photo rest inductionHypothesis =>
    by_cases skipped : photo.bytes = []
    · simp only [photoFds, skipped, if_true] at result
      rw [inductionHypothesis _ _ _ result]
      simp [skipped]
    cases failing : faults.sealing index with
    | true =>
      simp only [photoFds, Table.create, skipped, failing, if_true, if_false] at result
      cases result
    | false =>
      cases copying : faults.rowCopy index with
      | true =>
        simp only [photoFds, Table.create, skipped, failing, copying, if_true, if_false,
          Bool.false_eq_true] at result
        cases result
      | false =>
        simp only [photoFds, Table.create, skipped, failing, copying, if_false,
          Bool.false_eq_true] at result
        rw [inductionHypothesis _ _ _ result]
        simp [emplace_ne_empty, skipped]

/-- The signing channel's status agrees with its store. -/
theorem sign_status_agrees (faults : Faults SignedArtifact) (artifact : SignedArtifact)
    (table : Sealed) :
    StatusAgrees (signEmitResult faults (Channel.fresh {}) artifact table) artifact := by
  simp only [signEmitResult, publishSealedResult]
  cases failing : faults.sealing 0 with
  | true => exact status_refused _ _ _ rfl
  | false =>
    simp only [Table.create, Bool.false_eq_true, if_false]
    obtain published | ⟨store, unready, published⟩ :=
      publish_result_cases faults ((Channel.fresh {} : Channel SignedArtifact SignView).store)
        artifact rfl
    · rw [published]
      exact status_served _ _ _
    · rw [published]
      exact status_refused _ _ _ unready

/-- The batch channel's status agrees with its store. -/
theorem sign_batch_status_agrees (faults : Faults BatchSignResult) (rows : BatchSignResult)
    (table : Sealed) :
    StatusAgrees (signBatchEmitResult faults (Channel.fresh []) rows table) rows := by
  simp only [signBatchEmitResult, publishSealedSignBatchResult]
  rcases sealBatch faults rows table with ⟨_ | sealed, held⟩
  · exact status_refused _ _ _ rfl
  · simp only
    obtain published | ⟨store, unready, published⟩ :=
      publish_result_cases faults
        ((Channel.fresh [] : Channel BatchSignResult (List BatchRowView)).store) rows rfl
    · rw [published]
      simp only
      rcases batchWire faults sealed held with ⟨_ | wire, adopted⟩ <;> exact status_served _ _ _
    · rw [published]
      exact status_refused _ _ _ unready

/-- With a photo to seal, the photo channel's status agrees with its store. -/
theorem photo_status_agrees (faults : Faults PhotoResult) (photos : PhotoResult) (table : Sealed)
    (present : ∃ photo ∈ photos, photo.bytes ≠ []) :
    StatusAgrees (photoEmitResult faults (Channel.fresh []) photos table) photos := by
  cases built : photoFds faults 0 photos ∅ table with
  | mk result after =>
    simp only [photoEmitResult, built]
    cases result with
    | none => exact status_refused _ _ _ rfl
    | some fds =>
      have filled : fds ≠ ∅ := by
        rw [Ne, photo_fds_empty_iff faults photos 0 ∅ fds table after built]
        obtain ⟨photo, member, bytes⟩ := present
        exact fun nothing => bytes (nothing.2 photo member)
      simp only [filled, if_false]
      obtain published | ⟨store, unready, published⟩ :=
        publish_result_cases faults ((Channel.fresh [] : Channel PhotoResult PhotoView).store)
          photos rfl
      · rw [published]
        exact status_served _ _ _
      · rw [published]
        exact status_refused _ _ _ unready

/-- Without a photo to seal, the photo channel makes no descriptor.

Induct over the photos: each is skipped, so no step can fail. -/
theorem photo_fds_nothing (faults : Faults PhotoResult) (photos : PhotoResult) (index : Nat)
    (fds : PhotoFds) (table : Sealed) (nothing : ∀ photo ∈ photos, photo.bytes = []) :
    photoFds faults index photos fds table = (some fds, table) := by
  induction photos generalizing index with
  | nil => rfl
  | cons photo rest inductionHypothesis =>
    have skipped : photo.bytes = [] := nothing photo List.mem_cons_self
    simp only [photoFds, skipped, if_true]
    exact inductionHypothesis _ (fun other member => nothing other (List.mem_cons_of_mem _ member))

/-- It then stores and sends nothing, and reports success. -/
theorem photo_emit_nothing (faults : Faults PhotoResult) (photos : PhotoResult) (table : Sealed)
    (nothing : ∀ photo ∈ photos, photo.bytes = []) :
    photoEmitResult faults (Channel.fresh []) photos table = ⟨true, Channel.fresh [], table⟩ := by
  simp only [photoEmitResult, photo_fds_nothing faults photos 0 ∅ table nothing, if_true]

/-- For every payload and every schedule of failures, the sealed channels report
success exactly when the store serves the payload, and a failure leaves nothing
stored and nothing sent. The photo channel has one more success: without a photo
to seal it delivers nothing. -/
theorem status_agrees_with_store :
    (∀ (faults : Faults SignedArtifact) (artifact : SignedArtifact) (table : Sealed),
      StatusAgrees (signEmitResult faults (Channel.fresh {}) artifact table) artifact) ∧
    (∀ (faults : Faults BatchSignResult) (rows : BatchSignResult) (table : Sealed),
      StatusAgrees (signBatchEmitResult faults (Channel.fresh []) rows table) rows) ∧
    (∀ (faults : Faults PhotoResult) (photos : PhotoResult) (table : Sealed),
      (∃ photo ∈ photos, photo.bytes ≠ []) →
        StatusAgrees (photoEmitResult faults (Channel.fresh []) photos table) photos) ∧
    (∀ (faults : Faults PhotoResult) (photos : PhotoResult) (table : Sealed),
      (∀ photo ∈ photos, photo.bytes = []) →
        photoEmitResult faults (Channel.fresh []) photos table =
          ⟨true, Channel.fresh [], table⟩) := by
  exact ⟨sign_status_agrees, sign_batch_status_agrees, photo_status_agrees, photo_emit_nothing⟩

/-- A photo payload with one entry and no bytes is reported as a success, and no
store serves it. -/
theorem empty_photo_unserved :
    ¬ StatusAgrees
      (photoEmitResult {} (Channel.fresh []) [⟨"personal:photo", []⟩] {})
      [⟨"personal:photo", []⟩] := by
  intro agrees
  obtain ⟨ready, -⟩ := agrees.1.mp (by decide)
  revert ready
  decide

section Recovery

/-- What recovery calls in a row return, each meeting the descriptors the earlier
ones made. -/
def recoveries {W : Type} (getResult : Sealed → Option W × Sealed) : Nat → Sealed → List (Option W)
  | 0, _ => []
  | count + 1, table =>
    (getResult table).1 :: recoveries getResult count (getResult table).2

/-- A call that returns the same whatever descriptors exist returns it every
time. -/
theorem recoveries_eq {W : Type} (getResult : Sealed → Option W × Sealed) (wire : W)
    (recovered : ∀ table, (getResult table).1 = some wire) (count : Nat) (table : Sealed) :
    recoveries getResult count table = List.replicate count (some wire) := by
  induction count generalizing table with
  | zero => rfl
  | succ count inductionHypothesis =>
    rw [recoveries, recovered, inductionHypothesis, List.replicate_succ]

/-- A signal that was sent is the one the channel emits. -/
theorem emitted_eq {P W : Type} (channel : Channel P W) (store : TypedResultState P) (fails : Bool)
    (signal wire : W) (sent : (channel.emit store fails signal).signals = channel.signals ++ [wire]) :
    wire = signal := by
  cases fails with
  | true => simp [Channel.emit] at sent
  | false =>
    simp only [Channel.emit, Bool.false_eq_true, if_false, List.append_cancel_left_eq,
      List.cons.injEq, and_true] at sent
    exact sent.symm

/-- What a receiver should read of a batch row. -/
def BatchSignRow.view (row : BatchSignRow) : BatchRowView :=
  ⟨row.displayName, some row.bytes, toMetaVariants row.info, row.code⟩

/-- What a receiver should read at a photo key: the first entry of that key that
has bytes. -/
def firstPhoto (photos : PhotoResult) : PhotoView :=
  fun key => (photos.find? (fun photo => photo.key = key ∧ photo.bytes ≠ [])).map Photo.bytes

/-- The rows of a batch with their descriptors, numbered from `start`. -/
def sealedFrom : Nat → BatchSignResult → List SealedBatchRow
  | _, [] => []
  | start, row :: rest =>
    ⟨row.displayName, start, row.info, row.code⟩ :: sealedFrom (start + 1) rest

/-- Without failures the loop seals every row, in order. -/
theorem seal_rows_clean (faults : Faults BatchSignResult) (rows : BatchSignResult) (index : Nat)
    (sealed : List SealedBatchRow) (table : Sealed)
    (clean : ∀ i, faults.sealing i = false ∧ faults.rowCopy i = false) :
    sealRows faults index rows sealed table =
      (some (sealed ++ sealedFrom table.contents.length rows),
        { table with contents := table.contents ++ rows.map BatchSignRow.bytes }) := by
  induction rows generalizing index sealed table with
  | nil => simp [sealRows, sealedFrom]
  | cons row rest inductionHypothesis =>
    simp only [sealRows, Table.create, clean, Bool.false_eq_true, if_false]
    rw [inductionHypothesis]
    simp [sealedFrom]

/-- A sealed row on the wire. -/
def SealedBatchRow.wire (row : SealedBatchRow) : SignBatch1Row :=
  ⟨row.displayName, row.fd, toMetaVariants row.info, row.code⟩

/-- Without failures the loop adopts every row, in order. -/
theorem adopt_rows_clean (faults : Faults BatchSignResult) (sealed : List SealedBatchRow)
    (index : Nat) (wire : List SignBatch1Row) (table : Sealed)
    (clean : ∀ i, faults.wireRow i = false) :
    adoptRows faults index sealed wire table =
      (some (wire ++ sealed.map SealedBatchRow.wire),
        { table with adopted := table.adopted ++ rowFds sealed }) := by
  induction sealed generalizing index wire table with
  | nil => simp [adoptRows, rowFds]
  | cons row rest inductionHypothesis =>
    simp only [adoptRows, clean, Bool.false_eq_true, if_false]
    rw [inductionHypothesis]
    simp [SealedBatchRow.wire, Table.adopt, rowFds]

/-- Reading the rows through descriptors numbered from the end of `before` gives
the rows. -/
theorem view_sealed_from (rows : BatchSignResult) (before : List Bytes) (closed adopted : List Nat) :
    (sealedFrom before.length rows).map (fun row => row.wire.view
      ⟨before ++ rows.map BatchSignRow.bytes, closed, adopted⟩) = rows.map BatchSignRow.view := by
  induction rows generalizing before with
  | nil => rfl
  | cons row rest inductionHypothesis =>
    have later := inductionHypothesis (before ++ [row.bytes])
    simp only [List.length_append, List.length_singleton, List.append_assoc,
      List.singleton_append] at later
    simp only [sealedFrom, List.map_cons, later, List.cons.injEq, and_true]
    simp [SealedBatchRow.wire, SignBatch1Row.view, BatchSignRow.view, Table.content?]

/-- A photo without bytes is never the first. -/
theorem first_photo_skip (photo : Photo) (rest : PhotoResult) (skipped : photo.bytes = []) :
    firstPhoto (photo :: rest) = firstPhoto rest := by
  funext key
  simp [firstPhoto, skipped]

/-- A photo with bytes is the first of its key. -/
theorem first_photo_cons (photo : Photo) (rest : PhotoResult) (present : photo.bytes ≠ [])
    (key : String) :
    firstPhoto (photo :: rest) key =
      if photo.key = key then some photo.bytes else firstPhoto rest key := by
  by_cases same : photo.key = key <;> simp [firstPhoto, present, same]

/-- Every descriptor of a photo map exists. -/
def FdsMade (fds : PhotoFds) (table : Sealed) : Prop :=
  ∀ key fd, fds.lookup key = some fd → fd < table.contents.length

/-- Inserting a new photo under its key: a key already present keeps what it
reads. -/
theorem photo_view_emplace (fds : PhotoFds) (table : Sealed) (photo : Photo)
    (made : FdsMade fds table) (adopted : List Nat) (key : String) :
    photoView { table with contents := table.contents ++ [photo.bytes], adopted := adopted }
        (emplace fds photo.key table.contents.length) key =
      (photoView table fds key).or (if photo.key = key then some photo.bytes else none) := by
  by_cases same : photo.key = key
  · subst same
    cases found : fds.lookup photo.key with
    | none => simp [photoView, lookup_emplace, found, Table.content?]
    | some fd =>
      have bounded := made photo.key fd found
      simp [photoView, lookup_emplace, found, Table.content?, List.getElem?_append_left bounded, bounded]
  · have different : key ≠ photo.key := fun equal => same equal.symm
    cases found : fds.lookup key with
    | none => simp [photoView, lookup_emplace, found, different, same]
    | some fd =>
      have bounded := made key fd found
      simp [photoView, lookup_emplace, found, different, same, Table.content?,
        List.getElem?_append_left bounded]

/-- Inserting the newest descriptor keeps every descriptor of the map made. -/
theorem fds_made_emplace (fds : PhotoFds) (table : Sealed) (key : String) (bytes : Bytes)
    (adopted : List Nat) (made : FdsMade fds table) :
    FdsMade (emplace fds key table.contents.length)
      { table with contents := table.contents ++ [bytes], adopted := adopted } := by
  intro other fd found
  simp only [lookup_emplace] at found
  simp only [List.length_append, List.length_singleton]
  split_ifs at found with same
  · cases stored : fds.lookup key with
    | none =>
      simp only [stored, Option.getD_none, Option.some.injEq] at found
      omega
    | some earlier =>
      have bounded := made key earlier stored
      simp only [stored, Option.getD_some, Option.some.injEq] at found
      omega
  · have bounded := made other fd found
    omega

/-- Without failures the signal's map reads, at each key, the first photo of that
key that has bytes.

Induct over the photos: what the map reads already stays, the rest is read from
the photos still to come. -/
theorem photo_fds_clean (faults : Faults PhotoResult) (photos : PhotoResult) (index : Nat)
    (fds : PhotoFds) (table : Sealed) (made : FdsMade fds table)
    (clean : ∀ i, faults.sealing i = false ∧ faults.rowCopy i = false) :
    ∃ built after, photoFds faults index photos fds table = (some built, after) ∧
      ∀ key, photoView after built key = (photoView table fds key).or (firstPhoto photos key) := by
  induction photos generalizing index fds table with
  | nil => exact ⟨fds, table, rfl, by simp [firstPhoto]⟩
  | cons photo rest inductionHypothesis =>
    by_cases skipped : photo.bytes = []
    · obtain ⟨built, after, result, view⟩ := inductionHypothesis (index + 1) fds table made
      refine ⟨built, after, ?_, ?_⟩
      · simp only [photoFds, skipped, if_true, result]
      · rw [first_photo_skip photo rest skipped]
        exact view
    · obtain ⟨built, after, result, view⟩ := inductionHypothesis (index + 1)
        (emplace fds photo.key table.contents.length)
        { table with
          contents := table.contents ++ [photo.bytes]
          adopted := table.adopted ++ [table.contents.length] }
        (fds_made_emplace fds table photo.key photo.bytes _ made)
      refine ⟨built, after, ?_, ?_⟩
      · simp only [photoFds, Table.create, Table.adopt, skipped, clean, Bool.false_eq_true,
          if_false, result]
      · intro key
        rw [view, photo_view_emplace fds table photo made, first_photo_cons photo rest skipped,
          Option.or_assoc]
        split_ifs <;> simp

/-- What a vector of sealed photos reads at a key: its first photo of that key. -/
def sealedView (table : Sealed) (sealed : List SealedPhoto) : PhotoView :=
  fun key => (sealed.find? (fun photo => photo.key = key)).bind
    (fun photo => table.content? photo.fd)

/-- Every descriptor of a vector of sealed photos exists. -/
def SealedMade (sealed : List SealedPhoto) (table : Sealed) : Prop :=
  ∀ photo ∈ sealed, photo.fd < table.contents.length

/-- Appending a newly sealed photo: a key already present keeps what it reads. -/
theorem sealed_view_append (sealed : List SealedPhoto) (table : Sealed) (photo : Photo)
    (made : SealedMade sealed table) (key : String) :
    sealedView { table with contents := table.contents ++ [photo.bytes] }
        (sealed ++ [⟨photo.key, table.contents.length⟩]) key =
      (sealedView table sealed key).or (if photo.key = key then some photo.bytes else none) := by
  cases found : sealed.find? (fun photo => photo.key = key) with
  | none =>
    by_cases same : photo.key = key <;>
      simp [sealedView, found, same, Table.content?]
  | some earlier =>
    have bounded := made earlier (List.mem_of_find?_eq_some found)
    simp [sealedView, found, Table.content?, List.getElem?_append_left bounded, bounded]

/-- Appending a newly sealed photo keeps every descriptor of the vector made. -/
theorem sealed_made_append (sealed : List SealedPhoto) (table : Sealed) (photo : Photo)
    (made : SealedMade sealed table) :
    SealedMade (sealed ++ [⟨photo.key, table.contents.length⟩])
      { table with contents := table.contents ++ [photo.bytes] } := by
  intro other member
  rw [List.length_append, List.length_singleton]
  rcases List.mem_append.mp member with earlier | newest
  · exact Nat.lt_succ_of_lt (made other earlier)
  · rw [List.mem_singleton.mp newest]
    exact Nat.lt_succ_self _

/-- Without failures the recovery's vector reads, at each key, the first photo of
that key that has bytes. -/
theorem seal_photos_clean (faults : Faults PhotoResult) (photos : PhotoResult) (index : Nat)
    (sealed : List SealedPhoto) (table : Sealed) (made : SealedMade sealed table)
    (clean : ∀ i, faults.sealing i = false ∧ faults.rowCopy i = false) :
    ∃ built after, sealPhotos faults index photos sealed table = (some built, after) ∧
      ∀ key, sealedView after built key =
        (sealedView table sealed key).or (firstPhoto photos key) := by
  induction photos generalizing index sealed table with
  | nil => exact ⟨sealed, table, rfl, by simp [firstPhoto]⟩
  | cons photo rest inductionHypothesis =>
    by_cases skipped : photo.bytes = []
    · obtain ⟨built, after, result, view⟩ := inductionHypothesis (index + 1) sealed table made
      refine ⟨built, after, ?_, ?_⟩
      · simp only [sealPhotos, skipped, if_true, result]
      · rw [first_photo_skip photo rest skipped]
        exact view
    · obtain ⟨built, after, result, view⟩ := inductionHypothesis (index + 1)
        (sealed ++ [⟨photo.key, table.contents.length⟩])
        { table with contents := table.contents ++ [photo.bytes] }
        (sealed_made_append sealed table photo made)
      refine ⟨built, after, ?_, ?_⟩
      · simp only [sealPhotos, Table.create, skipped, clean, Bool.false_eq_true, if_false, result]
      · intro key
        rw [view, sealed_view_append sealed table photo made, first_photo_cons photo rest skipped,
          Option.or_assoc]
        split_ifs <;> simp

/-- Without failures adopting a vector of photos reads, at each key, what the map
read already, else the vector's first photo of that key. -/
theorem adopt_photos_clean (faults : Faults PhotoResult) (sealed : List SealedPhoto) (index : Nat)
    (fds : PhotoFds) (table : Sealed) (clean : ∀ i, faults.wireRow i = false) :
    ∃ built after, adoptPhotos faults index sealed fds table = (some built, after) ∧
      after.contents = table.contents ∧
      ∀ key, built.lookup key = (fds.lookup key).or
        ((sealed.find? (fun photo => photo.key = key)).map SealedPhoto.fd) := by
  induction sealed generalizing index fds table with
  | nil => exact ⟨fds, table, rfl, rfl, by simp⟩
  | cons photo rest inductionHypothesis =>
    obtain ⟨built, after, result, contents, view⟩ := inductionHypothesis (index + 1)
      (emplace fds photo.key photo.fd) (table.adopt photo.fd)
    refine ⟨built, after, ?_, contents, ?_⟩
    · simp only [adoptPhotos, clean, Bool.false_eq_true, if_false, result]
    · intro key
      rw [view, lookup_emplace]
      by_cases same : photo.key = key
      · subst same
        cases fds.lookup photo.key <;> simp
      · have different : key ≠ photo.key := fun equal => same equal.symm
        simp [same, different]

/-- The photo recovery call returns the first photo of each key, whatever
descriptors exist. -/
theorem photo_recovered (photos : PhotoResult) (table : Sealed) :
    (photoGetResult {} { ready := true, payload := photos } table).1 = some (firstPhoto photos) := by
  obtain ⟨sealed, held, sealing, view⟩ := seal_photos_clean {} photos 0 [] table
    (fun photo member => absurd member List.not_mem_nil) (fun _ => ⟨rfl, rfl⟩)
  obtain ⟨fds, after, adopting, contents, lookups⟩ := adopt_photos_clean {} sealed 0 ∅ held
    (fun _ => rfl)
  simp only [photoGetResult, sealStoredPhotos, Bool.false_eq_true, false_and, if_false, if_true,
    sealing, adopting, Option.some.injEq]
  funext key
  have read := view key
  simp only [sealedView, List.find?_nil, Option.bind_none, Option.none_or] at read
  rw [← read, photoView, lookups key]
  simp only [Finmap.lookup_empty, Option.none_or, Option.bind_map]
  congr 1
  funext photo
  simp only [Function.comp_apply, Table.content?, contents]

/-- Without failures a batch is sealed and put on the wire row by row, and a
receiver reads the rows. -/
theorem batch_wire_clean (faults : Faults BatchSignResult) (rows : BatchSignResult) (table : Sealed)
    (reserved : faults.reserve = false) (wired : faults.wireReserve = false)
    (clean : ∀ i, faults.sealing i = false ∧ faults.rowCopy i = false)
    (cleanWire : ∀ i, faults.wireRow i = false) :
    ∃ sealed held wire after, sealBatch faults rows table = (some sealed, held) ∧
      batchWire faults sealed held = (some wire, after) ∧
      wire.map (SignBatch1Row.view after) = rows.map BatchSignRow.view := by
  have sealing : sealBatch faults rows table = sealRows faults 0 rows [] table := by
    simp only [sealBatch, reserved, Bool.false_eq_true, false_and, if_false]
  have wiring (sealed : List SealedBatchRow) (held : Sealed) :
      batchWire faults sealed held = adoptRows faults 0 sealed [] held := by
    simp only [batchWire, wired, Bool.false_eq_true, false_and, if_false]
  refine ⟨_, _, _, _, sealing.trans (seal_rows_clean faults rows 0 [] table clean),
    (wiring _ _).trans (adopt_rows_clean faults _ 0 [] _ cleanWire), ?_⟩
  rw [List.nil_append, List.nil_append, List.map_map]
  exact view_sealed_from rows table.contents _ _

/-- The batch recovery call returns every row in order, whatever descriptors
exist. -/
theorem sign_batch_recovered (rows : BatchSignResult) (table : Sealed) :
    (signBatchGetResult {} { ready := true, payload := rows } table).1 =
      some (rows.map BatchSignRow.view) := by
  obtain ⟨sealed, held, wire, after, sealing, adopting, view⟩ :=
    batch_wire_clean {} rows table rfl rfl (fun _ => ⟨rfl, rfl⟩) (fun _ => rfl)
  simp only [signBatchGetResult, sealStoredSignBatchResult, if_true, sealing, adopting, view]

/-- The signing recovery call returns the artifact, whatever descriptors exist. -/
theorem sign_recovered (artifact : SignedArtifact) (table : Sealed) :
    (signGetResult {} { ready := true, payload := artifact } table).1 =
      some (some artifact.bytes, toMetaVariants artifact.info) := by
  simp [signGetResult, sealStoredResult, Table.create, Table.content?]

/-- If the delivery sent a signal, it carried the expected value, and every
recovery call returns it, however many there are and whatever descriptors exist
by then. -/
def Recovers {P W : Type} (channel : Channel P W) (delivery : Delivery P W) (expected : W)
    (getResult : TypedResultState P → Sealed → Option W × Sealed) : Prop :=
  ∀ wire, delivery.channel.signals = channel.signals ++ [wire] →
    wire = expected ∧ ∀ count table,
      recoveries (getResult delivery.channel.store) count table =
        List.replicate count (some wire)

/-- A delivery recovers when it emits the expected value and its store answers
with it. -/
theorem recovers_of_answer {P W : Type} (channel : Channel P W) (payload : P) (fails : Bool)
    (status : Bool) (table : Sealed) (expected : W)
    (getResult : TypedResultState P → Sealed → Option W × Sealed)
    (answers : ∀ table, (getResult { ready := true, payload } table).1 = some expected) :
    Recovers channel ⟨status, channel.emit { ready := true, payload } fails expected, table⟩
      expected getResult := by
  intro wire sent
  have same := emitted_eq channel _ fails expected wire sent
  refine ⟨same, fun count table => ?_⟩
  rw [same]
  exact recoveries_eq _ expected answers count table

/-- The inline channels recover: one builder serves the signal and the call. -/
theorem inline_recovers {P W : Type} (build : P → W) (emitFails : Bool) (channel : Channel P W)
    (payload : P) :
    Recovers channel (inlineEmitResult build { emit := emitFails } channel payload) (build payload)
      (fun store table => (inlineGetResult build {} store, table)) :=
  recovers_of_answer channel payload emitFails true {} (build payload) _ (fun _ => rfl)

/-- The signing channel recovers. -/
theorem sign_recovers (emitFails : Bool) (channel : Channel SignedArtifact SignView)
    (artifact : SignedArtifact) (table : Sealed) :
    Recovers channel (signEmitResult { emit := emitFails } channel artifact table)
      (some artifact.bytes, toMetaVariants artifact.info) (signGetResult {}) := by
  simp only [signEmitResult, publishSealedResult, publishResult, Table.create,
    Bool.false_eq_true, if_false, Table.content?, List.getElem?_concat_length]
  exact recovers_of_answer channel artifact emitFails true _ _ _ (sign_recovered artifact)

/-- The batch channel recovers. -/
theorem sign_batch_recovers (emitFails : Bool)
    (channel : Channel BatchSignResult (List BatchRowView)) (rows : BatchSignResult)
    (table : Sealed) :
    Recovers channel (signBatchEmitResult { emit := emitFails } channel rows table)
      (rows.map BatchSignRow.view) (signBatchGetResult {}) := by
  obtain ⟨sealed, held, wire, after, sealing, adopting, view⟩ :=
    batch_wire_clean { emit := emitFails } rows table rfl rfl (fun _ => ⟨rfl, rfl⟩) (fun _ => rfl)
  simp only [signBatchEmitResult, publishSealedSignBatchResult, sealing, publishResult, adopting,
    view]
  exact recovers_of_answer channel rows emitFails true after _ _ (sign_batch_recovered rows)

/-- The photo channel recovers; without a photo to seal it sends nothing. -/
theorem photo_recovers (emitFails : Bool) (channel : Channel PhotoResult PhotoView)
    (photos : PhotoResult) (table : Sealed) :
    Recovers channel (photoEmitResult { emit := emitFails } channel photos table)
      (firstPhoto photos) (photoGetResult {}) := by
  obtain ⟨fds, after, building, view⟩ := photo_fds_clean { emit := emitFails } photos 0 ∅ table
    (fun key fd found => by simp at found) (fun _ => ⟨rfl, rfl⟩)
  have read : photoView after fds = firstPhoto photos := by
    funext key
    rw [view key]
    simp [photoView]
  simp only [photoEmitResult, building, read]
  by_cases nothing : fds = ∅
  · intro wire sent
    simp [nothing] at sent
  · simp only [nothing, if_false, publishResult]
    exact recovers_of_answer channel photos emitFails true after _ _ (photo_recovered photos)

/-- When nothing fails to be sealed or allocated, every recovery call after a
signal was sent returns what that signal carried. A photo signal carries the
first photo with bytes of each key; a batch signal every row, in request order, a
failed one with its empty bytes. -/
theorem recovery_equals_signal {κ : Type} (keyTypeToken : κ → String) (emitFails : Bool) :
    (∀ channel photos table,
      Recovers channel (photoEmitResult { emit := emitFails } channel photos table)
        (firstPhoto photos) (photoGetResult {})) ∧
    (∀ channel rows table,
      Recovers channel (signBatchEmitResult { emit := emitFails } channel rows table)
        (rows.map BatchSignRow.view) (signBatchGetResult {})) ∧
    (∀ channel artifact table,
      Recovers channel (signEmitResult { emit := emitFails } channel artifact table)
        (some artifact.bytes, toMetaVariants artifact.info) (signGetResult {})) ∧
    (∀ channel snapshot,
      Recovers channel (identityEmitResult { emit := emitFails } channel snapshot)
        (buildIdentity1Wire snapshot)
        (fun store table => (identityGetResult {} store, table))) ∧
    (∀ channel certs,
      Recovers channel (certificatesEmitResult keyTypeToken { emit := emitFails } channel certs)
        (buildCertificates1Wire keyTypeToken certs)
        (fun store table => (certificatesGetResult keyTypeToken {} store, table))) ∧
    (∀ channel result,
      Recovers channel (credentialsEmitResult { emit := emitFails } channel result)
        (buildCredentials1Wire result)
        (fun store table => (credentialsGetResult {} store, table))) :=
  ⟨photo_recovers emitFails, sign_batch_recovers emitFails, sign_recovers emitFails,
    inline_recovers buildIdentity1Wire emitFails,
    inline_recovers (buildCertificates1Wire keyTypeToken) emitFails,
    inline_recovers buildCredentials1Wire emitFails⟩

/-- Two portraits under one key, an entry without bytes before them. -/
def portraits : PhotoResult :=
  [⟨"personal:photo", []⟩, ⟨"personal:photo", [0xff, 0xd8]⟩, ⟨"personal:photo", [0x00]⟩]

/-- A batch whose second row failed. -/
def failedRow : BatchSignResult := [⟨"a.pdf", [0x25], {}, 0⟩, ⟨"b.pdf", [], {}, 7⟩]

/-- Both were sent, and every recovery call returns what was sent: the first portrait with bytes,
and both rows. -/
theorem portrait_and_failed_row_recovered :
    (∃ wire, (photoEmitResult {} (Channel.fresh []) portraits {}).channel.signals = [wire] ∧
      wire = firstPhoto portraits ∧ wire "personal:photo" = some [0xff, 0xd8] ∧
        ∀ count table,
          recoveries (photoGetResult {}
            (photoEmitResult {} (Channel.fresh []) portraits {}).channel.store) count table =
              List.replicate count (some wire)) ∧
      ∃ wire, (signBatchEmitResult {} (Channel.fresh []) failedRow {}).channel.signals = [wire] ∧
        wire = failedRow.map BatchSignRow.view ∧
          wire.map BatchRowView.bytes = [some [0x25], some []] ∧
          ∀ count table,
            recoveries (signBatchGetResult {}
              (signBatchEmitResult {} (Channel.fresh []) failedRow {}).channel.store) count table =
                List.replicate count (some wire) := by
  obtain ⟨photos, rows, -⟩ := recovery_equals_signal (fun _ : Unit => "") false
  constructor
  · have once : (photoEmitResult {} (Channel.fresh []) portraits {}).channel.signals.length = 1 := by
      decide +kernel
    obtain ⟨wire, sent⟩ := List.length_eq_one_iff.mp once
    obtain ⟨rfl, recovered⟩ := photos (Channel.fresh []) portraits {} wire sent
    exact ⟨_, sent, rfl, by decide, recovered⟩
  · have sent : (signBatchEmitResult {} (Channel.fresh []) failedRow {}).channel.signals =
        [] ++ [failedRow.map BatchSignRow.view] := by
      decide +kernel
    obtain ⟨same, recovered⟩ := rows (Channel.fresh []) failedRow {} _ sent
    exact ⟨_, sent, same, by decide, recovered⟩

end Recovery

end LibreLinux.Results
