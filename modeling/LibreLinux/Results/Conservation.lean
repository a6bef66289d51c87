import LibreLinux.Results.Channels

/-!
# Which failures leak a descriptor

The functions that seal results hold raw descriptors in a vector while later
seals, copies and reservations can still fail. Their handlers close what is in
the vector. Two points are not covered: the copy of a batch row that fails after
the row was sealed, before its descriptor is in the vector; and the reservation
of the wire vector, before any descriptor is adopted. These are the only leaks:
every call in which neither is the first failure disposes of each descriptor
exactly once.
-/

namespace LibreLinux.Results

open Descriptors Table

/-- Counting from `start`, some row's copy fails with its seal and all seals
before it done. -/
def CopyFails (faults : Faults BatchSignResult) (start count : Nat) : Prop :=
  ∃ i, start ≤ i ∧ i < start + count ∧ faults.rowCopy i = true ∧
    ∀ j, start ≤ j → j ≤ i → faults.sealing j = false

/-- Counting from `start`, every seal and every copy is done. -/
def AllSealed (faults : Faults BatchSignResult) (start count : Nat) : Prop :=
  ∀ i, start ≤ i → i < start + count → faults.sealing i = false ∧ faults.rowCopy i = false

/-- The first row's copy fails, or a later one's. -/
theorem copy_fails_succ (faults : Faults BatchSignResult) (start count : Nat) :
    CopyFails faults start (count + 1) ↔
      faults.sealing start = false ∧
        (faults.rowCopy start = true ∨ CopyFails faults (start + 1) count) := by
  constructor
  · rintro ⟨i, low, high, fails, done⟩
    refine ⟨done start (Nat.le_refl _) low, ?_⟩
    by_cases first : i = start
    · exact Or.inl (first ▸ fails)
    · exact Or.inr ⟨i, by omega, by omega, fails, fun j after before => done j (by omega) before⟩
  · rintro ⟨sealed, fails | ⟨i, low, high, fails, done⟩⟩
    · refine ⟨start, Nat.le_refl _, by omega, fails, ?_⟩
      intro j low high
      rw [Nat.le_antisymm high low]
      exact sealed
    · refine ⟨i, by omega, by omega, fails, ?_⟩
      intro j low high
      by_cases first : j = start
      · exact first ▸ sealed
      · exact done j (by omega) high

/-- The first row is sealed and copied, and so are the later ones. -/
theorem all_sealed_succ (faults : Faults BatchSignResult) (start count : Nat) :
    AllSealed faults start (count + 1) ↔
      (faults.sealing start = false ∧ faults.rowCopy start = false) ∧
        AllSealed faults (start + 1) count := by
  constructor
  · intro all
    exact ⟨all start (Nat.le_refl _) (by omega), fun i low high => all i (by omega) (by omega)⟩
  · rintro ⟨first, rest⟩ i low high
    by_cases same : i = start
    · exact same ▸ first
    · exact rest i (by omega) (by omega)

/-- The loop over the rows. It succeeds exactly when every row is sealed and
copied, with one sealed row for each. A copy that fails after its seal forgets
that one descriptor; in every other case nothing is forgotten.

Induct over the rows with the descriptors sealed so far held. -/
theorem seal_rows_account (faults : Faults BatchSignResult) (rows : BatchSignResult) (index : Nat)
    (sealed : List SealedBatchRow) (table : Sealed) (conserved : table.Conserved (rowFds sealed)) :
    ((sealRows faults index rows sealed table).1.isSome = true ↔
      AllSealed faults index rows.length) ∧
    (∀ built, (sealRows faults index rows sealed table).1 = some built →
      built.length = sealed.length + rows.length ∧
        (sealRows faults index rows sealed table).2.Conserved (rowFds built)) ∧
    ((sealRows faults index rows sealed table).1 = none →
      (CopyFails faults index rows.length →
        ∃ fd, (sealRows faults index rows sealed table).2.Conserved [fd]) ∧
      (¬ CopyFails faults index rows.length →
        (sealRows faults index rows sealed table).2.Conserved [])) := by
  induction rows generalizing index sealed table with
  | nil =>
    refine ⟨?_, ?_, ?_⟩
    · simp only [sealRows, Option.isSome_some, List.length_nil, true_iff]
      intro i low high
      omega
    · intro built result
      cases Option.some.inj result
      exact ⟨by simp, conserved⟩
    · intro result
      cases result
  | cons row rest inductionHypothesis =>
    rw [List.length_cons, all_sealed_succ, copy_fails_succ]
    cases failing : faults.sealing index with
    | true =>
      have closed : (table.close (rowFds sealed)).Conserved [] :=
        conserved_close _ (by simpa using conserved)
      simp [sealRows, create, failing, closed]
    | false =>
      have held := conserved_create row.bytes conserved
      cases copying : faults.rowCopy index with
      | true =>
        have forgotten : ((table.create row.bytes false).2.close (rowFds sealed)).Conserved
            [table.contents.length] := conserved_close _ held
        simp only [create, Bool.false_eq_true, if_false] at forgotten
        simp only [sealRows, create, failing, copying, Bool.false_eq_true, if_false, if_true]
        simp only [Option.isSome_none, Bool.false_eq_true, and_false, false_and, reduceCtorEq,
          IsEmpty.forall_iff, implies_true, true_or, and_true, not_true, forall_const, true_and]
        exact ⟨_, forgotten⟩
      | false =>
        simp only [create, Bool.false_eq_true, if_false] at held
        have step := inductionHypothesis (index + 1)
          (sealed ++ [⟨row.displayName, table.contents.length, row.info, row.code⟩])
          { table with contents := table.contents ++ [row.bytes] }
          (by simpa [rowFds] using held)
        simp only [sealRows, create, failing, copying, Bool.false_eq_true, if_false, and_self,
          true_and, false_or]
        refine ⟨step.1, ?_, step.2.2⟩
        intro built result
        obtain ⟨length, kept⟩ := step.2.1 built result
        refine ⟨?_, kept⟩
        simp only [List.length_append, List.length_singleton] at length
        omega

/-- Some batch row is sealed and then cannot be copied. -/
def RowCopyLeaks (faults : Faults BatchSignResult) (count : Nat) : Prop :=
  faults.reserve = false ∧ CopyFails faults 0 count

/-- A batch is sealed completely and then its wire vector cannot be reserved. -/
def WireReserveLeaks (faults : Faults BatchSignResult) (count : Nat) : Prop :=
  0 < count ∧ faults.reserve = false ∧ AllSealed faults 0 count ∧ faults.wireReserve = true

/-- A copy that fails is one that was not done. -/
theorem not_all_sealed (faults : Faults BatchSignResult) (start count : Nat)
    (fails : CopyFails faults start count) : ¬ AllSealed faults start count := by
  obtain ⟨i, low, high, copying, -⟩ := fails
  intro all
  have copied := (all i low high).2
  rw [copying] at copied
  cases copied

/-- Only a row's copy can fail. -/
theorem copy_fails_pos (faults : Faults BatchSignResult) (start count : Nat)
    (fails : CopyFails faults start count) : 0 < count := by
  obtain ⟨i, low, high, -⟩ := fails
  omega

/-- Adopting sealed rows disposes of every one of them, whether or not a wire row
fails.

Induct over the rows still held. -/
theorem adopt_rows_conserved (faults : Faults BatchSignResult) (sealed : List SealedBatchRow)
    (index : Nat) (wire : List SignBatch1Row) (table : Sealed)
    (conserved : table.Conserved (rowFds sealed)) :
    (adoptRows faults index sealed wire table).2.Conserved [] := by
  induction sealed generalizing index wire table with
  | nil => exact conserved
  | cons row rest inductionHypothesis =>
    have adopted : (table.adopt row.fd).Conserved (rowFds rest) := conserved_adopt row.fd conserved
    cases failing : faults.wireRow index with
    | true =>
      simp only [adoptRows, failing, if_true]
      exact conserved_close _ (by simpa using adopted)
    | false =>
      simp only [adoptRows, failing, Bool.false_eq_true, if_false]
      exact inductionHypothesis _ _ _ adopted

/-- Building the wire of sealed rows forgets them exactly when there are some and
the wire vector cannot be reserved. -/
theorem batch_wire_conserved_iff (faults : Faults BatchSignResult) (sealed : List SealedBatchRow)
    (table : Sealed) (conserved : table.Conserved (rowFds sealed)) :
    (batchWire faults sealed table).2.Conserved [] ↔
      ¬ (0 < sealed.length ∧ faults.wireReserve = true) := by
  by_cases reserving : faults.wireReserve = true ∧ sealed ≠ []
  · simp only [batchWire, reserving, ne_eq, not_false_eq_true, and_self, if_true]
    have held : rowFds sealed ≠ [] := by simpa [rowFds] using reserving.2
    have positive : 0 < sealed.length := List.length_pos_of_ne_nil reserving.2
    exact iff_of_false (not_conserved_forgotten held conserved) (not_not_intro ⟨positive, trivial⟩)
  · simp only [batchWire, reserving, if_false]
    apply iff_of_true (adopt_rows_conserved faults sealed 0 [] table conserved)
    rintro ⟨positive, fails⟩
    exact reserving ⟨fails, List.ne_nil_of_length_pos positive⟩

/-- Sealing a batch ends in one of two ways. It fails, holds nothing, and forgot a
descriptor exactly when a copy leaks. Or it holds a descriptor for each row, and
building the wire disposes of them all unless the wire vector leaks. -/
theorem seal_batch_cases (faults : Faults BatchSignResult) (rows : BatchSignResult) :
    (∃ table, sealBatch faults rows {} = (none, table) ∧ ¬ WireReserveLeaks faults rows.length ∧
      (table.Conserved [] ↔ ¬ RowCopyLeaks faults rows.length)) ∨
    (∃ sealed table, sealBatch faults rows {} = (some sealed, table) ∧
      table.Conserved (rowFds sealed) ∧ ¬ RowCopyLeaks faults rows.length ∧
      ((batchWire faults sealed table).2.Conserved [] ↔
        ¬ WireReserveLeaks faults rows.length)) := by
  by_cases reserving : faults.reserve = true ∧ rows ≠ []
  · refine Or.inl ⟨{}, by simp only [sealBatch, reserving, ne_eq, not_false_eq_true, and_self,
      if_true], ?_, iff_of_true conserved_empty ?_⟩
    · rintro ⟨-, reserved, -⟩
      simp [reserving.1] at reserved
    · rintro ⟨reserved, -⟩
      simp [reserving.1] at reserved
  have reserved : 0 < rows.length → faults.reserve = false := by
    intro positive
    simpa [List.ne_nil_of_length_pos positive] using reserving
  obtain ⟨complete, kept, dropped⟩ := seal_rows_account faults rows 0 [] {} conserved_empty
  simp only [sealBatch, reserving, if_false]
  cases result : sealRows faults 0 rows [] {} with
  | mk built table =>
    rw [result] at complete kept dropped
    cases built with
    | none =>
      have partly : ¬ AllSealed faults 0 rows.length := by simpa using complete
      refine Or.inl ⟨table, rfl, fun leaks => partly leaks.2.2.1, ?_⟩
      by_cases copying : CopyFails faults 0 rows.length
      · obtain ⟨fd, conserved⟩ := (dropped rfl).1 copying
        have leaks : RowCopyLeaks faults rows.length :=
          ⟨reserved (copy_fails_pos faults 0 _ copying), copying⟩
        exact iff_of_false (not_conserved_forgotten (List.cons_ne_nil _ _) conserved)
          (not_not_intro leaks)
      · exact iff_of_true ((dropped rfl).2 copying) (fun leaks => copying leaks.2)
    | some sealed =>
      have all : AllSealed faults 0 rows.length := complete.mp rfl
      obtain ⟨length, conserved⟩ := kept sealed rfl
      rw [List.length_nil, Nat.zero_add] at length
      refine Or.inr ⟨sealed, table, rfl, conserved,
        fun leaks => not_all_sealed faults 0 _ leaks.2 all, ?_⟩
      rw [batch_wire_conserved_iff faults sealed table conserved, length, not_iff_not]
      constructor
      · rintro ⟨positive, fails⟩
        exact ⟨positive, reserved positive, all, fails⟩
      · rintro ⟨positive, -, -, fails⟩
        exact ⟨positive, fails⟩

/-- Sealing photos hands over what it returns and closes everything else.

Induct over the photos with the descriptors sealed so far held; every failure
closes them and the one just made. -/
theorem seal_photos_conserved (faults : Faults PhotoResult) (photos : PhotoResult) (index : Nat)
    (sealed : List SealedPhoto) (table : Sealed)
    (conserved : table.Conserved (sealed.map SealedPhoto.fd)) :
    (sealPhotos faults index photos sealed table).2.Conserved
      (((sealPhotos faults index photos sealed table).1.getD []).map SealedPhoto.fd) := by
  induction photos generalizing index sealed table with
  | nil => exact conserved
  | cons photo rest inductionHypothesis =>
    by_cases skipped : photo.bytes = []
    · simp only [sealPhotos, skipped, if_true]
      exact inductionHypothesis _ _ _ conserved
    cases failing : faults.sealing index with
    | true =>
      simp only [sealPhotos, create, skipped, failing, if_true, if_false, Option.getD_none,
        List.map_nil]
      exact conserved_close _ (by simpa using conserved)
    | false =>
      have held := conserved_create photo.bytes conserved
      simp only [create, Bool.false_eq_true, if_false] at held
      cases copying : faults.rowCopy index with
      | true =>
        simp only [sealPhotos, create, skipped, failing, copying, Bool.false_eq_true, if_true,
          if_false, Option.getD_none, List.map_nil]
        refine conserved_close _ (conserved_close _ (conserved_perm _ ?_ held))
        simp only [List.append_nil]
        exact List.perm_append_comm
      | false =>
        simp only [sealPhotos, create, skipped, failing, copying, Bool.false_eq_true, if_false]
        exact inductionHypothesis _ _ _ (by simpa using held)

/-- Publishing an artifact hands its descriptor to the caller or closes it. -/
theorem publish_sealed_conserved (faults : Faults SignedArtifact)
    (state : TypedResultState SignedArtifact) (artifact : SignedArtifact) :
    (publishSealedResult faults state artifact {}).2.2.Conserved
      (publishSealedResult faults state artifact {}).1.toList := by
  cases failing : faults.sealing 0 with
  | true =>
    simp only [publishSealedResult, create, failing, if_true, Option.toList_none]
    exact conserved_empty
  | false =>
    have held := conserved_create artifact.bytes conserved_empty
    simp only [create, Bool.false_eq_true, if_false, List.nil_append] at held
    cases copying : faults.storeCopy with
    | some torn =>
      simp only [publishSealedResult, publishResult, create, failing, copying, Bool.false_eq_true,
        if_false, Option.toList_none]
      exact conserved_close _ held
    | none =>
      simp only [publishSealedResult, publishResult, create, failing, copying, Bool.false_eq_true,
        if_false, Option.toList_some]
      exact held

/-- A call of one of the functions that seal results, with its failures and the
store it meets. -/
inductive SealingCall where
  | publishSealedResult (faults : Faults SignedArtifact) (state : TypedResultState SignedArtifact)
      (artifact : SignedArtifact)
  | sealStoredPhotos (faults : Faults PhotoResult) (state : TypedResultState PhotoResult)
  | publishSealedSignBatchResult (faults : Faults BatchSignResult)
      (state : TypedResultState BatchSignResult) (rows : BatchSignResult)
  | sealStoredSignBatchResult (faults : Faults BatchSignResult)
      (state : TypedResultState BatchSignResult)
  | signBatchGetResult (faults : Faults BatchSignResult) (state : TypedResultState BatchSignResult)
  | signBatchEmitResult (faults : Faults BatchSignResult)
      (channel : Channel BatchSignResult (List BatchRowView)) (rows : BatchSignResult)

namespace SealingCall

/-- The descriptors the caller is left with, and the call's descriptor table. -/
def perform : SealingCall → List Nat × Sealed
  | publishSealedResult faults state artifact =>
    let result := Results.publishSealedResult faults state artifact {}
    (result.1.toList, result.2.2)
  | sealStoredPhotos faults state =>
    let result := Results.sealStoredPhotos faults state {}
    ((result.1.getD []).map SealedPhoto.fd, result.2)
  | publishSealedSignBatchResult faults state rows =>
    let result := Results.publishSealedSignBatchResult faults state rows {}
    (rowFds (result.1.getD []), result.2.2)
  | sealStoredSignBatchResult faults state =>
    let result := Results.sealStoredSignBatchResult faults state {}
    (rowFds (result.1.getD []), result.2)
  | signBatchGetResult faults state => ([], (Results.signBatchGetResult faults state {}).2)
  | signBatchEmitResult faults channel rows =>
    ([], (Results.signBatchEmitResult faults channel rows {}).table)

/-- The failures that leak: a batch row whose copy fails after its seal, and in
the two functions that build a batch wire, a wire vector that cannot be
reserved. -/
def Leaks : SealingCall → Prop
  | publishSealedResult _ _ _ => False
  | sealStoredPhotos _ _ => False
  | publishSealedSignBatchResult faults _ rows => RowCopyLeaks faults rows.length
  | sealStoredSignBatchResult faults state =>
    state.ready = true ∧ RowCopyLeaks faults state.payload.length
  | signBatchGetResult faults state =>
    state.ready = true ∧
      (RowCopyLeaks faults state.payload.length ∨ WireReserveLeaks faults state.payload.length)
  | signBatchEmitResult faults _ rows =>
    RowCopyLeaks faults rows.length ∨
      (faults.storeCopy = none ∧ WireReserveLeaks faults rows.length)

/-- When a call has returned or thrown, every descriptor it created is handed to
the caller, adopted or closed. The account is a permutation of the created
descriptors, so none of them is disposed of twice and none is handed over or
adopted once closed. -/
def Accounts (call : SealingCall) : Prop := call.perform.2.Conserved call.perform.1

instance (call : SealingCall) : Decidable call.Accounts :=
  inferInstanceAs (Decidable (Conserved _ _))

/-- Descriptors are conserved exactly when the call's failures do not leak. -/
theorem accounts_iff (call : SealingCall) : call.Accounts ↔ ¬ call.Leaks := by
  cases call with
  | publishSealedResult faults state artifact =>
    exact iff_of_true (publish_sealed_conserved faults state artifact) not_false
  | sealStoredPhotos faults state =>
    refine iff_of_true ?_ not_false
    simp only [Accounts, perform, Results.sealStoredPhotos]
    split_ifs
    · exact conserved_empty
    · exact seal_photos_conserved faults state.payload 0 [] {} conserved_empty
    · exact conserved_empty
  | publishSealedSignBatchResult faults state rows =>
    simp only [Accounts, perform, Leaks, Results.publishSealedSignBatchResult]
    obtain ⟨table, result, -, conserved⟩ | ⟨sealed, table, result, conserved, copied, -⟩ :=
      seal_batch_cases faults rows
    · rw [result]
      exact conserved
    · rw [result]
      refine iff_of_true ?_ copied
      cases copying : faults.storeCopy with
      | none =>
        simp only [publishResult, copying]
        exact conserved
      | some torn =>
        simp only [publishResult, copying]
        exact conserved_close _ (by simpa [rowFds] using conserved)
  | sealStoredSignBatchResult faults state =>
    simp only [Accounts, perform, Leaks, Results.sealStoredSignBatchResult]
    cases ready : state.ready with
    | false => exact iff_of_true conserved_empty (by simp)
    | true =>
      simp only [if_true, true_and]
      obtain ⟨table, result, -, conserved⟩ | ⟨sealed, table, result, conserved, copied, -⟩ :=
        seal_batch_cases faults state.payload
      · rw [result]
        exact conserved
      · rw [result]
        exact iff_of_true conserved copied
  | signBatchGetResult faults state =>
    simp only [Accounts, perform, Leaks, Results.signBatchGetResult,
      Results.sealStoredSignBatchResult]
    cases ready : state.ready with
    | false => exact iff_of_true conserved_empty (by simp)
    | true =>
      simp only [if_true, true_and]
      obtain ⟨table, result, wired, conserved⟩ | ⟨sealed, table, result, -, copied, adopted⟩ :=
        seal_batch_cases faults state.payload
      · rw [result, or_iff_left wired]
        exact conserved
      · rw [result, or_iff_right copied, ← adopted]
        simp only
        rcases batchWire faults sealed table with ⟨_ | wire, rest⟩ <;> exact Iff.rfl
  | signBatchEmitResult faults channel rows =>
    simp only [Accounts, perform, Leaks, Results.signBatchEmitResult,
      Results.publishSealedSignBatchResult]
    obtain ⟨table, result, wired, conserved⟩ | ⟨sealed, table, result, held, copied, adopted⟩ :=
      seal_batch_cases faults rows
    · rw [result, or_iff_left (fun leaks => wired leaks.2)]
      exact conserved
    · rw [result, or_iff_right copied]
      cases copying : faults.storeCopy with
      | some torn =>
        simp only [publishResult, copying]
        exact iff_of_true (conserved_close _ (by simpa using held)) (by simp)
      | none =>
        simp only [publishResult, copying, true_and, ← adopted]
        rcases batchWire faults sealed table with ⟨_ | wire, rest⟩ <;> exact Iff.rfl

/-- One row is sealed and its name, too long for a string without an allocation,
cannot be copied. -/
def unnamedRow : SealingCall :=
  .publishSealedSignBatchResult { rowCopy := fun _ => true } { payload := [] }
    [⟨"annual-accounts-2026.pdf", [0x25, 0x50], {}, 0⟩]

/-- The unnamed row's descriptor is neither handed over nor closed. -/
theorem unnamed_row_leaks : ¬ unnamedRow.Accounts := by
  decide +kernel

end SealingCall

end LibreLinux.Results
