import LibreLinux.Agent.PrompterClient
import LibreLinux.Lib.Transfers
import Mathlib.Data.Nat.Bitwise
import Mathlib.Logic.Function.Basic

/-!
# A secret in a sealed memfd

The creator writes the bytes into a new memfd and seals it against shrinking,
growing and writing. The reader, in another process, requires these seals, refuses a
file above the cap, and reads it from its start. Both move the bytes in a loop that
the kernel may cut short or interrupt at every call, and every call of theirs may
fail. Both give up their descriptor when they fail, and the reader always does.

A file is its bytes and its seals; one without seals to ask for is not a memfd. The
seals that the reader requires keep the bytes as they are while it reads. The
descriptors of a process are a table that knows which numbers are free. Wiping the
buffers changes nothing that is returned and is not modelled.
-/

namespace LibreLinux.Agent

open Transfers

/-- A system call's error number. -/
abbrev Errno := Nat

/-- The call was interrupted. -/
def kEintr : Errno := 4

/-- The write made no progress. -/
def kEio : Errno := 5

/-- No shrinking. -/
def kSealShrink : Nat := 2

/-- No growing. -/
def kSealGrow : Nat := 4

/-- No writing. -/
def kSealWrite : Nat := 8

/-- The seals the creator adds. -/
def kCreatorSeals : Nat := kSealShrink ||| kSealGrow ||| kSealWrite

/-- The seals the reader requires. -/
def kRequiredSeals : Nat := kSealWrite ||| kSealShrink ||| kSealGrow

/-- A file, with its seals if it is a memfd. -/
structure File where
  content : List UInt8
  seals : Option Nat

/-- The descriptors of a process. -/
structure FileTable where
  files : Nat → Option File
  next : Nat
  free : ∀ fd, next ≤ fd → files fd = none

namespace FileTable

/-- Open a file under the next descriptor. -/
def create (table : FileTable) (file : File) : FileTable where
  files := Function.update table.files table.next (some file)
  next := table.next + 1
  free := by
    intro fd beyond
    rw [Function.update_of_ne (by omega)]
    exact table.free fd (by omega)

/-- Close a descriptor. -/
def close (table : FileTable) (fd : Nat) : FileTable where
  files := Function.update table.files fd none
  next := table.next
  free := by
    intro other beyond
    by_cases same : other = fd
    · simp [same]
    · rw [Function.update_of_ne same]
      exact table.free other beyond

/-- A file that was opened and closed leaves the descriptors as they were. -/
theorem files_close_create (table : FileTable) (file : File) :
    ((table.create file).close table.next).files = table.files := by
  simp only [create, close, Function.update_idem]
  exact Function.update_eq_self_iff.mpr (table.free table.next le_rfl).symm

end FileTable

/-- The kernel's answers to the creator. -/
structure CreatorCalls where
  create : Option Errno := none
  write : Nat → Answer Errno
  addSeals : Option Errno := none

/-- Create a sealed memfd with these bytes: its descriptor, or the error. -/
def makeSealedMemfd (fuel : Nat) (calls : CreatorCalls) (table : FileTable) (bytes : List UInt8) :
    Option (Except Errno Nat × FileTable) :=
  match calls.create with
  | some errno => some (.error errno, table)
  | none =>
    (transfer kEintr calls.write bytes bytes.length fuel 0 []).map (fun ended =>
      match ended.result with
      | .error (.error errno) =>
        (.error errno, (table.create ⟨[], some 0⟩).close table.next)
      | .error .stalled => (.error kEio, (table.create ⟨[], some 0⟩).close table.next)
      | .ok content =>
        match calls.addSeals with
        | some errno => (.error errno, (table.create ⟨content, some 0⟩).close table.next)
        | none => (.ok table.next, table.create ⟨content, some kCreatorSeals⟩))

/-- The kernel's and the allocator's answers to the reader. -/
structure ReaderCalls where
  stat : Option Errno := none
  bufferFails : Bool := false
  pread : Nat → Answer Errno
  secretFails : Bool := false

/-- What the reader returns, how often it called `pread`, and the descriptors it
leaves. -/
structure ReadOutcome where
  result : Except String (List UInt8)
  preads : Nat
  table : FileTable

section Reader

variable (maxSecretBytes : Nat) (strerror : Errno → String) (fuel : Nat) (calls : ReaderCalls)

/-- Read a file that passed the checks. The descriptor is closed on return. -/
def readBytes (content : List UInt8) (closed : FileTable) : Option ReadOutcome :=
  if calls.bufferFails then some ⟨.error "allocation failed for secret buffer", 0, closed⟩
  else
    (transfer kEintr calls.pread content content.length fuel 0 []).map (fun ended =>
      match ended.result with
      | .error .stalled => ⟨.error "short read from secret memfd", ended.calls, closed⟩
      | .error (.error errno) => ⟨.error (strerror errno), ended.calls, closed⟩
      | .ok buffer =>
        if calls.secretFails then
          ⟨.error "Secure::String construction failed", ended.calls, closed⟩
        else ⟨.ok buffer, ended.calls, closed⟩)

/-- Read a memfd that carries the required seals. -/
def readSealed (content : List UInt8) (closed : FileTable) : Option ReadOutcome :=
  match calls.stat with
  | some errno => some ⟨.error (strerror errno), 0, closed⟩
  | none =>
    if (content.length : Int) < 0 then some ⟨.error "memfd reports negative size", 0, closed⟩
    else if maxSecretBytes < content.length then
      some ⟨.error "memfd payload exceeds maximum allowed size", 0, closed⟩
    else if content.length = 0 then some ⟨.ok [], 0, closed⟩
    else readBytes strerror fuel calls content closed

/-- Read a secret from a descriptor, which is closed. An invalid one is none. -/
def readSecret (table : FileTable) : Option Nat → Option ReadOutcome
  | none => some ⟨.error "invalid file descriptor", 0, table⟩
  | some fd =>
    match table.files fd with
    | some ⟨content, some seals⟩ =>
      if seals &&& kRequiredSeals ≠ kRequiredSeals then
        some ⟨.error "secret fd is not a sealed memfd", 0, table.close fd⟩
      else readSealed maxSecretBytes strerror fuel calls content (table.close fd)
    | _ => some ⟨.error "secret fd is not a sealed memfd", 0, table.close fd⟩

end Reader

/-! ## The creator -/

/-- Without a failing call the creator makes a sealed memfd with exactly the bytes. -/
theorem make_sealed_memfd_smooth (writes : Nat → Answer Errno) (smooth : Smooth kEintr writes)
    (table : FileTable) (bytes : List UInt8) :
    ∃ bound, ∀ fuel, bound ≤ fuel →
      makeSealedMemfd fuel { write := writes } table bytes =
        some (.ok table.next, table.create ⟨bytes, some kCreatorSeals⟩) := by
  obtain ⟨bound, calls, written⟩ := transfer_smooth smooth (le_refl bytes.length)
  refine ⟨bound, fun fuel enough => ?_⟩
  simp only [makeSealedMemfd, written fuel enough, Option.map_some, List.take_length]

/-- A creator that fails leaves the descriptors as they were. -/
theorem make_sealed_memfd_error (fuel : Nat) (calls : CreatorCalls) (table after : FileTable)
    (bytes : List UInt8) (errno : Errno)
    (failed : makeSealedMemfd fuel calls table bytes = some (.error errno, after)) :
    after.files = table.files := by
  unfold makeSealedMemfd at failed
  split at failed
  · cases failed
    rfl
  · obtain ⟨ended, -, result⟩ := Option.map_eq_some_iff.mp failed
    split at result
    · cases result
      exact table.files_close_create _
    · cases result
      exact table.files_close_create _
    · split at result
      · cases result
        exact table.files_close_create _
      · cases result

/-- The creator returns when finitely many writes are interrupted. -/
theorem make_sealed_memfd_returns (calls : CreatorCalls) (last : Nat)
    (finite : FinitelyInterrupted kEintr calls.write last) (table : FileTable) (bytes : List UInt8)
    (fuel : Nat) (enough : last + bytes.length < fuel) :
    (makeSealedMemfd fuel calls table bytes).isSome = true := by
  unfold makeSealedMemfd
  split
  · rfl
  · have ends : ∃ ended, transfer kEintr calls.write bytes bytes.length fuel 0 [] = some ended :=
      transfer_ends last finite fuel 0 [] (by simpa using enough)
    obtain ⟨ended, returned⟩ := ends
    rw [returned]
    rfl

/-! ## The reader -/

/-- A seal mask that lacks one of the required seals does not pass the check. -/
theorem required_seals_needed (seals : Nat)
    (lacking : seals &&& kSealShrink = 0 ∨ seals &&& kSealGrow = 0 ∨ seals &&& kSealWrite = 0) :
    seals &&& kRequiredSeals ≠ kRequiredSeals := by
  intro all
  have carried : ∀ bit, kRequiredSeals.testBit bit = true → seals.testBit bit = true := by
    intro bit required
    have both := congrArg (Nat.testBit · bit) all
    simp only [Nat.testBit_and, required, Bool.and_true] at both
    exact both
  have kept : ∀ bit mask, kRequiredSeals.testBit bit = true → mask.testBit bit = true →
      seals &&& mask ≠ 0 := by
    intro bit mask required single none
    have both := congrArg (Nat.testBit · bit) none
    simp [Nat.testBit_and, carried bit required, single] at both
  rcases lacking with shrink | grow | write
  · exact kept 1 kSealShrink (by decide) (by decide) shrink
  · exact kept 2 kSealGrow (by decide) (by decide) grow
  · exact kept 3 kSealWrite (by decide) (by decide) write

section Reader

variable (maxSecretBytes : Nat) (strerror : Errno → String) (fuel : Nat) (calls : ReaderCalls)

/-- An outcome leaves these descriptors, and a secret in it is the whole content. -/
def ReadOutcome.Whole (outcome : ReadOutcome) (closed : FileTable) (content : List UInt8) : Prop :=
  outcome.table = closed ∧ ∀ secret, outcome.result = .ok secret → secret = content

/-- An error carries no secret. -/
theorem whole_error (message : String) (preads : Nat) (closed : FileTable) (content : List UInt8) :
    ReadOutcome.Whole ⟨.error message, preads, closed⟩ closed content := by
  constructor
  · rfl
  · rintro secret ⟨⟩

/-- The whole content is a whole secret. -/
theorem whole_ok (preads : Nat) (closed : FileTable) (content : List UInt8) :
    ReadOutcome.Whole ⟨.ok content, preads, closed⟩ closed content := by
  constructor
  · rfl
  · rintro secret ⟨⟩
    rfl

/-- What the loop of the reader returns is the whole file. -/
theorem read_bytes_whole (content : List UInt8) (closed : FileTable) (outcome : ReadOutcome)
    (returned : readBytes strerror fuel calls content closed = some outcome) :
    outcome.Whole closed content := by
  unfold readBytes at returned
  by_cases unallocated : calls.bufferFails = true
  · rw [if_pos unallocated] at returned
    cases returned
    exact whole_error _ _ closed content
  · rw [if_neg unallocated] at returned
    obtain ⟨⟨result, count⟩, ended, shaped⟩ := Option.map_eq_some_iff.mp returned
    cases result with
    | error failure =>
      cases failure with
      | error errno =>
        cases shaped
        exact whole_error _ _ closed content
      | stalled =>
        cases shaped
        exact whole_error _ _ closed content
    | ok buffer =>
      obtain ⟨whole, -⟩ := transfer_exact fuel 0 [] buffer count (by simp) (by simp) ended
      rw [List.take_length] at whole
      subst whole
      simp only at shaped
      split_ifs at shaped
      · cases shaped
        exact whole_error _ _ closed _
      · cases shaped
        exact whole_ok _ closed _

/-- What the reader returns of a sealed memfd is the whole file. -/
theorem read_sealed_whole (content : List UInt8) (closed : FileTable) (outcome : ReadOutcome)
    (returned : readSealed maxSecretBytes strerror fuel calls content closed = some outcome) :
    outcome.Whole closed content := by
  unfold readSealed at returned
  split at returned
  · cases returned
    exact whole_error _ _ closed content
  · split_ifs at returned with negative large empty
    · cases returned
      exact whole_error _ _ closed content
    · cases returned
      exact whole_error _ _ closed content
    · cases returned
      rw [List.length_eq_zero_iff.mp empty]
      exact whole_ok 0 closed []
    · exact read_bytes_whole strerror fuel calls content closed outcome returned

/-- A descriptor is refused at once, or it is a memfd with the required seals. -/
theorem read_secret_cases (table : FileTable) (fd : Nat) :
    readSecret maxSecretBytes strerror fuel calls table (some fd) =
        some ⟨.error "secret fd is not a sealed memfd", 0, table.close fd⟩ ∨
      ∃ file, table.files fd = some file ∧
        readSecret maxSecretBytes strerror fuel calls table (some fd) =
          readSealed maxSecretBytes strerror fuel calls file.content (table.close fd) := by
  simp only [readSecret]
  split
  · next content seals found =>
    split_ifs
    · exact Or.inl rfl
    · exact Or.inr ⟨_, found, rfl⟩
  · exact Or.inl rfl

/-- The reader closes its descriptor, and what it returns is the whole file. -/
theorem read_secret_whole (table : FileTable) (fd : Nat) (outcome : ReadOutcome)
    (returned : readSecret maxSecretBytes strerror fuel calls table (some fd) = some outcome) :
    outcome.table = table.close fd ∧
      ∀ secret, outcome.result = .ok secret →
        ∃ file, table.files fd = some file ∧ secret = file.content := by
  rcases read_secret_cases maxSecretBytes strerror fuel calls table fd with
    refused | ⟨file, opened, same⟩
  · rw [refused] at returned
    cases returned
    exact ⟨rfl, fun secret failed => by cases failed⟩
  · rw [same] at returned
    obtain ⟨closed, whole⟩ := read_sealed_whole maxSecretBytes strerror fuel calls file.content
      (table.close fd) outcome returned
    exact ⟨closed, fun secret filled => ⟨file, opened, whole secret filled⟩⟩

/-- A file without the seals is refused before it is read. -/
theorem read_secret_unsealed (table : FileTable) (fd : Nat) (file : File)
    (opened : table.files fd = some file)
    (lacking : ∀ seals, file.seals = some seals →
      seals &&& kSealShrink = 0 ∨ seals &&& kSealGrow = 0 ∨ seals &&& kSealWrite = 0) :
    readSecret maxSecretBytes strerror fuel calls table (some fd) =
      some ⟨.error "secret fd is not a sealed memfd", 0, table.close fd⟩ := by
  obtain ⟨content, seals⟩ := file
  cases seals with
  | none => simp only [readSecret, opened]
  | some seals =>
    simp only [readSecret, opened, required_seals_needed seals (lacking seals rfl), ne_eq,
      not_false_eq_true, if_true]

/-- A file above the cap is refused before it is read. -/
theorem read_secret_large (table : FileTable) (fd : Nat) (file : File)
    (opened : table.files fd = some file) (large : maxSecretBytes < file.content.length) :
    ∃ message, readSecret maxSecretBytes strerror fuel calls table (some fd) =
      some ⟨.error message, 0, table.close fd⟩ := by
  rcases read_secret_cases maxSecretBytes strerror fuel calls table fd with
    refused | ⟨other, found, same⟩
  · exact ⟨_, refused⟩
  · cases opened.symm.trans found
    rw [same]
    unfold readSealed
    split
    · exact ⟨_, rfl⟩
    · rw [if_neg (by omega), if_pos large]
      exact ⟨_, rfl⟩

end Reader

/-- The loop of the reader ends when finitely many reads are interrupted. -/
theorem read_bytes_returns (strerror : Errno → String) (calls : ReaderCalls) (last : Nat)
    (finite : FinitelyInterrupted kEintr calls.pread last) (content : List UInt8)
    (closed : FileTable) (fuel : Nat) (enough : last + content.length < fuel) :
    (readBytes strerror fuel calls content closed).isSome = true := by
  unfold readBytes
  by_cases unallocated : calls.bufferFails = true
  · rw [if_pos unallocated]
    rfl
  · rw [if_neg unallocated]
    have ends : ∃ ended, transfer kEintr calls.pread content content.length fuel 0 [] = some ended :=
      transfer_ends last finite fuel 0 [] (by simpa using enough)
    obtain ⟨ended, returned⟩ := ends
    rw [returned]
    rfl

/-- The reader returns when finitely many reads are interrupted. -/
theorem read_secret_returns (maxSecretBytes : Nat) (strerror : Errno → String) (calls : ReaderCalls)
    (last : Nat) (finite : FinitelyInterrupted kEintr calls.pread last) (table : FileTable)
    (fd : Option Nat) (fuel : Nat) (enough : last + maxSecretBytes < fuel) :
    (readSecret maxSecretBytes strerror fuel calls table fd).isSome = true := by
  cases fd with
  | none => rfl
  | some fd =>
    rcases read_secret_cases maxSecretBytes strerror fuel calls table fd with
      refused | ⟨file, -, same⟩
    · rw [refused]
      rfl
    · rw [same]
      unfold readSealed
      split
      · rfl
      · split_ifs with negative large empty
        · rfl
        · rfl
        · rfl
        · exact read_bytes_returns strerror calls last finite _ _ fuel (by omega)

/-- Without a failing call the reader returns exactly the bytes of a sealed memfd. -/
theorem read_secret_smooth (maxSecretBytes : Nat) (strerror : Errno → String)
    (preads : Nat → Answer Errno) (smooth : Smooth kEintr preads) (table : FileTable) (fd : Nat)
    (content : List UInt8) (opened : table.files fd = some ⟨content, some kCreatorSeals⟩)
    (fits : content.length ≤ maxSecretBytes) :
    ∃ bound count, ∀ fuel, bound ≤ fuel →
      readSecret maxSecretBytes strerror fuel { pread := preads } table (some fd) =
        some ⟨.ok content, count, table.close fd⟩ := by
  have carried : kCreatorSeals &&& kRequiredSeals = kRequiredSeals := by decide
  have checked : ∀ fuel, readSecret maxSecretBytes strerror fuel { pread := preads } table (some fd) =
      if content.length = 0 then some ⟨.ok [], 0, table.close fd⟩
      else readBytes strerror fuel { pread := preads } content (table.close fd) := by
    intro fuel
    simp only [readSecret, opened, carried, ne_eq, not_true_eq_false, if_false, readSealed]
    rw [if_neg (by omega), if_neg (by omega)]
  by_cases empty : content.length = 0
  · refine ⟨0, 0, fun fuel _ => ?_⟩
    rw [checked, if_pos empty, List.length_eq_zero_iff.mp empty]
  · obtain ⟨bound, count, moved⟩ := transfer_smooth smooth (le_refl content.length)
    refine ⟨bound, count, fun fuel enough => ?_⟩
    rw [checked, if_neg empty]
    simp [readBytes, moved fuel enough]

/-- The bytes of a text. -/
def utf8Bytes (text : String) : List UInt8 := text.toByteArray.data.toList

/-- As many bytes as the text measures. -/
theorem length_utf8_bytes (text : String) : (utf8Bytes text).length = text.utf8ByteSize := rfl

/-- The client's reading of a sealed reply is what the reader returns for some failing
calls. -/
theorem read_secret_refines (maxSecretBytes : Nat) (strerror : Errno → String) (fuel : Nat)
    (calls : ReaderCalls) (table : FileTable) (fd : Nat) (reply : Prompter.SealedMemfd)
    (opened : table.files fd = some ⟨utf8Bytes reply.content, some kCreatorSeals⟩)
    (outcome : ReadOutcome)
    (returned : readSecret maxSecretBytes strerror fuel calls table (some fd) = some outcome) :
    ∃ faults, outcome.result =
      (readSecretMemfd maxSecretBytes faults (.memfd reply)).map utf8Bytes := by
  have carried : kCreatorSeals &&& kRequiredSeals = kRequiredSeals := by decide
  simp only [readSecret, opened, carried, ne_eq, not_true_eq_false, if_false, readSealed] at returned
  cases failed : calls.stat with
  | some errno =>
    rw [failed] at returned
    cases returned
    exact ⟨{ stat := some (strerror errno) }, rfl⟩
  | none =>
    rw [failed] at returned
    dsimp only at returned
    rw [if_neg (by omega), length_utf8_bytes] at returned
    split_ifs at returned with large empty
    · cases returned
      exact ⟨{}, by simp [readSecretMemfd, large, Except.map]⟩
    · cases returned
      have blank : reply.content = "" := String.utf8ByteSize_eq_zero_iff.mp empty
      exact ⟨{}, by simp [readSecretMemfd, blank, Except.map, utf8Bytes]⟩
    · have filled : reply.content ≠ "" := fun blank => empty (String.utf8ByteSize_eq_zero_iff.mpr blank)
      obtain ⟨-, whole⟩ := read_bytes_whole strerror fuel calls _ _ outcome returned
      cases result : outcome.result with
      | error message =>
        exact ⟨{ read := some message }, by simp [readSecretMemfd, large, filled, Except.map]⟩
      | ok secret =>
        exact ⟨{}, by simp [readSecretMemfd, large, filled, Except.map, whole secret result]⟩

/-- The transfer of a secret, for every kernel. When no call of either side fails for
good and finitely many are interrupted, the reader gets exactly the bytes that the
creator wrote. A file above the cap or without one of the required seals is refused
before it is read. A creator that fails leaves no descriptor, the reader leaves none
in any case, and whatever it returns as a secret is the whole file. Both return when
finitely many calls are interrupted. -/
theorem secret_transfer (maxSecretBytes : Nat) (strerror : Errno → String) :
    (∀ (bytes : List UInt8) (writes preads : Nat → Answer Errno) (prompter : FileTable),
      bytes.length ≤ maxSecretBytes → Smooth kEintr writes → Smooth kEintr preads →
      ∃ bound fd made file,
        (∀ fuel, bound ≤ fuel →
          makeSealedMemfd fuel { write := writes } prompter bytes = some (.ok fd, made)) ∧
        made.files fd = some file ∧
        ∀ (agent : FileTable) (received : Nat), agent.files received = some file →
          ∃ bound count, ∀ fuel, bound ≤ fuel →
            readSecret maxSecretBytes strerror fuel { pread := preads } agent (some received) =
              some ⟨.ok bytes, count, agent.close received⟩) ∧
    (∀ (fuel : Nat) (calls : ReaderCalls) (table : FileTable) (fd : Nat) (file : File),
      table.files fd = some file →
      (maxSecretBytes < file.content.length ∨ ∀ seals, file.seals = some seals →
        seals &&& kSealShrink = 0 ∨ seals &&& kSealGrow = 0 ∨ seals &&& kSealWrite = 0) →
      ∃ message, readSecret maxSecretBytes strerror fuel calls table (some fd) =
        some ⟨.error message, 0, table.close fd⟩) ∧
    (∀ (fuel : Nat) (calls : CreatorCalls) (table after : FileTable) (bytes : List UInt8)
      (errno : Errno), makeSealedMemfd fuel calls table bytes = some (.error errno, after) →
      after.files = table.files) ∧
    (∀ (fuel : Nat) (calls : ReaderCalls) (table : FileTable) (fd : Nat) (outcome : ReadOutcome),
      readSecret maxSecretBytes strerror fuel calls table (some fd) = some outcome →
      outcome.table.files = Function.update table.files fd none ∧
      ∀ secret, outcome.result = .ok secret →
        ∃ file, table.files fd = some file ∧ secret = file.content) ∧
    (∀ (creator : CreatorCalls) (reader : ReaderCalls) (last : Nat),
      FinitelyInterrupted kEintr creator.write last → FinitelyInterrupted kEintr reader.pread last →
      ∀ (table : FileTable) (bytes : List UInt8) (fd : Option Nat) (fuel : Nat),
        last + bytes.length < fuel → last + maxSecretBytes < fuel →
        (makeSealedMemfd fuel creator table bytes).isSome = true ∧
        (readSecret maxSecretBytes strerror fuel reader table fd).isSome = true) := by
  refine ⟨?_, ?_, make_sealed_memfd_error, ?_, ?_⟩
  · intro bytes writes preads prompter fits written read
    obtain ⟨bound, made⟩ := make_sealed_memfd_smooth writes written prompter bytes
    refine ⟨bound, prompter.next, _, ⟨bytes, some kCreatorSeals⟩, made, ?_, ?_⟩
    · simp [FileTable.create]
    · intro agent received opened
      exact read_secret_smooth maxSecretBytes strerror preads read agent received bytes opened fits
  · intro fuel calls table fd file opened unfit
    rcases unfit with large | lacking
    · exact read_secret_large maxSecretBytes strerror fuel calls table fd file opened large
    · exact ⟨_, read_secret_unsealed maxSecretBytes strerror fuel calls table fd file opened lacking⟩
  · intro fuel calls table fd outcome returned
    obtain ⟨closed, whole⟩ :=
      read_secret_whole maxSecretBytes strerror fuel calls table fd outcome returned
    exact ⟨by rw [closed]; rfl, whole⟩
  · intro creator reader last written read table bytes fd fuel enough capped
    exact ⟨make_sealed_memfd_returns creator last written table bytes fuel enough,
      read_secret_returns maxSecretBytes strerror reader last read table fd fuel capped⟩

/-- A kernel that interrupts the first call and then moves one byte at a time. -/
def haltingKernel (call : Nat) : Answer Errno := if call = 0 then .failed kEintr else .moved 1

/-- No call of that kernel fails for good. -/
theorem halting_kernel_smooth : Smooth kEintr haltingKernel where
  retried := by
    intro call error failed
    unfold haltingKernel at failed
    split_ifs at failed
    exact (Answer.failed.inj failed).symm
  progress := by
    intro call count answered
    unfold haltingKernel at answered
    split_ifs at answered
    rw [← Answer.moved.inj answered]
    exact Nat.one_pos
  finite := by
    refine ⟨1, fun call late => ?_⟩
    rw [haltingKernel, if_neg (by omega)]
    rintro ⟨⟩

/-- A process without open descriptors. -/
def noFiles : FileTable := { files := fun _ => none, next := 0, free := fun _ _ => rfl }

/-- A PIN of four digits passes through it. -/
theorem pin_transferred :
    ∃ bound fd made file,
      (∀ fuel, bound ≤ fuel →
        makeSealedMemfd fuel { write := haltingKernel } noFiles [49, 50, 51, 52] =
          some (.ok fd, made)) ∧
      made.files fd = some file ∧
      ∃ bound count, ∀ fuel, bound ≤ fuel →
        readSecret 8192 (fun _ => "") fuel { pread := haltingKernel } (noFiles.create file) (some 0) =
          some ⟨.ok [49, 50, 51, 52], count, (noFiles.create file).close 0⟩ := by
  obtain ⟨bound, fd, made, file, creates, opened, reads⟩ :=
    (secret_transfer 8192 (fun _ => "")).1 [49, 50, 51, 52] haltingKernel haltingKernel noFiles
      (by decide) halting_kernel_smooth halting_kernel_smooth
  exact ⟨bound, fd, made, file, creates, opened, reads (noFiles.create file) 0 rfl⟩

end LibreLinux.Agent
